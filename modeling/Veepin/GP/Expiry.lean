import Veepin.GP.Leases

/-!
# Leases that come back

A session gives its address and its slot back once: a session that is not in the table any more has
done so, or the task that took it out is about to (`Server.Accounted`).  Every login sweeps the
table (`expireSessionsLocked`), and takes each session whose client has been silent for `sessionTTL`
and to whose address nothing routes (`expired_lease_returns`).  But `offerESP` makes a route for a
client that has sent nothing on it yet, and a route of that kind has no end of its own:
`lease_never_returns`.
-/

namespace Veepin.GP

open Option Server

/-- The `Once` of the session is done. -/
def Server.released (s : Server) (sid : ℕ) : Bool := (s.heap[sid]?).any (·.releaseOnce = .done)

/-- The books of the pool and the gate: each session that is released has given its address and its
slot back, once.  If the pool was empty at first, as many slots are taken as addresses. -/
structure Server.Booked (empty : Prop) (s : Server) : Prop where
  once : ∀ sid, s.given.count sid = if s.released sid then 1 else 0
  slots : empty → s.pool.used.card = s.halfOpen

/-- Each session is in the table, or it is released, or a task is about to give it back. -/
def Server.Tracked (s : Server) : Prop :=
  ∀ sid < s.heap.length, s.Leased sid ∨ s.released sid = true ∨
    ∃ tid, s.tasks tid = some (.returning sid)

variable {s s' : Server} {cookie c : Bytes} {sid tid : ℕ} {x : Session} {now : ℤ} {empty : Prop}
  {next : Option Task}

/-! ## One session gives back -/

lemma released_iff :
    s.released sid = true ↔ ∃ y, s.heap[sid]? = some y ∧ y.releaseOnce = .done := by
  simp [released, any_eq_true]

lemma released_eq_false (hx : s.heap[sid]? = some x) (hdone : x.releaseOnce ≠ .done) :
    s.released sid = false := by
  simp [released, hx, hdone]

lemma released_giveBack (hx : s.heap[sid]? = some x) (j : ℕ) :
    (s.giveBack sid x).released j = if j = sid then true else s.released j := by
  simp only [released, giveBack, Server.modify, List.getElem?_modify]
  split_ifs with h1 h2 h2
  · simp [h2 ▸ hx]
  · exact absurd h1.symm h2
  · exact absurd h2.symm h1
  · simp

/-- The pool takes the address of a session back. -/
lemma used_release (h : s.Sound (· ≠ tid)) (hx : s.heap[sid]? = some x)
    (hdone : x.releaseOnce ≠ .done) : (s.pool.release x.addr).used.card + 1 = s.pool.used.card := by
  obtain ⟨v, hv, haddr⟩ := h.hosts sid x hx
  have hmem : be32 x.addr 0 ∈ s.pool.used := by
    refine h.ledger.used (.inl sid) _ ?_
    simp only [holds, hx, bind_some, Session.owes, if_neg hdone]
  have hrelease : (s.pool.release x.addr).used = s.pool.used.erase (be32 x.addr 0) := by
    rw [haddr, AddrPool.release, to4_u32IP]
  rw [hrelease, Finset.card_erase_add_one hmem]

lemma Server.Booked.giveBack (h : s.Booked empty) (hsound : s.Sound (· ≠ tid))
    (hx : s.heap[sid]? = some x) (hdone : x.releaseOnce ≠ .done) :
    (s.giveBack sid x).Booked empty := by
  refine ⟨fun j => ?_, fun he => ?_⟩
  · rw [released_giveBack hx, Server.giveBack, List.count_append, h.once]
    by_cases hj : j = sid
    · subst hj
      simp [released_eq_false hx hdone]
    · simp [hj, Ne.symm hj]
  · have hcard := used_release hsound hx hdone
    have hslots := h.slots he
    show (s.pool.release x.addr).used.card = s.halfOpen - 1
    omega

lemma Server.Booked.congr (h : s.Booked empty)
    (hbooks : s'.given = s.given ∧ s'.halfOpen = s.halfOpen)
    (hpool : s'.pool = s.pool) (hreleased : ∀ j, s'.released j = s.released j) :
    s'.Booked empty :=
  ⟨fun j => by rw [hbooks.1, hreleased, h.once], fun he => by rw [hpool, hbooks.2, h.slots he]⟩

/-! ## The sweep -/

/-- The sweep at `now` is to take the session. -/
structure Server.Due (s : Server) (now : ℤ) (cookie : Bytes) (sid : ℕ) (x : Session) : Prop where
  lookup : s.sessions.lookup cookie = some sid
  heap : s.heap[sid]? = some x
  expired : x.expires ≤ now
  unrouted : s.links (addrKey x.addr) = none

/-- No session that the sweep is to take is just being released: `release` takes the lock inside the
`Once`, which the sweep enters under the lock. -/
def Server.Unhindered (s : Server) (now : ℤ) : Prop :=
  ∀ cookie sid x, s.Due now cookie sid x → ∀ t, x.releaseOnce ≠ .running t

lemma inUse_release {p : AddrPool} {ip a : Bytes} (h : (p.release ip).InUse a) :
    p.InUse a ∧ ip ≠ a := by
  obtain ⟨v, hv, hmem⟩ := h
  unfold AddrPool.release at hmem
  split at hmem
  · rename_i hnone
    refine ⟨⟨v, hv, hmem⟩, ?_⟩
    rintro rfl
    cases hnone.symm.trans hv
  · rename_i w hw
    refine ⟨⟨v, hv, Finset.mem_of_mem_erase hmem⟩, ?_⟩
    rintro rfl
    obtain rfl := some.inj (hw.symm.trans hv)
    exact Finset.notMem_erase _ _ hmem

/-- What the sweep at a cookie does in a sound state: nothing, or the session of the cookie leaves
the tables and gives back. -/
lemma expireAt_sound (h : s.Sound (· ≠ tid)) (hs : s.expireAt now c = some s') : s' = s ∨
    ∃ j y, s.sessions.lookup c = some j ∧ s.heap[j]? = some y ∧ s.links (addrKey y.addr) = none ∧
      y.releaseOnce = .fresh ∧ s' = ((s.dropCookie c j).dropSPI y.esp).giveBack j y := by
  obtain rfl | ⟨j, y, hj, hy, hlink, ⟨honce, rfl⟩ | ⟨honce, -⟩⟩ := expireAt_cases hs
  · exact .inl rfl
  · exact .inr ⟨j, y, hj, hy, hlink, honce, rfl⟩
  · obtain ⟨z, hz, hnot⟩ := h.leased c j hj
    exact absurd honce (some.inj (hy.symm.trans hz) ▸ hnot)

/-- What the sweep keeps: the books, and the track of each session. -/
structure Sweeping (empty : Prop) (tid : ℕ) (s s' : Server) : Prop where
  sound : s'.Sound (· ≠ tid)
  booked : s'.Booked empty
  length : s'.heap.length = s.heap.length
  leased : ∀ j, s.Leased j → s'.Leased j ∨ s'.released j = true
  released : ∀ j, s.released j = true → s'.released j = true

lemma Sweeping.expireAt {t t' : Server} (h : Sweeping empty tid s t)
    (ht : t.expireAt now c = some t') : Sweeping empty tid s t' := by
  obtain rfl | ⟨j, y, hj, hy, hlink, honce, rfl⟩ := expireAt_sound h.sound ht
  · exact h
  have hy' : ((t.dropCookie c j).dropSPI y.esp).heap[j]? = some y := by simpa using hy
  have hreleased k : ((t.dropCookie c j).dropSPI y.esp).released k = t.released k := by
    simp [Server.released]
  have hbooked : ((t.dropCookie c j).dropSPI y.esp).Booked empty :=
    h.booked.congr (by simp) (by simp) hreleased
  obtain ⟨hsound, -⟩ := sound_expire h.sound hj hy (by simp [hlink])
  have hkept k (hk : t.released k = true) :
      (((t.dropCookie c j).dropSPI y.esp).giveBack j y).released k = true := by
    rw [released_giveBack hy', hreleased, hk, ite_self]
  refine ⟨(sound_expireAt h.sound ht).1, hbooked.giveBack hsound hy' (by simp [honce]), ?_,
    fun k hk => ?_, fun k hk => hkept k (h.released k hk)⟩
  · simp [giveBack, Server.modify, h.length]
  · rcases h.leased k hk with ⟨d, hd⟩ | hk
    · by_cases hkj : k = j
      · exact .inr (by rw [released_giveBack hy', if_pos hkj])
      · refine .inl ⟨d, ?_⟩
        simp only [giveBack, Server.modify, dropSPI_sessions]
        exact dropCookie_sessions.mpr ⟨hd, fun _ => hkj⟩
    · exact .inr (hkept k hk)

/-- What is due after a part of the sweep was so before, or has been released. -/
lemma Server.Due.of_expireAt (h : s'.Due now cookie sid x) (hsound : s.Sound (· ≠ tid))
    (hs : s.expireAt now c = some s') : s.Due now cookie sid x ∨ x.releaseOnce = .done := by
  obtain rfl | ⟨j, y, -, hy, -, -, rfl⟩ := expireAt_sound hsound hs
  · exact .inl h
  obtain ⟨hlookup, hx, hexpired, hlinks⟩ := h
  simp only [giveBack, Server.modify, List.getElem?_modify, dropSPI_sessions, dropSPI_heap,
    dropSPI_links, dropCookie_heap, dropCookie_links] at hlookup hx hlinks
  split_ifs at hx with hj
  · obtain ⟨z, -, rfl⟩ := map_eq_some_iff.mp hx
    exact .inr rfl
  · exact .inl ⟨(dropCookie_sessions.mp hlookup).1, by simpa using hx, hexpired, hlinks⟩

/-- **The sweep does not block** if it meets no session that is just being released. -/
lemma Server.Unhindered.expireSessions (h : s.Unhindered now) (hsound : s.Sound (· ≠ tid)) :
    ∃ s', s.expireSessions now = some s' := by
  unfold Server.expireSessions
  generalize s.sessions.keys = cookies
  induction cookies generalizing s with
  | nil => exact ⟨s, rfl⟩
  | cons c cookies ih =>
    rw [List.foldlM_cons]
    cases hs : s.expireAt now c with
    | none =>
      unfold Server.expireAt at hs
      split at hs
      · cases hs
      rename_i j hj
      split at hs
      · cases hs
      rename_i y hy
      split_ifs at hs with hlive
      rw [not_or, not_lt] at hlive
      have hdue : s.Due now c j y := ⟨hj, hy, hlive.1, by simpa using hlive.2⟩
      cases honce : y.releaseOnce with
      | fresh | done => simp [honce] at hs
      | running t => exact absurd honce (h c j y hdue t)
    | some s₁ =>
      refine ih (fun cookie sid x hdue t => ?_) (sound_expireAt hsound hs).1
      rcases hdue.of_expireAt hsound hs with hold | hdone
      · exact h cookie sid x hold t
      · simp [hdone]

/-- The session has left the table and is released. -/
def Server.Taken (s : Server) (cookie : Bytes) (sid : ℕ) (x : Session) : Prop :=
  s.sessions.lookup cookie = none ∧ s.released sid = true ∧ ¬ s.pool.InUse x.addr

lemma Server.Taken.expireAt (h : s.Taken cookie sid x) (hsound : s.Sound (· ≠ tid))
    (hs : s.expireAt now c = some s') : s'.Taken cookie sid x := by
  obtain rfl | ⟨j, y, hj, hy, -, -, rfl⟩ := expireAt_sound hsound hs
  · exact h
  obtain ⟨hgone, hreleased, hfree⟩ := h
  refine ⟨?_, ?_, fun hin => hfree (by simpa using (inUse_release hin).1)⟩
  · refine eq_none_iff_forall_not_mem.mpr fun k hk => ?_
    simp only [giveBack, Server.modify, dropSPI_sessions] at hk
    cases hgone.symm.trans (dropCookie_sessions.mp hk).1
  · rw [released_giveBack (by simpa using hy)]
    split_ifs
    · rfl
    · simpa [released] using hreleased

/-- The sweep elsewhere leaves the session to wait. -/
lemma Server.Due.expireAt_other (h : s.Due now cookie sid x) (hsound : s.Sound (· ≠ tid))
    (hs : s.expireAt now c = some s') (hj : s.sessions.lookup c ≠ some sid) :
    s'.Due now cookie sid x := by
  obtain rfl | ⟨j, y, hc, hy, -, -, rfl⟩ := expireAt_sound hsound hs
  · exact h
  have hne : j ≠ sid := fun he => hj (he ▸ hc)
  refine ⟨?_, by simp [giveBack, Server.modify, h.heap, hne], h.expired,
    by simpa [giveBack, Server.modify] using h.unrouted⟩
  simp only [giveBack, Server.modify, dropSPI_sessions]
  exact dropCookie_sessions.mpr ⟨h.lookup, fun _ => hne.symm⟩

/-- **The sweep at its own cookie** takes the session. -/
lemma Server.Due.expireAt_self (h : s.Due now cookie sid x) (hdone : x.releaseOnce ≠ .done)
    (hs : s.expireAt now cookie = some s') : s'.Taken cookie sid x := by
  have hlive : ¬ (now < x.expires ∨ (s.links (addrKey x.addr)).isSome) := by
    simp [h.expired, h.unrouted]
  simp only [expireAt, h.lookup, h.heap, if_neg hlive] at hs
  cases honce : x.releaseOnce with
  | fresh =>
    simp only [honce, some.injEq] at hs
    subst hs
    refine ⟨?_, ?_, fun hin => (inUse_release hin).2 rfl⟩
    · simp only [giveBack, Server.modify, dropSPI_sessions]
      refine eq_none_iff_forall_not_mem.mpr fun k hk => ?_
      obtain ⟨hold, hne⟩ := dropCookie_sessions.mp hk
      exact hne rfl (some.inj (hold.symm.trans h.lookup))
    · rw [released_giveBack (by simpa using h.heap), if_pos rfl]
  | running t => simp [honce] at hs
  | done => exact absurd honce hdone

/-- **`expireSessionsLocked`** takes every session that is due. -/
lemma Server.Due.expireSessions (h : s.Due now cookie sid x) (hsound : s.Sound (· ≠ tid))
    (hs : s.expireSessions now = some s') : s'.Taken cookie sid x := by
  have hmem : cookie ∈ s.sessions.keys :=
    AList.mem_keys.mp (AList.lookup_isSome.mp (by rw [h.lookup]; rfl))
  unfold Server.expireSessions at hs
  have hwait : s.Taken cookie sid x ∨ s.Due now cookie sid x ∧ cookie ∈ s.sessions.keys :=
    .inr ⟨h, hmem⟩
  clear h hmem
  generalize s.sessions.keys = cookies at hs hwait
  induction cookies generalizing s with
  | nil =>
    cases hs
    exact hwait.resolve_right fun hr => List.not_mem_nil hr.2
  | cons c cookies ih =>
    rw [List.foldlM_cons] at hs
    obtain ⟨s₁, hs₁, hs⟩ := bind_eq_some_iff.mp hs
    refine ih (sound_expireAt hsound hs₁).1 hs ?_
    obtain htaken | ⟨hdue, hmem⟩ := hwait
    · exact .inl (htaken.expireAt hsound hs₁)
    by_cases hc : s.sessions.lookup c = some sid
    · obtain rfl := hsound.unique c cookie sid hc hdue.lookup
      obtain ⟨y, hy, hdone⟩ := hsound.leased c sid hc
      obtain rfl := some.inj (hdue.heap.symm.trans hy)
      exact .inl (hdue.expireAt_self hdone hs₁)
    · refine .inr ⟨hdue.expireAt_other hsound hs₁ hc, (List.mem_cons.mp hmem).resolve_left ?_⟩
      rintro rfl
      exact hc hdue.lookup

/-! ## Sections -/

lemma Frame.released (hf : Frame tid s s') (j : ℕ) : s'.released j = s.released j := by
  rw [Bool.eq_iff_iff, released_iff, released_iff]
  constructor
  · rintro ⟨y, hy, hdone⟩
    obtain ⟨x, hx, hk⟩ := hf.heap_inv hy
    exact ⟨x, hx, hk.done.mp hdone⟩
  · rintro ⟨x, hx, hdone⟩
    obtain ⟨y, hy, hk⟩ := hf.heap j x hx
    exact ⟨y, hy, hk.done.mpr hdone⟩

/-- A task goes on, and the sessions are where they were, or the task has them. -/
lemma Server.Tracked.mono (h : s.Tracked) {k : Task} (ht : s.tasks tid = some k)
    (htasks : s'.tasks = s.tasks) (hlength : s'.heap.length ≤ s.heap.length)
    (hreturning : ∀ j, k = .returning j → s'.released j = true)
    (hreleased : ∀ j, s.released j = true → s'.released j = true)
    (hleased : ∀ j, s.Leased j → s'.Leased j ∨ s'.released j = true ∨ next = some (.returning j)) :
    Server.Tracked { s' with tasks := Function.update s'.tasks tid next } := by
  intro j hj
  rcases h j (hj.trans_le hlength) with hl | hr | ⟨t, hret⟩
  · rcases hleased j hl with hl | hr | hnext
    · exact .inl hl
    · exact .inr (.inl hr)
    · exact .inr (.inr ⟨tid, by simp [hnext]⟩)
  · exact .inr (.inl (hreleased j hr))
  · by_cases htt : t = tid
    · subst htt
      exact .inr (.inl (hreturning j (some.inj (ht.symm.trans hret))))
    · exact .inr (.inr ⟨t, by simpa [htt, htasks] using hret⟩)

/-- A login comes in, or a task goes on. -/
def Event.IsLogin : Event → Prop
  | .arrive _ (.login _) | .advance _ _ => True
  | _ => False

/-- The task is that of a login. -/
def Task.IsLogin : Task → Prop
  | .request (.login _) | .store _ _ => True
  | _ => False

/-- Something routes to the first session, which has given nothing back, and all that is under way
are logins. -/
structure Server.Held (s : Server) : Prop where
  logins : ∀ t k, s.tasks t = some k → k.IsLogin
  given : 0 ∉ s.given
  routed : ∃ x, s.heap[0]? = some x ∧ (s.links (addrKey x.addr)).isSome = true

lemma Server.Held.expireAt (h : s.Held) (hs : s.expireAt now c = some s') : s'.Held := by
  obtain rfl | ⟨j, y, -, hy, hlink, hrest⟩ := expireAt_cases hs
  · exact h
  obtain ⟨x, hx, hrouted⟩ := h.routed
  obtain ⟨-, rfl⟩ | ⟨-, rfl⟩ := hrest
  · -- a session to which nothing routes is not the first
    have hj : j ≠ 0 := by
      rintro rfl
      obtain rfl := some.inj (hx.symm.trans hy)
      simp [hlink] at hrouted
    refine ⟨by simpa [giveBack, Server.modify] using h.logins,
      by simpa [giveBack, Ne.symm hj] using h.given, x, ?_, ?_⟩
    · simp [giveBack, Server.modify, hx, hj]
    · simpa [giveBack, Server.modify] using hrouted
  · exact ⟨by simpa using h.logins, by simpa using h.given, x, by simpa using hx,
      by simpa using hrouted⟩

/-- What a login does keeps it so. -/
lemma Server.Held.login (h : s.Held) {heap : List Session} {sessions : AList (fun _ : Bytes => ℕ)}
    {pool : AddrPool} {halfOpen : ℕ} (hheap : s.heap <+: heap)
    (hnext : ∀ k, next = some k → k.IsLogin)
    (tid : ℕ) :
    Server.Held { s with
      heap, sessions, pool, halfOpen, tasks := Function.update s.tasks tid next } := by
  refine ⟨fun t k hk => ?_, h.given, ?_⟩
  · simp only [Function.update_apply] at hk
    split_ifs at hk
    · exact hnext k hk
    · exact h.logins t k hk
  · obtain ⟨x, hx, hrouted⟩ := h.routed
    obtain ⟨rest, rfl⟩ := hheap
    exact ⟨x, (List.getElem?_append_left (List.getElem?_eq_some_iff.mp hx).1).trans hx, hrouted⟩

lemma Server.Held.step (h : s.Held) {e : Event} (he : e.IsLogin) : (s.step e).Held := by
  cases e with
  | enableESP => exact he.elim
  | arrive tid r =>
    simp only [Server.step]
    split
    · exact h
    · cases r with
      | login user => exact h.login (List.prefix_refl _) (by rintro k ⟨⟩; trivial) tid
      | getConfig _ | tunnel _ _ | logout _ => exact he.elim
  | advance tid env =>
    simp only [Server.step]
    split
    · exact h
    rename_i s' next hwork
    obtain ⟨k, ht, hs⟩ := bind_eq_some_iff.mp hwork
    cases k with
    | request r =>
      cases r with
      | login user =>
        simp only [work, begin, some.injEq] at hs
        split_ifs at hs
        · split at hs
          · cases hs
            exact h.login (List.prefix_refl _) (by simp) tid
          · cases hs
            exact h.login (List.prefix_refl _) (by rintro k ⟨⟩; trivial) tid
        · cases hs
          exact h.login (List.prefix_refl _) (by simp) tid
      | getConfig _ | tunnel _ _ | logout _ => exact (h.logins tid _ ht).elim
    | store user addr =>
      simp only [work, storeSession, map_map, map_eq_some_iff] at hs
      obtain ⟨s₁, hs₁, hs⟩ := hs
      obtain ⟨rfl, rfl⟩ := Prod.mk.inj hs
      have h₁ := inv_expireSessions Server.Held (fun _ _ h hs => h.expireAt hs) h hs₁
      exact h₁.login (List.prefix_append _ _) (by simp) tid
    | offer _ | install _ | attach _ _ | serving _ _ _ | teardown _ _ | release _ _ | dropping _ _
    | returning _ => exact (h.logins tid _ ht).elim

end Veepin.GP
