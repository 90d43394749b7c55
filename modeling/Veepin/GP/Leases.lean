import Veepin.Core.Ledger
import Veepin.GP.Server

/-!
# Routes follow leases

An entry of the gateway's tables belongs to a session that is in the table of sessions, and the
address of such a session is in use.  Three things carry this:

* `Server.Routed` — the entry is the session's own, by its link or its SPI; each critical section
  changes the entries of one session (`Routed.edit`);
* the ledger — an address is with one login or one session that has not given it back
  (`Server.holds`);
* `Server.TaskOk` — what a request knows of the session it has a pointer to, wherever it stands.

`work_section` says what a section can do, and `Section.inv` is the step.  The section of `offerESP`
that installs the keys does not look whether its session is still there, so the result
`routes_follow_leases` is for the runs in which it is.
-/

namespace Veepin.GP

open List Function Option Prod AList Server

/-- The address is four octets of a number. -/
def IsHost (ip : Bytes) : Prop := ∃ v < 2 ^ 32, ip = u32IP v

/-- The session is in the table of sessions. -/
def Server.Leased (s : Server) (sid : ℕ) : Prop := ∃ cookie, s.sessions.lookup cookie = some sid

/-- Each entry is that of a session in the table. -/
structure Server.Routed (s : Server) : Prop where
  links : ∀ a l, s.links a = some l → ∃ sid x, s.Leased sid ∧ s.heap[sid]? = some x ∧
    addrKey x.addr = a ∧ x.link = some l
  bySPI : ∀ spi p, s.bySPI spi = some p → ∃ sid x, s.Leased sid ∧ s.heap[sid]? = some x ∧
    x.esp = some spi ∧ p.addr = x.addr

/-- The address a session has not given back. -/
def Session.owes (x : Session) : Option ℕ :=
  if x.releaseOnce = .done then none else some (be32 x.addr 0)

/-- The address a login is about to store. -/
def Task.carries : Task → Option ℕ
  | .store _ addr => some (be32 addr 0)
  | _ => none

/-- Who holds which address: sessions and logins. -/
def Server.holds (s : Server) : ℕ ⊕ ℕ → Option ℕ
  | .inl sid => (s.heap[sid]?).bind Session.owes
  | .inr tid => (s.tasks tid).bind Task.carries

/-- The session exists, and is in the table under no other cookie. -/
def Server.Known (s : Server) (sid : ℕ) (cookie : Bytes) : Prop :=
  sid < s.heap.length ∧ ∀ c, s.sessions.lookup c = some sid → c = cookie

/-- The task is inside the `Once` of the session. -/
def Server.Inside (s : Server) (tid sid : ℕ) : Prop :=
  ∃ x, s.heap[sid]? = some x ∧ x.releaseOnce = .running tid

/-- What a task may rely on. -/
def Server.TaskOk (s : Server) (tid : ℕ) : Task → Prop
  | .store _ addr => IsHost addr
  | .attach sid cookie => s.Known sid cookie
  | .serving sid cookie _ => s.Known sid cookie
  | .teardown sid cookie => s.Known sid cookie
  | .release sid cookie => s.Known sid cookie
  | .dropping sid cookie => s.Known sid cookie ∧ s.Inside tid sid
  | .returning sid => s.Inside tid sid ∧ ¬ s.Leased sid
  | _ => True

/-- The invariant; of the tasks, those in `others` have what they rely on. -/
structure Server.Sound (s : Server) (others : ℕ → Prop) : Prop where
  routed : s.Routed
  ledger : Exclusive s.holds s.pool.used
  hosts : ∀ (sid : ℕ) (x : Session), s.heap[sid]? = some x → IsHost x.addr
  leased : ∀ c sid, s.sessions.lookup c = some sid →
    ∃ x, s.heap[sid]? = some x ∧ x.releaseOnce ≠ .done
  unique : ∀ c c' sid, s.sessions.lookup c = some sid → s.sessions.lookup c' = some sid → c = c'
  tasks : ∀ t, others t → ∀ k, s.tasks t = some k → s.TaskOk t k

/-- The invariant. -/
def Server.Inv (s : Server) : Prop := s.Sound fun _ => True

/-! ## Frames -/

section

variable (s : Server) (o : Option UInt32)

@[simp] lemma dropSPI_heap : (s.dropSPI o).heap = s.heap := by
  cases o <;> rfl

@[simp] lemma dropSPI_sessions : (s.dropSPI o).sessions = s.sessions := by
  cases o <;> rfl

@[simp] lemma dropSPI_links : (s.dropSPI o).links = s.links := by
  cases o <;> rfl

@[simp] lemma dropSPI_pool : (s.dropSPI o).pool = s.pool := by
  cases o <;> rfl

@[simp] lemma dropSPI_tasks : (s.dropSPI o).tasks = s.tasks := by
  cases o <;> rfl

@[simp] lemma dropSPI_made : (s.dropSPI o).made = s.made := by
  cases o <;> rfl

@[simp] lemma dropSPI_books :
    (s.dropSPI o).given = s.given ∧ (s.dropSPI o).halfOpen = s.halfOpen := by
  cases o <;> exact ⟨rfl, rfl⟩

end

lemma dropSPI_bySPI {s : Server} {o : Option UInt32} {spi : UInt32} {p : EspPeer}
    (h : (s.dropSPI o).bySPI spi = some p) : s.bySPI spi = some p ∧ o ≠ some spi := by
  cases o with
  | none => exact ⟨h, nofun⟩
  | some spi' =>
    simp only [dropSPI, update_apply] at h
    split_ifs at h with hspi
    exact ⟨h, fun he => hspi (some.inj he).symm⟩

section

variable (s : Server) (c : Bytes) (sid : ℕ)

@[simp] lemma dropCookie_heap : (s.dropCookie c sid).heap = s.heap := by
  unfold dropCookie; split_ifs <;> rfl

@[simp] lemma dropCookie_links : (s.dropCookie c sid).links = s.links := by
  unfold dropCookie; split_ifs <;> rfl

@[simp] lemma dropCookie_bySPI : (s.dropCookie c sid).bySPI = s.bySPI := by
  unfold dropCookie; split_ifs <;> rfl

@[simp] lemma dropCookie_pool : (s.dropCookie c sid).pool = s.pool := by
  unfold dropCookie; split_ifs <;> rfl

@[simp] lemma dropCookie_tasks : (s.dropCookie c sid).tasks = s.tasks := by
  unfold dropCookie; split_ifs <;> rfl

@[simp] lemma dropCookie_books :
    (s.dropCookie c sid).given = s.given ∧ (s.dropCookie c sid).halfOpen = s.halfOpen := by
  unfold dropCookie; split_ifs <;> exact ⟨rfl, rfl⟩

end

variable {cookie : Bytes}

lemma dropCookie_sessions {s : Server} {c : Bytes} {sid j : ℕ} :
    (s.dropCookie cookie sid).sessions.lookup c = some j ↔
      s.sessions.lookup c = some j ∧ (c = cookie → j ≠ sid) := by
  unfold dropCookie
  split_ifs with hmine
  · rw [lookup_erase_eq_ite]
    split_ifs with hc
    · subst hc
      simp only [hmine, some.injEq, forall_const, false_iff, not_and, not_not]
      exact fun h => h.symm
    · exact ⟨fun h => ⟨h, fun h' => absurd h' hc⟩, fun h => h.1⟩
  · refine ⟨fun h => ⟨h, ?_⟩, fun h => h.1⟩
    rintro rfl rfl
    exact hmine h

section

variable (s : Server) (na : Bytes) (o : Option Link)

@[simp] lemma dropLink_heap : (s.dropLink na o).heap = s.heap := by
  unfold dropLink; split_ifs <;> rfl

@[simp] lemma dropLink_sessions : (s.dropLink na o).sessions = s.sessions := by
  unfold dropLink; split_ifs <;> rfl

@[simp] lemma dropLink_bySPI : (s.dropLink na o).bySPI = s.bySPI := by
  unfold dropLink; split_ifs <;> rfl

@[simp] lemma dropLink_pool : (s.dropLink na o).pool = s.pool := by
  unfold dropLink; split_ifs <;> rfl

@[simp] lemma dropLink_tasks : (s.dropLink na o).tasks = s.tasks := by
  unfold dropLink; split_ifs <;> rfl

@[simp] lemma dropLink_books :
    (s.dropLink na o).given = s.given ∧ (s.dropLink na o).halfOpen = s.halfOpen := by
  unfold dropLink; split_ifs <;> exact ⟨rfl, rfl⟩

end

lemma dropLink_links {s : Server} {na a : Bytes} {o : Option Link} {l : Link}
    (h : (s.dropLink na o).links a = some l) : s.links a = some l ∧ (na = a → o ≠ some l) := by
  unfold dropLink at h
  split_ifs at h with hmine
  · simp only [update_apply] at h
    split_ifs at h with ha
    exact ⟨h, fun ha' => absurd ha'.symm ha⟩
  · refine ⟨h, fun ha ho => hmine ?_⟩
    rw [ha, h]
    exact ⟨rfl, ho.symm⟩

/-- What a task may do to a session: its address stays, it is not released, and no other task leaves
the `Once`. -/
structure Kept (tid : ℕ) (x y : Session) : Prop where
  addr : y.addr = x.addr
  done : y.releaseOnce = .done ↔ x.releaseOnce = .done
  running : ∀ t ≠ tid, x.releaseOnce = .running t → y.releaseOnce = .running t

lemma Kept.of_once {tid : ℕ} {x y : Session} (haddr : y.addr = x.addr)
    (honce : y.releaseOnce = x.releaseOnce) : Kept tid x y :=
  ⟨haddr, by rw [honce], fun _ _ h => honce.trans h⟩

/-- What a section may do, the tables of routes apart. -/
structure Frame (tid : ℕ) (s s' : Server) : Prop where
  tasks : s'.tasks = s.tasks
  pool : s'.pool = s.pool
  books : s'.given = s.given ∧ s'.halfOpen = s.halfOpen
  length : s'.heap.length = s.heap.length
  sessions : ∀ c j, s'.sessions.lookup c = some j → s.sessions.lookup c = some j
  heap : ∀ (j : ℕ) (x : Session), s.heap[j]? = some x → ∃ y, s'.heap[j]? = some y ∧ Kept tid x y

variable {s' : Server} {f : Session → Session}

lemma frame_modify {tid sid : ℕ} {s : Server} {x : Session} (hx : s.heap[sid]? = some x)
    (hf : Kept tid x (f x)) (hheap : s'.heap = s.heap.modify sid f) (htasks : s'.tasks = s.tasks)
    (hpool : s'.pool = s.pool) (hbooks : s'.given = s.given ∧ s'.halfOpen = s.halfOpen)
    (hsessions : ∀ c j, s'.sessions.lookup c = some j → s.sessions.lookup c = some j) :
    Frame tid s s' where
  tasks := htasks
  pool := hpool
  books := hbooks
  length := by rw [hheap, length_modify]
  sessions := hsessions
  heap := fun j y hy => by
    rw [hheap, getElem?_modify, hy]
    by_cases hj : sid = j
    · subst hj
      obtain rfl := some.inj (hx.symm.trans hy)
      exact ⟨f x, by simp, hf⟩
    · exact ⟨y, by simp [hj], .of_once rfl rfl⟩

lemma Frame.refl (tid : ℕ) (s : Server) : Frame tid s s :=
  ⟨rfl, rfl, ⟨rfl, rfl⟩, rfl, fun _ _ h => h, fun _ x hx => ⟨x, hx, .of_once rfl rfl⟩⟩

section

variable {tid : ℕ} {s : Server} (h : Frame tid s s')

include h

lemma Frame.heap_inv {j : ℕ} {y : Session}
    (hy : s'.heap[j]? = some y) : ∃ x, s.heap[j]? = some x ∧ Kept tid x y := by
  have hlt : j < s.heap.length := h.length ▸ (List.getElem?_eq_some_iff.mp hy).1
  obtain ⟨y', hy', hk⟩ := h.heap j _ (getElem?_eq_getElem hlt)
  exact ⟨_, getElem?_eq_getElem hlt, some.inj (hy'.symm.trans hy) ▸ hk⟩

lemma Frame.holds : s'.holds = s.holds := by
  funext k
  cases k with
  | inr t => simp only [Server.holds, h.tasks]
  | inl j =>
    simp only [Server.holds]
    cases hx : s.heap[j]? with
    | none =>
      have hnone : s'.heap[j]? = none := by
        rw [getElem?_eq_none_iff, h.length]
        exact getElem?_eq_none_iff.mp hx
      rw [hnone]
    | some x =>
      obtain ⟨y, hy, hk⟩ := h.heap j x hx
      rw [hy]
      simp only [bind_some, Session.owes, hk.addr, hk.done]

lemma Frame.known {sid : ℕ} (hk : s.Known sid cookie) : s'.Known sid cookie :=
  ⟨h.length ▸ hk.1, fun c hc => hk.2 c (h.sessions c sid hc)⟩

end

/-- What a task relies on stays: sessions that are added are new ones, and the task is left inside
the `Once` it is in. -/
lemma Server.TaskOk.mono {s : Server} {t : ℕ} {k : Task} (h : s.TaskOk t k)
    (hlength : s.heap.length ≤ s'.heap.length) (hsessions : ∀ c j, s'.sessions.lookup c = some j →
      s.sessions.lookup c = some j ∨ s.heap.length ≤ j)
    (hinside : ∀ j, s.Inside t j → s'.Inside t j) : s'.TaskOk t k := by
  have hknown : ∀ sid cookie, s.Known sid cookie → s'.Known sid cookie := by
    rintro sid cookie ⟨hlt, hk⟩
    refine ⟨hlt.trans_le hlength, fun c hc => hk c ?_⟩
    exact (hsessions c sid hc).resolve_right hlt.not_ge
  cases k with
  | request r | offer sid | install sid => trivial
  | store user addr => exact h
  | attach sid cookie | serving sid cookie link | teardown sid cookie | release sid cookie =>
    exact hknown sid cookie h
  | dropping sid cookie => exact ⟨hknown sid cookie h.1, hinside sid h.2⟩
  | returning sid =>
    refine ⟨hinside sid h.1, fun ⟨c, hc⟩ => h.2 ⟨c, ?_⟩⟩
    obtain ⟨x, hx, -⟩ := h.1
    exact (hsessions c sid hc).resolve_right (List.getElem?_eq_some_iff.mp hx).1.not_ge

/-- A section that keeps the frame has only its routes to answer for. -/
lemma Server.Sound.frame {tid : ℕ} {s : Server} (h : s.Sound (· ≠ tid)) (hf : Frame tid s s')
    (hrouted : s'.Routed) : s'.Sound (· ≠ tid) where
  routed := hrouted
  ledger := by rw [hf.holds, hf.pool]; exact h.ledger
  hosts := fun j y hy => by
    obtain ⟨x, hx, hk⟩ := hf.heap_inv hy
    exact hk.addr ▸ h.hosts j x hx
  leased := fun c j hc => by
    obtain ⟨x, hx, hnot⟩ := h.leased c j (hf.sessions c j hc)
    obtain ⟨y, hy, hk⟩ := hf.heap j x hx
    exact ⟨y, hy, fun hd => hnot (hk.done.mp hd)⟩
  unique := fun c c' j hc hc' => h.unique c c' j (hf.sessions c j hc) (hf.sessions c' j hc')
  tasks := fun t ht k hk => by
    refine (h.tasks t ht k (hf.tasks ▸ hk)).mono hf.length.ge
      (fun c j hc => .inl (hf.sessions c j hc)) fun j ⟨x, hx, hrun⟩ => ?_
    obtain ⟨y, hy, hkept⟩ := hf.heap j x hx
    exact ⟨y, hy, hkept.running t ht hrun⟩

/-! ## The routes of one session -/

section

variable {s : Server} (h : s.Routed) {sid : ℕ} {x : Session} (hx : s.heap[sid]? = some x)
  (hheap : s'.heap = s.heap.modify sid f) (haddr : (f x).addr = x.addr)

include h hx hheap haddr

/-- A section that changes one session: each entry afterwards is that session's now, or was there
before and has not been taken from it. -/
lemma Server.Routed.edit (hleased : ∀ j ≠ sid, s.Leased j → s'.Leased j)
    (hlinks : ∀ a l, s'.links a = some l →
      (s'.Leased sid ∧ addrKey x.addr = a ∧ (f x).link = some l) ∨
        (s.links a = some l ∧ (s.Leased sid → addrKey x.addr = a → x.link = some l →
          s'.Leased sid ∧ (f x).link = some l))) (hspi : ∀ spi p, s'.bySPI spi = some p →
      (s'.Leased sid ∧ (f x).esp = some spi ∧ p.addr = x.addr) ∨
        (s.bySPI spi = some p ∧ (s.Leased sid → x.esp = some spi →
          s'.Leased sid ∧ (f x).esp = some spi))) : s'.Routed := by
  have hself : s'.heap[sid]? = some (f x) := by rw [hheap, getElem?_modify, hx]; simp
  have hother : ∀ j ≠ sid, s'.heap[j]? = s.heap[j]? := fun j hj => by
    rw [hheap, getElem?_modify]
    simp [hj.symm]
  constructor
  · intro a l hl
    rcases hlinks a l hl with ⟨hin, ha, hlink⟩ | ⟨hold, hmine⟩
    · exact ⟨sid, f x, hin, hself, haddr ▸ ha, hlink⟩
    obtain ⟨j, y, hj, hy, hya, hyl⟩ := h.links a l hold
    by_cases hne : j = sid
    · subst hne
      obtain rfl := some.inj (hx.symm.trans hy)
      obtain ⟨hin, hlink⟩ := hmine hj hya hyl
      exact ⟨j, f x, hin, hself, haddr ▸ hya, hlink⟩
    · exact ⟨j, y, hleased j hne hj, (hother j hne).trans hy, hya, hyl⟩
  · intro spi p hp
    rcases hspi spi p hp with ⟨hin, hesp, hpa⟩ | ⟨hold, hmine⟩
    · exact ⟨sid, f x, hin, hself, hesp, haddr ▸ hpa⟩
    obtain ⟨j, y, hj, hy, hye, hyp⟩ := h.bySPI spi p hold
    by_cases hne : j = sid
    · subst hne
      obtain rfl := some.inj (hx.symm.trans hy)
      obtain ⟨hin, hesp⟩ := hmine hj hye
      exact ⟨j, f x, hin, hself, hesp, haddr ▸ hyp⟩
    · exact ⟨j, y, hleased j hne hj, (hother j hne).trans hy, hye, hyp⟩

/-- The same, where the table of sessions stays as it is. -/
lemma Server.Routed.edit_of_sessions (hsessions : s'.sessions = s.sessions)
    (hlinks : ∀ a l, s'.links a = some l →
      (s.Leased sid ∧ addrKey x.addr = a ∧ (f x).link = some l) ∨
        (s.links a = some l ∧ (addrKey x.addr = a → x.link = some l → (f x).link = some l)))
    (hspi : ∀ spi p, s'.bySPI spi = some p →
      (s.Leased sid ∧ (f x).esp = some spi ∧ p.addr = x.addr) ∨
        (s.bySPI spi = some p ∧ (x.esp = some spi → (f x).esp = some spi))) : s'.Routed := by
  have hsame : ∀ j, s.Leased j → s'.Leased j := fun j ⟨c, hc⟩ => ⟨c, hsessions ▸ hc⟩
  refine h.edit hx hheap haddr (fun j _ => hsame j) (fun a l hl => ?_) (fun spi p hp => ?_)
  · exact (hlinks a l hl).imp (fun hr => ⟨hsame sid hr.1, hr.2⟩)
      fun hr => ⟨hr.1, fun hin ha hl => ⟨hsame sid hin, hr.2 ha hl⟩⟩
  · exact (hspi spi p hp).imp (fun hr => ⟨hsame sid hr.1, hr.2⟩)
      fun hr => ⟨hr.1, fun hin he => ⟨hsame sid hin, hr.2 he⟩⟩

end

/-- Links that go leave the others right. -/
lemma Server.Routed.mono {s : Server} (h : s.Routed) (hheap : s'.heap = s.heap)
    (hsessions : s'.sessions = s.sessions)
    (hlinks : ∀ a l, s'.links a = some l → s.links a = some l) (hspi : s'.bySPI = s.bySPI) :
    s'.Routed := by
  constructor
  · intro a l hl
    obtain ⟨j, y, ⟨c, hc⟩, hy, hrest⟩ := h.links a l (hlinks a l hl)
    exact ⟨j, y, ⟨c, hsessions ▸ hc⟩, hheap ▸ hy, hrest⟩
  · intro spi p hp
    obtain ⟨j, y, ⟨c, hc⟩, hy, hrest⟩ := h.bySPI spi p (hspi ▸ hp)
    exact ⟨j, y, ⟨c, hsessions ▸ hc⟩, hheap ▸ hy, hrest⟩

variable {next : Option Task}

section Sections

variable {s : Server} {tid sid : ℕ} {x : Session} {now : ℤ} {new : Session} {user : Bytes}

section

variable (h : s.Routed) (hx : s.heap[sid]? = some x)

include h hx

/-- **`offerESP`**, for a session that is in the table. -/
lemma routed_installESP (hin : s.Leased sid) (spi : UInt32) : (s.installESP sid x spi).Routed := by
  have hspi : ∀ spi' p, update (s.dropSPI x.esp).bySPI spi
      (some { ptr := s.made, addr := x.addr }) spi' = some p →
      (s.Leased sid ∧ some spi = some spi' ∧ p.addr = x.addr) ∨
        (s.bySPI spi' = some p ∧ (x.esp = some spi' → some spi = some spi')) := by
    intro spi' p hp
    rw [update_apply] at hp
    split_ifs at hp with he
    · exact .inl ⟨hin, congrArg some he.symm, (congrArg EspPeer.addr (some.inj hp)).symm⟩
    · obtain ⟨hold, hne⟩ := dropSPI_bySPI hp
      exact .inr ⟨hold, fun hx => absurd hx hne⟩
  have hheap : ∀ f, (s.dropSPI x.esp).heap.modify sid f = s.heap.modify sid f := fun f => by
    rw [dropSPI_heap]
  unfold installESP
  dsimp only
  split
  · -- the client is on the SSL tunnel, and stays there
    exact h.edit_of_sessions hx (hheap _) rfl (dropSPI_sessions s x.esp)
      (fun a l hl => .inr ⟨dropSPI_links s x.esp ▸ hl, fun _ hxl => hxl⟩) hspi
  · refine h.edit_of_sessions hx (hheap _) rfl (dropSPI_sessions s x.esp) (fun a l hl => ?_) hspi
    simp only [update_apply, dropSPI_links] at hl
    split_ifs at hl with ha
    · exact .inl ⟨hin, ha.symm, hl⟩
    · exact .inr ⟨hl, fun ha' => absurd ha'.symm ha⟩

/-- **`runSSLLink`** begins, for a session that is in the table. -/
lemma routed_attachLink (hin : s.Leased sid) : (s.attachLink sid x).Routed := by
  refine h.edit_of_sessions (f := ({ · with esp := none, link := some (.tunnel s.made) })) hx
    (by simp [attachLink, Server.modify]) rfl (by simp [attachLink, Server.modify])
    (fun a l hl => ?_) (fun spi p hp => .inr ?_)
  · simp only [attachLink, update_apply, dropSPI_links, dropSPI_made] at hl
    split_ifs at hl with ha
    · exact .inl ⟨hin, ha.symm, hl⟩
    · exact .inr ⟨hl, fun ha' => absurd ha'.symm ha⟩
  · obtain ⟨hold, hne⟩ := dropSPI_bySPI hp
    exact ⟨hold, fun hx => absurd hx hne⟩

lemma routed_detachLink (link : Link) : (s.detachLink sid x link).Routed := by
  unfold detachLink
  dsimp only
  split_ifs with howner
  · refine h.edit_of_sessions hx (congrArg (List.modify · _ _) (dropLink_heap ..)) rfl
      (dropLink_sessions ..) (fun a l hl => .inr ?_)
      (fun spi p hp => .inr ⟨dropLink_bySPI s _ _ ▸ hp, fun he => he⟩)
    obtain ⟨hold, hne⟩ := dropLink_links hl
    exact ⟨hold, fun ha hxl => absurd (howner.symm.trans hxl) (hne ha)⟩
  · exact h.mono (dropLink_heap ..) (dropLink_sessions ..) (fun a l hl => (dropLink_links hl).1)
      (dropLink_bySPI ..)

lemma routed_teardown : (s.teardown sid x).Routed := by
  refine h.edit_of_sessions (f := ({ · with esp := none })) hx
    (by simp [teardown, Server.modify]) rfl (by simp [teardown, Server.modify])
    (fun a l hl => .inr ?_) (fun spi p hp => .inr ?_)
  · simp only [teardown, Server.modify, dropSPI_links, update_apply] at hl
    split_ifs at hl with ha
    exact ⟨hl, fun ha' => absurd ha'.symm ha⟩
  · obtain ⟨hold, hne⟩ := dropSPI_bySPI hp
    exact ⟨hold, fun hx => absurd hx hne⟩

/-- **`release`** takes the session out of the tables. -/
lemma routed_dropSession (cookie : Bytes) : (s.dropSession sid x cookie).Routed := by
  refine h.edit (f := ({ · with link := none })) hx (by simp [dropSession, Server.modify]) rfl
    ?_ (fun a l hl => .inr ?_) (fun spi p hp => .inr ?_)
  · rintro j hj ⟨c, hc⟩
    refine ⟨c, ?_⟩
    simp only [dropSession, Server.modify, dropLink_sessions, dropSPI_sessions]
    exact dropCookie_sessions.mpr ⟨hc, fun _ => hj⟩
  · obtain ⟨hold, hne⟩ := dropLink_links hl
    rw [dropSPI_links, dropCookie_links] at hold
    exact ⟨hold, fun _ ha hxl => absurd hxl (hne ha)⟩
  · have hp : ((s.dropCookie cookie sid).dropSPI x.esp).bySPI spi = some p :=
      dropLink_bySPI _ _ _ ▸ hp
    obtain ⟨hold, hne⟩ := dropSPI_bySPI hp
    rw [dropCookie_bySPI] at hold
    exact ⟨hold, fun _ hxe => absurd hxe hne⟩

/-- `expireSessionsLocked` takes a session out of the tables: nothing routes to its address. -/
lemma routed_expire (cookie : Bytes) (hlink : ¬ (s.links (addrKey x.addr)).isSome) :
    ((s.dropCookie cookie sid).dropSPI x.esp).Routed := by
  refine h.edit (f := id) hx (by simp) rfl ?_ (fun a l hl => .inr ?_) (fun spi p hp => .inr ?_)
  · rintro j hj ⟨c, hc⟩
    refine ⟨c, ?_⟩
    rw [dropSPI_sessions]
    exact dropCookie_sessions.mpr ⟨hc, fun _ => hj⟩
  · have hl : s.links a = some l := by simpa using hl
    refine ⟨hl, fun _ ha _ => absurd ?_ hlink⟩
    rw [ha, hl]
    rfl
  · obtain ⟨hold, hne⟩ := dropSPI_bySPI hp
    rw [dropCookie_bySPI] at hold
    exact ⟨hold, fun _ hxe => absurd hxe hne⟩

end

/-! ## Addresses -/

/-- What the sweep does at a cookie: nothing, or the session leaves the tables and is released. -/
lemma expireAt_cases (hs : s.expireAt now cookie = some s') : s' = s ∨
    ∃ sid x, s.sessions.lookup cookie = some sid ∧ s.heap[sid]? = some x ∧
      s.links (addrKey x.addr) = none ∧
      (x.releaseOnce = .fresh ∧ s' = ((s.dropCookie cookie sid).dropSPI x.esp).giveBack sid x ∨
        x.releaseOnce = .done ∧ s' = (s.dropCookie cookie sid).dropSPI x.esp) := by
  unfold expireAt at hs
  split at hs
  · exact .inl (some.inj hs).symm
  rename_i sid hsid
  split at hs
  · exact .inl (some.inj hs).symm
  rename_i x hx
  split_ifs at hs with hlive
  · exact .inl (some.inj hs).symm
  · refine .inr ⟨sid, x, hsid, hx, by simpa using (not_or.mp hlive).2, ?_⟩
    cases honce : x.releaseOnce with
    | fresh => exact .inl ⟨rfl, by simpa [honce] using hs.symm⟩
    | running t => simp [honce] at hs
    | done => exact .inr ⟨rfl, by simpa [honce] using hs.symm⟩

/-- What the sweep keeps at each cookie it keeps. -/
lemma inv_expireSessions (P : Server → Prop)
    (hP : ∀ {s} s' c, P s → s.expireAt now c = some s' → P s') (h : P s)
    (hs : s.expireSessions now = some s') : P s' := by
  unfold expireSessions at hs
  generalize s.sessions.keys = cookies at hs
  induction cookies generalizing s with
  | nil => exact some.inj hs ▸ h
  | cons cookie cookies ih =>
    rw [foldlM_cons] at hs
    obtain ⟨s₁, hs₁, hs⟩ := bind_eq_some_iff.mp hs
    exact ih (hP s₁ cookie h hs₁) hs

section

variable (h : s.Sound (· ≠ tid))

include h

/-- A session outside the table gives its address back. -/
lemma sound_return (hx : s.heap[sid]? = some x) (hout : ¬ s.Leased sid)
    (hdone : x.releaseOnce ≠ .done) (honce : ∀ t ≠ tid, x.releaseOnce ≠ .running t) :
    (s.giveBack sid x).Sound (· ≠ tid) := by
  have hself : (s.heap.modify sid ({ · with releaseOnce := .done }))[sid]? =
      some { x with releaseOnce := .done } := by
    rw [getElem?_modify, hx]
    simp
  have hother : ∀ j ≠ sid, (s.heap.modify sid ({ · with releaseOnce := .done }))[j]? =
      s.heap[j]? := fun j hj => by
    rw [getElem?_modify]
    simp [hj.symm]
  obtain ⟨v, hv, haddr⟩ := h.hosts sid x hx
  refine ⟨?_, ?_, ?_, ?_, h.unique, ?_⟩
  · exact h.routed.edit_of_sessions hx rfl rfl rfl (fun a l hl => .inr ⟨hl, fun _ h => h⟩)
      (fun spi p hp => .inr ⟨hp, fun h => h⟩)
  · have howes : s.holds (.inl sid) = some (be32 x.addr 0) := by
      simp only [holds, hx, bind_some, Session.owes, if_neg hdone]
    have hrelease : (s.pool.release x.addr).used = unmark s.pool.used (s.holds (.inl sid)) := by
      rw [howes, haddr, AddrPool.release, to4_u32IP]
      rfl
    have hholds : (s.giveBack sid x).holds = update s.holds (.inl sid) none := by
      funext k
      cases k with
      | inr t => simp [holds, giveBack, Server.modify]
      | inl j =>
        by_cases hj : j = sid
        · subst hj
          simp only [holds, giveBack, Server.modify, hself, update_self]
          rfl
        · rw [update_of_ne (by simpa using hj)]
          simp only [holds, giveBack, Server.modify, hother j hj]
    rw [hholds]
    exact hrelease ▸ h.ledger.release (.inl sid)
  · intro j y hy
    by_cases hj : j = sid
    · subst hj
      obtain rfl := some.inj (hself.symm.trans hy)
      exact h.hosts j x hx
    · exact h.hosts j y ((hother j hj).symm.trans hy)
  · intro c j hc
    obtain ⟨y, hy, hnot⟩ := h.leased c j hc
    have hj : j ≠ sid := by
      rintro rfl
      exact hout ⟨c, hc⟩
    exact ⟨y, (hother j hj).trans hy, hnot⟩
  · intro t ht k hk
    refine (h.tasks t ht k hk).mono (by simp [giveBack, Server.modify]) (fun c j hc => .inl hc) ?_
    rintro j ⟨y, hy, hrun⟩
    have hj : j ≠ sid := by
      rintro rfl
      obtain rfl := some.inj (hx.symm.trans hy)
      exact honce t ht hrun
    exact ⟨y, (hother j hj).trans hy, hrun⟩

/-- A session that has expired leaves the tables. -/
lemma sound_expire (hsid : s.sessions.lookup cookie = some sid)
    (hx : s.heap[sid]? = some x) (hlink : ¬ (s.links (addrKey x.addr)).isSome) :
    ((s.dropCookie cookie sid).dropSPI x.esp).Sound (· ≠ tid) ∧
      ¬ ((s.dropCookie cookie sid).dropSPI x.esp).Leased sid := by
  have hframe : Frame tid s ((s.dropCookie cookie sid).dropSPI x.esp) :=
    frame_modify (f := id) hx (.of_once rfl rfl) (by simp) (by simp) (by simp) (by simp)
      fun c j hc => by
        rw [dropSPI_sessions] at hc
        exact (dropCookie_sessions.mp hc).1
  refine ⟨h.frame hframe (routed_expire h.routed hx cookie hlink), fun ⟨c, hc⟩ => ?_⟩
  rw [dropSPI_sessions] at hc
  obtain ⟨hold, hne⟩ := dropCookie_sessions.mp hc
  exact hne (h.unique c cookie sid hold hsid) rfl

lemma sound_expireAt (hs : s.expireAt now cookie = some s') :
    s'.Sound (· ≠ tid) ∧ s'.tasks = s.tasks ∧
      ∀ c, s.sessions.lookup c = none → s'.sessions.lookup c = none := by
  obtain rfl | ⟨sid, x, hsid, hx, hlink, hrest⟩ := expireAt_cases hs
  · exact ⟨h, rfl, fun c hc => hc⟩
  obtain ⟨hsound, hout⟩ := sound_expire h hsid hx (by simp [hlink])
  have hgone : ∀ c, s.sessions.lookup c = none →
      ((s.dropCookie cookie sid).dropSPI x.esp).sessions.lookup c = none := by
    intro c hc
    refine eq_none_iff_forall_not_mem.mpr fun j hj => ?_
    rw [dropSPI_sessions] at hj
    cases hc.symm.trans (dropCookie_sessions.mp hj).1
  obtain ⟨honce, rfl⟩ | ⟨honce, rfl⟩ := hrest
  · refine ⟨?_, by simp [giveBack, Server.modify], hgone⟩
    exact sound_return hsound (by simpa using hx) hout (by simp [honce]) (by simp [honce])
  · obtain ⟨y, hy, hnot⟩ := h.leased cookie sid hsid
    exact absurd honce (some.inj (hx.symm.trans hy) ▸ hnot)

lemma sound_expireSessions (hs : s.expireSessions now = some s') :
    s'.Sound (· ≠ tid) ∧ s'.tasks = s.tasks ∧
      ∀ c, s.sessions.lookup c = none → s'.sessions.lookup c = none := by
  refine inv_expireSessions (fun t => t.Sound (· ≠ tid) ∧ t.tasks = s.tasks ∧
    ∀ c, s.sessions.lookup c = none → t.sessions.lookup c = none) (fun t c ht hs => ?_)
    ⟨h, rfl, fun c hc => hc⟩ hs
  obtain ⟨h₁, ht₁, hc₁⟩ := sound_expireAt ht.1 hs
  exact ⟨h₁, ht₁.trans ht.2.1, fun c hc => hc₁ c (ht.2.2 c hc)⟩

/-- The section is over, and the task goes on or ends. -/
lemma Server.Sound.finish (hcarries : next.bind Task.carries = (s.tasks tid).bind Task.carries)
    (hnext : ∀ k, next = some k → s.TaskOk tid k) :
    Server.Inv { s with tasks := Function.update s.tasks tid next } := by
  have hholds : holds { s with tasks := update s.tasks tid next } = s.holds := by
    funext k
    cases k with
    | inl j => rfl
    | inr t =>
      by_cases ht : t = tid
      · subst ht
        simpa [holds] using hcarries
      · simp [holds, ht]
  refine ⟨⟨h.routed.links, h.routed.bySPI⟩, hholds ▸ h.ledger, h.hosts, h.leased, h.unique, ?_⟩
  intro t _ k hk
  simp only [update_apply] at hk
  split_ifs at hk with ht
  · subst ht
    exact (hnext k hk).mono le_rfl (fun c j hc => .inl hc) fun j hj => hj
  · exact (h.tasks t ht k hk).mono le_rfl (fun c j hc => .inl hc) fun j hj => hj

/-- **`handleLogin`** gets an address. -/
lemma inv_allocate {addr : Bytes} {pool : AddrPool}
    (halloc : s.pool.allocate = some (addr, pool)) (user : Bytes) :
    Server.Inv { s with
      pool, halfOpen := s.halfOpen + 1
      tasks := Function.update s.tasks tid (some (.store user addr)) } := by
  obtain ⟨v, haddr, hv, hfree, hpool⟩ := AddrPool.allocate_spec halloc
  have hholds : holds { s with
      pool, halfOpen := s.halfOpen + 1, tasks := update s.tasks tid (some (.store user addr)) } =
      update s.holds (.inr tid) (some v) := by
    funext k
    cases k with
    | inl j => simp [holds]
    | inr t =>
      by_cases ht : t = tid
      · subst ht
        simp [holds, Task.carries, haddr, be32_u32IP hv]
      · simp [holds, ht]
  refine ⟨⟨h.routed.links, h.routed.bySPI⟩, ?_, h.hosts, h.leased, h.unique, ?_⟩
  · rw [hholds, hpool]
    exact h.ledger.give (.inr tid) hfree
  intro t _ k hk
  simp only [update_apply] at hk
  split_ifs at hk with ht
  · cases hk
    exact ⟨v, hv, haddr⟩
  · exact (h.tasks t ht k hk).mono le_rfl (fun c j hc => .inl hc) fun j hj => hj

end

/-- The holders when a login has stored its session: the session has what the login carried. -/
lemma holds_store (hfresh : new.releaseOnce = .fresh)
    (ht : s.tasks tid = some (.store user new.addr)) :
    Server.holds { s with
      heap := s.heap ++ [new], sessions := s.sessions.insert cookie s.heap.length
      tasks := Function.update s.tasks tid none } =
      Function.update (Function.update s.holds (.inr tid) none) (.inl s.heap.length)
        (s.holds (.inr tid)) := by
  funext k
  cases k with
  | inr t =>
    by_cases htt : t = tid
    · subst htt
      simp [holds]
    · simp [holds, htt]
  | inl j =>
    by_cases hj : j = s.heap.length
    · subst hj
      simp [holds, ht, Task.carries, Session.owes, hfresh]
    rw [update_of_ne (by simpa using hj), update_of_ne (by simp)]
    simp only [holds]
    rw [getElem?_append]
    split_ifs with hlt
    · rfl
    · rw [getElem?_eq_none (by simp; omega), getElem?_eq_none (by omega)]

/-- **`handleLogin`** stores the session. -/
lemma inv_store (h : s.Sound (· ≠ tid))
    (hfresh : new.releaseOnce = .fresh) (ht : s.tasks tid = some (.store user new.addr))
    (hhost : IsHost new.addr) (hcookie : s.sessions.lookup cookie = none) :
    Server.Inv { s with
      heap := s.heap ++ [new], sessions := s.sessions.insert cookie s.heap.length
      tasks := Function.update s.tasks tid none } := by
  have hlookup : ∀ c j, (s.sessions.insert cookie s.heap.length).lookup c = some j →
      c = cookie ∧ j = s.heap.length ∨ s.sessions.lookup c = some j := by
    intro c j hc
    rw [lookup_insert_eq_ite] at hc
    split_ifs at hc with he
    · exact .inl ⟨he, (some.inj hc).symm⟩
    · exact .inr hc
  have hstays : ∀ c j, s.sessions.lookup c = some j →
      (s.sessions.insert cookie s.heap.length).lookup c = some j := by
    intro c j hc
    rw [lookup_insert_ne]
    · exact hc
    · rintro rfl
      cases hcookie.symm.trans hc
  have hold : ∀ (j : ℕ) (y : Session), s.heap[j]? = some y → (s.heap ++ [new])[j]? = some y :=
    fun j y hy => (List.getElem?_append_left (List.getElem?_eq_some_iff.mp hy).1).trans hy
  have hlt : ∀ c j, s.sessions.lookup c = some j → j < s.heap.length := fun c j hc => by
    obtain ⟨y, hy, -⟩ := h.leased c j hc
    exact (List.getElem?_eq_some_iff.mp hy).1
  refine ⟨⟨fun a l hl => ?_, fun spi p hp => ?_⟩, ?_, fun j y hy => ?_, fun c j hc => ?_,
    fun c c' j hc hc' => ?_, fun t _ k hk => ?_⟩
  · obtain ⟨j, y, ⟨c, hc⟩, hy, hrest⟩ := h.routed.links a l hl
    exact ⟨j, y, ⟨c, hstays c j hc⟩, hold j y hy, hrest⟩
  · obtain ⟨j, y, ⟨c, hc⟩, hy, hrest⟩ := h.routed.bySPI spi p hp
    exact ⟨j, y, ⟨c, hstays c j hc⟩, hold j y hy, hrest⟩
  · rw [holds_store hfresh ht]
    exact h.ledger.transfer (.inr tid) (.inl s.heap.length)
  · rcases mem_append.mp (mem_of_getElem? hy) with hmem | hmem
    · obtain ⟨i, hi⟩ := mem_iff_getElem?.mp hmem
      exact h.hosts i y hi
    · exact mem_singleton.mp hmem ▸ hhost
  · rcases hlookup c j hc with ⟨-, rfl⟩ | hc
    · exact ⟨new, by simp, by simp [hfresh]⟩
    · obtain ⟨y, hy, hnot⟩ := h.leased c j hc
      exact ⟨y, hold j y hy, hnot⟩
  · rcases hlookup c j hc with ⟨hcc, hj⟩ | hc
    · rcases hlookup c' j hc' with ⟨hcc', -⟩ | hc'
      · exact hcc.trans hcc'.symm
      · exact absurd hj (hlt c' j hc').ne
    · rcases hlookup c' j hc' with ⟨-, hj⟩ | hc'
      · exact absurd hj (hlt c j hc).ne
      · exact h.unique c c' j hc hc'
  · simp only [update_apply] at hk
    split_ifs at hk with htt
    refine (h.tasks t htt k hk).mono (by simp) (fun c j hc => ?_) fun j ⟨y, hy, hrun⟩ =>
      ⟨y, hold j y hy, hrun⟩
    exact (hlookup c j hc).symm.imp_right fun hj => hj.2.ge

/-! ## The step -/

/-- `offerESP` installs keys for a session that is still in the table, and a new cookie is not one
that is in it. -/
def Server.Current (s : Server) : Event → Prop
  | .advance tid env =>
    match s.tasks tid with
    | some (.install sid) => s.Leased sid
    | some (.store _ _) => s.sessions.lookup env.cookie = none
    | _ => True
  | _ => True

lemma Server.Inv.others (h : s.Inv) (tid : ℕ) : s.Sound (· ≠ tid) :=
  { h with tasks := fun t _ => h.tasks t trivial }

lemma Server.Sound.ends (h : s.Sound (· ≠ tid))
    (hcarries : (s.tasks tid).bind Task.carries = none) :
    Server.Inv { s with tasks := Function.update s.tasks tid none } :=
  h.finish hcarries.symm nofun

section

variable (hx : s.heap[sid]? = some x)

include hx

lemma frame_installESP (spi : UInt32) : Frame tid s (s.installESP sid x spi) := by
  unfold installESP
  dsimp only
  split <;>
    exact frame_modify hx (.of_once rfl rfl) (congrArg (List.modify · _ _) (dropSPI_heap s x.esp))
      (dropSPI_tasks s x.esp) (dropSPI_pool s x.esp) (dropSPI_books s x.esp)
      fun c j hc => dropSPI_sessions s x.esp ▸ hc

/-- The beginning of `runSSLLink` keeps the frame. -/
lemma frame_attachLink : Frame tid s (s.attachLink sid x) :=
  frame_modify hx (f := ({ · with esp := none, link := some (.tunnel s.made) })) (.of_once rfl rfl)
    (by simp [attachLink, Server.modify]) (by simp [attachLink, Server.modify])
    (by simp [attachLink, Server.modify]) (dropSPI_books s x.esp)
    fun c j hc => dropSPI_sessions s x.esp ▸ hc

lemma frame_teardown : Frame tid s (s.teardown sid x) :=
  frame_modify hx (f := ({ · with esp := none })) (.of_once rfl rfl)
    (by simp [teardown, Server.modify]) (by simp [teardown, Server.modify])
    (by simp [teardown, Server.modify]) (by simp [teardown, Server.modify]) fun c j hc => by
      simpa [teardown, Server.modify] using hc

lemma frame_detachLink (link : Link) : Frame tid s (s.detachLink sid x link) := by
  unfold detachLink
  dsimp only
  split_ifs
  · exact frame_modify hx (.of_once rfl rfl) (congrArg (List.modify · _ _) (dropLink_heap ..))
      (dropLink_tasks ..) (dropLink_pool ..) (dropLink_books ..)
      fun c j hc => dropLink_sessions s _ _ ▸ hc
  · exact frame_modify (f := id) hx (.of_once rfl rfl) (by simp) (by simp) (by simp) (by simp)
      fun c j hc => dropLink_sessions s _ _ ▸ hc

/-- `release` takes the session out of the table, within the frame. -/
lemma frame_dropSession (cookie : Bytes) : Frame tid s (s.dropSession sid x cookie) ∧
      ∀ c, (s.dropSession sid x cookie).sessions.lookup c = some sid → c ≠ cookie := by
  have hsessions : ∀ c j, (s.dropSession sid x cookie).sessions.lookup c = some j →
      s.sessions.lookup c = some j ∧ (c = cookie → j ≠ sid) := fun c j hc => by
    refine dropCookie_sessions.mp ?_
    simpa [dropSession, Server.modify] using hc
  refine ⟨frame_modify hx (f := ({ · with link := none })) (.of_once rfl rfl)
    (by simp [dropSession, Server.modify]) (by simp [dropSession, Server.modify])
    (by simp [dropSession, Server.modify]) (by simp [dropSession, Server.modify])
    fun c j hc => (hsessions c j hc).1, ?_⟩
  exact fun c hc he => (hsessions c sid hc).2 he rfl

end

/-- **What a section does** for a task.  Most keep the frame, and leave a session in the table
unless it is returned next; the others are those of `handleLogin`, and the end of `release`. -/
inductive Section (s : Server) (tid : ℕ) (k : Task) : Server → Option Task → Prop
  | quiet {s' : Server} {next : Option Task} (hframe : Frame tid s s') (hrouted : s'.Routed)
      (hleased : ∀ j, s.Leased j → s'.Leased j ∨ next = some (.returning j))
      (hnext : ∀ k', next = some k' → s'.TaskOk tid k' ∧ k'.carries = none)
      (hcarries : k.carries = none) (hk : ∀ j, k ≠ .returning j) : Section s tid k s' next
  | allocated (user : Bytes) {addr : Bytes} {pool : AddrPool}
      (halloc : s.pool.allocate = some (addr, pool)) (hk : ∀ j, k ≠ .returning j) :
      Section s tid k { s with pool, halfOpen := s.halfOpen + 1 } (some (.store user addr))
  | stored {user cookie : Bytes} {now : ℤ} {s₁ : Server} {new : Session}
      (hk : k = .store user new.addr) (hs₁ : s.expireSessions now = some s₁)
      (hnew : new.releaseOnce = .fresh)
      (hhost : IsHost new.addr) (hcookie : s.sessions.lookup cookie = none) :
      Section s tid k { s₁ with
        heap := s₁.heap ++ [new], sessions := s₁.sessions.insert cookie s₁.heap.length } none
  | returned {sid : ℕ} {x : Session} (hk : k = .returning sid) (hx : s.heap[sid]? = some x)
      (hout : ¬ s.Leased sid) (hrun : x.releaseOnce = .running tid) :
      Section s tid k (s.giveBack sid x) none

/-- A section that leaves the table of sessions as it is. -/
lemma Section.kept {k : Task} (hframe : Frame tid s s') (hrouted : s'.Routed)
    (hsessions : s'.sessions = s.sessions)
    (hnext : ∀ k', next = some k' → s'.TaskOk tid k' ∧ k'.carries = none)
    (hcarries : k.carries = none) (hk : ∀ j, k ≠ .returning j) : Section s tid k s' next :=
  .quiet hframe hrouted (fun _ ⟨c, hc⟩ => .inl ⟨c, hsessions ▸ hc⟩) hnext hcarries hk

lemma begin_section (h : s.Inv) (env : Env) (r : Request) :
    Section s tid (.request r) (s.begin env r).1 (s.begin env r).2 := by
  have hidle : Section s tid (.request r) s none :=
    .kept (.refl tid s) h.routed rfl nofun rfl nofun
  have hknown : ∀ c j, s.sessions.lookup c = some j → s.Known j c := fun c j hc => by
    obtain ⟨y, hy, -⟩ := h.leased c j hc
    exact ⟨(List.getElem?_eq_some_iff.mp hy).1, fun c' hc' => h.unique c' c j hc' hc⟩
  cases r with
  | login user =>
    simp only [begin]
    split_ifs
    · split
      · exact hidle
      · rename_i addr pool halloc
        exact .allocated user halloc nofun
    · exact hidle
  | getConfig cookie =>
    simp only [begin]
    split
    · exact hidle
    rename_i sid hsid
    obtain ⟨x, hx, -⟩ := h.leased cookie sid hsid
    have hframe : Frame tid s (s.modify sid ({ · with expires := env.now + sessionTTL })) :=
      frame_modify hx (.of_once rfl rfl) rfl rfl rfl ⟨rfl, rfl⟩ fun c j hc => hc
    have hrouted : (s.modify sid ({ · with expires := env.now + sessionTTL })).Routed :=
      h.routed.edit_of_sessions hx rfl rfl rfl (fun a l hl => .inr ⟨hl, fun _ h => h⟩)
        fun spi p hp => .inr ⟨hp, fun h => h⟩
    refine .kept hframe hrouted rfl (fun k hk => ?_) rfl nofun
    split_ifs at hk
    cases hk
    exact ⟨trivial, rfl⟩
  | tunnel user cookie =>
    simp only [begin]
    split
    · exact hidle
    rename_i sid hsid
    split_ifs
    · refine .kept (.refl tid s) h.routed rfl ?_ rfl nofun
      rintro k ⟨⟩
      exact ⟨hknown cookie sid hsid, rfl⟩
    · exact hidle
  | logout cookie =>
    simp only [begin]
    split
    · exact hidle
    · rename_i sid hsid
      refine .kept (.refl tid s) h.routed rfl ?_ rfl nofun
      rintro k ⟨⟩
      exact ⟨hknown cookie sid hsid, rfl⟩

/-- **The inversion of a section.** -/
lemma work_section (h : s.Inv) {k : Task} (ht : s.tasks tid = some k) {env : Env}
    (hC : s.Current (.advance tid env)) (hs : s.work tid env k = some (s', next)) :
    Section s tid k s' next := by
  have hown := h.tasks tid trivial k ht
  have hidle (k : Task) (hcarries : k.carries = none) (hk : ∀ j, k ≠ .returning j) :
      Section s tid k s none := .kept (.refl tid s) h.routed rfl nofun hcarries hk
  cases k with
  | request r =>
    have hbegin : Section s tid (.request r) _ _ := begin_section h env r
    rw [show s.begin env r = (s', next) from some.inj hs] at hbegin
    exact hbegin
  | store user addr =>
    simp only [work, storeSession, Option.map_map, Option.map_eq_some_iff] at hs
    obtain ⟨s₁, hs₁, hs⟩ := hs
    obtain ⟨rfl, rfl⟩ := mk.inj hs
    simp only [Server.Current, ht] at hC
    exact .stored rfl hs₁ rfl hown hC
  | offer sid =>
    cases hs
    refine .kept (.refl tid _) h.routed rfl (fun k hk => ?_) rfl nofun
    split_ifs at hk
    cases hk
    exact ⟨trivial, rfl⟩
  | install sid =>
    obtain ⟨x, hx, hs⟩ := map_eq_some_iff.mp hs
    obtain ⟨rfl, rfl⟩ := mk.inj hs
    simp only [Server.Current, ht] at hC
    refine .kept (frame_installESP hx env.spi) (routed_installESP h.routed hx hC env.spi) ?_ nofun
      rfl nofun
    unfold installESP
    split <;> exact dropSPI_sessions s x.esp
  | attach sid cookie =>
    obtain ⟨x, hx, hs⟩ := map_eq_some_iff.mp hs
    split_ifs at hs with hin
    · obtain ⟨rfl, rfl⟩ := mk.inj hs
      have hframe : Frame tid s _ := frame_attachLink hx
      refine .kept hframe (routed_attachLink h.routed hx ⟨cookie, hin⟩) (dropSPI_sessions s x.esp)
        ?_ rfl nofun
      rintro k ⟨⟩
      exact ⟨hframe.known hown, rfl⟩
    · obtain ⟨rfl, rfl⟩ := mk.inj hs
      exact hidle _ rfl nofun
  | serving sid cookie link =>
    obtain ⟨x, hx, hs⟩ := map_eq_some_iff.mp hs
    obtain ⟨rfl, rfl⟩ := mk.inj hs
    have hframe : Frame tid s _ := frame_detachLink hx link
    refine .kept hframe (routed_detachLink h.routed hx link) ?_ (fun k hk => ?_) rfl nofun
    · unfold detachLink
      dsimp only
      split_ifs <;> exact dropLink_sessions ..
    · split_ifs at hk
      cases hk
      exact ⟨hframe.known hown, rfl⟩
  | teardown sid cookie =>
    obtain ⟨x, hx, hs⟩ := map_eq_some_iff.mp hs
    obtain ⟨rfl, rfl⟩ := mk.inj hs
    have hframe : Frame tid s _ := frame_teardown hx
    refine .kept hframe (routed_teardown h.routed hx) (dropSPI_sessions ..) ?_ rfl nofun
    rintro k ⟨⟩
    exact ⟨hframe.known hown, rfl⟩
  | release sid cookie =>
    obtain ⟨x, hx, hs⟩ := bind_eq_some_iff.mp hs
    cases honce : x.releaseOnce with
    | fresh =>
      simp only [honce, Option.some.injEq, Prod.mk.injEq] at hs
      obtain ⟨rfl, rfl⟩ := hs
      have hframe : Frame tid s (s.modify sid ({ · with releaseOnce := .running tid })) :=
        frame_modify hx ⟨rfl, by simp [honce], by simp [honce]⟩ rfl rfl rfl ⟨rfl, rfl⟩
          fun c j hc => hc
      have hrouted : (s.modify sid ({ · with releaseOnce := .running tid })).Routed :=
        h.routed.edit_of_sessions hx rfl rfl rfl (fun a l hl => .inr ⟨hl, fun _ h => h⟩)
          fun spi p hp => .inr ⟨hp, fun h => h⟩
      refine .kept hframe hrouted rfl ?_ rfl nofun
      rintro k ⟨⟩
      refine ⟨⟨hframe.known hown, { x with releaseOnce := .running tid }, ?_, rfl⟩, rfl⟩
      simp [Server.modify, hx]
    | running t =>
      simp only [honce] at hs
      cases hs
    | done =>
      simp only [honce, Option.some.injEq, Prod.mk.injEq] at hs
      obtain ⟨rfl, rfl⟩ := hs
      exact hidle _ rfl nofun
  | dropping sid cookie =>
    obtain ⟨x, hx, hs⟩ := map_eq_some_iff.mp hs
    obtain ⟨rfl, rfl⟩ := mk.inj hs
    obtain ⟨hknown, y, hy, hrun⟩ := hown
    obtain rfl := some.inj (hx.symm.trans hy)
    obtain ⟨hframe, hgone⟩ : Frame tid s _ ∧ _ := frame_dropSession hx cookie
    refine .quiet hframe (routed_dropSession h.routed hx cookie) (fun j ⟨c, hc⟩ => ?_) ?_ rfl nofun
    · by_cases hj : j = sid
      · exact .inr (by rw [hj])
      · refine .inl ⟨c, ?_⟩
        simp only [dropSession, Server.modify, dropLink_sessions, dropSPI_sessions]
        exact dropCookie_sessions.mpr ⟨hc, fun _ => hj⟩
    · rintro k ⟨⟩
      refine ⟨⟨⟨{ x with link := none }, ?_, hrun⟩, fun ⟨c, hc⟩ => ?_⟩, rfl⟩
      · simp [dropSession, Server.modify, hx]
      · exact hgone c hc (hknown.2 c (hframe.sessions c sid hc))
  | returning sid =>
    obtain ⟨x, hx, hs⟩ := map_eq_some_iff.mp hs
    obtain ⟨rfl, rfl⟩ := mk.inj hs
    obtain ⟨⟨y, hy, hrun⟩, hout⟩ := hown
    obtain rfl := some.inj (hx.symm.trans hy)
    exact .returned rfl hx hout hrun

lemma Section.inv (h : s.Inv) {k : Task} (ht : s.tasks tid = some k)
    (hsec : Section s tid k s' next) :
    Server.Inv { s' with tasks := Function.update s'.tasks tid next } := by
  cases hsec with
  | quiet hframe hrouted _ hnext hcarries _ =>
    refine ((h.others tid).frame hframe hrouted).finish ?_ fun k hk => (hnext k hk).1
    rw [hframe.tasks, ht, bind_some, hcarries]
    cases next with
    | none => rfl
    | some k => exact (hnext k rfl).2
  | allocated user halloc _ => exact inv_allocate (h.others tid) halloc user
  | stored hk hs₁ hnew hhost hcookie =>
    obtain ⟨hsound, htasks, hgone⟩ := sound_expireSessions (h.others tid) hs₁
    exact inv_store hsound hnew (htasks ▸ hk ▸ ht) hhost (hgone _ hcookie)
  | returned hk hx hout hrun =>
    refine (sound_return (h.others tid) hx hout (by simp [hrun]) ?_).ends
      (by simp [giveBack, Server.modify, ht, hk, Task.carries])
    intro t htt
    simpa [hrun] using htt.symm

lemma inv_step (h : s.Inv) {e : Event} (hC : s.Current e) : (s.step e).Inv := by
  cases e with
  | arrive tid r =>
    simp only [step]
    split
    · exact h
    · rename_i hnone
      refine (h.others tid).finish (by rw [hnone]; rfl) ?_
      rintro k ⟨⟩
      trivial
  | advance tid env =>
    simp only [step]
    split
    · exact h
    · rename_i s' next hwork
      obtain ⟨k, ht, hs⟩ := bind_eq_some_iff.mp hwork
      exact (work_section h ht hC hs).inv h ht
  | enableESP =>
    refine ⟨⟨h.routed.links, h.routed.bySPI⟩, ?_, h.hosts, h.leased, h.unique, ?_⟩
    · exact h.ledger
    · exact fun t ht k hk => (h.tasks t ht k hk).mono le_rfl (fun c j hc => .inl hc) fun j hj => hj

end Sections

/-! ## The result -/

/-- Every route is to a session in the table of sessions, and its address is in use. -/
def Server.RoutesLeased (s : Server) : Prop :=
  (∀ a l, s.links a = some l → ∃ cookie sid x, s.sessions.lookup cookie = some sid ∧
    s.heap[sid]? = some x ∧ addrKey x.addr = a ∧ x.link = some l ∧ s.pool.InUse x.addr) ∧
  ∀ spi p, s.bySPI spi = some p → ∃ cookie sid x, s.sessions.lookup cookie = some sid ∧
    s.heap[sid]? = some x ∧ x.esp = some spi ∧ p.addr = x.addr ∧ s.pool.InUse x.addr

lemma Server.Inv.inUse {s : Server} (h : s.Inv) {sid : ℕ} {x : Session}
    (hsid : s.sessions.lookup cookie = some sid) (hx : s.heap[sid]? = some x) :
    s.pool.InUse x.addr := by
  obtain ⟨y, hy, hdone⟩ := h.leased cookie sid hsid
  obtain rfl := some.inj (hx.symm.trans hy)
  obtain ⟨v, -, haddr⟩ := h.hosts sid x hx
  refine ⟨x.addr, by rw [haddr, to4_u32IP], h.ledger.used (.inl sid) _ ?_⟩
  simp only [holds, hx, bind_some, Session.owes, if_neg hdone]

lemma Server.Inv.routesLeased {s : Server} (h : s.Inv) : s.RoutesLeased := by
  constructor
  · intro a l hl
    obtain ⟨sid, x, ⟨cookie, hsid⟩, hx, ha, hlink⟩ := h.routed.links a l hl
    exact ⟨cookie, sid, x, hsid, hx, ha, hlink, h.inUse hsid hx⟩
  · intro spi p hp
    obtain ⟨sid, x, ⟨cookie, hsid⟩, hx, hesp, hpa⟩ := h.routed.bySPI spi p hp
    exact ⟨cookie, sid, x, hsid, hx, hesp, hpa, h.inUse hsid hx⟩

lemma inv_newServer (noESP : Bool) (pool : AddrPool) : (newServer noESP pool).Inv := by
  refine ⟨⟨nofun, nofun⟩, ?_, nofun, nofun, nofun, nofun⟩
  exact (Exclusive.empty pool.used).mono fun k a hk => by
    cases k <;> simp [holds, newServer] at hk

/-- **Routes follow leases.**  In every run in which `offerESP` installs keys only for a session
that is still in the table, every route is to a session in the table whose address is in use. -/
theorem routes_follow_leases (noESP : Bool) (pool : AddrPool) (es : List Event)
    (hrun : Along Server.step Server.Current (newServer noESP pool) es) :
    Always Server.step Server.RoutesLeased (newServer noESP pool) es :=
  always_of_inv Server.Inv (fun _ _ h hC => inv_step h hC) (fun _ h => h.routesLeased) _ es
    (inv_newServer noESP pool) hrun

/-- A login, and a `getconfig` that is about to install its keys. -/
def offering : List Event :=
  [.enableESP, .arrive 0 (.login [1]), .advance 0 {}, .advance 0 { cookie := [7] },
    .arrive 1 (.getConfig [7]), .advance 1 {}, .advance 1 {}]

/-- The keys are installed: the address is routed to the client that leases it. -/
theorem routes_follow_leases_installed :
    let s := run step (newServer false smallPool) (offering ++ [.advance 1 { spi := 9 }])
    s.links (u32IP 2) = some (.esp ⟨0, u32IP 2⟩) ∧ s.RoutesLeased := by
  refine ⟨by decide, (routes_follow_leases false smallPool _ ?_).last⟩
  refine ⟨trivial, trivial, trivial, rfl, trivial, trivial, trivial, ?_, trivial⟩
  exact ⟨[7], by decide⟩

/-- A logout between the two sections of `getconfig`: the session is released, its address is leased
to another client, and is routed to the one that logged out. -/
theorem route_outlives_lease :
    let s := run step (newServer false smallPool) (offering ++
      [.arrive 2 (.logout [7]), .advance 2 {}, .advance 2 {}, .advance 2 {}, .advance 2 {},
        .advance 2 {}, .advance 1 { spi := 9 },
        .arrive 3 (.login [2]), .advance 3 {}, .advance 3 { cookie := [8] }])
    (∃ x, s.sessions.lookup [8] = some 1 ∧ s.heap[1]? = some x ∧ x.addr = u32IP 2 ∧ x.link = none) ∧
    s.links (u32IP 2) = some (.esp ⟨0, u32IP 2⟩) ∧ ¬ s.RoutesLeased := by
  intro s
  have hlink : s.links (u32IP 2) = some (.esp ⟨0, u32IP 2⟩) := by decide
  have hentries : s.sessions.entries = [⟨[8], 1⟩] := by decide
  have hheap : (s.heap[1]?).map (fun x => (x.addr, x.link)) = some (u32IP 2, none) := by
    decide
  obtain ⟨x, hx, hfields⟩ := map_eq_some_iff.mp hheap
  obtain ⟨haddr, hnone⟩ := mk.inj hfields
  refine ⟨⟨x, by decide, hx, haddr, hnone⟩, hlink, fun h => ?_⟩
  obtain ⟨cookie, sid, y, hsid, hy, -, hylink, -⟩ := h.1 _ _ hlink
  have hmem := mem_lookup_iff.mp hsid
  rw [hentries, mem_singleton] at hmem
  cases hmem
  rw [some.inj (hx.symm.trans hy), hylink] at hnone
  cases hnone

end Veepin.GP
