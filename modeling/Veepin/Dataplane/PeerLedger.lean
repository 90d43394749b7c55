import Veepin.Core.Ledger
import Veepin.Dataplane.AddrPool
import Veepin.Dataplane.PeerTable

/-!
# Which peer holds which address

A peer of a `PeerTable` is live while the index has it under its own cookie.  A live peer holds the
inner address it was given, and this is what a removal gives back.
-/

namespace Veepin

open List Function Option

/-- The number of an IPv4 address. -/
def hostOf (ip : Bytes) : Option ℕ := (to4 ip).map (be32 · 0)

@[simp] lemma hostOf_u32IP {v : ℕ} (h : v < 2 ^ 32) : hostOf (u32IP v) = some v := by
  rw [hostOf, to4_u32IP, map_some, be32_u32IP h]

lemma AddrPool.release_used (p : AddrPool) (ip : Bytes) :
    (p.release ip).used = unmark p.used (hostOf ip) := by
  unfold AddrPool.release hostOf
  cases to4 ip <;> rfl

/-- What is not of `p` is of the others. -/
lemma iff_and_ne {o : Option ℕ} {p : ℕ} (h : ¬ o = some p) (j : ℕ) :
    o = some j ↔ o = some j ∧ j ≠ p :=
  ⟨fun hj => ⟨hj, fun he => h (he ▸ hj)⟩, And.left⟩

namespace PeerTable

variable {P : Type} (cookie : P → Bytes) (innerIP : P → Option Bytes)

/-- The index has the peer under its cookie. -/
def Live (t : PeerTable P) (p : ℕ) : Prop :=
  ∃ q, t.peers[p]? = some q ∧ t.byCookie.lookup (cookie q) = some p

/-- The index has each peer under its own cookie. -/
def Keyed (t : PeerTable P) : Prop :=
  ∀ c p, t.byCookie.lookup c = some p → ∃ q, t.peers[p]? = some q ∧ cookie q = c

/-- The address that a live peer holds. -/
def holds (t : PeerTable P) (p : ℕ) : Option ℕ :=
  (t.peers[p]?).bind fun q =>
    if t.byCookie.lookup (cookie q) = some p then (innerIP q).bind hostOf else none

/-- The peer has had an address and is no longer live. -/
def Returned (t : PeerTable P) (p : ℕ) : Prop :=
  ∃ q, t.peers[p]? = some q ∧ (innerIP q).isSome ∧ t.byCookie.lookup (cookie q) ≠ some p

/-- Nobody else has the cookie of the peer. -/
def Untaken (t : PeerTable P) (p : ℕ) : Prop :=
  ∀ q, t.peers[p]? = some q →
    t.byCookie.lookup (cookie q) = none ∨ t.byCookie.lookup (cookie q) = some p

/-- `removePeer` of the peer in `removed`, if any, passes the address of `p` to the pool. -/
def gives (t : PeerTable P) (removed : Option ℕ) (p : ℕ) : Bool :=
  removed == some p && (t.peers[p]?).any fun q =>
    decide (cookie q ∈ t.byCookie) && (innerIP q).isSome

instance (t : PeerTable P) (p : ℕ) : Decidable (t.Live cookie p) :=
  inferInstanceAs (Decidable (∃ q ∈ t.peers[p]?, t.byCookie.lookup (cookie q) = some p))

instance (t : PeerTable P) (p : ℕ) : Decidable (t.Untaken cookie p) :=
  inferInstanceAs (Decidable (∀ q ∈ t.peers[p]?,
    t.byCookie.lookup (cookie q) = none ∨ t.byCookie.lookup (cookie q) = some p))

variable {cookie innerIP} {t : PeerTable P} {p : ℕ} {q : P}

lemma Keyed.live (h : t.Keyed cookie) {c : Bytes} (hc : t.byCookie.lookup c = some p) :
    t.Live cookie p := by
  obtain ⟨q, hq, rfl⟩ := h c p hc
  exact ⟨q, hq, hc⟩

lemma live_iff (hq : t.peers[p]? = some q) :
    t.Live cookie p ↔ t.byCookie.lookup (cookie q) = some p := by
  constructor
  · rintro ⟨q', hq', hl⟩
    exact some.inj (hq.symm.trans hq') ▸ hl
  · exact fun hl => ⟨q, hq, hl⟩

lemma Live.untaken (h : t.Live cookie p) : t.Untaken cookie p :=
  fun _ hq => .inr ((live_iff hq).mp h)

/-- `removePeer` finds no peer under the cookie of one that is gone. -/
lemma Untaken.notMem (h : t.Untaken cookie p) (hl : ¬ t.Live cookie p) (hq : t.peers[p]? = some q) :
    cookie q ∉ t.byCookie := by
  rcases h q hq with hnone | hsome
  · exact AList.lookup_eq_none.mp hnone
  · exact absurd ⟨q, hq, hsome⟩ hl

lemma holds_eq (hq : t.peers[p]? = some q) (hl : t.Live cookie p) :
    t.holds cookie innerIP p = (innerIP q).bind hostOf := by
  simp only [holds, hq, bind_some, (live_iff hq).mp hl, if_true]

/-- A peer with an address is gone or live. -/
lemma returned_iff (hq : t.peers[p]? = some q) (hip : (innerIP q).isSome) :
    t.Returned cookie innerIP p ↔ ¬ t.Live cookie p := by
  rw [live_iff hq]
  constructor
  · rintro ⟨q', hq', -, hne⟩
    exact some.inj (hq'.symm.trans hq) ▸ hne
  · exact fun hne => ⟨q, hq, hip, hne⟩

lemma live_of_holds {a : ℕ} (h : t.holds cookie innerIP p = some a) :
    ∃ q ip, t.peers[p]? = some q ∧ t.byCookie.lookup (cookie q) = some p ∧ innerIP q = some ip ∧
      hostOf ip = some a := by
  obtain ⟨q, hq, hif⟩ := bind_eq_some_iff.mp h
  split_ifs at hif with hl
  obtain ⟨ip, hip, ha⟩ := bind_eq_some_iff.mp hif
  exact ⟨q, ip, hq, hl, hip, ha⟩

/-! ## A peer is made -/

section PeerFor

variable (t) (c : Bytes) (addr : UDPAddr) (now : ℤ) (new : P)

/-- What `peerFor` does to the table. -/
lemma peerFor_cases : ((t.peerFor c addr now new).1.peers = t.peers ∧
      (t.peerFor c addr now new).1.byCookie = t.byCookie) ∨
    (t.byCookie.lookup c = none ∧ (t.peerFor c addr now new).1.peers = t.peers ++ [new] ∧
      (t.peerFor c addr now new).1.byCookie = t.byCookie.insert c t.peers.length) := by
  unfold peerFor
  split
  · exact .inl ⟨rfl, rfl⟩
  · rename_i hnone
    dsimp only
    split_ifs
    · exact .inr ⟨hnone, rfl, rfl⟩
    · exact .inl ⟨rfl, rfl⟩

/-- The peers and the index before `peerFor` are there afterwards. -/
lemma peerFor_mono : (∀ (j : ℕ) (q : P), t.peers[j]? = some q →
      (t.peerFor c addr now new).1.peers[j]? = some q) ∧
    ∀ c' j, t.byCookie.lookup c' = some j →
      (t.peerFor c addr now new).1.byCookie.lookup c' = some j := by
  rcases peerFor_cases t c addr now new with ⟨hp, hc⟩ | ⟨hnone, hp, hc⟩
  · rw [hp, hc]
    exact ⟨fun _ _ h => h, fun _ _ h => h⟩
  rw [hp, hc]
  refine ⟨fun j q hq => ?_, fun c' j hj => ?_⟩
  · exact (List.getElem?_append_left (List.getElem?_eq_some_iff.mp hq).1).trans hq
  · rw [AList.lookup_insert_ne]
    · exact hj
    · rintro rfl
      cases hnone.symm.trans hj

variable {t c new}

/-- A peer afterwards was there before, under the same cookie if at all, or is the new one. -/
lemma peerFor_inv (cookie : P → Bytes) {j : ℕ} {q : P}
    (hq : (t.peerFor c addr now new).1.peers[j]? = some q) :
    (t.peers[j]? = some q ∧ ((t.peerFor c addr now new).1.byCookie.lookup (cookie q) = some j ↔
      t.byCookie.lookup (cookie q) = some j)) ∨ q = new ∧ t.peers[j]? = none := by
  rcases peerFor_cases t c addr now new with ⟨hp, hc⟩ | ⟨hnone, hp, hc⟩
  · rw [hp] at hq
    rw [hc]
    exact .inl ⟨hq, Iff.rfl⟩
  rw [hp, getElem?_append] at hq
  split_ifs at hq with hlt
  · refine .inl ⟨hq, ?_⟩
    rw [hc, lookup_insert_eq_ite]
    split_ifs with he
    · rw [he, hnone]
      simp only [some.injEq, reduceCtorEq, iff_false]
      omega
    · exact Iff.rfl
  · refine .inr ⟨?_, getElem?_eq_none (not_lt.mp hlt)⟩
    exact mem_singleton.mp (mem_of_getElem? hq)

lemma Keyed.peerFor (h : t.Keyed cookie) (hnew : cookie new = c) :
    (t.peerFor c addr now new).1.Keyed cookie := by
  intro c' j hj
  rcases peerFor_cases t c addr now new with ⟨hp, hc⟩ | ⟨-, hp, hc⟩
  · rw [hc] at hj
    rw [hp]
    exact h c' j hj
  rw [hc, lookup_insert_eq_ite] at hj
  rw [hp]
  split_ifs at hj with he
  · obtain rfl := some.inj hj
    exact ⟨new, by simp, hnew.trans he.symm⟩
  · obtain ⟨q, hq, hqc⟩ := h c' j hj
    exact ⟨q, (List.getElem?_append_left (List.getElem?_eq_some_iff.mp hq).1).trans hq, hqc⟩

lemma holds_peerFor (hnone : innerIP new = none) :
    (t.peerFor c addr now new).1.holds cookie innerIP = t.holds cookie innerIP := by
  funext j
  unfold holds
  cases hq : (t.peerFor c addr now new).1.peers[j]? with
  | none =>
    cases hq' : t.peers[j]? with
    | none => rfl
    | some q => cases hq.symm.trans ((peerFor_mono t c addr now new).1 j q hq')
  | some q =>
    rcases peerFor_inv addr now cookie hq with ⟨hq', hiff⟩ | ⟨rfl, hq'⟩
    · simp only [hq', bind_some, hiff]
    · simp [hq', hnone]

lemma returned_peerFor (hnone : innerIP new = none) :
    (t.peerFor c addr now new).1.Returned cookie innerIP p ↔ t.Returned cookie innerIP p := by
  constructor
  · rintro ⟨q, hq, hip, hl⟩
    rcases peerFor_inv addr now cookie hq with ⟨hq', hiff⟩ | ⟨rfl, -⟩
    · exact ⟨q, hq', hip, fun hl' => hl (hiff.mpr hl')⟩
    · rw [hnone] at hip
      cases hip
  · rintro ⟨q, hq, hip, hl⟩
    have hq' := (peerFor_mono t c addr now new).1 p q hq
    rcases peerFor_inv addr now cookie hq' with ⟨-, hiff⟩ | ⟨-, hnone'⟩
    · exact ⟨q, hq', hip, fun hl' => hl (hiff.mp hl')⟩
    · cases hq.symm.trans hnone'

end PeerFor

/-! ## A peer changes -/

section Modify

variable {f : P → P}

lemma modify_peers (t : PeerTable P) (p : ℕ) (f : P → P) (j : ℕ) :
    (t.modify p f).peers[j]? = if p = j then (t.peers[j]?).map f else t.peers[j]? := by
  rw [modify, getElem?_modify]
  split_ifs with h <;> simp

lemma Keyed.modify (h : t.Keyed cookie) (hf : ∀ q, cookie (f q) = cookie q) :
    (t.modify p f).Keyed cookie := by
  intro c j hj
  obtain ⟨q, hq, hc⟩ := h c j hj
  rw [modify_peers, hq]
  split_ifs
  · exact ⟨f q, rfl, (hf q).trans hc⟩
  · exact ⟨q, rfl, hc⟩

section

variable (hf : ∀ q, cookie (f q) = cookie q)

include hf

lemma live_modify (j : ℕ) : (t.modify p f).Live cookie j ↔ t.Live cookie j := by
  unfold Live
  rw [modify_peers]
  split_ifs
  · cases t.peers[j]? with
    | none => simp
    | some q =>
      simp only [map_some, some.injEq, exists_eq_left']
      rw [hf]
      rfl
  · rfl

/-- The addresses held when a peer changes that keeps its cookie. -/
lemma holds_modify (j : ℕ) (hj : p = j → ∀ q, t.peers[j]? = some q → innerIP (f q) = innerIP q) :
    (t.modify p f).holds cookie innerIP j = t.holds cookie innerIP j := by
  unfold holds
  rw [modify_peers]
  split_ifs with hp
  · cases hq : t.peers[j]? with
    | none => rfl
    | some q =>
      simp only [map_some, bind_some]
      rw [hf, hj hp q hq]
      rfl
  · rfl

/-- A live peer is given an address. -/
lemma holds_modify_give (hl : t.Live cookie p) {ip : Bytes} (hip : ∀ q, innerIP (f q) = some ip) :
    (t.modify p f).holds cookie innerIP =
      Function.update (t.holds cookie innerIP) p (hostOf ip) := by
  funext j
  by_cases hj : j = p
  · subst hj
    obtain ⟨q, hq, -⟩ := id hl
    have hq' : (t.modify j f).peers[j]? = some (f q) := by rw [modify_peers, if_pos rfl, hq]; rfl
    rw [update_self, holds_eq hq' ((live_modify hf j).mpr hl), hip]
    rfl
  · rw [update_of_ne hj, holds_modify hf j fun h => absurd h.symm hj]

/-- A peer that keeps its address, or is live. -/
lemma returned_modify (hp : (∀ q, innerIP (f q) = innerIP q) ∨ t.Live cookie p) (j : ℕ) :
    (t.modify p f).Returned cookie innerIP j ↔ t.Returned cookie innerIP j := by
  unfold Returned
  rw [modify_peers]
  split_ifs with hj
  · subst hj
    cases hq : t.peers[p]? with
    | none => simp
    | some q =>
      simp only [map_some, some.injEq, exists_eq_left']
      rw [hf]
      rcases hp with hip | hl
      · rw [hip]
        rfl
      · have hl' := (live_iff hq).mp hl
        exact ⟨fun h => absurd hl' h.2, fun h => absurd hl' h.2⟩
  · rfl

end

end Modify

/-! ## A peer is removed -/

section Drop

lemma Keyed.drop (h : t.Keyed cookie) (c : Bytes) : (t.drop c).Keyed cookie := by
  intro c' j hj
  rw [PeerTable.drop, lookup_erase_eq_ite] at hj
  split_ifs at hj
  exact h c' j hj

section

variable (h : t.Keyed cookie) (hq : t.peers[p]? = some q)
  (hl : t.byCookie.lookup (cookie q) = some p)

include h hq hl

/-- The index without a live peer. -/
lemma drop_lookup (c : Bytes) (j : ℕ) :
    (t.drop (cookie q)).byCookie.lookup c = some j ↔ t.byCookie.lookup c = some j ∧ j ≠ p := by
  rw [PeerTable.drop, lookup_erase_eq_ite]
  split_ifs with hc
  · rw [hc, hl]
    simp only [some.injEq, false_iff, not_and, not_not]
    exact fun h => h.symm
  · refine iff_and_ne (fun hj => ?_) j
    obtain ⟨q', hq', hc'⟩ := h c p hj
    exact hc (hc' ▸ congrArg cookie (some.inj (hq'.symm.trans hq)))

lemma holds_drop : (t.drop (cookie q)).holds cookie innerIP =
      Function.update (t.holds cookie innerIP) p none := by
  funext j
  unfold holds
  rw [show (t.drop (cookie q)).peers = t.peers from rfl]
  by_cases hj : j = p
  · subst hj
    rw [update_self, hq]
    simp only [bind_some]
    exact if_neg fun hl' => ((drop_lookup h hq hl _ _).mp hl').2 rfl
  · rw [update_of_ne hj]
    simp only [drop_lookup h hq hl, ne_eq, hj, not_false_eq_true, and_true]

lemma returned_drop (j : ℕ) : (t.drop (cookie q)).Returned cookie innerIP j ↔
      t.Returned cookie innerIP j ∨ j = p ∧ (innerIP q).isSome := by
  constructor
  · rintro ⟨q', hq', hip, hnot⟩
    by_cases hj : j = p
    · subst hj
      exact .inr ⟨rfl, some.inj (hq'.symm.trans hq) ▸ hip⟩
    · exact .inl ⟨q', hq', hip, fun hl' => hnot ((drop_lookup h hq hl _ j).mpr ⟨hl', hj⟩)⟩
  · rintro (⟨q', hq', hip, hnot⟩ | ⟨rfl, hip⟩)
    · exact ⟨q', hq', hip, fun hl' => hnot ((drop_lookup h hq hl _ j).mp hl').1⟩
    · exact ⟨q, hq, hip, fun hl' => ((drop_lookup h hq hl _ _).mp hl').2 rfl⟩

end

/-- **One release.**  A step that removes at most the peer in `removed`, and this one only if nobody
else has its cookie, gives the address of a peer back exactly when the peer had it and goes with
this step. -/
lemma gives_iff {t' : PeerTable P} {removed : Option ℕ} (h : t.Keyed cookie)
    (hfree : ∀ p', removed = some p' → t.Untaken cookie p')
    (hkept : (∀ p', removed = some p' → ¬ t.Live cookie p') →
      (t'.Returned cookie innerIP p ↔ t.Returned cookie innerIP p))
    (hgone : ∀ p' q, removed = some p' → t.peers[p']? = some q →
      t.byCookie.lookup (cookie q) = some p' →
      (t'.Returned cookie innerIP p ↔ (t.drop (cookie q)).Returned cookie innerIP p)) :
    (t.Returned cookie innerIP p → t'.Returned cookie innerIP p) ∧
      (t.gives cookie innerIP removed p = true ↔
        ¬ t.Returned cookie innerIP p ∧ t'.Returned cookie innerIP p) := by
  by_cases hlive : ∃ p', removed = some p' ∧ t.Live cookie p'
  · obtain ⟨p', rfl, q, hq, hl⟩ := hlive
    rw [hgone p' q rfl hq hl, returned_drop h hq hl]
    refine ⟨.inl, ?_⟩
    by_cases hp : p = p'
    · subst hp
      have hmem : cookie q ∈ t.byCookie := AList.lookup_isSome.mp (by rw [hl]; rfl)
      have hnot : ¬ t.Returned cookie innerIP p := by
        rintro ⟨q', hq', -, hne⟩
        exact hne (some.inj (hq'.symm.trans hq) ▸ hl)
      simp [gives, hq, hmem, hnot]
    · have hne : p' ≠ p := fun hpp => hp hpp.symm
      simp [gives, hp, hne]
  · have hnot : ∀ p', removed = some p' → ¬ t.Live cookie p' := fun p' hp hl => hlive ⟨p', hp, hl⟩
    rw [hkept hnot]
    refine ⟨id, fun hg => ?_, fun hr => absurd hr.2 hr.1⟩
    simp only [gives, Bool.and_eq_true, beq_iff_eq, Option.any_eq_true, decide_eq_true_eq] at hg
    obtain ⟨hp, q, hq, hmem, -⟩ := hg
    exact absurd hmem ((hfree p hp).notMem (hnot p hp) hq)

end Drop

end PeerTable

end Veepin
