import Veepin.Dataplane.PeerLedger
import Veepin.Cisco.Server

/-!
# Removing a peer of the Cisco IPsec server

The tunnels of the pump are those of the peers that have one, and a peer that has one is live and
holds the inner address of the tunnel (`Server.Inv`).  So a removal takes the tunnel of its peer and
no other, as long as the callbacks come in order (`Server.InOrder`).
-/

namespace Veepin.Cisco

open List Function Option Server PeerTable

/-- The addresses that live peers hold. -/
def Server.holds (s : Server) : ℕ → Option ℕ := s.table.holds Peer.cookie Peer.innerIP

/-- The tunnel is the peer's. -/
def Server.Owns (s : Server) (p : ℕ) (t : Tunnel) : Prop :=
  ∃ q, s.table.peers[p]? = some q ∧ q.tunnel = some t

/-- The index and the pump are those of the live peers. -/
structure Server.Inv (s : Server) : Prop where
  keyed : s.table.Keyed Peer.cookie
  ledger : Exclusive s.holds s.pool.used
  pump : ∀ t, t ∈ s.pump ↔ ∃ p, s.Owns p t
  nodup : s.pump.Nodup
  owns : ∀ p t, s.Owns p t → s.holds p = some (be32 t.inner 0)

/-- The peer whose removal the event calls for. -/
def Server.removes (s : Server) : Event → Option ℕ
  | .failed p => some p
  | .established p _ =>
    if (s.table.peers[p]?).any fun q => (q.innerIP.bind to4).isNone then some p else none
  | _ => none

/-- The event gives the address of the peer back to the pool. -/
def Server.gives (s : Server) (p : ℕ) (e : Event) : Bool :=
  s.table.gives Peer.cookie Peer.innerIP (s.removes e) p

/-- Callbacks in order: they are of live peers, and each peer is given an address and a tunnel once;
only `Failed` may be of a peer that is gone already, unless another peer has its cookie. -/
def Server.InOrder (s : Server) : Event → Prop
  | .assign p => s.table.Live Peer.cookie p ∧ ∀ q, s.table.peers[p]? = some q → q.innerIP = none
  | .established p _ => s.table.Live Peer.cookie p ∧
      ∀ q, s.table.peers[p]? = some q → q.tunnel = none
  | .failed p => s.table.Untaken Peer.cookie p
  | _ => True

instance (s : Server) : DecidablePred s.InOrder
  | .ike .. => isTrue trivial
  | .assign p => inferInstanceAs (Decidable (s.table.Live Peer.cookie p ∧
      ∀ q ∈ s.table.peers[p]?, q.innerIP = none))
  | .established p _ => inferInstanceAs (Decidable (s.table.Live Peer.cookie p ∧
      ∀ q ∈ s.table.peers[p]?, q.tunnel = none))
  | .failed p => inferInstanceAs (Decidable (s.table.Untaken Peer.cookie p))

variable {f : Peer → Peer} {e : Event}

section Steps

variable {s : Server} {p : ℕ}

namespace Server

lemma Inv.live (h : s.Inv) {t : Tunnel} (ht : s.Owns p t) : s.table.Live Peer.cookie p := by
  obtain ⟨q, ip, hq, hl, -⟩ := live_of_holds (h.owns p t ht)
  exact ⟨q, hq, hl⟩

/-- The tunnels when a peer changes. -/
lemma owns_modify (j : ℕ) (t : Tunnel) : (s.modify p f).Owns j t ↔
      if p = j then ∃ q, s.table.peers[j]? = some q ∧ (f q).tunnel = some t else s.Owns j t := by
  unfold Owns
  rw [show (s.modify p f).table = s.table.modify p f from rfl, modify_peers]
  split_ifs
  · cases s.table.peers[j]? <;> simp
  · rfl

lemma owns_modify_same (htunnel : ∀ q, (f q).tunnel = q.tunnel) (j : ℕ) (t : Tunnel) :
    (s.modify p f).Owns j t ↔ s.Owns j t := by
  rw [owns_modify]
  simp only [htunnel]
  exact ite_self _ |>.to_iff

/-- A change of a peer that touches neither its cookie nor its tunnel nor its address. -/
lemma Inv.modify (h : s.Inv) (hcookie : ∀ q, (f q).cookie = q.cookie)
    (htunnel : ∀ q, (f q).tunnel = q.tunnel) (hip : ∀ q, (f q).innerIP = q.innerIP) :
    (s.modify p f).Inv := by
  have hholds : (s.modify p f).holds = s.holds :=
    funext fun j => holds_modify hcookie j fun _ q _ => hip q
  refine ⟨h.keyed.modify hcookie, hholds ▸ h.ledger, fun t => ?_, h.nodup, fun j t ht => ?_⟩
  · exact (h.pump t).trans (exists_congr fun j => (owns_modify_same htunnel j t).symm)
  · rw [hholds]
    exact h.owns j t ((owns_modify_same htunnel j t).mp ht)

lemma Inv.peerFor (h : s.Inv) (cookie : Bytes) (addr : UDPAddr) (now : ℤ) :
    (s.peerFor cookie addr now).1.Inv := by
  have hholds : (s.peerFor cookie addr now).1.holds = s.holds :=
    holds_peerFor addr now rfl
  have howns : ∀ j t, (s.peerFor cookie addr now).1.Owns j t ↔ s.Owns j t := by
    intro j t
    constructor
    · rintro ⟨q, hq, ht⟩
      rcases peerFor_inv addr now Peer.cookie hq with ⟨hq', -⟩ | ⟨rfl, -⟩
      · exact ⟨q, hq', ht⟩
      · cases ht
    · rintro ⟨q, hq, ht⟩
      exact ⟨q, (peerFor_mono s.table cookie addr now _).1 j q hq, ht⟩
  refine ⟨h.keyed.peerFor addr now rfl, hholds ▸ h.ledger, fun t => ?_, h.nodup, fun j t ht => ?_⟩
  · exact (h.pump t).trans (exists_congr fun j => (howns j t).symm)
  · rw [hholds]
    exact h.owns j t ((howns j t).mp ht)

lemma Inv.dispatchIKE (h : s.Inv) (msg : Bytes) (addr : UDPAddr) (natt verified : Bool)
    (now : ℤ) : (s.dispatchIKE msg addr natt verified now).Inv := by
  unfold Server.dispatchIKE
  split
  · exact h
  rename_i cookie _
  have hpeer := h.peerFor cookie addr now
  generalize s.peerFor cookie addr now = r at hpeer ⊢
  obtain ⟨s', found⟩ := r
  cases found with
  | none => exact hpeer
  | some p =>
    refine hpeer.modify (fun q => ?_) (fun q => ?_) (fun q => ?_) <;>
      · unfold Peer.noteIKEAddr
        split_ifs <;> rfl

lemma Inv.assign (h : s.Inv) (hC : s.InOrder (.assign p)) : (s.assign p).Inv := by
  unfold Server.assign
  split
  · exact h
  rename_i ip pool halloc
  obtain ⟨hl, hfirst⟩ := hC
  obtain ⟨v, hip, hv, hfree, hpool⟩ := AddrPool.allocate_spec halloc
  have hcookie : ∀ q : Peer, ({ q with innerIP := some ip } : Peer).cookie = q.cookie :=
    fun _ => rfl
  have hholds : holds { s with
      pool, table := s.table.modify p ({ · with innerIP := some ip }) } =
      update s.holds p (some v) := by
    refine (holds_modify_give hcookie hl fun _ => rfl).trans ?_
    rw [hip, hostOf_u32IP hv]
    rfl
  have howns : ∀ j t, Owns { s with
      pool, table := s.table.modify p ({ · with innerIP := some ip }) } j t ↔ s.Owns j t :=
    owns_modify_same (s := s) (fun _ => rfl)
  refine ⟨h.keyed.modify fun _ => rfl, ?_, fun t => ?_, h.nodup, fun j t ht => ?_⟩
  · rw [hholds, hpool]
    exact h.ledger.give p hfree
  · exact (h.pump t).trans (exists_congr fun j => (howns j t).symm)
  · have hold := h.owns j t ((howns j t).mp ht)
    have hjp : j ≠ p := by
      rintro rfl
      obtain ⟨q, ip', hq, -, hqip, -⟩ := live_of_holds hold
      cases (hfirst q hq).symm.trans hqip
    rw [hholds, update_of_ne hjp]
    exact hold

/-- `removePeer` of a peer that is gone does nothing. -/
lemma removePeer_of_not_live (hC : s.table.Untaken Peer.cookie p)
    (hl : ¬ s.table.Live Peer.cookie p) : s.removePeer p = s :=
  removePeer_of_not_removable fun ⟨_, hq, hmem⟩ => hC.notMem hl hq hmem

lemma Inv.removed (h : s.Inv) {q : Peer} (hq : s.table.peers[p]? = some q)
    (hl : s.table.byCookie.lookup q.cookie = some p) :
    (s.removePeer p).table = (s.table.drop q.cookie).modify p ({ · with tunnel := none }) ∧
    (∀ t, t ∈ (s.removePeer p).pump ↔ t ∈ s.pump ∧ ¬ s.Owns p t) ∧
    (s.removePeer p).pump.Nodup ∧
    (s.removePeer p).pool.used = unmark s.pool.used (s.holds p) := by
  have hmem : q.cookie ∈ s.table.byCookie := AList.lookup_isSome.mp (by rw [hl]; rfl)
  have hholds : s.holds p = q.innerIP.bind hostOf := holds_eq hq ⟨q, hq, hl⟩
  have howns : ∀ t, s.Owns p t ↔ q.tunnel = some t := fun t =>
    ⟨fun ⟨q', hq', ht⟩ => some.inj (hq'.symm.trans hq) ▸ ht, fun ht => ⟨q, hq, ht⟩⟩
  simp only [removePeer, hq, if_pos hmem, howns]
  refine ⟨trivial, fun t => ?_, ?_, ?_⟩
  · cases q.tunnel with
    | none => simp
    | some t' =>
      simp only [h.nodup.mem_erase_iff, some.injEq]
      exact ⟨fun ht => ⟨ht.2, fun he => ht.1 he.symm⟩, fun ht => ⟨fun he => ht.2 he.symm, ht.1⟩⟩
  · cases q.tunnel with
    | none => exact h.nodup
    | some t' => exact h.nodup.erase t'
  · rw [hholds]
    cases q.innerIP with
    | none => rfl
    | some ip => exact s.pool.release_used ip

lemma Inv.removePeer (h : s.Inv) (hC : s.table.Untaken Peer.cookie p) : (s.removePeer p).Inv := by
  by_cases hl : s.table.Live Peer.cookie p
  · obtain ⟨q, hq, hl⟩ := hl
    obtain ⟨htable, hpump, hnodup, hpool⟩ := h.removed hq hl
    have hholds : (s.removePeer p).holds = update s.holds p none := by
      rw [holds, htable]
      refine (funext fun j => holds_modify ?_ j fun _ _ _ => ?_).trans
        (holds_drop h.keyed hq hl)
      · exact fun _ => rfl
      · rfl
    have howns : ∀ j t, (s.removePeer p).Owns j t ↔ s.Owns j t ∧ j ≠ p := by
      intro j t
      unfold Owns
      rw [htable, modify_peers]
      split_ifs with hj
      · subst hj
        cases s.table.peers[p]? <;> simp
      · exact ⟨fun ht => ⟨ht, fun he => hj he.symm⟩, fun ht => ht.1⟩
    refine ⟨?_, ?_, fun t => ?_, hnodup, fun j t ht => ?_⟩
    · rw [htable]
      exact (h.keyed.drop q.cookie).modify fun _ => rfl
    · rw [hholds, hpool]
      exact h.ledger.release p
    · rw [hpump, h.pump]
      simp only [howns]
      constructor
      · rintro ⟨⟨j, hj⟩, hnot⟩
        exact ⟨j, hj, fun he => hnot (he ▸ hj)⟩
      · rintro ⟨j, hj, hne⟩
        refine ⟨⟨j, hj⟩, fun hp => hne ?_⟩
        exact h.ledger.unique j p _ (h.owns j t hj) (h.owns p t hp)
    · obtain ⟨hold, hne⟩ := (howns j t).mp ht
      rw [hholds, update_of_ne hne]
      exact h.owns j t hold
  · rw [removePeer_of_not_live hC hl]
    exact h

lemma Inv.established (h : s.Inv) {inSPI : UInt32}
    (hC : s.InOrder (.established p inSPI)) : (s.established p inSPI).Inv := by
  obtain ⟨hl, hfirst⟩ := hC
  unfold Server.established
  split
  · exact h
  rename_i q hq
  split
  · exact h.removePeer hl.untaken
  rename_i inner hinner
  obtain ⟨ip, hip, hto4⟩ := bind_eq_some_iff.mp hinner
  have hown : s.holds p = some (be32 inner 0) := by
    rw [holds, holds_eq hq hl, hip, bind_some, hostOf, hto4]
    rfl
  have hnone : ∀ t, ¬ s.Owns p t := by
    rintro t ⟨q', hq', ht⟩
    cases (hfirst q' hq').symm.trans ht
  generalize ht₀ : ({ inSPI, inner, peerAddr := q.nattAddr } : Tunnel) = t₀
  have hcookie : ∀ q : Peer, ({ q with tunnel := some t₀ } : Peer).cookie = q.cookie :=
    fun _ => rfl
  have hholds : (s.modify p ({ · with tunnel := some t₀ })).holds = s.holds :=
    funext fun j => holds_modify hcookie j fun _ _ _ => rfl
  have howns : ∀ j t, (s.modify p ({ · with tunnel := some t₀ })).Owns j t ↔
      s.Owns j t ∨ j = p ∧ t = t₀ := by
    intro j t
    rw [owns_modify]
    split_ifs with hj
    · subst hj
      simp [hq, hnone t, eq_comm]
    · exact ⟨.inl, fun hor => hor.resolve_right fun hr => hj hr.1.symm⟩
  refine ⟨h.keyed.modify hcookie, hholds ▸ h.ledger, fun t => ?_, ?_, fun j t ht => ?_⟩
  · rw [mem_append, mem_singleton, h.pump]
    refine Iff.trans ?_ (exists_congr fun j => (howns j t).symm)
    rw [exists_or]
    simp
  · refine nodup_append.mpr ⟨h.nodup, nodup_singleton t₀, ?_⟩
    rintro t htp _ hmem rfl
    obtain ⟨j, hj⟩ := (h.pump t).mp htp
    obtain rfl := mem_singleton.mp hmem
    have hheld := h.owns j t hj
    rw [← ht₀] at hheld
    obtain rfl := h.ledger.unique j p _ hheld hown
    exact hnone t hj
  · have hgoal : s.holds j = some (be32 t.inner 0) := by
      rcases (howns j t).mp ht with hold | ⟨rfl, rfl⟩
      · exact h.owns j t hold
      · rw [hown, ← ht₀]
    exact (congrFun hholds j).trans hgoal

lemma Inv.step (h : s.Inv) (hC : s.InOrder e) : (s.step e).Inv := by
  cases e with
  | ike msg addr natt verified now => exact h.dispatchIKE msg addr natt verified now
  | assign p => exact h.assign hC
  | established p inSPI => exact h.established hC
  | failed p => exact h.removePeer hC

/-! ## What a removal does -/

/-- Every entry of another peer is still there, and none refers to this one. -/
structure Exact (s s' : Server) (p : ℕ) : Prop where
  byCookie : ∀ c j, s'.table.byCookie.lookup c = some j ↔
    s.table.byCookie.lookup c = some j ∧ j ≠ p
  pump : ∀ t, t ∈ s'.pump ↔ t ∈ s.pump ∧ ¬ s.Owns p t

lemma Inv.exact (h : s.Inv) (hC : s.table.Untaken Peer.cookie p) : s.Exact (s.removePeer p) p := by
  by_cases hl : s.table.Live Peer.cookie p
  · obtain ⟨q, hq, hl⟩ := hl
    obtain ⟨htable, hpump, -⟩ := h.removed hq hl
    refine ⟨fun c j => ?_, hpump⟩
    rw [htable]
    exact drop_lookup h.keyed hq hl c j
  · rw [removePeer_of_not_live hC hl]
    exact ⟨fun c => iff_and_ne fun hj => hl (h.keyed.live hj),
      fun t => ⟨fun ht => ⟨ht, fun hown => hl (h.live hown)⟩, And.left⟩⟩

lemma step_of_removes (hC : s.InOrder e) (he : s.removes e = some p) :
    s.step e = s.removePeer p ∧ s.table.Untaken Peer.cookie p := by
  cases e with
  | failed p' =>
    obtain rfl := some.inj he
    exact ⟨rfl, hC⟩
  | established p' inSPI =>
    simp only [removes] at he
    split_ifs at he with hnone
    obtain rfl := some.inj he
    refine ⟨?_, hC.1.untaken⟩
    obtain ⟨q, hq, hip⟩ := (Option.any_eq_true ..).mp hnone
    simp only [step, established, hq, isNone_iff_eq_none.mp hip]
  | _ => cases he

/-- The peer has had an address and is gone. -/
def Returned (s : Server) (p : ℕ) : Prop := s.table.Returned Peer.cookie Peer.innerIP p

/-- No other event takes a peer away, or brings one back. -/
lemma returned_of_keeps (hC : s.InOrder e) (he : s.removes e = none) (j : ℕ) :
    (s.step e).Returned j ↔ s.Returned j := by
  cases e with
  | ike msg addr natt verified now =>
    simp only [step, dispatchIKE]
    split
    · rfl
    rename_i cookie _
    have hpeer : (s.peerFor cookie addr now).1.Returned j ↔ s.Returned j :=
      returned_peerFor addr now rfl
    generalize s.peerFor cookie addr now = r at hpeer ⊢
    obtain ⟨s', found⟩ := r
    cases found with
    | none => exact hpeer
    | some p =>
      refine (returned_modify (fun q => ?_) (.inl fun q => ?_) j).trans hpeer <;>
        · unfold Peer.noteIKEAddr
          split_ifs <;> rfl
  | assign p =>
    simp only [step, assign]
    split
    · rfl
    · refine returned_modify ?_ (.inr hC.1) j
      exact fun _ => rfl
  | established p inSPI =>
    simp only [step, established]
    split
    · rfl
    rename_i q hq
    split
    · rename_i hnone
      simp only [removes, hq, any_some, hnone] at he
      cases he
    · refine returned_modify ?_ (.inr hC.1) j
      exact fun _ => rfl
  | failed p => cases he

/-- **One release.**  An event gives the address of a peer back exactly when the peer had it and
goes with this event. -/
lemma Inv.gives_iff (h : s.Inv) (hC : s.InOrder e) : (s.Returned p → (s.step e).Returned p) ∧
      (s.gives p e = true ↔ ¬ s.Returned p ∧ (s.step e).Returned p) := by
  refine PeerTable.gives_iff h.keyed (fun p' he => (step_of_removes hC he).2) (fun hnot => ?_)
    (fun p' q he hq hl => ?_)
  · cases he : s.removes e with
    | none => exact returned_of_keeps hC he p
    | some p' =>
      obtain ⟨hstep, hC'⟩ := step_of_removes hC he
      rw [hstep, removePeer_of_not_live hC' (hnot p' he)]
  · rw [(step_of_removes hC he).1, (h.removed hq hl).1]
    refine returned_modify ?_ (.inl ?_) p
    · exact fun _ => rfl
    · exact fun _ => rfl

end Server

end Steps

/-! ## Whole runs -/

lemma inv_newServer (pool : AddrPool) (now : ℤ) : (newServer pool now).Inv := by
  have hnone : ∀ p t, ¬ (newServer pool now).Owns p t := by
    rintro p t ⟨q, hq, -⟩
    cases hq
  refine ⟨nofun, (Exclusive.empty pool.used).mono nofun, fun t => ⟨nofun, ?_⟩, nodup_nil,
    fun p t ht => absurd ht (hnone p t)⟩
  rintro ⟨p, hp⟩
  exact absurd hp (hnone p t)

/-- What holds of a run whose callbacks come in order. -/
structure RemovalExact (s₀ : Server) (es : List Event) : Prop where
  /-- A removal takes the entries of the peer from the index and the pump, and no others. -/
  exact : Along Server.step (fun s e => ∀ p, s.removes e = some p → s.Exact (s.step e) p) s₀ es
  /-- What is routed is routed to a live peer and in use. -/
  routed : Always Server.step (fun s => ∀ t ∈ s.pump,
    (∃ p, s.Owns p t ∧ s.table.Live Peer.cookie p) ∧ be32 t.inner 0 ∈ s.pool.used) s₀ es
  /-- The address of a peer is given back once, when the peer goes. -/
  once : ∀ p q, (run Server.step s₀ es).table.peers[p]? = some q → q.innerIP.isSome →
    ((run Server.step s₀ es).table.Live Peer.cookie p →
      (trace Server.step s₀ es).countP (fun x => x.1.gives p x.2) = 0) ∧
    (¬ (run Server.step s₀ es).table.Live Peer.cookie p →
      (trace Server.step s₀ es).countP (fun x => x.1.gives p x.2) = 1)

lemma removalExact_of_inOrder (pool : AddrPool) (now : ℤ) (es : List Event)
    (hrun : Along Server.step Server.InOrder (newServer pool now) es) :
    RemovalExact (newServer pool now) es := by
  classical
  refine ⟨?_, ?_, fun p q hq hip => ?_⟩
  · refine along_of_inv Server.Inv (fun s e h hC => h.step hC) (fun s e h hC p he => ?_) _ es
      (inv_newServer pool now) hrun
    obtain ⟨hstep, hC'⟩ := step_of_removes hC he
    rw [hstep]
    exact h.exact hC'
  · refine always_of_inv Server.Inv (fun s e h hC => h.step hC) (fun s h t ht => ?_) _ es
      (inv_newServer pool now) hrun
    obtain ⟨p, hp⟩ := (h.pump t).mp ht
    exact ⟨⟨p, hp, h.live hp⟩, h.ledger.used p _ (h.owns p t hp)⟩
  · have hcount := count_fires Server.Inv (fun s => s.Returned p) (fun s e => s.gives p e)
      (fun s e h hC => ⟨h.step hC, h.gives_iff hC⟩) _ es (inv_newServer pool now) hrun
    have hstart : ¬ (newServer pool now).Returned p := by
      rintro ⟨q, hq, -⟩
      cases hq
    have hiff : (run step (newServer pool now) es).Returned p ↔
        ¬ (run step (newServer pool now) es).table.Live Peer.cookie p :=
      returned_iff hq hip
    rw [if_neg hstart, Nat.add_zero] at hcount
    rw [hcount]
    exact ⟨fun hl => if_neg fun hr => hiff.mp hr hl, fun hl => if_pos (hiff.mpr hl)⟩

end Veepin.Cisco
