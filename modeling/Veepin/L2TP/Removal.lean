import Veepin.Dataplane.PeerLedger
import Veepin.L2TP.Server

/-!
# Removing a peer of the L2TP/IPsec server

`removePeer` deletes what it finds under the cookie, the SPI and the inner address of the peer.
`Server.Inv` says that these are the peer's own as long as the callbacks come in order
(`Server.InOrder`): a callback is of a live peer, or of one whose cookie nobody else has taken.
-/

namespace Veepin.L2TP

open Option Server PeerTable

/-- The addresses that live peers hold. -/
def Server.holds (s : Server) : ℕ → Option ℕ := s.table.holds Peer.cookie Peer.innerIP

/-- The indexes are those of the live peers. -/
structure Server.Inv (s : Server) : Prop where
  keyed : s.table.Keyed Peer.cookie
  ledger : Exclusive s.holds s.pool.used
  bySPI : ∀ spi p, s.bySPI.lookup spi = some p ↔ spi ≠ 0 ∧ ∃ q, s.table.peers[p]? = some q ∧
    s.table.byCookie.lookup q.cookie = some p ∧ q.inSPI = spi
  byIP : ∀ a p, s.byIP.lookup a = some p → s.holds p = some a

/-- The peer whose removal the event calls for. -/
def Server.removes (s : Server) : Event → Option ℕ
  | .gone p => some p
  | .sessionUp p => if s.pool.allocate.isNone then some p else none
  | _ => none

/-- The event gives the address of the peer back to the pool. -/
def Server.gives (s : Server) (p : ℕ) (e : Event) : Bool :=
  s.table.gives Peer.cookie Peer.innerIP (s.removes e) p

/-- Callbacks in order: they are of live peers, with an SPI that is no other peer's, and each peer
is given an SA and an address once; only the callbacks that remove a peer may be of one that is gone
already, unless another peer has its cookie. -/
def Server.InOrder (s : Server) : Event → Prop
  | .established p inSPI => s.table.Live Peer.cookie p ∧ inSPI ≠ 0 ∧ s.bySPI.lookup inSPI = none ∧
      ∀ q, s.table.peers[p]? = some q → q.inSPI = 0
  | .sessionUp p => s.table.Live Peer.cookie p ∧
      ∀ q, s.table.peers[p]? = some q → q.innerIP = none
  | .networkUp p => s.table.Live Peer.cookie p
  | .gone p => s.table.Untaken Peer.cookie p
  | _ => True

instance (s : Server) : DecidablePred s.InOrder
  | .ike .. => isTrue trivial
  | .esp .. => isTrue trivial
  | .established p inSPI => inferInstanceAs (Decidable (s.table.Live Peer.cookie p ∧ inSPI ≠ 0 ∧
      s.bySPI.lookup inSPI = none ∧ ∀ q ∈ s.table.peers[p]?, q.inSPI = 0))
  | .sessionUp p => inferInstanceAs (Decidable (s.table.Live Peer.cookie p ∧
      ∀ q ∈ s.table.peers[p]?, q.innerIP = none))
  | .networkUp p => inferInstanceAs (Decidable (s.table.Live Peer.cookie p))
  | .gone p => inferInstanceAs (Decidable (s.table.Untaken Peer.cookie p))

variable {f : Peer → Peer} {e : Event}

section Steps

variable {s : Server} {p : ℕ}

/-- The entry of an SPI in terms of peers. -/
def Server.HasSPI (s : Server) (spi : UInt32) (p : ℕ) : Prop :=
  ∃ q, s.table.peers[p]? = some q ∧ s.table.byCookie.lookup q.cookie = some p ∧ q.inSPI = spi

/-- A change of a peer that keeps its cookie and its SPI. -/
lemma hasSPI_modify (hcookie : ∀ q, (f q).cookie = q.cookie) (hspi : ∀ q, (f q).inSPI = q.inSPI)
    (spi : UInt32) (j : ℕ) : (s.modify p f).HasSPI spi j ↔ s.HasSPI spi j := by
  unfold Server.HasSPI
  rw [show (s.modify p f).table = s.table.modify p f from rfl, modify_peers]
  split_ifs
  · cases hq : s.table.peers[j]? with
    | none => simp
    | some q =>
      simp only [map_some, some.injEq, exists_eq_left']
      rw [hcookie, hspi]
      rfl
  · rfl

/-- A change of a peer that keeps its cookie and its address. -/
lemma holds_modify (hcookie : ∀ q, (f q).cookie = q.cookie) (hip : ∀ q, (f q).innerIP = q.innerIP) :
    (s.modify p f).holds = s.holds :=
  funext fun j => PeerTable.holds_modify hcookie j fun _ q _ => hip q

namespace Server

/-- A change of a peer that touches neither its cookie nor its SPI nor its address. -/
lemma Inv.modify (h : s.Inv) (hcookie : ∀ q, (f q).cookie = q.cookie)
    (hspi : ∀ q, (f q).inSPI = q.inSPI) (hip : ∀ q, (f q).innerIP = q.innerIP) :
    (s.modify p f).Inv := by
  have hholds := holds_modify (s := s) (p := p) hcookie hip
  refine ⟨h.keyed.modify hcookie, hholds ▸ h.ledger, fun spi j => ?_, fun a j hj => ?_⟩
  · exact (h.bySPI spi j).trans (and_congr_right fun _ => (hasSPI_modify hcookie hspi spi j).symm)
  · rw [hholds]
    exact h.byIP a j hj

lemma Inv.peerFor (h : s.Inv) (cookie : Bytes) (addr : UDPAddr) (now : ℤ) :
    (s.peerFor cookie addr now).1.Inv := by
  have hholds : (s.peerFor cookie addr now).1.holds = s.holds :=
    holds_peerFor addr now rfl
  refine ⟨h.keyed.peerFor addr now rfl, hholds ▸ h.ledger, fun spi j => ?_, fun a j hj => ?_⟩
  · refine (h.bySPI spi j).trans (and_congr_right fun hne => ?_)
    constructor
    · rintro ⟨q, hq, hl, hspi⟩
      have hmono := peerFor_mono s.table cookie addr now
        { cookie, addr, nattAddr := { ip := addr.ip, port := nattPort } }
      exact ⟨q, hmono.1 j q hq, hmono.2 _ j hl, hspi⟩
    · rintro ⟨q, hq, hl, hspi⟩
      rcases peerFor_inv addr now Peer.cookie hq with ⟨hq', hiff⟩ | ⟨rfl, -⟩
      · exact ⟨q, hq', hiff.mp hl, hspi⟩
      · exact absurd hspi.symm hne
  · rw [hholds]
    exact h.byIP a j hj

lemma Inv.dispatchIKE (h : s.Inv) (msg : Bytes) (addr : UDPAddr) (natt verified : Bool)
    (now : ℤ) : (s.dispatchIKE msg addr natt verified now).Inv := by
  unfold Server.dispatchIKE
  split
  · exact h
  rename_i cookie _
  have hpeer := h.peerFor cookie addr now
  generalize s.peerFor cookie addr now = r at hpeer ⊢
  obtain ⟨s', found⟩ := r
  cases found with
  | none => exact hpeer
  | some p =>
    refine hpeer.modify (fun q => ?_) (fun q => ?_) (fun q => ?_) <;>
      · unfold Peer.noteIKEAddr
        split_ifs <;> rfl

lemma Inv.receiveESP (h : s.Inv) (pkt : Bytes) (addr : UDPAddr) (authenticated : Bool) :
    (s.receiveESP pkt addr authenticated).Inv := by
  unfold Server.receiveESP
  split_ifs
  · exact h
  · split
    · exact h
    · refine h.modify (fun q => ?_) (fun q => ?_) (fun q => ?_) <;>
        · unfold Peer.noteAddr
          split_ifs <;> rfl

lemma Inv.established (h : s.Inv) {inSPI : UInt32}
    (hC : s.InOrder (.established p inSPI)) : (s.established p inSPI).Inv := by
  obtain ⟨⟨q, hq, hl⟩, hne, hfree, hfirst⟩ := hC
  have hcookie : ∀ q : Peer, ({ q with established := true, inSPI := inSPI } : Peer).cookie =
      q.cookie := fun _ => rfl
  have hholds : (s.established p inSPI).holds = s.holds := holds_modify hcookie fun _ => rfl
  have hpeers : ∀ j, (s.established p inSPI).table.peers[j]? = if p = j then
      (s.table.peers[j]?).map ({ · with established := true, inSPI := inSPI }) else
      s.table.peers[j]? := modify_peers s.table p _
  refine ⟨h.keyed.modify hcookie, hholds ▸ h.ledger, fun spi j => ?_, fun a j hj => ?_⟩
  · rw [show (s.established p inSPI).bySPI = s.bySPI.insert inSPI p from rfl, lookup_insert_eq_ite,
      hpeers]
    by_cases hj : p = j
    · subst hj
      rw [if_pos rfl, hq]
      split_ifs with hspi
      · subst hspi
        exact ⟨fun _ => ⟨hne, _, rfl, hl, rfl⟩, fun _ => rfl⟩
      · refine ⟨fun hold => ?_, ?_⟩
        · obtain ⟨hne', q', hq', -, hq'spi⟩ := (h.bySPI spi p).mp hold
          exact absurd (hq'spi.symm.trans (hfirst q' hq')) hne'
        · rintro ⟨-, _, ⟨⟩, -, rfl⟩
          exact absurd rfl hspi
    · rw [if_neg hj]
      split_ifs with hspi
      · subst hspi
        refine ⟨fun he => absurd (some.inj he) hj, fun hhas => ?_⟩
        cases hfree.symm.trans ((h.bySPI spi j).mpr hhas)
      · exact h.bySPI spi j
  · rw [hholds]
    exact h.byIP a j hj

/-- **`SessionUp`** with an address. -/
lemma Inv.allocate (h : s.Inv) {ip : Bytes} {pool : AddrPool}
    (halloc : s.pool.allocate = some (ip, pool)) (hl : s.table.Live Peer.cookie p)
    (hfirst : ∀ q, s.table.peers[p]? = some q → q.innerIP = none) :
    Inv { s with pool, table := s.table.modify p ({ · with innerIP := some ip }) } := by
  obtain ⟨v, hip, hv, hfree, hpool⟩ := AddrPool.allocate_spec halloc
  have hcookie : ∀ q : Peer, ({ q with innerIP := some ip } : Peer).cookie = q.cookie :=
    fun _ => rfl
  have hholds : holds { s with
      pool, table := s.table.modify p ({ · with innerIP := some ip }) } =
      Function.update s.holds p (some v) := by
    refine (holds_modify_give hcookie hl fun _ => rfl).trans ?_
    rw [hip, hostOf_u32IP hv]
    rfl
  refine ⟨h.keyed.modify hcookie, ?_, fun spi j => ?_, fun a j hj => ?_⟩
  · rw [hholds, hpool]
    exact h.ledger.give p hfree
  · exact (h.bySPI spi j).trans (and_congr_right fun _ =>
      (hasSPI_modify hcookie (fun _ => rfl) spi j).symm)
  · have hold := h.byIP a j hj
    have hjp : j ≠ p := by
      rintro rfl
      obtain ⟨q, ip', hq, -, hqip, -⟩ := live_of_holds hold
      cases (hfirst q hq).symm.trans hqip
    rw [hholds, Function.update_of_ne hjp]
    exact hold

lemma Inv.networkUp (h : s.Inv) (hl : s.table.Live Peer.cookie p) : (s.networkUp p).Inv := by
  have hmod : (s.modify p ({ · with up := true })).Inv :=
    h.modify (fun _ => rfl) (fun _ => rfl) fun _ => rfl
  unfold Server.networkUp
  dsimp only
  split
  · exact hmod
  rename_i v4 hv4
  refine { hmod with byIP := fun a j hj => ?_ }
  rw [lookup_insert_eq_ite] at hj
  split_ifs at hj with ha
  · obtain rfl := some.inj hj
    obtain ⟨q, hq, hlq⟩ := hl
    have hholds : (s.modify p ({ · with up := true })).holds = s.holds :=
      holds_modify (fun _ => rfl) fun _ => rfl
    have hip : q.innerIP.bind to4 = some v4 := by simpa [hq] using hv4
    obtain ⟨ip, hqip, hto4⟩ := bind_eq_some_iff.mp hip
    refine (congrFun hholds p).trans ((holds_eq hq ⟨q, hq, hlq⟩).trans ?_)
    rw [hqip, bind_some, hostOf, hto4, ha]
    rfl
  · exact hmod.byIP a j hj

/-- `removePeer` of a peer that is gone does nothing. -/
lemma removePeer_of_not_live (hC : s.table.Untaken Peer.cookie p)
    (hl : ¬ s.table.Live Peer.cookie p) : s.removePeer p = s :=
  removePeer_of_not_removable fun ⟨_, hq, hmem⟩ => hC.notMem hl hq hmem

/-- `removePeer` of a live peer: what goes from the indexes is what refers to it. -/
lemma Inv.removed (h : s.Inv) {q : Peer} (hq : s.table.peers[p]? = some q)
    (hl : s.table.byCookie.lookup q.cookie = some p) :
    (s.removePeer p).table = s.table.drop q.cookie ∧
    (∀ spi j, (s.removePeer p).bySPI.lookup spi = some j ↔ s.bySPI.lookup spi = some j ∧ j ≠ p) ∧
    (∀ a j, (s.removePeer p).byIP.lookup a = some j ↔ s.byIP.lookup a = some j ∧ j ≠ p) ∧
    (s.removePeer p).pool.used = unmark s.pool.used (s.holds p) := by
  have hmem : q.cookie ∈ s.table.byCookie := AList.lookup_isSome.mp (by rw [hl]; rfl)
  have hholds : s.holds p = q.innerIP.bind hostOf := holds_eq hq ⟨q, hq, hl⟩
  simp only [removePeer, hq, if_pos hmem]
  refine ⟨trivial, fun spi j => ?_, fun a j => ?_, ?_⟩
  · have hmine : s.bySPI.lookup spi = some p → q.inSPI = spi ∧ spi ≠ 0 := fun he => by
      obtain ⟨hne, q', hq', -, hspi⟩ := (h.bySPI spi p).mp he
      exact ⟨some.inj (hq'.symm.trans hq) ▸ hspi, hne⟩
    split_ifs with h0
    · rw [lookup_erase_eq_ite]
      split_ifs with hspi
      · rw [hspi, (h.bySPI q.inSPI p).mpr ⟨h0, q, hq, hl, rfl⟩]
        simp only [some.injEq, false_iff, not_and, not_not]
        exact fun he => he.symm
      · exact iff_and_ne (fun he => hspi (hmine he).1.symm) j
    · exact iff_and_ne (fun he => h0 ((hmine he).1 ▸ (hmine he).2)) j
  · cases hv4 : q.innerIP.bind to4 with
    | none =>
      refine iff_and_ne (fun he => ?_) j
      obtain ⟨ip, hip, ha⟩ := bind_eq_some_iff.mp (hholds.symm.trans (h.byIP a p he))
      obtain ⟨v4, hto4, -⟩ := map_eq_some_iff.mp ha
      rw [hip, bind_some, hto4] at hv4
      cases hv4
    | some v4 =>
      obtain ⟨ip, hip, hto4⟩ := bind_eq_some_iff.mp hv4
      have hown : s.holds p = some (be32 v4 0) := by
        rw [hholds, hip, bind_some, hostOf, hto4]
        rfl
      rw [lookup_erase_eq_ite]
      split_ifs with ha
      · simp only [false_iff, not_and, not_not]
        exact fun he => h.ledger.unique j p a (h.byIP a j he) (ha ▸ hown)
      · exact iff_and_ne (fun he => ha (some.inj ((h.byIP a p he).symm.trans hown))) j
  · rw [hholds]
    cases q.innerIP with
    | none => rfl
    | some ip => exact s.pool.release_used ip

lemma Inv.removePeer (h : s.Inv) (hC : s.table.Untaken Peer.cookie p) : (s.removePeer p).Inv := by
  by_cases hl : s.table.Live Peer.cookie p
  · obtain ⟨q, hq, hl⟩ := hl
    obtain ⟨htable, hspi, hip, hpool⟩ := h.removed hq hl
    have hholds : (s.removePeer p).holds = Function.update s.holds p none := by
      rw [holds, htable]
      exact holds_drop h.keyed hq hl
    refine ⟨htable ▸ h.keyed.drop q.cookie, ?_, fun spi j => ?_, fun a j hj => ?_⟩
    · rw [hholds, hpool]
      exact h.ledger.release p
    · rw [hspi, h.bySPI, htable]
      simp only [drop_lookup h.keyed hq hl]
      constructor
      · rintro ⟨⟨hne, q', hq', hl', hs'⟩, hjp⟩
        exact ⟨hne, q', hq', ⟨hl', hjp⟩, hs'⟩
      · rintro ⟨hne, q', hq', ⟨hl', hjp⟩, hs'⟩
        exact ⟨⟨hne, q', hq', hl', hs'⟩, hjp⟩
    · obtain ⟨hold, hjp⟩ := (hip a j).mp hj
      rw [hholds, Function.update_of_ne hjp]
      exact h.byIP a j hold
  · rw [removePeer_of_not_live hC hl]
    exact h

lemma Inv.step (h : s.Inv) (hC : s.InOrder e) : (s.step e).Inv := by
  cases e with
  | ike msg addr natt verified now => exact h.dispatchIKE msg addr natt verified now
  | esp pkt addr authenticated => exact h.receiveESP pkt addr authenticated
  | established p inSPI => exact h.established hC
  | sessionUp p =>
    simp only [step, sessionUp]
    split
    · exact h.removePeer hC.1.untaken
    · rename_i ip pool halloc
      exact h.allocate halloc hC.1 hC.2
  | networkUp p => exact h.networkUp hC
  | gone p => exact h.removePeer hC

/-! ## What a removal does -/

/-- Every entry of another peer is still there, and none refers to this one. -/
structure Exact (s s' : Server) (p : ℕ) : Prop where
  byCookie : ∀ c j, s'.table.byCookie.lookup c = some j ↔
    s.table.byCookie.lookup c = some j ∧ j ≠ p
  bySPI : ∀ spi j, s'.bySPI.lookup spi = some j ↔ s.bySPI.lookup spi = some j ∧ j ≠ p
  byIP : ∀ a j, s'.byIP.lookup a = some j ↔ s.byIP.lookup a = some j ∧ j ≠ p

lemma Inv.exact (h : s.Inv) (hC : s.table.Untaken Peer.cookie p) : s.Exact (s.removePeer p) p := by
  by_cases hl : s.table.Live Peer.cookie p
  · obtain ⟨q, hq, hl⟩ := hl
    obtain ⟨htable, hspi, hip, -⟩ := h.removed hq hl
    refine ⟨fun c j => ?_, hspi, hip⟩
    rw [htable]
    exact drop_lookup h.keyed hq hl c j
  · rw [removePeer_of_not_live hC hl]
    refine ⟨fun c => iff_and_ne fun hj => hl (h.keyed.live hj), fun spi => iff_and_ne fun hj => ?_,
      fun a => iff_and_ne fun hj => ?_⟩
    · obtain ⟨-, q, hq, hlq, -⟩ := (h.bySPI spi p).mp hj
      exact hl ⟨q, hq, hlq⟩
    · obtain ⟨q, ip, hq, hlq, -⟩ := live_of_holds (h.byIP a p hj)
      exact hl ⟨q, hq, hlq⟩

lemma step_of_removes (hC : s.InOrder e) (he : s.removes e = some p) :
    s.step e = s.removePeer p ∧ s.table.Untaken Peer.cookie p := by
  cases e with
  | gone p' =>
    obtain rfl := some.inj he
    exact ⟨rfl, hC⟩
  | sessionUp p' =>
    simp only [removes] at he
    split_ifs at he with hnone
    obtain rfl := some.inj he
    refine ⟨?_, hC.1.untaken⟩
    simp only [step, sessionUp, isNone_iff_eq_none.mp hnone]
  | _ => cases he

/-- The peer has had an address and is gone. -/
def Returned (s : Server) (p : ℕ) : Prop := s.table.Returned Peer.cookie Peer.innerIP p

/-- No other event takes a peer away, or brings one back. -/
lemma returned_of_keeps (hC : s.InOrder e) (he : s.removes e = none) (j : ℕ) :
    (s.step e).Returned j ↔ s.Returned j := by
  cases e with
  | ike msg addr natt verified now =>
    simp only [step, dispatchIKE]
    split
    · rfl
    rename_i cookie _
    have hpeer : (s.peerFor cookie addr now).1.Returned j ↔ s.Returned j :=
      returned_peerFor addr now rfl
    generalize s.peerFor cookie addr now = r at hpeer ⊢
    obtain ⟨s', found⟩ := r
    cases found with
    | none => exact hpeer
    | some p =>
      refine (returned_modify (fun q => ?_) (.inl fun q => ?_) j).trans hpeer <;>
        · unfold Peer.noteIKEAddr
          split_ifs <;> rfl
  | esp pkt addr authenticated =>
    simp only [step, receiveESP]
    split_ifs
    · rfl
    · split
      · rfl
      · refine returned_modify (fun q => ?_) (.inl fun q => ?_) j <;>
          · unfold Peer.noteAddr
            split_ifs <;> rfl
  | established p inSPI =>
    refine returned_modify ?_ (.inr hC.1) j
    exact fun _ => rfl
  | sessionUp p =>
    simp only [step, sessionUp]
    split
    · rename_i hnone
      simp only [removes, hnone] at he
      cases he
    · refine returned_modify ?_ (.inr hC.1) j
      exact fun _ => rfl
  | networkUp p =>
    simp only [step, networkUp]
    have hmod : (s.modify p ({ · with up := true })).Returned j ↔ s.Returned j := by
      refine returned_modify ?_ (.inr hC) j
      exact fun _ => rfl
    split <;> exact hmod
  | gone p => cases he

/-- **One release.**  An event gives the address of a peer back exactly when the peer had it and
goes with this event. -/
lemma Inv.gives_iff (h : s.Inv) (hC : s.InOrder e) : (s.Returned p → (s.step e).Returned p) ∧
      (s.gives p e = true ↔ ¬ s.Returned p ∧ (s.step e).Returned p) := by
  refine PeerTable.gives_iff h.keyed (fun p' he => (step_of_removes hC he).2) (fun hnot => ?_)
    (fun p' q he hq hl => ?_)
  · cases he : s.removes e with
    | none => exact returned_of_keeps hC he p
    | some p' =>
      obtain ⟨hstep, hC'⟩ := step_of_removes hC he
      rw [hstep, removePeer_of_not_live hC' (hnot p' he)]
  · rw [(step_of_removes hC he).1, (h.removed hq hl).1]

end Server

end Steps

/-! ## Whole runs -/

lemma inv_newServer (pool : AddrPool) (now : ℤ) : (newServer pool now).Inv := by
  refine ⟨nofun, ?_, fun spi p => ⟨nofun, ?_⟩, nofun⟩
  · exact (Exclusive.empty pool.used).mono nofun
  · rintro ⟨-, q, hq, -⟩
    cases hq

/-- What holds of a run whose callbacks come in order. -/
structure RemovalExact (s₀ : Server) (es : List Event) : Prop where
  /-- A removal takes the entries of the peer from every index, and no others. -/
  exact : Along Server.step (fun s e => ∀ p, s.removes e = some p → s.Exact (s.step e) p) s₀ es
  /-- What is routed is routed to a live peer and in use. -/
  routed : Always Server.step (fun s => ∀ a p, s.byIP.lookup a = some p →
    s.table.Live Peer.cookie p ∧ a ∈ s.pool.used) s₀ es
  /-- The address of a peer is given back once, when the peer goes. -/
  once : ∀ p q, (run Server.step s₀ es).table.peers[p]? = some q → q.innerIP.isSome →
    ((run Server.step s₀ es).table.Live Peer.cookie p →
      (trace Server.step s₀ es).countP (fun x => x.1.gives p x.2) = 0) ∧
    (¬ (run Server.step s₀ es).table.Live Peer.cookie p →
      (trace Server.step s₀ es).countP (fun x => x.1.gives p x.2) = 1)

lemma removalExact_of_inOrder (pool : AddrPool) (now : ℤ) (es : List Event)
    (hrun : Along Server.step Server.InOrder (newServer pool now) es) :
    RemovalExact (newServer pool now) es := by
  classical
  refine ⟨?_, ?_, fun p q hq hip => ?_⟩
  · refine along_of_inv Server.Inv (fun s e h hC => h.step hC) (fun s e h hC p he => ?_) _ es
      (inv_newServer pool now) hrun
    obtain ⟨hstep, hC'⟩ := step_of_removes hC he
    rw [hstep]
    exact h.exact hC'
  · refine always_of_inv Server.Inv (fun s e h hC => h.step hC) (fun s h a p ha => ?_) _ es
      (inv_newServer pool now) hrun
    have hholds := h.byIP a p ha
    obtain ⟨q, ip, hq, hl, -⟩ := live_of_holds hholds
    exact ⟨⟨q, hq, hl⟩, h.ledger.used p a hholds⟩
  · have hcount := count_fires Server.Inv (fun s => s.Returned p) (fun s e => s.gives p e)
      (fun s e h hC => ⟨h.step hC, h.gives_iff hC⟩) _ es (inv_newServer pool now) hrun
    have hstart : ¬ (newServer pool now).Returned p := by
      rintro ⟨q, hq, -⟩
      cases hq
    have hiff : (run step (newServer pool now) es).Returned p ↔
        ¬ (run step (newServer pool now) es).table.Live Peer.cookie p :=
      returned_iff hq hip
    rw [if_neg hstart, Nat.add_zero] at hcount
    rw [hcount]
    exact ⟨fun hl => if_neg fun hr => hiff.mp hr hl, fun hl => if_pos (hiff.mpr hl)⟩

end Veepin.L2TP
