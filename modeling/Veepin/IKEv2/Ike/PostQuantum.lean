import Veepin.IKEv2.Ike.Moves

/-!
# The post-quantum floor

With `RequirePostQuantum` the responder creates an IKE SA only for an initiator that negotiates
ML-KEM-768 (`created_negotiates_kem`).  The secret itself comes in with IKE_INTERMEDIATE, and
whether that exchange has taken place is not looked at again: `exchangeAllowed` lets IKE_AUTH run in
the state `saInitDone` too.  An initiator that leaves the exchange out is established on the
classical keys (`intermediate_skipped`).

Where no IKE_AUTH passes on an SA in the state `saInitDone`, the floor holds along every run
(`kem_before_established`).  The invariant is that an SA that has left `saInitDone` is keyed by the
KEM; only `Move.kemKeyed` enters `intermediate`, and the keys do not change after it.
-/

namespace Veepin.IKE

variable (c : Crypto) {P : Type}

/-- The keys come from an additional key exchange with ML-KEM-768, and both authentication chains
have taken it up. -/
def KemKeyed (k : SACore) : Prop :=
  k.intAuthI ≠ [] ∧ k.intAuthR ≠ [] ∧
    ∃ (before : SAKeys) (pub ct shared : Bytes) (env : Env),
      kemEncapsulate c mlkem768 pub env = some (ct, shared) ∧
      k.keys = rekeyFromAdditionalExchange c k.suite before shared k.ni k.nr k.initiatorSPI
        k.responderSPI

/-- Every established SA that an IKE_SA_INIT created is keyed by the KEM. -/
def KemFloor (s : Server P) : Prop :=
  ∀ rspi sa, s.byRSPI.lookup rspi = some sa → sa.id = sa.root → sa.state = .established →
    KemKeyed c sa.core

/-- No IKE_AUTH request passes on an SA on which IKE_INTERMEDIATE is still to come. -/
def KemFirst (s : Server P) (d : Datagram) : Prop :=
  ∀ sa r, s.request c d = some (sa, r) → r.hdr.exchangeType = ikeAuth →
    Authenticates c s.cfg sa r → sa.state ≠ .saInitDone

/-- What the floor rests on. -/
structure KemInv (s : Server P) : Prop where
  keyed : s.Keyed
  numbered : s.Numbered
  kem : ∀ rspi sa, s.byRSPI.lookup rspi = some sa → sa.id = sa.root → sa.state ≠ .saInitDone →
    KemKeyed c sa.core

variable {c}

lemma KemKeyed.of_eq {k k' : SACore} (h : KemKeyed c k) (hi : k'.intAuthI = k.intAuthI)
    (hr : k'.intAuthR = k.intAuthR) (hkeys : k'.keys = k.keys) (hsuite : k'.suite = k.suite)
    (hni : k'.ni = k.ni) (hnr : k'.nr = k.nr) (hspiI : k'.initiatorSPI = k.initiatorSPI)
    (hspiR : k'.responderSPI = k.responderSPI) : KemKeyed c k' := by
  unfold KemKeyed
  rw [hi, hr, hkeys, hsuite, hni, hnr, hspiI, hspiR]
  exact h

lemma kemEncapsulate_group {g : ℕ} {pub : Bytes} {env : Env} {x : Bytes × Bytes}
    (h : kemEncapsulate c g pub env = some x) : g = mlkem768 := by
  unfold kemEncapsulate at h
  split_ifs at h with hg
  exact not_not.mp hg

/-- The configuration exchange does not touch the keys. -/
lemma Leased.kemKeyed {cfg : Config P} {k k' : SACore} {pools pools' : P}
    (h : Leased cfg k pools k' pools') (hk : KemKeyed c k) :
    KemKeyed c { k' with state := .established } := by
  cases h with
  | unasked he _ | refused _ _ _ _ _ _ he | given _ _ _ _ _ he => rw [he]; exact hk

/-- **The step.**  An SA that a move leaves outside `saInitDone` is keyed by the KEM if it was
before, or if it was not in `saInitDone` when it was authenticated. -/
lemma Move.kemKeyed_of {cfg : Config P} {sa : IKESA} {r : Request} {id : ℕ} {pools : P}
    {o : Outcome P} (h : Move c cfg sa r id pools o)
    (hkem : sa.state ≠ .saInitDone → KemKeyed c sa.core)
    (hfirst : r.hdr.exchangeType = ikeAuth → Authenticates c cfg sa r → sa.state ≠ .saInitDone)
    (hstate : o.sa.state ≠ .saInitDone) : KemKeyed c o.sa.core := by
  -- a move that leaves the state alone
  have same : ∀ k : SACore, o.sa.core = k → k.state = sa.state →
      (KemKeyed c sa.core → KemKeyed c k) → KemKeyed c o.sa.core := by
    intro k hk hst himp
    have ho : o.sa.state = sa.state := (congrArg SACore.state hk).trans hst
    rw [hk]
    exact himp (hkem (ho ▸ hstate))
  cases h with
  | kept _ _ hcore | eapBegun _ _ _ _ hcore | eapTurned _ _ _ _ _ _ _ _ _ _ _ hcore
  | childAdded _ _ hcore _ => exact same _ hcore rfl fun h => h
  | kemKeyed _ _ _ pub ct shared _ _ henc hi hr hcore =>
    rw [kemEncapsulate_group henc] at henc
    rw [hcore]
    exact ⟨hi, hr, sa.keys, pub, ct, shared, r.env, henc, rfl⟩
  | authenticated hex _ hauth _ _ k hlease hcore _ =>
    rw [hcore]
    exact hlease.kemKeyed (hkem (hfirst hex hauth))
  | rekeyed hs _ _ _ hcore _ _ _ _ =>
    rw [hcore]
    exact (hkem (by rw [hs]; decide)).of_eq rfl rfl rfl rfl rfl rfl rfl rfl
  | closed hs _ _ _ _ _ hcore =>
    rw [hcore]
    refine (hkem ?_).of_eq rfl rfl rfl rfl rfl rfl rfl rfl
    rcases hs with hs | hs <;> rw [hs] <;> decide

variable {s : Server P} {d : Datagram}

lemma KemInv.step (h : KemInv c s) (hfirst : KemFirst c s d) : KemInv c (s.step c d) := by
  refine ⟨h.keyed.step, h.numbered.step h.keyed, ?_⟩
  intro rspi sa' hsa' hroot hstate
  cases origin_of_step h.keyed hsa' with
  | stayed sa hsa hcore =>
    rw [id_of_core hcore, root_of_core hcore] at hroot
    rw [state_of_core hcore] at hstate
    rw [hcore]
    exact h.kem _ _ hsa hroot hstate
  | fresh hf _ _ => exact absurd hf.state hstate
  | moved old sa r o hreq hold hcore hmove _ hsa =>
    rw [hsa] at hroot hstate ⊢
    rw [hmove.id_eq, hmove.root_eq, id_of_core hcore, root_of_core hcore] at hroot
    refine hmove.kemKeyed_of (fun hst => ?_) (hfirst sa r hreq) hstate
    rw [state_of_core hcore] at hst
    rw [hcore]
    exact h.kem _ _ hold hroot hst
  | stored old sa r o _ hold hcore hmove hsa _ =>
    -- a replacement has a number of its own, so it is not the SA an IKE_SA_INIT created
    obtain ⟨-, suite, keys, spiI, rfl⟩ := hmove.stored_spec hsa
    have hlt : sa.root < s.created := root_of_core hcore ▸ h.numbered _ _ hold
    exact absurd hroot (Nat.ne_of_gt hlt)

/-! ## What is negotiated -/

/-- An SA that an IKE_SA_INIT created has negotiated ML-KEM-768. -/
def Negotiated (s : Server P) : Prop :=
  ∀ rspi sa, s.byRSPI.lookup rspi = some sa → sa.id = sa.root → sa.addkeGroup = mlkem768

/-- What negotiation rests on. -/
structure NegotiatedInv (s : Server P) : Prop where
  keyed : s.Keyed
  numbered : s.Numbered
  required : s.cfg.requirePostQuantum = true
  negotiated : Negotiated s

lemma NegotiatedInv.step (h : NegotiatedInv s) : NegotiatedInv (s.step c d) := by
  refine ⟨h.keyed.step, h.numbered.step h.keyed, by rw [step_cfg]; exact h.required, ?_⟩
  intro rspi sa' hsa' hroot
  cases origin_of_step h.keyed hsa' with
  | stayed sa hsa hcore =>
    rw [id_of_core hcore, root_of_core hcore] at hroot
    exact (congrArg SACore.addkeGroup hcore).trans (h.negotiated _ _ hsa hroot)
  | fresh hf _ _ => exact hf.addkeGroup h.required
  | moved old sa r o hreq hold hcore hmove _ hsa =>
    rw [hsa, hmove.id_eq, hmove.root_eq, id_of_core hcore, root_of_core hcore] at hroot
    rw [hsa, hmove.addkeGroup_eq]
    exact (congrArg SACore.addkeGroup hcore).trans (h.negotiated _ _ hold hroot)
  | stored old sa r o _ hold hcore hmove hsa _ =>
    obtain ⟨-, suite, keys, spiI, rfl⟩ := hmove.stored_spec hsa
    have hlt : sa.root < s.created := root_of_core hcore ▸ h.numbered _ _ hold
    exact absurd hroot (Nat.ne_of_gt hlt)

/-- **Negotiation is enforced.**  With `RequirePostQuantum` every SA that an IKE_SA_INIT created
has negotiated the KEM, in every run. -/
theorem created_negotiates_kem (c : Crypto) (cfg : Config P) (hreq : cfg.requirePostQuantum = true)
    (pools : P) (secret : Option Bytes) (now : ℤ) (ds : List Datagram) :
    Always (Server.step c) Negotiated (newServer cfg pools secret now) ds := by
  refine always_of_inv NegotiatedInv (fun s d hs _ => hs.step) (fun s hs => hs.negotiated) _ _
    ⟨newServer_keyed cfg pools secret now, newServer_numbered cfg pools secret now, hreq, ?_⟩
    (along_true _ _ _)
  exact fun rspi sa hsa => absurd hsa (newServer_lookup cfg pools secret now rspi sa)

/-! ## What is established -/

/-- **The post-quantum floor**, along every run in which no IKE_AUTH passes on an SA that is still
waiting for its IKE_INTERMEDIATE. -/
theorem kem_before_established (cfg : Config P) (pools : P) (secret : Option Bytes) (now : ℤ)
    (ds : List Datagram)
    (h : Along (Server.step c) (KemFirst c) (newServer cfg pools secret now) ds) :
    Always (Server.step c) (KemFloor c) (newServer cfg pools secret now) ds := by
  refine always_of_inv (KemInv c) (fun s d hs hd => hs.step hd) ?_ _ _ ?_ h
  · intro s hs rspi sa hsa hroot hstate
    exact hs.kem rspi sa hsa hroot (by rw [hstate]; decide)
  · refine ⟨newServer_keyed cfg pools secret now, newServer_numbered cfg pools secret now, ?_⟩
    exact fun rspi sa hsa => absurd hsa (newServer_lookup cfg pools secret now rspi sa)

/-! ## With and without the exchange -/

/-- A responder that requires post-quantum key exchange, with a PSK. -/
def pqConfig : Config Unit :=
  { psk := [1], localID := ⟨idFQDN, []⟩, requirePostQuantum := true }

def pqServer : Server Unit := newServer pqConfig () none 0

/-- An IKE_SA_INIT that negotiates ML-KEM-768. -/
def pqInit : Datagram :=
  saInitRequest 1 [⟨transformADDKE1, mlkem768, 0⟩]
    [notifyPayload { type := intermediateExchangeSupported }] (drawing 7 9)

/-- The key encapsulation. -/
def pqKem : Datagram :=
  (pqServer.step plainCrypto pqInit).protectedRequest plainCrypto 7 ikeIntermediate
    [⟨typeKE, false, marshalKE ⟨mlkem768, []⟩⟩] (drawing 7 9)

theorem created_negotiates_kem_init :
    Always (Server.step plainCrypto) Negotiated pqServer [pqInit, pqKem] :=
  created_negotiates_kem plainCrypto pqConfig rfl () none 0 _

/-- An IKE_AUTH with the PSK, after the given datagrams. -/
def pqAuth (before : List Datagram) : Datagram :=
  (run (Server.step plainCrypto) pqServer before).protectedRequest plainCrypto 7 ikeAuth
    pskAuthPayloads (drawing 7 9)

/-- Whether an IKE_AUTH comes too early, without a look at its AUTH payload. -/
def authEarly (c : Crypto) (s : Server P) (d : Datagram) : Bool :=
  (s.request c d).any fun x => x.2.hdr.exchangeType == ikeAuth && x.1.state == .saInitDone

lemma kemFirst_of_not_early (h : authEarly c s d = false) : KemFirst c s d := by
  intro sa r hreq hex _ hstate
  simp [authEarly, hreq, hex, hstate] at h

theorem kem_before_established_full :
    Always (Server.step plainCrypto) (KemFloor plainCrypto) pqServer
      [pqInit, pqKem, pqAuth [pqInit, pqKem]] := by
  refine kem_before_established pqConfig () none 0 _ ⟨?_, ?_, ?_, trivial⟩
  · exact kemFirst_of_not_early (by decide)
  · exact kemFirst_of_not_early (by decide +kernel)
  · exact kemFirst_of_not_early (by decide +kernel)

/-- **The exchange can be left out.**  An initiator that negotiates the KEM and goes straight to
IKE_AUTH is established, and neither chain has taken up anything. -/
theorem intermediate_skipped : pqConfig.requirePostQuantum = true ∧
      ¬ Always (Server.step plainCrypto) (KemFloor plainCrypto) pqServer
        [pqInit, pqAuth [pqInit]] := by
  refine ⟨rfl, fun h => ?_⟩
  have hend : ((run (Server.step plainCrypto) pqServer [pqInit, pqAuth [pqInit]]).byRSPI.lookup
      7).map (fun sa => (sa.id, sa.root, sa.state, sa.intAuthI)) =
        some (0, 0, .established, []) := by decide +kernel
  obtain ⟨sa, hsa, hval⟩ := Option.map_eq_some_iff.mp hend
  simp only [Prod.mk.injEq] at hval
  obtain ⟨hid, hroot, hstate, hchain⟩ := hval
  exact (h.last 7 sa hsa (hid.trans hroot.symm) hstate).1 hchain

end Veepin.IKE
