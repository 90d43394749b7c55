import Veepin.Core.Ledger
import Veepin.IKEv2.Ike.Moves

/-!
# No Child SA before authentication

The data path gets a Child SA only for a peer that has authenticated: in every run, an `AddChild`
for an SA is preceded by an IKE_AUTH on the SA that `handleIKESAInit` created and that this one
continues, which passed one of the three checks of the responder (`child_after_authentication`).
Where it was the check against an EAP key, a response to the MSCHAPv2 challenge of that SA with the
NT response for the looked-up password came before it.

The invariant `AuthInv` ties the state of an SA to the history.  Only `Move.authenticated` leaves
the half-open states, and the EAP key of an SA comes from `handlePeer` alone.

A certificate is compared with the identity that the peer claims only if the identity is of a type
that certificates carry.  With any other (KEY_ID, for one) trust rests on the chain alone, so a leaf
that names nobody is accepted (`keyID_not_compared`).
-/

namespace Veepin.IKE

open List Function Option Server

variable (c : Crypto) {P : Type}

/-! ## Certificates and identities -/

/-- The certificate names the identity. -/
def certNames (cert : Cert) (id : IDPayload) : Bool :=
  checkableIDType id.type && certMatchesID cert id

/-- The certificate names the identity, if the identity is of a type that certificates carry. -/
def certNamesCheckable (cert : Cert) (id : IDPayload) : Bool :=
  !checkableIDType id.type || certNames cert id

/-- What the check of the code comes to. -/
lemma certMatchesID_eq : certMatchesID = certNamesCheckable := by
  funext cert id
  cases h : checkableIDType id.type with
  | true => simp [certNamesCheckable, certNames, h]
  | false =>
    have hpass : certNamesCheckable cert id = true := by simp [certNamesCheckable, h]
    simp only [checkableIDType, Bool.or_eq_false_iff, beq_eq_false_iff_ne] at h
    obtain ⟨⟨⟨⟨h1, h2⟩, h3⟩, h4⟩, h5⟩ := h
    rw [hpass]
    simp [certMatchesID, h1, h2, h3, h4, h5]

/-! ## What has happened -/

/-- A history: the datagrams so far, each with the state in which it came. -/
abbrev History (P : Type) := List (Server P × Datagram)

/-- The request was an IKE_AUTH on the SA with the given number, the one its IKE_SA_INIT created. -/
structure AuthRequest (x : Server P × Datagram) (n : ℕ) (sa : IKESA) (r : Request) : Prop where
  request : x.1.request c x.2 = some (sa, r)
  exchange : r.hdr.exchangeType = ikeAuth
  id : sa.id = n
  root : sa.root = n

/-- The peer of SA `n` has answered an MSCHAPv2 challenge with the NT response for the password of
the user it named, which gave `msk`. -/
def Matched (h : History P) (n : ℕ) (msk : Bytes) : Prop :=
  ∃ x ∈ h, ∃ sa r srv resp, AuthRequest c x n sa r ∧ sa.eapServer = some srv ∧
    r.eap = some resp ∧ NTMatched c x.1.cfg.lookup srv resp msk

/-- The peer of SA `n` has authenticated: an IKE_AUTH has passed, and if an EAP exchange had given
the SA a key, the NT response matched before that. -/
def Authenticated (bound : Cert → IDPayload → Bool) (h : History P) (n : ℕ) : Prop :=
  ∃ before x after, h = before ++ x :: after ∧ ∃ sa r, AuthRequest c x n sa r ∧
    AuthenticatesBy c x.1.cfg bound sa r ∧
    ∀ msk, sa.eapMSK = some msk → Matched c before n msk

/-- Every Child SA handed to the data path is for a peer that has authenticated by then. -/
def ChildrenAuthenticated (bound : Cert → IDPayload → Bool) (s : Server P) (ds : List Datagram) :
    Prop :=
  ∀ pre d post, ds = pre ++ d :: post → ∀ sa child,
    .addChild sa child ∈ ((run (Server.step c) s pre).handlePacket c d).effects →
    Authenticated c bound (trace (Server.step c) s (pre ++ [d])) sa.root

/-- Once an SA is established, no IKE_AUTH on it is handled. -/
def AuthOnce (s : Server P) (ds : List Datagram) : Prop :=
  ∀ pre mid d post, ds = pre ++ mid ++ d :: post → ∀ rspi old sa r,
    (run (Server.step c) s pre).byRSPI.lookup rspi = some old → old.state = .established →
    (run (Server.step c) s (pre ++ mid)).request c d = some (sa, r) → sa.id = old.id →
    r.hdr.exchangeType ≠ ikeAuth

variable {c}

lemma Matched.append {h : History P} {n : ℕ} {msk : Bytes} (hm : Matched c h n msk)
    (x : Server P × Datagram) : Matched c (h ++ [x]) n msk := by
  obtain ⟨y, hy, rest⟩ := hm
  exact ⟨y, mem_append_left _ hy, rest⟩

lemma Authenticated.append {bound : Cert → IDPayload → Bool} {h : History P} {n : ℕ}
    (ha : Authenticated c bound h n) (x : Server P × Datagram) :
    Authenticated c bound (h ++ [x]) n := by
  obtain ⟨before, y, after, rfl, rest⟩ := ha
  exact ⟨before, y, after ++ [x], by simp, rest⟩

/-! ## What a move says about the state -/

section Moves

variable {cfg : Config P} {sa : IKESA} {r : Request} {id : ℕ} {pools : P} {o : Outcome P}

/-- **How an SA leaves the half-open states.** -/
lemma Move.authenticates_of (h : Move c cfg sa r id pools o) (hs : sa.state.halfOpen)
    (ho : ¬ o.sa.state.halfOpen) : r.hdr.exchangeType = ikeAuth ∧ Authenticates c cfg sa r := by
  have same : o.sa.core.state = sa.state →
      r.hdr.exchangeType = ikeAuth ∧ Authenticates c cfg sa r := by
    intro he
    rw [← he] at hs
    exact absurd hs ho
  cases h with
  | kept _ _ hcore | eapBegun _ _ _ _ hcore | eapTurned _ _ _ _ _ _ _ _ _ _ _ hcore =>
    exact same (by rw [hcore]; rfl)
  | kemKeyed _ _ _ _ _ _ _ _ _ _ _ hcore =>
    rw [show o.sa.state = .intermediate from congrArg SACore.state hcore] at ho
    exact absurd (by decide) ho
  | authenticated hex _ hauth => exact ⟨hex, hauth⟩
  | childAdded hs' | rekeyed hs' => exact absurd hs (by rw [hs']; decide)
  | closed hs' => rcases hs' with hs' | hs' <;> exact absurd hs (by rw [hs']; decide)

/-- The key that EAP has given an SA, or will give it when the peer acknowledges the success. -/
def SACore.EapKey (k : SACore) (msk : Bytes) : Prop :=
  k.eapMSK = some msk ∨
    ∃ srv, k.eapServer = some srv ∧ srv.result.success = true ∧ srv.result.msk = msk

/-- **Where an EAP key comes from.** -/
lemma Move.eapKey_of (h : Move c cfg sa r id pools o) {msk : Bytes} (ho : o.sa.core.EapKey msk) :
    sa.core.EapKey msk ∨ r.hdr.exchangeType = ikeAuth ∧ ∃ srv resp, sa.eapServer = some srv ∧
      r.eap = some resp ∧ NTMatched c cfg.lookup srv resp msk := by
  cases h with
  | kept _ _ hcore | childAdded _ _ hcore _ => exact Or.inl (hcore ▸ ho)
  | eapBegun _ _ _ challenge hcore =>
    rw [hcore] at ho
    rcases ho with hmsk | ⟨srv, hsrv, hok, -⟩
    · exact Or.inl (Or.inl hmsk)
    · rw [← some.inj hsrv] at hok
      exact absurd hok (by simp [beginEap])
  | eapTurned hex _ _ _ srv resp t ht hsrv hresp _ hcore =>
    rw [hcore] at ho
    -- either way the authenticator ends with a success whose key is `msk`
    have hkey : t.server.result.success = true ∧ t.server.result.msk = msk := by
      rcases ho with hmsk | ⟨srv', hsrv', hok, hkey⟩
      · dsimp only at hmsk
        split_ifs at hmsk with hdone
        simp only [Bool.and_eq_true] at hdone
        exact ⟨hdone.2, some.inj hmsk⟩
      · rw [← some.inj hsrv'] at hok hkey
        exact ⟨hok, hkey⟩
    have hres : t.server.result = srv.result ∨ t.server.result.success = false ∨
        NTMatched c cfg.lookup srv resp t.server.result.msk := by
      rw [ht]
      exact handlePeer_result srv resp
    rcases hres with hres | hres | hres
    · exact Or.inl (Or.inr ⟨srv, hsrv, hres ▸ hkey.1, hres ▸ hkey.2⟩)
    · exact absurd hkey.1 (by rw [hres]; decide)
    · exact Or.inr ⟨hex, srv, resp, hsrv, hresp, hkey.2 ▸ hres⟩
  | kemKeyed _ _ _ _ _ _ _ _ _ _ _ hcore | rekeyed _ _ _ _ hcore _ _ _ _
  | closed _ _ _ _ _ _ hcore => exact Or.inl (by rw [hcore] at ho; exact ho)
  | authenticated _ _ _ _ _ k hlease hcore _ =>
    rw [hcore] at ho
    refine Or.inl ?_
    cases hlease with
    | unasked hk | refused _ _ _ _ _ _ hk | given _ _ _ _ _ hk => rw [hk] at ho; exact ho

/-- A Child SA is added for an SA that is established, and stays in the table. -/
lemma Move.added (h : Move c cfg sa r id pools o) {e : IKESA × ChildSA} (he : e ∈ o.adds) :
    e.1.root = o.sa.root ∧ o.sa.state = .established ∧ o.stored = none ∧ o.close = false := by
  have none_ne : o.adds = [] → e.1.root = o.sa.root ∧ o.sa.state = .established ∧
      o.stored = none ∧ o.close = false := by
    intro h0
    rw [h0] at he
    exact absurd he not_mem_nil
  cases h with
  | authenticated _ _ _ hstored hclose k _ hcore hadd =>
    exact ⟨root_of_core (hadd e he), congrArg SACore.state hcore, hstored, hclose⟩
  | childAdded hs hp hcore hadd =>
    exact ⟨root_of_core (hadd e he), (state_of_core hcore).trans hs, hp.stored, hp.close⟩
  | kept _ hadd | eapBegun _ _ hadd | eapTurned _ _ _ hadd | kemKeyed _ _ hadd | rekeyed _ _ _ hadd
  | closed _ _ _ _ hadd => exact none_ne hadd

end Moves

/-! ## The state tells the history -/

/-- What an SA says about the history: if it is not half-open its peer has authenticated; if it is,
an IKE_SA_INIT created it, and an EAP key comes from a matching NT response. -/
structure Told (c : Crypto) (h : History P) (k : SACore) : Prop where
  created : k.state.halfOpen → k.id = k.root
  matched : k.state.halfOpen → ∀ msk, k.EapKey msk → Matched c h k.root msk
  authenticated : ¬ k.state.halfOpen → Authenticated c certMatchesID h k.root

section Step

variable {h : History P} {s : Server P} {d : Datagram} {sa : IKESA}

lemma Told.append {k : SACore} (ht : Told c h k) (x : Server P × Datagram) : Told c (h ++ [x]) k :=
  ⟨ht.created, fun hs msk hk => (ht.matched hs msk hk).append x,
    fun hs => (ht.authenticated hs).append x⟩

lemma FreshSA.told {cfg : Config P} {n : ℕ} (hf : FreshSA cfg n sa) : Told c h sa.core := by
  have hhalf : sa.core.state.halfOpen := by
    rw [show sa.core.state = .saInitDone from hf.state]
    decide
  refine ⟨fun _ => hf.id.trans hf.root.symm, fun _ msk hkey => ?_, fun hs => absurd hhalf hs⟩
  rcases hkey with hmsk | ⟨srv, hsrv, -⟩
  · exact absurd (hf.eapMSK.symm.trans hmsk) (by simp)
  · exact absurd (hf.eapServer.symm.trans hsrv) (by simp)

/-- A replacement has been authenticated with the SA it replaces. -/
lemma Told.successor (ht : Told c h sa.core) (hs : sa.state = .established) (suite : Suite)
    (keys : SAKeys) (spiI spiR : ℕ) (remote : UDPAddr) (id : ℕ) :
    Told c h (sa.successor suite keys spiI spiR remote id).core := by
  have hopen : ¬ (sa.successor suite keys spiI spiR remote id).core.state.halfOpen := by
    simp [IKESA.core, IKESA.successor, SAState.halfOpen]
  refine ⟨fun hs => absurd hs hopen, fun hs => absurd hs hopen, fun _ => ht.authenticated ?_⟩
  rw [show sa.core.state = .established from hs]
  decide

/-- **The step, for one SA.** -/
lemma Move.told {r : Request} {id : ℕ} {o : Outcome P} (hmove : Move c s.cfg sa r id s.pools o)
    (hreq : s.request c d = some (sa, r)) (ht : Told c h sa.core) :
    Told c (h ++ [(s, d)]) o.sa.core := by
  have hid : o.sa.core.id = sa.id := hmove.id_eq
  have hroot : o.sa.core.root = sa.root := hmove.root_eq
  constructor
  · intro hs
    rw [hid, hroot]
    exact ht.created (hmove.halfOpen_of hs)
  · intro hs msk hkey
    have hhalf := hmove.halfOpen_of hs
    rw [hroot]
    rcases hmove.eapKey_of hkey with hkey' | ⟨hex, srv, resp, hsrv, hresp, hnt⟩
    · exact (ht.matched hhalf msk hkey').append _
    · exact ⟨(s, d), by simp, sa, r, srv, resp, ⟨hreq, hex, ht.created hhalf, rfl⟩, hsrv, hresp,
        hnt⟩
  · intro hopen
    rw [hroot]
    by_cases hhalf : sa.state.halfOpen
    · -- this request is the one that authenticated the peer
      obtain ⟨hex, hauth⟩ := hmove.authenticates_of hhalf hopen
      refine ⟨h, (s, d), [], rfl, sa, r, ⟨hreq, hex, ht.created hhalf, rfl⟩, hauth, ?_⟩
      exact fun msk hmsk => ht.matched hhalf msk (Or.inl hmsk)
    · exact (ht.authenticated hhalf).append _

/-- The invariant: every SA tells the history. -/
structure AuthInv (c : Crypto) (h : History P) (s : Server P) : Prop where
  keyed : s.Keyed
  told : ∀ rspi sa, s.byRSPI.lookup rspi = some sa → Told c h sa.core

lemma AuthInv.step (hi : AuthInv c h s) : AuthInv c (h ++ [(s, d)]) (s.step c d) := by
  refine ⟨hi.keyed.step, fun rspi sa' hsa' => ?_⟩
  cases origin_of_step hi.keyed hsa' with
  | stayed sa hsa hcore =>
    rw [hcore]
    exact (hi.told _ _ hsa).append _
  | fresh hf _ _ => exact hf.told
  | moved old sa r o hreq hold hcore hmove _ hsa =>
    rw [hsa]
    exact hmove.told hreq (hcore ▸ hi.told _ _ hold)
  | stored old sa r o _ hold hcore hmove hsa _ =>
    obtain ⟨hs, suite, keys, spiI, rfl⟩ := hmove.stored_spec hsa
    have ht : Told c h sa.core := hcore ▸ hi.told _ _ hold
    exact (ht.append _).successor hs ..

/-- An added Child SA belongs to an SA that the step leaves established in the table. -/
lemma added_established {sa : IKESA} {child : ChildSA}
    (hadd : .addChild sa child ∈ (s.handlePacket c d).effects) :
    ∃ rspi sa', (s.step c d).byRSPI.lookup rspi = some sa' ∧ sa'.root = sa.root ∧
      sa'.state = .established := by
  unfold step
  cases handlePacket_change c s d with
  | idle _ _ _ heff | created _ _ _ _ _ heff =>
    rw [heff] at hadd; exact absurd hadd not_mem_nil
  | touched _ _ _ _ _ ht => rw [ht] at hadd; exact absurd hadd not_mem_nil
  | moved old sa₁ r o _ _ _ hmove ht =>
    rw [ht] at hadd ⊢
    have he : (sa, child) ∈ o.adds := mem_filterMap.mpr ⟨_, hadd, rfl⟩
    obtain ⟨hroot, hs, hstored, hclose⟩ := hmove.added he
    refine ⟨r.hdr.responderSPI, o.sa, ?_, hroot.symm, hs⟩
    rw [conclude_byRSPI hclose, hstored, AList.lookup_insert]

end Step

lemma newServer_authInv (cfg : Config P) (pools : P) (secret : Option Bytes) (now : ℤ) :
    AuthInv c [] (newServer cfg pools secret now) :=
  ⟨newServer_keyed cfg pools secret now,
    fun rspi sa hsa => absurd hsa (newServer_lookup cfg pools secret now rspi sa)⟩

lemma childrenAuthenticated_newServer (cfg : Config P) (pools : P) (secret : Option Bytes)
    (now : ℤ) (ds : List Datagram) :
    ChildrenAuthenticated c certMatchesID (newServer cfg pools secret now) ds := by
  intro pre d post _ sa child hadd
  have hinv := inv_trace (AuthInv c) (fun h s d hi => hi.step) _
    (newServer_authInv cfg pools secret now) (pre ++ [d])
  obtain ⟨rspi, sa', hsa', hroot, hs⟩ := added_established hadd
  rw [run_concat] at hinv
  rw [← hroot]
  refine (hinv.told _ _ hsa').authenticated ?_
  rw [show sa'.core.state = .established from hs]
  decide

/-! ## IKE_AUTH once -/

/-- The numbers of the SAs in a table. -/
def numbers (m : AList fun _ : ℕ => IKESA) (rspi : ℕ) : Option ℕ := (m.lookup rspi).map IKESA.id

lemma numbers_insert (m : AList fun _ : ℕ => IKESA) (rspi : ℕ) (sa : IKESA) :
    numbers (m.insert rspi sa) = Function.update (numbers m) rspi (some sa.id) := by
  funext k
  rw [update_apply, numbers, lookup_insert_eq_ite]
  split_ifs <;> rfl

lemma numbers_erase (m : AList fun _ : ℕ => IKESA) (rspi : ℕ) :
    numbers (m.erase rspi) = Function.update (numbers m) rspi none := by
  funext k
  rw [update_apply, numbers, lookup_erase_eq_ite]
  split_ifs <;> rfl

lemma numbers_insert_same {m : AList fun _ : ℕ => IKESA} {rspi : ℕ} {old sa : IKESA}
    (hold : m.lookup rspi = some old) (h : sa.id = old.id) :
    numbers (m.insert rspi sa) = numbers m := by
  have hnum : numbers m rspi = some old.id := by rw [numbers, hold]; rfl
  rw [numbers_insert, h, ← hnum, update_eq_self]

/-- Every number in the table has been given out, and is in it once. -/
def Server.Distinct (s : Server P) : Prop :=
  Exclusive (numbers s.byRSPI) (Finset.range s.created)

section Once

variable {s : Server P} {d : Datagram}

lemma Server.Distinct.next (h : s.Distinct) (rspi : ℕ) :
    Exclusive (Function.update (numbers s.byRSPI) rspi (some s.created))
      (Finset.range (s.created + 1)) := by
  rw [Finset.range_add_one]
  exact h.give rspi (by simp)

lemma Server.Distinct.step (h : s.Distinct) : (s.step c d).Distinct := by
  unfold Server.Distinct Server.step
  cases handlePacket_change c s d with
  | idle _ hb hn _ =>
    rw [hb, hn]
    exact h
  | touched rspi old sa hold hcore ht =>
    rw [ht, writeBack, numbers_insert_same hold (id_of_core hcore)]
    exact h
  | created sa hf _ hb hn _ =>
    rw [hb, hn, numbers_insert, hf.id]
    exact h.next _
  | moved old sa r o _ hold hcore hmove ht =>
    have hid : o.sa.id = old.id := hmove.id_eq.trans (id_of_core hcore)
    rw [ht, conclude_created]
    cases hclose : o.close with
    | true =>
      have hstored := hmove.stored_of_close hclose
      rw [conclude_byRSPI_close hclose hstored, numbers_erase, numbers_insert_same hold hid,
        hstored]
      exact h.drop _
    | false =>
      rw [conclude_byRSPI hclose]
      cases hstored : o.stored with
      | none =>
        dsimp only
        rw [numbers_insert_same hold hid]
        exact h
      | some new =>
        obtain ⟨-, suite, keys, spiI, rfl⟩ := hmove.stored_spec hstored
        dsimp only
        rw [numbers_insert, numbers_insert_same hold hid]
        exact h.next _

/-- No SA with the given number, which has been given out, is half-open. -/
structure Past (n : ℕ) (s : Server P) : Prop where
  keyed : s.Keyed
  given : n < s.created
  opened : ∀ rspi sa, s.byRSPI.lookup rspi = some sa → sa.id = n → ¬ sa.state.halfOpen

lemma Past.step {n : ℕ} (h : Past n s) : Past n (s.step c d) := by
  refine ⟨h.keyed.step, h.given.trans_le (created_le_step c s d), fun rspi sa' hsa' hid => ?_⟩
  cases origin_of_step h.keyed hsa' with
  | stayed sa hsa hcore =>
    rw [state_of_core hcore]
    exact h.opened _ _ hsa ((id_of_core hcore).symm.trans hid)
  | fresh hf _ _ => exact absurd (hf.id.symm.trans hid) h.given.ne'
  | moved old sa r o _ hold hcore hmove _ hsa =>
    rw [hsa] at hid ⊢
    intro hhalf
    refine h.opened _ _ hold ?_ (state_of_core hcore ▸ hmove.halfOpen_of hhalf)
    rw [← hid, hmove.id_eq, id_of_core hcore]
  | stored old sa r o _ _ _ hmove hsa _ =>
    -- a replacement has a number of its own
    obtain ⟨-, suite, keys, spiI, rfl⟩ := hmove.stored_spec hsa
    exact absurd hid h.given.ne'

/-- An established SA, with the only entry of its number in the table. -/
lemma past_of_established (hkeyed : s.Keyed) (hd : s.Distinct) {rspi : ℕ} {old : IKESA}
    (hold : s.byRSPI.lookup rspi = some old) (hs : old.state = .established) : Past old.id s := by
  have hnum : numbers s.byRSPI rspi = some old.id := by rw [numbers, hold]; rfl
  refine ⟨hkeyed, Finset.mem_range.mp (hd.used _ _ hnum), fun rspi' sa hsa hid => ?_⟩
  have hnum' : numbers s.byRSPI rspi' = some old.id := by rw [numbers, hsa, ← hid]; rfl
  obtain rfl := hd.unique _ _ _ hnum hnum'
  obtain rfl := some.inj (hold.symm.trans hsa)
  rw [hs]
  decide

/-- An IKE_AUTH is handled on an SA that is half-open in the table. -/
lemma request_ikeAuth {sa : IKESA} {r : Request} (hreq : s.request c d = some (sa, r))
    (hex : r.hdr.exchangeType = ikeAuth) :
    ∃ rspi old, s.byRSPI.lookup rspi = some old ∧ old.id = sa.id ∧ old.state.halfOpen := by
  unfold request at hreq
  split at hreq
  · exact absurd hreq (by simp)
  split_ifs at hreq
  split at hreq
  · rename_i hrec
    obtain ⟨rfl, rfl⟩ := Prod.mk.inj (some.inj hreq)
    obtain ⟨rfl, hallowed, old, hold, hcore⟩ := receive_request hrec
    refine ⟨_, old, hold, (id_of_core hcore).symm, ?_⟩
    rw [exchangeAllowed, if_pos (Or.inl hex)] at hallowed
    rw [← state_of_core hcore]
    exact hallowed
  · exact absurd hreq (by simp)

end Once

lemma newServer_distinct (cfg : Config P) (pools : P) (secret : Option Bytes) (now : ℤ) :
    (newServer cfg pools secret now).Distinct :=
  Exclusive.empty _

lemma authOnce_newServer (cfg : Config P) (pools : P) (secret : Option Bytes) (now : ℤ)
    (ds : List Datagram) : AuthOnce c (newServer cfg pools secret now) ds := by
  intro pre mid d post _ rspi old sa r hold hs hreq hid hex
  have hinv : ∀ ds, (run (step c) (newServer cfg pools secret now) ds).Keyed ∧
      (run (step c) (newServer cfg pools secret now) ds).Distinct := fun ds =>
    inv_run (fun s : Server P => s.Keyed ∧ s.Distinct) (fun s d hi _ => ⟨hi.1.step, hi.2.step⟩) _ ds
      ⟨newServer_keyed cfg pools secret now, newServer_distinct cfg pools secret now⟩
      (along_true _ _ _)
  have hpast := inv_run (Past old.id) (fun s d hi _ => hi.step) _ mid
    (past_of_established (hinv pre).1 (hinv pre).2 hold hs) (along_true (step c) _ _)
  rw [← run_append] at hpast
  obtain ⟨rspi', sa', hsa', hid', hhalf⟩ := request_ikeAuth hreq hex
  exact hpast.opened _ _ hsa' (hid'.trans hid) hhalf

/-- **No Child SA for an unauthenticated peer**, and no IKE_AUTH on an established SA, in every
run. -/
theorem child_after_authentication (c : Crypto) (cfg : Config P) (pools : P)
    (secret : Option Bytes) (now : ℤ) (ds : List Datagram) :
    ChildrenAuthenticated c certNamesCheckable (newServer cfg pools secret now) ds ∧
      AuthOnce c (newServer cfg pools secret now) ds := by
  rw [← certMatchesID_eq]
  exact ⟨childrenAuthenticated_newServer cfg pools secret now ds,
    authOnce_newServer cfg pools secret now ds⟩

/-! ## An identity that is not compared -/

/-- Primitives for which every chain is trusted, with a leaf that names nobody, and every signature
verifies. -/
def certCrypto : Crypto :=
  { plainCrypto with
    verifyPeerCertChain := fun _ _ _ => some { publicKey := [] }
    verifyAuth := fun _ _ _ _ => true
    signAuth := fun _ _ _ => some (authDigitalSig, []) }

/-- A responder that authenticates by certificate. -/
def certServer : Server Unit :=
  newServer
    { localID := ⟨idFQDN, []⟩, serverCred := some ⟨[], []⟩, clientCAs := some [] } () none 0

def certInit : Datagram := saInitRequest 1 [] [] (drawing 7 9)

/-- An IKE_AUTH with a certificate and a KEY_ID identity, which asks for a Child SA. -/
def certAuth : Datagram :=
  (certServer.step certCrypto certInit).protectedRequest certCrypto 7 ikeAuth
    [⟨typeIDi, false, marshalID ⟨idKeyID, [1]⟩⟩,
      ⟨typeCERT, false, marshalCert ⟨certX509Signature, [1]⟩⟩,
      ⟨typeAUTH, false, marshalAuth ⟨authDigitalSig, []⟩⟩,
      ⟨typeSA, false, marshalSA (defaultESPProposals [0, 0, 0, 1])⟩,
      ⟨typeTSi, false, marshalTS []⟩, ⟨typeTSr, false, marshalTS []⟩] (drawing 7 9)

/-- **A KEY_ID is not compared.**  A peer that claims to be a KEY_ID gets its Child SA with a leaf
that names nobody. -/
theorem keyID_not_compared :
    ¬ ChildrenAuthenticated certCrypto certNames certServer [certInit, certAuth] := by
  intro h
  have hadd : ((certServer.step certCrypto certInit).handlePacket certCrypto certAuth).effects.any
      (fun e => e.added.isSome) = true := by decide +kernel
  -- no request of the run has an EAP key, a PSK to check, or an identity that can be compared
  have hnone : (trace (step certCrypto) certServer [certInit, certAuth]).all (fun x =>
      x.1.cfg.psk.isEmpty && (x.1.request certCrypto x.2).all fun y =>
        y.1.eapMSK.isNone && y.2.idi.all fun id => !checkableIDType id.type) = true := by
    decide +kernel
  obtain ⟨e, he, hsome⟩ := any_eq_true.mp hadd
  cases e with
  | addChild sa child =>
    obtain ⟨before, x, after, htrace, sa, r, hreq, hauth, -⟩ :=
      h [certInit] certAuth [] rfl sa child he
    have hx : x ∈ trace (step certCrypto) certServer [certInit, certAuth] := by
      rw [show [certInit, certAuth] = [certInit] ++ [certAuth] from rfl, htrace]
      simp
    have hcheck := all_eq_true.mp hnone x hx
    rw [hreq.request] at hcheck
    simp only [Bool.and_eq_true, List.isEmpty_iff, all_some, isNone_iff_eq_none]
      at hcheck
    obtain ⟨hpsk, hmsk, hid⟩ := hcheck
    cases hauth with
    | psk _ _ _ _ _ hne _ => exact hne hpsk
    | cert idi _ _ hidi _ _ _ hbound _ =>
      rw [hidi, all_some, Bool.not_eq_true'] at hid
      rw [certNames, hid] at hbound
      exact absurd hbound (by simp)
    | eap _ _ _ hsome _ => exact absurd (hmsk.symm.trans hsome) (by simp)
  | removeChild | updatePeerAddr => exact absurd hsome (by simp [Effect.added])

end Veepin.IKE
