import Veepin.IKEv2.Ike.Server

/-!
# What a step can do

What a single datagram can change, said once for all properties of the responder's runs.

* `Move` lists what a handler can do to the core of its SA, to the address pools and to the data
  path; `dispatch_move` is the inversion of all four handlers.
* `negotiate_fresh` is the same for the SA that an IKE_SA_INIT creates.
* `Change` puts the two together for the responder, and `handlePacket_change` is the inversion of
  its step; `origin_of_step` reads it from the side of one SA in the table.
-/

namespace Veepin.IKE

open List Option Server

variable (c : Crypto) {P : Type} (cfg : Config P)

/-! ## Authentication -/

/-- The identity a request claims. -/
def Request.idi (r : Request) : Option IDPayload :=
  (findInner r.inners typeIDi).bind fun p => parseID p.body

/-- The AUTH payload of a request. -/
def Request.auth (r : Request) : Option AuthPayload :=
  (findInner r.inners typeAUTH).bind fun p => parseAuth p.body

/-- The EAP packet of a request. -/
def Request.eap (r : Request) : Option EapPacket :=
  (findInner r.inners typeEAP).bind fun p => parseEap p.body

/-- **The ways to authenticate.**  An IKE_AUTH request passes if its AUTH value is the one for a
PSK that is not empty; or if the certificate it presents chains to the client CAs, is bound to the
identity it claims and verifies the signature; or if an EAP exchange on the SA has ended in
success and the AUTH value is the one for its MSK.  What it is for a certificate to be bound to an
identity is `bound`. -/
inductive AuthenticatesBy (bound : Cert → IDPayload → Bool) (sa : IKESA) (r : Request) : Prop
  | psk (idi : IDPayload) (auth : AuthPayload) (hid : r.idi = some idi) (hauth : r.auth = some auth)
      (heap : sa.eapServer = none) (hpsk : cfg.psk ≠ [])
      (hok : verifyPeerPSKAuth c sa.suite cfg.psk sa.initiatorSAInit sa.nr sa.keys.skpi
        (marshalID idi) (sa.identified r idi).intAuth auth.data = true)
  | cert (idi : IDPayload) (auth : AuthPayload) (leaf : Cert) (hid : r.idi = some idi)
      (hauth : r.auth = some auth) (heap : sa.eapServer = none)
      (hleaf : cfg.peerLeaf c r.inners = some leaf) (hbound : bound leaf idi = true)
      (hok : c.verifyAuth leaf.publicKey auth.method ((sa.identified r idi).initiatorOctets c)
        auth.data = true)
  | eap (msk : Bytes) (auth : AuthPayload) (hauth : r.auth = some auth)
      (hmsk : sa.eapMSK = some msk)
      (hok : pskAuth c sa.suite msk (sa.initiatorOctets c) = auth.data)

/-- The request passes the checks of the code. -/
abbrev Authenticates (sa : IKESA) (r : Request) : Prop := AuthenticatesBy c cfg certMatchesID sa r

/-! ## Moves of one SA -/

/-- The Child SAs handed to the data path, with the IKE SA each belongs to. -/
def Effect.added : Effect → Option (IKESA × ChildSA)
  | .addChild sa child => some (sa, child)
  | _ => none

def Outcome.adds (o : Outcome P) : List (IKESA × ChildSA) := o.effects.filterMap Effect.added

/-- The handler touched its SA only. -/
structure Outcome.Plain (o : Outcome P) (pools : P) : Prop where
  pools : o.pools = pools
  stored : o.stored = none
  close : o.close = false

/-- What the configuration exchange did: nothing, nothing but a request to the pools that gave no
address, or an assignment. -/
inductive Leased (k : SACore) (pools : P) (k' : SACore) (pools' : P) : Prop
  | unasked (hk : k' = k) (hp : pools' = pools)
  | refused (assign : AddressRequest → P → Option Assignment × P) (req : AddressRequest)
      (res : Option Assignment) (hcfg : cfg.assignAddr = some assign)
      (ha : assign req pools = (res, pools'))
      (hres : ∀ a, res = some a → a.ip4 = none ∧ a.ip6 = none) (hk : k' = k)
  | given (assign : AddressRequest → P → Option Assignment × P) (req : AddressRequest)
      (a : Assignment) (hcfg : cfg.assignAddr = some assign)
      (ha : assign req pools = (some a, pools'))
      (hk : k' = { k with clientIP := a.ip4, clientIP6 := a.ip6, assigned := a })

/-- **The moves of an SA.** -/
inductive Move (sa : IKESA) (r : Request) (id : ℕ) (pools : P) (o : Outcome P) : Prop
  | kept (hp : o.Plain pools) (hadd : o.adds = []) (hcore : o.sa.core = sa.core)
  | eapBegun (hs : sa.state.halfOpen) (hp : o.Plain pools) (hadd : o.adds = [])
      (challenge : Bytes)
      (hcore : o.sa.core =
        { sa.core with eapServer := some (beginEap 1 cfg.eapServerName challenge).1 })
  | eapTurned (hex : r.hdr.exchangeType = ikeAuth) (hs : sa.state.halfOpen)
      (hp : o.Plain pools) (hadd : o.adds = [])
      (srv : EapServer) (resp : EapPacket) (t : EapTurn)
      (ht : t = srv.handlePeer c cfg.lookup cfg.eapServerName resp)
      (hsrv : sa.eapServer = some srv) (hresp : r.eap = some resp) (hmsk : sa.eapMSK = none)
      (hcore : o.sa.core =
        { sa.core with
          eapServer := some t.server
          eapMSK := if !t.err && t.done && t.server.result.success then some t.server.result.msk
            else none })
  | kemKeyed (hs : sa.state.halfOpen) (hp : o.Plain pools) (hadd : o.adds = [])
      (pub ct shared intAuthI intAuthR : Bytes)
      (hkem : kemEncapsulate c sa.addkeGroup pub r.env = some (ct, shared))
      (hi : intAuthI ≠ []) (hr : intAuthR ≠ [])
      (hcore : o.sa.core =
        { sa.core with
          state := .intermediate
          keys := rekeyFromAdditionalExchange c sa.suite sa.keys shared sa.ni sa.nr
            sa.initiatorSPI sa.responderSPI
          intAuthI
          intAuthR })
  | authenticated (hex : r.hdr.exchangeType = ikeAuth) (hs : sa.state.halfOpen)
      (hauth : Authenticates c cfg sa r) (hstored : o.stored = none) (hclose : o.close = false)
      (k : SACore)
      (hlease : Leased cfg sa.core pools k o.pools)
      (hcore : o.sa.core = { k with state := .established })
      (hadd : ∀ e ∈ o.adds, e.1.core = o.sa.core)
  | childAdded (hs : sa.state = .established) (hp : o.Plain pools)
      (hcore : o.sa.core = sa.core) (hadd : ∀ e ∈ o.adds, e.1.core = o.sa.core)
  | rekeyed (hs : sa.state = .established) (hpools : o.pools = pools) (hclose : o.close = false)
      (hadd : o.adds = [])
      (hcore : o.sa.core = { sa.core with clientIP := none, state := .deleting })
      (suite : Suite) (keys : SAKeys) (spiI : ℕ)
      (hstored : o.stored = some (sa.successor suite keys spiI r.env.ikeSPI r.remote id))
  | closed (hs : sa.state = .established ∨ sa.state = .deleting) (hpools : o.pools = pools)
      (hstored : o.stored = none) (hclose : o.close = true) (hadd : o.adds = [])
      (hdel : deletesIKE r.inners = true)
      (hcore : o.sa.core = { sa.core with state := .closed })

variable {c cfg} {sa : IKESA} {r : Request} {id : ℕ} {pools : P} {sa' : IKESA}

/-- A refusal leaves the core as the handler had it. -/
lemma move_refuse (h : sa'.core = sa.core) (nt : ℕ) :
    Move c cfg sa r id pools (refuse sa' pools nt) :=
  .kept ⟨rfl, rfl, rfl⟩ rfl h

lemma move_silent (h : sa'.core = sa.core) : Move c cfg sa r id pools (silent sa' pools) :=
  .kept ⟨rfl, rfl, rfl⟩ rfl h

/-! ## IKE_INTERMEDIATE -/

lemma handleIKEIntermediate_move (hs : sa.state.halfOpen) :
    Move c cfg sa r id pools (handleIKEIntermediate c sa r pools) := by
  unfold handleIKEIntermediate
  split_ifs with hstate h0
  · exact move_silent rfl
  · exact move_refuse rfl _
  · split
    · exact move_refuse rfl _
    split
    · exact move_silent rfl
    rename_i ke _
    split_ifs with hg
    · exact move_refuse rfl _
    split
    · exact move_refuse rfl _
    rename_i ct shared hkem
    split
    · exact move_silent rfl
    · rw [not_not.mp hg] at hkem
      exact .kemKeyed hs ⟨rfl, rfl, rfl⟩ rfl ke.keyData ct shared _ _ hkem
        (chainIntAuth_ne_nil c _ _ _ _) (chainIntAuth_ne_nil c _ _ _ _) rfl

/-! ## IKE_AUTH -/

lemma buildCPReply_leased (cfg : Config P) (sa : IKESA) (pools : P) (cpBody : Option Bytes) :
    Leased cfg sa.core pools (buildCPReply cfg sa pools cpBody).1.core
      (buildCPReply cfg sa pools cpBody).2.1 := by
  unfold buildCPReply
  split
  · rename_i body assign hcfg
    split
    · exact .unasked rfl rfl
    rename_i req _
    split_ifs
    · exact .unasked rfl rfl
    split
    · rename_i pools' ha
      exact .refused assign _ none hcfg ha (fun a h => absurd h (by simp)) rfl
    · rename_i a pools' ha
      split_ifs with hno
      · exact .refused assign _ (some a) hcfg ha
          (fun b hb => by obtain rfl := some.inj hb; exact hno) rfl
      · exact .given assign _ a hcfg ha rfl
  · exact .unasked rfl rfl

lemma installChild_spec (cfg : Config P) (sa : IKESA) (child : ChildSA) (pools : P)
    (reply : List RawPayload) :
    let o := installChild cfg sa child pools reply
    o.Plain pools ∧ o.sa.core = sa.core ∧ ∀ e ∈ o.adds, e.1.core = o.sa.core := by
  refine ⟨⟨rfl, rfl, rfl⟩, rfl, ?_⟩
  simp only [installChild, Outcome.adds]
  split_ifs
  · rintro e he
    simp only [filterMap_cons, Effect.added, filterMap_nil, mem_singleton] at he
    rw [he]
    rfl
  · intro e he
    exact absurd he (by simp)

lemma finishChild_spec (c : Crypto) (cfg : Config P) (sa : IKESA) (r : Request) (pools : P)
    (b : List RawPayload) :
    let o := finishChild c cfg sa r pools b
    o.Plain pools ∧ o.sa.core = { sa.core with state := .established } ∧
      ∀ e ∈ o.adds, e.1.core = o.sa.core := by
  have hnone : ∀ inners, let o := respond (sa.establish r) pools inners
      o.Plain pools ∧ o.sa.core = { sa.core with state := .established } ∧
        ∀ e ∈ o.adds, e.1.core = o.sa.core :=
    fun inners => ⟨⟨rfl, rfl, rfl⟩, rfl, fun e he => absurd he not_mem_nil⟩
  unfold finishChild
  split
  · exact hnone _
  split
  · exact hnone _
  · dsimp only
    split
    · exact installChild_spec cfg _ _ _ _
    · exact installChild_spec cfg _ _ _ _

/-- An IKE_AUTH that has authenticated the peer ends in an established SA. -/
lemma finishIKEAuth_move (hex : r.hdr.exchangeType = ikeAuth) (hs : sa.state.halfOpen)
    (hauth : Authenticates c cfg sa r) (hcore : sa'.core = sa.core) (b : List RawPayload) :
    Move c cfg sa r id pools (finishIKEAuth c cfg sa' r pools b) := by
  have hlease := buildCPReply_leased cfg sa'.confirmMobike pools
    (savedOr r.inners typeCP sa'.eapCPpay)
  have hc : sa'.confirmMobike.core = sa.core := hcore
  rw [hc] at hlease
  unfold finishIKEAuth
  generalize buildCPReply cfg sa'.confirmMobike pools (savedOr r.inners typeCP sa'.eapCPpay) = cp
    at hlease ⊢
  obtain ⟨sa₁, pools₁, cp⟩ := cp
  obtain ⟨hp, hk, hadd⟩ := finishChild_spec c cfg sa₁ r pools₁
    (b ++ (if sa'.peerMobike then [notifyPayload { type := mobikeSupported }] else []) ++ cp)
  refine .authenticated hex hs hauth hp.stored hp.close sa₁.core ?_ hk hadd
  rw [hp.pools]
  exact hlease

lemma peerLeaf_bound {auth : AuthPayload} (h : certAuthOK c cfg sa' r.inners auth = true) :
    ∃ leaf, cfg.peerLeaf c r.inners = some leaf ∧ certMatchesID leaf sa'.peerID = true ∧
      c.verifyAuth leaf.publicKey auth.method (sa'.initiatorOctets c) auth.data = true := by
  unfold certAuthOK at h
  split at h
  · exact absurd h (by simp)
  · rename_i leaf hleaf
    simp only [Bool.and_eq_true] at h
    exact ⟨leaf, hleaf, h.1.1, h.2⟩

section

variable (hex : r.hdr.exchangeType = ikeAuth) (hs : sa.state.halfOpen)

include hex hs

lemma handleAuthPayload_move (heap : sa.eapServer = none) {idi : IDPayload}
    {auth : AuthPayload} (hid : r.idi = some idi)
    (hauth : r.auth = some auth) :
    Move c cfg sa r id pools (handleAuthPayload c cfg (sa.identified r idi) r auth pools) := by
  unfold handleAuthPayload
  split_ifs with hsig hrsa hmic hpsk
  · exact move_refuse (core_identified sa r idi) _
  · unfold handleCertAuth
    split_ifs with hok
    · exact move_refuse (core_identified sa r idi) _
    obtain ⟨leaf, hleaf, hbound, hver⟩ := peerLeaf_bound (by simpa using hok)
    split
    · exact move_refuse (core_identified sa r idi) _
    · split
      · exact move_refuse (core_identified sa r idi) _
      · exact finishIKEAuth_move hex hs
          (.cert idi auth leaf hid hauth heap hleaf hbound hver) (core_identified sa r idi) _
  · exact move_refuse (core_identified sa r idi) _
  · exact move_refuse (core_identified sa r idi) _
  · have hver : verifyPeerPSKAuth c sa.suite cfg.psk sa.initiatorSAInit sa.nr sa.keys.skpi
        (marshalID idi) (sa.identified r idi).intAuth auth.data = true := by
      rw [Bool.not_eq_true', Bool.not_eq_false] at hpsk
      exact hpsk
    have hne : cfg.psk ≠ [] := by
      simp only [verifyPeerPSKAuth, Bool.and_eq_true, Bool.not_eq_true', isEmpty_eq_false_iff]
        at hver
      exact hver.1
    exact finishIKEAuth_move hex hs (.psk idi auth hid hauth heap hne hver)
      (core_identified sa r idi) _

lemma handleEAPFinalAuth_move {msk : Bytes} (hmsk : sa.eapMSK = some msk)
    (hsa' : sa' = { sa with recvMsgID := sa'.recvMsgID }) :
    Move c cfg sa r id pools (handleEAPFinalAuth c cfg sa' r msk pools) := by
  have hcore : sa'.core = sa.core := by rw [hsa']; rfl
  have hoct : sa'.initiatorOctets c = sa.initiatorOctets c := by rw [hsa']; rfl
  have hsuite : sa'.suite = sa.suite := by rw [hsa']
  unfold handleEAPFinalAuth
  split
  · exact move_refuse hcore _
  rename_i authPay hfind
  split
  · exact move_refuse hcore _
  rename_i auth hparse
  split_ifs with hok
  · exact move_refuse hcore _
  · have hauth : r.auth = some auth := by rw [Request.auth, hfind]; exact hparse
    rw [hoct, hsuite] at hok
    exact finishIKEAuth_move hex hs (.eap msk auth hauth hmsk (not_not.mp hok)) hcore _

lemma handleIKEAuth_move : Move c cfg sa r id pools (handleIKEAuth c cfg sa r pools) := by
  unfold handleIKEAuth
  split
  · rename_i srv hsrv
    unfold handleEAPContinue
    dsimp only
    split
    · rename_i msk hmsk
      exact handleEAPFinalAuth_move hex hs hmsk rfl
    rename_i hmsk
    split
    · exact move_refuse (core_expectAfter sa r) _
    rename_i eapPay hfind
    split
    · exact move_refuse (core_expectAfter sa r) _
    · rename_i resp hparse
      have hresp : r.eap = some resp := by rw [Request.eap, hfind]; exact hparse
      refine .eapTurned hex hs ⟨rfl, rfl, rfl⟩ rfl srv resp _ rfl hsrv hresp hmsk ?_
      simp only [respond, IKESA.afterEap, IKESA.core, hmsk]
      rfl
  · rename_i heap
    split
    · exact move_refuse (core_firstAuth sa r) _
    rename_i idiPay hidi
    split
    · exact move_refuse (core_firstAuth sa r) _
    rename_i idi hparse
    have hid : r.idi = some idi := by rw [Request.idi, hidi]; exact hparse
    dsimp only
    split
    · split_ifs
      · unfold handleEAPStart
        split
        · exact move_refuse (core_identified sa r idi) _
        · exact .eapBegun hs ⟨rfl, rfl, rfl⟩ rfl _ rfl
      · exact move_refuse (core_identified sa r idi) _
    · rename_i authPay hfind
      split
      · exact move_refuse (core_identified sa r idi) _
      · rename_i auth hpauth
        have hauth : r.auth = some auth := by rw [Request.auth, hfind]; exact hpauth
        exact handleAuthPayload_move hex hs heap hid hauth

end

/-! ## CREATE_CHILD_SA and INFORMATIONAL -/

lemma handleNewChild_move (hs : sa.state = .established) (hcore : sa'.core = sa.core)
    (props : List Proposal) :
    Move c cfg sa r id pools (handleNewChild c cfg sa' r props pools) := by
  unfold handleNewChild
  split
  · dsimp only
    split_ifs
    · exact move_refuse hcore _
    · split
      · exact move_refuse hcore _
      · obtain ⟨hp, hk, hadd⟩ := installChild_spec cfg sa' _ pools _
        exact .childAdded hs hp (hk.trans hcore) hadd
  · exact move_refuse hcore _

lemma handleCreateChildSA_move (hs : sa.state = .established) :
    Move c cfg sa r id pools (handleCreateChildSA c cfg sa r id pools) := by
  unfold handleCreateChildSA
  dsimp only
  split
  · exact move_refuse (core_expectAfter sa r) _
  split
  · exact move_refuse (core_expectAfter sa r) _
  split
  · exact handleNewChild_move hs (core_expectAfter sa r) _
  split_ifs
  · unfold handleRekeyIKE
    split
    · exact move_silent (core_expectAfter sa r)
    · exact move_refuse (core_expectAfter sa r) _
    · exact .rekeyed hs rfl rfl rfl rfl _ _ _ rfl
  · exact handleNewChild_move hs (core_expectAfter sa r) _

lemma handleMobikeInformational_spec (c : Crypto) (cfg : Config P) (sa : IKESA) (r : Request) :
    (handleMobikeInformational c cfg sa r).1.core = sa.core ∧
      (handleMobikeInformational c cfg sa r).2.2.filterMap Effect.added = [] := by
  unfold handleMobikeInformational
  split_ifs with hno hdata
  · exact ⟨rfl, rfl⟩
  · exact ⟨rfl, rfl⟩
  · exact ⟨rfl, rfl⟩

lemma removals_adds (sa : IKESA) (removed : List ChildSA) :
    (cfg.removals sa removed).filterMap Effect.added = [] := by
  unfold Config.removals
  split_ifs
  · rw [filterMap_map]
    exact filterMap_eq_nil_iff.mpr fun _ _ => rfl
  · rfl

lemma handleInformational_move (hs : sa.state = .established ∨ sa.state = .deleting) :
    Move c cfg sa r id pools (handleInformational c cfg sa r pools) := by
  unfold handleInformational
  dsimp only
  split_ifs with hempty hdel
  · exact .kept ⟨rfl, rfl, rfl⟩ rfl rfl
  · obtain ⟨hcore, hmoved⟩ := handleMobikeInformational_spec c cfg (sa.expectAfter r) r
    refine .closed hs rfl rfl rfl ?_ hdel ?_
    · simp only [Outcome.adds, filterMap_append, hmoved, removals_adds, append_nil]
    · exact congrArg (fun k : SACore => { k with state := .closed }) hcore
  · obtain ⟨hcore, hmoved⟩ := handleMobikeInformational_spec c cfg (sa.expectAfter r) r
    refine .kept ⟨rfl, rfl, rfl⟩ ?_ hcore
    simp only [Outcome.adds, filterMap_append, hmoved, removals_adds, append_nil]

/-- **The inversion of the handlers.** -/
lemma dispatch_move (hallowed : exchangeAllowed sa.state r.hdr.exchangeType = true) :
    Move c cfg sa r id pools (dispatch c cfg sa r id pools) := by
  unfold exchangeAllowed at hallowed
  unfold dispatch
  split_ifs at hallowed with hauth hcreate hinfo
  · rcases hauth with hauth | hinter
    · rw [if_pos hauth]
      exact handleIKEAuth_move hauth hallowed
    · rw [if_neg (by rw [hinter]; decide), if_pos hinter]
      exact handleIKEIntermediate_move hallowed
  · rw [not_or] at hauth
    rw [if_neg hauth.1, if_neg hauth.2, if_pos hcreate]
    exact handleCreateChildSA_move (by simpa using hallowed)
  · rw [not_or] at hauth
    rw [if_neg hauth.1, if_neg hauth.2, if_neg hcreate]
    exact handleInformational_move (by simpa using hallowed)

/-! ## IKE_SA_INIT -/

/-- An SA as `handleIKESAInit` creates it. -/
structure FreshSA (cfg : Config P) (n : ℕ) (sa : IKESA) : Prop where
  id : sa.id = n
  root : sa.root = n
  state : sa.state = .saInitDone
  eapServer : sa.eapServer = none
  eapMSK : sa.eapMSK = none
  clientIP : sa.clientIP = none
  clientIP6 : sa.clientIP6 = none
  assigned : sa.assigned = {}
  addkeGroup : cfg.requirePostQuantum = true → sa.addkeGroup = mlkem768

lemma acceptedADDKE_eq {ps : List RawPayload} {props : List Proposal} {accepted : Proposal} {g : ℕ}
    (h : acceptedADDKE cfg ps props accepted = some g) : g = mlkem768 := by
  unfold acceptedADDKE at h
  split_ifs at h
  obtain ⟨p, -, hp⟩ := bind_eq_some_iff.mp h
  obtain ⟨t, ht, rfl⟩ := map_eq_some_iff.mp hp
  have := find?_some ht
  simp only [supportedADDKE, Bool.and_eq_true, beq_iff_eq] at this
  exact this.2

lemma negotiate_fresh {msg : Message} {saBody keBody nonce : Bytes} {d : Datagram} {id : ℕ}
    {sa : IKESA} {resp : Bytes}
    (h : negotiate c cfg msg saBody keBody nonce d id = .ok (sa, resp)) : FreshSA cfg id sa := by
  unfold negotiate at h
  simp only [need_bind_ok, ensure_bind_ok] at h
  obtain ⟨props, -, ⟨suite, accepted⟩, -, ke, -, -, -, ourPub, -, shared, -, hpq, hsa⟩ := h
  obtain ⟨rfl, -⟩ := Prod.mk.inj (Except.ok.inj hsa)
  refine ⟨rfl, rfl, rfl, rfl, rfl, rfl, rfl, rfl, fun hreq => ?_⟩
  cases hacc : acceptedADDKE cfg msg.payloads props accepted with
  | none =>
    rw [hacc, hreq] at hpq
    exact absurd hpq (by decide)
  | some g => exact acceptedADDKE_eq hacc

/-! ## Changes of the responder -/

/-- The request that a datagram carries, once it is allowed, and the SA it is for. -/
def Server.request (c : Crypto) (s : Server P) (d : Datagram) : Option (IKESA × Request) :=
  match parseHeader d.pkt with
  | none => none
  | some hdr =>
    if hdr.version >>> 4 = 2 ∧ hdr.exchangeType ≠ ikeSAInit ∧ isProtected hdr.exchangeType then
      match s.receive c hdr d with
      | .request sa r => some (sa, r)
      | _ => none
    else none

/-- The table apart, the responder is what it was. -/
structure Server.Same (s s' : Server P) : Prop where
  cfg : s'.cfg = s.cfg
  pools : s'.pools = s.pools

/-- **What a datagram can change.** -/
inductive Change (c : Crypto) (s : Server P) (d : Datagram) (t : Turn P) : Prop
  | idle (hsame : s.Same t.server) (hb : t.server.byRSPI = s.byRSPI)
      (hn : t.server.created = s.created) (heff : t.effects = [])
  | touched (rspi : ℕ) (old sa : IKESA) (hold : s.byRSPI.lookup rspi = some old)
      (hcore : sa.core = old.core) (ht : t = { server := s.writeBack rspi sa })
  | created (sa : IKESA) (hfresh : FreshSA s.cfg s.created sa) (hsame : s.Same t.server)
      (hb : t.server.byRSPI = s.byRSPI.insert sa.responderSPI sa)
      (hn : t.server.created = s.created + 1) (heff : t.effects = [])
  | moved (old sa : IKESA) (r : Request) (o : Outcome P) (hreq : s.request c d = some (sa, r))
      (hold : s.byRSPI.lookup r.hdr.responderSPI = some old) (hcore : sa.core = old.core)
      (hmove : Move c s.cfg sa r s.created s.pools o) (ht : t = s.conclude c sa r o)

variable {s : Server P} {d : Datagram} {hdr : Header}

lemma receive_touched (h : s.receive c hdr d = .touched sa) :
    ∃ old, s.byRSPI.lookup hdr.responderSPI = some old ∧ sa.core = old.core := by
  unfold receive at h
  split_ifs at h
  split at h
  · exact absurd h (by simp)
  rename_i old hold
  refine ⟨old, hold, ?_⟩
  split_ifs at h
  split at h
  · exact absurd h (by simp)
  split at h
  · obtain rfl := Received.touched.inj h
    rfl
  dsimp only at h
  split at h
  · obtain rfl := Received.touched.inj h
    rfl
  · split_ifs at h
    obtain rfl := Received.touched.inj h
    rfl

lemma receive_request (h : s.receive c hdr d = .request sa r) :
    r.hdr = hdr ∧ exchangeAllowed sa.state hdr.exchangeType = true ∧
      ∃ old, s.byRSPI.lookup hdr.responderSPI = some old ∧ sa.core = old.core := by
  unfold receive at h
  split_ifs at h
  split at h
  · exact absurd h (by simp)
  rename_i old hold
  split_ifs at h
  split at h
  · exact absurd h (by simp)
  split at h
  · exact absurd h (by simp)
  dsimp only at h
  split at h
  · exact absurd h (by simp)
  · split_ifs at h with hallowed
    obtain ⟨rfl, rfl⟩ := Received.request.inj h
    exact ⟨rfl, hallowed, old, hold, rfl⟩

lemma handleSecured_change (hparse : parseHeader d.pkt = some hdr)
    (hok : hdr.version >>> 4 = 2 ∧ hdr.exchangeType ≠ ikeSAInit ∧ isProtected hdr.exchangeType) :
    Change c s d (s.handleSecured c hdr d) := by
  unfold handleSecured
  split
  · exact .idle ⟨rfl, rfl⟩ rfl rfl rfl
  · rename_i sa hrec
    obtain ⟨old, hold, hcore⟩ := receive_touched hrec
    exact .touched _ old sa hold hcore rfl
  · rename_i sa r hrec
    obtain ⟨rfl, hallowed, old, hold, hcore⟩ := receive_request hrec
    have hreq : s.request c d = some (sa, r) := by
      rw [request, hparse]
      simp only [if_pos hok, hrec]
    exact .moved old sa r _ hreq hold hcore (dispatch_move hallowed) rfl

lemma answerSAInit_change (c : Crypto) (s : Server P) (msg : Message)
    (saBody keBody nonce : Bytes) (d : Datagram) :
    let t := s.answerSAInit c msg saBody keBody nonce d
    t.effects = [] ∧ s.Same t.server ∧ t.server.gate = s.gate ∧
      (t.server.byRSPI = s.byRSPI ∧ t.server.created = s.created ∨
        ∃ sa, FreshSA s.cfg s.created sa ∧ t.server.byRSPI = s.byRSPI.insert sa.responderSPI sa ∧
          t.server.created = s.created + 1) := by
  unfold answerSAInit
  split
  · exact ⟨rfl, ⟨rfl, rfl⟩, rfl, Or.inl ⟨rfl, rfl⟩⟩
  · exact ⟨rfl, ⟨rfl, rfl⟩, rfl, Or.inl ⟨rfl, rfl⟩⟩
  · rename_i sa resp hneg
    exact ⟨rfl, ⟨rfl, rfl⟩, rfl, Or.inr ⟨sa, negotiate_fresh hneg, rfl, rfl⟩⟩

lemma handleIKESAInit_change (hdr : Header) : Change c s d (s.handleIKESAInit c hdr d) := by
  unfold handleIKESAInit
  split_ifs
  · exact .idle ⟨rfl, rfl⟩ rfl rfl rfl
  split
  · exact .idle ⟨rfl, rfl⟩ rfl rfl rfl
  split
  · rename_i saPay kePay noncePay _ _ _
    split
    · exact .idle ⟨rfl, rfl⟩ rfl rfl rfl
    rename_i jar hjar
    dsimp only
    split
    · rename_i gate hgate
      obtain ⟨heff, hsame, -, ⟨hb, hn⟩ | ⟨sa, hf, hb, hn⟩⟩ := answerSAInit_change c
        { s with cookies := jar, gate := gate } _ saPay.body kePay.body noncePay.body d
      · exact .idle ⟨hsame.cfg, hsame.pools⟩ hb hn heff
      · exact .created sa hf ⟨hsame.cfg, hsame.pools⟩ hb hn heff
    · exact .idle ⟨rfl, rfl⟩ rfl rfl rfl
  · exact .idle ⟨rfl, rfl⟩ rfl rfl rfl

/-- **The inversion of a step.** -/
lemma handlePacket_change (c : Crypto) (s : Server P) (d : Datagram) :
    Change c s d (s.handlePacket c d) := by
  unfold handlePacket
  split
  · exact .idle ⟨rfl, rfl⟩ rfl rfl rfl
  rename_i hdr hparse
  split_ifs with hver hinit hprot
  · exact .idle ⟨rfl, rfl⟩ rfl rfl rfl
  · exact handleIKESAInit_change hdr
  · exact handleSecured_change hparse ⟨not_not.mp hver, hinit, hprot⟩
  · exact .idle ⟨rfl, rfl⟩ rfl rfl rfl

/-! ## Where an SA comes from -/

/-- What never changes: the number of an SA, the SA it goes back to, its SPI and the additional key
exchange it negotiated. -/
def SACore.fixed (k : SACore) : ℕ × ℕ × ℕ × ℕ := (k.id, k.root, k.responderSPI, k.addkeGroup)

lemma Leased.fixed {k k' : SACore} {pools' : P} (h : Leased cfg k pools k' pools') :
    k'.fixed = k.fixed := by
  cases h with
  | unasked hk | refused _ _ _ _ _ _ hk => rw [hk]
  | given _ _ _ _ _ hk => rw [hk]; rfl

variable {o : Outcome P}

section

variable (h : Move c cfg sa r id pools o)

include h

lemma Move.fixed : o.sa.core.fixed = sa.core.fixed := by
  cases h with
  | kept _ _ hcore | childAdded _ _ hcore _ => rw [hcore]
  | eapBegun _ _ _ _ hcore | eapTurned _ _ _ _ _ _ _ _ _ _ _ hcore
  | kemKeyed _ _ _ _ _ _ _ _ _ _ _ hcore | rekeyed _ _ _ _ hcore _ _ _ _
  | closed _ _ _ _ _ _ hcore => rw [hcore]; rfl
  | authenticated _ _ _ _ _ k hlease hcore _ => rw [hcore]; exact hlease.fixed

lemma Move.id_eq : o.sa.id = sa.id :=
  congrArg Prod.fst h.fixed

lemma Move.root_eq : o.sa.root = sa.root :=
  congrArg (fun n => n.2.1) h.fixed

lemma Move.spi_eq : o.sa.responderSPI = sa.responderSPI :=
  congrArg (fun n => n.2.2.1) h.fixed

lemma Move.addkeGroup_eq : o.sa.addkeGroup = sa.addkeGroup :=
  congrArg (fun n => n.2.2.2) h.fixed

/-- The half-open states are not entered again. -/
lemma Move.halfOpen_of (ho : o.sa.state.halfOpen) : sa.state.halfOpen := by
  have same : o.sa.core.state = sa.state → sa.state.halfOpen := by
    intro he
    rw [← he]
    exact ho
  cases h with
  | kept _ _ hcore | childAdded _ _ hcore _ => exact same (by rw [hcore]; rfl)
  | eapBegun hs | eapTurned _ hs | kemKeyed hs | authenticated _ hs => exact hs
  | rekeyed _ _ _ _ hcore _ _ _ _ =>
    rw [show o.sa.state = .deleting from congrArg SACore.state hcore] at ho
    exact absurd ho (by decide)
  | closed _ _ _ _ _ _ hcore =>
    rw [show o.sa.state = .closed from congrArg SACore.state hcore] at ho
    exact absurd ho (by decide)

end

/-- Every SA is in the table under its own SPI. -/
def Server.Keyed (s : Server P) : Prop :=
  ∀ rspi sa, s.byRSPI.lookup rspi = some sa → sa.responderSPI = rspi

/-- **Where an SA in the table comes from.**  It was there before a step, or the step's IKE_SA_INIT
created it, or the step's request was handled on it, or the request rekeyed another into it. -/
inductive Origin (c : Crypto) (s : Server P) (d : Datagram) (rspi : ℕ) (sa' : IKESA) : Prop
  | stayed (sa : IKESA) (h : s.byRSPI.lookup rspi = some sa) (hcore : sa'.core = sa.core)
  | fresh (hfresh : FreshSA s.cfg s.created sa') (hspi : sa'.responderSPI = rspi)
      (hn : (s.step c d).created = s.created + 1)
  | moved (old sa : IKESA) (r : Request) (o : Outcome P) (hreq : s.request c d = some (sa, r))
      (hold : s.byRSPI.lookup rspi = some old) (hcore : sa.core = old.core)
      (hmove : Move c s.cfg sa r s.created s.pools o) (hclose : o.close = false)
      (hsa : sa' = o.sa)
  | stored (old sa : IKESA) (r : Request) (o : Outcome P) (hreq : s.request c d = some (sa, r))
      (hold : s.byRSPI.lookup r.hdr.responderSPI = some old) (hcore : sa.core = old.core)
      (hmove : Move c s.cfg sa r s.created s.pools o) (hsa : o.stored = some sa')
      (hspi : sa'.responderSPI = rspi)

/-- The table after a request that does not close its SA. -/
lemma conclude_byRSPI (hclose : o.close = false) :
    (s.conclude c sa r o).server.byRSPI = match o.stored with
      | none => s.byRSPI.insert r.hdr.responderSPI o.sa
      | some new => (s.byRSPI.insert r.hdr.responderSPI o.sa).insert new.responderSPI new := by
  simp only [conclude, hclose]
  cases o.stored <;> rfl

/-- The table after a request that closes its SA. -/
lemma conclude_byRSPI_close (hclose : o.close = true) (hstored : o.stored = none) :
    (s.conclude c sa r o).server.byRSPI =
      (s.byRSPI.insert r.hdr.responderSPI o.sa).erase o.sa.responderSPI := by
  simp only [conclude, hclose, hstored]
  rfl

/-- A replacement takes the next number. -/
lemma conclude_created (o : Outcome P) :
    (s.conclude c sa r o).server.created = s.created + o.stored.toList.length := by
  simp only [conclude]
  cases o.close <;> cases o.stored <;> rfl

/-- The pools after a request that does not close its SA. -/
lemma conclude_pools (hclose : o.close = false) : (s.conclude c sa r o).server.pools = o.pools := by
  simp only [conclude, hclose]
  cases o.stored <;> rfl

/-- The pools after a request that closes its SA. -/
lemma conclude_pools_close (hclose : o.close = true) (hstored : o.stored = none)
    {release : Assignment → P → P} (hrel : s.cfg.releaseAddr = some release) :
    (s.conclude c sa r o).server.pools =
      if o.sa.clientIP.isSome || o.sa.clientIP6.isSome then release o.sa.assigned o.pools
      else o.pools := by
  simp only [conclude, hclose, hstored, adopt, deleteSA, releaseLease, writeBack, hrel, if_true]

lemma Move.stored_of_close (h : Move c cfg sa r id pools o) (hc : o.close = true) :
    o.stored = none := by
  cases h with
  | closed _ _ hstored | authenticated _ _ _ hstored => exact hstored
  | kept hp | eapBegun _ hp | eapTurned _ _ hp | kemKeyed _ hp | childAdded _ hp => exact hp.stored
  | rekeyed _ _ hclose => rw [hclose] at hc; exact absurd hc (by decide)

lemma origin_of_step (hkeyed : s.Keyed) {rspi : ℕ}
    (h : (s.step c d).byRSPI.lookup rspi = some sa') :
    Origin c s d rspi sa' := by
  unfold step at h
  cases handlePacket_change c s d with
  | idle _ hb _ _ =>
    rw [hb] at h
    exact .stayed sa' h rfl
  | touched k old sa hold hcore ht =>
    rw [ht, writeBack, lookup_insert_eq_ite] at h
    split_ifs at h with hk
    · obtain rfl := some.inj h
      exact .stayed old (hk ▸ hold) hcore
    · exact .stayed sa' h rfl
  | created sa hf _ hb hn _ =>
    rw [hb, lookup_insert_eq_ite] at h
    split_ifs at h with hk
    · obtain rfl := some.inj h
      exact .fresh hf hk.symm hn
    · exact .stayed sa' h rfl
  | moved old sa r o hreq hold hcore hmove ht =>
    rw [ht] at h
    cases hclose : o.close with
    | true =>
      have hspi : o.sa.responderSPI = r.hdr.responderSPI :=
        (hmove.spi_eq.trans (spi_of_core hcore)).trans (hkeyed _ _ hold)
      rw [conclude_byRSPI_close hclose (hmove.stored_of_close hclose), hspi,
        lookup_erase_eq_ite, lookup_insert_eq_ite] at h
      split_ifs at h with hk
      exact .stayed sa' h rfl
    | false =>
      rw [conclude_byRSPI hclose] at h
      cases hstored : o.stored with
      | none =>
        rw [hstored] at h
        simp only [lookup_insert_eq_ite] at h
        split_ifs at h with hk
        · exact .moved old sa r o hreq (hk ▸ hold) hcore hmove hclose (some.inj h).symm
        · exact .stayed sa' h rfl
      | some new =>
        rw [hstored] at h
        simp only [lookup_insert_eq_ite] at h
        split_ifs at h with hn hk
        · obtain rfl := some.inj h
          exact .stored old sa r o hreq hold hcore hmove hstored hn.symm
        · exact .moved old sa r o hreq (hk ▸ hold) hcore hmove hclose (some.inj h).symm
        · exact .stayed sa' h rfl

lemma Server.Keyed.step (hkeyed : s.Keyed) : (s.step c d).Keyed := by
  intro rspi sa' h
  cases origin_of_step hkeyed h with
  | stayed sa hsa hcore => exact (spi_of_core hcore).trans (hkeyed _ _ hsa)
  | fresh _ hspi _ | stored _ _ _ _ _ _ _ _ _ hspi => exact hspi
  | moved old sa r o _ hold hcore hmove _ hsa =>
    rw [hsa]
    exact (hmove.spi_eq.trans (spi_of_core hcore)).trans (hkeyed _ _ hold)

lemma newServer_lookup (cfg : Config P) (pools : P) (secret : Option Bytes) (now : ℤ) (rspi : ℕ)
    (sa : IKESA) : (newServer cfg pools secret now).byRSPI.lookup rspi ≠ some sa := by
  simp [newServer]

lemma newServer_keyed (cfg : Config P) (pools : P) (secret : Option Bytes) (now : ℤ) :
    (newServer cfg pools secret now).Keyed :=
  fun rspi sa h => absurd h (newServer_lookup cfg pools secret now rspi sa)

lemma step_cfg (c : Crypto) (s : Server P) (d : Datagram) : (s.step c d).cfg = s.cfg := by
  unfold step
  cases handlePacket_change c s d with
  | idle hsame _ _ _ | created _ _ hsame _ _ _ => exact hsame.cfg
  | touched _ _ _ _ _ ht => rw [ht]; rfl
  | moved _ sa r o _ _ _ _ ht =>
    rw [ht]
    simp only [conclude]
    cases o.close <;> cases o.stored <;> rfl

lemma created_le_step (c : Crypto) (s : Server P) (d : Datagram) :
    s.created ≤ (s.step c d).created := by
  unfold step
  cases handlePacket_change c s d with
  | idle _ _ hn _ => rw [hn]
  | touched _ _ _ _ _ ht => rw [ht]; exact le_rfl
  | created _ _ _ _ hn _ => rw [hn]; exact Nat.le_succ _
  | moved _ sa r o _ _ _ _ ht =>
    rw [ht, conclude_created]
    exact Nat.le_add_right _ _

/-- The number of the SA that an SA goes back to has been given out. -/
def Server.Numbered (s : Server P) : Prop :=
  ∀ rspi sa, s.byRSPI.lookup rspi = some sa → sa.root < s.created

/-- A rekey keeps the root. -/
lemma Move.stored_spec (h : Move c cfg sa r id pools o) {new : IKESA} (hnew : o.stored = some new) :
    sa.state = .established ∧ ∃ suite keys spiI,
      new = sa.successor suite keys spiI r.env.ikeSPI r.remote id := by
  have none_ne : o.stored = none → sa.state = .established ∧ ∃ suite keys spiI,
      new = sa.successor suite keys spiI r.env.ikeSPI r.remote id := by
    intro h0
    rw [h0] at hnew
    exact absurd hnew (by simp)
  cases h with
  | rekeyed hs _ _ _ _ suite keys spiI hstored =>
    rw [hstored] at hnew
    exact ⟨hs, suite, keys, spiI, (some.inj hnew).symm⟩
  | kept hp | eapBegun _ hp | eapTurned _ _ hp | kemKeyed _ hp | childAdded _ hp =>
    exact none_ne hp.stored
  | authenticated _ _ _ hstored | closed _ _ hstored => exact none_ne hstored

lemma newServer_numbered (cfg : Config P) (pools : P) (secret : Option Bytes) (now : ℤ) :
    (newServer cfg pools secret now).Numbered :=
  fun rspi sa h => absurd h (newServer_lookup cfg pools secret now rspi sa)

lemma Server.Numbered.step (hkeyed : s.Keyed) (h : s.Numbered) : (s.step c d).Numbered := by
  intro rspi sa' hsa'
  have hle := created_le_step c s d
  cases origin_of_step hkeyed hsa' with
  | stayed sa hsa hcore =>
    rw [root_of_core hcore]
    exact (h _ _ hsa).trans_le hle
  | fresh hf _ hn =>
    rw [hf.root, hn]
    exact Nat.lt_succ_self _
  | moved old sa r o _ hold hcore hmove _ hsa =>
    rw [hsa, hmove.root_eq, root_of_core hcore]
    exact (h _ _ hold).trans_le hle
  | stored old sa r o _ hold hcore hmove hsa _ =>
    obtain ⟨-, suite, keys, spiI, rfl⟩ := hmove.stored_spec hsa
    have hroot : sa.root < s.created := root_of_core hcore ▸ h _ _ hold
    exact hroot.trans_le hle

/-! ## The life of an SA -/

/-- The states are passed in the order in which the source lists them. -/
lemma Move.state_le (h : Move c cfg sa r id pools o) :
    sa.state.ctorIdx ≤ o.sa.state.ctorIdx := by
  have half : sa.state.halfOpen → sa.state.ctorIdx ≤ 2 := by cases sa.state <;> decide
  have goes : ∀ st : SAState, o.sa.state = st → sa.state.ctorIdx ≤ st.ctorIdx →
      sa.state.ctorIdx ≤ o.sa.state.ctorIdx := by
    rintro _ rfl hle
    exact hle
  cases h with
  | kept _ _ hcore | eapBegun _ _ _ _ hcore | eapTurned _ _ _ _ _ _ _ _ _ _ _ hcore
  | childAdded _ _ hcore _ => exact goes sa.state (congrArg SACore.state hcore) le_rfl
  | kemKeyed hs _ _ _ _ _ _ _ _ _ _ hcore =>
    exact goes .intermediate (congrArg SACore.state hcore) (half hs)
  | authenticated _ hs _ _ _ _ _ hcore _ =>
    exact goes .established (congrArg SACore.state hcore) ((half hs).trans (by decide))
  | rekeyed hs _ _ _ hcore _ _ _ _ =>
    exact goes .deleting (congrArg SACore.state hcore) (by rw [hs]; decide)
  | closed hs _ _ _ _ _ hcore =>
    refine goes .closed (congrArg SACore.state hcore) ?_
    rcases hs with hs | hs <;> rw [hs] <;> decide

/-- **No SA goes back.**  In every run, an SA in the table after a datagram has a new number, or it
was there before with the same number, root and SPI, and in no later state. -/
theorem sa_lives_forward (c : Crypto) (cfg : Config P) (pools : P) (secret : Option Bytes) (now : ℤ)
    (ds : List Datagram) :
    Along (Server.step c) (fun s d => ∀ rspi sa', (s.step c d).byRSPI.lookup rspi = some sa' →
      sa'.id = s.created ∨ ∃ sa, s.byRSPI.lookup rspi = some sa ∧
        sa'.core.fixed = sa.core.fixed ∧ sa.state.ctorIdx ≤ sa'.state.ctorIdx)
      (newServer cfg pools secret now) ds := by
  refine along_of_inv Server.Keyed (fun s d h _ => h.step) (fun s d hkeyed _ rspi sa' h => ?_) _ ds
    (newServer_keyed cfg pools secret now) (along_true _ _ ds)
  cases origin_of_step hkeyed h with
  | stayed sa hsa hcore => exact .inr ⟨sa, hsa, by rw [hcore], by rw [state_of_core hcore]⟩
  | fresh hf _ _ => exact .inl hf.id
  | moved old sa r o _ hold hcore hmove _ hsa =>
    refine .inr ⟨old, hold, ?_, ?_⟩
    · rw [hsa, hmove.fixed, hcore]
    · rw [hsa, ← state_of_core hcore]
      exact hmove.state_le
  | stored old sa r o _ hold hcore hmove hsa _ =>
    obtain ⟨-, _, _, _, rfl⟩ := hmove.stored_spec hsa
    exact .inl rfl

end Veepin.IKE
