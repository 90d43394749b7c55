import Veepin.IKEv2.Client.Handshake

/-!
# What IKE_SA_INIT leaves the two ends with

IKE_SA_INIT is the one exchange that goes over plain datagrams, so what the two ends have in common
after it rests on the codec.  `saInit_linked` says that they agree on the nonces, under the SPI that
the client has read.  The keys need no such argument: a protected message is served only under the
keys that it was sealed with.

The request and the response hold hashes and public values of the primitives.  That these are no
longer than they should be is `Crypto.Sized`.
-/

namespace Veepin.IKE

open List Option

variable {c : Crypto} {P : Type} {ni pub : Bytes}

/-- The hashes and shares of the primitives are no longer than those of SHA-1 and of the largest
group. -/
structure Crypto.Sized (c : Crypto) : Prop where
  sha1 : ∀ b, (c.sha1 b).length ≤ 20
  dhPublic : ∀ id seed pub, c.dhPublic id seed = some pub → pub.length ≤ 256

lemma plainCrypto_sized : plainCrypto.Sized where
  sha1 _ := Nat.zero_le _
  dhPublic _ _ pub h := by
    obtain rfl := some.inj h
    exact Nat.zero_le _

/-! ## Unprotected messages -/

/-- A payload that can stand in an unprotected message of moderate length. -/
structure RawPayload.Clear (p : RawPayload) : Prop where
  type : p.type ≠ noNextPayload ∧ isEncrypted p.type = false
  len : p.body.length ≤ 2 ^ 10

lemma RawPayload.Clear.fits {p : RawPayload} (h : p.Clear) : p.Fits where
  type := h.type.1
  len := by
    have := h.len
    omega

lemma length_reencode_le {n : ℕ} : ∀ {ps : List RawPayload}, (∀ p ∈ ps, p.body.length ≤ n) →
      (reencode ps).length ≤ ps.length * (4 + n)
  | [], _ => Nat.zero_le _
  | p :: ps, h => by
    have ih := length_reencode_le fun q hq => h q (mem_cons_of_mem p hq)
    have hp := h p mem_cons_self
    rw [reencode, length_append, length_encodePayload, length_cons, Nat.succ_mul]
    omega

lemma parseMessage_buildMessage (hdr : Header) {ps : List RawPayload}
    (hI : hdr.initiatorSPI < 2 ^ 64) (hR : hdr.responderSPI < 2 ^ 64) (hid : hdr.messageID < 2 ^ 32)
    (hps : ∀ p ∈ ps, p.Clear) (hn : ps.length ≤ 2 ^ 10) :
    ∃ len, parseMessage (buildMessage hdr ps) =
      some ⟨{ hdr with nextPayload := firstType ps, version := 0x20, length := len }, ps⟩ := by
  obtain ⟨hbuf, hfirst⟩ := builder_bytes ps
  have hlen := length_reencode_le fun p hp => (hps p hp).len
  have hlt : headerLen + (reencode ps).length < 2 ^ 32 := by
    have : ps.length * (4 + 2 ^ 10) ≤ 2 ^ 10 * (4 + 2 ^ 10) := Nat.mul_le_mul_right _ hn
    unfold headerLen
    omega
  refine ⟨headerLen + (reencode ps).length, ?_⟩
  generalize hh : ({ hdr with nextPayload := firstType ps, version := 0x20,
                              length := headerLen + (reencode ps).length } : Header) = h
  have hbuild : buildMessage hdr ps = h.marshal ++ reencode ps := by
    rw [← hh, buildMessage, hbuf, hfirst]
  have hfits : h.Fits := by
    rw [← hh]
    exact ⟨hI, hR, hid, hlt⟩
  have hl : h.length = (h.marshal ++ reencode ps).length := by
    rw [← hh, length_append, length_marshal]
  have hnext : h.nextPayload = firstType ps := by rw [← hh]
  have hdrop : (h.marshal ++ reencode ps).drop headerLen = reencode ps := by
    rw [← length_marshal h, drop_left]
  have hchain : parsePayloadChain (firstType ps) (reencode ps) = some ps :=
    parsePayloadChain_reencode (fun p hp => (hps p hp).fits)
      fun p hp => (hps p (mem_of_mem_dropLast hp)).type.2
  simp [hbuild, parseMessage, parseHeader_marshal hfits, ← hl, hdrop, hnext, hchain]

lemma clear_of {t : UInt8} {body : Bytes} (ht : t ≠ noNextPayload ∧ isEncrypted t = false)
    (hl : body.length ≤ 2 ^ 10) : (⟨t, false, body⟩ : RawPayload).Clear := ⟨ht, hl⟩

lemma clear_notify {n : NotifyPayload} (hs : n.spi = []) (hd : n.data.length ≤ 2 ^ 9) :
    (notifyPayload n).Clear := by
  refine clear_of (by decide) ?_
  simp only [marshalNotify, hs, length_append, length_cons, length_nil, length_putBE16]
  omega

/-! ## The request -/

/-- What the client proposes fits its fields, and the responder can satisfy it. -/
lemma ikeProposals_spec (cfg : ClientConfig) :
    (∀ p ∈ cfg.ikeProposals, p.Fits) ∧ (marshalSA cfg.ikeProposals).length ≤ 2 ^ 10 ∧
      ∃ suite accepted, selectIKESuite cfg.ikeProposals = some (suite, accepted) ∧
        suite.dhID = dhCurve25519 ∧ suite.prfSize ≤ 2 ^ 10 ∧ accepted.spi = [] ∧
        accepted.transforms.length ≤ 4 := by
  rw [ClientConfig.ikeProposals]
  cases cfg.postQuantum with
  | false | true =>
    refine ⟨?_, by decide +kernel, _, _, rfl, rfl, by decide, rfl, by decide⟩
    simp only [defaultIKEProposals, map_cons, map_nil, mem_cons, not_mem_nil,
      or_false, forall_eq_or_imp, forall_eq]
    exact ⟨fits_proposal _ _ (by decide) (by decide), fits_proposal _ _ (by decide) (by decide)⟩

lemma clear_natDetection (hc : c.Sized) (t spiI spiR : ℕ) (ip : Bytes) (port : ℕ) :
    (notifyPayload { type := t, data := natDetectionHash c spiI spiR ip port }).Clear :=
  clear_notify rfl ((hc.sha1 _).trans (by decide))

lemma clear_ke {group : ℕ} (h : pub.length ≤ 256) :
    (⟨typeKE, false, marshalKE ⟨group, pub⟩⟩ : RawPayload).Clear := by
  refine clear_of (by decide) ?_
  simp only [marshalKE, length_append, length_cons, length_nil, length_putBE16]
  omega

lemma saInitPayloads_clear (hc : c.Sized) (cfg : ClientConfig) (localAddr : UDPAddr) (spiI : ℕ)
    (hni : ni.length ≤ 2 ^ 10) (hpub : pub.length ≤ 256) :
    (∀ p ∈ cfg.saInitPayloads c localAddr spiI ni pub, p.Clear) ∧
      (cfg.saInitPayloads c localAddr spiI ni pub).length ≤ 2 ^ 10 := by
  have hsa : (⟨typeSA, false, marshalSA cfg.ikeProposals⟩ : RawPayload).Clear :=
    clear_of (by decide) (ikeProposals_spec cfg).2.1
  have hnonce : (⟨typeNonce, false, ni⟩ : RawPayload).Clear := clear_of (by decide) hni
  constructor
  · unfold ClientConfig.saInitPayloads
    simp only [mem_append, mem_cons, not_mem_nil, or_false]
    rintro p (((rfl | rfl | rfl | rfl | rfl | rfl) | hp) | hp)
    · exact hsa
    · exact clear_ke hpub
    · exact hnonce
    · exact clear_natDetection hc _ _ _ _ _
    · exact clear_natDetection hc _ _ _ _ _
    · exact clear_notify rfl (Nat.zero_le _)
    · split_ifs at hp
      · rw [mem_singleton.mp hp]
        exact clear_notify rfl (by decide)
      · exact absurd hp not_mem_nil
    · split_ifs at hp
      · rw [mem_singleton.mp hp]
        exact clear_notify rfl (Nat.zero_le _)
      · exact absurd hp not_mem_nil
  · unfold ClientConfig.saInitPayloads
    split_ifs <;> simp

/-! ## The response -/

lemma saInitResponse_clear (hc : c.Sized) (cfg : Config P) (sa : IKESA) {accepted : Proposal}
    {ourPub : Bytes} (d : Datagram)
    (hacc : accepted.spi.length + 12 * accepted.transforms.length ≤ 2 ^ 9)
    (hnr : sa.nr.length ≤ 2 ^ 10) (hpub : ourPub.length ≤ 256) :
    (∀ p ∈ saInitResponse c cfg sa accepted ourPub d, p.Clear) ∧
      (saInitResponse c cfg sa accepted ourPub d).length ≤ 2 ^ 10 := by
  have hsa : (⟨typeSA, false, marshalSA [accepted]⟩ : RawPayload).Clear := by
    refine clear_of (by decide) ?_
    have := length_marshalTransforms_le accepted.transforms
    simp only [marshalSA, length_append, length_marshalProposal, length_nil]
    omega
  have hnonce : (⟨typeNonce, false, sa.nr⟩ : RawPayload).Clear := clear_of (by decide) hnr
  constructor
  · unfold saInitResponse Config.natDetection
    simp only [mem_append, mem_cons, not_mem_nil, or_false]
    rintro p (((((rfl | rfl | rfl) | rfl | rfl) | hp) | hp) | hp)
    · exact hsa
    · exact clear_ke hpub
    · exact hnonce
    · exact clear_natDetection hc _ _ _ _ _
    · exact clear_natDetection hc _ _ _ _ _
    · split_ifs at hp
      · rw [mem_singleton.mp hp]
        exact clear_notify rfl (Nat.zero_le _)
      · exact absurd hp not_mem_nil
    · split_ifs at hp
      · rw [mem_singleton.mp hp]
        exact clear_notify rfl (Nat.zero_le _)
      · exact absurd hp not_mem_nil
    · split_ifs at hp
      · simp only [mem_cons, not_mem_nil, or_false] at hp
        rcases hp with rfl | rfl
        · exact clear_notify rfl (by decide)
        · exact clear_of (by decide) (by decide)
      · exact absurd hp not_mem_nil
  · unfold saInitResponse Config.natDetection
    simp only
    split_ifs <;> simp

lemma need_bind_error {α β : Type} {o : Option α} {r e : Refusal} {f : α → Except Refusal β} :
    (need o r >>= f) = .error e ↔ o = none ∧ r = e ∨ ∃ a, o = some a ∧ f a = .error e := by
  cases o <;> simp [need, bind, Except.bind]

lemma ensure_bind_error {β : Type} {p : Bool} {r e : Refusal} {f : Unit → Except Refusal β} :
    (ensure p r >>= f) = .error e ↔ p = false ∧ r = e ∨ p = true ∧ f () = .error e := by
  cases p <;> simp [ensure, bind, Except.bind]

variable {msg : Message} {d : Datagram} {scfg : Config P} {keBody nonce data : Bytes}

/-- A refusal of IKE_SA_INIT carries the number of a group at most. -/
lemma negotiate_notify {saBody : Bytes} {id nt : ℕ}
    (h : negotiate c scfg msg saBody keBody nonce d id = .error (.notify nt data)) :
    data.length ≤ 2 := by
  have hlen : ∀ {nt' : ℕ} {b : Bytes}, Refusal.notify nt' b = .notify nt data → b.length ≤ 2 →
      data.length ≤ 2 := by
    intro nt' b he hb
    obtain ⟨-, rfl⟩ := Refusal.notify.inj he
    exact hb
  unfold negotiate at h
  simp only [need_bind_error, ensure_bind_error] at h
  obtain ⟨-, he⟩ | ⟨_, -, ⟨-, he⟩ | ⟨_, -, ⟨-, he⟩ | ⟨_, -, ⟨-, he⟩ | ⟨-, ⟨-, he⟩ | ⟨-, ⟨-, he⟩ |
    ⟨_, -, ⟨-, he⟩ | ⟨_, -, ⟨-, he⟩ | ⟨-, he⟩⟩⟩⟩⟩⟩⟩⟩ := h
  · exact hlen he (by decide)
  · exact hlen he (by decide)
  · exact hlen he (by decide)
  · exact hlen he (by simp)
  · exact hlen he (by decide)
  · cases he
  · exact hlen he (by decide)
  · exact hlen he (by decide)
  · cases he

variable {cfg : ClientConfig} {resp : Bytes}

/-- **The SA that this request leads to** has the client's nonce, and the response holds the
responder's. -/
lemma negotiate_saInit (hc : c.Sized) {id : ℕ}
    {sa : IKESA}
    (h : negotiate c scfg msg (marshalSA cfg.ikeProposals) keBody ni d id = .ok (sa, resp)) :
    sa.responderSPI = d.env.ikeSPI ∧ sa.ni = ni ∧ ∃ ps, resp = buildMessage
        { initiatorSPI := msg.header.initiatorSPI, responderSPI := d.env.ikeSPI
          exchangeType := ikeSAInit, flags := flagResponse, messageID := 0 } ps ∧
      (∀ p ∈ ps, p.Clear) ∧ ps.length ≤ 2 ^ 10 ∧
      findInner ps typeNonce = some ⟨typeNonce, false, sa.nr⟩ := by
  obtain ⟨hfits, -, suite, accepted, hselect, -, hprf, hspi, htr⟩ := ikeProposals_spec cfg
  unfold negotiate at h
  simp only [need_bind_ok, ensure_bind_ok, parseSA_marshalSA hfits, some.injEq] at h
  obtain ⟨_, rfl, ⟨suite', accepted'⟩, hselect', _, -, -, -, ourPub, hour, shared, -, -, hsa⟩ := h
  rw [hselect] at hselect'
  obtain ⟨rfl, rfl⟩ := Prod.mk.inj (some.inj hselect')
  obtain ⟨rfl, rfl⟩ := Prod.mk.inj (Except.ok.inj hsa)
  have hacc : ∀ o : Option Transform,
      accepted.spi.length + 12 * (accepted.transforms ++ o.toList).length ≤ 2 ^ 9 := by
    intro o
    have ho : o.toList.length ≤ 1 := by cases o <;> simp
    rw [hspi, length_append, length_nil]
    omega
  have hnr : (d.env.randomNonce suite.prfSize).length ≤ 2 ^ 10 := by
    rw [Env.randomNonce, length_octets]
    omega
  have hpub := hc.dhPublic _ _ _ hour
  exact ⟨rfl, rfl, _, rfl, (saInitResponse_clear hc scfg _ d (hacc _) hnr hpub).1,
    (saInitResponse_clear hc scfg _ d (hacc _) hnr hpub).2, rfl⟩

/-! ## The exchange -/

/-- The two ends have the same nonces, and EAP has not begun. -/
def Linked (cl : Client) (s : Server P) : Prop :=
  ∃ sa, s.byRSPI.lookup cl.spiR = some sa ∧ sa.ni = cl.ni ∧ sa.nr = cl.nr ∧ sa.eapServer = none

variable {dial : Dial} {spiI : ℕ} {cl : Client} {s : Server P} {dhSeed : Bytes}

/-- The client does not take a notify for a response. -/
lemma saInitAnswer_notify {req : Bytes} {hdr : Header} {nt : ℕ}
    (hI : hdr.initiatorSPI < 2 ^ 64) (hR : hdr.responderSPI < 2 ^ 64) (hid : hdr.messageID < 2 ^ 32)
    (hdata : data.length ≤ 2 ^ 9) :
    saInitAnswer c cfg dial spiI dhSeed ni req (unauthNotify hdr nt data) ≠ .ok cl := by
  have hclear : ∀ p ∈ [notifyPayload { type := nt, data }], p.Clear := by
    simpa using clear_notify rfl hdata
  obtain ⟨len, hparse⟩ := parseMessage_buildMessage
    { initiatorSPI := hdr.initiatorSPI, responderSPI := hdr.responderSPI
      exchangeType := hdr.exchangeType, flags := flagResponse, messageID := hdr.messageID }
    hI hR hid hclear (by simp)
  have hsa : findInner [notifyPayload { type := nt, data }] typeSA = none := rfl
  intro hok
  rw [saInitAnswer, unauthNotify, hparse] at hok
  simp only [hsa] at hok
  split at hok <;> cases hok

/-- What the client takes from a response. -/
lemma saInitAnswer_ok {req : Bytes} {nr : Bytes}
    (hparse : parseMessage resp = some msg)
    (hnonce : findInner msg.payloads typeNonce = some ⟨typeNonce, false, nr⟩)
    (h : saInitAnswer c cfg dial spiI dhSeed ni req resp = .ok cl) :
    cl.spiR = msg.header.responderSPI ∧ cl.ni = ni ∧ cl.nr = nr := by
  rw [saInitAnswer, hparse] at h
  simp only [hnonce] at h
  split at h
  · cases h
  split at h
  · rename_i saPay kePay noncePay hsa hke hn
    split at h
    · cases h
    split at h
    · cases h
    split_ifs at h
    split at h
    · cases h
    · obtain rfl := Except.ok.inj h
      obtain rfl := some.inj hn
      exact ⟨rfl, rfl, rfl⟩
  · cases h

/-- A cookie is short. -/
lemma checkCookie_length {jar : CookieJar Bytes} {cookie : Bytes}
    (h : s.checkCookie c msg nonce d = (jar, some cookie)) : cookie.length ≤ 17 := by
  unfold Server.checkCookie at h
  split_ifs at h
  · cases h
  · cases h
  · obtain ⟨-, hcookie⟩ := Prod.mk.inj h
    rw [← some.inj hcookie]
    simp only [cookieWith, cookieTag, cookieLen, length_cons, length_take]
    omega

/-- The answer of the responder to the client's IKE_SA_INIT, if it sends one: a notify, or the
response of a negotiation whose SA it has stored. -/
lemma handlePacket_saInit {localAddr : UDPAddr}
    (hparse : parseMessage d.pkt = some msg)
    (hhdr : msg.header.version = 0x20 ∧ msg.header.exchangeType = ikeSAInit ∧
      msg.header.flags = flagInitiator)
    (hps : msg.payloads = cfg.saInitPayloads c localAddr spiI ni pub) {resp : Sent}
    {rest : List Sent} (hsent : (s.handlePacket c d).sent = resp :: rest) :
    (∃ nt data, resp.pkt = unauthNotify msg.header nt data ∧ data.length ≤ 2 ^ 9) ∨
      ∃ sa, negotiate c s.cfg msg (marshalSA cfg.ikeProposals) (marshalKE ⟨dhCurve25519, pub⟩) ni d
          s.created = .ok (sa, resp.pkt) ∧
        (s.handlePacket c d).server.byRSPI.lookup sa.responderSPI = some sa := by
  have hhandle : s.handlePacket c d = s.handleIKESAInit c msg.header d := by
    simp only [Server.handlePacket, parseHeader_of_parseMessage hparse, hhdr.1, hhdr.2.1, if_true]
    rfl
  have hsa : findInner msg.payloads typeSA = some ⟨typeSA, false, marshalSA cfg.ikeProposals⟩ := by
    rw [hps]; rfl
  have hke : findInner msg.payloads typeKE =
      some ⟨typeKE, false, marshalKE ⟨dhCurve25519, pub⟩⟩ := by rw [hps]; rfl
  have hnonce : findInner msg.payloads typeNonce = some ⟨typeNonce, false, ni⟩ := by rw [hps]; rfl
  have hresp : msg.header.isResponse = false := by
    rw [Header.isResponse, hhdr.2.2]
    decide
  rw [hhandle] at hsent ⊢
  simp only [Server.handleIKESAInit, hresp, hparse, hsa, hke, hnonce] at hsent ⊢
  rcases hcookie : s.checkCookie c msg ni d with ⟨jar, _ | cookie⟩
  · rw [hcookie] at hsent
    dsimp only at hsent ⊢
    rcases hgate : s.gate.tryAdmit d.remote d.env.now with ⟨gate, verdict⟩
    rw [hgate] at hsent
    cases verdict with
    | admitted =>
      dsimp only [Server.answerSAInit] at hsent ⊢
      rcases hneg : negotiate c s.cfg msg (marshalSA cfg.ikeProposals)
        (marshalKE ⟨dhCurve25519, pub⟩) ni d s.created with (⟨nt, data⟩ | _) | ⟨sa, pkt⟩
      all_goals rw [hneg] at hsent
      · obtain ⟨rfl, -⟩ := cons.inj hsent
        exact Or.inl ⟨nt, data, rfl, (negotiate_notify hneg).trans (by decide)⟩
      · cases hsent
      · obtain ⟨rfl, -⟩ := cons.inj hsent
        exact Or.inr ⟨sa, rfl, AList.lookup_insert _⟩
    | _ => cases hsent
  · rw [hcookie] at hsent
    obtain ⟨rfl, -⟩ := cons.inj hsent
    exact Or.inl ⟨_, _, rfl, (checkCookie_length hcookie).trans (by decide)⟩

/-- **After IKE_SA_INIT.** -/
lemma saInit_linked (hc : c.Sized) {s' : Server P} {e : Env} {h : Hop}
    (hok : saInit c cfg dial s e h = .ok (cl, s')) : Linked cl s' := by
  obtain ⟨pub, resp, rest, hpub, hsent, hcl, rfl⟩ := saInit_ok hok
  have hlen : (octets e.nonce 32).length ≤ 2 ^ 10 := by
    rw [length_octets]
    decide
  obtain ⟨hclear, hn⟩ := saInitPayloads_clear hc cfg dial.localAddr e.ikeSPI hlen
    (hc.dhPublic _ _ _ hpub)
  obtain ⟨len, hparse⟩ := parseMessage_buildMessage (saInitHeader e.ikeSPI) e.ikeSPI_lt
    (Nat.two_pow_pos 64) (Nat.two_pow_pos 32) hclear hn
  obtain ⟨nt, data, hnotify, hdata⟩ | ⟨sa, hneg, hstored⟩ :=
    handlePacket_saInit (d := ⟨_, h.remote, h.on4500, h.env⟩) hparse ⟨rfl, rfl, rfl⟩ rfl hsent
  · rw [hnotify] at hcl
    exact absurd hcl
      (saInitAnswer_notify e.ikeSPI_lt (Nat.two_pow_pos 64) (Nat.two_pow_pos 32) hdata)
  · obtain ⟨hspi, hni, ps, hresp, hps, hlen', hnonce⟩ := negotiate_saInit hc hneg
    obtain ⟨len', hparse'⟩ := parseMessage_buildMessage
      { initiatorSPI := e.ikeSPI, responderSPI := h.env.ikeSPI, exchangeType := ikeSAInit
        flags := flagResponse, messageID := 0 }
      e.ikeSPI_lt h.env.ikeSPI_lt (Nat.two_pow_pos 32) hps hlen'
    obtain ⟨hspiR, hni', hnr⟩ :=
      saInitAnswer_ok ((congrArg parseMessage hresp).trans hparse') hnonce hcl
    refine ⟨sa, ?_, hni.trans hni'.symm, hnr.symm, (negotiate_fresh hneg).eapServer⟩
    rw [hspi] at hstored
    rw [hspiR]
    exact hstored

end Veepin.IKE
