import Veepin.WireGuard.Noise

/-!
# Agreement of the WireGuard handshake

* `consume_initiation` — the responder opens an initiation, and both ends are at the same point;
* `consume_response` — the initiator opens the response if the preshared keys are the same;
* `checkMAC2_initiation` — an initiation with a cookie passes the check of who issued it;
* `handshake_agreement` — the results together.
-/

namespace Veepin.WireGuard

open List Option

/-! ## The MACs of a message -/

/-- What comes before the MACs. -/
def HandshakeInitiation.body (m : HandshakeInitiation) : Bytes :=
  typeWord typeHandshakeInitiation ++
    (putLE32 m.sender ++ (m.ephemeral ++ (m.static ++ m.timestamp)))

lemma HandshakeInitiation.marshal_eq (m : HandshakeInitiation) :
    m.marshal = m.body ++ (m.mac1 ++ m.mac2) := by
  simp [marshal, body]

variable {m : HandshakeInitiation}

lemma HandshakeInitiation.Sized.length_body (h : m.Sized) : m.body.length = 116 := by
  simp [body, h.ephemeral, h.static, h.timestamp]

lemma HandshakeInitiation.Sized.take_body (h : m.Sized) : m.marshal.take 116 = m.body := by
  rw [m.marshal_eq, ← h.length_body, take_left]

lemma HandshakeInitiation.Sized.take_mac1 (h : m.Sized) :
    m.marshal.take 132 = m.body ++ m.mac1 := by
  have hlen : (m.body ++ m.mac1).length = 132 := by simp [h.length_body, h.mac1]
  rw [m.marshal_eq, ← append_assoc, ← hlen, take_left]

lemma HandshakeInitiation.Sized.macRegions (h : m.Sized) :
    macRegions m.marshal = some (m.body, m.body ++ m.mac1) := by
  rw [WireGuard.macRegions, if_pos (show _ = sizeHandshakeInitiation from h.length), h.take_body,
    h.take_mac1]

lemma HandshakeInitiation.Sized.slice_macs (h : m.Sized) :
    slice m.marshal 116 16 = m.mac1 ∧ slice m.marshal 132 16 = m.mac2 := by
  have h116 : m.marshal.drop 116 = m.mac1 ++ m.mac2 := by
    rw [m.marshal_eq, ← h.length_body, drop_left]
  obtain ⟨hmac1, h132⟩ := slice_field h116 h.mac1
  exact ⟨hmac1, slice_last h132 h.mac2⟩

/-- The mac2 of an initiation. -/
def Initiator.mac2 (c : Crypto) (i : Initiator) (covered : Bytes) : Bytes :=
  if i.cookie = zeroMAC then zeroMAC else c.mac i.cookie (macOver covered i.typeInitiation)

lemma Initiator.addMACs_marshal {c : Crypto} (hc : c.Lawful) (i : Initiator) (h : m.Sized) :
    i.addMACs c m.marshal = some ({ m with
        mac1 := c.mac i.mac1Key (macOver m.body i.typeInitiation)
        mac2 := i.mac2 c (m.body ++ c.mac i.mac1Key (macOver m.body i.typeInitiation)) }.marshal,
        c.mac i.mac1Key (macOver m.body i.typeInitiation)) := by
  have hm1 := hc.length_mac i.mac1Key (macOver m.body i.typeInitiation)
  generalize hdef : c.mac i.mac1Key (macOver m.body i.typeInitiation) = m1 at *
  have hdrop : m.marshal.drop (m.body.length + macSize) = m.mac2 := by
    have hlen : m.body.length + macSize = (m.body ++ m.mac1).length := by
      rw [length_append, h.mac1, macSize]
    rw [hlen, m.marshal_eq, ← append_assoc, drop_left]
  have htake : (m.body ++ (m1 ++ m.mac2)).take (m.body ++ m.mac1).length = m.body ++ m1 := by
    have hlen : (m.body ++ m.mac1).length = (m.body ++ m1).length := by
      rw [length_append, length_append, h.mac1, hm1]
    rw [hlen, ← append_assoc, take_left]
  have hnone : (m.body ++ (m1 ++ m.mac2)).drop ((m.body ++ m1).length + macSize) = [] := by
    apply drop_eq_nil_of_le
    simp only [length_append, h.mac2, hm1, macSize]
    omega
  unfold addMACs
  rw [h.macRegions]
  dsimp only
  rw [hdef, hdrop, htake, hnone, append_nil, HandshakeInitiation.marshal_eq, ← append_assoc]
  rfl

/-! ## The initiation -/

variable {src : AddrPort}

section Handshake

variable {c : Crypto} {i₀ i : Initiator} {b eph ts pkt : Bytes} {idx h1 h2 : UInt32}
  {k k' : CookieChecker} {es ss secret nonce reply ephR resp : Bytes} {now : ℤ} {r : Responder}
  {idxR : UInt32} {kpR : Keypair}

/-- Where both ends are after the initiation. -/
structure Met (c : Crypto) (i₀ i : Initiator) (r : Responder) (eph : Bytes) (idx : UInt32) :
    Prop where
  ck : r.ck = i.ck
  h : r.h = i.h
  peerEph : r.peerEph = c.pub eph
  peerStatic : r.peerStatic = c.pub i₀.localStatic
  peerIndex : r.peerIndex = idx
  consumed : r.consumed = true
  sent : i.sent = true
  ephemeral : i.ephemeral = eph
  localIdx : i.localIdx = idx
  localStatic : i.localStatic = i₀.localStatic
  presharedKey : i.presharedKey = i₀.presharedKey

/-- An initiator for the responder whose static key is `b`. -/
structure Aimed (c : Crypto) (i₀ : Initiator) (b : Bytes) (h1 : UInt32) : Prop where
  remoteStatic : i₀.remoteStatic = c.pub b
  mac1Key : i₀.mac1Key = c.hash (labelMAC1 ++ c.pub b)
  cookieKey : i₀.cookieKey = c.hash (labelCookie ++ c.pub b)
  typeInitiation : i₀.typeInitiation = h1

/-- The hash and the chaining key when the ephemeral key has been mixed in. -/
def hashEphemeral (c : Crypto) (remote e : Bytes) : Bytes :=
  c.hash (c.hash (c.hash (c.hash construction ++ identifier) ++ remote) ++ e)

def ckEphemeral (c : Crypto) (e : Bytes) : Bytes := kdf1 c (c.hash construction) e

/-- What an initiation is made of. -/
structure Sent (c : Crypto) (i₀ i : Initiator) (eph : Bytes) (idx : UInt32) (ts pkt : Bytes)
    (m : HandshakeInitiation) (es ss : Bytes) : Prop where
  sized : m.Sized
  dh_es : c.dh eph i₀.remoteStatic = some es
  dh_ss : c.dh i₀.localStatic i₀.remoteStatic = some ss
  sender : m.sender = idx
  ephemeral : m.ephemeral = c.pub eph
  static : m.static = c.sealBox (kdf2 c (ckEphemeral c m.ephemeral) es).2 (c.pub i₀.localStatic)
    (hashEphemeral c i₀.remoteStatic m.ephemeral)
  timestamp : m.timestamp =
    c.sealBox (kdf2 c (kdf2 c (ckEphemeral c m.ephemeral) es).1 ss).2 ts
      (c.hash (hashEphemeral c i₀.remoteStatic m.ephemeral ++ m.static))
  mac1 : m.mac1 = c.mac i₀.mac1Key (macOver m.body i₀.typeInitiation)
  mac2 : m.mac2 = i₀.mac2 c (m.body ++ m.mac1)
  pkt : pkt = m.marshal
  state : i = { i₀ with
    ephemeral := eph
    localIdx := idx
    ck := (kdf2 c (kdf2 c (ckEphemeral c m.ephemeral) es).1 ss).1
    h := c.hash (c.hash (hashEphemeral c i₀.remoteStatic m.ephemeral ++ m.static) ++ m.timestamp)
    lastMAC1 := m.mac1
    sent := true }

lemma length_mac2 (hc : c.Lawful) (i : Initiator) (covered : Bytes) :
    (i.mac2 c covered).length = 16 := by
  unfold Initiator.mac2
  split_ifs
  · rfl
  · exact hc.length_mac _ _

lemma exists_sent (hc : c.Lawful) (hts : ts.length = 12)
    (h : i₀.initiation c eph idx ts = some (pkt, i)) :
    ∃ m es ss, Sent c i₀ i eph idx ts pkt m es ss := by
  unfold Initiator.initiation at h
  split_ifs at h with hsent
  dsimp only at h
  cases hes : c.dh eph i₀.remoteStatic with
  | none => simp [hes] at h
  | some es =>
    cases hss : c.dh i₀.localStatic i₀.remoteStatic with
    | none => simp [hes, hss] at h
    | some ss =>
      rw [hes] at h
      dsimp only at h
      rw [hss] at h
      dsimp only at h
      rw [i₀.addMACs_marshal hc ⟨hc.length_pub _, by rw [hc.length_sealBox, hc.length_pub],
        by rw [hc.length_sealBox, hts], rfl, rfl⟩] at h
      obtain ⟨rfl, rfl⟩ := Prod.mk.inj (some.inj h)
      exact ⟨_, es, ss, ⟨hc.length_pub _, by rw [hc.length_sealBox, hc.length_pub],
        by rw [hc.length_sealBox, hts], hc.length_mac _ _, length_mac2 hc _ _⟩, hes, hss, rfl, rfl,
        rfl, rfl, rfl, rfl, rfl, rfl⟩

/-- **The responder opens the initiation.** -/
lemma consume_initiation (hc : c.Lawful) (haim : Aimed c i₀ b h1)
    (hsent : Sent c i₀ i eph idx ts pkt m es ss) :
    ∃ r, (Responder.new c b h1 h2).consume c pkt = some ((c.pub i₀.localStatic, ts), r) ∧
      Met c i₀ i r eph idx := by
  have hes : c.dh b m.ephemeral = some es := by
    rw [hsent.ephemeral, hc.dh_comm, ← haim.remoteStatic, hsent.dh_es]
  have hss : c.dh b (c.pub i₀.localStatic) = some ss := by
    rw [hc.dh_comm, ← haim.remoteStatic, hsent.dh_ss]
  have hmac : c.mac (c.hash (labelMAC1 ++ c.pub b)) (macOver m.body h1) = m.mac1 := by
    rw [hsent.mac1, haim.mac1Key, haim.typeInitiation]
  have hstatic : c.openBox (kdf2 c (ckEphemeral c m.ephemeral) es).2 m.static
      (hashEphemeral c (c.pub b) m.ephemeral) = some (c.pub i₀.localStatic) := by
    rw [hsent.static, haim.remoteStatic, hc.openBox_sealBox]
  have hstamp : c.openBox (kdf2 c (kdf2 c (ckEphemeral c m.ephemeral) es).1 ss).2 m.timestamp
      (c.hash (hashEphemeral c (c.pub b) m.ephemeral ++ m.static)) = some ts := by
    rw [hsent.timestamp, haim.remoteStatic, hc.openBox_sealBox]
  refine ⟨{ Responder.new c b h1 h2 with
    ck := (kdf2 c (kdf2 c (ckEphemeral c m.ephemeral) es).1 ss).1
    h := c.hash (c.hash (hashEphemeral c (c.pub b) m.ephemeral ++ m.static) ++ m.timestamp)
    peerEph := m.ephemeral, peerStatic := c.pub i₀.localStatic, peerIndex := m.sender
    consumed := true }, ?_, ?_⟩
  · unfold Responder.consume
    rw [hsent.pkt, parseHandshakeInitiation_marshal hsent.sized, hsent.sized.macRegions]
    unfold hashEphemeral ckEphemeral at *
    simp only [Responder.new, hmac, hes, hstatic, hc.length_pub, hss, hstamp, ne_eq,
      not_true_eq_false, if_false]
  · rw [hsent.state]
    exact ⟨rfl, by rw [haim.remoteStatic], hsent.ephemeral, rfl, hsent.sender, rfl, rfl, rfl, rfl,
      rfl, rfl⟩

/-! ## The response -/

/-- What a response is made of. -/
structure Answered (c : Crypto) (r : Responder) (psk ephR : Bytes) (idxR : UInt32) (resp : Bytes)
    (kpR : Keypair) (m : HandshakeResponse) (ee se : Bytes) : Prop where
  sized : m.Sized
  dh_ee : c.dh ephR r.peerEph = some ee
  dh_se : c.dh ephR r.peerStatic = some se
  sender : m.sender = idxR
  receiver : m.receiver = r.peerIndex
  ephemeral : m.ephemeral = c.pub ephR
  empty : m.empty = c.sealBox (kdf3 c (kdf1 c (kdf1 c (kdf1 c r.ck m.ephemeral) ee) se) psk).2.2 []
    (c.hash (c.hash (r.h ++ m.ephemeral) ++
      (kdf3 c (kdf1 c (kdf1 c (kdf1 c r.ck m.ephemeral) ee) se) psk).2.1))
  resp : resp = m.marshal
  keypair : kpR = ⟨(kdf2 c (kdf3 c (kdf1 c (kdf1 c (kdf1 c r.ck m.ephemeral) ee) se) psk).1 []).2,
    (kdf2 c (kdf3 c (kdf1 c (kdf1 c (kdf1 c r.ck m.ephemeral) ee) se) psk).1 []).1, idxR,
    r.peerIndex⟩

lemma HandshakeResponse.Sized.stamp {m : HandshakeResponse} (h : m.Sized) (m1 : Bytes) :
    m.marshal.take (sizeHandshakeResponse - 2 * macSize) ++
        (m1 ++ m.marshal.drop (sizeHandshakeResponse - macSize)) =
      { m with mac1 := m1 }.marshal := by
  obtain ⟨body, heq⟩ : ∃ body, typeWord typeHandshakeResponse ++ (putLE32 m.sender ++
      (putLE32 m.receiver ++ (m.ephemeral ++ m.empty))) = body := ⟨_, rfl⟩
  have hsplit : m.marshal = body ++ (m.mac1 ++ m.mac2) := by simp [HandshakeResponse.marshal, ← heq]
  have hbody : body.length = sizeHandshakeResponse - 2 * macSize := by
    simp [← heq, h.ephemeral, h.empty, sizeHandshakeResponse, macSize]
  have hdrop : m.marshal.drop (sizeHandshakeResponse - macSize) = m.mac2 := by
    rw [hsplit, ← append_assoc, show sizeHandshakeResponse - macSize = (body ++ m.mac1).length by
      rw [length_append, hbody, h.mac1]; rfl, drop_left]
  rw [hdrop, hsplit, ← hbody, take_left]
  simp [HandshakeResponse.marshal, ← heq]

lemma exists_answered (hc : c.Lawful) {psk : Bytes}
    (h : r.response c psk ephR idxR = some (resp, kpR)) :
    ∃ m ee se, Answered c r psk ephR idxR resp kpR m ee se := by
  unfold Responder.response at h
  split_ifs at h
  dsimp only at h
  cases hee : c.dh ephR r.peerEph with
  | none => simp [hee] at h
  | some ee =>
    cases hse : c.dh ephR r.peerStatic with
    | none => simp [hee, hse] at h
    | some se =>
      rw [hee] at h
      dsimp only at h
      rw [hse] at h
      dsimp only at h
      rw [HandshakeResponse.Sized.stamp ⟨hc.length_pub _, by rw [hc.length_sealBox]; rfl, rfl,
        rfl⟩] at h
      obtain ⟨rfl, rfl⟩ := Prod.mk.inj (some.inj h)
      exact ⟨_, ee, se, ⟨hc.length_pub _, by rw [hc.length_sealBox]; rfl, hc.length_mac _ _, rfl⟩,
        hee, hse, rfl, rfl, rfl, rfl, rfl, rfl⟩

/-- The chaining key and the hash before the preshared key is mixed in. -/
def Responder.transcript (c : Crypto) (r : Responder) (ephR : Bytes) : Option (Bytes × Bytes) := do
  let ee ← c.dh ephR r.peerEph
  let se ← c.dh ephR r.peerStatic
  return (kdf1 c (kdf1 c (kdf1 c r.ck (c.pub ephR)) ee) se, c.hash (r.h ++ c.pub ephR))

/-- AEAD and HMAC are ideal for this response: what is sealed with the key from one preshared key
opens with the key from another only if they are the same. -/
def IdealAt (c : Crypto) (x : Bytes × Bytes) (psk psk' : Bytes) : Prop :=
  (c.openBox (kdf3 c x.1 psk').2.2
    (c.sealBox (kdf3 c x.1 psk).2.2 [] (c.hash (x.2 ++ (kdf3 c x.1 psk).2.1)))
    (c.hash (x.2 ++ (kdf3 c x.1 psk').2.1))).isSome = true → psk' = psk

/-- The keys and the indices of two ends are crosswise the same. -/
structure Crosswise (kp kp' : Keypair) : Prop where
  send : kp.send = kp'.recv
  recv : kp.recv = kp'.send
  localIndex : kp.localIndex = kp'.remoteIndex
  remoteIndex : kp.remoteIndex = kp'.localIndex

/-- **The initiator opens the response** if, and with an ideal AEAD only if, the preshared keys are
the same; the keys are then crosswise the same. -/
lemma consume_response (hc : c.Lawful) (hmet : Met c i₀ i r eph idx) {psk : Bytes}
    (hresp : r.response c psk ephR idxR = some (resp, kpR)) :
    (i₀.presharedKey = psk → ∃ kpI, i.consume c resp = some kpI ∧ Crosswise kpI kpR) ∧
      ∃ x, r.transcript c ephR = some x ∧ (IdealAt c x psk i₀.presharedKey →
        (i.consume c resp).isSome = true → i₀.presharedKey = psk) := by
  obtain ⟨m, ee, se, ha⟩ := exists_answered hc hresp
  have hee : c.dh i.ephemeral m.ephemeral = some ee := by
    rw [ha.ephemeral, hc.dh_comm, hmet.ephemeral, ← hmet.peerEph, ha.dh_ee]
  have hse : c.dh i.localStatic m.ephemeral = some se := by
    rw [ha.ephemeral, hc.dh_comm, hmet.localStatic, ← hmet.peerStatic, ha.dh_se]
  set keys := kdf3 c (kdf1 c (kdf1 c (kdf1 c r.ck m.ephemeral) ee) se) i₀.presharedKey with hkeys
  -- the initiator's transcript is the responder's, up to the preshared key
  have hconsume : i.consume c resp =
      (c.openBox keys.2.2 m.empty (c.hash (c.hash (r.h ++ m.ephemeral) ++ keys.2.1))).map fun _ =>
        ⟨(kdf2 c keys.1 []).1, (kdf2 c keys.1 []).2, i.localIdx, m.sender⟩ := by
    unfold Initiator.consume
    rw [if_neg (by simp [hmet.sent]), ha.resp, parseHandshakeResponse_marshal ha.sized]
    have hreceiver : m.receiver = i.localIdx := by rw [ha.receiver, hmet.peerIndex, hmet.localIdx]
    simp only [hreceiver, ne_eq, not_true_eq_false, if_false, hee, hse, ← hmet.ck, ← hmet.h,
      hmet.presharedKey, ← hkeys]
    cases c.openBox _ m.empty _ with
    | none => rfl
    | some _ => rfl
  refine ⟨fun hpsk => ?_,
    (kdf1 c (kdf1 c (kdf1 c r.ck m.ephemeral) ee) se, c.hash (r.h ++ m.ephemeral)), ?_,
    fun hideal hsome => hideal ?_⟩
  · refine ⟨_, by rw [hconsume, hkeys, ha.empty, hpsk, hc.openBox_sealBox]; rfl, ?_⟩
    rw [ha.keypair]
    exact ⟨rfl, rfl, by rw [hmet.localIdx, hmet.peerIndex], ha.sender⟩
  · rw [Responder.transcript, ha.dh_ee, ha.dh_se, ha.ephemeral]
    rfl
  · rw [hconsume, isSome_map, ha.empty] at hsome
    exact hsome

/-! ## The cookie -/

/-- **The cookie's round trip.**  There is a reply to an initiation, and it gives its sender the
cookie. -/
lemma exists_cookieReply (hc : c.Lawful) (haim : Aimed c i₀ b h1)
    (hsent : Sent c i₀ i eph idx ts pkt m es ss) (hk : k.encKey = c.hash (labelCookie ++ c.pub b))
    (hnonce : nonce.length = 24) (src : AddrPort) (now : ℤ) (secret : Bytes) :
    ∃ reply, k.cookieReply c pkt src now secret nonce = some (reply, k.renew now secret) ∧
      i.consumeCookieReply c reply = some ((k.renew now secret).cookieFor c src) := by
  have hlen : pkt.length = sizeHandshakeInitiation := by
    rw [hsent.pkt]
    exact hsent.sized.length
  have hkey : (k.renew now secret).encKey = i.cookieKey := by
    rw [hsent.state, haim.cookieKey, ← hk]
    unfold CookieChecker.renew
    split_ifs <;> rfl
  have hmac1 : slice pkt 116 16 = i.lastMAC1 := by
    rw [hsent.state, hsent.pkt]
    exact hsent.sized.slice_macs.1
  have hidx : le32 pkt 4 = i.localIdx := by
    rw [hsent.state, hsent.pkt, ← hsent.sender]
    exact le32_putLE32 _
  have hsized : (⟨le32 pkt 4, nonce, c.xsealBox (k.renew now secret).encKey nonce
      ((k.renew now secret).cookieFor c src) (slice pkt 116 16)⟩ : CookieReply).Sized :=
    ⟨hnonce, by rw [hc.length_xsealBox, CookieChecker.cookieFor, hc.length_mac]⟩
  refine ⟨_, by rw [CookieChecker.cookieReply, if_neg (not_not.2 hlen)], ?_⟩
  unfold Initiator.consumeCookieReply
  rw [if_neg (by rw [hsent.state]; exact Bool.noConfusion), parseCookieReply_marshal hsized]
  simp only [hidx, hmac1, hkey, hc.xopenBox_xsealBox, ne_eq, not_true_eq_false, if_false]

lemma typeInitiation_renew (k : CookieChecker) (now : ℤ) (secret : Bytes) :
    (k.renew now secret).typeInitiation = k.typeInitiation := by
  unfold CookieChecker.renew
  split_ifs <;> rfl

/-- **An initiation with the cookie.** -/
lemma checkMAC2_initiation (hsent : Sent c i₀ i eph idx ts pkt m es ss)
    (hcookie : i₀.cookie = k.cookieFor c src)
    (hset : i₀.cookie ≠ zeroMAC) (htype : i₀.typeInitiation = k.typeInitiation)
    (hfresh : k.fresh now = true) : k.checkMAC2 c pkt src now = true := by
  have hlen : pkt.length = sizeHandshakeInitiation := by
    rw [hsent.pkt]
    exact hsent.sized.length
  have hmac2 : c.mac (k.cookieFor c src) (macOver (m.body ++ m.mac1) k.typeInitiation) =
      m.mac2 := by
    rw [hsent.mac2, Initiator.mac2, if_neg hset, hcookie, htype]
  unfold CookieChecker.checkMAC2
  rw [if_neg (not_not.2 hlen), hfresh, hsent.pkt, hsent.sized.take_mac1, hmac2,
    hsent.sized.slice_macs.2]
  simp

end Handshake

lemma length_timestamp (unix : ℤ) (nanosecond : ℕ) : (timestamp unix nanosecond).length = 12 := rfl

/-- A fresh initiator is aimed at its peer. -/
lemma aimed_new (c : Crypto) {cfg : NoiseConfig} {b : Bytes} (h : cfg.remoteStatic = c.pub b)
    (cookie : Bytes) : Aimed c ((Initiator.new c cfg).setCookie cookie) b cfg.typeInitiation :=
  ⟨h, by rw [← h]; rfl, by rw [← h]; rfl, rfl⟩

/-- **Agreement.**  The responder opens an initiation and learns the static key and the timestamp.
The initiator opens the response if the preshared keys are the same, and then the keys and indices
are crosswise the same; and where the AEAD is ideal, only if they are.  The responder has a reply to
an initiation, which carries a cookie, and an initiation with it passes from the same address as
long as the secret is fresh. -/
theorem handshake_agreement (c : Crypto) (hc : c.Lawful) (cfg : NoiseConfig) (b : Bytes)
    (hremote : cfg.remoteStatic = c.pub b) (cookie eph : Bytes) (idx : UInt32) (unix : ℤ)
    (nanosecond : ℕ) (pkt : Bytes) (i : Initiator)
    (hinit : ((Initiator.new c cfg).setCookie cookie).initiation c eph idx
      (timestamp unix nanosecond) = some (pkt, i)) :
    (∃ r, (Responder.new c b cfg.typeInitiation cfg.typeResponse).consume c pkt =
        some ((c.pub cfg.localStatic, timestamp unix nanosecond), r) ∧
      ∀ psk ephR idxR resp kpR, r.response c psk ephR idxR = some (resp, kpR) →
        (cfg.presharedKey = psk → ∃ kpI, i.consume c resp = some kpI ∧ Crosswise kpI kpR) ∧
        ∃ x, r.transcript c ephR = some x ∧ (IdealAt c x psk cfg.presharedKey →
          (i.consume c resp).isSome = true → cfg.presharedKey = psk)) ∧
      ∀ s₀ t₀ src now secret nonce, nonce.length = 24 → ∃ reply k,
        { CookieChecker.new c b cfg.typeInitiation with secret := s₀, secretAt := t₀ }.cookieReply c
          pkt src now secret nonce = some (reply, k) ∧
        i.consumeCookieReply c reply = some (k.cookieFor c src) ∧
        ∀ eph' idx' unix' nanosecond' pkt' i', k.cookieFor c src ≠ zeroMAC →
          ((Initiator.new c cfg).setCookie (k.cookieFor c src)).initiation c eph' idx'
            (timestamp unix' nanosecond') = some (pkt', i') →
          ∀ src' now', unmap src'.ip = unmap src.ip → src'.port = src.port → k.fresh now' = true →
            k.checkMAC2 c pkt' src' now' = true := by
  obtain ⟨m, es, ss, hsent⟩ := exists_sent hc (length_timestamp _ _) hinit
  have haim := aimed_new c hremote cookie
  constructor
  · obtain ⟨r, hr, hmet⟩ := consume_initiation hc haim hsent
    exact ⟨r, hr, fun psk ephR idxR resp kpR hresp => consume_response hc hmet hresp⟩
  intro s₀ t₀ src now secret nonce hnonce
  set k₀ : CookieChecker :=
    { CookieChecker.new c b cfg.typeInitiation with secret := s₀, secretAt := t₀ } with hk₀
  obtain ⟨reply, hreply, hissued⟩ := exists_cookieReply (k := k₀) hc haim hsent rfl hnonce src now
    secret
  refine ⟨reply, k₀.renew now secret, hreply, hissued, ?_⟩
  intro eph' idx' unix' nanosecond' pkt' i' hset hinit' src' now' hip hport hfresh
  obtain ⟨m', es', ss', hsent'⟩ := exists_sent hc (length_timestamp _ _) hinit'
  have ham : src'.am = src.am := by rw [AddrPort.am, AddrPort.am, hip, hport]
  refine checkMAC2_initiation hsent' ?_ hset (typeInitiation_renew k₀ now secret).symm hfresh
  rw [CookieChecker.cookieFor, CookieChecker.cookieFor, ham]
  rfl

/-! ## Two ends -/

/-- Primitives that can be computed. -/
def toyCrypto : Crypto where
  hash _ := []
  hmac k x := (x ++ k).take 4
  mac _ _ := List.replicate 16 7
  sealBox k plain _ := plain ++ (k ++ zeroMAC).take 16
  openBox k box _ :=
    if box.drop (box.length - 16) = (k ++ zeroMAC).take 16 then some (box.take (box.length - 16))
    else none
  xsealBox _ _ plain _ := plain ++ zeroMAC
  xopenBox _ _ box _ := some (box.take (box.length - 16))
  pub a := (a ++ List.replicate 32 0).take 32
  dh a p := some [a.headD 0 + p.headD 0]

lemma toyCrypto_lawful : toyCrypto.Lawful where
  openBox_sealBox k plain ad := by simp [toyCrypto, zeroMAC]
  xopenBox_xsealBox k nonce plain ad := by simp [toyCrypto, zeroMAC]
  dh_comm a b := by cases a <;> cases b <;> simp [toyCrypto, UInt8.add_comm]
  length_sealBox k plain ad := by simp [toyCrypto, zeroMAC]
  length_xsealBox k nonce plain ad := by simp [toyCrypto, zeroMAC]
  length_mac k data := rfl
  length_pub a := by simp [toyCrypto]

def toyConfig : NoiseConfig where
  localStatic := [3]
  remoteStatic := toyCrypto.pub [4]
  presharedKey := List.replicate 32 9

def toyInitiation : Option (Bytes × Initiator) :=
  ((Initiator.new toyCrypto toyConfig).setCookie zeroMAC).initiation toyCrypto [5] 11
    (timestamp 0 0)

/-- What the responder answers with a preshared key. -/
def toyResponse (psk : Bytes) : Option (Responder × Bytes × Keypair) := do
  let (pkt, _) ← toyInitiation
  let (_, r) ← (Responder.new toyCrypto [4] 0 0).consume toyCrypto pkt
  let (resp, kp) ← r.response toyCrypto psk [6] 12
  return (r, resp, kp)

instance (c : Crypto) (x : Bytes × Bytes) (psk psk' : Bytes) : Decidable (IdealAt c x psk psk') :=
  inferInstanceAs (Decidable (_ → _))

lemma response_of_toyResponse {r r₀ : Responder} {a : Bytes × Bytes} {kp : Keypair}
    {psk pkt resp : Bytes} {i : Initiator} (hinit : toyInitiation = some (pkt, i))
    (hr : (Responder.new toyCrypto [4] 0 0).consume toyCrypto pkt = some (a, r₀))
    (h : toyResponse psk = some (r, resp, kp)) :
    r = r₀ ∧ r₀.response toyCrypto psk [6] 12 = some (resp, kp) := by
  simp only [toyResponse, hinit, hr, bind_eq_bind, bind_some, bind_eq_some_iff] at h
  obtain ⟨z, hz, heq⟩ := h
  cases heq
  exact ⟨rfl, hz⟩

/-- The same preshared key gives keys, and another one gives none. -/
theorem handshake_agreement_toy : ∃ pkt i, toyInitiation = some (pkt, i) ∧
      (∃ r resp kpR kpI, toyResponse (replicate 32 9) = some (r, resp, kpR) ∧
        i.consume toyCrypto resp = some kpI ∧ Crosswise kpI kpR) ∧
      ∃ r resp kpR, toyResponse (replicate 32 8) = some (r, resp, kpR) ∧
        i.consume toyCrypto resp = none := by
  have hsame : (toyResponse (replicate 32 9)).isSome = true := by decide +kernel
  have hother : (toyResponse (replicate 32 8)).isSome = true := by decide +kernel
  have hideal : ∀ z ∈ toyResponse (replicate 32 8), ∀ x ∈ z.1.transcript toyCrypto [6],
      IdealAt toyCrypto x (replicate 32 8) (replicate 32 9) := by
    decide +kernel
  obtain ⟨⟨r, resp, kpR⟩, hz⟩ := isSome_iff_exists.1 hsame
  obtain ⟨⟨r', resp', kpR'⟩, hz'⟩ := isSome_iff_exists.1 hother
  obtain ⟨⟨pkt, i⟩, hinit⟩ : ∃ x, toyInitiation = some x :=
    isSome_iff_exists.1 (by decide +kernel)
  obtain ⟨⟨r₀, hr, hall⟩, -⟩ := handshake_agreement toyCrypto toyCrypto_lawful toyConfig [4] rfl
    zeroMAC [5] 11 0 0 pkt i hinit
  refine ⟨pkt, i, hinit, ?_, r', resp', kpR', hz', ?_⟩
  · obtain ⟨kpI, hkpI, hcross⟩ :=
      (hall _ _ _ _ _ (response_of_toyResponse hinit hr hz).2).1 rfl
    exact ⟨r, resp, kpR, kpI, hz, hkpI, hcross⟩
  · obtain ⟨rfl, hresp⟩ := response_of_toyResponse hinit hr hz'
    obtain ⟨x, hx, honly⟩ := (hall _ _ _ _ _ hresp).2
    refine not_isSome_iff_eq_none.1 fun hsome => ?_
    exact absurd (honly (hideal _ hz' x hx) hsome) (by decide)

end Veepin.WireGuard
