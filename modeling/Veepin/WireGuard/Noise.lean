import Veepin.WireGuard.Wire

/-!
# The handshake of WireGuard

`noise.go`, `responder.go`, `kdf.go` and `cookie.go` of `internal/wireguard/noise`: either role with
its own transcript, as the source writes them.  X25519, the hashes and the AEADs are parameters.

* `Crypto.Lawful` — what they are assumed to do;
* `CookieChecker` — the MACs and the cookie under load.
-/

namespace Veepin.WireGuard

/-- The primitives: BLAKE2s, HMAC over it and its keyed mode, ChaCha20-Poly1305 under the zero
nonce, XChaCha20-Poly1305 and X25519, whose result is refused if it is zero. -/
structure Crypto where
  hash : Bytes → Bytes
  hmac : Bytes → Bytes → Bytes
  mac : Bytes → Bytes → Bytes
  sealBox : Bytes → Bytes → Bytes → Bytes
  openBox : Bytes → Bytes → Bytes → Option Bytes
  xsealBox : Bytes → Bytes → Bytes → Bytes → Bytes
  xopenBox : Bytes → Bytes → Bytes → Bytes → Option Bytes
  pub : Bytes → Bytes
  dh : Bytes → Bytes → Option Bytes

structure Crypto.Lawful (c : Crypto) : Prop where
  openBox_sealBox : ∀ k plain ad, c.openBox k (c.sealBox k plain ad) ad = some plain
  xopenBox_xsealBox : ∀ k nonce plain ad,
    c.xopenBox k nonce (c.xsealBox k nonce plain ad) ad = some plain
  dh_comm : ∀ a b, c.dh a (c.pub b) = c.dh b (c.pub a)
  length_sealBox : ∀ k plain ad, (c.sealBox k plain ad).length = plain.length + 16
  length_xsealBox : ∀ k nonce plain ad, (c.xsealBox k nonce plain ad).length = plain.length + 16
  length_mac : ∀ k data, (c.mac k data).length = 16
  length_pub : ∀ a, (c.pub a).length = 32

/-- The octets of an ASCII text. -/
def ascii (s : String) : Bytes := s.toList.map fun ch => UInt8.ofNat ch.toNat

def construction : Bytes := ascii "Noise_IKpsk2_25519_ChaChaPoly_BLAKE2s"

def identifier : Bytes := ascii "WireGuard v1 zx2c4 Jason@zx2c4.com"

def labelMAC1 : Bytes := ascii "mac1----"

def labelCookie : Bytes := ascii "cookie--"

/-! ## Key derivation -/

section Kdf

variable (c : Crypto)

def kdf1 (ck input : Bytes) : Bytes := c.hmac (c.hmac ck input) [1]

def kdf2 (ck input : Bytes) : Bytes × Bytes :=
  let temp := c.hmac ck input
  let out1 := c.hmac temp [1]
  (out1, c.hmac temp (out1 ++ [2]))

def kdf3 (ck input : Bytes) : Bytes × Bytes × Bytes :=
  let temp := c.hmac ck input
  let out1 := c.hmac temp [1]
  let out2 := c.hmac temp (out1 ++ [2])
  (out1, out2, c.hmac temp (out2 ++ [3]))

end Kdf

/-- `macOver`: the type word of AmneziaWG in place of the stock one. -/
def macOver (covered : Bytes) (word : UInt32) : Bytes :=
  if word = 0 ∨ covered.length < 4 then covered else putLE32 word ++ covered.drop 4

def zeroMAC : Bytes := List.replicate 16 0

def timestamp (unix : ℤ) (nanosecond : ℕ) : Bytes :=
  putBE64 ((2 ^ 62 + unix) % 2 ^ 64).toNat ++ putBE32 nanosecond

structure Keypair where
  send : Bytes
  recv : Bytes
  localIndex : UInt32
  remoteIndex : UInt32
  deriving DecidableEq

/-! ## The initiator -/

/-- `Config`. -/
structure NoiseConfig where
  localStatic : Bytes
  remoteStatic : Bytes
  presharedKey : Bytes
  typeInitiation : UInt32 := 0
  typeResponse : UInt32 := 0

structure Initiator where
  localStatic : Bytes
  remoteStatic : Bytes
  presharedKey : Bytes
  mac1Key : Bytes
  cookieKey : Bytes
  cookie : Bytes := zeroMAC
  ephemeral : Bytes := []
  localIdx : UInt32 := 0
  ck : Bytes := []
  h : Bytes := []
  lastMAC1 : Bytes := zeroMAC
  sent : Bool := false
  typeInitiation : UInt32

namespace Initiator

/-- `NewInitiator`. -/
def new (c : Crypto) (cfg : NoiseConfig) : Initiator where
  localStatic := cfg.localStatic
  remoteStatic := cfg.remoteStatic
  presharedKey := cfg.presharedKey
  mac1Key := c.hash (labelMAC1 ++ cfg.remoteStatic)
  cookieKey := c.hash (labelCookie ++ cfg.remoteStatic)
  typeInitiation := cfg.typeInitiation

def setCookie (i : Initiator) (cookie : Bytes) : Initiator := { i with cookie }

/-- `addMACs`: the message with both MACs, and mac1. -/
def addMACs (c : Crypto) (i : Initiator) (msg : Bytes) : Option (Bytes × Bytes) :=
  match macRegions msg with
  | none => none
  | some (over1, over2) =>
    let m1 := c.mac i.mac1Key (macOver over1 i.typeInitiation)
    let msg := over1 ++ (m1 ++ msg.drop (over1.length + macSize))
    -- mac2 covers the mac1 just written
    let over2 := msg.take over2.length
    let m2 :=
      if i.cookie = zeroMAC then zeroMAC else c.mac i.cookie (macOver over2 i.typeInitiation)
    some (over2 ++ (m2 ++ msg.drop (over2.length + macSize)), m1)

/-- `Initiation`, with the ephemeral key, the index and the time that it takes. -/
def initiation (c : Crypto) (i : Initiator) (eph : Bytes) (idx : UInt32) (ts : Bytes) :
    Option (Bytes × Initiator) :=
  if i.sent then none
  else
    let ck := c.hash construction
    let ih := c.hash (ck ++ identifier)
    let h := c.hash (ih ++ i.remoteStatic)
    let ephemeral := c.pub eph
    let h := c.hash (h ++ ephemeral)
    let ck := kdf1 c ck ephemeral
    match c.dh eph i.remoteStatic with
    | none => none
    | some es =>
      let k := (kdf2 c ck es).2
      let ck := (kdf2 c ck es).1
      let static := c.sealBox k (c.pub i.localStatic) h
      let h := c.hash (h ++ static)
      match c.dh i.localStatic i.remoteStatic with
      | none => none
      | some ss =>
        let k := (kdf2 c ck ss).2
        let ck := (kdf2 c ck ss).1
        let stamp := c.sealBox k ts h
        let h := c.hash (h ++ stamp)
        let msg : HandshakeInitiation := ⟨idx, ephemeral, static, stamp, zeroMAC, zeroMAC⟩
        match i.addMACs c msg.marshal with
        | none => none
        | some (out, m1) =>
          some (out, { i with
            ephemeral := eph, localIdx := idx, ck, h, lastMAC1 := m1, sent := true })

def consume (c : Crypto) (i : Initiator) (pkt : Bytes) : Option Keypair :=
  if i.sent = false then none
  else
    match parseHandshakeResponse pkt with
    | none => none
    | some msg =>
      if msg.receiver ≠ i.localIdx then none
      else
        let h := c.hash (i.h ++ msg.ephemeral)
        let ck := kdf1 c i.ck msg.ephemeral
        match c.dh i.ephemeral msg.ephemeral with
        | none => none
        | some ee =>
          let ck := kdf1 c ck ee
          match c.dh i.localStatic msg.ephemeral with
          | none => none
          | some se =>
            let ck := kdf1 c ck se
            let k := (kdf3 c ck i.presharedKey).2.2
            let tau := (kdf3 c ck i.presharedKey).2.1
            let ck := (kdf3 c ck i.presharedKey).1
            let h := c.hash (h ++ tau)
            match c.openBox k msg.empty h with
            | none => none
            | some _ =>
              some ⟨(kdf2 c ck []).1, (kdf2 c ck []).2, i.localIdx, msg.sender⟩

def consumeCookieReply (c : Crypto) (i : Initiator) (pkt : Bytes) : Option Bytes :=
  if i.sent = false then none
  else
    match parseCookieReply pkt with
    | none => none
    | some msg =>
      if msg.receiver ≠ i.localIdx then none
      else c.xopenBox i.cookieKey msg.nonce msg.cookie i.lastMAC1

end Initiator

/-! ## The responder -/

structure Responder where
  localStatic : Bytes
  mac1Key : Bytes
  ck : Bytes := []
  h : Bytes := []
  peerEph : Bytes := []
  peerStatic : Bytes := []
  peerIndex : UInt32 := 0
  consumed : Bool := false
  typeInitiation : UInt32
  typeResponse : UInt32

namespace Responder

/-- `NewResponderWithTypes`. -/
def new (c : Crypto) (localStatic : Bytes) (h1 h2 : UInt32) : Responder where
  localStatic := localStatic
  mac1Key := c.hash (labelMAC1 ++ c.pub localStatic)
  typeInitiation := h1
  typeResponse := h2

/-- `Responder.Consume`: the peer's static key and the timestamp. -/
def consume (c : Crypto) (r : Responder) (pkt : Bytes) : Option ((Bytes × Bytes) × Responder) :=
  match parseHandshakeInitiation pkt, macRegions pkt with
  | some msg, some (over1, _) =>
    if c.mac r.mac1Key (macOver over1 r.typeInitiation) ≠ msg.mac1 then none
    else
      let ck := c.hash construction
      let ih := c.hash (ck ++ identifier)
      let h := c.hash (ih ++ c.pub r.localStatic)
      let h := c.hash (h ++ msg.ephemeral)
      let ck := kdf1 c ck msg.ephemeral
      match c.dh r.localStatic msg.ephemeral with
      | none => none
      | some es =>
        let k := (kdf2 c ck es).2
        let ck := (kdf2 c ck es).1
        match c.openBox k msg.static h with
        | none => none
        | some ps =>
          -- NewPublicKey takes 32 octets
          if ps.length ≠ 32 then none
          else
            let h := c.hash (h ++ msg.static)
            match c.dh r.localStatic ps with
            | none => none
            | some ss =>
              let k := (kdf2 c ck ss).2
              let ck := (kdf2 c ck ss).1
              match c.openBox k msg.timestamp h with
              | none => none
              | some ts =>
                some ((ps, ts), { r with
                  ck, h := c.hash (h ++ msg.timestamp), peerEph := msg.ephemeral
                  peerStatic := ps, peerIndex := msg.sender, consumed := true })
  | _, _ => none

/-- `Response`, with the ephemeral key and the index that it takes. -/
def response (c : Crypto) (r : Responder) (psk eph : Bytes) (idx : UInt32) :
    Option (Bytes × Keypair) :=
  if r.consumed = false then none
  else
    let ephemeral := c.pub eph
    let h := c.hash (r.h ++ ephemeral)
    let ck := kdf1 c r.ck ephemeral
    match c.dh eph r.peerEph with
    | none => none
    | some ee =>
      let ck := kdf1 c ck ee
      match c.dh eph r.peerStatic with
      | none => none
      | some se =>
        let ck := kdf1 c ck se
        let k := (kdf3 c ck psk).2.2
        let tau := (kdf3 c ck psk).2.1
        let ck := (kdf3 c ck psk).1
        let h := c.hash (h ++ tau)
        let empty := c.sealBox k [] h
        let msg : HandshakeResponse := ⟨idx, r.peerIndex, ephemeral, empty, zeroMAC, zeroMAC⟩
        let out := msg.marshal
        let covered := out.take (sizeHandshakeResponse - 2 * macSize)
        let m1 := c.mac (c.hash (labelMAC1 ++ r.peerStatic)) (macOver covered r.typeResponse)
        let out := covered ++ (m1 ++ out.drop (sizeHandshakeResponse - macSize))
        -- the initiator sends with what this end receives with
        some (out, ⟨(kdf2 c ck []).2, (kdf2 c ck []).1, idx, r.peerIndex⟩)

end Responder

/-! ## Cookies -/

structure AddrPort where
  ip : Bytes
  port : UInt16
  deriving DecidableEq

def unmap (ip : Bytes) : Bytes :=
  if ip.length = 16 ∧ ip.take 12 = v4InV6Head then ip.drop 12 else ip

/-- The octets that a cookie is made of. -/
def AddrPort.am (src : AddrPort) : Bytes := unmap src.ip ++ putBE16 src.port.toNat

/-- `CookieRefreshTime`, in nanoseconds. -/
def cookieRefreshTime : ℤ := 120 * 1000000000

structure CookieChecker where
  mac1Key : Bytes
  encKey : Bytes
  typeInitiation : UInt32
  secret : Bytes := List.replicate 32 0
  secretAt : Option ℤ := none

namespace CookieChecker

/-- `NewCookieChecker`. -/
def new (c : Crypto) (localStatic : Bytes) (typeInitiation : UInt32) : CookieChecker where
  mac1Key := c.hash (labelMAC1 ++ c.pub localStatic)
  encKey := c.hash (labelCookie ++ c.pub localStatic)
  typeInitiation := typeInitiation

def checkMAC1 (c : Crypto) (k : CookieChecker) (msg : Bytes) : Bool :=
  if msg.length ≠ sizeHandshakeInitiation then false
  else c.mac k.mac1Key (macOver (msg.take 116) k.typeInitiation) = slice msg 116 16

def cookieFor (c : Crypto) (k : CookieChecker) (src : AddrPort) : Bytes := c.mac k.secret src.am

/-- The secret is in force. -/
def fresh (k : CookieChecker) (now : ℤ) : Bool :=
  match k.secretAt with
  | none => false
  | some t => now - t ≤ cookieRefreshTime

def checkMAC2 (c : Crypto) (k : CookieChecker) (msg : Bytes) (src : AddrPort) (now : ℤ) : Bool :=
  if msg.length ≠ sizeHandshakeInitiation then false
  else
    k.fresh now &&
      c.mac (k.cookieFor c src) (macOver (msg.take 132) k.typeInitiation) = slice msg 132 16

/-- The secret after a reply: a new one if it has aged out. -/
def renew (k : CookieChecker) (now : ℤ) (secret : Bytes) : CookieChecker :=
  if k.fresh now then k else { k with secret, secretAt := some now }

/-- `CookieReply`, with the secret and the nonce that it may draw. -/
def cookieReply (c : Crypto) (k : CookieChecker) (msg : Bytes) (src : AddrPort) (now : ℤ)
    (secret nonce : Bytes) : Option (Bytes × CookieChecker) :=
  if msg.length ≠ sizeHandshakeInitiation then none
  else
    let k := k.renew now secret
    let reply : CookieReply :=
      ⟨le32 msg 4, nonce, c.xsealBox k.encKey nonce (k.cookieFor c src) (slice msg 116 16)⟩
    some (reply.marshal, k)

end CookieChecker

end Veepin.WireGuard
