import Veepin.Core.Bytes

/-!
# Handshake messages of WireGuard

`wire.go`: the three handshake messages, their fixed layouts and the regions that the MACs cover.

* `parseHandshakeInitiation_marshal`, `parseHandshakeResponse_marshal`, `parseCookieReply_marshal` —
  a message is read back.
-/

namespace Veepin.WireGuard

open List

/-- `binary.LittleEndian.PutUint32`. -/
def putLE32 (n : UInt32) : Bytes :=
  [UInt8.ofNat n.toNat, UInt8.ofNat (n.toNat / 256), UInt8.ofNat (n.toNat / 65536),
    UInt8.ofNat (n.toNat / 16777216)]

/-- `binary.LittleEndian.Uint32(b[i:])`. -/
def le32 (b : Bytes) (i : ℕ) : UInt32 :=
  UInt32.ofNat ((b.getD i 0).toNat + (b.getD (i + 1) 0).toNat * 256 +
    (b.getD (i + 2) 0).toNat * 65536 + (b.getD (i + 3) 0).toNat * 16777216)

/-- The octets `b[i:i+n]`. -/
def slice (b : Bytes) (i n : ℕ) : Bytes := (b.drop i).take n

@[simp] lemma length_putLE32 (n : UInt32) : (putLE32 n).length = 4 := rfl

lemma le32_putLE32 (n : UInt32) : le32 (putLE32 n) 0 = n := by
  have hlt := n.toNat_lt
  apply UInt32.toNat_inj.1
  simp only [le32, putLE32, getD_cons_zero, getD_cons_succ, UInt8.toNat_ofNat',
    UInt32.toNat_ofNat']
  omega

/-- The field at `i`, and what comes after it. -/
lemma slice_field {b field rest : Bytes} {i n : ℕ} (h : b.drop i = field ++ rest)
    (hn : field.length = n) : slice b i n = field ∧ b.drop (i + n) = rest := by
  subst hn
  exact ⟨by rw [slice, h, take_left], by rw [← drop_drop, h, drop_left]⟩

lemma slice_last {b field : Bytes} {i n : ℕ} (h : b.drop i = field) (hn : field.length = n) :
    slice b i n = field := by
  rw [slice, h, ← hn, take_length]

/-! ## Messages -/

def typeHandshakeInitiation : UInt8 := 1

def typeHandshakeResponse : UInt8 := 2

def typeCookieReply : UInt8 := 3

def sizeHandshakeInitiation : ℕ := 148

def sizeHandshakeResponse : ℕ := 92

def sizeCookieReply : ℕ := 64

def macSize : ℕ := 16

/-- `Type`. -/
def messageType (pkt : Bytes) : Option UInt8 :=
  if pkt.length < 4 then none
  else if pkt.getD 1 0 ||| pkt.getD 2 0 ||| pkt.getD 3 0 ≠ 0 then none
  else some (pkt.getD 0 0)

/-- The type word of a message. -/
def typeWord (t : UInt8) : Bytes := [t, 0, 0, 0]

@[simp] lemma length_typeWord (t : UInt8) : (typeWord t).length = 4 := rfl

lemma messageType_typeWord (t : UInt8) (rest : Bytes) :
    messageType (typeWord t ++ rest) = some t := by
  simp [messageType, typeWord]

structure HandshakeInitiation where
  sender : UInt32
  ephemeral : Bytes
  static : Bytes
  timestamp : Bytes
  mac1 : Bytes
  mac2 : Bytes

/-- The fields have the sizes of their arrays. -/
structure HandshakeInitiation.Sized (m : HandshakeInitiation) : Prop where
  ephemeral : m.ephemeral.length = 32
  static : m.static.length = 48
  timestamp : m.timestamp.length = 28
  mac1 : m.mac1.length = 16
  mac2 : m.mac2.length = 16

def HandshakeInitiation.marshal (m : HandshakeInitiation) : Bytes :=
  typeWord typeHandshakeInitiation ++ (putLE32 m.sender ++ (m.ephemeral ++ (m.static ++
    (m.timestamp ++ (m.mac1 ++ m.mac2)))))

def parseHandshakeInitiation (pkt : Bytes) : Option HandshakeInitiation :=
  if pkt.length ≠ sizeHandshakeInitiation then none
  else if messageType pkt ≠ some typeHandshakeInitiation then none
  else
    some ⟨le32 pkt 4, slice pkt 8 32, slice pkt 40 48, slice pkt 88 28, slice pkt 116 16,
      slice pkt 132 16⟩

structure HandshakeResponse where
  sender : UInt32
  receiver : UInt32
  ephemeral : Bytes
  empty : Bytes
  mac1 : Bytes
  mac2 : Bytes

structure HandshakeResponse.Sized (m : HandshakeResponse) : Prop where
  ephemeral : m.ephemeral.length = 32
  empty : m.empty.length = 16
  mac1 : m.mac1.length = 16
  mac2 : m.mac2.length = 16

def HandshakeResponse.marshal (m : HandshakeResponse) : Bytes :=
  typeWord typeHandshakeResponse ++ (putLE32 m.sender ++ (putLE32 m.receiver ++ (m.ephemeral ++
    (m.empty ++ (m.mac1 ++ m.mac2)))))

def parseHandshakeResponse (pkt : Bytes) : Option HandshakeResponse :=
  if pkt.length ≠ sizeHandshakeResponse then none
  else if messageType pkt ≠ some typeHandshakeResponse then none
  else
    some ⟨le32 pkt 4, le32 pkt 8, slice pkt 12 32, slice pkt 44 16, slice pkt 60 16,
      slice pkt 76 16⟩

structure CookieReply where
  receiver : UInt32
  nonce : Bytes
  cookie : Bytes

structure CookieReply.Sized (m : CookieReply) : Prop where
  nonce : m.nonce.length = 24
  cookie : m.cookie.length = 32

def CookieReply.marshal (m : CookieReply) : Bytes :=
  typeWord typeCookieReply ++ (putLE32 m.receiver ++ (m.nonce ++ m.cookie))

def parseCookieReply (pkt : Bytes) : Option CookieReply :=
  if pkt.length ≠ sizeCookieReply then none
  else if messageType pkt ≠ some typeCookieReply then none
  else some ⟨le32 pkt 4, slice pkt 8 24, slice pkt 32 32⟩

/-- `MACRegions`: how many octets come before either MAC. -/
def macRegions (msg : Bytes) : Option (Bytes × Bytes) :=
  if msg.length = sizeHandshakeInitiation then some (msg.take 116, msg.take 132)
  else if msg.length = sizeHandshakeResponse then some (msg.take 60, msg.take 76)
  else none

/-! ## Reading back -/

lemma HandshakeInitiation.Sized.length {m : HandshakeInitiation} (h : m.Sized) :
    m.marshal.length = 148 := by
  simp [marshal, typeWord, h.ephemeral, h.static, h.timestamp, h.mac1, h.mac2]

lemma HandshakeResponse.Sized.length {m : HandshakeResponse} (h : m.Sized) :
    m.marshal.length = 92 := by
  simp [marshal, typeWord, h.ephemeral, h.empty, h.mac1, h.mac2]

lemma CookieReply.Sized.length {m : CookieReply} (h : m.Sized) : m.marshal.length = 64 := by
  simp [marshal, typeWord, h.nonce, h.cookie]

lemma parseHandshakeInitiation_marshal {m : HandshakeInitiation} (h : m.Sized) :
    parseHandshakeInitiation m.marshal = some m := by
  have hsender : le32 m.marshal 4 = m.sender := le32_putLE32 _
  have h8 : m.marshal.drop 8 =
      m.ephemeral ++ (m.static ++ (m.timestamp ++ (m.mac1 ++ m.mac2))) := rfl
  obtain ⟨hephemeral, h40⟩ := slice_field h8 h.ephemeral
  obtain ⟨hstatic, h88⟩ := slice_field h40 h.static
  obtain ⟨htimestamp, h116⟩ := slice_field h88 h.timestamp
  obtain ⟨hmac1, h132⟩ := slice_field h116 h.mac1
  have hmac2 := slice_last h132 h.mac2
  rw [parseHandshakeInitiation, if_neg (by rw [h.length]; decide),
    if_neg (by rw [HandshakeInitiation.marshal, messageType_typeWord]; simp), hsender, hephemeral,
    hstatic, htimestamp, hmac1, hmac2]

lemma parseHandshakeResponse_marshal {m : HandshakeResponse} (h : m.Sized) :
    parseHandshakeResponse m.marshal = some m := by
  have hsender : le32 m.marshal 4 = m.sender := le32_putLE32 _
  have hreceiver : le32 m.marshal 8 = m.receiver := le32_putLE32 _
  have h12 : m.marshal.drop 12 = m.ephemeral ++ (m.empty ++ (m.mac1 ++ m.mac2)) := rfl
  obtain ⟨hephemeral, h44⟩ := slice_field h12 h.ephemeral
  obtain ⟨hempty, h60⟩ := slice_field h44 h.empty
  obtain ⟨hmac1, h76⟩ := slice_field h60 h.mac1
  have hmac2 := slice_last h76 h.mac2
  rw [parseHandshakeResponse, if_neg (by rw [h.length]; decide),
    if_neg (by rw [HandshakeResponse.marshal, messageType_typeWord]; simp), hsender, hreceiver,
    hephemeral, hempty, hmac1, hmac2]

lemma parseCookieReply_marshal {m : CookieReply} (h : m.Sized) :
    parseCookieReply m.marshal = some m := by
  have hreceiver : le32 m.marshal 4 = m.receiver := le32_putLE32 _
  have h8 : m.marshal.drop 8 = m.nonce ++ m.cookie := rfl
  obtain ⟨hnonce, h32⟩ := slice_field h8 h.nonce
  have hcookie := slice_last h32 h.cookie
  rw [parseCookieReply, if_neg (by rw [h.length]; decide),
    if_neg (by rw [CookieReply.marshal, messageType_typeWord]; simp), hreceiver, hnonce, hcookie]

end Veepin.WireGuard
