import Veepin.IKEv2.Ike.KeyMat

/-!
# Protected messages

The model of `internal/ikev2/ike/sk.go` and `fragment.go`: an SK payload seals a chain of inner
payloads under the keys of one direction; a message that would be too long is cut into SKF
fragments, each sealed for itself and put together by a `FragReassembler`.

The IV is a drawn octet stream.  A message that was built opens to what was sealed
(`decryptSK_build`).
-/

namespace Veepin.IKE

open List Option

variable (c : Crypto)

/-! ## Sealing -/

inductive KeyDir
  | initiatorToResponder
  | responderToInitiator
  deriving DecidableEq, Repr

/-- `encryptKeys`: the encryption and the integrity key of a direction. -/
def encryptKeys (keys : SAKeys) : KeyDir → Bytes × Bytes
  | .initiatorToResponder => (keys.skei, keys.skai)
  | .responderToInitiator => (keys.sker, keys.skar)

/-- The first `n` octets of a stream. -/
def octets (draw : ℕ → UInt8) (n : ℕ) : Bytes := (List.range n).map draw

@[simp] lemma length_octets (draw : ℕ → UInt8) (n : ℕ) : (octets draw n).length = n := by
  simp [octets]

/-- The pad octets before the pad length octet. -/
def padLen (ptLen block : ℕ) : ℕ :=
  if block ≤ 1 then 0
  else if block - (ptLen + 1) % block = block then 0
  else block - (ptLen + 1) % block

/-- `padRFC7296`: the pad octets count from one, and the last octet says how many there are. -/
def padRFC7296 (pt : Bytes) (block : ℕ) : Bytes :=
  pt ++ ((List.range (padLen pt.length block)).map (fun i => UInt8.ofNat (i + 1)) ++
    [UInt8.ofNat (padLen pt.length block)])

def stripRFC7296Pad (padded : Bytes) : Option Bytes :=
  match padded.getLast? with
  | none => some []
  | some b =>
    if padded.length < b.toNat + 1 then none
    else some (padded.take (padded.length - b.toNat - 1))

/-- The salt at the end of an AEAD key, and the key before it. -/
def Suite.saltOf (s : Suite) (encKey : Bytes) : Bytes := (encKey.drop (s.cipher.keyLen - 4)).take 4

def Suite.aeadKeyOf (s : Suite) (encKey : Bytes) : Bytes := encKey.take (s.cipher.keyLen - 4)

/-- `sealSK`: IV, ciphertext, ICV.  `padRFC7296` adds just the pad length octet for an AEAD. -/
def sealSK (s : Suite) (encKey integKey aad inner iv : Bytes) : Bytes :=
  let padded := padRFC7296 inner s.cipher.blockLen
  match s.integ with
  | none => iv ++ c.aeadSeal s.encrID (s.aeadKeyOf encKey) (s.saltOf encKey ++ iv) aad padded
  | some ig =>
    let ct := c.cbcEncrypt encKey iv padded
    iv ++ ct ++ (c.mac s.integID integKey (aad ++ (iv ++ ct))).take ig.icvLen

def openSK (s : Suite) (encKey integKey aad ivCtIcv : Bytes) : Option Bytes :=
  match s.integ with
  | none =>
    if ivCtIcv.length < s.cipher.ivLen + s.cipher.icvLen then none
    else c.aeadOpen s.encrID (s.aeadKeyOf encKey)
      (s.saltOf encKey ++ ivCtIcv.take s.cipher.ivLen) aad (ivCtIcv.drop s.cipher.ivLen)
  | some ig =>
    let rest := ivCtIcv.take (ivCtIcv.length - ig.icvLen)
    let icv := ivCtIcv.drop (ivCtIcv.length - ig.icvLen)
    if ivCtIcv.length < 16 + ig.icvLen then none
    else if (c.mac s.integID integKey (aad ++ rest)).take ig.icvLen ≠ icv then none
    else if (rest.drop 16).length % 16 ≠ 0 then none
    else some (c.cbcDecrypt encKey (rest.take 16) (rest.drop 16))

/-- The length of the ICV. -/
def Suite.icvLen (s : Suite) : ℕ := (s.integ.map Integrity.icvLen).getD s.cipher.icvLen

/-- The length of an SK body with `ptLen` octets of inner payloads. -/
def Suite.skBodyLen (s : Suite) (ptLen : ℕ) : ℕ :=
  s.cipher.ivLen + (ptLen + padLen ptLen s.cipher.blockLen + 1) + s.icvLen

def buildEncryptedMessage (hdr : Header) (s : Suite) (keys : SAKeys) (dir : KeyDir)
    (firstInner : UInt8) (inner : Bytes) (iv : ℕ → UInt8) : Option Bytes :=
  let (encKey, integKey) := encryptKeys keys dir
  let skPayloadLen := 4 + s.skBodyLen inner.length
  let hdr := { hdr with
    nextPayload := typeSK, version := 0x20, length := headerLen + skPayloadLen : Header }
  let aad := hdr.marshal ++ ([firstInner, 0] ++ putBE16 skPayloadLen)
  let sealed := sealSK c s encKey integKey aad inner (octets iv s.cipher.ivLen)
  if sealed.length ≠ s.skBodyLen inner.length then none else some (aad ++ sealed)

/-- `decryptSK`: the type of the first inner payload and the inner octets. -/
def decryptSK (raw : Bytes) (sk : RawPayload) (s : Suite) (keys : SAKeys) (dir : KeyDir) :
    Option (UInt8 × Bytes) := do
  let (encKey, integKey) := encryptKeys keys dir
  let bodyStart := raw.length - sk.body.length
  if bodyStart < headerLen + 4 then none
  let padded ← openSK c s encKey integKey (raw.take bodyStart) sk.body
  let inner ← stripRFC7296Pad padded
  return (raw.getD (bodyStart - 4) 0, inner)

/-! ## Fragments -/

def maxFragments : ℕ := 64

def maxReassembledBytes : ℕ := 64 * 1024

/-- `fragReassemblyTTL`, in nanoseconds. -/
def fragReassemblyTTL : ℤ := 30 * 1000000000

def fragmentThreshold : ℕ := 1280

def skfPrefixLen : ℕ := 4

/-- `fragReassembler`.  A part that is empty is the same as one that has not come: copying an empty
slice gives `nil`. -/
structure FragReassembler where
  msgID : ℕ := 0
  total : ℕ := 0
  parts : Option (List Bytes) := none
  got : ℕ := 0
  bytes : ℕ := 0
  first : UInt8 := 0
  started : ℤ := 0
  deriving DecidableEq, Repr

/-- What a fragment leads to. -/
inductive FragResult
  | error
  | pending
  | complete (inner : Bytes) (first : UInt8)
  deriving DecidableEq, Repr

def FragReassembler.reset (r : FragReassembler) : FragReassembler :=
  { r with parts := none, got := 0, bytes := 0, total := 0, first := 0 }

def FragReassembler.add (r : FragReassembler) (now : ℤ) (msgID fragNum total : ℕ) (first : UInt8)
    (chunk : Bytes) : FragReassembler × FragResult :=
  if total = 0 ∨ maxFragments < total then (r, .error)
  else if fragNum = 0 ∨ total < fragNum then (r, .error)
  else
    let stale := r.parts.isSome && decide (fragReassemblyTTL < now - r.started)
    let r := if r.parts = none ∨ msgID ≠ r.msgID ∨ total ≠ r.total ∨ stale then
        { msgID, total, parts := some (List.replicate total []), got := 0, bytes := 0, first := 0,
          started := now }
      else r
    let parts := r.parts.getD []
    if parts.getD (fragNum - 1) [] ≠ [] then (r, .pending)
    else if maxReassembledBytes < r.bytes + chunk.length then (r.reset, .error)
    else
      let parts := parts.set (fragNum - 1) chunk
      let r := { r with
        parts := some parts, got := r.got + 1, bytes := r.bytes + chunk.length,
        first := if fragNum = 1 then first else r.first }
      if r.got < r.total then (r, .pending) else (r.reset, .complete parts.flatten r.first)

/-- `decryptSKF`: fragment number, total, type of the first inner payload, plaintext. -/
def decryptSKF (raw : Bytes) (skf : RawPayload) (s : Suite) (keys : SAKeys) (dir : KeyDir) :
    Option (ℕ × ℕ × UInt8 × Bytes) := do
  if skf.body.length < skfPrefixLen then none
  let (encKey, integKey) := encryptKeys keys dir
  let ivCtIcv := skf.body.drop skfPrefixLen
  let bodyStart := raw.length - ivCtIcv.length
  if bodyStart < headerLen + 4 + skfPrefixLen then none
  let padded ← openSK c s encKey integKey (raw.take bodyStart) ivCtIcv
  let plaintext ← stripRFC7296Pad padded
  return (be16 skf.body 0, be16 skf.body 2, raw.getD (bodyStart - 4 - skfPrefixLen) 0, plaintext)

def sealSKF (hdr : Header) (s : Suite) (keys : SAKeys) (dir : KeyDir) (fragNum total : ℕ)
    (next : UInt8) (chunk : Bytes) (iv : ℕ → UInt8) : Option Bytes :=
  let (encKey, integKey) := encryptKeys keys dir
  let skfPayloadLen := 4 + skfPrefixLen + s.skBodyLen chunk.length
  let hdr := { hdr with
    nextPayload := typeSKF, version := 0x20, length := headerLen + skfPayloadLen : Header }
  let aad := hdr.marshal ++ ([next, 0] ++ (putBE16 skfPayloadLen ++
    (putBE16 fragNum ++ putBE16 total)))
  let sealed := sealSK c s encKey integKey aad chunk (octets iv s.cipher.ivLen)
  if sealed.length ≠ s.skBodyLen chunk.length then none else some (aad ++ sealed)

/-- `buildFragmentedMessage`; fragment `i` has an IV stream of its own. -/
def buildFragmentedMessage (hdr : Header) (s : Suite) (keys : SAKeys) (dir : KeyDir)
    (firstInner : UInt8) (inner : Bytes) (iv : ℕ → ℕ → UInt8) : Option (List Bytes) :=
  let overhead := headerLen + 4 + skfPrefixLen + s.cipher.ivLen + s.icvLen + 1 +
    (if 1 < s.cipher.blockLen then s.cipher.blockLen else 0)
  let room := fragmentThreshold - overhead
  if room = 0 then none
  else
    let total := max 1 ((inner.length + room - 1) / room)
    if maxFragments < total then none
    else (List.range total).mapM fun i =>
      sealSKF c hdr s keys dir (i + 1) total (if i = 0 then firstInner else 0)
        ((inner.drop (i * room)).take room) (iv i)

def wouldExceedThreshold (s : Suite) (innerLen : ℕ) : Bool :=
  let overhead := headerLen + 4 + s.cipher.ivLen + s.icvLen + 1 +
    (if 1 < s.cipher.blockLen then s.cipher.blockLen else 0)
  fragmentThreshold < innerLen + overhead

def sealMaybeFragment (hdr : Header) (s : Suite) (keys : SAKeys) (dir : KeyDir)
    (firstInner : UInt8) (inner : Bytes) (peerSupportsFrag : Bool) (iv : ℕ → ℕ → UInt8) :
    Option (List Bytes) :=
  if peerSupportsFrag && wouldExceedThreshold s inner.length then
    buildFragmentedMessage c hdr s keys dir firstInner inner iv
  else (buildEncryptedMessage c hdr s keys dir firstInner inner (iv 0)).map ([·])

/-! ## What was sealed opens -/

lemma Suite.aead_lengths (s : Suite) (h : s.integ = none) :
    s.cipher.ivLen = 8 ∧ s.cipher.icvLen = 16 ∧ s.cipher.blockLen = 1 := by
  have hi := s.integ_eq
  have hc := s.cipher_eq
  split_ifs at hi with ha
  · unfold transformCipher at hc
    simp only [isAEAD, Bool.or_eq_true, beq_iff_eq] at ha
    split_ifs at hc with hg hch hcbc
    · obtain ⟨kl, -, he⟩ := map_eq_some_iff.mp hc
      rw [← he]
      exact ⟨rfl, rfl, rfl⟩
    · rw [← some.inj hc]
      exact ⟨rfl, rfl, rfl⟩
    · rcases ha with ha | ha
      · exact absurd ha hg
      · exact absurd ha hch
  · obtain ⟨ig, hig, -⟩ := hi
    rw [h] at hig
    exact absurd hig (by simp)

lemma Suite.cbc_lengths (s : Suite) {ig : Integrity} (h : s.integ = some ig) :
    s.cipher.ivLen = 16 ∧ s.cipher.blockLen = 16 ∧ transformIntegrity s.integID = some ig := by
  have hi := s.integ_eq
  have hc := s.cipher_eq
  split_ifs at hi with ha
  · rw [h] at hi
    exact absurd hi (by simp)
  obtain ⟨ig', hig, ht⟩ := hi
  rw [h] at hig
  obtain rfl := some.inj hig
  simp only [isAEAD, Bool.or_eq_true, beq_iff_eq, not_or] at ha
  unfold transformCipher at hc
  rw [if_neg ha.1, if_neg ha.2] at hc
  split_ifs at hc with hcbc
  obtain ⟨kl, -, he⟩ := map_eq_some_iff.mp hc
  rw [← he]
  exact ⟨rfl, rfl, ht⟩

lemma length_padRFC7296 (pt : Bytes) (block : ℕ) :
    (padRFC7296 pt block).length = pt.length + padLen pt.length block + 1 := by
  simp only [padRFC7296, length_append, length_map, length_range, length_cons, length_nil]
  omega

/-- A padded text for AES-CBC is a whole number of blocks. -/
lemma length_padRFC7296_mod (pt : Bytes) : (padRFC7296 pt 16).length % 16 = 0 := by
  rw [length_padRFC7296, padLen, if_neg (by norm_num)]
  split_ifs <;> omega

lemma padLen_lt (n block : ℕ) (hb : block ≤ 16) : padLen n block < 2 ^ 8 := by
  unfold padLen
  split_ifs <;> omega

lemma strip_pad (pt : Bytes) {block : ℕ} (hb : block ≤ 16) :
    stripRFC7296Pad (padRFC7296 pt block) = some pt := by
  have hlast : (padRFC7296 pt block).getLast? = some (UInt8.ofNat (padLen pt.length block)) := by
    simp [padRFC7296]
  have hval : (UInt8.ofNat (padLen pt.length block)).toNat = padLen pt.length block := by
    rw [UInt8.toNat_ofNat']
    exact Nat.mod_eq_of_lt (padLen_lt _ _ hb)
  have hlen := length_padRFC7296 pt block
  simp only [stripRFC7296Pad, hlast, hval]
  rw [if_neg (by omega), show (padRFC7296 pt block).length - padLen pt.length block - 1 = pt.length
    by omega, padRFC7296, take_left]

section

variable (s : Suite) (encKey integKey aad inner iv : Bytes) (hiv : iv.length = s.cipher.ivLen)

include hiv

lemma openSK_sealSK : openSK c s encKey integKey aad (sealSK c s encKey integKey aad inner iv) =
      some (padRFC7296 inner s.cipher.blockLen) := by
  cases hi : s.integ with
  | none =>
    obtain ⟨h8, h16, -⟩ := s.aead_lengths hi
    have htake : ∀ x : Bytes, (iv ++ x).take s.cipher.ivLen = iv := fun x => by
      rw [← hiv, take_left]
    have hdrop : ∀ x : Bytes, (iv ++ x).drop s.cipher.ivLen = x := fun x => by
      rw [← hiv, drop_left]
    simp only [openSK, sealSK, hi, htake, hdrop, length_append, c.aead_length, c.aead_open]
    rw [if_neg (by omega)]
  | some ig =>
    obtain ⟨h16, hblock, hig⟩ := s.cbc_lengths hi
    have hmac := c.mac_length s.integID ig integKey
    have hmod := length_padRFC7296_mod inner
    simp only [openSK, sealSK, hi, hblock]
    generalize hct : c.cbcEncrypt encKey iv (padRFC7296 inner 16) = ct
    have hctl : ct.length = (padRFC7296 inner 16).length := by rw [← hct, c.cbc_length]
    generalize ht : (c.mac s.integID integKey (aad ++ (iv ++ ct))).take ig.icvLen = tag
    have htag : tag.length = ig.icvLen := by
      rw [← ht, length_take]
      exact Nat.min_eq_left (hmac _ hig)
    have hl : (iv ++ ct ++ tag).length - ig.icvLen = (iv ++ ct).length := by
      rw [length_append, htag]
      omega
    have hrest : (iv ++ ct ++ tag).take ((iv ++ ct ++ tag).length - ig.icvLen) = iv ++ ct := by
      rw [hl, take_left]
    have hicv : (iv ++ ct ++ tag).drop ((iv ++ ct ++ tag).length - ig.icvLen) = tag := by
      rw [hl, drop_left]
    have hiv16 : iv.length = 16 := hiv.trans h16
    have htake : (iv ++ ct).take 16 = iv := by rw [← hiv16, take_left]
    have hdrop : (iv ++ ct).drop 16 = ct := by rw [← hiv16, drop_left]
    rw [hrest, hicv, htake, hdrop, ht, if_neg (by simp only [length_append]; omega),
      if_neg (by simp), if_neg (by rw [hctl, hmod]; simp), ← hct, c.cbc_open _ _ _ hmod]

lemma length_sealSK :
    (sealSK c s encKey integKey aad inner iv).length = s.skBodyLen inner.length := by
  cases hi : s.integ with
  | none =>
    obtain ⟨h8, h16, hb⟩ := s.aead_lengths hi
    simp only [sealSK, Suite.skBodyLen, Suite.icvLen, hi, length_append, c.aead_length,
      length_padRFC7296, hiv, map_none, getD_none]
    omega
  | some ig =>
    obtain ⟨-, hblock, hig⟩ := s.cbc_lengths hi
    have hmac := c.mac_length s.integID ig integKey
    simp only [sealSK, Suite.skBodyLen, Suite.icvLen, hi, length_append, c.cbc_length,
      length_padRFC7296, hiv, length_take, map_some, getD_some]
    rw [Nat.min_eq_left (hmac _ hig)]

end

lemma Suite.blockLen_le (s : Suite) : s.cipher.blockLen ≤ 16 := by
  cases hi : s.integ with
  | none => rw [(s.aead_lengths hi).2.2]; norm_num
  | some ig => rw [(s.cbc_lengths hi).2.1]

/-- The header of a protected message, as it goes out. -/
def sealedHeader (hdr : Header) (s : Suite) (innerLen : ℕ) : Header :=
  { hdr with
    nextPayload := typeSK, version := 0x20, length := headerLen + (4 + s.skBodyLen innerLen) }

/-- **A sealed payload is read back**, with octets `pre` in front of what is sealed.  They, the
header and the payload's header are authenticated with it. -/
lemma parseMessage_sealed {hdr : Header} (hf : hdr.Fits) (s : Suite) (keys : SAKeys) (dir : KeyDir)
    (first : UInt8) (pre inner : Bytes) (iv : ℕ → UInt8) {n : ℕ} (hn : n < 2 ^ 16)
    (hlen : n = 4 + (pre.length + s.skBodyLen inner.length)) (hhdr : hdr.length = headerLen + n)
    {t : UInt8} (hnext : hdr.nextPayload = t) (ht : isEncrypted t = true ∧ t ≠ noNextPayload) :
    ∃ aad body, hdr.marshal ++ ([first, 0] ++ (putBE16 n ++ pre)) = aad ∧
      sealSK c s (encryptKeys keys dir).1 (encryptKeys keys dir).2 aad inner
        (octets iv s.cipher.ivLen) = body ∧ body.length = s.skBodyLen inner.length ∧
      parseMessage (aad ++ body) = some ⟨hdr, [⟨t, false, pre ++ body⟩]⟩ ∧
      (aad ++ body).length - body.length = headerLen + 4 + pre.length ∧
      (aad ++ body).take (headerLen + 4 + pre.length) = aad ∧
      (aad ++ body).getD headerLen 0 = first ∧
      openSK c s (encryptKeys keys dir).1 (encryptKeys keys dir).2 aad body =
        some (padRFC7296 inner s.cipher.blockLen) := by
  have hiv := length_octets iv s.cipher.ivLen
  refine ⟨_, _, rfl, rfl, ?_⟩
  generalize haad : hdr.marshal ++ _ = aad
  have hopen := openSK_sealSK c s (encryptKeys keys dir).1 (encryptKeys keys dir).2 aad inner _ hiv
  have hbl := length_sealSK c s (encryptKeys keys dir).1 (encryptKeys keys dir).2 aad inner _ hiv
  generalize sealSK c s _ _ aad inner _ = body at *
  have haadl : aad.length = headerLen + 4 + pre.length := by
    rw [← haad]
    simp only [length_append, length_marshal, length_putBE16, length_cons, length_nil]
    omega
  have hpl : 4 + (pre ++ body).length = n := by rw [length_append, hbl, hlen]
  have hpkt : aad ++ body = hdr.marshal ++ encodePayload first ⟨t, false, pre ++ body⟩ := by
    rw [← haad, encodePayload, hpl]
    simp only [append_assoc]
    rfl
  refine ⟨hbl, ?_, ?_, ?_, ?_, hopen⟩
  · rw [hpkt]
    exact parseMessage_protected hf ⟨ht.2, hpl ▸ hn⟩ _ ht.1 hnext (by rw [hhdr, hpl])
  · rw [length_append, Nat.add_sub_cancel, haadl]
  · rw [← haadl, take_left]
  · rw [← haad]
    rfl

/-- **A protected message opens.**  It is built, parses to its header and one SK payload, and
decrypts to what was sealed. -/
lemma decryptSK_build {hdr : Header} (hf : hdr.Fits) (s : Suite) (keys : SAKeys) (dir : KeyDir)
    (firstInner : UInt8) (inner : Bytes) (iv : ℕ → UInt8)
    (hlen : 4 + s.skBodyLen inner.length < 2 ^ 16) :
    ∃ pkt body, buildEncryptedMessage c hdr s keys dir firstInner inner iv = some pkt ∧
      parseMessage pkt = some ⟨sealedHeader hdr s inner.length, [⟨typeSK, false, body⟩]⟩ ∧
      decryptSK c pkt ⟨typeSK, false, body⟩ s keys dir = some (firstInner, inner) := by
  have hhdr : (sealedHeader hdr s inner.length).Fits :=
    ⟨hf.spiI, hf.spiR, hf.msgID, by simp only [sealedHeader, headerLen]; omega⟩
  obtain ⟨aad, body, haad, hbody, hbl, hparse, hstart, htake, hfirst, hopen⟩ :=
    parseMessage_sealed c hhdr s keys dir firstInner [] inner iv hlen (by simp) rfl (t := typeSK)
      rfl (by decide)
  refine ⟨aad ++ body, body, ?_, hparse, ?_⟩
  · subst hbody haad
    exact if_neg fun hne => hne hbl
  · simp only [decryptSK, hstart, htake, hopen]
    simpa [strip_pad inner s.blockLen_le] using hfirst

end Veepin.IKE
