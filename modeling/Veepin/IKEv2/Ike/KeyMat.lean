import Veepin.IKEv2.Ike.Suite

/-!
# Key material

The model of `internal/ikev2/ike/keymat.go`, `auth.go` and the authentication chain of
`intermediate.go`.  The cryptographic primitives are a parameter, `Crypto`: functions about which
only their lengths and the laws of their correct use are known (what was sealed opens again, two
honest Diffie-Hellman shares agree).  Randomness is an argument: a key pair is a function of the
octets it was drawn from.
-/

namespace Veepin.IKE

/-! ## Primitives -/

/-- A certificate, as far as the identity check reads it. -/
structure Cert where
  publicKey : Bytes
  dnsNames : List Bytes := []
  emailAddresses : List Bytes := []
  ipAddresses : List Bytes := []
  rawSubject : Bytes := []
  deriving DecidableEq, Repr

/-- The primitives.  `prf` is HMAC under the hash of a PRF transform, `mac` HMAC under the hash of
an integrity transform. -/
structure Crypto where
  prf : ℕ → Bytes → Bytes → Bytes
  mac : ℕ → Bytes → Bytes → Bytes
  aeadSeal : ℕ → Bytes → Bytes → Bytes → Bytes → Bytes
  aeadOpen : ℕ → Bytes → Bytes → Bytes → Bytes → Option Bytes
  cbcEncrypt : Bytes → Bytes → Bytes → Bytes
  cbcDecrypt : Bytes → Bytes → Bytes → Bytes
  sha1 : Bytes → Bytes
  cookieMac : Bytes → Bytes → Bytes
  dhPublic : ℕ → Bytes → Option Bytes
  dhSecret : ℕ → Bytes → Bytes → Option Bytes
  kemEncapsulate : Bytes → Bytes → Option (Bytes × Bytes)
  verifyPeerCertChain : Bytes → List Bytes → List Bytes → Option Cert
  verifyAuth : Bytes → UInt8 → Bytes → Bytes → Bool
  isMLDSA : Bytes → Bool
  signAuth : Bytes → Bytes → List ℕ → Option (UInt8 × Bytes)
  ntPasswordHash : Bytes → Bytes
  generateNTResponse : Bytes → Bytes → Bytes → Bytes → Bytes
  generateAuthenticatorResponse : Bytes → Bytes → Bytes → Bytes → Bytes → Bytes
  deriveMSK : Bytes → Bytes → Bytes
  prf_length : ∀ id size k m, transformPRF? id = some size → (prf id k m).length = size
  mac_length : ∀ id ig k m, transformIntegrity id = some ig → ig.icvLen ≤ (mac id k m).length
  aead_length : ∀ id k n aad pt, (aeadSeal id k n aad pt).length = pt.length + 16
  aead_open : ∀ id k n aad pt, aeadOpen id k n aad (aeadSeal id k n aad pt) = some pt
  cbc_length : ∀ k iv pt, (cbcEncrypt k iv pt).length = pt.length
  cbc_open : ∀ k iv pt, pt.length % 16 = 0 → cbcDecrypt k iv (cbcEncrypt k iv pt) = pt
  dh_agree : ∀ id a b pubA pubB, dhPublic id a = some pubA → dhPublic id b = some pubB →
    ∃ k, dhSecret id a pubB = some k ∧ dhSecret id b pubA = some k

/-- Primitives without any strength, which satisfy the laws: texts are sealed as they are and every
hash and secret is the same.  With them a run can be evaluated. -/
def plainCrypto : Crypto where
  prf id _ _ := List.replicate ((transformPRF? id).getD 0) 0
  mac id _ _ := List.replicate (((transformIntegrity id).map Integrity.icvLen).getD 0) 0
  aeadSeal _ _ _ _ pt := pt ++ List.replicate 16 0
  aeadOpen _ _ _ _ ct := some (ct.take (ct.length - 16))
  cbcEncrypt _ _ pt := pt
  cbcDecrypt _ _ ct := ct
  sha1 _ := []
  cookieMac _ _ := List.replicate 32 0
  dhPublic _ _ := some []
  dhSecret _ _ _ := some []
  kemEncapsulate _ _ := some ([], [])
  verifyPeerCertChain _ _ _ := none
  verifyAuth _ _ _ _ := false
  isMLDSA _ := false
  signAuth _ _ _ := none
  ntPasswordHash _ := []
  generateNTResponse _ _ _ _ := []
  generateAuthenticatorResponse _ _ _ _ _ := []
  deriveMSK _ _ := []
  prf_length _ _ _ _ h := by simp [h]
  mac_length _ _ _ _ h := by simp [h]
  aead_length _ _ _ _ _ := by simp
  aead_open _ _ _ _ _ := by simp
  cbc_length _ _ _ := rfl
  cbc_open _ _ _ _ := rfl
  dh_agree _ _ _ _ _ _ _ := ⟨[], rfl, rfl⟩

variable (c : Crypto)

/-- `prf(key, data)` of a suite. -/
def Suite.prf (s : Suite) (key data : Bytes) : Bytes := c.prf s.prfID key data

lemma Suite.length_prf (s : Suite) (key data : Bytes) : (s.prf c key data).length = s.prfSize :=
  c.prf_length _ _ _ _ s.prfSize_eq

/-- A PRF has some output. -/
lemma Suite.prfSize_pos (s : Suite) : 0 < s.prfSize := by
  have h := s.prfSize_eq
  unfold transformPRF? at h
  split_ifs at h
  all_goals
    rw [← Option.some.inj h]
    norm_num

lemma Suite.prf_ne_nil (s : Suite) (key data : Bytes) : s.prf c key data ≠ [] := by
  intro h
  have hlen := s.length_prf c key data
  rw [h] at hlen
  exact absurd hlen (Nat.ne_of_lt s.prfSize_pos)

/-- The rounds of `Plus` until `n` octets are out.  Each round adds an octet at least. -/
def plusLoop (prf : Bytes → Bytes) (seed : Bytes) (n : ℕ) : ℕ → UInt8 → Bytes → Bytes → Bytes
  | 0, _, _, out => out
  | fuel + 1, counter, prev, out =>
    if n ≤ out.length then out
    else
      let t := prf (prev ++ (seed ++ [counter]))
      plusLoop prf seed n fuel (counter + 1) t (out ++ t)

/-- `Plus`: prf+. -/
def Suite.prfPlus (s : Suite) (key seed : Bytes) (n : ℕ) : Bytes :=
  (plusLoop (s.prf c key) seed n n 1 [] []).take n

/-! ## Derivations -/

structure SAKeys where
  skd : Bytes
  skai : Bytes
  skar : Bytes
  skei : Bytes
  sker : Bytes
  skpi : Bytes
  skpr : Bytes
  deriving DecidableEq, Repr

def expandIKEKeys (s : Suite) (skeyseed ni nr : Bytes) (spiI spiR : ℕ) : SAKeys :=
  let enc := s.cipher.keyLen
  let integ := s.integKeyLen
  let km := s.prfPlus c skeyseed (ni ++ nr ++ putBE64 spiI ++ putBE64 spiR)
    (s.prfSize + 2 * integ + 2 * enc + 2 * s.prfSize)
  let slice := fun off n => (km.drop off).take n
  let p := s.prfSize
  { skd := slice 0 p
    skai := slice p integ
    skar := slice (p + integ) integ
    skei := slice (p + 2 * integ) enc
    sker := slice (p + 2 * integ + enc) enc
    skpi := slice (p + 2 * integ + 2 * enc) p
    skpr := slice (p + 2 * integ + 2 * enc + p) p }

def deriveIKEKeys (s : Suite) (shared ni nr : Bytes) (spiI spiR : ℕ) : SAKeys :=
  expandIKEKeys c s (s.prf c (ni ++ nr) shared) ni nr spiI spiR

/-- The seed of `DeriveRekeyedIKEKeys` and of `DeriveIntermediateSKEYSEED`: both hash the new secret
and the nonces under the old SK_d. -/
def chainedSeed (s : Suite) (skd secret ni nr : Bytes) : Bytes := s.prf c skd (secret ++ ni ++ nr)

def deriveRekeyedIKEKeys (s : Suite) (oldSKd dhSecret ni nr : Bytes) (spiI spiR : ℕ) : SAKeys :=
  expandIKEKeys c s (chainedSeed c s oldSKd dhSecret ni nr) ni nr spiI spiR

def rekeyFromAdditionalExchange (s : Suite) (keys : SAKeys) (shared ni nr : Bytes)
    (spiI spiR : ℕ) : SAKeys :=
  expandIKEKeys c s (chainedSeed c s keys.skd shared ni nr) ni nr spiI spiR

/-- `DeriveChildKeys`; there is no Diffie-Hellman secret of the child's own. -/
def deriveChildKeys (s : Suite) (skd ni nr : Bytes) (total : ℕ) : Bytes :=
  s.prfPlus c skd (ni ++ nr) total

/-! ## Authentication -/

def authOctets (s : Suite) (realMessage peerNonce skp idPayload intAuth : Bytes) : Bytes :=
  realMessage ++ peerNonce ++ s.prf c skp idPayload ++ intAuth

/-- The octets of "Key Pad for IKEv2". -/
def keyPad : Bytes :=
  [75, 101, 121, 32, 80, 97, 100, 32, 102, 111, 114, 32, 73, 75, 69, 118, 50]

def pskAuth (s : Suite) (psk signedOctets : Bytes) : Bytes :=
  s.prf c (s.prf c psk keyPad) signedOctets

def computePSKAuth (s : Suite) (psk realMessage peerNonce skp idBody intAuth : Bytes) : Bytes :=
  pskAuth c s psk (authOctets c s realMessage peerNonce skp idBody intAuth)

/-- `verifyPeerPSKAuth`: an empty PSK is refused. -/
def verifyPeerPSKAuth (s : Suite) (psk realMessage ourNonce skp idBody intAuth gotAuth : Bytes) :
    Bool :=
  !psk.isEmpty && computePSKAuth c s psk realMessage ourNonce skp idBody intAuth == gotAuth

/-! ## The chain over IKE_INTERMEDIATE -/

def intAuthBlob (hdr : Header) (firstInner : UInt8) (inner : Bytes) : Bytes :=
  let skPayloadLen := 4 + inner.length
  { hdr with nextPayload := typeSK, version := 0x20, length := headerLen + skPayloadLen : Header
    }.marshal ++ [firstInner, 0] ++ putBE16 skPayloadLen ++ inner

def chainIntAuth (s : Suite) (skp prev blob : Bytes) : Bytes :=
  if prev = [] then s.prf c skp blob else s.prf c skp (prev ++ blob)

lemma chainIntAuth_ne_nil (s : Suite) (skp prev blob : Bytes) :
    chainIntAuth c s skp prev blob ≠ [] := by
  unfold chainIntAuth
  split_ifs <;> exact s.prf_ne_nil c _ _

def finalIntAuth (intAuthI intAuthR : Bytes) (ikeAuthMsgID : ℕ) : Bytes :=
  if intAuthI = [] ∧ intAuthR = [] then [] else intAuthI ++ intAuthR ++ putBE32 ikeAuthMsgID

end Veepin.IKE
