import Veepin.IKEv2.Payload.Bodies

/-!
# Cipher suites

The model of `internal/ikev2/ike/suite.go` and of the parts of `internal/ikev2/transform` and
`internal/cryptoutil` it rests on: which transforms are supported, with which key, IV and block
lengths, what an endpoint proposes and what a responder picks.

A `Suite` carries the facts that `buildSuite` establishes: its cipher and integrity transform are
those that its transform numbers name, and an integrity transform is there exactly if the cipher is
no AEAD.  A responder echoes the transforms it picked, and the initiator that selects again from the
echo gets the same suite (`suites_agree`).
-/

namespace Veepin.IKE

open List Option

/-! ## Transforms -/

def encrAESCBC : ℕ := 12
def encrAESGCM16 : ℕ := 20
def encrChaCha20P : ℕ := 28

def prfHMACSHA1 : ℕ := 2
def prfHMACSHA2256 : ℕ := 5
def prfHMACSHA2384 : ℕ := 6
def prfHMACSHA2512 : ℕ := 7

def authHMACSHA196 : ℕ := 2
def authHMACSHA2256128 : ℕ := 12
def authHMACSHA2384192 : ℕ := 13
def authHMACSHA2512256 : ℕ := 14

def dhMODP2048 : ℕ := 14
def dhECP256 : ℕ := 19
def dhECP384 : ℕ := 20
def dhECP521 : ℕ := 21
def dhCurve25519 : ℕ := 31
def mlkem768 : ℕ := 36

def esnNone : ℕ := 0

/-- The lengths of an SK cipher. -/
structure SKCipher where
  keyLen : ℕ
  ivLen : ℕ
  icvLen : ℕ
  blockLen : ℕ
  deriving DecidableEq, Repr

/-- The lengths of an integrity transform. -/
structure Integrity where
  keyLen : ℕ
  icvLen : ℕ
  deriving DecidableEq, Repr

/-- `aesKeyLen`: the key length in octets, 256 bits if none is given. -/
def aesKeyLen (keyBits : ℕ) : Option ℕ :=
  let kl := if keyBits / 8 = 0 then 32 else keyBits / 8
  if kl = 16 ∨ kl = 24 ∨ kl = 32 then some kl else none

/-- `transform.Cipher`.  The key of an AEAD has four octets of salt at its end. -/
def transformCipher (encrID keyBits : ℕ) : Option SKCipher :=
  if encrID = encrAESGCM16 then (aesKeyLen keyBits).map (⟨· + 4, 8, 16, 1⟩)
  else if encrID = encrChaCha20P then some ⟨32 + 4, 8, 16, 1⟩
  else if encrID = encrAESCBC then (aesKeyLen keyBits).map (⟨·, 16, 0, 16⟩)
  else none

/-- `transform.Integrity`. -/
def transformIntegrity (id : ℕ) : Option Integrity :=
  if id = authHMACSHA196 then some ⟨20, 12⟩
  else if id = authHMACSHA2256128 then some ⟨32, 16⟩
  else if id = authHMACSHA2384192 then some ⟨48, 24⟩
  else if id = authHMACSHA2512256 then some ⟨64, 32⟩
  else none

/-- `transform.PRF`: the output length, which is also the preferred key length. -/
def transformPRF? (id : ℕ) : Option ℕ :=
  if id = prfHMACSHA1 then some 20
  else if id = prfHMACSHA2256 then some 32
  else if id = prfHMACSHA2384 then some 48
  else if id = prfHMACSHA2512 then some 64
  else none

def isAEAD (encrID : ℕ) : Bool := encrID == encrAESGCM16 || encrID == encrChaCha20P

def supportedENCR (id : ℕ) : Bool :=
  id == encrAESGCM16 || id == encrChaCha20P || id == encrAESCBC

def supportedPRF (id : ℕ) : Bool := (transformPRF? id).isSome

def supportedInteg (id : ℕ) : Bool := (transformIntegrity id).isSome

def supportedDH (id : ℕ) : Bool :=
  id == dhCurve25519 || id == dhECP256 || id == dhECP384 || id == dhECP521 || id == dhMODP2048

def supportedADDKE (id : ℕ) : Bool := id == mlkem768

/-! ## Suites -/

structure Suite where
  encrID : ℕ
  encrKeyLn : ℕ
  prfID : ℕ
  integID : ℕ
  dhID : ℕ
  cipher : SKCipher
  integ : Option Integrity
  prfSize : ℕ
  cipher_eq : transformCipher encrID encrKeyLn = some cipher
  prfSize_eq : transformPRF? prfID = some prfSize
  integ_eq : if isAEAD encrID then integ = none
    else ∃ ig, integ = some ig ∧ transformIntegrity integID = some ig
  deriving DecidableEq

def Suite.integKeyLen (s : Suite) : ℕ := (s.integ.map Integrity.keyLen).getD 0

/-- The integrity transform that goes with a cipher: none with an AEAD. -/
def integFor (encrID integID : ℕ) : Option (Option Integrity) :=
  if isAEAD encrID then some none else (transformIntegrity integID).map some

lemma integFor_spec {encrID integID : ℕ} {integ : Option Integrity}
    (h : integFor encrID integID = some integ) :
    if isAEAD encrID then integ = none
    else ∃ ig, integ = some ig ∧ transformIntegrity integID = some ig := by
  unfold integFor at h
  split_ifs at h ⊢ with ha
  · exact (some.inj h).symm
  · obtain ⟨ig, hig, he⟩ := map_eq_some_iff.mp h
    exact ⟨ig, he.symm, hig⟩

def buildSuite (encr prf integ dh : Transform) : Option Suite :=
  match hc : transformCipher encr.id encr.keyLen, hp : transformPRF? prf.id,
      hi : integFor encr.id integ.id with
  | some cipher, some prfSize, some ig =>
    some
      { encrID := encr.id
        encrKeyLn := encr.keyLen
        prfID := prf.id
        integID := if isAEAD encr.id then 0 else integ.id
        dhID := dh.id
        cipher
        integ := ig
        prfSize
        cipher_eq := hc
        prfSize_eq := hp
        integ_eq := by
          have h := integFor_spec hi
          split_ifs at h ⊢ <;> exact h }
  | _, _, _ => none

/-- `chosenTransform`: the first transform of a type that we support. -/
def chosenTransform (p : Proposal) (tt : UInt8) (ok : ℕ → Bool) : Option Transform :=
  p.transforms.find? fun tr => tr.type == tt && ok tr.id

def selectADDKE (p : Proposal) : Option ℕ :=
  (chosenTransform p transformADDKE1 supportedADDKE).map Transform.id

/-- The integrity transform of a proposal, where the cipher needs one. -/
def chosenInteg (p : Proposal) (encr : Transform) : Option Transform :=
  if isAEAD encr.id then some ⟨0, 0, 0⟩ else chosenTransform p transformINTEG supportedInteg

/-- The echo of an integrity transform, where the cipher needs one. -/
def echoInteg (encr integ : Transform) : List Transform :=
  if isAEAD encr.id then [] else [⟨transformINTEG, integ.id, 0⟩]

/-- One round of `SelectIKESuite`. -/
def selectIKEProposal (p : Proposal) : Option (Suite × Proposal) := do
  if p.protocol ≠ protoIKE then none
  let encr ← chosenTransform p transformENCR supportedENCR
  let prf ← chosenTransform p transformPRF supportedPRF
  let dh ← chosenTransform p transformDH supportedDH
  let integ ← chosenInteg p encr
  let suite ← buildSuite encr prf integ dh
  return (suite,
    { num := p.num
      protocol := protoIKE
      transforms := [⟨transformENCR, encr.id, encr.keyLen⟩, ⟨transformPRF, prf.id, 0⟩] ++
        echoInteg encr integ ++ [⟨transformDH, dh.id, 0⟩] })

/-- `SelectIKESuite`: the first proposal we can satisfy, and the proposal to echo. -/
def selectIKESuite (sa : List Proposal) : Option (Suite × Proposal) :=
  sa.findSome? selectIKEProposal

structure ESPSuite where
  encrID : ℕ
  encrKeyLn : ℕ
  integID : ℕ
  cipher : SKCipher
  integ : Option Integrity
  deriving DecidableEq, Repr

/-- One round of `SelectESPSuite`. -/
def selectESPProposal (p : Proposal) : Option (ESPSuite × Proposal) := do
  if p.protocol ≠ protoESP then none
  let encr ← chosenTransform p transformENCR supportedENCR
  let integ ← chosenInteg p encr
  let cipher ← transformCipher encr.id encr.keyLen
  let ig ← integFor encr.id integ.id
  return (⟨encr.id, encr.keyLen, if isAEAD encr.id then 0 else integ.id, cipher, ig⟩,
    { num := p.num
      protocol := protoESP
      spi := p.spi
      transforms := [⟨transformENCR, encr.id, encr.keyLen⟩] ++ echoInteg encr integ ++
        [⟨transformESN, esnNone, 0⟩] })

def selectESPSuite (sa : List Proposal) : Option (ESPSuite × Proposal) :=
  sa.findSome? selectESPProposal

/-! ## Proposals -/

/-- The Diffie-Hellman groups offered, in order of preference. -/
def defaultDHTransforms : List Transform :=
  [⟨transformDH, dhCurve25519, 0⟩, ⟨transformDH, dhECP256, 0⟩, ⟨transformDH, dhECP384, 0⟩,
    ⟨transformDH, dhMODP2048, 0⟩]

/-- The PRFs offered. -/
def defaultPRFTransforms : List Transform :=
  [⟨transformPRF, prfHMACSHA2256, 0⟩, ⟨transformPRF, prfHMACSHA2384, 0⟩,
    ⟨transformPRF, prfHMACSHA2512, 0⟩]

/-- The AEAD ciphers offered. -/
def defaultAEADTransforms : List Transform :=
  [⟨transformENCR, encrAESGCM16, 256⟩, ⟨transformENCR, encrAESGCM16, 128⟩,
    ⟨transformENCR, encrChaCha20P, 0⟩]

/-- `DefaultIKEProposals`, with the SPI that a rekey puts into each. -/
def defaultIKEProposals (spi : Bytes) : List Proposal :=
  [{ num := 1, protocol := protoIKE, spi
     transforms := defaultAEADTransforms ++ defaultPRFTransforms ++ defaultDHTransforms },
   { num := 2, protocol := protoIKE, spi
     transforms := [⟨transformENCR, encrAESCBC, 256⟩] ++ defaultPRFTransforms ++
       [⟨transformINTEG, authHMACSHA2256128, 0⟩] ++ defaultDHTransforms }]

def defaultESPProposals (spi : Bytes) : List Proposal :=
  [{ num := 1, protocol := protoESP, spi
     transforms := defaultAEADTransforms ++ [⟨transformESN, esnNone, 0⟩] },
   { num := 2, protocol := protoESP, spi
     transforms := [⟨transformENCR, encrAESCBC, 256⟩, ⟨transformINTEG, authHMACSHA2256128, 0⟩,
       ⟨transformESN, esnNone, 0⟩] }]

/-! ## The echo -/

variable {p : Proposal} {integ encr tr : Transform} {after : List Transform} {ok : ℕ → Bool}

lemma chosenTransform_spec {tt : UInt8}
    (h : chosenTransform p tt ok = some tr) :
    tr ∈ p.transforms ∧ tr.type = tt ∧ ok tr.id = true := by
  have hp := find?_some h
  rw [Bool.and_eq_true, beq_iff_eq] at hp
  exact ⟨mem_of_find?_eq_some h, hp⟩

/-- A transform is chosen if no other of its type stands before it. -/
lemma chosenTransform_of_split {tt : UInt8}
    (before : List Transform) (hp : p.transforms = before ++ tr :: after)
    (hb : ∀ t ∈ before, t.type ≠ tt) (ht : tr.type = tt) (hok : ok tr.id = true) :
    chosenTransform p tt ok = some tr := by
  have hnone : before.find? (fun t => t.type == tt && ok t.id) = none := by
    rw [find?_eq_none]
    intro t hmem
    simp [hb t hmem]
  rw [chosenTransform, hp, find?_append, hnone]
  simp [ht, hok]

/-- The integrity transform is found again, where the cipher needs one. -/
lemma chosenInteg_echo {q : Proposal} {encr' : Transform} {before : List Transform}
    (h : chosenInteg p encr = some integ) (hid : encr'.id = encr.id)
    (hq : q.transforms = before ++ echoInteg encr integ ++ after)
    (hb : ∀ t ∈ before, t.type ≠ transformINTEG) :
    ∃ integ', chosenInteg q encr' = some integ' ∧ integ'.id = integ.id := by
  unfold chosenInteg echoInteg at *
  rw [hid]
  split_ifs at h hq ⊢ with ha
  · exact ⟨_, h, rfl⟩
  · have hsplit : q.transforms = before ++ ⟨transformINTEG, integ.id, 0⟩ :: after := by
      simpa using hq
    exact ⟨_, chosenTransform_of_split _ hsplit hb rfl (chosenTransform_spec h).2.2, rfl⟩

/-- The echo of an integrity transform fits if the proposal does. -/
lemma echoInteg_fits (h : chosenInteg p encr = some integ)
    (hp : ∀ t ∈ p.transforms, t.Fits) : ∀ t ∈ echoInteg encr integ, t.Fits := by
  unfold chosenInteg echoInteg at *
  split_ifs at h ⊢ with ha
  · exact fun t ht => absurd ht not_mem_nil
  · intro t ht
    rw [mem_singleton.mp ht]
    exact ⟨(hp _ (chosenTransform_spec h).1).id, Nat.two_pow_pos 16⟩

lemma length_echoInteg_le (encr integ : Transform) : (echoInteg encr integ).length ≤ 1 := by
  unfold echoInteg
  split_ifs <;> simp

lemma echoInteg_type {t : Transform} (h : t ∈ echoInteg encr integ) :
    t.type = transformINTEG := by
  unfold echoInteg at h
  split_ifs at h with ha
  · exact absurd h not_mem_nil
  · rw [mem_singleton.mp h]

variable {spi : Bytes} {accepted : Proposal}

/-- **The ESP suite is read from the echo**, which fits its fields. -/
lemma selectESPProposal_echo {es : ESPSuite}
    (h : selectESPProposal p = some (es, accepted)) (hp : p.Fits) (hspi : spi.length < 2 ^ 8) :
    ({ accepted with spi } : Proposal).Fits ∧
      ∃ q, selectESPProposal { accepted with spi } = some (es, q) := by
  unfold selectESPProposal at h
  split_ifs at h with hproto
  · simp at h
  simp only [Option.pure_def, Option.bind_eq_bind, Option.bind_eq_some_iff, Option.some.injEq,
    Prod.mk.injEq] at h
  obtain ⟨encr, hencr, integ, hinteg, cipher, hcipher, ig, hig, rfl, rfl⟩ := h
  obtain ⟨hmem, -, hok⟩ := chosenTransform_spec hencr
  let encr' : Transform := ⟨transformENCR, encr.id, encr.keyLen⟩
  generalize hacc : ({ num := p.num, protocol := protoESP, spi
                       transforms := [encr'] ++ echoInteg encr integ ++
                         [⟨transformESN, esnNone, 0⟩] } : Proposal) = acc
  have htr : acc.transforms = [encr'] ++ echoInteg encr integ ++
    [⟨transformESN, esnNone, 0⟩] := by rw [← hacc]
  have hproto : acc.protocol = protoESP := by rw [← hacc]
  constructor
  · refine ⟨by rw [← hacc]; exact hspi, ?_, ?_⟩
    · have := length_echoInteg_le encr integ
      rw [htr]
      simp only [length_append, length_cons, length_nil]
      omega
    · rw [htr]
      simp only [mem_append, mem_singleton, or_imp, forall_and, forall_eq]
      exact ⟨⟨⟨(hp.transforms _ hmem).id, (hp.transforms _ hmem).keyLen⟩,
        echoInteg_fits hinteg hp.transforms⟩, by decide, by decide⟩
  · have hencr' : chosenTransform acc transformENCR supportedENCR = some encr' :=
      chosenTransform_of_split [] htr (by simp) rfl hok
    obtain ⟨integ', hinteg', hid⟩ : ∃ i, chosenInteg acc encr' = some i ∧ _ :=
      chosenInteg_echo hinteg rfl htr (by simp [encr', transformENCR, transformINTEG])
    simp [selectESPProposal, hproto, hencr', hinteg', encr', hcipher, hid, hig]

/-- **The IKE suite is read from the echo**, also if the method of an additional key exchange was
added to it. -/
lemma selectIKEProposal_echo {suite : Suite}
    (h : selectIKEProposal p = some (suite, accepted)) (hp : p.Fits) (hspi : spi.length < 2 ^ 8)
    {more : List Transform} (hone : more.length ≤ 1) (hmore : ∀ t ∈ more, t.Fits) :
    ({ accepted with spi, transforms := accepted.transforms ++ more } : Proposal).Fits ∧
      ∃ q, selectIKEProposal
        { accepted with spi, transforms := accepted.transforms ++ more } = some (suite, q) := by
  unfold selectIKEProposal at h
  split_ifs at h with hproto
  · simp at h
  simp only [Option.pure_def, Option.bind_eq_bind, Option.bind_eq_some_iff, Option.some.injEq,
    Prod.mk.injEq] at h
  obtain ⟨encr, hencr, prf, hprf, dh, hdh, integ, hinteg, suite', hsuite, rfl, rfl⟩ := h
  obtain ⟨hmemE, -, hokE⟩ := chosenTransform_spec hencr
  obtain ⟨hmemP, -, hokP⟩ := chosenTransform_spec hprf
  obtain ⟨hmemD, -, hokD⟩ := chosenTransform_spec hdh
  let encr' : Transform := ⟨transformENCR, encr.id, encr.keyLen⟩
  let prf' : Transform := ⟨transformPRF, prf.id, 0⟩
  let dh' : Transform := ⟨transformDH, dh.id, 0⟩
  generalize hacc : ({ num := p.num, protocol := protoIKE, spi
                       transforms := [encr', prf'] ++ echoInteg encr integ ++ [dh'] ++ more } :
    Proposal) = acc
  have htr : acc.transforms = [encr', prf'] ++ echoInteg encr integ ++ ([dh'] ++ more) := by
    rw [← hacc, append_assoc]
  have hproto : acc.protocol = protoIKE := by rw [← hacc]
  constructor
  · refine ⟨by rw [← hacc]; exact hspi, ?_, ?_⟩
    · have := length_echoInteg_le encr integ
      rw [htr]
      simp only [length_append, length_cons, length_nil]
      omega
    rw [htr]
    simp only [mem_append, mem_cons, not_mem_nil, or_false, or_imp, forall_and, forall_eq]
    exact ⟨⟨⟨⟨(hp.transforms _ hmemE).id, (hp.transforms _ hmemE).keyLen⟩,
      (hp.transforms _ hmemP).id, Nat.two_pow_pos 16⟩, echoInteg_fits hinteg hp.transforms⟩,
      ⟨(hp.transforms _ hmemD).id, Nat.two_pow_pos 16⟩, hmore⟩
  · have hencr' : chosenTransform acc transformENCR supportedENCR = some encr' :=
      chosenTransform_of_split [] htr (by simp) rfl hokE
    have hprf' : chosenTransform acc transformPRF supportedPRF = some prf' :=
      chosenTransform_of_split [encr'] htr (by simp [encr', transformENCR, transformPRF]) rfl hokP
    have hdh' : chosenTransform acc transformDH supportedDH = some dh' := by
      refine chosenTransform_of_split _ htr ?_ rfl hokD
      simp only [mem_append, mem_cons, not_mem_nil, or_false]
      rintro t ((rfl | rfl) | ht)
      · exact show transformENCR ≠ transformDH by decide
      · exact show transformPRF ≠ transformDH by decide
      · rw [echoInteg_type ht]
        decide
    obtain ⟨⟨t, id, k⟩, hinteg', hid⟩ : ∃ i, chosenInteg acc encr' = some i ∧ _ :=
      chosenInteg_echo hinteg rfl htr
        (by simp [encr', prf', transformENCR, transformPRF, transformINTEG])
    have hsuite' : buildSuite encr' prf' ⟨t, id, k⟩ dh' = some suite' := by
      rw [show id = integ.id from hid]
      exact hsuite
    simp [selectIKEProposal, hproto, hencr', hprf', hdh', hinteg', hsuite']

lemma fits_proposal (num protocol : UInt8) {ts : List Transform} (hspi : spi.length < 2 ^ 8)
    (h : ts.length < 2 ^ 8 ∧ ∀ t ∈ ts, t.id < 2 ^ 16 ∧ t.keyLen < 2 ^ 16) :
    (⟨num, protocol, spi, ts⟩ : Proposal).Fits :=
  ⟨hspi, h.1, fun t ht => ⟨(h.2 t ht).1, (h.2 t ht).2⟩⟩

lemma length_putBE32_lt (n : ℕ) : (putBE32 n).length < 2 ^ 8 := show 4 < 2 ^ 8 by decide

/-- What the client proposes for a Child SA fits its fields, and a responder can satisfy it. -/
lemma defaultESPProposals_spec (h : spi.length < 2 ^ 8) : (∀ p ∈ defaultESPProposals spi, p.Fits) ∧
      ∃ p ∈ defaultESPProposals spi, ∃ es accepted, selectESPProposal p = some (es, accepted) ∧
        selectESPSuite (defaultESPProposals spi) = some (es, accepted) ∧ accepted.spi = spi := by
  refine ⟨?_, _, mem_cons_self, _, _, rfl, rfl, rfl⟩
  simp only [defaultESPProposals, mem_cons, not_mem_nil, or_false, forall_eq_or_imp, forall_eq]
  exact ⟨fits_proposal _ _ h (by decide), fits_proposal _ _ h (by decide)⟩

/-- The same for an IKE SA; the responder picks Curve25519. -/
lemma defaultIKEProposals_spec (h : spi.length < 2 ^ 8) : (∀ p ∈ defaultIKEProposals spi, p.Fits) ∧
      ∃ p ∈ defaultIKEProposals spi, ∃ suite accepted,
        selectIKEProposal p = some (suite, accepted) ∧
        selectIKESuite (defaultIKEProposals spi) = some (suite, accepted) ∧
        suite.dhID = dhCurve25519 := by
  refine ⟨?_, _, mem_cons_self, _, _, rfl, rfl, rfl⟩
  simp only [defaultIKEProposals, mem_cons, not_mem_nil, or_false, forall_eq_or_imp, forall_eq]
  exact ⟨fits_proposal _ _ h (by decide), fits_proposal _ _ h (by decide)⟩

/-- **Both ends have one suite.**  What the initiator selects from the SA payload of the answer is
what the responder selected from the request, whatever SPI and additional method went into it. -/
theorem suites_agree (ps : List Proposal) (hps : ∀ p ∈ ps, p.Fits) (spi : Bytes)
    (hspi : spi.length < 2 ^ 8) :
    (∀ suite accepted more, selectIKESuite ps = some (suite, accepted) → more.length ≤ 1 →
      (∀ t ∈ more, t.Fits) → ∃ q, (parseSA (marshalSA
        [{ accepted with spi, transforms := accepted.transforms ++ more }])).bind selectIKESuite =
          some (suite, q)) ∧
    ∀ es accepted, selectESPSuite ps = some (es, accepted) →
      ∃ q, (parseSA (marshalSA [{ accepted with spi }])).bind selectESPSuite = some (es, q) := by
  constructor
  · intro suite accepted more h hone hmore
    obtain ⟨p, hp, h⟩ := exists_of_findSome?_eq_some h
    obtain ⟨hfits, q, hq⟩ := selectIKEProposal_echo h (hps p hp) hspi hone hmore
    refine ⟨q, ?_⟩
    rw [parseSA_marshalSA (by simpa using hfits), bind_some, selectIKESuite, findSome?_cons, hq]
  · intro es accepted h
    obtain ⟨p, hp, h⟩ := exists_of_findSome?_eq_some h
    obtain ⟨hfits, q, hq⟩ := selectESPProposal_echo h (hps p hp) hspi
    refine ⟨q, ?_⟩
    rw [parseSA_marshalSA (by simpa using hfits), bind_some, selectESPSuite, findSome?_cons, hq]

/-- The default proposals of an IKE SA, answered with ML-KEM in addition, and those of a Child
SA. -/
theorem suites_agree_default :
    (∃ suite accepted q, selectIKESuite (defaultIKEProposals []) = some (suite, accepted) ∧
      (parseSA (marshalSA [{ accepted with
        spi := [8, 7, 6, 5, 4, 3, 2, 1]
        transforms := accepted.transforms ++ [⟨transformADDKE1, mlkem768, 0⟩] }])).bind
          selectIKESuite = some (suite, q)) ∧
    ∃ es accepted q, selectESPSuite (defaultESPProposals [0, 0, 0, 1]) = some (es, accepted) ∧
      (parseSA (marshalSA [{ accepted with spi := [0, 0, 0, 2] }])).bind selectESPSuite =
        some (es, q) := by
  constructor
  · obtain ⟨hfits, -, -, suite, accepted, -, hsel, -⟩ :=
      @defaultIKEProposals_spec [] (by decide)
    obtain ⟨q, hq⟩ := (suites_agree _ hfits [8, 7, 6, 5, 4, 3, 2, 1] (by decide)).1 suite accepted
      [⟨transformADDKE1, mlkem768, 0⟩] hsel (by decide)
        (forall_mem_singleton.2 ⟨by decide, by decide⟩)
    exact ⟨suite, accepted, q, hsel, hq⟩
  · obtain ⟨hfits, -, -, es, accepted, -, hsel, -⟩ :=
      @defaultESPProposals_spec [0, 0, 0, 1] (by decide)
    obtain ⟨q, hq⟩ := (suites_agree _ hfits [0, 0, 0, 2] (by decide)).2 es accepted hsel
    exact ⟨es, accepted, q, hsel, hq⟩

end Veepin.IKE
