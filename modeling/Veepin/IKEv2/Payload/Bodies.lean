import Veepin.IKEv2.Payload.SA

/-!
# Payload bodies

The model of `internal/ikev2/payload/bodies.go`: the bodies of the payloads that the IKEv2 exchanges
carry.  A nonce body is the nonce itself.  `parseTS` is the one parser whose result is used in spite
of an error (by `setupChildSA`), so it returns the selectors it got to and whether it got through.

* `payload_round_trip` — every parser undoes its writer, on values that fit their length fields;
* `length_fields_wrap` — what happens to those that do not.
-/

namespace Veepin.IKE

open List Option

/-! ## Key Exchange -/

structure KEPayload where
  group : ℕ
  keyData : Bytes
  deriving DecidableEq, Repr

def marshalKE (ke : KEPayload) : Bytes := putBE16 ke.group ++ ([0, 0] ++ ke.keyData)

def parseKE (buf : Bytes) : Option KEPayload :=
  if buf.length < 4 then none else some ⟨be16 buf 0, buf.drop 4⟩

lemma parseKE_marshalKE {ke : KEPayload} (h : ke.group < 2 ^ 16) :
    parseKE (marshalKE ke) = some ke := by
  have hg : be16 (marshalKE ke) 0 = ke.group := be16_of_lt h
  have hl : ¬ (marshalKE ke).length < 4 := by simp [marshalKE]; omega
  rw [parseKE, if_neg hl, hg]
  rfl

/-! ## Notify -/

def invalidSyntax : ℕ := 7
def noProposalChosen : ℕ := 14
def invalidKEPayload : ℕ := 17
def authenticationFailed : ℕ := 24
def tsUnacceptable : ℕ := 38
def natDetectionSourceIP : ℕ := 16388
def natDetectionDestinationIP : ℕ := 16389
def cookieNotify : ℕ := 16390
def rekeySA : ℕ := 16393
def mobikeSupported : ℕ := 16396
def updateSAAddresses : ℕ := 16400
def cookie2 : ℕ := 16401
def ikeFragmentationSupported : ℕ := 16430
def signatureHashAlgorithms : ℕ := 16431
def intermediateExchangeSupported : ℕ := 16438
def useAggFrag : ℕ := 16442

structure NotifyPayload where
  protocol : UInt8 := protoNone
  type : ℕ
  spi : Bytes := []
  data : Bytes := []
  deriving DecidableEq, Repr

def marshalNotify (n : NotifyPayload) : Bytes :=
  [n.protocol, UInt8.ofNat n.spi.length] ++ (putBE16 n.type ++ (n.spi ++ n.data))

def parseNotify (buf : Bytes) : Option NotifyPayload :=
  if buf.length < 4 then none
  else
    let spiSize := (buf.getD 1 0).toNat
    if buf.length < 4 + spiSize then none
    else some ⟨buf.getD 0 0, be16 buf 2, (buf.drop 4).take spiSize, (buf.drop 4).drop spiSize⟩

/-- A Notify payload. -/
def notifyPayload (n : NotifyPayload) : RawPayload := ⟨typeNotify, false, marshalNotify n⟩

/-- The first Notify of a type among the payloads that parse: `findNotify`. -/
def findNotify (ps : List RawPayload) (t : ℕ) : Option NotifyPayload :=
  (ps.filterMap fun p => if p.type = typeNotify then parseNotify p.body else none).find?
    fun n => n.type == t

variable {n : NotifyPayload}

section

variable (ht : n.type < 2 ^ 16) (hs : n.spi.length < 2 ^ 8)

include ht hs

lemma parseNotify_marshalNotify : parseNotify (marshalNotify n) = some n := by
  have htype : be16 (marshalNotify n) 2 = n.type := be16_of_lt ht
  have hsize : ((marshalNotify n).getD 1 0).toNat = n.spi.length := UInt8.toNat_ofNat_of_lt hs
  have hl : (marshalNotify n).length = 4 + n.spi.length + n.data.length := by
    simp only [marshalNotify, length_append, length_cons, length_nil, length_putBE16]
    omega
  have hdrop : (marshalNotify n).drop 4 = n.spi ++ n.data := rfl
  rw [parseNotify, if_neg (by omega)]
  simp only [hsize, htype, hdrop, take_left, drop_left]
  rw [if_neg (by omega)]
  rfl

/-- The Notify payloads that parse. -/
lemma parse_notifyPayload :
    (if (notifyPayload n).type = typeNotify then parseNotify (notifyPayload n).body else none) =
      some n :=
  parseNotify_marshalNotify ht hs

/-- A Notify is found before those behind it. -/
lemma findNotify_cons (ps : List RawPayload) (t : ℕ) :
    findNotify (notifyPayload n :: ps) t = if n.type = t then some n else findNotify ps t := by
  rw [findNotify, filterMap_cons, parse_notifyPayload ht hs, find?_cons]
  by_cases h : n.type = t
  · rw [if_pos h, beq_iff_eq.mpr h]
  · rw [if_neg h, beq_eq_false_iff_ne.mpr h]
    rfl

end

/-- A payload of another type is passed over. -/
lemma findNotify_skip {p : RawPayload} (h : p.type ≠ typeNotify) (ps : List RawPayload) (t : ℕ) :
    findNotify (p :: ps) t = findNotify ps t := by
  rw [findNotify, filterMap_cons, if_neg h]
  rfl

/-! ## Identification, certificates, authentication -/

def idIPv4Addr : UInt8 := 1
def idFQDN : UInt8 := 2
def idRFC822 : UInt8 := 3
def idIPv6Addr : UInt8 := 5
def idDERASN1DN : UInt8 := 9
def idKeyID : UInt8 := 11

structure IDPayload where
  type : UInt8
  data : Bytes
  deriving DecidableEq, Repr

def marshalID (id : IDPayload) : Bytes := [id.type, 0, 0, 0] ++ id.data

def parseID (buf : Bytes) : Option IDPayload :=
  if buf.length < 4 then none else some ⟨buf.getD 0 0, buf.drop 4⟩

def certX509Signature : UInt8 := 4

structure CertPayload where
  encoding : UInt8
  data : Bytes
  deriving DecidableEq, Repr

/-- `MarshalCert`, and `MarshalCertReq`. -/
def marshalCert (c : CertPayload) : Bytes := c.encoding :: c.data

def parseCert : Bytes → Option CertPayload
  | [] => none
  | e :: data => some ⟨e, data⟩

def authRSASig : UInt8 := 1
def authSharedKeyMIC : UInt8 := 2
def authDigitalSig : UInt8 := 14

structure AuthPayload where
  method : UInt8
  data : Bytes
  deriving DecidableEq, Repr

def marshalAuth (a : AuthPayload) : Bytes := [a.method, 0, 0, 0] ++ a.data

def parseAuth (buf : Bytes) : Option AuthPayload :=
  if buf.length < 4 then none else some ⟨buf.getD 0 0, buf.drop 4⟩

/-! ## Traffic selectors -/

def tsIPv4AddrRange : UInt8 := 7
def tsIPv6AddrRange : UInt8 := 8

structure TrafficSelector where
  type : UInt8
  ipProtocol : UInt8 := 0
  startPort : ℕ := 0
  endPort : ℕ := 65535
  startAddr : Bytes
  endAddr : Bytes
  deriving DecidableEq, Repr

def marshalSelector (s : TrafficSelector) : Bytes :=
  let addrLen := if s.type = tsIPv4AddrRange then 4 else if s.type = tsIPv6AddrRange then 16 else 0
  let form := fun a => ((if addrLen = 4 then to4 a else to16 a).getD [])
  [s.type, s.ipProtocol] ++ putBE16 (8 + 2 * addrLen) ++ putBE16 s.startPort ++
    putBE16 s.endPort ++ form s.startAddr ++ form s.endAddr

def marshalTS (ts : List TrafficSelector) : Bytes :=
  [UInt8.ofNat ts.length, 0, 0, 0] ++ ts.flatMap marshalSelector

/-- The loop of `ParseTS`: the selectors read, and whether all were. -/
def parseSelectors : ℕ → Bytes → List TrafficSelector × Bool
  | 0, _ => ([], true)
  | count + 1, buf =>
    if buf.length < 8 then ([], false)
    else if be16 buf 2 < 8 ∨ buf.length < be16 buf 2 then ([], false)
    else
      let addrLen := (be16 buf 2 - 8) / 2
      let sel : TrafficSelector :=
        { type := buf.getD 0 0
          ipProtocol := buf.getD 1 0
          startPort := be16 buf 4
          endPort := be16 buf 6
          startAddr := (buf.drop 8).take addrLen
          endAddr := (buf.drop (8 + addrLen)).take addrLen }
      let (rest, ok) := parseSelectors count (buf.drop (be16 buf 2))
      (sel :: rest, ok)

def parseTS (buf : Bytes) : List TrafficSelector × Bool :=
  if buf.length < 4 then ([], false) else parseSelectors (buf.getD 0 0).toNat (buf.drop 4)

/-- The form in which an address of a selector is written. -/
def TrafficSelector.form (s : TrafficSelector) (a : Bytes) : Option Bytes :=
  if s.type = tsIPv4AddrRange then to4 a else to16 a

/-- The selector with its addresses in the form in which they are written. -/
def TrafficSelector.canonical (s : TrafficSelector) : TrafficSelector :=
  { s with startAddr := (s.form s.startAddr).getD [], endAddr := (s.form s.endAddr).getD [] }

/-- A selector for IPv4 or IPv6, with addresses of its family. -/
structure TrafficSelector.Valid (s : TrafficSelector) : Prop where
  type : s.type = tsIPv4AddrRange ∨ s.type = tsIPv6AddrRange
  startPort : s.startPort < 2 ^ 16
  endPort : s.endPort < 2 ^ 16
  startAddr : (s.form s.startAddr).isSome
  endAddr : (s.form s.endAddr).isSome

lemma length_of_to4 {a v : Bytes} (h : to4 a = some v) : v.length = 4 := by
  unfold to4 at h
  split_ifs at h with h4 h16
  · rw [← some.inj h, h4]
  · rw [← some.inj h, length_drop, h16.1]

lemma length_of_to16 {a v : Bytes} (h : to16 a = some v) : v.length = 16 := by
  unfold to16 at h
  split_ifs at h with h4 h16
  · rw [← some.inj h, length_append, h4]
    rfl
  · rw [← some.inj h, h16]

/-- **One selector is read back**, whatever its fields are. -/
lemma parseSelectors_encoded (type proto : UInt8) {startPort endPort n : ℕ} {a b : Bytes}
    (hs : startPort < 2 ^ 16) (he : endPort < 2 ^ 16) (hn : 8 + 2 * n < 2 ^ 16)
    (ha : a.length = n) (hb : b.length = n) (rest : Bytes) (count : ℕ) :
    parseSelectors (count + 1) (([type, proto] ++ putBE16 (8 + 2 * n) ++ putBE16 startPort ++
        putBE16 endPort ++ a ++ b) ++ rest) =
      (⟨type, proto, startPort, endPort, a, b⟩ :: (parseSelectors count rest).1,
        (parseSelectors count rest).2) := by
  generalize hbuf : ([type, proto] ++ putBE16 (8 + 2 * n) ++ putBE16 startPort ++
    putBE16 endPort ++ a ++ b) ++ rest = buf
  have hlen : buf.length = 8 + 2 * n + rest.length := by
    rw [← hbuf]
    simp only [length_append, length_cons, length_nil, length_putBE16, ha, hb]
    omega
  have h2 : be16 buf 2 = 8 + 2 * n := hbuf ▸ be16_of_lt hn
  have h4 : be16 buf 4 = startPort := hbuf ▸ be16_of_lt hs
  have h6 : be16 buf 6 = endPort := hbuf ▸ be16_of_lt he
  have h8 : buf.drop 8 = a ++ (b ++ rest) := by
    rw [← hbuf]
    simp [putBE16]
  have htype : buf.getD 0 0 = type := by rw [← hbuf]; rfl
  have hproto : buf.getD 1 0 = proto := by rw [← hbuf]; rfl
  have hstart : (buf.drop 8).take n = a := by rw [h8, ← ha, take_left]
  have hrest8 : buf.drop (8 + n) = b ++ rest := by
    rw [← drop_drop, h8, ← ha, drop_left]
  have hend : (buf.drop (8 + n)).take n = b := by rw [hrest8, ← hb, take_left]
  have hdrop : buf.drop (8 + 2 * n) = rest := by
    rw [show 8 + 2 * n = 8 + n + n by omega, ← drop_drop, hrest8, ← hb, drop_left]
  have haddr : (8 + 2 * n - 8) / 2 = n := by omega
  rw [parseSelectors, if_neg (by omega), h2, if_neg (by omega)]
  simp only [haddr, htype, hproto, h4, h6, hstart, hend, hdrop]

open TrafficSelector

/-- What is written for a selector. -/
lemma marshalSelector_eq {s : TrafficSelector} (hs : s.Valid) :
    ∃ n, 8 + 2 * n < 2 ^ 16 ∧ s.canonical.startAddr.length = n ∧ s.canonical.endAddr.length = n ∧
      marshalSelector s = [s.type, s.ipProtocol] ++ putBE16 (8 + 2 * n) ++ putBE16 s.startPort ++
        putBE16 s.endPort ++ s.canonical.startAddr ++ s.canonical.endAddr := by
  obtain ⟨a, ha⟩ := isSome_iff_exists.mp hs.startAddr
  obtain ⟨b, hb⟩ := isSome_iff_exists.mp hs.endAddr
  rcases hs.type with ht | ht
  · refine ⟨4, by decide, ?_, ?_, ?_⟩
    · simp only [canonical, ha, getD_some]
      exact length_of_to4 (by rw [← ha, form, if_pos ht])
    · simp only [canonical, hb, getD_some]
      exact length_of_to4 (by rw [← hb, form, if_pos ht])
    · simp [marshalSelector, canonical, form, ht]
  · have hne : s.type ≠ tsIPv4AddrRange := by rw [ht]; decide
    refine ⟨16, by decide, ?_, ?_, ?_⟩
    · simp only [canonical, ha, getD_some]
      exact length_of_to16 (by rw [← ha, form, if_neg hne])
    · simp only [canonical, hb, getD_some]
      exact length_of_to16 (by rw [← hb, form, if_neg hne])
    · simp [marshalSelector, canonical, form, ht,
        show ¬ tsIPv6AddrRange = tsIPv4AddrRange by decide]

lemma parseSelectors_marshal : ∀ {ts : List TrafficSelector}, (∀ s ∈ ts, s.Valid) →
      parseSelectors ts.length (ts.flatMap marshalSelector) =
        (ts.map TrafficSelector.canonical, true)
  | [], _ => rfl
  | s :: ts, h => by
    have hs := h s (by simp)
    have ih := parseSelectors_marshal fun x hx => h x (mem_cons_of_mem s hx)
    obtain ⟨n, hn, ha, hb, heq⟩ := marshalSelector_eq hs
    rw [length_cons, flatMap_cons, heq,
      parseSelectors_encoded _ _ hs.startPort hs.endPort hn ha hb, ih]
    rfl

lemma parseTS_marshalTS {ts : List TrafficSelector} (h : ∀ s ∈ ts, s.Valid) (hc : ts.length < 2 ^ 8)
    : parseTS (marshalTS ts) = (ts.map TrafficSelector.canonical, true) := by
  have hl : ¬ (marshalTS ts).length < 4 := by simp [marshalTS]
  have hcount : ((marshalTS ts).getD 0 0).toNat = ts.length := by
    have : (marshalTS ts).getD 0 0 = UInt8.ofNat ts.length := rfl
    rw [this, UInt8.toNat_ofNat']
    exact Nat.mod_eq_of_lt hc
  have hdrop : (marshalTS ts).drop 4 = ts.flatMap marshalSelector := rfl
  rw [parseTS, if_neg hl, hcount, hdrop, parseSelectors_marshal h]

/-! ## Delete -/

structure DeletePayload where
  protocol : UInt8
  spiSize : UInt8
  spis : List Bytes := []
  deriving DecidableEq, Repr

def marshalDelete (d : DeletePayload) : Bytes :=
  [d.protocol, d.spiSize] ++ (putBE16 d.spis.length ++ d.spis.flatten)

/-- The SPIs of a Delete payload. -/
def parseSPIs (size : ℕ) : ℕ → Bytes → Option (List Bytes)
  | 0, _ => some []
  | count + 1, buf =>
    if buf.length < size then none
    else (parseSPIs size count (buf.drop size)).map (buf.take size :: ·)

def parseDelete (buf : Bytes) : Option DeletePayload :=
  if buf.length < 4 then none
  else (parseSPIs (buf.getD 1 0).toNat (be16 buf 2) (buf.drop 4)).map
    (⟨buf.getD 0 0, buf.getD 1 0, ·⟩)

lemma parseSPIs_flatten {size : ℕ} : ∀ {spis : List Bytes}, (∀ s ∈ spis, s.length = size) →
      parseSPIs size spis.length spis.flatten = some spis
  | [], _ => rfl
  | s :: spis, h => by
    have hs := h s (by simp)
    have ih := parseSPIs_flatten fun x hx => h x (mem_cons_of_mem s hx)
    rw [length_cons, flatten_cons, parseSPIs,
      if_neg (by rw [length_append]; omega), ← hs, drop_left, take_left, hs, ih]
    rfl

lemma parseDelete_marshalDelete {d : DeletePayload} (hs : ∀ s ∈ d.spis, s.length = d.spiSize.toNat)
    (hc : d.spis.length < 2 ^ 16) : parseDelete (marshalDelete d) = some d := by
  have hcount : be16 (marshalDelete d) 2 = d.spis.length := be16_of_lt hc
  have hsize : (marshalDelete d).getD 1 0 = d.spiSize := rfl
  have hproto : (marshalDelete d).getD 0 0 = d.protocol := rfl
  have hdrop : (marshalDelete d).drop 4 = d.spis.flatten := rfl
  have hl : ¬ (marshalDelete d).length < 4 := by simp [marshalDelete]
  rw [parseDelete, if_neg hl, hcount, hsize, hproto, hdrop, parseSPIs_flatten hs]
  rfl

/-! ## Configuration -/

def cfgRequest : UInt8 := 1
def cfgReply : UInt8 := 2

def cfgInternalIP4Address : ℕ := 1
def cfgInternalIP4Netmask : ℕ := 2
def cfgInternalIP4DNS : ℕ := 3
def cfgInternalIP6Address : ℕ := 8
def cfgInternalIP6DNS : ℕ := 10

structure CFGAttr where
  type : ℕ
  value : Bytes
  deriving DecidableEq, Repr

structure CPPayload where
  type : UInt8
  attrs : List CFGAttr
  deriving DecidableEq, Repr

def marshalCP (cp : CPPayload) : Bytes :=
  [cp.type, 0, 0, 0] ++
    cp.attrs.flatMap fun a => putBE16 (a.type % 0x8000) ++ putBE16 a.value.length ++ a.value

/-- The loop of `ParseCP`; fewer than four octets at the end are ignored. -/
def parseCFGAttrs : ℕ → Bytes → Option (List CFGAttr)
  | 0, _ => some []
  | fuel + 1, buf =>
    if buf.length < 4 then some []
    else if buf.length < 4 + be16 buf 2 then none
    else (parseCFGAttrs fuel (buf.drop (4 + be16 buf 2))).map
      (⟨be16 buf 0 % 0x8000, (buf.drop 4).take (be16 buf 2)⟩ :: ·)

def parseCP (buf : Bytes) : Option CPPayload :=
  if buf.length < 4 then none
  else (parseCFGAttrs buf.length (buf.drop 4)).map (⟨buf.getD 0 0, ·⟩)

/-- An attribute whose type and length fit their fields. -/
structure CFGAttr.Fits (a : CFGAttr) : Prop where
  type : a.type < 2 ^ 15
  value : a.value.length < 2 ^ 16

lemma parseCFGAttrs_encoded {a : CFGAttr} (ha : a.Fits) (rest : Bytes) (fuel : ℕ) :
    parseCFGAttrs (fuel + 1)
        (putBE16 (a.type % 0x8000) ++ putBE16 a.value.length ++ a.value ++ rest) =
      (parseCFGAttrs fuel rest).map (a :: ·) := by
  generalize hbuf : putBE16 (a.type % 0x8000) ++ putBE16 a.value.length ++ a.value ++ rest = buf
  have hmod : a.type % 0x8000 = a.type := Nat.mod_eq_of_lt ha.type
  have hlen : buf.length = 4 + a.value.length + rest.length := by
    rw [← hbuf]
    simp only [length_append, length_putBE16]
  have h0 : be16 buf 0 = a.type := by
    rw [← hbuf, hmod]
    exact be16_of_lt (lt_trans ha.type (by decide))
  have h2 : be16 buf 2 = a.value.length := hbuf ▸ be16_of_lt ha.value
  have h4 : buf.drop 4 = a.value ++ rest := by
    rw [← hbuf]
    simp [putBE16]
  rw [parseCFGAttrs, if_neg (by omega), h2, if_neg (by omega), h0, hmod, ← drop_drop, h4,
    take_left, drop_left]

lemma parseCFGAttrs_marshal :
    ∀ {attrs : List CFGAttr} {fuel : ℕ}, (∀ a ∈ attrs, a.Fits) → attrs.length ≤ fuel →
      parseCFGAttrs fuel (attrs.flatMap fun a =>
        putBE16 (a.type % 0x8000) ++ putBE16 a.value.length ++ a.value) = some attrs
  | [], 0, _, _ => rfl
  | [], _ + 1, _, _ => rfl
  | _ :: _, 0, _, hfuel => absurd hfuel (by simp)
  | a :: attrs, fuel + 1, h, hfuel => by
    have ih := parseCFGAttrs_marshal (fun x hx => h x (mem_cons_of_mem a hx))
      (Nat.le_of_succ_le_succ hfuel)
    rw [flatMap_cons, parseCFGAttrs_encoded (h a (by simp)), ih]
    rfl

lemma parseCP_marshalCP {cp : CPPayload} (h : ∀ a ∈ cp.attrs, a.Fits) :
    parseCP (marshalCP cp) = some cp := by
  -- every attribute takes at least one octet, so the length of the buffer is fuel enough
  have hfuel : cp.attrs.length ≤ (marshalCP cp).length := by
    rw [marshalCP, length_append, length_flatMap]
    refine Nat.le_add_left_of_le ?_
    calc cp.attrs.length = (cp.attrs.map fun _ => 1).sum := by simp
      _ ≤ _ := sum_le_sum fun a _ => by simp; omega
  have hl : ¬ (marshalCP cp).length < 4 := by simp [marshalCP]
  have htype : (marshalCP cp).getD 0 0 = cp.type := rfl
  rw [parseCP, if_neg hl, htype]
  have hdrop : (marshalCP cp).drop 4 = cp.attrs.flatMap fun a =>
      putBE16 (a.type % 0x8000) ++ putBE16 a.value.length ++ a.value := rfl
  rw [hdrop, parseCFGAttrs_marshal h hfuel]
  rfl

/-! ## The codec as a whole -/

/-- **The payload codec round trip.**  Whatever fits its length fields is read back as it was
written; the addresses of a traffic selector come back in the form of their family. -/
theorem payload_round_trip : (∀ ps : List RawPayload, (∀ p ∈ ps, p.Fits) →
      (∀ p ∈ ps.dropLast, isEncrypted p.type = false) →
      parsePayloadChain (build ps).firstType (build ps).buf = some ps) ∧
    (∀ ps : List Proposal, (∀ p ∈ ps, p.Fits) → parseSA (marshalSA ps) = some ps) ∧
    (∀ n : NotifyPayload, n.type < 2 ^ 16 → n.spi.length < 2 ^ 8 →
      parseNotify (marshalNotify n) = some n) ∧
    (∀ ts : List TrafficSelector, (∀ s ∈ ts, s.Valid) → ts.length < 2 ^ 8 →
      parseTS (marshalTS ts) = (ts.map TrafficSelector.canonical, true)) ∧
    (∀ d : DeletePayload, (∀ s ∈ d.spis, s.length = d.spiSize.toNat) → d.spis.length < 2 ^ 16 →
      parseDelete (marshalDelete d) = some d) ∧
    ∀ cp : CPPayload, (∀ a ∈ cp.attrs, a.Fits) → parseCP (marshalCP cp) = some cp := by
  refine ⟨fun ps h hlast => ?_, fun _ h => parseSA_marshalSA h,
    fun _ ht hs => parseNotify_marshalNotify ht hs, fun _ h hc => parseTS_marshalTS h hc,
    fun _ hs hc => parseDelete_marshalDelete hs hc, fun _ h => parseCP_marshalCP h⟩
  rw [(builder_bytes ps).1, (builder_bytes ps).2]
  exact parsePayloadChain_reencode h hlast

/-- A configuration value of 65536 octets is written with the length zero. -/
lemma parseCP_long {v : Bytes} (hv : v.length = 65536) :
    parseCP (marshalCP ⟨cfgReply, [⟨cfgInternalIP4DNS, v⟩]⟩) ≠
      some ⟨cfgReply, [⟨cfgInternalIP4DNS, v⟩]⟩ := by
  intro h
  have hbuf : (marshalCP ⟨cfgReply, [⟨cfgInternalIP4DNS, v⟩]⟩).drop 4 = [0, 3, 0, 0] ++ v := by
    simp [marshalCP, hv, cfgInternalIP4DNS, putBE16]
  have hlen : (marshalCP ⟨cfgReply, [⟨cfgInternalIP4DNS, v⟩]⟩).length = 7 + v.length + 1 := by
    simp [marshalCP]
    omega
  have hzero : be16 ([0, 3, 0, 0] ++ v) 2 = 0 := by simp [be16]
  rw [parseCP, if_neg (by omega), hlen, hbuf, parseCFGAttrs, if_neg (by simp), hzero,
    if_neg (by simp)] at h
  cases hrest : parseCFGAttrs (7 + v.length) (([0, 3, 0, 0] ++ v).drop (4 + 0)) with
  | none =>
    rw [hrest] at h
    cases h
  | some rest =>
    simp only [hrest, map_some, some.injEq, CPPayload.mk.injEq, cons.injEq, CFGAttr.mk.injEq] at h
    have hnil : v = [] := h.2.1.2.symm
    simp [hnil] at hv

/-- **Lengths beyond their fields are cut.**  The size of a notification's SPI is one octet, the
number of deleted SPIs and the length of a configuration value are two: one more than fits is
written as none.  An IPv4 address that is held in sixteen octets comes back in four. -/
theorem length_fields_wrap :
    (parseNotify (marshalNotify ⟨0, rekeySA, List.replicate 256 0, []⟩)).map (·.spi) = some [] ∧
      parseDelete (marshalDelete ⟨3, 0, List.replicate 65536 []⟩) = some ⟨3, 0, []⟩ ∧
      parseCP (marshalCP ⟨cfgReply, [⟨cfgInternalIP4DNS, List.replicate 65536 0⟩]⟩) ≠
        some ⟨cfgReply, [⟨cfgInternalIP4DNS, List.replicate 65536 0⟩]⟩ ∧
      parseTS (marshalTS [⟨tsIPv4AddrRange, 0, 0, 65535, v4InV6Head ++ [10, 0, 0, 1],
        [10, 0, 0, 1]⟩]) =
          ([⟨tsIPv4AddrRange, 0, 0, 65535, [10, 0, 0, 1], [10, 0, 0, 1]⟩], true) := by
  refine ⟨by decide +kernel, ?_, parseCP_long length_replicate, by decide +kernel⟩
  have hempty : parseDelete ([3, 0] ++ (putBE16 65536 ++ [])) = some ⟨3, 0, []⟩ := by
    decide
  rw [marshalDelete, length_replicate, flatten_replicate_nil]
  exact hempty

end Veepin.IKE
