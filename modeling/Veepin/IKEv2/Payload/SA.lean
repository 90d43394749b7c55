import Veepin.IKEv2.Payload.Message

/-!
# Security Association payloads

The model of `internal/ikev2/payload/sa.go`: proposals, their transforms and the key length
attribute, with the parser's error paths.  `parseSA_marshalSA` is the round trip, for proposals
whose counts and lengths fit their fields.
-/

namespace Veepin.IKE

open List

/-! ## Numbers -/

def transformENCR : UInt8 := 1
def transformPRF : UInt8 := 2
def transformINTEG : UInt8 := 3
def transformDH : UInt8 := 4
def transformESN : UInt8 := 5
def transformADDKE1 : UInt8 := 6

def attrKeyLength : ℕ := 14

/-! ## Writing -/

structure Transform where
  type : UInt8
  id : ℕ
  keyLen : ℕ := 0
  deriving DecidableEq, Repr

structure Proposal where
  num : UInt8
  protocol : UInt8
  spi : Bytes := []
  transforms : List Transform
  deriving DecidableEq, Repr

/-- The key length attribute, in the short form. -/
def marshalAttr (keyLen : ℕ) : Bytes :=
  if keyLen = 0 then [] else putBE16 (0x8000 + attrKeyLength) ++ putBE16 keyLen

def marshalTransform (t : Transform) (last : Bool) : Bytes :=
  [if last then 0 else 3, 0] ++ (putBE16 (8 + (marshalAttr t.keyLen).length) ++
    ([t.type, 0] ++ (putBE16 t.id ++ marshalAttr t.keyLen)))

/-- The transforms of a proposal, one after the other. -/
def marshalTransforms : List Transform → Bytes
  | [] => []
  | t :: ts => marshalTransform t ts.isEmpty ++ marshalTransforms ts

def marshalProposal (p : Proposal) (last : Bool) : Bytes :=
  [if last then 0 else 2, 0] ++
    (putBE16 (8 + p.spi.length + (marshalTransforms p.transforms).length) ++
    ([p.num, p.protocol, UInt8.ofNat p.spi.length, UInt8.ofNat p.transforms.length] ++
      (p.spi ++ marshalTransforms p.transforms)))

def marshalSA : List Proposal → Bytes
  | [] => []
  | p :: ps => marshalProposal p ps.isEmpty ++ marshalSA ps

/-! ## Parsing -/

/-- `parseTransformAttrs`: the key length, if one is given; the other attributes are skipped. -/
def parseTransformAttrs : ℕ → Bytes → ℕ → Option ℕ
  | 0, buf, keyLen => if buf = [] then some keyLen else none
  | fuel + 1, buf, keyLen =>
    if buf = [] then some keyLen
    else if buf.length < 4 then none
    else if 0x8000 ≤ be16 buf 0 then
      parseTransformAttrs fuel (buf.drop 4)
        (if be16 buf 0 - 0x8000 = attrKeyLength then be16 buf 2 else keyLen)
    else parseTransformAttrs fuel (buf.drop (4 + be16 buf 2)) keyLen

def parseTransforms : ℕ → Bytes → Option (List Transform)
  | 0, _ => some []
  | count + 1, buf =>
    if buf.length < 8 then none
    else if be16 buf 2 < 8 ∨ buf.length < be16 buf 2 then none
    else do
      let attrs := (buf.take (be16 buf 2)).drop 8
      let keyLen ← parseTransformAttrs attrs.length attrs 0
      let t : Transform := ⟨buf.getD 4 0, be16 buf 6, keyLen⟩
      if buf.getD 0 0 = 0 then return [t]
      return t :: (← parseTransforms count (buf.drop (be16 buf 2)))

/-- The loop of `ParseSA`.  A proposal is at least eight octets long. -/
def parseProposals : ℕ → Bytes → Option (List Proposal)
  | 0, buf => if buf = [] then some [] else none
  | fuel + 1, buf =>
    if buf = [] then some []
    else if buf.length < 8 then none
    else if be16 buf 2 < 8 ∨ buf.length < be16 buf 2 then none
    else
      let spiSize := (buf.getD 6 0).toNat
      if be16 buf 2 < 8 + spiSize then none
      else do
        let body := (buf.take (be16 buf 2)).drop 8
        let trs ← parseTransforms (buf.getD 7 0).toNat (body.drop spiSize)
        let p : Proposal := ⟨buf.getD 4 0, buf.getD 5 0, body.take spiSize, trs⟩
        if buf.getD 0 0 = 0 then return [p]
        return p :: (← parseProposals fuel (buf.drop (be16 buf 2)))

def parseSA (buf : Bytes) : Option (List Proposal) := parseProposals buf.length buf

/-! ## The round trip -/

/-- The numbers of a transform are within their widths. -/
structure Transform.Fits (t : Transform) : Prop where
  id : t.id < 2 ^ 16
  keyLen : t.keyLen < 2 ^ 16

/-- The counts and lengths of a proposal are within their widths. -/
structure Proposal.Fits (p : Proposal) : Prop where
  spi : p.spi.length < 2 ^ 8
  count : p.transforms.length < 2 ^ 8
  transforms : ∀ t ∈ p.transforms, t.Fits

lemma length_marshalAttr_le (keyLen : ℕ) : (marshalAttr keyLen).length ≤ 4 := by
  unfold marshalAttr
  split_ifs <;> simp

lemma length_marshalTransform (t : Transform) (last : Bool) :
    (marshalTransform t last).length = 8 + (marshalAttr t.keyLen).length := by
  simp only [marshalTransform, length_append, length_cons, length_nil, length_putBE16]
  omega

lemma length_marshalTransforms_le :
    ∀ ts : List Transform, (marshalTransforms ts).length ≤ 12 * ts.length
  | [] => le_rfl
  | t :: ts => by
    have ih := length_marshalTransforms_le ts
    have ha := length_marshalAttr_le t.keyLen
    rw [marshalTransforms, length_append, length_marshalTransform, length_cons]
    omega

lemma parseTransformAttrs_marshalAttr {keyLen : ℕ} (h : keyLen < 2 ^ 16) :
    parseTransformAttrs (marshalAttr keyLen).length (marshalAttr keyLen) 0 = some keyLen := by
  unfold marshalAttr
  split_ifs with h0
  · rw [h0]; rfl
  set buf := putBE16 (0x8000 + attrKeyLength) ++ putBE16 keyLen with hbuf
  have hv : be16 buf 2 = keyLen := be16_of_lt h
  have ht : be16 buf 0 = 0x800e := be16_of_lt (by decide)
  have hdrop : buf.drop 4 = [] := rfl
  have hlen : buf.length = 3 + 1 := rfl
  rw [hlen, parseTransformAttrs, if_neg (by simp [hbuf, putBE16]), if_neg (by simp [hlen]), ht, hv,
    hdrop, if_pos (by norm_num), if_pos (by rfl)]
  rfl

lemma parseTransforms_marshalTransform {t : Transform} (ht : t.Fits) (last : Bool) (rest : Bytes)
    (count : ℕ) :
    parseTransforms (count + 1) (marshalTransform t last ++ rest) =
      if last then some [t] else (parseTransforms count rest).map (t :: ·) := by
  have ha := length_marshalAttr_le t.keyLen
  have hlen := length_marshalTransform t last
  set n := 8 + (marshalAttr t.keyLen).length with hn
  set buf := marshalTransform t last ++ rest with hbuf
  have h16 : be16 buf 2 = n := be16_of_lt (by omega)
  have hid : be16 buf 6 = t.id := be16_of_lt ht.id
  have htake : (buf.take n).drop 8 = marshalAttr t.keyLen := by
    rw [hbuf, ← hlen, take_left]
    rfl
  have hdrop : buf.drop n = rest := by rw [hbuf, ← hlen, drop_left]
  have hmore : buf.getD 0 0 = if last then 0 else 3 := rfl
  have htype : buf.getD 4 0 = t.type := rfl
  have hl : buf.length = n + rest.length := by rw [hbuf, length_append, hlen]
  rw [parseTransforms, if_neg (by omega), h16, if_neg (by omega), htake, hdrop, hid, hmore, htype]
  simp only [parseTransformAttrs_marshalAttr ht.keyLen]
  cases last with
  | true => rfl
  | false => cases parseTransforms count rest <;> rfl

lemma parseTransforms_marshalTransforms : ∀ {ts : List Transform}, (∀ t ∈ ts, t.Fits) →
      parseTransforms ts.length (marshalTransforms ts) = some ts
  | [], _ => rfl
  | t :: ts, h => by
    have ih := parseTransforms_marshalTransforms fun x hx => h x (mem_cons_of_mem t hx)
    rw [length_cons, marshalTransforms, parseTransforms_marshalTransform (h t (by simp)), ih]
    cases ts <;> rfl

lemma length_marshalProposal (p : Proposal) (last : Bool) : (marshalProposal p last).length =
      8 + p.spi.length + (marshalTransforms p.transforms).length := by
  simp only [marshalProposal, length_append, length_cons, length_nil, length_putBE16]
  omega

lemma parseProposals_marshalProposal {p : Proposal} (hp : p.Fits) (last : Bool) (rest : Bytes)
    (fuel : ℕ) :
    parseProposals (fuel + 1) (marshalProposal p last ++ rest) =
      if last then some [p] else (parseProposals fuel rest).map (p :: ·) := by
  have hspi := hp.spi
  have hcount := hp.count
  have htr := length_marshalTransforms_le p.transforms
  have hlen := length_marshalProposal p last
  set n := 8 + p.spi.length + (marshalTransforms p.transforms).length with hn
  set buf := marshalProposal p last ++ rest with hbuf
  have h16 : be16 buf 2 = n := be16_of_lt (by omega)
  have hbody : (buf.take n).drop 8 = p.spi ++ marshalTransforms p.transforms := by
    rw [hbuf, ← hlen, take_left]
    rfl
  have hdrop : buf.drop n = rest := by rw [hbuf, ← hlen, drop_left]
  have hmore : buf.getD 0 0 = if last then 0 else 2 := rfl
  have hnum : buf.getD 4 0 = p.num := rfl
  have hproto : buf.getD 5 0 = p.protocol := rfl
  have hsize : (buf.getD 6 0).toNat = p.spi.length := UInt8.toNat_ofNat_of_lt hspi
  have hnumTr : (buf.getD 7 0).toNat = p.transforms.length := UInt8.toNat_ofNat_of_lt hcount
  have hl : buf.length = n + rest.length := by rw [hbuf, length_append, hlen]
  have hne : buf ≠ [] := by
    intro he
    rw [he, length_nil] at hl
    omega
  rw [parseProposals, if_neg hne, if_neg (by omega), h16, if_neg (by omega)]
  simp only [hsize, hnumTr, hbody, hdrop, hmore, hnum, hproto, drop_left, take_left,
    parseTransforms_marshalTransforms hp.transforms]
  rw [if_neg (by omega)]
  cases last with
  | true => rfl
  | false => cases parseProposals fuel rest <;> rfl

lemma parseProposals_marshalSA :
    ∀ {ps : List Proposal} {fuel : ℕ}, (∀ p ∈ ps, p.Fits) → ps.length ≤ fuel →
      parseProposals fuel (marshalSA ps) = some ps
  | [], 0, _, _ => rfl
  | [], _ + 1, _, _ => rfl
  | _ :: _, 0, _, hfuel => absurd hfuel (by simp)
  | p :: ps, fuel + 1, h, hfuel => by
    have ih : parseProposals fuel (marshalSA ps) = some ps :=
      parseProposals_marshalSA (fun x hx => h x (mem_cons_of_mem p hx)) (by simpa using hfuel)
    rw [marshalSA, parseProposals_marshalProposal (h p (by simp)), ih]
    cases ps <;> rfl

lemma parseSA_marshalSA {ps : List Proposal} (h : ∀ p ∈ ps, p.Fits) :
    parseSA (marshalSA ps) = some ps := by
  have hlen : ps.length ≤ (marshalSA ps).length := by
    clear h
    induction ps with
    | nil => exact le_rfl
    | cons p ps ih =>
      rw [marshalSA, length_append, length_marshalProposal, length_cons]
      omega
  exact parseProposals_marshalSA h hlen

end Veepin.IKE
