import Veepin.Core.Bytes

/-!
# L2TP messages

The codec of `internal/l2tp/message.go`: the header of control and data messages, and the list of
attribute-value pairs of a control message.

* `parseHeader_marshalControl` and `parseHeader_marshalData` — what is sent is read back;
* `parseAVPs_marshalAVPs` — and so is the list of pairs.
-/

namespace Veepin.L2TP

open List

/-! ## The header -/

structure Header where
  isControl : Bool
  tunnelID : UInt16
  sessionID : UInt16
  ns : UInt16 := 0
  nr : UInt16 := 0
  payload : Bytes
  deriving DecidableEq, Repr

/-- `marshalControl`: flags T, L and S, version 2. -/
def marshalControl (tunnelID sessionID ns nr : UInt16) (avps : Bytes) : Bytes :=
  [0xc8, 2] ++ putBE16 (12 + avps.length) ++ putBE16 tunnelID.toNat ++ putBE16 sessionID.toNat ++
    putBE16 ns.toNat ++ putBE16 nr.toNat ++ avps

/-- `marshalData`: no flags. -/
def marshalData (tunnelID sessionID : UInt16) (ppp : Bytes) : Bytes :=
  [0, 2] ++ putBE16 tunnelID.toNat ++ putBE16 sessionID.toNat ++ ppp

/-- Two octets of a datagram. -/
def field (pkt : Bytes) (off : ℕ) : UInt16 := UInt16.ofNat (be16 pkt off)

def parseHeader (pkt : Bytes) : Option Header :=
  let flags := pkt.getD 0 0
  let hasLength := flags &&& 0x40 ≠ 0
  let hasSeq := flags &&& 0x08 ≠ 0
  let hasOffset := flags &&& 0x02 ≠ 0
  let ids := if hasLength then 4 else 2
  let seq := ids + 4
  let offset := if hasSeq then seq + 4 else seq
  let body := if hasOffset then offset + 2 + be16 pkt offset else offset
  let stop := if hasLength then be16 pkt 2 else pkt.length
  if pkt.length < 6 ∨ pkt.getD 1 0 &&& 0x0f ≠ 2 then none
  else if pkt.length < ids + 4 ∨ (hasSeq ∧ pkt.length < seq + 4) ∨
      (hasOffset ∧ pkt.length < offset + 2) then none
  else if pkt.length < stop ∨ stop < body then none
  else
    some
      { isControl := flags &&& 0x80 ≠ 0
        tunnelID := field pkt ids
        sessionID := field pkt (ids + 2)
        ns := if hasSeq then field pkt seq else 0
        nr := if hasSeq then field pkt (seq + 2) else 0
        payload := (pkt.take stop).drop body }

/-! ## Attribute-value pairs -/

structure Avp where
  mandatory : Bool
  vendorID : ℕ
  typ : ℕ
  value : Bytes
  deriving DecidableEq, Repr

/-- What an `avpBuilder` is given: types with values. -/
abbrev Body := List (ℕ × Bytes)

/-- `avpBuilder.add`: mandatory, not hidden, of vendor 0. -/
def marshalAVP (a : ℕ × Bytes) : Bytes :=
  putBE16 (0x8000 + (6 + a.2.length) % 0x400) ++ putBE16 0 ++ putBE16 a.1 ++ a.2

/-- `avpBuilder.bytes`. -/
def marshalAVPs (b : Body) : Bytes := b.flatMap marshalAVP

/-- The loop of `parseAVPs`; the first argument bounds the number of pairs. -/
def parseAVPsLoop : ℕ → Bytes → Option (List Avp)
  | _, [] => some []
  | 0, _ => none
  | n + 1, body =>
    let flags := be16 body 0
    let length := flags % 0x400
    if body.length < 6 then none
    else if flags / 0x4000 % 2 = 1 then none
    else if length < 6 ∨ body.length < length then none
    else
      (parseAVPsLoop n (body.drop length)).map
        (⟨flags / 0x8000 = 1, be16 body 2, be16 body 4, (body.take length).drop 6⟩ :: ·)

def parseAVPs (body : Bytes) : Option (List Avp) := parseAVPsLoop body.length body

def messageType (avps : List Avp) : Option ℕ :=
  (avps.find? fun a => a.vendorID = 0 ∧ a.typ = 0 ∧ a.value.length = 2).map fun a => be16 a.value 0

/-- `findUint16`, with `findAVP`. -/
def findUint16 (avps : List Avp) (typ : ℕ) : Option UInt16 :=
  match avps.find? fun a => a.vendorID = 0 ∧ a.typ = typ with
  | some a => if a.value.length = 2 then some (field a.value 0) else none
  | none => none

/-! ## What is sent is read back -/

@[simp] lemma field_putBE16 (x : UInt16) : field (putBE16 x.toNat) 0 = x := by
  rw [field, be16_of_lt x.toNat_lt, UInt16.ofNat_toNat]

lemma parseHeader_marshalControl (tunnelID sessionID ns nr : UInt16) {avps : Bytes}
    (h : avps.length < 65000) :
    parseHeader (marshalControl tunnelID sessionID ns nr avps) =
      some ⟨true, tunnelID, sessionID, ns, nr, avps⟩ := by
  generalize hp : marshalControl tunnelID sessionID ns nr avps = pkt
  have hlen : pkt.length = 12 + avps.length := by
    rw [← hp]
    simp [marshalControl]
    omega
  have h₀ : pkt.getD 0 0 = 200 := by rw [← hp]; rfl
  have h₁ : pkt.getD 1 0 = 2 := by rw [← hp]; rfl
  have hstop : be16 pkt 2 = 12 + avps.length := hp ▸ be16_of_lt (by omega)
  have ht : field pkt 4 = tunnelID := hp ▸ field_putBE16 tunnelID
  have hs : field pkt 6 = sessionID := hp ▸ field_putBE16 sessionID
  have hns : field pkt 8 = ns := hp ▸ field_putBE16 ns
  have hnr : field pkt 10 = nr := hp ▸ field_putBE16 nr
  have hpayload : (pkt.take (12 + avps.length)).drop 12 = avps := by
    rw [← hlen, take_length, ← hp]
    rfl
  have hflags : (200 : UInt8) &&& 64 ≠ 0 ∧ (200 : UInt8) &&& 8 ≠ 0 ∧ ¬ (200 : UInt8) &&& 2 ≠ 0 ∧
      (200 : UInt8) &&& 128 ≠ 0 ∧ ¬ (2 : UInt8) &&& 15 ≠ 2 := by decide
  obtain ⟨f₁, f₂, f₃, f₄, f₅⟩ := hflags
  simp only [parseHeader, h₀, h₁, if_pos f₁, if_pos f₂, if_neg f₃, hstop, hlen, Nat.reduceAdd, ht,
    hs, hns, hnr, hpayload]
  have hlong : ¬ 12 + avps.length < 6 ∧ ¬ 12 + avps.length < 8 ∧ ¬ 12 + avps.length < 12 := by omega
  rw [if_neg (not_or.2 ⟨hlong.1, f₅⟩), if_neg (by simp [f₃, hlong]), if_neg (by omega)]
  simp [f₄]

lemma parseHeader_marshalData (tunnelID sessionID : UInt16) (ppp : Bytes) :
    parseHeader (marshalData tunnelID sessionID ppp) =
      some ⟨false, tunnelID, sessionID, 0, 0, ppp⟩ := by
  generalize hp : marshalData tunnelID sessionID ppp = pkt
  have hlen : pkt.length = 6 + ppp.length := by
    rw [← hp]
    simp [marshalData]
    omega
  have h₀ : pkt.getD 0 0 = 0 := by rw [← hp]; rfl
  have h₁ : pkt.getD 1 0 = 2 := by rw [← hp]; rfl
  have ht : field pkt 2 = tunnelID := hp ▸ field_putBE16 tunnelID
  have hs : field pkt 4 = sessionID := hp ▸ field_putBE16 sessionID
  have hpayload : (pkt.take pkt.length).drop 6 = ppp := by
    rw [take_length, ← hp]
    rfl
  have hflags : ¬ (0 : UInt8) &&& 64 ≠ 0 ∧ ¬ (0 : UInt8) &&& 8 ≠ 0 ∧ ¬ (0 : UInt8) &&& 2 ≠ 0 ∧
      ¬ (0 : UInt8) &&& 128 ≠ 0 ∧ ¬ (2 : UInt8) &&& 15 ≠ 2 := by decide
  obtain ⟨f₁, f₂, f₃, f₄, f₅⟩ := hflags
  simp only [parseHeader, h₀, h₁, if_neg f₁, if_neg f₂, if_neg f₃, Nat.reduceAdd, ht, hs,
    hpayload]
  have hlong : ¬ pkt.length < 6 := by omega
  rw [if_neg (not_or.2 ⟨hlong, f₅⟩), if_neg (by simp [hlong]), if_neg (by omega)]
  simp

/-- A pair as the receiver sees it. -/
def received (a : ℕ × Bytes) : Avp := ⟨true, 0, a.1, a.2⟩

/-- A pair fits its header. -/
def Fits (a : ℕ × Bytes) : Prop := a.1 < 65536 ∧ a.2.length ≤ 1017

lemma parseAVPsLoop_marshalAVPs (b : Body) (hb : ∀ a ∈ b, Fits a) :
    ∀ n, b.length ≤ n → parseAVPsLoop n (marshalAVPs b) = some (b.map received) := by
  induction b with
  | nil => intro n _; cases n <;> rfl
  | cons a b ih =>
    intro n hn
    obtain ⟨n, rfl⟩ : ∃ m, n = m + 1 := ⟨n - 1, by simp at hn; omega⟩
    obtain ⟨htyp, hlen⟩ := hb a mem_cons_self
    have hrest := ih (fun x hx => hb x (mem_cons_of_mem _ hx)) n (by simpa using hn)
    generalize hp : marshalAVPs (a :: b) = body
    have hbody : marshalAVP a ++ marshalAVPs b = body := hp
    have hmarshal : (marshalAVP a).length = a.2.length + 6 := by simp [marshalAVP]; omega
    have hflags : be16 body 0 = 0x8000 + (6 + a.2.length) := by
      rw [← hbody]
      exact (be16_putBE16 _).trans (by omega)
    have hvendor : be16 body 2 = 0 := hbody ▸ be16_of_lt (by decide)
    have htype : be16 body 4 = a.1 := hbody ▸ be16_of_lt htyp
    have hlength : (0x8000 + (6 + a.2.length)) % 0x400 = a.2.length + 6 := by omega
    have hdrop : body.drop (a.2.length + 6) = marshalAVPs b := by
      rw [← hbody, ← hmarshal, drop_left]
    have hvalue : (body.take (a.2.length + 6)).drop 6 = a.2 := by
      rw [← hbody, ← hmarshal, take_left]
      rfl
    have hlong : a.2.length + 6 ≤ body.length := by
      rw [← hbody, length_append, hmarshal]
      omega
    cases body with
    | nil => simp at hlong
    | cons x xs =>
      simp only [parseAVPsLoop, hflags, hlength, hvendor, htype, hdrop, hvalue, hrest]
      rw [if_neg (by omega), if_neg (by omega), if_neg (by omega)]
      have hmandatory : (0x8000 + (6 + a.2.length)) / 0x8000 = 1 := by omega
      simp [hmandatory, received]

/-- **A list of pairs** is read back. -/
lemma parseAVPs_marshalAVPs (b : Body) (hb : ∀ a ∈ b, Fits a) :
    parseAVPs (marshalAVPs b) = some (b.map received) := by
  refine parseAVPsLoop_marshalAVPs b hb _ ?_
  induction b with
  | nil => exact Nat.zero_le _
  | cons a b ih =>
    have := ih fun x hx => hb x (mem_cons_of_mem _ hx)
    simp only [marshalAVPs, flatMap_cons, length_append, length_cons] at this ⊢
    simp only [marshalAVP, length_append, length_putBE16]
    omega

end Veepin.L2TP
