import Veepin.Core.Bytes

/-!
# The AGGFRAG payload codec

The model of `internal/ikev2/aggfrag/codec.go`.  A sender cuts and joins inner IP packets into
payloads of a chosen size (`Packer.pack`), a receiver turns payloads back into packets
(`Reassembler.feed`).  No block carries a length or an identity of its own: a block starts with an
IP header and is as long as that header says (`innerLen`), and the 16-bit BlockOffset of a payload
says how many of its first octets continue a packet begun earlier.

The storage the source reuses between calls (`pendingBuf`, `buf`, `out`) holds nothing across
calls and is not part of the state.  `Reassembler.part` is the field `partial` of the source.

The second half of the file relates the two sides on one payload: what it is made of
(`fillBlocks_spec`), and that the block loop takes whole packets one by one (`feedBlocks_flatten`).
-/

namespace Veepin.Aggfrag

open List

/-- The sub-type 0 header: sub-type, reserved octet, 16-bit BlockOffset. -/
def headerLen : ℕ := 4

/-- The drop-path errors of the receiver. -/
inductive FeedError
  | short
  | subType
  | blockOffset
  | blockType
  deriving DecidableEq, Repr

/-- A parsed sub-type 0 header. -/
structure Header where
  blockOffset : ℕ
  deriving DecidableEq, Repr

/-- `AppendHeader`; the offset is converted to `uint16`, which keeps its low sixteen bits. -/
def appendHeader (dst : Bytes) (blockOffset : ℕ) : Bytes := dst ++ [0, 0] ++ putBE16 blockOffset

def parseHeader (pkt : Bytes) : Except FeedError Header :=
  if pkt.length < headerLen then .error .short
  else if pkt.getD 0 0 ≠ 0 then .error .subType
  else .ok ⟨be16 pkt 2⟩

/-- `innerLen`: the length an inner IP header declares, 0 when it cannot be read. -/
def innerLen (b : Bytes) : ℕ :=
  if b.length < 1 then 0
  else if (b.getD 0 0).toNat / 16 = 4 then
    if b.length < 20 then 0
    else if be16 b 2 < 20 then 0 else be16 b 2
  else if (b.getD 0 0).toNat / 16 = 6 then
    if b.length < 40 then 0 else be16 b 4 + 40
  else 0

/-! ## The sender -/

/-- `Packer`: the unsent tail of a packet that was split. -/
structure Packer where
  pending : Bytes := []
  deriving DecidableEq, Repr

/-- What the block loop of `Pack` leaves: the octets it appended, the tail it could not place, the
packets it did not reach and the room that is left. -/
structure Filled where
  data : Bytes
  pending : Bytes
  remaining : List Bytes
  room : ℕ
  deriving DecidableEq, Repr

/-- The block loop of `Pack`: whole packets while they fit, then the head of the next one. -/
def fillBlocks : List Bytes → ℕ → Filled
  | [], room => ⟨[], [], [], room⟩
  | pkt :: pkts, room =>
    if room = 0 then ⟨[], [], pkt :: pkts, 0⟩
    else if pkt.length ≤ room then
      let rest := fillBlocks pkts (room - pkt.length)
      { rest with data := pkt ++ rest.data }
    else ⟨pkt.take room, pkt.drop room, pkts, 0⟩

/-- The result of one `Pack` call. -/
structure Packed where
  packer : Packer
  payload : Bytes
  remaining : List Bytes
  deriving DecidableEq, Repr

def Packer.pack (p : Packer) (pkts : List Bytes) (size : ℕ) : Packed :=
  if size < headerLen + 1 then ⟨p, [], pkts⟩
  else
    let room := size - headerLen
    let blockOffset := if p.pending.length > 0 then min p.pending.length room else 0
    let buf := appendHeader [] blockOffset ++ p.pending.take blockOffset
    let pending := p.pending.drop blockOffset
    let room := room - blockOffset
    -- new blocks only start once the continuation is complete
    if pending.length = 0 then
      let f := fillBlocks pkts room
      ⟨⟨f.pending⟩, buf ++ f.data ++ List.replicate f.room 0, f.remaining⟩
    else ⟨⟨pending⟩, buf ++ List.replicate room 0, pkts⟩

/-! ## The receiver -/

/-- `Reassembler`: the head of a block whose remainder has not arrived, if any. -/
structure Reassembler where
  part : Option Bytes := none
  deriving DecidableEq, Repr

/-- The result of one `Feed` call. -/
structure Fed where
  reasm : Reassembler
  out : List Bytes
  err : Option FeedError
  deriving DecidableEq, Repr

def takeComplete (b : Bytes) : Option Bytes :=
  let n := innerLen b
  if n = 0 ∨ b.length < n then none else some (b.take n)

/-- The block loop of `Feed`.  Each round takes a block of at least twenty octets off `data`, so
its length is fuel enough. -/
def feedBlocks : ℕ → Bytes → Option Bytes → List Bytes → Fed
  | 0, _, part, out => ⟨⟨part⟩, out, none⟩
  | _ + 1, [], part, out => ⟨⟨part⟩, out, none⟩
  | fuel + 1, d :: data, part, out =>
    if d.toNat / 16 = 0 then ⟨⟨part⟩, out, none⟩
    else if d.toNat / 16 = 4 ∨ d.toNat / 16 = 6 then
      match takeComplete (d :: data) with
      | none => ⟨⟨some (d :: data)⟩, out, none⟩
      | some pkt => feedBlocks fuel ((d :: data).drop pkt.length) part (out ++ [pkt])
    else ⟨⟨part⟩, out, some .blockType⟩

def Reassembler.feed (r : Reassembler) (payload : Bytes) : Fed :=
  match parseHeader payload with
  | .error e => ⟨r, [], some e⟩
  | .ok hdr =>
    let data := payload.drop headerLen
    let off := hdr.blockOffset
    if data.length < off then ⟨r, [], some .blockOffset⟩
    else if 0 < off then
      match r.part with
      -- the continuation of a block whose start was never seen is skipped
      | none => feedBlocks data.length (data.drop off) none []
      | some held =>
        match takeComplete (held ++ data.take off) with
        | none => ⟨⟨some (held ++ data.take off)⟩, [], none⟩
        | some pkt => feedBlocks data.length (data.drop off) none [pkt]
    -- a payload that starts on a block boundary drops what was held
    else feedBlocks data.length data none []

/-! ## What the lengths in the inner headers say -/

/-- An inner packet whose header declares exactly its length. -/
def WellFormed (p : Bytes) : Prop :=
  ((p.getD 0 0).toNat / 16 = 4 ∧ 20 ≤ p.length ∧ be16 p 2 = p.length) ∨
    ((p.getD 0 0).toNat / 16 = 6 ∧ 40 ≤ p.length ∧ be16 p 4 + 40 = p.length)

instance (p : Bytes) : Decidable (WellFormed p) := inferInstanceAs (Decidable (_ ∨ _))

variable {p : Bytes} {head tail : Bytes}

lemma WellFormed.twenty_le (h : WellFormed p) : 20 ≤ p.length := by
  rcases h with h | h <;> omega

lemma WellFormed.ne_nil (h : WellFormed p) : p ≠ [] := by
  rintro rfl
  exact absurd h.twenty_le (by simp)

/-- The version nibble of a well-formed packet, read in anything that starts with its first
octet. -/
lemma WellFormed.version (h : WellFormed p) :
    (p.getD 0 0).toNat / 16 = 4 ∨ (p.getD 0 0).toNat / 16 = 6 := by
  rcases h with h | h
  · exact Or.inl h.1
  · exact Or.inr h.1

/-- A whole packet declares its own length, whatever follows it. -/
lemma innerLen_append (h : WellFormed p) (rest : Bytes) : innerLen (p ++ rest) = p.length := by
  have h20 := h.twenty_le
  have hv : (p ++ rest).getD 0 0 = p.getD 0 0 := getD_append _ _ _ _ (by omega)
  rcases h with ⟨h4, hl, ht⟩ | ⟨h6, hl, ht⟩
  · simp only [innerLen, hv, h4, length_append, be16_append (b := p) (i := 2) (by omega), ht,
      if_true]
    split_ifs <;> omega
  · simp only [innerLen, hv, h6, length_append, be16_append (b := p) (i := 4) (by omega), ht,
      if_true]
    split_ifs <;> omega

/-- A proper head of a packet declares nothing readable or more than is there. -/
lemma innerLen_short (h : WellFormed p) (hp : p = head ++ tail) (hh : head ≠ [])
    (ht : tail ≠ []) : innerLen head = 0 ∨ head.length < innerLen head := by
  have hlt : head.length < p.length := by
    have := length_pos_of_ne_nil ht
    rw [hp, length_append]; omega
  have hpos := length_pos_of_ne_nil hh
  have hv : p.getD 0 0 = head.getD 0 0 := by rw [hp]; exact getD_append _ _ _ _ hpos
  rcases h with ⟨h4, -, hl⟩ | ⟨h6, -, hl⟩
  · rw [hv] at h4
    by_cases h20 : head.length < 20
    · left
      simp only [innerLen, h4, if_true]
      split_ifs <;> omega
    · have hf : be16 head 2 = p.length := by rw [← hl, hp, be16_append (by omega)]
      right
      simp only [innerLen, h4, hf, if_true]
      split_ifs <;> omega
  · rw [hv] at h6
    by_cases h40 : head.length < 40
    · left
      simp only [innerLen, h6]
      split_ifs <;> omega
    · have hf : be16 head 4 + 40 = p.length := by rw [← hl, hp, be16_append (by omega)]
      right
      simp only [innerLen, h6, hf]
      split_ifs <;> omega

lemma takeComplete_append (h : WellFormed p) (rest : Bytes) :
    takeComplete (p ++ rest) = some p := by
  have := h.twenty_le
  simp only [takeComplete, innerLen_append h, length_append]
  rw [if_neg (by omega), take_left]

lemma takeComplete_short (h : WellFormed p) (hp : p = head ++ tail)
    (hh : head ≠ []) (ht : tail ≠ []) : takeComplete head = none := by
  simp only [takeComplete]
  rw [if_pos (innerLen_short h hp hh ht)]

/-! ## The block loop on what a sender writes -/

/-- The loop takes a whole packet off the front of the data. -/
lemma feedBlocks_packet (h : WellFormed p) (fuel : ℕ) (rest : Bytes) (part : Option Bytes)
    (out : List Bytes) :
    feedBlocks (fuel + 1) (p ++ rest) part out = feedBlocks fuel rest part (out ++ [p]) := by
  obtain ⟨d, p', rfl⟩ := exists_cons_of_ne_nil h.ne_nil
  have hv := h.version
  have htake : takeComplete (d :: (p' ++ rest)) = some (d :: p') := takeComplete_append h rest
  have hdrop : (d :: (p' ++ rest)).drop (d :: p').length = rest := by
    rw [← cons_append, drop_left]
  rw [getD_cons_zero] at hv
  rw [cons_append, feedBlocks, if_neg (by omega), if_pos hv, htake]
  simp only [hdrop]

/-- **The loop on whole packets.**  A run of well-formed packets is taken packet by packet; the
loop then stands at what follows them. -/
lemma feedBlocks_flatten {ws : List Bytes} (h : ∀ p ∈ ws, WellFormed p) (fuel : ℕ) (rest : Bytes)
    (part : Option Bytes) (out : List Bytes) :
    feedBlocks (ws.length + fuel) (ws.flatten ++ rest) part out =
      feedBlocks fuel rest part (out ++ ws) := by
  induction ws generalizing out with
  | nil => simp
  | cons p ws ih =>
    have hfuel : (p :: ws).length + fuel = ws.length + fuel + 1 := by
      rw [length_cons]; omega
    rw [flatten_cons, append_assoc, hfuel, feedBlocks_packet (h p (by simp)),
      ih (fun q hq => h q (mem_cons_of_mem p hq))]
    simp

/-- The loop stops at padding. -/
lemma feedBlocks_zeros (fuel n : ℕ) (part : Option Bytes) (out : List Bytes) :
    feedBlocks fuel (List.replicate n 0) part out = ⟨⟨part⟩, out, none⟩ := by
  cases fuel with
  | zero => rfl
  | succ fuel =>
    cases n with
    | zero => rfl
    | succ n => rw [replicate_succ, feedBlocks]; rfl

/-- The loop keeps the head of a packet that does not end in the payload. -/
lemma feedBlocks_head (h : WellFormed p) (hp : p = head ++ tail)
    (hh : head ≠ []) (ht : tail ≠ []) {fuel : ℕ} (hf : 0 < fuel) (part : Option Bytes)
    (out : List Bytes) : feedBlocks fuel head part out = ⟨⟨some head⟩, out, none⟩ := by
  obtain ⟨fuel, rfl⟩ := Nat.exists_eq_succ_of_ne_zero (by omega : fuel ≠ 0)
  have hnone := takeComplete_short h hp hh ht
  obtain ⟨d, head', rfl⟩ := exists_cons_of_ne_nil hh
  have hv := h.version
  rw [hp, cons_append, getD_cons_zero] at hv
  rw [feedBlocks, if_neg (by omega), if_pos hv, hnone]

/-! ## What a payload is made of -/

/-- **The block loop of `Pack`.**  It writes some whole packets off the front of the queue and
then either stops (the queue is empty or the room is used up) or writes a proper head of the next
packet and keeps the tail. -/
lemma fillBlocks_spec {pkts : List Bytes} {room : ℕ} {f : Filled}
    (hf : fillBlocks pkts room = f) : ∃ ws, f.data.length + f.room = room ∧
      ((pkts = ws ++ f.remaining ∧ f.data = ws.flatten ∧ f.pending = [] ∧
          (f.remaining = [] ∨ f.room = 0)) ∨
        ∃ head, head ≠ [] ∧ f.pending ≠ [] ∧ pkts = ws ++ (head ++ f.pending) :: f.remaining ∧
          f.data = ws.flatten ++ head ∧ f.room = 0) := by
  induction pkts generalizing room f with
  | nil =>
    subst hf
    exact ⟨[], by simp [fillBlocks]⟩
  | cons p pkts ih =>
    rw [fillBlocks] at hf
    split_ifs at hf with h0 hfit
    · subst hf
      exact ⟨[], by simp [h0]⟩
    · obtain ⟨ws, hlen, hws⟩ := ih (rfl : fillBlocks pkts (room - p.length) = _)
      subst hf
      refine ⟨p :: ws, by simp only [length_append]; omega, ?_⟩
      rcases hws with ⟨hq, hd, hp, hr⟩ | ⟨head, hne, hp, hq, hd, hr⟩
      · exact Or.inl ⟨by rw [cons_append, ← hq], by simp [hd], hp, hr⟩
      · exact Or.inr ⟨head, hne, hp, by rw [cons_append, ← hq], by simp [hd], hr⟩
    · subst hf
      refine ⟨[], by simp only [length_take]; omega, Or.inr ⟨p.take room, ?_, ?_, ?_, ?_, rfl⟩⟩
      · intro hnil
        have := congrArg length hnil
        rw [length_take, length_nil] at this
        omega
      · intro hnil
        have := congrArg length hnil
        rw [length_drop, length_nil] at this
        omega
      · simp
      · simp

end Veepin.Aggfrag
