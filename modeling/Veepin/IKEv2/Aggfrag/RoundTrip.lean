import Veepin.IKEv2.Aggfrag.Codec

/-!
# AGGFRAG without loss

Feeding the payloads of a sender to one receiver, in order and without loss, gives back the
packets.  The argument follows the one packet that can be in flight between two calls: its head
is held by the receiver and its tail is pending at the sender (`InFlight`).  `feed_pack` is the
step: a `Pack` and the `Feed` of its payload move whole packets from the one to the other.

The BlockOffset of each payload is described from the packets alone: at octet `pos` of the packet
stream it is the number of octets left of the packet that `pos` is inside of, cut to the payload
(`blockOffsets`).
-/

namespace Veepin.Aggfrag

open List

/-! ## One payload, sender side -/

variable {size : ℕ} {p : Packer}

/-- A payload that the pending tail fills carries nothing else. -/
lemma pack_long (h5 : 5 ≤ size) (h : size - 4 < p.pending.length) (pkts : List Bytes) :
    p.pack pkts size =
      ⟨⟨p.pending.drop (size - 4)⟩, appendHeader [] (size - 4) ++ p.pending.take (size - 4),
        pkts⟩ := by
  have hoff : (if p.pending.length > 0 then min p.pending.length (size - 4) else 0) =
      size - 4 := by split_ifs <;> omega
  simp only [Packer.pack, headerLen, hoff, length_drop]
  rw [if_neg (by omega), if_neg (by omega)]
  simp

/-- The blocks of a payload, and the padding behind them. -/
def blocks (pkts : List Bytes) (room : ℕ) : Bytes :=
  (fillBlocks pkts room).data ++ List.replicate (fillBlocks pkts room).room 0

lemma length_blocks (pkts : List Bytes) (room : ℕ) : (blocks pkts room).length = room := by
  obtain ⟨_, hlen, -⟩ := fillBlocks_spec (rfl : fillBlocks pkts room = _)
  rw [blocks, length_append, length_replicate, hlen]

/-- A payload with room for the pending tail carries it and then new blocks. -/
lemma pack_fits (h5 : 5 ≤ size) (h : p.pending.length ≤ size - 4) (pkts : List Bytes) :
    p.pack pkts size = ⟨⟨(fillBlocks pkts (size - 4 - p.pending.length)).pending⟩,
        appendHeader [] p.pending.length ++ p.pending ++ blocks pkts (size - 4 - p.pending.length),
        (fillBlocks pkts (size - 4 - p.pending.length)).remaining⟩ := by
  have hoff : (if p.pending.length > 0 then min p.pending.length (size - 4) else 0) =
      p.pending.length := by split_ifs <;> omega
  simp only [Packer.pack, headerLen, hoff, length_drop, take_length]
  rw [if_neg (by omega), if_pos (by omega)]
  simp [blocks]

/-- The header of a payload reads back as the offset it was written with. -/
lemma parseHeader_appendHeader {off : ℕ} (h : off < 65536) (rest : Bytes) :
    parseHeader (appendHeader [] off ++ rest) = .ok ⟨off⟩ := by
  have hfield : be16 (appendHeader [] off ++ rest) 2 = off := be16_of_lt h
  unfold parseHeader
  rw [if_neg (by simp [appendHeader, headerLen, putBE16]), if_neg (by simp [appendHeader]), hfield]

@[simp] lemma length_appendHeader (off : ℕ) : (appendHeader [] off).length = 4 := rfl

lemma drop_appendHeader (off : ℕ) (rest : Bytes) :
    (appendHeader [] off ++ rest).drop headerLen = rest := rfl

/-! ## One payload, receiver side -/

/-- A payload that starts on a block boundary. -/
lemma feed_boundary (r : Reassembler) (rest : Bytes) :
    r.feed (appendHeader [] 0 ++ rest) = feedBlocks rest.length rest none [] := by
  simp [Reassembler.feed, parseHeader_appendHeader, drop_appendHeader]

/-- A payload that starts within a block: without its start the rest of the block is skipped, and a
block that is held goes on. -/
lemma feed_continue {cont : Bytes} (hc : cont ≠ []) (hlt : cont.length < 65536)
    (part : Option Bytes)
    (rest : Bytes) : Reassembler.feed ⟨part⟩ (appendHeader [] cont.length ++ cont ++ rest) =
      match part with
      | none => feedBlocks (cont ++ rest).length rest none []
      | some held =>
        match takeComplete (held ++ cont) with
        | none => ⟨⟨some (held ++ cont)⟩, [], none⟩
        | some pkt => feedBlocks (cont ++ rest).length rest none [pkt] := by
  have hpos := length_pos_of_ne_nil hc
  simp only [Reassembler.feed, append_assoc, parseHeader_appendHeader hlt,
    drop_appendHeader, take_left, drop_left]
  exact (if_neg (by rw [length_append]; omega)).trans (if_pos hpos)

/-! ## The packet in flight -/

/-- The packet in flight, if any: its head is held by the receiver, its tail is pending at the
sender. -/
inductive InFlight : Option Bytes → Bytes → List Bytes → Prop
  | idle : InFlight none [] []
  | split {head tail : Bytes} (hh : head ≠ []) (ht : tail ≠ []) :
      InFlight (some head) tail [head ++ tail]

lemma length_le_length_flatten {ws : List Bytes} (h : ∀ p ∈ ws, WellFormed p) :
    ws.length ≤ ws.flatten.length := by
  induction ws with
  | nil => simp
  | cons p ws ih =>
    have h20 := (h p (by simp)).twenty_le
    have := ih fun q hq => h q (mem_cons_of_mem p hq)
    rw [length_cons, flatten_cons, length_append]
    omega

variable {pkts : List Bytes}

/-- **The blocks of one payload.**  What `Pack` writes after the continuation is read as whole
packets off the queue and at most one head, whose tail is what stays pending. -/
lemma feedBlocks_blocks (h : ∀ p ∈ pkts, WellFormed p) (room : ℕ) :
    ∃ part ws cur, InFlight part (fillBlocks pkts room).pending cur ∧
      pkts = ws ++ cur ++ (fillBlocks pkts room).remaining ∧ ∀ fuel out, room ≤ fuel →
        feedBlocks fuel (blocks pkts room) none out = ⟨⟨part⟩, out ++ ws, none⟩ := by
  unfold blocks
  generalize hf : fillBlocks pkts room = f
  obtain ⟨ws, hlen, hws⟩ := fillBlocks_spec hf
  have hpkts : ws ⊆ pkts := by
    rcases hws with ⟨hq, -⟩ | ⟨head, -, -, hq, -⟩ <;> simp [hq]
  have hwf : ∀ p ∈ ws, WellFormed p := fun p hp => h p (hpkts hp)
  have hle := length_le_length_flatten hwf
  rcases hws with ⟨hq, hd, hp, -⟩ | ⟨head, hh, ht, hq, hd, hr⟩
  · refine ⟨none, ws, [], by rw [hp]; exact .idle, by simpa using hq, fun fuel out hfuel => ?_⟩
    rw [hd] at hlen
    obtain ⟨k, rfl⟩ : ∃ k, fuel = ws.length + k := ⟨fuel - ws.length, by omega⟩
    rw [hd, feedBlocks_flatten hwf, feedBlocks_zeros]
  · refine ⟨some head, ws, _, .split hh ht, by simpa using hq, fun fuel out hfuel => ?_⟩
    have hpkt : WellFormed (head ++ f.pending) := h _ (by rw [hq]; simp)
    have hpos := length_pos_of_ne_nil hh
    rw [hd, length_append] at hlen
    obtain ⟨k, rfl⟩ : ∃ k, fuel = ws.length + k := ⟨fuel - ws.length, by omega⟩
    rw [hd, hr, replicate_zero, append_nil, feedBlocks_flatten hwf,
      feedBlocks_head hpkt rfl hh ht (by omega)]

/-- **The step.**  One `Pack` call followed by `Feed` of its payload: the receiver returns the
next whole packets of the stream, without error, and the packet then in flight is shared by the
two sides as before. -/
theorem feed_pack {r : Reassembler} {cur : List Bytes} (hin : InFlight r.part p.pending cur)
    (hcur : ∀ q ∈ cur, WellFormed q) (hpkts : ∀ q ∈ pkts, WellFormed q) (h5 : 5 ≤ size)
    (hmax : size ≤ 65539) :
    ∃ part ws cur', r.feed (p.pack pkts size).payload = ⟨⟨part⟩, ws, none⟩ ∧
      InFlight part (p.pack pkts size).packer.pending cur' ∧
      cur ++ pkts = ws ++ cur' ++ (p.pack pkts size).remaining := by
  obtain ⟨part⟩ := r
  obtain ⟨pending⟩ := p
  simp only at hin
  cases hin with
  | idle =>
    have hfit : (⟨[]⟩ : Packer).pending.length ≤ size - 4 := Nat.zero_le _
    rw [pack_fits h5 hfit]
    simp only [length_nil, append_nil, feed_boundary]
    obtain ⟨part, ws, cur', hin', hq, hfeed⟩ := feedBlocks_blocks hpkts (size - 4 - 0)
    exact ⟨part, ws, cur', hfeed _ [] (length_blocks ..).ge, hin', by simpa using hq⟩
  | @split head _ hh ht =>
    have hpkt : WellFormed (head ++ pending) := hcur _ (by simp)
    have hpos := length_pos_of_ne_nil ht
    by_cases hlong : size - 4 < pending.length
    · -- the tail fills the payload: it grows the held head and nothing completes
      have hlen : (pending.take (size - 4)).length = size - 4 := by rw [length_take]; omega
      have hc : pending.take (size - 4) ≠ [] := by
        rw [← length_pos_iff, hlen]; omega
      have hrest : pending.drop (size - 4) ≠ [] := by
        rw [← length_pos_iff, length_drop]; omega
      have hcat : head ++ pending =
          (head ++ pending.take (size - 4)) ++ pending.drop (size - 4) := by
        rw [append_assoc, take_append_drop]
      have hne : head ++ pending.take (size - 4) ≠ [] := by simp [hh]
      rw [pack_long h5 hlong]
      refine ⟨some (head ++ pending.take (size - 4)), [], _, ?_, InFlight.split hne hrest, ?_⟩
      · have := feed_continue hc (by omega) (some head) []
        simp only [takeComplete_short hpkt hcat hne hrest] at this
        rwa [hlen, append_nil] at this
      · simp only [← hcat, nil_append]
    · -- the tail ends in this payload: the held packet completes and new blocks follow
      have hfit : (⟨pending⟩ : Packer).pending.length ≤ size - 4 := by
        show pending.length ≤ size - 4
        omega
      have hdone : takeComplete (head ++ pending) = some (head ++ pending) := by
        simpa using takeComplete_append hpkt []
      rw [pack_fits h5 hfit]
      simp only [feed_continue ht (show pending.length < 65536 by omega), hdone]
      obtain ⟨part, ws, cur', hin', hq, hfeed⟩ :=
        feedBlocks_blocks hpkts (size - 4 - pending.length)
      refine ⟨part, _, cur', hfeed _ _ ?_, hin', by simpa using hq⟩
      rw [length_append, length_blocks]
      omega

/-! ## Whole transfers -/

/-- What a series of `Pack` calls leaves. -/
structure Sent where
  payloads : List Bytes
  packer : Packer
  remaining : List Bytes
  deriving DecidableEq, Repr

/-- Successive `Pack` calls with the given sizes; the packets not consumed and the pending tail are
carried from call to call. -/
def packAll (p : Packer) (pkts : List Bytes) : List ℕ → Sent
  | [] => ⟨[], p, pkts⟩
  | size :: sizes =>
    let k := p.pack pkts size
    let rest := packAll k.packer k.remaining sizes
    { rest with payloads := k.payload :: rest.payloads }

/-- What a series of `Feed` calls leaves: the packets returned and the errors. -/
structure Received where
  reasm : Reassembler
  out : List Bytes
  errs : List FeedError
  deriving DecidableEq, Repr

/-- Successive `Feed` calls. -/
def feedAll (r : Reassembler) : List Bytes → Received
  | [] => ⟨r, [], []⟩
  | payload :: payloads =>
    let f := r.feed payload
    let rest := feedAll f.reasm payloads
    { rest with out := f.out ++ rest.out, errs := f.err.toList ++ rest.errs }

/-- The octets of a list of packets. -/
def octets (pkts : List Bytes) : ℕ := (pkts.map List.length).sum

@[simp] lemma octets_nil : octets [] = 0 := rfl

@[simp] lemma octets_cons (p : Bytes) (pkts : List Bytes) :
    octets (p :: pkts) = p.length + octets pkts := rfl

@[simp] lemma octets_append (ps qs : List Bytes) : octets (ps ++ qs) = octets ps + octets qs := by
  simp [octets]

lemma octets_flatten (pkts : List Bytes) : pkts.flatten.length = octets pkts := by
  simp [octets, length_flatten]

/-- At octet `pos` of the stream, the octets still to come of the packet `pos` is inside of; 0 on
a packet boundary and past the end. -/
def continuation : List Bytes → ℕ → ℕ
  | [], _ => 0
  | p :: pkts, pos =>
    if pos < p.length then if pos = 0 then 0 else p.length - pos
    else continuation pkts (pos - p.length)

/-- The leading continuation octets of the payloads that carry the stream from `pos` on. -/
def blockOffsets (pkts : List Bytes) : ℕ → List ℕ → List ℕ
  | _, [] => []
  | pos, size :: sizes =>
    min (continuation pkts pos) (size - headerLen) ::
      blockOffsets pkts (pos + (size - headerLen)) sizes

lemma continuation_append (ps qs : List Bytes) (k : ℕ) :
    continuation (ps ++ qs) (octets ps + k) = continuation qs k := by
  induction ps with
  | nil => simp
  | cons p ps ih =>
    have hpos : octets (p :: ps) + k - p.length = octets ps + k := by
      rw [octets_cons]; omega
    rw [cons_append, continuation, if_neg (by rw [octets_cons]; omega), hpos, ih]

lemma continuation_end {pos : ℕ} (h : octets pkts ≤ pos) : continuation pkts pos = 0 := by
  have := continuation_append pkts [] (pos - octets pkts)
  rw [append_nil] at this
  rw [show pos = octets pkts + (pos - octets pkts) by omega, this]
  rfl

lemma continuation_zero (h : ∀ p ∈ pkts, WellFormed p) : continuation pkts 0 = 0 := by
  cases pkts with
  | nil => rfl
  | cons p pkts =>
    have := (h p (by simp)).twenty_le
    rw [continuation, if_pos (by omega), if_pos rfl]

/-- **The octet count.**  A payload carries as much of what the sender still has as it has room
for. -/
lemma pack_octets (p : Packer) (pkts : List Bytes) (h5 : 5 ≤ size) :
    (p.pack pkts size).packer.pending.length + octets (p.pack pkts size).remaining =
      p.pending.length + octets pkts - (size - 4) := by
  by_cases hlong : size - 4 < p.pending.length
  · rw [pack_long h5 hlong]
    simp only [length_drop]
    omega
  rw [pack_fits h5 (by omega)]
  generalize hf : fillBlocks pkts (size - 4 - p.pending.length) = f
  obtain ⟨ws, hlen, hws⟩ := fillBlocks_spec hf
  simp only
  rcases hws with ⟨hq, hd, hp, hr⟩ | ⟨head, -, -, hq, hd, hr⟩
  · rw [hd, octets_flatten] at hlen
    rw [hq, octets_append, hp, length_nil]
    rcases hr with hr | hr
    · simp only [hr, octets_nil] at hlen ⊢
      omega
    · omega
  · rw [hd, length_append, octets_flatten] at hlen
    rw [hq, octets_append, octets_cons, length_append]
    omega

/-- Every payload has the size asked for. -/
lemma length_payload (p : Packer) (pkts : List Bytes) (h5 : 5 ≤ size) :
    (p.pack pkts size).payload.length = size := by
  by_cases hlong : size - 4 < p.pending.length
  · rw [pack_long h5 hlong]
    simp only [length_append, length_appendHeader, length_take]
    omega
  · rw [pack_fits h5 (by omega)]
    simp only [length_append, length_appendHeader, length_blocks]
    omega

/-- The header of every payload names the pending octets that lead it. -/
lemma parseHeader_payload (p : Packer) (pkts : List Bytes) (h5 : 5 ≤ size) (hmax : size ≤ 65539) :
    parseHeader (p.pack pkts size).payload = .ok ⟨min p.pending.length (size - headerLen)⟩ := by
  by_cases hlong : size - 4 < p.pending.length
  · rw [pack_long h5 hlong, parseHeader_appendHeader (by omega)]
    congr 2
    simp only [headerLen]
    omega
  · rw [pack_fits h5 (by omega), append_assoc, parseHeader_appendHeader (by omega)]
    congr 2
    simp only [headerLen]
    omega

/-- The room of a series of payloads. -/
def roomOf (sizes : List ℕ) : ℕ := (sizes.map (· - headerLen)).sum

@[simp] lemma roomOf_cons (size : ℕ) (sizes : List ℕ) :
    roomOf (size :: sizes) = size - headerLen + roomOf sizes := by
  simp [roomOf]

/-- The sizes a payload may have: one octet of data at least, and a BlockOffset that fits its
field. -/
def SizesOK (sizes : List ℕ) : Prop := ∀ n ∈ sizes, 5 ≤ n ∧ n ≤ 65539

variable {sizes : List ℕ}

lemma SizesOK.head {n : ℕ} (h : SizesOK (n :: sizes)) : 5 ≤ n ∧ n ≤ 65539 :=
  h n (by simp)

lemma SizesOK.tail {n : ℕ} (h : SizesOK (n :: sizes)) : SizesOK sizes :=
  fun m hm => h m (mem_cons_of_mem n hm)

/-- The packets of a step are those before it, so what was well-formed stays so. -/
lemma wellFormed_after {cur ws cur' rem : List Bytes} (h : cur ++ pkts = ws ++ cur' ++ rem)
    (hcur : ∀ q ∈ cur, WellFormed q) (hpkts : ∀ q ∈ pkts, WellFormed q) :
    (∀ q ∈ cur', WellFormed q) ∧ ∀ q ∈ rem, WellFormed q := by
  have hall : ∀ q ∈ ws ++ cur' ++ rem, WellFormed q := by
    intro q hq
    rw [← h] at hq
    rcases mem_append.mp hq with hq | hq
    · exact hcur q hq
    · exact hpkts q hq
  exact ⟨fun q hq => hall q (by simp [hq]), fun q hq => hall q (by simp [hq])⟩

/-- Where the sender stands: the stream position that matches the octets left is inside the packet
in flight, at its pending tail. -/
lemma continuation_eq_pending {all done cur : List Bytes} {part : Option Bytes} {pending : Bytes}
    {pos : ℕ} (hin : InFlight part pending cur) (hpkts : ∀ q ∈ pkts, WellFormed q)
    (hall : all = done ++ cur ++ pkts) (hpos : octets all - pos = pending.length + octets pkts) :
    continuation all pos = pending.length := by
  cases hin with
  | idle =>
    simp only [hall, append_nil, octets_append, length_nil] at hpos ⊢
    by_cases hend : octets pkts = 0
    · exact continuation_end (by rw [octets_append]; omega)
    · rw [show pos = octets done + 0 by omega, continuation_append, continuation_zero hpkts]
  | @split head _ hh ht =>
    have h1 := length_pos_of_ne_nil hh
    have h2 := length_pos_of_ne_nil ht
    simp only [hall, octets_append, octets_cons, octets_nil, length_append] at hpos
    rw [hall, append_assoc, show pos = octets done + head.length by omega, continuation_append,
      cons_append, continuation, length_append, if_pos (by omega), if_neg (by omega)]
    omega

/-- **A transfer.**  The receiver's output, the packet in flight and what the sender still has are
the packets there were, in order; no `Feed` fails; and the octets left are those the payloads had
no room for.  Each payload has its size, and its header names the leading continuation octets at its
place in the packet stream. -/
lemma feedAll_packAll : ∀ {p : Packer} {r : Reassembler} {cur pkts : List Bytes},
      InFlight r.part p.pending cur → (∀ q ∈ cur, WellFormed q) → (∀ q ∈ pkts, WellFormed q) →
      SizesOK sizes → (packAll p pkts sizes).payloads.map List.length = sizes ∧
        (∀ all done pos, all = done ++ cur ++ pkts →
          octets all - pos = p.pending.length + octets pkts →
          (packAll p pkts sizes).payloads.map parseHeader =
            (blockOffsets all pos sizes).map fun off => .ok ⟨off⟩) ∧
        ∃ cur', InFlight (feedAll r (packAll p pkts sizes).payloads).reasm.part
            (packAll p pkts sizes).packer.pending cur' ∧
          (feedAll r (packAll p pkts sizes).payloads).errs = [] ∧
          cur ++ pkts = (feedAll r (packAll p pkts sizes).payloads).out ++ cur' ++
            (packAll p pkts sizes).remaining ∧
          (packAll p pkts sizes).packer.pending.length + octets (packAll p pkts sizes).remaining =
            p.pending.length + octets pkts - roomOf sizes := by
  induction sizes with
  | nil =>
    intro p r cur pkts hin _ _ _
    exact ⟨rfl, fun _ _ _ _ _ => rfl, cur, hin, rfl, rfl, rfl⟩
  | cons size sizes ih =>
    intro p r cur pkts hin hcur hpkts hsz
    obtain ⟨part, ws, cur₁, hfeed, hin₁, hq₁⟩ :=
      feed_pack hin hcur hpkts hsz.head.1 hsz.head.2
    have hoct := pack_octets p pkts hsz.head.1
    obtain ⟨hcur₁, hrem₁⟩ := wellFormed_after hq₁ hcur hpkts
    obtain ⟨hlen, hoffs, cur', hin', herr, hq, hleft⟩ := ih (r := ⟨part⟩) hin₁ hcur₁ hrem₁ hsz.tail
    refine ⟨?_, fun all done pos hall hpos => ?_, cur', ?_, ?_, ?_, ?_⟩
    · simp only [packAll, map_cons, length_payload p pkts hsz.head.1, hlen]
    · have hrest := hoffs all (done ++ ws) (pos + (size - headerLen))
        (by rw [hall, append_assoc, hq₁]; simp only [append_assoc])
        (by simp only [headerLen]; omega)
      have hhead := parseHeader_payload p pkts hsz.head.1 hsz.head.2
      rw [← continuation_eq_pending hin hpkts hall hpos] at hhead
      simp only [packAll, blockOffsets, map_cons, hhead, hrest]
    · simpa only [packAll, feedAll, hfeed] using hin'
    · simpa [packAll, feedAll, hfeed] using herr
    · simp only [packAll, feedAll, hfeed, append_assoc] at hq ⊢
      rw [hq₁, append_assoc, hq]
    · simp only [packAll, roomOf_cons, headerLen]
      omega

/-- **AGGFRAG round trip.**  A series of payloads with room for all octets of the packets drains
the sender; the receiver returns exactly the packets, in order, with no error and nothing held;
and each payload has the requested size and names its leading continuation octets. -/
theorem aggfrag_roundtrip (pkts : List Bytes) (sizes : List ℕ)
    (hpkts : ∀ q ∈ pkts, WellFormed q) (hsz : SizesOK sizes) (hroom : octets pkts ≤ roomOf sizes) :
    (packAll {} pkts sizes).remaining = [] ∧ (packAll {} pkts sizes).packer.pending = [] ∧
      feedAll {} (packAll {} pkts sizes).payloads = ⟨{}, pkts, []⟩ ∧
      (packAll {} pkts sizes).payloads.map List.length = sizes ∧
      (packAll {} pkts sizes).payloads.map parseHeader =
        (blockOffsets pkts 0 sizes).map fun off => .ok ⟨off⟩ := by
  have hidle : InFlight ({} : Reassembler).part ({} : Packer).pending [] := InFlight.idle
  have hnone : ∀ q ∈ ([] : List Bytes), WellFormed q := fun q hq => absurd hq (by simp)
  obtain ⟨hlen, hoffs, cur, hin, herr, hq, hleft⟩ := feedAll_packAll hidle hnone hpkts hsz
  have hzero : (packAll {} pkts sizes).packer.pending.length +
      octets (packAll {} pkts sizes).remaining = 0 := by
    rw [hleft]
    simp only [length_nil]
    omega
  have hrem : (packAll {} pkts sizes).remaining = [] := by
    rcases hr : (packAll {} pkts sizes).remaining with _ | ⟨q, rest⟩
    · rfl
    -- a packet still queued would have at least twenty octets
    have h20 := (hpkts q (by
      have : q ∈ [] ++ pkts := by rw [hq, hr]; simp
      simpa using this)).twenty_le
    rw [hr, octets_cons] at hzero
    omega
  have hpend : (packAll {} pkts sizes).packer.pending = [] :=
    eq_nil_of_length_eq_zero (by omega)
  rw [hpend] at hin
  generalize hrec : feedAll {} (packAll {} pkts sizes).payloads = rec at *
  obtain ⟨⟨part⟩, out, errs⟩ := rec
  simp only at hin hq herr
  cases hin with
  | split hh ht => exact absurd rfl ht
  | idle =>
    refine ⟨hrem, hpend, ?_, hlen, hoffs pkts [] 0 (by simp) (by simp)⟩
    rw [hrem] at hq
    simp only [nil_append, append_nil] at hq
    rw [hq, herr]

/-- A twenty-octet IPv4 packet split inside its header, before its length can be read. -/
theorem aggfrag_roundtrip_split :
    octets [[0x45, 0, 0, 20] ++ List.replicate 16 7] ≤ roomOf [6, 30] ∧
      feedAll {} (packAll {} [[0x45, 0, 0, 20] ++ List.replicate 16 7] [6, 30]).payloads =
        ⟨{}, [[0x45, 0, 0, 20] ++ List.replicate 16 7], []⟩ :=
  ⟨by decide, (aggfrag_roundtrip [[0x45, 0, 0, 20] ++ replicate 16 7] [6, 30] (by decide)
    (by unfold SizesOK; decide) (by decide)).2.2.1⟩

end Veepin.Aggfrag
