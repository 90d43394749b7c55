import Veepin.Core.Runs
import Veepin.IKEv2.Aggfrag.RoundTrip

/-!
# AGGFRAG under loss

The sender packs, each payload is delivered or lost, the receiver is fed the ones that arrive.
The receiver keeps the head of a split packet until a payload says otherwise.  A payload on a
block boundary drops the head; a payload that starts with a continuation is taken to continue it,
although the payloads between may be lost and the continuation may be of another packet
(`splice_fabricates`).

That is the only way a packet is made up (`no_fabrication`).  The invariant `LossInv` says what the
receiver's head is worth: after a delivery it is the head of the packet in flight, after a loss
nothing is said about it.
-/

namespace Veepin.Aggfrag

open List

/-- A sender and a receiver with a lossy channel between them.  `gap` says that the last payload
was lost; `packed` collects the packets handed to the sender, `out` those the receiver returned. -/
structure Lossy where
  packer : Packer := {}
  ready : List Bytes := []
  reasm : Reassembler := {}
  gap : Bool := false
  packed : List Bytes := []
  out : List Bytes := []

/-- One `Pack` call: the packets that arrived since the last one, the payload size, and whether
the payload gets through. -/
structure Send where
  arrived : List Bytes
  size : ℕ
  delivered : Bool

/-- The `Pack` call of a step. -/
def Lossy.pack (s : Lossy) (i : Send) : Packed := s.packer.pack (s.ready ++ i.arrived) i.size

/-- One payload: packed, and fed to the receiver unless it is lost. -/
def Lossy.step (s : Lossy) (i : Send) : Lossy :=
  let k := s.pack i
  let f := s.reasm.feed k.payload
  { packer := k.packer
    ready := k.remaining
    reasm := if i.delivered then f.reasm else s.reasm
    gap := !i.delivered
    packed := s.packed ++ i.arrived
    out := if i.delivered then s.out ++ f.out else s.out }

/-- What a step may offer: well-formed packets and a payload size that fits. -/
def Send.OK (i : Send) : Prop := (∀ p ∈ i.arrived, WellFormed p) ∧ 5 ≤ i.size ∧ i.size ≤ 65539

instance (i : Send) : Decidable i.OK := inferInstanceAs (Decidable (_ ∧ _))

/-- Every packet returned so far is one of the packets packed. -/
def Genuine (s : Lossy) : Prop := ∀ p ∈ s.out, p ∈ s.packed

instance (s : Lossy) : Decidable (Genuine s) := inferInstanceAs (Decidable (∀ p ∈ s.out, _))

/-- The step feeds no continuation to a head that is held across a gap. -/
def NoSplice (s : Lossy) (i : Send) : Prop :=
  i.delivered = true → s.gap = true → s.reasm.part ≠ none → s.packer.pending = []

instance (s : Lossy) (i : Send) : Decidable (NoSplice s i) := inferInstanceAs (Decidable (_ → _))

/-! ## What is in flight when payloads get lost -/

/-- The pending octets are a proper tail of a packet of `all`, or there are none. -/
def TailOf (pending : Bytes) (all : List Bytes) : Prop :=
  pending = [] ∨ ∃ head, head ≠ [] ∧ head ++ pending ∈ all

/-- The held octets are the head of a packet of `all` whose tail is pending. -/
def HeadOf (part : Option Bytes) (pending : Bytes) (all : List Bytes) : Prop :=
  ∀ head, part = some head → head ≠ [] ∧ pending ≠ [] ∧ head ++ pending ∈ all

variable {part : Option Bytes} {pending : Bytes}

section

variable {cur all : List Bytes} (h : InFlight part pending cur) (hall : ∀ p ∈ cur, p ∈ all)

include h hall

lemma InFlight.tailOf : TailOf pending all := by
  cases h with
  | idle => exact Or.inl rfl
  | @split head _ hh ht => exact Or.inr ⟨head, hh, hall _ (by simp)⟩

lemma InFlight.headOf : HeadOf part pending all := by
  cases h with
  | idle => intro head hp; exact absurd hp (by simp)
  | @split head _ hh ht =>
    intro head' hp
    obtain rfl := Option.some.inj hp
    exact ⟨hh, ht, hall _ (by simp)⟩

end

/-- What one delivered payload does: the receiver returns packets of `all`, and what it then holds
is the head of the packet in flight. -/
structure FedFrom (f : Fed) (k : Packed) (all : List Bytes) : Prop where
  out : ∀ p ∈ f.out, p ∈ all
  head : HeadOf f.reasm.part k.packer.pending all
  tail : TailOf k.packer.pending all
  rest : ∀ p ∈ k.remaining, p ∈ all

variable {p : Packer} {size : ℕ} {r : Reassembler} {pkts all : List Bytes}

section

variable (hall : ∀ q ∈ all, WellFormed q) (hpkts : ∀ q ∈ pkts, q ∈ all) (h5 : 5 ≤ size)
  (hmax : size ≤ 65539)

include hall hpkts h5 hmax

/-- Sender and receiver agree on the packet in flight. -/
lemma fedFrom_inFlight {cur : List Bytes} (hin : InFlight r.part p.pending cur)
    (hcur : ∀ q ∈ cur, q ∈ all) :
    FedFrom (r.feed (p.pack pkts size).payload) (p.pack pkts size) all := by
  obtain ⟨part, ws, cur', hfeed, hin', hq⟩ := feed_pack hin (fun q hq => hall q (hcur q hq))
    (fun q hq => hall q (hpkts q hq)) h5 hmax
  have hmem : ∀ q ∈ ws ++ cur' ++ (p.pack pkts size).remaining, q ∈ all := by
    rw [← hq]
    intro q hq
    rcases mem_append.mp hq with hq | hq
    · exact hcur q hq
    · exact hpkts q hq
  have hcur' : ∀ q ∈ cur', q ∈ all := fun q hq => hmem q (by simp [hq])
  rw [hfeed]
  exact ⟨fun q hq => hmem q (by simp [hq]), hin'.headOf hcur', hin'.tailOf hcur',
    fun q hq => hmem q (by simp [hq])⟩

/-- The receiver holds nothing: a continuation is skipped. -/
lemma fedFrom_skip (hp : p.pending ≠ []) (htail : TailOf p.pending all) :
    FedFrom (Reassembler.feed ⟨none⟩ (p.pack pkts size).payload) (p.pack pkts size) all := by
  have hpos := length_pos_of_ne_nil hp
  by_cases hlong : size - 4 < p.pending.length
  · have hlen : (p.pending.take (size - 4)).length = size - 4 := by rw [length_take]; omega
    have hc : p.pending.take (size - 4) ≠ [] := by rw [← length_pos_iff, hlen]; omega
    have hskip := feed_continue hc (by omega) none []
    rw [hlen, append_nil] at hskip
    have hnil : ∀ fuel, feedBlocks fuel [] none [] = ⟨⟨none⟩, [], none⟩ := fun fuel =>
      feedBlocks_zeros fuel 0 none []
    rw [pack_long h5 hlong, hskip, hnil]
    refine ⟨fun q hq => absurd hq (by simp), fun head hh => absurd hh (by simp), Or.inr ?_, hpkts⟩
    obtain hnil | ⟨head, hh, hmem⟩ := htail
    · exact absurd hnil hp
    · refine ⟨head ++ p.pending.take (size - 4), by simp [hh], ?_⟩
      rwa [append_assoc, take_append_drop]
  · rw [pack_fits h5 (by omega), feed_continue hp (by omega)]
    have hwf : ∀ q ∈ pkts, WellFormed q := fun q hq => hall q (hpkts q hq)
    obtain ⟨part, ws, cur, hin, hq, hfeed⟩ := feedBlocks_blocks hwf (size - 4 - p.pending.length)
    rw [hfeed _ _ (by rw [length_append, length_blocks]; omega)]
    have hmem : ∀ q ∈ ws ++ cur ++ (fillBlocks pkts (size - 4 - p.pending.length)).remaining,
        q ∈ all := by rw [← hq]; exact hpkts
    have hcur : ∀ q ∈ cur, q ∈ all := fun q hq => hmem q (by simp [hq])
    exact ⟨fun q hq => hmem q (by simpa using Or.inl hq), hin.headOf hcur, hin.tailOf hcur,
      fun q hq => hmem q (by simp [hq])⟩

omit hall hpkts hmax in
/-- A payload on a block boundary is read the same whatever is held. -/
lemma feed_boundary_eq (hp : p.pending = []) (r : Reassembler) (pkts : List Bytes) :
    r.feed (p.pack pkts size).payload = Reassembler.feed ⟨none⟩ (p.pack pkts size).payload := by
  rw [pack_fits h5 (by rw [hp]; exact Nat.zero_le _), hp]
  simp only [length_nil, append_nil, feed_boundary]

/-- **One delivered payload.**  The receiver's head, if it holds one, is that of the packet in
flight, or the payload starts on a block boundary; then everything returned is genuine. -/
lemma fedFrom_pack (htail : TailOf p.pending all)
    (hhead : p.pending = [] ∨ HeadOf r.part p.pending all) :
    FedFrom (r.feed (p.pack pkts size).payload) (p.pack pkts size) all := by
  by_cases hp : p.pending = []
  · rw [feed_boundary_eq h5 hp r pkts]
    have hidle : InFlight (⟨none⟩ : Reassembler).part p.pending [] := by
      rw [hp]; exact InFlight.idle
    exact fedFrom_inFlight hall hpkts h5 hmax hidle (fun q hq => absurd hq (by simp))
  obtain ⟨part⟩ := r
  cases part with
  | none => exact fedFrom_skip hall hpkts h5 hmax hp htail
  | some head =>
    obtain ⟨hh, ht, hmem⟩ := (hhead.resolve_left hp) head rfl
    exact fedFrom_inFlight hall hpkts h5 hmax (InFlight.split hh ht)
      (fun q hq => by rw [mem_singleton.mp hq]; exact hmem)

end

/-! ## Whole runs -/

/-- What holds between two payloads.  After a gap nothing is known about the held octets. -/
structure LossInv (s : Lossy) : Prop where
  wf : ∀ p ∈ s.packed, WellFormed p
  ready : ∀ p ∈ s.ready, p ∈ s.packed
  tail : TailOf s.packer.pending s.packed
  head : s.gap = false → HeadOf s.reasm.part s.packer.pending s.packed
  out : Genuine s

lemma TailOf.mono {all' : List Bytes} (h : TailOf pending all) (hle : ∀ p ∈ all, p ∈ all') :
    TailOf pending all' :=
  h.imp_right fun ⟨head, hh, hmem⟩ => ⟨head, hh, hle _ hmem⟩

lemma HeadOf.mono {all' : List Bytes} (h : HeadOf part pending all) (hle : ∀ p ∈ all, p ∈ all') :
    HeadOf part pending all' :=
  fun head hp => ⟨(h head hp).1, (h head hp).2.1, hle _ (h head hp).2.2⟩

lemma lossInv_step (s : Lossy) (i : Send) (hs : LossInv s) (hi : i.OK ∧ NoSplice s i) :
    LossInv (s.step i) := by
  obtain ⟨⟨harr, h5, hmax⟩, hsplice⟩ := hi
  have hle : ∀ p ∈ s.packed, p ∈ s.packed ++ i.arrived := fun p hp => by simp [hp]
  have hwf : ∀ p ∈ s.packed ++ i.arrived, WellFormed p := by
    intro p hp
    rcases mem_append.mp hp with hp | hp
    · exact hs.wf p hp
    · exact harr p hp
  have hpkts : ∀ p ∈ s.ready ++ i.arrived, p ∈ s.packed ++ i.arrived := by
    intro p hp
    rcases mem_append.mp hp with hp | hp
    · exact hle p (hs.ready p hp)
    · simp [hp]
  have htail := hs.tail.mono hle
  -- the sender's side of a step is the same whether or not the payload arrives
  have hsend : FedFrom (Reassembler.feed ⟨none⟩ (s.pack i).payload) (s.pack i)
      (s.packed ++ i.arrived) :=
    fedFrom_pack hwf hpkts h5 hmax htail (Or.inr fun head hh => absurd hh (by simp))
  cases hd : i.delivered with
  | false =>
    refine ⟨hwf, hsend.rest, hsend.tail, ?_, ?_⟩
    · intro hgap
      simp [Lossy.step, hd] at hgap
    · intro p hp
      simp only [Lossy.step, hd, Bool.false_eq_true, if_false] at hp
      exact hle p (hs.out p hp)
  | true =>
    have hhead : s.packer.pending = [] ∨
        HeadOf s.reasm.part s.packer.pending (s.packed ++ i.arrived) := by
      cases hg : s.gap with
      | false => exact Or.inr ((hs.head hg).mono hle)
      | true =>
        by_cases hpart : s.reasm.part = none
        · exact Or.inr fun head hh => absurd hh (by simp [hpart])
        · exact Or.inl (hsplice hd hg hpart)
    have hfed : FedFrom (s.reasm.feed (s.pack i).payload) (s.pack i) (s.packed ++ i.arrived) :=
      fedFrom_pack hwf hpkts h5 hmax htail hhead
    refine ⟨hwf, hfed.rest, hfed.tail, ?_, ?_⟩
    · intro _
      simpa only [Lossy.step, hd, if_true] using hfed.head
    · intro p hp
      simp only [Lossy.step, hd, if_true] at hp
      rcases mem_append.mp hp with hp | hp
      · exact hle p (hs.out p hp)
      · exact hfed.out p hp

/-- **No packet is made up.**  In every run over well-formed packets in which no continuation is
fed to a head held across a gap, all packets returned, at every point of the run, are packets that
were packed. -/
theorem no_fabrication (is : List Send)
    (h : Along Lossy.step (fun s i => i.OK ∧ NoSplice s i) {} is) :
    Always Lossy.step Genuine {} is := by
  refine always_of_inv LossInv lossInv_step (fun s hs => hs.out) {} is ?_ h
  exact ⟨by simp, by simp, Or.inl rfl, fun _ head hh => absurd hh (by simp), by simp [Genuine]⟩

/-- A packet of twenty octets, after one of twenty-four whose end is lost. -/
def boundaryRun : List Send :=
  [⟨[[0x45, 0, 0, 24] ++ List.replicate 20 1], 24, true⟩, ⟨[], 24, false⟩,
    ⟨[[0x45, 0, 0, 20] ++ List.replicate 16 2], 24, true⟩]

/-- The payload after the loss starts on a block boundary, and the second packet comes back. -/
theorem no_fabrication_delivered :
    (run Lossy.step {} boundaryRun).out = [[0x45, 0, 0, 20] ++ List.replicate 16 2] ∧
      Always Lossy.step Genuine {} boundaryRun :=
  ⟨by decide, no_fabrication boundaryRun (by decide)⟩

/-- Two packets of twenty-four octets in payloads with room for twenty; the second is lost. -/
def spliceRun : List Send :=
  [⟨[[0x45, 0, 0, 24] ++ List.replicate 20 1, [0x45, 0, 0, 24] ++ List.replicate 20 2], 24, true⟩,
    ⟨[], 24, false⟩, ⟨[], 24, true⟩]

/-- **A packet is made up.**  The payload with the end of the first packet and the start of the
second is lost; the end of the second is then joined to the start of the first. -/
theorem splice_fabricates :
    (∀ i ∈ spliceRun, i.OK) ∧ ¬ Always Lossy.step Genuine {} spliceRun := by
  decide

end Veepin.Aggfrag
