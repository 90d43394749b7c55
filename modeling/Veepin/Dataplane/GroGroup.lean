import Veepin.Dataplane.Gro

/-!
# What a coalescing group holds

A frame of the TUN carries TCP segments: a packet carries itself, a coalesced frame is cut back at
its segment size (`Frame.segments`).  This file relates a group to the packets it holds, `Holds`,
and says of each operation on a group what it does to them:

* `start_spec` — the group holds the one packet;
* `append_spec` — one packet more, if `canAppend` let it in and the group holds something;
* `flush_spec` — a frame that carries exactly the packets held.

Cutting at the segment size undoes the joining as long as only the last payload is short
(`cut_append`).
-/

namespace Veepin.Gro

open List

/-! ## Segments -/

/-- The length of the IP header. -/
def ihl (p : Bytes) : ℕ := (p.getD 0 0).toNat % 16 * 4

/-- The addresses and ports of an IPv4/TCP packet. -/
def tupleOf (p : Bytes) : Option Bytes :=
  if (p.getD 0 0).toNat / 16 = 4 ∧ 20 ≤ ihl p ∧ p.getD 9 0 = protoTCP ∧ ihl p + 4 ≤ p.length then
    some ((p.drop 12).take 8 ++ (p.drop (ihl p)).take 4)
  else none

/-- The addresses and ports of an IPv4/TCP packet without IP options. -/
def flowOf (p : Bytes) : Option Bytes := if p.getD 0 0 = 0x45 then tupleOf p else none

/-- The sequence number and the payload of a TCP packet. -/
def segmentOf (p : Bytes) : ℕ × Bytes :=
  (be32 p (ihl p + 4), p.drop (ihl p + (p.getD (ihl p + 12) 0).toNat / 16 * 4))

/-- A payload cut into pieces of the segment size, each with its sequence number. -/
def cut (size : ℕ) : ℕ → ℕ → Bytes → List (ℕ × Bytes)
  | 0, _, _ => []
  | fuel + 1, seq, payload =>
    if payload = [] then []
    else (seq, payload.take size) :: cut size fuel ((seq + size) % 2 ^ 32) (payload.drop size)

/-- The octets of a frame. -/
def Frame.data : Frame → Bytes
  | .packet data => data
  | .gso _ data => data

/-- The segments a frame carries; a coalesced frame is cut back at its segment size. -/
def Frame.segments : Frame → List (ℕ × Bytes)
  | .packet data => [segmentOf data]
  | .gso hdr data => cut hdr.gsoSize data.length (be32 data 24) (data.drop hdr.hdrLen)

variable {payload : Bytes}

lemma cut_succ (size fuel seq : ℕ) (h : payload ≠ []) :
    cut size (fuel + 1) seq payload =
      (seq, payload.take size) :: cut size fuel ((seq + size) % 2 ^ 32) (payload.drop size) := by
  rw [cut, if_neg h]

@[simp] lemma cut_nil (size fuel seq : ℕ) : cut size fuel seq [] = [] := by
  cases fuel <;> simp [cut]

variable {size : ℕ} {d : Bytes}

lemma cut_single {fuel seq : ℕ} (hd : d ≠ []) (hle : d.length ≤ size) (hf : 0 < fuel) :
    cut size fuel seq d = [(seq, d)] := by
  obtain ⟨fuel, rfl⟩ := Nat.exists_eq_succ_of_ne_zero (by omega : fuel ≠ 0)
  rw [cut_succ _ _ _ hd, take_of_length_le hle, drop_eq_nil_of_le hle, cut_nil]

/-- Enough fuel is enough. -/
lemma cut_fuel (hs : 0 < size) : ∀ {fuel seq : ℕ} {payload : Bytes}, payload.length ≤ fuel →
      cut size (fuel + 1) seq payload = cut size fuel seq payload
  | 0, seq, payload, h => by
    have : payload = [] := eq_nil_of_length_eq_zero (by omega)
    simp [cut, this]
  | fuel + 1, seq, payload, h => by
    by_cases hp : payload = []
    · simp [cut, hp]
    · have hpos := length_pos_of_ne_nil hp
      rw [cut_succ _ _ _ hp, cut_succ _ _ _ hp, cut_fuel hs (by rw [length_drop]; omega)]

lemma cut_add_fuel (hs : 0 < size) {fuel seq : ℕ} (h : payload.length ≤ fuel)
    (k : ℕ) : cut size (fuel + k) seq payload = cut size fuel seq payload := by
  induction k with
  | zero => rfl
  | succ k ih => rw [← Nat.add_assoc, cut_fuel hs (by omega), ih]

/-- **Cutting undoes joining.**  A piece no longer than the segment size, put behind pieces that
are all full, is cut off again behind them. -/
lemma cut_append (hd : d ≠ []) (hle : d.length ≤ size) :
    ∀ {k fuel seq : ℕ} {payload : Bytes}, payload.length = k * size → k < fuel → seq < 2 ^ 32 →
      cut size fuel seq (payload ++ d) =
        cut size fuel seq payload ++ [((seq + payload.length) % 2 ^ 32, d)]
  | 0, fuel + 1, seq, payload, hlen, hf, hseq => by
    have hnil : payload = [] := eq_nil_of_length_eq_zero (by omega)
    simp only [hnil, nil_append, length_nil, Nat.add_zero]
    rw [cut_single hd hle hf, cut_nil, Nat.mod_eq_of_lt hseq, nil_append]
  | k + 1, fuel + 1, seq, payload, hlen, hk, hseq => by
    have hpos := length_pos_of_ne_nil hd
    have hsize : size ≤ payload.length := by rw [hlen, Nat.succ_mul]; omega
    have hne : payload ≠ [] := by rw [← length_pos_iff]; omega
    have hrest : (payload.drop size).length = k * size := by
      rw [length_drop, hlen, Nat.succ_mul]; omega
    rw [cut_succ _ _ _ (by simp [hne]), cut_succ _ _ _ hne, take_append_of_le_length hsize,
      drop_append_of_le_length hsize,
      cut_append hd hle hrest (by omega) (Nat.mod_lt _ (by norm_num)), length_drop]
    have hsum : ((seq + size) % 2 ^ 32 + (payload.length - size)) % 2 ^ 32 =
        (seq + payload.length) % 2 ^ 32 := by omega
    rw [hsum]
    rfl

/-! ## Octets of a buffer -/

variable {b : Bytes} {i : ℕ} {data c : Bytes} {off n : ℕ}

lemma getD_overwrite_of_lt (h : i < off) (hb : i < b.length) :
    (overwrite b off data).getD i 0 = b.getD i 0 := by
  unfold overwrite
  rw [append_assoc, getD_append _ _ _ _ (by rw [length_take]; omega)]
  simp only [getD_eq_getElem?_getD, getElem?_take, h, if_true]

lemma getD_overwrite_of_ge (h : off + data.length ≤ i)
    (hb : off ≤ b.length) : (overwrite b off data).getD i 0 = b.getD i 0 := by
  unfold overwrite
  have hlen : (b.take off ++ data).length = off + data.length := by
    rw [length_append, length_take]; omega
  rw [getD_append_right _ _ _ _ (by omega), hlen]
  simp only [getD_eq_getElem?_getD, getElem?_drop]
  congr 2
  omega

lemma length_overwrite (h : off + data.length ≤ b.length) :
    (overwrite b off data).length = b.length := by
  unfold overwrite
  rw [length_append, length_append, length_take, length_drop]
  omega

lemma drop_overwrite {k : ℕ} (h : off + data.length ≤ k) (hb : off ≤ b.length) :
    (overwrite b off data).drop k = b.drop k := by
  unfold overwrite
  have hlen : (b.take off ++ data).length = off + data.length := by
    rw [length_append, length_take]; omega
  rw [drop_append, hlen, drop_eq_nil_of_le (by omega), nil_append, drop_drop]
  congr 1
  omega

/-- An octet changed where only octets before `40` are looked at and not after. -/
lemma drop_take_overwrite {k : ℕ} (h : off + data.length ≤ k)
    (hb : off + data.length ≤ b.length) :
    ((overwrite b off data).take n).drop k = (b.take n).drop k := by
  rw [drop_take, drop_take, drop_overwrite h (by omega)]

/-- A slice inside the packet is the octets there. -/
lemma pktSlice_eq {j : ℕ} (hij : i ≤ j) (hj : j ≤ b.length) :
    pktSlice b i j = some ((b.drop i).take (j - i)) := if_pos ⟨hij, hj⟩

lemma getElem?_eq_getD (h : i < b.length) : b[i]? = some (b.getD i 0) := by
  rw [getD_eq_getElem _ _ h, getElem?_eq_getElem h]

/-- Strings that agree octet by octet on a range have the same slice there. -/
lemma slice_congr (hb : i + n ≤ b.length) (hc : i + n ≤ c.length)
    (h : ∀ k, i ≤ k → k < i + n → b.getD k 0 = c.getD k 0) :
    (b.drop i).take n = (c.drop i).take n := by
  apply ext_getElem
  · simp only [length_take, length_drop]
    omega
  intro k hk _
  have hkn : k < n := by
    simp only [length_take, length_drop] at hk
    omega
  have := h (i + k) (by omega) (by omega)
  rw [getD_eq_getElem _ _ (by omega), getD_eq_getElem _ _ (by omega)] at this
  simpa only [getElem_take, getElem_drop] using this

lemma be32_congr (h : ∀ k, i ≤ k → k < i + 4 → b.getD k 0 = c.getD k 0) :
    be32 b i = be32 c i := by
  unfold be32 be16
  rw [h i (by omega) (by omega), h (i + 1) (by omega) (by omega), h (i + 2) (by omega) (by omega),
    h (i + 2 + 1) (by omega) (by omega)]

lemma be32_drop (b : Bytes) (i n : ℕ) (h : 4 ≤ n) : be32 ((b.drop i).take n) 0 = be32 b i := by
  unfold be32 be16
  simp only [getD_eq_getElem?_getD, getElem?_take, getElem?_drop]
  rw [if_pos (by omega), if_pos (by omega), if_pos (by omega), if_pos (by omega)]
  rfl

/-! ## Packets that may be merged -/

/-- The data offset of a TCP header, in words. -/
def dataOffset (p : Bytes) : ℕ := (p.getD 32 0).toNat / 16

/-- What `coalescible` establishes, as far as it matters here. -/
structure Mergeable (p : Bytes) : Prop where
  version : p.getD 0 0 = 0x45
  proto : p.getD 9 0 = protoTCP
  fits : p.length ≤ groMaxLen
  offset : 5 ≤ dataOffset p
  payload : 20 + dataOffset p * 4 < p.length

variable {p : Bytes}

lemma Mergeable.forty (h : Mergeable p) : 40 < p.length := by
  have := h.offset
  have := h.payload
  omega

lemma allTests_spec : ∀ {tests : List (Option Bool)}, (∀ t ∈ tests, ∃ b, t = some b) →
    ∃ b, allTests tests = some b ∧ (b = true → ∀ t ∈ tests, t = some true)
  | [], _ => ⟨true, rfl, fun _ => by simp⟩
  | none :: _, h => absurd (h none (by simp)) (by simp)
  | some false :: _, _ => ⟨false, rfl, nofun⟩
  | some true :: tests, h => by
    obtain ⟨b, hb, hall⟩ := allTests_spec fun t ht => h t (mem_cons_of_mem _ ht)
    exact ⟨b, hb, fun ht => forall_mem_cons.2 ⟨rfl, hall ht⟩⟩

/-- `coalescible` indexes within the packet, and what it accepts may be merged. -/
lemma coalescible_spec (pkt : Bytes) :
    ∃ b, coalescible pkt = some b ∧ (b = true → Mergeable pkt) := by
  by_cases hlen : 40 ≤ pkt.length
  · have h0 := getElem?_eq_getD (b := pkt) (i := 0) (by omega)
    have h9 := getElem?_eq_getD (b := pkt) (i := 9) (by omega)
    have h32 := getElem?_eq_getD (b := pkt) (i := 32) (by omega)
    have h33 := getElem?_eq_getD (b := pkt) (i := 33) (by omega)
    obtain ⟨b, hb, hall⟩ : ∃ b, coalescible pkt = some b ∧ _ := allTests_spec (by
      simp only [h0, h9, h32, h33, forall_mem_cons, Option.pure_def, Option.bind_eq_bind,
        Option.bind_some, Option.some.injEq, exists_eq', not_mem_nil, false_imp_iff,
        implies_true, and_self])
    refine ⟨b, hb, fun ht => ?_⟩
    simp only [h0, h9, h32, h33, forall_mem_cons, Option.pure_def, Option.bind_eq_bind,
      Option.bind_some, Option.some.injEq, beq_iff_eq, Bool.and_eq_true, decide_eq_true_eq] at hall
    obtain ⟨-, hv, hp, ht, -, hthl, -, hpay, -⟩ := hall ht
    have := be16_lt pkt 2
    exact ⟨hv, hp, by unfold groMaxLen; omega, by unfold dataOffset; omega, hpay⟩
  · exact ⟨false, by simp [coalescible, allTests, hlen], by simp⟩

lemma tcpChecksumOK_spec {pkt : Bytes} (h : 40 < pkt.length) : ∃ b, tcpChecksumOK pkt = some b := by
  rw [tcpChecksumOK, pktSlice_eq (by omega) (by omega), pktSlice_eq (by omega) (by omega)]
  exact ⟨_, rfl⟩

/-- A packet has a flow if it is long enough to name one, without IP options. -/
lemma flowOf_eq_ite (p : Bytes) : flowOf p =
    if 24 ≤ p.length ∧ p.getD 0 0 = 0x45 ∧ p.getD 9 0 = protoTCP then some ((p.drop 12).take 12)
    else none := by
  unfold flowOf
  by_cases hv : p.getD 0 0 = 0x45
  · have hihl : ihl p = 20 := by rw [ihl, hv]; rfl
    have hver : (p.getD 0 0).toNat / 16 = 4 := by rw [hv]; rfl
    have hcat : (p.drop 12).take 8 ++ (p.drop 20).take 4 = (p.drop 12).take 12 := by
      rw [show (12 : ℕ) = 8 + 4 from rfl, take_add, drop_drop]
    rw [if_pos hv, tupleOf, hver, hihl, hcat]
    simp only [hv, le_refl, true_and, and_comm, Nat.reduceAdd]
  · simp only [hv, false_and, and_false, if_false]

lemma flowOf_eq (hv : p.getD 0 0 = 0x45) (hp : p.getD 9 0 = protoTCP) (hl : 24 ≤ p.length) :
    flowOf p = some ((p.drop 12).take 12) := (flowOf_eq_ite p).trans (if_pos ⟨hl, hv, hp⟩)

/-- The guard of `flushSameFlow` tells whether a packet has a flow. -/
lemma namesFlow_spec (pkt : Bytes) : ∃ b, namesFlow pkt = some b ∧
      (b = true → 24 ≤ pkt.length ∧ flowOf pkt = some ((pkt.drop 12).take 12)) ∧
      (b = false → flowOf pkt = none) := by
  have heval : namesFlow pkt = some (decide (24 ≤ pkt.length ∧ pkt.getD 0 0 = 0x45 ∧
      pkt.getD 9 0 = protoTCP)) := by
    by_cases hlen : 24 ≤ pkt.length
    · rw [namesFlow, getElem?_eq_getD (b := pkt) (i := 0) (by omega),
        getElem?_eq_getD (b := pkt) (i := 9) (by omega)]
      generalize pkt.getD 0 0 = v, pkt.getD 9 0 = w
      by_cases hv : v = 0x45 <;> by_cases hw : w = protoTCP <;>
        simp [allTests, beq_eq_decide v, beq_eq_decide w, hlen, hv, hw]
    · simp [namesFlow, allTests, hlen]
  rw [flowOf_eq_ite]
  refine ⟨_, heval, fun h => ?_, fun h => if_neg (of_decide_eq_false h)⟩
  exact ⟨(of_decide_eq_true h).1, if_pos (of_decide_eq_true h)⟩

lemma Mergeable.flow (h : Mergeable p) : flowOf p = some ((p.drop 12).take 12) := by
  have := h.forty
  exact flowOf_eq h.version h.proto (by omega)

/-- The segment of a packet without IP options. -/
lemma segmentOf_eq (hv : p.getD 0 0 = 0x45) :
    segmentOf p = (be32 p 24, p.drop (20 + dataOffset p * 4)) := by
  have hihl : ihl p = 20 := by rw [ihl, hv]; rfl
  rw [segmentOf, hihl]
  rfl

/-! ## Groups -/

/-- The addresses and ports in a group's header. -/
def Group.flow (g : Group) : Bytes := (g.mem.drop 12).take 12

/-- The buffer has whole IP and TCP headers. -/
structure Ready (g : Group) : Prop where
  forty : 40 ≤ g.len
  mem : g.len ≤ g.mem.length

variable {g : Group}

lemma Ready.index (h : Ready g) (hi : i < 40) : g.index i = some (g.mem.getD i 0) := by
  have := h.forty
  exact if_pos (by omega)

lemma Ready.slice (h : Ready g) {j : ℕ} (hij : i ≤ j) (hj : j ≤ 40) :
    g.slice i j = some ((g.mem.drop i).take (j - i)) := by
  have := h.forty
  have := h.mem
  rw [Group.slice, if_pos ⟨hij, by unfold groMaxLen; omega⟩,
    take_append_of_le_length (by rw [length_drop]; omega)]

lemma Ready.sameFlow (h : Ready g) {pkt : Bytes} (hp : 24 ≤ pkt.length) :
    g.sameFlow pkt = some (g.flow == (pkt.drop 12).take 12) := by
  rw [Group.sameFlow, h.slice (by omega) (by omega), pktSlice_eq (by omega) hp]
  rfl

/-- The packets `p :: rest` are what the group holds: the header is the first one's, apart from
the flags folded in at octet 33, and cutting the payload at the segment size gives the segments.
An open group has full segments only, and knows the sequence number to come. -/
structure Holds (g : Group) (p : Bytes) (rest : List Bytes) : Prop where
  pkts : ∀ q ∈ p :: rest, Mergeable q ∧ flowOf q = some g.flow
  segs : g.segs = rest.length + 1
  len : g.len = g.length
  cap : g.length ≤ groMaxLen
  single : rest = [] → g.mem.take g.length = p
  header : ∀ i < 40, i ≠ 33 → g.mem.getD i 0 = p.getD i 0
  gso : g.gsoSize = p.length - 40
  joined : dataOffset p = 5 →
    cut g.gsoSize g.length (be32 p 24) ((g.mem.take g.length).drop 40) =
      (p :: rest).map segmentOf
  five : rest ≠ [] → dataOffset p = 5
  fresh : g.closed = false → dataOffset p = 5 ∧ g.length = 40 + g.segs * g.gsoSize ∧
    g.nextSeq = (be32 p 24 + (g.length - 40)) % 2 ^ 32

/-- A group in use with the packets it holds; after a flush it holds none, but keeps its header. -/
inductive GroupOK : Group → List Bytes → Prop
  | emptied {g : Group} (hr : Ready g) (hs : g.segs = 0) : GroupOK g []
  | holding {g : Group} {p : Bytes} {rest : List Bytes} (hr : Ready g) (h : Holds g p rest) :
      GroupOK g (p :: rest)

variable {held : List Bytes} {q : Bytes} {rest : List Bytes}

lemma GroupOK.ready (h : GroupOK g held) : Ready g := by
  cases h with
  | emptied hr _ | holding hr _ => exact hr

/-- A group holds something exactly if it counts segments. -/
lemma GroupOK.segs_pos (h : GroupOK g held) : 0 < g.segs ↔ held ≠ [] := by
  cases h with
  | emptied _ hs => simp [hs]
  | holding _ h => simp [h.segs]

/-- **`start`.**  Whatever the group was, it now holds the one packet. -/
lemma start_spec (g : Group) (h : Mergeable p) :
    ∃ g', g.start p = some g' ∧ GroupOK g' [p] ∧ flowOf p = some g'.flow := by
  have h40 := h.forty
  have hmem : overwrite g.mem 0 p = p ++ g.mem.drop p.length := by
    simp [overwrite]
  have htake : (p ++ g.mem.drop p.length).take p.length = p := take_left
  have hbyte : ∀ i < 40, (p ++ g.mem.drop p.length).getD i 0 = p.getD i 0 := fun i hi =>
    getD_append _ _ _ _ (by omega)
  have hflow : ((p ++ g.mem.drop p.length).drop 12).take 12 = (p.drop 12).take 12 := by
    rw [drop_append_of_le_length (by omega), take_append_of_le_length (by rw [length_drop]; omega)]
  have hseg : dataOffset p = 5 → segmentOf p = (be32 p 24, p.drop 40) := by
    intro h5
    rw [segmentOf_eq h.version, h5]
  rw [Group.start, getElem?_eq_getD (show 33 < p.length by omega),
    getElem?_eq_getD (show 32 < p.length by omega), pktSlice_eq (by omega) (by omega),
    pktSlice_eq (by omega) (by omega)]
  refine ⟨_, rfl, GroupOK.holding ⟨?_, ?_⟩ ⟨?_, rfl, rfl, h.fits, ?_, ?_, rfl, ?_, ?_, ?_⟩, ?_⟩
  · show 40 ≤ p.length
    omega
  · show p.length ≤ (overwrite g.mem 0 p).length
    rw [hmem, length_append]
    omega
  · intro q hq
    obtain rfl := mem_singleton.mp hq
    refine ⟨h, ?_⟩
    rw [h.flow]
    exact congrArg some (by rw [Group.flow, hmem, hflow])
  · intro _
    show (overwrite g.mem 0 p).take p.length = p
    rw [hmem, htake]
  · intro i hi _
    show (overwrite g.mem 0 p).getD i 0 = p.getD i 0
    rw [hmem, hbyte i hi]
  · intro h5
    have hne : p.drop 40 ≠ [] := by rw [← length_pos_iff, length_drop]; omega
    show cut (p.length - 40) p.length (be32 p 24) (((overwrite g.mem 0 p).take p.length).drop 40) =
      [segmentOf p]
    rw [hmem, htake, hseg h5, cut_single hne (by rw [length_drop]) (by omega)]
  · intro hne
    exact absurd rfl hne
  · intro hclosed
    have hcl := of_decide_eq_false hclosed
    push Not at hcl
    refine ⟨hcl.2, ?_, ?_⟩
    · show p.length = 40 + 1 * (p.length - 40)
      omega
    · show (be32 ((p.drop 24).take (28 - 24)) 0 + (p.length - 40)) % 2 ^ 32 =
        (be32 p 24 + (p.length - 40)) % 2 ^ 32
      rw [be32_drop _ _ _ (by omega)]
  · rw [h.flow]
    exact congrArg some (by rw [Group.flow, hmem, hflow])

/-- **`canAppend`** indexes within the group and the packet, and what it lets in continues the
group. -/
lemma canAppend_spec (hr : Ready g) (hq : Mergeable q) : ∃ b, g.canAppend q = some b ∧
      (b = true → g.closed = false ∧ dataOffset q = 5 ∧ q.length - 40 ≤ g.gsoSize ∧
        g.length + (q.length - 40) ≤ groMaxLen ∧ be32 q 24 = g.nextSeq) := by
  have h40 := hq.forty
  have hi : ∀ i < 40, q[i]? = some (q.getD i 0) := fun i hi => getElem?_eq_getD (by omega)
  have hg : ∀ i < 40, g.index i = some (g.mem.getD i 0) := fun i hi => hr.index hi
  have hqs : ∀ i j, i ≤ j → j ≤ 40 → pktSlice q i j = some ((q.drop i).take (j - i)) :=
    fun i j hij hj => pktSlice_eq hij (by omega)
  have hgs : ∀ i j, i ≤ j → j ≤ 40 → g.slice i j = some ((g.mem.drop i).take (j - i)) :=
    fun i j hij hj => hr.slice hij hj
  have hseq : be32 ((q.drop 24).take (28 - 24)) 0 = be32 q 24 := be32_drop _ _ _ (by omega)
  obtain ⟨b, hb, hall⟩ : ∃ b, g.canAppend q = some b ∧ _ := allTests_spec (by
    simp only [hi, hg, hqs, hgs, Nat.reduceLT, Nat.reduceLeDiff, Nat.one_lt_ofNat, le_refl,
      forall_mem_cons, Option.pure_def, Option.bind_eq_bind, Option.bind_some, Option.some.injEq,
      exists_eq', not_mem_nil, false_imp_iff, implies_true, and_self])
  refine ⟨b, hb, fun ht => ?_⟩
  simp only [forall_mem_cons, hi 32 (by omega), hqs 24 28 (by omega) (by omega),
    Option.pure_def, Option.bind_eq_bind, Option.bind_some, Option.some.injEq, beq_iff_eq,
    Bool.and_eq_true, decide_eq_true_eq, Bool.not_eq_true'] at hall
  obtain ⟨hc, h5, -, hle, hs, -⟩ := hall ht
  exact ⟨hc, h5, hle.1, hle.2, hseq.symm.trans hs⟩

/-- The group after one more packet: any buffer that has the payload behind the old octets and the
old header, up to octet 33. -/
lemma Holds.extend (h : Holds g p rest) (hr : Ready g)
    (hq : Mergeable q) (hflow : flowOf q = some g.flow) (hopen : g.closed = false)
    (h5 : dataOffset q = 5) (hle : q.length - 40 ≤ g.gsoSize)
    (hcap : g.length + (q.length - 40) ≤ groMaxLen) (hseq : be32 q 24 = g.nextSeq) (m : Bytes)
    (nextID : ℕ) (closed : Bool) (hlen : g.length + (q.length - 40) ≤ m.length)
    (hpay : (m.take (g.length + (q.length - 40))).drop 40 =
      (g.mem.take g.length).drop 40 ++ q.drop 40)
    (hhead : ∀ i < 40, i ≠ 33 → m.getD i 0 = g.mem.getD i 0)
    (hclosed : closed = false → q.length - 40 = g.gsoSize) :
    GroupOK { g with
          mem := m, len := g.length + (q.length - 40), length := g.length + (q.length - 40),
          segs := g.segs + 1, nextSeq := (g.nextSeq + (q.length - 40)) % 2 ^ 32, nextID, closed }
        (p :: (rest ++ [q])) ∧
      (m.drop 12).take 12 = g.flow := by
  have h40 := hq.forty
  have hforty := hr.forty
  have hmem := hr.mem
  rw [h.len] at hforty hmem
  obtain ⟨hp5, hL, hnext⟩ := h.fresh hopen
  have hflowEq : (m.drop 12).take 12 = g.flow :=
    slice_congr (by omega) (by omega) fun k hk1 hk2 => hhead k (by omega) (by omega)
  have hgpos : 0 < g.gsoSize := by
    have := (h.pkts p (by simp)).1.forty
    rw [h.gso]; omega
  refine ⟨GroupOK.holding ⟨by simp only; omega, hlen⟩
    ⟨?_, ?_, rfl, hcap, ?_, ?_, h.gso, ?_, fun _ => hp5, ?_⟩, hflowEq⟩
  · intro r hr
    show Mergeable r ∧ flowOf r = some ((m.drop 12).take 12)
    rw [hflowEq]
    rcases mem_append.mp (show r ∈ (p :: rest) ++ [q] by simpa using hr) with hr | hr
    · exact h.pkts r hr
    · rw [mem_singleton.mp hr]
      exact ⟨hq, hflow⟩
  · simp only [h.segs, length_append, length_singleton]
  · intro hnil
    exact absurd hnil (by simp)
  · intro i hi hne
    exact (hhead i hi hne).trans (h.header i hi hne)
  · intro _
    -- only full segments before: the new one is cut off behind them
    have hplen : ((g.mem.take g.length).drop 40).length = g.segs * g.gsoSize := by
      rw [length_drop, length_take]; omega
    have hd : q.drop 40 ≠ [] := by rw [← length_pos_iff, length_drop]; omega
    have hsegs : g.segs ≤ g.segs * g.gsoSize := Nat.le_mul_of_pos_right _ hgpos
    have hlast : segmentOf q = ((be32 p 24 + g.segs * g.gsoSize) % 2 ^ 32, q.drop 40) := by
      rw [segmentOf_eq hq.version, h5, hseq, hnext, hL]
      simp
    have hold : cut g.gsoSize (g.length + (q.length - 40)) (be32 p 24)
        ((g.mem.take g.length).drop 40) = (p :: rest).map segmentOf := by
      rw [cut_add_fuel hgpos (by rw [length_drop, length_take]; omega), h.joined hp5]
    show cut g.gsoSize (g.length + (q.length - 40)) (be32 p 24)
      ((m.take (g.length + (q.length - 40))).drop 40) = (p :: (rest ++ [q])).map segmentOf
    rw [hpay, cut_append hd (by rw [length_drop]; exact hle) hplen (by omega) (be32_lt p 24),
      hold, hplen, ← hlast]
    simp
  · intro hc
    have hfull := hclosed hc
    refine ⟨hp5, ?_, ?_⟩
    · show g.length + (q.length - 40) = 40 + (g.segs + 1) * g.gsoSize
      rw [Nat.succ_mul]; omega
    · show (g.nextSeq + (q.length - 40)) % 2 ^ 32 =
        (be32 p 24 + (g.length + (q.length - 40) - 40)) % 2 ^ 32
      rw [hnext]; omega

/-- **`append`.**  A group that holds something holds the packet behind it. -/
lemma append_spec (hr : Ready g) (h : Holds g p rest)
    (hq : Mergeable q) (hflow : flowOf q = some g.flow) (hcan : g.canAppend q = some true) :
    ∃ g', g.append q = some g' ∧ GroupOK g' (p :: (rest ++ [q])) ∧ g'.flow = g.flow := by
  obtain ⟨b, hb, hfacts⟩ := canAppend_spec hr hq
  obtain ⟨hopen, h5, hle, hcap, hseq⟩ := hfacts (Option.some.inj (hb.symm.trans hcan))
  have h40 := hq.forty
  have hforty := hr.forty
  have hmem := hr.mem
  rw [h.len] at hforty hmem
  have hpay : pktSlice q 40 q.length = some (q.drop 40) := by
    rw [pktSlice_eq (by omega) le_rfl, take_of_length_le (by rw [length_drop])]
  have hplen : (q.drop 40).length = q.length - 40 := length_drop
  have hsl : g.slice 0 g.length = some ((g.mem.drop 0 ++ replicate g.length 0).take
      (g.length - 0)) := if_pos ⟨by omega, h.cap⟩
  -- the buffer after the payload is copied in
  set m := overwrite g.mem g.length (q.drop 40) with hm
  have htake : m.take (g.length + (q.length - 40)) = g.mem.take g.length ++ q.drop 40 := by
    rw [hm, overwrite]
    rw [take_append_of_le_length (by rw [length_append, length_take, hplen]; omega),
      take_of_length_le (by rw [length_append, length_take, hplen]; omega)]
  have hdrop : (g.mem.take g.length ++ q.drop 40).drop 40 =
      (g.mem.take g.length).drop 40 ++ q.drop 40 :=
    drop_append_of_le_length (by rw [length_take]; omega)
  have hlen : g.length + (q.length - 40) ≤ m.length := by
    rw [hm, overwrite, length_append, length_append, length_take, hplen]; omega
  have hhead : ∀ i < 40, m.getD i 0 = g.mem.getD i 0 := fun i hi =>
    getD_overwrite_of_lt (by omega) (by omega)
  have h33 := getElem?_eq_getD (b := q) (i := 33) (by omega)
  have hidx : ∀ g' : Group, g'.len = g.length + (q.length - 40) →
      g'.index 33 = some (g'.mem.getD 33 0) := fun g' hg' => if_pos (by omega)
  simp only [Group.append, hpay, hsl, h33, hplen, pure, bind, Option.bind]
  split_ifs with hfl
  · -- PSH or FIN is folded into the first header and closes the group
    rw [hidx _ rfl]
    have hone : ∀ v : UInt8, 33 + [v].length ≤ m.length := fun v => by
      rw [length_singleton]; omega
    obtain ⟨hok, hf⟩ := h.extend hr hq hflow hopen h5 hle hcap hseq
      (overwrite m 33 [m.getD 33 0 ||| q.getD 33 0 &&& (tcpFlagPSH ||| tcpFlagFIN)])
      ((g.nextID + 1) % 2 ^ 16) true
      (by rw [length_overwrite (hone _)]; exact hlen)
      (by rw [drop_take_overwrite (by simp) (hone _), htake, hdrop])
      (fun i hi hne => by
        rw [← hhead i hi]
        rcases Nat.lt_or_gt_of_ne hne with hlt | hgt
        · exact getD_overwrite_of_lt hlt (by omega)
        · exact getD_overwrite_of_ge (by rw [length_singleton]; omega) (by omega))
      (fun hc => absurd hc (by simp))
    exact ⟨_, rfl, hok, hf⟩
  · obtain ⟨hok, hf⟩ := h.extend hr hq hflow hopen h5 hle hcap hseq
      m ((g.nextID + 1) % 2 ^ 16) (g.closed || decide (q.length - 40 < g.gsoSize)) hlen
        (by rw [htake, hdrop])
      (fun i hi _ => hhead i hi) (fun hc => by simp [hopen] at hc; omega)
    exact ⟨_, rfl, hok, hf⟩

/-! ## What a flush writes -/

/-- The frame is the packet, or a coalesced frame with its IP header, up to the two fields that a
flush rebuilds: Total Length (octets 2 and 3) and the header checksum (octets 10 and 11). -/
def HeaderFrom (p : Bytes) : Frame → Prop
  | .packet data => data = p
  | .gso _ data => 20 ≤ data.length ∧
      ∀ i < 20, i ∉ [2, 3, 10, 11] → data.getD i 0 = p.getD i 0

/-- The frames carry the packets, one by one, under their flow. -/
structure Wrote (frames : List Frame) (held : List Bytes) : Prop where
  segments : frames.flatMap (fun f => f.segments.map fun s => (flowOf f.data, s)) =
    held.map fun p => (flowOf p, segmentOf p)
  keyed : ∀ f ∈ frames, flowOf f.data ≠ none
  header : ∀ f ∈ frames, ∃ p ∈ held, HeaderFrom p f

/-- The strings differ at most in the fields that a flush rebuilds. -/
structure RebuiltFrom (b c : Bytes) : Prop where
  length : c.length = b.length
  rest : c.drop 38 = b.drop 38
  header : ∀ i < 36, i ∉ [2, 3, 10, 11] → c.getD i 0 = b.getD i 0

lemma RebuiltFrom.trans (h : RebuiltFrom b c) (h' : RebuiltFrom c d) :
    RebuiltFrom b d :=
  ⟨h'.length.trans h.length, h'.rest.trans h.rest,
    fun i hi hne => (h'.header i hi hne).trans (h.header i hi hne)⟩

lemma rebuiltFrom_overwrite (b : Bytes) (off : ℕ) (data : Bytes) (hb : 38 ≤ b.length)
    (hd : data.length = 2) (ho : off ∈ [2, 10, 36]) : RebuiltFrom b (overwrite b off data) := by
  have hoff : off ≤ 36 := by
    simp only [mem_cons, not_mem_nil, or_false] at ho
    omega
  refine ⟨length_overwrite (by omega), drop_overwrite (by omega) (by omega), ?_⟩
  intro i hi hne
  simp only [mem_cons, not_mem_nil, or_false, not_or] at hne ho
  by_cases hlt : i < off
  · exact getD_overwrite_of_lt hlt (by omega)
  · exact getD_overwrite_of_ge (by omega) (by omega)

lemma rebuild_spec (mem : Bytes) (length : ℕ) (hm : 40 ≤ mem.length) (hl : 40 ≤ length) :
    ∃ m, rebuild mem length = some m ∧ RebuiltFrom mem m := by
  have hpad : mem ++ replicate (38 - mem.length) 0 = mem := by
    rw [show 38 - mem.length = 0 by omega, replicate_zero, append_nil]
  have h1 := rebuiltFrom_overwrite mem 2 (putBE16 length) (by omega) rfl (by simp)
  have h2 := h1.trans (rebuiltFrom_overwrite _ 10 [0, 0] (by rw [h1.length]; omega) rfl (by simp))
  generalize hm : overwrite (overwrite mem 2 (putBE16 length)) 10 [0, 0] = m at h2
  have h3 : ∀ v, RebuiltFrom mem (overwrite m 10 (putBE16 v)) :=
    fun v => h2.trans (rebuiltFrom_overwrite _ _ _ (by rw [h2.length]; omega) rfl (by simp))
  have h4 : ∀ v w, RebuiltFrom mem (overwrite (overwrite m 10 (putBE16 v)) 36 (putBE16 w)) :=
    fun v w => (h3 v).trans
      (rebuiltFrom_overwrite _ _ _ (by rw [(h3 v).length]; omega) rfl (by simp))
  have hs2 :=
    pktSlice_eq (i := 0) (j := 20) (by omega) (show 20 ≤ m.length by rw [h2.length]; omega)
  have hs3 : ∀ v, pktSlice (overwrite m 10 (putBE16 v)) 12 20 =
      some (((overwrite m 10 (putBE16 v)).drop 12).take (20 - 12)) := fun v =>
    pktSlice_eq (by omega) (by rw [(h3 v).length]; omega)
  simp only [rebuild, hpad, if_neg (show ¬ length < 12 by omega), hm, hs2, hs3, pure, bind,
    Option.bind]
  exact ⟨_, rfl, h4 _ _⟩

/-- A slice from the start is the first octets. -/
lemma Ready.headSlice (h : Ready g) (hn : n ≤ g.len) (hc : n ≤ groMaxLen) :
    g.slice 0 n = some (g.mem.take n) := by
  have := h.mem
  rw [Group.slice, if_pos ⟨by omega, hc⟩, drop_zero, Nat.sub_zero,
    take_append_of_le_length (by omega)]

/-- **`flush`.**  What is written carries exactly the packets held; the group keeps its header and
holds nothing. -/
lemma flush_spec (h : GroupOK g held) :
    ∃ g' frames, g.flush = some (g', frames) ∧ GroupOK g' [] ∧ g'.flow = g.flow ∧
      Wrote frames held := by
  cases h with
  | emptied hr hs =>
    exact ⟨g, [], by simp [Group.flush, hs], GroupOK.emptied hr hs, rfl, ⟨rfl, by simp, by simp⟩⟩
  | @holding p rest hr hh =>
    have hmerge := (hh.pkts p (by simp)).1
    have hslice := hr.headSlice hh.len.ge hh.cap
    have hlen := hr.forty
    have hmem := hr.mem
    rw [hh.len] at hlen hmem
    have hs0 : g.segs ≠ 0 := by rw [hh.segs]; omega
    by_cases hs1 : g.segs = 1
    · -- one segment goes out as it came
      have hrest : rest = [] := eq_nil_of_length_eq_zero (by have := hh.segs; omega)
      subst hrest
      have hp := hh.single rfl
      refine ⟨{ g with segs := 0, length := 0 }, [.packet p], ?_,
        GroupOK.emptied ⟨hr.forty, hr.mem⟩ rfl, rfl, ?_, ?_, ?_⟩
      · simp [Group.flush, hs1, hslice, hp]
      · rfl
      · intro f hf
        rw [mem_singleton.mp hf, Frame.data, hmerge.flow]
        simp
      · intro f hf
        rw [mem_singleton.mp hf]
        exact ⟨p, by simp, rfl⟩
    · have hne : rest ≠ [] := by
        rintro rfl
        exact hs1 hh.segs
      have hp5 := hh.five hne
      obtain ⟨m, hreb, hm⟩ := rebuild_spec g.mem g.length (by omega) hlen
      have hbyte : ∀ i < 36, i ∉ [2, 3, 10, 11, 33] → (m.take g.length).getD i 0 = p.getD i 0 := by
        intro i hi hne
        simp only [mem_cons, not_mem_nil, or_false, not_or] at hne
        rw [← hh.header i (by omega) (by omega), ← hm.header i hi (by simp; omega)]
        simp only [getD_eq_getElem?_getD, getElem?_take]
        rw [if_pos (by omega)]
      have htake : (m.take g.length).length = g.length := by
        rw [length_take, hm.length]; omega
      have hv : (m.take g.length).getD 0 0 = 0x45 := (hbyte 0 (by omega) (by simp)).trans
        hmerge.version
      have hflow : flowOf (m.take g.length) = flowOf p := by
        have hpl := hmerge.forty
        rw [flowOf_eq hv ((hbyte 9 (by omega) (by simp)).trans hmerge.proto) (by omega),
          hmerge.flow]
        refine congrArg some (slice_congr (by omega) (by omega) fun k hk1 hk2 => ?_)
        exact hbyte k (by omega) (by simp; omega)
      have hseq : be32 (m.take g.length) 24 = be32 p 24 :=
        be32_congr fun k hk1 hk2 => hbyte k (by omega) (by simp; omega)
      have hpay : (m.take g.length).drop 40 = (g.mem.take g.length).drop 40 := by
        have h40 : m.drop 40 = g.mem.drop 40 := by
          have := congrArg (drop 2) hm.rest
          rwa [drop_drop, drop_drop] at this
        rw [drop_take, drop_take, h40]
      have hgso : g.gsoSize % 2 ^ 16 = g.gsoSize := by
        have := hmerge.fits
        rw [hh.gso]
        unfold groMaxLen at this
        omega
      have hflowG : ∀ g' : Group, g'.mem = m → g'.flow = g.flow := fun g' hg' => by
        rw [Group.flow, Group.flow, hg']
        exact slice_congr (by rw [hm.length]; omega) (by omega) fun k hk1 hk2 =>
          hm.header k (by omega) (by simp; omega)
      refine ⟨{ g with mem := m, segs := 0, length := 0 }, [.gso
        { flags := vnetFlagNeedsCsum, gsoType := vnetGSOTCPv4, hdrLen := 40,
          gsoSize := g.gsoSize % 2 ^ 16, csumStart := 20, csumOffset := 16 }
        (m.take g.length)], ?_, GroupOK.emptied ⟨hr.forty, ?_⟩ rfl, hflowG _ rfl, ?_, ?_, ?_⟩
      · simp only [Group.flush, hs0, hs1, hslice, hreb, if_false, pure, bind, Option.bind]
      · show g.len ≤ m.length
        rw [hm.length]
        exact hr.mem
      · have hsegs : ∀ q ∈ p :: rest, flowOf q = flowOf p := fun q hq => by
          rw [(hh.pkts q hq).2, (hh.pkts p (by simp)).2]
        simp only [flatMap_cons, flatMap_nil, append_nil, Frame.segments,
          Frame.data, htake, hseq, hpay, hgso, hh.joined hp5, hflow, map_map]
        exact map_congr_left fun q hq => by simp [hsegs q hq]
      · intro f hf
        rw [mem_singleton.mp hf, Frame.data, hflow, hmerge.flow]
        simp
      · intro f hf
        rw [mem_singleton.mp hf]
        refine ⟨p, by simp, by rw [htake]; omega, fun i hi hne => hbyte i (by omega) ?_⟩
        simp only [mem_cons, not_mem_nil, or_false, not_or] at hne ⊢
        omega

end Veepin.Gro
