import Veepin.Masque.Capsule

/-!
# The capsule stream

Everything that is sent on a request stream, and the way it is framed: by `RequestStream.Write`, a
frame for each capsule, or by a peer that cuts the octets into frames as it likes.

* `Delivers` — the octets that a request stream has before it, whatever its frames are;
* `readCapsules_delivers` — the capsules are read from them;
* `capsule_stream_iff` — any framing within the limit is read back; what `Write` makes is, exactly
  when each capsule fits in a frame;
* `largest_packet_refused` — a packet of 65535 octets does not.
-/

namespace Veepin.Masque

open List

/-! ## Framings -/

/-- A frame: its type and its payload. -/
abbrev Framed := ℕ × Bytes

def Framed.Fits (f : Framed) : Prop := f.1 < 2 ^ 62 ∧ f.2.length ≤ maxFramePayload

def framing (fs : List Framed) : Bytes := fs.flatMap fun f => writeFrame f.1 f.2

/-- The payloads of the DATA frames. -/
def dataOf (fs : List Framed) : Bytes := fs.flatMap fun f => if f.1 = frameData then f.2 else []

/-- The octets `x` lie before the reader, in the buffer and in frames that fit. -/
def Delivers (x : Bytes) (rs : RequestStream) : Prop :=
  ∃ fs : List Framed, (∀ f ∈ fs, f.Fits) ∧ rs.qs = framing fs ∧ rs.readBuf ++ dataOf fs = x

/-- `io.ReadFull` on a QUIC stream that hands over its octets in pieces. -/
def ioReadFull : ℕ → List Bytes → Got (Bytes × List Bytes)
  | n, [] => if n = 0 then .ok ([], []) else .wait
  | n, c :: cs =>
    if n ≤ c.length then .ok (c.take n, c.drop n :: cs)
    else (ioReadFull (n - c.length) cs).bind fun (b, cs) => .ok (c ++ b, cs)

/-- **The pieces do not matter.** -/
lemma quicFull_flatten (pieces : List Bytes) : ∀ n, quicFull n pieces.flatten =
    (ioReadFull n pieces).bind fun (b, cs) => .ok (b, cs.flatten) := by
  induction pieces with
  | nil =>
    intro n
    cases n <;> rfl
  | cons c cs ih =>
    intro n
    rw [ioReadFull, flatten_cons]
    split_ifs with hle
    · rw [quicFull, if_neg (by rw [length_append]; omega), take_append_of_le_length hle,
        drop_append_of_le_length hle]
      rfl
    have hcut : quicFull n (c ++ cs.flatten) =
        (quicFull (n - c.length) cs.flatten).bind fun x => .ok (c ++ x.1, x.2) := by
      rw [quicFull, quicFull, length_append]
      by_cases hshort : c.length + cs.flatten.length < n
      · rw [if_pos hshort, if_pos (by omega)]
        rfl
      · rw [if_neg hshort, if_neg (by omega), take_append, drop_append,
          take_of_length_le (by omega), drop_of_length_le (by omega)]
        rfl
    rw [hcut, ih]
    cases ioReadFull (n - c.length) cs <;> rfl

namespace RequestStream

/-- The loop goes on to a frame that has something. -/
lemma fill_delivers : ∀ (fs : List Framed) (fuel : ℕ), (∀ f ∈ fs, f.Fits) → fs.length < fuel →
    dataOf fs ≠ [] → ∃ rs, fill fuel ⟨[], framing fs⟩ = .ok rs ∧ rs.readBuf ≠ [] ∧
      Delivers (dataOf fs) rs
  | [], _, _, _, hne => absurd rfl hne
  | f :: fs, fuel + 1, hfits, hfuel, hne => by
    obtain ⟨htyp, hlen⟩ := hfits f mem_cons_self
    have hrest : ∀ g ∈ fs, Framed.Fits g := fun g hg => hfits g (mem_cons_of_mem f hg)
    have hfuel : fs.length < fuel := by simpa using hfuel
    rw [framing, flatMap_cons, fill, if_neg (by simp), readFrame_writeFrame htyp hlen, Got.bind_ok]
    by_cases hbuf : (if f.1 = frameData then f.2 else []) = []
    · -- nothing to give: the next frame
      have hdata : dataOf (f :: fs) = dataOf fs := by
        rw [dataOf, flatMap_cons, hbuf]
        rfl
      rw [hdata] at hne ⊢
      dsimp only
      rw [hbuf]
      exact fill_delivers fs fuel hrest hfuel hne
    · obtain ⟨fuel, rfl⟩ : ∃ k, fuel = k + 1 := ⟨fuel - 1, by omega⟩
      refine ⟨⟨if f.1 = frameData then f.2 else [], framing fs⟩, ?_, hbuf, fs, hrest, rfl, rfl⟩
      dsimp only
      rw [fill, if_pos hbuf]
      rfl

lemma length_le_framing (fs : List Framed) : fs.length ≤ (framing fs).length := by
  induction fs with
  | nil => exact le_rfl
  | cons f fs ih =>
    have hpos := length_pos_iff.2 (appendVarint_ne_nil f.1)
    unfold framing at ih ⊢
    rw [flatMap_cons, length_append, writeFrame, length_append, length_cons]
    omega

/-- **A read** gives octets that are before the reader, and leaves the others. -/
lemma read_delivers {x : Bytes} {rs : RequestStream} (h : Delivers x rs) (hx : x ≠ []) {n : ℕ}
    (hn : n ≠ 0) :
    ∃ b y rs', rs.read n = .ok (b, rs') ∧ b ≠ [] ∧ b.length ≤ n ∧ b ++ y = x ∧ Delivers y rs' := by
  obtain ⟨rs₁, hfill, hbuf, fs, hfits, hqs, hdata⟩ : ∃ rs₁,
      fill (rs.qs.length + 1) rs = .ok rs₁ ∧ rs₁.readBuf ≠ [] ∧ Delivers x rs₁ := by
    obtain ⟨fs, hfits, hqs, hdata⟩ := h
    obtain ⟨buf, qs⟩ := rs
    by_cases hbuf : buf = []
    · subst hbuf
      obtain rfl : qs = framing fs := hqs
      rw [← show dataOf fs = x from hdata] at hx ⊢
      exact fill_delivers fs _ hfits (Nat.lt_succ_of_le (length_le_framing fs)) hx
    · exact ⟨⟨buf, qs⟩, by rw [fill, if_pos hbuf], hbuf, fs, hfits, hqs, hdata⟩
  refine ⟨rs₁.readBuf.take n, rs₁.readBuf.drop n ++ dataOf fs,
    { rs₁ with readBuf := rs₁.readBuf.drop n }, ?_, by simp [hn, hbuf], length_take_le _ _, ?_,
    fs, hfits, hqs, rfl⟩
  · rw [read, hfill, Got.bind_ok]
  · rw [← append_assoc, take_append_drop, hdata]

lemma readFullLoop_delivers {x : Bytes} : ∀ (fuel : ℕ) (b : Bytes) (rs : RequestStream),
    b.length ≤ fuel → Delivers (b ++ x) rs →
      ∃ rs', readFullLoop fuel b.length rs = .ok (b, rs') ∧ Delivers x rs'
  | fuel, [], rs, _, h => ⟨rs, readFullLoop_zero fuel rs, h⟩
  | fuel + 1, c :: cs, rs, hfuel, h => by
    have hn : (c :: cs).length ≠ 0 := by simp
    obtain ⟨b, y, rs₁, hread, hne, hle, heq, h₁⟩ := read_delivers h (by simp) hn
    obtain ⟨d, hd, hy⟩ : ∃ d, c :: cs = b ++ d ∧ y = d ++ x := by
      obtain ⟨d, hd, hy⟩ | ⟨d, hd, hy⟩ := append_eq_append_iff.1 heq
      · exact ⟨d, hd, hy⟩
      · obtain rfl : d = [] := by
          have := congrArg length hd
          rw [length_append] at this
          exact length_eq_zero_iff.1 (by omega)
        exact ⟨[], by simpa using hd.symm, by simpa using hy.symm⟩
    have hpos : 0 < b.length := length_pos_iff.2 hne
    have hlen : (c :: cs).length = b.length + d.length := by rw [hd, length_append]
    obtain ⟨rs', hloop, h'⟩ := readFullLoop_delivers fuel d rs₁ (by omega) (hy ▸ h₁)
    refine ⟨rs', ?_, h'⟩
    rw [readFullLoop, if_neg hn, hread, Got.bind_ok]
    dsimp only
    rw [hlen, Nat.add_sub_cancel_left, hloop, Got.bind_ok, hd]

end RequestStream

/-! ## The stream -/

/-- `n` capsules, one after the other. -/
def readCapsules : ℕ → RequestStream → Got (List (ℕ × Bytes))
  | 0, _ => .ok []
  | n + 1, rs =>
    (capsuleRead rs).bind fun (c, rs) => (readCapsules n rs).bind fun cs => .ok (c :: cs)

/-- **Any framing that fits.** -/
lemma readCapsules_delivers : ∀ (items : List Item) (rs : RequestStream), (∀ i ∈ items, i.Valid) →
    Delivers (items.flatMap Item.octets) rs →
      readCapsules items.length rs = .ok (items.map Item.capsule)
  | [], _, _, _ => rfl
  | i :: items, rs, hvalid, h => by
    obtain ⟨rs', hread, h'⟩ := capsuleRead_of
      (fun b x rs => RequestStream.readFullLoop_delivers b.length b rs le_rfl)
      (hvalid i mem_cons_self) h
    rw [length_cons, readCapsules, hread, Got.bind_ok]
    dsimp only
    rw [readCapsules_delivers items rs' (fun j hj => hvalid j (mem_cons_of_mem i hj)) h']
    rfl

/-- What `Write` puts on the stream: a frame for each capsule. -/
def written (items : List Item) : RequestStream :=
  items.foldl (fun rs i => rs.write i.octets) {}

lemma written_eq (items : List Item) :
    written items = ⟨[], framing (items.map fun i => (frameData, i.octets))⟩ := by
  have hfold : ∀ (items : List Item) (qs : Bytes),
      items.foldl (fun rs i => rs.write i.octets) ⟨[], qs⟩ =
        (⟨[], qs ++ framing (items.map fun i => (frameData, i.octets))⟩ : RequestStream) := by
    intro items
    induction items with
    | nil => simp [framing]
    | cons i items ih =>
      intro qs
      rw [foldl_cons, RequestStream.write, ih]
      simp [framing]
  exact hfold items []

/-- A frame that is too long ends the stream. -/
lemma capsuleRead_tooLong {c : Bytes} (hlong : maxFramePayload < c.length) (hc : c.length < 2 ^ 62)
    (rest : Bytes) : capsuleRead ⟨[], writeFrame frameData c ++ rest⟩ = .fail := by
  have hfull : RequestStream.readFull 1 ⟨[], writeFrame frameData c ++ rest⟩ = .fail := by
    rw [RequestStream.readFull, RequestStream.readFullLoop, if_neg (by decide), RequestStream.read,
      RequestStream.fill, if_neg (by simp), readFrame_header (by decide) hc, if_pos hlong]
    rfl
  rw [capsuleRead, readVarint, hfull]
  rfl

/-- **What `Write` makes** is read back exactly when each capsule fits in a frame. -/
lemma readCapsules_written_iff : ∀ items : List Item, (∀ i ∈ items, i.Valid) →
    (readCapsules items.length (written items) = .ok (items.map Item.capsule) ↔
      ∀ i ∈ items, i.octets.length ≤ maxFramePayload)
  | [], _ => by simp [readCapsules]
  | i :: items, hvalid => by
    have ih := readCapsules_written_iff items fun j hj => hvalid j (mem_cons_of_mem i hj)
    rw [written_eq] at ih
    rw [forall_mem_cons, ← ih, written_eq, map_cons, framing, flatMap_cons,
      length_cons, readCapsules]
    by_cases hfits : i.octets.length ≤ maxFramePayload
    · rw [capsuleRead_write (hvalid i mem_cons_self) hfits, Got.bind_ok]
      dsimp only
      rw [← framing]
      cases readCapsules items.length _ <;> simp [Got.bind, hfits]
    have hshort : i.octets.length < 2 ^ 62 := by
      have hlen := (hvalid i mem_cons_self).bounds.2
      have h₁ := varintLen_le i.capsule.1
      have h₂ := varintLen_le i.capsule.2.length
      unfold maxCapsuleValue at hlen
      rw [i.octets_eq, Item.writeCapsule]
      simp only [length_append, length_appendVarint]
      omega
    rw [capsuleRead_tooLong (not_le.1 hfits) hshort]
    simp [Got.bind, hfits]

/-- **The capsule stream.**  The cut of the QUIC stream into pieces does not matter.  The capsules
come out of every framing that fits, and of what `Write` makes exactly when each of them fits in a
frame, and the packets come out of their capsules. -/
theorem capsule_stream_iff (items : List Item) (hvalid : ∀ i ∈ items, i.Valid) :
    (∀ n pieces, quicFull n pieces.flatten =
        (ioReadFull n pieces).bind fun (b, cs) => .ok (b, cs.flatten)) ∧
      (∀ fs : List Framed, (∀ f ∈ fs, f.Fits) → dataOf fs = items.flatMap Item.octets →
        readCapsules items.length ⟨[], framing fs⟩ = .ok (items.map Item.capsule)) ∧
      (readCapsules items.length (written items) = .ok (items.map Item.capsule) ↔
        ∀ i ∈ items, i.octets.length ≤ maxFramePayload) ∧
      ∀ p target, decodeDatagramPayload (Item.packet p target).capsule.2 =
        some (Item.padded p target) :=
  ⟨fun n pieces => quicFull_flatten pieces n,
    fun fs hfits hdata => readCapsules_delivers items _ hvalid ⟨fs, hfits, rfl, hdata⟩,
    readCapsules_written_iff items hvalid, Item.decode_capsule⟩

/-- A padded packet and an empty capsule, as `Write` frames them, and with a frame of another type
between two DATA frames that cut the packet in two. -/
theorem capsule_stream_two :
    readCapsules 2 (written [.packet [0x45, 7] 4, .other 1 []]) =
        .ok [(0, [0, 0x45, 7, 0, 0]), (1, [])] ∧
      readCapsules 2 ⟨[], framing [(frameData, [0, 5, 0]), (0x21, [9]),
          (frameData, [0x45, 7, 0, 0, 1, 0])]⟩ = .ok [(0, [0, 0x45, 7, 0, 0]), (1, [])] ∧
      decodeDatagramPayload [0, 0x45, 7, 0, 0] = some [0x45, 7, 0, 0] := by
  obtain ⟨-, hframes, hwritten, hpacket⟩ := capsule_stream_iff [.packet [0x45, 7] 4, .other 1 []]
    (by simp [Item.Valid, Item.maxInnerPacket])
  exact ⟨hwritten.2 (by decide), hframes _ (by unfold Framed.Fits; decide) (by decide),
    hpacket [0x45, 7] 4⟩

/-- A packet of the largest size is 65541 octets on the stream, and the reader fails on it. -/
theorem largest_packet_refused : (Item.packet (List.replicate 65535 0) 0).Valid ∧
      readCapsules 1 (written [.packet (List.replicate 65535 0) 0]) = .fail := by
  have hvalid : (Item.packet (replicate 65535 0) 0).Valid :=
    ⟨length_replicate.le, by decide⟩
  have hlen : (Item.packet (replicate 65535 0) 0).octets.length = 65541 := by
    rw [Item.octets_eq, Item.writeCapsule]
    simp only [Item.capsule, Item.padded, length_append, length_appendVarint, length_replicate]
    rfl
  refine ⟨hvalid, ?_⟩
  rw [written_eq, readCapsules, map_singleton, framing, flatMap_singleton, ← append_nil (writeFrame
    _ _), capsuleRead_tooLong (by rw [hlen]; decide) (by rw [hlen]; decide)]
  rfl

end Veepin.Masque
