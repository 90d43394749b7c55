import Veepin.Core.Source

/-!
# IKE and ESP over a TCP stream

The model of `internal/ikev2/ike/tcpframe.go` and `tcpstream.go` (RFC 8229): messages go out with a
length before them that counts itself, IKE messages with the non-ESP marker, and a `TCPReader` cuts
the stream of the other end into frames again.

The reader's buffer is one array with two marks, so it is three stretches of octets: consumed,
buffered, spare.  To compact it, `fill` copies the buffered octets into a slice of length *zero*,
which copies nothing: the window afterwards is what stood at the front of the array.

* `next_spec` — a call of `Next` returns the next frame just if no octet it needs was lost;
* `tcp_framing` — so do all calls, at either end, and the lengths written are right just if they
  fit.
-/

namespace Veepin.IKE

open List

variable {ε : Type*}

/-! ## Writing -/

def tcpLenSize : ℕ := 2

def maxTCPFrame : ℕ := 0xffff

def nonESPMarker : Bytes := [0, 0, 0, 0]

/-- `tcpStreamPrefix`: the octets of `IKETCP`. -/
def tcpStreamPrefix : Bytes := [73, 75, 69, 84, 67, 80]

def appendTCPFrame (dst payload : Bytes) : Bytes :=
  dst ++ putBE16 (tcpLenSize + payload.length) ++ payload

def appendTCPIKE (dst ike : Bytes) : Bytes :=
  dst ++ putBE16 (tcpLenSize + nonESPMarker.length + ike.length) ++ nonESPMarker ++ ike

/-- A call of `WriteIKE`, `WriteESP` or `WriteESPBatch`. -/
inductive TCPWrite
  | ike (pkt : Bytes)
  | esp (pkt : Bytes)
  | espBatch (pkts : List Bytes)
  deriving DecidableEq, Repr

/-- What the call writes to the connection. -/
def TCPWrite.octets : TCPWrite → Bytes
  | .ike pkt => appendTCPIKE [] pkt
  | .esp pkt => appendTCPFrame [] pkt
  | .espBatch pkts => pkts.foldl appendTCPFrame []

/-- A message, and whether it is an IKE message. -/
structure TCPMessage where
  pkt : Bytes
  isIKE : Bool
  deriving DecidableEq, Repr

/-- The messages of a call. -/
def TCPWrite.messages : TCPWrite → List TCPMessage
  | .ike pkt => [⟨pkt, true⟩]
  | .esp pkt => [⟨pkt, false⟩]
  | .espBatch pkts => pkts.map (⟨·, false⟩)

/-- The frame of a message. -/
def TCPMessage.frame (m : TCPMessage) : Bytes :=
  if m.isIKE then appendTCPIKE [] m.pkt else appendTCPFrame [] m.pkt

/-- An ESP packet begins with an SPI, which is not zero. -/
def TCPMessage.Valid (m : TCPMessage) : Prop :=
  m.isIKE = false → 4 ≤ m.pkt.length ∧ m.pkt.take 4 ≠ nonESPMarker

/-! ## Reading -/

/-- The errors of a read. -/
inductive TCPError (ε : Type*)
  | badPrefix
  | frameShort
  | frameEmpty
  | stream (e : ε)
  deriving DecidableEq, Repr

/-- `tcpReader`: the array of the buffer, cut at `start` and at `end`. -/
structure TCPReader where
  consumed : Bytes
  window : Bytes
  spare : Bytes
  deriving DecidableEq, Repr

def newTCPReader : TCPReader := ⟨[], [], List.replicate 4096 0⟩

namespace TCPReader

/-- `cap(t.buf)`. -/
def cap (t : TCPReader) : ℕ := t.consumed.length + t.window.length + t.spare.length

/-- The window has drifted too far to the right to hold `n` octets. -/
def drifted (t : TCPReader) (n : ℕ) : Bool :=
  0 < t.consumed.length && t.cap - t.consumed.length < t.window.length + n

/-- The compaction: the marks move to the front, the array stays as it is. -/
def compact (t : TCPReader) (n : ℕ) : TCPReader :=
  if t.drifted n then
    let array := t.consumed ++ t.window ++ t.spare
    ⟨[], array.take t.window.length, array.drop t.window.length⟩
  else t

/-- A larger array, where there is no room for `n` octets. -/
def grow (t : TCPReader) (n : ℕ) : TCPReader :=
  let stop := t.consumed.length + t.window.length
  if t.cap < stop + n then
    { t with spare := List.replicate (max (stop + n) (2 * t.cap + n) - stop) 0 }
  else t

/-- The reader that a round of `fill` reads into. -/
def prepared (t : TCPReader) (n : ℕ) : TCPReader := (t.compact n).grow n

/-- The octets of a read are put behind the window. -/
def store (t : TCPReader) (bs : Bytes) : TCPReader :=
  { t with window := t.window ++ bs, spare := t.spare.drop bs.length }

/-- The loop of `fill`.  A round adds an octet at least, so `n` rounds are enough. -/
def fillLoop (n : ℕ) :
    ℕ → TCPReader → Source ε → Option (TCPError ε) × TCPReader × Source ε
  | 0, t, src => (none, t, src)
  | fuel + 1, t, src =>
    if n ≤ t.window.length then (none, t, src)
    else
      let t := t.prepared n
      match src.read t.spare.length with
      | (bs, some e, src) =>
        if bs ≠ [] ∧ n ≤ (t.store bs).window.length then (none, t.store bs, src)
        else (some (.stream e), t.store bs, src)
      | (bs, none, src) => fillLoop n fuel (t.store bs) src

def fill (t : TCPReader) (n : ℕ) (src : Source ε) :
    Option (TCPError ε) × TCPReader × Source ε :=
  if maxTCPFrame < n then (some .frameShort, t, src) else t.fillLoop n n src

def expectPrefix (t : TCPReader) (src : Source ε) :
    Option (TCPError ε) × TCPReader × Source ε :=
  match t.fill tcpStreamPrefix.length src with
  | (some e, t, src) => (some e, t, src)
  | (none, t, src) =>
    if t.window.take tcpStreamPrefix.length ≠ tcpStreamPrefix then (some .badPrefix, t, src)
    else
      (none,
        { t with
          consumed := t.consumed ++ tcpStreamPrefix
          window := t.window.drop tcpStreamPrefix.length }, src)

def next (t : TCPReader) (src : Source ε) :
    Except (TCPError ε) Bytes × TCPReader × Source ε :=
  match t.fill tcpLenSize src with
  | (some e, t, src) => (.error e, t, src)
  | (none, t, src) =>
    let total := be16 t.window 0
    if total < tcpLenSize then (.error .frameShort, t, src)
    else if total = tcpLenSize then (.error .frameEmpty, t, src)
    else
      match t.fill total src with
      | (some e, t, src) => (.error e, t, src)
      | (none, t, src) =>
        (.ok ((t.window.take total).drop tcpLenSize),
          { t with
            consumed := t.consumed ++ t.window.take total, window := t.window.drop total }, src)

end TCPReader

def tcpFrameIsIKE (payload : Bytes) : Bool := 4 ≤ payload.length && payload.take 4 == nonESPMarker

/-- The message in a frame. -/
def tcpMessage (payload : Bytes) : TCPMessage :=
  if tcpFrameIsIKE payload then ⟨payload.drop nonESPMarker.length, true⟩ else ⟨payload, false⟩

def TCPReader.readFrame (t : TCPReader) (src : Source ε) :
    Except (TCPError ε) TCPMessage × TCPReader × Source ε :=
  match t.next src with
  | (.error e, t, src) => (.error e, t, src)
  | (.ok frame, t, src) => (.ok (tcpMessage frame), t, src)

/-- The results of `k` calls of `ReadFrame`. -/
def TCPReader.readFrames : ℕ → TCPReader → Source ε → List (Except (TCPError ε) TCPMessage)
  | 0, _, _ => []
  | k + 1, t, src =>
    (t.readFrame src).1 :: readFrames k (t.readFrame src).2.1 (t.readFrame src).2.2

/-- The end of the connection that reads. -/
inductive TCPEnd
  | originator
  | responder
  deriving DecidableEq, Repr

/-- What comes before the frames: only the originator sends a prefix. -/
def TCPEnd.expects : TCPEnd → Bytes
  | .originator => []
  | .responder => tcpStreamPrefix

/-- The reader before its first frame: in `serveStream` it takes the prefix first. -/
def TCPEnd.reader (side : TCPEnd) (src : Source ε) : Option (TCPError ε) × TCPReader × Source ε :=
  match side with
  | .originator => (none, newTCPReader, src)
  | .responder => newTCPReader.expectPrefix src

/-! ## Octets that are not lost -/

/-- In each round of the loop, what compaction leaves in the window are the octets that were there,
the first `skip` apart. -/
def TCPReader.LoopClean (skip n : ℕ) : ℕ → TCPReader → Source ε → Prop
  | 0, _, _ => True
  | fuel + 1, t, src =>
    t.window.length < n →
      (t.compact n).window.drop skip = t.window.drop skip ∧
        ∀ bs src', src.read (t.prepared n).spare.length = (bs, none, src') →
          LoopClean skip n fuel ((t.prepared n).store bs) src'

/-- A call of `Next` loses no octet that it still needs.  The length is read before the rest of the
frame. -/
def TCPReader.NextClean (t : TCPReader) (src : Source ε) : Prop :=
  t.LoopClean 0 tcpLenSize tcpLenSize src ∧
    ∀ t' src', t.fill tcpLenSize src = (none, t', src') →
      t'.LoopClean tcpLenSize (be16 t'.window 0) (be16 t'.window 0) src'

/-- None of `k` calls loses an octet that it needs. -/
def TCPReader.ReadsClean : ℕ → TCPReader → Source ε → Prop
  | 0, _, _ => True
  | k + 1, t, src =>
    t.NextClean src ∧ ReadsClean k (t.readFrame src).2.1 (t.readFrame src).2.2

/-! ## Filling the buffer -/

section Fill

variable {t : TCPReader} {src : Source ε} {n : ℕ}

namespace TCPReader

lemma compact_of_front (h : t.consumed = []) (n : ℕ) : t.compact n = t := by
  simp [compact, drifted, h]

section

variable (t : TCPReader)

lemma length_compact (n : ℕ) : (t.compact n).window.length = t.window.length := by
  unfold compact
  split_ifs
  · simp only [length_take, length_append]
    omega
  · rfl

@[simp] lemma grow_window (n : ℕ) : (t.grow n).window = t.window := by
  unfold grow
  simp only
  split_ifs <;> rfl

@[simp] lemma grow_consumed (n : ℕ) : (t.grow n).consumed = t.consumed := by
  unfold grow
  simp only
  split_ifs <;> rfl

lemma grow_room (hn : 0 < n) : 0 < (t.grow n).spare.length := by
  unfold grow
  simp only
  split_ifs with h
  · simp only [length_replicate]
    omega
  · simp only [cap] at h
    omega

@[simp] lemma store_window (bs : Bytes) : (t.store bs).window = t.window ++ bs := rfl

@[simp] lemma store_consumed (bs : Bytes) : (t.store bs).consumed = t.consumed := rfl

end

end TCPReader

/-- The outcome of `fill` when `unread` are the octets buffered or to come. -/
structure Filled (n : ℕ) (unread : Bytes) (err : ε)
    (out : Option (TCPError ε) × TCPReader × Source ε) : Prop where
  octets : out.2.1.window ++ out.2.2.octets = unread
  same_err : out.2.2.err = err
  ok : n ≤ unread.length → out.1 = none ∧ n ≤ out.2.1.window.length
  short : unread.length < n → out.1 = some (.stream err)

lemma filled_of_le (h : n ≤ t.window.length) (src : Source ε) :
    Filled n (t.window ++ src.octets) src.err (none, t, src) :=
  ⟨rfl, rfl, fun _ => ⟨rfl, h⟩, fun hs => by rw [length_append] at hs; omega⟩

open TCPReader

/-- A round of the loop whose read returns an error. -/
lemma filled_of_error {u : TCPReader} {bs : Bytes} {e : ε} {src' : Source ε}
    (hu : u.window.length < n) (hr : src.Reads u.spare.length bs (some e) src') :
    Filled n (u.window ++ src.octets) src.err
      (if bs ≠ [] ∧ n ≤ (u.store bs).window.length then (none, u.store bs, src')
        else (some (.stream e), u.store bs, src')) := by
  obtain ⟨rfl, hres⟩ := hr.last e rfl
  have hoct : src.octets = bs := by
    rw [← hr.octets, Source.octets_of_results hres, append_nil]
  have hlen : (u.store bs).window.length = (u.window ++ src.octets).length := by
    rw [hoct]
    rfl
  have hrest : (u.store bs).window ++ src'.octets = u.window ++ src.octets := by
    rw [← hr.octets, store_window, append_assoc]
  have hbs : n ≤ (u.window ++ src.octets).length → bs ≠ [] := by
    rintro hle rfl
    rw [hoct, append_nil] at hle
    omega
  split_ifs with hif
  · exact ⟨hrest, hr.err, fun _ => ⟨rfl, hif.2⟩, fun hs => by have := hif.2; omega⟩
  · exact ⟨hrest, hr.err, fun hle => absurd ⟨hbs hle, hlen ▸ hle⟩ hif, fun _ => rfl⟩

@[simp] lemma TCPReader.prepared_window (t : TCPReader) (n : ℕ) :
    (t.prepared n).window = (t.compact n).window := grow_window _ n

/-- **A round of the loop.**  It ends with the read's error, or goes on with more octets. -/
lemma fillLoop_round (skip : ℕ) (hn : 0 < n) {fuel : ℕ} (hlt : t.window.length < n)
    (hfuel : n ≤ t.window.length + (fuel + 1)) (src : Source ε) :
    Filled n ((t.compact n).window ++ src.octets) src.err (t.fillLoop n (fuel + 1) src) ∧
        (t.LoopClean skip n (fuel + 1) src ↔ (t.compact n).window.drop skip = t.window.drop skip) ∨
      ∃ bs src', bs ++ src'.octets = src.octets ∧ src'.err = src.err ∧
        n ≤ ((t.prepared n).store bs).window.length + fuel ∧
        t.fillLoop n (fuel + 1) src = ((t.prepared n).store bs).fillLoop n fuel src' ∧
        (t.LoopClean skip n (fuel + 1) src ↔ (t.compact n).window.drop skip = t.window.drop skip ∧
            ((t.prepared n).store bs).LoopClean skip n fuel src') := by
  have hwin : (t.prepared n).window.length = t.window.length := by
    rw [t.prepared_window, t.length_compact]
  have hroom : 0 < (t.prepared n).spare.length := (t.compact n).grow_room hn
  have hr := src.read_spec hroom
  obtain ⟨⟨bs, e, src'⟩, hread⟩ : ∃ x, src.read (t.prepared n).spare.length = x := ⟨_, rfl⟩
  simp only [hread] at hr
  rw [fillLoop, if_neg (by omega)]
  simp only [hread, TCPReader.LoopClean]
  cases e with
  | some e =>
    have hfill := filled_of_error (hwin ▸ hlt) hr
    rw [t.prepared_window] at hfill
    refine .inl ⟨hfill, fun h => (h hlt).1, fun h _ => ⟨h, ?_⟩⟩
    rintro _ _ ⟨⟩
  | none =>
    have hpos := length_pos_of_ne_nil (hr.some_octets rfl)
    refine .inr ⟨bs, src', hr.octets, hr.err, ?_, rfl, fun h => ⟨(h hlt).1, (h hlt).2 _ _ rfl⟩, ?_⟩
    · rw [store_window, length_append]
      omega
    · rintro ⟨h, hclean⟩ _
      refine ⟨h, ?_⟩
      rintro _ _ ⟨⟩
      exact hclean

/-- A reader with nothing consumed does not compact, and keeps all octets. -/
lemma fillLoop_front (skip : ℕ) (hn : 0 < n) :
    ∀ {fuel : ℕ} {t : TCPReader} (src : Source ε), t.consumed = [] → n ≤ t.window.length + fuel →
      Filled n (t.window ++ src.octets) src.err (t.fillLoop n fuel src) ∧
        t.LoopClean skip n fuel src
  | 0, t, src, _, hfuel => ⟨filled_of_le (by omega) src, trivial⟩
  | fuel + 1, t, src, h, hfuel => by
    by_cases hle : n ≤ t.window.length
    · rw [fillLoop, if_pos hle]
      exact ⟨filled_of_le hle src, fun hlt => absurd hle (by omega)⟩
    have hfront := t.compact_of_front h n
    rcases fillLoop_round skip hn (by omega) hfuel src with
      ⟨hfill, hclean⟩ | ⟨bs, src', hoct, herr, hmore, hloop, hclean⟩
    · rw [hfront] at hfill hclean
      exact ⟨hfill, hclean.mpr rfl⟩
    · have hcons : ((t.prepared n).store bs).consumed = [] := by
        rw [store_consumed, prepared, grow_consumed, hfront, h]
      obtain ⟨hfill, hrest⟩ := fillLoop_front skip hn src' hcons hmore
      rw [store_window, t.prepared_window, hfront, append_assoc, hoct, herr]
        at hfill
      rw [hloop]
      exact ⟨hfill, hclean.mpr ⟨by rw [hfront], hrest⟩⟩

/-- What compaction does to the octets buffered and those to come. -/
lemma compact_patch (hlt : t.window.length < n) (skip : ℕ) (more : Bytes) :
    ((t.compact n).window ++ more).length = (t.window ++ more).length ∧
      ((t.compact n).window ++ more).drop n = (t.window ++ more).drop n ∧
      (((t.compact n).window ++ more).drop skip = (t.window ++ more).drop skip ↔
        (t.compact n).window.drop skip = t.window.drop skip) := by
  have hlen := t.length_compact n
  simp only [drop_append, length_append, hlen, append_left_inj, true_and, and_true]
  rw [drop_of_length_le (by omega), drop_of_length_le (by omega)]

/-- **What the loop does to the octets.**  It leaves `u` where there was `unread`: the same but for
a stretch at the front, shorter than `n`, which compaction may replace. -/
lemma fillLoop_spec (skip : ℕ) (hn : 0 < n) :
    ∀ {fuel : ℕ} {t : TCPReader} (src : Source ε), n ≤ t.window.length + fuel →
      ∃ u : Bytes, u.length = (t.window ++ src.octets).length ∧
        u.drop n = (t.window ++ src.octets).drop n ∧ Filled n u src.err (t.fillLoop n fuel src) ∧
        (t.LoopClean skip n fuel src ↔ u.drop skip = (t.window ++ src.octets).drop skip)
  | 0, t, src, hfuel =>
    ⟨_, rfl, rfl, filled_of_le (by omega) src, by simp [TCPReader.LoopClean]⟩
  | fuel + 1, t, src, hfuel => by
    by_cases hle : n ≤ t.window.length
    · refine ⟨_, rfl, rfl, ?_, by simp [TCPReader.LoopClean, hle]⟩
      rw [fillLoop, if_pos hle]
      exact filled_of_le hle src
    obtain ⟨hlen, hdrop, hskip⟩ := compact_patch (not_le.1 hle) skip src.octets
    rcases fillLoop_round skip hn (not_le.1 hle) hfuel src with
      ⟨hfill, hclean⟩ | ⟨bs, src', hoct, herr, hmore, hloop, hclean⟩
    · -- the loop ends here, whether it has compacted or not
      exact ⟨_, hlen, hdrop, hfill, hclean.trans hskip.symm⟩
    rw [hloop, hclean]
    by_cases hdrift : t.drifted n
    · have hcons : ((t.prepared n).store bs).consumed = [] := by
        rw [store_consumed, prepared, grow_consumed, compact, if_pos hdrift]
      obtain ⟨hfill, hrest⟩ := fillLoop_front skip hn src' hcons hmore
      rw [store_window, t.prepared_window, append_assoc, hoct, herr] at hfill
      exact ⟨_, hlen, hdrop, hfill, by rw [hskip, and_iff_left hrest]⟩
    · have hsame : t.compact n = t := by rw [compact, if_neg hdrift]
      obtain ⟨u, hul, hun, hfill, hiff⟩ := fillLoop_spec skip hn src' hmore
      rw [store_window, t.prepared_window, hsame, append_assoc, hoct] at hul hun hiff
      rw [herr] at hfill
      exact ⟨u, hul, hun, hfill, by rw [hsame, ← hiff]; simp⟩

lemma fill_spec (t : TCPReader) (src : Source ε) (skip : ℕ) (hn : 0 < n) (hmax : n ≤ maxTCPFrame) :
    ∃ u : Bytes, u.length = (t.window ++ src.octets).length ∧
      u.drop n = (t.window ++ src.octets).drop n ∧ Filled n u src.err (t.fill n src) ∧
      (t.LoopClean skip n n src ↔ u.drop skip = (t.window ++ src.octets).drop skip) := by
  rw [fill, if_neg (by omega)]
  exact fillLoop_spec skip hn src (Nat.le_add_left n _)

lemma Filled.window_le {u : Bytes} {err : ε} {out : Option (TCPError ε) × TCPReader × Source ε}
    (h : Filled n u err out) (hnone : out.1 = none) : n ≤ out.2.1.window.length := by
  by_cases hle : n ≤ u.length
  · exact (h.ok hle).2
  · rw [h.short (by omega)] at hnone
    cases hnone

end Fill

/-! ## Frames -/

lemma exists_two_cons {u : Bytes} (h : 2 ≤ u.length) : ∃ a b rest, u = a :: b :: rest := by
  cases u with
  | nil => simp at h
  | cons a u =>
    cases u with
    | nil => simp at h
    | cons b u => exact ⟨a, b, u, rfl⟩

lemma eq_of_be16 {u v : Bytes} (hu : 2 ≤ u.length) (hv : 2 ≤ v.length)
    (h16 : be16 u 0 = be16 v 0) (hrest : u.drop 2 = v.drop 2) : u = v := by
  obtain ⟨a, b, u, rfl⟩ := exists_two_cons hu
  obtain ⟨a', b', v, rfl⟩ := exists_two_cons hv
  have hb := b.toNat_lt
  have hb' := b'.toNat_lt
  simp only [be16, getD_cons_zero, getD_cons_succ] at h16
  have ha : a = a' := UInt8.toNat_inj.mp (by omega)
  have hbb : b = b' := UInt8.toNat_inj.mp (by omega)
  have hr : u = v := hrest
  rw [ha, hbb, hr]

/-- The length and the content of a frame, before `more`. -/
structure Framed (unread p more : Bytes) : Prop where
  eq : unread = putBE16 (tcpLenSize + p.length) ++ (p ++ more)
  ne_nil : p ≠ []
  le : tcpLenSize + p.length ≤ maxTCPFrame

/-- **A call of `Next`** returns the frame that is next just if it loses no octet that it needs, and
then goes on behind it. -/
lemma next_spec {t : TCPReader} {src : Source ε} {p more : Bytes}
    (h : Framed (t.window ++ src.octets) p more) :
    (t.NextClean src ↔ (t.next src).1 = .ok p) ∧
      (t.NextClean src → (t.next src).2.1.window ++ (t.next src).2.2.octets = more ∧
        (t.next src).2.2.err = src.err) := by
  have hpos := length_pos_of_ne_nil h.ne_nil
  have hlen : (t.window ++ src.octets).length = 2 + p.length + more.length := by
    rw [h.eq, length_append, length_append, length_putBE16]
    omega
  have h16 : be16 (t.window ++ src.octets) 0 = 2 + p.length := by
    rw [h.eq]
    exact be16_of_lt (Nat.lt_succ_of_le h.le)
  obtain ⟨u, hul, hu2, hfill, hclean⟩ := fill_spec t src 0 (n := tcpLenSize) (by decide) (by decide)
  obtain ⟨⟨e, t₁, src₁⟩, hout⟩ : ∃ x, t.fill tcpLenSize src = x := ⟨_, rfl⟩
  rw [hout] at hfill
  obtain ⟨rfl, hwin⟩ : e = none ∧ 2 ≤ t₁.window.length :=
    hfill.ok (by rw [hul, hlen, tcpLenSize]; omega)
  have hu : t₁.window ++ src₁.octets = u := hfill.octets
  have htotal : be16 t₁.window 0 = be16 u 0 := by rw [← hu, be16_append hwin]
  have hnext : t.NextClean src ↔ u = t.window ++ src.octets ∧
      t₁.LoopClean tcpLenSize (be16 t₁.window 0) (be16 t₁.window 0) src₁ := by
    rw [TCPReader.NextClean, hclean, hout]
    exact and_congr Iff.rfl ⟨fun hall => hall _ _ rfl, fun hone _ _ he => by cases he; exact hone⟩
  rw [hnext, TCPReader.next, hout]
  simp only
  by_cases hsame : u = t.window ++ src.octets
  · -- the length is right
    rw [htotal, hsame, h16, if_neg (by rw [tcpLenSize]; omega), if_neg (by rw [tcpLenSize]; omega)]
    obtain ⟨v, hvl, hvn, hfill₂, hclean₂⟩ := fill_spec t₁ src₁ tcpLenSize (n := 2 + p.length)
      (by omega) h.le
    obtain ⟨⟨e, t₂, src₂⟩, hout₂⟩ : ∃ x, t₁.fill (2 + p.length) src₁ = x := ⟨_, rfl⟩
    rw [hout₂] at hfill₂
    rw [hu, hsame] at hvl hvn hclean₂
    obtain ⟨rfl, hwin₂⟩ : e = none ∧ 2 + p.length ≤ t₂.window.length :=
      hfill₂.ok (by rw [hvl, hlen]; omega)
    have hv : t₂.window ++ src₂.octets = v := hfill₂.octets
    have hmore : (t.window ++ src.octets).drop (2 + p.length) = more := by
      rw [h.eq, ← append_assoc]
      exact drop_left' (by simp)
    have hbody : (t.window ++ src.octets).drop 2 = p ++ more := by
      rw [h.eq]
      exact drop_left' rfl
    -- what the call returns, and what it leaves
    generalize hq : (t₂.window.take (2 + p.length)).drop tcpLenSize = q
    have hvq : v.drop 2 = q ++ more := by
      have htake : t₂.window.take (2 + p.length) = v.take (2 + p.length) := by
        rw [← hv, take_append_of_le_length hwin₂]
      rw [← hq, htake, ← hmore, ← hvn, ← drop_append_of_le_length, take_append_drop]
      · rfl
      · rw [length_take, hvl, hlen, tcpLenSize]
        omega
    have hiff : t₁.LoopClean tcpLenSize (2 + p.length) (2 + p.length) src₁ ↔ q = p := by
      rw [hclean₂, tcpLenSize, hvq, hbody, append_left_inj]
    rw [hout₂]
    simp only [hq, hiff, true_and]
    refine ⟨⟨congrArg _, fun he => by injection he⟩, fun _ => ⟨?_, ?_⟩⟩
    · rw [← hmore, ← hvn, ← hv, drop_append_of_le_length hwin₂]
    · exact hfill₂.same_err.trans hfill.same_err
  · -- the length is wrong, and so is that of what is returned
    have hwrong : be16 t₁.window 0 ≠ 2 + p.length := fun he => hsame
      (eq_of_be16 (by omega) (by omega) (by rw [← htotal, he, h16]) hu2)
    have hlt := be16_lt t₁.window 0
    generalize be16 t₁.window 0 = total at *
    refine ⟨⟨fun hc => absurd hc.1 hsame, fun hok => absurd hok ?_⟩, fun hc => absurd hc.1 hsame⟩
    split_ifs with hshort hempty
    · exact nofun
    · exact nofun
    obtain ⟨v, -, -, hfill₂, -⟩ := fill_spec t₁ src₁ 0 (n := total) (by omega)
      (by rw [maxTCPFrame]; omega)
    obtain ⟨⟨e, t₂, src₂⟩, hout₂⟩ : ∃ x, t₁.fill total src₁ = x := ⟨_, rfl⟩
    rw [hout₂] at hfill₂ ⊢
    cases e with
    | some e => exact nofun
    | none =>
      have hwin₂ : total ≤ t₂.window.length := hfill₂.window_le rfl
      simp only [Except.ok.injEq]
      intro he
      have := congrArg length he
      rw [length_drop, length_take, Nat.min_eq_left hwin₂] at this
      simp only [tcpLenSize] at *
      omega

/-- At the end of the stream there is its error. -/
lemma next_end {t : TCPReader} {src : Source ε} (h : t.window ++ src.octets = []) :
    (t.next src).1 = .error (.stream src.err) ∧
      (t.next src).2.1.window ++ (t.next src).2.2.octets = [] ∧
      (t.next src).2.2.err = src.err := by
  obtain ⟨u, hul, -, hfill, -⟩ := fill_spec t src 0 (n := tcpLenSize) (by decide) (by decide)
  obtain rfl : u = [] := length_eq_zero_iff.mp (by rw [hul, h]; rfl)
  obtain ⟨⟨e, t₁, src₁⟩, hout⟩ : ∃ x, t.fill tcpLenSize src = x := ⟨_, rfl⟩
  rw [hout] at hfill
  obtain rfl : e = some (.stream src.err) := hfill.short (by decide)
  rw [TCPReader.next, hout]
  exact ⟨rfl, hfill.octets, hfill.same_err⟩

/-! ## Messages -/

/-- The content of the frame of a message. -/
def TCPMessage.payload (m : TCPMessage) : Bytes :=
  if m.isIKE then nonESPMarker ++ m.pkt else m.pkt

open TCPMessage

lemma TCPMessage.frame_eq (m : TCPMessage) :
    m.frame = putBE16 (tcpLenSize + m.payload.length) ++ m.payload := by
  unfold frame payload
  split_ifs
  · rw [appendTCPIKE, nil_append, append_assoc, length_append, ← Nat.add_assoc]
  · rfl

variable {m : TCPMessage}

lemma tcpMessage_payload (h : m.Valid) : tcpMessage m.payload = m := by
  obtain ⟨pkt, isIKE⟩ := m
  cases isIKE with
  | true =>
    have hike : tcpFrameIsIKE (nonESPMarker ++ pkt) = true := by
      simp [tcpFrameIsIKE, nonESPMarker]
    simp only [tcpMessage, payload, if_true, hike, drop_left]
  | false =>
    have hesp : tcpFrameIsIKE pkt = false := by simp [tcpFrameIsIKE, (h rfl).2]
    simp [tcpMessage, payload, hesp]

lemma tcpMessage_injective : Function.Injective tcpMessage := by
  intro p q h
  have hike : ∀ x, tcpFrameIsIKE x = true → x = nonESPMarker ++ x.drop nonESPMarker.length := by
    intro x hx
    simp only [tcpFrameIsIKE, Bool.and_eq_true, beq_iff_eq] at hx
    conv_lhs => rw [← take_append_drop 4 x, hx.2]
    rfl
  unfold tcpMessage at h
  split_ifs at h with hp hq
  · rw [hike p hp, hike q hq, (mk.inj h).1]
  · cases (mk.inj h).2
  · cases (mk.inj h).2
  · exact (mk.inj h).1

lemma TCPMessage.payload_ne_nil (h : m.Valid) : m.payload ≠ [] := by
  unfold payload
  split_ifs with hike
  · simp [nonESPMarker]
  · exact ne_nil_of_length_pos (by have := (h (by simpa using hike)).1; omega)

/-- The octets of a call are the frames of its messages. -/
lemma TCPWrite.octets_eq (w : TCPWrite) : w.octets = w.messages.flatMap TCPMessage.frame := by
  cases w with
  | ike pkt | esp pkt => simp [TCPWrite.octets, TCPWrite.messages, frame]
  | espBatch pkts =>
    have hfold : ∀ dst, pkts.foldl appendTCPFrame dst =
        dst ++ (pkts.map (⟨·, false⟩)).flatMap frame := by
      induction pkts with
      | nil => simp
      | cons p pkts ih =>
        intro dst
        rw [foldl_cons, ih]
        simp [frame, appendTCPFrame]
    exact hfold []

/-- A length is written as it is just if it fits its field. -/
lemma be16_frame_iff (m : TCPMessage) :
    be16 m.frame 0 = m.frame.length ↔ m.frame.length ≤ maxTCPFrame := by
  have hlen : m.frame.length = tcpLenSize + m.payload.length := by
    rw [m.frame_eq, length_append, length_putBE16]
    rfl
  rw [hlen, m.frame_eq, be16_append (by simp), be16_putBE16, maxTCPFrame]
  omega

/-- One call of `ReadFrame`, before the frame of `m`. -/
lemma readFrame_spec {t : TCPReader} {src : Source ε} {more : Bytes} (hm : m.Valid)
    (hfit : m.frame.length ≤ maxTCPFrame) (h : t.window ++ src.octets = m.frame ++ more) :
    (t.NextClean src ↔ (t.readFrame src).1 = .ok m) ∧ (t.NextClean src →
        (t.readFrame src).2.1.window ++ (t.readFrame src).2.2.octets = more ∧
          (t.readFrame src).2.2.err = src.err) := by
  have hframed : Framed (t.window ++ src.octets) m.payload more := by
    refine ⟨by rw [h, m.frame_eq, append_assoc], payload_ne_nil hm, ?_⟩
    rw [m.frame_eq, length_append, length_putBE16] at hfit
    exact hfit
  obtain ⟨hiff, hrest⟩ := next_spec hframed
  rw [hiff] at hrest ⊢
  unfold TCPReader.readFrame
  revert hrest
  rcases t.next src with ⟨e | p, t', src'⟩
  · exact fun _ => ⟨⟨nofun, nofun⟩, nofun⟩
  intro hrest
  refine ⟨⟨fun he => ?_, fun he => ?_⟩, fun he => hrest he⟩
  · show Except.ok (tcpMessage p) = _
    rw [Except.ok.inj he, tcpMessage_payload hm]
  · have hp : tcpMessage p = m := Except.ok.inj he
    rw [← tcpMessage_payload hm] at hp
    rw [tcpMessage_injective hp]

lemma readFrame_end {t : TCPReader} {src : Source ε} (h : t.window ++ src.octets = []) :
    (t.readFrame src).1 = .error (.stream src.err) ∧
      (t.readFrame src).2.1.window ++ (t.readFrame src).2.2.octets = [] ∧
      (t.readFrame src).2.2.err = src.err := by
  obtain ⟨hnext, hrest⟩ := next_end h
  unfold TCPReader.readFrame
  revert hnext hrest
  rcases t.next src with ⟨e | p, t', src'⟩
  · exact fun hnext hrest => ⟨by rw [Except.error.inj hnext], hrest⟩
  · exact nofun

lemma readFrames_end (j : ℕ) : ∀ {t : TCPReader} {src : Source ε}, t.window ++ src.octets = [] →
      t.readFrames j src = List.replicate j (.error (.stream src.err)) := by
  induction j with
  | zero => exact fun _ => rfl
  | succ j ih =>
    intro t src h
    obtain ⟨hone, hnil, herr⟩ := readFrame_end h
    rw [TCPReader.readFrames, hone, ih hnil, herr, replicate_succ]

/-- **The run.**  The calls return the messages, and then the error, just if none loses an octet. -/
lemma readFrames_iff (j : ℕ) :
    ∀ {ms : List TCPMessage} {t : TCPReader} {src : Source ε}, (∀ m ∈ ms, m.Valid) →
      (∀ m ∈ ms, m.frame.length ≤ maxTCPFrame) →
      t.window ++ src.octets = ms.flatMap TCPMessage.frame →
      (t.readFrames (ms.length + j) src =
          ms.map .ok ++ List.replicate j (.error (.stream src.err)) ↔
        t.ReadsClean ms.length src)
  | [], t, src, _, _, h => by
    simp only [length_nil, Nat.zero_add, map_nil, nil_append, TCPReader.ReadsClean, iff_true]
    exact readFrames_end j h
  | m :: ms, t, src, hv, hfit, h => by
    obtain ⟨hiff, hrest⟩ := readFrame_spec (hv m (by simp)) (hfit m (by simp)) h
    rw [length_cons, Nat.succ_add, TCPReader.readFrames, TCPReader.ReadsClean, map_cons,
      cons_append, cons.injEq, ← hiff]
    refine and_congr_right fun hclean => ?_
    obtain ⟨hmore, herr⟩ := hrest hclean
    have ih := readFrames_iff j (fun x hx => hv x (mem_cons_of_mem m hx))
      (fun x hx => hfit x (mem_cons_of_mem m hx)) hmore
    rwa [herr] at ih

/-- The prefix comes before anything is consumed, so nothing of it is lost. -/
lemma reader_spec {side : TCPEnd} {src : Source ε} {more : Bytes}
    (h : src.octets = side.expects ++ more) : ∃ t src', side.reader src = (none, t, src') ∧
      t.window ++ src'.octets = more ∧ src'.err = src.err := by
  cases side with
  | originator => exact ⟨_, _, rfl, h, rfl⟩
  | responder =>
    obtain ⟨hfill, -⟩ := fillLoop_front (n := tcpStreamPrefix.length) (t := newTCPReader) 0
      (by decide) src rfl (Nat.le_add_left _ _)
    obtain ⟨⟨e, t, src'⟩, hout⟩ : ∃ x, newTCPReader.fill tcpStreamPrefix.length src = x := ⟨_, rfl⟩
    rw [show newTCPReader.fillLoop _ _ src = (e, t, src') from hout,
      show newTCPReader.window = [] from rfl, nil_append, h] at hfill
    obtain ⟨rfl, hlen⟩ : e = none ∧ tcpStreamPrefix.length ≤ t.window.length :=
      hfill.ok (by rw [length_append]; exact Nat.le_add_right _ _)
    have hoct : t.window ++ src'.octets = tcpStreamPrefix ++ more := hfill.octets
    have htake : t.window.take tcpStreamPrefix.length = tcpStreamPrefix := by
      rw [← take_append_of_le_length hlen, hoct, take_left]
    refine ⟨{ t with
      consumed := t.consumed ++ tcpStreamPrefix
      window := t.window.drop tcpStreamPrefix.length }, src', ?_, ?_, hfill.same_err⟩
    · rw [TCPEnd.reader, TCPReader.expectPrefix, hout]
      exact if_neg (not_not.mpr htake)
    · rw [← drop_append_of_le_length hlen, hoct, drop_left]

/-- **RFC 8229 framing.**  For every sequence of writes and every way in which the stream comes to
either end, the lengths written are right and the calls of `ReadFrame` return the messages and then
the stream's error, just if every frame fits its length field and no call loses an octet that it
needs. -/
theorem tcp_framing (side : TCPEnd) (ws : List TCPWrite)
    (hws : ∀ w ∈ ws, ∀ m ∈ w.messages, m.Valid) (src : Source ε)
    (hsrc : src.octets = side.expects ++ ws.flatMap TCPWrite.octets) (j : ℕ) :
    ∃ t src', side.reader src = (none, t, src') ∧
      ((∀ w ∈ ws, ∀ m ∈ w.messages, be16 m.frame 0 = m.frame.length) ∧
        t.readFrames ((ws.flatMap TCPWrite.messages).length + j) src' =
          (ws.flatMap TCPWrite.messages).map .ok ++ List.replicate j (.error (.stream src.err)) ↔
      (∀ w ∈ ws, ∀ m ∈ w.messages, m.frame.length ≤ maxTCPFrame) ∧
        t.ReadsClean (ws.flatMap TCPWrite.messages).length src') := by
  obtain ⟨t, src', hreader, hoct, herr⟩ := reader_spec hsrc
  refine ⟨t, src', hreader, ?_⟩
  simp only [be16_frame_iff, ← herr]
  refine and_congr_right fun hfit => ?_
  have hall : ∀ {P : TCPMessage → Prop}, (∀ w ∈ ws, ∀ m ∈ w.messages, P m) →
      ∀ m ∈ ws.flatMap TCPWrite.messages, P m := fun h m hm => by
    obtain ⟨w, hw, hmw⟩ := mem_flatMap.mp hm
    exact h w hw m hmw
  refine readFrames_iff j (hall hws) (hall hfit) ?_
  rw [hoct, flatMap_assoc, funext TCPWrite.octets_eq]

/-- A prefix and a message that come in two parts. -/
def splitSource : Source Unit :=
  ⟨[tcpStreamPrefix ++ [0, 7, 1, 2], [3, 4, 5]], (), true, by decide⟩

theorem tcp_framing_split : ∃ t src', TCPEnd.responder.reader splitSource = (none, t, src') ∧
      t.readFrames 2 src' = [.ok ⟨[1, 2, 3, 4, 5], false⟩, .error (.stream ())] ∧
      t.ReadsClean 1 src' := by
  obtain ⟨t, src', hreader, hiff⟩ := tcp_framing .responder [.esp [1, 2, 3, 4, 5]]
    (by simp [TCPWrite.messages, TCPMessage.Valid, nonESPMarker]) splitSource rfl 1
  have hread : (TCPEnd.responder.reader splitSource).2.1.readFrames 2
      (TCPEnd.responder.reader splitSource).2.2 =
        [.ok ⟨[1, 2, 3, 4, 5], false⟩, .error (.stream ())] := by decide +kernel
  rw [hreader] at hread
  refine ⟨t, src', hreader, hread, (hiff.mp ⟨?_, hread⟩).2⟩
  simp [TCPWrite.messages]
  decide

/-- A frame of 4082 octets and the first 14 octets of a frame of 22 fill the buffer; the rest of the
second frame comes later. -/
def driftSource : Source Unit :=
  ⟨[putBE16 4082 ++ List.replicate 4080 1 ++ putBE16 22 ++ List.replicate 12 2,
    List.replicate 8 2], (), false, by decide⟩

/-- **Compaction loses octets.**  The second packet is read with twelve octets of the first. -/
theorem compaction_loses_octets : driftSource.octets =
        [TCPWrite.esp (List.replicate 4080 1), .esp (List.replicate 20 2)].flatMap TCPWrite.octets ∧
      (newTCPReader.readFrames 2 driftSource).getLast? =
        some (.ok ⟨List.replicate 12 1 ++ List.replicate 8 2, false⟩) := by
  refine ⟨?_, by decide +kernel⟩
  have hpkt : (replicate 20 2 : Bytes) = replicate 12 2 ++ replicate 8 2 := rfl
  rw [hpkt, driftSource, Source.octets, flatten_cons, flatten_cons, flatten_nil,
    flatMap_cons, flatMap_cons, flatMap_nil]
  simp only [TCPWrite.octets, appendTCPFrame, length_append, length_replicate,
    append_assoc, nil_append, append_nil, tcpLenSize]

end Veepin.IKE
