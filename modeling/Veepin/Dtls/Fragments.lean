import Veepin.Core.Maps
import Veepin.Dtls.Record

/-!
# Handshake messages and their fragments

The model of `internal/dtls/handshake.go`: a message is cut into fragments that fit the path, and
the other end puts them together again in the order of `message_seq`.

* `feed_flight` — the fragments of messages that are due, in order, give these messages back;
* `feed_old` — those of messages that are behind have no effect.
-/

namespace Veepin.Dtls

open List Option

/-! ## 24-bit fields -/

/-- `uint24`. -/
def be24 (b : Bytes) (i : ℕ) : ℕ := (b.getD i 0).toNat * 65536 + be16 b (i + 1)

/-- `appendUint24`. -/
def putBE24 (n : ℕ) : Bytes := UInt8.ofNat (n / 65536) :: putBE16 n

@[simp] lemma length_putBE24 (n : ℕ) : (putBE24 n).length = 3 := rfl

lemma be24_putBE24 (n : ℕ) : be24 (putBE24 n) 0 = n % 16777216 := by
  have hhigh : (putBE24 n).getD 0 0 = UInt8.ofNat (n / 65536) := rfl
  have hlow : be16 (putBE24 n) (0 + 1) = n % 65536 := be16_putBE16 n
  rw [be24, hhigh, hlow, UInt8.toNat_ofNat']
  omega

lemma be24_of_lt {n : ℕ} (h : n < 2 ^ 24) : be24 (putBE24 n) 0 = n :=
  (be24_putBE24 n).trans (Nat.mod_eq_of_lt h)

/-! ## Messages -/

def handshakeHeaderLen : ℕ := 12

/-- `handshakeMsg`; `seq` is a 16-bit counter. -/
structure HandshakeMsg where
  typ : UInt8
  seq : ℕ
  body : Bytes
  deriving DecidableEq, Repr

/-- The fragment that carries the octets `chunk` from `off` on. -/
def HandshakeMsg.fragment (m : HandshakeMsg) (off : ℕ) (chunk : Bytes) : Bytes :=
  [m.typ] ++ putBE24 m.body.length ++ putBE16 m.seq ++ putBE24 off ++ putBE24 chunk.length ++ chunk

def HandshakeMsg.marshal (m : HandshakeMsg) : Bytes := m.fragment 0 m.body

/-- The loop of `fragments`, from `off` on; `fuel` is a bound on the pieces that are left. -/
def HandshakeMsg.cut (m : HandshakeMsg) (chunk : ℕ) : ℕ → ℕ → List Bytes
  | 0, _ => []
  | fuel + 1, off =>
    if off < m.body.length then
      m.fragment off ((m.body.drop off).take chunk) :: m.cut chunk fuel (off + chunk)
    else []

def HandshakeMsg.fragments (m : HandshakeMsg) (max : ℕ) : List Bytes :=
  if max ≤ handshakeHeaderLen then [m.marshal]
  else if m.body.length ≤ max - handshakeHeaderLen then [m.marshal]
  else m.cut (max - handshakeHeaderLen) m.body.length 0

structure FragmentHeader where
  typ : UInt8
  length : ℕ
  seq : ℕ
  offset : ℕ
  fragLen : ℕ
  body : Bytes
  consumed : ℕ
  deriving DecidableEq, Repr

def parseFragment (buf : Bytes) : Option FragmentHeader :=
  if buf.length < handshakeHeaderLen then none
  else
    let length := be24 buf 1
    let offset := be24 buf 6
    let fragLen := be24 buf 9
    let consumed := handshakeHeaderLen + fragLen
    if buf.length < consumed then none
    else if length < offset + fragLen then none
    else some
      { typ := buf.getD 0 0, length, seq := be16 buf 4, offset, fragLen
        body := (buf.take consumed).drop handshakeHeaderLen, consumed }

/-- The fields of a message fit into their places. -/
structure HandshakeMsg.Fits (m : HandshakeMsg) : Prop where
  seq : m.seq < 2 ^ 16
  body : m.body.length ≤ 2 ^ 16

open HandshakeMsg

lemma HandshakeMsg.length_fragment (m : HandshakeMsg) (off : ℕ) (chunk : Bytes) :
    (m.fragment off chunk).length = handshakeHeaderLen + chunk.length := by
  simp only [fragment, length_append, length_singleton, length_putBE24,
    length_putBE16, handshakeHeaderLen]

/-- The header of a fragment of `m`. -/
def HandshakeMsg.header (m : HandshakeMsg) (off : ℕ) (chunk : Bytes) : FragmentHeader :=
  ⟨m.typ, m.body.length, m.seq, off, chunk.length, chunk, handshakeHeaderLen + chunk.length⟩

variable {m : HandshakeMsg} {off : ℕ}

lemma parseFragment_fragment (hm : m.Fits) {chunk : Bytes}
    (hoff : off + chunk.length ≤ m.body.length) :
    parseFragment (m.fragment off chunk) = some (m.header off chunk) := by
  have hbody := hm.body
  have hlength : be24 (m.fragment off chunk) 1 = m.body.length := be24_of_lt (by omega)
  have hseq : be16 (m.fragment off chunk) 4 = m.seq := be16_of_lt hm.seq
  have hoffset : be24 (m.fragment off chunk) 6 = off := be24_of_lt (by omega)
  have hfragLen : be24 (m.fragment off chunk) 9 = chunk.length := be24_of_lt (by omega)
  have hall : ((m.fragment off chunk).take (handshakeHeaderLen + chunk.length)).drop
      handshakeHeaderLen = chunk := by
    rw [take_of_length_le (m.length_fragment off chunk).le]
    simp only [fragment, append_assoc]
    rfl
  have hlen := m.length_fragment off chunk
  rw [parseFragment, if_neg (by omega)]
  simp only [hlength, hseq, hoffset, hfragLen, hall]
  rw [if_neg (by omega), if_neg (by omega)]
  rfl

/-! ## Reassembly -/

structure PartialMsg where
  typ : UInt8
  body : Bytes
  filled : List Bool
  got : ℕ
  deriving DecidableEq, Repr

structure Reassembler where
  next : ℕ
  partials : AList fun _ : ℕ => PartialMsg

def newReassembler : Reassembler := ⟨0, ∅⟩

def maxHandshakeMsg : ℕ := 65536

/-- The octets of a fragment are copied to their place; those that are new are counted. -/
def PartialMsg.add (p : PartialMsg) (h : FragmentHeader) : PartialMsg :=
  { p with
    body := p.body.take h.offset ++ h.body ++ p.body.drop (h.offset + h.body.length)
    filled := p.filled.take h.offset ++ List.replicate h.fragLen true ++
      p.filled.drop (h.offset + h.fragLen)
    got := p.got + ((p.filled.drop h.offset).take h.fragLen).count false }

/-- The loop at the end of `accept`: the messages that are complete and due; `fuel` is the number of
messages that are held. -/
def Reassembler.ready : ℕ → Reassembler → Reassembler × List HandshakeMsg
  | 0, r => (r, [])
  | fuel + 1, r =>
    match r.partials.lookup r.next with
    | none => (r, [])
    | some p =>
      if p.got ≠ p.body.length then (r, [])
      else
        let rest := Reassembler.ready fuel ⟨(r.next + 1) % 65536, r.partials.erase r.next⟩
        (rest.1, ⟨p.typ, r.next, p.body⟩ :: rest.2)

/-- What is held of the message that a fragment is of. -/
def Reassembler.held (r : Reassembler) (h : FragmentHeader) : Option PartialMsg :=
  match r.partials.lookup h.seq with
  | some p => some p
  | none =>
    if maxHandshakeMsg < h.length then none
    else some ⟨h.typ, List.replicate h.length 0, List.replicate h.length false, 0⟩

/-- `accept`; `none` is an error. -/
def Reassembler.accept (r : Reassembler) (h : FragmentHeader) :
    Option (Reassembler × List HandshakeMsg) :=
  if h.seq < r.next then some (r, [])
  else
    match r.held h with
    | none => none
    | some p =>
      if p.typ ≠ h.typ ∨ p.body.length ≠ h.length then none
      else
        let partials := r.partials.insert h.seq (p.add h)
        some (Reassembler.ready (mapSize partials) ⟨r.next, partials⟩)

/-- One part after the other: the state is passed on, and what comes out is collected. -/
def collect {σ α : Type*} (x : Option (σ × List α)) (f : σ → Option (σ × List α)) :
    Option (σ × List α) :=
  x.bind fun q => (f q.1).map fun q' => (q'.1, q.2 ++ q'.2)

@[simp] lemma collect_some {σ α : Type*} (s : σ) (out : List α) (f : σ → Option (σ × List α)) :
    collect (some (s, out)) f = (f s).map fun q => (q.1, out ++ q.2) := rfl

@[simp] lemma collect_pure {σ α : Type*} (x : Option (σ × List α)) :
    collect x (fun s => some (s, [])) = x := by
  cases x <;> simp [collect]

lemma collect_assoc {σ α : Type*} (x : Option (σ × List α)) (f g : σ → Option (σ × List α)) :
    collect (collect x f) g = collect x fun s => collect (f s) g := by
  cases x with
  | none => rfl
  | some q =>
    simp only [collect, bind_some]
    cases f q.1 with
    | none => rfl
    | some q' =>
      simp only [Option.map_some, Option.bind_some, Option.map_map, append_assoc]
      rfl

/-- The fragments in one record, up to its end; `fuel` is a bound on their number. -/
def Reassembler.acceptAll : ℕ → Reassembler → Bytes → Option (Reassembler × List HandshakeMsg)
  | 0, r, _ => some (r, [])
  | fuel + 1, r, payload =>
    if payload = [] then some (r, [])
    else
      (parseFragment payload).bind fun h =>
        collect (r.accept h) fun r => Reassembler.acceptAll fuel r (payload.drop h.consumed)

/-- One record after the other. -/
def Reassembler.feed (r : Reassembler) : List Bytes → Option (Reassembler × List HandshakeMsg)
  | [] => some (r, [])
  | payload :: payloads =>
    collect (r.acceptAll payload.length payload) fun r => r.feed payloads

/-- A record that holds one fragment. -/
lemma acceptAll_fragment (hm : m.Fits) {chunk : Bytes} (hoff : off + chunk.length ≤ m.body.length)
    (r : Reassembler) :
    r.acceptAll (m.fragment off chunk).length (m.fragment off chunk) =
      r.accept (m.header off chunk) := by
  have hlen := m.length_fragment off chunk
  have hne : m.fragment off chunk ≠ [] := by
    intro hnil
    rw [hnil, length_nil, handshakeHeaderLen] at hlen
    omega
  obtain ⟨fuel, hfuel⟩ : ∃ fuel, (m.fragment off chunk).length = fuel + 1 + 1 :=
    ⟨10 + chunk.length, by rw [hlen, handshakeHeaderLen]; omega⟩
  have hdrop : (m.fragment off chunk).drop (m.header off chunk).consumed = [] :=
    drop_eq_nil_of_le hlen.le
  rw [hfuel, Reassembler.acceptAll, if_neg hne, parseFragment_fragment hm hoff, bind_some, hdrop]
  exact collect_pure _

/-- Pieces of a message one after the other, from `off` to its end. -/
inductive HandshakeMsg.Pieces (m : HandshakeMsg) : ℕ → List Bytes → Prop
  | last {off : ℕ} (hoff : off ≤ m.body.length) : m.Pieces off [m.fragment off (m.body.drop off)]
  | more {off n : ℕ} {fs : List Bytes} (hpos : 0 < n) (hn : off + n < m.body.length)
      (hrest : m.Pieces (off + n) fs) :
      m.Pieces off (m.fragment off ((m.body.drop off).take n) :: fs)

lemma pieces_cut {chunk : ℕ} (hchunk : 0 < chunk) : ∀ {fuel off : ℕ},
    off < m.body.length → m.body.length ≤ off + fuel → m.Pieces off (m.cut chunk fuel off)
  | 0, off, hoff, hfuel => absurd hoff (by omega)
  | fuel + 1, off, hoff, hfuel => by
    rw [cut, if_pos hoff]
    by_cases hend : off + chunk < m.body.length
    · exact .more hchunk hend (pieces_cut hchunk hend (by omega))
    -- the piece that reaches the end is the last
    have hnil : m.cut chunk fuel (off + chunk) = [] := by
      cases fuel with
      | zero => rfl
      | succ fuel => rw [cut, if_neg hend]
    have hall : (m.body.drop off).take chunk = m.body.drop off :=
      take_of_length_le (by rw [length_drop]; omega)
    rw [hnil, hall]
    exact .last hoff.le

/-- **The fragments of a message** are its pieces. -/
lemma pieces_fragments (m : HandshakeMsg) (max : ℕ) : m.Pieces 0 (m.fragments max) := by
  have hone : m.Pieces 0 [m.marshal] := .last (Nat.zero_le _)
  unfold fragments
  split_ifs with hmax hfits
  · exact hone
  · exact hone
  · exact pieces_cut (by omega) (by omega) (by omega)

/-- What is held of `m` when its first `off` octets have come. -/
def HandshakeMsg.upTo (m : HandshakeMsg) (off : ℕ) : PartialMsg :=
  ⟨m.typ, m.body.take off ++ List.replicate (m.body.length - off) 0,
    List.replicate off true ++ List.replicate (m.body.length - off) false, off⟩

lemma upTo_add (m : HandshakeMsg) {n : ℕ} (h : off + n ≤ m.body.length) :
    (m.upTo off).add (m.header off ((m.body.drop off).take n)) = m.upTo (off + n) := by
  have hlen : ((m.body.drop off).take n).length = n := by
    rw [length_take, length_drop]
    omega
  have htake : (m.body.take off).length = off := length_take_of_le (by omega)
  simp only [PartialMsg.add, upTo, header, hlen]
  congr 1
  · rw [take_left' htake, ← drop_drop, drop_left' htake, drop_replicate, take_add, Nat.sub_sub]
  · rw [take_left' (length_replicate ..), ← drop_drop, drop_left' (length_replicate ..),
      drop_replicate, replicate_append_replicate, Nat.sub_sub]
  · rw [drop_left' (length_replicate ..), take_replicate, count_replicate_self]
    omega

lemma upTo_zero (m : HandshakeMsg) : m.upTo 0 =
    ⟨m.typ, List.replicate m.body.length 0, List.replicate m.body.length false, 0⟩ := rfl

lemma upTo_length (m : HandshakeMsg) :
    m.upTo m.body.length = ⟨m.typ, m.body, List.replicate m.body.length true, m.body.length⟩ := by
  simp [upTo]

/-- A reassembler that holds nothing but a part of one message. -/
def holding (m : HandshakeMsg) (p : PartialMsg) : Reassembler :=
  ⟨m.seq, (∅ : AList fun _ : ℕ => PartialMsg).insert m.seq p⟩

/-- The reassembler waits for `m` and holds its first octets, or nothing at all. -/
def Reassembler.WaitsFor (r : Reassembler) (m : HandshakeMsg) (off : ℕ) : Prop :=
  r = holding m (m.upTo off) ∨ off = 0 ∧ r = ⟨m.seq, ∅⟩

lemma ready_holding (m : HandshakeMsg) (p : PartialMsg) :
    Reassembler.ready (mapSize (holding m p).partials) (holding m p) =
      if p.got ≠ p.body.length then (holding m p, [])
      else (⟨(m.seq + 1) % 65536, ∅⟩, [⟨p.typ, m.seq, p.body⟩]) := by
  have hsize : mapSize (holding m p).partials = 1 :=
    mapSize_insert (AList.notMem_empty _) p
  have herase : (holding m p).partials.erase m.seq = ∅ := by
    refine AList.ext ?_
    exact kerase_cons_eq rfl
  rw [hsize, Reassembler.ready, holding, AList.lookup_insert]
  dsimp only
  split_ifs
  · rfl
  · rw [show ((∅ : AList fun _ : ℕ => PartialMsg).insert m.seq p).erase m.seq = ∅ from herase]
    rfl

variable {r : Reassembler}

/-- **A piece that comes when it is due.** -/
lemma accept_piece (hm : m.Fits) {n : ℕ} (hr : r.WaitsFor m off) (hn : off + n ≤ m.body.length) :
    r.accept (m.header off ((m.body.drop off).take n)) =
      some (Reassembler.ready (mapSize (holding m (m.upTo (off + n))).partials)
        (holding m (m.upTo (off + n)))) := by
  have hnext : r.next = m.seq := by
    obtain rfl | ⟨-, rfl⟩ := hr <;> rfl
  have hheld : r.held (m.header off ((m.body.drop off).take n)) = some (m.upTo off) := by
    obtain rfl | ⟨rfl, rfl⟩ := hr
    · rw [Reassembler.held, header, holding, AList.lookup_insert]
    · have hsmall : ¬ maxHandshakeMsg < m.body.length := not_lt.mpr hm.body
      rw [Reassembler.held, header, AList.lookup_empty, upTo_zero]
      exact if_neg hsmall
  have hinsert : ∀ p, r.partials.insert m.seq p = (holding m p).partials := by
    intro p
    obtain rfl | ⟨-, rfl⟩ := hr
    · exact AList.insert_insert ..
    · rfl
  have hlen : (m.upTo off).body.length = m.body.length := by
    simp only [upTo, length_append, length_replicate, length_take]
    omega
  have hseq : ¬ (m.header off ((m.body.drop off).take n)).seq < r.next := by
    rw [hnext]
    exact lt_irrefl _
  rw [Reassembler.accept, if_neg hseq, hheld]
  dsimp only
  rw [if_neg (by rintro (h | h); exacts [h rfl, h hlen]), upTo_add m hn]
  simp only [header, hinsert, hnext]
  rfl

/-- **The pieces of a message that is due**, in order. -/
lemma feed_pieces (hm : m.Fits) {fs : List Bytes} (hfs : m.Pieces off fs) :
    ∀ {r : Reassembler}, r.WaitsFor m off → r.feed fs = some (⟨(m.seq + 1) % 65536, ∅⟩, [m]) := by
  induction hfs with
  | @last off hoff =>
    intro r hr
    have hall : (m.body.drop off).take (m.body.length - off) = m.body.drop off :=
      take_of_length_le (length_drop ..).le
    have hpiece := accept_piece hm hr (Nat.add_sub_cancel' hoff).le
    rw [Nat.add_sub_cancel' hoff, hall, ready_holding, upTo_length,
      if_neg (not_not.mpr rfl)] at hpiece
    have hfits : off + (m.body.drop off).length ≤ m.body.length := by
      rw [length_drop]
      omega
    rw [Reassembler.feed, acceptAll_fragment hm hfits, hpiece]
    rfl
  | @more off n fs _ hn _ ih =>
    intro r hr
    have hlen : ((m.body.drop off).take n).length = n := by
      rw [length_take, length_drop]
      omega
    have hpiece := accept_piece hm hr hn.le
    have hpart : (m.upTo (off + n)).got ≠ (m.upTo (off + n)).body.length := by
      simp only [upTo, length_append, length_replicate, length_take]
      omega
    rw [ready_holding, if_pos hpart] at hpiece
    rw [Reassembler.feed, acceptAll_fragment hm (by omega), hpiece, collect_some, ih (Or.inl rfl)]
    rfl

lemma feed_append (fs gs : List Bytes) : ∀ r : Reassembler,
    r.feed (fs ++ gs) = collect (r.feed fs) fun r => r.feed gs := by
  induction fs with
  | nil =>
    intro r
    simp [Reassembler.feed]
  | cons f fs ih =>
    intro r
    rw [cons_append, Reassembler.feed, Reassembler.feed, collect_assoc]
    simp only [ih]

/-- Messages whose numbers follow each other, from `n` on. -/
def Consecutive : ℕ → List HandshakeMsg → Prop
  | _, [] => True
  | n, m :: ms => m.seq = n ∧ m.Fits ∧ Consecutive (n + 1) ms

/-- The fragments of a flight. -/
def flightFragments (max : ℕ) (ms : List HandshakeMsg) : List Bytes :=
  ms.flatMap fun m => m.fragments max

/-- **A flight that is due.** -/
theorem feed_flight (max : ℕ) : ∀ {ms : List HandshakeMsg} {n : ℕ}, Consecutive n ms →
    n + ms.length < 65536 →
    Reassembler.feed ⟨n, ∅⟩ (flightFragments max ms) = some (⟨n + ms.length, ∅⟩, ms)
  | [], _, _, _ => rfl
  | m :: ms, n, ⟨hseq, hm, hms⟩, hn => by
    rw [length_cons] at hn
    have hfirst := feed_pieces hm (pieces_fragments m max) (Or.inr ⟨rfl, rfl⟩)
    rw [hseq, Nat.mod_eq_of_lt (by omega)] at hfirst
    have hrest := feed_flight max hms (by omega)
    rw [flightFragments] at hrest
    rw [flightFragments, flatMap_cons, feed_append, hfirst, collect_some, hrest,
      length_cons, map_some, Nat.add_assoc, Nat.add_comm 1]
    rfl

/-- A piece of a message that is behind. -/
lemma feed_old_pieces (hm : m.Fits) {fs : List Bytes} (hfs : m.Pieces off fs)
    (hr : m.seq < r.next) :
    r.feed fs = some (r, []) := by
  have hold : ∀ off chunk, r.accept (m.header off chunk) = some (r, []) := fun _ _ => if_pos hr
  induction hfs with
  | @last off hoff =>
    have hfits : off + (m.body.drop off).length ≤ m.body.length := by
      rw [length_drop]
      omega
    rw [Reassembler.feed, acceptAll_fragment hm hfits, hold]
    rfl
  | @more off n fs _ hn _ ih =>
    have hfits : off + ((m.body.drop off).take n).length ≤ m.body.length := by
      rw [length_take, length_drop]
      omega
    rw [Reassembler.feed, acceptAll_fragment hm hfits, hold, collect_some, ih]
    rfl

/-- **A flight that is behind** has no effect. -/
theorem feed_old (max : ℕ) : ∀ {ms : List HandshakeMsg},
    (∀ m ∈ ms, m.Fits ∧ m.seq < r.next) → r.feed (flightFragments max ms) = some (r, [])
  | [], _ => rfl
  | m :: ms, h => by
    obtain ⟨hm, hseq⟩ := h m mem_cons_self
    have hrest := feed_old max fun m' hm' => h m' (mem_cons_of_mem m hm')
    rw [flightFragments] at hrest
    rw [flightFragments, flatMap_cons, feed_append,
      feed_old_pieces hm (pieces_fragments m max) hseq, collect_some, hrest]
    rfl

end Veepin.Dtls
