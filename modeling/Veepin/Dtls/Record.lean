import Veepin.Core.Bytes
import Veepin.Core.Runs

/-!
# The DTLS record layer

The model of `internal/dtls/record.go`, and of the read side of an established connection in
`conn.go`: a datagram is a sequence of records, each of which is looked up in the replay window and
then opened.  Opening is a parameter: it succeeds on the records that the peer has sealed.

* `reads_eq` — over any datagrams, `Read` returns the payloads that processing them queues;
* `forgeries_harmless` — two sequences of datagrams that differ in records which do not open lead to
  the same payloads, as long as the window turns such records away.  `check` enters a sequence
  number before the record is opened, so one that the window lets in moves it
  (`forged_record_moves_window`).
-/

namespace Veepin.Dtls

open List

/-! ## Records -/

def recordChangeCipherSpec : UInt8 := 20
def recordAlert : UInt8 := 21
def recordHandshake : UInt8 := 22
def recordApplicationData : UInt8 := 23

def alertFatal : UInt8 := 2
def alertCloseNotify : UInt8 := 0

def version12 : ℕ := 0xfefd

def recordHeaderLen : ℕ := 13
def maxRecord : ℕ := 16384

/-- The octets that a read of the socket has room for. -/
def readBufLen : ℕ := maxRecord + recordHeaderLen + 256

structure Record where
  typ : UInt8
  version : ℕ
  epoch : ℕ
  sequence : ℕ
  fragment : Bytes
  deriving DecidableEq, Repr

/-- A 48-bit field. -/
def be48 (b : Bytes) (i : ℕ) : ℕ := be16 b i * 4294967296 + be32 b (i + 2)

/-- `putUint48`. -/
def putBE48 (n : ℕ) : Bytes := putBE16 (n / 4294967296) ++ putBE32 n

@[simp] lemma length_putBE48 (n : ℕ) : (putBE48 n).length = 6 := rfl

lemma be48_of_lt {n : ℕ} (h : n < 2 ^ 48) : be48 (putBE48 n) 0 = n := by
  have hhigh : be16 (putBE48 n) 0 = n / 4294967296 % 65536 := be16_putBE16 _
  have hlow : be32 (putBE48 n) (0 + 2) = n % 4294967296 := be32_putBE32 n
  rw [be48, hhigh, hlow]
  omega

/-- `parseRecord`: the record, and how many octets it takes up. -/
def parseRecord (buf : Bytes) : Option (Record × ℕ) :=
  if buf.length < recordHeaderLen then none
  else
    let total := recordHeaderLen + be16 buf 11
    if buf.length < total then none
    else some
      (⟨buf.getD 0 0, be16 buf 1, be16 buf 3, be48 buf 5, (buf.drop recordHeaderLen).take
        (be16 buf 11)⟩, total)

/-- `appendRecordHeader`, with the payload behind it. -/
def Record.encode (r : Record) : Bytes :=
  [r.typ] ++ putBE16 r.version ++ putBE16 r.epoch ++ putBE48 r.sequence ++
    putBE16 r.fragment.length ++ r.fragment

/-- The fields of a record fit into their places. -/
structure Record.Fits (r : Record) : Prop where
  version : r.version < 2 ^ 16
  epoch : r.epoch < 2 ^ 16
  sequence : r.sequence < 2 ^ 48
  fragment : r.fragment.length < 2 ^ 16

lemma Record.length_encode (r : Record) :
    r.encode.length = recordHeaderLen + r.fragment.length := by
  simp only [Record.encode, length_append, length_cons, length_nil, length_putBE16,
    length_putBE48, recordHeaderLen]

variable {r : Record}

lemma parseRecord_encode (hr : r.Fits) (rest : Bytes) :
    parseRecord (r.encode ++ rest) = some (r, r.encode.length) := by
  have hversion : be16 (r.encode ++ rest) 1 = r.version := be16_of_lt hr.version
  have hepoch : be16 (r.encode ++ rest) 3 = r.epoch := be16_of_lt hr.epoch
  have hsequence : be48 (r.encode ++ rest) 5 = r.sequence := be48_of_lt hr.sequence
  have hlength : be16 (r.encode ++ rest) 11 = r.fragment.length := be16_of_lt hr.fragment
  have hbody : ((r.encode ++ rest).drop recordHeaderLen).take r.fragment.length = r.fragment := by
    have hdrop : (r.encode ++ rest).drop recordHeaderLen = r.fragment ++ rest := by
      simp only [Record.encode, append_assoc]
      rfl
    rw [hdrop, take_left]
  have hlen : (r.encode ++ rest).length = recordHeaderLen + r.fragment.length + rest.length := by
    rw [length_append, Record.length_encode]
  rw [parseRecord, if_neg (by omega)]
  simp only [hlength, hversion, hepoch, hsequence, hbody]
  rw [if_neg (by omega), Record.length_encode]
  rfl

/-- The walk over a datagram; `fuel` is a bound on the records it can hold. -/
def recordsIn : ℕ → Bytes → List Record
  | 0, _ => []
  | fuel + 1, buf =>
    match parseRecord buf with
    | none => []
    | some (r, n) => r :: recordsIn fuel (buf.drop n)

/-- The records of a datagram, up to the first that is cut off. -/
def records (buf : Bytes) : List Record := recordsIn buf.length buf

lemma recordsIn_encode : ∀ {rs : List Record}, (∀ r ∈ rs, r.Fits) → ∀ {fuel : ℕ},
    (rs.flatMap Record.encode).length ≤ fuel → recordsIn fuel (rs.flatMap Record.encode) = rs
  | [], _, fuel, _ => by
    cases fuel <;> rfl
  | r :: rs, hrs, fuel, hfuel => by
    rw [flatMap_cons, length_append, Record.length_encode] at hfuel
    cases fuel with
    | zero => exact absurd hfuel (by simp [recordHeaderLen])
    | succ fuel =>
      have hle : (rs.flatMap Record.encode).length ≤ fuel := by
        simp only [recordHeaderLen] at hfuel
        omega
      rw [flatMap_cons, recordsIn, parseRecord_encode (hrs r mem_cons_self)]
      simp only [drop_left]
      rw [recordsIn_encode (fun q hq => hrs q (mem_cons_of_mem r hq)) hle]

/-- **A datagram of encoded records.** -/
theorem records_encode {rs : List Record} (h : ∀ r ∈ rs, r.Fits) :
    records (rs.flatMap Record.encode) = rs := recordsIn_encode h le_rfl

/-! ## The replay window -/

structure ReplayWindow where
  highest : ℕ := 0
  bitmap : BitVec 64 := 0
  started : Bool := false
  deriving DecidableEq, Repr

def replayWindowSize : ℕ := 64

/-- `check`: the window with the sequence number entered, if it is acceptable. -/
def ReplayWindow.check (w : ReplayWindow) (seq : ℕ) : Option ReplayWindow :=
  if !w.started then some { started := true, highest := seq, bitmap := 1 }
  else if w.highest < seq then
    let shift := seq - w.highest
    some { w with
      bitmap := if replayWindowSize ≤ shift then 1 else w.bitmap <<< shift ||| 1
      highest := seq }
  else
    let back := w.highest - seq
    if replayWindowSize ≤ back then none
    else if w.bitmap &&& (1#64 <<< back) ≠ 0 then none
    else some { w with bitmap := w.bitmap ||| (1#64 <<< back) }

/-! ## The read side -/

/-- The read side of an established `Conn`. -/
structure Reader where
  epoch : ℕ
  replay : ReplayWindow
  pending : List Bytes
  deriving DecidableEq, Repr

/-- What `processDatagram` returns. -/
inductive Processed
  | ok
  | noData
  | closed
  deriving DecidableEq, Repr

variable {c : Reader}

section Reading

variable (opens : Record → Option Bytes)

/-- One record: the connection afterwards, and whether it was a close_notify. -/
def Reader.record (c : Reader) (r : Record) : Reader × Bool :=
  if r.epoch ≠ c.epoch then (c, false)
  else
    match c.replay.check r.sequence with
    | none => (c, false)
    | some replay =>
      let c := { c with replay }
      match opens r with
      | none => (c, false)
      | some plain =>
        if r.typ = recordApplicationData then ({ c with pending := c.pending ++ [plain] }, false)
        else (c, decide (r.typ = recordAlert ∧ plain[1]? = some alertCloseNotify))

/-- The loop of `processDatagram`. -/
def Reader.walk (c : Reader) : List Record → Reader × Bool
  | [] => (c, false)
  | r :: rs =>
    match c.record opens r with
    | (c, true) => (c, true)
    | (c, false) => c.walk rs

def Reader.processDatagram (c : Reader) (buf : Bytes) : Reader × Processed :=
  match c.walk opens (records buf) with
  | (c', true) => (c', .closed)
  | (c', false) => (c', if c'.pending.length = c.pending.length then .noData else .ok)

/-- What `Read` returns. -/
inductive ReadResult
  | payload (b : Bytes)
  | eof
  deriving DecidableEq, Repr

/-- `Read` into a buffer of the given size, from the datagrams that arrive; `none` if it still waits
when they are used up. -/
def Reader.read (size : ℕ) : Reader → List Bytes → Option (ReadResult × Reader × List Bytes)
  | ⟨epoch, replay, pkt :: pending⟩, ds =>
    some (.payload (pkt.take size), ⟨epoch, replay, pending⟩, ds)
  | ⟨_, _, []⟩, [] => none
  | ⟨epoch, replay, []⟩, d :: ds =>
    match Reader.processDatagram opens ⟨epoch, replay, []⟩ (d.take readBufLen) with
    | (c, .closed) => some (.eof, c, ds)
    | (c, _) => Reader.read size c ds

/-- The payloads that successive calls of `Read` return, until one waits in vain.  An end of file
does not keep the caller from calling again. -/
inductive Reads (size : ℕ) : Reader → List Bytes → List Bytes → Prop
  | waits {c ds} (h : c.read opens size ds = none) : Reads size c ds []
  | payload {c ds b c' ds' out} (h : c.read opens size ds = some (.payload b, c', ds'))
      (hrest : Reads size c' ds' out) : Reads size c ds (b :: out)
  | eof {c ds c' ds' out} (h : c.read opens size ds = some (.eof, c', ds'))
      (hrest : Reads size c' ds' out) : Reads size c ds out

/-- A datagram arrives. -/
def Reader.receive (c : Reader) (d : Bytes) : Reader :=
  (c.processDatagram opens (d.take readBufLen)).1

variable {opens}

lemma processDatagram_fst (c : Reader) (buf : Bytes) :
    (c.processDatagram opens buf).1 = (c.walk opens (records buf)).1 := by
  unfold Reader.processDatagram
  rcases c.walk opens (records buf) with ⟨c', _ | _⟩ <;> rfl

/-- Payloads in front of the queue. -/
def Reader.behind (c : Reader) (front : List Bytes) : Reader :=
  { c with pending := front ++ c.pending }

/-- A record for another epoch, or one that the window turns away, changes nothing. -/
lemma record_ignored {c : Reader} {r : Record}
    (h : r.epoch ≠ c.epoch ∨ c.replay.check r.sequence = none) : c.record opens r = (c, false) := by
  unfold Reader.record
  by_cases he : r.epoch ≠ c.epoch
  · rw [if_pos he]
  · rw [if_neg he, h.resolve_left he]

/-- What a record does that the window lets in. -/
lemma record_admitted {w : ReplayWindow} (he : r.epoch = c.epoch)
    (hw : c.replay.check r.sequence = some w) :
    c.record opens r =
      match opens r with
      | none => ({ c with replay := w }, false)
      | some plain =>
        if r.typ = recordApplicationData then
          ({ c with replay := w, pending := c.pending ++ [plain] }, false)
        else ({ c with replay := w },
          decide (r.typ = recordAlert ∧ plain[1]? = some alertCloseNotify)) := by
  rw [Reader.record, if_neg (not_not.mpr he), hw]

/-- What waits in the queue has no influence on what is done with a record. -/
lemma record_behind (c : Reader) (front : List Bytes) (r : Record) :
    (c.behind front).record opens r =
      ((c.record opens r).1.behind front, (c.record opens r).2) := by
  by_cases he : r.epoch = c.epoch
  · cases hw : c.replay.check r.sequence with
    | none =>
      rw [record_ignored (Or.inr hw), record_ignored (c := c.behind front) (Or.inr hw)]
    | some w =>
      rw [record_admitted (c := c.behind front) he hw, record_admitted he hw]
      cases opens r with
      | none => rfl
      | some plain =>
        dsimp only
        split_ifs
        · simp only [Reader.behind, append_assoc]
        · rfl
  · rw [record_ignored (Or.inl he), record_ignored (c := c.behind front) (Or.inl he)]

lemma walk_behind (front : List Bytes) : ∀ (rs : List Record) (c : Reader),
    (c.behind front).walk opens rs = ((c.walk opens rs).1.behind front, (c.walk opens rs).2)
  | [], _ => rfl
  | r :: rs, c => by
    rw [Reader.walk, Reader.walk, record_behind]
    rcases c.record opens r with ⟨c', _ | _⟩
    · exact walk_behind front rs c'
    · rfl

lemma receive_behind (c : Reader) (front : List Bytes) (d : Bytes) :
    (c.behind front).receive opens d = (c.receive opens d).behind front := by
  rw [Reader.receive, processDatagram_fst, walk_behind, Reader.receive, processDatagram_fst]

lemma run_behind (front : List Bytes) : ∀ (ds : List Bytes) (c : Reader),
    run (Reader.receive opens) (c.behind front) ds = (run (Reader.receive opens) c ds).behind front
  | [], _ => rfl
  | d :: ds, c => by
    rw [run_cons, run_cons, receive_behind]
    exact run_behind front ds _

/-- One call of `Read`, seen from the payloads that all the datagrams queue. -/
lemma read_spec (size : ℕ) : ∀ (ds : List Bytes) (c : Reader),
    match c.read opens size ds with
    | none => (run (Reader.receive opens) c ds).pending = []
    | some (.payload b, c', ds') =>
        (run (Reader.receive opens) c ds).pending.map (List.take size) =
          b :: (run (Reader.receive opens) c' ds').pending.map (List.take size)
    | some (.eof, c', ds') =>
        run (Reader.receive opens) c ds = run (Reader.receive opens) c' ds'
  | ds, ⟨epoch, replay, pkt :: pending⟩ => by
    have hfront := @run_behind opens [pkt] ds ⟨epoch, replay, pending⟩
    rw [Reader.read]
    dsimp only
    rw [show (⟨epoch, replay, pkt :: pending⟩ : Reader) =
      Reader.behind ⟨epoch, replay, pending⟩ [pkt] from rfl, hfront]
    rfl
  | [], ⟨_, _, []⟩ => rfl
  | d :: ds, ⟨epoch, replay, []⟩ => by
    have ih := read_spec size ds
      ((⟨epoch, replay, []⟩ : Reader).processDatagram opens (d.take readBufLen)).1
    rw [Reader.read]
    rcases hp : (⟨epoch, replay, []⟩ : Reader).processDatagram opens (d.take readBufLen) with
      ⟨c', _ | _ | _⟩
    all_goals
      have hc' : (⟨epoch, replay, []⟩ : Reader).receive opens d = c' := congrArg Prod.fst hp
      rw [hp] at ih
      rw [run_cons, hc']
    · exact ih
    · exact ih

/-- **What `Read` returns**, over any datagrams. -/
theorem reads_eq {size : ℕ} {ds : List Bytes} {out : List Bytes} (h : Reads opens size c ds out) :
    out = (run (Reader.receive opens) c ds).pending.map (List.take size) := by
  induction h with
  | @waits c ds h =>
    have hspec := @read_spec opens size ds c
    rw [h] at hspec
    dsimp only at hspec
    rw [hspec]
    rfl
  | @payload c ds b c' ds' out h _ ih =>
    have hspec := @read_spec opens size ds c
    rw [h] at hspec
    exact (congrArg (b :: ·) ih).trans hspec.symm
  | @eof c ds c' ds' out h _ ih =>
    have hspec := @read_spec opens size ds c
    rw [h] at hspec
    rw [ih, show run (Reader.receive opens) c ds = _ from hspec]

lemma Reads.of_read_eq {size : ℕ} {c' : Reader} {ds ds' out : List Bytes}
    (h : Reads opens size c' ds' out) (he : c.read opens size ds = c'.read opens size ds') :
    Reads opens size c ds out := by
  cases h with
  | waits h => exact .waits (he.trans h)
  | payload h hrest => exact .payload (he.trans h) hrest
  | eof h hrest => exact .eof (he.trans h) hrest

/-- The calls of `Read` come to an end: each takes a payload from the queue or a datagram. -/
lemma exists_reads (opens : Record → Option Bytes) (size : ℕ) : ∀ (ds : List Bytes) (c : Reader),
    ∃ out, Reads opens size c ds out := by
  intro ds
  induction ds using rec with
  | nil =>
    rintro ⟨epoch, replay, pending⟩
    induction pending with
    | nil => exact ⟨[], .waits rfl⟩
    | cons pkt pending ih =>
      obtain ⟨out, hout⟩ := ih
      exact ⟨_, .payload rfl hout⟩
  | cons d ds ih =>
    rintro ⟨epoch, replay, pending⟩
    induction pending with
    | nil =>
      obtain ⟨out, hout⟩ := ih
        ((⟨epoch, replay, []⟩ : Reader).processDatagram opens (d.take readBufLen)).1
      rcases hp : (⟨epoch, replay, []⟩ : Reader).processDatagram opens (d.take readBufLen) with
        ⟨c', _ | _ | _⟩
      all_goals rw [hp] at hout
      · exact ⟨out, hout.of_read_eq (by rw [Reader.read, hp])⟩
      · exact ⟨out, hout.of_read_eq (by rw [Reader.read, hp])⟩
      · exact ⟨out, .eof (by rw [Reader.read, hp]) hout⟩
    | cons pkt pending ihp =>
      obtain ⟨out, hout⟩ := ihp
      exact ⟨_, .payload rfl hout⟩

end Reading

/-! ## Forged records -/

section Forgeries

variable (opens : Record → Option Bytes)

/-- A record that opens is one of the peer's. -/
def genuine (r : Record) : Bool := (opens r).isSome

/-- The records of the peer, datagram by datagram; a datagram without any is left out. -/
def genuineRecords (ds : List Bytes) : List (List Record) :=
  (ds.map fun d => (records (d.take readBufLen)).filter (genuine opens)).filter (· ≠ [])

/-- A record that does not open is turned away before it is opened. -/
def Reader.TurnsAway (c : Reader) (r : Record) : Prop :=
  genuine opens r = true ∨ r.epoch ≠ c.epoch ∨ c.replay.check r.sequence = none

instance (c : Reader) (r : Record) : Decidable (c.TurnsAway opens r) :=
  inferInstanceAs (Decidable (_ ∨ _))

/-- All records of a datagram are, as far as the walk gets. -/
def Reader.TurnsAwayAll (c : Reader) : List Record → Prop
  | [] => True
  | r :: rs => c.TurnsAway opens r ∧
      ((c.record opens r).2 = false → (c.record opens r).1.TurnsAwayAll rs)

instance Reader.decidableTurnsAwayAll : ∀ (rs : List Record) (c : Reader),
    Decidable (c.TurnsAwayAll opens rs)
  | [], _ => isTrue trivial
  | r :: rs, c =>
    have := Reader.decidableTurnsAwayAll rs (c.record opens r).1
    inferInstanceAs (Decidable (_ ∧ (_ → _)))

variable {opens}

lemma walk_filter : ∀ {rs : List Record} {c : Reader}, c.TurnsAwayAll opens rs →
    c.walk opens rs = c.walk opens (rs.filter (genuine opens))
  | [], _, _ => rfl
  | r :: rs, c, ⟨hr, hrs⟩ => by
    by_cases hg : genuine opens r = true
    · rw [filter_cons_of_pos hg, Reader.walk, Reader.walk]
      rcases hrec : c.record opens r with ⟨c', _ | _⟩
      · rw [hrec] at hrs
        exact walk_filter (hrs rfl)
      · rfl
    · -- the forged record has no effect
      have hsame := @record_ignored opens c r (hr.resolve_left hg)
      rw [hsame] at hrs
      rw [filter_cons_of_neg hg, Reader.walk, hsame]
      exact walk_filter (hrs rfl)

/-- The walk over the records of one datagram after the other. -/
def Reader.walkAll (opens : Record → Option Bytes) (c : Reader) (groups : List (List Record)) :
    Reader :=
  run (fun c rs => (Reader.walk opens c rs).1) c groups

lemma run_genuine : ∀ {ds : List Bytes} {c : Reader}, Along (Reader.receive opens)
      (fun c d => c.TurnsAwayAll opens (records (d.take readBufLen))) c ds →
    run (Reader.receive opens) c ds = c.walkAll opens (genuineRecords opens ds)
  | [], _, _ => rfl
  | d :: ds, c, ⟨hd, hds⟩ => by
    have hstep : c.receive opens d =
        (c.walk opens ((records (d.take readBufLen)).filter (genuine opens))).1 := by
      rw [Reader.receive, processDatagram_fst, walk_filter hd]
    have ih := run_genuine hds
    rw [run_cons, ih, genuineRecords, genuineRecords, map_cons]
    by_cases hnil : (records (d.take readBufLen)).filter (genuine opens) = []
    · rw [filter_cons_of_neg (by simpa using hnil), hstep, hnil]
      rfl
    · rw [filter_cons_of_pos (by simpa using hnil), Reader.walkAll, Reader.walkAll, run_cons, hstep]

/-- **Forged records that are turned away have no effect.**  Two sequences of datagrams hold the
same records of the peer, and in both the window turns every other record away: `Read` returns the
same payloads. -/
theorem forgeries_harmless (opens : Record → Option Bytes) (size : ℕ) (c : Reader)
    (ds ds' out out' : List Bytes) (hsame : genuineRecords opens ds = genuineRecords opens ds')
    (hds : Along (Reader.receive opens)
      (fun c d => c.TurnsAwayAll opens (records (d.take readBufLen))) c ds)
    (hds' : Along (Reader.receive opens)
      (fun c d => c.TurnsAwayAll opens (records (d.take readBufLen))) c ds')
    (hout : Reads opens size c ds out) (hout' : Reads opens size c ds' out') : out = out' := by
  rw [reads_eq hout, reads_eq hout', run_genuine hds, run_genuine hds', hsame]

/-- An opening without any strength: a sealed payload is one behind an octet 1. -/
def plainOpens (r : Record) : Option Bytes :=
  match r.fragment with
  | 1 :: plain => some plain
  | _ => none

/-- A record of application data in epoch 1. -/
def dataRecord (sequence : ℕ) (fragment : Bytes) : Record :=
  ⟨recordApplicationData, version12, 1, sequence, fragment⟩

/-- A connection whose peer has sent its Finished, as the first record of epoch 1. -/
def established : Reader := ⟨1, { highest := 0, bitmap := 1, started := true }, []⟩

/-- The peer's next record. -/
def nextRecord : Record := dataRecord 1 [1, 7]

lemma reads_nextRecord : Reads plainOpens 64 established [nextRecord.encode] [[7]] := by
  have hread : established.read plainOpens 64 [nextRecord.encode] =
      some (.payload [7], { established with replay := ⟨1, 3, true⟩ }, []) := by decide
  exact .payload hread (.waits rfl)

/-- A forged record with the sequence number of a record that has arrived before. -/
theorem forgeries_harmless_replayed :
    Reads plainOpens 64 established [nextRecord.encode ++ (dataRecord 1 [0, 9]).encode] [[7]] := by
  obtain ⟨out, hout⟩ := exists_reads plainOpens 64
    [nextRecord.encode ++ (dataRecord 1 [0, 9]).encode] established
  have hsame := forgeries_harmless plainOpens 64 established _ _ _ _ (by decide)
    (by decide) (by decide) reads_nextRecord hout
  exact hsame ▸ hout

/-- **One forged record cuts the connection off.**  It has the highest sequence number there is; the
window moves up to it, and the record of the peer behind it is too old. -/
theorem forged_record_suppresses : genuineRecords plainOpens [nextRecord.encode] =
        genuineRecords plainOpens [(dataRecord (2 ^ 48 - 1) [0]).encode, nextRecord.encode] ∧
      Reads plainOpens 64 established [nextRecord.encode] [[7]] ∧
      Reads plainOpens 64 established
        [(dataRecord (2 ^ 48 - 1) [0]).encode, nextRecord.encode] [] :=
  ⟨by decide, reads_nextRecord, .waits (by decide)⟩

/-- A sequence number that is let in is entered in the window. -/
lemma check_ne {w w' : ReplayWindow} {seq : ℕ} (h : w.check seq = some w') : w' ≠ w := by
  intro hsame
  subst hsame
  unfold ReplayWindow.check at h
  dsimp only at h
  by_cases hstarted : w'.started = true
  · rw [hstarted, Bool.not_true, if_neg Bool.false_ne_true] at h
    by_cases hhigh : w'.highest < seq
    · rw [if_pos hhigh] at h
      have := congrArg ReplayWindow.highest (Option.some.inj h)
      dsimp only at this
      omega
    rw [if_neg hhigh] at h
    split_ifs at h with hback hbit
    -- the bit was not set before
    have hlt : w'.highest - seq < 64 := Nat.lt_of_not_le hback
    have hor := congrArg (fun w => w.bitmap.getLsbD (w'.highest - seq)) (Option.some.inj h)
    have hand := congrArg (fun b => b.getLsbD (w'.highest - seq)) (not_not.mp hbit)
    simp [hlt] at hor hand
    rw [hor] at hand
    cases hand
  · rw [Bool.eq_false_iff.mpr hstarted, Bool.not_false, if_pos rfl] at h
    exact hstarted (congrArg ReplayWindow.started (Option.some.inj h)).symm

/-- **Otherwise they have one.**  A record that does not open and is not turned away changes the
window. -/
theorem forged_record_moves_window (h : ¬ c.TurnsAway opens r) : (c.record opens r).1 ≠ c := by
  unfold Reader.TurnsAway at h
  push Not at h
  obtain ⟨hforged, he, hw⟩ := h
  obtain ⟨w, hw⟩ := Option.ne_none_iff_exists'.mp hw
  have hnone : opens r = none := by simpa [genuine] using hforged
  rw [record_admitted he hw, hnone]
  intro hsame
  exact check_ne hw (congrArg Reader.replay hsame)

end Forgeries

end Veepin.Dtls
