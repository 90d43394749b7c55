import Veepin.Core.Bytes

/-!
# Receive coalescing

The model of `dataplane/gro_linux.go`.  Within one batch of inner packets, consecutive segments of
a TCP flow are joined into one frame for the TUN: a packet is appended to its flow's group, or the
group is flushed and the packet starts it anew; what cannot be coalesced is written through.

Two things about Go slices matter here and are modelled.  An index into a group's buffer is
checked against the length of the slice, but a slice expression only against its capacity, so it
can read octets of the backing array past the length; and `buf[:0]` keeps those octets.  So a
buffer is its backing array and a length.  An index out of range stops the program: every function
that indexes returns an `Option`, and `none` is that stop.

Writes to the TUN succeed; a frame is what is handed to the write.
-/

namespace Veepin.Gro

/-! ## Checksums -/

def onesComplementSum : UInt32 → Bytes → UInt32
  | acc, a :: b :: rest => onesComplementSum (acc + (a.toUInt32 <<< 8 ||| b.toUInt32)) rest
  | acc, [a] => acc + a.toUInt32 <<< 8
  | acc, [] => acc

/-- The loop of `foldSum`, for at most `fuel` rounds. -/
def foldLoop : ℕ → UInt32 → UInt32
  | 0, acc => acc
  | fuel + 1, acc =>
    if acc >>> 16 = 0 then acc else foldLoop fuel ((acc &&& (0xffff : UInt32)) + (acc >>> 16))

/-- `foldSum`; two rounds always fold the carries in. -/
def foldSum (acc : UInt32) : UInt16 := (foldLoop 2 acc).toUInt16

/-! ## Groups -/

/-- The cap of a coalesced frame, and the capacity of a group's buffer. -/
def groMaxLen : ℕ := 65535

def protoTCP : UInt8 := 6

def tcpFlagFIN : UInt8 := 0x01

def tcpFlagPSH : UInt8 := 0x08

def tcpFlagACK : UInt8 := 0x10

def tcpFlagMask : UInt8 := 0x3f

/-- `groGroup`.  `mem` is the written part of the buffer's backing array and `len` the length of
the slice `buf`. -/
structure Group where
  mem : Bytes := []
  len : ℕ := 0
  length : ℕ := 0
  segs : ℕ := 0
  gsoSize : ℕ := 0
  nextSeq : ℕ := 0
  nextID : ℕ := 0
  closed : Bool := false
  deriving DecidableEq, Repr

/-- `buf[i]`. -/
def Group.index (g : Group) (i : ℕ) : Option UInt8 :=
  if i < g.len then some (g.mem.getD i 0) else none

/-- `buf[i:j]`, which may reach past the length up to the capacity. -/
def Group.slice (g : Group) (i j : ℕ) : Option Bytes :=
  if i ≤ j ∧ j ≤ groMaxLen then some ((g.mem.drop i ++ List.replicate j 0).take (j - i)) else none

/-- `b[i:j]` of a packet. -/
def pktSlice (b : Bytes) (i j : ℕ) : Option Bytes :=
  if i ≤ j ∧ j ≤ b.length then some ((b.drop i).take (j - i)) else none

/-- The octets `data` written over a string at an offset. -/
def overwrite (b : Bytes) (off : ℕ) (data : Bytes) : Bytes :=
  b.take off ++ data ++ b.drop (off + data.length)

/-- The virtio-net header of a coalesced frame. -/
structure VirtioNetHdr where
  flags : UInt8
  gsoType : UInt8
  hdrLen : ℕ
  gsoSize : ℕ
  csumStart : ℕ
  csumOffset : ℕ
  deriving DecidableEq, Repr

def vnetFlagNeedsCsum : UInt8 := 1

def vnetGSOTCPv4 : UInt8 := 1

/-- What is written to the TUN: a packet, or a coalesced frame with its header. -/
inductive Frame
  | packet (data : Bytes)
  | gso (hdr : VirtioNetHdr) (data : Bytes)
  deriving DecidableEq, Repr

/-- `groTable`, and the frames written so far.  The first `n` groups are in use. -/
structure Table where
  groups : List Group
  n : ℕ
  out : List Frame
  deriving DecidableEq, Repr

/-! ## The merge rules -/

/-- Tests made one after the other until one fails; a test that indexes out of range stops the
program only if it is reached. -/
def allTests : List (Option Bool) → Option Bool
  | [] => some true
  | none :: _ => none
  | some false :: _ => some false
  | some true :: tests => allTests tests

def coalescible (pkt : Bytes) : Option Bool :=
  allTests [
    some (40 ≤ pkt.length),
    do return (← pkt[0]?) == 0x45,
    do return (← pkt[9]?) == protoTCP,
    some (be16 pkt 2 == pkt.length),
    -- DF set and no fragment
    some (be16 pkt 6 == 0x4000),
    do
      let thl := (← pkt[32]?).toNat / 16 * 4
      return 20 ≤ thl && 20 + thl ≤ pkt.length,
    do
      let flags := (← pkt[33]?) &&& tcpFlagMask
      return flags &&& ~~~(tcpFlagACK ||| tcpFlagPSH ||| tcpFlagFIN) == 0 &&
        flags &&& tcpFlagACK != 0,
    do return 20 + (← pkt[32]?).toNat / 16 * 4 < pkt.length]

def tcpChecksumOK (pkt : Bytes) : Option Bool := do
  let acc := onesComplementSum 0 (← pktSlice pkt 12 20)
  let acc := acc + (protoTCP.toUInt32 + UInt32.ofNat (pkt.length - 20))
  let acc := onesComplementSum acc (← pktSlice pkt 20 pkt.length)
  return foldSum acc == 0xffff

/-- `sameFlow`: addresses and ports in one comparison. -/
def Group.sameFlow (g : Group) (pkt : Bytes) : Option Bool := do
  return (← g.slice 12 24) == (← pktSlice pkt 12 24)

/-- The flags that must match between segments. -/
def fixedFlags (b : UInt8) : UInt8 := b &&& tcpFlagMask &&& ~~~(tcpFlagPSH ||| tcpFlagFIN)

def Group.canAppend (g : Group) (pkt : Bytes) : Option Bool :=
  allTests [
    some !g.closed,
    do return (← pkt[32]?).toNat / 16 == 5,
    do return (← g.index 32).toNat / 16 == 5,
    some (pkt.length - 40 ≤ g.gsoSize && g.length + (pkt.length - 40) ≤ groMaxLen),
    do return be32 (← pktSlice pkt 24 28) 0 == g.nextSeq,
    do return be16 (← pktSlice pkt 4 6) 0 == g.nextID,
    do return (← pkt[1]?) == (← g.index 1),
    do return (← pkt[8]?) == (← g.index 8),
    do return (← pktSlice pkt 28 32) == (← g.slice 28 32),
    do return (← pktSlice pkt 34 36) == (← g.slice 34 36),
    do return (← pktSlice pkt 38 40) == (← g.slice 38 40),
    do return fixedFlags (← pkt[33]?) == fixedFlags (← g.index 33)]

def Group.start (g : Group) (pkt : Bytes) : Option Group := do
  let gsoSize := pkt.length - 40
  let flags := (← pkt[33]?) &&& (tcpFlagPSH ||| tcpFlagFIN)
  return {
    mem := overwrite g.mem 0 pkt
    len := pkt.length
    length := pkt.length
    segs := 1
    gsoSize
    nextSeq := (be32 (← pktSlice pkt 24 28) 0 + gsoSize) % 2 ^ 32
    nextID := (be16 (← pktSlice pkt 4 6) 0 + 1) % 2 ^ 16
    closed := flags ≠ 0 ∨ (← pkt[32]?).toNat / 16 ≠ 5 }

/-- `append`.  The flags of the segment are folded into the first segment's, at octet 33. -/
def Group.append (g : Group) (pkt : Bytes) : Option Group := do
  let payload ← pktSlice pkt 40 pkt.length
  let _ ← g.slice 0 g.length
  let g : Group := { g with
    mem := overwrite g.mem g.length payload
    len := g.length + payload.length
    length := g.length + payload.length
    segs := g.segs + 1
    nextSeq := (g.nextSeq + payload.length) % 2 ^ 32
    nextID := (g.nextID + 1) % 2 ^ 16
    closed := g.closed || decide (payload.length < g.gsoSize) }
  let flags := (← pkt[33]?) &&& (tcpFlagPSH ||| tcpFlagFIN)
  if flags ≠ 0 then
    return { g with mem := overwrite g.mem 33 [(← g.index 33) ||| flags], closed := true }
  else return g

/-- The headers of a coalesced frame, rebuilt in the backing array: lengths, IP checksum,
pseudo-header sum.  Only octets 10 and 11 are indexed; the other fields are sliced. -/
def rebuild (mem : Bytes) (length : ℕ) : Option Bytes := do
  let mem := mem ++ List.replicate (38 - mem.length) 0
  let mem := overwrite mem 2 (putBE16 length)
  if length < 12 then none
  let mem := overwrite mem 10 [0, 0]
  let sum := foldSum (onesComplementSum 0 (← pktSlice mem 0 20))
  let mem := overwrite mem 10 (putBE16 (~~~ sum).toNat)
  let acc := onesComplementSum 0 (← pktSlice mem 12 20)
  let acc := acc + (protoTCP.toUInt32 + UInt32.ofNat (length - 20))
  return overwrite mem 36 (putBE16 (foldSum acc).toNat)

/-- `flush`: the group after it, and the frame it writes, if any. -/
def Group.flush (g : Group) : Option (Group × List Frame) := do
  if g.segs = 0 then return (g, [])
  let data ← g.slice 0 g.length
  if g.segs = 1 then return ({ g with segs := 0, length := 0 }, [.packet data])
  let mem ← rebuild g.mem g.length
  let hdr : VirtioNetHdr :=
    { flags := vnetFlagNeedsCsum, gsoType := vnetGSOTCPv4, hdrLen := 40,
      gsoSize := g.gsoSize % 2 ^ 16, csumStart := 20, csumOffset := 16 }
  return ({ g with mem, segs := 0, length := 0 }, [.gso hdr (mem.take g.length)])

/-! ## The table -/

/-- The first of the groups that passes a test, by its place. -/
def firstGroup (test : Group → Option Bool) : List Group → Option (Option ℕ)
  | [] => some none
  | g :: gs => do
      if ← test g then return some 0
      else return (← firstGroup test gs).map (· + 1)

/-- The `i`-th group after an operation on it that may write. -/
def Table.update (t : Table) (i : ℕ) (f : Group → Option (Group × List Frame)) : Option Table := do
  let g ← t.groups[i]?
  let (g, frames) ← f g
  return { t with groups := t.groups.set i g, out := t.out ++ frames }

/-- The `i`-th group after an operation on it that writes nothing. -/
def Table.modify (t : Table) (i : ℕ) (f : Group → Option Group) : Option Table :=
  t.update i fun g => do return (← f g, [])

/-- The packet parses far enough to name a flow: the guard of `flushSameFlow`. -/
def namesFlow (pkt : Bytes) : Option Bool :=
  allTests [
    some (24 ≤ pkt.length),
    do return (← pkt[0]?) == 0x45,
    do return (← pkt[9]?) == protoTCP]

def Table.flushSameFlow (t : Table) (pkt : Bytes) : Option Table := do
  if !(← namesFlow pkt) then return t
  match ← firstGroup (fun g => if 0 < g.segs then g.sameFlow pkt else some false)
      (t.groups.take t.n) with
  | none => return t
  | some i => t.update i Group.flush

/-- `grab().start(pkt)`: a group is taken into use, its storage reused if there is one. -/
def Table.grabStart (t : Table) (pkt : Bytes) : Option Table := do
  let stored := (t.groups[t.n]?).getD {}
  let g ← { stored with length := 0, segs := 0, gsoSize := 0, closed := false : Group }.start pkt
  return { t with groups := t.groups.take t.n ++ g :: t.groups.drop (t.n + 1), n := t.n + 1 }

/-- `add`: false if the packet must be written through. -/
def Table.add (t : Table) (pkt : Bytes) : Option (Table × Bool) := do
  if !(← coalescible pkt) then return (← t.flushSameFlow pkt, false)
  if !(← tcpChecksumOK pkt) then return (← t.flushSameFlow pkt, false)
  match ← firstGroup (fun g => g.sameFlow pkt) (t.groups.take t.n) with
  | some i =>
    let g ← t.groups[i]?
    if ← g.canAppend pkt then
      return (← t.modify i (·.append pkt), true)
    else
      let t ← t.update i Group.flush
      return (← t.modify i (·.start pkt), true)
  | none => return (← t.grabStart pkt, true)

/-- One inner packet of a batch: offered to the table, written through if it is refused. -/
def Table.deliver (t : Table) (pkt : Bytes) : Option Table := do
  let (t, held) ← t.add pkt
  if held then return t else return { t with out := t.out ++ [.packet pkt] }

/-- The flush of every group in use, at the end of a batch. -/
def Table.flushAll (t : Table) : Option Table :=
  (List.range t.n).foldlM (fun t i => t.update i Group.flush) t

/-- A batch: `reset`, the packets in turn, and the flush.  `groups` is the storage that earlier
batches left. -/
def handleInboundBatch (groups : List Group) (pkts : List Bytes) : Option (List Frame) := do
  let t ← pkts.foldlM Table.deliver { groups, n := 0, out := [] }
  return (← t.flushAll).out

end Veepin.Gro
