import Veepin.OpenVPN.Wire
import Veepin.OpenVPN.Reliable

/-!
# The OpenVPN control channel

The model of `internal/openvpn/control/control.go`.  A channel is driven by three goroutines: the
reader of the socket, which calls `Deliver`; the pump; and the one that runs TLS and calls `Read`
and `Write`.  A step is what one of them does between two points at which it can wait, and where
several cases of a `select` are ready any of them may be taken: `Channel.react` has one event for
each.

The histories at the end of the record are not in the source.  `Pair.step` is two channels and a
network that delivers any datagram that was sent, at any time and any number of times.
-/

namespace Veepin.OpenVPN

def maxControlPayload : ℕ := 1200
def maxACKPerPacket : ℕ := 4
def datagramQueue : ℕ := 64
def inboundQueue : ℕ := 64

def newSender (window timeout : ℕ) : Sender :=
  { window := if window = 0 then 4 else window
    timeout := if timeout = 0 then 1000000000 else timeout }

/-- Where the pump is. -/
inductive Pump
  /-- at the start of its loop -/
  | top
  /-- waiting for one of the cases -/
  | select
  /-- in `handleDatagram`, with payloads for `inbound` -/
  | deliver (rest : List Bytes)
  | stopped
  deriving DecidableEq, Repr

/-- The payloads that the pump holds. -/
def Pump.rest : Pump → List Bytes
  | .deliver ps => ps
  | _ => []

/-- `handleDatagram` goes on with its payloads, or returns. -/
def Pump.delivering : List Bytes → Pump
  | [] => .top
  | ps => .deliver ps

structure Channel where
  keyID : UInt8
  localID : SessionID
  hardResetOpcode : UInt8
  sender : Sender
  receiver : Receiver := {}
  datagrams : List Bytes := []
  inbound : List Bytes := []
  remote : Option SessionID := none
  readRem : Bytes := []
  closed : Bool := false
  pump : Pump := .top
  /-- what a `Write` under way has still to hand over -/
  writing : Bytes := []
  sent : List Bytes := []
  queued : List Bytes := []
  taken : List UInt32 := []
  delivered : List Bytes := []
  written : Bytes := []
  returned : Bytes := []
  deriving DecidableEq

namespace Channel

/-- A message is queued. -/
def enqueue (c : Channel) (payload : Bytes) : Channel :=
  { c with sender := c.sender.queue payload, queued := c.queued ++ [payload] }

/-- `newChannel`: the hard reset is message 0. -/
def newChannel (keyID : UInt8) (localID : SessionID) (timeout : ℕ) (hardReset : UInt8) : Channel :=
  enqueue
    { keyID := keyID, localID := localID, hardResetOpcode := hardReset
      sender := newSender 0 timeout } []

/-- `Deliver`: a full queue drops the datagram. -/
def deliver (c : Channel) (dg : Bytes) : Channel :=
  if c.datagrams.length < datagramQueue then { c with datagrams := c.datagrams ++ [dg] } else c

/-- `Close` and `fail`. -/
def close (c : Channel) : Channel := { c with closed := true }

/-! ## Sending -/

def writePacket (c : Channel) (p : ControlPacket) : Channel :=
  match p.marshal with
  | none => c.close
  | some out => { c with sent := c.sent ++ [out] }

def attachACKs (c : Channel) (p : ControlPacket) (acks : List UInt32) : ControlPacket :=
  match acks, c.remote with
  | [], _ => p
  | _, none => p
  | acks, some rsid => { p with acks := acks, remoteSessionID := rsid }

/-- The packet of `sendMessage`. -/
def messagePacket (c : Channel) (m : Outgoing) : ControlPacket :=
  { opcode := if m.id = 0 then c.hardResetOpcode else pControlV1
    keyID := c.keyID, sessionID := c.localID, packetID := m.id, payload := m.payload }

def sendMessage (c : Channel) (m : Outgoing) (acks : List UInt32) : Channel :=
  c.writePacket (c.attachACKs (c.messagePacket m) acks)

def sendACK (c : Channel) (acks : List UInt32) : Channel :=
  c.writePacket (c.attachACKs { opcode := pACKV1, keyID := c.keyID, sessionID := c.localID } acks)

/-- The acknowledgements that the next packet carries. -/
def nextACKs (c : Channel) : List UInt32 :=
  if c.remote.isSome then (c.receiver.takeACKs maxACKPerPacket).1 else []

/-- What `transmit` does before it sends. -/
def prepared (c : Channel) (now : ℕ) : Channel :=
  { c with
    sender := c.sender.sent now, pump := .select
    receiver := if c.remote.isSome then (c.receiver.takeACKs maxACKPerPacket).2 else c.receiver }

/-- `transmit`, after which the pump waits. -/
def transmit (c : Channel) (now : ℕ) : Channel :=
  match c.sender.due now with
  | [] => if c.nextACKs = [] then c.prepared now else (c.prepared now).sendACK c.nextACKs
  | m :: ms =>
    ms.foldl (fun c m => c.sendMessage m []) ((c.prepared now).sendMessage m c.nextACKs)

/-! ## Receiving -/

/-- `handleDatagram`, up to the payloads. -/
def handleDatagram (c : Channel) (dg : Bytes) : Channel :=
  match opcode dg with
  | none => c
  | some (op, _) =>
    if isControl op = false then c
    else
      match parseControl dg with
      | none => c
      | some p =>
        if c.remote.isSome ∧ c.remote ≠ some p.sessionID then c
        else
          let c := { c with
            remote := some p.sessionID, sender := p.acks.foldl Sender.ack c.sender }
          if p.opcode = pACKV1 then c
          else
            let (out, receiver) := c.receiver.receive p.packetID p.payload
            { c with
              receiver := receiver, pump := .delivering (out.filter (· ≠ []))
              taken := p.packetID :: c.taken, delivered := c.delivered ++ out }

/-- `Read` into a buffer of `n` octets, when there is something to be read. -/
def read (c : Channel) (n : ℕ) : Channel :=
  if c.readRem ≠ [] then
    { c with returned := c.returned ++ c.readRem.take n, readRem := c.readRem.drop n }
  else
    match c.inbound with
    | [] => c
    | payload :: rest =>
      { c with
        inbound := rest, returned := c.returned ++ payload.take n, readRem := payload.drop n }

end Channel

/-! ## Steps -/

/-- What a goroutine of a channel can do. -/
inductive ChannelEvent
  /-- the pump: its loop up to the `select`, and the cases -/
  | transmit
  | datagram
  | chunk
  | timer
  | stop
  /-- the pump, in `handleDatagram`: a payload is handed on, or dropped -/
  | push
  | drop
  /-- `Write` is called; it gives up -/
  | write (p : Bytes)
  | abort
  | read (n : ℕ)
  | close
  deriving DecidableEq, Repr

/-- The step of an event; an event that is not enabled changes nothing. -/
def Channel.react (c : Channel) (now : ℕ) : ChannelEvent → Channel
  | .transmit => if c.pump = .top then c.transmit now else c
  | .datagram =>
    match c.pump, c.datagrams with
    | .select, dg :: rest => { c with datagrams := rest, pump := .top }.handleDatagram dg
    | _, _ => c
  | .chunk =>
    if c.pump = .select ∧ c.sender.ready ∧ c.writing ≠ [] then
      { c with
        pump := .top, writing := c.writing.drop maxControlPayload
        }.enqueue (c.writing.take maxControlPayload)
    else c
  | .timer => if c.pump = .select then { c with pump := .top } else c
  | .stop => if c.pump = .select ∧ c.closed then { c with pump := .stopped } else c
  | .push =>
    match c.pump with
    | .deliver (p :: ps) =>
      if c.inbound.length < inboundQueue then
        { c with inbound := c.inbound ++ [p], pump := .delivering ps }
      else c
    | _ => c
  | .drop =>
    match c.pump with
    | .deliver _ => if c.closed then { c with pump := .top } else c
    | _ => c
  | .write p =>
    if c.writing = [] then { c with writing := p, written := c.written ++ p } else c
  | .abort => if c.closed then { c with writing := [] } else c
  | .read n => c.read n
  | .close => c.close

/-- The two ends of a connection. -/
inductive Side
  | client
  | server
  deriving DecidableEq, Repr

def Side.other : Side → Side
  | .client => .server
  | .server => .client

/-- Two channels, and the time. -/
structure Pair where
  now : ℕ
  ends : Side → Channel

inductive PairEvent
  | tick
  /-- a datagram of the other end is delivered -/
  | arrive (s : Side) (i : ℕ)
  | act (s : Side) (e : ChannelEvent)
  deriving DecidableEq, Repr

/-- What an event does to one end. -/
def Pair.turn (p : Pair) (s : Side) (c : Channel) : Pair :=
  { p with ends := Function.update p.ends s c }

def Pair.step (p : Pair) : PairEvent → Pair
  | .tick => { p with now := p.now + 1 }
  | .arrive s i =>
    match (p.ends s.other).sent[i]? with
    | none => p
    | some dg => p.turn s ((p.ends s).deliver dg)
  | .act s e => p.turn s ((p.ends s).react p.now e)

/-- `New` at one end and `NewServer` at the other. -/
def Pair.new (keyID : Side → UInt8) (localID : Side → SessionID) (timeout : Side → ℕ) : Pair where
  now := 0
  ends := fun s => Channel.newChannel (keyID s) (localID s) (timeout s)
    (match s with
      | .client => pControlHardResetClientV2
      | .server => pControlHardResetServerV2)

end Veepin.OpenVPN
