import Veepin.Core.Runs
import Veepin.L2TP.Message

/-!
# The L2TP control connection

The model of `Tunnel` in `internal/l2tp/tunnel.go`, both roles, and of two of them over a network
that loses, duplicates, delays and reorders: whatever one end has sent may reach the other at any
time and any number of times, or never.  Timers fire at any time.

What a tunnel does under its lock is one step.  The calls it makes after that, outside the lock
(`SessionUp`, `DataFrame`, `finishClose` and the `Closed` it ends in), stand in `todo` until the
goroutine that has to make them comes to it, so that others can come between.  The messages queued
and dispatched, the frames passed to `SendPPP` and the calls of the handler are kept as histories.
-/

namespace Veepin.L2TP

inductive Role
  | lac
  | lns
  deriving DecidableEq, Repr

def Role.other : Role → Role
  | .lac => .lns
  | .lns => .lac

/-- `state`. -/
inductive TunnelState
  | idle
  | waitSCCRP
  | waitICRP
  | waitSCCCN
  | waitICRQ
  | waitICCN
  | established
  | closed
  deriving DecidableEq, Repr

/-- The control messages a tunnel sends. -/
inductive Msg
  | sccrq
  | sccrp
  | scccn
  | icrq
  | icrp
  | iccn
  | hello
  deriving DecidableEq, Repr

/-- The message types; `StopCCN` is 4, `CDN` 14. -/
def Msg.code : Msg → ℕ
  | .sccrq => 1
  | .sccrp => 2
  | .scccn => 3
  | .icrq => 10
  | .icrp => 11
  | .iccn => 12
  | .hello => 6

/-- "veepin". -/
def defaultHostName : Bytes := [118, 101, 101, 112, 105, 110]

/-- The pairs of a message, from the identifiers of its sender. -/
def Msg.body (tunnelID sessionID : UInt16) (m : Msg) : Body :=
  (0, putBE16 m.code) ::
    match m with
    | .sccrq | .sccrp => [(2, [1, 0]), (3, putBE32 3), (7, defaultHostName),
        (9, putBE16 tunnelID.toNat), (10, putBE16 4)]
    | .icrq => [(14, putBE16 sessionID.toNat), (15, putBE32 sessionID.toNat)]
    | .icrp => [(14, putBE16 sessionID.toNat)]
    | .iccn => [(24, putBE32 100000000), (19, putBE32 1)]
    | .scccn | .hello => []

structure Pending where
  ns : UInt16
  sessionID : UInt16
  avps : Bytes
  deriving DecidableEq, Repr

/-- What is done outside the lock, and what the handler sees; `stateSet` marks the moment at which
the session is established. -/
inductive Call
  | stateSet
  | sessionUp
  | dataFrame (frame : Bytes)
  | finishClose
  | closed
  deriving DecidableEq, Repr

structure Tunnel where
  role : Role
  localTunnelID : UInt16
  localSessionID : UInt16
  peerTunnelID : UInt16 := 0
  peerSessionID : UInt16 := 0
  state : TunnelState := .idle
  established : Bool := false
  closedFlag : Bool := false
  ns : UInt16 := 0
  nr : UInt16 := 0
  unacked : List Pending := []
  retries : ℕ := 0
  helloNs : UInt16 := 0
  /-- the channel a probe waits on -/
  helloWait : Option ℕ := none
  /-- the datagrams sent so far -/
  out : List Bytes := []
  todo : List Call := []
  log : List Call := []
  queued : List Msg := []
  dispatched : List (List Avp) := []
  frames : List Bytes := []
  /-- for each channel made, the place of its HELLO among the messages queued -/
  hellos : List ℕ := []
  /-- the channels closed -/
  released : List ℕ := []
  /-- the HELLOs for which `SendHello` has returned nil -/
  probed : List ℕ := []
  deriving DecidableEq

/-- `seqLess`: the difference is negative as a 16-bit number. -/
def seqLess (a b : UInt16) : Bool := 0x8000 ≤ (a - b).toNat

namespace Tunnel

/-! ## Sending -/

def send (t : Tunnel) (d : Bytes) : Tunnel := { t with out := t.out ++ [d] }

/-- The pairs of a message of this end. -/
def said (t : Tunnel) (m : Msg) : Body := m.body t.localTunnelID t.localSessionID

def buildControl (t : Tunnel) (p : Pending) : Bytes :=
  marshalControl t.peerTunnelID p.sessionID p.ns t.nr p.avps

def queueControl (t : Tunnel) (sessionID : UInt16) (m : Msg) : Tunnel :=
  let p : Pending := ⟨t.ns, sessionID, marshalAVPs (t.said m)⟩
  { t with
    unacked := t.unacked ++ [p], ns := t.ns + 1, queued := t.queued ++ [m]
    out := t.out ++ [t.buildControl p] }

def sendZLB (t : Tunnel) : Tunnel := t.send (marshalControl t.peerTunnelID 0 t.ns t.nr [])

def start (t : Tunnel) : Tunnel :=
  if t.role ≠ .lac ∨ t.state ≠ .idle then t
  else { t.queueControl 0 .sccrq with state := .waitSCCRP }

def sendPPP (t : Tunnel) (frame : Bytes) : Tunnel :=
  if t.closedFlag then t
  else { t.send (marshalData t.peerTunnelID t.peerSessionID frame) with
    frames := t.frames ++ [frame] }

/-- `SendHello`, up to the wait. -/
def sendHello (t : Tunnel) : Tunnel :=
  if t.state = .closed ∨ t.helloWait.isSome then t
  else
    { t with
      helloWait := some t.hellos.length, helloNs := t.ns
      hellos := t.hellos ++ [t.queued.length] }.queueControl 0 .hello

/-- `awaitHello`, when the channel is closed. -/
def awaitHello (t : Tunnel) (k : ℕ) : Tunnel :=
  if k ∈ t.released ∧ t.closedFlag = false then { t with probed := t.probed ++ t.hellos[k]?.toList }
  else t

def onRetransmit (t : Tunnel) : Tunnel :=
  if t.state = .closed ∨ t.unacked = [] then t
  else if t.retries + 1 > 5 then
    { t with retries := t.retries + 1, todo := t.todo ++ [.finishClose] }
  else { t with retries := t.retries + 1, out := t.out ++ t.unacked.map t.buildControl }

def close (t : Tunnel) : Tunnel :=
  if t.state = .closed then t else { t with todo := t.todo ++ [.finishClose] }

/-! ## Receiving -/

def purgeAcked (t : Tunnel) (peerNr : UInt16) : Tunnel :=
  let acked := t.unacked.filter fun p => seqLess p.ns peerNr
  let kept := t.unacked.filter fun p => ¬ seqLess p.ns peerNr
  let heard := acked.any fun p => p.ns = t.helloNs
  { t with
    unacked := kept
    retries := if kept = [] then 0 else t.retries
    released := if heard then t.helloWait.toList ++ t.released else t.released
    helloWait := if heard then none else t.helloWait }

/-- What `dispatch` reports: whether the session came up, and whether it is to be closed. -/
inductive Outcome
  | nothing
  | up
  | closed
  deriving DecidableEq, Repr

def dispatchLAC (t : Tunnel) (mt : ℕ) (avps : List Avp) : Tunnel × Outcome :=
  if mt = Msg.sccrp.code ∧ t.state = .waitSCCRP then
    match findUint16 avps 9 with
    | none => (t, .closed)
    | some pid =>
      if pid = 0 then (t, .closed)
      else ({ (({ t with peerTunnelID := pid }.queueControl 0 .scccn).queueControl 0 .icrq) with
        state := .waitICRP }, .nothing)
  else if mt = Msg.icrp.code ∧ t.state = .waitICRP then
    match findUint16 avps 14 with
    | none => (t, .closed)
    | some sid =>
      if sid = 0 then (t, .closed)
      else ({ { t with peerSessionID := sid }.queueControl sid .iccn with
        state := .established }, .up)
  else (t, .nothing)

def dispatchLNS (t : Tunnel) (mt : ℕ) (avps : List Avp) : Tunnel × Outcome :=
  if mt = Msg.sccrq.code ∧ t.state = .idle then
    match findUint16 avps 9 with
    | none => (t, .closed)
    | some pid =>
      if pid = 0 then (t, .closed)
      else ({ { t with peerTunnelID := pid }.queueControl 0 .sccrp with
        state := .waitSCCCN }, .nothing)
  else if mt = Msg.scccn.code ∧ t.state = .waitSCCCN then
    ({ t with state := .waitICRQ }, .nothing)
  else if mt = Msg.icrq.code ∧ t.state = .waitICRQ then
    match findUint16 avps 14 with
    | none => (t, .closed)
    | some sid =>
      if sid = 0 then (t, .closed)
      else ({ { t with peerSessionID := sid }.queueControl sid .icrp with
        state := .waitICCN }, .nothing)
  else if mt = Msg.iccn.code ∧ t.state = .waitICCN then ({ t with state := .established }, .up)
  else (t, .nothing)

def dispatch (t : Tunnel) (avps : List Avp) : Tunnel × Outcome :=
  match messageType avps with
  | none => (t, .nothing)
  | some mt =>
    if mt = 4 ∨ mt = 14 then (t, .closed)
    else if mt = Msg.hello.code then (t, .nothing)
    else
      match t.role with
      | .lac => t.dispatchLAC mt avps
      | .lns => t.dispatchLNS mt avps

/-- What `handleControl` does after `dispatch`. -/
def conclude (prevNs : UInt16) : Tunnel × Outcome → Tunnel
  | (t, .nothing) => if t.ns = prevNs then t.sendZLB else t
  | (t, .up) =>
    let t := if t.ns = prevNs then t.sendZLB else t
    { t with established := true, log := t.log ++ [.stateSet], todo := t.todo ++ [.sessionUp] }
  | (t, .closed) => { t with todo := t.todo ++ [.finishClose] }

/-- The message is the next one. -/
def accept (t : Tunnel) (avps : List Avp) : Tunnel :=
  { t with nr := t.nr + 1, dispatched := t.dispatched ++ [avps] }

def handleControl (t : Tunnel) (h : Header) : Tunnel :=
  if t.state = .closed then t
  else
    let t := t.purgeAcked h.nr
    match parseAVPs h.payload with
    | none => t
    | some [] => t
    | some avps =>
      if h.ns ≠ t.nr then if seqLess h.ns t.nr then t.sendZLB else t
      else conclude t.ns ((t.accept avps).dispatch avps)

/-- `HandleInbound`; the frame of a data message has still to be passed on. -/
def handleInbound (t : Tunnel) (pkt : Bytes) : Tunnel :=
  match parseHeader pkt with
  | none => t
  | some h =>
    if h.isControl then t.handleControl h
    else if t.established = true ∧ t.closedFlag = false ∧ h.tunnelID = t.localTunnelID ∧
        h.sessionID = t.localSessionID ∧ h.payload ≠ [] then
      { t with todo := t.todo ++ [.dataFrame h.payload] }
    else t

/-- `finishClose`, under the lock. -/
def finishClose (t : Tunnel) : Tunnel :=
  if t.state = .closed then t
  else
    { t with
      state := .closed, closedFlag := true, helloWait := none
      released := t.helloWait.toList ++ t.released, todo := t.todo ++ [.closed] }

/-- A goroutine makes one of the outstanding calls. -/
def call (t : Tunnel) (i : ℕ) : Tunnel :=
  match t.todo[i]? with
  | none => t
  | some c =>
    let t := { t with todo := t.todo.eraseIdx i }
    match c with
    | .finishClose => t.finishClose
    | c => { t with log := t.log ++ [c] }

end Tunnel

/-! ## Two tunnels and a network -/

/-- The two ends. -/
abbrev Link := Role → Tunnel

/-- What can happen at an end. -/
inductive TunnelEvent
  | start
  | sendPPP (frame : Bytes)
  /-- a datagram of the other end arrives -/
  | receive (i : ℕ)
  | timer
  | close
  | sendHello
  | awaitHello (k : ℕ)
  | call (i : ℕ)
  deriving DecidableEq, Repr

/-- What an event does to its end; `peer` is the other. -/
def Tunnel.react (t peer : Tunnel) : TunnelEvent → Tunnel
  | .start => t.start
  | .sendPPP frame => t.sendPPP frame
  | .receive i =>
    match peer.out[i]? with
    | none => t
    | some d => t.handleInbound d
  | .timer => t.onRetransmit
  | .close => t.close
  | .sendHello => t.sendHello
  | .awaitHello k => t.awaitHello k
  | .call i => t.call i

def Link.step (l : Link) (e : Role × TunnelEvent) : Link :=
  Function.update l e.1 ((l e.1).react (l e.1.other) e.2)

/-- The two ends of a new tunnel, with the identifiers they draw. -/
def Link.new (tunnelID sessionID : Role → UInt16) : Link := fun r =>
  { role := r, localTunnelID := tunnelID r, localSessionID := sessionID r }

end Veepin.L2TP
