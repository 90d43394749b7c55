import Veepin.PPP.Server

/-!
# The PPP client session

The model of `Session` in `internal/ppp/session.go`: it opens LCP, answers the server's MS-CHAPv2
challenge, and asks for its addresses over IPCP.  As with the server, a handler takes the session to
the session after it, and what it does to the outside is appended to a log.
-/

namespace Veepin.PPP

structure IPConfig where
  localIP : Bytes
  peerIP : Bytes
  dns : List Bytes
  deriving DecidableEq, Repr

/-- What a client session does to the outside. -/
inductive ClientAction
  /-- `SendPPP` -/
  | sent (protocol : ℕ) (packet : CpPacket)
  | authenticated (ntResponse : Bytes)
  | networkUp (cfg : IPConfig)
  | closed
  deriving DecidableEq, Repr

/-- The surroundings of a client session: its credentials, the functions of `mschap`, whether the
`n`-th frame can be sent, and what `rand.Read` gives for a peer challenge. -/
structure ClientEnv where
  username : Bytes
  password : Bytes
  mschap : Mschap
  sendOk : ℕ → Bool := fun _ => true
  random : ℕ → Option Bytes

def defaultMRU : ℕ := 1400

def ipv4zero : Bytes := [0, 0, 0, 0]

/-- `Session`. -/
structure Client where
  phase : Phase := .lcp
  magic : ℕ := 0
  reqID : UInt8 := 0
  lcpRestart : RestartTimer := {}
  ipcpRestart : RestartTimer := {}
  lcpReqID : UInt8 := 0
  lcpConfigReq : CpPacket := ⟨configureRequest, 0, []⟩
  lcpLocalOpen : Bool := false
  lcpRemoteOpen : Bool := false
  lcpAuthNaks : ℕ := 0
  lcpUseMRU : Bool := true
  lcpUseMagic : Bool := true
  lcpMRU : ℕ := defaultMRU
  peerRequiresAuth : Bool := false
  ipcpReqID : UInt8 := 0
  ipcpConfigReq : CpPacket := ⟨configureRequest, 0, []⟩
  ipcpLocalOpen : Bool := false
  ipcpRemoteOpen : Bool := false
  reqIP : Bytes := []
  reqDNS1 : Option Bytes := none
  reqDNS2 : Option Bytes := none
  peerIP : Bytes := []
  authChallenge : Bytes := List.replicate 16 0
  peerChallenge : Bytes := List.replicate 16 0
  ntResponse : Bytes := List.replicate 24 0
  echoID : UInt8 := 0
  echoWait : Bool := false
  log : List ClientAction := []
  deriving DecidableEq

namespace Client

def act (s : Client) (a : ClientAction) : Client := { s with log := s.log ++ [a] }

/-- `failLocked`. -/
def fail (s : Client) : Client :=
  if s.phase = .closed then s
  else
    { s with phase := .closed, lcpRestart := {}, ipcpRestart := {}, echoWait := false }.act .closed

variable (e : ClientEnv)

/-- `send`; an error closes the session. -/
def send (s : Client) (protocol : ℕ) (p : CpPacket) : Client :=
  if e.sendOk s.log.length then s.act (.sent protocol p) else (s.act (.sent protocol p)).fail

/-! ## LCP -/

def resendLCPConfigReq (s : Client) : Client :=
  let s := s.send e protocolLCP s.lcpConfigReq
  { s with lcpRestart := { s.lcpRestart with armed := true } }

/-- The options of the LCP request. -/
def lcpOptions (s : Client) : List Opt :=
  (if s.lcpUseMRU then [⟨optMRU, putBE16 s.lcpMRU⟩] else []) ++
    if s.lcpUseMagic then [⟨optMagic, putBE32 s.magic⟩] else []

def sendLCPConfigReq (s : Client) : Client :=
  let id := s.reqID + 1
  resendLCPConfigReq e { s with
    reqID := id, lcpReqID := id
    lcpConfigReq := ⟨configureRequest, id, marshalOptions s.lcpOptions⟩ }

def applyLCPNak (s : Client) (body : Bytes) : Client :=
  match parseOptions body with
  | none => s
  | some opts => opts.foldl (fun s o =>
    if o.type = optMRU then if o.value.length = 2 then { s with lcpMRU := be16 o.value 0 } else s
    else if o.type = optMagic then
      if o.value.length = 4 then { s with magic := be32 o.value 0 } else s
    else s) s

def applyLCPReject (s : Client) (body : Bytes) : Client :=
  match parseOptions body with
  | none => s
  | some opts => opts.foldl (fun s o =>
    if o.type = optMRU then { s with lcpUseMRU := false }
    else if o.type = optMagic then { s with lcpUseMagic := false }
    else s) s

def maxAuthNaks : ℕ := 5

def hasAuthProto (opts : List Opt) : Bool := opts.any fun o => o.type = optAuthProto

/-- The options of the IPCP request. -/
def ipcpOptions (reqIP : Bytes) (reqDNS1 reqDNS2 : Option Bytes) : List Opt :=
  ⟨optIPAddress, reqIP⟩ :: ((reqDNS1.map fun d => ⟨optPrimaryDNS, d⟩).toList ++
    (reqDNS2.map fun d => ⟨optSecondaryDNS, d⟩).toList)

def resendIPCPConfigReq (s : Client) : Client :=
  let s := s.send e protocolIPCP s.ipcpConfigReq
  { s with ipcpRestart := { s.ipcpRestart with armed := true } }

def sendIPCPConfigReq (s : Client) : Client :=
  let id := s.reqID + 1
  resendIPCPConfigReq e { s with
    reqID := id, ipcpReqID := id
    ipcpConfigReq := ⟨configureRequest, id,
      marshalOptions (ipcpOptions s.reqIP s.reqDNS1 s.reqDNS2)⟩ }

def startIPCP (s : Client) : Client :=
  sendIPCPConfigReq e { s with
    reqIP := ipv4zero, reqDNS1 := some ipv4zero, reqDNS2 := some ipv4zero }

def maybeLCPUp (s : Client) : Client :=
  if s.phase ≠ .lcp ∨ s.lcpLocalOpen = false ∨ s.lcpRemoteOpen = false then s
  else if s.peerRequiresAuth then { s with phase := .auth }
  else startIPCP e { s with phase := .ipcp }

def handleLCPConfigReq (s : Client) (pkt : CpPacket) : Client :=
  match parseOptions pkt.body with
  | none => s
  | some opts =>
    let rejected := opts.filter fun o =>
      o.type ∉ [optMRU, optMagic, optQuality, optPFC, optACFC, optAuthProto]
    let naked := (opts.filter fun o => o.type = optAuthProto ∧ o.value ≠ authMSCHAPv2).map
      fun _ => (⟨optAuthProto, authMSCHAPv2⟩ : Opt)
    if rejected ≠ [] then
      s.send e protocolLCP ⟨configureReject, pkt.id, marshalOptions rejected⟩
    else if naked ≠ [] then
      let s := { s with lcpAuthNaks := s.lcpAuthNaks + 1 }
      if s.lcpAuthNaks > maxAuthNaks then s.fail
      else s.send e protocolLCP ⟨configureNak, pkt.id, marshalOptions naked⟩
    else
      let s := { s with peerRequiresAuth := hasAuthProto opts }
      let s := s.send e protocolLCP ⟨configureAck, pkt.id, pkt.body⟩
      maybeLCPUp e { s with lcpRemoteOpen := true }

def handleLCP (s : Client) (pkt : CpPacket) : Client :=
  let s := { s with lcpRestart := { s.lcpRestart with tries := 0 } }
  if pkt.code = configureRequest then s.handleLCPConfigReq e pkt
  else if pkt.code = configureAck then
    if pkt.id = s.lcpReqID then maybeLCPUp e { s with lcpRestart := {}, lcpLocalOpen := true }
    else s
  else if pkt.code = configureNak then
    if pkt.id = s.lcpReqID then (s.applyLCPNak pkt.body).sendLCPConfigReq e else s
  else if pkt.code = configureReject then
    if pkt.id = s.lcpReqID then (s.applyLCPReject pkt.body).sendLCPConfigReq e else s
  else if pkt.code = terminateRequest then (s.send e protocolLCP ⟨terminateAck, pkt.id, []⟩).fail
  else if pkt.code = echoRequest then
    s.send e protocolLCP ⟨echoReply, pkt.id, putBE32 s.magic ++ pkt.body.drop 4⟩
  else if pkt.code = echoReply then
    if s.echoWait ∧ pkt.id = s.echoID then { s with echoWait := false } else s
  else s

/-- The first half of `SendEcho`: the request. -/
def sendEcho (s : Client) : Client :=
  if s.phase = .closed ∨ s.echoWait then s
  else
    let id := s.reqID + 1
    send e { s with reqID := id, echoID := id, echoWait := true } protocolLCP
      ⟨echoRequest, id, putBE32 s.magic⟩

/-! ## MS-CHAPv2 -/

def handleCHAP (s : Client) (pkt : CpPacket) : Client :=
  if pkt.code = chapChallenge then
    match parseChallenge pkt.body with
    | none => s.fail
    | some (ac, _) =>
      let s := { s with authChallenge := ac }
      match e.random s.log.length with
      | none => s.fail
      | some pc =>
        let pc := octets 16 pc
        let nt := octets 24 (e.mschap.generateNTResponse ac pc e.username e.password)
        send e { s with peerChallenge := pc, ntResponse := nt } protocolCHAP
          ⟨chapResponse, pkt.id, responseBody pc nt e.username⟩
  else if pkt.code = chapSuccess then
    if verifySuccess e.mschap pkt.body s.authChallenge s.peerChallenge e.username e.password
        s.ntResponse then
      startIPCP e { s.act (.authenticated s.ntResponse) with phase := .ipcp }
    else s.fail
  else if pkt.code = chapFailure then s.fail
  else s

/-! ## IPCP -/

def maybeIPCPUp (s : Client) : Client :=
  if s.phase ≠ .ipcp ∨ s.ipcpLocalOpen = false ∨ s.ipcpRemoteOpen = false then s
  else { s with phase := .up }.act (.networkUp ⟨s.reqIP, s.peerIP,
    (s.reqDNS1.toList ++ s.reqDNS2.toList).filter (· ≠ ipv4zero)⟩)

def adoptIPCPValues (s : Client) (body : Bytes) : Client :=
  match parseOptions body with
  | none => s
  | some opts => opts.foldl (fun s o =>
    if o.value.length ≠ 4 then s
    else if o.type = optIPAddress then { s with reqIP := o.value }
    else if o.type = optPrimaryDNS then { s with reqDNS1 := some o.value }
    else if o.type = optSecondaryDNS then { s with reqDNS2 := some o.value }
    else s) s

def dropRejectedIPCP (s : Client) (body : Bytes) : Client :=
  match parseOptions body with
  | none => s
  | some opts => opts.foldl (fun s o =>
    if o.type = optPrimaryDNS then { s with reqDNS1 := none }
    else if o.type = optSecondaryDNS then { s with reqDNS2 := none }
    else s) s

/-- The server's address, from its request. -/
def recordPeerIP (s : Client) (body : Bytes) : Client :=
  match parseOptions body with
  | none => s
  | some opts => opts.foldl (fun s o =>
    if o.type = optIPAddress ∧ o.value.length = 4 then { s with peerIP := o.value } else s) s

def handleIPCP (s : Client) (pkt : CpPacket) : Client :=
  let s := { s with ipcpRestart := { s.ipcpRestart with tries := 0 } }
  if pkt.code = configureRequest then
    let s := (s.recordPeerIP pkt.body).send e protocolIPCP ⟨configureAck, pkt.id, pkt.body⟩
    maybeIPCPUp { s with ipcpRemoteOpen := true }
  else if pkt.code = configureAck then
    if pkt.id = s.ipcpReqID then maybeIPCPUp { s with ipcpRestart := {}, ipcpLocalOpen := true }
    else s
  else if pkt.code = configureNak then (s.adoptIPCPValues pkt.body).sendIPCPConfigReq e
  else if pkt.code = configureReject then (s.dropRejectedIPCP pkt.body).sendIPCPConfigReq e
  else s

/-! ## Frames and timers -/

/-- `Receive`, on the packet of the frame. -/
def handle (s : Client) (protocol : ℕ) (pkt : CpPacket) : Client :=
  if s.phase = .closed then s
  else if protocol = protocolLCP then s.handleLCP e pkt
  else if protocol = protocolCHAP then s.handleCHAP e pkt
  else if protocol = protocolIPCP then s.handleIPCP e pkt
  else s

def receive (s : Client) (frame : Bytes) : Client :=
  match Server.packetOf frame with
  | none => s
  | some (protocol, pkt) => s.handle e protocol pkt

/-- The callback of the LCP Restart timer. -/
def lcpTimeout (s : Client) : Client :=
  if s.phase = .closed ∨ s.lcpRestart.armed = false then s
  else if s.lcpRestart.tries + 1 ≥ Server.maxConfigure then { s with lcpRestart := {} }.fail
  else resendLCPConfigReq e { s with lcpRestart := ⟨true, s.lcpRestart.tries + 1⟩ }

/-- The callback of the IPCP Restart timer. -/
def ipcpTimeout (s : Client) : Client :=
  if s.phase = .closed ∨ s.ipcpRestart.armed = false then s
  else if s.ipcpRestart.tries + 1 ≥ Server.maxConfigure then { s with ipcpRestart := {} }.fail
  else resendIPCPConfigReq e { s with ipcpRestart := ⟨true, s.ipcpRestart.tries + 1⟩ }

end Client

end Veepin.PPP
