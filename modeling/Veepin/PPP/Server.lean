import Veepin.Core.Runs
import Veepin.PPP.Packets

/-!
# The PPP server session

The model of `ServerSession` in `internal/ppp/server.go`: it opens LCP, challenges the client with
MS-CHAPv2, and assigns an address over IPCP.  A handler takes the session to the session after it;
what it does to the outside (frames, calls of the `ServerHandler`, the challenge it draws) is
appended to a log.  `SendPPP` may fail, and `rand.Read` too.

* `Server.Sound` — what the log says in each phase; `sound_step` keeps it;
* `authentication_bound` — the handler hears of a user only once, for a response to the challenge
  that was sent, and before the network is up, in every run in which responses that verify come in
  the authentication phase.
-/

namespace Veepin.PPP

open List

inductive Phase
  | lcp
  | auth
  | ipcp
  | up
  | closed
  deriving DecidableEq, Repr

/-- `restartTimer`: whether it is armed, and the tries so far. -/
structure RestartTimer where
  armed : Bool := false
  tries : ℕ := 0
  deriving DecidableEq, Repr

/-- `ServerConfig`.  An address is what `To4` gives, and so is empty if it is not IPv4. -/
structure ServerConfig where
  clientIP : Bytes
  serverIP : Bytes
  dns : List Bytes := []
  auth : Bytes → Option Bytes := fun _ => none
  noAuth : Bool := false

/-- What a session does to the outside. -/
inductive Action
  /-- the challenge drawn by `rand.Read` -/
  | drew (challenge : Bytes)
  /-- `SendPPP` -/
  | sent (protocol : ℕ) (packet : CpPacket)
  | authenticated (username password ntResponse : Bytes)
  | networkUp
  | closed
  deriving DecidableEq, Repr

def Action.isAuth : Action → Bool
  | .authenticated _ _ _ => true
  | _ => false

/-- Frames and the end of the session. -/
def Action.isPlain : Action → Bool
  | .sent _ _ | .closed => true
  | _ => false

/-- The surroundings of a session: its configuration, the functions of `mschap`, whether the `n`-th
frame can be sent, and what `rand.Read` gives for the challenge. -/
structure Env where
  cfg : ServerConfig
  mschap : Mschap
  sendOk : ℕ → Bool := fun _ => true
  random : Option Bytes

/-- `ServerSession`. -/
structure Server where
  phase : Phase := .lcp
  magic : ℕ := 0
  reqID : UInt8 := 0
  lcpReqID : UInt8 := 0
  lcpConfigReq : CpPacket := ⟨configureRequest, 0, []⟩
  lcpLocalOpen : Bool := false
  lcpRemoteOpen : Bool := false
  lcpNoMagic : Bool := false
  authChallenge : Bytes := List.replicate 16 0
  username : Bytes := []
  password : Bytes := []
  ntResponse : Bytes := []
  ipcpReqID : UInt8 := 0
  ipcpConfigReq : CpPacket := ⟨configureRequest, 0, []⟩
  ipcpLocalOpen : Bool := false
  ipcpRemoteOpen : Bool := false
  lcpRestart : RestartTimer := {}
  ipcpRestart : RestartTimer := {}
  log : List Action := []
  deriving DecidableEq

/-! ## Handlers -/

variable {a : Action}

namespace Server

def act (s : Server) (a : Action) : Server := { s with log := s.log ++ [a] }

/-- `failLocked`. -/
def fail (s : Server) : Server :=
  if s.phase = .closed then s
  else { s with phase := .closed, lcpRestart := {}, ipcpRestart := {} }.act .closed

variable (e : Env)

/-- `send`; an error closes the session. -/
def send (s : Server) (protocol : ℕ) (p : CpPacket) : Server :=
  if e.sendOk s.log.length then s.act (.sent protocol p) else (s.act (.sent protocol p)).fail

/-- `sendLCPConfigReq` and `resendLCPConfigReq`: the timer is armed with the tries so far. -/
def resendLCPConfigReq (s : Server) : Server :=
  let s := s.send e protocolLCP s.lcpConfigReq
  { s with lcpRestart := { s.lcpRestart with armed := true } }

def sendLCPConfigReq (s : Server) : Server :=
  let opts := (if e.cfg.noAuth then [] else [⟨optAuthProto, authMSCHAPv2⟩]) ++
    if s.lcpNoMagic then [] else [⟨optMagic, putBE32 s.magic⟩]
  let id := s.reqID + 1
  resendLCPConfigReq e { s with
    reqID := id, lcpReqID := id, lcpConfigReq := ⟨configureRequest, id, marshalOptions opts⟩ }

/-- `sendIPCPConfigReq` and `resendIPCPConfigReq`. -/
def resendIPCPConfigReq (s : Server) : Server :=
  let s := s.send e protocolIPCP s.ipcpConfigReq
  { s with ipcpRestart := { s.ipcpRestart with armed := true } }

def sendIPCPConfigReq (s : Server) : Server :=
  let id := s.reqID + 1
  resendIPCPConfigReq e { s with
    reqID := id, ipcpReqID := id
    ipcpConfigReq := ⟨configureRequest, id, marshalOptions [⟨optIPAddress, e.cfg.serverIP⟩]⟩ }

/-- The name of the server in its challenge: "veepin". -/
def name : Bytes := [118, 101, 101, 112, 105, 110]

def sendChallenge (s : Server) : Server :=
  match e.random with
  | none => s.fail
  | some c =>
    send e ({ s with authChallenge := c, reqID := s.reqID + 1 }.act (.drew c)) protocolCHAP
      ⟨chapChallenge, s.reqID + 1, buildChallenge c name⟩

def maybeLCPUp (s : Server) : Server :=
  if s.phase ≠ .lcp ∨ s.lcpLocalOpen = false ∨ s.lcpRemoteOpen = false then s
  else if e.cfg.noAuth then sendIPCPConfigReq e { s with phase := .ipcp }
  else sendChallenge e { s with phase := .auth }

def handleLCPConfigReq (s : Server) (pkt : CpPacket) : Server :=
  match parseOptions pkt.body with
  | none => s
  | some opts =>
    let rejected := opts.filter fun o => o.type ∉ [optMRU, optMagic, optQuality, optPFC, optACFC]
    if rejected ≠ [] then
      s.send e protocolLCP ⟨configureReject, pkt.id, marshalOptions rejected⟩
    else
      let s := s.send e protocolLCP ⟨configureAck, pkt.id, pkt.body⟩
      maybeLCPUp e { s with lcpRemoteOpen := true }

def handleLCP (s : Server) (pkt : CpPacket) : Server :=
  let s := { s with lcpRestart := { s.lcpRestart with tries := 0 } }
  if pkt.code = configureRequest then s.handleLCPConfigReq e pkt
  else if pkt.code = configureAck then
    if pkt.id = s.lcpReqID then maybeLCPUp e { s with lcpRestart := {}, lcpLocalOpen := true }
    else s
  else if pkt.code = configureNak ∨ pkt.code = configureReject then
    if e.cfg.noAuth then sendLCPConfigReq e { s with lcpNoMagic := true } else s.fail
  else if pkt.code = terminateRequest then (s.send e protocolLCP ⟨terminateAck, pkt.id, []⟩).fail
  else if pkt.code = echoRequest then
    s.send e protocolLCP ⟨echoReply, pkt.id, putBE32 s.magic ++ pkt.body.drop 4⟩
  else s

/-- The packet is a response that verifies against the challenge of the session: the peer's
challenge, the user name, the password and the NT response. -/
def verified (s : Server) (pkt : CpPacket) : Option (Bytes × Bytes × Bytes × Bytes) :=
  match parseResponse pkt.body with
  | none => none
  | some (peerCh, ntResp, username) =>
    match e.cfg.auth username with
    | none => none
    | some password =>
      if verifyResponse e.mschap s.authChallenge peerCh username password ntResp then
        some (peerCh, username, password, ntResp)
      else none

def handleCHAP (s : Server) (pkt : CpPacket) : Server :=
  if pkt.code ≠ chapResponse then s
  else if (parseResponse pkt.body).isNone then s.fail
  else
    match s.verified e pkt with
    | none => (s.send e protocolCHAP ⟨chapFailure, pkt.id, buildFailure⟩).fail
    | some (peerCh, username, password, ntResp) =>
      let success := e.mschap.authenticatorResponse s.authChallenge peerCh username password ntResp
      let s := send e { s with username, password, ntResponse := ntResp } protocolCHAP
        ⟨chapSuccess, pkt.id, success⟩
      let s := s.act (.authenticated username password ntResp)
      sendIPCPConfigReq e { s with phase := .ipcp }

def maybeIPCPUp (s : Server) : Server :=
  if s.phase ≠ .ipcp ∨ s.ipcpLocalOpen = false ∨ s.ipcpRemoteOpen = false then s
  else { s with phase := .up }.act .networkUp

/-- The option that `handleIPCPConfigReq` puts into its Nak for one option of the request. -/
def nakFor (o : Opt) : List Opt :=
  let want (ip : Option Bytes) : List Opt :=
    match ip with
    | none => []
    | some ip => if o.value.length = 4 ∧ o.value = ip then [] else [⟨o.type, ip⟩]
  if o.type = optIPAddress then want (some e.cfg.clientIP)
  else if o.type = optPrimaryDNS then want e.cfg.dns[0]?
  else if o.type = optSecondaryDNS then want e.cfg.dns[1]?
  else []

def handleIPCPConfigReq (s : Server) (pkt : CpPacket) : Server :=
  match parseOptions pkt.body with
  | none => s
  | some opts =>
    let nak := opts.flatMap (nakFor e)
    if nak ≠ [] then s.send e protocolIPCP ⟨configureNak, pkt.id, marshalOptions nak⟩
    else
      let s := s.send e protocolIPCP ⟨configureAck, pkt.id, pkt.body⟩
      maybeIPCPUp { s with ipcpRemoteOpen := true }

def handleIPCP (s : Server) (pkt : CpPacket) : Server :=
  let s := { s with ipcpRestart := { s.ipcpRestart with tries := 0 } }
  if pkt.code = configureRequest then s.handleIPCPConfigReq e pkt
  else if pkt.code = configureAck then
    if pkt.id = s.ipcpReqID then maybeIPCPUp { s with ipcpRestart := {}, ipcpLocalOpen := true }
    else s
  else if pkt.code = configureNak ∨ pkt.code = configureReject then s.sendIPCPConfigReq e
  else s

/-- The control packet of a frame. -/
def packetOf (frame : Bytes) : Option (ℕ × CpPacket) :=
  match decodeFrame frame with
  | none => none
  | some (protocol, payload) => (parseCP payload).map (protocol, ·)

/-- `Receive`, on the packet of the frame. -/
def handle (s : Server) (protocol : ℕ) (pkt : CpPacket) : Server :=
  if s.phase = .closed then s
  else if protocol = protocolLCP then s.handleLCP e pkt
  else if protocol = protocolCHAP then s.handleCHAP e pkt
  else if protocol = protocolIPCP then s.handleIPCP e pkt
  else s

def receive (s : Server) (frame : Bytes) : Server :=
  match packetOf frame with
  | none => s
  | some (protocol, pkt) => s.handle e protocol pkt

def maxConfigure : ℕ := 10

/-- The callback of the LCP Restart timer. -/
def lcpTimeout (s : Server) : Server :=
  if s.phase = .closed ∨ s.lcpRestart.armed = false then s
  else if s.lcpRestart.tries + 1 ≥ maxConfigure then { s with lcpRestart := {} }.fail
  else resendLCPConfigReq e { s with lcpRestart := ⟨true, s.lcpRestart.tries + 1⟩ }

/-- The callback of the IPCP Restart timer. -/
def ipcpTimeout (s : Server) : Server :=
  if s.phase = .closed ∨ s.ipcpRestart.armed = false then s
  else if s.ipcpRestart.tries + 1 ≥ maxConfigure then { s with ipcpRestart := {} }.fail
  else resendIPCPConfigReq e { s with ipcpRestart := ⟨true, s.ipcpRestart.tries + 1⟩ }

/-- What can happen to a session. -/
inductive Event
  | start
  | receive (frame : Bytes)
  | lcpTimer
  | ipcpTimer
  deriving DecidableEq, Repr

def step (s : Server) : Event → Server
  | .start => s.sendLCPConfigReq e
  | .receive frame => s.receive e frame
  | .lcpTimer => s.lcpTimeout e
  | .ipcpTimer => s.ipcpTimeout e

/-! ## What a handler can do -/

/-- The log has grown by actions of a kind. -/
def Adds (Q : Action → Prop) (s s' : Server) : Prop :=
  ∃ as, s'.log = s.log ++ as ∧ ∀ a ∈ as, Q a

variable {e} {Q : Action → Prop} {s s' s'' : Server}

lemma Adds.refl (Q : Action → Prop) (h : s'.log = s.log) : Adds Q s s' :=
  ⟨[], by rw [h, append_nil], fun _ ha => nomatch ha⟩

lemma Adds.one (ha : Q a) : Adds Q s (s.act a) :=
  ⟨[a], rfl, fun _ hb => mem_singleton.1 hb ▸ ha⟩

lemma Adds.trans (h : Adds Q s s') (h' : Adds Q s' s'') : Adds Q s s'' := by
  obtain ⟨as, hlog, has⟩ := h
  obtain ⟨bs, hlog', hbs⟩ := h'
  refine ⟨as ++ bs, by rw [hlog', hlog, append_assoc], fun a ha => ?_⟩
  exact (mem_append.1 ha).elim (has a) (hbs a)

lemma Adds.mono {Q' : Action → Prop} (h : Adds Q s s') (hQ : ∀ a, Q a → Q' a) : Adds Q' s s' := by
  obtain ⟨as, hlog, has⟩ := h
  exact ⟨as, hlog, fun a ha => hQ a (has a ha)⟩

/-- **What most handlers do.**  They send and close; the challenge stays, and so does the phase
unless the session is closed. -/
structure Plain (s s' : Server) : Prop where
  adds : Adds (fun a => a.isPlain = true) s s'
  challenge : s'.authChallenge = s.authChallenge
  phase : s'.phase = s.phase ∨ s'.phase = .closed

lemma Plain.of_eq (h : (s'.log, s'.authChallenge, s'.phase) = (s.log, s.authChallenge, s.phase)) :
    Plain s s' := by
  simp only [Prod.mk.injEq] at h
  exact ⟨.refl _ h.1, h.2.1, .inl h.2.2⟩

lemma Plain.trans (h : Plain s s') (h' : Plain s' s'') : Plain s s'' :=
  ⟨h.adds.trans h'.adds, h'.challenge.trans h.challenge,
    h'.phase.elim (fun hp => hp ▸ h.phase) .inr⟩

lemma plain_fail (s : Server) : Plain s s.fail := by
  unfold fail
  split_ifs
  · exact .of_eq rfl
  · exact ⟨.one rfl, rfl, .inr rfl⟩

section

variable (e : Env) (s : Server)

lemma plain_send (protocol : ℕ) (p : CpPacket) : Plain s (s.send e protocol p) := by
  have hact : Plain s (s.act (.sent protocol p)) := ⟨.one rfl, rfl, .inl rfl⟩
  unfold send
  split_ifs
  · exact hact
  · exact hact.trans (plain_fail _)

lemma plain_resendLCPConfigReq : Plain s (s.resendLCPConfigReq e) :=
  (plain_send e s _ _).trans (.of_eq rfl)

lemma plain_sendLCPConfigReq : Plain s (s.sendLCPConfigReq e) := by
  unfold sendLCPConfigReq
  refine Plain.trans ?_ (plain_resendLCPConfigReq e _)
  exact .of_eq rfl

lemma plain_resendIPCPConfigReq : Plain s (s.resendIPCPConfigReq e) :=
  (plain_send e s _ _).trans (.of_eq rfl)

lemma plain_sendIPCPConfigReq : Plain s (s.sendIPCPConfigReq e) := by
  unfold sendIPCPConfigReq
  refine Plain.trans ?_ (plain_resendIPCPConfigReq e _)
  exact .of_eq rfl

end

section

variable {T : Server → Prop} (hplain : ∀ {s'}, Plain s s' → T s')

include hplain

/-- `handleLCP` does something plain, and `maybeLCPUp` may follow. -/
lemma handleLCP_cases (hup : ∀ {s'}, Plain s s' → T (s'.maybeLCPUp e)) (pkt : CpPacket) :
    T (s.handleLCP e pkt) := by
  have halive : Plain s { s with lcpRestart := { s.lcpRestart with tries := 0 } } := .of_eq rfl
  unfold handleLCP
  dsimp only
  split_ifs
  · unfold handleLCPConfigReq
    split
    · exact hplain halive
    · dsimp only
      split_ifs
      · exact hplain (halive.trans (plain_send e _ _ _))
      · exact hup ((halive.trans (plain_send e _ _ _)).trans (.of_eq rfl))
  · exact hup (halive.trans (.of_eq rfl))
  · exact hplain halive
  · refine hplain (.trans ?_ (plain_sendLCPConfigReq e _))
    exact .of_eq rfl
  · exact hplain (halive.trans (plain_fail _))
  · exact hplain (halive.trans ((plain_send e _ _ _).trans (plain_fail _)))
  · exact hplain (halive.trans (plain_send e _ _ _))
  · exact hplain halive

/-- `handleIPCP` does something plain, and `maybeIPCPUp` may follow. -/
lemma handleIPCP_cases (hup : ∀ {s'}, Plain s s' → T s'.maybeIPCPUp) (pkt : CpPacket) :
    T (s.handleIPCP e pkt) := by
  have halive : Plain s { s with ipcpRestart := { s.ipcpRestart with tries := 0 } } := .of_eq rfl
  unfold handleIPCP
  dsimp only
  split_ifs
  · unfold handleIPCPConfigReq
    split
    · exact hplain halive
    · dsimp only
      split_ifs
      · exact hplain (halive.trans (plain_send e _ _ _))
      · exact hup ((halive.trans (plain_send e _ _ _)).trans (.of_eq rfl))
  · exact hup (halive.trans (.of_eq rfl))
  · exact hplain halive
  · exact hplain (halive.trans (plain_sendIPCPConfigReq e _))
  · exact hplain halive

/-- `handleCHAP` does something plain, or calls `Authenticated` for a response that verifies. -/
lemma handleCHAP_cases (pkt : CpPacket)
    (hauth : ∀ {peerCh username password ntResp t}, pkt.code = chapResponse →
      s.verified e pkt = some (peerCh, username, password, ntResp) → Plain s t →
      T (sendIPCPConfigReq e { t.act (.authenticated username password ntResp) with
        phase := .ipcp })) : T (s.handleCHAP e pkt) := by
  unfold handleCHAP
  split_ifs with hcode
  · exact hplain (.of_eq rfl)
  · exact hplain (plain_fail s)
  · split
    · exact hplain ((plain_send e s _ _).trans (plain_fail _))
    next hv =>
      -- whether the success could be sent or not
      refine hauth (not_not.1 hcode) hv (Plain.trans ?_ (plain_send e _ _ _))
      exact .of_eq rfl

end

/-! ## The log in each phase -/

/-- The challenge was drawn by the session and sent. -/
def Challenged (s : Server) (c : Bytes) : Prop :=
  .drew c ∈ s.log ∧ ∃ id, .sent protocolCHAP ⟨chapChallenge, id, buildChallenge c name⟩ ∈ s.log

/-- Calls of `Authenticated` so far, and of `NetworkUp`. -/
def authCount (s : Server) : ℕ := s.log.countP Action.isAuth
def upCount (s : Server) : ℕ := s.log.count .networkUp

/-- Each call is made at most once, and `Authenticated` before `NetworkUp`. -/
structure CalledOnce (s : Server) : Prop where
  auth : s.authCount ≤ 1
  up : s.upCount ≤ 1
  order : ∀ pre post, s.log = pre ++ .networkUp :: post → ∃ a ∈ pre, a.isAuth = true

/-- **The invariant.** -/
structure Sound (s : Server) : Prop where
  once : s.CalledOnce
  before : s.phase = .lcp ∨ s.phase = .auth → s.authCount = 0
  notUp : s.phase ≠ .up → s.phase ≠ .closed → s.upCount = 0
  challenged : s.phase = .auth → s.Challenged s.authChallenge
  after : s.phase = .ipcp → s.authCount = 1

lemma Adds.authCount (h : Adds (fun a => a.isAuth = false) s s') : s'.authCount = s.authCount := by
  obtain ⟨as, hlog, has⟩ := h
  have : as.countP Action.isAuth = 0 :=
    countP_eq_zero.2 fun a ha => by rw [has a ha]; exact Bool.false_ne_true
  rw [Server.authCount, hlog, countP_append, this, Nat.add_zero]
  rfl

lemma Adds.upCount (h : Adds (fun a => a ≠ .networkUp) s s') : s'.upCount = s.upCount := by
  obtain ⟨as, hlog, has⟩ := h
  have : as.count Action.networkUp = 0 := count_eq_zero.2 fun ha => has _ ha rfl
  rw [Server.upCount, hlog, count_append, this, Nat.add_zero]
  rfl

/-- A log without new calls of `NetworkUp` is still in order. -/
lemma Adds.order (h : Adds (fun a => a ≠ .networkUp) s s')
    (hs : ∀ pre post, s.log = pre ++ .networkUp :: post → ∃ a ∈ pre, a.isAuth = true) :
    ∀ pre post, s'.log = pre ++ .networkUp :: post → ∃ a ∈ pre, a.isAuth = true := by
  obtain ⟨as, hlog, has⟩ := h
  intro pre post he
  rw [hlog, append_eq_append_iff] at he
  rcases he with ⟨cs, -, hcs⟩ | ⟨cs, hpre, hcs⟩
  · exact absurd rfl (has .networkUp (hcs ▸ mem_append_right _ mem_cons_self))
  · cases cs with
    | nil => exact absurd rfl (has .networkUp ((nil_append _ ▸ hcs) ▸ mem_cons_self))
    | cons b cs =>
      obtain ⟨rfl, hpost⟩ := cons.inj hcs
      exact hs pre cs hpre

/-- An action that is neither of the two calls. -/
def Quiet (a : Action) : Prop := a.isAuth = false ∧ a ≠ .networkUp

lemma quiet_of_plain (h : a.isPlain = true) : Quiet a := by
  cases a with
  | sent _ _ | closed => exact ⟨rfl, by simp⟩
  | _ => exact absurd h Bool.false_ne_true

lemma Adds.calledOnce (h : Adds Quiet s s') (hs : s.CalledOnce) : s'.CalledOnce :=
  ⟨(h.mono fun _ ha => ha.1).authCount ▸ hs.auth, (h.mono fun _ ha => ha.2).upCount ▸ hs.up,
    (h.mono fun _ ha => ha.2).order hs.order⟩

lemma Plain.quiet (h : Plain s s') : Adds Quiet s s' := h.adds.mono fun _ => quiet_of_plain

lemma Plain.authCount (h : Plain s s') : s'.authCount = s.authCount :=
  (h.quiet.mono fun _ ha => ha.1).authCount

lemma Plain.upCount (h : Plain s s') : s'.upCount = s.upCount :=
  (h.quiet.mono fun _ ha => ha.2).upCount

lemma Challenged.mono (h : Adds Q s s') {c : Bytes} (hc : s.Challenged c) : s'.Challenged c := by
  obtain ⟨as, hlog, -⟩ := h
  obtain ⟨hdrew, id, hsent⟩ := hc
  exact ⟨hlog ▸ mem_append_left _ hdrew, id, hlog ▸ mem_append_left _ hsent⟩

/-- Sending and closing keep the invariant. -/
lemma Plain.sound (h : Plain s s') (hs : s.Sound) : s'.Sound := by
  refine ⟨h.quiet.calledOnce hs.once, fun hp => ?_, fun hp hc => ?_, fun hp => ?_, fun hp => ?_⟩ <;>
    rcases h.phase with hphase | hphase
  · exact h.authCount.trans (hs.before (hphase ▸ hp))
  · rw [hphase] at hp
    exact hp.elim (fun he => nomatch he) fun he => nomatch he
  · exact h.upCount.trans (hs.notUp (hphase ▸ hp) (hphase ▸ hc))
  · exact absurd hphase hc
  · exact h.challenge ▸ (hs.challenged (hphase ▸ hp)).mono h.adds
  · exact nomatch hphase.symm.trans hp
  · exact h.authCount.trans (hs.after (hphase ▸ hp))
  · exact nomatch hphase.symm.trans hp

/-- A closed session has only made its calls in order. -/
lemma sound_closed (hs : s.CalledOnce) (hp : s.phase = .closed) : s.Sound :=
  ⟨hs, fun h => by simp [hp] at h, fun _ h => absurd hp h, fun h => by simp [hp] at h,
    fun h => by simp [hp] at h⟩

/-- **The challenge.**  Entering the authentication phase draws it and sends it. -/
lemma sound_sendChallenge (hs : s.Sound) (hp : s.phase = .lcp) :
    (sendChallenge e { s with phase := .auth }).Sound := by
  have hauth := hs.before (.inl hp)
  have hup : s.upCount = 0 := hs.notUp (by simp [hp]) (by simp [hp])
  unfold sendChallenge
  split
  · refine sound_closed ?_ (by simp [fail, act])
    have hsame : Adds Quiet s { s with phase := .auth } := .refl _ rfl
    exact (plain_fail _).quiet.calledOnce (hsame.calledOnce hs.once)
  next c _ =>
    -- the session once the frame is in the log; a failed send closes it after that
    have hsent : ∀ t : Server, t.phase = .auth → t.authChallenge = c →
        t.log = s.log ++ [.drew c, .sent protocolCHAP
          ⟨chapChallenge, s.reqID + 1, buildChallenge c name⟩] → t.Sound := by
      intro t htp htc hlog
      have hquiet : Adds Quiet s t := by
        refine ⟨_, hlog, fun a ha => ?_⟩
        simp only [mem_cons, not_mem_nil, or_false] at ha
        rcases ha with rfl | rfl <;> exact ⟨rfl, by simp⟩
      refine ⟨hquiet.calledOnce hs.once, fun _ => ?_, fun _ _ => ?_, fun _ => ?_, fun h => ?_⟩
      · exact (hquiet.mono fun _ ha => ha.1).authCount.trans hauth
      · exact (hquiet.mono fun _ ha => ha.2).upCount.trans hup
      · rw [htc, Challenged, hlog]
        exact ⟨by simp, s.reqID + 1, by simp⟩
      · exact nomatch htp.symm.trans h
    unfold send
    split_ifs
    · exact hsent _ rfl rfl (by simp [act])
    · exact (plain_fail _).sound (hsent _ rfl rfl (by simp [act]))

lemma sound_maybeLCPUp (hno : e.cfg.noAuth = false) (hs : s.Sound) : (s.maybeLCPUp e).Sound := by
  unfold maybeLCPUp
  split_ifs with hcond
  · exact hs
  · simp_all
  · exact sound_sendChallenge hs (not_not.1 (not_or.1 hcond).1)

lemma verified_code {pkt : CpPacket} {x : Bytes × Bytes × Bytes × Bytes}
    (h : s.verified e pkt = some x) :
    parseResponse pkt.body = some (x.1, x.2.2.2, x.2.1) ∧ e.cfg.auth x.2.1 = some x.2.2.1 ∧
      verifyResponse e.mschap s.authChallenge x.1 x.2.1 x.2.2.1 x.2.2.2 = true := by
  unfold verified at h
  split at h
  · exact nomatch h
  next hresp =>
    split at h
    · exact nomatch h
    · next hauth =>
        split_ifs at h with hv
        obtain rfl := Option.some.inj h
        exact ⟨hresp, hauth, hv⟩

/-- **Authentication.**  In the authentication phase a response that verifies is the first. -/
lemma sound_handleCHAP (hs : s.Sound) (pkt : CpPacket)
    (hauth : pkt.code = chapResponse → (s.verified e pkt).isSome → s.phase = .auth) :
    (s.handleCHAP e pkt).Sound := by
  refine handleCHAP_cases (fun h => h.sound hs) pkt
    fun {_ username password ntResp t} hcode hv hplain => ?_
  have hp := hauth hcode (by rw [hv]; rfl)
  refine (plain_sendIPCPConfigReq e _).sound ?_
  have ha : t.authCount = 0 := hplain.authCount.trans (hs.before (.inr hp))
  have hu : t.upCount = 0 := hplain.upCount.trans (hs.notUp (by simp [hp]) (by simp [hp]))
  have hone : Adds (fun a => a ≠ .networkUp) t
      { t.act (.authenticated username password ntResp) with phase := .ipcp } :=
    ⟨_, rfl, by simp⟩
  have hcount : Server.authCount
      { t.act (.authenticated username password ntResp) with phase := .ipcp } = 1 := by
    simp only [authCount, act, countP_append] at ha ⊢
    rw [ha]
    rfl
  exact ⟨⟨hcount.le, hone.upCount ▸ hu ▸ Nat.zero_le _,
      hone.order (hplain.quiet.calledOnce hs.once).order⟩,
    fun h => by simp at h, fun _ _ => hone.upCount.trans hu, fun h => (nomatch h), fun _ => hcount⟩

/-- **The network.**  It comes up once, after authentication. -/
lemma sound_maybeIPCPUp (hs : s.Sound) : s.maybeIPCPUp.Sound := by
  unfold maybeIPCPUp
  split_ifs with hcond
  · exact hs
  have hp : s.phase = .ipcp := not_not.1 (not_or.1 hcond).1
  have hadds : Adds (fun a => a.isAuth = false) s ({ s with phase := .up }.act .networkUp) :=
    ⟨_, rfl, by simp [Action.isAuth]⟩
  have hup : s.upCount = 0 := hs.notUp (by simp [hp]) (by simp [hp])
  have hone := hs.after hp
  refine ⟨⟨hadds.authCount ▸ hone.le, ?_, fun pre post he => ?_⟩, fun h => by simp [act] at h,
    fun h => absurd rfl h, fun h => (nomatch h), fun h => (nomatch h)⟩
  · simp only [upCount, act, count_append] at hup ⊢
    rw [hup]
    exact le_rfl
  · obtain ⟨a, ha, hisAuth⟩ := countP_pos_iff.1 (hone ▸ Nat.one_pos : 0 < s.authCount)
    have he' : s.log ++ [.networkUp] = pre ++ .networkUp :: post := he
    rw [append_eq_append_iff] at he'
    rcases he' with ⟨cs, rfl, -⟩ | ⟨cs, hlog, hcs⟩
    · exact ⟨a, mem_append_left _ ha, hisAuth⟩
    · cases cs with
      | nil => exact ⟨a, by rwa [hlog, append_nil] at ha, hisAuth⟩
      | cons b cs =>
        obtain ⟨rfl, -⟩ := cons.inj hcs
        exact hs.once.order pre cs hlog

lemma plain_lcpTimeout (e : Env) (s : Server) : Plain s (s.lcpTimeout e) := by
  unfold lcpTimeout
  split_ifs
  · exact .of_eq rfl
  · refine Plain.trans ?_ (plain_fail _)
    exact .of_eq rfl
  · refine Plain.trans ?_ (plain_resendLCPConfigReq e _)
    exact .of_eq rfl

lemma plain_ipcpTimeout (e : Env) (s : Server) : Plain s (s.ipcpTimeout e) := by
  unfold ipcpTimeout
  split_ifs
  · exact .of_eq rfl
  · refine Plain.trans ?_ (plain_fail _)
    exact .of_eq rfl
  · refine Plain.trans ?_ (plain_resendIPCPConfigReq e _)
    exact .of_eq rfl

/-! ## Runs -/

/-- A response that verifies comes in the authentication phase, or when the session is closed. -/
def InAuth (e : Env) (s : Server) : Event → Prop
  | .receive frame => ∀ pkt, packetOf frame = some (protocolCHAP, pkt) → pkt.code = chapResponse →
      (s.verified e pkt).isSome → s.phase ≠ .closed → s.phase = .auth
  | _ => True

/-- The user of a call of `Authenticated` gave a response, in this frame, to a challenge that the
session had drawn and sent before. -/
def Answered (e : Env) (s : Server) (frame : Bytes) (username password ntResp : Bytes) : Prop :=
  ∃ c pkt peerCh, s.Challenged c ∧ packetOf frame = some (protocolCHAP, pkt) ∧
    pkt.code = chapResponse ∧ parseResponse pkt.body = some (peerCh, ntResp, username) ∧
    e.cfg.auth username = some password ∧
    verifyResponse e.mschap c peerCh username password ntResp = true

/-- Every new call of `Authenticated` is for a response of this kind. -/
def Bound (e : Env) (s : Server) (ev : Event) : Prop :=
  ∀ username password ntResp,
    .authenticated username password ntResp ∈ (s.step e ev).log.drop s.log.length →
    ∃ frame, ev = .receive frame ∧ s.Answered e frame username password ntResp

lemma Adds.drop (h : Adds Q s s') (ha : a ∈ s'.log.drop s.log.length) : Q a := by
  obtain ⟨as, hlog, has⟩ := h
  rw [hlog, drop_left] at ha
  exact has a ha

/-! ### Who calls `Authenticated` -/

/-- The log grows without a call of `Authenticated`. -/
abbrev Silent (s s' : Server) : Prop := Adds (fun a => a.isAuth = false) s s'

lemma Plain.silent (h : Plain s s') : Silent s s' := h.quiet.mono fun _ ha => ha.1

lemma silent_maybeLCPUp (e : Env) (s : Server) : Silent s (s.maybeLCPUp e) := by
  unfold maybeLCPUp
  split_ifs
  · exact .refl _ rfl
  · exact .trans (.refl _ rfl) (plain_sendIPCPConfigReq e _).silent
  · unfold sendChallenge
    split
    · exact .trans (.refl _ rfl) (plain_fail _).silent
    · refine .trans ?_ (plain_send e _ _ _).silent
      exact ⟨_, rfl, by simp [Action.isAuth]⟩

lemma silent_maybeIPCPUp (s : Server) : Silent s s.maybeIPCPUp := by
  unfold maybeIPCPUp
  split_ifs
  · exact .refl _ rfl
  · exact ⟨_, rfl, by simp [Action.isAuth]⟩

/-- `handleCHAP` calls `Authenticated` for the user of a response that verifies, and else not. -/
lemma authenticated_handleCHAP {pkt : CpPacket} {username password ntResp : Bytes}
    (h : .authenticated username password ntResp ∈ (s.handleCHAP e pkt).log.drop s.log.length) :
    pkt.code = chapResponse ∧
      ∃ peerCh, s.verified e pkt = some (peerCh, username, password, ntResp) := by
  revert h
  refine handleCHAP_cases
    (T := fun s' => .authenticated username password ntResp ∈ s'.log.drop s.log.length → _)
    (fun hp h => absurd (hp.silent.drop h) (by simp [Action.isAuth])) pkt
    fun {peerCh username' password' ntResp' t} hcode hv hplain h => ?_
  refine ⟨hcode, peerCh, ?_⟩
  -- before and after the call the log grows by other actions
  have other : ∀ {s₁ s₂ : Server}, Plain s₁ s₂ → Adds (fun a => a.isAuth = true →
      a = .authenticated username' password' ntResp') s₁ s₂ := fun hp =>
    hp.silent.mono fun a ha hb => absurd (ha.symm.trans hb) (by simp)
  have hcall : Adds (fun a => a.isAuth = true → a = .authenticated username' password' ntResp') t
      { t.act (.authenticated username' password' ntResp') with phase := .ipcp } :=
    ⟨_, rfl, by simp⟩
  have he := (((other hplain).trans hcall).trans (other (plain_sendIPCPConfigReq e _))).drop h rfl
  simp only [Action.authenticated.injEq] at he
  obtain ⟨rfl, rfl, rfl⟩ := he
  exact hv

end Server

open Server

lemma sound_step {e : Env} (hno : e.cfg.noAuth = false) (s : Server) (ev : Server.Event)
    (hs : s.Sound) (hauth : s.InAuth e ev) : (s.step e ev).Sound := by
  cases ev with
  | start => exact (plain_sendLCPConfigReq e s).sound hs
  | receive frame =>
    simp only [Server.step, Server.receive]
    split
    · exact hs
    next protocol pkt hpkt =>
      unfold Server.handle
      split_ifs with hclosed hlcp hchap
      · exact hs
      · exact handleLCP_cases (fun h => h.sound hs) (fun h => sound_maybeLCPUp hno (h.sound hs)) pkt
      · exact sound_handleCHAP hs pkt fun hcode hv => hauth pkt (hchap ▸ hpkt) hcode hv hclosed
      · exact handleIPCP_cases (fun h => h.sound hs) (fun h => sound_maybeIPCPUp (h.sound hs)) pkt
      · exact hs
  | lcpTimer => exact (plain_lcpTimeout e s).sound hs
  | ipcpTimer => exact (plain_ipcpTimeout e s).sound hs

/-- A call of `Authenticated` is for a response to the challenge of the session. -/
lemma bound_step {e : Env} (s : Server) (ev : Server.Event) (hs : s.Sound) (hauth : s.InAuth e ev) :
    s.Bound e ev := by
  intro username password ntResp h
  have silent : ∀ {s' : Server}, Silent s s' →
      .authenticated username password ntResp ∉ s'.log.drop s.log.length := fun hsil hm =>
    absurd (hsil.drop hm) (by simp [Action.isAuth])
  cases ev with
  | start => exact absurd h (silent (plain_sendLCPConfigReq e s).silent)
  | receive frame =>
    refine ⟨frame, rfl, ?_⟩
    simp only [Server.step, Server.receive] at h
    split at h
    · exact absurd h (silent (.refl _ rfl))
    next protocol pkt hpkt =>
      unfold Server.handle at h
      split_ifs at h with hclosed hlcp hchap
      · exact absurd h (silent (.refl _ rfl))
      · exact absurd h (silent (handleLCP_cases Plain.silent
          (fun hp => hp.silent.trans (silent_maybeLCPUp e _)) pkt))
      · obtain ⟨hcode, peerCh, hv⟩ := authenticated_handleCHAP h
        obtain ⟨hresp, huser, hver⟩ := verified_code hv
        have hp := hauth pkt (hchap ▸ hpkt) hcode (by rw [hv]; rfl) hclosed
        exact ⟨s.authChallenge, pkt, peerCh, hs.challenged hp, hchap ▸ hpkt, hcode, hresp, huser,
          hver⟩
      · exact absurd h (silent (handleIPCP_cases Plain.silent
          (fun hp => hp.silent.trans (silent_maybeIPCPUp _)) pkt))
      · exact absurd h (silent (.refl _ rfl))
  | lcpTimer => exact absurd h (silent (plain_lcpTimeout e s).silent)
  | ipcpTimer => exact absurd h (silent (plain_ipcpTimeout e s).silent)

/-- **Authentication is bound to the link's own challenge.**  In every run in which responses that
verify come to an open session in the authentication phase: `Authenticated` is called only for a
response to the challenge that was drawn and sent before; it is called at most once, `NetworkUp` at
most once, and the first before the second. -/
theorem authentication_bound (e : Env) (hno : e.cfg.noAuth = false) (magic : ℕ)
    (evs : List Server.Event) (hauth : Along (Server.step e) (Server.InAuth e) { magic } evs) :
    Along (Server.step e) (Server.Bound e) { magic } evs ∧
      Always (Server.step e) Server.CalledOnce { magic } evs := by
  have hstart : Server.Sound { magic } :=
    ⟨⟨Nat.zero_le _, Nat.zero_le _, fun pre post h => by simp at h⟩, fun _ => rfl, fun _ _ => rfl,
      fun h => (nomatch h), fun h => (nomatch h)⟩
  exact ⟨along_of_inv Server.Sound (sound_step hno) bound_step _ _ hstart hauth,
    always_of_inv Server.Sound (sound_step hno) (fun _ h => h.once) _ _ hstart hauth⟩

/-- A server with one user, "a" with password "p", and a response that shows what it answers. -/
def oneUser : Env where
  cfg :=
    { clientIP := [10, 0, 0, 2], serverIP := [10, 0, 0, 1]
      auth := fun u => if u = [97] then some [112] else none }
  mschap :=
    { generateNTResponse := fun challenge _ _ _ => challenge ++ List.replicate 8 0
      authenticatorResponse := fun challenge _ _ _ _ => challenge }
  random := some (List.replicate 16 7)

/-- The frame in which user "a" answers a challenge. -/
def answer (challenge : Bytes) : Bytes :=
  encodeFrame protocolCHAP (CpPacket.marshal ⟨chapResponse, 2,
    [49] ++ List.replicate 24 0 ++ (challenge ++ List.replicate 8 0) ++ [0, 97]⟩)

instance (e : Env) (s : Server) (ev : Server.Event) : Decidable (s.InAuth e ev) :=
  match ev with
  | .receive frame =>
    match h : Server.packetOf frame with
    | some (protocol, pkt) =>
      decidable_of_iff
        (protocol = protocolCHAP → pkt.code = chapResponse → (s.verified e pkt).isSome →
          s.phase ≠ .closed → s.phase = .auth)
        (by
          simp only [Server.InAuth, h, Option.some.injEq, Prod.mk.injEq, and_imp]
          constructor
          · rintro hh _ rfl rfl
            exact hh rfl
          · rintro hh rfl
            exact hh pkt rfl rfl)
    | none => isTrue fun pkt hp => nomatch h.symm.trans hp
  | .start | .lcpTimer | .ipcpTimer => isTrue trivial

/-- The link comes up: LCP, the response to the challenge, IPCP. -/
def linkUp : List Server.Event :=
  [.start, .receive (encodeFrame protocolLCP (CpPacket.marshal ⟨configureAck, 1, []⟩)),
    .receive (encodeFrame protocolLCP (CpPacket.marshal ⟨configureRequest, 1, []⟩)),
    .receive (answer (List.replicate 16 7)),
    .receive (encodeFrame protocolIPCP (CpPacket.marshal ⟨configureAck, 3, []⟩)),
    .receive (encodeFrame protocolIPCP (CpPacket.marshal ⟨configureRequest, 1, []⟩))]

theorem authentication_bound_link :
    Along (Server.step oneUser) (Server.Bound oneUser) {} linkUp ∧
      Always (Server.step oneUser) Server.CalledOnce {} linkUp :=
  authentication_bound oneUser rfl 0 linkUp (by decide)

/-- A response to the challenge of zeros, before any was drawn: the user is authenticated. -/
theorem authentication_unbound : ¬ Along (Server.step oneUser) (Server.Bound oneUser) {}
      [.start, .receive (answer (List.replicate 16 0))] := by
  intro h
  obtain ⟨frame, -, c, pkt, peerCh, ⟨hdrew, -⟩, -⟩ :=
    h.2.1 [97] [112] (replicate 24 0) (by decide)
  have hlog : (Server.step oneUser {} .start).log =
      [.sent protocolLCP (Server.step oneUser {} .start).lcpConfigReq] := rfl
  rw [hlog] at hdrew
  simp at hdrew

end Veepin.PPP
