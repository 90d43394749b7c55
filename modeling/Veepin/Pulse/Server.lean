import Veepin.Core.Maps
import Veepin.Dataplane.AddrPool

/-!
# The Ivanti (pulse) server

The model of `internal/pulse/server.go`: `Serve` accepts connections behind the gate and
`serveConn` runs each one from authentication over configuration to its link, with every exit.
What a client sends is in the inputs, which say how each stage of a connection ends.
-/

namespace Veepin.Pulse

/-- How far `serveConn` has got with a connection. -/
inductive Stage
  | authenticating
  | configuring (inner : Bytes)
  | linked (inner : Bytes)
  | ended
  deriving DecidableEq, Repr

/-- One accepted connection. -/
structure Conn where
  remote : UDPAddr
  stage : Stage := .authenticating
  espSPI : Option UInt32 := none

/-- `Server`: connections are referred to by their place among those ever accepted. -/
structure Server where
  gate : Gate
  conns : List Conn
  sessions : AList (fun _ : Bytes => ℕ)
  bySPI : AList (fun _ : UInt32 => ℕ)
  pool : AddrPool

def newServer (pool : AddrPool) (now : ℤ) : Server :=
  { gate := newGate {} now, conns := [], sessions := ∅, bySPI := ∅, pool }

/-- What happens to the server: a connection arrives, and the stages of `serveConn` succeed or
fail.  `configured` carries the SPI of the ESP path if the client answered the keying packet. -/
inductive Event
  | accept (remote : UDPAddr) (now : ℤ)
  | authFailed (c : ℕ)
  | authenticated (c : ℕ)
  | configFailed (c : ℕ)
  | configured (c : ℕ) (spi : Option UInt32)
  | linkDown (c : ℕ)

namespace Server

/-- How far a connection has got. -/
def stage (s : Server) (c : ℕ) : Option Stage := (s.conns[c]?).map Conn.stage

/-- A change of one connection. -/
def setStage (s : Server) (c : ℕ) (stage : Stage) : Server :=
  { s with conns := s.conns.modify c fun q => { q with stage } }

/-- `Serve`: a refused connection is closed, an admitted one is served. -/
def accept (s : Server) (remote : UDPAddr) (now : ℤ) : Server :=
  let r := s.gate.tryAdmit remote now
  if r.2 = .admitted then { s with gate := r.1, conns := s.conns ++ [{ remote := remote }] }
  else { s with gate := r.1 }

/-- `release`: the session's entries, under whatever SPI its ESP path is, and its address go. -/
def release (s : Server) (c : ℕ) (q : Conn) (inner : Bytes) : Server :=
  { s with
    sessions := s.sessions.erase inner
    bySPI := if q.espSPI.isNone then s.bySPI else
      ⟨s.bySPI.entries.filter (·.2 ≠ c), s.bySPI.nodupKeys.sublist List.filter_sublist⟩
    pool := s.pool.release inner }

/-- The stages of `serveConn`, and `release` at the end of the link.  An event that does not match
the stage of its connection is none. -/
def step (s : Server) : Event → Server
  | .accept remote now => s.accept remote now
  | .authFailed c =>
    match s.stage c with
    | some .authenticating => s.setStage c .ended
    | _ => s
  | .authenticated c =>
    match s.stage c with
    | some .authenticating =>
      match s.pool.allocate with
      | none => s.setStage c .ended
      | some (inner, pool) => { s with pool }.setStage c (.configuring inner)
    | _ => s
  | .configFailed c =>
    match s.stage c with
    | some (.configuring inner) => { s with pool := s.pool.release inner }.setStage c .ended
    | _ => s
  | .configured c spi =>
    match s.stage c with
    | some (.configuring inner) =>
      { s with
        conns := s.conns.modify c fun q => { q with stage := .linked inner, espSPI := spi }
        sessions := s.sessions.insert inner c
        bySPI := match spi with
          | none => s.bySPI
          | some spi => s.bySPI.insert spi c }
    | _ => s
  | .linkDown c =>
    match s.conns[c]? with
    | some q =>
      match q.stage with
      | .linked inner => (s.release c q inner).setStage c .ended
      | _ => s
    | none => s

/-! ## Connections and slots -/

/-- The connections that have not ended. -/
def live (s : Server) : ℕ := s.conns.countP fun q => q.stage ≠ .ended

/-- The event ends a connection. -/
def Ends (s : Server) : Event → Prop
  | .accept _ _ => False
  | .authFailed c => s.stage c = some .authenticating
  | .authenticated c =>
    s.stage c = some .authenticating ∧ s.pool.allocate = none
  | .configFailed c => ∃ inner, s.stage c = some (.configuring inner)
  | .configured _ _ => False
  | .linkDown c => ∃ inner, s.stage c = some (.linked inner)

/-- Connections that have not ended, after one of them changes. -/
lemma countP_modify {cs : List Conn} {c : ℕ} {q : Conn} (hq : cs[c]? = some q) (f : Conn → Conn)
    (hlive : q.stage ≠ .ended) :
    (cs.modify c f).countP (fun q => q.stage ≠ .ended) + (if (f q).stage = .ended then 1 else 0) =
      cs.countP fun q => q.stage ≠ .ended := by
  induction cs generalizing c with
  | nil => exact absurd hq (by simp)
  | cons a cs ih =>
    cases c with
    | zero =>
      obtain rfl : a = q := by simpa using hq
      simp only [List.modify_zero_cons, List.countP_cons, hlive, ne_eq, not_false_eq_true,
        decide_true, if_true]
      by_cases he : (f a).stage = .ended <;> simp [he]
    | succ c =>
      have hq' : cs[c]? = some q := by simpa using hq
      have := ih hq'
      simp only [List.modify_succ_cons, List.countP_cons]
      omega

lemma conn_of_stage {s : Server} {c : ℕ} {st : Stage} (h : s.stage c = some st) :
    ∃ q, s.conns[c]? = some q ∧ q.stage = st := by
  simpa [stage] using h

lemma live_setStage {s : Server} {c : ℕ} {st : Stage} (h : s.stage c = some st) (hst : st ≠ .ended)
    (stage : Stage) : (s.setStage c stage).live + (if stage = .ended then 1 else 0) = s.live := by
  obtain ⟨q, hq, rfl⟩ := conn_of_stage h
  exact countP_modify hq (fun q => { q with stage }) hst

/-- An event that ends a connection keeps its slot. -/
lemma step_of_ends (s : Server) (e : Event) (h : s.Ends e) :
    (s.step e).gate.halfOpen = s.gate.halfOpen ∧ (s.step e).live + 1 = s.live := by
  cases e with
  | accept remote now | configured c spi => exact h.elim
  | authFailed c =>
    have hst : s.stage c = some .authenticating := h
    simp only [step, hst]
    exact ⟨rfl, live_setStage hst (by simp) .ended⟩
  | authenticated c =>
    obtain ⟨hst, hnone⟩ := h
    simp only [step, hst, hnone]
    exact ⟨rfl, live_setStage hst (by simp) .ended⟩
  | configFailed c =>
    obtain ⟨inner, hst⟩ := h
    simp only [step, hst]
    exact ⟨rfl, live_setStage (s := { s with pool := s.pool.release inner }) hst (by simp) .ended⟩
  | linkDown c =>
    obtain ⟨inner, hst⟩ := h
    obtain ⟨q, hq, hqs⟩ := conn_of_stage hst
    simp only [step, hq, hqs]
    exact ⟨rfl, live_setStage (s := s.release c q inner) hst (by simp) .ended⟩

/-- Every other event changes slots and connections alike. -/
lemma step_of_not_ends (s : Server) (e : Event) (h : ¬ s.Ends e)
    (hlevel : s.gate.halfOpen = s.live) : (s.step e).gate.halfOpen = (s.step e).live := by
  cases e with
  | accept remote now =>
    simp only [step, accept]
    rcases s.gate.tryAdmit_cases remote now with ⟨ha, -, -, hh⟩ | ⟨ha, -, hh⟩
    · rw [if_pos ha]
      have hlive : (s.conns ++ [{ remote := remote : Conn }]).countP
          (fun q => q.stage ≠ .ended) = s.live + 1 := by
        rw [List.countP_append]
        rfl
      exact (hh.trans (by rw [hlevel])).trans hlive.symm
    · rw [if_neg ha]
      exact hh.trans hlevel
  | authFailed c =>
    simp only [step]
    split
    · rename_i hst
      exact absurd hst h
    · exact hlevel
  | authenticated c =>
    simp only [step]
    split
    · rename_i hst
      split
      · rename_i hnone
        exact absurd ⟨hst, hnone⟩ h
      · rename_i inner pool _
        have := live_setStage (s := { s with pool }) hst (by simp) (.configuring inner)
        exact hlevel.trans this.symm
    · exact hlevel
  | configFailed c =>
    simp only [step]
    split
    · rename_i inner hst
      exact absurd ⟨inner, hst⟩ h
    · exact hlevel
  | configured c spi =>
    simp only [step]
    split
    · rename_i inner hst
      obtain ⟨q, hq, hqs⟩ := conn_of_stage hst
      have := countP_modify hq (fun q => { q with stage := .linked inner, espSPI := spi })
        (by simp [hqs])
      exact hlevel.trans this.symm
    · exact hlevel
  | linkDown c =>
    simp only [step]
    split
    · rename_i q hq
      split
      · rename_i inner hqs
        exact absurd ⟨inner, by simp [stage, hq, hqs]⟩ h
      · exact hlevel
    · exact hlevel

end Server

end Veepin.Pulse
