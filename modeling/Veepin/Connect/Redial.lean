import Mathlib.Tactic
import Veepin.Core.Runs

/-!
# The reconnection loop

`dialConnect` and `oneSession` of `cmd/veepin/connect.go` over the sessions of WireGuard and
OpenVPN, each wrapped in the monitor of `client/liveness.go`.  No signal comes.

* `Redials` — what is asked of a step: a session that ends is dialled again, and the command returns
  on a permanent error only;
* `dead_peer_redialled` — this holds just if the step is not a `Wait` that finds its session ended;
* `dead_peer_forgotten` — the monitor finds the peer dead, and the command returns.
-/

namespace Veepin.Connect

/-! ## Backoff -/

def retryMinDelay : ℕ := 1000000000

def retryMaxDelay : ℕ := 60 * 1000000000

def retrySettled : ℕ := 60 * 1000000000

/-- The loop of `backoff`. -/
def doubled : ℕ → ℕ → ℕ
  | 0, d => d
  | n + 1, d => if d * 2 ≥ retryMaxDelay then retryMaxDelay else doubled n (d * 2)

/-- `backoff`; `draw` is what the random source gives. -/
def backoff (n : ℤ) (draw : ℕ) : ℕ :=
  let n := if n < 1 then 1 else n
  let half := doubled (n.toNat - 1) retryMinDelay / 2
  half + draw % (half + 1)

lemma doubled_le (n : ℕ) : ∀ d, d ≤ retryMaxDelay → doubled n d ≤ retryMaxDelay := by
  induction n with
  | zero => exact fun d hd => hd
  | succ n ih =>
    intro d hd
    rw [doubled]
    split_ifs with hcap
    · exact le_refl _
    · exact ih _ (by omega)

lemma backoff_le (n : ℤ) (draw : ℕ) : backoff n draw ≤ retryMaxDelay := by
  have hnominal := doubled_le ((if n < 1 then 1 else n).toNat - 1) retryMinDelay (by decide)
  have hdraw := Nat.mod_lt draw
    (show 0 < doubled ((if n < 1 then 1 else n).toNat - 1) retryMinDelay / 2 + 1 by omega)
  unfold backoff
  dsimp only
  omega

/-! ## The sessions and their monitor -/

/-- A session's protocol; of OpenVPN the silence that the server's PUSH_REPLY lets it tolerate. -/
inductive Proto
  | wireguard
  | openvpn (deadline : ℤ)
  deriving DecidableEq

def defaultMaxFailures : ℤ := 4

/-- The `MaxFailures` of `LivenessConfig`, zero where it is left to the default. -/
def Proto.tunedFailures : Proto → ℤ
  | .wireguard => 2
  | .openvpn deadline => if deadline ≤ 0 then 0 else 1

/-- `withDefaults`. -/
def Proto.maxFailures (p : Proto) : ℤ :=
  if p.tunedFailures ≤ 0 then defaultMaxFailures else p.tunedFailures

/-- `Probe`, for what the protocol has found out: an OpenVPN session without a deadline makes no
claim. -/
def Proto.probe (p : Proto) (alive : Bool) : Bool :=
  match p with
  | .wireguard => alive
  | .openvpn deadline => deadline ≤ 0 || alive

/-- A session and its monitor. -/
structure Sess where
  proto : Proto
  /-- `failures` of `monitored.run` -/
  failures : ℤ := 0
  /-- the monitor's goroutine runs -/
  monitored : Bool := true
  closed : Bool := false
  /-- the channel `done` is closed -/
  done : Bool := false
  deriving DecidableEq

namespace Sess

/-- `Close`: OpenVPN's closes `done`, WireGuard's the socket. -/
def close (s : Sess) : Sess :=
  match s.proto with
  | .wireguard => { s with closed := true }
  | .openvpn _ => { s with closed := true, done := true }

/-- One turn of `monitored.run`. -/
def probe (s : Sess) (alive : Bool) : Sess :=
  if s.monitored = false then s
  else if s.proto.probe alive then { s with failures := 0 }
  else
    let s := { s with failures := s.failures + 1 }
    if s.failures ≥ s.proto.maxFailures then { s.close with monitored := false } else s

/-- One turn of the loop that reads the socket.  WireGuard's closes `done` when a read fails, and on
a closed socket every read does; OpenVPN's says nothing to the session. -/
def readLoop (s : Sess) (fails : Bool) : Sess :=
  match s.proto with
  | .wireguard => if s.closed || fails then { s with done := true } else s
  | .openvpn _ => s

end Sess

/-! ## The command -/

/-- The errors that `permanent` tells apart. -/
inductive Err
  | auth
  | unknownProtocol
  | noRetry
  | other
  deriving DecidableEq

def permanent : Err → Bool
  | .auth | .unknownProtocol | .noRetry => true
  | .other => false

/-- What the loop reads of `netFlags`. -/
structure NetFlags where
  retry : Bool := true
  retryMax : ℤ := 0

inductive Phase
  | dialling
  /-- between `Dial` and `Wait` -/
  | routing (s : Sess)
  | waiting (s : Sess)
  | sleeping (delay : ℕ)
  | returned (err : Option Err)
  deriving DecidableEq

structure State where
  phase : Phase := .dialling
  attempt : ℤ := 1
  consecutive : ℤ := 0
  dials : ℕ := 1
  deriving DecidableEq

inductive Event
  /-- `client.Dial` returns -/
  | dialled (r : Except Err Proto) (draw : ℕ)
  /-- the routes are in, and the kill switch is armed or refuses -/
  | armed (err : Option Err) (upFor draw : ℕ)
  | probe (alive : Bool)
  | readLoop (fails : Bool)
  /-- `Wait` is looked at -/
  | wait (upFor draw : ℕ)
  /-- the backoff is over -/
  | slept

namespace State

/-- The rest of the loop's body in `dialConnect`, for what `oneSession` has returned. -/
def finish (cfg : NetFlags) (st : State) (upFor : ℕ) (err : Option Err) (draw : ℕ) : State :=
  match err with
  | none => { st with phase := .returned none }
  | some e =>
    if permanent e then { st with phase := .returned (some e) }
    else if cfg.retry = false then { st with phase := .returned (some e) }
    else
      let consecutive := (if upFor ≥ retrySettled then 0 else st.consecutive) + 1
      if cfg.retryMax > 0 ∧ st.attempt ≥ cfg.retryMax then { st with phase := .returned (some e) }
      else { st with phase := .sleeping (backoff consecutive draw), consecutive }

def step (cfg : NetFlags) (st : State) (ev : Event) : State :=
  match st.phase, ev with
  | .dialling, .dialled (.error e) draw => st.finish cfg 0 (some e) draw
  | .dialling, .dialled (.ok p) _ => { st with phase := .routing { proto := p } }
  | .routing _, .armed (some e) upFor draw => st.finish cfg upFor (some e) draw
  | .routing s, .armed none _ _ => { st with phase := .waiting s }
  | .routing s, .probe alive => { st with phase := .routing (s.probe alive) }
  | .routing s, .readLoop fails => { st with phase := .routing (s.readLoop fails) }
  | .waiting s, .probe alive => { st with phase := .waiting (s.probe alive) }
  | .waiting s, .readLoop fails => { st with phase := .waiting (s.readLoop fails) }
  -- both sessions' Wait gives nil when done is closed
  | .waiting s, .wait upFor draw => if s.done then st.finish cfg upFor none draw else st
  | .sleeping _, .slept =>
    { st with phase := .dialling, attempt := st.attempt + 1, dials := st.dials + 1 }
  | _, _ => st

/-- The session that is up. -/
def session (st : State) : Option Sess :=
  match st.phase with
  | .routing s | .waiting s => some s
  | _ => none

/-- The loop goes on with a bounded wait, or has a permanent error to return. -/
def Retries : Phase → Prop
  | .sleeping delay => delay ≤ retryMaxDelay
  | .returned err => ∃ e, err = some e ∧ permanent e = true
  | _ => False

/-- A session that ends, or a dial that fails, is followed by another dial after a bounded wait
unless the error is permanent; the command returns on nothing else; and the wait ends in a dial. -/
def Redials (cfg : NetFlags) (st : State) (ev : Event) : Prop :=
  (st.session.isSome = true → (st.step cfg ev).session = none → Retries (st.step cfg ev).phase) ∧
    (∀ err, (st.step cfg ev).phase = .returned err → st.phase ≠ .returned err →
      Retries (.returned err)) ∧
    (∀ delay, st.phase = .sleeping delay → ev = .slept →
      (st.step cfg ev).phase = .dialling ∧ (st.step cfg ev).dials = st.dials + 1)

/-- `Wait` is looked at when the session has ended. -/
def FindsEnded (st : State) (ev : Event) : Prop :=
  match st.phase, ev with
  | .waiting s, .wait _ _ => s.done = true
  | _, _ => False

instance (st : State) (ev : Event) : Decidable (st.FindsEnded ev) := by
  unfold FindsEnded
  split <;> infer_instance

variable {cfg : NetFlags} {st : State}

lemma retries_finish (hretry : cfg.retry = true) (hmax : cfg.retryMax = 0) (e : Err)
    (upFor draw : ℕ) : Retries (st.finish cfg upFor (some e) draw).phase := by
  unfold finish
  dsimp only
  by_cases hperm : permanent e = true
  · rw [if_pos hperm]
    exact ⟨e, rfl, hperm⟩
  · rw [if_neg hperm, if_neg (by simp [hretry]), if_neg (by omega)]
    exact backoff_le _ _

variable {ev : Event}

/-- A step that returns, or ends a session, is one of `finish` for an error. -/
lemma redials_of_finish (hretry : cfg.retry = true) (hmax : cfg.retryMax = 0) {e : Err}
    {upFor draw : ℕ} (hstep : st.step cfg ev = st.finish cfg upFor (some e) draw)
    (hawake : ∀ delay, st.phase ≠ .sleeping delay) : st.Redials cfg ev := by
  have hretries : Retries (st.finish cfg upFor (some e) draw).phase :=
    retries_finish hretry hmax e _ _
  refine ⟨fun _ _ => by rw [hstep]; exact hretries, fun err herr _ => ?_,
    fun delay hdelay => absurd hdelay (hawake delay)⟩
  rw [hstep] at herr
  rw [← herr]
  exact hretries

/-- A step that leaves the session up, or does nothing. -/
lemma redials_of_session {p : Phase} (hstep : st.step cfg ev = { st with phase := p })
    (hup : ({ st with phase := p } : State).session.isSome = true)
    (hawake : ∀ delay, st.phase ≠ .sleeping delay) : st.Redials cfg ev := by
  refine ⟨fun _ hnone => ?_, fun err herr _ => ?_, fun delay hdelay => absurd hdelay (hawake delay)⟩
  · rw [hstep] at hnone
    rw [hnone] at hup
    exact nomatch hup
  · rw [hstep] at herr
    subst herr
    exact nomatch hup

lemma redials_of_eq (hstep : st.step cfg ev = st)
    (hawake : ∀ delay, st.phase = .sleeping delay → ev ≠ .slept) : st.Redials cfg ev := by
  refine ⟨fun hup hnone => ?_, fun err herr hne => ?_, fun delay hd h => absurd h (hawake delay hd)⟩
  · rw [hstep] at hnone
    rw [hnone] at hup
    exact nomatch hup
  · exact absurd (by rw [← hstep]; exact herr) hne

/-- A session that is found ended is not dialled again, and nothing else is either. -/
lemma step_of_findsEnded (h : st.FindsEnded ev) :
    st.step cfg ev = { st with phase := .returned none } ∧ ¬ st.Redials cfg ev := by
  unfold FindsEnded at h
  split at h
  · rename_i s upFor draw hphase
    have hstep : st.step cfg (.wait upFor draw) = { st with phase := .returned none } := by
      simp [step, hphase, h, finish]
    refine ⟨hstep, fun hredials => ?_⟩
    obtain ⟨e, he, -⟩ := hredials.2.1 none (by rw [hstep]) (by simp [hphase])
    exact nomatch he
  · exact h.elim

lemma run_of_returned {err : Option Err} (hret : st.phase = .returned err) (evs : List Event) :
    run (step cfg) st evs = st := by
  induction evs with
  | nil => rfl
  | cons ev evs ih =>
    rw [run_cons, show st.step cfg ev = st by simp [step, hret]]
    exact ih

/-- **One step.**  What fails or ends otherwise is dialled again. -/
lemma redials_of_not_findsEnded (hretry : cfg.retry = true) (hmax : cfg.retryMax = 0)
    (h : ¬ st.FindsEnded ev) : st.Redials cfg ev := by
  rcases st with ⟨phase, attempt, consecutive, dials⟩
  cases phase with
  | dialling =>
    cases ev with
    | dialled r draw =>
      cases r with
      | error e => exact redials_of_finish hretry hmax rfl nofun
      | ok p => exact redials_of_session rfl rfl nofun
    | _ => exact redials_of_eq rfl nofun
  | routing s =>
    cases ev with
    | armed err upFor draw =>
      cases err with
      | some e => exact redials_of_finish hretry hmax rfl nofun
      | none => exact redials_of_session rfl rfl nofun
    | probe alive | readLoop fails => exact redials_of_session rfl rfl nofun
    | _ => exact redials_of_eq rfl nofun
  | waiting s =>
    cases ev with
    | probe alive | readLoop fails => exact redials_of_session rfl rfl nofun
    | wait upFor draw => exact redials_of_eq (if_neg h) nofun
    | _ => exact redials_of_eq rfl nofun
  | sleeping delay =>
    cases ev with
    | slept => exact ⟨nofun, nofun, fun _ _ _ => ⟨rfl, rfl⟩⟩
    | _ => exact redials_of_eq rfl (fun _ _ => nofun)
  | returned err => cases ev <;> exact redials_of_eq rfl nofun

end State

/-- **When a dead peer leads to a re-dial.**  With retry enabled and no limit on the attempts, at
every step of every run: what fails or ends is dialled again just if it is not a `Wait` that finds
the session ended; then the command has returned, and there is no further dial. -/
theorem dead_peer_redialled (cfg : NetFlags) (hretry : cfg.retry = true) (hmax : cfg.retryMax = 0)
    (evs : List Event) :
    Along (State.step cfg) (fun st ev => (st.Redials cfg ev ↔ ¬ st.FindsEnded ev) ∧
      (st.FindsEnded ev → ∀ later,
        run (State.step cfg) (st.step cfg ev) later = { st with phase := .returned none }))
          {} evs := by
  refine along_of_inv (fun _ => True) (fun _ _ _ _ => trivial) ?_ _ evs trivial (along_true _ _ _)
  intro st ev _ _
  refine ⟨⟨fun hredials hfound => (State.step_of_findsEnded hfound).2 hredials,
    State.redials_of_not_findsEnded hretry hmax⟩, fun hfound later => ?_⟩
  rw [(State.step_of_findsEnded hfound).1]
  exact State.run_of_returned rfl later

/-! ## A peer that dies -/

/-- A dial that fails, one whose kill switch fails, and a session whose peer dies. -/
theorem dead_peer_redialled_lossy : ∃ st, st = run (State.step {}) {}
      [.dialled (.error .other) 5, .slept, .dialled (.ok .wireguard) 0, .armed (some .other) 0 3,
        .slept, .dialled (.ok .wireguard) 0, .armed none 0 0, .probe false, .probe false,
        .readLoop false] ∧ st.dials = 3 ∧
      ∀ later, run (State.step {}) (st.step {} (.wait 90 0)) later =
        { st with phase := .returned none } :=
  ⟨_, rfl, by decide, (along_last _ _ _ (dead_peer_redialled {} rfl rfl (_ ++ [.wait 90 0]))).2
    (by decide)⟩

/-- **A dead peer is forgotten.**  The monitor closes the session, `Wait` gives nil, and the command
takes that for an intended teardown: it returns without an error and without another dial. -/
theorem dead_peer_forgotten :
    run (State.step {}) {} [.dialled (.ok .wireguard) 0, .armed none 0 0, .probe false,
      .probe false, .readLoop false, .wait 90 0] = { phase := .returned none } ∧
      run (State.step {}) {} [.dialled (.ok (.openvpn 60)) 0, .armed none 0 0, .probe false,
        .wait 90 0] = { phase := .returned none } ∧
      ¬ Along (State.step {}) (State.Redials {}) {}
        [.dialled (.ok (.openvpn 60)) 0, .armed none 0 0, .probe false, .wait 90 0] := by
  refine ⟨by decide, by decide, fun h => ?_⟩
  obtain ⟨-, -, -, hwait, -⟩ := h
  obtain ⟨e, he, -⟩ := hwait.1 rfl rfl
  exact nomatch he

end Veepin.Connect
