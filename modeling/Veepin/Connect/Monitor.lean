import Veepin.Core.Runs
import Mathlib.Tactic

/-!
# The liveness monitor

`monitored` of `client/liveness.go`: the goroutine of `run`, which shares the channel `stop` with
`Wait` and `Close`.  An event that the state does not allow is none.

* `monitor_watches` — as long as no `Wait` returns before the session ends, the monitor watches the
  session to its end, and ends itself once it is stopped;
* `monitor_stops_watching` — a `Wait` whose context expires stops it.
-/

namespace Veepin.Liveness

structure LivenessConfig where
  interval : ℤ
  timeout : ℤ
  maxFailures : ℤ

def defaultLivenessConfig : LivenessConfig where
  interval := 15 * 10 ^ 9
  timeout := 5 * 10 ^ 9
  maxFailures := 4

def LivenessConfig.withDefaults (c : LivenessConfig) : LivenessConfig where
  interval := if c.interval ≤ 0 then defaultLivenessConfig.interval else c.interval
  timeout := if c.timeout ≤ 0 then defaultLivenessConfig.timeout else c.timeout
  maxFailures := if c.maxFailures ≤ 0 then defaultLivenessConfig.maxFailures else c.maxFailures

/-- Where the goroutine is. -/
inductive Loop
  | select
  | probing
  /-- About to call `Session.Close`. -/
  | closing
  | returned
  deriving DecidableEq

structure Monitored where
  cfg : LivenessConfig
  loop : Loop := .select
  /-- The ticker's channel holds a tick. -/
  ticked : Bool := false
  failures : ℤ := 0
  /-- `stop` is closed. -/
  stopped : Bool := false
  /-- `Close` has been called. -/
  called : Bool := false
  /-- The session has ended. -/
  ended : Bool := false
  /-- What the probes have returned, the last one first. -/
  results : List Bool := []
  /-- The calls of `Session.Close` by the goroutine. -/
  closes : ℕ := 0

/-- `monitor`, for a session that tunes the monitor or does not. -/
def monitor (tuned : Option LivenessConfig) : Monitored :=
  { cfg := tuned.elim defaultLivenessConfig (·.withDefaults) }

inductive Event
  | tick
  /-- The goroutine takes a tick and calls `Probe`. -/
  | start
  /-- `Probe` returns, without an error if `ok`. -/
  | result (ok : Bool)
  | closeSession
  /-- The goroutine finds `stop` closed. -/
  | exit
  /-- `Session.Wait` returns to `Wait`, because the context is done if `expired`. -/
  | wait (expired : Bool)
  | close
  /-- The session ends. -/
  | ends

namespace Monitored

/-- `run` after a probe. -/
def judge (m : Monitored) (ok : Bool) : Monitored :=
  if m.stopped then { m with loop := .returned }
  else if ok then { m with loop := .select, failures := 0 }
  else
    let m := { m with failures := m.failures + 1 }
    if m.failures ≥ m.cfg.maxFailures then { m with loop := .closing }
    else { m with loop := .select }

def step (m : Monitored) : Event → Monitored
  | .tick => { m with ticked := true }
  | .start =>
    if m.loop = .select ∧ m.ticked then { m with loop := .probing, ticked := false } else m
  | .result ok => if m.loop = .probing then { m.judge ok with results := ok :: m.results } else m
  | .closeSession =>
    if m.loop = .closing then { m with loop := .returned, ended := true, closes := m.closes + 1 }
    else m
  | .exit => if m.loop = .select ∧ m.stopped then { m with loop := .returned } else m
  | .wait expired => if m.ended ∨ expired then { m with stopped := true } else m
  | .close => { m with stopped := true, called := true }
  | .ends => { m with ended := true }

/-- No `Wait` returns before the session ends. -/
def Patient (m : Monitored) : Event → Prop
  | .wait _ => m.ended = true
  | _ => True

/-- The probes that have failed since the last one that has not. -/
def failed (m : Monitored) : ℕ := (m.results.takeWhile (!·)).length

structure Inv (m : Monitored) : Prop where
  positive : 0 < m.cfg.maxFailures
  counted : m.stopped = false → m.loop = .select ∨ m.loop = .probing →
    m.failures = m.failed ∧ m.failures < m.cfg.maxFailures
  closing : m.loop = .closing ∨ m.closes ≠ 0 → m.cfg.maxFailures ≤ m.failed
  closed : m.closes ≠ 0 → m.closes = 1 ∧ m.loop = .returned
  returned : m.loop = .returned → m.stopped = true ∨ m.ended = true
  stopped : m.stopped = true → m.ended = true ∨ m.called = true
  called : m.called = true → m.stopped = true

variable {m : Monitored}

lemma inv_monitor (tuned : Option LivenessConfig) : (monitor tuned).Inv := by
  have hpos : 0 < (monitor tuned).cfg.maxFailures := by
    cases tuned with
    | none => decide
    | some c =>
      simp only [monitor, Option.elim, LivenessConfig.withDefaults, defaultLivenessConfig]
      split_ifs <;> omega
  constructor <;> simp_all [monitor, failed]

lemma Inv.unclosed (h : m.Inv) (hl : m.loop ≠ .returned) : m.closes = 0 :=
  not_not.mp fun hc => hl (h.closed hc).2

/-- What the goroutine makes of a probe. -/
lemma Inv.result (h : m.Inv) (hl : m.loop = .probing) (ok : Bool) :
    { m.judge ok with results := ok :: m.results : Monitored }.Inv := by
  have hopen := h.unclosed (by simp [hl])
  unfold judge
  dsimp only
  split_ifs with hstop hok hmax
  · exact { h with
      counted := fun hs => absurd (hstop.symm.trans hs) (by decide)
      closing := by simp [hopen]
      closed := by simp [hopen]
      returned := fun _ => .inl hstop }
  · subst hok
    exact { h with
      counted := fun _ _ => ⟨rfl, h.positive⟩
      closing := by simp [hopen]
      closed := by simp [hopen]
      returned := nofun }
  all_goals
    obtain rfl : ok = false := by simpa using hok
    have hcounted := h.counted (by simpa using hstop) (.inr hl)
  · exact { h with
      counted := nofun
      closing := fun _ => show m.cfg.maxFailures ≤ ((m.failed + 1 : ℕ) : ℤ) by omega
      closed := by simp [hopen]
      returned := nofun }
  · exact { h with
      counted := fun _ _ =>
        ⟨show m.failures + 1 = ((m.failed + 1 : ℕ) : ℤ) by omega, not_le.mp hmax⟩
      closing := by simp [hopen]
      closed := by simp [hopen]
      returned := nofun }

/-- **The step.** -/
lemma inv_step (h : m.Inv) {e : Event} (he : m.Patient e) : (m.step e).Inv := by
  cases e with
  | tick => exact { h with }
  | start => exact inv_ite h fun hs => { h with
      counted := fun hst _ => h.counted hst (.inl hs.1)
      closing := fun hc => h.closing (hc.imp_left nofun)
      closed := by simp [h.unclosed (by simp [hs.1])]
      returned := nofun }
  | result ok => exact inv_ite h fun hl => h.result hl ok
  | closeSession => exact inv_ite h fun hl => { h with
      counted := nofun
      closing := fun _ => h.closing (.inl hl)
      closed := by simp [h.unclosed (by simp [hl])]
      returned := fun _ => .inr rfl
      stopped := fun _ => .inl rfl }
  | exit => exact inv_ite h fun hs => { h with
      counted := nofun
      closing := fun hc => h.closing (hc.imp_left nofun)
      closed := fun hc => ⟨(h.closed hc).1, rfl⟩
      returned := fun _ => .inl hs.2 }
  | wait expired => exact inv_ite h fun _ => { h with
      counted := nofun
      returned := fun _ => .inl rfl
      stopped := fun _ => .inl he
      called := fun _ => rfl }
  | close => exact { h with
      counted := nofun
      returned := fun _ => .inl rfl
      stopped := fun _ => .inr rfl
      called := fun _ => rfl }
  | ends => exact { h with
      returned := fun _ => .inr rfl
      stopped := fun _ => .inl rfl }

/-! ## The end of the goroutine -/

/-- The steps of the goroutine in a run. -/
def moves : Monitored → List Event → ℕ
  | _, [] => 0
  | m, e :: es => (if (m.step e).loop = m.loop then 0 else 1) + (m.step e).moves es

/-- The steps that a stopped goroutine has before it. -/
def rank (m : Monitored) : ℕ :=
  match m.loop with
  | .select => 2
  | .probing | .closing => 1
  | .returned => 0

lemma rank_eq_zero : m.rank = 0 ↔ m.loop = .returned := by
  unfold rank
  cases m.loop <;> simp

lemma stopped_step (h : m.stopped = true) (e : Event) : (m.step e).stopped = true ∧
    (m.step e).rank + (if (m.step e).loop = m.loop then 0 else 1) ≤ m.rank := by
  cases e <;> simp only [step, judge, h, rank] <;> try split_ifs
  all_goals simp_all

lemma stopped_run (es : List Event) : ∀ m : Monitored, m.stopped = true →
    (run step m es).stopped = true ∧
      (run step m es).rank + m.moves es ≤ m.rank := by
  induction es with
  | nil => exact fun m h => ⟨h, le_rfl⟩
  | cons e es ih =>
    intro m h
    obtain ⟨hstop, hrank⟩ := stopped_step h e
    obtain ⟨hstop, hrest⟩ := ih _ hstop
    exact ⟨hstop, by rw [run_cons, moves]; omega⟩

lemma stopped_moves (h : m.stopped = true) (hloop : m.loop ≠ .returned) : ∃ e, m.moves [e] = 1 := by
  cases hl : m.loop with
  | select => exact ⟨.exit, by simp [moves, step, hl, h]⟩
  | probing => exact ⟨.result true, by simp [moves, step, judge, hl, h]⟩
  | closing => exact ⟨.closeSession, by simp [moves, step, hl]⟩
  | returned => exact absurd hl hloop

/-! ## The result -/

/-- The session has not ended and `Close` has not been called. -/
def Alive (m : Monitored) : Prop := m.ended = false ∧ m.called = false

/-- What is asked of the monitor. -/
structure Watches (m : Monitored) : Prop where
  there : m.Alive → m.loop ≠ .returned ∧ m.step .exit = m
  probes : m.Alive → m.loop = .select → ((m.step .tick).step .start).loop = .probing
  closes : m.Alive → (m.loop = .closing ↔ m.cfg.maxFailures ≤ m.failed)
  only : m.loop = .closing ∨ m.closes ≠ 0 → m.closes ≤ 1 ∧ m.cfg.maxFailures ≤ m.failed
  halts : ¬ m.Alive → (m.step (.wait false)).stopped = true
  /-- Once stopped, the goroutine makes at most two more steps, and has one until it returns. -/
  ends : m.stopped = true → ∀ es, (run step m es).loop = .returned ∨
    m.moves es < 2 ∧ ∃ e, (run step m es).moves [e] = 1

lemma Inv.running (h : m.Inv) (halive : m.Alive) : m.stopped = false := by
  by_contra hs
  simpa [halive.1, halive.2] using h.stopped (by simpa using hs)

lemma Inv.watches (h : m.Inv) : m.Watches where
  there := by
    intro halive
    have hstop := h.running halive
    exact ⟨fun hl => by simpa [halive.1, hstop] using h.returned hl, by simp [step, hstop]⟩
  probes := by
    intro _ hl
    simp [step, hl]
  closes := by
    intro halive
    refine ⟨fun hl => h.closing (.inl hl), fun hmax => ?_⟩
    have hcounted := h.counted (h.running halive)
    cases hl : m.loop with
    | closing => rfl
    | returned => simpa [halive.1, h.running halive] using h.returned hl
    | select => have := hcounted (.inl hl); omega
    | probing => have := hcounted (.inr hl); omega
  only := by
    intro hc
    refine ⟨?_, h.closing hc⟩
    by_cases h0 : m.closes = 0
    · omega
    · exact (h.closed h0).1.le
  halts := by
    intro hdead
    by_cases hended : m.ended = true
    · simp [step, hended]
    · have hcalled : m.called = true := by
        by_contra hc
        exact hdead ⟨by simpa using hended, by simpa using hc⟩
      simp [step, hended, h.called hcalled]
  ends := by
    intro hstop es
    obtain ⟨hstop', hrank⟩ := stopped_run es m hstop
    by_cases hl : (run step m es).loop = .returned
    · exact .inl hl
    · refine .inr ⟨?_, stopped_moves hstop' hl⟩
      have hle : m.rank ≤ 2 := by unfold rank; split <;> omega
      have hpos := mt rank_eq_zero.mp hl
      omega

end Monitored

open Monitored

/-- **The monitor watches for as long as the session lives**: a tick leads to a probe, and it closes
the session exactly when `MaxFailures` probes in a row have failed.  Then it ends. -/
theorem monitor_watches (tuned : Option LivenessConfig) (es : List Event)
    (h : Along step Patient (monitor tuned) es) : Always step Watches (monitor tuned) es :=
  always_of_inv Inv (fun _ _ hi he => inv_step hi he) (fun _ hi => hi.watches) _ es
    (inv_monitor tuned) h

/-- Two probes fail, a third one does not; then the session ends while a probe is on its way. -/
theorem monitor_watches_recovered : Always step Watches (monitor (some ⟨0, 0, 3⟩))
      [.tick, .start, .result false, .tick, .start, .result false, .tick, .start, .result true,
        .tick, .start, .ends, .wait true, .result false] :=
  monitor_watches (some ⟨0, 0, 3⟩) _
    (by simp [Along, Patient, step, judge, monitor, LivenessConfig.withDefaults])

/-- A `Wait` whose context expires stops the monitor: the session lives on, and no tick leads to a
probe any more. -/
theorem monitor_stops_watching : (run step (monitor none) [.wait true, .exit]).Alive ∧
      ∀ es, (run step (monitor none) ([.wait true, .exit] ++ es)).loop = .returned := by
  refine ⟨⟨rfl, rfl⟩, fun es => ?_⟩
  obtain ⟨-, hrank⟩ := stopped_run es (run step (monitor none) [.wait true, .exit]) rfl
  rw [run_append]
  exact rank_eq_zero.mp (Nat.eq_zero_of_le_zero (le_of_add_le_left hrank))

end Veepin.Liveness
