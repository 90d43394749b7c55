import Veepin.Core.Runs
import Mathlib.Order.WellFounded

/-!
# Fair schedules

A run that never ends is a schedule: one input for every point in time.  It is fair if no input
stays away for good.

* `Fair.reaches` — the rule that every progress result uses.  A rank says how far the goal is, and
  every state names one input that helps: it lowers the rank, and no other input raises the rank or
  changes which input helps without lowering it.
* `inv_after` — an invariant along a schedule.
-/

namespace Veepin

variable {σ ι : Type*} {step : σ → ι → σ} {s : σ} {sched : ℕ → ι}

/-- The state after the first `n` inputs of a schedule. -/
def after (step : σ → ι → σ) (s : σ) (sched : ℕ → ι) : ℕ → σ
  | 0 => s
  | n + 1 => step (after step s sched n) (sched n)

/-- Every input comes up again and again. -/
def Fair (sched : ℕ → ι) : Prop := ∀ i n, ∃ m, n ≤ m ∧ sched m = i

/-- **The invariant rule** along a schedule. -/
theorem inv_after {Inv : σ → Prop} (hstep : ∀ s i, Inv s → Inv (step s i)) (hs : Inv s)
    (n : ℕ) : Inv (after step s sched n) := by
  induction n with
  | zero => exact hs
  | succ n ih => exact hstep _ _ ih

section Progress

variable {α : Type*} [LT α] [WellFoundedLT α] {Inv : σ → Prop}

/-- One input brings the goal nearer: it reaches it, or lowers the rank. -/
def Nearer (Goal : σ → Prop) (rank : σ → α) (s s' : σ) : Prop := Goal s' ∨ rank s' < rank s

/-- **The progress rule.** -/
theorem Fair.reaches (hfair : Fair sched) (Goal : σ → Prop) (rank : σ → α) (helpful : σ → ι)
    (hinv : ∀ s i, Inv s → Inv (step s i))
    (hhelp : ∀ s, Inv s → ¬ Goal s → Nearer Goal rank s (step s (helpful s)))
    (hother : ∀ s i, Inv s → ¬ Goal s → Nearer Goal rank s (step s i) ∨
      rank (step s i) = rank s ∧ helpful (step s i) = helpful s)
    (hs : Inv s) : ∃ n, Goal (after step s sched n) := by
  -- from any time on, by induction on the rank that is reached at this time
  suffices h : ∀ r n, rank (after step s sched n) = r → ∃ m, Goal (after step s sched m) from
    h _ 0 rfl
  intro r
  induction r using WellFoundedLT.induction with
  | ind r ih =>
    -- until the helpful input comes, `d` steps from now
    suffices hwait : ∀ d n, rank (after step s sched n) = r →
        sched (n + d) = helpful (after step s sched n) → ∃ m, Goal (after step s sched m) by
      intro n hn
      obtain ⟨m, hm, hhelpful⟩ := hfair (helpful (after step s sched n)) n
      exact hwait (m - n) n hn (by rwa [Nat.add_sub_cancel' hm])
    have hnear : ∀ n, rank (after step s sched n) = r →
        Nearer Goal rank (after step s sched n) (after step s sched (n + 1)) →
        ∃ m, Goal (after step s sched m) := by
      rintro n hn (hgoal | hlt)
      · exact ⟨n + 1, hgoal⟩
      · exact ih _ (hn ▸ hlt) (n + 1) rfl
    intro d
    induction d with
    | zero =>
      intro n hn hd
      by_cases hgoal : Goal (after step s sched n)
      · exact ⟨n, hgoal⟩
      · refine hnear n hn ?_
        have := hhelp _ (inv_after hinv hs n) hgoal
        rwa [← hd] at this
    | succ d ihd =>
      intro n hn hd
      by_cases hgoal : Goal (after step s sched n)
      · exact ⟨n, hgoal⟩
      · obtain hnext | ⟨hrank, hsame⟩ := hother _ (sched n) (inv_after hinv hs n) hgoal
        · exact hnear n hn hnext
        · refine ihd (n + 1) (hrank.trans hn) ?_
          rw [Nat.add_right_comm]
          exact hd.trans hsame.symm

end Progress

end Veepin
