import Mathlib.Order.Nat

/-!
# What leads to what

Rules for runs without end.  Predicates are over the points in time of such a run, so that they can
speak of states and of steps alike.

* `Leads.meet` — the rule of weak fairness: what stays as it is until a step of some kind is still
  so when that step comes;
* `Leads.rank` — the rule of ranks.
-/

namespace Veepin

variable {P Q R H : ℕ → Prop}

/-- Again and again. -/
def Often (P : ℕ → Prop) : Prop := ∀ n, ∃ m, n ≤ m ∧ P m

/-- Whenever `P` holds, `Q` holds then or later. -/
def Leads (P Q : ℕ → Prop) : Prop := ∀ n, P n → ∃ m, n ≤ m ∧ Q m

lemma Often.mono (h : Often P) (hPQ : ∀ n, P n → Q n) : Often Q := fun n => by
  obtain ⟨m, hm, hP⟩ := h n
  exact ⟨m, hm, hPQ m hP⟩

lemma Leads.often (h : Leads P Q) (hP : Often P) : Often Q := fun n => by
  obtain ⟨m, hm, hPm⟩ := hP n
  obtain ⟨k, hk, hQk⟩ := h m hPm
  exact ⟨k, hm.trans hk, hQk⟩

lemma Leads.of_imp (h : ∀ n, P n → Q n) : Leads P Q := fun n hn => ⟨n, le_rfl, h n hn⟩

lemma Leads.next (h : ∀ n, P n → Q (n + 1)) : Leads P Q := fun n hn => ⟨n + 1, n.le_succ, h n hn⟩

lemma Leads.trans (h : Leads P Q) (h' : Leads Q R) : Leads P R := fun n hn => by
  obtain ⟨m, hm, hQ⟩ := h n hn
  obtain ⟨k, hk, hR⟩ := h' m hQ
  exact ⟨k, hm.trans hk, hR⟩

/-- Either way. -/
lemma Leads.or (h : Leads P R) (h' : Leads Q R) : Leads (fun n => P n ∨ Q n) R :=
  fun n hn => hn.elim (h n) (h' n)

/-- **Weak fairness.**  By induction on how far the next step of the kind is. -/
theorem Leads.meet (hoften : Often H) (hstay : ∀ n, P n → ¬ H n → P (n + 1) ∨ Q (n + 1)) :
    Leads P fun n => P n ∧ H n ∨ Q n := by
  suffices h : ∀ d n, P n → H (n + d) → ∃ m, n ≤ m ∧ (P m ∧ H m ∨ Q m) by
    intro n hn
    obtain ⟨m, hm, hH⟩ := hoften n
    exact h (m - n) n hn (by rwa [Nat.add_sub_cancel' hm])
  intro d
  induction d with
  | zero => exact fun n hn hH => ⟨n, le_rfl, .inl ⟨hn, hH⟩⟩
  | succ d ih =>
    intro n hn hH
    by_cases hnow : H n
    · exact ⟨n, le_rfl, .inl ⟨hn, hnow⟩⟩
    · rcases hstay n hn hnow with hnext | hQ
      · obtain ⟨m, hm, hgoal⟩ := ih (n + 1) hnext (by rwa [Nat.add_right_comm])
        exact ⟨m, n.le_succ.trans hm, hgoal⟩
      · exact ⟨n + 1, n.le_succ, .inr hQ⟩

/-- **Ranks.** -/
theorem Leads.rank (rank : ℕ → ℕ)
    (h : ∀ k, Leads (fun n => P n ∧ rank n = k) fun n => Q n ∨ P n ∧ rank n < k) : Leads P Q := by
  suffices hall : ∀ k n, P n → rank n = k → ∃ m, n ≤ m ∧ Q m from
    fun n hn => hall (rank n) n hn rfl
  intro k
  induction k using Nat.strong_induction_on with
  | _ k ih =>
    intro n hn hk
    obtain ⟨m, hm, hQ | ⟨hP, hlt⟩⟩ := h k n ⟨hn, hk⟩
    · exact ⟨m, hm, hQ⟩
    · obtain ⟨l, hl, hQ⟩ := ih (rank m) hlt m hP rfl
      exact ⟨l, hm.trans hl, hQ⟩

end Veepin
