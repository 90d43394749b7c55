import Mathlib.Data.List.Induction

/-!
# Runs of a deterministic step function

A step function takes the state and one input (a datagram, a call, a timer) to the next state.  The
environment is in the inputs, so a run is a list of inputs.  Two predicates speak about whole runs:

* `Along step C s is` — every step of the run from `s` meets `C`, read on the state *before* the
  step and the input;
* `Always step P s is` — `P` holds in every state the run visits, the first and last included.

`always_of_inv` is the rule of every safety result: an invariant that holds at the start and is kept
by each step that meets `C` holds in all states of a run whose steps all meet `C`.  A property that
looks back at the steps already taken is an invariant of the state together with the `trace` of the
run so far (`inv_trace`); `count_fires` counts the steps of one kind in it.
-/

namespace Veepin

variable {σ ι : Type*}

/-- The state after the inputs `is`, from `s`. -/
def run (step : σ → ι → σ) (s : σ) (is : List ι) : σ := is.foldl step s

section

variable (step : σ → ι → σ) (s : σ)

@[simp] lemma run_nil : run step s [] = s := rfl

@[simp] lemma run_cons (i : ι) (is : List ι) : run step s (i :: is) = run step (step s i) is := rfl

lemma run_append (is js : List ι) :
    run step s (is ++ js) = run step (run step s is) js := List.foldl_append

@[simp] lemma run_concat (is : List ι) (i : ι) :
    run step s (is ++ [i]) = step (run step s is) i := by
  rw [run_append]; rfl

end

/-- The steps of a run: each input with the state in which it came. -/
def trace (step : σ → ι → σ) : σ → List ι → List (σ × ι)
  | _, [] => []
  | s, i :: is => (s, i) :: trace step (step s i) is

lemma trace_concat (step : σ → ι → σ) (i : ι) :
    ∀ (s : σ) (is : List ι), trace step s (is ++ [i]) = trace step s is ++ [(run step s is, i)]
  | _, [] => rfl
  | s, j :: is => congrArg ((s, j) :: ·) (trace_concat step i (step s j) is)

/-- **The history rule.**  What holds at the start, where nothing has happened, and survives each
step added to the history holds after every run. -/
theorem inv_trace {step : σ → ι → σ} (Inv : List (σ × ι) → σ → Prop)
    (hstep : ∀ h s i, Inv h s → Inv (h ++ [(s, i)]) (step s i)) (s : σ) (hs : Inv [] s)
    (is : List ι) : Inv (trace step s is) (run step s is) := by
  induction is using List.reverseRecOn with
  | nil => exact hs
  | append_singleton is i ih =>
    rw [trace_concat, run_concat]
    exact hstep _ _ _ ih

/-- Every step of the run from `s` meets `C` in the state before it. -/
def Along (step : σ → ι → σ) (C : σ → ι → Prop) : σ → List ι → Prop
  | _, [] => True
  | s, i :: is => C s i ∧ Along step C (step s i) is

/-- `P` holds in every state that the run from `s` visits. -/
def Always (step : σ → ι → σ) (P : σ → Prop) : σ → List ι → Prop
  | s, [] => P s
  | s, i :: is => P s ∧ Always step P (step s i) is

instance Along.decidable (step : σ → ι → σ) (C : σ → ι → Prop) [∀ s i, Decidable (C s i)] :
    ∀ s is, Decidable (Along step C s is)
  | _, [] => isTrue trivial
  | s, i :: is =>
    have := Along.decidable step C (step s i) is
    inferInstanceAs (Decidable (C s i ∧ Along step C (step s i) is))

instance Always.decidable (step : σ → ι → σ) (P : σ → Prop) [∀ s, Decidable (P s)] :
    ∀ s is, Decidable (Always step P s is)
  | s, [] => inferInstanceAs (Decidable (P s))
  | s, i :: is =>
    have := Always.decidable step P (step s i) is
    inferInstanceAs (Decidable (P s ∧ Always step P (step s i) is))

lemma along_true (step : σ → ι → σ) : ∀ (s : σ) (is : List ι), Along step (fun _ _ => True) s is
  | _, [] => trivial
  | s, i :: is => ⟨trivial, along_true step (step s i) is⟩

/-- A step that may not be allowed keeps what it keeps where it is. -/
lemma inv_ite {P : σ → Prop} {s s' : σ} {p : Prop} [Decidable p] (h : P s) (hs : p → P s') :
    P (if p then s' else s) := by
  split_ifs with hp
  exacts [hs hp, h]

section Rules

variable {step : σ → ι → σ} {C : σ → ι → Prop} {P : σ → Prop} (Inv : σ → Prop)

/-- **The invariant rule.**  What holds at the start and survives each step that meets `C` holds
after every run whose steps meet `C`. -/
theorem inv_run (hstep : ∀ s i, Inv s → C s i → Inv (step s i)) :
    ∀ (s : σ) (is : List ι), Inv s → Along step C s is → Inv (run step s is)
  | _, [], hs, _ => hs
  | s, i :: is, hs, hC => inv_run hstep (step s i) is (hstep s i hs hC.1) hC.2

/-- **The safety rule.**  Under the same hypotheses, whatever the invariant implies holds in
every state of the run. -/
theorem always_of_inv (hstep : ∀ s i, Inv s → C s i → Inv (step s i)) (hP : ∀ s, Inv s → P s) :
    ∀ (s : σ) (is : List ι), Inv s → Along step C s is → Always step P s is
  | s, [], hs, _ => hP s hs
  | s, i :: is, hs, hC =>
    ⟨hP s hs, always_of_inv hstep hP (step s i) is (hstep s i hs hC.1) hC.2⟩

/-- **The step rule.**  Under the same hypotheses, whatever the invariant and `C` imply of a step
holds of every step of the run. -/
theorem along_of_inv {D : σ → ι → Prop} (hstep : ∀ s i, Inv s → C s i → Inv (step s i))
    (hD : ∀ s i, Inv s → C s i → D s i) :
    ∀ (s : σ) (is : List ι), Inv s → Along step C s is → Along step D s is
  | _, [], _, _ => trivial
  | s, i :: is, hs, hC =>
    ⟨hD s i hs hC.1, along_of_inv hstep hD (step s i) is (hstep s i hs hC.1) hC.2⟩

lemma along_append (js : List ι) : ∀ (s : σ) (is : List ι),
    Along step C s (is ++ js) ↔ Along step C s is ∧ Along step C (run step s is) js
  | _, [] => (iff_of_eq (true_and _)).symm
  | s, i :: is => (and_congr_right fun _ => along_append js (step s i) is).trans and_assoc.symm

/-- The steps that `Along` speaks of come after the initial parts of the run. -/
lemma along_iff {s : σ} {is : List ι} :
    Along step C s is ↔ ∀ pre i post, is = pre ++ i :: post → C (run step s pre) i := by
  constructor
  · rintro h pre i post rfl
    exact ((along_append _ s pre).mp h).2.1
  · intro h
    induction is using List.reverseRecOn with
    | nil => trivial
    | append_singleton is i ih =>
      refine (along_append _ s is).mpr ⟨ih fun pre j post he => ?_, h is i [] rfl, trivial⟩
      exact h pre j (post ++ [i]) (by rw [he, List.append_assoc]; rfl)

/-- The last step of a run. -/
lemma along_last (i : ι) : ∀ (s : σ) (is : List ι), Along step C s (is ++ [i]) → C (run step s is) i
  | _, [], h => h.1
  | s, j :: is, h => along_last i (step s j) is h.2

/-- **The flag rule.**  Steps that fire exactly when they raise a flag that no step lowers: over a
run they fire once if the flag has been raised, and not otherwise. -/
theorem count_fires (flag : σ → Prop) [DecidablePred flag] (fires : σ → ι → Bool)
    (hstep : ∀ s i, Inv s → C s i → Inv (step s i) ∧ (flag s → flag (step s i)) ∧
      (fires s i = true ↔ ¬ flag s ∧ flag (step s i))) :
    ∀ (s : σ) (is : List ι), Inv s → Along step C s is →
      (trace step s is).countP (fun x => fires x.1 x.2) + (if flag s then 1 else 0) =
        if flag (run step s is) then 1 else 0
  | _, [], _, _ => Nat.zero_add _
  | s, i :: is, hs, hC => by
    obtain ⟨hinv, hkept, hfires⟩ := hstep s i hs hC.1
    have ih := count_fires flag fires hstep (step s i) is hinv hC.2
    rw [run_cons, ← ih, trace, List.countP_cons]
    by_cases hf : flag s
    · have hnot : ¬ fires s i = true := fun h => (hfires.mp h).1 hf
      simp only [hf, hkept hf, hnot, if_true, Bool.false_eq_true, if_false, Nat.add_zero]
    · by_cases hf' : flag (step s i)
      · simp only [hf, hf', hfires.mpr ⟨hf, hf'⟩, if_true, if_false, Nat.add_zero]
      · have hnot : ¬ fires s i = true := fun h => hf' (hfires.mp h).2
        simp only [hf, hf', hnot, Bool.false_eq_true, if_false, Nat.add_zero]

lemma Always.imp {Q : σ → Prop} (hPQ : ∀ s, P s → Q s) :
    ∀ {s : σ} {is : List ι}, Always step P s is → Always step Q s is
  | s, [], h => hPQ s h
  | s, _ :: _, h => ⟨hPQ s h.1, Always.imp hPQ h.2⟩

lemma Always.head {s : σ} {is : List ι} (h : Always step P s is) : P s := by
  cases is with
  | nil => exact h
  | cons i is => exact h.1

/-- The states that `Always` speaks of are those after the initial parts of the run. -/
theorem always_iff {s : σ} {is : List ι} :
    Always step P s is ↔ ∀ pre post, is = pre ++ post → P (run step s pre) := by
  induction is generalizing s with
  | nil =>
    constructor
    · intro h pre post he
      obtain ⟨rfl, -⟩ := List.append_eq_nil_iff.mp he.symm
      exact h
    · intro h
      exact h [] [] rfl
  | cons i is ih =>
    constructor
    · rintro ⟨h0, h1⟩ pre post he
      cases pre with
      | nil => exact h0
      | cons j pre =>
        obtain ⟨rfl, hpost⟩ := List.cons.inj he
        exact ih.mp h1 pre post hpost
    · intro h
      refine ⟨h [] (i :: is) rfl, ih.mpr fun pre post he => ?_⟩
      exact h (i :: pre) post (by rw [he]; rfl)

lemma Always.last {s : σ} {is : List ι} (h : Always step P s is) : P (run step s is) :=
  always_iff.mp h is [] (List.append_nil is).symm

end Rules

end Veepin
