import Mathlib.Data.Finset.Insert
import Mathlib.Data.Finset.Erase

/-!
# Exclusive leases

A pool marks things as used and holders hold at most one each.  `Exclusive holds used` says that the
two agree as far as safety goes: what is held is marked, and nothing is held twice.  (A thing may be
marked and held by nobody.)  The operations of a server on its holders keep it:

* `Exclusive.give` — a thing that was not marked is marked and handed to a holder;
* `Exclusive.release` — a holder goes and its thing is no longer marked;
* `Exclusive.transfer` — what one holder has goes to another;
* `Exclusive.drop` — a holder goes and its thing stays marked.
-/

namespace Veepin

open Function

variable {κ α : Type*}

/-- What is held is marked, and by one holder only. -/
structure Exclusive (holds : κ → Option α) (used : Finset α) : Prop where
  used : ∀ k a, holds k = some a → a ∈ used
  unique : ∀ k k' a, holds k = some a → holds k' = some a → k = k'

/-- The marks without what a holder gives back. -/
def unmark [DecidableEq α] (used : Finset α) : Option α → Finset α
  | none => used
  | some a => used.erase a

namespace Exclusive

variable {holds : κ → Option α} {used : Finset α}

lemma empty (used : Finset α) : Exclusive (fun _ : κ => none) used :=
  ⟨fun _ _ h => absurd h (by simp), fun _ _ _ h => absurd h (by simp)⟩

/-- Fewer holders. -/
lemma mono (h : Exclusive holds used) {holds' : κ → Option α}
    (hle : ∀ k a, holds' k = some a → holds k = some a) : Exclusive holds' used :=
  ⟨fun k a hk => h.used k a (hle k a hk),
    fun k k' a hk hk' => h.unique k k' a (hle k a hk) (hle k' a hk')⟩

variable [DecidableEq κ]

lemma drop (h : Exclusive holds used) (k : κ) : Exclusive (Function.update holds k none) used := by
  refine h.mono fun j a hj => ?_
  rw [update_apply] at hj
  split_ifs at hj
  exact hj

lemma transfer (h : Exclusive holds used) (k k' : κ) :
    Exclusive (Function.update (Function.update holds k none) k' (holds k)) used := by
  -- who holds `a` now: the new holder in place of `k`, or whoever held it
  have now : ∀ j a, update (update holds k none) k' (holds k) j = some a →
      j = k' ∧ holds k = some a ∨ j ≠ k' ∧ j ≠ k ∧ holds j = some a := by
    intro j a hj
    rw [update_apply] at hj
    split_ifs at hj with h1
    · exact Or.inl ⟨h1, hj⟩
    · rw [update_apply] at hj
      split_ifs at hj with h2
      exact Or.inr ⟨h1, h2, hj⟩
  constructor
  · intro j a hj
    rcases now j a hj with ⟨-, hk⟩ | ⟨-, -, hk⟩ <;> exact h.used _ a hk
  intro i j a hi hj
  rcases now i a hi with ⟨rfl, hki⟩ | ⟨-, hik, hki⟩
  · rcases now j a hj with ⟨rfl, -⟩ | ⟨-, hjk, hkj⟩
    · rfl
    · exact absurd (h.unique _ _ a hkj hki) hjk
  · rcases now j a hj with ⟨-, hkj⟩ | ⟨-, -, hkj⟩
    · exact absurd (h.unique _ _ a hki hkj) hik
    · exact h.unique _ _ a hki hkj

variable [DecidableEq α]

lemma give (h : Exclusive holds used) (k : κ) {a : α} (ha : a ∉ used) :
    Exclusive (Function.update holds k (some a)) (insert a used) := by
  have now : ∀ j b, update holds k (some a) j = some b → j = k ∧ b = a ∨ holds j = some b := by
    intro j b hj
    rw [update_apply] at hj
    split_ifs at hj with h1
    · exact Or.inl ⟨h1, (Option.some.inj hj).symm⟩
    · exact Or.inr hj
  constructor
  · intro j b hj
    rcases now j b hj with ⟨-, rfl⟩ | hb
    · exact Finset.mem_insert_self _ _
    · exact Finset.mem_insert_of_mem (h.used j b hb)
  intro i j b hi hj
  rcases now i b hi with ⟨rfl, rfl⟩ | hbi
  · rcases now j _ hj with ⟨rfl, -⟩ | hbj
    · rfl
    · exact absurd (h.used j _ hbj) ha
  · rcases now j b hj with ⟨-, rfl⟩ | hbj
    · exact absurd (h.used i _ hbi) ha
    · exact h.unique i j b hbi hbj

lemma release (h : Exclusive holds used) (k : κ) :
    Exclusive (Function.update holds k none) (unmark used (holds k)) := by
  refine ⟨fun j b hj => ?_, (h.drop k).unique⟩
  rw [update_apply] at hj
  split_ifs at hj with hjk
  cases ha : holds k with
  | none => exact h.used j b hj
  | some a =>
    refine Finset.mem_erase.mpr ⟨?_, h.used j b hj⟩
    rintro rfl
    exact hjk (h.unique j k b hj ha)

end Exclusive

end Veepin
