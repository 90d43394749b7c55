import Mathlib.Tactic

/-!
# Longest match

A partial function on bit strings, and the entry that it has for the longest initial segment of a
string.  `longest` walks down the string as a trie does; `longest_eq_some_iff` and
`longest_eq_none_iff` say which entry it finds.
-/

namespace Veepin

variable {V : Type*} {f : List Bool → Option V} {path : List Bool}

/-- The entry of the longest initial segment that has one. -/
def longest (f : List Bool → Option V) : List Bool → Option V
  | [] => f []
  | b :: path => (longest (fun q => f (b :: q)) path).or (f [])

lemma longest_eq_none_iff :
    longest f path = none ↔ ∀ i ≤ path.length, f (path.take i) = none := by
  induction path generalizing f with
  | nil => simp [longest]
  | cons b path ih =>
    rw [longest, Option.or_eq_none_iff, ih]
    constructor
    · rintro ⟨hlong, hnil⟩ i hi
      cases i with
      | zero => exact hnil
      | succ i => exact hlong i (Nat.le_of_succ_le_succ hi)
    · exact fun h => ⟨fun i hi => h (i + 1) (Nat.succ_le_succ hi), h 0 (Nat.zero_le _)⟩

lemma longest_eq_some_iff {v : V} :
    longest f path = some v ↔ ∃ i ≤ path.length, f (path.take i) = some v ∧
      ∀ j ≤ path.length, i < j → f (path.take j) = none := by
  induction path generalizing f with
  | nil =>
    constructor
    · exact fun h => ⟨0, le_rfl, h, fun j hj hlt => absurd hj (by simp; omega)⟩
    · rintro ⟨i, -, h, -⟩
      simpa [longest] using h
  | cons b path ih =>
    rw [longest, Option.or_eq_some_iff, ih, longest_eq_none_iff]
    constructor
    · rintro (⟨i, hi, hv, hmax⟩ | ⟨hnone, hv⟩)
      · refine ⟨i + 1, Nat.succ_le_succ hi, hv, fun j hj hlt => ?_⟩
        obtain ⟨j, rfl⟩ : ∃ k, j = k + 1 := ⟨j - 1, by omega⟩
        exact hmax j (Nat.le_of_succ_le_succ hj) (by omega)
      · refine ⟨0, Nat.zero_le _, hv, fun j hj hlt => ?_⟩
        obtain ⟨j, rfl⟩ : ∃ k, j = k + 1 := ⟨j - 1, by omega⟩
        exact hnone j (Nat.le_of_succ_le_succ hj)
    · rintro ⟨i, hi, hv, hmax⟩
      cases i with
      | zero =>
        exact .inr ⟨fun j hj => hmax (j + 1) (Nat.succ_le_succ hj) (Nat.succ_pos j), hv⟩
      | succ i =>
        exact .inl ⟨i, Nat.le_of_succ_le_succ hi, hv,
          fun j hj hlt => hmax (j + 1) (Nat.succ_le_succ hj) (Nat.succ_lt_succ hlt)⟩

end Veepin
