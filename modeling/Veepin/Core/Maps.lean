import Mathlib.Algebra.Order.BigOperators.Group.List
import Mathlib.Data.List.AList

/-!
# Finite maps

A Go map is a Mathlib `AList`, or a function that `Function.update` changes.  These are the facts
about its entries and their number that the servers' tables need.
-/

namespace Veepin

open List

variable {κ ν : Type*}

/-- An entry of a map after an update is the new one, or was there. -/
lemma update_eq_cases {α β : Type*} [DecidableEq α] {f : α → β} {a j : α} {b v : β}
    (h : Function.update f a b j = v) : j = a ∧ b = v ∨ j ≠ a ∧ f j = v := by
  rwa [Function.update_apply, ite_eq_iff] at h

lemma update_eq_some {α β : Type*} [DecidableEq α] {f : α → Option β} {a j : α} {b v : β}
    (h : Function.update f a (some b) j = some v) : j = a ∧ b = v ∨ j ≠ a ∧ f j = some v :=
  (update_eq_cases h).imp_left (And.imp_right Option.some.inj)

/-- The number of entries. -/
def mapSize (m : AList (fun _ : κ => ν)) : ℕ := m.keys.length

variable [DecidableEq κ] {m : AList (fun _ : κ => ν)} {k : κ}

lemma mapSize_insert (h : k ∉ m) (v : ν) : mapSize (m.insert k v) = mapSize m + 1 := by
  unfold mapSize
  rw [AList.keys_insert, erase_of_not_mem h, length_cons]

lemma mapSize_erase (h : k ∈ m) : mapSize (m.erase k) + 1 = mapSize m := by
  have hpos : 0 < m.keys.length := length_pos_of_mem h
  unfold mapSize
  rw [AList.keys_erase, length_erase_of_mem h]
  omega

lemma lookup_insert_eq_ite (m : AList (fun _ : κ => ν)) (k k' : κ) (v : ν) :
    (m.insert k v).lookup k' = if k' = k then some v else m.lookup k' := by
  split_ifs with h
  · rw [h, AList.lookup_insert]
  · rw [AList.lookup_insert_ne h]

lemma lookup_erase_eq_ite (m : AList (fun _ : κ => ν)) (k k' : κ) :
    (m.erase k).lookup k' = if k' = k then none else m.lookup k' := by
  split_ifs with h
  · rw [h, AList.lookup_erase]
  · rw [AList.lookup_erase_ne h]

/-- The entry under a key, and the others. -/
lemma exists_entries_eq_append {v : ν} (h : m.lookup k = some v) :
    ∃ l₁ l₂, m.entries = l₁ ++ ⟨k, v⟩ :: l₂ ∧ (m.erase k).entries = l₁ ++ l₂ := by
  have hk : k ∈ m.entries.keys := AList.mem_keys.mpr (AList.lookup_isSome.mp (by rw [h]; rfl))
  obtain ⟨b, l₁, l₂, -, hsplit, herase⟩ := exists_of_kerase hk
  have hmem : (⟨k, b⟩ : Sigma fun _ => ν) ∈ m.entries := by simp [hsplit]
  have hb : b = v := Option.some.inj ((AList.mem_lookup_iff.mpr hmem).symm.trans h)
  exact ⟨l₁, l₂, hb ▸ hsplit, herase⟩

/-! ## Counting entries -/

/-- The number of entries that meet `p`. -/
def mapCount (p : ν → Bool) (m : AList (fun _ : κ => ν)) : ℕ := m.entries.countP fun e => p e.2

section

variable (p : ν → Bool) (m : AList (fun _ : κ => ν)) (k : κ)

lemma mapCount_erase_le : mapCount p (m.erase k) ≤ mapCount p m :=
  (kerase_sublist k m.entries).countP_le

lemma mapCount_insert (v : ν) :
    mapCount p (m.insert k v) = mapCount p (m.erase k) + if p v then 1 else 0 := by
  rw [mapCount, AList.entries_insert, countP_cons]
  rfl

end

/-- An entry that is taken out, counted if it meets `p`. -/
lemma mapCount_erase_of_lookup (p : ν → Bool) {old : ν} (h : m.lookup k = some old) :
    mapCount p (m.erase k) + (if p old then 1 else 0) = mapCount p m := by
  obtain ⟨l₁, l₂, hm, herase⟩ := exists_entries_eq_append h
  simp only [mapCount, hm, herase, countP_append, countP_cons]
  omega

/-- An entry that is replaced by one that does not meet `p` unless it did. -/
lemma mapCount_insert_le_of_imp (p : ν → Bool) {old v : ν} (h : m.lookup k = some old)
    (hp : p v → p old) : mapCount p (m.insert k v) ≤ mapCount p m := by
  have herase := mapCount_erase_of_lookup p h
  rw [mapCount_insert]
  by_cases hv : p v
  · rw [if_pos (hp hv)] at herase
    rw [if_pos hv, herase]
  · rw [if_neg hv]
    omega

lemma mapCount_insert_le_of_not (p : ν → Bool) (m : AList (fun _ : κ => ν)) (k : κ) {v : ν}
    (hv : ¬ p v) : mapCount p (m.insert k v) ≤ mapCount p m := by
  rw [mapCount_insert, if_neg hv]
  exact mapCount_erase_le p m k

/-! ## Summing over entries -/

variable {M : Type*} [AddCommMonoid M]

omit [DecidableEq κ] in
/-- The sum of `f` over the values. -/
def mapSum (f : ν → M) (m : AList (fun _ : κ => ν)) : M := (m.entries.map fun e => f e.2).sum

lemma mapSum_insert (f : ν → M) (h : m.lookup k = none) (v : ν) :
    mapSum f (m.insert k v) = f v + mapSum f m := by
  unfold mapSum
  rw [AList.entries_insert_of_notMem (AList.lookup_eq_none.mp h), map_cons, sum_cons]

lemma mapSum_erase_of_lookup (f : ν → M) {v : ν} (h : m.lookup k = some v) :
    mapSum f (m.erase k) + f v = mapSum f m := by
  obtain ⟨l₁, l₂, hm, herase⟩ := exists_entries_eq_append h
  simp only [mapSum, hm, herase, map_append, map_cons, sum_append, sum_cons]
  rw [add_assoc, add_comm _ (f v)]

omit [DecidableEq κ] in
lemma mapSum_mono [PartialOrder M] [IsOrderedAddMonoid M] {f g : ν → M} (h : ∀ v, f v ≤ g v)
    (m : AList (fun _ : κ => ν)) : mapSum f m ≤ mapSum g m :=
  sum_le_sum fun e _ => h e.2

end Veepin
