import Mathlib.Data.List.Basic

/-!
# Buffers that hold items back by key

Items arrive one by one, some with a key.  A buffer may hold an item back under its key, release
all items held under a key at once, or pass an item on directly.  Whatever it does, the items of
one key leave in the order they came, provided that an item is passed on only when nothing is held
under its key: `KeepsOrder` is that statement, with what is still held at the end of the queue.
-/

namespace Veepin

open List Function

variable {κ α : Type*} [DecidableEq κ]

/-- The items held under each key, and the items that have left. -/
structure HoldBuffer (κ α : Type*) where
  held : κ → List α
  out : List α

namespace HoldBuffer

/-- Nothing held, nothing left. -/
def empty : HoldBuffer κ α := ⟨fun _ => [], []⟩

/-- Hold an item back under a key. -/
def hold (b : HoldBuffer κ α) (k : κ) (x : α) : HoldBuffer κ α :=
  { b with held := Function.update b.held k (b.held k ++ [x]) }

/-- Let everything held under a key go. -/
def release (b : HoldBuffer κ α) (k : κ) : HoldBuffer κ α :=
  { held := Function.update b.held k [], out := b.out ++ b.held k }

/-- Let an item go at once. -/
def pass (b : HoldBuffer κ α) (x : α) : HoldBuffer κ α := { b with out := b.out ++ [x] }

@[simp] lemma hold_held_self (b : HoldBuffer κ α) (k : κ) (x : α) :
    (b.hold k x).held k = b.held k ++ [x] := update_self ..

lemma hold_held_of_ne (b : HoldBuffer κ α) {k k' : κ} (h : k' ≠ k) (x : α) :
    (b.hold k x).held k' = b.held k' := update_of_ne h ..

@[simp] lemma release_held_self (b : HoldBuffer κ α) (k : κ) : (b.release k).held k = [] :=
  update_self ..

lemma release_held_of_ne (b : HoldBuffer κ α) {k k' : κ} (h : k' ≠ k) :
    (b.release k).held k' = b.held k' := update_of_ne h ..

end HoldBuffer

/-- After the items `ins`: what has left under a key, followed by what is held under it, is what
came under it, in order; items without a key have left in order. -/
structure KeepsOrder (key : α → Option κ) (b : HoldBuffer κ α) (ins : List α) : Prop where
  own : ∀ k, ∀ x ∈ b.held k, key x = some k
  order : ∀ k, b.out.filter (fun x => key x = some k) ++ b.held k =
    ins.filter fun x => key x = some k
  rest : b.out.filter (fun x => key x = none) = ins.filter fun x => key x = none

namespace KeepsOrder

variable {key : α → Option κ} {b : HoldBuffer κ α} {ins : List α}

open HoldBuffer

lemma start : KeepsOrder key HoldBuffer.empty [] :=
  ⟨fun _ _ hx => absurd hx (by simp [empty]), fun _ => rfl, rfl⟩

lemma hold (h : KeepsOrder key b ins) {k : κ} {x : α} (hx : key x = some k) :
    KeepsOrder key (b.hold k x) (ins ++ [x]) := by
  refine ⟨?_, ?_, ?_⟩
  · intro k' y hy
    by_cases hk : k' = k
    · subst hk
      rw [hold_held_self] at hy
      rcases mem_append.mp hy with hy | hy
      · exact h.own k' y hy
      · rwa [mem_singleton.mp hy]
    · rw [hold_held_of_ne b hk] at hy
      exact h.own k' y hy
  · intro k'
    by_cases hk : k' = k
    · subst hk
      rw [hold_held_self, ← append_assoc, filter_append, ← h.order]
      simp [HoldBuffer.hold, hx]
    · rw [HoldBuffer.hold_held_of_ne b hk, filter_append, ← h.order]
      simp [HoldBuffer.hold, hx, Ne.symm hk]
  · rw [filter_append, ← h.rest]
    simp [HoldBuffer.hold, hx]

lemma release (h : KeepsOrder key b ins) (k : κ) : KeepsOrder key (b.release k) ins := by
  have hown : ∀ k', (b.held k).filter (fun x => key x = some k') =
      if k' = k then b.held k else [] := by
    intro k'
    split_ifs with hk
    · subst hk
      exact filter_eq_self.mpr fun x hx => by simp [h.own k' x hx]
    · exact filter_eq_nil_iff.mpr fun x hx => by simp [h.own k x hx, Ne.symm hk]
  refine ⟨?_, ?_, ?_⟩
  · intro k' y hy
    by_cases hk : k' = k
    · subst hk
      exact absurd hy (by simp)
    · rw [release_held_of_ne b hk] at hy
      exact h.own k' y hy
  · intro k'
    rw [← h.order k']
    simp only [HoldBuffer.release, filter_append, hown k']
    by_cases hk : k' = k
    · subst hk
      simp
    · simp [hk]
  · have hnone : (b.held k).filter (fun x => key x = none) = [] :=
      filter_eq_nil_iff.mpr fun x hx => by simp [h.own k x hx]
    rw [← h.rest]
    simp only [HoldBuffer.release, filter_append, hnone, append_nil]

lemma pass (h : KeepsOrder key b ins) {x : α} (hx : ∀ k, key x = some k → b.held k = []) :
    KeepsOrder key (b.pass x) (ins ++ [x]) := by
  refine ⟨h.own, ?_, ?_⟩
  · intro k
    rw [filter_append, ← h.order k]
    by_cases hk : key x = some k
    · simp [HoldBuffer.pass, hk, hx k hk]
    · simp [HoldBuffer.pass, hk]
  · rw [filter_append, ← h.rest]
    simp [HoldBuffer.pass]

end KeepsOrder

end Veepin
