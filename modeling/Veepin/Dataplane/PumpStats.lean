import Veepin.Dataplane.Pump

/-!
# The pump's totals

`Pump.Stats` reads the total of the retired tunnels under one lock and sums the counters of the
registered ones under another.  Between the two, the tables may change.  The model has one step for
each critical section and each atomic addition, in any order.

* `Pump.counted` — what all tunnels have counted; no step lessens it (`counted_step`);
* `Floor` — a call that is under way will return no less than what an earlier one did; a tunnel that
  is retired in between breaks this, every other step keeps it (`floor_step`);
* `totals_monotone` — what this means for two calls.
-/

namespace Veepin

open List Function Option

variable {T : Type*} [DecidableEq T] (routesOf : T → List Prefix) (inboundKey : T → ℕ)

/-! ## Calls of Stats among the other steps -/

/-- The sum over the registered tunnels. -/
def Pump.live (p : Pump T) : TunnelStats := mapSum (fun c => p.counters.getD c 0) p.stats

/-- An atomic addition to one counter of a block.  The packet path may hold the block of a tunnel
that has been retired. -/
def Pump.count (p : Pump T) (c : ℕ) (k : Counter) (n : ℕ) : Pump T :=
  { p with counters := p.counters.modify c fun s => Function.update s k (s k + n) }

/-- A pump, and the calls of `Stats` that have read the retired total and not yet the rest. -/
structure Watched (T : Type*) where
  pump : Pump T := {}
  pending : ℕ → Option TunnelStats := fun _ => none

/-- A critical section or an atomic addition. -/
inductive PumpEvent (T : Type*)
  | op (op : PumpOp T)
  | count (c : ℕ) (k : Counter) (n : ℕ)
  | start (call : ℕ)
  | finish (call : ℕ)

def Watched.step (s : Watched T) : PumpEvent T → Watched T
  | .op op => { s with pump := op.step routesOf inboundKey s.pump }
  | .count c k n => { s with pump := s.pump.count c k n }
  | .start call => { s with pending := Function.update s.pending call (some s.pump.retired) }
  | .finish call => { s with pending := Function.update s.pending call none }

/-- What a call of `Stats` returns if it finishes now. -/
def Watched.total (s : Watched T) (call : ℕ) : Option TunnelStats :=
  (s.pending call).map (· + s.pump.live)

/-! ## What the steps do to the counts -/

namespace Pump

/-- What the tunnel has counted since it was registered. -/
def countsOf (p : Pump T) (t : T) : TunnelStats :=
  ((p.stats.lookup t).map fun c => p.counters.getD c 0).getD 0

/-- What all tunnels have counted. -/
def counted (p : Pump T) : TunnelStats := p.retired + p.live

omit [DecidableEq T] in
lemma live_mono {p p' : Pump T} (hstats : p'.stats = p.stats)
    (h : ∀ c, p.counters.getD c 0 ≤ p'.counters.getD c 0) : p.live ≤ p'.live := by
  unfold live
  rw [hstats]
  exact mapSum_mono h _

omit [DecidableEq T] in
lemma live_count (p : Pump T) (c : ℕ) (k : Counter) (n : ℕ) : p.live ≤ (p.count c k n).live := by
  refine live_mono rfl fun c' => ?_
  simp only [count, getD_eq_getElem?_getD, getElem?_modify]
  cases p.counters[c']? with
  | none => simp
  | some s =>
    split_ifs
    · intro k'
      by_cases hk : k' = k
      · simp [hk]
      · simp [hk]
    · simp

/-- A tunnel that is registered begins with nothing counted. -/
lemma countersOf_live (p : Pump T) (t : T) :
    p.live ≤ (p.countersOf t).1.live ∧ (p.countersOf t).1.retired = p.retired := by
  unfold countersOf
  cases h : p.stats.lookup t with
  | some c => exact ⟨le_rfl, rfl⟩
  | none =>
    refine ⟨?_, rfl⟩
    have hget : ∀ c, p.counters.getD c 0 ≤ (p.counters ++ [0]).getD c 0 := by
      intro c
      rcases lt_or_ge c p.counters.length with hc | hc
      · rw [getD_append _ _ _ _ hc]
      · rw [getD_eq_default _ _ hc]
        exact zero_le
    calc p.live ≤ mapSum (fun c => (p.counters ++ [(0 : TunnelStats)]).getD c 0) p.stats :=
          mapSum_mono hget _
      _ ≤ _ := by
        rw [live, mapSum_insert _ h]
        exact le_add_of_nonneg_left (zero_le)

/-- The calls that only add to the tables. -/
lemma live_step (p : Pump T) {op : PumpOp T} (h : ∀ t, op ≠ .removeTunnel t) :
    p.live ≤ (op.step routesOf inboundKey p).live ∧
      (op.step routesOf inboundKey p).retired = p.retired := by
  cases op with
  | addTunnel t | addInboundKey key t => exact p.countersOf_live t
  | removeTunnel t => exact absurd rfl (h t)
  | removeInboundKey key => exact ⟨le_rfl, rfl⟩

/-- A tunnel that is retired takes its counts from the one sum to the other. -/
lemma live_removeTunnel (p : Pump T) (t : T) :
    (p.removeTunnel routesOf t).live + p.countsOf t = p.live ∧
      (p.removeTunnel routesOf t).retired = p.retired + p.countsOf t := by
  refine ⟨?_, rfl⟩
  cases h : p.stats.lookup t with
  | none =>
    have hcounts : p.countsOf t = 0 := by rw [countsOf, h]; rfl
    have herase : p.stats.erase t = p.stats := by
      refine AList.ext ?_
      exact kerase_of_notMem_keys (AList.lookup_eq_none.mp h)
    rw [hcounts, add_zero]
    simp only [live, removeTunnel, herase]
  | some c =>
    have hcounts : p.countsOf t = p.counters.getD c 0 := by rw [countsOf, h]; rfl
    rw [hcounts]
    exact mapSum_erase_of_lookup _ h

end Pump

/-- No step lessens what has been counted. -/
lemma counted_step (s : Watched T) (e : PumpEvent T) :
    s.pump.counted ≤ (s.step routesOf inboundKey e).pump.counted ∧
      s.pump.retired ≤ (s.step routesOf inboundKey e).pump.retired := by
  cases e with
  | op op =>
    by_cases h : ∃ t, op = .removeTunnel t
    · obtain ⟨t, rfl⟩ := h
      obtain ⟨hlive, hretired⟩ := s.pump.live_removeTunnel routesOf t
      have hpump : (s.step routesOf inboundKey (.op (.removeTunnel t))).pump =
          s.pump.removeTunnel routesOf t := rfl
      rw [hpump, Pump.counted, Pump.counted, hretired, ← hlive]
      exact ⟨(by abel : _ = _).le, le_add_of_nonneg_right (zero_le)⟩
    · obtain ⟨hlive, hretired⟩ := s.pump.live_step routesOf inboundKey (not_exists.mp h)
      exact ⟨add_le_add hretired.ge hlive, hretired.ge⟩
  | count c k n => exact ⟨add_le_add_right (s.pump.live_count c k n) _, le_rfl⟩
  | start call | finish call => exact ⟨le_rfl, le_rfl⟩

/-! ## Two calls -/

/-- No call that is under way has read more than has been retired by now. -/
def Watched.Past (s : Watched T) : Prop := ∀ call r, s.pending call = some r → r ≤ s.pump.retired

open Watched

lemma past_step {s : Watched T} (h : s.Past) (e : PumpEvent T) :
    (s.step routesOf inboundKey e).Past := by
  have hkept : ∀ call r, s.pending call = some r →
      r ≤ (s.step routesOf inboundKey e).pump.retired :=
    fun call r hr => (h call r hr).trans (counted_step routesOf inboundKey s e).2
  intro call r hr
  cases e with
  | op op | count c k n => exact hkept call r hr
  | start call' =>
    simp only [step, update_apply] at hr
    split_ifs at hr with hcall
    · exact (some.inj hr).ge
    · exact hkept call r hr
  | finish call' =>
    simp only [step, update_apply] at hr
    split_ifs at hr with hcall
    exact hkept call r hr

/-- What was returned is still counted, and a call that is under way will return no less. -/
structure Watched.Floor (s : Watched T) (R : TunnelStats) (call : ℕ) : Prop where
  counted : R ≤ s.pump.counted
  total : ∀ r, s.pending call = some r → R ≤ r + s.pump.live

/-- A tunnel that has counted something is retired only while no call of `Stats` is under way. -/
def Watched.Undisturbed (s : Watched T) : PumpEvent T → Prop
  | .op (.removeTunnel t) => s.pump.countsOf t = 0 ∨ ∀ call, s.pending call = none
  | _ => True

lemma floor_step {s : Watched T} {R : TunnelStats} {call : ℕ} (h : s.Floor R call)
    {e : PumpEvent T} (hC : s.Undisturbed e) : (s.step routesOf inboundKey e).Floor R call := by
  refine ⟨h.counted.trans (counted_step routesOf inboundKey s e).1, fun r hr => ?_⟩
  cases e with
  | op op =>
    by_cases hop : ∃ t, op = .removeTunnel t
    · obtain ⟨t, rfl⟩ := hop
      rcases hC with hzero | hnone
      · have hlive := (s.pump.live_removeTunnel routesOf t).1
        rw [hzero, add_zero] at hlive
        exact (h.total r hr).trans (add_le_add_right hlive.ge r)
      · cases (hnone call).symm.trans hr
    · have hlive := (s.pump.live_step routesOf inboundKey (not_exists.mp hop)).1
      exact (h.total r hr).trans (add_le_add_right hlive r)
  | count c k n => exact (h.total r hr).trans (add_le_add_right (s.pump.live_count c k n) r)
  | start call' =>
    simp only [step, update_apply] at hr
    split_ifs at hr with hcall
    · rw [← some.inj hr]
      exact h.counted
    · exact h.total r hr
  | finish call' =>
    simp only [step, update_apply] at hr
    split_ifs at hr with hcall
    exact h.total r hr

/-- **Totals do not go down.**  In every run in which each tunnel that has counted something is
retired while no call of `Stats` is under way, a call that starts after another one returned returns
at least as much of everything. -/
theorem totals_monotone (i j : ℕ) (pre mid post : List (PumpEvent T))
    (hrun : Along (Watched.step routesOf inboundKey) Watched.Undisturbed {}
      (pre ++ .finish i :: mid ++ .start j :: post)) :
    let before := run (step routesOf inboundKey) {} pre
    let after := run (step routesOf inboundKey) {}
      (pre ++ .finish i :: mid ++ .start j :: post)
    ∀ R ∈ before.total i, ∀ R' ∈ after.total j, R ≤ R' := by
  intro before after R hR R' hR'
  obtain ⟨r, hr, rfl⟩ := map_eq_some_iff.mp hR
  obtain ⟨r', hr', rfl⟩ := map_eq_some_iff.mp hR'
  -- up to the start of the later call, all that is needed is that nothing counted is lost
  have hpast : before.Past :=
    inv_run Watched.Past (fun _ e h _ => past_step routesOf inboundKey h e) _ pre nofun
      (along_true _ _ pre)
  have hcounted : ∀ es, r + before.pump.live ≤
      (run (step routesOf inboundKey) before es).pump.counted := fun es =>
    inv_run (fun s : Watched T => r + before.pump.live ≤ s.pump.counted)
      (fun s e h _ => h.trans (counted_step routesOf inboundKey s e).1) _ es
      (add_le_add_left (hpast i r hr) _) (along_true _ _ es)
  have hsplit : pre ++ .finish i :: mid ++ .start j :: post =
      (pre ++ (.finish i :: mid ++ [.start j])) ++ post := by simp
  have hafter : after = run (step routesOf inboundKey)
      (run (step routesOf inboundKey) before (.finish i :: mid ++ [.start j])) post := by
    rw [← run_append, ← run_append, ← append_assoc, ← hsplit]
  have hfloor : (run (step routesOf inboundKey) before
      (.finish i :: mid ++ [.start j])).Floor (r + before.pump.live) j := by
    refine ⟨hcounted _, fun r₀ hr₀ => ?_⟩
    rw [run_concat] at hr₀ ⊢
    simp only [step, update_self] at hr₀
    rw [← some.inj hr₀]
    exact hcounted _
  rw [hsplit, along_append] at hrun
  have hend := inv_run (fun s : Watched T => s.Floor (r + before.pump.live) j)
    (fun _ _ h hC => floor_step routesOf inboundKey h hC) _ post hfloor (by
      rw [← run_append]
      exact hrun.2)
  rw [← hafter] at hend
  exact hend.total r' hr'

/-- The hypothesis can be met: a tunnel is retired between two calls. -/
theorem totals_monotone_retired :
    let step := step (T := ℕ) (fun _ => []) id
    let pre : List (PumpEvent ℕ) := [.op (.addTunnel 0), .count 0 .rxBytes 5, .start 0]
    (run step {} pre).total 0 = some (Pi.single .rxBytes 5) ∧
      ∀ R' ∈ (run step {} (pre ++ .finish 0 :: [.op (.removeTunnel 0)] ++ .start 1 :: [])).total 1,
        Pi.single .rxBytes 5 ≤ R' := by
  have hbefore : (run (step (T := ℕ) (fun _ => []) id) {}
      [.op (.addTunnel 0), .count 0 .rxBytes 5, .start 0]).total 0 =
      some (Pi.single .rxBytes 5) := congrArg some (funext fun k => by cases k <;> decide)
  refine ⟨hbefore, totals_monotone _ id 0 1 _ _ [] ?_ _ hbefore⟩
  exact ⟨trivial, trivial, trivial, trivial, .inr fun call => by simp [step], trivial,
    trivial⟩

/-- A tunnel that is retired between the two reads of a call is in neither of them: the call returns
zero, and an earlier one returned five octets. -/
theorem totals_go_down :
    let step := step (T := ℕ) (fun _ => []) id
    let pre : List (PumpEvent ℕ) := [.op (.addTunnel 0), .count 0 .rxBytes 5, .start 0]
    ∃ R ∈ (run step {} pre).total 0,
      ∃ R' ∈ (run step {} (pre ++ .finish 0 :: [] ++ .start 1 :: [.op (.removeTunnel 0)])).total 1,
        R .rxBytes = 5 ∧ R' .rxBytes = 0 := by
  refine ⟨_, rfl, _, rfl, ?_, ?_⟩ <;> decide

end Veepin
