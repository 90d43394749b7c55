import Veepin.Dataplane.Admission

/-!
# The rate bound of the admission gate

How many handshakes of one source a `Gate` lets through in a time interval.  The tokens that a
source will find are a potential: a call that is let through takes one, and time gives them back at
`PerSourceRate`.  A bucket that `gc` forgets comes back full, so the bound holds as long as `gc`
forgets full buckets only (`Gate.Remembers`), which it does if `PerSourceBurst` is refilled within
`sourceIdleTimeout` (`remembers_of_burst_le`).

`admission_rate_bound` is the bound over every interval, and the cap.
-/

namespace Veepin

open List

/-- A call of the gate; only `Admit` reads the clock. -/
inductive GateCall
  | tryAdmit (source : UDPAddr) (now : ℤ)
  | done
  deriving DecidableEq

/-- The clock of a call. -/
def GateCall.time : GateCall → Option ℤ
  | .tryAdmit _ now => some now
  | .done => none

namespace Gate

def call (g : Gate) : GateCall → Gate
  | .tryAdmit source now => (g.tryAdmit source now).1
  | .done => g.done

/-- The call is an `Admit` of the source `a` in the interval that is not answered
`RejectedRateLimited`. -/
def passes (a : Bytes) (first last : ℤ) (g : Gate) : GateCall → Bool
  | .tryAdmit source now => addrOf source = a ∧ first ≤ now ∧ now ≤ last ∧
      (g.tryAdmit source now).2 ≠ .rateLimited
  | .done => false

/-- If `gc` forgets the bucket of `a` at the call, then the bucket is full by now. -/
def Remembers (a : Bytes) (g : Gate) : GateCall → Prop
  | .tryAdmit _ now => ∀ b, g.sources a = some b → (g.gc now).sources a = none →
      g.cfg.perSourceBurst ≤ (b.refill g.cfg now).tokens
  | .done => True

/-- The bucket that a call of `a` finds. -/
def found (g : Gate) (a : Bytes) (now : ℤ) : Bucket :=
  ((g.sources a).getD ⟨g.cfg.perSourceBurst, now⟩).refill g.cfg now

/-- The bucket of `a` is within its bounds, and was last used at `s` or before. -/
def Sane (a : Bytes) (g : Gate) (s : ℤ) : Prop :=
  ∀ b, g.sources a = some b → 0 ≤ b.tokens ∧ b.tokens ≤ g.cfg.perSourceBurst ∧ b.last ≤ s

/-- What a source is given back between two times. -/
def given (cfg : Limits) (s t : ℤ) : ℚ := ((t - s : ℤ) : ℚ) / 1000000000 * cfg.perSourceRate

/-- How often `a` may still be let through in the interval, at the time `s`. -/
def budget (g : Gate) (a : Bytes) (first last s : ℤ) : ℚ :=
  if last < s then 0
  else if s < first then g.cfg.perSourceBurst + given g.cfg first last
  else (g.found a s).tokens + given g.cfg s last

end Gate

open Gate

variable {g : Gate} {a : Bytes} {s now first last : ℤ} {b : Bucket} {cfg : Limits}
  {source : UDPAddr}

lemma given_nonneg (cfg : Limits) (h : s ≤ now) : 0 ≤ given cfg s now := by
  have hrate := cfg.perSourceRate_pos.le
  have hsub : (0 : ℚ) ≤ ((now - s : ℤ) : ℚ) := by exact_mod_cast Int.sub_nonneg_of_le h
  unfold given
  positivity

lemma given_add (r s t : ℤ) : given cfg r s + given cfg s t = given cfg r t := by
  unfold given
  push_cast
  ring

/-- A bucket that is within its bounds is refilled at the rate, up to the burst. -/
lemma refill_eq (hlast : b.last ≤ now) (htokens : b.tokens ≤ cfg.perSourceBurst) :
    b.refill cfg now = ⟨min (b.tokens + given cfg b.last now) cfg.perSourceBurst, now⟩ := by
  unfold Bucket.refill
  dsimp only
  split_ifs with h
  · rfl
  · have hnow : now = b.last := by
      by_contra hne
      have hpos : (0 : ℚ) < ((now - b.last : ℤ) : ℚ) := by
        exact_mod_cast Int.sub_pos_of_lt (lt_of_le_of_ne hlast (Ne.symm hne))
      exact h (by positivity)
    subst hnow
    simp [given, min_eq_left htokens]

lemma found_of_none (h : g.sources a = none) : g.found a now = ⟨g.cfg.perSourceBurst, now⟩ := by
  simp [found, h, refill_eq, given]

lemma found_of_some (hg : g.Sane a s) (hs : s ≤ now) (h : g.sources a = some b) : g.found a now =
    ⟨min (b.tokens + given g.cfg b.last now) g.cfg.perSourceBurst, now⟩ := by
  obtain ⟨-, hburst, hlast⟩ := hg b h
  simp [found, h, refill_eq (hlast.trans hs) hburst]

lemma found_bounds (hg : g.Sane a s) (hs : s ≤ now) : 0 ≤ (g.found a now).tokens ∧
    (g.found a now).tokens ≤ g.cfg.perSourceBurst ∧ (g.found a now).last = now := by
  have hpos := g.cfg.perSourceBurst_pos.le
  cases h : g.sources a with
  | none =>
    rw [found_of_none h]
    exact ⟨hpos, le_rfl, rfl⟩
  | some b =>
    obtain ⟨hnonneg, -, hlast⟩ := hg b h
    rw [found_of_some hg hs h]
    exact ⟨le_min (add_nonneg hnonneg (given_nonneg _ (hlast.trans hs))) hpos, min_le_right _ _,
      rfl⟩

/-- Time gives no more than the rate. -/
lemma found_le_add (hg : g.Sane a s) (hs : s ≤ now) :
    (g.found a now).tokens ≤ (g.found a s).tokens + given g.cfg s now := by
  have hgiven := given_nonneg g.cfg hs
  cases h : g.sources a with
  | none =>
    rw [found_of_none h, found_of_none h]
    exact le_add_of_nonneg_right hgiven
  | some b =>
    rw [found_of_some hg hs h, found_of_some hg le_rfl h, ← given_add b.last s now, min_add,
      ← add_assoc]
    exact min_le_min_left _ (le_add_of_nonneg_right hgiven)

/-- `gc` keeps a bucket as it is, or forgets it for it has been quiet. -/
lemma gc_sources (g : Gate) (a : Bytes) (now : ℤ) : (g.gc now).sources a = g.sources a ∨
    (g.gc now).sources a = none ∧ ∀ b, g.sources a = some b → sourceIdleTimeout < now - b.last := by
  unfold gc
  split_ifs
  · exact .inl rfl
  · cases h : g.sources a with
    | none => exact .inl (by simp [h])
    | some b =>
      by_cases hold : now - b.last ≤ sourceIdleTimeout
      · exact .inl (by simpa [h] using hold)
      · refine .inr ⟨by simpa [h] using hold, ?_⟩
        rintro _ ⟨⟩
        exact not_le.1 hold

/-- `gc` gives nothing away. -/
lemma gc_spec (hg : g.Sane a s) (hkeep : g.Remembers a (.tryAdmit source now)) :
    (g.gc now).Sane a s ∧ ((g.gc now).found a now).tokens ≤ (g.found a now).tokens := by
  rcases gc_sources g a now with h | ⟨h, -⟩
  · simpa only [Sane, found, h, gc_cfg, le_refl, and_true] using hg
  · refine ⟨fun b hb => absurd (h.symm.trans hb) nofun, ?_⟩
    rw [found_of_none h, gc_cfg]
    cases hold : g.sources a with
    | none => rw [found_of_none hold]
    | some b => simpa [found, hold] using hkeep b hold h

lemma found_update (hb : 0 ≤ b.tokens) (hburst : b.tokens ≤ g.cfg.perSourceBurst)
    (hlast : b.last = now) :
    Sane a { g with sources := Function.update g.sources a (some b) } now ∧
      (found { g with sources := Function.update g.sources a (some b) } a now).tokens =
        b.tokens := by
  refine ⟨fun b' hb' => ?_, ?_⟩
  · obtain rfl : b = b' := by simpa using hb'
    exact ⟨hb, hburst, hlast.le⟩
  · simp [found, refill_eq hlast.le hburst, hlast, given, hburst]

/-- `allowSource` takes a token of the source that calls, if there is one, and none of another. -/
lemma allowSource_spec (hg : g.Sane a s) (hs : s ≤ now) (addr : Bytes) :
    (g.allowSource addr now).1.Sane a now ∧ ((g.allowSource addr now).1.found a now).tokens +
      (if addr = a ∧ (g.allowSource addr now).2 = true then 1 else 0) = (g.found a now).tokens := by
  by_cases ha : addr = a
  · subst ha
    obtain ⟨hnonneg, hburst, hlast⟩ := found_bounds hg hs
    rw [allowSource, ← found]
    by_cases hempty : (g.found addr now).tokens < 1
    · simpa [hempty] using found_update hnonneg hburst hlast
    · simp only [if_neg hempty, and_self, if_true, ← eq_sub_iff_add_eq]
      exact found_update (b := ⟨_, _⟩) (by linarith) (by linarith) hlast
  · have hsame : (g.allowSource addr now).1.sources a = g.sources a := by
      unfold allowSource
      dsimp only
      split_ifs <;> exact Function.update_of_ne (Ne.symm ha) _ _
    refine ⟨fun b hb => ?_, by simp [found, hsame, ha]⟩
    rw [allowSource_cfg]
    obtain ⟨h₁, h₂, h₃⟩ := hg b (hsame ▸ hb)
    exact ⟨h₁, h₂, h₃.trans hs⟩

/-- **One `Admit`.**  What it takes from the source `a`. -/
lemma tryAdmit_spec (hg : g.Sane a s) (hs : s ≤ now)
    (hkeep : g.Remembers a (.tryAdmit source now)) :
    (g.tryAdmit source now).1.Sane a now ∧ ((g.tryAdmit source now).1.found a now).tokens +
        (if addrOf source = a ∧ (g.tryAdmit source now).2 ≠ .rateLimited then 1 else 0) ≤
      (g.found a now).tokens := by
  obtain ⟨hgc, hforgets⟩ := gc_spec hg hkeep
  obtain ⟨hsane, htakes⟩ := allowSource_spec hgc hs (addrOf source)
  have hend := htakes.le.trans hforgets
  unfold tryAdmit
  generalize (g.gc now).allowSource (addrOf source) now = r at *
  obtain ⟨g', ok⟩ := r
  cases ok with
  | false => exact ⟨hsane, by simpa using hend⟩
  | true =>
    by_cases hcap : g'.cfg.maxHalfOpen ≤ g'.halfOpen
    · simpa [hcap] using And.intro hsane hend
    · simp only [Bool.not_true, Bool.false_eq_true, hcap, if_false]
      refine ⟨hsane, le_trans (le_of_eq ?_) hend⟩
      simp only [found, ne_eq, reduceCtorEq, not_false_eq_true]

/-! ## Intervals -/

variable {calls : List GateCall}

lemma budget_nonneg (hg : g.Sane a s) (hle : first ≤ last) : 0 ≤ g.budget a first last s := by
  unfold budget
  split_ifs with hlast
  · exact le_rfl
  · exact add_nonneg g.cfg.perSourceBurst_pos.le (given_nonneg _ hle)
  · exact add_nonneg (found_bounds hg le_rfl).1 (given_nonneg _ (not_lt.1 hlast))

/-- Time does not add to the budget. -/
lemma budget_le (hg : g.Sane a s) (hs : s ≤ now) (hle : first ≤ last) :
    g.budget a first last now ≤ g.budget a first last s := by
  have hnonneg := budget_nonneg hg hle
  by_cases hlast : last < now
  · rwa [budget, if_pos hlast]
  by_cases hfirst : now < first
  · simp [budget, hlast, hfirst, (hs.trans_lt hfirst), (hs.trans (not_lt.1 hlast)).not_gt]
  rw [budget, budget, if_neg hlast, if_neg hfirst, if_neg (hs.trans (not_lt.1 hlast)).not_gt]
  split_ifs
  · have hgiven := given_nonneg g.cfg (not_lt.1 hfirst)
    have hburst := (found_bounds hg hs).2.1
    rw [← given_add first now last]
    linarith
  · have := found_le_add hg hs
    rw [← given_add s now last]
    linarith

/-- **One call.**  What it takes from the budget. -/
lemma budget_call (hg : g.Sane a s) (hs : s ≤ now) (hle : first ≤ last)
    (hkeep : g.Remembers a (.tryAdmit source now)) :
    (g.tryAdmit source now).1.budget a first last now +
        (if passes a first last g (.tryAdmit source now) = true then 1 else 0) ≤
      g.budget a first last s := by
  refine le_trans ?_ (budget_le hg hs hle)
  by_cases hin : first ≤ now ∧ now ≤ last
  · have htakes := (tryAdmit_spec hg hs hkeep).2
    simp only [budget, passes, hin.1.not_gt, hin.2.not_gt, hin.1, hin.2, if_false, tryAdmit_cfg,
      true_and, decide_eq_true_eq]
    linarith
  · have hno : passes a first last g (.tryAdmit source now) = false :=
      decide_eq_false fun h => hin ⟨h.2.1, h.2.2.1⟩
    rw [hno, budget, budget, tryAdmit_cfg]
    by_cases hlast : last < now
    · simp [hlast]
    · simp [hlast, lt_of_not_ge fun h => hin ⟨h, not_lt.1 hlast⟩]

/-- **A run.**  A source is let through in the interval as often as its budget allows. -/
lemma countP_passes_le (hg : g.Sane a s) (hle : first ≤ last)
    (hclock : (s :: calls.filterMap GateCall.time).Pairwise (· ≤ ·))
    (hkeep : Along Gate.call (Remembers a) g calls) :
    ((trace Gate.call g calls).countP (fun x => passes a first last x.1 x.2) : ℚ) ≤
      g.budget a first last s := by
  induction calls generalizing g s with
  | nil => simpa [trace] using budget_nonneg hg hle
  | cons c calls ih =>
    cases c with
    | done => exact ih (g := g.done) hg hclock hkeep.2
    | tryAdmit source now =>
      obtain ⟨hlater, hrest⟩ := pairwise_cons.1 hclock
      have hnow : s ≤ now := hlater now (by simp [GateCall.time])
      have hcount := ih (tryAdmit_spec hg hnow hkeep.1).1 hrest hkeep.2
      have hcall := budget_call hg hnow hle hkeep.1
      rw [trace, countP_cons, call]
      push_cast
      linarith

/-- A bucket that is refilled within `sourceIdleTimeout` is full when it is forgotten. -/
lemma remembers_of_burst_le (hburst : g.cfg.perSourceBurst ≤ given g.cfg 0 sourceIdleTimeout)
    (hg : g.Sane a s) (hclock : (s :: calls.filterMap GateCall.time).Pairwise (· ≤ ·)) :
    Along Gate.call (Remembers a) g calls := by
  induction calls generalizing g s with
  | nil => trivial
  | cons c calls ih =>
    cases c with
    | done => exact ⟨trivial, ih (g := g.done) hburst hg hclock⟩
    | tryAdmit source now =>
      obtain ⟨hlater, hrest⟩ := pairwise_cons.1 hclock
      have hnow : s ≤ now := hlater now (by simp [GateCall.time])
      have hkeep : g.Remembers a (.tryAdmit source now) := by
        intro b hb hgone
        obtain ⟨hnonneg, hle, hlast⟩ := hg b hb
        have hidle : b.last + sourceIdleTimeout ≤ now := by
          rcases gc_sources g a now with h | ⟨-, h⟩
          · exact nomatch hgone.symm.trans (h.trans hb)
          · have := h b hb
            omega
        have hfull : given g.cfg 0 sourceIdleTimeout ≤ given g.cfg b.last now := by
          have hrest := given_nonneg g.cfg hidle
          rw [← given_add b.last (b.last + sourceIdleTimeout) now]
          unfold given at hrest ⊢
          push_cast at hrest ⊢
          linarith
        rw [refill_eq (hlast.trans hnow) hle]
        exact le_min (by linarith) le_rfl
      have hnext : (g.call (.tryAdmit source now)).cfg = g.cfg := g.tryAdmit_cfg source now
      exact ⟨hkeep, ih (hnext ▸ hburst) (tryAdmit_spec hg hnow hkeep).1 hrest⟩

lemma sane_newGate (cfg : AdmissionConfig) (start s : ℤ) : (newGate cfg start).Sane a s := nofun

/-- **The rate bound.**  In every run with a clock that does not go back, in which a source's bucket
is forgotten only when it is full, the source is let through at most `PerSourceBurst` times and
`PerSourceRate` times a second in every interval; the cap is kept in every run. -/
theorem admission_rate_bound (cfg : AdmissionConfig) (start : ℤ) (calls : List GateCall)
    (hclock : (start :: calls.filterMap GateCall.time).Pairwise (· ≤ ·)) :
    (∀ a, Along Gate.call (Remembers a) (newGate cfg start) calls → ∀ first T : ℤ, 0 ≤ T →
      ((trace Gate.call (newGate cfg start) calls).countP
          (fun x => passes a first (first + T) x.1 x.2) : ℚ) ≤
        cfg.withDefaults.perSourceBurst + cfg.withDefaults.perSourceRate * (T / 1000000000)) ∧
    Always Gate.call (fun g => g.halfOpen ≤ cfg.withDefaults.maxHalfOpen) (newGate cfg start)
      calls := by
  refine ⟨fun a hkeep first T hT => ?_, ?_⟩
  · -- the interval has not begun at the time `s`
    let s := min start (first - 1)
    have hs : s < first := (min_le_right _ _).trans_lt (Int.sub_one_lt_of_le le_rfl)
    have hclock' : (s :: calls.filterMap GateCall.time).Pairwise (· ≤ ·) := by
      obtain ⟨hlater, hrest⟩ := pairwise_cons.1 hclock
      exact pairwise_cons.2 ⟨fun t ht => (min_le_left _ _).trans (hlater t ht), hrest⟩
    have hle : first ≤ first + T := Int.le_add_of_nonneg_right hT
    refine (countP_passes_le (sane_newGate cfg start s) hle hclock' hkeep).trans (le_of_eq ?_)
    rw [budget, if_neg (hs.trans_le hle).not_gt, if_pos hs, given]
    simp only [newGate, add_sub_cancel_left]
    ring
  · refine always_of_inv (C := fun _ _ => True)
      (fun g => g.cfg = cfg.withDefaults ∧ g.halfOpen ≤ g.cfg.maxHalfOpen) (fun g c h _ => ?_)
      (fun g h => h.1 ▸ h.2) _ calls ⟨rfl, Nat.zero_le _⟩ (along_true _ _ _)
    cases c with
    | done => exact ⟨h.1, (Nat.sub_le _ _).trans h.2⟩
    | tryAdmit source now =>
      refine ⟨(g.tryAdmit_cfg source now).trans h.1, ?_⟩
      rw [call, tryAdmit_cfg]
      rcases g.tryAdmit_cases source now with ⟨-, -, hfree, hopen⟩ | ⟨-, -, hopen⟩
      · exact hopen ▸ hfree
      · exact hopen ▸ h.2

/-- One source calls twice, `T` nanoseconds apart, and its first handshake ends in between. -/
def twice (T : ℤ) : List GateCall :=
  [.tryAdmit { ip := [10, 0, 0, 1], port := 500 } 0, .done,
    .tryAdmit { ip := [10, 0, 0, 1], port := 500 } T]

/-- With the default limits the condition holds: the bucket is forgotten after five minutes, and 20
tokens are back after two seconds. -/
theorem admission_rate_bound_defaults :
    ((trace Gate.call (newGate {} 0) (twice 301000000000)).countP
      (fun x => passes [10, 0, 0, 1] 0 (0 + 301000000000) x.1 x.2) : ℚ) ≤
        (AdmissionConfig.withDefaults {}).perSourceBurst +
          (AdmissionConfig.withDefaults {}).perSourceRate * ((301000000000 : ℤ) / 1000000000) := by
  refine (admission_rate_bound {} 0 _ (by decide)).1 [10, 0, 0, 1] ?_ 0 301000000000 (by decide)
  refine remembers_of_burst_le ?_ (sane_newGate {} 0 0) (by decide)
  norm_num [newGate, given, AdmissionConfig.withDefaults, defaultPerSourceBurst,
    defaultPerSourceRate, sourceIdleTimeout]

/-- A burst of one token at one token in a thousand seconds: the bucket is forgotten after five
minutes, and the source is let through twice. -/
theorem forgotten_bucket_is_full :
    ((twice 301000000000).filterMap GateCall.time).Pairwise (· ≤ ·) ∧
      ¬ ((trace Gate.call (newGate ⟨1, 1 / 1000, 1⟩ 0) (twice 301000000000)).countP
          (fun x => passes [10, 0, 0, 1] 0 301000000000 x.1 x.2) : ℚ) ≤
        1 + 1 / 1000 * (301000000000 / 1000000000) := by
  have hcount : (trace Gate.call (newGate ⟨1, 1 / 1000, 1⟩ 0) (twice 301000000000)).countP
      (fun x => passes [10, 0, 0, 1] 0 301000000000 x.1 x.2) = 2 := by
    rw [twice, trace, trace, trace, trace]
    simp only [countP_cons, countP_nil, passes]
    norm_num [call, tryAdmit, gc, allowSource, Bucket.refill, newGate, done, Option.filter,
      AdmissionConfig.withDefaults, sourceIdleTimeout, addrOf, to4]
    rfl
  rw [hcount]
  exact ⟨by decide, by norm_num⟩

end Veepin
