import Veepin.Core.Runs
import Veepin.Core.Bytes

/-!
# Admission control

The model of `dataplane/admission.go`.  A `Gate` bounds the unauthenticated work a server takes on:
a token bucket per source address and a cap on the handshakes in flight.  `Gate.tryAdmit` (`Admit`
in the source) takes a slot, `Gate.done` gives it back.

Token counts are rationals, so a bucket is refilled exactly; times are nanoseconds.  The limits a
gate works with come out of `withDefaults`, which leaves no limit at zero; `Limits` carries that.

`always_slots_le_iff` is about any server that takes slots and never gives them back: they stay
within what exists exactly in the runs in which nothing ever goes away.
-/

namespace Veepin

/-! ## Limits -/

/-- `AdmissionConfig`, as a server writes it. -/
structure AdmissionConfig where
  maxHalfOpen : ℤ := 0
  perSourceRate : ℚ := 0
  perSourceBurst : ℚ := 0

/-- The limits a gate works with: none is zero. -/
structure Limits where
  maxHalfOpen : ℕ
  perSourceRate : ℚ
  perSourceBurst : ℚ
  maxHalfOpen_pos : 0 < maxHalfOpen
  perSourceRate_pos : 0 < perSourceRate
  perSourceBurst_pos : 0 < perSourceBurst

/-- How many handshakes may be in flight at once. -/
def defaultMaxHalfOpen : ℕ := 512

/-- How many handshakes one source may start per second, sustained. -/
def defaultPerSourceRate : ℚ := 10

/-- How far one source may exceed that momentarily. -/
def defaultPerSourceBurst : ℚ := 20

/-- `withDefaults`: a limit that is not positive is replaced by its default. -/
def AdmissionConfig.withDefaults (c : AdmissionConfig) : Limits where
  maxHalfOpen := if c.maxHalfOpen ≤ 0 then defaultMaxHalfOpen else c.maxHalfOpen.toNat
  perSourceRate := if c.perSourceRate ≤ 0 then defaultPerSourceRate else c.perSourceRate
  perSourceBurst := if c.perSourceBurst ≤ 0 then defaultPerSourceBurst else c.perSourceBurst
  maxHalfOpen_pos := by
    split_ifs with h
    · exact Nat.succ_pos _
    · omega
  perSourceRate_pos := by
    split_ifs with h
    · norm_num [defaultPerSourceRate]
    · exact not_le.mp h
  perSourceBurst_pos := by
    split_ifs with h
    · norm_num [defaultPerSourceBurst]
    · exact not_le.mp h

/-! ## The gate -/

/-- Why a handshake was refused. -/
inductive RejectReason
  | admitted
  | atCapacity
  | rateLimited
  deriving DecidableEq, Repr

/-- One source's token bucket. -/
structure Bucket where
  tokens : ℚ
  last : ℤ
  deriving DecidableEq, Repr

/-- How long a quiet source is remembered. -/
def sourceIdleTimeout : ℤ := 300 * 1000000000

/-- `Gate`.  The map of sources is a partial function. -/
structure Gate where
  cfg : Limits
  halfOpen : ℕ
  sources : Bytes → Option Bucket
  lastGC : ℤ

def newGate (cfg : AdmissionConfig) (now : ℤ) : Gate :=
  { cfg := cfg.withDefaults, halfOpen := 0, sources := fun _ => none, lastGC := now }

/-- `addrOf`: the source address without port, an IPv4 address in its short form.  Anything that
is no address shares one bucket. -/
def addrOf (a : UDPAddr) : Bytes :=
  (to4 a.ip).getD (if a.ip.length = 16 then a.ip else [])

/-- `gc`: forget the sources that have been quiet. -/
def Gate.gc (g : Gate) (now : ℤ) : Gate :=
  if now - g.lastGC < sourceIdleTimeout then g
  else { g with
    lastGC := now
    sources := fun a => (g.sources a).filter fun b => now - b.last ≤ sourceIdleTimeout }

/-- A bucket after the time since it was last used. -/
def Bucket.refill (b : Bucket) (cfg : Limits) (now : ℤ) : Bucket :=
  let elapsed : ℚ := (now - b.last : ℤ) / 1000000000
  if 0 < elapsed then
    { tokens := min (b.tokens + elapsed * cfg.perSourceRate) cfg.perSourceBurst, last := now }
  else b

namespace Gate

/-- `allowSource`: the token bucket of one source. -/
def allowSource (g : Gate) (addr : Bytes) (now : ℤ) : Gate × Bool :=
  let b := ((g.sources addr).getD ⟨g.cfg.perSourceBurst, now⟩).refill g.cfg now
  if b.tokens < 1 then
    ({ g with sources := Function.update g.sources addr (some b) }, false)
  else
    ({ g with
      sources := Function.update g.sources addr (some { b with tokens := b.tokens - 1 }) }, true)

/-- `Admit`: the rate first, then the cap; a slot is taken only by an admitted handshake. -/
def tryAdmit (g : Gate) (source : UDPAddr) (now : ℤ) : Gate × RejectReason :=
  let (g, ok) := (g.gc now).allowSource (addrOf source) now
  if !ok then (g, .rateLimited)
  else if g.cfg.maxHalfOpen ≤ g.halfOpen then (g, .atCapacity)
  else ({ g with halfOpen := g.halfOpen + 1 }, .admitted)

/-- `Done`: a slot is given back. -/
def done (g : Gate) : Gate := { g with halfOpen := g.halfOpen - 1 }

/-- The source is within its rate limit. -/
def withinRate (g : Gate) (source : UDPAddr) (now : ℤ) : Bool :=
  ((g.gc now).allowSource (addrOf source) now).2

@[simp] lemma gc_halfOpen (g : Gate) (now : ℤ) : (g.gc now).halfOpen = g.halfOpen := by
  unfold gc
  split_ifs <;> rfl

@[simp] lemma gc_cfg (g : Gate) (now : ℤ) : (g.gc now).cfg = g.cfg := by
  unfold gc
  split_ifs <;> rfl

@[simp] lemma allowSource_halfOpen (g : Gate) (addr : Bytes) (now : ℤ) :
    (g.allowSource addr now).1.halfOpen = g.halfOpen := by
  unfold allowSource
  dsimp only
  split_ifs <;> rfl

@[simp] lemma allowSource_cfg (g : Gate) (addr : Bytes) (now : ℤ) :
    (g.allowSource addr now).1.cfg = g.cfg := by
  unfold allowSource
  dsimp only
  split_ifs <;> rfl

/-- **What `Admit` does to the slots.**  An admitted handshake takes one that was free; a refused
one takes none. -/
lemma tryAdmit_cases (g : Gate) (source : UDPAddr) (now : ℤ) :
    ((g.tryAdmit source now).2 = .admitted ∧ g.withinRate source now = true ∧
        g.halfOpen < g.cfg.maxHalfOpen ∧ (g.tryAdmit source now).1.halfOpen = g.halfOpen + 1) ∨
      ((g.tryAdmit source now).2 ≠ .admitted ∧
        (g.withinRate source now = true → g.cfg.maxHalfOpen ≤ g.halfOpen) ∧
        (g.tryAdmit source now).1.halfOpen = g.halfOpen) := by
  have hhalf : ((g.gc now).allowSource (addrOf source) now).1.halfOpen = g.halfOpen := by simp
  have hcfg : ((g.gc now).allowSource (addrOf source) now).1.cfg = g.cfg := by simp
  unfold tryAdmit withinRate
  generalize (g.gc now).allowSource (addrOf source) now = r at *
  obtain ⟨g', ok⟩ := r
  simp only at hhalf hcfg ⊢
  cases ok with
  | false => right; simp [hhalf]
  | true =>
    by_cases hcap : g'.cfg.maxHalfOpen ≤ g'.halfOpen
    · right
      rw [hcfg, hhalf] at hcap
      simp [hcap, hhalf, hcfg]
    · left
      rw [hcfg, hhalf] at hcap
      simp [hcap, hhalf, hcfg, not_le.mp hcap]

@[simp] lemma tryAdmit_cfg (g : Gate) (source : UDPAddr) (now : ℤ) :
    (g.tryAdmit source now).1.cfg = g.cfg := by
  unfold tryAdmit
  dsimp only
  split_ifs <;> simp

/-- With no slot taken, a source within its rate is admitted. -/
lemma tryAdmit_of_idle {g : Gate} (h : g.halfOpen = 0) {source : UDPAddr} {now : ℤ}
    (hr : g.withinRate source now = true) : (g.tryAdmit source now).2 = .admitted := by
  rcases g.tryAdmit_cases source now with ⟨ha, -⟩ | ⟨-, hcap, -⟩
  · exact ha
  · have := g.cfg.maxHalfOpen_pos
    have := hcap hr
    omega

end Gate

/-! ## Slots and what they stand for -/

section Slots

variable {σ ι : Type*} {step : σ → ι → σ} {slots live : σ → ℕ} {ends : σ → ι → Prop}

/-- **Slots that are never given back.**  Each step either changes the slots and the things they
stand for alike, or ends one such thing and keeps its slot.  Started level, the slots stay within
the things that exist exactly in the runs in which none ever ends. -/
theorem always_slots_le_iff
    (hkeep : ∀ s i, ¬ ends s i → slots s = live s → slots (step s i) = live (step s i))
    (hend : ∀ s i, ends s i → slots (step s i) = slots s ∧ live (step s i) + 1 = live s) :
    ∀ (s : σ) (is : List ι), slots s = live s →
      (Always step (fun s => slots s ≤ live s) s is ↔ Along step (fun s i => ¬ ends s i) s is)
  | s, [], h => by simp [Always, Along, h]
  | s, i :: is, h => by
    by_cases he : ends s i
    · -- the slot outlives what it stands for, in the very next state
      obtain ⟨h1, h2⟩ := hend s i he
      constructor
      · rintro ⟨-, hnext⟩
        have := hnext.head
        omega
      · rintro ⟨hno, -⟩
        exact absurd he hno
    · have ih := always_slots_le_iff hkeep hend (step s i) is (hkeep s i he h)
      constructor
      · rintro ⟨-, hnext⟩
        exact ⟨he, ih.mp hnext⟩
      · rintro ⟨-, hrest⟩
        exact ⟨h.le, ih.mpr hrest⟩

end Slots

end Veepin
