import Veepin.Core.Bytes
import Veepin.Core.Runs

/-!
# Sealing a WireGuard transport message

The model of `appendSeal` in `internal/wireguard/transport/transport.go`, which `Seal`,
`SealPadded` and `AppendSeal` all reach.  A session takes the counter of each message from one
atomic variable and is otherwise only read, so calls of several goroutines interleave at two points:
the addition to the counter, and the message that comes out.  A call that finds its counter at
`RejectAfterMessages` or above is refused, but its addition has been made.

* `Sealing.Numbered` — what holds of the counters after `k` calls; `numbered_step` keeps it as long
  as the variable has not gone round;
* `nonces_unique_iff` — no counter is used twice exactly up to 2^64 calls.
-/

namespace Veepin.WireGuard

open List Function

/-- `RejectAfterMessages`: 2^64 - 2^13 - 1. -/
def rejectAfterMessages : UInt64 := 0xffffffffffffdfff

def paddedLen (n minInner : ℕ) : ℕ :=
  if n = 0 then 0
  else
    let aligned := minInner - minInner % 16
    let n := if minInner > n ∧ aligned > n then aligned else n
    if n % 16 = 0 then n else n + 16 - n % 16

/-- `binary.LittleEndian.PutUint32` and `PutUint64`: the low `k` octets, the lowest first. -/
def putLE (k n : ℕ) : Bytes := (List.range k).map fun i => UInt8.ofNat (n / 256 ^ i)

def putTransportHeader (receiver : UInt32) (counter : UInt64) : Bytes :=
  [4, 0, 0, 0] ++ putLE 4 receiver.toNat ++ putLE 8 counter.toNat

/-- The arguments of `appendSeal`. -/
structure SealCall where
  dst : Bytes
  inner : Bytes
  minInner : ℕ
  deriving DecidableEq, Repr

/-- `Seal`: a fresh buffer and no padding. -/
def SealCall.seal (inner : Bytes) : SealCall := ⟨[], inner, 0⟩

def SealCall.sealPadded (inner : Bytes) (minInner : ℕ) : SealCall := ⟨[], inner, minInner⟩

/-- What a session seals with: its AEAD under the send key, from a nonce and a plaintext, and the
index of the peer. -/
structure Sealer where
  aead : Bytes → Bytes → Bytes
  remote : UInt32

/-- The rest of `appendSeal` once the call has its counter. -/
def Sealer.message (k : Sealer) (counter : UInt64) (c : SealCall) : Bytes :=
  let plaintext := c.inner ++ List.replicate (paddedLen c.inner.length c.minInner -
    c.inner.length) 0
  c.dst ++ putTransportHeader k.remote counter ++
    k.aead ([0, 0, 0, 0] ++ putLE 8 counter.toNat) plaintext

/-! ## Interleaved calls -/

/-- A session and the goroutines that call it: the atomic counter, the call each goroutine is in
with the counter it took, the messages of the successful calls, and how many calls were made. -/
structure Sealing (τ : Type*) where
  counter : UInt64 := 0
  reserved : τ → Option (UInt64 × SealCall) := fun _ => none
  messages : List (UInt64 × Bytes) := []
  calls : ℕ := 0

/-- The two points of a call. -/
inductive SealEvent (τ : Type*)
  | reserve (g : τ) (c : SealCall)
  | finish (g : τ)
  deriving DecidableEq

variable {τ : Type*} [DecidableEq τ] (k : Sealer)

/-- `s.counter.Add(1) - 1` and the test of its value. -/
def Sealing.reserve (s : Sealing τ) (g : τ) (c : SealCall) : Sealing τ :=
  { s with
    counter := s.counter + 1
    reserved := if s.counter ≥ rejectAfterMessages then s.reserved
      else Function.update s.reserved g (some (s.counter, c))
    calls := s.calls + 1 }

def Sealing.step (s : Sealing τ) : SealEvent τ → Sealing τ
  | .reserve g c => if (s.reserved g).isSome then s else s.reserve g c
  | .finish g =>
    match s.reserved g with
    | none => s
    | some (counter, c) =>
      { s with
        reserved := Function.update s.reserved g none
        messages := (counter, k.message counter c) :: s.messages }

/-- The counters of the successful calls. -/
def Sealing.counters (s : Sealing τ) : List UInt64 := s.messages.map Prod.fst

/-- No two successful calls had the same counter, and none had one that is to be refused. -/
def Sealing.NoncesUnique (s : Sealing τ) : Prop :=
  s.counters.Nodup ∧ ∀ n ∈ s.counters, n < rejectAfterMessages

instance (s : Sealing τ) : Decidable s.NoncesUnique :=
  inferInstanceAs (Decidable (_ ∧ ∀ n ∈ s.counters, n < rejectAfterMessages))

/-! ## Until the counter goes round -/

/-- The counters in use after `s.calls` calls: those of messages and those that goroutines hold are
all different, and below the number of calls. -/
structure Sealing.Numbered (s : Sealing τ) : Prop where
  counter : s.counter.toNat = s.calls % 2 ^ 64
  nodup : s.counters.Nodup
  used : ∀ n ∈ s.counters, n < rejectAfterMessages ∧ n.toNat < s.calls
  held : ∀ g n c, s.reserved g = some (n, c) →
    n < rejectAfterMessages ∧ n.toNat < s.calls ∧ n ∉ s.counters
  inj : ∀ g g' n c c', s.reserved g = some (n, c) → s.reserved g' = some (n, c') → g = g'

omit [DecidableEq τ] in
lemma numbered_start : ({} : Sealing τ).Numbered where
  counter := rfl
  nodup := nodup_nil
  used _ hn := absurd hn not_mem_nil
  held _ _ _ h := nomatch h
  inj _ _ _ _ _ h := nomatch h

open Sealing

lemma Sealing.reserve_reserved (s : Sealing τ) (g g' : τ) (c : SealCall) :
    (s.reserve g c).reserved g' =
      if s.counter < rejectAfterMessages ∧ g' = g then some (s.counter, c) else s.reserved g' := by
  by_cases hr : s.counter ≥ rejectAfterMessages
  · rw [reserve, if_pos hr, if_neg fun h => UInt64.not_lt.2 hr h.1]
  · simp only [reserve, if_neg hr, update_apply]
    exact if_congr (and_iff_right (UInt64.not_le.1 hr)).symm rfl rfl

lemma Sealing.Numbered.reserve {s : Sealing τ} (h : s.Numbered) (hk : s.calls < 2 ^ 64) (g : τ)
    (c : SealCall) : (s.reserve g c).Numbered where
  counter := by
    rw [Sealing.reserve, UInt64.toNat_add, h.counter]
    simp
  nodup := h.nodup
  used n hn := ⟨(h.used n hn).1, Nat.lt_succ_of_lt (h.used n hn).2⟩
  held g' n c' hg := by
    have hcounter : s.counter.toNat = s.calls := h.counter.trans (Nat.mod_eq_of_lt hk)
    rw [reserve_reserved] at hg
    split_ifs at hg with hnew
    · obtain ⟨rfl, rfl⟩ := Prod.mk.inj (Option.some.inj hg)
      exact ⟨hnew.1, hcounter.trans_lt (Nat.lt_succ_self _),
        fun hm => absurd (h.used _ hm).2 (by omega)⟩
    · have old := h.held g' n c' hg
      exact ⟨old.1, Nat.lt_succ_of_lt old.2.1, old.2.2⟩
  inj a b n c₁ c₂ ha hb := by
    have hcounter : s.counter.toNat = s.calls := h.counter.trans (Nat.mod_eq_of_lt hk)
    -- a counter held before the call is below the new one
    have fresh : ∀ g' c', s.reserved g' ≠ some (s.counter, c') := fun g' c' hg =>
      absurd (h.held g' _ c' hg).2.1 (by omega)
    rw [reserve_reserved] at ha hb
    split_ifs at ha hb with h₁ h₂ h₂
    · exact h₁.2.trans h₂.2.symm
    · obtain ⟨rfl, rfl⟩ := Prod.mk.inj (Option.some.inj ha)
      exact absurd hb (fresh b c₂)
    · obtain ⟨rfl, rfl⟩ := Prod.mk.inj (Option.some.inj hb)
      exact absurd ha (fresh a c₁)
    · exact h.inj a b n c₁ c₂ ha hb

lemma Sealing.Numbered.finish {s : Sealing τ} (h : s.Numbered) {g : τ} {n : UInt64} {c : SealCall}
    (hg : s.reserved g = some (n, c)) (m : Bytes) :
    Sealing.Numbered { s with
      reserved := Function.update s.reserved g none, messages := (n, m) :: s.messages } where
  counter := h.counter
  nodup := nodup_cons.2 ⟨(h.held g n c hg).2.2, h.nodup⟩
  used n' hn' := by
    rcases mem_cons.1 hn' with rfl | hn'
    · exact ⟨(h.held g _ c hg).1, (h.held g _ c hg).2.1⟩
    · exact h.used n' hn'
  held g' n' c' hg' := by
    simp only [update_apply] at hg'
    split_ifs at hg' with hgg
    have old := h.held g' n' c' hg'
    refine ⟨old.1, old.2.1, fun hm => ?_⟩
    rcases mem_cons.1 hm with rfl | hm
    · exact hgg (h.inj g' g _ c' c hg' hg)
    · exact old.2.2 hm
  inj a b n' c₁ c₂ ha hb := by
    simp only [update_apply] at ha hb
    split_ifs at ha hb
    exact h.inj a b n' c₁ c₂ ha hb

lemma Sealing.calls_le_step (s : Sealing τ) (e : SealEvent τ) : s.calls ≤ (s.step k e).calls := by
  cases e with
  | reserve g c => rw [step]; split_ifs; exacts [le_rfl, Nat.le_succ _]
  | finish g => rw [step]; split <;> exact le_rfl

/-- **The step.**  The counters stay different as long as at most 2^64 calls were made. -/
lemma numbered_step (s : Sealing τ) (e : SealEvent τ) (h : s.Numbered)
    (hk : (s.step k e).calls ≤ 2 ^ 64) : (s.step k e).Numbered := by
  cases e with
  | reserve g c =>
    rw [step] at hk ⊢
    split_ifs at hk ⊢
    · exact h
    · exact h.reserve hk g c
  | finish g =>
    rw [step]
    split
    · exact h
    · next hg => exact h.finish hg _

lemma numbered_run (es : List (SealEvent τ)) (hk : (run (Sealing.step k) {} es).calls ≤ 2 ^ 64) :
    (run (Sealing.step k) ({} : Sealing τ) es).Numbered := by
  induction es using reverseRecOn with
  | nil => exact numbered_start
  | append_singleton es e ih =>
    rw [run_concat] at hk ⊢
    exact numbered_step k _ e (ih ((calls_le_step k _ e).trans hk)) hk

/-! ## After it has gone round -/

/-- One goroutine makes a call and finishes it. -/
def sealOnce (g : τ) (c : SealCall) : List (SealEvent τ) := [.reserve g c, .finish g]

/-- A call when no other is under way. -/
lemma run_sealOnce_step (s : Sealing τ) (hs : s.reserved = fun _ => none) (g : τ) (c : SealCall) :
    run (Sealing.step k) s (sealOnce g c) = { s with
        counter := s.counter + 1
        calls := s.calls + 1
        messages := if s.counter ≥ rejectAfterMessages then s.messages
          else (s.counter, k.message s.counter c) :: s.messages } := by
  obtain ⟨counter, reserved, messages, calls⟩ := s
  subst hs
  by_cases hr : counter ≥ rejectAfterMessages
  · simp [sealOnce, step, reserve, hr]
  · simp [sealOnce, step, reserve, hr]

/-- **Calls one after the other.**  Refused calls move the counter like the others. -/
lemma run_sealOnce (g : τ) (c : SealCall) (n : ℕ) :
    let s := run (step k) ({} : Sealing τ) (replicate n (sealOnce g c)).flatten
    s.reserved = (fun _ => none) ∧ s.counter = UInt64.ofNat n ∧ s.calls = n ∧
      (0 < n → 0 ∈ s.counters) := by
  induction n with
  | zero => exact ⟨rfl, rfl, rfl, fun h => absurd h (lt_irrefl 0)⟩
  | succ n ih =>
    obtain ⟨hidle, hcounter, hcalls, hzero⟩ := ih
    rw [replicate_succ', flatten_concat, run_append, run_sealOnce_step k _ hidle]
    refine ⟨hidle, ?_, congrArg Nat.succ hcalls, fun _ => ?_⟩
    · simp only [hcounter, UInt64.ofNat_add]
      rfl
    rcases Nat.eq_zero_or_pos n with rfl | hn
    · exact mem_cons_self
    · have := hzero hn
      simp only [counters] at this ⊢
      split_ifs
      · exact this
      · exact mem_cons_of_mem _ this

/-- Once the counter has gone round, the next call uses the first counter again. -/
lemma nonce_repeats (g : τ) (c : SealCall) {m : ℕ} (hm : m = 2 ^ 64) :
    let s := run (step k) ({} : Sealing τ) (replicate (m + 1) (sealOnce g c)).flatten
    s.calls = m + 1 ∧ ¬ s.counters.Nodup := by
  obtain ⟨hidle, hcounter, hcalls, hzero⟩ := run_sealOnce k g c m
  have hround : UInt64.ofNat m = 0 := by rw [hm]; rfl
  have hlow : ¬ (0 : UInt64) ≥ rejectAfterMessages := by decide
  rw [replicate_succ', flatten_concat, run_append, run_sealOnce_step k _ hidle]
  refine ⟨congrArg Nat.succ hcalls, ?_⟩
  simp only [counters, hcounter, hround, if_neg hlow, map_cons, nodup_cons, not_and]
  exact fun h => absurd (hzero (by omega)) h

/-- **Nonces are not reused in 2^64 calls.**  Whatever the goroutines do, no counter is used twice
and none that is to be refused is used, in all runs of at most `n` calls: exactly when `n` is at
most 2^64. -/
theorem nonces_unique_iff (n : ℕ) [Inhabited τ] :
    (∀ es : List (SealEvent τ), (run (Sealing.step k) {} es).calls ≤ n →
      (run (Sealing.step k) {} es).NoncesUnique) ↔ n ≤ 2 ^ 64 := by
  constructor
  · intro h
    by_contra hn
    obtain ⟨m, hm⟩ : ∃ m : ℕ, m = 2 ^ 64 := ⟨_, rfl⟩
    obtain ⟨hcalls, hdup⟩ := nonce_repeats k (default : τ) (.seal []) hm
    exact hdup (h _ (by omega)).1
  · intro hn es hes
    have h := numbered_run k es (hes.trans hn)
    exact ⟨h.nodup, fun m hm => (h.used m hm).1⟩

/-- Packet after packet, past the refusals: call 2^64 + 1 succeeds with the counter of the first. -/
theorem nonce_reused : ∃ (k : Sealer) (es : List (SealEvent Unit)),
    ¬ (run (Sealing.step k) {} es).NoncesUnique := by
  obtain ⟨m, hm⟩ : ∃ m : ℕ, m = 2 ^ 64 := ⟨_, rfl⟩
  exact ⟨⟨fun _ p => p, 0⟩, _, fun h => (nonce_repeats _ () (.seal []) hm).2 h.1⟩

end Veepin.WireGuard
