import Veepin.Dataplane.Admission

/-!
# Address pools

The models of `dataplane/pool.go` and `dataplane/pool6.go`.  A pool hands out inner addresses and
takes them back.  The IPv4 pool scans its whole range for the lowest free address; the IPv6 pool
scans upwards from a low-water mark, which a release lowers.

Addresses are numbers inside a pool and octet strings outside it.  The servers rest on one fact:
what is allocated was not in use, and is afterwards (`AddrPool.allocate_spec`,
`AddrPool6.allocate_spec`).

The scan of the IPv6 pool finds the lowest free address as long as everything below the mark is in
use.  `pool6_exact` says that this is so over any run of calls, with one exception: once the last
address of the whole address space has been handed out the mark is the zero `Addr`, and a release
does not lower it any more (`pool6_stuck`).
-/

namespace Veepin

open Option

/-! ## IPv4 -/

/-- `AddrPool`: the assignable hosts `base … last`, all 32-bit addresses, and those in use. -/
structure AddrPool where
  gateway : ℕ
  base : ℕ
  last : ℕ
  used : Finset ℕ
  last_lt : last < 2 ^ 32
  deriving DecidableEq

/-- `NewAddrPool`, over the network that starts at `netStart` with a mask of `ones` bits. -/
def newAddrPool (netStart ones : ℕ) : Option AddrPool :=
  let size := 2 ^ (32 - ones) % 2 ^ 32
  if size < 4 then none
  else some
    { gateway := (netStart + 1) % 2 ^ 32
      base := (netStart + 2) % 2 ^ 32
      last := (netStart + size - 2) % 2 ^ 32
      used := ∅
      last_lt := Nat.mod_lt _ (by decide) }

def u32IP (v : ℕ) : Bytes := putBE32 v

/-- `Allocate`: the lowest free address. -/
def AddrPool.allocate (p : AddrPool) : Option (Bytes × AddrPool) :=
  match (List.range' p.base (p.last + 1 - p.base)).find? fun cand => cand ∉ p.used with
  | none => none
  | some cand => some (u32IP cand, { p with used := insert cand p.used })

/-- `Release`; an address that is not IPv4 is ignored. -/
def AddrPool.release (p : AddrPool) (ip : Bytes) : AddrPool :=
  match to4 ip with
  | none => p
  | some v4 => { p with used := p.used.erase (be32 v4 0) }

/-- The address, in octets, is in use. -/
def AddrPool.InUse (p : AddrPool) (ip : Bytes) : Prop := ∃ v4, to4 ip = some v4 ∧ be32 v4 0 ∈ p.used

@[simp] lemma to4_u32IP (v : ℕ) : to4 (u32IP v) = some (u32IP v) := rfl

variable {v : ℕ}

lemma be32_u32IP (h : v < 2 ^ 32) : be32 (u32IP v) 0 = v := by
  rw [u32IP, be32_putBE32]
  omega

/-- **One allocation.**  The address handed out was free, is used afterwards, and nothing else
changes. -/
lemma AddrPool.allocate_spec {p q : AddrPool} {ip : Bytes} (h : p.allocate = some (ip, q)) :
    ∃ v, ip = u32IP v ∧ v < 2 ^ 32 ∧ v ∉ p.used ∧ q = { p with used := insert v p.used } := by
  unfold AddrPool.allocate at h
  split at h
  · exact absurd h (by simp)
  rename_i cand hfind
  obtain ⟨rfl, rfl⟩ := Prod.mk.inj (some.inj h)
  have hmem := List.mem_of_find?_eq_some hfind
  have hfree := List.find?_some hfind
  rw [List.mem_range'_1] at hmem
  have hlast := p.last_lt
  exact ⟨cand, rfl, by omega, by simpa using hfree, rfl⟩

/-- A pool of two hundred and fifty-three addresses. -/
def smallPool : AddrPool :=
  { gateway := 1, base := 2, last := 254, used := ∅, last_lt := by decide }

/-! ## IPv6 -/

/-- Sixteen octets of an address. -/
def putBE128 (n : ℕ) : Bytes := putBE64 (n / 2 ^ 64) ++ putBE64 n

@[simp] lemma length_putBE128 (n : ℕ) : (putBE128 n).length = 16 := rfl

/-- The number of a sixteen-octet address. -/
def be128 (b : Bytes) : ℕ := be64 b 0 * 2 ^ 64 + be64 (b.drop 8) 0

lemma be128_putBE128 {n : ℕ} (h : n < 2 ^ 128) : be128 (putBE128 n) = n := by
  have hhigh : be64 (putBE128 n) 0 = n / 2 ^ 64 % 2 ^ 64 := be64_putBE64 _
  have hlow : be64 ((putBE128 n).drop 8) 0 = n % 2 ^ 64 := be64_putBE64 n
  rw [be128, hhigh, hlow]
  omega

/-- `AddrPool6`: the prefix, the scan mark and the addresses in use.  The mark is `2 ^ 128` where
the source has the zero `Addr`, which `Next` returns after the last address. -/
structure AddrPool6 where
  network : ℕ
  bits : ℕ
  next : ℕ
  used : Finset ℕ
  deriving DecidableEq

/-- `NewAddrPool6`, over a masked IPv6 prefix: the first host is the gateway. -/
def newAddrPool6 (network bits : ℕ) : Option AddrPool6 :=
  if 126 < bits then none else some { network, bits, next := network + 2, used := ∅ }

def AddrPool6.contains (p : AddrPool6) (cand : ℕ) : Bool :=
  decide (cand < 2 ^ 128) && cand / 2 ^ (128 - p.bits) == p.network / 2 ^ (128 - p.bits)

/-- The scan of `Allocate` from `cand` upwards, for at most `fuel` addresses. -/
def AddrPool6.scan (p : AddrPool6) : ℕ → ℕ → Option ℕ
  | 0, _ => none
  | fuel + 1, cand =>
    if p.contains cand then
      if cand ∈ p.used then p.scan fuel (cand + 1) else some cand
    else none

/-- `Allocate`.  Every address the scan passes is in use, so one address more than are in use is
as far as it can get. -/
def AddrPool6.allocate (p : AddrPool6) : Option (ℕ × AddrPool6) :=
  match p.scan (p.used.card + 1) p.next with
  | none => none
  | some cand => some (cand, { p with used := insert cand p.used, next := cand + 1 })

/-- `ip.Less(p.next)`.  No address is less than the zero `Addr`. -/
def AddrPool6.below (p : AddrPool6) (ip : ℕ) : Bool := decide (p.next < 2 ^ 128 ∧ ip < p.next)

def AddrPool6.release (p : AddrPool6) (ip : ℕ) : AddrPool6 :=
  if ip ∈ p.used then
    { p with used := p.used.erase ip, next := if p.below ip then ip else p.next }
  else p

variable {p : AddrPool6}

open AddrPool6

/-- What a scan finds is a free address of the prefix, at or above where it started. -/
lemma AddrPool6.scan_some : ∀ {fuel cand v : ℕ}, p.scan fuel cand = some v →
      cand ≤ v ∧ p.contains v = true ∧ v ∉ p.used
  | 0, _, _, h => absurd h (by simp [scan])
  | fuel + 1, cand, v, h => by
    rw [scan] at h
    split_ifs at h with hc hu
    · obtain ⟨h1, h2⟩ := scan_some h
      exact ⟨by omega, h2⟩
    · obtain rfl := some.inj h
      exact ⟨le_rfl, hc, hu⟩

/-- A scan that stops without an address has met the end of the prefix or `fuel` addresses that
are all in use. -/
lemma AddrPool6.scan_none : ∀ {fuel cand : ℕ}, p.scan fuel cand = none →
      (∃ k < fuel, p.contains (cand + k) = false ∧ ∀ j < k, cand + j ∈ p.used) ∨
        ∀ j < fuel, cand + j ∈ p.used
  | 0, _, _ => Or.inr fun j hj => absurd hj (Nat.not_lt_zero j)
  | fuel + 1, cand, h => by
    rw [scan] at h
    split_ifs at h with hc hu
    · have hshift : ∀ j, cand + 1 + j = cand + (j + 1) := fun j => by omega
      have hcons : ∀ n, (∀ j < n, cand + 1 + j ∈ p.used) → ∀ j < n + 1, cand + j ∈ p.used := by
        intro n hn j hj
        cases j with
        | zero => exact hu
        | succ j => rw [← hshift]; exact hn j (by omega)
      rcases scan_none h with ⟨k, hk, hend, hall⟩ | hall
      · exact Or.inl ⟨k + 1, by omega, by rw [← hshift]; exact hend, hcons k hall⟩
      · exact Or.inr (hcons fuel hall)
    · exact Or.inl ⟨0, by omega, by simpa using hc, fun j hj => absurd hj (Nat.not_lt_zero j)⟩

/-- **The scan is not cut short.**  `Allocate` fails only where the addresses from the scan mark to
the end of the prefix are all in use. -/
lemma AddrPool6.allocate_none (h : p.allocate = none) :
    ∃ k, p.contains (p.next + k) = false ∧ ∀ j < k, p.next + j ∈ p.used := by
  have hscan : p.scan (p.used.card + 1) p.next = none := by
    unfold allocate at h
    split at h
    · assumption
    · exact absurd h (by simp)
  rcases scan_none hscan with ⟨k, -, hend, hall⟩ | hall
  · exact ⟨k, hend, hall⟩
  -- more different addresses in use than there are addresses in use
  have hsub : (Finset.range (p.used.card + 1)).image (p.next + ·) ⊆ p.used := by
    intro v hv
    obtain ⟨j, hj, rfl⟩ := Finset.mem_image.mp hv
    exact hall j (Finset.mem_range.mp hj)
  have hcard := Finset.card_le_card hsub
  rw [Finset.card_image_of_injective _ (fun a b hab => Nat.add_left_cancel hab),
    Finset.card_range] at hcard
  omega

lemma AddrPool6.release_used (p : AddrPool6) (ip : ℕ) : (p.release ip).used = p.used.erase ip := by
  by_cases h : ip ∈ p.used
  · rw [release, if_pos h]
  · rw [release, if_neg h]
    exact (Finset.erase_eq_of_notMem h).symm

/-! ## The lowest free address -/

/-- `Prefix.Masked`. -/
def maskedAddr (addr bits : ℕ) : ℕ := addr / 2 ^ (128 - bits) * 2 ^ (128 - bits)

/-- `NewAddrPool6` on the address and the length of a parsed prefix; IPv4-mapped ones are not
accepted. -/
def openAddrPool6 (addr bits : ℕ) : Option AddrPool6 :=
  if maskedAddr addr bits / 2 ^ 32 = 0xffff then none
  else newAddrPool6 (maskedAddr addr bits) bits

/-- An address of the prefix above the gateway. -/
def AddrPool6.Assignable (p : AddrPool6) (v : ℕ) : Prop := p.contains v = true ∧ p.network + 1 < v

instance (p : AddrPool6) (v : ℕ) : Decidable (p.Assignable v) := inferInstanceAs (Decidable (_ ∧ _))

/-- A pool, and the addresses that have been handed out and not been returned since. -/
structure Holding where
  pool : AddrPool6
  held : Finset ℕ

/-- The calls.  `none` is an `Addr` that no allocation returns: invalid, IPv4 or with a zone. -/
inductive PoolCall
  | allocate
  | release (ip : Option ℕ)
  deriving DecidableEq

def Holding.step (s : Holding) : PoolCall → Holding
  | .allocate =>
    match s.pool.allocate with
    | none => s
    | some (v, pool) => ⟨pool, insert v s.held⟩
  | .release none => s
  | .release (some ip) => ⟨s.pool.release ip, s.held.erase ip⟩

/-- **What an allocation is for**: the lowest assignable address that nobody holds, and a failure
only if there is none. -/
def Holding.Exact (s : Holding) : Prop :=
  match s.pool.allocate with
  | some (v, _) =>
    s.pool.Assignable v ∧ v ∉ s.held ∧ ∀ w < v, s.pool.Assignable w → w ∈ s.held
  | none => ∀ w, s.pool.Assignable w → w ∈ s.held

/-- A release can lower the mark. -/
def Holding.Lowers (s : Holding) : PoolCall → Prop
  | .release (some ip) => ip ∈ s.held → s.pool.next < 2 ^ 128
  | _ => True

instance (s : Holding) (call : PoolCall) : Decidable (s.Lowers call) := by
  unfold Holding.Lowers
  split <;> infer_instance

/-- The invariant: everything below the mark is in use. -/
structure Holding.Inv (s : Holding) : Prop where
  used : s.pool.used = s.held
  mark : s.pool.network + 1 < s.pool.next
  assigned : ∀ v ∈ s.held, s.pool.network + 1 < v
  below : ∀ w, s.pool.Assignable w → w < s.pool.next → w ∈ s.held

/-- What a scan passes is in use. -/
lemma AddrPool6.scan_passes :
    ∀ {fuel cand v : ℕ}, p.scan fuel cand = some v → ∀ w, cand ≤ w → w < v → w ∈ p.used
  | 0, _, _, h => absurd h (by simp [scan])
  | fuel + 1, cand, v, h => by
    rw [scan] at h
    intro w hle hlt
    split_ifs at h with hc hu
    · rcases Nat.eq_or_lt_of_le hle with rfl | hgt
      · exact hu
      · exact scan_passes h w hgt hlt
    · obtain rfl := some.inj h
      omega

lemma AddrPool6.allocate_eq {q : AddrPool6} (h : p.allocate = some (v, q)) :
    p.next ≤ v ∧ p.contains v = true ∧ v ∉ p.used ∧ (∀ w, p.next ≤ w → w < v → w ∈ p.used) ∧
      q = { p with used := insert v p.used, next := v + 1 } := by
  unfold allocate at h
  split at h
  · exact absurd h (by simp)
  · rename_i cand hscan
    obtain ⟨rfl, rfl⟩ := Prod.mk.inj (some.inj h)
    obtain ⟨hle, hc, hu⟩ := scan_some hscan
    exact ⟨hle, hc, hu, scan_passes hscan, rfl⟩

/-- **One allocation.**  The address handed out was free and is used afterwards. -/
lemma AddrPool6.allocate_spec {q : AddrPool6} (h : p.allocate = some (v, q)) :
    v < 2 ^ 128 ∧ v ∉ p.used ∧ q.used = insert v p.used := by
  obtain ⟨-, hc, hfree, -, rfl⟩ := allocate_eq h
  simp only [contains, Bool.and_eq_true, decide_eq_true_eq] at hc
  exact ⟨hc.1, hfree, rfl⟩

/-- A prefix has no gaps. -/
lemma AddrPool6.contains_between {u w : ℕ} (hu : p.network ≤ u) (huw : u ≤ w)
    (hw : p.contains w = true) : p.contains u = true := by
  simp only [contains, Bool.and_eq_true, decide_eq_true_eq, beq_iff_eq] at hw ⊢
  refine ⟨lt_of_le_of_lt huw hw.1, le_antisymm ?_ ?_⟩
  · rw [← hw.2]
    exact Nat.div_le_div_right huw
  · exact Nat.div_le_div_right hu

section Exactness

variable {s : Holding}

/-- **The step, what it returns.** -/
lemma Holding.Inv.exact (h : s.Inv) : s.Exact := by
  unfold Holding.Exact
  split
  · rename_i v q halloc
    obtain ⟨hle, hc, hfree, hpassed, -⟩ := allocate_eq halloc
    have hmark := h.mark
    refine ⟨⟨hc, by omega⟩, by rw [← h.used]; exact hfree, fun w hw hassign => ?_⟩
    by_cases hnext : w < s.pool.next
    · exact h.below w hassign hnext
    · rw [← h.used]
      exact hpassed w (by omega) hw
  · rename_i halloc
    obtain ⟨k, hend, hall⟩ := allocate_none halloc
    intro w hassign
    by_cases hnext : w < s.pool.next
    · exact h.below w hassign hnext
    have hmark := h.mark
    by_cases hk : w < s.pool.next + k
    · rw [← h.used, show w = s.pool.next + (w - s.pool.next) by omega]
      exact hall _ (by omega)
    · have := contains_between (u := s.pool.next + k) (by omega) (by omega) hassign.1
      rw [hend] at this
      cases this

/-- **The step, what it keeps.** -/
lemma Holding.Inv.step (h : s.Inv) {call : PoolCall} (hlow : s.Lowers call) :
    (s.step call).Inv := by
  cases call with
  | allocate =>
    cases halloc : s.pool.allocate with
    | none => simpa only [Holding.step, halloc] using h
    | some r =>
      obtain ⟨v, q⟩ := r
      obtain ⟨hle, hc, hfree, hpassed, rfl⟩ := allocate_eq halloc
      simp only [Holding.step, halloc]
      have hmark := h.mark
      refine ⟨congrArg (insert v) h.used, by dsimp only; omega, ?_, ?_⟩
      · intro w hw
        rcases Finset.mem_insert.mp hw with rfl | hw
        · dsimp only
          omega
        · exact h.assigned w hw
      · intro w hassign hlt
        have hassign' : s.pool.Assignable w := hassign
        have hlt' : w < v + 1 := hlt
        rcases Nat.lt_succ_iff_lt_or_eq.mp hlt' with hw | rfl
        · refine Finset.mem_insert_of_mem ?_
          by_cases hnext : w < s.pool.next
          · exact h.below w hassign' hnext
          · rw [← h.used]
            exact hpassed w (by omega) hw
        · exact Finset.mem_insert_self _ _
  | release ip =>
    cases ip with
    | none => exact h
    | some ip =>
      by_cases hin : ip ∈ s.pool.used
      · have hheld : ip ∈ s.held := h.used ▸ hin
        have hassigned := h.assigned ip hheld
        have hmark := h.mark
        have hnext := hlow hheld
        simp only [Holding.step, release, if_pos hin]
        refine ⟨congrArg (Finset.erase · ip) h.used, ?_,
          fun v hv => h.assigned v (Finset.mem_of_mem_erase hv), fun w hassign hlt => ?_⟩
        · dsimp only
          split_ifs <;> omega
        · have hlt' : w < if s.pool.below ip then ip else s.pool.next := hlt
          have hw : w < s.pool.next ∧ w ≠ ip := by
            split_ifs at hlt' with hbelow
            all_goals
              simp only [AddrPool6.below, decide_eq_true_eq] at hbelow
              omega
          exact Finset.mem_erase.mpr ⟨hw.2, h.below w hassign hw.1⟩
      · have hheld : ip ∉ s.held := h.used ▸ hin
        simpa only [Holding.step, release, if_neg hin,
          Finset.erase_eq_of_notMem hheld] using h

end Exactness

lemma openAddrPool6_inv {addr bits : ℕ} (h : openAddrPool6 addr bits = some p) :
    (⟨p, ∅⟩ : Holding).Inv := by
  unfold openAddrPool6 newAddrPool6 at h
  split_ifs at h
  obtain rfl := some.inj h
  refine ⟨rfl, Nat.lt_succ_self _, fun v hv => absurd hv (Finset.notMem_empty v), ?_⟩
  intro w hassign hlt
  have habove := hassign.2
  dsimp only at habove hlt
  omega

/-- **The lowest free address.**  In every run of calls in which no address is returned after the
mark has passed the end of the address space, an allocation is exact in every state. -/
theorem pool6_exact (addr bits : ℕ) (p : AddrPool6) (hp : openAddrPool6 addr bits = some p)
    (calls : List PoolCall) (hlow : Along Holding.step Holding.Lowers ⟨p, ∅⟩ calls) :
    Always Holding.step Holding.Exact ⟨p, ∅⟩ calls :=
  always_of_inv Holding.Inv (fun _ _ h hc => h.step hc) (fun _ h => h.exact) _ calls
    (openAddrPool6_inv hp) hlow

/-- The prefix ends before the address space does, and the mark is not beyond the prefix. -/
structure Holding.Inside (s : Holding) : Prop where
  aligned : s.pool.network % 2 ^ (128 - s.pool.bits) = 0
  fits : s.pool.network + 2 ^ (128 - s.pool.bits) < 2 ^ 128
  mark : s.pool.next ≤ s.pool.network + 2 ^ (128 - s.pool.bits)

lemma AddrPool6.lt_of_contains (ha : p.network % 2 ^ (128 - p.bits) = 0)
    (hv : p.contains v = true) :
    v < p.network + 2 ^ (128 - p.bits) := by
  simp only [contains, Bool.and_eq_true, decide_eq_true_eq, beq_iff_eq] at hv
  have hpos : 0 < 2 ^ (128 - p.bits) := Nat.two_pow_pos _
  have hnet := Nat.div_add_mod p.network (2 ^ (128 - p.bits))
  have hdiv := Nat.div_add_mod v (2 ^ (128 - p.bits))
  have hmod := Nat.mod_lt v hpos
  rw [hv.2] at hdiv
  omega

lemma Holding.Inside.step {s : Holding} (h : s.Inside) (call : PoolCall) :
    (s.step call).Inside := by
  cases call with
  | allocate =>
    cases halloc : s.pool.allocate with
    | none => simpa only [Holding.step, halloc] using h
    | some r =>
      obtain ⟨v, q⟩ := r
      obtain ⟨-, hc, -, -, rfl⟩ := allocate_eq halloc
      simp only [Holding.step, halloc]
      exact ⟨h.aligned, h.fits, lt_of_contains h.aligned hc⟩
  | release ip =>
    cases ip with
    | none => exact h
    | some ip =>
      simp only [Holding.step, release]
      split_ifs with hin hbelow
      · simp only [below, decide_eq_true_eq] at hbelow
        exact ⟨h.aligned, h.fits, hbelow.2.le.trans h.mark⟩
      · exact { h with }
      · exact { h with }

/-- **Any other prefix.**  If the prefix is not the last one of its length, an allocation is exact
in every state of every run. -/
theorem pool6_exact_inside (addr bits : ℕ) (p : AddrPool6) (hp : openAddrPool6 addr bits = some p)
    (hin : maskedAddr addr bits + 2 ^ (128 - bits) < 2 ^ 128) (calls : List PoolCall) :
    Always Holding.step Holding.Exact ⟨p, ∅⟩ calls := by
  have hinside : (⟨p, ∅⟩ : Holding).Inside := by
    unfold openAddrPool6 newAddrPool6 at hp
    split_ifs at hp with _ hbits
    obtain rfl := some.inj hp
    have htwo : 2 ^ 1 ≤ 2 ^ (128 - bits) := Nat.pow_le_pow_right (by decide) (by omega)
    exact ⟨Nat.mul_mod_left _ _, hin, Nat.add_le_add_left htwo _⟩
  refine always_of_inv Holding.Inv (fun _ _ h hc => h.step hc) (fun _ h => h.exact) _ calls
    (openAddrPool6_inv hp) ?_
  refine along_of_inv Holding.Inside (C := fun _ _ => True) (fun _ call h _ => h.step call)
    (fun s call h _ => ?_) _ calls hinside (along_true _ _ calls)
  have hmark := h.mark
  have hfits := h.fits
  unfold Holding.Lowers
  split
  · exact fun _ => by omega
  · trivial

/-- Two addresses and a gateway, at the given place. -/
def poolAt (network : ℕ) : AddrPool6 := ⟨network, 126, network + 2, ∅⟩

theorem pool6_exact_middle :
    openAddrPool6 (0xfd00 * 2 ^ 112) 126 = some (poolAt (0xfd00 * 2 ^ 112)) ∧
      Always Holding.step Holding.Exact ⟨poolAt (0xfd00 * 2 ^ 112), ∅⟩
        [.allocate, .allocate, .release (some (0xfd00 * 2 ^ 112 + 2)), .release none,
          .allocate] := by
  have hp : openAddrPool6 (0xfd00 * 2 ^ 112) 126 = some (poolAt (0xfd00 * 2 ^ 112)) := by
    decide
  exact ⟨hp, pool6_exact _ _ _ hp _ (by decide)⟩

theorem pool6_exact_inside_middle :
    Always Holding.step Holding.Exact ⟨poolAt (0xfd00 * 2 ^ 112), ∅⟩ [.allocate, .release none] :=
  pool6_exact_inside (0xfd00 * 2 ^ 112) 126 _ (by decide) (by decide) _

/-- Both addresses of a prefix are handed out, and the first is returned. -/
def returnedAt (network : ℕ) : Holding :=
  run Holding.step ⟨poolAt network, ∅⟩ [.allocate, .allocate, .release (some (network + 2))]

/-- **The end of the address space.**  In the last prefix, the address that was returned is free and
no allocation finds it. -/
theorem pool6_stuck : openAddrPool6 (2 ^ 128 - 4) 126 = some (poolAt (2 ^ 128 - 4)) ∧
      (returnedAt (2 ^ 128 - 4)).pool.allocate = none ∧
      (returnedAt (2 ^ 128 - 4)).pool.Assignable (2 ^ 128 - 2) ∧
      2 ^ 128 - 2 ∉ (returnedAt (2 ^ 128 - 4)).held ∧ ¬ (returnedAt (2 ^ 128 - 4)).Exact := by
  have hstuck : (returnedAt (2 ^ 128 - 4)).pool.allocate = none := by decide
  have hassign : (returnedAt (2 ^ 128 - 4)).pool.Assignable (2 ^ 128 - 2) := by decide
  have hfree : 2 ^ 128 - 2 ∉ (returnedAt (2 ^ 128 - 4)).held := by decide
  refine ⟨by decide, hstuck, hassign, hfree, fun hexact => ?_⟩
  simp only [Holding.Exact, hstuck] at hexact
  exact hfree (hexact _ hassign)

end Veepin
