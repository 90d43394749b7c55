import Mathlib.Data.List.GetD
import Veepin.Core.LongestMatch
import Veepin.Core.Runs

/-!
# The route table

The model of `dataplane/routes.go`: two binary tries, one for each family, whose nodes are never
written once they can be reached.  An update copies the nodes along one path and shares the rest, so
that a `RouteTable` that was copied earlier goes on reading the nodes it read before.

Nodes live on a heap and are reached through pointers, as in the source; this is what makes the
sharing a matter of proof.

* `withEntry_spec` — an update changes one entry and adds nodes only;
* `Represents` — a table stands for a map from masked prefixes to entries; `represents_step` keeps
  it;
* `route_table_longest_match` — the two halves of what the table is for.
-/

namespace Veepin

open List Function

/-! ## Addresses and prefixes -/

/-- `netip.Addr`, without zones. -/
inductive Addr
  | v4 (a : BitVec 32)
  | v6 (a : BitVec 128)
  deriving DecidableEq

def Addr.is4 : Addr → Bool
  | .v4 _ => true
  | .v6 _ => false

def Addr.bitLen : Addr → ℕ
  | .v4 _ => 32
  | .v6 _ => 128

/-- Bit `i`, from the most significant one. -/
def Addr.msb : Addr → ℕ → Bool
  | .v4 a, i => a.getMsbD i
  | .v6 a, i => a.getMsbD i

/-- The address with all but the first `n` bits cleared. -/
def Addr.masked : Addr → ℕ → Addr
  | .v4 a, n => .v4 (a &&& BitVec.allOnes 32 <<< (32 - n))
  | .v6 a, n => .v6 (a &&& BitVec.allOnes 128 <<< (128 - n))

structure AddrBits where
  hi : BitVec 64
  lo : BitVec 64
  deriving DecidableEq

def bitsOf : Addr → AddrBits
  | .v4 a => ⟨a.setWidth 64 <<< 32, 0⟩
  | .v6 a => ⟨(a >>> 64).setWidth 64, a.setWidth 64⟩

def AddrBits.bit (b : AddrBits) (i : ℕ) : Bool :=
  if i < 64 then (b.hi >>> (63 - i)).getLsbD 0 else (b.lo >>> (127 - i)).getLsbD 0

@[simp] lemma Addr.is4_masked (a : Addr) (n : ℕ) : (a.masked n).is4 = a.is4 := by cases a <;> rfl

@[simp] lemma Addr.bitLen_masked (a : Addr) (n : ℕ) : (a.masked n).bitLen = a.bitLen := by
  cases a <;> rfl

variable {a : Addr} {b : Addr}

lemma Addr.bitLen_eq (h : a.is4 = b.is4) : a.bitLen = b.bitLen := by
  cases a <;> cases b <;> first | rfl | cases h

lemma Addr.ext_msb (h : a.is4 = b.is4) (hbit : ∀ i < a.bitLen, a.msb i = b.msb i) :
    a = b := by
  cases a with
  | v4 a =>
    cases b with
    | v4 b => exact congrArg _ (BitVec.eq_of_getMsbD_eq hbit)
    | v6 b => cases h
  | v6 a =>
    cases b with
    | v4 b => cases h
    | v6 b => exact congrArg _ (BitVec.eq_of_getMsbD_eq hbit)

variable {n : ℕ} {p : Prefix}

lemma Addr.msb_masked (a : Addr) (hn : n ≤ a.bitLen) (i : ℕ) :
    (a.masked n).msb i = (a.msb i && decide (i < n)) := by
  have hshift : ∀ w, n ≤ w → (decide (i + (w - n) < w) = decide (i < n)) := by
    intro w hw
    rw [decide_eq_decide]
    omega
  cases a with
  | v4 a =>
    simp only [Addr.masked, Addr.msb, BitVec.getMsbD_and, BitVec.getMsbD_shiftLeft,
      BitVec.getMsbD_allOnes, hshift 32 hn]
  | v6 a =>
    simp only [Addr.masked, Addr.msb, BitVec.getMsbD_and, BitVec.getMsbD_shiftLeft,
      BitVec.getMsbD_allOnes, hshift 128 hn]

lemma bit_bitsOf {i : ℕ} (h : i < a.bitLen) : (bitsOf a).bit i = a.msb i := by
  cases a with
  | v4 a =>
    have h : i < 32 := h
    have h64 : i < 64 := by omega
    have hshift : 63 - i - 32 = 31 - i := by omega
    have hlow : ¬ 63 - i < 32 := by omega
    have hwide : 63 - i < 64 := by omega
    simp [bitsOf, AddrBits.bit, Addr.msb, BitVec.getMsbD, h, h64, hshift, hlow, hwide]
  | v6 a =>
    have h : i < 128 := h
    unfold bitsOf AddrBits.bit Addr.msb
    split_ifs with h64
    · have hshift : 64 + (63 - i) = 127 - i := by omega
      have hwide : 63 - i < 64 := by omega
      simp [BitVec.getMsbD, h, hshift, hwide]
    · have hlast : 127 - i < 64 := by omega
      simp [BitVec.getMsbD, h, hlast]

/-- `netip.Prefix`, a valid one. -/
structure Prefix where
  addr : Addr
  bits : ℕ
  le : bits ≤ addr.bitLen
  deriving DecidableEq

def Prefix.masked (p : Prefix) : Prefix :=
  ⟨p.addr.masked p.bits, p.bits, by rw [Addr.bitLen_masked]; exact p.le⟩

/-- The address is of the family of the prefix and begins with its bits. -/
def Prefix.Contains (p : Prefix) (a : Addr) : Prop :=
  p.addr.is4 = a.is4 ∧ ∀ i < p.bits, a.msb i = p.addr.msb i

/-- The first `n` bits of an address, from bit `i` on. -/
def AddrBits.path (b : AddrBits) : ℕ → ℕ → List Bool
  | _, 0 => []
  | i, n + 1 => b.bit i :: b.path (i + 1) n

/-- The way to a prefix in the trie of its family. -/
def Prefix.path (p : Prefix) : List Bool := (bitsOf p.addr).path 0 p.bits

@[simp] lemma AddrBits.length_path (b : AddrBits) : ∀ i n, (b.path i n).length = n
  | _, 0 => rfl
  | i, n + 1 => congrArg (· + 1) (b.length_path (i + 1) n)

lemma AddrBits.take_path (b : AddrBits) : ∀ (i n k : ℕ), k ≤ n → (b.path i n).take k = b.path i k
  | _, _, 0, _ => by rw [take_zero]; rfl
  | _, 0, k + 1, h => absurd h (by omega)
  | i, n + 1, k + 1, h => by
    rw [AddrBits.path, take_succ_cons, b.take_path (i + 1) n k (by omega)]
    rfl

lemma AddrBits.path_eq_iff {b b' : AddrBits} : ∀ {i n : ℕ}, b.path i n = b'.path i n ↔
    ∀ k < n, b.bit (i + k) = b'.bit (i + k)
  | _, 0 => by simp [AddrBits.path]
  | i, n + 1 => by
    rw [AddrBits.path, AddrBits.path, cons.injEq, AddrBits.path_eq_iff]
    constructor
    · rintro ⟨h0, h⟩ k hk
      cases k with
      | zero => exact h0
      | succ k =>
        have := h k (by omega)
        rwa [Nat.add_assoc, Nat.add_comm 1 k] at this
    · refine fun h => ⟨h 0 (by omega), fun k hk => ?_⟩
      have := h (k + 1) (by omega)
      rwa [Nat.add_comm k 1, ← Nat.add_assoc] at this

/-- The paths of two addresses of one family agree as far as their bits do. -/
lemma path_bitsOf_eq_iff (h : a.is4 = b.is4) (hn : n ≤ a.bitLen) :
    (bitsOf a).path 0 n = (bitsOf b).path 0 n ↔ ∀ i < n, a.msb i = b.msb i := by
  rw [AddrBits.path_eq_iff]
  refine forall₂_congr fun i hi => ?_
  rw [Nat.zero_add, bit_bitsOf (by omega), bit_bitsOf (by rw [← Addr.bitLen_eq h]; omega)]

lemma Prefix.masked_masked (p : Prefix) : p.masked.masked = p.masked := by
  have haddr : (p.addr.masked p.bits).masked p.bits = p.addr.masked p.bits :=
    Addr.ext_msb (by simp) fun i _ => by
      rw [Addr.msb_masked _ (by rw [Addr.bitLen_masked]; exact p.le), Addr.msb_masked _ p.le,
        Bool.and_assoc, Bool.and_self]
  unfold Prefix.masked
  simp only [haddr]

/-- A masked prefix is known by its family and its path. -/
lemma Prefix.eq_of_path {q : Prefix} (hp : p.masked = p) (hq : q.masked = q)
    (hfam : p.addr.is4 = q.addr.is4) (hpath : p.path = q.path) : p = q := by
  have hbits : p.bits = q.bits := by
    have := congrArg length hpath
    simpa [Prefix.path] using this
  have hmsb : ∀ r : Prefix, r.masked = r →
      ∀ i, r.addr.msb i = (r.addr.msb i && decide (i < r.bits)) :=
    fun r hr i => by
      conv_lhs => rw [← hr]
      exact Addr.msb_masked _ r.le i
  have haddr : p.addr = q.addr := by
    refine Addr.ext_msb hfam fun i _ => ?_
    by_cases hi : i < p.bits
    · unfold Prefix.path at hpath
      rw [← hbits] at hpath
      exact (path_bitsOf_eq_iff hfam p.le).mp hpath i hi
    · rw [hmsb p hp i, hmsb q hq i, decide_eq_false hi, decide_eq_false (hbits ▸ hi)]
      simp
  obtain ⟨a, n, _⟩ := p
  obtain ⟨a', n', _⟩ := q
  obtain rfl : a = a' := haddr
  obtain rfl : n = n' := hbits
  rfl

/-! ## Nodes -/

variable {V T : Type*} [Inhabited V]

/-- `routeNode`: the children are pointers. -/
structure RouteNode (V : Type*) where
  child : Bool → Option ℕ
  val : V
  set : Bool

/-- The nodes allocated so far; a pointer is an index. -/
abbrev Heap (V : Type*) := List (RouteNode V)

/-- The zero node. -/
def RouteNode.zero : RouteNode V := ⟨fun _ => none, default, false⟩

/-- The node behind a pointer, the zero node behind `nil`. -/
def deref (h : Heap V) : Option ℕ → RouteNode V
  | none => .zero
  | some n => h.getD n .zero

/-- `withEntry`, with `left` bits to go from `depth`. -/
def withEntry (a : AddrBits) (v : V) (set : Bool) : ℕ → ℕ → Heap V → Option ℕ → Heap V × ℕ
  | 0, _, h, n =>
    (h ++ [{ deref h n with val := if set then v else default, set := set }], h.length)
  | left + 1, depth, h, n =>
    let cp := deref h n
    let b := a.bit depth
    let sub := withEntry a v set left (depth + 1) h (cp.child b)
    (sub.1 ++ [{ cp with child := Function.update cp.child b (some sub.2) }], sub.1.length)

/-- The loop of `node`. -/
def walk (h : Heap V) (a : AddrBits) : ℕ → ℕ → Option ℕ → Option ℕ
  | 0, _, n => n
  | _ + 1, _, none => none
  | left + 1, i, some n => walk h a left (i + 1) ((deref h (some n)).child (a.bit i))

/-- The loop of `lookup`, with `left` bits to go from bit `i`. -/
def lookupFrom (h : Heap V) (a : AddrBits) : ℕ → ℕ → Option ℕ → V → V
  | _, _, none, best => best
  | 0, _, some n, best =>
    if (deref h (some n)).set then (deref h (some n)).val else best
  | left + 1, i, some n, best =>
    lookupFrom h a left (i + 1) ((deref h (some n)).child (a.bit i))
      (if (deref h (some n)).set then (deref h (some n)).val else best)

/-! ## Tables -/

structure RouteTable where
  root4 : Option ℕ := none
  root6 : Option ℕ := none
  deriving DecidableEq, Repr

namespace RouteTable

def rootFor (t : RouteTable) (a : Addr) : Option ℕ := if a.is4 then t.root4 else t.root6

/-- The assignment through `rootFor`. -/
def setRoot (t : RouteTable) (a : Addr) (n : ℕ) : RouteTable :=
  if a.is4 then { t with root4 := some n } else { t with root6 := some n }

/-- The table with the entry of `p` set or cleared. -/
def write (t : RouteTable) (h : Heap V) (p : Prefix) (v : V) (set : Bool) :
    Heap V × RouteTable :=
  let new := withEntry (bitsOf p.addr) v set p.bits 0 h (t.rootFor p.addr)
  (new.1, t.setRoot p.addr new.2)

def node (t : RouteTable) (h : Heap V) (p : Prefix) : Option ℕ :=
  walk h (bitsOf p.addr) p.bits 0 (t.rootFor p.addr)

def insert (t : RouteTable) (h : Heap V) (p : Prefix) (v : V) : Heap V × RouteTable :=
  t.write h p.masked v true

def remove (t : RouteTable) (h : Heap V) (p : Prefix) : Heap V × RouteTable :=
  if (t.node h p.masked).isSome ∧ (deref h (t.node h p.masked)).set then
    t.write h p.masked default false
  else (h, t)

def removeOwned [DecidableEq T] (owner : V → T) (t : RouteTable) (h : Heap V)
    (p : Prefix) (o : T) : Heap V × RouteTable :=
  if (t.node h p.masked).isSome ∧ (deref h (t.node h p.masked)).set ∧
      owner (deref h (t.node h p.masked)).val = o then
    t.write h p.masked default false
  else (h, t)

/-- `lookup`; the zero entry stands for none. -/
def lookup (t : RouteTable) (h : Heap V) (a : Addr) : V :=
  lookupFrom h (bitsOf a) a.bitLen 0 (t.rootFor a) default

end RouteTable

/-! ## Entries -/

/-- What the trie at a pointer holds at the end of a path. -/
def entry (h : Heap V) : Option ℕ → List Bool → Option V
  | n, [] => if (deref h n).set then some (deref h n).val else none
  | n, b :: q => entry h ((deref h n).child b) q

/-- The pointer is to an allocated node. -/
def Points (h : Heap V) (n : Option ℕ) : Prop := ∀ k, n = some k → k < h.length

/-- Every child is an allocated node. -/
def Closed (h : Heap V) : Prop := ∀ node ∈ h, ∀ b, Points h (node.child b)

omit [Inhabited V] in
lemma Points.append {h : Heap V} {n : Option ℕ} (hn : Points h n) (e : Heap V) :
    Points (h ++ e) n := fun k hk => by
  have := hn k hk
  rw [length_append]
  omega

variable {h : Heap V}

lemma deref_append {n : Option ℕ} (hn : Points h n) (e : Heap V) :
    deref (h ++ e) n = deref h n := by
  cases n with
  | none => rfl
  | some k => exact getD_append _ _ _ _ (hn k rfl)

lemma points_child (hc : Closed h) (n : Option ℕ) (b : Bool) : Points h ((deref h n).child b) := by
  cases n with
  | none => exact nofun
  | some k =>
    by_cases hk : k < h.length
    · have hmem : deref h (some k) ∈ h := by
        rw [deref, getD_eq_getElem _ _ hk]
        exact getElem_mem hk
      exact hc _ hmem b
    · rw [deref, getD_eq_default _ _ (by omega)]
      exact nofun

/-- **Nodes are never written**: with more of them, a trie holds what it held. -/
lemma entry_append (hc : Closed h) (e : Heap V) :
    ∀ {q : List Bool} {n : Option ℕ}, Points h n → entry (h ++ e) n q = entry h n q
  | [], n, hn => by rw [entry, entry, deref_append hn]
  | b :: q, n, hn => by
    rw [entry, entry, deref_append hn, entry_append hc e (points_child hc n b)]

lemma entry_none (h : Heap V) : ∀ q, entry h none q = none
  | [] => rfl
  | _ :: q => entry_none h q

omit [Inhabited V] in
lemma Closed.concat (hc : Closed h) {node : RouteNode V} (hnode : ∀ b, Points h (node.child b)) :
    Closed (h ++ [node]) := by
  intro x hx b
  rcases mem_append.mp hx with hx | hx
  · exact (hc x hx b).append _
  · rw [mem_singleton.mp hx]
    exact (hnode b).append _

lemma deref_last (h : Heap V) (node : RouteNode V) :
    deref (h ++ [node]) (some h.length) = node := by
  simp [deref]

/-- What `withEntry` leads to. -/
structure Written (h : Heap V) (n : Option ℕ) (path : List Bool) (new : Option V)
    (out : Heap V × ℕ) : Prop where
  grown : ∃ e, out.1 = h ++ e
  closed : Closed out.1
  points : Points out.1 (some out.2)
  entry : ∀ q, entry out.1 (some out.2) q = if q = path then new else entry h n q

/-- **The update copies one path.** -/
lemma withEntry_spec (a : AddrBits) (v : V) (set : Bool) (hc : Closed h) :
    ∀ (left depth : ℕ) {n : Option ℕ}, Points h n →
      Written h n (a.path depth left) (if set then some v else none)
        (withEntry a v set left depth h n)
  | 0, depth, n, hn => by
    refine ⟨⟨_, rfl⟩, hc.concat fun b => points_child hc n b, ?_, fun q => ?_⟩
    · rintro _ ⟨⟩
      simp [withEntry]
    cases q with
    | nil => cases set <;> simp [withEntry, entry, deref_last, AddrBits.path]
    | cons b q =>
      have hsame := entry_append hc
        [{ deref h n with val := if set then v else default, set := set }]
        (q := q) (points_child hc n b)
      simpa [withEntry, entry, deref_last, AddrBits.path] using hsame
  | left + 1, depth, n, hn => by
    have ih := withEntry_spec a v set hc left (depth + 1) (points_child hc n (a.bit depth))
    rw [withEntry]
    generalize withEntry a v set left (depth + 1) h ((deref h n).child (a.bit depth)) = sub at ih
    obtain ⟨⟨e, he⟩, hclosed, hpoints, hentry⟩ := ih
    have hnew : ∀ b, Points sub.1 (update (deref h n).child (a.bit depth) (some sub.2) b) := by
      intro b
      by_cases hb : b = a.bit depth
      · rw [hb, update_self]
        exact hpoints
      · rw [update_of_ne hb, he]
        exact (points_child hc n b).append e
    refine ⟨⟨e ++ [_], by rw [he, append_assoc]⟩, hclosed.concat hnew, ?_, fun q => ?_⟩
    · rintro _ ⟨⟩
      simp
    cases q with
    | nil => simp [entry, deref_last, AddrBits.path]
    | cons b q =>
      rw [entry, deref_last]
      simp only
      rw [entry_append hclosed _ (hnew b), AddrBits.path]
      by_cases hb : b = a.bit depth
      · rw [hb, update_self, hentry]
        simp [entry]
      · rw [update_of_ne hb, he, entry_append hc e (points_child hc n b)]
        simp [hb, entry]

/-- `node` finds the node that holds the entry. -/
lemma entry_walk (h : Heap V) (a : AddrBits) :
    ∀ (left i : ℕ) (n : Option ℕ), entry h n (a.path i left) =
      if (walk h a left i n).isSome ∧ (deref h (walk h a left i n)).set then
        some (deref h (walk h a left i n)).val else none
  | 0, i, none => rfl
  | 0, i, some n => by simp [AddrBits.path, entry, walk]
  | left + 1, i, none => by rw [entry_none]; rfl
  | left + 1, i, some n => entry_walk h a left (i + 1) _

/-- `lookup` finds the longest match. -/
lemma lookupFrom_eq (h : Heap V) (a : AddrBits) : ∀ (left i : ℕ) (n : Option ℕ) (best : V),
      lookupFrom h a left i n best = (longest (entry h n) (a.path i left)).getD best
  | 0, i, none, best => rfl
  | 0, i, some n, best => by
    rw [lookupFrom, AddrBits.path, longest, entry]
    split_ifs <;> rfl
  | left + 1, i, none, best => by
    have hnone : longest (entry h none) (a.path i (left + 1)) = none :=
      longest_eq_none_iff.mpr fun k _ => entry_none h _
    rw [hnone]
    rfl
  | left + 1, i, some n, best => by
    have ih := lookupFrom_eq h a left (i + 1) ((deref h (some n)).child (a.bit i))
      (if (deref h (some n)).set then (deref h (some n)).val else best)
    have hroot : entry h (some n) [] =
        if (deref h (some n)).set then some (deref h (some n)).val else none := rfl
    have hsub : (fun q => entry h (some n) (a.bit i :: q)) =
        entry h ((deref h (some n)).child (a.bit i)) := rfl
    rw [lookupFrom, ih, AddrBits.path, longest, hroot, hsub]
    cases longest (entry h ((deref h (some n)).child (a.bit i))) (a.path (i + 1) left) with
    | some v => rfl
    | none => split_ifs <;> rfl

/-! ## The table as a map -/

variable {s : Heap V × RouteTable} {M : Prefix → Option V}

section Map

variable [DecidableEq T] (owner : V → T)

/-- The updates. -/
inductive RouteOp (V T : Type*)
  | insert (p : Prefix) (v : V)
  | remove (p : Prefix)
  | removeOwned (p : Prefix) (o : T)

/-- An update of the table. -/
def RouteOp.step (s : Heap V × RouteTable) : RouteOp V T → Heap V × RouteTable
  | .insert p v => s.2.insert s.1 p v
  | .remove p => s.2.remove s.1 p
  | .removeOwned p o => s.2.removeOwned owner s.1 p o

/-- An update of a map from masked prefixes to entries. -/
def RouteOp.apply (M : Prefix → Option V) : RouteOp V T → Prefix → Option V
  | .insert p v => Function.update M p.masked (some v)
  | .remove p => Function.update M p.masked none
  | .removeOwned p o =>
    if (M p.masked).any (owner · = o) then Function.update M p.masked none else M

/-- The table stands for the map `M`. -/
structure Represents (s : Heap V × RouteTable) (M : Prefix → Option V) : Prop where
  closed : Closed s.1
  points : ∀ a, Points s.1 (s.2.rootFor a)
  entry : ∀ p : Prefix, p.masked = p → entry s.1 (s.2.rootFor p.addr) p.path = M p
  masked : ∀ p : Prefix, p.masked ≠ p → M p = none

open RouteTable

lemma RouteTable.rootFor_setRoot (t : RouteTable) (a b : Addr) (n : ℕ) :
    (t.setRoot a n).rootFor b = if a.is4 = b.is4 then some n else t.rootFor b := by
  unfold setRoot rootFor
  cases a.is4 <;> cases b.is4 <;> rfl

/-- A write is an update of the map. -/
lemma Represents.write (h : Represents s M) (p : Prefix) (v : V) (set : Bool) :
    Represents (s.2.write s.1 p.masked v set)
      (Function.update M p.masked (if set then some v else none)) := by
  obtain ⟨⟨e, he⟩, hclosed, hpoints, hentry⟩ :=
    withEntry_spec (bitsOf p.masked.addr) v set h.closed p.masked.bits 0 (h.points p.masked.addr)
  unfold RouteTable.write
  generalize withEntry (bitsOf p.masked.addr) v set p.masked.bits 0 s.1
    (s.2.rootFor p.masked.addr) = out at *
  refine ⟨hclosed, fun a => ?_, fun q hq => ?_, fun q hq => ?_⟩
  · rw [rootFor_setRoot]
    split_ifs
    · exact hpoints
    · exact he ▸ (h.points a).append e
  · simp only [rootFor_setRoot]
    by_cases hqp : q = p.masked
    · rw [hqp, if_pos rfl, update_self, hentry]
      exact if_pos rfl
    rw [update_of_ne hqp, ← h.entry q hq]
    split_ifs with hfam
    · have hne : q.path ≠ (bitsOf p.masked.addr).path 0 p.masked.bits := fun heq =>
        hqp (Prefix.eq_of_path hq p.masked_masked hfam.symm heq)
      have hroot : s.2.rootFor p.masked.addr = s.2.rootFor q.addr := by
        rw [rootFor, rootFor, hfam]
      rw [hentry, if_neg hne, hroot]
    · rw [he, entry_append h.closed e (h.points q.addr)]
  · have hqp : q ≠ p.masked := fun heq => hq (by rw [heq, p.masked_masked])
    rw [update_of_ne hqp, h.masked q hq]

/-- The node of a masked prefix holds its entry. -/
lemma Represents.node (h : Represents s M) (p : Prefix) :
    M p.masked = if (s.2.node s.1 p.masked).isSome ∧ (deref s.1 (s.2.node s.1 p.masked)).set then
      some (deref s.1 (s.2.node s.1 p.masked)).val else none := by
  rw [← h.entry p.masked p.masked_masked]
  exact entry_walk s.1 _ _ 0 _

lemma represents_step (h : Represents s M) (op : RouteOp V T) :
    Represents (op.step owner s) (op.apply owner M) := by
  cases op with
  | insert p v => exact h.write p v true
  | remove p =>
    have hnode := h.node p
    simp only [RouteOp.step, RouteOp.apply, remove]
    split_ifs at hnode ⊢ with hset
    · exact h.write p default false
    · rw [← hnode, update_eq_self]
      exact h
  | removeOwned p o =>
    have hnode := h.node p
    simp only [RouteOp.step, RouteOp.apply, removeOwned]
    by_cases hset : (s.2.node s.1 p.masked).isSome ∧ (deref s.1 (s.2.node s.1 p.masked)).set
    · rw [if_pos hset] at hnode
      by_cases hown : owner (deref s.1 (s.2.node s.1 p.masked)).val = o
      · rw [if_pos ⟨hset.1, hset.2, hown⟩, hnode, if_pos (by simpa using hown)]
        exact h.write p default false
      · rw [if_neg fun hc => hown hc.2.2, hnode, if_neg (by simpa using hown)]
        exact h
    · rw [if_neg hset] at hnode
      rw [if_neg fun hc => hset ⟨hc.1, hc.2.1⟩, hnode, if_neg (by simp)]
      exact h

lemma represents_empty : Represents (([], {}) : Heap V × RouteTable) fun _ => none :=
  ⟨nofun, fun a k hk => by simp [rootFor] at hk, fun p _ => by
    simp [rootFor, entry_none], fun _ _ => rfl⟩

lemma represents_run (ops : List (RouteOp V T)) :
    Represents (run (fun s op => RouteOp.step owner s op) (([], {}) : Heap V × RouteTable) ops)
      (run (fun M op => RouteOp.apply owner M op) (fun _ => none) ops) := by
  induction ops using reverseRecOn with
  | nil => exact represents_empty
  | append_singleton ops op ih =>
    rw [run_concat, run_concat]
    exact represents_step owner ih op

/-! ## Longest match, and copies that last -/

/-- The most specific of the prefixes that have an entry and contain the address. -/
structure LongestMatch (M : Prefix → Option V) (a : Addr) (p : Prefix) : Prop where
  isSome : (M p).isSome
  contains : p.Contains a
  longest : ∀ q, (M q).isSome → q.Contains a → q.bits ≤ p.bits

/-- The prefix of the first `n` bits of an address. -/
def Addr.front (a : Addr) (n : ℕ) (hn : n ≤ a.bitLen) : Prefix := (⟨a, n, hn⟩ : Prefix).masked

lemma Addr.front_path (a : Addr) (hn : n ≤ a.bitLen) :
    (a.front n hn).path = (bitsOf a).path 0 n := by
  have hlen : n ≤ (a.masked n).bitLen := by rwa [Addr.bitLen_masked]
  refine (path_bitsOf_eq_iff (a.is4_masked n) hlen).mpr fun i hi => ?_
  rw [Addr.msb_masked a hn i, decide_eq_true hi, Bool.and_true]

lemma Addr.front_contains (a : Addr) (hn : n ≤ a.bitLen) : (a.front n hn).Contains a := by
  refine ⟨a.is4_masked n, fun i hi => ?_⟩
  rw [show (a.front n hn).addr = a.masked n from rfl, Addr.msb_masked a hn i,
    decide_eq_true (show i < n from hi), Bool.and_true]

/-- A masked prefix that contains an address consists of its first bits. -/
lemma Prefix.Contains.eq_front (h : p.Contains a) (hp : p.masked = p) :
    ∃ hn : p.bits ≤ a.bitLen, p = a.front p.bits hn := by
  have hn : p.bits ≤ a.bitLen := Addr.bitLen_eq h.1 ▸ p.le
  refine ⟨hn, Prefix.eq_of_path hp (Prefix.masked_masked _) ?_ ?_⟩
  · rw [h.1]
    exact (a.is4_masked _).symm
  · rw [Addr.front_path]
    exact (path_bitsOf_eq_iff h.1 p.le).mpr fun i hi => (h.2 i hi).symm

lemma Prefix.masked_contains (p : Prefix) (h : p.Contains a) : p.masked.Contains a := by
  refine ⟨(p.addr.is4_masked _).trans h.1, fun i hi => ?_⟩
  rw [show p.masked.addr = p.addr.masked p.bits from rfl, Addr.msb_masked _ p.le,
    decide_eq_true (show i < p.bits from hi), Bool.and_true]
  exact h.2 i hi

/-- Two masked prefixes of one length that contain an address are one. -/
lemma Prefix.eq_of_contains {q : Prefix} (hp : p.masked = p) (hq : q.masked = q)
    (hpa : p.Contains a) (hqa : q.Contains a) (hbits : p.bits = q.bits) : p = q := by
  obtain ⟨hn, heq⟩ := hpa.eq_front hp
  obtain ⟨hn', heq'⟩ := hqa.eq_front hq
  rw [heq, heq']
  simp only [hbits]

lemma Represents.masked_of_isSome (h : Represents s M) (hp : (M p).isSome) :
    p.masked = p := by
  by_contra hne
  rw [h.masked p hne] at hp
  cases hp

/-- **Lookup is longest-prefix match.** -/
lemma lookup_of_represents (h : Represents s M) (a : Addr) :
    (∃ p v, M p = some v ∧ LongestMatch M a p ∧ s.2.lookup s.1 a = v) ∨
      (∀ p : Prefix, p.Contains a → M p = none) ∧ s.2.lookup s.1 a = default := by
  have hat : ∀ i, (hi : i ≤ a.bitLen) →
      entry s.1 (s.2.rootFor a) (((bitsOf a).path 0 a.bitLen).take i) = M (a.front i hi) := by
    intro i hi
    have hroot : s.2.rootFor (a.front i hi).addr = s.2.rootFor a := by
      rw [rootFor, rootFor, show (a.front i hi).addr = a.masked i from rfl,
        Addr.is4_masked]
    rw [AddrBits.take_path _ _ _ _ hi, ← a.front_path hi, ← hroot]
    exact h.entry _ (Prefix.masked_masked _)
  rw [RouteTable.lookup, lookupFrom_eq]
  cases hl : longest (entry s.1 (s.2.rootFor a)) ((bitsOf a).path 0 a.bitLen) with
  | some v =>
    obtain ⟨i, hi, hv, hmax⟩ := longest_eq_some_iff.mp hl
    rw [AddrBits.length_path] at hi hmax
    rw [hat i hi] at hv
    refine .inl ⟨a.front i hi, v, hv, ⟨by rw [hv]; rfl, a.front_contains hi, fun q hq hqa => ?_⟩,
      rfl⟩
    obtain ⟨hn, heq⟩ := hqa.eq_front (h.masked_of_isSome hq)
    by_contra hlt
    have hnone := hmax q.bits hn (by simpa [Addr.front, Prefix.masked] using hlt)
    rw [hat q.bits hn, ← heq] at hnone
    rw [hnone] at hq
    cases hq
  | none =>
    refine .inr ⟨fun p hp => ?_, rfl⟩
    by_contra hne
    have hsome : (M p).isSome := Option.isSome_iff_ne_none.mpr hne
    obtain ⟨hn, heq⟩ := hp.eq_front (h.masked_of_isSome hsome)
    have hnone := longest_eq_none_iff.mp hl p.bits (by rw [AddrBits.length_path]; exact hn)
    rw [hat p.bits hn, ← heq] at hnone
    exact hne hnone

/-- Updates add nodes and change none. -/
lemma RouteOp.step_grown (s : Heap V × RouteTable) (h : Represents s M) (op : RouteOp V T) :
    ∃ e, (op.step owner s).1 = s.1 ++ e := by
  have hwrite : ∀ (p : Prefix) (v : V) (set : Bool), ∃ e, (s.2.write s.1 p v set).1 = s.1 ++ e :=
    fun p v set => (withEntry_spec (bitsOf p.addr) v set h.closed _ _ (h.points p.addr)).grown
  cases op with
  | insert p v => exact hwrite _ _ _
  | remove p =>
    simp only [RouteOp.step, RouteTable.remove]
    split_ifs
    · exact hwrite _ _ _
    · exact ⟨[], by simp⟩
  | removeOwned p o =>
    simp only [RouteOp.step, RouteTable.removeOwned]
    split_ifs
    · exact hwrite _ _ _
    · exact ⟨[], by simp⟩

/-- The heap of a run continues that of its first part. -/
lemma run_grown (pre post : List (RouteOp V T)) :
    ∃ e, (run (fun s op => RouteOp.step owner s op) (([], {}) : Heap V × RouteTable)
      (pre ++ post)).1 =
        (run (fun s op => RouteOp.step owner s op) (([], {}) : Heap V × RouteTable) pre).1 ++
          e := by
  induction post using reverseRecOn with
  | nil => exact ⟨[], by simp⟩
  | append_singleton post op ih =>
    obtain ⟨e, he⟩ := ih
    rw [← append_assoc, run_concat]
    obtain ⟨e', he'⟩ := RouteOp.step_grown owner _ (represents_run owner (pre ++ post)) op
    exact ⟨e ++ e', by rw [he', he, append_assoc]⟩

/-- **The route table is longest-prefix match, and its copies last.**  After any updates, a lookup
returns the entry of the most specific prefix of the map that contains the address, or the zero
entry if there is none; and a table that was copied before some of the updates answers as it did
then. -/
theorem route_table_longest_match (ops : List (RouteOp V T)) : (∀ a : Addr,
      let s := run (fun s op => RouteOp.step owner s op) (([], {}) : Heap V × RouteTable) ops
      let M := run (fun M op => RouteOp.apply owner M op) (fun _ => none) ops
      (∃ p v, M p = some v ∧ LongestMatch M a p ∧ s.2.lookup s.1 a = v) ∨
        (∀ p : Prefix, p.Contains a → M p = none) ∧ s.2.lookup s.1 a = default) ∧
    ∀ pre post, ops = pre ++ post → ∀ a : Addr,
      let copied := run (fun s op => RouteOp.step owner s op) (([], {}) : Heap V × RouteTable) pre
      let now := run (fun s op => RouteOp.step owner s op) (([], {}) : Heap V × RouteTable) ops
      copied.2.lookup now.1 a = copied.2.lookup copied.1 a := by
  refine ⟨fun a => lookup_of_represents (represents_run owner ops) a, ?_⟩
  rintro pre post rfl a copied now
  have hrep := represents_run owner pre
  obtain ⟨e, he⟩ := run_grown owner pre post
  have hsame : entry now.1 (copied.2.rootFor a) = entry copied.1 (copied.2.rootFor a) := by
    funext q
    rw [he]
    exact entry_append hrep.closed e (hrep.points a)
  rw [RouteTable.lookup, RouteTable.lookup, lookupFrom_eq, lookupFrom_eq, hsame]

end Map

end Veepin
