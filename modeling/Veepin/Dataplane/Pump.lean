import Veepin.Core.Maps
import Veepin.Dataplane.RouteTable

/-!
# The pump's tables

The model of the registration half of `dataplane/pump.go`: which tunnel an inbound key belongs to,
which one carries a destination, and the counters of each tunnel.  The packet path reads the tables
without a lock; every change here builds the next snapshot and publishes it whole.

A tunnel is known by its identity and has fixed routes and a fixed inbound key.  Other keys may be
added to it and taken away.

* `Pump.Owned` — a route refers to a tunnel that has it among its routes; `Pump.owned_step` keeps
  it;
* `Pump.Owned.removeTunnel` — retiring a tunnel takes its routes, wherever they are, and no others;
* `make_before_break` — what this means for a replacement.
-/

namespace Veepin

open Option

/-- The counters of `TunnelCounters`. -/
inductive Counter
  | rxPackets
  | rxBytes
  | txPackets
  | txBytes
  deriving DecidableEq, Repr

/-- `TunnelStats`: the value of each counter. -/
abbrev TunnelStats := Counter → ℕ

/-- `bound`: a tunnel, `none` for `nil`, and a pointer to its counters. -/
structure Bound (T : Type*) where
  t : Option T
  c : Option ℕ
  deriving DecidableEq

instance (T : Type*) : Inhabited (Bound T) := ⟨⟨none, none⟩⟩

/-- `Pump`: the published `view` (`byKey`, `routes` and the nodes of the tries), the counters of the
registered tunnels, all `TunnelCounters` allocated so far, and the `retired` total. -/
structure Pump (T : Type*) where
  nodes : Heap (Bound T) := []
  byKey : ℕ → Option (Bound T) := fun _ => none
  routes : RouteTable := {}
  stats : AList (fun _ : T => ℕ) := ∅
  counters : List TunnelStats := []
  retired : TunnelStats := 0

variable {T : Type*} [DecidableEq T] (routesOf : T → List Prefix) (inboundKey : T → ℕ)

/-! ## Registration -/

/-- `counters`: the counter block of the tunnel, a new one on first registration. -/
def Pump.countersOf (p : Pump T) (t : T) : Pump T × ℕ :=
  match p.stats.lookup t with
  | some c => (p, c)
  | none =>
    ({ p with stats := p.stats.insert t p.counters.length, counters := p.counters ++ [0] },
      p.counters.length)

def Pump.addTunnel (p : Pump T) (t : T) : Pump T :=
  let (p, c) := p.countersOf t
  let b : Bound T := ⟨some t, some c⟩
  let view := (routesOf t).foldl (fun s r => s.2.insert s.1 r b) (p.nodes, p.routes)
  { p with
    byKey := Function.update p.byKey (inboundKey t) (some b), nodes := view.1, routes := view.2 }

/-- An entry, unless it refers to the tunnel. -/
def without (t : T) (o : Option (Bound T)) : Option (Bound T) :=
  if o.any (Bound.t · = some t) then none else o

/-- `RemoveTunnel`: its keys and its routes, by identity; its counts are kept. -/
def Pump.removeTunnel (p : Pump T) (t : T) : Pump T :=
  let view := (routesOf t).foldl (fun s r => s.2.removeOwned Bound.t s.1 r (some t))
    (p.nodes, p.routes)
  { p with
    byKey := fun key => without t (p.byKey key)
    nodes := view.1
    routes := view.2
    retired := p.retired + ((p.stats.lookup t).map fun c => p.counters.getD c 0).getD 0
    stats := p.stats.erase t }

def Pump.addInboundKey (p : Pump T) (key : ℕ) (t : T) : Pump T :=
  let (p, c) := p.countersOf t
  { p with byKey := Function.update p.byKey key (some ⟨some t, some c⟩) }

def Pump.removeInboundKey (p : Pump T) (key : ℕ) : Pump T :=
  { p with byKey := Function.update p.byKey key none }

/-- The calls that change the tables. -/
inductive PumpOp (T : Type*)
  | addTunnel (t : T)
  | removeTunnel (t : T)
  | addInboundKey (key : ℕ) (t : T)
  | removeInboundKey (key : ℕ)
  deriving DecidableEq, Repr

def PumpOp.step (p : Pump T) : PumpOp T → Pump T
  | .addTunnel t => p.addTunnel routesOf inboundKey t
  | .removeTunnel t => p.removeTunnel routesOf t
  | .addInboundKey key t => p.addInboundKey key t
  | .removeInboundKey key => p.removeInboundKey key

/-! ## The routes as a map -/

/-- The entry of a prefix. -/
def Pump.route (p : Pump T) (q : Prefix) : Option (Bound T) :=
  entry p.nodes (p.routes.rootFor q.masked.addr) q.masked.path

/-- The tunnel for a destination. -/
def Pump.resolve (p : Pump T) (a : Addr) : Option T := (p.routes.lookup p.nodes a).t

/-- The table of the pump stands for a map in which every entry is a tunnel's that has the prefix
among its routes. -/
structure Pump.Owned (p : Pump T) (M : Prefix → Option (Bound T)) : Prop where
  represents : Represents (p.nodes, p.routes) M
  owned : ∀ q b, M q = some b → ∃ t, b.t = some t ∧ q ∈ (routesOf t).map Prefix.masked

variable {p : Pump T} {M : Prefix → Option (Bound T)}

omit [DecidableEq T] in
lemma Pump.Owned.route_eq {routesOf : T → List Prefix} (h : p.Owned routesOf M) (q : Prefix) :
    p.route q = M q.masked :=
  h.represents.entry q.masked q.masked_masked

lemma without_eq_some {t : T} {o : Option (Bound T)} {b : Bound T} :
    without t o = some b ↔ o = some b ∧ b.t ≠ some t := by
  cases o with
  | none => simp [without]
  | some b' =>
    by_cases h : b'.t = some t
    · simp only [without, any_some, h, decide_true, if_true, reduceCtorEq, false_iff]
      rintro ⟨he, hne⟩
      exact hne (some.inj he ▸ h)
    · simp only [without, any_some, h, decide_false, Bool.false_eq_true, if_false, some.injEq]
      exact ⟨fun he => ⟨he, he ▸ h⟩, fun he => he.1⟩

lemma without_without (t : T) (o : Option (Bound T)) : without t (without t o) = without t o := by
  refine ext fun b => ?_
  rw [without_eq_some, without_eq_some]
  tauto

/-- The map after all routes of a tunnel have been inserted. -/
lemma represents_insertAll (b : Bound T) (rs : List Prefix) :
    ∀ {s : Heap (Bound T) × RouteTable} {M : Prefix → Option (Bound T)}, Represents s M →
      Represents (rs.foldl (fun s r => s.2.insert s.1 r b) s)
        fun q => if q ∈ rs.map Prefix.masked then some b else M q := by
  induction rs with
  | nil => exact fun h => by simpa using h
  | cons r rs ih =>
    intro s M h
    have hrest := ih (represents_step (T := Option T) Bound.t h (.insert r b))
    have hmap : (fun q => if q ∈ rs.map Prefix.masked then some b
        else RouteOp.apply (T := Option T) Bound.t M (.insert r b) q) =
        fun q => if q ∈ (r :: rs).map Prefix.masked then some b else M q := by
      funext q
      by_cases hq : q = r.masked
      · simp [RouteOp.apply, hq]
      · simp [RouteOp.apply, hq]
    rw [hmap] at hrest
    exact hrest

/-- The map after all routes of a tunnel have been removed, where they are its own. -/
lemma represents_removeAll (t : T) (rs : List Prefix) :
    ∀ {s : Heap (Bound T) × RouteTable} {M : Prefix → Option (Bound T)}, Represents s M →
      Represents (rs.foldl (fun s r => s.2.removeOwned Bound.t s.1 r (some t)) s)
        fun q => if q ∈ rs.map Prefix.masked then without t (M q) else M q := by
  induction rs with
  | nil => exact fun h => by simpa using h
  | cons r rs ih =>
    intro s M h
    have hrest := ih (represents_step Bound.t h (.removeOwned r (some t)))
    have hmap : (fun q => if q ∈ rs.map Prefix.masked then
          without t (RouteOp.apply Bound.t M (.removeOwned r (some t)) q)
        else RouteOp.apply Bound.t M (.removeOwned r (some t)) q) =
        fun q => if q ∈ (r :: rs).map Prefix.masked then without t (M q)
          else M q := by
      funext q
      have happly : RouteOp.apply Bound.t M (.removeOwned r (some t)) q =
          if q = r.masked then without t (M q) else M q := by
        simp only [RouteOp.apply, without]
        by_cases hq : q = r.masked
        · rw [if_pos hq, hq]
          split_ifs
          · rw [Function.update_self]
          · rfl
        · rw [if_neg hq]
          split_ifs
          · rw [Function.update_of_ne hq]
          · rfl
      rw [happly, List.map_cons]
      by_cases hq : q = r.masked
      · simp [hq, without_without]
      · simp [hq]
    rw [hmap] at hrest
    exact hrest

/-! ## What the calls keep -/

lemma Pump.countersOf_view (p : Pump T) (t : T) :
    (p.countersOf t).1.nodes = p.nodes ∧ (p.countersOf t).1.routes = p.routes ∧
      (p.countersOf t).1.byKey = p.byKey := by
  unfold Pump.countersOf
  cases p.stats.lookup t <;> exact ⟨rfl, rfl, rfl⟩

section

variable {routesOf : T → List Prefix} (h : p.Owned routesOf M)

include h

/-- The routes after `AddTunnel`. -/
lemma Pump.Owned.addTunnel (t : T) : (p.addTunnel routesOf inboundKey t).Owned routesOf fun q =>
      if q ∈ (routesOf t).map Prefix.masked then some ⟨some t, some (p.countersOf t).2⟩
      else M q := by
  obtain ⟨hn, hr, -⟩ := p.countersOf_view t
  refine ⟨?_, fun q b hb => ?_⟩
  · have hrep := represents_insertAll ⟨some t, some (p.countersOf t).2⟩ (routesOf t) h.represents
    rw [← hn, ← hr] at hrep
    exact hrep
  · split_ifs at hb with hq
    · exact ⟨t, by rw [← some.inj hb], hq⟩
    · exact h.owned q b hb

/-- The routes after `RemoveTunnel`: those of the tunnel are gone, and no others. -/
lemma Pump.Owned.removeTunnel (t : T) :
    (p.removeTunnel routesOf t).Owned routesOf fun q => without t (M q) := by
  have hmap : (fun q => if q ∈ (routesOf t).map Prefix.masked then
      without t (M q) else M q) =
      fun q => without t (M q) := by
    funext q
    split_ifs with hq
    · rfl
    refine ext fun b => ?_
    rw [without_eq_some]
    refine ⟨fun hM => ⟨hM, fun he => hq ?_⟩, fun hM => hM.1⟩
    obtain ⟨u, hu, hmem⟩ := h.owned q b hM
    rw [he] at hu
    exact some.inj hu ▸ hmem
  refine ⟨?_, fun q b hb => ?_⟩
  · have hrep := represents_removeAll t (routesOf t) h.represents
    rw [hmap] at hrep
    exact hrep
  · exact h.owned q b (without_eq_some.mp hb).1

lemma Pump.owned_step (op : PumpOp T) :
    ∃ M', (op.step routesOf inboundKey p).Owned routesOf M' := by
  cases op with
  | addTunnel t => exact ⟨_, h.addTunnel inboundKey t⟩
  | removeTunnel t => exact ⟨_, h.removeTunnel t⟩
  | addInboundKey key t =>
    obtain ⟨hn, hr, -⟩ := p.countersOf_view t
    refine ⟨M, ?_, h.owned⟩
    have hrep := h.represents
    rw [← hn, ← hr] at hrep
    exact hrep
  | removeInboundKey key => exact ⟨M, h.represents, h.owned⟩

end

lemma Pump.owned_run (ops : List (PumpOp T)) :
    ∃ M, (run (fun p op => PumpOp.step routesOf inboundKey p op) ({} : Pump T) ops).Owned
      routesOf M := by
  induction ops using List.reverseRecOn with
  | nil => exact ⟨fun _ => none, represents_empty, nofun⟩
  | append_singleton ops op ih =>
    obtain ⟨M, hM⟩ := ih
    rw [run_concat]
    exact Pump.owned_step inboundKey hM op

/-! ## Make before break -/

omit [DecidableEq T] in
/-- The destination of a route resolves to the tunnel of its entry, unless a more specific route
contains it. -/
lemma Pump.Owned.resolve_eq {routesOf : T → List Prefix} (h : p.Owned routesOf M) {r : Prefix}
    {a : Addr} {b : Bound T} (hr : M r.masked = some b) (ha : r.Contains a)
    (hmax : ∀ q, (M q).isSome → q.Contains a → q.bits ≤ r.bits) : p.resolve a = b.t := by
  have hra : r.masked.Contains a := r.masked_contains ha
  rcases lookup_of_represents h.represents a with ⟨q, v, hq, hlong, hv⟩ | ⟨hnone, -⟩
  · have hsome : (M r.masked).isSome := by rw [hr]; rfl
    have hbits : q.bits = r.masked.bits :=
      le_antisymm (hmax q hlong.isSome hlong.contains) (hlong.longest _ hsome hra)
    have hqr : q = r.masked := Prefix.eq_of_contains (h.represents.masked_of_isSome hlong.isSome)
      r.masked_masked hlong.contains hra hbits
    have hvb : v = b := some.inj (hq.symm.trans (hqr ▸ hr))
    rw [Pump.resolve, hv, hvb]
  · rw [hnone _ hra] at hr
    cases hr

/-- **A tunnel carries only what it routes.**  In every state that a pump can reach, the tunnel that
a destination resolves to has a route that contains it. -/
theorem resolve_within_routes (ops : List (PumpOp T)) :
    Always (PumpOp.step routesOf inboundKey)
      (fun p => ∀ a t, p.resolve a = some t → ∃ r ∈ routesOf t, r.Contains a) {} ops := by
  have hstep : ∀ (p : Pump T) (op : PumpOp T), (∃ M, p.Owned routesOf M) → True →
      ∃ M, (op.step routesOf inboundKey p).Owned routesOf M := by
    rintro p op ⟨M, h⟩ -
    exact Pump.owned_step inboundKey h op
  refine always_of_inv _ hstep ?_ _ ops (Pump.owned_run routesOf inboundKey []) (along_true _ _ ops)
  rintro p ⟨M, h⟩ a t ht
  rcases lookup_of_represents h.represents a with ⟨q, b, hq, hlong, hb⟩ | ⟨-, hnone⟩
  · obtain ⟨u, hu, hmem⟩ := h.owned q b hq
    obtain ⟨r, hr, rfl⟩ := List.mem_map.mp hmem
    rw [Pump.resolve, hb, hu] at ht
    obtain rfl := some.inj ht
    refine ⟨r, hr, (r.addr.is4_masked _).symm.trans hlong.contains.1, fun i hi => ?_⟩
    have hbit := hlong.contains.2 i hi
    rw [show r.masked.addr = r.addr.masked r.bits from rfl, Addr.msb_masked _ r.le,
      decide_eq_true (show i < r.bits from hi), Bool.and_true] at hbit
    exact hbit
  · rw [Pump.resolve, hnone] at ht
    cases ht

/-- **Make before break.**  From every state that a pump can reach, `RemoveTunnel` removes the
entries that refer to the tunnel and no others; and when a tunnel is replaced, every destination in
the routes of the new one resolves to it, unless a more specific route contains the destination. -/
theorem make_before_break (ops : List (PumpOp T)) :
    let p := run (fun p op => PumpOp.step routesOf inboundKey p op) ({} : Pump T) ops
    (∀ t key b, (p.removeTunnel routesOf t).byKey key = some b ↔
      p.byKey key = some b ∧ b.t ≠ some t) ∧
    (∀ t q b, (p.removeTunnel routesOf t).route q = some b ↔ p.route q = some b ∧ b.t ≠ some t) ∧
    ∀ old new, old ≠ new →
      let p' := ((p.addTunnel routesOf inboundKey old).addTunnel routesOf inboundKey
        new).removeTunnel routesOf old
      ∀ r ∈ routesOf new, ∀ a, r.Contains a →
        (∀ q, (p'.route q).isSome → q.Contains a → q.bits ≤ r.bits) → p'.resolve a = some new := by
  intro p
  obtain ⟨M, hM⟩ := Pump.owned_run routesOf inboundKey ops
  refine ⟨fun t key b => without_eq_some, fun t q b => ?_, ?_⟩
  · rw [(hM.removeTunnel t).route_eq, hM.route_eq]
    exact without_eq_some
  intro old new hne p' r hr a ha hmax
  have hnew := (((hM.addTunnel inboundKey old).addTunnel inboundKey new).removeTunnel old)
  have hmem : r.masked ∈ (routesOf new).map Prefix.masked := List.mem_map_of_mem hr
  have hother : ∀ c, (⟨some new, c⟩ : Bound T).t ≠ some old :=
    fun c he => hne (some.inj he).symm
  refine hnew.resolve_eq (without_eq_some.mpr ⟨if_pos hmem, hother _⟩) ha
    fun q hq hqa => hmax q ?_ hqa
  rw [hnew.route_eq, hnew.represents.masked_of_isSome hq]
  exact hq

/-- A route inside the routes of the replaced tunnel keeps its own tunnel: the pump has tunnel `2`
for `192.0.2.1/32` when tunnel `0` for `192.0.2.0/24` gives way to tunnel `1`. -/
theorem specific_route_kept :
    let routesOf : ℕ → List Prefix := fun t =>
      if t = 2 then [⟨.v4 0xC0000201, 32, by decide⟩] else [⟨.v4 0xC0000200, 24, by decide⟩]
    let p := run (fun p op => PumpOp.step routesOf id p op) ({} : Pump ℕ)
      [.addTunnel 2, .addTunnel 0, .addTunnel 1, .removeTunnel 0]
    routesOf 0 = routesOf 1 ∧ (∃ r ∈ routesOf 1, r.Contains (.v4 0xC0000201)) ∧
      p.resolve (.v4 0xC0000201) = some 2 := by
  refine ⟨by decide, ⟨_, List.mem_singleton.mpr rfl, by decide, ?_⟩, by decide⟩
  decide

end Veepin
