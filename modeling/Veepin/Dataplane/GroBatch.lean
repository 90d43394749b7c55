import Veepin.Core.HoldBuffer
import Veepin.Core.Runs
import Veepin.Dataplane.GroGroup

/-!
# Coalescing is transparent per flow

A batch is compared with a `HoldBuffer` of packets keyed by their flow: a group in the table is
what is held under its flow (`Tracks`), `flush` releases it, `start` and `append` hold a packet, a
packet written through is passed.  The frames written carry the packets that have left the buffer
(`Written`).  Every step of a batch is a step of the buffer, so flows keep their order
(`gro_transparent`), but for two kinds of packet.

* One with IP options belongs to no flow: `flushSameFlow` does not look at it, on purpose, and it
  overtakes segments of its connection that are held (`options_overtake`).
* A group that a pass-through packet has flushed stays in the table without segments.  `canAppend`
  does not look at that, so a segment that continues the flow is appended to nothing and written
  without headers, or its flags are written past the end of the buffer (`stale_append_breaks`).
-/

namespace Veepin.Gro

open List Function

/-! ## The groups in use -/

/-- The first `n` groups hold, each under its own flow, what is held. -/
structure Tracks (groups : List Group) (n : ℕ) (held : Bytes → List Bytes) : Prop where
  bound : n ≤ groups.length
  ok : ∀ i g, i < n → groups[i]? = some g → GroupOK g (held g.flow)
  distinct : ∀ i j g g', i < n → j < n → groups[i]? = some g → groups[j]? = some g' →
    g.flow = g'.flow → i = j
  cover : ∀ k, held k ≠ [] → ∃ i g, i < n ∧ groups[i]? = some g ∧ g.flow = k

variable {groups : List Group} {i : ℕ} {g : Group} {n : ℕ} {g' : Group} {held : Bytes → List Bytes}
  {hs : List Bytes}

lemma Tracks.set (h : Tracks groups n held)
    (hi : i < n) (hg : groups[i]? = some g) (hflow : g'.flow = g.flow) (hok : GroupOK g' hs) :
    Tracks (groups.set i g') n (Function.update held g.flow hs) := by
  have hget : ∀ j x, (groups.set i g')[j]? = some x →
      (j = i ∧ x = g') ∨ (j ≠ i ∧ groups[j]? = some x) := by
    intro j x hx
    by_cases hji : j = i
    · subst hji
      left
      have hlt : j < groups.length := lt_of_lt_of_le hi h.bound
      rw [getElem?_set_self hlt] at hx
      exact ⟨rfl, (Option.some.inj hx).symm⟩
    · rw [getElem?_set_ne (Ne.symm hji)] at hx
      exact Or.inr ⟨hji, hx⟩
  have hold : ∀ (j : ℕ) (x : Group), (groups.set i g')[j]? = some x →
      ∃ y : Group, groups[j]? = some y ∧ y.flow = x.flow := by
    intro j x hx
    rcases hget j x hx with ⟨rfl, rfl⟩ | ⟨-, hx⟩
    · exact ⟨g, hg, hflow.symm⟩
    · exact ⟨x, hx, rfl⟩
  refine ⟨by rw [length_set]; exact h.bound, ?_, ?_, ?_⟩
  · intro j x hj hx
    rcases hget j x hx with ⟨rfl, rfl⟩ | ⟨hji, hx⟩
    · rw [hflow, update_self]
      exact hok
    · have hne : x.flow ≠ g.flow := fun he => hji (h.distinct j i x g hj hi hx hg he)
      rw [update_of_ne hne]
      exact h.ok j x hj hx
  · intro j j' x x' hj hj' hx hx' he
    obtain ⟨y, hy, hye⟩ := hold j x hx
    obtain ⟨y', hy', hye'⟩ := hold j' x' hx'
    exact h.distinct j j' y y' hj hj' hy hy' (by rw [hye, hye', he])
  · intro k hk
    have hlt : i < groups.length := lt_of_lt_of_le hi h.bound
    by_cases hkg : k = g.flow
    · exact ⟨i, g', hi, getElem?_set_self hlt, by rw [hflow, hkg]⟩
    rw [update_of_ne hkg] at hk
    obtain ⟨j, x, hj, hx, hxk⟩ := h.cover k hk
    have hji : i ≠ j := by
      rintro rfl
      rw [hg] at hx
      exact hkg (by rw [← hxk, ← Option.some.inj hx])
    exact ⟨j, x, hj, by rw [getElem?_set_ne hji]; exact hx, hxk⟩

/-- A group taken into use for a flow that has none. -/
lemma Tracks.push (h : Tracks groups n held)
    (hnew : ∀ i x, i < n → groups[i]? = some x → x.flow ≠ g.flow) (hok : GroupOK g hs) :
    Tracks (groups.take n ++ g :: groups.drop (n + 1)) (n + 1)
      (Function.update held g.flow hs) := by
  have hlen : (groups.take n).length = n := by rw [length_take]; exact Nat.min_eq_left h.bound
  have hget : ∀ j x, j < n + 1 → (groups.take n ++ g :: groups.drop (n + 1))[j]? = some x →
      (j = n ∧ x = g) ∨ (j < n ∧ groups[j]? = some x) := by
    intro j x hj hx
    by_cases hjn : j < n
    · rw [getElem?_append_left (by omega), getElem?_take_of_lt hjn] at hx
      exact Or.inr ⟨hjn, hx⟩
    · have hje : j = n := by omega
      subst hje
      rw [getElem?_append_right (by omega), hlen, Nat.sub_self] at hx
      exact Or.inl ⟨rfl, (Option.some.inj hx).symm⟩
  refine ⟨?_, ?_, ?_, ?_⟩
  · rw [length_append, hlen, length_cons]
    omega
  · intro j x hj hx
    rcases hget j x hj hx with ⟨rfl, rfl⟩ | ⟨hjn, hx⟩
    · rw [update_self]
      exact hok
    · rw [update_of_ne (hnew j x hjn hx)]
      exact h.ok j x hjn hx
  · intro j j' x x' hj hj' hx hx' he
    rcases hget j x hj hx with ⟨hjn, hxg⟩ | ⟨hjn, hxg⟩ <;>
      rcases hget j' x' hj' hx' with ⟨hjn', hxg'⟩ | ⟨hjn', hxg'⟩
    · rw [hjn, hjn']
    · exact absurd (by rw [← he, hxg]) (hnew j' x' hjn' hxg')
    · exact absurd (by rw [he, hxg']) (hnew j x hjn hxg)
    · exact h.distinct j j' x x' hjn hjn' hxg hxg' he
  · intro k hk
    by_cases hkg : k = g.flow
    · refine ⟨n, g, by omega, ?_, hkg.symm⟩
      rw [getElem?_append_right (by omega), hlen, Nat.sub_self]
      rfl
    · rw [update_of_ne hkg] at hk
      obtain ⟨j, x, hj, hx, hxk⟩ := h.cover k hk
      refine ⟨j, x, by omega, ?_, hxk⟩
      rw [getElem?_append_left (by omega), getElem?_take_of_lt hj]
      exact hx

/-! ## The search for a group -/

lemma firstGroup_spec {test : Group → Option Bool} :
    ∀ {gs : List Group}, (∀ g ∈ gs, ∃ b, test g = some b) →
      (firstGroup test gs = some none ∧ ∀ g ∈ gs, test g = some false) ∨
        ∃ i g, firstGroup test gs = some (some i) ∧ gs[i]? = some g ∧ test g = some true
  | [], _ => Or.inl ⟨rfl, by simp⟩
  | g :: gs, h => by
    obtain ⟨b, hb⟩ := h g (by simp)
    cases b with
    | true => exact Or.inr ⟨0, g, by simp [firstGroup, hb], rfl, hb⟩
    | false =>
      rcases firstGroup_spec fun x hx => h x (mem_cons_of_mem g hx) with
        ⟨hn, hall⟩ | ⟨i, x, hi, hx, ht⟩
      · left
        refine ⟨by simp [firstGroup, hb, hn], fun x hx => ?_⟩
        rcases mem_cons.mp hx with rfl | hx
        · exact hb
        · exact hall x hx
      · exact Or.inr ⟨i + 1, x, by simp [firstGroup, hb, hi], hx, ht⟩

/-- The groups in use, as the search sees them. -/
lemma mem_take_iff : g ∈ groups.take n ↔ ∃ i, i < n ∧ groups[i]? = some g := by
  rw [mem_iff_getElem?]
  constructor
  · rintro ⟨i, hi⟩
    rw [getElem?_take] at hi
    split_ifs at hi with hlt
    exact ⟨i, hlt, hi⟩
  · rintro ⟨i, hlt, hi⟩
    exact ⟨i, by rw [getElem?_take, if_pos hlt]; exact hi⟩

lemma getElem?_of_take (h : (groups.take n)[i]? = some g) : i < n ∧ groups[i]? = some g := by
  rw [getElem?_take] at h
  split_ifs at h with hlt
  exact ⟨hlt, h⟩

/-! ## The frames written -/

/-- The frames carry the packets `out`, one by one; those without a flow are written as they are;
each frame has the IP header of one of the packets `ins`. -/
structure Written (frames : List Frame) (out ins : List Bytes) : Prop where
  segments : frames.flatMap (fun f => f.segments.map fun s => (flowOf f.data, s)) =
    out.map fun p => (flowOf p, segmentOf p)
  plain : frames.filter (fun f => flowOf f.data = none) =
    (out.filter fun p => flowOf p = none).map Frame.packet
  header : ∀ f ∈ frames, ∃ p ∈ ins, HeaderFrom p f

variable {frames : List Frame} {ins : List Bytes} {out : List Bytes}

lemma Written.flush {fs : List Frame} {held : List Bytes} (h : Written frames out ins)
    (hw : Wrote fs held) (hheld : ∀ p ∈ held, p ∈ ins) (hkey : ∀ p ∈ held, flowOf p ≠ none) :
    Written (frames ++ fs) (out ++ held) ins := by
  refine ⟨?_, ?_, ?_⟩
  · rw [flatMap_append, map_append, h.segments, hw.segments]
  · have hfs : fs.filter (fun f => flowOf f.data = none) = [] :=
      filter_eq_nil_iff.mpr fun f hf => by simpa using hw.keyed f hf
    have hps : held.filter (fun p => flowOf p = none) = [] :=
      filter_eq_nil_iff.mpr fun p hp => by simpa using hkey p hp
    rw [filter_append, filter_append, h.plain, hfs, hps, append_nil, append_nil]
  · intro f hf
    rcases mem_append.mp hf with hf | hf
    · exact h.header f hf
    · obtain ⟨p, hp, hpf⟩ := hw.header f hf
      exact ⟨p, hheld p hp, hpf⟩

lemma Written.mono (h : Written frames out ins) (p : Bytes) : Written frames out (ins ++ [p]) :=
  ⟨h.segments, h.plain, fun f hf =>
    let ⟨q, hq, hqf⟩ := h.header f hf
    ⟨q, mem_append_left _ hq, hqf⟩⟩

lemma Written.packet (h : Written frames out ins) (p : Bytes) :
    Written (frames ++ [.packet p]) (out ++ [p]) (ins ++ [p]) := by
  refine ⟨?_, ?_, ?_⟩
  · rw [flatMap_append, map_append, h.segments]
    rfl
  · rw [filter_append, filter_append, map_append, h.plain]
    by_cases hp : flowOf p = none <;> simp [Frame.data, hp]
  · intro f hf
    rcases mem_append.mp hf with hf | hf
    · obtain ⟨q, hq, hqf⟩ := h.header f hf
      exact ⟨q, mem_append_left _ hq, hqf⟩
    · rw [mem_singleton.mp hf]
      exact ⟨p, by simp, rfl⟩

/-! ## A batch is a run of the buffer -/

/-- The table after the packets `ins` and the buffer that stands for it. -/
structure Sim (t : Table) (b : HoldBuffer Bytes Bytes) (ins : List Bytes) : Prop where
  tracks : Tracks t.groups t.n b.held
  written : Written t.out b.out ins
  order : KeepsOrder flowOf b ins
  arrived : ∀ k, ∀ p ∈ b.held k, p ∈ ins

variable {t : Table}

lemma update_eq {f : Group → Option (Group × List Frame)} (hg : t.groups[i]? = some g)
    (hf : f g = some (g', frames)) :
    t.update i f = some { t with groups := t.groups.set i g', out := t.out ++ frames } := by
  simp [Table.update, hg, hf]

variable {b : HoldBuffer Bytes Bytes}

lemma Sim.flush (h : Sim t b ins) (hi : i < t.n) (hg : t.groups[i]? = some g) :
    ∃ t' g', t.update i Group.flush = some t' ∧ Sim t' (b.release g.flow) ins ∧ t'.n = t.n ∧
      t'.groups = t.groups.set i g' ∧ g'.flow = g.flow := by
  obtain ⟨g', frames, hflush, hok, hflow, hw⟩ := flush_spec (h.tracks.ok i g hi hg)
  refine ⟨_, g', update_eq hg hflush, ⟨h.tracks.set hi hg hflow hok, ?_, h.order.release _, ?_⟩,
    rfl, rfl, hflow⟩
  · refine h.written.flush hw (h.arrived g.flow) fun p hp => ?_
    rw [h.order.own g.flow p hp]
    simp
  · intro k p hp
    by_cases hk : k = g.flow
    · subst hk
      exact absurd hp (by simp)
    · rw [HoldBuffer.release_held_of_ne b hk] at hp
      exact h.arrived k p hp

/-- What is held after one more packet is held has arrived. -/
lemma arrived_hold (h : ∀ k, ∀ p ∈ b.held k, p ∈ ins) (k : Bytes) (q : Bytes) :
    ∀ k', ∀ p ∈ (b.hold k q).held k', p ∈ ins ++ [q] := by
  intro k' p hp
  by_cases hk : k' = k
  · subst hk
    rw [HoldBuffer.hold_held_self] at hp
    rcases mem_append.mp hp with hp | hp
    · exact mem_append_left _ (h k' p hp)
    · rw [mem_singleton.mp hp]
      simp
  · rw [HoldBuffer.hold_held_of_ne b hk] at hp
    exact mem_append_left _ (h k' p hp)

/-- A group that takes the packet in, in place. -/
lemma Sim.setHold (h : Sim t b ins) {q : Bytes} (hi : i < t.n) (hg : t.groups[i]? = some g)
    (hflow : g'.flow = g.flow) (hq : flowOf q = some g.flow)
    (hok : GroupOK g' (b.held g.flow ++ [q])) :
    Sim { t with groups := t.groups.set i g', out := t.out ++ [] } (b.hold g.flow q) (ins ++ [q]) :=
  ⟨h.tracks.set hi hg hflow hok, by simpa [HoldBuffer.hold] using h.written.mono q,
    h.order.hold hq, arrived_hold h.arrived _ _⟩

/-- **A pass-through packet** first releases what is held under its flow. -/
lemma flushSameFlow_spec (h : Sim t b ins) (pkt : Bytes) :
    ∃ t' b', t.flushSameFlow pkt = some t' ∧ Sim t' b' ins ∧
      ∀ k, flowOf pkt = some k → b'.held k = [] := by
  obtain ⟨named, hnamed, hyes, hno⟩ := namesFlow_spec pkt
  cases named with
  | false =>
    exact ⟨t, b, by simp [Table.flushSameFlow, hnamed], h,
      fun k hk => absurd hk (by rw [hno rfl]; simp)⟩
  | true =>
    obtain ⟨hlen, hflow⟩ := hyes rfl
    have htest : ∀ g ∈ t.groups.take t.n, (if 0 < g.segs then g.sameFlow pkt else some false) =
          some (decide (0 < g.segs) && (g.flow == (pkt.drop 12).take 12)) := by
      intro g hg
      obtain ⟨i, hi, hgi⟩ := mem_take_iff.mp hg
      rw [(h.tracks.ok i g hi hgi).ready.sameFlow hlen]
      by_cases hs : 0 < g.segs <;> simp [hs]
    rcases firstGroup_spec fun g hg => ⟨_, htest g hg⟩ with ⟨hnone, hall⟩ | ⟨i, g, hsome, hg, ht⟩
    · -- no group in use holds anything of this flow
      refine ⟨t, b, by simp [Table.flushSameFlow, hnamed, hnone], h, ?_⟩
      intro k hk
      by_contra hne
      obtain ⟨i, g, hi, hgi, hgk⟩ := h.tracks.cover k hne
      have hmem := mem_take_iff.mpr ⟨i, hi, hgi⟩
      have hfalse := (htest g hmem).symm.trans (hall g hmem)
      have hsegs := (h.tracks.ok i g hi hgi).segs_pos.mpr (by rw [hgk]; exact hne)
      rw [hflow] at hk
      simp [hsegs, hgk, Option.some.inj hk] at hfalse
    · obtain ⟨hi, hgi⟩ := getElem?_of_take hg
      have htrue := (htest g (mem_take_iff.mpr ⟨i, hi, hgi⟩)).symm.trans ht
      simp only [Option.some.injEq, Bool.and_eq_true, decide_eq_true_eq, beq_iff_eq] at htrue
      obtain ⟨t', g', hup, hsim, -⟩ := h.flush hi hgi
      refine ⟨t', _, by simp [Table.flushSameFlow, hnamed, hsome, hup], hsim, ?_⟩
      intro k hk
      rw [hflow, ← htrue.2] at hk
      rw [← Option.some.inj hk]
      exact HoldBuffer.release_held_self b g.flow

/-- The packet continues the flow of a group in use that has been flushed and holds nothing. -/
def staleAppend (t : Table) (pkt : Bytes) : Bool :=
  coalescible pkt == some true && tcpChecksumOK pkt == some true &&
    (t.groups.take t.n).any fun g =>
      g.segs == 0 && g.sameFlow pkt == some true && g.canAppend pkt == some true

variable {pkt : Bytes}

/-- A packet that is written through. -/
lemma Sim.passThrough (h : Sim t b ins)
    (hadd : t.add pkt = (t.flushSameFlow pkt).map fun t' => (t', false)) :
    ∃ t' b', t.deliver pkt = some t' ∧ Sim t' b' (ins ++ [pkt]) := by
  obtain ⟨t', b', hflush, hsim, hnone⟩ := flushSameFlow_spec h pkt
  refine ⟨_, b'.pass pkt, by simp [Table.deliver, hadd, hflush]; rfl, ?_⟩
  exact ⟨hsim.tracks, hsim.written.packet pkt, hsim.order.pass hnone,
    fun k p hp => mem_append_left _ (hsim.arrived k p hp)⟩

/-- A packet whose flow has no group yet. -/
lemma Sim.grabStart (h : Sim t b ins) (hm : Mergeable pkt)
    (hnew : ∀ i g, i < t.n → t.groups[i]? = some g → flowOf pkt ≠ some g.flow) :
    ∃ t' b', t.grabStart pkt = some t' ∧ Sim t' b' (ins ++ [pkt]) := by
  obtain ⟨g, hstart, hok, hflow⟩ := start_spec
    { (t.groups[t.n]?).getD {} with length := 0, segs := 0, gsoSize := 0, closed := false } hm
  have hnone : b.held g.flow = [] := by
    by_contra hne
    obtain ⟨i, x, hi, hx, hxg⟩ := h.tracks.cover g.flow hne
    exact hnew i x hi hx (by rw [hflow, hxg])
  refine ⟨_, b.hold g.flow pkt, by simp [Table.grabStart, hstart]; rfl, ?_, ?_, ?_, ?_⟩
  · have hok' : GroupOK g (b.held g.flow ++ [pkt]) := by rw [hnone]; exact hok
    exact h.tracks.push (fun i x hi hx he => hnew i x hi hx (by rw [hflow, he])) hok'
  · exact h.written.mono pkt
  · exact h.order.hold hflow
  · exact arrived_hold h.arrived _ _

section

variable (h : Sim t b ins) (hm : Mergeable pkt) (hi : i < t.n) (hg : t.groups[i]? = some g)
  (hflow : flowOf pkt = some g.flow)

include h hm hi hg hflow

/-- A packet that a group holding something takes in. -/
lemma Sim.appendTo (hcan : g.canAppend pkt = some true) (hsegs : 0 < g.segs) :
    ∃ t' b', t.modify i (·.append pkt) = some t' ∧ Sim t' b' (ins ++ [pkt]) := by
  have hok := h.tracks.ok i g hi hg
  generalize hheld : b.held g.flow = held at hok
  cases hok with
  | emptied _ hs => omega
  | @holding p rest hr hh =>
    obtain ⟨g', happ, hok', hflow'⟩ := append_spec hr hh hm hflow hcan
    refine ⟨_, _, update_eq hg (by simp [happ]), h.setHold hi hg hflow' hflow ?_⟩
    rw [hheld]
    exact hok'

/-- A packet that its flow's group cannot take in: the group is flushed and started anew. -/
lemma Sim.restart :
    ∃ t' t'' b', t.update i Group.flush = some t' ∧ t'.modify i (·.start pkt) = some t'' ∧
      Sim t'' b' (ins ++ [pkt]) := by
  obtain ⟨t', g', hflush, hsim, hn, hgroups, hflow'⟩ := h.flush hi hg
  have hg' : t'.groups[i]? = some g' := by
    rw [hgroups]
    exact getElem?_set_self (lt_of_lt_of_le hi h.tracks.bound)
  obtain ⟨g'', hstart, hok, hflow''⟩ := start_spec g' hm
  have hsame : g''.flow = g'.flow := by
    rw [hflow', ← Option.some.injEq, ← hflow'', hflow]
  have hpkt : flowOf pkt = some g'.flow := by rw [hflow, hflow']
  refine ⟨t', _, _, hflush, update_eq hg' (by simp [hstart]),
    hsim.setHold (hn ▸ hi) hg' hsame hpkt ?_⟩
  rw [hflow', HoldBuffer.release_held_self]
  exact hok

end

/-- **The step.**  A packet that is not appended to an emptied group is passed on or held. -/
lemma Sim.deliver (h : Sim t b ins) (hstale : staleAppend t pkt = false) :
    ∃ t' b', t.deliver pkt = some t' ∧ Sim t' b' (ins ++ [pkt]) := by
  obtain ⟨c, hc, hmerge⟩ := coalescible_spec pkt
  cases c with
  | false => exact h.passThrough (by cases hf : t.flushSameFlow pkt <;> simp [Table.add, hc, hf])
  | true =>
  have hm := hmerge rfl
  have h40 := hm.forty
  obtain ⟨k, hk⟩ := tcpChecksumOK_spec h40
  cases k with
  | false =>
    exact h.passThrough (by cases hf : t.flushSameFlow pkt <;> simp [Table.add, hc, hk, hf])
  | true =>
  have htest : ∀ g ∈ t.groups.take t.n,
      g.sameFlow pkt = some (g.flow == (pkt.drop 12).take 12) := by
    intro g hg
    obtain ⟨i, hi, hgi⟩ := mem_take_iff.mp hg
    exact (h.tracks.ok i g hi hgi).ready.sameFlow (by omega)
  rcases firstGroup_spec fun g hg => ⟨_, htest g hg⟩ with ⟨hnone, hall⟩ | ⟨i, g, hsome, hg, ht⟩
  · obtain ⟨t', b', hgrab, hsim⟩ := h.grabStart hm fun i g hi hgi he => by
      have hmem := mem_take_iff.mpr ⟨i, hi, hgi⟩
      have hfalse := (htest g hmem).symm.trans (hall g hmem)
      rw [hm.flow] at he
      simp [Option.some.inj he] at hfalse
    exact ⟨t', b', by simp [Table.deliver, Table.add, hc, hk, hnone, hgrab], hsim⟩
  · obtain ⟨hi, hgi⟩ := getElem?_of_take hg
    have hmem := mem_take_iff.mpr ⟨i, hi, hgi⟩
    have hflow : flowOf pkt = some g.flow := by
      have htrue := (htest g hmem).symm.trans ht
      simp only [Option.some.injEq, beq_iff_eq] at htrue
      rw [hm.flow, htrue]
    obtain ⟨a, ha, -⟩ := canAppend_spec (h.tracks.ok i g hi hgi).ready hm
    cases a with
    | true =>
      have hsegs : 0 < g.segs := by
        by_contra hs
        have hst : staleAppend t pkt = true := by
          simp only [staleAppend, hc, hk, beq_self_eq_true, Bool.true_and, any_eq_true]
          exact ⟨g, hmem, by simp [ht, ha, Nat.eq_zero_of_not_pos hs]⟩
        rw [hst] at hstale
        exact absurd hstale (by simp)
      obtain ⟨t', b', hup, hsim⟩ := h.appendTo hm hi hgi hflow ha hsegs
      exact ⟨t', b', by simp [Table.deliver, Table.add, hc, hk, hsome, hgi, ha, hup], hsim⟩
    | false =>
      obtain ⟨t', t'', b', hflush, hup, hsim⟩ := h.restart hm hi hgi hflow
      exact ⟨t'', b', by simp [Table.deliver, Table.add, hc, hk, hsome, hgi, ha, hflush, hup], hsim⟩

/-- `deliver` on a program that has not stopped. -/
def deliverStep (s : Option Table) (pkt : Bytes) : Option Table := s.bind (·.deliver pkt)

/-- No step of a batch appends to an emptied group. -/
def NoStale (groups : List Group) (pkts : List Bytes) : Prop :=
  Along deliverStep (fun s p => ∀ t ∈ s, staleAppend t p = false)
    (some { groups, n := 0, out := [] }) pkts

instance (groups : List Group) (pkts : List Bytes) : Decidable (NoStale groups pkts) :=
  Along.decidable _ _ _ _

lemma Sim.batch {pkts : List Bytes} (h : Sim t b ins)
    (hs : Along deliverStep (fun s p => ∀ t ∈ s, staleAppend t p = false) (some t) pkts) :
    ∃ t' b', pkts.foldlM Table.deliver t = some t' ∧ Sim t' b' (ins ++ pkts) := by
  induction pkts generalizing t b ins with
  | nil => exact ⟨t, b, rfl, by rwa [append_nil]⟩
  | cons p pkts ih =>
    obtain ⟨t₁, b₁, hstep, hsim⟩ := h.deliver (hs.1 t rfl)
    have hrest := hs.2
    rw [show deliverStep (some t) p = some t₁ from hstep] at hrest
    obtain ⟨t', b', hrun, hsim'⟩ := ih hsim hrest
    refine ⟨t', b', ?_, by rw [append_cons]; exact hsim'⟩
    rw [foldlM_cons, hstep]
    exact hrun

/-- The flush of all groups releases everything that is held. -/
lemma Sim.flushAll (h : Sim t b ins) :
    ∃ t' b', t.flushAll = some t' ∧ Sim t' b' ins ∧ ∀ k, b'.held k = [] := by
  -- after the first `m` groups, what is still held belongs to a later one
  have hpart : ∀ m ≤ t.n, ∃ t' b',
      (range m).foldlM (fun t i => t.update i Group.flush) t = some t' ∧ t'.n = t.n ∧
        Sim t' b' ins ∧ ∀ i g, i < m → t'.groups[i]? = some g → b'.held g.flow = [] := by
    intro m
    induction m with
    | zero => exact fun _ => ⟨t, b, rfl, rfl, h, fun i _ hi => absurd hi (Nat.not_lt_zero i)⟩
    | succ m ih =>
      intro hm
      obtain ⟨t₁, b₁, hrun, hn, hsim, hdone⟩ := ih (by omega)
      have hlen := hsim.tracks.bound
      have hg := getElem?_eq_getElem (l := t₁.groups) (i := m) (by omega)
      obtain ⟨t₂, g₂, hflush, hsim₂, hn₂, hgroups, hflow⟩ := hsim.flush (by omega) hg
      refine ⟨t₂, _, ?_, hn₂.trans hn, hsim₂, ?_⟩
      · rw [range_succ, foldlM_append, hrun]
        simp [hflush]
      intro i g hi hgi
      by_cases him : i = m
      · subst him
        rw [hgroups, getElem?_set_self (by omega)] at hgi
        rw [← Option.some.inj hgi, hflow, HoldBuffer.release_held_self]
      · rw [hgroups, getElem?_set_ne (Ne.symm him)] at hgi
        have hne : g.flow ≠ (t₁.groups[m]).flow := fun he =>
          him (hsim.tracks.distinct i m g _ (by omega) (by omega) hgi hg he)
        rw [HoldBuffer.release_held_of_ne b₁ hne]
        exact hdone i g (by omega) hgi
  obtain ⟨t', b', hrun, hn, hsim, hdone⟩ := hpart t.n le_rfl
  refine ⟨t', b', hrun, hsim, fun k => ?_⟩
  by_contra hne
  obtain ⟨i, g, hi, hgi, rfl⟩ := hsim.tracks.cover k hne
  exact hne (hdone i g (by omega) hgi)

/-- The segments that frames carry for a key, a coalesced frame cut back at its segment size. -/
def carried (key : Bytes → Option Bytes) (frames : List Frame) (k : Bytes) : List (ℕ × Bytes) :=
  ((frames.flatMap fun f => f.segments.map fun s => (key f.data, s)).filter
    (·.1 = some k)).map Prod.snd

/-- The segments that packets carry for a key. -/
def arrivals (key : Bytes → Option Bytes) (pkts : List Bytes) (k : Bytes) : List (ℕ × Bytes) :=
  (pkts.filter fun p => key p = some k).map segmentOf

lemma Written.carried (h : Written frames out ins) (k : Bytes) :
    carried flowOf frames k = arrivals flowOf out k := by
  rw [Gro.carried, arrivals, h.segments, filter_map, map_map]
  rfl

/-- **Coalescing is transparent.**  A batch in which no packet is appended to an emptied group runs
to its end without an index out of range; for every flow the frames carry the segments that came,
in order; packets without a flow are written as they are, in order; and every frame has the IP
header of a packet that came, up to the Total Length and checksum of a coalesced one. -/
theorem gro_transparent (groups : List Group) (pkts : List Bytes) (h : NoStale groups pkts) :
    ∃ frames, handleInboundBatch groups pkts = some frames ∧
      (∀ k, carried flowOf frames k = arrivals flowOf pkts k) ∧
      frames.filter (fun f => flowOf f.data = none) =
        (pkts.filter fun p => flowOf p = none).map Frame.packet ∧
      ∀ f ∈ frames, ∃ p ∈ pkts, HeaderFrom p f := by
  have hstart : Sim { groups, n := 0, out := [] } HoldBuffer.empty [] :=
    ⟨⟨Nat.zero_le _, fun i _ hi => absurd hi (Nat.not_lt_zero i),
      fun i _ _ _ hi => absurd hi (Nat.not_lt_zero i), fun _ hk => absurd rfl hk⟩,
      ⟨rfl, rfl, by simp⟩, KeepsOrder.start, fun _ _ hp => absurd hp (by simp [HoldBuffer.empty])⟩
  obtain ⟨t, b, hrun, hsim⟩ := hstart.batch h
  obtain ⟨t', b', hflush, hsim', hempty⟩ := hsim.flushAll
  rw [nil_append] at hsim'
  refine ⟨t'.out, by simp [handleInboundBatch, hrun, hflush], ?_, ?_, hsim'.written.header⟩
  · intro k
    have horder := hsim'.order.order k
    rw [hempty k, append_nil] at horder
    rw [hsim'.written.carried k, arrivals, horder]
    rfl
  · rw [hsim'.written.plain, hsim'.order.rest]

/-! ## Packets of one connection -/

/-- A packet with its TCP checksum filled in. -/
def withChecksum (p : Bytes) : Bytes :=
  let acc := onesComplementSum 0 ((p.drop 12).take 8) + (6 + UInt32.ofNat (p.length - 20))
  overwrite p 36 (putBE16 (~~~ foldSum (onesComplementSum acc (p.drop 20))).toNat)

/-- A segment from 10.0.0.1, port 80, to 10.0.0.2, port 81. -/
def dataSegment (id seq : ℕ) (flags : UInt8) (payload : Bytes) : Bytes :=
  withChecksum ([0x45, 0] ++ putBE16 (40 + payload.length) ++ putBE16 id ++
    [0x40, 0, 64, 6, 0, 0, 10, 0, 0, 1, 10, 0, 0, 2, 0, 80, 0, 81] ++ putBE32 seq ++
    [0, 0, 0, 1, 0x50, flags, 1, 0, 0, 0, 0, 0] ++ payload)

/-- A segment of the same connection in a packet with four octets of IP options. -/
def optionSegment (id seq : ℕ) (payload : Bytes) : Bytes :=
  [0x46, 0] ++ putBE16 (44 + payload.length) ++ putBE16 id ++
    [0x40, 0, 64, 6, 0, 0, 10, 0, 0, 1, 10, 0, 0, 2, 1, 1, 1, 1, 0, 80, 0, 81] ++ putBE32 seq ++
    [0, 0, 0, 1, 0x50, 0x10, 1, 0, 0, 0, 0, 0] ++ payload

/-- The connection of these segments. -/
def exampleTuple : Bytes := [10, 0, 0, 1, 10, 0, 0, 2, 0, 80, 0, 81]

/-- Two segments that are joined, a pure ACK, and a segment that does not continue them. -/
def joinedBatch : List Bytes :=
  [dataSegment 1 100 0x10 [1, 2, 3], dataSegment 2 103 0x18 [4, 5], dataSegment 3 105 0x10 [],
    dataSegment 9 200 0x10 [6]]

theorem gro_transparent_joined :
    NoStale [] joinedBatch ∧ ∃ frames, handleInboundBatch [] joinedBatch = some frames ∧
      (∀ k, carried flowOf frames k = arrivals flowOf joinedBatch k) ∧
      frames.filter (fun f => flowOf f.data = none) =
        (joinedBatch.filter fun p => flowOf p = none).map Frame.packet ∧
      ∀ f ∈ frames, ∃ p ∈ joinedBatch, HeaderFrom p f :=
  ⟨by decide, gro_transparent [] joinedBatch (by decide)⟩

/-- A packet with IP options overtakes the segment before it. -/
theorem options_overtake : NoStale [] [dataSegment 1 100 0x10 [1, 2, 3], optionSegment 2 103 [4]] ∧
      arrivals tupleOf [dataSegment 1 100 0x10 [1, 2, 3], optionSegment 2 103 [4]] exampleTuple =
        [(100, [1, 2, 3]), (103, [4])] ∧
      (handleInboundBatch [] [dataSegment 1 100 0x10 [1, 2, 3], optionSegment 2 103 [4]]).map
        (carried tupleOf · exampleTuple) = some [(103, [4]), (100, [1, 2, 3])] := by
  decide

/-- Three packets of one connection, data, a pure ACK, data: the last payload is written as a frame
of its own, without headers; if the last packet has PSH set, the program stops. -/
theorem stale_append_breaks :
    handleInboundBatch [] [dataSegment 1 100 0x10 [1, 2, 3], dataSegment 9 103 0x10 [],
        dataSegment 2 103 0x10 [4, 5, 6]] =
      some [.packet (dataSegment 1 100 0x10 [1, 2, 3]), .packet (dataSegment 9 103 0x10 []),
        .packet [4, 5, 6]] ∧
    handleInboundBatch [] [dataSegment 1 100 0x10 [1, 2, 3], dataSegment 9 103 0x10 [],
        dataSegment 2 103 0x18 [4, 5, 6]] = none := by
  decide

end Veepin.Gro
