import Veepin.Core.Fair
import Veepin.Core.LeadsTo
import Veepin.OpenVPN.Turns

/-!
# What is written can be read

If the goroutines keep running and what is sent again and again arrives again and again, then all
that is passed to `Write` at one end is returned by `Read` at the other.

* `acknowledged` — a message in flight is acknowledged, or else it is sent, taken and acknowledged
  for ever;
* `control_stream` — the stream is reliable.
-/

namespace Veepin.OpenVPN

open List Channel Pair

/-! ## The schedule -/

section Schedule

variable (start : Pair) (sched : ℕ → PairEvent)

/-- One end at a point in time. -/
def endAt (s : Side) (n : ℕ) : Channel := (after Pair.step start sched n).ends s

/-- The pump transmits. -/
def Transmits (s : Side) (n : ℕ) : Prop :=
  sched n = .act s .transmit ∧ (endAt start sched s n).pump = .top

/-- A datagram of some kind is sent. -/
def Sending (s : Side) (K : Bytes → Prop) (n : ℕ) : Prop :=
  ∃ dg, K dg ∧ dg ∈ (endAt start sched s (n + 1)).sent.drop (endAt start sched s n).sent.length

/-- A datagram of some kind is handled. -/
def Handling (s : Side) (K : Bytes → Prop) (n : ℕ) : Prop :=
  sched n = .act s .datagram ∧ (endAt start sched s n).pump = .select ∧
    ∃ dg rest, (endAt start sched s n).datagrams = dg :: rest ∧ K dg

/-- A chunk could be taken. -/
def Chunkable (s : Side) (n : ℕ) : Prop :=
  (endAt start sched s n).pump = .select ∧ (endAt start sched s n).sender.ready = true ∧
    (endAt start sched s n).writing ≠ []

/-- What is assumed of a schedule: the goroutines run, no channel is closed, and a datagram of one
kind (one that carries or acknowledges a certain message) that is sent again and again is handled
again and again. -/
structure Delivers : Prop where
  few : ∀ n, (after Pair.step start sched n).Few
  running : ∀ n s, sched n ≠ .act s .close
  clock : Often fun n => sched n = .tick
  transmits : ∀ s, Often fun n => sched n = .act s .transmit
  timers : ∀ s, Often fun n => sched n = .act s .timer
  pushes : ∀ s, Often fun n => sched n = .act s .push
  reads : ∀ s, Often fun n => ∃ k, 0 < k ∧ sched n = .act s (.read k)
  /-- a `select` that could take a chunk again and again does so -/
  chunks : ∀ s, Often (Chunkable start sched s) →
    Often fun n => Chunkable start sched s n ∧ sched n = .act s .chunk
  messages : ∀ s id, Often (Sending start sched s (Carries · id)) →
    Often (Handling start sched s.other (Carries · id))
  acks : ∀ s id, Often (Sending start sched s (Acks · id)) →
    Often (Handling start sched s.other (Acks · id))

end Schedule

variable {n : ℕ} {id : UInt32}

section Live

variable {start : Pair} {sched : ℕ → PairEvent}

lemma running_at (hstart : start.Running) (h : Delivers start sched) :
    ∀ n, (after Pair.step start sched n).Running
  | 0 => hstart
  | n + 1 => by
    have hn := running_at hstart h n
    have hprompt : (after step start sched n).Prompt (sched n) := by
      unfold Pair.Prompt
      split
      · next s e _ =>
          unfold Channel.Prompt
          split
          · exact fun _ => (hn.ends s).isOpen
          · exact fun _ => (hn.ends s).isOpen
          · trivial
      · trivial
    exact ⟨sane_step hn.sane (h.few n) _ hprompt (h.few (n + 1)), fun s =>
      (hn.turn (h.few n) (h.running n) s).running (hn.ends s)⟩

variable (hstart : start.Running) (h : Delivers start sched)

include hstart h

variable (s : Side)

lemma sane_at (n : ℕ) : (endAt start sched s n).Sane (endAt start sched s.other n) :=
  (running_at hstart h n).sane s

/-- **One step of an end**, at a point in time. -/
lemma turn_at (n : ℕ) :
    PumpTurn (endAt start sched s n) (after Pair.step start sched n).now ((sched n).eventAt s)
      (endAt start sched s (n + 1)) :=
  (running_at hstart h n).turn (h.few n) (h.running n) s

omit hstart h in
/-- The step of an event that happens at this end. -/
lemma react_at {s : Side} {ev : ChannelEvent} (he : sched n = .act s ev) :
    endAt start sched s (n + 1) =
      (endAt start sched s n).react (after Pair.step start sched n).now ev := by
  rw [endAt, after, he, step, turn_self]
  rfl

/-! ## The pump -/

lemma leads_room (ps : List Bytes) :
    Leads (fun n => (endAt start sched s n).pump = .deliver ps)
      fun n => ((endAt start sched s n).pump = .deliver ps ∧
        (endAt start sched s n).inbound.length < inboundQueue) ∨
        (endAt start sched s n).pump = .delivering ps.tail := by
  refine Leads.rank (fun n => (endAt start sched s n).backlog) fun k => ?_
  refine Leads.trans (Leads.meet (h.reads s) (Q := fun n =>
    (endAt start sched s n).pump = .delivering ps.tail ∨
      (endAt start sched s n).pump = .deliver ps ∧ (endAt start sched s n).backlog < k)
    fun n hn _ => ?_) ?_
  · obtain ⟨hp, hk⟩ := hn
    rcases (turn_at hstart h s n).deliver hp with ⟨hp', hle, -⟩ | ⟨hmoved, -⟩
    · rcases (hk ▸ hle).lt_or_eq with hlt | heq
      · exact .inr (.inr ⟨hp', hlt⟩)
      · exact .inl ⟨hp', heq⟩
    · exact .inr (.inl hmoved)
  · rintro n (⟨⟨hp, hk⟩, j, hj, he⟩ | hmoved | hless)
    · by_cases hroom : (endAt start sched s n).inbound.length < inboundQueue
      · exact ⟨n, le_rfl, .inl (.inl ⟨hp, hroom⟩)⟩
      -- a full queue is not empty, so that the read takes something
      refine ⟨n + 1, n.le_succ, .inr ?_⟩
      rw [react_at he, ← hk]
      have hpos : 0 < (endAt start sched s n).backlog := by
        unfold backlog
        unfold inboundQueue at hroom
        omega
      refine ⟨?_, (read_backlog _ j).2.2 hj hpos⟩
      rw [react, read_frame]
      exact hp
    · exact ⟨n, le_rfl, .inl (.inr hmoved)⟩
    · exact ⟨n, le_rfl, .inr hless⟩

/-- The next payload is handed on. -/
lemma leads_pushed (p : Bytes) (ps : List Bytes) :
    Leads (fun n => (endAt start sched s n).pump = .deliver (p :: ps))
      fun n => (endAt start sched s n).pump = .delivering ps := by
  refine (leads_room hstart h s (p :: ps)).trans (Leads.or ?_ (Leads.of_imp fun _ hn => hn))
  refine (Leads.meet (h.pushes s) (Q := fun n => (endAt start sched s n).pump = .delivering ps)
    fun n hn _ => ?_).trans (Leads.or (Leads.next fun n hn => ?_) (Leads.of_imp fun _ hn => hn))
  · obtain ⟨hp, hroom⟩ := hn
    rcases (turn_at hstart h s n).deliver hp with ⟨hp', -, hle⟩ | ⟨hmoved, -⟩
    · exact .inl ⟨hp', hle.trans_lt hroom⟩
    · exact .inr hmoved
  · obtain ⟨⟨hp, hroom⟩, he⟩ := hn
    rw [react_at he]
    simp [react, hp, hroom]

/-- All payloads are handed on. -/
lemma leads_returned : Leads (fun n => ∃ ps, (endAt start sched s n).pump = .deliver ps)
      fun n => (endAt start sched s n).pump = .top := by
  refine Leads.rank (fun n => (endAt start sched s n).pump.rest.length) fun k n hn => ?_
  obtain ⟨⟨ps, hp⟩, hk⟩ := hn
  cases ps with
  | nil => exact absurd hp ((running_at hstart h n).ends s).pump.2
  | cons p ps =>
    obtain ⟨m, hm, hp'⟩ := leads_pushed hstart h s p ps n hp
    refine ⟨m, hm, ?_⟩
    rw [hp, Pump.rest, length_cons] at hk
    cases ps with
    | nil => exact .inl hp'
    | cons p' ps => exact .inr ⟨⟨_, hp'⟩, by rw [hp']; exact hk ▸ Nat.lt_succ_self _⟩

lemma often_top : Often fun n => (endAt start sched s n).pump = .top := by
  have hdeliver := leads_returned hstart h s
  have hany : ∀ n, (endAt start sched s n).pump = .top ∨ (endAt start sched s n).pump = .select ∨
      ∃ ps, (endAt start sched s n).pump = .deliver ps := fun n => by
    have := ((running_at hstart h n).ends s).pump.1
    cases hp : (endAt start sched s n).pump with
    | top => exact .inl rfl
    | select => exact .inr (.inl rfl)
    | deliver ps => exact .inr (.inr ⟨ps, rfl⟩)
    | stopped => exact absurd hp this
  have hselect : Leads (fun n => (endAt start sched s n).pump = .select)
      fun n => (endAt start sched s n).pump = .top := by
    refine (Leads.meet (h.timers s) (Q := fun n => (endAt start sched s n).pump = .top ∨
      ∃ ps, (endAt start sched s n).pump = .deliver ps) fun n hn _ => ?_).trans
      (Leads.or (Leads.next fun n hn => ?_) (Leads.or (Leads.of_imp fun _ hn => hn) hdeliver))
    · rcases hany (n + 1) with ht | hs | hd
      · exact .inr (.inl ht)
      · exact .inl hs
      · exact .inr (.inr hd)
    · rw [react_at hn.2]
      simp [react, hn.1]
  intro n
  rcases hany n with ht | hs | hd
  · exact ⟨n, le_rfl, ht⟩
  · exact hselect n hs
  · exact hdeliver n hd

/-- **The pump transmits** again and again. -/
lemma often_transmits : Often (Transmits start sched s) := by
  have hlead : Leads (fun n => (endAt start sched s n).pump = .top) (Transmits start sched s) := by
    refine (Leads.meet (h.transmits s) (Q := fun _ => False) fun n hn hno => ?_).trans
      (Leads.or (Leads.of_imp fun n hn => ⟨hn.2, hn.1⟩) (Leads.of_imp fun _ hn => hn.elim))
    exact .inl ((turn_at hstart h s n).top hn fun he => hno (PairEvent.eventAt_eq_some.1 he))
  exact hlead.often (often_top hstart h s)

/-! ## Acknowledgements -/

lemma transmit_at {s : Side} (ht : Transmits start sched s n) : ∃ dgs, endAt start sched s (n + 1) =
        { (endAt start sched s n).prepared (after Pair.step start sched n).now with
          sent := (endAt start sched s n).sent ++ dgs } ∧
      (∀ m ∈ (endAt start sched s n).sender.due (after Pair.step start sched n).now,
        Sending start sched s (Carries · m.id) n) ∧
      ∀ id ∈ (endAt start sched s n).nextACKs, Sending start sched s (Acks · id) n := by
  obtain ⟨dgs, heq, -, hdue, hacks⟩ := transmit_spec (sane_at hstart h s n).own
    (after step start sched n).now
  have hnext : endAt start sched s (n + 1) =
      { (endAt start sched s n).prepared (after step start sched n).now with
        sent := (endAt start sched s n).sent ++ dgs } := by
    rw [react_at ht.1, ← heq, react, if_pos ht.2]
  have hsent : ∀ dg ∈ dgs, dg ∈ (endAt start sched s (n + 1)).sent.drop
      (endAt start sched s n).sent.length := fun dg hdg => by
    rw [hnext]
    simpa using hdg
  refine ⟨dgs, hnext, fun m hm => ?_, fun id hid => ?_⟩
  · obtain ⟨dg, hdg, hc⟩ := hdue m hm
    exact ⟨dg, hc, hsent dg hdg⟩
  · obtain ⟨dg, hdg, hc⟩ := hacks id hid
    exact ⟨dg, hc, hsent dg hdg⟩

/-- An acknowledgement that waits is sent.  Each transmission takes four from the front. -/
lemma leads_acks (id : UInt32) (k : ℕ) :
    Leads (fun n => (endAt start sched s n).remote.isSome = true ∧
        id ∈ (endAt start sched s n).receiver.pending.take k)
      (Sending start sched s (Acks · id)) := by
  induction k using Nat.strong_induction_on with
  | _ k ih =>
    refine (Leads.meet (often_transmits hstart h s) (Q := fun _ => False)
      fun n hn hno => ?_).trans (Leads.or (fun n hn => ?_) fun _ hn => hn.elim)
    · obtain ⟨hr, hp⟩ := (turn_at hstart h s n).pending hn.1 fun he htop =>
        hno ⟨PairEvent.eventAt_eq_some.1 he, htop⟩
      exact .inl ⟨hr, (hp.take k).subset hn.2⟩
    · obtain ⟨⟨hr, hmem⟩, ht⟩ := hn
      obtain ⟨dgs, hnext, -, hacks⟩ := transmit_at hstart h ht
      have hacks' : (endAt start sched s n).nextACKs =
          (endAt start sched s n).receiver.pending.take 4 := by
        rw [nextACKs, if_pos hr]
        rfl
      by_cases hfirst : id ∈ (endAt start sched s n).receiver.pending.take 4
      · exact ⟨n, le_rfl, hacks id (hacks' ▸ hfirst)⟩
      have hk : 4 < k := by
        by_contra hle
        exact hfirst ((take_subset_take_left _ (not_lt.1 hle)) hmem)
      have hrest : id ∈ ((endAt start sched s n).receiver.pending.drop 4).take (k - 4) := by
        rw [← take_append_drop 4 (take k _)] at hmem
        rcases mem_append.1 hmem with hm | hm
        · rw [take_take, Nat.min_eq_left hk.le] at hm
          exact absurd hm hfirst
        · rwa [drop_take] at hm
      obtain ⟨m, hm, hs⟩ := ih (k - 4) (by omega) (n + 1) (by
        dsimp only
        rw [hnext]
        simp only [prepared, hr, if_true]
        exact ⟨trivial, hrest⟩)
      exact ⟨m, n.le_succ.trans hm, hs⟩

/-- A message that is handled is acknowledged. -/
lemma handling_leads_acks (id : UInt32) :
    Leads (Handling start sched s (Carries · id)) (Sending start sched s (Acks · id)) := by
  rintro n ⟨he, hp, dg, rest, hdgs, q, hq, hop, hid⟩
  obtain ⟨q', hq', ⟨hop', -⟩ | ⟨-, out, r, hr, heq⟩⟩ :=
    datagram_cases (sane_at hstart h s n) (h.few n s.other) hdgs
  · obtain rfl := Option.some.inj (hq.symm.trans hq')
    exact absurd hop' hop
  · obtain rfl := Option.some.inj (hq.symm.trans hq')
    have hnext : (endAt start sched s (n + 1)).remote.isSome = true ∧
        (endAt start sched s (n + 1)).receiver.pending =
          (endAt start sched s n).receiver.pending ++ [id] := by
      rw [react_at he]
      simp only [react, hp, hdgs]
      rw [heq, ← hid]
      exact ⟨rfl, hr⟩
    obtain ⟨m, hm, hs⟩ := leads_acks hstart h s id
      (endAt start sched s (n + 1)).receiver.pending.length (n + 1) (by
        refine ⟨hnext.1, ?_⟩
        rw [take_length, hnext.2]
        exact mem_append_right _ (mem_singleton_self _))
    exact ⟨m, n.le_succ.trans hm, hs⟩

/-! ## Messages -/

omit hstart in
lemma clock_passes (t : ℕ) : ∃ n, ∀ m, n ≤ m → t ≤ (after Pair.step start sched m).now := by
  have hstep : ∀ n, (after step start sched n).now ≤
      (after step start sched (n + 1)).now := fun n => by
    rw [after]
    unfold step
    split
    · exact Nat.le_succ _
    · split <;> exact le_rfl
    · exact le_rfl
  have hmono := monotone_nat_of_le_succ hstep
  induction t with
  | zero => exact ⟨0, fun _ _ => Nat.zero_le _⟩
  | succ t ih =>
    obtain ⟨n, hn⟩ := ih
    obtain ⟨m, hm, he⟩ := h.clock n
    refine ⟨m + 1, fun k hk => le_trans ?_ (hmono hk)⟩
    dsimp only
    rw [after, he, step]
    exact Nat.succ_le_succ (hn m hm)

lemma timeout_at : ∀ n, (endAt start sched s n).sender.timeout =
    (endAt start sched s 0).sender.timeout
  | 0 => rfl
  | n + 1 => (turn_at hstart h s n).timeout.trans (timeout_at n)

/-- A message stays in flight until it is acknowledged. -/
lemma stays_in_flight {k : ℕ} (hnk : n ≤ k)
    (hno : ∀ j, n ≤ j → j < k → ¬ Handling start sched s (Acks · id) j)
    (hin : ∃ m ∈ (endAt start sched s n).sender.inflight, m.id = id) :
    ∃ last, (endAt start sched s k).Waiting id last := by
  induction hnk with
  | refl =>
    obtain ⟨m, hm, hid⟩ := hin
    exact ⟨m.lastSent, m, hm, hid, fun _ => le_rfl⟩
  | step hn ih =>
    obtain ⟨last, hw⟩ := ih fun j hj hlt => hno j hj (hlt.trans (Nat.lt_succ_self _))
    rcases (turn_at hstart h s _).waiting hw fun dg rest he hp hdgs hacks =>
      hno _ hn (Nat.lt_succ_self _) ⟨PairEvent.eventAt_eq_some.1 he, hp, dg, rest, hdgs, hacks⟩
      with hw' | ⟨hw', -⟩
    · exact ⟨last, hw'⟩
    · exact hw'

/-- A message in flight that is not acknowledged is sent again and again.  If it were not, it would
become older and older, until a transmission finds it due. -/
lemma often_sends {n₀ : ℕ} (hno : ∀ n, n₀ ≤ n → ¬ Handling start sched s (Acks · id) n)
    (hin : ∃ m ∈ (endAt start sched s n₀).sender.inflight, m.id = id) :
    Often (Sending start sched s (Carries · id)) := by
  have hack : ∀ n, n₀ ≤ n → ∀ dg rest, (sched n).eventAt s = some .datagram →
      (endAt start sched s n).pump = .select → (endAt start sched s n).datagrams = dg :: rest →
      ¬ Acks dg id := fun n hn dg rest he hp hdgs hacks =>
    hno n hn ⟨PairEvent.eventAt_eq_some.1 he, hp, dg, rest, hdgs, hacks⟩
  intro n
  by_contra hnone
  have hquiet : ∀ k, n ≤ k → ¬ Sending start sched s (Carries · id) k :=
    fun k hk hs => hnone ⟨k, hk, hs⟩
  obtain ⟨last, hlast⟩ := stays_in_flight hstart h s (le_max_right n n₀)
    (fun j hj _ => hno j hj) hin
  have hold : ∀ k, max n n₀ ≤ k → (endAt start sched s k).Waiting id last := fun k hk => by
    induction hk with
    | refl => exact hlast
    | step hk ih =>
      rcases (turn_at hstart h s _).waiting ih (hack _ ((le_max_right _ _).trans hk)) with
        hw' | ⟨-, hsent⟩
      · exact hw'
      · exact absurd hsent (hquiet _ ((le_max_left _ _).trans hk))
  obtain ⟨n₁, hn₁⟩ := clock_passes h (last + (endAt start sched s 0).sender.timeout)
  obtain ⟨k, hk, ht⟩ := often_transmits hstart h s (max (max n n₀) n₁)
  obtain ⟨m, hm, hid, hsent⟩ := hold k ((le_max_left _ _).trans hk)
  have hdue : m ∈ (endAt start sched s k).sender.due (after step start sched k).now := by
    refine mem_filter.2 ⟨hm, decide_eq_true ?_⟩
    by_cases hs : m.everSent = true
    · have := hn₁ k ((le_max_right _ _).trans hk)
      have := hsent hs
      rw [timeout_at hstart h s k]
      exact .inr (by omega)
    · exact .inl (Bool.eq_false_iff.2 hs)
  obtain ⟨-, -, hcarry, -⟩ := transmit_at hstart h ht
  have := hcarry m hdue
  rw [hid] at this
  exact hquiet k ((le_max_left _ _).trans ((le_max_left _ _).trans hk)) this

/-- **A message in flight is acknowledged**, for the first time while it is in flight. -/
lemma acknowledged {m : Outgoing} (hm : m ∈ (endAt start sched s n).sender.inflight) :
    ∃ k, n ≤ k ∧ Handling start sched s (Acks · m.id) k ∧
      ∃ m' ∈ (endAt start sched s k).sender.inflight, m'.id = m.id := by
  have hex : ∃ k, n ≤ k ∧ Handling start sched s (Acks · m.id) k := by
    by_contra hnone
    have hno : ∀ k, n ≤ k → ¬ Handling start sched s (Acks · m.id) k :=
      fun k hk hh => hnone ⟨k, hk, hh⟩
    have hsends := often_sends hstart h s hno ⟨m, hm, rfl⟩
    have hacks := h.acks s.other m.id
      ((handling_leads_acks hstart h s.other m.id).often (h.messages s m.id hsends))
    rw [Side.other_other] at hacks
    obtain ⟨k, hk, hh⟩ := hacks n
    exact hno k hk hh
  classical
  obtain ⟨hk, hh⟩ := Nat.find_spec hex
  obtain ⟨-, m', hm', hid, -⟩ := stays_in_flight hstart h s hk
    (fun j hj hlt hhj => Nat.find_min hex hlt ⟨hj, hhj⟩) ⟨m, hm, rfl⟩
  exact ⟨_, hk, hh, m', hm', hid⟩

/-! ## The stages of a byte -/

lemma adds_at {m : ℕ} (hnm : n ≤ m) :
    Adds (endAt start sched s n) (endAt start sched s m) := by
  induction hnm with
  | refl => exact .refl _
  | step _ ih => exact ih.trans (turn_at hstart h s _).adds

/-- An acknowledgement makes the window smaller. -/
lemma handling_acks_lt {s : Side} {k : ℕ} {m : Outgoing} (hh : Handling start sched s (Acks · id) k)
    (hm : m ∈ (endAt start sched s k).sender.inflight) (hid : m.id = id) :
    (endAt start sched s (k + 1)).sender.inflight.length <
      (endAt start sched s k).sender.inflight.length := by
  obtain ⟨he, hp, dg, rest, hdgs, q, hq, hack⟩ := hh
  have hlt := length_foldl_ack_lt q.acks _ (hid ▸ hack) hm
  obtain ⟨q', hq', ⟨-, heq⟩ | ⟨-, out, r, -, heq⟩⟩ :=
    datagram_cases (sane_at hstart h s k) (h.few k s.other) hdgs <;>
  · obtain rfl := Option.some.inj (hq.symm.trans hq')
    rw [react_at he]
    simp only [react, hp, hdgs]
    rw [heq]
    exact hlt

/-- A writer that waits is served.  Otherwise its window, which nothing refills, gets room when a
message in it is acknowledged. -/
lemma chunk_taken (hw : (endAt start sched s n).writing ≠ []) :
    ∃ m, n ≤ m ∧ Chunkable start sched s m ∧ sched m = .act s .chunk := by
  by_contra hnone
  have hno : ∀ m, n ≤ m → ¬ (Chunkable start sched s m ∧ sched m = .act s .chunk) :=
    fun m hm hc => hnone ⟨m, hm, hc⟩
  have hturn : ∀ m, n ≤ m → (endAt start sched s m).writing ≠ [] →
      (endAt start sched s (m + 1)).writing = (endAt start sched s m).writing ∧
      (endAt start sched s (m + 1)).sender.inflight.length ≤
        (endAt start sched s m).sender.inflight.length ∧
      (endAt start sched s (m + 1)).sender.window = (endAt start sched s m).sender.window :=
    fun m hm hwm => (turn_at hstart h s m).writing hwm fun he hc =>
      hno m hm ⟨⟨hc.1, hc.2, hwm⟩, PairEvent.eventAt_eq_some.1 he⟩
  have hwait : ∀ m, n ≤ m → (endAt start sched s m).writing ≠ [] := fun m hm => by
    induction hm with
    | refl => exact hw
    | step hm ih => exact (hturn _ hm ih).1 ▸ ih
  have hready : ∀ m k, n ≤ m → m ≤ k → (endAt start sched s m).sender.ready = true →
      (endAt start sched s k).sender.ready = true := fun m k hm hk hr => by
    induction hk with
    | refl => exact hr
    | step hk ih =>
      obtain ⟨-, hle, hwin⟩ := hturn _ (hm.trans hk) (hwait _ (hm.trans hk))
      have := of_decide_eq_true ih
      exact decide_eq_true (hwin ▸ hle.trans_lt this)
  -- the window has room from some time on
  obtain ⟨m, hm, hr⟩ : ∃ m, n ≤ m ∧ (endAt start sched s m).sender.ready = true := by
    by_contra hfull
    have hfull : ∀ m, n ≤ m → ¬ (endAt start sched s m).sender.ready = true :=
      fun m hm hr => hfull ⟨m, hm, hr⟩
    have hlen : ∀ m, n ≤ m → 4 ≤ (endAt start sched s m).sender.inflight.length := fun m hm => by
      have := hfull m hm
      rw [Sender.ready, (sane_at hstart h s m).own.window, decide_eq_true_eq] at this
      omega
    obtain ⟨o, ho⟩ := exists_mem_of_length_pos ((by decide : 0 < 4).trans_le (hlen n le_rfl))
    obtain ⟨k, hk, hh, o', ho', hid⟩ := acknowledged hstart h s ho
    have hlt := handling_acks_lt hstart h hh ho' hid
    have hle := (sane_at hstart h s k).own.tracks.window
    rw [(sane_at hstart h s k).own.window] at hle
    have := hlen (k + 1) (hk.trans k.le_succ)
    omega
  have hchunk : Often (Chunkable start sched s) := fun k => by
    obtain ⟨l, hl, ht⟩ := often_transmits hstart h s (max k m)
    refine ⟨l + 1, ((le_max_left _ _).trans hl).trans l.le_succ, ?_, ?_, ?_⟩
    · obtain ⟨dgs, hnext, -⟩ := transmit_at hstart h ht
      rw [hnext]
      rfl
    · exact hready m _ hm (((le_max_right _ _).trans hl).trans l.le_succ) hr
    · exact hwait _ ((hm.trans ((le_max_right _ _).trans hl)).trans l.le_succ)
  obtain ⟨k, hk, hc⟩ := h.chunks s hchunk n
  exact hno k hk hc

/-- **What is written is queued.** -/
lemma queued_all (w : ℕ) : Leads (fun n => w ≤ (endAt start sched s n).written.length)
      fun n => w ≤ (endAt start sched s n).queued.flatten.length := by
  refine Leads.rank (fun n => w - (endAt start sched s n).queued.flatten.length) fun k n hn => ?_
  obtain ⟨hw, hk⟩ := hn
  by_cases hgoal : w ≤ (endAt start sched s n).queued.flatten.length
  · exact ⟨n, le_rfl, .inl hgoal⟩
  have hwriting : (endAt start sched s n).writing ≠ [] := fun hnil => by
    have := (sane_at hstart h s n).own.writing ((running_at hstart h n).ends s).isOpen
    rw [hnil, append_nil] at this
    exact hgoal (this ▸ hw)
  obtain ⟨m, hm, ⟨hp, hr, hne⟩, he⟩ := chunk_taken hstart h s hwriting
  have hadds := adds_at hstart h s hm
  refine ⟨m + 1, hm.trans m.le_succ, .inr ⟨?_, ?_⟩⟩
  · exact hw.trans (adds_at hstart h s (hm.trans m.le_succ)).written.length_le
  have hlen : (endAt start sched s (m + 1)).queued.flatten.length =
      (endAt start sched s m).queued.flatten.length +
        ((endAt start sched s m).writing.take maxControlPayload).length := by
    rw [react_at he]
    simp [react, hp, hr, hne, enqueue]
  have hpos : 0 < ((endAt start sched s m).writing.take maxControlPayload).length := by
    have := length_pos_iff.2 hne
    rw [length_take, maxControlPayload]
    omega
  have hle := hadds.queued.flatten.length_le
  omega

/-- A message that is queued is taken. -/
lemma taken_at {i : ℕ} (hi : i < (endAt start sched s n).queued.length) :
    ∃ m, n ≤ m ∧ UInt32.ofNat i ∈ (endAt start sched s.other m).taken := by
  rcases (sane_at hstart h s n).knows.released i hi with ⟨o, ho, hid⟩ | ht
  · obtain ⟨m, hm, ⟨-, -, dg, rest, hdgs, q, hq, hack⟩, -⟩ := acknowledged hstart h s ho
    obtain ⟨q', hq', htrue⟩ :=
      (sane_at hstart h s m).knows.datagrams dg (hdgs ▸ mem_cons_self)
    obtain rfl := Option.some.inj (hq.symm.trans hq')
    exact ⟨m, hm, hid ▸ htrue.acks _ hack⟩
  · exact ⟨n, le_rfl, ht⟩

/-- **What is queued is handed on.** -/
lemma delivered_all (n : ℕ) : ∃ m, n ≤ m ∧
      (endAt start sched s n).queued.length ≤ (endAt start sched s.other m).delivered.length := by
  have hall : ∀ k ≤ (endAt start sched s n).queued.length,
      ∃ m, n ≤ m ∧ ∀ i < k, UInt32.ofNat i ∈ (endAt start sched s.other m).taken := fun k => by
    induction k with
    | zero => exact fun _ => ⟨n, le_rfl, fun i hi => absurd hi (Nat.not_lt_zero i)⟩
    | succ k ih =>
      intro hk
      obtain ⟨m, hm, hlt⟩ := ih (k.le_succ.trans hk)
      obtain ⟨m', hm', ht⟩ := taken_at hstart h s hk
      refine ⟨max m m', hm.trans (le_max_left _ _), fun i hi => ?_⟩
      rcases Nat.lt_succ_iff_lt_or_eq.1 hi with hi | rfl
      · exact (adds_at hstart h s.other (le_max_left m m')).taken (hlt i hi)
      · exact (adds_at hstart h s.other (le_max_right m m')).taken ht
  obtain ⟨m, hm, ht⟩ := hall _ le_rfl
  have hknows := (sane_at hstart h s.other m).knows
  rw [Side.other_other] at hknows
  exact ⟨m, hm, hknows.holds.complete hknows.drained (adds_at hstart h s hm).queued.length_le ht⟩

/-- What waits in the pump becomes readable. -/
lemma leads_readable (d : ℕ) :
    Leads (fun n => d ≤ (endAt start sched s n).delivered.flatten.length ∧
        (endAt start sched s n).returned.length < d)
      fun n => (endAt start sched s n).Readable := by
  intro n hn
  by_cases hr : (endAt start sched s n).Readable
  · exact ⟨n, le_rfl, hr⟩
  obtain ⟨hrem, hin⟩ := not_or.1 hr
  obtain ⟨p, ps, hp⟩ : ∃ p ps, (endAt start sched s n).pump = .deliver (p :: ps) := by
    have hread := (sane_at hstart h s n).own.reading ((running_at hstart h n).ends s).isOpen
    rw [not_not.1 hrem, not_not.1 hin, flatten_nil, append_nil, append_nil]
      at hread
    cases hp : (endAt start sched s n).pump with
    | deliver ps =>
      cases ps with
      | nil => exact absurd hp ((running_at hstart h n).ends s).pump.2
      | cons p ps => exact ⟨p, ps, rfl⟩
    | _ =>
      have hlen := congrArg length hread
      simp only [hp, Pump.rest, flatten_nil, append_nil] at hlen
      omega
  obtain ⟨m, hm, ⟨⟨hp', hin'⟩, he⟩ | hr'⟩ := Leads.meet (h.pushes s)
    (P := fun n => (endAt start sched s n).pump = .deliver (p :: ps) ∧
      (endAt start sched s n).inbound.length = 0)
    (Q := fun n => (endAt start sched s n).Readable) (fun n hn _ => by
      rcases (turn_at hstart h s n).deliver hn.1 with ⟨hp', -, hle⟩ | ⟨-, hne⟩
      · exact .inl ⟨hp', Nat.le_zero.1 (hn.2 ▸ hle)⟩
      · exact .inr (.inr hne)) n ⟨hp, by simp [not_not.1 hin]⟩
  · refine ⟨m + 1, hm.trans m.le_succ, .inr ?_⟩
    rw [react_at he]
    simp [react, hp', hin', inboundQueue]
  · exact ⟨m, hm, hr'⟩

/-- **What is handed on is read.** -/
lemma read_all (d : ℕ) :
    Leads (fun n => d ≤ (endAt start sched s n).delivered.flatten.length)
      fun n => d ≤ (endAt start sched s n).returned.length := by
  refine Leads.rank (fun n => d - (endAt start sched s n).returned.length) fun k n hn => ?_
  obtain ⟨hd, hk⟩ := hn
  by_cases hgoal : d ≤ (endAt start sched s n).returned.length
  · exact ⟨n, le_rfl, .inl hgoal⟩
  obtain ⟨m, hm, hr⟩ := leads_readable hstart h s d n ⟨hd, not_le.1 hgoal⟩
  have hne : ∀ j, ∀ p ∈ (endAt start sched s j).inbound, p ≠ [] := fun j p hp =>
    (sane_at hstart h s j).own.nonempty p (mem_append_left _ hp)
  obtain ⟨l, hl, ⟨hr', i, hi, he⟩ | hfalse⟩ := Leads.meet (h.reads s)
    (P := fun n => (endAt start sched s n).Readable) (Q := fun _ => False) (fun j hj hno =>
      .inl ((turn_at hstart h s j).readable hj (hne j) fun i hi he =>
        hno ⟨i, hi, PairEvent.eventAt_eq_some.1 he⟩)) m hr
  · have hnl := hm.trans hl
    have hgrow := read_returns hi hr' (hne l)
    have hle := (adds_at hstart h s hnl).returned.length_le
    refine ⟨l + 1, hnl.trans l.le_succ, .inr ⟨?_, ?_⟩⟩
    · exact hd.trans (adds_at hstart h s (hnl.trans l.le_succ)).delivered.flatten.length_le
    · rw [react_at he, react]
      omega
  · exact hfalse.elim

/-- **Delivery.**  What is written at one end is returned at the other. -/
lemma delivery (n : ℕ) :
    ∃ m, n ≤ m ∧ (endAt start sched s n).written <+: (endAt start sched s.other m).returned := by
  obtain ⟨m₁, h₁, hqueued⟩ := queued_all hstart h s _ n le_rfl
  obtain ⟨m₂, h₂, hdelivered⟩ := delivered_all hstart h s m₁
  obtain ⟨m₃, h₃, hread⟩ := read_all hstart h s.other _ m₂ le_rfl
  have hknows := (sane_at hstart h s.other m₂).knows.holds.inOrder
  rw [Side.other_other] at hknows
  have hpre : (endAt start sched s m₁).queued <+: (endAt start sched s.other m₂).delivered :=
    prefix_of_prefix_length_le (adds_at hstart h s h₂).queued hknows hdelivered
  have hstream := ((running_at hstart h m₃).sane.stream s.other).inOrder
  rw [Side.other_other] at hstream
  refine ⟨m₃, (h₁.trans h₂).trans h₃, ?_⟩
  refine prefix_of_prefix_length_le (adds_at hstart h s ((h₁.trans h₂).trans h₃)).written hstream ?_
  calc (endAt start sched s n).written.length
      ≤ (endAt start sched s m₁).queued.flatten.length := hqueued
    _ ≤ (endAt start sched s.other m₂).delivered.flatten.length := hpre.flatten.length_le
    _ ≤ (endAt start sched s.other m₃).returned.length := hread

end Live

lemma Pair.running_new (keyID : Side → UInt8) (localID : Side → SessionID) (timeout : Side → ℕ) :
    (Pair.new keyID localID timeout).Running :=
  ⟨sane_new keyID localID timeout, fun _ => ⟨rfl, nofun, nofun⟩⟩

/-- **A reliable byte stream.**  In every run in which the pumps are prompt the bytes read are a
prefix of those written, the window holds at most four messages, and a message leaves it after the
other end has taken it; and if what is sent again and again arrives, all that is written is read. -/
theorem control_stream (keyID : Side → UInt8) (localID : Side → SessionID) (timeout : Side → ℕ) :
    (∀ es, Always Pair.step Pair.Few (Pair.new keyID localID timeout) es →
      Along Pair.step Pair.Prompt (Pair.new keyID localID timeout) es →
      Always Pair.step (fun p => ∀ s, p.Stream s) (Pair.new keyID localID timeout) es) ∧
    ∀ sched, Delivers (Pair.new keyID localID timeout) sched → ∀ s n, ∃ m, n ≤ m ∧
      (endAt (Pair.new keyID localID timeout) sched s n).written <+:
        (endAt (Pair.new keyID localID timeout) sched s.other m).returned :=
  ⟨fun es hfew hprompt => stream_run _ es (sane_new keyID localID timeout) hprompt hfew,
    fun _ hd s n => delivery (running_new keyID localID timeout) hd s n⟩

/-! ### A run, and a run that is closed -/

/-- Two channels without keys. -/
def plainPair : Pair := Pair.new (fun _ => 0) (fun _ => sessionIDOf []) fun _ => 2

/-- The hard resets and their acknowledgements; then two messages are sent.  The first is lost, and
the second arrives twice before the first is sent again. -/
def exchange : List PairEvent :=
  [.act .client .transmit, .arrive .server 0, .act .server .transmit, .act .server .datagram,
    .act .server .transmit, .arrive .client 0, .arrive .client 1, .act .client .datagram,
    .act .client .transmit, .act .client .datagram, .act .client .transmit, .arrive .server 1,
    .act .server .datagram, .act .server .transmit, .act .client (.write [1, 2]),
    .act .client .chunk, .act .client .transmit, .act .client (.write [3]), .act .client .chunk,
    .act .client .transmit, .arrive .server 3, .arrive .server 3, .act .server .datagram,
    .act .server .transmit, .act .server .datagram, .act .server .transmit, .tick, .tick,
    .act .client .timer, .act .client .transmit, .arrive .server 4, .act .server .datagram,
    .act .server .push, .act .server .push, .act .server .transmit, .act .server (.read 10),
    .act .server (.read 10), .arrive .client 4, .arrive .client 2, .act .client .datagram,
    .act .client .transmit, .act .client .datagram, .act .client .transmit]

/-- The goroutines go round. -/
def idling : List PairEvent :=
  [.tick, .act .client .transmit, .act .client .timer, .act .client .push, .act .client (.read 1),
    .act .server .transmit, .act .server .timer, .act .server .push, .act .server (.read 1)]

def exchangeAndIdle (n : ℕ) : PairEvent := exchange.getD n (idling.getD ((n - 43) % 9) .tick)

lemma exchangeAndIdle_idle (n : ℕ) : exchangeAndIdle (43 + n) = idling.getD (n % 9) .tick := by
  rw [exchangeAndIdle, getD_eq_default _ _ (by simp [exchange]), Nat.add_sub_cancel_left]

lemma mem_idling (n : ℕ) : exchangeAndIdle (43 + n) ∈ idling := by
  have hlt : n % 9 < idling.length := Nat.mod_lt _ (by decide)
  rw [exchangeAndIdle_idle, getD_eq_getElem _ _ hlt]
  exact getElem_mem hlt

lemma often_idling {e : PairEvent} (he : e ∈ idling) : Often fun n => exchangeAndIdle n = e := by
  obtain ⟨j, hj, rfl⟩ := mem_iff_getElem.1 he
  have hj' : j < 9 := hj
  intro n
  refine ⟨43 + (9 * n + j), by omega, ?_⟩
  dsimp only
  rw [exchangeAndIdle_idle, Nat.mul_add_mod, Nat.mod_eq_of_lt hj', getD_eq_getElem _ _ hj]

/-- Nothing is under way. -/
structure Channel.Quiet (c : Channel) : Prop where
  inflight : c.sender.inflight = []
  pending : c.receiver.pending = []
  inbound : c.inbound = []
  readRem : c.readRem = []
  writing : c.writing = []
  pump : c.pump = .top ∨ c.pump = .select

lemma Channel.Quiet.react {c : Channel} (h : c.Quiet) (now : ℕ) {e : ChannelEvent}
    (he : e ∈ [.transmit, .timer, .push, .read 1]) :
    (c.react now e).Quiet ∧ (c.react now e).sent = c.sent ∧ (c.react now e).queued = c.queued := by
  have hself : c.Quiet ∧ c.sent = c.sent ∧ c.queued = c.queued := ⟨h, rfl, rfl⟩
  simp only [mem_cons, not_mem_nil, or_false] at he
  rcases he with rfl | rfl | rfl | rfl
  · rw [Channel.react]
    split_ifs
    · have hacks : c.nextACKs = [] := by simp [Channel.nextACKs, Receiver.takeACKs, h.pending]
      have hdue : c.sender.due now = [] := by simp [Sender.due, h.inflight]
      rw [Channel.transmit, hdue]
      dsimp only
      rw [if_pos hacks]
      refine ⟨⟨by simp [Channel.prepared, Sender.sent, h.inflight], ?_, h.inbound, h.readRem,
        h.writing, .inr rfl⟩, rfl, rfl⟩
      simp only [Channel.prepared]
      split_ifs <;> simp [Receiver.takeACKs, h.pending]
    · exact hself
  · rw [Channel.react]
    split_ifs
    · exact ⟨{ h with pump := .inl rfl }, rfl, rfl⟩
    · exact hself
  · rcases h.pump with hp | hp <;> simp [Channel.react, hp, h]
  · simp [Channel.react, Channel.read, h.readRem, h.inbound, h]

lemma quiet_step {p : Pair} (h : ∀ s, (p.ends s).Quiet) {e : PairEvent} (he : e ∈ idling)
    (s : Side) : ((p.step e).ends s).Quiet ∧ ((p.step e).ends s).sent = (p.ends s).sent ∧
      ((p.step e).ends s).queued = (p.ends s).queued := by
  have hact : ∀ a ev, ev ∈ [ChannelEvent.transmit, .timer, .push, .read 1] →
      ((p.step (.act a ev)).ends s).Quiet ∧ ((p.step (.act a ev)).ends s).sent = (p.ends s).sent ∧
      ((p.step (.act a ev)).ends s).queued = (p.ends s).queued := fun a ev hev => by
    rcases s.eq_or_eq_other a with rfl | rfl
    · rw [step, turn_self]
      exact (h s).react p.now hev
    · rw [step, turn_other]
      exact ⟨h _, rfl, rfl⟩
  simp only [idling, mem_cons, not_mem_nil, or_false] at he
  rcases he with rfl | rfl | rfl | rfl | rfl | rfl | rfl | rfl | rfl
  · exact ⟨h s, rfl, rfl⟩
  all_goals exact hact _ _ (by simp)

instance Channel.Quiet.decidable (c : Channel) : Decidable c.Quiet :=
  decidable_of_iff (c.sender.inflight = [] ∧ c.receiver.pending = [] ∧ c.inbound = [] ∧
    c.readRem = [] ∧ c.writing = [] ∧ (c.pump = .top ∨ c.pump = .select))
    ⟨fun ⟨h₁, h₂, h₃, h₄, h₅, h₆⟩ => ⟨h₁, h₂, h₃, h₄, h₅, h₆⟩,
      fun ⟨h₁, h₂, h₃, h₄, h₅, h₆⟩ => ⟨h₁, h₂, h₃, h₄, h₅, h₆⟩⟩

/-- After the exchange nothing is under way, and nothing is sent any more. -/
lemma quiet_at (n : ℕ) (s : Side) : (endAt plainPair exchangeAndIdle s (43 + n)).Quiet ∧
      (endAt plainPair exchangeAndIdle s (43 + n)).sent =
        (endAt plainPair exchangeAndIdle s 43).sent ∧
      (endAt plainPair exchangeAndIdle s (43 + n)).queued =
        (endAt plainPair exchangeAndIdle s 43).queued := by
  induction n generalizing s with
  | zero =>
    have hquiet : ∀ s, (endAt plainPair exchangeAndIdle s 43).Quiet := by decide +kernel
    exact ⟨hquiet s, rfl, rfl⟩
  | succ n ih =>
    obtain ⟨h₁, h₂, h₃⟩ := quiet_step (fun s => (ih s).1) (mem_idling n) s
    exact ⟨h₁, h₂.trans (ih s).2.1, h₃.trans (ih s).2.2⟩

lemma few_exchange : ∀ n < 44, (after Pair.step plainPair exchangeAndIdle n).Few := by
  decide

/-- The schedule is one of those that deliver. -/
lemma delivers_exchange : Delivers plainPair exchangeAndIdle := by
  have hlate : ∀ {n : ℕ}, 43 ≤ n → ∃ k, n = 43 + k := fun hn => ⟨_, (Nat.add_sub_cancel' hn).symm⟩
  have hsends : ∀ s K, ¬ Often (Sending plainPair exchangeAndIdle s K) := fun s K ho => by
    obtain ⟨n, hn, dg, -, hdg⟩ := ho 43
    obtain ⟨k, rfl⟩ := hlate hn
    rw [Nat.add_assoc, (quiet_at (k + 1) s).2.1, (quiet_at k s).2.1, drop_length] at hdg
    exact nomatch hdg
  refine ⟨fun n => ?_, fun n s => ?_, often_idling (by decide), fun s => ?_, fun s => ?_,
    fun s => ?_, fun s => ?_, fun s ho => ?_, fun s id ho => absurd ho (hsends _ _),
    fun s id ho => absurd ho (hsends _ _)⟩
  · rcases Nat.lt_or_ge n 44 with hn | hn
    · exact few_exchange n hn
    obtain ⟨k, rfl⟩ := hlate ((by decide : 43 ≤ 44).trans hn)
    intro s
    have := few_exchange 43 (by decide) s
    rw [show (after step plainPair exchangeAndIdle (43 + k)).ends s =
      endAt plainPair exchangeAndIdle s (43 + k) from rfl, (quiet_at k s).2.2]
    exact this
  · have hmem : exchangeAndIdle n ∈ exchange ++ idling := by
      rcases Nat.lt_or_ge n 43 with hn | hn
      · rw [exchangeAndIdle, getD_eq_getElem _ _ (by simpa [exchange] using hn)]
        exact mem_append_left _ (getElem_mem _)
      · obtain ⟨k, rfl⟩ := hlate hn
        exact mem_append_right _ (mem_idling k)
    have hopen : ∀ e ∈ exchange ++ idling, e ≠ .act .client .close ∧ e ≠ .act .server .close := by
      decide
    cases s with
    | client => exact (hopen _ hmem).1
    | server => exact (hopen _ hmem).2
  · cases s <;> exact often_idling (by decide)
  · cases s <;> exact often_idling (by decide)
  · cases s <;> exact often_idling (by decide)
  · have hread : PairEvent.act s (.read 1) ∈ idling := by cases s <;> decide
    exact (often_idling hread).mono fun n hn => ⟨1, by decide, hn⟩
  · obtain ⟨n, hn, -, -, hw⟩ := ho 43
    obtain ⟨k, rfl⟩ := hlate hn
    exact absurd (quiet_at k s).1.writing hw

theorem control_stream_exchange : (endAt plainPair exchangeAndIdle .client 43).written = [1, 2, 3] ∧
      (∃ m, 43 ≤ m ∧ [1, 2, 3] <+: (endAt plainPair exchangeAndIdle .server m).returned) ∧
      Always Pair.step (fun p => ∀ s, p.Stream s) plainPair exchange := by
  have hstream := control_stream (fun _ => 0) (fun _ => sessionIDOf []) fun _ => 2
  have hwritten : (endAt plainPair exchangeAndIdle .client 43).written = [1, 2, 3] := by
    decide
  have hfew : Always step Pair.Few plainPair exchange := by decide
  have hprompt : Along step Pair.Prompt plainPair exchange := by decide
  refine ⟨hwritten, ?_, hstream.1 exchange hfew hprompt⟩
  have := hstream.2 exchangeAndIdle delivers_exchange .client 43
  rwa [show new (fun _ => 0) (fun _ => sessionIDOf []) (fun _ => 2) = plainPair from rfl,
    hwritten] at this

/-- Two messages have arrived when the server's channel is closed.  The first one is dropped; the
pump goes on to the second, and hands it on. -/
def closedExchange : List PairEvent :=
  [.act .client .transmit, .act .client (.write [1]), .act .client .chunk, .act .client .transmit,
    .act .client (.write [2]), .act .client .chunk, .act .client .transmit, .arrive .server 0,
    .arrive .server 1, .arrive .server 2, .act .server .transmit, .act .server .datagram,
    .act .server .transmit, .act .server .datagram, .act .server .close, .act .server .drop,
    .act .server .transmit, .act .server .datagram, .act .server .push, .act .server (.read 10)]

/-- **A gap.**  The server reads the second octet written, and not the first. -/
theorem stream_with_gap : Always Pair.step Pair.Few plainPair closedExchange ∧
      ¬ (run Pair.step plainPair closedExchange).Stream .server := by
  refine ⟨by decide, fun h => ?_⟩
  have hread : ((run step plainPair closedExchange).ends .server).returned = [2] ∧
      ((run step plainPair closedExchange).ends .client).written = [1, 2] := by
    decide
  have hgap := h.inOrder
  rw [hread.1, show Side.other .server = .client from rfl, hread.2] at hgap
  exact absurd hgap (by decide)

end Veepin.OpenVPN
