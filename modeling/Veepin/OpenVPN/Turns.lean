import Veepin.OpenVPN.Stream

/-!
# The turns of an open control channel

What the goroutines of a channel that is not closed can do, one case for each, and what each case
keeps.  The arguments about runs without end go by these cases.

* `PumpTurn` — the cases; `turn_react` and `Pair.Running.turn` — there are no others.
-/

namespace Veepin.OpenVPN

open List Channel Pair

/-! ## What a goroutine does -/

/-- The steps of a channel that is open, one case for each thing that can be done; `none` is for
what happens elsewhere. -/
inductive PumpTurn (c : Channel) (now : ℕ) : Option ChannelEvent → Channel → Prop
  /-- the event is not enabled -/
  | same (e : Option ChannelEvent) : PumpTurn c now e c
  | arrive (dg : Bytes) : PumpTurn c now none (c.deliver dg)
  | transmit {dgs : List Bytes} (hpump : c.pump = .top)
      (hdue : ∀ m ∈ c.sender.due now, ∃ dg ∈ dgs, Carries dg m.id)
      (hacks : ∀ id ∈ c.nextACKs, ∃ dg ∈ dgs, Acks dg id) :
      PumpTurn c now (some .transmit) { c.prepared now with sent := c.sent ++ dgs }
  | ack {dg : Bytes} {rest : List Bytes} {q : ControlPacket} (hpump : c.pump = .select)
      (hdgs : c.datagrams = dg :: rest) (hq : parseControl dg = some q)
      (hop : q.opcode = pACKV1) :
      PumpTurn c now (some .datagram)
        { c with
          datagrams := rest, pump := .top, remote := some q.sessionID
          sender := q.acks.foldl Sender.ack c.sender }
  | message {dg : Bytes} {rest out : List Bytes} {q : ControlPacket} {r : Receiver}
      (hpump : c.pump = .select) (hdgs : c.datagrams = dg :: rest)
      (hq : parseControl dg = some q) (hop : q.opcode ≠ pACKV1)
      (hr : r.pending = c.receiver.pending ++ [q.packetID]) :
      PumpTurn c now (some .datagram)
        { c with
          datagrams := rest, pump := .delivering (out.filter (· ≠ [])), remote := some q.sessionID
          sender := q.acks.foldl Sender.ack c.sender, receiver := r
          taken := q.packetID :: c.taken, delivered := c.delivered ++ out }
  | chunk (hpump : c.pump = .select) (hready : c.sender.ready = true) (hw : c.writing ≠ []) :
      PumpTurn c now (some .chunk)
        ({ c with pump := .top, writing := c.writing.drop maxControlPayload }.enqueue
          (c.writing.take maxControlPayload))
  | timer (hpump : c.pump = .select) : PumpTurn c now (some .timer) { c with pump := .top }
  | push {p : Bytes} {ps : List Bytes} (hpump : c.pump = .deliver (p :: ps))
      (hroom : c.inbound.length < inboundQueue) :
      PumpTurn c now (some .push) { c with inbound := c.inbound ++ [p], pump := .delivering ps }
  | write (p : Bytes) (hw : c.writing = []) :
      PumpTurn c now (some (.write p)) { c with writing := p, written := c.written ++ p }
  | read (k : ℕ) : PumpTurn c now (some (.read k)) (c.read k)

/-- A datagram of the other end, at a pump that waits. -/
lemma datagram_cases {c peer : Channel} (h : c.Sane peer) (hfew : peer.queued.length < 2 ^ 32)
    {dg : Bytes} {rest : List Bytes} (hdgs : c.datagrams = dg :: rest) :
    ∃ q, parseControl dg = some q ∧
      ((q.opcode = pACKV1 ∧ { c with datagrams := rest, pump := .top }.handleDatagram dg = { c with
          datagrams := rest, pump := .top, remote := some q.sessionID
          sender := q.acks.foldl Sender.ack c.sender }) ∨
      (q.opcode ≠ pACKV1 ∧ ∃ out r, r.pending = c.receiver.pending ++ [q.packetID] ∧
        { c with datagrams := rest, pump := .top }.handleDatagram dg =
        { c with
          datagrams := rest, pump := .delivering (out.filter (· ≠ [])), remote := some q.sessionID
          sender := q.acks.foldl Sender.ack c.sender, receiver := r
          taken := q.packetID :: c.taken, delivered := c.delivered ++ out })) := by
  obtain ⟨q, hq, htrue⟩ := h.knows.datagrams dg (hdgs ▸ mem_cons_self)
  obtain ⟨op, keyID, hop, hctl⟩ := parseControl_isControl hq
  refine ⟨q, hq, ?_⟩
  have hremote : ¬ (c.remote.isSome = true ∧ c.remote ≠ some q.sessionID) := by
    rintro ⟨hsome, hne⟩
    obtain ⟨sid, hsid⟩ := Option.isSome_iff_exists.1 hsome
    exact hne (by rw [hsid, h.knows.remote sid hsid, htrue.sessionID])
  by_cases hack : q.opcode = pACKV1
  · refine .inl ⟨hack, ?_⟩
    simp [handleDatagram, hop, hctl, hq, hremote, hack]
  · obtain ⟨i, hid, hi⟩ := htrue.message hack
    have hr := (h.knows.holds.receive hfew h.knows.drained hi).2.2
    rw [← hid] at hr
    refine .inr ⟨hack, (c.receiver.receive q.packetID q.payload).1, _, hr, ?_⟩
    simp [handleDatagram, hop, hctl, hq, hremote, hack]

lemma turn_react {c peer : Channel} (h : c.Sane peer) (hopen : c.closed = false)
    (hfew : peer.queued.length < 2 ^ 32) (now : ℕ) {e : ChannelEvent} (he : e ≠ .close) :
    PumpTurn c now (some e) (c.react now e) := by
  have hcl : ¬ c.closed = true := by rw [hopen]; exact Bool.false_ne_true
  cases e with
  | transmit =>
    rw [react]
    split_ifs with hp
    · obtain ⟨dgs, heq, -, hdue, hacks⟩ := transmit_spec h.own now
      rw [heq]
      exact .transmit hp hdue hacks
    · exact .same _
  | datagram =>
    rw [react]
    split
    · next hp hdgs =>
        obtain ⟨q, hq, ⟨hop, heq⟩ | ⟨hop, out, r, hr, heq⟩⟩ := datagram_cases h hfew hdgs
        · rw [heq]
          exact .ack hp hdgs hq hop
        · rw [heq]
          exact .message hp hdgs hq hop hr
    · exact .same _
  | chunk =>
    rw [react]
    split_ifs with hc
    · exact .chunk hc.1 hc.2.1 hc.2.2
    · exact .same _
  | timer =>
    rw [react]
    split_ifs with hp
    · exact .timer hp
    · exact .same _
  | stop =>
    rw [react]
    rw [if_neg fun hs => hcl hs.2]
    exact .same _
  | push =>
    rw [react]
    split
    · next hp =>
        split_ifs with hroom
        · exact .push hp hroom
        · exact .same _
    · exact .same _
  | drop =>
    rw [react]
    split
    · rw [if_neg hcl]
      exact .same _
    · exact .same _
  | write p =>
    rw [react]
    split_ifs with hw
    · exact .write p hw
    · exact .same _
  | abort =>
    rw [react]
    rw [if_neg hcl]
    exact .same _
  | read k => exact .read k
  | close => exact absurd rfl he

section PumpTurn

variable {c c' : Channel} {now : ℕ} {e : Option ChannelEvent}

lemma deliver_frame (c : Channel) (dg : Bytes) :
    c.deliver dg = { c with datagrams := (c.deliver dg).datagrams } := by
  unfold deliver
  split_ifs <;> rfl

lemma delivering_runs (ps : List Bytes) :
    Pump.delivering ps ≠ .stopped ∧ Pump.delivering ps ≠ .deliver [] := by
  cases ps <;> simp [Pump.delivering]

/-- Open, with a pump that runs. -/
structure Channel.Running (c : Channel) : Prop where
  isOpen : c.closed = false
  pump : c.pump ≠ .stopped ∧ c.pump ≠ .deliver []

lemma foldl_ack_const : ∀ (acks : List UInt32) (s : Sender),
    (acks.foldl Sender.ack s).timeout = s.timeout ∧ (acks.foldl Sender.ack s).window = s.window
  | [], _ => ⟨rfl, rfl⟩
  | id :: acks, s => foldl_ack_const acks (s.ack id)

/-- What a reader has before it. -/
def Channel.backlog (c : Channel) : ℕ :=
  c.readRem.length + c.inbound.flatten.length + c.inbound.length

lemma read_backlog (c : Channel) (k : ℕ) : (c.read k).backlog ≤ c.backlog ∧
    (c.read k).inbound.length ≤ c.inbound.length ∧
    (0 < k → 0 < c.backlog → (c.read k).backlog < c.backlog) := by
  unfold Channel.read
  split_ifs with hrem
  · have := length_pos_iff.2 hrem
    simp only [backlog, length_drop]
    omega
  split
  · next hin =>
      simp only [backlog, hin, not_not.1 hrem]
      simp
  · next hin =>
      simp only [backlog, hin, not_not.1 hrem, length_drop, flatten_cons,
        length_append, length_cons, length_nil]
      omega

lemma mem_foldl_ack {m : Outgoing} : ∀ (acks : List UInt32) (s : Sender), m.id ∉ acks →
    m ∈ s.inflight → m ∈ (acks.foldl Sender.ack s).inflight
  | [], _, _, hm => hm
  | id :: acks, s, hid, hm =>
    mem_foldl_ack acks (s.ack id) (fun hmem => hid (mem_cons_of_mem _ hmem)) ((mem_eraseP_of_neg (by
        simpa using fun he : m.id = id => hid (he ▸ mem_cons_self))).2 hm)

lemma length_foldl_ack : ∀ (acks : List UInt32) (s : Sender),
    (acks.foldl Sender.ack s).inflight.length ≤ s.inflight.length
  | [], _ => le_rfl
  | id :: acks, s => (length_foldl_ack acks (s.ack id)).trans length_eraseP_le

lemma length_foldl_ack_lt {m : Outgoing} : ∀ (acks : List UInt32) (s : Sender), m.id ∈ acks →
    m ∈ s.inflight → (acks.foldl Sender.ack s).inflight.length < s.inflight.length
  | id :: acks, s, hid, hm => by
    by_cases he : m.id = id
    · have hlt : (s.ack id).inflight.length < s.inflight.length := by
        have := length_pos_of_mem hm
        rw [Sender.ack, length_eraseP_of_mem hm (by simpa using he)]
        omega
      exact (length_foldl_ack acks (s.ack id)).trans_lt hlt
    · have hmem : m.id ∈ acks := (mem_cons.1 hid).resolve_left he
      exact (length_foldl_ack_lt acks (s.ack id) hmem
        ((mem_eraseP_of_neg (by simpa using he)).2 hm)).trans_le length_eraseP_le

/-- A message in flight that was last sent at some time, if at all. -/
def Channel.Waiting (c : Channel) (id : UInt32) (last : ℕ) : Prop :=
  ∃ m ∈ c.sender.inflight, m.id = id ∧ (m.everSent = true → m.lastSent ≤ last)

/-- What an end adds to. -/
structure Adds (c c' : Channel) : Prop where
  queued : c.queued <+: c'.queued
  taken : c.taken ⊆ c'.taken
  delivered : c.delivered <+: c'.delivered
  written : c.written <+: c'.written
  returned : c.returned <+: c'.returned

lemma Adds.refl (c : Channel) : Adds c c :=
  ⟨prefix_rfl, List.Subset.refl _, prefix_rfl, prefix_rfl, prefix_rfl⟩

lemma Adds.trans {c c' c'' : Channel} (h : Adds c c') (h' : Adds c' c'') : Adds c c'' :=
  ⟨h.queued.trans h'.queued, List.Subset.trans h.taken h'.taken, h.delivered.trans h'.delivered,
    h.written.trans h'.written, h.returned.trans h'.returned⟩

lemma read_returned (c : Channel) (k : ℕ) : c.returned <+: (c.read k).returned := by
  unfold Channel.read
  split_ifs
  · exact prefix_append _ _
  · split
    · exact prefix_rfl
    · exact prefix_append _ _

/-- There is something to be read. -/
def Channel.Readable (c : Channel) : Prop := c.readRem ≠ [] ∨ c.inbound ≠ []

/-- A read returns something. -/
lemma read_returns {k : ℕ} (hk : 0 < k) (hr : c.Readable) (hne : ∀ p ∈ c.inbound, p ≠ []) :
    c.returned.length < (c.read k).returned.length := by
  unfold Channel.read
  split_ifs with hrem
  · have := length_pos_iff.2 hrem
    simp only [length_append, length_take]
    omega
  cases hin : c.inbound with
  | nil => exact absurd hin (hr.resolve_left hrem)
  | cons p ps =>
    have := length_pos_iff.2 (hne p (hin ▸ mem_cons_self))
    simp only [length_append, length_take]
    omega

variable (h : PumpTurn c now e c')

include h

/-- An open channel stays open, and its pump runs on. -/
lemma PumpTurn.running (hc : c.Running) : c'.Running := by
  obtain ⟨hopen, hpump⟩ := hc
  cases h with
  | same | write => exact ⟨hopen, hpump⟩
  | arrive dg =>
    rw [deliver_frame]
    exact ⟨hopen, hpump⟩
  | transmit => exact ⟨hopen, by simp [prepared]⟩
  | ack | timer => exact ⟨hopen, by simp⟩
  | message | push => exact ⟨hopen, delivering_runs _⟩
  | chunk => exact ⟨hopen, by simp [enqueue]⟩
  | read k =>
    rw [read_frame]
    exact ⟨hopen, hpump⟩

lemma PumpTurn.timeout : c'.sender.timeout = c.sender.timeout := by
  cases h with
  | same | transmit | timer | push | write => rfl
  | arrive dg => rw [deliver_frame]
  | ack | message => exact (foldl_ack_const _ _).1
  | chunk =>
    simp only [enqueue, Sender.queue]
    split_ifs <;> rfl
  | read k => rw [read_frame]

/-- A pump at the start of its loop stays there until it transmits. -/
lemma PumpTurn.top (hp : c.pump = .top) (he : e ≠ some .transmit) :
    c'.pump = .top := by
  cases h with
  | same | write => exact hp
  | arrive dg => rw [deliver_frame]; exact hp
  | transmit => exact absurd rfl he
  | ack hpump | message hpump | chunk hpump | timer hpump | push hpump =>
    exact nomatch hp.symm.trans hpump
  | read k => rw [read_frame]; exact hp

/-- A pump that hands on payloads waits, or hands on the next. -/
lemma PumpTurn.deliver {ps : List Bytes} (hp : c.pump = .deliver ps) :
    (c'.pump = .deliver ps ∧ c'.backlog ≤ c.backlog ∧ c'.inbound.length ≤ c.inbound.length) ∨
      c'.pump = .delivering ps.tail ∧ c'.inbound ≠ [] := by
  cases h with
  | same | write => exact .inl ⟨hp, le_rfl, le_rfl⟩
  | arrive dg => rw [deliver_frame]; exact .inl ⟨hp, le_rfl, le_rfl⟩
  | transmit hpump | ack hpump | message hpump | chunk hpump | timer hpump =>
    exact nomatch hp.symm.trans hpump
  | push hpump =>
    obtain rfl := Pump.deliver.inj (hp.symm.trans hpump)
    exact .inr ⟨rfl, by simp⟩
  | read k =>
    obtain ⟨h₁, h₂, -⟩ := read_backlog c k
    exact .inl ⟨by rw [read_frame]; exact hp, h₁, h₂⟩

/-- Acknowledgements wait in order. -/
lemma PumpTurn.pending (hr : c.remote.isSome = true)
    (he : e = some .transmit → c.pump ≠ .top) :
    c'.remote.isSome = true ∧ c.receiver.pending <+: c'.receiver.pending := by
  cases h with
  | same | chunk | timer | push | write => exact ⟨hr, prefix_rfl⟩
  | arrive dg => rw [deliver_frame]; exact ⟨hr, prefix_rfl⟩
  | transmit hpump => exact absurd hpump (he rfl)
  | ack => exact ⟨rfl, prefix_rfl⟩
  | message _ _ _ _ hp => exact ⟨rfl, hp ▸ prefix_append _ _⟩
  | read k => rw [read_frame]; exact ⟨hr, prefix_rfl⟩

/-- It stays in flight until it is acknowledged, and is as old as before unless it is sent. -/
lemma PumpTurn.waiting {id : UInt32} {last : ℕ} (hw : c.Waiting id last)
    (hack : ∀ dg rest, e = some .datagram → c.pump = .select → c.datagrams = dg :: rest →
      ¬ Acks dg id) :
    c'.Waiting id last ∨
      (∃ last', c'.Waiting id last') ∧ ∃ dg, Carries dg id ∧ dg ∈ c'.sent.drop c.sent.length := by
  obtain ⟨m, hm, hid, hlast⟩ := hw
  cases h with
  | same | timer | push | write => exact .inl ⟨m, hm, hid, hlast⟩
  | arrive dg => rw [deliver_frame]; exact .inl ⟨m, hm, hid, hlast⟩
  | transmit hpump hdue =>
    by_cases hd : c.sender.isDue now m = true
    · obtain ⟨dg, hdg, hc⟩ := hdue m (mem_filter.2 ⟨hm, hd⟩)
      refine .inr ⟨⟨now, _, mem_map.2 ⟨m, hm, if_pos hd⟩, hid, fun _ => le_rfl⟩, dg, hid ▸ hc, ?_⟩
      simpa using hdg
    · exact .inl ⟨m, mem_map.2 ⟨m, hm, if_neg hd⟩, hid, hlast⟩
  | ack hpump hdgs hq | message hpump hdgs hq =>
    refine .inl ⟨m, mem_foldl_ack _ _ (fun hmem => ?_) hm, hid, hlast⟩
    exact hack _ _ rfl hpump hdgs ⟨_, hq, hid ▸ hmem⟩
  | chunk =>
    refine .inl ⟨m, ?_, hid, hlast⟩
    simp only [enqueue, Sender.queue]
    split_ifs
    · exact hm
    · exact mem_append_left _ hm
  | read k => rw [read_frame]; exact .inl ⟨m, hm, hid, hlast⟩

lemma PumpTurn.adds : Adds c c' := by
  cases h with
  | same | transmit | ack | timer | push => exact { Adds.refl c with }
  | arrive dg => rw [deliver_frame]; exact { Adds.refl c with }
  | message =>
    exact { Adds.refl c with taken := subset_cons_self _ _, delivered := prefix_append _ _ }
  | chunk => exact { Adds.refl c with queued := prefix_append _ _ }
  | write => exact { Adds.refl c with written := prefix_append _ _ }
  | read k =>
    have := read_returned c k
    rw [read_frame]
    exact { Adds.refl c with returned := this }

/-- It stays there until it is read. -/
lemma PumpTurn.readable (hr : c.Readable) (hne : ∀ p ∈ c.inbound, p ≠ [])
    (he : ∀ k, 0 < k → e ≠ some (.read k)) : c'.Readable := by
  cases h with
  | same | transmit | ack | message | chunk | timer | write => exact hr
  | arrive dg => rw [deliver_frame]; exact hr
  | push => exact .inr (by simp)
  | read k =>
    obtain rfl : k = 0 := by
      by_contra hk
      exact he k (Nat.pos_of_ne_zero hk) rfl
    unfold Channel.read
    split_ifs with hrem
    · exact .inl (by simpa using hrem)
    · cases hin : c.inbound with
      | nil => exact hr
      | cons p ps =>
        exact .inl (by simpa using hne p (hin ▸ mem_cons_self))

/-- A writer waits for a chunk to be taken, while the window only gets smaller. -/
lemma PumpTurn.writing (hw : c.writing ≠ [])
    (he : e = some .chunk → ¬ (c.pump = .select ∧ c.sender.ready = true)) :
    c'.writing = c.writing ∧ c'.sender.inflight.length ≤ c.sender.inflight.length ∧
      c'.sender.window = c.sender.window := by
  cases h with
  | same | timer | push => exact ⟨rfl, le_rfl, rfl⟩
  | arrive dg => rw [deliver_frame]; exact ⟨rfl, le_rfl, rfl⟩
  | transmit => exact ⟨rfl, by simp [prepared, Sender.sent], rfl⟩
  | ack | message => exact ⟨rfl, length_foldl_ack _ _, (foldl_ack_const _ _).2⟩
  | chunk hpump hready => exact absurd ⟨hpump, hready⟩ (he rfl)
  | write p hnil => exact absurd hnil hw
  | read k => rw [read_frame]; exact ⟨rfl, le_rfl, rfl⟩

end PumpTurn

/-- What an event is to an end. -/
def PairEvent.eventAt (e : PairEvent) (s : Side) : Option ChannelEvent :=
  match e with
  | .act a ev => if a = s then some ev else none
  | _ => none

lemma PairEvent.eventAt_eq_some {e : PairEvent} {s : Side} {ev : ChannelEvent} :
    e.eventAt s = some ev ↔ e = .act s ev := by
  cases e with
  | tick | arrive a i => simp [PairEvent.eventAt]
  | act a ev' =>
    by_cases ha : a = s <;> simp [PairEvent.eventAt, ha]

/-- Both ends run. -/
structure Pair.Running (p : Pair) : Prop where
  sane : p.Sane
  ends : ∀ s, (p.ends s).Running

/-- **One step of an end.** -/
lemma Pair.Running.turn {p : Pair} (h : p.Running) (hfew : p.Few) {e : PairEvent}
    (he : ∀ s, e ≠ .act s .close) (s : Side) :
    PumpTurn (p.ends s) p.now (e.eventAt s) ((p.step e).ends s) := by
  cases e with
  | tick => exact .same _
  | arrive a i =>
    unfold step
    dsimp only
    split
    · exact .same _
    next dg _ =>
      rcases s.eq_or_eq_other a with rfl | rfl
      · rw [turn_self]
        exact .arrive dg
      · rw [turn_other]
        exact .same _
  | act a ev =>
    rcases s.eq_or_eq_other a with rfl | rfl
    · rw [PairEvent.eventAt, if_pos rfl, step, turn_self]
      exact turn_react (h.sane s) (h.ends s).1 (hfew s.other) _ fun hc => he s (by rw [hc])
    · rw [step, turn_other]
      exact .same _

end Veepin.OpenVPN
