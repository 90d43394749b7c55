import Veepin.Core.Bytes

/-!
# The reliability layer of the OpenVPN control channel

The model of `internal/openvpn/reliable/reliable.go`: the sender that keeps a window of messages
until they are acknowledged, and the receiver that puts messages in order.  Time is a number.

A message is named by its place in the list of all messages queued; `Sender.Tracks` and
`Receiver.Holds` say what the two halves know of that list, as long as it has fewer than 2^32
entries.

* `Receiver.Holds.receive` — the receiver hands on the next messages, and no others;
* `Receiver.Holds.complete` — once it has taken them all, it has handed them all on.
-/

namespace Veepin.OpenVPN

open List

/-! ## The sender -/

structure Outgoing where
  id : UInt32
  payload : Bytes
  lastSent : ℕ := 0
  everSent : Bool := false
  deriving DecidableEq, Repr

structure Sender where
  window : ℕ
  timeout : ℕ
  next : UInt32 := 0
  inflight : List Outgoing := []
  deriving DecidableEq, Repr

namespace Sender

def ready (s : Sender) : Bool := s.inflight.length < s.window

/-- `Queue`, without the identifier. -/
def queue (s : Sender) (payload : Bytes) : Sender :=
  if s.window ≤ s.inflight.length then s
  else { s with next := s.next + 1, inflight := s.inflight ++ [⟨s.next, payload, 0, false⟩] }

def ack (s : Sender) (id : UInt32) : Sender :=
  { s with inflight := s.inflight.eraseP fun m => m.id = id }

/-- A message is sent for the first time, or again after the timeout. -/
def isDue (s : Sender) (now : ℕ) (m : Outgoing) : Bool :=
  m.everSent = false ∨ s.timeout ≤ now - m.lastSent

/-- `Due`: the messages to be sent. -/
def due (s : Sender) (now : ℕ) : List Outgoing := s.inflight.filter (s.isDue now)

/-- `Due`: the sender afterwards. -/
def sent (s : Sender) (now : ℕ) : Sender :=
  { s with
    inflight := s.inflight.map fun m =>
      if s.isDue now m then { m with everSent := true, lastSent := now } else m }

end Sender

/-- What a sender knows of the messages queued. -/
structure Sender.Tracks (s : Sender) (queued : List Bytes) : Prop where
  next : s.next = UInt32.ofNat queued.length
  inflight : ∀ m ∈ s.inflight, ∃ i, m.id = UInt32.ofNat i ∧ queued[i]? = some m.payload
  window : s.inflight.length ≤ s.window

section Sender

variable {s : Sender} {queued : List Bytes}

lemma Sender.Tracks.queue (h : s.Tracks queued) (hs : s.ready = true) (payload : Bytes) :
    (s.queue payload).Tracks (queued ++ [payload]) := by
  have hroom : s.inflight.length < s.window := of_decide_eq_true hs
  rw [Sender.queue, if_neg (by omega)]
  refine ⟨?_, fun m hm => ?_, ?_⟩
  · simp only [h.next, length_append, length_singleton, UInt32.ofNat_add]
    rfl
  · rcases mem_append.1 hm with hm | hm
    · obtain ⟨i, hid, hi⟩ := h.inflight m hm
      exact ⟨i, hid, by rw [List.getElem?_append_left (List.getElem?_eq_some_iff.1 hi).1, hi]⟩
    · obtain rfl := mem_singleton.1 hm
      exact ⟨queued.length, h.next, by simp⟩
  · simp only [length_append, length_singleton]
    omega

lemma Sender.Tracks.ack (h : s.Tracks queued) (id : UInt32) : (s.ack id).Tracks queued :=
  ⟨h.next, fun m hm => h.inflight m (mem_of_mem_eraseP hm), length_eraseP_le.trans h.window⟩

lemma Sender.Tracks.sent (h : s.Tracks queued) (now : ℕ) : (s.sent now).Tracks queued := by
  refine ⟨h.next, fun m hm => ?_, by simpa [Sender.sent] using h.window⟩
  obtain ⟨m', hm', rfl⟩ := mem_map.1 hm
  obtain ⟨i, hid, hi⟩ := h.inflight m' hm'
  split_ifs <;> exact ⟨i, hid, hi⟩

end Sender

/-! ## The receiver -/

structure Receiver where
  next : UInt32 := 0
  buffered : List (UInt32 × Bytes) := []
  pending : List UInt32 := []
  deriving DecidableEq, Repr

namespace Receiver

/-- The loop of `Receive`: each turn removes an entry, so there are at most as many as entries. -/
def drain : ℕ → Receiver → List Bytes × Receiver
  | 0, r => ([], r)
  | fuel + 1, r =>
    match r.buffered.lookup r.next with
    | none => ([], r)
    | some p =>
      let rest := drain fuel
        { r with
          next := r.next + 1, buffered := r.buffered.filter fun e => e.1 ≠ r.next }
      (p :: rest.1, rest.2)

def receive (r : Receiver) (id : UInt32) (payload : Bytes) : List Bytes × Receiver :=
  let r := { r with pending := r.pending ++ [id] }
  if id < r.next then ([], r)
  else if (r.buffered.lookup id).isSome then ([], r)
  else drain (r.buffered.length + 1) { r with buffered := (id, payload) :: r.buffered }

def takeACKs (r : Receiver) (max : ℕ) : List UInt32 × Receiver :=
  (r.pending.take max, { r with pending := r.pending.drop max })

end Receiver

/-- Below 2^32 the identifiers are the places. -/
lemma id_inj {i j : ℕ} (hi : i < 2 ^ 32) (hj : j < 2 ^ 32) (h : UInt32.ofNat i = UInt32.ofNat j) :
    i = j := by
  have := congrArg UInt32.toNat h
  rwa [UInt32.toNat_ofNat_of_lt' hi, UInt32.toNat_ofNat_of_lt' hj] at this

/-- A list that is extended by the next entry of another. -/
lemma prefix_concat {α : Type*} {l l' : List α} {a : α} (h : l <+: l')
    (ha : l'[l.length]? = some a) : l ++ [a] <+: l' := by
  obtain ⟨rest, rfl⟩ := h
  rw [getElem?_append_right le_rfl, Nat.sub_self] at ha
  cases rest with
  | nil => simp at ha
  | cons b rest =>
    obtain rfl := Option.some.inj ha
    exact ⟨rest, by rw [append_assoc, singleton_append]⟩

/-- What a receiver knows of the messages queued: `delivered` are those it has handed on and `taken`
the identifiers it has seen. -/
structure Receiver.Holds (r : Receiver) (queued delivered : List Bytes) (taken : List UInt32) :
    Prop where
  next : r.next = UInt32.ofNat delivered.length
  inOrder : delivered <+: queued
  buffered : ∀ e ∈ r.buffered, ∃ i, e.1 = UInt32.ofNat i ∧ queued[i]? = some e.2
  kept : ∀ i, UInt32.ofNat i ∈ taken → i < queued.length →
    i < delivered.length ∨ UInt32.ofNat i ∈ r.buffered.map Prod.fst
  pending : ∀ id ∈ r.pending, id ∈ taken
  known : ∀ id ∈ taken, ∃ i, id = UInt32.ofNat i ∧ i < queued.length

section Receiver

variable {r : Receiver} {queued delivered : List Bytes} {taken : List UInt32}

lemma lookup_eq_none_iff (l : List (UInt32 × Bytes)) (id : UInt32) :
    l.lookup id = none ↔ id ∉ l.map Prod.fst := by
  induction l with
  | nil => simp
  | cons e l ih =>
    rw [lookup_cons]
    by_cases h : id = e.1
    · simp [h]
    · simp [beq_false_of_ne h, ih, h]

lemma mem_of_lookup {l : List (UInt32 × Bytes)} {id : UInt32} {p : Bytes}
    (h : l.lookup id = some p) : (id, p) ∈ l := by
  induction l with
  | nil => simp at h
  | cons e l ih =>
    rw [lookup_cons] at h
    by_cases he : id = e.1
    · simp only [he, beq_self_eq_true, Option.some.injEq] at h
      exact mem_cons.2 (.inl (by rw [he, ← h]))
    · rw [beq_false_of_ne he] at h
      exact mem_cons_of_mem _ (ih h)

/-- The next message leaves the buffer. -/
lemma Receiver.Holds.pop (h : r.Holds queued delivered taken) (hq : queued.length < 2 ^ 32)
    {p : Bytes} (hp : r.buffered.lookup r.next = some p) :
    Receiver.Holds { r with
      next := r.next + 1, buffered := r.buffered.filter fun e => e.1 ≠ r.next }
      queued (delivered ++ [p]) taken := by
  have hle := h.inOrder.length_le
  obtain ⟨i, hid, hi⟩ := h.buffered _ (mem_of_lookup hp)
  have hlt := (List.getElem?_eq_some_iff.1 hi).1
  obtain rfl : delivered.length = i :=
    id_inj (hle.trans_lt hq) (hlt.trans hq) (h.next.symm.trans hid)
  refine ⟨?_, prefix_concat h.inOrder hi, fun e he => h.buffered e (mem_of_mem_filter he),
    fun i ht hi => ?_, h.pending, h.known⟩
  · simp only [h.next, length_append, length_singleton, UInt32.ofNat_add]
    rfl
  · rw [length_append, length_singleton]
    rcases h.kept i ht hi with hd | hb
    · exact .inl (by omega)
    · by_cases hn : UInt32.ofNat i = r.next
      · have := id_inj (hi.trans hq) (hle.trans_lt hq) (hn.trans h.next)
        exact .inl (by omega)
      · obtain ⟨e, he, hfst⟩ := mem_map.1 hb
        exact .inr (mem_map.2 ⟨e, mem_filter.2 ⟨he, by simpa [hfst] using hn⟩, hfst⟩)

/-- **The loop.**  By induction on the turns left; at the end the next message is missing. -/
lemma Receiver.Holds.drain (hq : queued.length < 2 ^ 32) : ∀ (fuel : ℕ) (r : Receiver)
    (delivered : List Bytes), r.Holds queued delivered taken → r.buffered.length ≤ fuel →
    (r.drain fuel).2.Holds queued (delivered ++ (r.drain fuel).1) taken ∧
      (r.drain fuel).2.next ∉ (r.drain fuel).2.buffered.map Prod.fst ∧
      (r.drain fuel).2.pending = r.pending
  | 0, r, delivered, h, hle => by
    have hnil : r.buffered = [] := length_eq_zero_iff.1 (Nat.le_zero.1 hle)
    exact ⟨by rwa [Receiver.drain, append_nil], by simp [Receiver.drain, hnil], rfl⟩
  | fuel + 1, r, delivered, h, hle => by
    unfold Receiver.drain
    split
    · next hnone =>
        exact ⟨by rwa [append_nil], (lookup_eq_none_iff _ _).1 hnone, rfl⟩
    next p hp =>
      have hshort : (r.buffered.filter fun e => e.1 ≠ r.next).length < r.buffered.length := by
        refine length_filter_lt_length_iff_exists.2 ⟨_, mem_of_lookup hp, by simp⟩
      obtain ⟨h₁, h₂, h₃⟩ := Receiver.Holds.drain hq fuel _ _ (h.pop hq hp) (by
        change (r.buffered.filter _).length ≤ fuel
        omega)
      refine ⟨?_, h₂, h₃⟩
      rwa [append_assoc, singleton_append] at h₁

/-- **The receiver.**  A message is taken, and what is now in order is handed on. -/
lemma Receiver.Holds.receive (h : r.Holds queued delivered taken) (hq : queued.length < 2 ^ 32)
    (hdrained : r.next ∉ r.buffered.map Prod.fst) {i : ℕ} {payload : Bytes}
    (hi : queued[i]? = some payload) :
    (r.receive (UInt32.ofNat i) payload).2.Holds queued
        (delivered ++ (r.receive (UInt32.ofNat i) payload).1) (UInt32.ofNat i :: taken) ∧
      (r.receive (UInt32.ofNat i) payload).2.next ∉
        (r.receive (UInt32.ofNat i) payload).2.buffered.map Prod.fst ∧
      (r.receive (UInt32.ofNat i) payload).2.pending = r.pending ++ [UInt32.ofNat i] := by
  have hlt := (List.getElem?_eq_some_iff.1 hi).1
  have hpending : ∀ id ∈ r.pending ++ [UInt32.ofNat i], id ∈ UInt32.ofNat i :: taken := by
    intro id hid
    rcases mem_append.1 hid with hid | hid
    · exact mem_cons_of_mem _ (h.pending id hid)
    · exact mem_cons.2 (.inl (mem_singleton.1 hid))
  have hknow : ∀ id ∈ UInt32.ofNat i :: taken, ∃ j, id = UInt32.ofNat j ∧ j < queued.length := by
    intro id hid
    rcases mem_cons.1 hid with hid | hid
    · exact ⟨i, hid, hlt⟩
    · exact h.known id hid
  -- a message that is known already
  have hknown : (i < delivered.length ∨ UInt32.ofNat i ∈ r.buffered.map Prod.fst) →
      Receiver.Holds { r with pending := r.pending ++ [UInt32.ofNat i] } queued (delivered ++ [])
        (UInt32.ofNat i :: taken) := fun hold => by
    rw [append_nil]
    refine ⟨h.next, h.inOrder, h.buffered, fun j hj hjlt => ?_, hpending, hknow⟩
    rcases mem_cons.1 hj with hj | hj
    · obtain rfl := id_inj (hjlt.trans hq) (hlt.trans hq) hj
      exact hold
    · exact h.kept j hj hjlt
  unfold Receiver.receive
  dsimp only
  split_ifs with hold hdup
  · refine ⟨hknown (.inl ?_), hdrained, rfl⟩
    rw [h.next, UInt32.lt_iff_toNat_lt, UInt32.toNat_ofNat_of_lt' (hlt.trans hq),
      UInt32.toNat_ofNat_of_lt' (h.inOrder.length_le.trans_lt hq)] at hold
    exact hold
  · refine ⟨hknown (.inr ?_), hdrained, rfl⟩
    by_contra hn
    rw [(lookup_eq_none_iff _ _).2 hn] at hdup
    exact Bool.false_ne_true hdup
  · refine Receiver.Holds.drain hq _ _ _ ⟨h.next, h.inOrder, fun e he => ?_,
      fun j hj hjlt => ?_, hpending, hknow⟩ le_rfl
    · rcases mem_cons.1 he with rfl | he
      · exact ⟨i, rfl, hi⟩
      · exact h.buffered e he
    · rw [map_cons]
      rcases mem_cons.1 hj with hj | hj
      · exact .inr (hj ▸ mem_cons_self)
      · exact (h.kept j hj hjlt).imp_right (mem_cons_of_mem _)

/-- What is queued later changes nothing. -/
lemma Receiver.Holds.grow (h : r.Holds queued delivered taken) {queued' : List Bytes}
    (hpre : queued <+: queued') (hq : queued'.length < 2 ^ 32) :
    r.Holds queued' delivered taken := by
  have hle := hpre.length_le
  refine ⟨h.next, h.inOrder.trans hpre, fun e he => ?_, fun i ht hi => ?_, h.pending,
    fun id hid => ?_⟩
  · obtain ⟨i, hid, hi⟩ := h.buffered e he
    obtain ⟨rest, rfl⟩ := hpre
    exact ⟨i, hid, by rw [List.getElem?_append_left (List.getElem?_eq_some_iff.1 hi).1, hi]⟩
  · obtain ⟨j, hj, hjlt⟩ := h.known _ ht
    obtain rfl := id_inj (hi.trans hq) ((hjlt.trans_le hle).trans hq) hj
    exact h.kept i ht hjlt
  · obtain ⟨i, hi, hlt⟩ := h.known id hid
    exact ⟨i, hi, hlt.trans_le hle⟩

/-- **Complete.**  The first message that has not been handed on has not been taken. -/
lemma Receiver.Holds.complete (h : r.Holds queued delivered taken)
    (hdrained : r.next ∉ r.buffered.map Prod.fst) {k : ℕ} (hk : k ≤ queued.length)
    (hall : ∀ i < k, UInt32.ofNat i ∈ taken) : k ≤ delivered.length := by
  by_contra hlt
  have hlt : delivered.length < k := not_le.1 hlt
  rcases h.kept _ (hall _ hlt) (hlt.trans_le hk) with hd | hb
  · exact absurd hd (lt_irrefl _)
  · exact hdrained (h.next ▸ hb)

end Receiver

end Veepin.OpenVPN
