import Veepin.Core.Runs
import Veepin.OpenVPN.Control

/-!
# The control channel carries a byte stream

What two channels keep whatever the network does, with fewer than 2^32 messages at each end, as long
as a pump that finds its channel closed takes neither a datagram nor a chunk any more.

* `Channel.Own` — what one end keeps by itself, `Channel.Knows` — what it knows of the other;
* `Channel.Grows` — an end only adds to its histories;
* `Pair.sane_step` — the step, and `Pair.stream_run` — the run.
-/

namespace Veepin.OpenVPN

open List Function Channel

/-! ## Datagrams -/

/-- A datagram carries a message. -/
def Carries (dg : Bytes) (id : UInt32) : Prop :=
  ∃ q, parseControl dg = some q ∧ q.opcode ≠ pACKV1 ∧ q.packetID = id

/-- A datagram acknowledges a message. -/
def Acks (dg : Bytes) (id : UInt32) : Prop := ∃ q, parseControl dg = some q ∧ id ∈ q.acks

variable {p : ControlPacket} {dg : Bytes}

namespace Channel

/-- A packet that says what is so at this end. -/
structure Truthful (c : Channel) (q : ControlPacket) : Prop where
  sessionID : q.sessionID = c.localID
  acks : ∀ id ∈ q.acks, id ∈ c.taken
  message : q.opcode ≠ pACKV1 → ∃ i, q.packetID = UInt32.ofNat i ∧ c.queued[i]? = some q.payload

/-- A datagram of this end. -/
def Sends (c : Channel) (dg : Bytes) : Prop := ∃ q, parseControl dg = some q ∧ c.Truthful q

/-- An end only adds to its histories. -/
structure Grows (c c' : Channel) : Prop where
  localID : c'.localID = c.localID
  queued : c.queued <+: c'.queued
  taken : c.taken ⊆ c'.taken

lemma Grows.refl (c : Channel) : Grows c c := ⟨rfl, prefix_rfl, List.Subset.refl _⟩

variable {c' : Channel}

lemma Grows.of_eq {c : Channel}
    (h : (c'.localID, c'.queued, c'.taken) = (c.localID, c.queued, c.taken)) : Grows c c' := by
  simp only [Prod.mk.injEq] at h
  exact ⟨h.1, h.2.1 ▸ prefix_rfl, h.2.2 ▸ List.Subset.refl _⟩

lemma Grows.trans {c c'' : Channel} (h : Grows c c') (h' : Grows c' c'') : Grows c c'' :=
  ⟨h'.localID.trans h.localID, h.queued.trans h'.queued, List.Subset.trans h.taken h'.taken⟩

lemma Grows.sends {c : Channel} (h : Grows c c') (hd : c.Sends dg) : c'.Sends dg := by
  obtain ⟨q, hq, ht⟩ := hd
  refine ⟨q, hq, ht.sessionID.trans h.localID.symm, fun id hid => h.taken (ht.acks id hid),
    fun hop => ?_⟩
  obtain ⟨i, hid, hi⟩ := ht.message hop
  obtain ⟨rest, hrest⟩ := h.queued
  refine ⟨i, hid, ?_⟩
  rw [← hrest, List.getElem?_append_left (List.getElem?_eq_some_iff.1 hi).1, hi]

/-! ## What one end keeps -/

/-- What one end keeps by itself. -/
structure Own (c : Channel) : Prop where
  hardReset : c.hardResetOpcode ∈ [pControlHardResetClientV2, pControlHardResetServerV2]
  tracks : c.sender.Tracks c.queued
  window : c.sender.window = 4
  pending : ∀ id ∈ c.receiver.pending, id ∈ c.taken
  sent : ∀ dg ∈ c.sent, c.Sends dg
  /-- what was written has been queued, or is still to be handed over -/
  written : c.queued.flatten <+: c.written
  writing : c.closed = false → c.queued.flatten ++ c.writing = c.written
  /-- what the receiver has handed on has been returned, or waits for it -/
  read : c.returned ++ c.readRem ++ c.inbound.flatten ++ c.pump.rest.flatten <+:
    c.delivered.flatten
  reading : c.closed = false → c.returned ++ c.readRem ++ c.inbound.flatten ++
    c.pump.rest.flatten = c.delivered.flatten
  nonempty : ∀ p ∈ c.inbound ++ c.pump.rest, p ≠ []

/-- What one end knows of the other. -/
structure Knows (c peer : Channel) : Prop where
  holds : c.receiver.Holds peer.queued c.delivered c.taken
  drained : c.receiver.next ∉ c.receiver.buffered.map Prod.fst
  datagrams : ∀ dg ∈ c.datagrams, peer.Sends dg
  remote : ∀ sid ∈ c.remote, sid = peer.localID
  /-- a message has left the window only if the other end has taken it -/
  released : ∀ i < c.queued.length,
    (∃ m ∈ c.sender.inflight, m.id = UInt32.ofNat i) ∨ UInt32.ofNat i ∈ peer.taken

lemma Knows.grows {c peer peer' : Channel} (h : c.Knows peer) (hg : Grows peer peer')
    (hfew : peer'.queued.length < 2 ^ 32) : c.Knows peer' :=
  ⟨h.holds.grow hg.queued hfew, h.drained, fun dg hdg => hg.sends (h.datagrams dg hdg),
    fun sid hsid => (h.remote sid hsid).trans hg.localID.symm,
    fun i hi => (h.released i hi).imp_right (fun ht => hg.taken ht)⟩

/-! ## Sending -/

variable {c peer : Channel} {taken acks : List UInt32}

lemma parseControl_isControl {q : ControlPacket} (h : parseControl dg = some q) :
    ∃ op keyID, opcode dg = some (op, keyID) ∧ isControl op = true := by
  unfold parseControl at h
  split at h
  · exact nomatch h
  · next op keyID hop =>
      refine ⟨op, keyID, hop, ?_⟩
      by_contra hc
      rw [if_pos (.inl (Bool.eq_false_iff.2 hc))] at h
      exact nomatch h

/-- A packet that can be sent. -/
structure Sendable (c : Channel) (p : ControlPacket) : Prop where
  wellFormed : p.WellFormed
  truthful : c.Truthful p

lemma writePacket_eq (h : c.Sendable p) :
    ∃ dg, c.writePacket p = { c with sent := c.sent ++ [dg] } ∧ c.Sends dg ∧
      parseControl dg = some { p with keyID := p.keyID &&& 7 } := by
  obtain ⟨dg, hdg, hparse⟩ := parseControl_marshal p h.wellFormed
  exact ⟨dg, by rw [writePacket, hdg], ⟨_, hparse, h.truthful.sessionID, h.truthful.acks,
    h.truthful.message⟩, hparse⟩

/-- The acknowledgements are attached. -/
lemma Sendable.attachACKs (h : c.Sendable p) (hlen : acks.length ≤ 4)
    (htaken : ∀ id ∈ acks, id ∈ c.taken) (hremote : acks ≠ [] → c.remote.isSome) :
    c.Sendable (c.attachACKs p acks) ∧ (c.attachACKs p acks).packetID = p.packetID ∧
      (c.attachACKs p acks).opcode = p.opcode ∧
      ∀ id ∈ acks, id ∈ (c.attachACKs p acks).acks := by
  unfold Channel.attachACKs
  split
  · exact ⟨h, rfl, rfl, by simp⟩
  · next hne hr =>
      have := hremote hne
      rw [hr] at this
      exact absurd this Bool.false_ne_true
  · next rsid hne hr =>
      refine ⟨⟨⟨h.wellFormed.opcode, hlen.trans (by decide), fun hnil => ?_, h.wellFormed.body⟩,
        { h.truthful with acks := htaken }⟩, rfl, rfl, fun id hid => hid⟩
      exact absurd hnil hne

lemma Sendable.of_eq (h : c.Sendable p)
    (hc : (c'.localID, c'.queued, c'.taken) = (c.localID, c.queued, c.taken)) : c'.Sendable p := by
  simp only [Prod.mk.injEq] at hc
  exact ⟨h.wellFormed, h.truthful.sessionID.trans hc.1.symm, by rw [hc.2.2]; exact h.truthful.acks,
    by rw [hc.2.1]; exact h.truthful.message⟩

/-- A message of the window can be sent. -/
lemma Own.sendable (h : c.Own) {m : Outgoing} (hm : m ∈ c.sender.inflight) :
    c.Sendable (c.messagePacket m) := by
  have hop : (c.messagePacket m).opcode ∈
      [pControlV1, pControlHardResetClientV2, pControlHardResetServerV2] := by
    rw [messagePacket]
    split_ifs
    · exact mem_cons_of_mem _ h.hardReset
    · exact mem_cons_self
  have hkind : ∀ op ∈ [pControlV1, pControlHardResetClientV2, pControlHardResetServerV2],
      isControl op = true ∧ op ≠ pACKV1 := by decide +kernel
  exact ⟨⟨(hkind _ hop).1, Nat.zero_le _, fun _ => rfl, fun hack => absurd hack (hkind _ hop).2⟩,
    ⟨rfl, by simp [messagePacket], fun _ => h.tracks.inflight m hm⟩⟩

lemma messagePacket_opcode (h : c.Own) (m : Outgoing) : (c.messagePacket m).opcode ≠ pACKV1 := by
  have hkind : ∀ op ∈ [pControlHardResetClientV2, pControlHardResetServerV2], op ≠ pACKV1 := by
    decide +kernel
  rw [messagePacket]
  split_ifs
  · exact hkind _ h.hardReset
  · exact (by decide : pControlV1 ≠ pACKV1)

/-- The messages after the first. -/
lemma foldl_sendMessage : ∀ (ms : List Outgoing) (c : Channel),
    (∀ m ∈ ms, c.Sendable (c.messagePacket m) ∧ (c.messagePacket m).opcode ≠ pACKV1) →
    ∃ dgs, ms.foldl (fun c m => c.sendMessage m []) c = { c with sent := c.sent ++ dgs } ∧
      (∀ dg ∈ dgs, c.Sends dg) ∧ ∀ m ∈ ms, ∃ dg ∈ dgs, Carries dg m.id
  | [], c, _ => ⟨[], by simp, nofun, nofun⟩
  | m :: ms, c, h => by
    obtain ⟨dg, heq, hsends, hparse⟩ := writePacket_eq (h m mem_cons_self).1
    obtain ⟨dgs, heq', hsends', hcarry⟩ := foldl_sendMessage ms
      { c with sent := c.sent ++ [dg] } fun m' hm' =>
        ⟨(h m' (mem_cons_of_mem _ hm')).1.of_eq rfl, (h m' (mem_cons_of_mem _ hm')).2⟩
    refine ⟨dg :: dgs, ?_, fun d hd => ?_, fun m' hm' => ?_⟩
    · rw [foldl_cons, show c.sendMessage m [] = c.writePacket (c.messagePacket m) from rfl,
        heq, heq', append_assoc, singleton_append]
    · rcases mem_cons.1 hd with rfl | hd
      · exact hsends
      · refine Grows.sends ?_ (hsends' d hd)
        exact .of_eq rfl
    · rcases mem_cons.1 hm' with rfl | hm'
      · exact ⟨dg, mem_cons_self, _, hparse, (h m' mem_cons_self).2, rfl⟩
      · obtain ⟨d, hd, hc⟩ := hcarry m' hm'
        exact ⟨d, mem_cons_of_mem _ hd, hc⟩

lemma nextACKs_spec (h : c.Own) : c.nextACKs.length ≤ 4 ∧ (∀ id ∈ c.nextACKs, id ∈ c.taken) ∧
    (c.nextACKs ≠ [] → c.remote.isSome) := by
  unfold nextACKs
  split_ifs with hr
  · exact ⟨length_take_le _ _, fun id hid => h.pending id (mem_of_mem_take hid),
      fun _ => hr⟩
  · exact ⟨Nat.zero_le _, nofun, fun hne => absurd rfl hne⟩

/-- **What is sent.**  Each message that is due, and each acknowledgement that is taken. -/
lemma transmit_spec (h : c.Own) (now : ℕ) :
    ∃ dgs, c.transmit now = { c.prepared now with sent := c.sent ++ dgs } ∧
      (∀ dg ∈ dgs, c.Sends dg) ∧ (∀ m ∈ c.sender.due now, ∃ dg ∈ dgs, Carries dg m.id) ∧
      ∀ id ∈ c.nextACKs, ∃ dg ∈ dgs, Acks dg id := by
  obtain ⟨hlen, htaken, hremote⟩ := nextACKs_spec h
  have hg : Grows (c.prepared now) c := .of_eq rfl
  unfold transmit
  split
  · next hdue =>
      split_ifs with hnil
      · refine ⟨[], ?_, nofun, ?_, ?_⟩
        · simp [prepared]
        · simp [hdue]
        · simp [hnil]
      have hack : (c.prepared now).Sendable
          { opcode := pACKV1, keyID := c.keyID, sessionID := c.localID } :=
        ⟨⟨(by decide : isControl pACKV1 = true), Nat.zero_le _, fun _ => rfl,
          fun _ => ⟨rfl, rfl⟩⟩, ⟨rfl, nofun, fun hne => absurd rfl hne⟩⟩
      obtain ⟨hsend, -, -, hmem⟩ := hack.attachACKs hlen htaken hremote
      obtain ⟨dg, heq, hsends, hparse⟩ := writePacket_eq hsend
      refine ⟨[dg], heq, ?_, by simp [hdue], fun id hid => ?_⟩
      · simpa using hg.sends hsends
      · exact ⟨dg, mem_singleton_self _, _, hparse, hmem id hid⟩
  · next m ms hdue =>
      have hin : ∀ m' ∈ m :: ms, m' ∈ c.sender.inflight := fun m' hm' =>
        mem_of_mem_filter (hdue ▸ hm' : m' ∈ c.sender.due now)
      have hfirst : (c.prepared now).Sendable (c.messagePacket m) :=
        (h.sendable (hin m mem_cons_self)).of_eq rfl
      obtain ⟨hsend, hid, hop, hmem⟩ := hfirst.attachACKs hlen htaken hremote
      obtain ⟨dg, heq, hsends, hparse⟩ := writePacket_eq hsend
      obtain ⟨dgs, heq', hsends', hcarry⟩ := foldl_sendMessage ms
        { c.prepared now with sent := c.sent ++ [dg] } fun m' hm' =>
          ⟨(h.sendable (hin m' (mem_cons_of_mem _ hm'))).of_eq rfl,
            messagePacket_opcode h m'⟩
      refine ⟨dg :: dgs, ?_, fun d hd => ?_, fun m' hm' => ?_, fun id hid => ?_⟩
      · rw [show (c.prepared now).sendMessage m c.nextACKs = { c.prepared now with sent := c.sent ++
          [dg] } from heq, heq', append_assoc, singleton_append]
      · rcases mem_cons.1 hd with rfl | hd
        · exact hg.sends hsends
        · refine Grows.sends ?_ (hsends' d hd)
          exact .of_eq rfl
      · rcases mem_cons.1 (hdue ▸ hm' : m' ∈ m :: ms) with rfl | hm'
        · exact ⟨dg, mem_cons_self, _, hparse,
            fun hack => messagePacket_opcode h m' (hop.symm.trans hack), hid⟩
        · obtain ⟨d, hd, hc⟩ := hcarry m' hm'
          exact ⟨d, mem_cons_of_mem _ hd, hc⟩
      · exact ⟨dg, mem_cons_self, _, hparse, hmem id hid⟩

/-! ## Receiving -/

@[simp] lemma rest_delivering (ps : List Bytes) : (Pump.delivering ps).rest = ps := by
  cases ps <;> rfl

/-- One end beside the other. -/
structure Sane (c peer : Channel) : Prop where
  own : c.Own
  knows : c.Knows peer

/-- What a step of one end leaves. -/
structure Settled (c peer c' : Channel) : Prop where
  sane : c'.Sane peer
  grows : c.Grows c'

/-- What of the first messages has left the window has been taken. -/
abbrev Released (s : Sender) (n : ℕ) (taken : List UInt32) : Prop :=
  ∀ i < n, (∃ m ∈ s.inflight, m.id = UInt32.ofNat i) ∨ UInt32.ofNat i ∈ taken

lemma released_ack {s : Sender} {id : UInt32} {n : ℕ} (hid : id ∈ taken)
    (h : Released s n taken) : Released (s.ack id) n taken := by
  intro i hi
  rcases h i hi with ⟨m, hm, hmid⟩ | ht
  · by_cases he : m.id = id
    · exact .inr (hmid ▸ he ▸ hid)
    · exact .inl ⟨m, (mem_eraseP_of_neg (by simpa using he)).2 hm, hmid⟩
  · exact .inr ht

/-- The acknowledgements of a datagram. -/
lemma foldl_ack {queued : List Bytes} : ∀ (acks : List UInt32) (s : Sender),
    (∀ id ∈ acks, id ∈ taken) → s.Tracks queued → Released s queued.length taken →
    (acks.foldl Sender.ack s).Tracks queued ∧ (acks.foldl Sender.ack s).window = s.window ∧
      Released (acks.foldl Sender.ack s) queued.length taken
  | [], _, _, ht, hr => ⟨ht, rfl, hr⟩
  | id :: acks, s, hacks, ht, hr =>
    foldl_ack acks (s.ack id) (fun id' hid' => hacks id' (mem_cons_of_mem _ hid'))
      (ht.ack id) (released_ack (hacks id mem_cons_self) hr)

lemma Sane.acked (h : c.Sane peer) (hacks : ∀ id ∈ acks, id ∈ peer.taken)
    {sid : SessionID} (hsid : sid = peer.localID) :
    Settled c peer { c with remote := some sid, sender := acks.foldl Sender.ack c.sender } := by
  obtain ⟨ht, hw, hr⟩ := foldl_ack acks c.sender hacks h.own.tracks h.knows.released
  have hg : Grows c { c with remote := some sid, sender := acks.foldl Sender.ack c.sender } :=
    .of_eq rfl
  exact ⟨⟨{ h.own with
      tracks := ht
      window := hw.trans h.own.window
      sent := fun dg hdg => hg.sends (h.own.sent dg hdg) },
    { h.knows with
      remote := fun id hid => (Option.some.inj hid).symm.trans hsid
      released := hr }⟩, hg⟩

section

variable (h : c.Sane peer) (hpump : c.pump.rest = []) (hopen : c.closed = false)
  (hfew : peer.queued.length < 2 ^ 32)

include h hpump hopen hfew

/-- A message of the other end is taken. -/
lemma Sane.received {i : ℕ} {payload : Bytes} (hi : peer.queued[i]? = some payload) :
    Settled c peer { c with
      receiver := (c.receiver.receive (UInt32.ofNat i) payload).2
      pump := .delivering ((c.receiver.receive (UInt32.ofNat i) payload).1.filter (· ≠ []))
      taken := UInt32.ofNat i :: c.taken
      delivered := c.delivered ++ (c.receiver.receive (UInt32.ofNat i) payload).1 } := by
  obtain ⟨hholds, hdrained, hpending⟩ := h.knows.holds.receive hfew h.knows.drained hi
  have hg : Grows c { c with taken := UInt32.ofNat i :: c.taken } :=
    ⟨rfl, prefix_rfl, subset_cons_self _ _⟩
  have hread := h.own.reading hopen
  rw [hpump, flatten_nil, append_nil] at hread
  refine ⟨⟨{ h.own with
      pending := hholds.pending
      sent := fun dg hdg => ?_
      read := ?_
      reading := fun _ => ?_
      nonempty := fun p hp => ?_ }, { h.knows with holds := hholds, drained := hdrained }⟩,
    ⟨rfl, prefix_rfl, subset_cons_self _ _⟩⟩
  · refine Grows.sends ?_ (hg.sends (h.own.sent dg hdg))
    exact .of_eq rfl
  · rw [rest_delivering, flatten_filter_ne_nil, flatten_append, hread]
  · rw [rest_delivering, flatten_filter_ne_nil, flatten_append, hread]
  · rw [rest_delivering] at hp
    rcases mem_append.1 hp with hp | hp
    · exact h.own.nonempty p (mem_append_left _ hp)
    · exact of_decide_eq_true (mem_filter.1 hp).2

lemma Sane.handleDatagram (hdg : peer.Sends dg) : Settled c peer (c.handleDatagram dg) := by
  have hself : Settled c peer c := ⟨h, .refl c⟩
  obtain ⟨q, hq, htrue⟩ := hdg
  obtain ⟨op, keyID, hop, hctl⟩ := parseControl_isControl hq
  unfold Channel.handleDatagram
  simp only [hop, hctl, hq]
  rw [if_neg (by simp)]
  split_ifs with hremote hack
  · exact hself
  · exact h.acked htrue.acks htrue.sessionID
  · obtain ⟨i, hid, hi⟩ := htrue.message hack
    rw [hid]
    have hack := h.acked htrue.acks htrue.sessionID
    have hrec := hack.sane.received hpump hopen hfew hi
    exact ⟨hrec.sane, hack.grows.trans hrec.grows⟩

end

/-! ## One end -/

/-- A pump that finds its channel closed takes nothing any more. -/
def Prompt (c : Channel) : ChannelEvent → Prop
  | .datagram | .chunk => c.pump = .select → c.closed = false
  | _ => True

instance Prompt.decidable (c : Channel) (e : ChannelEvent) : Decidable (c.Prompt e) := by
  cases e <;> unfold Prompt <;> infer_instance

lemma Sane.transmit (h : c.Sane peer) (hpump : c.pump = .top) (now : ℕ) :
    Settled c peer (c.transmit now) := by
  obtain ⟨dgs, heq, hsends, -, -⟩ := transmit_spec h.own now
  have hg : Grows c (c.transmit now) := by rw [heq]; exact .of_eq rfl
  have hpending : ∀ id ∈ (c.prepared now).receiver.pending, id ∈ c.taken := fun id hid => by
    simp only [prepared] at hid
    split_ifs at hid
    · exact h.own.pending id (mem_of_mem_drop hid)
    · exact h.own.pending id hid
  have hread := h.own.read
  have hreading := h.own.reading
  have hne := h.own.nonempty
  rw [hpump] at hread hreading hne
  have hholds : (c.prepared now).receiver.Holds peer.queued c.delivered c.taken := by
    have hr := h.knows.holds
    refine ⟨?_, hr.inOrder, ?_, ?_, hpending, hr.known⟩ <;> simp only [prepared] <;> split_ifs
    exacts [hr.next, hr.next, hr.buffered, hr.buffered, hr.kept, hr.kept]
  have hdrained : (c.prepared now).receiver.next ∉
      (c.prepared now).receiver.buffered.map Prod.fst := by
    simp only [prepared]
    split_ifs <;> exact h.knows.drained
  refine ⟨?_, hg⟩
  rw [heq] at hg ⊢
  refine ⟨⟨h.own.hardReset, h.own.tracks.sent now, h.own.window, hpending, fun dg hdg => ?_,
    h.own.written, h.own.writing, hread, hreading, hne⟩, ⟨hholds, hdrained, h.knows.datagrams,
    h.knows.remote, fun i hi => ?_⟩⟩
  · rcases mem_append.1 hdg with hdg | hdg
    · exact hg.sends (h.own.sent dg hdg)
    · exact hg.sends (hsends dg hdg)
  · rcases h.knows.released i hi with ⟨m, hm, hid⟩ | ht
    · refine .inl ⟨_, mem_map_of_mem hm, ?_⟩
      split_ifs <;> exact hid
    · exact .inr ht

lemma Sane.chunk (h : c.Sane peer) (hpump : c.pump = .select) (hready : c.sender.ready = true)
    (hopen : c.closed = false) (n : ℕ) :
    Settled c peer ({ c with pump := .top, writing := c.writing.drop n }.enqueue
      (c.writing.take n)) := by
  have hg : Grows c ({ c with pump := .top, writing := c.writing.drop n }.enqueue
      (c.writing.take n)) := ⟨rfl, prefix_append _ _, List.Subset.refl _⟩
  have hwriting := h.own.writing hopen
  have hread := h.own.read
  have hreading := h.own.reading
  have hne := h.own.nonempty
  rw [hpump] at hread hreading hne
  have hflat : (c.queued ++ [c.writing.take n]).flatten ++ c.writing.drop n = c.written := by
    rw [flatten_append, flatten_singleton, append_assoc, take_append_drop, hwriting]
  have hsender : c.sender.queue (c.writing.take n) = { c.sender with
        next := c.sender.next + 1
        inflight := c.sender.inflight ++ [⟨c.sender.next, c.writing.take n, 0, false⟩] } := by
    have : c.sender.inflight.length < c.sender.window := of_decide_eq_true hready
    rw [Sender.queue, if_neg (by omega)]
  refine ⟨⟨⟨h.own.hardReset, h.own.tracks.queue hready _, ?_, h.own.pending,
    fun dg hdg => hg.sends (h.own.sent dg hdg), ⟨_, hflat⟩, fun _ => hflat, hread, hreading, hne⟩,
    { h.knows with released := fun i hi => ?_ }⟩, hg⟩
  · simp only [enqueue, hsender, h.own.window]
  · simp only [enqueue, hsender]
    simp only [enqueue, length_append, length_singleton] at hi
    rcases Nat.lt_succ_iff_lt_or_eq.1 hi with hi | rfl
    · rcases h.knows.released i hi with ⟨m, hm, hid⟩ | ht
      · exact .inl ⟨m, mem_append_left _ hm, hid⟩
      · exact .inr ht
    · exact .inl ⟨_, mem_append_right _ (mem_singleton_self _), h.own.tracks.next⟩

/-- What a read returns was the next to be read. -/
lemma read_stream (c : Channel) (n : ℕ) :
    (c.read n).returned ++ (c.read n).readRem ++ (c.read n).inbound.flatten =
      c.returned ++ c.readRem ++ c.inbound.flatten := by
  unfold read
  split_ifs with hrem
  · simp
  · split
    · rfl
    · next payload rest hin =>
        simp [not_not.1 hrem, hin]

lemma read_frame (c : Channel) (k : ℕ) : c.read k = { c with
      inbound := (c.read k).inbound, readRem := (c.read k).readRem
      returned := (c.read k).returned } := by
  unfold read
  split_ifs
  · rfl
  · split <;> rfl

/-- A change of what is written and read, of the pump or of the flag. -/
lemma Sane.keep (h : c.Sane peer) (c' : Channel) (hc' : c' = { c with
      inbound := c'.inbound, readRem := c'.readRem, returned := c'.returned, pump := c'.pump
      closed := c'.closed, writing := c'.writing, written := c'.written
      datagrams := c'.datagrams })
    (hdg : ∀ dg ∈ c'.datagrams, peer.Sends dg) (hw : c.queued.flatten <+: c'.written)
    (hw' : c'.closed = false → c.queued.flatten ++ c'.writing = c'.written)
    (hr : c'.returned ++ c'.readRem ++ c'.inbound.flatten ++ c'.pump.rest.flatten <+:
      c.delivered.flatten)
    (hr' : c'.closed = false → c'.returned ++ c'.readRem ++ c'.inbound.flatten ++
      c'.pump.rest.flatten = c.delivered.flatten)
    (hne : ∀ p ∈ c'.inbound ++ c'.pump.rest, p ≠ []) : Settled c peer c' := by
  have hg : Grows c c' := by rw [hc']; exact .of_eq rfl
  refine ⟨?_, hg⟩
  rw [hc'] at hg ⊢
  exact ⟨⟨h.own.hardReset, h.own.tracks, h.own.window, h.own.pending,
    fun dg hdg => hg.sends (h.own.sent dg hdg), hw, hw', hr, hr', hne⟩,
    { h.knows with datagrams := hdg }⟩

/-- **One step of an end.** -/
lemma Sane.react (h : c.Sane peer) (now : ℕ) (e : ChannelEvent) (hprompt : c.Prompt e)
    (hfew : peer.queued.length < 2 ^ 32) : Settled c peer (c.react now e) := by
  have hself : Settled c peer c := ⟨h, .refl c⟩
  have hown := h.own
  have hknows := h.knows
  -- the pump goes on from its `select`
  have hnext : ∀ {dgs : List Bytes} {pump : Pump}, c.pump = .select → dgs ⊆ c.datagrams →
      pump.rest = [] → Settled c peer { c with datagrams := dgs, pump } := by
    intro dgs pump hp hdgs hrest
    have hrest' : pump.rest = c.pump.rest := by rw [hrest, hp]; rfl
    refine h.keep _ rfl (fun d hd => hknows.datagrams d (hdgs hd)) hown.written hown.writing ?_ ?_
      ?_ <;> dsimp only <;> rw [hrest']
    exacts [hown.read, hown.reading, hown.nonempty]
  cases e with
  | transmit =>
    rw [Channel.react]
    split_ifs with hp
    · exact h.transmit hp now
    · exact hself
  | datagram =>
    rw [Channel.react]
    split
    · next dg rest hp hdgs =>
        have hpop : Settled c peer { c with datagrams := rest, pump := .top } :=
          hnext hp (hdgs ▸ subset_cons_self _ _) rfl
        have := hpop.sane.handleDatagram rfl (hprompt hp) hfew
          (hknows.datagrams dg (hdgs ▸ mem_cons_self))
        exact ⟨this.sane, hpop.grows.trans this.grows⟩
    · exact hself
  | chunk =>
    rw [Channel.react]
    split_ifs with hc
    · exact h.chunk hc.1 hc.2.1 (hprompt hc.1) _
    · exact hself
  | timer =>
    rw [Channel.react]
    split_ifs with hp
    · exact hnext hp (List.Subset.refl _) rfl
    · exact hself
  | stop =>
    rw [Channel.react]
    split_ifs with hp
    · exact hnext hp.1 (List.Subset.refl _) rfl
    · exact hself
  | push =>
    rw [Channel.react]
    split
    · next p ps hp =>
        split_ifs
        · have hr := hown.read
          have hr' := hown.reading
          have hflat : (c.inbound ++ [p]).flatten ++ ps.flatten =
              c.inbound.flatten ++ (p :: ps).flatten := by simp
          have hne := hown.nonempty
          rw [hp, Pump.rest, append_assoc] at hr hr'
          rw [hp, Pump.rest] at hne
          refine h.keep _ rfl hknows.datagrams hown.written hown.writing ?_ ?_ ?_ <;>
            simp only [rest_delivering, append_assoc, hflat] at hr hr' ⊢
          · exact hr
          · exact hr'
          · exact hne
        · exact hself
    · exact hself
  | drop =>
    rw [Channel.react]
    split
    · split_ifs with hcl
      · refine h.keep _ rfl hknows.datagrams hown.written hown.writing ?_ (fun ho => ?_)
          fun p hp => hown.nonempty p (mem_append_left _ (by simpa [Pump.rest] using hp))
        · simpa [Pump.rest] using (prefix_append _ c.pump.rest.flatten).trans hown.read
        · exact absurd (hcl.symm.trans ho) (by decide)
      · exact hself
    · exact hself
  | write p =>
    rw [Channel.react]
    split_ifs with hw
    · refine h.keep _ rfl hknows.datagrams (hown.written.trans (prefix_append _ _))
        (fun ho => ?_) hown.read hown.reading hown.nonempty
      have := hown.writing ho
      rw [hw, append_nil] at this
      rw [this]
    · exact hself
  | abort =>
    rw [Channel.react]
    split_ifs with hcl
    · refine h.keep _ rfl hknows.datagrams hown.written (fun ho => ?_) hown.read hown.reading
        hown.nonempty
      exact absurd (hcl.symm.trans ho) (by decide)
    · exact hself
  | read n =>
    have hsub : (c.read n).inbound ⊆ c.inbound := by
      unfold read
      split_ifs
      · exact List.Subset.refl _
      · split
        · exact List.Subset.refl _
        · next hin => exact hin ▸ subset_cons_self _ _
    rw [Channel.react, read_frame]
    refine h.keep _ rfl hknows.datagrams hown.written hown.writing ?_ ?_ fun p hp => ?_
    · rw [read_stream]
      exact hown.read
    · rw [read_stream]
      exact hown.reading
    · exact hown.nonempty p ((mem_append.1 hp).elim (fun hp => mem_append_left _ (hsub hp))
        (mem_append_right _))
  | close =>
    exact h.keep c.close rfl hknows.datagrams hown.written (fun ho => (nomatch ho)) hown.read
      (fun ho => (nomatch ho)) hown.nonempty

end Channel

/-! ## Both ends -/

@[simp] lemma Side.other_other (s : Side) : s.other.other = s := by cases s <;> rfl

lemma Side.other_ne (s : Side) : s.other ≠ s := by cases s <;> decide

lemma Side.eq_or_eq_other (s a : Side) : s = a ∨ s = a.other := by
  cases s <;> cases a <;> decide

instance Side.decidableForall (P : Side → Prop) [∀ s, Decidable (P s)] : Decidable (∀ s, P s) :=
  decidable_of_iff (P .client ∧ P .server)
    ⟨fun h s => by cases s <;> simp [h], fun h => ⟨h _, h _⟩⟩

namespace Pair

/-- What is said of the stream that one end reads, and of its window. -/
structure Stream (p : Pair) (s : Side) : Prop where
  /-- in order, without gaps or repeats -/
  inOrder : (p.ends s).returned <+: (p.ends s.other).written
  window : (p.ends s).sender.inflight.length ≤ 4
  /-- a message leaves the window only after the other end has taken it -/
  released : ∀ i < (p.ends s).queued.length,
    (∃ m ∈ (p.ends s).sender.inflight, m.id = UInt32.ofNat i) ∨
      UInt32.ofNat i ∈ (p.ends s.other).taken

/-- Both pumps are prompt. -/
def Prompt (p : Pair) : PairEvent → Prop
  | .act s e => (p.ends s).Prompt e
  | _ => True

instance Prompt.decidable (p : Pair) (e : PairEvent) : Decidable (p.Prompt e) := by
  cases e <;> unfold Prompt <;> infer_instance

/-- Fewer than 2^32 messages at each end. -/
def Few (p : Pair) : Prop := ∀ s, (p.ends s).queued.length < 2 ^ 32

instance Few.decidable (p : Pair) : Decidable p.Few := Side.decidableForall _

/-- What every run keeps. -/
def Sane (p : Pair) : Prop := ∀ s, (p.ends s).Sane (p.ends s.other)

lemma sane_new (keyID : Side → UInt8) (localID : Side → SessionID) (timeout : Side → ℕ) :
    (new keyID localID timeout).Sane := by
  intro s
  refine ⟨⟨?_, ⟨?_, ?_, ?_⟩, rfl, nofun, nofun, ?_, fun _ => rfl, ?_, fun _ => rfl, nofun⟩,
    ⟨⟨rfl, nil_prefix, nofun, nofun, nofun, nofun⟩, nofun, nofun, nofun, fun i hi => .inl ?_⟩⟩
  · cases s <;> simp [new, newChannel, enqueue]
  · rfl
  · intro m hm
    obtain rfl := mem_singleton.1 hm
    exact ⟨0, rfl, rfl⟩
  · exact (by decide : 1 ≤ 4)
  · exact prefix_rfl
  · exact prefix_rfl
  · have hi : i < 1 := hi
    obtain rfl : i = 0 := by omega
    exact ⟨_, mem_singleton_self _, rfl⟩

@[simp] lemma turn_self (p : Pair) (s : Side) (c : Channel) : (p.turn s c).ends s = c :=
  update_self _ _ _

@[simp] lemma turn_other (p : Pair) (s : Side) (c : Channel) :
    (p.turn s c).ends s.other = p.ends s.other :=
  update_of_ne (Side.other_ne s) _ _

/-- A step of one end, beside the other. -/
lemma sane_turn {p : Pair} (h : p.Sane) (s : Side) {c : Channel}
    (hc : (p.ends s).Settled (p.ends s.other) c) (hfew : c.queued.length < 2 ^ 32) :
    (p.turn s c).Sane := by
  intro a
  rcases a.eq_or_eq_other s with rfl | rfl
  · rw [turn_self, turn_other]
    exact hc.sane
  · have hpeer := h s.other
    rw [Side.other_other] at hpeer
    rw [Side.other_other, turn_self, turn_other]
    exact ⟨hpeer.own, hpeer.knows.grows hc.grows hfew⟩

lemma sane_step {p : Pair} (h : p.Sane) (hfew : p.Few) (e : PairEvent) (hprompt : p.Prompt e)
    (hfew' : (p.step e).Few) : (p.step e).Sane := by
  cases e with
  | tick => exact h
  | arrive s i =>
    unfold step
    dsimp only
    split
    · exact h
    next dg hdg =>
      refine sane_turn h s ?_ ?_
      · unfold deliver
        split_ifs
        · refine (h s).keep _ rfl (fun d hd => ?_) (h s).own.written (h s).own.writing
            (h s).own.read (h s).own.reading (h s).own.nonempty
          rcases mem_append.1 hd with hd | hd
          · exact (h s).knows.datagrams d hd
          · obtain rfl := mem_singleton.1 hd
            exact (h s.other).own.sent d (mem_of_getElem? hdg)
        · exact ⟨h s, .refl _⟩
      · unfold deliver
        split_ifs <;> exact hfew s
  | act s e =>
    refine sane_turn h s ((h s).react p.now e hprompt (hfew s.other)) ?_
    have := hfew' s
    rwa [step, turn_self] at this

lemma Sane.stream {p : Pair} (h : p.Sane) (s : Side) : p.Stream s := by
  refine ⟨?_, (h s).own.window ▸ (h s).own.tracks.window, (h s).knows.released⟩
  calc (p.ends s).returned <+: (p.ends s).delivered.flatten := by
        refine List.IsPrefix.trans ?_ (h s).own.read
        simp only [append_assoc]
        exact prefix_append _ _
    _ <+: (p.ends s.other).queued.flatten := (h s).knows.holds.inOrder.flatten
    _ <+: (p.ends s.other).written := (h s.other).own.written

lemma stream_run : ∀ (p : Pair) (es : List PairEvent), p.Sane →
    Along step Prompt p es → Always step Few p es →
    Always step (fun p => ∀ s, p.Stream s) p es
  | _, [], h, _, _ => h.stream
  | p, e :: es, h, hprompt, hfew =>
    ⟨h.stream, stream_run (p.step e) es
      (sane_step h hfew.1 e hprompt.1 hfew.2.head) hprompt.2 hfew.2⟩

end Pair

end Veepin.OpenVPN
