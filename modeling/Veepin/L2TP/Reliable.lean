import Veepin.L2TP.Tunnel

/-!
# The L2TP control connection is reliable

What two tunnels keep whatever the network does, as long as neither queues 2^15 control messages:
each end dispatches a prefix of what the other queued, the session comes up at most once at each
end, the identifiers agree when both are established, a probe succeeds only if its HELLO was
dispatched, and the frames passed on are those the other end sent.

* `Tunnel.Own` — the numbers and the datagrams of one end; `Follows` — what it knows of the other;
* `Grows` — an end only adds to its histories, so that what the other end knows of it stays true;
* `link_reliable` — the invariant in every run.
-/

namespace Veepin.L2TP

open List Function Tunnel

/-! ## Messages and numbers -/

/-- A message as the other end sees it. -/
def Tunnel.shown (t : Tunnel) (m : Msg) : List Avp := (t.said m).map received

lemma body_fits (tunnelID sessionID : UInt16) (m : Msg) :
    ∀ a ∈ m.body tunnelID sessionID, Fits a := by
  cases m <;> simp [Msg.body, Fits, defaultHostName]

lemma parseAVPs_said (t : Tunnel) (m : Msg) :
    parseAVPs (marshalAVPs (t.said m)) = some (t.shown m) :=
  parseAVPs_marshalAVPs _ (body_fits _ _ m)

lemma length_said (t : Tunnel) (m : Msg) : (marshalAVPs (t.said m)).length < 65000 := by
  cases m <;> simp [said, Msg.body, marshalAVPs, marshalAVP, defaultHostName]

lemma shown_ne_nil (t : Tunnel) (m : Msg) : t.shown m ≠ [] := by
  simp [shown, said, Msg.body]

/-- The type of a message. -/
lemma messageType_shown (t : Tunnel) (m : Msg) : messageType (t.shown m) = some m.code := by
  cases m <;> rfl

variable {m : Msg}

lemma code_inj {m' : Msg} (h : m.code = m'.code) : m = m' := by
  cases m <;> cases m' <;> first | rfl | exact absurd h (by decide)

lemma findUint16_shown_tunnel (t : Tunnel) (hm : m = .sccrq ∨ m = .sccrp) :
    findUint16 (t.shown m) 9 = some t.localTunnelID := by
  rcases hm with rfl | rfl <;> simp [findUint16, shown, said, Msg.body, received]

lemma findUint16_shown_session (t : Tunnel) (hm : m = .icrq ∨ m = .icrp) :
    findUint16 (t.shown m) 14 = some t.localSessionID := by
  rcases hm with rfl | rfl <;> simp [findUint16, shown, said, Msg.body, received]

variable {i : ℕ}

/-- Below 2^15 the numbers say what they count. -/
lemma toNat_ofNat (hi : i < 2 ^ 15) : (UInt16.ofNat i).toNat = i :=
  UInt16.toNat_ofNat_of_lt' (hi.trans (by decide))

lemma ofNat_inj {j : ℕ} (hi : i < 2 ^ 15) (hj : j < 2 ^ 15) (h : UInt16.ofNat i = UInt16.ofNat j) :
    i = j := by
  rw [← toNat_ofNat hi, ← toNat_ofNat hj, h]

lemma lt_of_seqLess {j : ℕ} (hi : i < 2 ^ 15) (hj : j < 2 ^ 15)
    (h : seqLess (UInt16.ofNat i) (UInt16.ofNat j) = true) : i < j := by
  have h' : 0x8000 ≤ (UInt16.ofNat i - UInt16.ofNat j).toNat := of_decide_eq_true h
  rw [UInt16.toNat_sub, toNat_ofNat hi, toNat_ofNat hj] at h'
  omega

/-! ## One end -/

/-- What an end has sent: a frame, a message it queued, or a bare acknowledgement; the last two with
the number of a message it had dispatched. -/
def Tunnel.Emitted (t : Tunnel) (d : Bytes) : Prop :=
  (∃ tid sid, ∃ f ∈ t.frames, d = marshalData tid sid f) ∨
    ∃ tid sid n, n ≤ t.dispatched.length ∧
      ((∃ i m, t.queued[i]? = some m ∧
          d = marshalControl tid sid (UInt16.ofNat i) (UInt16.ofNat n) (marshalAVPs (t.said m))) ∨
        ∃ ns, d = marshalControl tid sid ns (UInt16.ofNat n) [])

/-- The numbers and the datagrams of one end. -/
structure Tunnel.Own (t : Tunnel) : Prop where
  ns : t.ns = UInt16.ofNat t.queued.length
  nr : t.nr = UInt16.ofNat t.dispatched.length
  unacked : ∀ p ∈ t.unacked, ∃ i m, t.queued[i]? = some m ∧ p.ns = UInt16.ofNat i ∧
    p.avps = marshalAVPs (t.said m)
  out : ∀ d ∈ t.out, t.Emitted d
  waiting : ∀ k ∈ t.helloWait, ∃ n, t.hellos[k]? = some n ∧ t.helloNs = UInt16.ofNat n ∧
    n < t.queued.length
  made : ∀ k ∈ t.released, k < t.hellos.length

/-- The calls of one end, made and outstanding, and with `o` also their order at the end. -/
structure Tunnel.Calls (o : Prop) (t : Tunnel) : Prop where
  flag : t.closedFlag = true ↔ t.state = .closed
  marked : t.established = true → .stateSet ∈ t.log
  setup : t.state ≠ .established → t.state ≠ .closed → t.established = false
  once : (t.log ++ t.todo).count .sessionUp ≤ if t.established then 1 else 0
  closing : .closed ∈ t.log ++ t.todo → t.state = .closed
  data : ∀ f, .dataFrame f ∈ t.todo → t.established = true
  quiet : o → t.closedFlag = true → ∀ f, .dataFrame f ∉ t.todo
  logged : ∀ pre f post, t.log = pre ++ .dataFrame f :: post →
    .stateSet ∈ pre ∧ (o → .closed ∉ pre)

/-- What one end knows of the other. -/
structure Follows (t peer : Tunnel) : Prop where
  dispatched : t.dispatched <+: peer.queued.map peer.shown
  hellos : ∀ k n, t.hellos[k]? = some n → k ∈ t.released →
    n < peer.dispatched.length ∨ t.closedFlag = true
  probed : ∀ n ∈ t.probed, n < peer.dispatched.length
  frames : ∀ f, .dataFrame f ∈ t.log ++ t.todo → f ∈ peer.frames
  tunnelID : t.state ∉ [.idle, .waitSCCRP, .closed] → t.peerTunnelID = peer.localTunnelID
  sessionID : t.state ∈ [.waitICCN, .established] → t.peerSessionID = peer.localSessionID

/-- An end only adds to its histories. -/
structure Grows (t t' : Tunnel) : Prop where
  tunnelID : t'.localTunnelID = t.localTunnelID
  sessionID : t'.localSessionID = t.localSessionID
  queued : t.queued <+: t'.queued
  dispatched : t.dispatched <+: t'.dispatched
  frames : t.frames ⊆ t'.frames

lemma Grows.refl (t : Tunnel) : Grows t t :=
  ⟨rfl, rfl, prefix_rfl, prefix_rfl, List.Subset.refl _⟩

variable {t' : Tunnel}

lemma Grows.of_eq {t : Tunnel}
    (h : (t'.localTunnelID, t'.localSessionID, t'.queued, t'.dispatched, t'.frames) =
      (t.localTunnelID, t.localSessionID, t.queued, t.dispatched, t.frames)) : Grows t t' := by
  simp only [Prod.mk.injEq] at h
  obtain ⟨h₁, h₂, h₃, h₄, h₅⟩ := h
  exact ⟨h₁, h₂, h₃ ▸ prefix_rfl, h₄ ▸ prefix_rfl, h₅ ▸ List.Subset.refl _⟩

lemma Grows.trans {t t'' : Tunnel} (h : Grows t t') (h' : Grows t' t'') : Grows t t'' :=
  ⟨h'.tunnelID.trans h.tunnelID, h'.sessionID.trans h.sessionID, h.queued.trans h'.queued,
    h.dispatched.trans h'.dispatched, List.Subset.trans h.frames h'.frames⟩

section

variable {t : Tunnel} (h : Grows t t')

include h

lemma Grows.said (m : Msg) : t'.said m = t.said m := by
  rw [Tunnel.said, Tunnel.said, h.tunnelID, h.sessionID]

lemma Grows.shown : t'.shown = t.shown :=
  funext fun m => by rw [Tunnel.shown, Tunnel.shown, h.said]

lemma Grows.get (hi : t.queued[i]? = some m) : t'.queued[i]? = some m := by
  obtain ⟨rest, hrest⟩ := h.queued
  obtain ⟨hlt, -⟩ := List.getElem?_eq_some_iff.1 hi
  rw [← hrest, getElem?_append_left hlt, hi]

lemma Grows.emitted {d : Bytes} (hd : t.Emitted d) : t'.Emitted d := by
  rcases hd with ⟨tid, sid, f, hf, rfl⟩ | ⟨tid, sid, n, hn, ⟨i, m, hi, rfl⟩ | ⟨ns, rfl⟩⟩
  · exact .inl ⟨tid, sid, f, h.frames hf, rfl⟩
  · exact .inr ⟨tid, sid, n, hn.trans h.dispatched.length_le, .inl ⟨i, m, h.get hi, by
      rw [h.said]⟩⟩
  · exact .inr ⟨tid, sid, n, hn.trans h.dispatched.length_le, .inr ⟨ns, rfl⟩⟩

end

/-- What an end knows of the other stays true. -/
lemma Follows.grows {t peer peer' : Tunnel} (h : Follows t peer) (hg : Grows peer peer') :
    Follows t peer' := by
  refine ⟨?_, fun k n hk hr => ?_, fun n hn => ?_, fun f hf => hg.frames (h.frames f hf),
    fun hs => hg.tunnelID ▸ h.tunnelID hs, fun hs => hg.sessionID ▸ h.sessionID hs⟩
  · rw [hg.shown]
    exact h.dispatched.trans (hg.queued.map _)
  · exact (h.hellos k n hk hr).imp_left fun hlt => hlt.trans_le hg.dispatched.length_le
  · exact (h.probed n hn).trans_le hg.dispatched.length_le

/-! ## What the operations keep -/

namespace Tunnel

variable {t peer : Tunnel} {c : Call} {o : Prop}

lemma grows_queueControl (t : Tunnel) (sid : UInt16) (m : Msg) : Grows t (t.queueControl sid m) :=
  ⟨rfl, rfl, prefix_append _ _, prefix_rfl, List.Subset.refl _⟩

/-- A message that is queued is sent under the next number. -/
lemma Own.queueControl (h : t.Own) (sid : UInt16) (m : Msg) : (t.queueControl sid m).Own := by
  have hg := grows_queueControl t sid m
  have hnew : (t.queueControl sid m).queued[t.queued.length]? = some m := by
    simp [Tunnel.queueControl]
  refine ⟨?_, h.nr, fun p hp => ?_, fun d hd => ?_, fun k hk => ?_, h.made⟩
  · simp only [Tunnel.queueControl, h.ns, length_append, length_singleton, UInt16.ofNat_add]
    rfl
  · rcases mem_append.1 hp with hp | hp
    · obtain ⟨i, m', hi, hns, havps⟩ := h.unacked p hp
      exact ⟨i, m', hg.get hi, hns, havps⟩
    · obtain rfl := mem_singleton.1 hp
      exact ⟨_, m, hnew, h.ns, rfl⟩
  · rcases mem_append.1 hd with hd | hd
    · exact hg.emitted (h.out d hd)
    · obtain rfl := mem_singleton.1 hd
      refine .inr ⟨t.peerTunnelID, sid, t.dispatched.length, le_rfl, .inl ⟨_, m, hnew, ?_⟩⟩
      rw [buildControl, h.ns, h.nr]
      rfl
  · obtain ⟨n, hn, hns, hlt⟩ := h.waiting k hk
    refine ⟨n, hn, hns, hlt.trans_le ?_⟩
    simp [Tunnel.queueControl]

lemma Own.made_waiting (h : t.Own) :
    ∀ k ∈ t.helloWait.toList ++ t.released, k < t.hellos.length := by
  intro k hk
  rcases mem_append.1 hk with hk | hk
  · obtain ⟨n, hn, -⟩ := h.waiting k (Option.mem_toList.1 hk)
    exact (List.getElem?_eq_some_iff.1 hn).1
  · exact h.made k hk

/-- A bare acknowledgement. -/
lemma Own.sendZLB (h : t.Own) : t.sendZLB.Own := by
  refine { h with out := fun d hd => ?_ }
  rcases mem_append.1 hd with hd | hd
  · exact h.out d hd
  · obtain rfl := mem_singleton.1 hd
    exact .inr ⟨t.peerTunnelID, 0, t.dispatched.length, le_rfl, .inr ⟨t.ns, by rw [h.nr]⟩⟩

/-- A call that is made, or is to be made, other than those that matter. -/
lemma Calls.later (h : Calls o t) (hc : c = .finishClose) :
    Calls o { t with todo := t.todo ++ [c] } := by
  subst hc
  refine ⟨h.flag, h.marked, h.setup, ?_, fun hm => h.closing ?_, fun f hf => h.data f ?_,
    fun ho hf => ?_, h.logged⟩
  · simpa [← append_assoc, count_append] using h.once
  · simpa using hm
  · simpa using hf
  · simpa using h.quiet ho hf

lemma follows_later (h : Follows t peer) (hc : c = .finishClose) :
    Follows { t with todo := t.todo ++ [c] } peer := by
  subst hc
  refine { h with frames := fun f hf => h.frames f ?_ }
  simpa using hf

/-- The three parts together. -/
structure Sane (o : Prop) (t peer : Tunnel) : Prop where
  own : t.Own
  calls : Calls o t
  follows : Follows t peer

/-- What every operation keeps. -/
structure Settled (o : Prop) (t peer t' : Tunnel) : Prop where
  sane : Sane o t' peer
  grows : Grows t t'

section

variable (h : Sane o t peer)

include h

lemma Sane.settled : Settled o t peer t := ⟨h, .refl t⟩

lemma Sane.start : Settled o t peer t.start := by
  unfold Tunnel.start
  split_ifs with hcond
  · exact h.settled
  have hs : t.state = .idle := not_not.1 (not_or.1 hcond).2
  have hown := h.own.queueControl 0 .sccrq
  have hc := h.calls
  have hne : t.closedFlag ≠ true := fun hf => by simpa [hs] using hc.flag.1 hf
  refine ⟨⟨{ hown with },
    ⟨iff_of_false hne (by simp), hc.marked, fun _ _ => hc.setup (by simp [hs]) (by simp [hs]),
      hc.once, fun hm => absurd (hc.closing hm) (by simp [hs]), hc.data, hc.quiet, hc.logged⟩,
    { h.follows with
      tunnelID := fun hm => by simp at hm
      sessionID := fun hm => by simp at hm }⟩, ?_⟩
  exact ⟨rfl, rfl, prefix_append _ _, prefix_rfl, List.Subset.refl _⟩

lemma Sane.sendPPP (frame : Bytes) : Settled o t peer (t.sendPPP frame) := by
  unfold Tunnel.sendPPP
  split_ifs
  · exact h.settled
  have hg : Grows t { t.send (marshalData t.peerTunnelID t.peerSessionID frame) with
      frames := t.frames ++ [frame] } :=
    ⟨rfl, rfl, prefix_rfl, prefix_rfl, subset_append_left _ _⟩
  refine ⟨⟨{ h.own with out := fun d hd => ?_ }, { h.calls with }, { h.follows with }⟩, hg⟩
  rcases mem_append.1 hd with hd | hd
  · exact hg.emitted (h.own.out d hd)
  · obtain rfl := mem_singleton.1 hd
    exact .inl ⟨_, _, frame, by simp, rfl⟩

lemma Sane.onRetransmit : Settled o t peer t.onRetransmit := by
  unfold Tunnel.onRetransmit
  split_ifs
  · exact h.settled
  · have hc := h.calls.later rfl
    have hf := follows_later h.follows rfl
    exact ⟨⟨{ h.own with }, { hc with }, { hf with }⟩, .of_eq rfl⟩
  · refine ⟨⟨{ h.own with out := fun d hd => ?_ }, { h.calls with }, { h.follows with }⟩,
      .of_eq rfl⟩
    rcases mem_append.1 hd with hd | hd
    · exact h.own.out d hd
    · obtain ⟨p, hp, rfl⟩ := mem_map.1 hd
      obtain ⟨i, m, hi, hns, havps⟩ := h.own.unacked p hp
      refine .inr ⟨t.peerTunnelID, p.sessionID, t.dispatched.length, le_rfl, .inl ⟨i, m, hi, ?_⟩⟩
      rw [buildControl, hns, havps, h.own.nr]
      rfl

lemma Sane.close : Settled o t peer t.close := by
  unfold Tunnel.close
  split_ifs
  · exact h.settled
  · have hc := h.calls.later rfl
    have hf := follows_later h.follows rfl
    exact ⟨⟨{ h.own with }, hc, hf⟩, .of_eq rfl⟩

/-- A probe: its channel, and then its message. -/
lemma Sane.sendHello : Settled o t peer t.sendHello := by
  unfold Tunnel.sendHello
  split_ifs with hcond
  · exact h.settled
  have hown := h.own.queueControl 0 .hello
  have hget : ∀ k n, k ∈ t.released → (t.hellos ++ [t.queued.length])[k]? = some n →
      t.hellos[k]? = some n := fun k n hk hn => by
    rwa [getElem?_append_left (h.own.made k hk)] at hn
  refine ⟨⟨⟨hown.ns, hown.nr, hown.unacked, fun d hd => ?_, fun k hk => ?_, fun k hk => ?_⟩,
    { h.calls with },
    { h.follows with hellos := fun k n hn hk => h.follows.hellos k n (hget k n hk hn) hk }⟩, ?_⟩
  · have hg : Grows (t.queueControl 0 .hello) ({ t with
        helloWait := some t.hellos.length, helloNs := t.ns
        hellos := t.hellos ++ [t.queued.length] }.queueControl 0 .hello) :=
      .of_eq rfl
    exact hg.emitted (hown.out d hd)
  · obtain rfl := Option.some.inj hk
    exact ⟨t.queued.length, by simp [queueControl], h.own.ns, by
      simp [queueControl]⟩
  · exact (h.own.made k hk).trans_le (by simp [queueControl])
  · exact ⟨rfl, rfl, prefix_append _ _, prefix_rfl, List.Subset.refl _⟩

lemma Sane.awaitHello (k : ℕ) : Settled o t peer (t.awaitHello k) := by
  unfold Tunnel.awaitHello
  split_ifs with hcond
  · refine ⟨⟨{ h.own with }, { h.calls with }, { h.follows with probed := fun n hn => ?_ }⟩,
      .of_eq rfl⟩
    rcases mem_append.1 hn with hn | hn
    · exact h.follows.probed n hn
    · have hk : t.hellos[k]? = some n := Option.mem_toList.1 hn
      exact (h.follows.hellos k n hk hcond.1).resolve_right (by simp [hcond.2])
  · exact h.settled

/-- A frame that arrives. -/
lemma Sane.dataFrame {f : Bytes} (hf : f ∈ peer.frames) (hup : t.established = true)
    (hopen : t.closedFlag = false) : Sane o { t with todo := t.todo ++ [.dataFrame f] } peer := by
  refine ⟨{ h.own with },
    { h.calls with
      once := ?_, closing := fun hm => h.calls.closing ?_, data := fun _ _ => hup
      quiet := fun _ hc => absurd (hopen.symm.trans hc) Bool.false_ne_true },
    { h.follows with frames := fun g hg => ?_ }⟩
  · simpa [← append_assoc, count_append] using h.calls.once
  · simpa using hm
  · have hg' : .dataFrame g ∈ t.log ++ t.todo ∨ g = f := by
      simpa [or_assoc] using hg
    exact hg'.elim (h.follows.frames g) fun he => he ▸ hf

end

/-! ### Calls -/

lemma mem_eraseIdx {l : List Call} (h : c ∈ l.eraseIdx i) : c ∈ l :=
  (eraseIdx_sublist l i).subset h

/-- The tunnel without one outstanding call. -/
lemma Sane.erase (h : Sane o t peer) (i : ℕ) :
    Sane o { t with todo := t.todo.eraseIdx i } peer := by
  have hsub : (t.log ++ t.todo.eraseIdx i).Sublist (t.log ++ t.todo) :=
    (eraseIdx_sublist t.todo i).append_left t.log
  exact ⟨{ h.own with },
    { h.calls with
      once := (hsub.count_le _).trans h.calls.once
      closing := fun hm => h.calls.closing (hsub.subset hm)
      data := fun f hf => h.calls.data f (mem_eraseIdx hf)
      quiet := fun ho hc f hf => h.calls.quiet ho hc f (mem_eraseIdx hf) },
    { h.follows with frames := fun f hf => h.follows.frames f (hsub.subset hf) }⟩

lemma Sane.finishClose (h : Sane o t peer) (hquiet : o → ∀ f, .dataFrame f ∉ t.todo) :
    Sane o t.finishClose peer := by
  unfold Tunnel.finishClose
  split_ifs with hclosed
  · exact h
  refine ⟨{ h.own with waiting := nofun, made := h.own.made_waiting },
    ⟨iff_of_true rfl rfl, h.calls.marked, fun _ hn => absurd rfl hn, ?_, fun _ => rfl,
      fun f hf => h.calls.data f (by simpa using hf), fun ho _ => by simpa using hquiet ho,
      h.calls.logged⟩,
    ⟨h.follows.1, fun _ _ _ _ => .inr rfl, h.follows.3,
      fun f hf => h.follows.frames f (by simpa using hf), fun hm => by simp at hm,
      fun hm => by simp at hm⟩⟩
  simpa [← append_assoc, count_append] using h.calls.once

lemma grows_finishClose (t : Tunnel) : Grows t t.finishClose := by
  unfold finishClose
  split_ifs <;> exact .of_eq rfl

/-- One more entry of a log that is not in the list before. -/
lemma append_one_eq {log pre post : List Call} {x : Call}
    (h : log ++ [c] = pre ++ x :: post) : (pre = log ∧ c = x) ∨ ∃ rest, log = pre ++ x :: rest := by
  rw [append_eq_append_iff] at h
  rcases h with ⟨as, rfl, has⟩ | ⟨bs, hlog, hbs⟩
  · cases as with
    | nil => exact .inl ⟨append_nil _, (cons.inj has).1⟩
    | cons a as => simp at has
  · cases bs with
    | nil => exact .inl ⟨by rw [hlog, append_nil], (cons.inj hbs.symm).1⟩
    | cons b bs =>
      obtain ⟨rfl, -⟩ := cons.inj hbs
      exact .inr ⟨bs, hlog⟩

/-- **A call is made.**  With `o`, no frame is outstanding when the tunnel is closed, so a frame is
passed on before. -/
lemma Sane.call (h : Sane o t peer) (i : ℕ)
    (hquiet : o → t.todo[i]? = some .finishClose → ∀ f, .dataFrame f ∉ t.todo) :
    Settled o t peer (t.call i) := by
  unfold Tunnel.call
  split
  · exact h.settled
  next c hc =>
    obtain ⟨hi, hget⟩ := List.getElem?_eq_some_iff.1 hc
    have hmem : c ∈ t.todo := hget ▸ getElem_mem hi
    have herase := h.erase i
    -- the calls after the step are those before it
    have hperm : (t.log ++ [c] ++ t.todo.eraseIdx i).Perm (t.log ++ t.todo) := by
      rw [append_assoc, singleton_append]
      refine List.Perm.append_left _ ?_
      rw [← hget]
      exact getElem_cons_eraseIdx_perm hi
    have hlogged : c ≠ .finishClose →
        Sane o { t with todo := t.todo.eraseIdx i, log := t.log ++ [c] } peer := fun _ => by
      refine ⟨{ h.own with },
        ⟨h.calls.flag, fun hup => mem_append_left _ (h.calls.marked hup), h.calls.setup,
          (hperm.count_eq _).trans_le h.calls.once, fun hm => h.calls.closing (hperm.subset hm),
          herase.calls.data, herase.calls.quiet, fun pre f post he => ?_⟩,
        { h.follows with frames := fun f hf => h.follows.frames f (hperm.subset hf) }⟩
      rcases append_one_eq he with ⟨rfl, rfl⟩ | ⟨rest, hlog⟩
      · refine ⟨h.calls.marked (h.calls.data f hmem), fun ho hm => ?_⟩
        have hclosed := h.calls.flag.2 (h.calls.closing (mem_append_left _ hm))
        exact h.calls.quiet ho hclosed f hmem
      · exact h.calls.logged pre f rest hlog
    split
    · refine ⟨herase.finishClose fun ho f hf => hquiet ho hc f (mem_eraseIdx hf),
        Grows.trans ?_ (grows_finishClose _)⟩
      exact .of_eq rfl
    · next hne => exact ⟨hlogged hne, .of_eq rfl⟩

/-! ### Control messages -/

lemma Sane.queueControl (h : Sane o t peer) (sid : UInt16) (m : Msg) :
    Sane o (t.queueControl sid m) peer :=
  ⟨h.own.queueControl sid m, { h.calls with }, { h.follows with }⟩

lemma Sane.sendZLB (h : Sane o t peer) : Sane o t.sendZLB peer :=
  ⟨h.own.sendZLB, { h.calls with }, { h.follows with }⟩

/-- **Acknowledgements.**  The number is of a message that the peer has dispatched. -/
lemma Sane.purgeAcked (h : Sane o t peer) {n : ℕ} (hn : n ≤ peer.dispatched.length)
    (hpeer : peer.dispatched.length < 2 ^ 15) (hown : t.queued.length < 2 ^ 15) :
    Sane o (t.purgeAcked (UInt16.ofNat n)) peer := by
  refine ⟨⟨h.own.ns, h.own.nr, fun p hp => h.own.unacked p (mem_of_mem_filter hp), h.own.out,
      fun k hk => ?_, fun k hk => ?_⟩,
    { h.calls with }, { h.follows with hellos := fun k m hm hk => ?_ }⟩ <;>
    simp only [Tunnel.purgeAcked] at hk <;> split_ifs at hk with hheard
  · exact nomatch hk
  · exact h.own.waiting k hk
  · exact h.own.made_waiting k hk
  · exact h.own.made k hk
  · rcases mem_append.1 hk with hk | hk
    · -- the HELLO that was waited for is among the messages acknowledged
      obtain ⟨m', hm', hns, hlt⟩ := h.own.waiting k (Option.mem_toList.1 hk)
      obtain rfl := Option.some.inj (hm'.symm.trans hm)
      obtain ⟨p, hp, hpns⟩ := any_eq_true.1 hheard
      have hless := (mem_filter.1 hp).2
      rw [of_decide_eq_true hpns, hns] at hless
      exact .inl ((lt_of_seqLess (hlt.trans hown) (hn.trans_lt hpeer) hless).trans_le hn)
    · exact h.follows.hellos k m hm hk
  · exact h.follows.hellos k m hm hk

/-- **In order.**  A message that carries the expected number is the next one. -/
lemma Sane.accept (h : Sane o t peer) (hi : peer.queued[i]? = some m) (hnr : UInt16.ofNat i = t.nr)
    (hpeer : peer.queued.length < 2 ^ 15) :
    Settled o t peer (t.accept (peer.shown m)) := by
  have hlt := (List.getElem?_eq_some_iff.1 hi).1
  have hle : t.dispatched.length ≤ peer.queued.length := by
    simpa using h.follows.dispatched.length_le
  have hnext : i = t.dispatched.length :=
    ofNat_inj (hlt.trans hpeer) (hle.trans_lt hpeer) (hnr.trans h.own.nr)
  have hg : Grows t (t.accept (peer.shown m)) :=
    ⟨rfl, rfl, prefix_rfl, prefix_append _ _, List.Subset.refl _⟩
  refine ⟨⟨{ h.own with nr := ?_, out := fun d hd => hg.emitted (h.own.out d hd) },
    { h.calls with }, { h.follows with dispatched := ?_ }⟩, hg⟩
  · simp only [Tunnel.accept, h.own.nr, length_append, length_singleton, UInt16.ofNat_add]
    rfl
  · have hmap : (peer.queued.map peer.shown)[t.dispatched.length]? = some (peer.shown m) := by
      rw [getElem?_map, ← hnext, hi]
      rfl
    obtain ⟨rest, hrest⟩ := h.follows.dispatched
    rw [← hrest, getElem?_append_right le_rfl, Nat.sub_self] at hmap
    cases rest with
    | nil => simp at hmap
    | cons a rest =>
      obtain rfl := Option.some.inj hmap
      exact ⟨rest, by rw [← hrest, Tunnel.accept, append_assoc, singleton_append]⟩

lemma Settled.sendZLB (h : Settled o t peer t') : Settled o t peer t'.sendZLB :=
  ⟨h.sane.sendZLB, h.grows.trans (.of_eq rfl)⟩

lemma Settled.queueControl (h : Settled o t peer t') (sid : UInt16) (m : Msg) :
    Settled o t peer (t'.queueControl sid m) :=
  ⟨h.sane.queueControl sid m, h.grows.trans (grows_queueControl _ _ _)⟩

section

variable (h : Sane o t peer) (hs : t.state ≠ .established ∧ t.state ≠ .closed) (tid sid : UInt16)

include h hs

/-- The set-up goes on to another state. -/
lemma Sane.move (s : TunnelState) (hs' : s ≠ .established ∧ s ≠ .closed)
    (htid : s ∉ [.idle, .waitSCCRP, .closed] → tid = peer.localTunnelID)
    (hsid : s ∈ [.waitICCN, .established] → sid = peer.localSessionID) :
    Settled o t peer { t with peerTunnelID := tid, peerSessionID := sid, state := s } := by
  have hflag : t.closedFlag ≠ true := fun hf => hs.2 (h.calls.flag.1 hf)
  refine ⟨?_, .of_eq rfl⟩
  exact ⟨{ h.own with },
    { h.calls with
      flag := iff_of_false hflag hs'.2
      setup := fun _ _ => h.calls.setup hs.1 hs.2
      closing := fun hm => absurd (h.calls.closing hm) hs.2 },
    { h.follows with tunnelID := htid, sessionID := hsid }⟩

/-- **The session comes up**, once. -/
lemma Sane.up (htid : tid = peer.localTunnelID) (hsid : sid = peer.localSessionID) :
    Settled o t peer { t with
      peerTunnelID := tid, peerSessionID := sid, state := .established, established := true
      log := t.log ++ [.stateSet], todo := t.todo ++ [.sessionUp] } := by
  have hflag : t.closedFlag ≠ true := fun hf => hs.2 (h.calls.flag.1 hf)
  have hdown := h.calls.setup hs.1 hs.2
  have honce := h.calls.once
  rw [hdown, if_neg Bool.false_ne_true, Nat.le_zero, count_append] at honce
  refine ⟨?_, .of_eq rfl⟩
  refine ⟨{ h.own with },
    ⟨iff_of_false hflag (by simp), fun _ => by simp, fun hn => absurd rfl hn, ?_, fun hm => ?_,
      fun _ _ => rfl, fun _ hc => absurd hc hflag, fun pre f post he => ?_⟩,
    { h.follows with
      frames := fun f hf => h.follows.frames f (by simpa using hf)
      tunnelID := fun _ => htid
      sessionID := fun _ => hsid }⟩
  · simp only [count_append, if_true]
    have : count Call.sessionUp [Call.stateSet] = 0 ∧
      count Call.sessionUp [Call.sessionUp] = 1 := by decide
    omega
  · exact absurd (h.calls.closing (by simpa using hm)) hs.2
  · rcases append_one_eq he with ⟨-, hne⟩ | ⟨rest, hlog⟩
    · exact nomatch hne
    · exact h.calls.logged pre f rest hlog

end

/-- A message that changes no state. -/
lemma settled_nothing (h : Settled o t peer t') (ns : UInt16) :
    Settled o t peer (conclude ns (t', .nothing)) := by
  unfold conclude
  dsimp only
  split_ifs
  · exact h.sendZLB
  · exact h

section

variable (h : Sane o t peer)

include h

/-- A message that ends the tunnel. -/
lemma settled_closed (ns : UInt16) : Settled o t peer (conclude ns (t, .closed)) :=
  ⟨⟨{ h.own with }, h.calls.later rfl, follows_later h.follows rfl⟩, .of_eq rfl⟩

/-- The messages of the other end, at the LAC. -/
lemma Sane.dispatchLAC (m : Msg) :
    Settled o t peer (conclude t.ns (t.dispatchLAC m.code (peer.shown m))) := by
  unfold Tunnel.dispatchLAC
  split_ifs with hsccrp hicrp
  · obtain rfl := code_inj hsccrp.1
    rw [findUint16_shown_tunnel peer (.inr rfl)]
    dsimp only
    split_ifs
    · exact settled_closed h _
    · refine settled_nothing ?_ _
      have hmove := h.move (by simp [hsccrp.2]) peer.localTunnelID t.peerSessionID .waitICRP
         (by simp) (fun _ => rfl) (by simp)
      exact (hmove.queueControl 0 .scccn).queueControl 0 .icrq
  · obtain rfl := code_inj hicrp.1
    rw [findUint16_shown_session peer (.inr rfl)]
    dsimp only
    split_ifs
    · exact settled_closed h _
    have hup := h.up (by simp [hicrp.2]) t.peerTunnelID peer.localSessionID
      (h.follows.tunnelID (by simp [hicrp.2])) rfl
    unfold conclude
    dsimp only
    split_ifs
    · exact (hup.queueControl peer.localSessionID .iccn).sendZLB
    · exact hup.queueControl peer.localSessionID .iccn
  · exact settled_nothing h.settled _

/-- The messages of the other end, at the LNS. -/
lemma Sane.dispatchLNS (m : Msg) :
    Settled o t peer (conclude t.ns (t.dispatchLNS m.code (peer.shown m))) := by
  unfold Tunnel.dispatchLNS
  split_ifs with hsccrq hscccn hicrq hiccn
  · obtain rfl := code_inj hsccrq.1
    rw [findUint16_shown_tunnel peer (.inl rfl)]
    dsimp only
    split_ifs
    · exact settled_closed h _
    · refine settled_nothing ?_ _
      have hmove := h.move (by simp [hsccrq.2]) peer.localTunnelID t.peerSessionID .waitSCCCN
         (by simp) (fun _ => rfl) (by simp)
      exact hmove.queueControl 0 .sccrp
  · have hmove := h.move (by simp [hscccn.2]) t.peerTunnelID t.peerSessionID .waitICRQ
       (by simp) (fun _ => h.follows.tunnelID (by simp [hscccn.2])) (by simp)
    exact settled_nothing hmove _
  · obtain rfl := code_inj hicrq.1
    rw [findUint16_shown_session peer (.inl rfl)]
    dsimp only
    split_ifs
    · exact settled_closed h _
    · refine settled_nothing ?_ _
      have hmove := h.move (by simp [hicrq.2]) t.peerTunnelID peer.localSessionID .waitICCN
         (by simp) (fun _ => h.follows.tunnelID (by simp [hicrq.2]))
        (fun _ => rfl)
      exact hmove.queueControl peer.localSessionID .icrp
  · have hup := h.up (by simp [hiccn.2]) t.peerTunnelID t.peerSessionID
      (h.follows.tunnelID (by simp [hiccn.2])) (h.follows.sessionID (by simp [hiccn.2]))
    unfold conclude
    dsimp only
    split_ifs
    · exact hup.sendZLB
    · exact hup
  · exact settled_nothing h.settled _

lemma Sane.dispatch (m : Msg) : Settled o t peer (conclude t.ns (t.dispatch (peer.shown m))) := by
  unfold Tunnel.dispatch
  rw [messageType_shown]
  dsimp only
  split_ifs with hbye
  · exact settled_closed h _
  · exact settled_nothing h.settled _
  · split
    · exact h.dispatchLAC m
    · exact h.dispatchLNS m

/-- **A control message arrives**, as the other end sent it. -/
lemma Sane.handleControl (hback : Follows peer t)
    (hown : t.queued.length < 2 ^ 15) (hlen : peer.queued.length < 2 ^ 15)
    {tid sid : UInt16} {n : ℕ} (hn : n ≤ peer.dispatched.length) :
    (∀ i m, peer.queued[i]? = some m → Settled o t peer (t.handleControl
        ⟨true, tid, sid, UInt16.ofNat i, UInt16.ofNat n, marshalAVPs (peer.said m)⟩)) ∧
      ∀ ns, Settled o t peer (t.handleControl ⟨true, tid, sid, ns, UInt16.ofNat n, []⟩) := by
  have hdisp : peer.dispatched.length < 2 ^ 15 := by
    have := hback.dispatched.length_le
    rw [length_map] at this
    exact this.trans_lt hown
  have hpurge : Settled o t peer (t.purgeAcked (UInt16.ofNat n)) :=
    ⟨h.purgeAcked hn hdisp hown, .of_eq rfl⟩
  refine ⟨fun i m hi => ?_, fun ns => ?_⟩ <;> unfold Tunnel.handleControl <;> split_ifs with hs
  · exact h.settled
  · dsimp only
    rw [parseAVPs_said]
    obtain ⟨a, as, has⟩ := exists_cons_of_ne_nil (shown_ne_nil peer m)
    rw [has]
    dsimp only
    rw [← has]
    split_ifs with hne
    · exact hpurge.sendZLB
    · exact hpurge
    · obtain ⟨hsane, hg⟩ := hpurge.sane.accept hi (not_not.1 hne) hlen
      have hd := hsane.dispatch m
      exact ⟨hd.sane, (hpurge.grows.trans hg).trans hd.grows⟩
  · exact h.settled
  · exact hpurge

/-- **A datagram arrives**, any one that the other end has sent. -/
lemma Sane.handleInbound (hback : Follows peer t)
    (hown : t.queued.length < 2 ^ 15) (hlen : peer.queued.length < 2 ^ 15) {d : Bytes}
    (hd : peer.Emitted d) : Settled o t peer (t.handleInbound d) := by
  unfold Tunnel.handleInbound
  rcases hd with ⟨tid, sid, f, hf, rfl⟩ | ⟨tid, sid, n, hn, ⟨i, m, hi, rfl⟩ | ⟨ns, rfl⟩⟩
  · rw [parseHeader_marshalData]
    dsimp only
    rw [if_neg Bool.false_ne_true]
    split_ifs with hdata
    · exact ⟨h.dataFrame hf hdata.1 hdata.2.1, .of_eq rfl⟩
    · exact h.settled
  · rw [parseHeader_marshalControl _ _ _ _ (length_said peer m)]
    exact (h.handleControl hback hown hlen hn).1 i m hi
  · rw [parseHeader_marshalControl _ _ _ _ (by decide)]
    exact (h.handleControl hback hown hlen hn).2 ns

end

end Tunnel

/-! ## The link -/

@[simp] lemma Role.other_other (r : Role) : r.other.other = r := by cases r <;> rfl

lemma Role.other_ne (r : Role) : r.other ≠ r := by cases r <;> decide

lemma Role.eq_or_eq_other (r a : Role) : r = a ∨ r = a.other := by
  cases r <;> cases a <;> decide

def Call.isDataFrame : Call → Bool
  | .dataFrame _ => true
  | _ => false

namespace Link

/-- The tunnel is not closed while a goroutine is between the checks of `HandleInbound` and its call
of `DataFrame`. -/
def Undisturbed (l : Link) : Role × TunnelEvent → Prop
  | (r, .call i) => (l r).todo[i]? = some .finishClose → (l r).todo.any Call.isDataFrame = false
  | _ => True

instance Undisturbed.decidable (l : Link) (e : Role × TunnelEvent) :
    Decidable (l.Undisturbed e) := by
  obtain ⟨r, e⟩ := e
  cases e <;> unfold Undisturbed <;> infer_instance

instance Role.decidableForall (P : Role → Prop) [∀ r, Decidable (P r)] : Decidable (∀ r, P r) :=
  decidable_of_iff (P .lac ∧ P .lns) ⟨fun h r => by cases r <;> simp [h], fun h => ⟨h _, h _⟩⟩

/-- Neither end has queued 2^15 messages. -/
def Few (l : Link) : Prop := ∀ r, (l r).queued.length < 2 ^ 15

instance Few.decidable (l : Link) : Decidable l.Few := Role.decidableForall _

/-- What is said of one end. -/
structure Reliable (l : Link) (r : Role) : Prop where
  /-- a prefix of the messages the other end queued, in order and each once -/
  dispatched : (l r).dispatched <+: (l r.other).queued.map (l r.other).shown
  sessionUp : (l r).log.count .sessionUp ≤ 1
  crosswise : (l r).state = .established → (l r.other).state = .established →
    (l r).peerTunnelID = (l r.other).localTunnelID ∧
      (l r).peerSessionID = (l r.other).localSessionID
  /-- the other end's Nr has passed the HELLO -/
  probed : ∀ n ∈ (l r).probed, n < (l r.other).nr.toNat
  dataFrame : ∀ pre f post, (l r).log = pre ++ .dataFrame f :: post →
    .stateSet ∈ pre ∧ f ∈ (l r.other).frames

/-- No frame is passed on after `Closed`. -/
def InTime (l : Link) (r : Role) : Prop :=
  ∀ pre f post, (l r).log = pre ++ .dataFrame f :: post → .closed ∉ pre

/-- What every run keeps, and with `o` every run that is not disturbed. -/
def Sane (o : Prop) (l : Link) : Prop := ∀ r, Tunnel.Sane o (l r) (l r.other)

lemma sane_new (o : Prop) (tunnelID sessionID : Role → UInt16) : Sane o (new tunnelID sessionID) :=
  fun _ => ⟨⟨rfl, rfl, nofun, nofun, nofun, nofun⟩,
    ⟨by simp [new], nofun, fun _ _ => rfl, Nat.zero_le _, nofun, nofun, nofun, by simp [new]⟩,
    ⟨ nil_prefix, nofun, nofun, nofun, fun h => by simp [new] at h,
      fun h => by simp [new] at h⟩⟩

variable {l : Link} {o : Prop}

/-- **One event at an end.** -/
lemma react_settled (h : Sane o l) (hfew : l.Few) (e : Role × TunnelEvent)
    (hu : o → l.Undisturbed e) :
    Tunnel.Settled o (l e.1) (l e.1.other) ((l e.1).react (l e.1.other) e.2) := by
  obtain ⟨r, e⟩ := e
  have hback : Follows (l r.other) (l r) := by
    have := (h r.other).follows
    rwa [Role.other_other] at this
  dsimp only
  cases e with
  | start => exact (h r).start
  | sendPPP frame => exact (h r).sendPPP frame
  | receive i =>
    unfold react
    dsimp only
    split
    · exact (h r).settled
    · next d hd =>
        exact (h r).handleInbound hback (hfew r) (hfew r.other)
          ((h r.other).own.out d (mem_of_getElem? hd))
  | timer => exact (h r).onRetransmit
  | close => exact (h r).close
  | sendHello => exact (h r).sendHello
  | awaitHello k => exact (h r).awaitHello k
  | call i =>
    refine (h r).call i fun ho hi f hf => ?_
    exact any_eq_false.1 (hu ho hi) _ hf rfl

/-- **The step.**  The end at which the event happens stays sane, and adds to its histories, which
is all the other end relies on. -/
lemma sane_step (h : Sane o l) (hfew : l.Few) (e : Role × TunnelEvent)
    (hu : o → l.Undisturbed e) : Sane o (l.step e) := by
  obtain ⟨hsane, hgrows⟩ := react_settled h hfew e hu
  have hother : l.step e e.1.other = l e.1.other := update_of_ne (Role.other_ne _) _ _
  have hself : l.step e e.1 = (l e.1).react (l e.1.other) e.2 := update_self _ _ _
  intro r
  rcases r.eq_or_eq_other e.1 with rfl | rfl
  · rw [hother, hself]
    exact hsane
  · have hpeer := h e.1.other
    rw [Role.other_other] at hpeer
    rw [Role.other_other, hother, hself]
    exact ⟨hpeer.own, hpeer.calls, hpeer.follows.grows hgrows⟩

lemma Sane.reliable (h : Sane o l) (hfew : l.Few) (r : Role) : l.Reliable r := by
  have hback := (h r.other).follows.dispatched.length_le
  rw [Role.other_other, length_map] at hback
  refine ⟨(h r).follows.dispatched, ?_, fun hr _ => ⟨(h r).follows.tunnelID (by simp [hr]),
    (h r).follows.sessionID (by simp [hr])⟩, fun n hn => ?_, fun pre f post he => ?_⟩
  · have honce := (h r).calls.once
    rw [count_append] at honce
    split_ifs at honce <;> omega
  · rw [(h r.other).own.nr, toNat_ofNat (hback.trans_lt (hfew r))]
    exact (h r).follows.probed n hn
  · exact ⟨((h r).calls.logged pre f post he).1, (h r).follows.frames f (by simp [he])⟩

/-- **The run.**  By induction on the events, with the queues short at each state. -/
lemma always_sane : ∀ (l : Link) (es : List (Role × TunnelEvent)), Sane o l →
    (o → Along step Undisturbed l es) → Always step Few l es →
    Always step (fun l => Sane o l ∧ l.Few) l es
  | _, [], h, _, hfew => ⟨h, hfew⟩
  | l, e :: es, h, hu, hfew =>
    ⟨⟨h, hfew.1⟩, always_sane (l.step e) es (sane_step h hfew.1 e fun ho => (hu ho).1)
      (fun ho => (hu ho).2) hfew.2⟩

end Link

/-- **Reliable delivery.**  From two new tunnels, whatever the network and the timers do, every
state of the run is as it should be; and if no tunnel is closed while a frame is about to be passed
on, no frame is passed on after `Closed`. -/
theorem link_reliable (tunnelID sessionID : Role → UInt16) (es : List (Role × TunnelEvent))
    (hfew : Always Link.step Link.Few (Link.new tunnelID sessionID) es) :
    Always Link.step (fun l => ∀ r, l.Reliable r) (Link.new tunnelID sessionID) es ∧
      (Along Link.step Link.Undisturbed (Link.new tunnelID sessionID) es →
        Always Link.step (fun l => ∀ r, l.InTime r) (Link.new tunnelID sessionID) es) := by
  refine ⟨?_, fun hu => ?_⟩
  · exact (Link.always_sane _ es (Link.sane_new False _ _) False.elim hfew).imp
      fun l hl => hl.1.reliable hl.2
  · exact (Link.always_sane _ es (Link.sane_new True _ _) (fun _ => hu) hfew).imp
      fun l hl r pre f post he => ((hl.1 r).calls.logged pre f post he).2 trivial

/-- The set-up of a session, with a frame from the LAC on its way. -/
def setUp : List (Role × TunnelEvent) :=
  [(.lac, .start), (.lns, .receive 0), (.lac, .receive 0), (.lns, .receive 1), (.lns, .receive 2),
    (.lac, .receive 2), (.lns, .receive 3), (.lac, .sendPPP [1]), (.lns, .receive 4)]

/-- The frame is passed on, and the LAC's probe is answered. -/
def probing : List (Role × TunnelEvent) :=
  setUp ++ [(.lns, .call 0), (.lns, .call 0), (.lac, .sendHello), (.lns, .receive 5),
    (.lac, .receive 4), (.lac, .awaitHello 0)]

/-- Two ends that have drawn the same identifiers. -/
def sameIDs : Link := Link.new (fun _ => 1) fun _ => 1

theorem link_reliable_probing : (run Link.step sameIDs probing .lac).probed = [4] ∧
      Always Link.step (fun l => ∀ r, l.Reliable r) sameIDs probing ∧
      Always Link.step (fun l => ∀ r, l.InTime r) sameIDs probing := by
  obtain ⟨hreliable, htime⟩ := link_reliable (fun _ => 1) (fun _ => 1) probing (by decide)
  exact ⟨by decide, hreliable, htime (by decide)⟩

/-- The tunnel is closed between the check of the flag and the call. -/
def closing : List (Role × TunnelEvent) :=
  setUp ++ [(.lns, .call 0), (.lns, .close), (.lns, .call 1), (.lns, .call 1), (.lns, .call 0)]

/-- The handler has heard of the end before it gets the frame. -/
theorem frame_after_closed :
    Always Link.step Link.Few sameIDs closing ∧ ¬ (run Link.step sameIDs closing).InTime .lns := by
  refine ⟨by decide, fun h => ?_⟩
  have hlog : (run Link.step sameIDs closing .lns).log =
      [.stateSet, .sessionUp, .closed, .dataFrame [1]] := by decide
  exact h [.stateSet, .sessionUp, .closed] [1] [] hlog (by decide)

end Veepin.L2TP
