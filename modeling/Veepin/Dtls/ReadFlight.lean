import Veepin.Dtls.Handshake

/-!
# Reading a flight

What `readFlight` makes of the datagrams that the other end sends.

* `IsFlight.due`, `IsFlight.behind` — a flight of plaintext messages, when it is waited for and when
  it comes once more;
* `receive_finished`, `receive_finished_early` — a Finished, when the keys are there and before.
-/

namespace Veepin.Dtls

open List Option HandshakeMsg

variable {msgs : List HandshakeMsg} {m : HandshakeMsg} {d : Datagram} {typ : UInt8}

section Receiving

variable {P : Primitives} {w : Waiting} {a : Aead} {fs : List Bytes}

lemma flightRecords_cons (seq : ℕ) (f : Bytes) (fs : List Bytes) : flightRecords seq (f :: fs) =
      ⟨recordHandshake, version12, 0, seq, f⟩ :: flightRecords (seq + 1) fs := by
  simp only [flightRecords, mapIdx_cons, Nat.add_zero, cons.injEq, true_and]
  refine congrArg (fun g => mapIdx g fs) ?_
  funext i frag
  rw [Nat.add_assoc, Nat.add_comm i 1]

open ReadSide

/-- The records of a flight go to the reassembler. -/
lemma consumeAll_flight : ∀ (frags : List Bytes) (seq : ℕ) (s : ReadSide),
    s.consumeAll P (flightRecords seq frags) =
      (s.reasm.feed frags).map fun q => (⟨s.conn, q.1⟩, q.2)
  | [], _, _ => rfl
  | f :: frags, seq, s => by
    have hone : s.consume P ⟨recordHandshake, version12, 0, seq, f⟩ =
        (s.reasm.acceptAll f.length f).map fun q => (⟨s.conn, q.1⟩, q.2) := rfl
    rw [flightRecords_cons, consumeAll, hone, Reassembler.feed]
    cases s.reasm.acceptAll f.length f with
    | none => rfl
    | some q =>
      simp only [map_some, collect, bind_some, consumeAll_flight frags (seq + 1), Option.map_map]
      rfl

/-- Every record of a flight takes up its header and its fragment. -/
lemma length_flightRecords : ∀ (frags : List Bytes) (seq : ℕ),
    ((flightRecords seq frags).flatMap Record.encode).length =
      (frags.map fun f => recordHeaderLen + f.length).sum
  | [], _ => rfl
  | f :: frags, seq => by
    rw [flightRecords_cons, flatMap_cons, length_append, Record.length_encode,
      length_flightRecords frags, map_cons, sum_cons]

lemma count_flightRecords (frags : List Bytes) (seq : ℕ) :
    frags.length ≤ ((flightRecords seq frags).flatMap Record.encode).length := by
  rw [length_flightRecords, ← length_map]
  refine length_le_sum_of_one_le _ fun n hn => ?_
  obtain ⟨f, -, rfl⟩ := mem_map.mp hn
  simp only [recordHeaderLen]
  omega

lemma fits_flightRecords : ∀ {frags : List Bytes} {seq : ℕ}, seq + frags.length ≤ 2 ^ 48 →
    (∀ f ∈ frags, f.length < 2 ^ 16) → ∀ r ∈ flightRecords seq frags, r.Fits
  | [], _, _, _, r, hr => nomatch hr
  | f :: frags, seq, hseq, hfrags, r, hr => by
    rw [flightRecords_cons] at hr
    rw [length_cons] at hseq
    obtain rfl | hr := mem_cons.mp hr
    · exact ⟨show version12 < 2 ^ 16 by decide, Nat.two_pow_pos 16, show seq < 2 ^ 48 by omega,
        hfrags f mem_cons_self⟩
    · exact fits_flightRecords (by omega) (fun g hg => hfrags g (mem_cons_of_mem f hg)) r hr

/-- A datagram that the other end has sent with `sendFlight`, and that fits into one read. -/
structure IsFlight (d : Datagram) (msgs : List HandshakeMsg) : Prop where
  sent : ∃ seq max, seq < 2 ^ 32 ∧
    d.bytes = (flightRecords seq (flightFragments max msgs)).flatMap Record.encode
  fits : d.bytes.length ≤ readBufLen

/-- What a flight is read as. -/
lemma IsFlight.receive (h : IsFlight d msgs) :
    ∃ max, w.receive P d = (w.hs.reasm.feed (flightFragments max msgs)).map fun q =>
      { w with hs := { w.hs with reasm := q.1 }, collected := w.collected ++ q.2 } := by
  obtain ⟨⟨seq, max, hseq, hbytes⟩, hfits⟩ := h
  have hsum := length_flightRecords (flightFragments max msgs) seq
  rw [hbytes] at hfits
  have hcount := (count_flightRecords _ seq).trans hfits
  rw [hsum] at hfits
  have hlen : readBufLen < 2 ^ 16 := by decide
  have hfrag : ∀ f ∈ flightFragments max msgs, f.length < 2 ^ 16 := by
    intro f hf
    have hle : recordHeaderLen + f.length ≤ _ := le_sum_of_mem
      (mem_map_of_mem (f := fun f => recordHeaderLen + f.length) hf)
    omega
  have hrecords : records (d.bytes.take readBufLen) =
      flightRecords seq (flightFragments max msgs) := by
    rw [hbytes, take_of_length_le (by rw [hsum]; exact hfits)]
    exact records_encode (fits_flightRecords (by omega) hfrag)
  refine ⟨max, ?_⟩
  rw [Waiting.receive, consumeHandshake, hrecords, consumeAll_flight, Option.map_map]
  rfl

lemma IsFlight.due {d : Datagram} {msgs : List HandshakeMsg} (h : IsFlight d msgs) {n : ℕ}
    (hreasm : w.hs.reasm = ⟨n, ∅⟩) (hmsgs : Consecutive n msgs) (hn : n + msgs.length < 65536) :
    w.receive P d = some { w with
      hs := { w.hs with reasm := ⟨n + msgs.length, ∅⟩ }, collected := w.collected ++ msgs } := by
  obtain ⟨max, hreceive⟩ := h.receive (P := P) (w := w)
  rw [hreceive, hreasm, feed_flight max hmsgs hn]
  rfl

lemma IsFlight.behind (h : IsFlight d msgs) (hmsgs : ∀ m ∈ msgs, m.Fits ∧ m.seq < w.hs.reasm.next) :
    w.receive P d = some w := by
  obtain ⟨max, hreceive⟩ := h.receive (P := P) (w := w)
  rw [hreceive, feed_old max hmsgs, map_some]
  simp

lemma IsFlight.behind_one {d : Datagram} {m : HandshakeMsg} (h : IsFlight d [m]) (hm : m.Fits)
    (hseq : m.seq < w.hs.reasm.next) : w.receive P d = some w := by
  refine h.behind fun m' hm' => ?_
  rw [mem_singleton] at hm'
  exact hm' ▸ ⟨hm, hseq⟩

lemma receive_single {r : Record} (hr : r.Fits) (hlen : r.fragment.length ≤ maxRecord)
    (f : Flight) :
    w.receive P ⟨f, r.encode⟩ = (ReadSide.consume P ⟨w.conn, w.hs.reasm⟩ r).map fun q =>
      { w with conn := q.1.conn, hs := { w.hs with reasm := q.1.reasm }
               collected := w.collected ++ q.2 } := by
  have hrecords : records (r.encode.take readBufLen) = [r] := by
    have hfits : r.encode.length ≤ readBufLen := by
      have hencode := r.length_encode
      unfold readBufLen
      omega
    have hone : r.encode = [r].flatMap Record.encode := by simp
    rw [take_of_length_le hfits, hone, records_encode (by simpa using hr)]
  rw [Waiting.receive, consumeHandshake, hrecords, consumeAll]
  simp only [consumeAll, collect_pure]

/-- The pieces of a message take up the room that its body does, and a header at least. -/
lemma length_pieces {off : ℕ} (h : m.Pieces off fs) :
    25 + m.body.length ≤ off + (fs.map fun f => recordHeaderLen + f.length).sum := by
  induction h with
  | @last off hoff =>
    rw [map_singleton, sum_singleton, length_fragment, length_drop, recordHeaderLen,
      handshakeHeaderLen]
    omega
  | @more off n fs _ hn _ ih =>
    rw [map_cons, sum_cons, length_fragment, length_take, length_drop]
    omega

/-- They take up no more room than pieces of one octet do. -/
lemma length_pieces_le {off : ℕ} (h : m.Pieces off fs) :
    (fs.map fun f => recordHeaderLen + f.length).sum ≤ 25 + 26 * (m.body.length - off) := by
  induction h with
  | @last off hoff =>
    rw [map_singleton, sum_singleton, length_fragment, length_drop,
      recordHeaderLen, handshakeHeaderLen]
    omega
  | @more off n fs hpos hn _ ih =>
    rw [map_cons, sum_cons, length_fragment, length_take,
      length_drop, recordHeaderLen, handshakeHeaderLen]
    rw [recordHeaderLen] at ih
    omega

lemma length_sendFlight_le (c : Conn) (f : Flight) (m : HandshakeMsg) :
    (c.sendFlight f [m]).2.bytes.length ≤ 25 + 26 * m.body.length := by
  have hpieces := length_pieces_le (pieces_fragments m (c.cfg.mtuOrDefault - recordHeaderLen))
  simp only [Conn.sendFlight, length_flightRecords, flightFragments, flatMap_singleton]
  exact hpieces

/-- A flight takes up the room that each of its bodies does. -/
lemma body_le_flightRecords (hm : m ∈ msgs) (seq max : ℕ) : m.body.length ≤
    ((flightRecords seq (flightFragments max msgs)).flatMap Record.encode).length := by
  obtain ⟨before, behind, rfl⟩ := append_of_mem hm
  have hpieces := length_pieces (pieces_fragments m max)
  simp only [length_flightRecords, flightFragments, flatMap_append, flatMap_cons, map_append,
    sum_append]
  omega

lemma body_le_sendFlight (c : Conn) (f : Flight) (hm : m ∈ msgs) :
    m.body.length ≤ (c.sendFlight f msgs).2.bytes.length := body_le_flightRecords hm ..

lemma IsFlight.body_le (h : IsFlight d msgs) (hm : m ∈ msgs) : m.body.length ≤ 2 ^ 16 := by
  obtain ⟨⟨seq, max, -, hbytes⟩, hfits⟩ := h
  rw [hbytes] at hfits
  exact (body_le_flightRecords hm seq max).trans (hfits.trans (by decide))

/-- Messages that are numbered one after the other. -/
lemma consecutive_of_seq : ∀ {msgs : List HandshakeMsg} {n : ℕ},
    msgs.map HandshakeMsg.seq = List.range' n msgs.length → (∀ m ∈ msgs, m.Fits) →
    Consecutive n msgs
  | [], _, _, _ => trivial
  | m :: msgs, n, hseq, hfits => by
    rw [map_cons, length_cons, range'_succ, cons.injEq] at hseq
    exact ⟨hseq.1, hfits m mem_cons_self,
      consecutive_of_seq hseq.2 fun m' hm' => hfits m' (mem_cons_of_mem m hm')⟩

lemma isFlight_sendFlight (c : Conn) (f : Flight) (msgs : List HandshakeMsg)
    (hseq : c.writeSeq < 2 ^ 32) (hfits : (c.sendFlight f msgs).2.bytes.length ≤ readBufLen) :
    IsFlight (c.sendFlight f msgs).2 msgs := ⟨⟨_, _, hseq, rfl⟩, hfits⟩

lemma writeSeq_sendFlight (c : Conn) (f : Flight) (msgs : List HandshakeMsg) :
    (c.sendFlight f msgs).1.writeSeq ≤ c.writeSeq + (c.sendFlight f msgs).2.bytes.length := by
  have hcount := count_flightRecords
    (flightFragments (c.cfg.mtuOrDefault - recordHeaderLen) msgs) c.writeSeq
  exact Nat.add_le_add_left hcount _

/-- A ChangeCipherSpec is only noted. -/
lemma receive_changeCipherSpec {seq : ℕ} (hseq : seq < 2 ^ 48) (f : Flight) :
    w.receive P ⟨f, Record.encode ⟨recordChangeCipherSpec, version12, 0, seq, [1]⟩⟩ =
      some { w with collected := w.collected ++ [⟨pseudoChangeCipherSpec, 0, []⟩] } := by
  have hfits : Record.Fits ⟨recordChangeCipherSpec, version12, 0, seq, [1]⟩ :=
    ⟨show version12 < 2 ^ 16 by decide, Nat.two_pow_pos 16, hseq, show 1 < 2 ^ 16 by decide⟩
  exact (receive_single hfits (show 1 ≤ maxRecord by decide) f).trans rfl

/-- What is assumed of the standard library: a sealed record opens, with sixteen octets added to it,
and a hash is not empty. -/
structure Primitives.Sound (P : Primitives) : Prop where
  hmac : ∀ h key msg, P.hmac h key msg ≠ []
  opens : ∀ key nonce plain data, P.aeadOpen key nonce (P.aeadSeal key nonce plain data) data =
    some plain
  overhead : ∀ key nonce plain data,
    (P.aeadSeal key nonce plain data).length = plain.length + aeadOverhead

lemma Primitives.Sound.length_seal (hP : P.Sound) (a : Aead) (typ : UInt8) (version epoch seq : ℕ)
    (plain : Bytes) : (a.seal P typ version epoch seq plain).length =
      explicitNonceLen + plain.length + aeadOverhead := by
  simp only [Aead.seal, length_append, hP.overhead, length_putBE16, length_putBE48,
    explicitNonceLen]
  omega

lemma Primitives.Sound.open_seal (hP : P.Sound) (a : Aead) (typ : UInt8) (version epoch seq : ℕ)
    (plain : Bytes) :
    a.open P ⟨typ, version, epoch, seq, a.seal P typ version epoch seq plain⟩ = some plain := by
  have hlen := hP.length_seal a typ version epoch seq plain
  have hdrop : (a.seal P typ version epoch seq plain).drop explicitNonceLen =
      P.aeadSeal a.key (a.salt ++ (putBE16 epoch ++ putBE48 seq)) plain
        (aad typ version epoch seq plain.length) := drop_left' rfl
  have htake : (a.seal P typ version epoch seq plain).take explicitNonceLen =
      putBE16 epoch ++ putBE48 seq := take_left' rfl
  rw [Aead.open, if_neg (by dsimp only; omega)]
  simp only [hdrop, htake, hP.overhead, Nat.add_sub_cancel]
  exact hP.opens ..

/-- The record that carries a Finished: the first of its epoch. -/
def finishedRecord (P : Primitives) (a : Aead) (m : HandshakeMsg) : Record :=
  ⟨recordHandshake, version12, 1, 0, a.seal P recordHandshake version12 1 0 m.marshal⟩

lemma epoch_finishedRecord (a : Aead) (m : HandshakeMsg) : (finishedRecord P a m).epoch ≠ 0 :=
  Nat.one_ne_zero

/-- The window after the first record of an epoch. -/
def seenFirst : ReplayWindow := { highest := 0, bitmap := 1, started := true }

lemma receive_finishedRecord (hP : P.Sound) (hm : m.body.length ≤ verifyDataLen)
    (f : Flight) :
    w.receive P ⟨f, (finishedRecord P a m).encode⟩ =
      (ReadSide.consume P ⟨w.conn, w.hs.reasm⟩ (finishedRecord P a m)).map fun q =>
        { w with conn := q.1.conn, hs := { w.hs with reasm := q.1.reasm }
                 collected := w.collected ++ q.2 } := by
  have hlen : (finishedRecord P a m).fragment.length ≤ 48 := by
    have hseal := hP.length_seal a recordHandshake version12 1 0 m.marshal
    have hmarshal := m.length_fragment 0 m.body
    simp only [explicitNonceLen, aeadOverhead, handshakeHeaderLen, verifyDataLen]
      at hseal hmarshal hm
    rw [marshal] at hseal
    exact (hseal.trans (by omega : _ = 36 + m.body.length)).le.trans (by omega)
  exact receive_single ⟨show version12 < 2 ^ 16 by decide, show 1 < 2 ^ 16 by decide,
    show 0 < 2 ^ 48 by decide, hlen.trans_lt (by decide)⟩ (hlen.trans (by decide)) f

/-- The message in a record, when it is due. -/
lemma dispatch_marshal (hm : m.Fits) (hn : m.seq + 1 < 65536) :
    dispatchRecord ⟨m.seq, ∅⟩ recordHandshake m.marshal = some (⟨m.seq + 1, ∅⟩, [m]) := by
  have hfeed := feed_pieces hm (.last (Nat.zero_le _)) (Or.inr ⟨rfl, rfl⟩)
  rw [Reassembler.feed, Nat.mod_eq_of_lt hn] at hfeed
  simp only [Reassembler.feed, collect_pure] at hfeed
  rw [dispatchRecord, if_neg (by decide), if_neg (by decide), if_pos rfl]
  exact hfeed

lemma fits_finished (hm : m.body.length ≤ verifyDataLen) (hseq : m.seq + 1 < 65536) :
    m.Fits := ⟨Nat.lt_of_succ_lt hseq, hm.trans (by decide)⟩

/-- **The Finished that is waited for.** -/
lemma receive_finished (hP : P.Sound) {m : HandshakeMsg}
    (hm : m.body.length ≤ verifyDataLen) (hseq : m.seq + 1 < 65536) (hread : w.conn.read = some a)
    (hreplay : w.conn.replay = {}) (hreasm : w.hs.reasm = ⟨m.seq, ∅⟩) (f : Flight) :
    w.receive P ⟨f, (finishedRecord P a m).encode⟩ = some { w with
        conn := { w.conn with replay := seenFirst }
        hs := { w.hs with reasm := ⟨m.seq + 1, ∅⟩ }
        collected := w.collected ++ [m] } := by
  have hopen := hP.open_seal a recordHandshake version12 1 0 m.marshal
  have hdispatch := dispatch_marshal (fits_finished hm hseq) hseq
  have hconsume : consume P ⟨w.conn, w.hs.reasm⟩ (finishedRecord P a m) =
      some (⟨{ w.conn with replay := seenFirst }, ⟨m.seq + 1, ∅⟩⟩, [m]) := by
    rw [consume, if_neg (epoch_finishedRecord a m)]
    simp only [hread, hreplay, hreasm]
    rw [show ReplayWindow.check {} (finishedRecord P a m).sequence = some seenFirst from rfl]
    dsimp only
    rw [finishedRecord, hopen, bind_some, hdispatch]
    rfl
  rw [receive_finishedRecord hP hm, hconsume]
  rfl

/-- **A Finished that comes before the keys are there** is held. -/
lemma receive_finished_early (hP : P.Sound) (hm : m.body.length ≤ verifyDataLen)
    (hread : w.conn.read = none) (f : Flight) :
    w.receive P ⟨f, (finishedRecord P a m).encode⟩ = some { w with
        conn := { w.conn with deferred := w.conn.deferred ++ [finishedRecord P a m] } } := by
  rw [receive_finishedRecord hP hm, consume, if_neg (epoch_finishedRecord a m)]
  simp [hread]

/-- **Copies of a Finished that were held**: the first is read, the others are replays. -/
lemma drain_finished (hP : P.Sound) {m : HandshakeMsg}
    (hm : m.body.length ≤ verifyDataLen) (hseq : m.seq + 1 < 65536) {s : ReadSide}
    (hreplay : s.conn.replay = {}) (hreasm : s.reasm = ⟨m.seq, ∅⟩) (k : ℕ) :
    s.drain P a (List.replicate (k + 1) (finishedRecord P a m)) =
      some (⟨{ s.conn with replay := seenFirst }, ⟨m.seq + 1, ∅⟩⟩, [m]) := by
  have hopen := hP.open_seal a recordHandshake version12 1 0 m.marshal
  have hdispatch := dispatch_marshal (fits_finished hm hseq) hseq
  have hfirst : s.consumeDeferred P a (finishedRecord P a m) =
      some (⟨{ s.conn with replay := seenFirst }, ⟨m.seq + 1, ∅⟩⟩, [m]) := by
    rw [consumeDeferred, hreplay,
      show ReplayWindow.check {} (finishedRecord P a m).sequence = some seenFirst from rfl]
    dsimp only
    rw [finishedRecord, hopen, bind_some, hreasm, hdispatch]
    rfl
  have hreplays : ∀ (k : ℕ) (s : ReadSide), s.conn.replay = seenFirst →
      s.drain P a (replicate k (finishedRecord P a m)) = some (s, []) := by
    intro k
    induction k with
    | zero => exact fun _ _ => rfl
    | succ k ih =>
      intro s hs
      have hseen : seenFirst.check (finishedRecord P a m).sequence = none :=
        show seenFirst.check 0 = none by decide
      rw [replicate_succ, drain, consumeDeferred, hs, hseen, collect_some,
        ih s hs]
      rfl
  rw [replicate_succ, drain, hfirst, collect_some, hreplays k _ rfl]
  rfl

end Receiving

/-! ## Looking for a message -/

/-- No message of this type is among those that are collected. -/
def Lacks (typ : UInt8) (msgs : List HandshakeMsg) : Prop := ∀ m ∈ msgs, m.typ ≠ typ

lemma lacks_nil (typ : UInt8) : Lacks typ [] := fun _ hm => nomatch hm

lemma findMsg_of_lacks (h : Lacks typ msgs) : findMsg msgs typ = none :=
  find?_eq_none.mpr fun m hm => by simpa using h m hm

lemma findMsg_append (msgs more : List HandshakeMsg) (typ : UInt8) :
    findMsg (msgs ++ more) typ = (findMsg msgs typ).or (findMsg more typ) := find?_append

lemma findMsg_cons_self (m : HandshakeMsg) (msgs : List HandshakeMsg) :
    findMsg (m :: msgs) m.typ = some m := by
  simp [findMsg]

lemma findMsg_cons_of_ne (h : m.typ ≠ typ) (msgs : List HandshakeMsg) :
    findMsg (m :: msgs) typ = findMsg msgs typ := by
  simp [findMsg, h]

/-- The message that is waited for, behind those that were collected before. -/
lemma findMsg_found {msgs : List HandshakeMsg} (h : Lacks typ msgs) {m : HandshakeMsg}
    (hm : m.typ = typ) : findMsg (msgs ++ [m]) typ = some m := by
  subst hm
  rw [findMsg_append, findMsg_of_lacks h, findMsg_cons_self]
  rfl

lemma Lacks.append {msgs : List HandshakeMsg} (h : Lacks typ msgs) {m : HandshakeMsg}
    (hm : m.typ ≠ typ) : Lacks typ (msgs ++ [m]) := by
  intro m' hm'
  obtain hm' | hm' := mem_append.mp hm'
  · exact h m' hm'
  · exact mem_singleton.mp hm' ▸ hm

end Veepin.Dtls
