import Veepin.IKEv2.Ike.Moves
import Veepin.IKEv2.Client.Control

/-!
# Exchanges between the two ends

A client and the responder, with a channel between them that loses nothing.  A protected message is
carried as its header, the keys it is sealed under and its payloads, and it opens under the same
keys and no others; what the two ends do with it is the code's: `Server.serve` finds the SA, checks
the message ID, applies the ordering policy and runs the handler, and `System.exchange` is a whole
call of the client, both rounds of a `RekeyIKE` included.

* `handlePacket_datagram` — on the datagram of a message that fits its length fields, the responder
  does what `Server.serve` does with the message;
* `recvRound_datagram` — the client reads from the datagram of an answer what `Client.accept` reads
  from the answer;
* `serve_answered` — what is behind an answer.
-/

namespace Veepin.IKE

open Option Server

variable (c : Crypto) {P : Type}

/-! ## Messages -/

/-- A protected message. -/
structure Protected where
  hdr : Header
  suite : Suite
  keys : SAKeys
  inners : List RawPayload

/-- The payloads of a message under a header that says how long it is. -/
def protect (hdr : Header) (suite : Suite) (keys : SAKeys) (inners : List RawPayload) : Protected :=
  ⟨sealedHeader hdr suite (build inners).buf.length, suite, keys, inners⟩

/-- A request of the client. -/
def Client.message (cl : Client) (o : Outgoing) : Protected :=
  protect (cl.header o) cl.suite cl.keys o.inners

/-- The header of an answer. -/
def replyHeader (sa : IKESA) (r : Request) : Header where
  initiatorSPI := sa.initiatorSPI
  responderSPI := sa.responderSPI
  exchangeType := r.hdr.exchangeType
  flags := flagResponse
  messageID := r.hdr.messageID

/-- An answer of the responder. -/
def replyMessage (sa : IKESA) (r : Request) (inners : List RawPayload) : Protected :=
  protect (replyHeader sa r) sa.suite sa.keys inners

/-- How a request arrives: from which address, on which port, and what the responder draws while it
handles it. -/
structure Hop where
  remote : UDPAddr
  on4500 : Bool
  env : Env

/-! ## The responder's half -/

/-- The SA after a message from the given address has opened. -/
def IKESA.heardFrom (sa : IKESA) (h : Hop) : IKESA :=
  { sa with onPort4500 := sa.onPort4500 || h.on4500, remoteAddr := h.remote }

/-- The request that a message makes. -/
def Protected.request (m : Protected) (h : Hop) : Request := ⟨m.hdr, m.inners, h.remote, h.env⟩

/-- `Server.receive` for a message instead of a datagram. -/
def Server.intake (s : Server P) (m : Protected) (h : Hop) : Received :=
  if m.hdr.isResponse then .nothing
  else
    match s.byRSPI.lookup m.hdr.responderSPI with
    | none => .nothing
    | some sa =>
      if m.hdr.messageID ≠ sa.recvMsgID then .nothing
      else if sa.suite ≠ m.suite ∨ sa.keys ≠ m.keys then .nothing
      else if exchangeAllowed sa.state m.hdr.exchangeType then
        .request (sa.heardFrom h) (m.request h)
      else .touched (sa.heardFrom h)

/-- `Server.handleSecured` for a message: the responder afterwards, and its answer. -/
def Server.serve (s : Server P) (m : Protected) (h : Hop) : Server P × Option Protected :=
  match s.intake m h with
  | .nothing => (s, none)
  | .touched sa => (s.writeBack m.hdr.responderSPI sa, none)
  | .request sa r =>
    let o := dispatch c s.cfg sa r s.created s.pools
    ((s.conclude c sa r o).server, o.reply.map (replyMessage sa r))

/-! ## The client's half -/

/-- `recvInnersFrom` for a message. -/
def Client.accept (cl : Client) (m : Protected) : Except ClientError (List RawPayload) :=
  if m.suite ≠ cl.suite ∨ m.keys ≠ cl.keys then .error .decrypt else checkInners m.inners

/-- The two ends. -/
structure System (P : Type) where
  client : Client
  server : Server P

/-- A request and its answer: the responder afterwards, and what the client makes of the answer, if
there is one. -/
def System.await (sys : System P) (p : Pending) (o : Outgoing) (h : Hop) :
    Server P × Option (Except ClientError Next) :=
  let (s, reply) := sys.server.serve c (sys.client.message o) h
  (s, reply.map fun m => sys.client.accept m >>= sys.client.finish c p)

/-- The end of a call: the two ends, whether the client has read an answer to all that it sent, and
the error it returns. -/
structure Exchanged (P : Type) where
  sys : System P
  answered : Bool
  err : Option ClientError

/-- A call from its first request on.  Each request has a hop of its own. -/
def System.converse (sys : System P) : List Hop → Pending → Outgoing → Exchanged P
  | [], _, _ => ⟨sys, false, some .timeout⟩
  | h :: hs, p, o =>
    match sys.await c p o h with
    | (s, none) => ⟨⟨sys.client, s⟩, false, some .timeout⟩
    | (s, some (.error e)) => ⟨⟨sys.client, s⟩, true, some e⟩
    | (s, some (.ok (.done cl))) => ⟨⟨cl, s⟩, true, none⟩
    | (s, some (.ok (.again p o))) => System.converse ⟨sys.client, s⟩ hs p o

/-- A control exchange, with what the client draws for it. -/
structure Exchange where
  op : Control
  draws : Env
  hops : List Hop

/-- A whole call. -/
def System.exchange (sys : System P) (x : Exchange) : Exchanged P :=
  match sys.client.start c x.op x.draws with
  | .error e => ⟨sys, false, some e⟩
  | .ok (p, o) => sys.converse c x.hops p o

/-- A run of the two ends is a sequence of calls. -/
def System.step (sys : System P) (x : Exchange) : System P := (sys.exchange c x).sys

/-! ## What is behind an answer -/

/-- The request names an SA, has its message ID and its keys, and is one that its state allows. -/
structure Served (s : Server P) (m : Protected) (sa : IKESA) : Prop where
  request : m.hdr.isResponse = false
  lookup : s.byRSPI.lookup m.hdr.responderSPI = some sa
  msgID : m.hdr.messageID = sa.recvMsgID
  suite : sa.suite = m.suite
  keys : sa.keys = m.keys
  allowed : exchangeAllowed sa.state m.hdr.exchangeType = true

/-- What the handler makes of a request. -/
def Server.outcome (s : Server P) (m : Protected) (h : Hop) (sa : IKESA) : Outcome P :=
  dispatch c s.cfg (sa.heardFrom h) (m.request h) s.created s.pools

variable {c} {s : Server P} {m : Protected} {h : Hop} {sa : IKESA}

lemma Served.intake (hs : Served s m sa) (h : Hop) :
    s.intake m h = .request (sa.heardFrom h) (m.request h) := by
  simp [Server.intake, hs.request, hs.lookup, hs.msgID, hs.suite, hs.keys, hs.allowed]

lemma Served.serve (hs : Served s m sa) (h : Hop) : s.serve c m h =
      ((s.conclude c (sa.heardFrom h) (m.request h) (s.outcome c m h sa)).server,
        (s.outcome c m h sa).reply.map (replyMessage (sa.heardFrom h) (m.request h))) := by
  rw [Server.serve, hs.intake]
  rfl

/-- A message is ignored, opens in vain, or is served. -/
lemma intake_cases (s : Server P) (m : Protected) (h : Hop) :
    s.intake m h = .nothing ∨ ∃ sa, s.byRSPI.lookup m.hdr.responderSPI = some sa ∧
      (s.intake m h = .touched (sa.heardFrom h) ∨ Served s m sa) := by
  unfold intake
  split_ifs with hresp
  · exact Or.inl rfl
  cases hl : s.byRSPI.lookup m.hdr.responderSPI with
  | none => exact Or.inl rfl
  | some sa =>
    dsimp only
    split_ifs with hid hkeys hallowed
    · exact Or.inl rfl
    · exact Or.inl rfl
    · obtain ⟨hsuite, hk⟩ := not_or.mp hkeys
      exact Or.inr ⟨sa, rfl, Or.inr ⟨by simpa using hresp, hl, not_not.mp hid,
        not_not.mp hsuite, not_not.mp hk, hallowed⟩⟩
    · exact Or.inr ⟨sa, rfl, Or.inl rfl⟩

/-- **What is behind an answer.** -/
lemma serve_answered {reply : Protected} (ha : (s.serve c m h).2 = some reply) :
    ∃ sa, Served s m sa := by
  unfold serve at ha
  rcases intake_cases s m h with hadm | ⟨sa, -, hadm | hs⟩
  · rw [hadm] at ha
    cases ha
  · rw [hadm] at ha
    cases ha
  · exact ⟨sa, hs⟩

/-- The outcome of a request is one of the moves of its SA. -/
lemma Served.move (hs : Served s m sa) (h : Hop) :
    Move c s.cfg (sa.heardFrom h) (m.request h) s.created s.pools (s.outcome c m h sa) :=
  dispatch_move hs.allowed

variable {r : Request}

/-- Carrying out a move keeps every SA under its own SPI. -/
lemma Server.Keyed.conclude (hkeyed : s.Keyed) {old : IKESA} {o : Outcome P}
    (hold : s.byRSPI.lookup r.hdr.responderSPI = some old) (hcore : sa.core = old.core)
    (hmove : Move c s.cfg sa r s.created s.pools o) : (s.conclude c sa r o).server.Keyed := by
  have hspi : o.sa.responderSPI = r.hdr.responderSPI :=
    (hmove.spi_eq.trans (spi_of_core hcore)).trans (hkeyed _ _ hold)
  have hput : ({ s with byRSPI := s.byRSPI.insert r.hdr.responderSPI o.sa } : Server P).Keyed := by
    intro rspi sa' hl
    rw [lookup_insert_eq_ite] at hl
    split_ifs at hl with hk
    · rw [← some.inj hl, hk]
      exact hspi
    · exact hkeyed _ _ hl
  intro rspi sa' hl
  cases hclose : o.close with
  | true =>
    rw [conclude_byRSPI_close hclose (hmove.stored_of_close hclose), lookup_erase_eq_ite] at hl
    split_ifs at hl
    exact hput _ _ hl
  | false =>
    rw [conclude_byRSPI hclose] at hl
    cases hstored : o.stored with
    | none =>
      rw [hstored] at hl
      exact hput _ _ hl
    | some new =>
      rw [hstored, lookup_insert_eq_ite] at hl
      split_ifs at hl with hk
      · rw [← some.inj hl, hk]
      · exact hput _ _ hl

lemma Server.Keyed.serve (hkeyed : s.Keyed) (m : Protected) (h : Hop) :
    (s.serve c m h).1.Keyed := by
  rcases intake_cases s m h with hadm | ⟨sa, hl, hadm | hs⟩
  · rw [Server.serve, hadm]
    exact hkeyed
  · rw [Server.serve, hadm]
    intro rspi sa' hl'
    simp only [writeBack, lookup_insert_eq_ite] at hl'
    split_ifs at hl' with hk
    · rw [← some.inj hl', hk]
      exact hkeyed _ sa hl
    · exact hkeyed _ _ hl'
  · have hcore : (sa.heardFrom h).core = sa.core := rfl
    rw [hs.serve]
    exact hkeyed.conclude hs.lookup hcore (hs.move h)

/-! ## A call and its answers -/

/-- What the responder has under an SPI after a request on it. -/
lemma lookup_conclude {s : Server P} {out : Outcome P} (hclose : out.close = false)
    (hstored : out.stored = none) :
    (s.conclude c sa r out).server.byRSPI.lookup r.hdr.responderSPI = some out.sa := by
  rw [conclude_byRSPI hclose, hstored]
  exact AList.lookup_insert _

lemma dispatch_informational {cfg : Config P} {id : ℕ} {pools : P}
    (h : r.hdr.exchangeType = informational) :
    dispatch c cfg sa r id pools = handleInformational c cfg sa r pools := by
  rw [dispatch, h]
  rfl

lemma dispatch_createChildSA {cfg : Config P} {id : ℕ} {pools : P}
    (h : r.hdr.exchangeType = createChildSA) :
    dispatch c cfg sa r id pools = handleCreateChildSA c cfg sa r id pools := by
  rw [dispatch, h]
  rfl

section Call

variable {sys : System P} {p : Pending} {o : Outgoing} {inners : List RawPayload}

/-- A request that is served and answered. -/
lemma await_eq (hs : Served sys.server (sys.client.message o) sa)
    (hreply : (sys.server.outcome c (sys.client.message o) h sa).reply = some inners) :
    sys.await c p o h = ((sys.server.conclude c (sa.heardFrom h) ((sys.client.message o).request h)
          (sys.server.outcome c (sys.client.message o) h sa)).server,
        some (checkInners inners >>= sys.client.finish c p)) := by
  have hsame : ¬ ((sa.heardFrom h).suite ≠ sys.client.suite ∨
      (sa.heardFrom h).keys ≠ sys.client.keys) := by
    rw [not_or, not_not, not_not]
    exact ⟨hs.suite, hs.keys⟩
  rw [System.await, hs.serve, hreply]
  simp only [map_some]
  rw [show sys.client.accept (replyMessage (sa.heardFrom h) _ inners) = checkInners inners from
    if_neg hsame]

/-- The first request of a call that has read all its answers was served and answered. -/
lemma converse_answered {hops : List Hop} (ha : (sys.converse c hops p o).answered = true) :
    ∃ h hs sa inners, hops = h :: hs ∧ Served sys.server (sys.client.message o) sa ∧
      (sys.server.outcome c (sys.client.message o) h sa).reply = some inners := by
  cases hops with
  | nil => exact absurd ha Bool.false_ne_true
  | cons h hs =>
    cases hserve : (sys.server.serve c (sys.client.message o) h).2 with
    | none =>
      have hawait : (sys.await c p o h).2 = none := by
        rw [System.await]
        simp only [hserve, map_none]
      rw [System.converse, show sys.await c p o h = ((sys.await c p o h).1, none) from
        Prod.ext rfl hawait] at ha
      exact absurd ha Bool.false_ne_true
    | some reply =>
      obtain ⟨sa, hsa⟩ := serve_answered hserve
      rw [hsa.serve] at hserve
      obtain ⟨inners, hinners, -⟩ := map_eq_some_iff.mp hserve
      exact ⟨h, hs, sa, inners, rfl, hsa, hinners⟩

/-- What the responder is left with. -/
def System.after (c : Crypto) (sys : System P) (o : Outgoing) (h : Hop) (sa : IKESA) : Server P :=
  (sys.server.conclude c (sa.heardFrom h) ((sys.client.message o).request h)
    (sys.server.outcome c (sys.client.message o) h sa)).server

lemma Server.Keyed.after (hkeyed : sys.server.Keyed)
    (hserved : Served sys.server (sys.client.message o) sa) (h : Hop) :
    (sys.after c o h sa).Keyed := by
  have hserve := hkeyed.serve (c := c) (sys.client.message o) h
  rw [hserved.serve] at hserve
  exact hserve

/-- How a call goes on after its first answer. -/
lemma converse_cons (hs : List Hop) (hserved : Served sys.server (sys.client.message o) sa)
    (hreply : (sys.server.outcome c (sys.client.message o) h sa).reply = some inners) :
    sys.converse c (h :: hs) p o =
      match checkInners inners >>= sys.client.finish c p with
      | .error e => ⟨⟨sys.client, sys.after c o h sa⟩, true, some e⟩
      | .ok (.done cl) => ⟨⟨cl, sys.after c o h sa⟩, true, none⟩
      | .ok (.again p' o') => System.converse c ⟨sys.client, sys.after c o h sa⟩ hs p' o' := by
  rw [System.converse, await_eq hserved hreply]
  rcases checkInners inners >>= sys.client.finish c p with e | cl | ⟨p', o'⟩ <;> rfl

/-- A call keeps every SA under its own SPI. -/
lemma Server.Keyed.converse : ∀ {hops : List Hop} {sys : System P} {p : Pending} {o : Outgoing},
    sys.server.Keyed → (sys.converse c hops p o).sys.server.Keyed
  | [], _, _, _, hkeyed => hkeyed
  | h :: hs, sys, p, o, hkeyed => by
    have hserve : (sys.await c p o h).1.Keyed := hkeyed.serve (sys.client.message o) h
    rw [System.converse]
    rcases hawait : sys.await c p o h with ⟨s, _ | e | cl | ⟨p', o'⟩⟩
    all_goals rw [hawait] at hserve
    · exact hserve
    · exact hserve
    · exact hserve
    · exact Server.Keyed.converse hserve

lemma Server.Keyed.exchange (hkeyed : sys.server.Keyed) (x : Exchange) :
    (sys.step c x).server.Keyed := by
  unfold System.step System.exchange
  split
  · exact hkeyed
  · exact hkeyed.converse

/-- A call is not begun, or goes on with its first request. -/
lemma exchange_cases (c : Crypto) (sys : System P) (x : Exchange) :
    (∃ e, sys.exchange c x = ⟨sys, false, some e⟩) ∨
      ∃ p o, Started c sys.client x.op x.draws p o ∧
        sys.exchange c x = sys.converse c x.hops p o := by
  unfold System.exchange
  cases hstart : sys.client.start c x.op x.draws with
  | error e => exact .inl ⟨e, rfl⟩
  | ok call => exact .inr ⟨call.1, call.2, started hstart, rfl⟩

end Call

/-! ## Datagrams -/

/-- The datagrams of a message. -/
def Protected.datagrams (c : Crypto) (m : Protected) (dir : KeyDir) (frag : Bool)
    (iv : ℕ → ℕ → UInt8) : Option (List Bytes) :=
  sealMaybeFragment c m.hdr m.suite m.keys dir (build m.inners).firstType (build m.inners).buf frag
    iv

/-- The answer that `sealReply` puts into datagrams is the responder's message. -/
lemma sealReply_eq (sa : IKESA) (r : Request) (inners : List RawPayload) :
    (sealReply c sa r inners).map Sent.pkt =
      ((replyMessage sa r inners).datagrams c .responderToInitiator sa.fragEnabled
        r.env.iv).getD [] := by
  simp only [sealReply, List.map_map]
  exact List.map_id _

/-- A message has the header of its length, and fits into one datagram and each of its payloads into
its length field. -/
structure Protected.Fits (m : Protected) (frag : Bool) : Prop where
  hdr : m.hdr.Fits
  sealed : m.hdr = sealedHeader m.hdr m.suite (build m.inners).buf.length
  payloads : ∀ p ∈ m.inners, p.Fits
  len : 4 + m.suite.skBodyLen (build m.inners).buf.length < 2 ^ 16
  whole : (frag && wouldExceedThreshold m.suite (build m.inners).buf.length) = false

/-- **The datagram of a message.**  There is one, and it opens to the payloads. -/
lemma Protected.Fits.datagrams {frag : Bool} (hm : m.Fits frag) (dir : KeyDir)
    (iv : ℕ → ℕ → UInt8) :
    ∃ pkt body first inner, m.datagrams c dir frag iv = some [pkt] ∧
      parseMessage pkt = some ⟨m.hdr, [⟨typeSK, false, body⟩]⟩ ∧
      decryptSK c pkt ⟨typeSK, false, body⟩ m.suite m.keys dir = some (first, inner) ∧
      parseInnerPayloads first inner = some m.inners := by
  obtain ⟨pkt, body, hbuild, hparse, hdecrypt⟩ := decryptSK_build c hm.hdr m.suite m.keys dir
    (build m.inners).firstType (build m.inners).buf (iv 0) hm.len
  refine ⟨pkt, body, _, _, ?_, ?_, hdecrypt, ?_⟩
  · rw [Protected.datagrams, sealMaybeFragment, hm.whole, if_neg (by decide), hbuild]
    rfl
  · rw [hparse, ← hm.sealed]
  · rw [(builder_bytes m.inners).1, (builder_bytes m.inners).2]
    exact parseInnerPayloads_reencode hm.payloads

/-- **The client reads from a datagram what it reads from the message.** -/
theorem recvRound_datagram {cl : Client} (hm : m.Fits cl.frag) (hsuite : m.suite = cl.suite)
    (hkeys : m.keys = cl.keys) (iv : ℕ → ℕ → UInt8) (now : ℤ) :
    ∃ pkt, m.datagrams c .responderToInitiator cl.frag iv = some [pkt] ∧
      cl.recvRound c now pkt = (cl.fragReasm,
        match cl.accept m with
        | .error e => .failed e
        | .ok inners => .message inners) := by
  obtain ⟨pkt, body, first, inner, hpkt, hparse, hdecrypt, hinner⟩ :=
    hm.datagrams .responderToInitiator iv
  refine ⟨pkt, hpkt, ?_⟩
  rw [hsuite, hkeys] at hdecrypt
  have hacc : cl.accept m = checkInners m.inners := by
    simp [Client.accept, hsuite, hkeys]
  rw [Client.recvRound, hparse, hacc]
  have herr : findNotifyError [⟨typeSK, false, body⟩] = none := rfl
  have hskf : findInner [⟨typeSK, false, body⟩] typeSKF = none := rfl
  have hsk : findInner [⟨typeSK, false, body⟩] typeSK = some ⟨typeSK, false, body⟩ := rfl
  cases hinners : checkInners m.inners <;>
    simp only [herr, hskf, hsk, hdecrypt, readInners, hinner, hinners]

lemma parseHeader_of_parseMessage {pkt : Bytes} {msg : Message}
    (h : parseMessage pkt = some msg) : parseHeader pkt = some msg.header := by
  unfold parseMessage at h
  obtain ⟨hdr, hhdr, hrest⟩ := bind_eq_some_iff.mp h
  split_ifs at hrest
  · cases hrest
  · obtain ⟨payloads, -, he⟩ := bind_eq_some_iff.mp hrest
    rw [hhdr, ← some.inj he]

/-- What the responder receives of the datagram. -/
lemma receive_datagram {pkt body inner : Bytes} {first : UInt8} (h : Hop)
    (hparse : parseMessage pkt = some ⟨m.hdr, [⟨typeSK, false, body⟩]⟩)
    (hdecrypt : decryptSK c pkt ⟨typeSK, false, body⟩ m.suite m.keys .initiatorToResponder =
      some (first, inner))
    (hinner : parseInnerPayloads first inner = some m.inners)
    (hl : s.byRSPI.lookup m.hdr.responderSPI = some sa) (hsuite : sa.suite = m.suite)
    (hkeys : sa.keys = m.keys) :
    s.receive c m.hdr ⟨pkt, h.remote, h.on4500, h.env⟩ = s.intake m h := by
  have hskf : findInner [⟨typeSK, false, body⟩] typeSKF = none := rfl
  have hsk : findInner [⟨typeSK, false, body⟩] typeSK = some ⟨typeSK, false, body⟩ := rfl
  have hopen : sa.openDatagram c m.hdr ⟨m.hdr, [⟨typeSK, false, body⟩]⟩
      ⟨pkt, h.remote, h.on4500, h.env⟩ = (sa.fragReasm, some (first, inner)) := by
    simp only [IKESA.openDatagram, hskf, hsk, hsuite, hkeys, hdecrypt]
  have hsame : ¬ (sa.suite ≠ m.suite ∨ sa.keys ≠ m.keys) := by simp [hsuite, hkeys]
  simp only [receive, intake, hl, hparse, hopen, hinner, hsame, if_false]
  rfl

/-- **The responder does with a datagram what it does with the message.** -/
theorem handlePacket_datagram {frag : Bool} (hm : m.Fits frag)
    (hex : isProtected m.hdr.exchangeType = true)
    (hl : s.byRSPI.lookup m.hdr.responderSPI = some sa) (hsuite : sa.suite = m.suite)
    (hkeys : sa.keys = m.keys) (iv : ℕ → ℕ → UInt8) (h : Hop) :
    ∃ pkt, m.datagrams c .initiatorToResponder frag iv = some [pkt] ∧
      let t := s.handlePacket c ⟨pkt, h.remote, h.on4500, h.env⟩
      t.server = (s.serve c m h).1 ∧ t.sent.map Sent.pkt = ((s.serve c m h).2.bind fun reply =>
          reply.datagrams c .responderToInitiator sa.fragEnabled h.env.iv).getD [] := by
  obtain ⟨pkt, body, first, inner, hpkt, hparse, hdecrypt, hinner⟩ :=
    hm.datagrams .initiatorToResponder iv
  refine ⟨pkt, hpkt, ?_⟩
  have hrec := receive_datagram h hparse hdecrypt hinner hl hsuite hkeys
  have hhdr := parseHeader_of_parseMessage hparse
  have hversion : m.hdr.version = 0x20 := by rw [hm.sealed]; rfl
  have hinit : m.hdr.exchangeType ≠ ikeSAInit := by
    intro he
    rw [he] at hex
    exact absurd hex (by decide)
  have hhandle : s.handlePacket c ⟨pkt, h.remote, h.on4500, h.env⟩ =
      s.handleSecured c m.hdr ⟨pkt, h.remote, h.on4500, h.env⟩ := by
    simp only [handlePacket, hhdr, hversion, hinit, hex, if_false, if_true]
    rfl
  rw [hhandle, handleSecured, serve, hrec]
  rcases intake_cases s m h with hadm | ⟨sa', hl', hadm | hs⟩
  · rw [hadm]
    exact ⟨rfl, rfl⟩
  · rw [hadm]
    exact ⟨rfl, rfl⟩
  · obtain rfl : sa = sa' := some.inj (hl.symm.trans hl')
    rw [hs.intake]
    refine ⟨rfl, ?_⟩
    dsimp only [conclude]
    cases (dispatch c s.cfg (sa.heardFrom h) (m.request h) s.created s.pools).reply with
    | none => rfl
    | some inners => exact sealReply_eq _ _ _

/-- An IKE_AUTH that names its sender, on the SA of an IKE_SA_INIT. -/
theorem handlePacket_datagram_auth :
    let h : Hop := ⟨initiatorAddr, false, drawing 7 9⟩
    let s := (newServer { localID := ⟨idFQDN, []⟩ } () none 0).step plainCrypto
      (saInitRequest 1 [] [] h.env)
    ∃ sa m pkt, s.byRSPI.lookup 7 = some sa ∧
      m.datagrams plainCrypto .initiatorToResponder false h.env.iv = some [pkt] ∧
      m.inners = [⟨typeIDi, false, marshalID ⟨idFQDN, [97]⟩⟩] ∧
      let t := s.handlePacket plainCrypto ⟨pkt, h.remote, h.on4500, h.env⟩
      t.server = (s.serve plainCrypto m h).1 ∧
        t.sent.map Sent.pkt = ((s.serve plainCrypto m h).2.bind fun reply =>
          reply.datagrams plainCrypto .responderToInitiator sa.fragEnabled h.env.iv).getD [] := by
  intro h s
  have hend : (s.byRSPI.lookup 7).map (·.suite.skBodyLen 9) = some 34 := by decide +kernel
  obtain ⟨sa, hsa, hlen⟩ := map_eq_some_iff.mp hend
  let m := protect ⟨1, 7, 0, 0, ikeAuth, flagInitiator, 1, 0⟩ sa.suite sa.keys
    [⟨typeIDi, false, marshalID ⟨idFQDN, [97]⟩⟩]
  have hm : m.Fits false := by
    have hbuf : (build [⟨typeIDi, false, marshalID ⟨idFQDN, [97]⟩⟩]).buf.length = 9 := by decide
    refine ⟨⟨?_, ?_, ?_, ?_⟩, rfl, List.forall_mem_singleton.2 ⟨by decide, by decide⟩, ?_, rfl⟩
    all_goals simp [m, protect, sealedHeader, hbuf, hlen, headerLen]
  obtain ⟨pkt, hpkt, hserver, hsent⟩ := handlePacket_datagram hm rfl hsa rfl rfl h.env.iv h
  exact ⟨sa, m, pkt, hsa, hpkt, rfl, hserver, hsent⟩

end Veepin.IKE
