import Veepin.Dtls.ReadFlight

/-!
# A client and a server that get along

The states that the two ends go through, and the datagrams that they send, if they settle on the
same terms.

* `Pair.Agree.client_answers`, `Pair.Agree.server_answers` — each end answers a flight as its phase
  in `Flights` says.
-/

namespace Veepin.Dtls

open List Option Nat Server

/-- A client and a server, with what they draw. -/
structure Pair where
  client : Config
  server : Config
  clientDraws : ClientDraws
  serverDraws : ServerDraws

/-- What the two settle on: the suite, the messages of the key exchange and the premaster secret. -/
structure Terms where
  suite : Suite
  mid : List HandshakeMsg
  keyExchange : Bytes
  premaster : Bytes

variable {collected : List HandshakeMsg} {d : Datagram} {collected' : List HandshakeMsg}

section Canonical

variable (P : Primitives) (p : Pair) (t : Terms)

def Pair.hello (cookie : Bytes) : ClientHello := clientHello p.client p.clientDraws cookie

def Pair.cookie : Bytes := serverCookie P p.serverDraws

/-! ### The messages -/

def Pair.clientHelloMsg : HandshakeMsg := ⟨handshakeClientHello, 0, (p.hello []).marshal⟩

def Pair.helloVerifyMsg : HandshakeMsg :=
  ⟨handshakeHelloVerifyReq, 0, HelloVerifyRequest.marshal ⟨version12, p.cookie P⟩⟩

def Pair.clientHelloCookieMsg : HandshakeMsg :=
  ⟨handshakeClientHello, 1, (p.hello (p.cookie P)).marshal⟩

def Pair.serverHelloMsg : HandshakeMsg :=
  ⟨handshakeServerHello, 1,
    ServerHello.marshal ⟨version12, p.serverDraws.random, p.client.sessionID, t.suite.id⟩⟩

def Terms.serverHelloDoneMsg : HandshakeMsg := ⟨handshakeServerHelloDone, 2 + t.mid.length, []⟩

/-- ServerHello to ServerHelloDone. -/
def Pair.serverFlight : List HandshakeMsg :=
  p.serverHelloMsg t :: t.mid ++ [t.serverHelloDoneMsg]

open Pair

lemma length_serverFlight : (p.serverFlight t).length = t.mid.length + 2 := by
  rw [serverFlight, length_append, length_cons]
  rfl

def Terms.clientKeyExchangeMsg : HandshakeMsg := ⟨handshakeClientKeyExchange, 2, t.keyExchange⟩

/-- What the client's Finished covers. -/
def Pair.transcript : Bytes :=
  (p.clientHelloCookieMsg P).marshal ++ (p.serverFlight t).flatMap HandshakeMsg.marshal ++
    t.clientKeyExchangeMsg.marshal

def Pair.master : Bytes :=
  masterSecret P t.suite.prfHash t.premaster p.clientDraws.random p.serverDraws.random

/-- The keys of the client and of the server. -/
def Pair.keys : Aead × Aead :=
  expandKeys P t.suite (p.master P t) p.clientDraws.random p.serverDraws.random

def Pair.clientFinishedMsg : HandshakeMsg :=
  ⟨handshakeFinished, 3,
    finishedVerifyData P t.suite (p.master P t) labelClientFinished (p.transcript P t)⟩

def Pair.serverFinishedMsg : HandshakeMsg :=
  ⟨handshakeFinished, 3 + t.mid.length,
    finishedVerifyData P t.suite (p.master P t) labelServerFinished
      (p.transcript P t ++ (p.clientFinishedMsg P t).marshal)⟩

/-! ### The connections and the datagrams -/

def Pair.clientConn1 : Conn × Datagram :=
  Conn.sendFlight { cfg := p.client } .clientHello [p.clientHelloMsg]

def Pair.clientConn2 : Conn × Datagram :=
  p.clientConn1.1.sendFlight .clientHelloCookie [p.clientHelloCookieMsg P]

def Pair.clientConn3 : Conn × Datagram :=
  (p.clientConn2 P).1.sendFlight .clientKeyExchange [t.clientKeyExchangeMsg]

def Pair.serverConn1 : Conn × Datagram :=
  Conn.sendFlight { cfg := p.server } .helloVerifyRequest [p.helloVerifyMsg P]

def Pair.serverConn2 : Conn × Datagram :=
  (p.serverConn1 P).1.sendFlight .serverHello (p.serverFlight t)

/-- The datagram that a flight is. -/
def Pair.datagram : Flight → Datagram
  | .clientHello => p.clientConn1.2
  | .helloVerifyRequest => (p.serverConn1 P).2
  | .clientHelloCookie => (p.clientConn2 P).2
  | .serverHello => (p.serverConn2 P t).2
  | .clientKeyExchange => (p.clientConn3 P t).2
  | .clientChangeCipherSpec => ⟨.clientChangeCipherSpec, Record.encode
      ⟨recordChangeCipherSpec, version12, 0, (p.clientConn3 P t).1.writeSeq, [1]⟩⟩
  | .clientFinished => ⟨.clientFinished,
      (finishedRecord P (p.keys P t).1 (p.clientFinishedMsg P t)).encode⟩
  | .serverChangeCipherSpec => ⟨.serverChangeCipherSpec, Record.encode
      ⟨recordChangeCipherSpec, version12, 0, (p.serverConn2 P t).1.writeSeq, [1]⟩⟩
  | .serverFinished => ⟨.serverFinished,
      (finishedRecord P (p.keys P t).2 (p.serverFinishedMsg P t)).encode⟩

lemma flight_datagram (f : Flight) : (p.datagram P t f).flight = f := by
  cases f <;> rfl

/-! ### The states -/

namespace Pair

def waitHello : Waiting :=
  ⟨p.clientConn1.1, { sendSeq := 1, clientRand := p.clientDraws.random },
    some (p.datagram P t .clientHello), []⟩

def waitCookie : Waiting :=
  ⟨(p.clientConn2 P).1, { sendSeq := 2, clientRand := p.clientDraws.random, reasm := ⟨1, ∅⟩ },
    some (p.datagram P t .clientHelloCookie), []⟩

/-- The client waits for the server's Finished. -/
def waitServerFinished (collected : List HandshakeMsg) : Waiting :=
  ⟨{ (p.clientConn3 P t).1 with
      writeEp := 1, writeSeq := 1, out := some (p.keys P t).1, read := some (p.keys P t).2,
      readEp := 1 },
    { sendSeq := 4, clientRand := p.clientDraws.random, serverRand := p.serverDraws.random
      reasm := ⟨3 + t.mid.length, ∅⟩
      transcript := p.transcript P t ++ (p.clientFinishedMsg P t).marshal },
    none, collected⟩

def clientHello : Client := .hello (p.waitHello P t) (p.hello []) p.clientHelloMsg

def clientCookie : Client := .cookie (p.waitCookie P t) (p.clientHelloCookieMsg P)

def clientFinishing (collected : List HandshakeMsg) : Client :=
  .finishing (p.waitServerFinished P t collected) t.suite (p.master P t)

def waitStart : Waiting := ⟨{ cfg := p.server }, {}, none, []⟩

def waitVerifying : Waiting :=
  ⟨(p.serverConn1 P).1, { sendSeq := 1, reasm := ⟨1, ∅⟩ },
    some (p.datagram P t .helloVerifyRequest), []⟩

/-- The server waits for the ClientKeyExchange, and holds `k` copies of the client's Finished. -/
def waitKeyExchange (k : ℕ) (collected : List HandshakeMsg) : Waiting :=
  ⟨{ (p.serverConn2 P t).1 with
      deferred := List.replicate k (finishedRecord P (p.keys P t).1 (p.clientFinishedMsg P t)) },
    { sendSeq := 3 + t.mid.length, clientRand := p.clientDraws.random
      serverRand := p.serverDraws.random, reasm := ⟨2, ∅⟩
      transcript := (p.clientHelloCookieMsg P).marshal ++
        (p.serverFlight t).flatMap HandshakeMsg.marshal },
    some (p.datagram P t .serverHello), collected⟩

/-- The server waits for the client's Finished. -/
def waitClientFinished (collected : List HandshakeMsg) : Waiting :=
  ⟨{ (p.serverConn2 P t).1 with read := some (p.keys P t).1, readEp := 1 },
    { sendSeq := 3 + t.mid.length, clientRand := p.clientDraws.random
      serverRand := p.serverDraws.random, reasm := ⟨3, ∅⟩, transcript := p.transcript P t },
    some (p.datagram P t .serverHello), collected⟩

def serverStart : Server := .start p.waitStart

def serverVerifying : Server := .verifying (p.waitVerifying P t)

def serverKeyExchange (k : ℕ) (collected : List HandshakeMsg) : Server :=
  .keyExchange (p.waitKeyExchange P t k collected) t.suite

def serverFinishing (collected : List HandshakeMsg) : Server :=
  .finishing (p.waitClientFinished P t collected) t.suite (p.master P t) (p.keys P t).2

/-- Where the client is, phase by phase. -/
def ClientAt : ClientPhase → Client → Prop
  | .hello, c => c = p.clientHello P t
  | .cookie, c => c = p.clientCookie P t
  | .finishing, c => ∃ collected, Lacks handshakeFinished collected ∧
      c = p.clientFinishing P t collected
  | .done, c => ∃ conn, c = .done conn

/-- Where the server is, phase by phase. -/
def ServerAt : ServerPhase → Server → Prop
  | .start, s => s = p.serverStart
  | .verifying, s => s = p.serverVerifying P t
  | .keyExchange held, s => ∃ k collected, Lacks handshakeClientKeyExchange collected ∧
      (held = true ↔ 0 < k) ∧ s = p.serverKeyExchange P t k collected
  | .finishing, s => ∃ collected, Lacks handshakeFinished collected ∧
      s = p.serverFinishing P t collected
  | .done, s => ∃ conn, s = .done conn

end Pair

/-- The flights that are sent before there are keys. -/
def plainFlights : List Flight :=
  [.clientHello, .helloVerifyRequest, .clientHelloCookie, .serverHello, .clientKeyExchange]

/-- The two get along: they settle on the same terms, what they send fits into one read, and what
they write can be read back. -/
structure Pair.Agree : Prop where
  sound : P.Sound
  clientRandom : p.clientDraws.random.length = randomLen
  serverRandom : p.serverDraws.random.length = randomLen
  sessionID : p.client.sessionID.length < 256
  selected : selectSuite p.server (p.client.offeredSuites.map Suite.id) = some t.suite
  accepted : offered p.client.offeredSuites t.suite.id = some t.suite
  mid : serverMid P p.server p.serverDraws t.suite 2 p.clientDraws.random = some t.mid
  midSeq : t.mid.map HandshakeMsg.seq = List.range' 2 t.mid.length
  midTypes : ∀ m ∈ t.mid, m.typ = handshakeCertificate ∨ m.typ = handshakeServerKeyExchange
  inOrder : [handshakeCertificate, handshakeServerKeyExchange].filterMap (findMsg t.mid) = t.mid
  clientSide : ∀ hs : HandshakeState, hs.clientRand = p.clientDraws.random →
    hs.serverRand = p.serverDraws.random →
    clientKeyExchange P p.client p.clientDraws t.suite (p.serverFlight t) hs =
      some (t.keyExchange, t.premaster)
  serverSide : Veepin.Dtls.serverKeyExchange P p.server p.serverDraws t.suite t.keyExchange =
    some t.premaster
  fits : ∀ f ∈ plainFlights, (p.datagram P t f).bytes.length ≤ readBufLen

/-! ### What the datagrams are -/

variable {P p t} (h : p.Agree P t)

include h

lemma Pair.Agree.isFlight_clientHello : IsFlight (p.datagram P t .clientHello) [p.clientHelloMsg] :=
  isFlight_sendFlight _ _ _ (Nat.two_pow_pos 32) (h.fits .clientHello (by decide))

lemma Pair.Agree.isFlight_helloVerify :
    IsFlight (p.datagram P t .helloVerifyRequest) [p.helloVerifyMsg P] :=
  isFlight_sendFlight _ _ _ (Nat.two_pow_pos 32) (h.fits .helloVerifyRequest (by decide))

lemma Pair.Agree.writeSeq_clientConn1 : p.clientConn1.1.writeSeq ≤ readBufLen :=
  (writeSeq_sendFlight _ _ _).trans ((zero_add _).le.trans (h.fits .clientHello (by decide)))

lemma Pair.Agree.writeSeq_serverConn1 : (p.serverConn1 P).1.writeSeq ≤ readBufLen :=
  (writeSeq_sendFlight _ _ _).trans ((zero_add _).le.trans (h.fits .helloVerifyRequest (by decide)))

lemma Pair.Agree.writeSeq_clientConn2 : (p.clientConn2 P).1.writeSeq ≤ 2 * readBufLen := by
  have hsent := writeSeq_sendFlight p.clientConn1.1 .clientHelloCookie [p.clientHelloCookieMsg P]
  have hfirst := h.writeSeq_clientConn1
  have hfits := h.fits .clientHelloCookie (by decide)
  rw [datagram] at hfits
  unfold clientConn2 at hfits ⊢
  omega

lemma Pair.Agree.isFlight_clientHelloCookie :
    IsFlight (p.datagram P t .clientHelloCookie) [p.clientHelloCookieMsg P] :=
  isFlight_sendFlight _ _ _ (h.writeSeq_clientConn1.trans_lt (by decide))
    (h.fits .clientHelloCookie (by decide))

lemma Pair.Agree.isFlight_serverHello : IsFlight (p.datagram P t .serverHello) (p.serverFlight t) :=
  isFlight_sendFlight _ _ _ (h.writeSeq_serverConn1.trans_lt (by decide))
    (h.fits .serverHello (by decide))

lemma Pair.Agree.isFlight_clientKeyExchange :
    IsFlight (p.datagram P t .clientKeyExchange) [t.clientKeyExchangeMsg] :=
  isFlight_sendFlight _ _ _ (h.writeSeq_clientConn2.trans_lt (by decide))
    (h.fits .clientKeyExchange (by decide))

lemma Pair.Agree.writeSeq_clientConn3 : (p.clientConn3 P t).1.writeSeq < 2 ^ 48 := by
  have hsent := writeSeq_sendFlight (p.clientConn2 P).1 .clientKeyExchange [t.clientKeyExchangeMsg]
  have hsecond := h.writeSeq_clientConn2
  have hfits := h.fits .clientKeyExchange (by decide)
  have hlen : readBufLen < 2 ^ 16 := by decide
  rw [datagram] at hfits
  unfold clientConn3 at hfits ⊢
  omega

lemma Pair.Agree.writeSeq_serverConn2 : (p.serverConn2 P t).1.writeSeq < 2 ^ 48 := by
  have hsent := writeSeq_sendFlight (p.serverConn1 P).1 .serverHello (p.serverFlight t)
  have hfirst := h.writeSeq_serverConn1
  have hfits := h.fits .serverHello (by decide)
  have hlen : readBufLen < 2 ^ 16 := by decide
  rw [datagram] at hfits
  unfold serverConn2 at hfits ⊢
  omega

lemma Pair.Agree.fits_clientHello : p.clientHelloMsg.Fits :=
  ⟨Nat.two_pow_pos 16, h.isFlight_clientHello.body_le mem_cons_self⟩

lemma Pair.Agree.fits_helloVerify : (p.helloVerifyMsg P).Fits :=
  ⟨Nat.two_pow_pos 16, h.isFlight_helloVerify.body_le mem_cons_self⟩

lemma Pair.Agree.fits_clientHelloCookie : (p.clientHelloCookieMsg P).Fits :=
  ⟨show 1 < 2 ^ 16 by decide, h.isFlight_clientHelloCookie.body_le mem_cons_self⟩

lemma Pair.Agree.fits_clientKeyExchange : t.clientKeyExchangeMsg.Fits :=
  ⟨show 2 < 2 ^ 16 by decide, h.isFlight_clientKeyExchange.body_le mem_cons_self⟩

lemma Pair.Agree.length_mid : t.mid.length ≤ 2 := by
  have hmid := h.mid
  unfold serverMid at hmid
  cases hkx : t.suite.kx with
  | psk =>
    rw [hkx] at hmid
    exact (congrArg length (some.inj hmid)).symm.le.trans (by decide)
  | ecdhe =>
    rw [hkx] at hmid
    obtain ⟨cert, -, hcert⟩ := bind_eq_some_iff.mp hmid
    obtain ⟨key, -, hkey⟩ := map_eq_some_iff.mp hcert
    exact (congrArg length hkey).symm.le

lemma Pair.Agree.seq_serverFlight :
    (p.serverFlight t).map HandshakeMsg.seq = List.range' 1 (p.serverFlight t).length := by
  have hlast : range' 1 (t.mid.length + 2) = 1 :: range' 2 t.mid.length ++ [2 + t.mid.length] := by
    rw [range'_succ, range'_1_concat]
    rfl
  have hlen := length_serverFlight p t
  rw [hlen, hlast, serverFlight, map_append, map_cons, h.midSeq]
  rfl

lemma Pair.Agree.seq_lt {m : HandshakeMsg} (hm : m ∈ p.serverFlight t) :
    m.seq < 3 + t.mid.length := by
  have hseq : m.seq ∈ range' 1 (p.serverFlight t).length := by
    rw [← h.seq_serverFlight]
    exact mem_map_of_mem hm
  rw [length_serverFlight, mem_range'_1] at hseq
  omega

lemma Pair.Agree.fits_serverFlight : ∀ m ∈ p.serverFlight t, m.Fits := by
  intro m hm
  have hmid := h.length_mid
  have hseq := h.seq_lt hm
  exact ⟨by omega, h.isFlight_serverHello.body_le hm⟩

lemma Pair.Agree.consecutive_serverFlight : Consecutive 1 (p.serverFlight t) :=
  consecutive_of_seq h.seq_serverFlight h.fits_serverFlight

lemma Pair.Agree.cookie_ne : p.cookie P ≠ [] := by
  have hmac := h.sound.hmac .sha256 p.serverDraws.cookieSecret p.serverDraws.peer
  unfold cookie serverCookie cookieMAC
  rw [Ne, take_eq_nil_iff]
  simpa using hmac

omit h in
lemma Pair.length_cookie : (p.cookie P).length ≤ 16 := length_take_le ..

/-! ### What has been read before -/

section Behind

variable {w : Waiting}

lemma Pair.Agree.behind_clientHello (hw : 0 < w.hs.reasm.next) :
    w.receive P (p.datagram P t .clientHello) = some w :=
  h.isFlight_clientHello.behind_one h.fits_clientHello hw

lemma Pair.Agree.behind_helloVerify (hw : 0 < w.hs.reasm.next) :
    w.receive P (p.datagram P t .helloVerifyRequest) = some w :=
  h.isFlight_helloVerify.behind_one h.fits_helloVerify hw

lemma Pair.Agree.behind_clientHelloCookie (hw : 1 < w.hs.reasm.next) :
    w.receive P (p.datagram P t .clientHelloCookie) = some w :=
  h.isFlight_clientHelloCookie.behind_one h.fits_clientHelloCookie hw

end Behind

/-! ### The client -/

/-- **The HelloVerifyRequest arrives**, and the ClientHello is sent again with the cookie. -/
lemma Pair.Agree.client_helloVerify :
    Client.receive P p.client p.clientDraws (p.clientHello P t)
      (p.datagram P t .helloVerifyRequest) =
      (p.clientCookie P t, [p.datagram P t .clientHelloCookie]) := by
  have hparse := @parseHelloVerifyRequest_marshal ⟨version12, p.cookie P⟩
    (show version12 < 65536 by decide) (length_cookie.trans_lt (by decide))
  have hdue := @IsFlight.due P (p.waitHello P t) _ _ h.isFlight_helloVerify 0 rfl
    ⟨rfl, h.fits_helloVerify, trivial⟩ (show 1 < 65536 by decide)
  have hfind : findMsg ([] ++ [p.helloVerifyMsg P]) handshakeHelloVerifyReq =
      some (p.helloVerifyMsg P) := rfl
  rw [clientHello, Client.receive, hdue, bind_some]
  simp only [waitHello, hfind, Client.helloVerified]
  rw [helloVerifyMsg, hparse]
  rfl

/-- The HelloVerifyRequest comes once more. -/
lemma Pair.Agree.client_helloVerify_again :
    Client.receive P p.client p.clientDraws (p.clientCookie P t)
      (p.datagram P t .helloVerifyRequest) = (p.clientCookie P t, []) := by
  have hold := @behind_helloVerify P p t h (p.waitCookie P t) (show 0 < 1 by decide)
  rw [clientCookie, Client.receive, hold]
  rfl

omit h in
/-- A message that is neither the ServerHello nor the ServerHelloDone is one of those between. -/
lemma find_serverFlight {typ : UInt8} (hfirst : handshakeServerHello ≠ typ)
    (hlast : handshakeServerHelloDone ≠ typ) :
    findMsg (p.serverFlight t) typ = findMsg t.mid typ := by
  rw [serverFlight, cons_append, findMsg_cons_of_ne hfirst, findMsg_append,
    findMsg_cons_of_ne hlast]
  exact or_none

lemma find_serverHelloDone :
    findMsg (p.serverFlight t) handshakeServerHelloDone = some t.serverHelloDoneMsg := by
  have hmid : Lacks handshakeServerHelloDone t.mid := by
    intro m hm
    obtain hm | hm := h.midTypes m hm
    · rw [hm]
      decide
    · rw [hm]
      decide
  have hfirst : (p.serverHelloMsg t).typ ≠ handshakeServerHelloDone :=
    show handshakeServerHello ≠ handshakeServerHelloDone by decide
  rw [serverFlight, cons_append, findMsg_cons_of_ne hfirst]
  exact findMsg_found hmid rfl

omit h in
lemma foldl_record : ∀ (ms : List HandshakeMsg) (hs : HandshakeState),
    ms.foldl HandshakeState.record hs =
      { hs with transcript := hs.transcript ++ ms.flatMap HandshakeMsg.marshal }
  | [], hs => by simp
  | m :: ms, hs => by
    rw [foldl_cons, foldl_record ms]
    simp [HandshakeState.record]

/-- The client records the flight as the server does. -/
lemma recordFlight_serverFlight (hs : HandshakeState) : hs.recordFlight (p.serverFlight t) =
    { hs with transcript := hs.transcript ++ (p.serverFlight t).flatMap HandshakeMsg.marshal } := by
  have hcert := @find_serverFlight p t handshakeCertificate (by decide) (by decide)
  have hske := @find_serverFlight p t handshakeServerKeyExchange (by decide) (by decide)
  have hall : [handshakeServerHello, handshakeCertificate, handshakeServerKeyExchange,
      handshakeServerHelloDone].filterMap (findMsg (p.serverFlight t)) = p.serverFlight t := by
    have hbetween : [handshakeCertificate, handshakeServerKeyExchange].filterMap
        (findMsg (p.serverFlight t)) = t.mid := by
      refine Eq.trans ?_ h.inOrder
      simp only [filterMap_cons, filterMap_nil, hcert, hske]
    have hfirst : findMsg (p.serverFlight t) handshakeServerHello = some (p.serverHelloMsg t) := rfl
    have hlast : [handshakeServerHelloDone].filterMap (findMsg (p.serverFlight t)) =
        [t.serverHelloDoneMsg] := by
      rw [filterMap_cons_some (find_serverHelloDone h)]
      rfl
    rw [filterMap_cons_some hfirst, show [handshakeCertificate, handshakeServerKeyExchange,
      handshakeServerHelloDone] = [handshakeCertificate, handshakeServerKeyExchange] ++
      [handshakeServerHelloDone] from rfl, filterMap_append, hbetween, hlast]
    rfl
  rw [HandshakeState.recordFlight, hall, foldl_record]

omit h in
lemma offeredSuites_id_lt (cfg : Config) : ∀ s ∈ cfg.offeredSuites, s.id < 65536 := by
  unfold Config.offeredSuites
  split_ifs <;> decide

/-- **The server's hello arrives**, and the client sends its last flight. -/
lemma Pair.Agree.client_serverHello :
    Client.receive P p.client p.clientDraws (p.clientCookie P t) (p.datagram P t .serverHello) =
      (p.clientFinishing P t [], [p.datagram P t .clientKeyExchange,
        p.datagram P t .clientChangeCipherSpec, p.datagram P t .clientFinished]) := by
  have hmid := h.length_mid
  have hlen := length_serverFlight p t
  have hdue := @IsFlight.due P (p.waitCookie P t) _ _ h.isFlight_serverHello 1 rfl
    h.consecutive_serverFlight (by omega)
  have hid := offeredSuites_id_lt p.client t.suite (mem_of_find?_eq_some h.accepted)
  have hparse := @parseServerHello_marshal
    ⟨version12, p.serverDraws.random, p.client.sessionID, t.suite.id⟩
    (show version12 < 65536 by decide) h.serverRandom h.sessionID hid
  have hnext : 1 + (p.serverFlight t).length = 3 + t.mid.length := by omega
  rw [clientCookie, Client.receive, hdue, bind_some]
  simp only [waitCookie, nil_append, hnext]
  rw [find_serverHelloDone h, if_pos isSome_some, Client.helloAnswered, show findMsg (p.serverFlight
    t) handshakeServerHello = some (p.serverHelloMsg t) from rfl, bind_some, serverHelloMsg,
    hparse, bind_some, if_neg (not_not.mpr rfl), h.accepted, bind_some]
  simp only [recordFlight_serverFlight h]
  rw [h.clientSide _ rfl rfl, bind_some]
  rfl

omit h in
/-- The client goes on waiting for the server's Finished. -/
lemma client_waits (hreceive : (p.waitServerFinished P t collected).receive P d =
      some (p.waitServerFinished P t collected')) (hlacks : Lacks handshakeFinished collected') :
    Client.receive P p.client p.clientDraws (p.clientFinishing P t collected) d =
      (p.clientFinishing P t collected', []) := by
  rw [clientFinishing, Client.receive, hreceive, bind_some]
  simp only [waitServerFinished, findMsg_of_lacks hlacks]
  rfl

omit h in
lemma length_verifyData (s : Suite) (master label transcript : Bytes) :
    (finishedVerifyData P s master label transcript).length ≤ verifyDataLen := length_take_le ..

lemma Pair.Agree.client_finished (hlacks : Lacks handshakeFinished collected) : ∃ conn,
    Client.receive P p.client p.clientDraws (p.clientFinishing P t collected)
      (p.datagram P t .serverFinished) = (.done conn, []) := by
  have hmid := h.length_mid
  have hreceive := @receive_finished P (p.waitServerFinished P t collected) (p.keys P t).2 h.sound
    (p.serverFinishedMsg P t) (length_verifyData ..)
    (show 3 + t.mid.length + 1 < 65536 by omega) rfl
    rfl rfl .serverFinished
  have hfind := @findMsg_found _ _ hlacks (p.serverFinishedMsg P t) rfl
  refine ⟨{ (p.waitServerFinished P t collected).conn with replay := seenFirst }, ?_⟩
  rw [clientFinishing, Client.receive, datagram, hreceive, bind_some]
  simp only [waitServerFinished, hfind]
  exact congrArg Client.orFailed (if_pos rfl)

/-! ### The server -/

/-- The hello with a cookie can be read. -/
lemma Pair.Agree.parse_hello {cookie : Bytes} (hcookie : cookie.length < 256) :
    parseClientHello (p.hello cookie).marshal = some (p.hello cookie) := by
  have hlen : p.client.offeredSuites.length ≤ 2 := by
    unfold Config.offeredSuites
    split_ifs <;> decide
  refine parseClientHello_marshal ⟨show version12 < 65536 by decide, h.clientRandom, h.sessionID,
    hcookie, ?_, ?_⟩
  · show 2 * (p.client.offeredSuites.map Suite.id).length < 65536
    rw [length_map]
    omega
  · intro id hid
    obtain ⟨s, hs, rfl⟩ := mem_map.mp hid
    exact offeredSuites_id_lt p.client s hs

/-- **The first ClientHello arrives.** -/
lemma Pair.Agree.server_hello :
    Server.receive P p.server p.serverDraws p.serverStart (p.datagram P t .clientHello) =
      (p.serverVerifying P t, [p.datagram P t .helloVerifyRequest]) := by
  have hdue := @IsFlight.due P p.waitStart _ _ h.isFlight_clientHello 0 rfl
    ⟨rfl, h.fits_clientHello, trivial⟩ (show 1 < 65536 by decide)
  have hfind : findMsg ([] ++ [p.clientHelloMsg]) handshakeClientHello = some p.clientHelloMsg :=
    rfl
  have hne : ¬ (p.hello []).cookie = serverCookie P p.serverDraws := fun heq => h.cookie_ne heq.symm
  rw [serverStart, Server.receive, hdue, bind_some]
  simp only [waitStart, hfind, Server.hello]
  rw [clientHelloMsg, @Pair.Agree.parse_hello P p t h [] (by decide), bind_some, if_neg hne]
  rfl

/-- The first ClientHello comes once more. -/
lemma Pair.Agree.server_hello_again :
    Server.receive P p.server p.serverDraws (p.serverVerifying P t) (p.datagram P t .clientHello) =
      (p.serverVerifying P t, []) := by
  have hold := @behind_clientHello P p t h (p.waitVerifying P t) (show 0 < 1 by decide)
  rw [serverVerifying, receive, hold]
  rfl

/-- **The ClientHello with the cookie arrives.** -/
lemma Pair.Agree.server_helloCookie :
    Server.receive P p.server p.serverDraws (p.serverVerifying P t)
        (p.datagram P t .clientHelloCookie) =
      (p.serverKeyExchange P t 0 [], [p.datagram P t .serverHello]) := by
  have hdue := @IsFlight.due P (p.waitVerifying P t) _ _ h.isFlight_clientHelloCookie 1 rfl
    ⟨rfl, h.fits_clientHelloCookie, trivial⟩ (show 2 < 65536 by decide)
  have hfind : findMsg ([] ++ [p.clientHelloCookieMsg P]) handshakeClientHello =
      some (p.clientHelloCookieMsg P) := rfl
  have hsuites : (p.hello (p.cookie P)).cipherSuites = p.client.offeredSuites.map Suite.id := rfl
  have hrandom : (p.hello (p.cookie P)).random = p.clientDraws.random := rfl
  have hcookie : (p.hello (p.cookie P)).cookie = serverCookie P p.serverDraws := rfl
  rw [serverVerifying, receive, hdue, bind_some]
  simp only [waitVerifying, hfind, helloCookie]
  rw [clientHelloCookieMsg, h.parse_hello (length_cookie.trans_lt (by decide)), bind_some,
    if_pos hcookie, answerHello, hsuites, h.selected, bind_some, hrandom, h.mid, map_some]
  have hsend : 1 + 1 + t.mid.length + 1 = 3 + t.mid.length := by omega
  simp only [foldl_record, hsend]
  rfl

omit h in
/-- The server goes on waiting for the ClientKeyExchange. -/
lemma server_waits {k k' : ℕ} (hreceive : (p.waitKeyExchange P t k collected).receive P d =
      some (p.waitKeyExchange P t k' collected'))
    (hlacks : Lacks handshakeClientKeyExchange collected') :
    Server.receive P p.server p.serverDraws (p.serverKeyExchange P t k collected) d =
      (p.serverKeyExchange P t k' collected', []) := by
  rw [Pair.serverKeyExchange, receive, hreceive, bind_some]
  simp only [waitKeyExchange, findMsg_of_lacks hlacks]
  rfl

omit h in
/-- The server goes on waiting for the client's Finished. -/
lemma server_waitsFinished (hreceive : (p.waitClientFinished P t collected).receive P d =
      some (p.waitClientFinished P t collected')) (hlacks : Lacks handshakeFinished collected') :
    Server.receive P p.server p.serverDraws (p.serverFinishing P t collected) d =
      (p.serverFinishing P t collected', []) := by
  rw [serverFinishing, receive, hreceive, bind_some]
  simp only [waitClientFinished, findMsg_of_lacks hlacks]
  rfl

omit h in
/-- **The client's Finished is checked**, and the server sends its last flight. -/
lemma finish_clientFinished {c : Conn} {hs : HandshakeState}
    (hconn : c.writeEp = 0 ∧ c.writeSeq = (p.serverConn2 P t).1.writeSeq)
    (hseq : hs.sendSeq = 3 + t.mid.length) (htranscript : hs.transcript = p.transcript P t) :
    ∃ conn, Server.finish P c hs t.suite (p.master P t) (p.keys P t).2 (p.clientFinishedMsg P t) =
      some (.done conn,
        [p.datagram P t .serverChangeCipherSpec, p.datagram P t .serverFinished]) := by
  obtain ⟨cfg, writeSeq, writeEp, out, read, readEp, replay, deferred⟩ := c
  obtain ⟨transcript, sendSeq, reasm, clientRand, serverRand⟩ := hs
  obtain ⟨rfl, rfl⟩ := hconn
  dsimp only at hseq htranscript
  subst hseq htranscript
  exact ⟨_, if_pos rfl⟩

lemma Pair.Agree.server_clientKeyExchange (hlacks : Lacks handshakeClientKeyExchange collected) :
    Server.receive P p.server p.serverDraws (p.serverKeyExchange P t 0 collected)
      (p.datagram P t .clientKeyExchange) = (p.serverFinishing P t [], []) := by
  have hdue :=
    @IsFlight.due P (p.waitKeyExchange P t 0 collected) _ _ h.isFlight_clientKeyExchange 2
    rfl ⟨rfl, h.fits_clientKeyExchange, trivial⟩ (show 3 < 65536 by decide)
  have hfind := @findMsg_found _ _ hlacks t.clientKeyExchangeMsg rfl
  rw [serverKeyExchange, receive, hdue, bind_some]
  simp only [waitKeyExchange, hfind, keysReady]
  rw [Terms.clientKeyExchangeMsg, h.serverSide]
  rfl

/-- **The ClientKeyExchange arrives after the client's Finished**, which was held. -/
lemma Pair.Agree.server_clientKeyExchange_held (k : ℕ)
    (hlacks : Lacks handshakeClientKeyExchange collected) : ∃ conn,
    Server.receive P p.server p.serverDraws (p.serverKeyExchange P t (k + 1) collected)
      (p.datagram P t .clientKeyExchange) =
        (.done conn, [p.datagram P t .serverChangeCipherSpec, p.datagram P t .serverFinished]) := by
  let w := p.waitKeyExchange P t (k + 1) collected
  -- the client's keys are there from now on
  let c := w.conn.installReadKeys (p.keys P t).1
  have hdue := @IsFlight.due P w _ _ h.isFlight_clientKeyExchange 2 rfl
    ⟨rfl, h.fits_clientKeyExchange, trivial⟩ (show 3 < 65536 by decide)
  have hfind := @findMsg_found _ _ hlacks t.clientKeyExchangeMsg rfl
  have hdrain := @drain_finished P (p.keys P t).1 h.sound (p.clientFinishedMsg P t)
    (length_verifyData ..) (show 4 < 65536 by decide) ⟨c, ⟨3, ∅⟩⟩ rfl rfl k
  have hdeferred : ReadSide.drainDeferred P (p.keys P t).1 ⟨c, ⟨3, ∅⟩⟩ = some
      (⟨{ c with replay := seenFirst, deferred := [] }, ⟨4, ∅⟩⟩, [p.clientFinishedMsg P t]) :=
    map_eq_some_iff.mpr ⟨_, hdrain, rfl⟩
  obtain ⟨conn, hfinish⟩ := @finish_clientFinished P p t
    { c with replay := seenFirst, deferred := [] }
    { w.hs with reasm := ⟨4, ∅⟩, transcript := p.transcript P t } ⟨rfl, rfl⟩ rfl rfl
  refine ⟨conn, ?_⟩
  rw [serverKeyExchange, receive, hdue, bind_some]
  simp only [w, waitKeyExchange, hfind, keysReady]
  rw [Terms.clientKeyExchangeMsg, h.serverSide, bind_some]
  exact congrArg orFailed (bind_eq_some_iff.mpr ⟨_, hdeferred, hfinish⟩)

lemma Pair.Agree.server_clientFinished (hlacks : Lacks handshakeFinished collected) : ∃ conn,
    Server.receive P p.server p.serverDraws (p.serverFinishing P t collected)
      (p.datagram P t .clientFinished) =
        (.done conn, [p.datagram P t .serverChangeCipherSpec, p.datagram P t .serverFinished]) := by
  have hreceive := @receive_finished P (p.waitClientFinished P t collected) (p.keys P t).1 h.sound
    (p.clientFinishedMsg P t) (length_verifyData ..) (show 4 < 65536 by decide) rfl rfl rfl
    .clientFinished
  have hfind := @findMsg_found _ _ hlacks (p.clientFinishedMsg P t) rfl
  obtain ⟨conn, hfinish⟩ := @finish_clientFinished P p t
    { (p.waitClientFinished P t collected).conn with replay := seenFirst }
    { (p.waitClientFinished P t collected).hs with reasm := ⟨4, ∅⟩ } ⟨rfl, rfl⟩ rfl rfl
  refine ⟨conn, ?_⟩
  rw [serverFinishing, receive, datagram, hreceive, bind_some]
  simp only [waitClientFinished, hfind]
  exact congrArg orFailed hfinish

/-! ### Phase by phase -/

/-- What can reach the client in a phase. -/
def ClientPhase.reads : ClientPhase → List Flight
  | .hello => [.helloVerifyRequest]
  | .cookie => [.helloVerifyRequest, .serverHello]
  | _ => [.helloVerifyRequest, .serverHello, .serverChangeCipherSpec, .serverFinished]

/-- What can reach the server in a phase. -/
def ServerPhase.reads : ServerPhase → List Flight
  | .start => [.clientHello]
  | .verifying => [.clientHello, .clientHelloCookie]
  | _ => [.clientHello, .clientHelloCookie, .clientKeyExchange, .clientChangeCipherSpec,
      .clientFinished]

/-- **The client answers as its phase says.** -/
theorem Pair.Agree.client_answers {phase : ClientPhase} {c : Client} (hc : p.ClientAt P t phase c)
    {f : Flight} (hf : f ∈ phase.reads) :
    AnswersAs (p.datagram P t) (p.ClientAt P t) (phase.receive f)
      (Client.receive P p.client p.clientDraws c (p.datagram P t f)) := by
  cases phase with
  | hello =>
    obtain rfl := mem_singleton.mp hf
    obtain rfl := hc
    rw [h.client_helloVerify]
    exact ⟨rfl, rfl⟩
  | cookie =>
    obtain rfl := hc
    obtain rfl | rfl : f = .helloVerifyRequest ∨ f = .serverHello := by
      simpa [ClientPhase.reads] using hf
    · rw [h.client_helloVerify_again]
      exact ⟨rfl, rfl⟩
    · rw [h.client_serverHello]
      exact ⟨⟨[], lacks_nil _, rfl⟩, rfl⟩
  | finishing =>
    obtain ⟨collected, hlacks, rfl⟩ := hc
    simp only [ClientPhase.reads, mem_cons, not_mem_nil, or_false] at hf
    obtain rfl | rfl | rfl | rfl := hf
    · rw [client_waits (h.behind_helloVerify (show 0 < 3 + t.mid.length by omega)) hlacks]
      exact ⟨⟨collected, hlacks, rfl⟩, rfl⟩
    · rw [client_waits (h.isFlight_serverHello.behind fun m hm =>
        ⟨h.fits_serverFlight m hm, h.seq_lt hm⟩) hlacks]
      exact ⟨⟨collected, hlacks, rfl⟩, rfl⟩
    · have hlacks' := @Lacks.append _ _ hlacks ⟨pseudoChangeCipherSpec, 0, []⟩
        (show pseudoChangeCipherSpec ≠ handshakeFinished by decide)
      have hchange : (p.waitServerFinished P t collected).receive P
          (p.datagram P t .serverChangeCipherSpec) = some (p.waitServerFinished P t _) :=
        receive_changeCipherSpec h.writeSeq_serverConn2 _
      rw [client_waits hchange hlacks']
      exact ⟨⟨_, hlacks', rfl⟩, rfl⟩
    · obtain ⟨conn, hdone⟩ := h.client_finished hlacks
      rw [hdone]
      exact ⟨⟨conn, rfl⟩, rfl⟩
  | done =>
    obtain ⟨conn, rfl⟩ := hc
    have hphase : ClientPhase.done.receive f = (.done, []) := by
      cases f <;> rfl
    rw [hphase]
    exact ⟨⟨conn, rfl⟩, rfl⟩

/-- **The server answers as its phase says.** -/
theorem Pair.Agree.server_answers {phase : ServerPhase} {s : Server} (hs : p.ServerAt P t phase s)
    {f : Flight} (hf : f ∈ phase.reads) :
    AnswersAs (p.datagram P t) (p.ServerAt P t) (phase.receive f)
      (Server.receive P p.server p.serverDraws s (p.datagram P t f)) := by
  cases phase with
  | start =>
    obtain rfl := mem_singleton.mp hf
    obtain rfl := hs
    rw [h.server_hello]
    exact ⟨rfl, rfl⟩
  | verifying =>
    obtain rfl := hs
    obtain rfl | rfl : f = .clientHello ∨ f = .clientHelloCookie := by
      simpa [ServerPhase.reads] using hf
    · rw [h.server_hello_again]
      exact ⟨rfl, rfl⟩
    · rw [h.server_helloCookie]
      exact ⟨⟨0, [], lacks_nil _, by decide, rfl⟩, rfl⟩
  | keyExchange held =>
    obtain ⟨k, collected, hlacks, hheld, rfl⟩ := hs
    simp only [ServerPhase.reads, mem_cons, not_mem_nil, or_false] at hf
    obtain rfl | rfl | rfl | rfl | rfl := hf
    · rw [server_waits (h.behind_clientHello (show 0 < 2 by decide)) hlacks]
      exact ⟨⟨k, collected, hlacks, hheld, rfl⟩, rfl⟩
    · rw [server_waits (h.behind_clientHelloCookie (show 1 < 2 by decide)) hlacks]
      exact ⟨⟨k, collected, hlacks, hheld, rfl⟩, rfl⟩
    · cases k with
      | zero =>
        obtain rfl : held = false := by simpa using hheld
        rw [h.server_clientKeyExchange hlacks]
        exact ⟨⟨[], lacks_nil _, rfl⟩, rfl⟩
      | succ k =>
        obtain rfl : held = true := hheld.mpr (succ_pos k)
        obtain ⟨conn, hdone⟩ := h.server_clientKeyExchange_held k hlacks
        rw [hdone]
        exact ⟨⟨conn, rfl⟩, rfl⟩
    · have hlacks' := @Lacks.append _ _ hlacks ⟨pseudoChangeCipherSpec, 0, []⟩
        (show pseudoChangeCipherSpec ≠ handshakeClientKeyExchange by decide)
      have hchange : (p.waitKeyExchange P t k collected).receive P
          (p.datagram P t .clientChangeCipherSpec) = some (p.waitKeyExchange P t k _) :=
        receive_changeCipherSpec h.writeSeq_clientConn3 _
      rw [server_waits hchange hlacks']
      exact ⟨⟨k, _, hlacks', hheld, rfl⟩, rfl⟩
    · -- the keys are not there yet
      have hearly : (p.waitKeyExchange P t k collected).receive P (p.datagram P t .clientFinished) =
          some (p.waitKeyExchange P t (k + 1) collected) := by
        rw [datagram, receive_finished_early h.sound (length_verifyData ..) rfl]
        simp only [waitKeyExchange, replicate_succ']
      rw [server_waits hearly hlacks]
      exact ⟨⟨k + 1, collected, hlacks, by simp, rfl⟩, rfl⟩
  | finishing =>
    obtain ⟨collected, hlacks, rfl⟩ := hs
    simp only [ServerPhase.reads, mem_cons, not_mem_nil, or_false] at hf
    obtain rfl | rfl | rfl | rfl | rfl := hf
    · rw [server_waitsFinished (h.behind_clientHello (show 0 < 3 by decide)) hlacks]
      exact ⟨⟨collected, hlacks, rfl⟩, rfl⟩
    · rw [server_waitsFinished (h.behind_clientHelloCookie (show 1 < 3 by decide)) hlacks]
      exact ⟨⟨collected, hlacks, rfl⟩, rfl⟩
    · rw [server_waitsFinished (h.isFlight_clientKeyExchange.behind_one h.fits_clientKeyExchange
        (show 2 < 3 by decide)) hlacks]
      exact ⟨⟨collected, hlacks, rfl⟩, rfl⟩
    · have hlacks' := @Lacks.append _ _ hlacks ⟨pseudoChangeCipherSpec, 0, []⟩
        (show pseudoChangeCipherSpec ≠ handshakeFinished by decide)
      have hchange : (p.waitClientFinished P t collected).receive P
          (p.datagram P t .clientChangeCipherSpec) = some (p.waitClientFinished P t _) :=
        receive_changeCipherSpec h.writeSeq_clientConn3 _
      rw [server_waitsFinished hchange hlacks']
      exact ⟨⟨_, hlacks', rfl⟩, rfl⟩
    · obtain ⟨conn, hdone⟩ := h.server_clientFinished hlacks
      rw [hdone]
      exact ⟨⟨conn, rfl⟩, rfl⟩
  | done =>
    obtain ⟨conn, rfl⟩ := hs
    have hphase : ServerPhase.done.receive f = (.done, []) := by
      cases f <;> rfl
    rw [hphase]
    exact ⟨⟨conn, rfl⟩, rfl⟩

end Canonical

end Veepin.Dtls
