import Veepin.Dtls.Pair

/-!
# What the handshake recovers from

A client and a server over a link that loses a finite set of datagrams, in any fair schedule of
reads and timeouts.

* `Pair.Agree.simulates` — the two ends do what `Flights` says of them;
* `handshake_recovers_iff` — so both complete if and only if the link loses none of the datagrams
  that are sent once and waited for.
-/

namespace Veepin.Dtls

open List Option Pair

section Link

variable (P : Primitives) (p : Pair) (lost : Finset (Flight × ℕ))

/-- The two ends. -/
def Pair.ends : Ends Client Server Datagram where
  clientReceive := Client.receive P p.client p.clientDraws
  clientTimeout := Client.timeout
  serverReceive := Server.receive P p.server p.serverDraws
  serverTimeout := Server.timeout

abbrev HandshakeLink := Link Client Server Datagram Flight

def Pair.step (l : HandshakeLink) (e : LinkEvent) : HandshakeLink :=
  Link.step Datagram.flight lost (p.ends P) l e

/-- The server waits, and the client has sent its first flight. -/
def Pair.start : HandshakeLink :=
  Link.fromClient Datagram.flight lost
    ⟨(Client.start p.client p.clientDraws).1, Server.init p.server, [], [], fun _ => 0⟩
    (Client.start p.client p.clientDraws).2

/-- Both handshakes have completed. -/
def Completed (l : HandshakeLink) : Prop :=
  (∃ conn, l.client = .done conn) ∧ ∃ conn, l.server = .done conn

variable {P p lost} {t : Terms}

lemma client_timeout {phase : ClientPhase} {c : Client} (hc : p.ClientAt P t phase c) :
    c.timeout = phase.timeout.map (p.datagram P t) := by
  cases phase with
  | hello | cookie =>
    obtain rfl := hc
    rfl
  | finishing =>
    obtain ⟨collected, -, rfl⟩ := hc
    rfl
  | done =>
    obtain ⟨conn, rfl⟩ := hc
    rfl

lemma server_timeout {phase : ServerPhase} {s : Server} (hs : p.ServerAt P t phase s) :
    s.timeout = phase.timeout.map (p.datagram P t) := by
  cases phase with
  | start | verifying =>
    obtain rfl := hs
    rfl
  | keyExchange held =>
    obtain ⟨k, collected, -, -, rfl⟩ := hs
    rfl
  | finishing =>
    obtain ⟨collected, -, rfl⟩ := hs
    rfl
  | done =>
    obtain ⟨conn, rfl⟩ := hs
    rfl

lemma client_done {phase : ClientPhase} {c : Client} (hc : p.ClientAt P t phase c) :
    (∃ conn, c = .done conn) ↔ phase = .done := by
  cases phase with
  | hello | cookie =>
    obtain rfl := hc
    exact iff_of_false nofun nofun
  | finishing =>
    obtain ⟨collected, -, rfl⟩ := hc
    exact iff_of_false nofun nofun
  | done => exact ⟨fun _ => rfl, fun _ => hc⟩

lemma server_done {phase : ServerPhase} {s : Server} (hs : p.ServerAt P t phase s) :
    (∃ conn, s = .done conn) ↔ phase = .done := by
  cases phase with
  | start | verifying =>
    obtain rfl := hs
    exact iff_of_false nofun nofun
  | keyExchange held =>
    obtain ⟨k, collected, -, -, rfl⟩ := hs
    exact iff_of_false nofun nofun
  | finishing =>
    obtain ⟨collected, -, rfl⟩ := hs
    exact iff_of_false nofun nofun
  | done => exact ⟨fun _ => rfl, fun _ => hs⟩

/-- What is on the way can be read where the ends are. -/
lemma reads_of_meets : ∀ c s, meets c s = true → s.sends ⊆ c.reads ∧ c.sends ⊆ s.reads := by decide

/-- **The two ends proceed as their phases do**, at all times. -/
theorem Pair.Agree.simulates (h : p.Agree P t) (sched : ℕ → LinkEvent) (n : ℕ) :
    Link.Simulates (p.datagram P t) (p.ClientAt P t) (p.ServerAt P t)
      (after (FlightLink.step lost) (FlightLink.start lost) sched n)
      (after (p.step P lost) (p.start lost) sched n) := by
  induction n with
  | zero =>
    have hinit : Link.Simulates (p.datagram P t) (p.ClientAt P t) (p.ServerAt P t)
        (⟨.hello, .start, [], [], fun _ => 0⟩ : FlightLink)
        ⟨(Client.start p.client p.clientDraws).1, Server.init p.server, [], [], fun _ => 0⟩ :=
      ⟨rfl, rfl, rfl, rfl, rfl⟩
    exact hinit.fromClient (flight_datagram P p t) [.clientHello]
  | succ n ih =>
    have hinv : (after (FlightLink.step lost) (FlightLink.start lost) sched n).Inv lost :=
      inv_after (fun l e h => h.step e) (inv_start lost) n
    have horderly := hinv.orderly
    obtain ⟨hclient, hserver⟩ := reads_of_meets _ _ horderly.meet
    exact ih.step (flight_datagram P p t)
      (fun f hf => h.client_answers ih.client (hclient (horderly.toClient hf)))
      (fun f hf => h.server_answers ih.server (hserver (horderly.toServer hf)))
      (client_timeout ih.client) (server_timeout ih.server) (sched n)

end Link

/-! ## Which clients and servers get along -/

section Compatible

variable (P : Primitives) (p : Pair)

/-- What two ends with a pre-shared key settle on. -/
def Pair.pskTerms : Terms where
  suite := ⟨tlsPSKWithAES256GCMSHA384, .psk, 32, 4, .sha384⟩
  mid := [⟨handshakeServerKeyExchange, 2, marshalPSKIdentityHint []⟩]
  keyExchange := marshalPSKClientKeyExchange p.client.pskIdentity
  premaster := pskPremaster p.client.psk

/-- What the server signs. -/
def Pair.digest : Bytes :=
  signedDigest P p.clientDraws.random p.serverDraws.random
    (ecdheServerParams (P.ecdhPublic p.serverDraws.ecdheKey))

def certificateMsg (chain : List Bytes) : HandshakeMsg :=
  ⟨handshakeCertificate, 2, marshalCertificate chain⟩

def Pair.signedKeyMsg (key : Bytes) : HandshakeMsg :=
  ⟨handshakeServerKeyExchange, 3, marshalECDHEServerKeyExchange
    (ecdheServerParams (P.ecdhPublic p.serverDraws.ecdheKey)) (P.sign key (p.digest P))⟩

/-- What two ends settle on if the server has a certificate. -/
def Pair.ecdheTerms (chain : List Bytes) (key premaster : Bytes) : Terms where
  suite := ⟨tlsECDHEECDSAWithAES128GCMSHA256, .ecdhe, 16, 4, .sha256⟩
  mid := [certificateMsg chain, p.signedKeyMsg P key]
  keyExchange := marshalECDHEClientKeyExchange (P.ecdhPublic p.clientDraws.ecdheKey)
  premaster := premaster

/-- The two have the same pre-shared key; or the server has a certificate that the client accepts,
its key signs what the certificate verifies, and the two get the same secret from the curve. -/
inductive Pair.SettlesOn : Terms → Prop
  | psk (hpsk : p.client.psk ≠ []) (hsame : p.server.psk = p.client.psk)
      (hcert : p.server.certificate = none) : Pair.SettlesOn p.pskTerms
  | ecdhe {chain : List Bytes} {key premaster : Bytes} (hpsk : p.client.psk = [])
      (hcert : p.server.certificate = some ⟨chain, some key⟩) (hchain : chain ≠ [])
      (haccepted : verifyServerCertificate p.client chain = true)
      (hsigned : P.verify (chain.headD []) (p.digest P) (P.sign key (p.digest P)) = true)
      (hclient :
        P.ecdh p.clientDraws.ecdheKey (P.ecdhPublic p.serverDraws.ecdheKey) = some premaster)
      (hserver :
        P.ecdh p.serverDraws.ecdheKey (P.ecdhPublic p.clientDraws.ecdheKey) = some premaster)
      (hclientPublic : (P.ecdhPublic p.clientDraws.ecdheKey).length < 256)
      (hserverPublic : (P.ecdhPublic p.serverDraws.ecdheKey).length < 256) :
      Pair.SettlesOn (p.ecdheTerms P chain key premaster)

/-- A client and a server that complete their handshakes if nothing is lost.  A flight that does not
fit into one read is cut off. -/
structure Pair.Compatible (t : Terms) : Prop where
  sound : P.Sound
  clientRandom : p.clientDraws.random.length = randomLen
  serverRandom : p.serverDraws.random.length = randomLen
  sessionID : p.client.sessionID.length < 256
  notForced : p.server.forceSuite = 0
  settles : p.SettlesOn P t
  serverFits : (p.datagram P t .serverHello).bytes.length ≤ readBufLen
  clientFits : (p.datagram P t .clientKeyExchange).bytes.length ≤ readBufLen

variable {P p} {t : Terms}

lemma length_hello (hrandom : p.clientDraws.random.length = randomLen)
    (hsessionID : p.client.sessionID.length < 256) {cookie : Bytes} (hcookie : cookie.length ≤ 16) :
    (p.hello cookie).marshal.length ≤ 315 := by
  have hsuites : p.client.offeredSuites.length ≤ 2 := by
    unfold Config.offeredSuites
    split_ifs <;> decide
  simp only [hello, clientHello, ClientHello.marshal, length_append, length_cons,
    length_nil, length_putBE16, length_flatMap_putBE16, length_map, hrandom, randomLen]
  omega

/-- The flights with a hello in them always fit. -/
lemma Pair.Compatible.fits (h : p.Compatible P t) :
    ∀ f ∈ plainFlights, (p.datagram P t f).bytes.length ≤ readBufLen := by
  have hcookie : (p.cookie P).length ≤ 16 := length_cookie
  have hhello : ∀ {cookie : Bytes} (c : Conn) (f : Flight) (seq : ℕ), cookie.length ≤ 16 →
      (c.sendFlight f [⟨handshakeClientHello, seq, (p.hello cookie).marshal⟩]).2.bytes.length ≤
        readBufLen := by
    intro cookie c f seq hlen
    have hbody := length_hello h.clientRandom h.sessionID hlen
    have hsent := length_sendFlight_le c f ⟨handshakeClientHello, seq, (p.hello cookie).marshal⟩
    exact hsent.trans (show 25 + 26 * (p.hello cookie).marshal.length ≤ 16653 by omega)
  intro f hf
  simp only [plainFlights, mem_cons, not_mem_nil, or_false] at hf
  obtain rfl | rfl | rfl | rfl | rfl := hf
  · exact hhello _ _ _ (Nat.zero_le _)
  · have hbody : (p.helloVerifyMsg P).body.length ≤ 19 := by
      simp only [helloVerifyMsg, HelloVerifyRequest.marshal, length_append,
        length_cons, length_putBE16]
      omega
    have hsent := length_sendFlight_le { cfg := p.server } .helloVerifyRequest (p.helloVerifyMsg P)
    exact hsent.trans (show 25 + 26 * (p.helloVerifyMsg P).body.length ≤ 16653 by omega)
  · exact hhello _ _ _ hcookie
  · exact h.serverFits
  · exact h.clientFits

/-- Two ends with the same pre-shared key. -/
lemma agree_psk (h : p.Compatible P p.pskTerms) (hpsk : p.client.psk ≠ [])
    (hsame : p.server.psk = p.client.psk) (hcert : p.server.certificate = none) :
    p.Agree P p.pskTerms := by
  have hoffered : p.client.offeredSuites = pskSuites := if_neg hpsk
  have hserver : p.server.serverSuites = pskSuites := by
    rw [Config.serverSuites, hcert]
    rfl
  have hbody := body_le_sendFlight (p.clientConn2 P).1 .clientKeyExchange
    (mem_singleton_self p.pskTerms.clientKeyExchangeMsg)
  have hidentity : p.client.pskIdentity.length < 65536 := by
    have hlen : readBufLen < 65536 := by decide
    have hfits := hbody.trans h.clientFits
    simp only [Terms.clientKeyExchangeMsg, pskTerms, marshalPSKClientKeyExchange,
      length_append, length_putBE16] at hfits
    omega
  refine ⟨h.sound, h.clientRandom, h.serverRandom, h.sessionID, ?_, ?_, rfl, rfl, ?_, rfl, ?_, ?_,
    h.fits⟩
  · rw [selectSuite, h.notForced, hserver, hoffered]
    rfl
  · rw [hoffered]
    rfl
  · intro m hm
    exact Or.inr (by rw [mem_singleton.mp hm])
  · intro hs _ _
    exact if_neg hpsk
  · rw [serverKeyExchange]
    simp only [pskTerms, parsePSKClientKeyExchange_marshal hidentity, hsame]
    rfl

/-- Two ends of which the server has a certificate. -/
lemma agree_ecdhe {chain : List Bytes} {key premaster : Bytes}
    (h : p.Compatible P (p.ecdheTerms P chain key premaster)) (hpsk : p.client.psk = [])
    (hcert : p.server.certificate = some ⟨chain, some key⟩) (hchain : chain ≠ [])
    (haccepted : verifyServerCertificate p.client chain = true)
    (hsigned : P.verify (chain.headD []) (p.digest P) (P.sign key (p.digest P)) = true)
    (hclient : P.ecdh p.clientDraws.ecdheKey (P.ecdhPublic p.serverDraws.ecdheKey) = some premaster)
    (hserver : P.ecdh p.serverDraws.ecdheKey (P.ecdhPublic p.clientDraws.ecdheKey) = some premaster)
    (hclientPublic : (P.ecdhPublic p.clientDraws.ecdheKey).length < 256)
    (hserverPublic : (P.ecdhPublic p.serverDraws.ecdheKey).length < 256) :
    p.Agree P (p.ecdheTerms P chain key premaster) := by
  have hoffered : p.client.offeredSuites = ecdheSuites := if_pos hpsk
  have hsuites : p.server.serverSuites = ecdheSuites := by
    rw [Config.serverSuites, hcert]
    rfl
  let flight := p.serverFlight (p.ecdheTerms P chain key premaster)
  have hmid : ∀ m ∈ [certificateMsg chain, p.signedKeyMsg P key], m.body.length ≤ readBufLen := by
    intro m hm
    have hflight : m ∈ flight := mem_append_left _ (mem_cons_of_mem _ hm)
    exact (body_le_sendFlight (p.serverConn1 P).1 .serverHello hflight).trans h.serverFits
  have hchainLen : (marshalCertificate chain).length < 16777216 :=
    (hmid _ mem_cons_self).trans_lt (by decide)
  have hsigLen : (P.sign key (p.digest P)).length < 65536 := by
    have hlen : readBufLen < 65536 := by decide
    have hbody := hmid (p.signedKeyMsg P key) (mem_cons_of_mem _ mem_cons_self)
    simp only [signedKeyMsg, marshalECDHEServerKeyExchange, length_append, length_cons] at hbody
    omega
  have hparse := parseECDHEServerKeyExchange_marshal hserverPublic hsigLen
  refine ⟨h.sound, h.clientRandom, h.serverRandom, h.sessionID, ?_, ?_, ?_, rfl, ?_, rfl, ?_, ?_,
    h.fits⟩
  · rw [selectSuite, h.notForced, hsuites, hoffered]
    rfl
  · rw [hoffered]
    rfl
  · simp only [serverMid, ecdheTerms, hcert, bind_some, map_some]
    rfl
  · intro m hm
    obtain rfl | hm := mem_cons.mp hm
    · exact Or.inl rfl
    · obtain rfl := mem_singleton.mp hm
      exact Or.inr rfl
  · intro hs hclientRand hserverRand
    have hfindCert : findMsg flight handshakeCertificate = some (certificateMsg chain) := rfl
    have hfindKey : findMsg flight handshakeServerKeyExchange = some (p.signedKeyMsg P key) := rfl
    have hprocess : processServerECDHE P p.client flight hs =
        some ⟨P.ecdhPublic p.serverDraws.ecdheKey,
          ecdheServerParams (P.ecdhPublic p.serverDraws.ecdheKey), P.sign key (p.digest P)⟩ := by
      rw [processServerECDHE, hfindCert, bind_some, certificateMsg,
        parseCertificate_marshal hchain hchainLen, bind_some, if_pos haccepted, hfindKey,
        bind_some, signedKeyMsg, hparse, bind_some, hclientRand, hserverRand]
      exact if_pos hsigned
    simp only [flight, clientKeyExchange, ecdheTerms] at hprocess ⊢
    rw [hprocess, bind_some, hclient]
    rfl
  · rw [serverKeyExchange]
    simp only [ecdheTerms, parseECDHEClientKeyExchange_marshal hclientPublic, bind_some, hserver]

/-- **Ends that are compatible get along.** -/
lemma Pair.Compatible.agree (h : p.Compatible P t) : p.Agree P t := by
  cases h.settles with
  | psk hpsk hsame hcert => exact agree_psk h hpsk hsame hcert
  | ecdhe hpsk hcert hchain haccepted hsigned hclient hserver hclientPublic hserverPublic =>
    exact agree_ecdhe h hpsk hcert hchain haccepted hsigned hclient hserver hclientPublic
      hserverPublic

lemma Pair.Agree.completed_iff (h : p.Agree P t) (lost : Finset (Flight × ℕ))
    (sched : ℕ → LinkEvent) (n : ℕ) :
    Completed (after (p.step P lost) (p.start lost) sched n) ↔
      (after (FlightLink.step lost) (FlightLink.start lost) sched n).Completed := by
  have hsim := @Pair.Agree.simulates P p lost t h sched n
  exact and_congr (client_done hsim.client) (server_done hsim.server)

/-- **The handshake recovers** from the loss of any finite set of datagrams, in every fair schedule,
if and only if none of the ClientKeyExchange and the two Finished is lost. -/
theorem handshake_recovers_iff (P : Primitives) (p : Pair) (t : Terms) (hp : p.Compatible P t)
    (lost : Finset (Flight × ℕ)) (sched : ℕ → LinkEvent) (hfair : Fair sched) :
    (∃ n, Completed (after (p.step P lost) (p.start lost) sched n)) ↔ OnceSpared lost := by
  rw [← completes_iff lost hfair]
  exact exists_congr (hp.agree.completed_iff lost sched)

end Compatible

/-! ## A handshake that does not recover -/

/-- Primitives without any strength. -/
def plainPrimitives : Primitives where
  hmac _ _ _ := [1]
  hash _ _ := [2]
  aeadSeal _ _ plain _ := plain ++ List.replicate aeadOverhead 0
  aeadOpen _ _ sealed _ := some (sealed.take (sealed.length - aeadOverhead))
  ecdhPublic key := key
  ecdh _ _ := some [3]
  sign _ _ := [4]
  verify _ _ _ := true

lemma sound_plainPrimitives : plainPrimitives.Sound where
  hmac _ _ _ := cons_ne_nil _ _
  opens _ _ plain _ := by simp [plainPrimitives]
  overhead _ _ plain _ := by simp [plainPrimitives]

/-- A client and a server with the same key. -/
def pskPair : Pair where
  client := { psk := [5, 6], pskIdentity := [7] }
  server := { psk := [5, 6] }
  clientDraws := ⟨List.replicate 32 8, []⟩
  serverDraws := ⟨[9], [10], List.replicate 32 11, []⟩

lemma compatible_pskPair : pskPair.Compatible plainPrimitives pskPair.pskTerms where
  sound := sound_plainPrimitives
  clientRandom := rfl
  serverRandom := rfl
  sessionID := by decide
  notForced := rfl
  settles := .psk (by decide) rfl rfl
  serverFits := by decide
  clientFits := by decide

/-- One event after the other. -/
def roundRobin (n : ℕ) : LinkEvent :=
  match n % 4 with
  | 0 => .clientTimeout
  | 1 => .serverTimeout
  | 2 => .clientReads
  | _ => .serverReads

lemma fair_roundRobin : Fair roundRobin := by
  have hround : ∀ n k, k < 4 → roundRobin (4 * n + k) = roundRobin k := by
    intro n k hk
    rw [roundRobin, roundRobin, Nat.mul_add_mod]
  intro e n
  cases e with
  | clientTimeout => exact ⟨4 * n + 0, by omega, hround n 0 (by decide)⟩
  | serverTimeout => exact ⟨4 * n + 1, by omega, hround n 1 (by decide)⟩
  | clientReads => exact ⟨4 * n + 2, by omega, hround n 2 (by decide)⟩
  | serverReads => exact ⟨4 * n + 3, by omega, hround n 3 (by decide)⟩

/-- Hellos of both ends are lost several times, and either ChangeCipherSpec. -/
def lostHellos : Finset (Flight × ℕ) :=
  {(.clientHello, 0), (.clientHello, 1), (.helloVerifyRequest, 0), (.clientHelloCookie, 0),
    (.serverHello, 0), (.serverHello, 2), (.clientChangeCipherSpec, 0),
    (.serverChangeCipherSpec, 0)}

theorem handshake_recovers_lostHellos : ∃ n, Completed
    (after (pskPair.step plainPrimitives lostHellos) (pskPair.start lostHellos) roundRobin n) :=
  (handshake_recovers_iff plainPrimitives pskPair pskPair.pskTerms compatible_pskPair lostHellos
    roundRobin fair_roundRobin).mpr (by decide)

lemma not_completed_of_lost {f : Flight}
    (hf : f ∈ [Flight.clientKeyExchange, .clientFinished, .serverFinished]) : ¬ ∃ n, Completed
      (after (pskPair.step plainPrimitives {(f, 0)}) (pskPair.start {(f, 0)}) roundRobin n) := by
  rw [exists_congr (compatible_pskPair.agree.completed_iff {(f, 0)} roundRobin),
    completes_iff _ fair_roundRobin]
  revert f
  decide

/-- **One lost datagram is enough.**  The ClientKeyExchange, the client's Finished or the server's
Finished is lost, and the handshake never completes. -/
theorem lost_once_never_completes :
    (¬ ∃ n, Completed (after (pskPair.step plainPrimitives {(.clientKeyExchange, 0)})
      (pskPair.start {(.clientKeyExchange, 0)}) roundRobin n)) ∧
    (¬ ∃ n, Completed (after (pskPair.step plainPrimitives {(.clientFinished, 0)})
      (pskPair.start {(.clientFinished, 0)}) roundRobin n)) ∧
    ¬ ∃ n, Completed (after (pskPair.step plainPrimitives {(.serverFinished, 0)})
      (pskPair.start {(.serverFinished, 0)}) roundRobin n) :=
  ⟨not_completed_of_lost (by decide), not_completed_of_lost (by decide),
    not_completed_of_lost (by decide)⟩

end Veepin.Dtls
