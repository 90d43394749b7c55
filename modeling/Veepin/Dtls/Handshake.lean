import Veepin.Dtls.Flights
import Veepin.Dtls.Messages

/-!
# The DTLS handshake

The model of `clientHandshake` and `serverHandshake` (`internal/dtls/client.go`, `server.go`), with
the plumbing of `conn.go`, the key schedule of `prf.go` and the protection of records in
`record.go`.

Both functions are a sequence of sends and of calls of `readFlight`, each of which is a state of the
machine here: `receive` says what a datagram that arrives leads to, up to the next call, and
`timeout` what is sent again when nothing arrives in time.  The ciphers, the hashes, the curve and
the certificates are parameters, and what is drawn at random is given.
-/

namespace Veepin.Dtls

/-! ## Suites and keys -/

inductive KeyExchange
  | psk
  | ecdhe
  deriving DecidableEq, Repr

inductive HashID
  | sha256
  | sha384
  deriving DecidableEq, Repr

structure Suite where
  id : ℕ
  kx : KeyExchange
  keyLen : ℕ
  ivLen : ℕ
  prfHash : HashID
  deriving DecidableEq, Repr

def tlsPSKWithAES256GCMSHA384 : ℕ := 0x00a9
def tlsPSKWithAES128GCMSHA256 : ℕ := 0x00a8
def tlsECDHEECDSAWithAES128GCMSHA256 : ℕ := 0xc02b

def pskSuites : List Suite :=
  [⟨tlsPSKWithAES256GCMSHA384, .psk, 32, 4, .sha384⟩,
    ⟨tlsPSKWithAES128GCMSHA256, .psk, 16, 4, .sha256⟩]

def ecdheSuites : List Suite := [⟨tlsECDHEECDSAWithAES128GCMSHA256, .ecdhe, 16, 4, .sha256⟩]

def offered (list : List Suite) (id : ℕ) : Option Suite := list.find? fun s => s.id = id

/-- What the handshake takes from the standard library. -/
structure Primitives where
  hmac : HashID → Bytes → Bytes → Bytes
  hash : HashID → Bytes → Bytes
  /-- `Seal` of AES-GCM, from the key, the nonce, the plaintext and the additional data. -/
  aeadSeal : Bytes → Bytes → Bytes → Bytes → Bytes
  aeadOpen : Bytes → Bytes → Bytes → Bytes → Option Bytes
  /-- The public point of a private key, and the secret that it shares with another point. -/
  ecdhPublic : Bytes → Bytes
  ecdh : Bytes → Bytes → Option Bytes
  sign : Bytes → Bytes → Bytes
  /-- The leaf certificate can be read, holds an ECDSA key, and this key verifies the signature. -/
  verify : Bytes → Bytes → Bytes → Bool

def masterSecretLen : ℕ := 48
def verifyDataLen : ℕ := 12
def explicitNonceLen : ℕ := 8
def aeadOverhead : ℕ := 16

/-- The octets of a label. -/
def label (s : String) : Bytes := s.toList.map fun c => UInt8.ofNat c.toNat

def labelClientFinished : Bytes := label "client finished"
def labelServerFinished : Bytes := label "server finished"

section Keys

variable (P : Primitives)

/-- The loop of `prf`.  Each round adds at least one octet, so `n` rounds are enough. -/
def prfLoop (h : HashID) (secret full : Bytes) (n : ℕ) : ℕ → Bytes → Bytes → Bytes
  | 0, _, out => out
  | fuel + 1, a, out =>
    if out.length < n then
      prfLoop h secret full n fuel (P.hmac h secret a)
        (out ++ P.hmac h secret (P.hmac h secret a ++ full))
    else out

def prf (h : HashID) (secret label seed : Bytes) (n : ℕ) : Bytes :=
  (prfLoop P h secret (label ++ seed) n n (label ++ seed) []).take n

def pskPremaster (psk : Bytes) : Bytes :=
  putBE16 psk.length ++ List.replicate psk.length 0 ++ putBE16 psk.length ++ psk

def masterSecret (h : HashID) (premaster clientRandom serverRandom : Bytes) : Bytes :=
  prf P h premaster (label "master secret") (clientRandom ++ serverRandom) masterSecretLen

/-- `aeadState`.  The keys of a suite have the lengths that AES takes, so `newAEAD` does not
fail. -/
structure Aead where
  key : Bytes
  salt : Bytes
  deriving DecidableEq, Repr

/-- `expandKeys`, with `newAEAD`: what the client and what the server seals with. -/
def expandKeys (s : Suite) (master clientRandom serverRandom : Bytes) : Aead × Aead :=
  let block := prf P s.prfHash master (label "key expansion") (serverRandom ++ clientRandom)
    (2 * s.keyLen + 2 * s.ivLen)
  (⟨block.take s.keyLen, (block.drop (2 * s.keyLen)).take s.ivLen⟩,
    ⟨(block.drop s.keyLen).take s.keyLen, (block.drop (2 * s.keyLen + s.ivLen)).take s.ivLen⟩)

def finishedVerifyData (s : Suite) (master label transcript : Bytes) : Bytes :=
  prf P s.prfHash master label (P.hash s.prfHash transcript) verifyDataLen

/-- `putAAD`. -/
def aad (typ : UInt8) (version epoch seq length : ℕ) : Bytes :=
  putBE16 epoch ++ putBE48 seq ++ [typ] ++ putBE16 version ++ putBE16 length

def Aead.seal (a : Aead) (typ : UInt8) (version epoch seq : ℕ) (plaintext : Bytes) : Bytes :=
  let explicit := putBE16 epoch ++ putBE48 seq
  explicit ++ P.aeadSeal a.key (a.salt ++ explicit) plaintext
    (aad typ version epoch seq plaintext.length)

def Aead.open (a : Aead) (r : Record) : Option Bytes :=
  if r.fragment.length < explicitNonceLen + aeadOverhead then none
  else
    P.aeadOpen a.key (a.salt ++ r.fragment.take explicitNonceLen) (r.fragment.drop explicitNonceLen)
      (aad r.typ r.version r.epoch r.sequence
        ((r.fragment.drop explicitNonceLen).length - aeadOverhead))

end Keys

/-! ## The connection -/

/-- A certificate chain; the key is there if it can sign. -/
structure Certificate where
  chain : List Bytes
  key : Option Bytes
  deriving DecidableEq, Repr

/-- `Config`.  `rootsVerify` stands for the verification of a chain against `RootCAs` and
`ServerName`. -/
structure Config where
  psk : Bytes := []
  pskIdentity : Bytes := []
  sessionID : Bytes := []
  certificate : Option Certificate := none
  insecureSkipVerify : Bool := false
  verifyPeerCertificate : Option (List Bytes → Bool) := none
  serverName : String := ""
  rootsVerify : List Bytes → Bool := fun _ => false
  mtu : ℕ := 0
  forceSuite : ℕ := 0

def defaultMTU : ℕ := 1200

/-- `Conn`, as far as the handshake uses it. -/
structure Conn where
  cfg : Config
  writeSeq : ℕ := 0
  writeEp : ℕ := 0
  out : Option Aead := none
  read : Option Aead := none
  readEp : ℕ := 0
  replay : ReplayWindow := {}
  deferred : List Record := []

structure HandshakeState where
  transcript : Bytes := []
  sendSeq : ℕ := 0
  reasm : Reassembler := newReassembler
  clientRand : Bytes := []
  serverRand : Bytes := []

def HandshakeState.record (hs : HandshakeState) (m : HandshakeMsg) : HandshakeState :=
  { hs with transcript := hs.transcript ++ m.marshal }

/-- A datagram, with the flight that it is. -/
structure Datagram where
  flight : Flight
  bytes : Bytes
  deriving DecidableEq, Repr

def Config.offeredSuites (cfg : Config) : List Suite :=
  if cfg.psk = [] then ecdheSuites else pskSuites

def Config.serverSuites (cfg : Config) : List Suite :=
  if cfg.certificate.isSome then ecdheSuites else pskSuites

/-- `mtu`. -/
def Config.mtuOrDefault (cfg : Config) : ℕ := if 0 < cfg.mtu then cfg.mtu else defaultMTU

/-- The records of a flight, numbered from `seq` on. -/
def flightRecords (seq : ℕ) (frags : List Bytes) : List Record :=
  frags.mapIdx fun i frag => ⟨recordHandshake, version12, 0, seq + i, frag⟩

def Conn.sendFlight (c : Conn) (flight : Flight) (msgs : List HandshakeMsg) : Conn × Datagram :=
  let frags := flightFragments (c.cfg.mtuOrDefault - recordHeaderLen) msgs
  ({ c with writeSeq := c.writeSeq + frags.length },
    ⟨flight, (flightRecords c.writeSeq frags).flatMap Record.encode⟩)

def Conn.changeCipherSpec (c : Conn) (flight : Flight) (out : Aead) : Conn × Datagram :=
  ({ c with writeEp := (c.writeEp + 1) % 65536, writeSeq := 0, out := some out },
    ⟨flight, Record.encode ⟨recordChangeCipherSpec, version12, c.writeEp, c.writeSeq, [1]⟩⟩)

def Conn.sendEncryptedHandshake (P : Primitives) (c : Conn) (flight : Flight) (m : HandshakeMsg) :
    Option (Conn × Datagram) :=
  c.out.map fun out =>
    ({ c with writeSeq := c.writeSeq + 1 },
      ⟨flight, Record.encode ⟨recordHandshake, version12, c.writeEp, c.writeSeq,
        out.seal P recordHandshake version12 c.writeEp c.writeSeq m.marshal⟩⟩)

def Conn.installReadKeys (c : Conn) (read : Aead) : Conn :=
  { c with read := some read, readEp := (c.readEp + 1) % 65536, replay := {} }

def handshakeClientHello : UInt8 := 1
def handshakeServerHello : UInt8 := 2
def handshakeHelloVerifyReq : UInt8 := 3
def handshakeCertificate : UInt8 := 11
def handshakeServerKeyExchange : UInt8 := 12
def handshakeServerHelloDone : UInt8 := 14
def handshakeClientKeyExchange : UInt8 := 16
def handshakeFinished : UInt8 := 20
def pseudoChangeCipherSpec : UInt8 := 0xff

def findMsg (msgs : List HandshakeMsg) (typ : UInt8) : Option HandshakeMsg :=
  msgs.find? fun m => m.typ = typ

def dispatchRecord (r : Reassembler) (typ : UInt8) (payload : Bytes) :
    Option (Reassembler × List HandshakeMsg) :=
  if typ = recordChangeCipherSpec then some (r, [⟨pseudoChangeCipherSpec, 0, []⟩])
  else if typ = recordAlert then
    if 2 ≤ payload.length ∧ payload.getD 0 0 = alertFatal then none else some (r, [])
  else if typ = recordHandshake then r.acceptAll payload.length payload
  else some (r, [])

/-- What the reading of records changes. -/
structure ReadSide where
  conn : Conn
  reasm : Reassembler

/-- One record in the loop of `consumeHandshake`. -/
def ReadSide.consume (P : Primitives) (s : ReadSide) (r : Record) :
    Option (ReadSide × List HandshakeMsg) :=
  if r.epoch = 0 then
    (dispatchRecord s.reasm r.typ r.fragment).map fun q => (⟨s.conn, q.1⟩, q.2)
  else
    match s.conn.read with
    | none => some (⟨{ s.conn with deferred := s.conn.deferred ++ [r] }, s.reasm⟩, [])
    | some read =>
      match s.conn.replay.check r.sequence with
      | none => some (s, [])
      | some replay =>
        (read.open P r).bind fun payload =>
          (dispatchRecord s.reasm r.typ payload).map fun q =>
            (⟨{ s.conn with replay }, q.1⟩, q.2)

def ReadSide.consumeAll (P : Primitives) (s : ReadSide) :
    List Record → Option (ReadSide × List HandshakeMsg)
  | [] => some (s, [])
  | r :: rs => collect (s.consume P r) fun s => s.consumeAll P rs

/-- `consumeHandshake`; `none` is an error, after which the handshake fails. -/
def ReadSide.consumeHandshake (P : Primitives) (s : ReadSide) (buf : Bytes) :
    Option (ReadSide × List HandshakeMsg) :=
  s.consumeAll P (records buf)

/-- One record in the loop of `drainDeferred`. -/
def ReadSide.consumeDeferred (P : Primitives) (read : Aead) (s : ReadSide) (r : Record) :
    Option (ReadSide × List HandshakeMsg) :=
  match s.conn.replay.check r.sequence with
  | none => some (s, [])
  | some replay =>
    (read.open P r).bind fun payload =>
      (dispatchRecord s.reasm r.typ payload).map fun q => (⟨{ s.conn with replay }, q.1⟩, q.2)

def ReadSide.drain (P : Primitives) (read : Aead) (s : ReadSide) :
    List Record → Option (ReadSide × List HandshakeMsg)
  | [] => some (s, [])
  | r :: rs => collect (s.consumeDeferred P read r) fun s => s.drain P read rs

/-- `drainDeferred`, which comes right after `installReadKeys`. -/
def ReadSide.drainDeferred (P : Primitives) (read : Aead) (s : ReadSide) :
    Option (ReadSide × List HandshakeMsg) :=
  (s.drain P read s.conn.deferred).map fun q => (⟨{ q.1.conn with deferred := [] }, q.1.reasm⟩, q.2)

/-- A call of `readFlight` that waits. -/
structure Waiting where
  conn : Conn
  hs : HandshakeState
  lastFlight : Option Datagram
  collected : List HandshakeMsg

/-- A datagram arrives; `none` is an error. -/
def Waiting.receive (P : Primitives) (w : Waiting) (d : Datagram) : Option Waiting :=
  (ReadSide.consumeHandshake P ⟨w.conn, w.hs.reasm⟩ (d.bytes.take readBufLen)).map fun q =>
    { w with conn := q.1.conn, hs := { w.hs with reasm := q.1.reasm },
             collected := w.collected ++ q.2 }

/-- What is sent when the read times out. -/
def Waiting.timeout (w : Waiting) : List Datagram := w.lastFlight.toList

/-! ## The client -/

/-- What the client draws. -/
structure ClientDraws where
  random : Bytes
  ecdheKey : Bytes

/-- Where the client is: the calls of `readFlight`, and what its local variables hold there. -/
inductive Client
  | hello (w : Waiting) (ch : ClientHello) (msg : HandshakeMsg)
  | cookie (w : Waiting) (msg : HandshakeMsg)
  | finishing (w : Waiting) (suite : Suite) (master : Bytes)
  | done (conn : Conn)
  | failed

section Client

variable (P : Primitives) (cfg : Config) (draws : ClientDraws)

/-- The ClientHello, at first with no cookie. -/
def clientHello (cookie : Bytes) : ClientHello :=
  ⟨version12, draws.random, cfg.sessionID, cookie, cfg.offeredSuites.map Suite.id⟩

/-- `clientHandshake`, up to the first read. -/
def Client.start : Client × List Datagram :=
  let hello := clientHello cfg draws []
  let msg : HandshakeMsg := ⟨handshakeClientHello, 0, hello.marshal⟩
  let sent := Conn.sendFlight { cfg } .clientHello [msg]
  (.hello ⟨sent.1, { sendSeq := 1, clientRand := draws.random }, some sent.2, []⟩ hello msg,
    [sent.2])

def verifyServerCertificate (chain : List Bytes) : Bool :=
  (match cfg.verifyPeerCertificate with
    | some verify => verify chain
    | none => true) &&
  (cfg.insecureSkipVerify ||
    (!(cfg.serverName = "" && cfg.verifyPeerCertificate.isNone) && cfg.rootsVerify chain))

/-- What a ServerKeyExchange signs. -/
def signedDigest (clientRand serverRand params : Bytes) : Bytes :=
  P.hash .sha256 (clientRand ++ serverRand ++ params)

def processServerECDHE (got : List HandshakeMsg) (hs : HandshakeState) :
    Option ServerKeyExchangeECDHE :=
  (findMsg got handshakeCertificate).bind fun certMsg =>
    (parseCertificate certMsg.body).bind fun chain =>
      if verifyServerCertificate cfg chain then
        (findMsg got handshakeServerKeyExchange).bind fun skeMsg =>
          (parseECDHEServerKeyExchange skeMsg.body).bind fun ske =>
            if P.verify (chain.headD []) (signedDigest P hs.clientRand hs.serverRand ske.params)
              ske.signature then some ske
            else none
      else none

/-- The body of the ClientKeyExchange, and the premaster secret. -/
def clientKeyExchange (s : Suite) (got : List HandshakeMsg) (hs : HandshakeState) :
    Option (Bytes × Bytes) :=
  match s.kx with
  | .ecdhe =>
    (processServerECDHE P cfg got hs).bind fun ske =>
      (P.ecdh draws.ecdheKey ske.pubkey).map fun premaster =>
        (marshalECDHEClientKeyExchange (P.ecdhPublic draws.ecdheKey), premaster)
  | .psk =>
    if cfg.psk = [] then none
    else some (marshalPSKClientKeyExchange cfg.pskIdentity, pskPremaster cfg.psk)

/-- The messages of the server's flight are recorded in the order in which they are sent. -/
def HandshakeState.recordFlight (hs : HandshakeState) (got : List HandshakeMsg) : HandshakeState :=
  ([handshakeServerHello, handshakeCertificate, handshakeServerKeyExchange,
    handshakeServerHelloDone].filterMap (findMsg got)).foldl HandshakeState.record hs

namespace Client

/-- The client's last flight: ClientKeyExchange, ChangeCipherSpec and Finished, each a datagram. -/
def finish (c : Conn) (hs : HandshakeState) (s : Suite) (kx : Bytes × Bytes) :
    Option (Client × List Datagram) :=
  let cke : HandshakeMsg := ⟨handshakeClientKeyExchange, hs.sendSeq, kx.1⟩
  let hs := { hs with sendSeq := hs.sendSeq + 1 }.record cke
  let master := masterSecret P s.prfHash kx.2 hs.clientRand hs.serverRand
  let keys := expandKeys P s master hs.clientRand hs.serverRand
  let fin : HandshakeMsg := ⟨handshakeFinished, hs.sendSeq,
    finishedVerifyData P s master labelClientFinished hs.transcript⟩
  let hs := { hs with sendSeq := hs.sendSeq + 1 }.record fin
  let sentKey := c.sendFlight .clientKeyExchange [cke]
  let sentChange := sentKey.1.changeCipherSpec .clientChangeCipherSpec keys.1
  (sentChange.1.sendEncryptedHandshake P .clientFinished fin).map fun sentFin =>
    (.finishing ⟨sentFin.1.installReadKeys keys.2, hs, none, []⟩ s master,
      [sentKey.2, sentChange.2, sentFin.2])

/-- The server's hello has come. -/
def helloAnswered (c : Conn) (hs : HandshakeState) (msg : HandshakeMsg)
    (got : List HandshakeMsg) : Option (Client × List Datagram) :=
  (findMsg got handshakeServerHello).bind fun sh =>
    (parseServerHello sh.body).bind fun hello =>
      if hello.version ≠ version12 then none
      else
        (offered cfg.offeredSuites hello.cipherSuite).bind fun s =>
          let hs :=
            ({ hs.record msg with serverRand := hello.random } : HandshakeState).recordFlight got
          (clientKeyExchange P cfg draws s got hs).bind fun kx => finish P c hs s kx

/-- The HelloVerifyRequest has come: the ClientHello is sent once more, with the cookie. -/
def helloVerified (c : Conn) (hs : HandshakeState) (hello : ClientHello) (hvr : HandshakeMsg) :
    Option (Client × List Datagram) :=
  (parseHelloVerifyRequest hvr.body).map fun verify =>
    let msg : HandshakeMsg :=
      ⟨handshakeClientHello, hs.sendSeq, ClientHello.marshal { hello with cookie := verify.cookie }⟩
    let sent := c.sendFlight .clientHelloCookie [msg]
    (.cookie ⟨sent.1, { hs with sendSeq := hs.sendSeq + 1 }, some sent.2, []⟩ msg, [sent.2])

/-- An error ends the handshake. -/
def orFailed (x : Option (Client × List Datagram)) : Client × List Datagram :=
  x.getD (.failed, [])

/-- A datagram arrives. -/
def receive (client : Client) (d : Datagram) : Client × List Datagram :=
  match client with
  | .hello w ch msg => orFailed <| (w.receive P d).bind fun w =>
    match findMsg w.collected handshakeHelloVerifyReq with
    | some hvr => helloVerified w.conn w.hs ch hvr
    | none =>
      if (findMsg w.collected handshakeServerHelloDone).isSome then
        helloAnswered P cfg draws w.conn w.hs msg w.collected
      else some (.hello w ch msg, [])
  | .cookie w msg => orFailed <| (w.receive P d).bind fun w =>
    if (findMsg w.collected handshakeServerHelloDone).isSome then
      helloAnswered P cfg draws w.conn w.hs msg w.collected
    else some (.cookie w msg, [])
  | .finishing w s master => orFailed <| (w.receive P d).bind fun w =>
    match findMsg w.collected handshakeFinished with
    | some fin =>
      if finishedVerifyData P s master labelServerFinished w.hs.transcript = fin.body then
        some (.done w.conn, [])
      else none
    | none => some (.finishing w s master, [])
  | .done c => (.done c, [])
  | .failed => (.failed, [])

/-- A read times out. -/
def timeout : Client → List Datagram
  | .hello w _ _ => w.timeout
  | .cookie w _ => w.timeout
  | .finishing w _ _ => w.timeout
  | .done _ => []
  | .failed => []

end Client

end Client

/-! ## The server -/

/-- What the server draws, and the address of its peer. -/
structure ServerDraws where
  cookieSecret : Bytes
  peer : Bytes
  random : Bytes
  ecdheKey : Bytes

/-- Where the server is. -/
inductive Server
  | start (w : Waiting)
  | verifying (w : Waiting)
  | keyExchange (w : Waiting) (suite : Suite)
  | finishing (w : Waiting) (suite : Suite) (master : Bytes) (write : Aead)
  | done (conn : Conn)
  | failed

section Server

variable (P : Primitives) (cfg : Config) (draws : ServerDraws)

def cookieMAC (secret addr : Bytes) : Bytes := (P.hmac .sha256 secret addr).take 16

def serverCookie : Bytes := cookieMAC P draws.cookieSecret draws.peer

/-- `serverHandshake`, up to the first read. -/
def Server.init : Server := .start ⟨{ cfg }, {}, none, []⟩

def selectSuite (ids : List ℕ) : Option Suite :=
  ((if cfg.forceSuite ≠ 0 then (pskSuites ++ ecdheSuites).find? fun s => s.id = cfg.forceSuite
    else none) <|> cfg.serverSuites.find? fun s => s.id ∈ ids)

/-- The messages between ServerHello and ServerHelloDone, numbered from `seq` on. -/
def serverMid (s : Suite) (seq : ℕ) (clientRand : Bytes) : Option (List HandshakeMsg) :=
  match s.kx with
  | .ecdhe =>
    cfg.certificate.bind fun cert =>
      cert.key.map fun key =>
        let params := ecdheServerParams (P.ecdhPublic draws.ecdheKey)
        [⟨handshakeCertificate, seq, marshalCertificate cert.chain⟩,
          ⟨handshakeServerKeyExchange, seq + 1, marshalECDHEServerKeyExchange params
            (P.sign key (signedDigest P clientRand draws.random params))⟩]
  | .psk => some [⟨handshakeServerKeyExchange, seq, marshalPSKIdentityHint []⟩]

/-- The ClientHello is accepted: ServerHello to ServerHelloDone. -/
def Server.answerHello (c : Conn) (hs : HandshakeState) (chMsg : HandshakeMsg) (ch : ClientHello) :
    Option (Server × List Datagram) :=
  (selectSuite cfg ch.cipherSuites).bind fun s =>
    let sh : HandshakeMsg := ⟨handshakeServerHello, hs.sendSeq,
      ServerHello.marshal ⟨version12, draws.random, ch.sessionID, s.id⟩⟩
    (serverMid P cfg draws s (hs.sendSeq + 1) ch.random).map fun mid =>
      let shd : HandshakeMsg := ⟨handshakeServerHelloDone, hs.sendSeq + 1 + mid.length, []⟩
      let flight := sh :: mid ++ [shd]
      let sent := c.sendFlight .serverHello flight
      let hs := flight.foldl HandshakeState.record
        { hs.record chMsg with
          clientRand := ch.random
          serverRand := draws.random
          sendSeq := hs.sendSeq + 1 + mid.length + 1 }
      (.keyExchange ⟨sent.1, hs, some sent.2, []⟩ s, [sent.2])

/-- The first ClientHello: a HelloVerifyRequest is sent if it has no valid cookie. -/
def Server.hello (c : Conn) (hs : HandshakeState) (chMsg : HandshakeMsg) :
    Option (Server × List Datagram) :=
  (parseClientHello chMsg.body).bind fun ch =>
    if ch.cookie = serverCookie P draws then Server.answerHello P cfg draws c hs chMsg ch
    else
      let hvr : HandshakeMsg := ⟨handshakeHelloVerifyReq, hs.sendSeq,
        HelloVerifyRequest.marshal ⟨version12, serverCookie P draws⟩⟩
      let sent := c.sendFlight .helloVerifyRequest [hvr]
      -- the second ClientHello has the next number
      let hs := { hs with sendSeq := hs.sendSeq + 1, reasm := ⟨(chMsg.seq + 1) % 65536, ∅⟩ }
      some (.verifying ⟨sent.1, hs, some sent.2, []⟩, [sent.2])

/-- The ClientHello with the cookie. -/
def Server.helloCookie (c : Conn) (hs : HandshakeState) (chMsg : HandshakeMsg) :
    Option (Server × List Datagram) :=
  (parseClientHello chMsg.body).bind fun ch =>
    if ch.cookie = serverCookie P draws then Server.answerHello P cfg draws c hs chMsg ch else none

/-- The premaster secret, from the body of the ClientKeyExchange. -/
def serverKeyExchange (s : Suite) (body : Bytes) : Option Bytes :=
  match s.kx with
  | .ecdhe => (parseECDHEClientKeyExchange body).bind fun pub => P.ecdh draws.ecdheKey pub
  | .psk => (parsePSKClientKeyExchange body).map fun _ => pskPremaster cfg.psk

namespace Server

/-- The client's Finished has come: it is checked, and ChangeCipherSpec and Finished are sent. -/
def finish (c : Conn) (hs : HandshakeState) (s : Suite) (master : Bytes) (write : Aead)
    (clientFin : HandshakeMsg) : Option (Server × List Datagram) :=
  if finishedVerifyData P s master labelClientFinished hs.transcript = clientFin.body then
    let hs := hs.record clientFin
    let sentChange := c.changeCipherSpec .serverChangeCipherSpec write
    let fin : HandshakeMsg := ⟨handshakeFinished, hs.sendSeq,
      finishedVerifyData P s master labelServerFinished hs.transcript⟩
    (sentChange.1.sendEncryptedHandshake P .serverFinished fin).map fun sentFin =>
      (.done sentFin.1, [sentChange.2, sentFin.2])
  else none

/-- The ClientKeyExchange has come: the keys are there, and a Finished that was held is read. -/
def keysReady (w : Waiting) (s : Suite) (cke : HandshakeMsg) :
    Option (Server × List Datagram) :=
  (serverKeyExchange P cfg draws s cke.body).bind fun premaster =>
    let hs := w.hs.record cke
    let master := masterSecret P s.prfHash premaster hs.clientRand hs.serverRand
    let keys := expandKeys P s master hs.clientRand hs.serverRand
    (ReadSide.drainDeferred P keys.1 ⟨w.conn.installReadKeys keys.1, hs.reasm⟩).bind fun q =>
      let hs := { hs with reasm := q.1.reasm }
      match findMsg q.2 handshakeFinished with
      | some clientFin => finish P q.1.conn hs s master keys.2 clientFin
      | none => some (.finishing ⟨q.1.conn, hs, w.lastFlight, []⟩ s master keys.2, [])

def orFailed (x : Option (Server × List Datagram)) : Server × List Datagram :=
  x.getD (.failed, [])

/-- A datagram arrives. -/
def receive (server : Server) (d : Datagram) : Server × List Datagram :=
  match server with
  | .start w => orFailed <| (w.receive P d).bind fun w =>
    match findMsg w.collected handshakeClientHello with
    | some chMsg => hello P cfg draws w.conn w.hs chMsg
    | none => some (.start w, [])
  | .verifying w => orFailed <| (w.receive P d).bind fun w =>
    match findMsg w.collected handshakeClientHello with
    | some chMsg => helloCookie P cfg draws w.conn w.hs chMsg
    | none => some (.verifying w, [])
  | .keyExchange w s => orFailed <| (w.receive P d).bind fun w =>
    match findMsg w.collected handshakeClientKeyExchange with
    | some cke => keysReady P cfg draws w s cke
    | none => some (.keyExchange w s, [])
  | .finishing w s master write => orFailed <| (w.receive P d).bind fun w =>
    match findMsg w.collected handshakeFinished with
    | some clientFin => finish P w.conn w.hs s master write clientFin
    | none => some (.finishing w s master write, [])
  | .done c => (.done c, [])
  | .failed => (.failed, [])

/-- A read times out. -/
def timeout : Server → List Datagram
  | .start w => w.timeout
  | .verifying w => w.timeout
  | .keyExchange w _ => w.timeout
  | .finishing w _ _ _ => w.timeout
  | .done _ => []
  | .failed => []

end Server

end Server

end Veepin.Dtls
