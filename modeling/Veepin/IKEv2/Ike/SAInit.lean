import Veepin.Dataplane.Admission
import Veepin.IKEv2.Cookie
import Veepin.IKEv2.Ike.Session

/-!
# The responder, and IKE_SA_INIT

The state of the responder (`Server` in `internal/ikev2/ike/server.go`) and the handler of the one
unprotected exchange (`sa_init.go`): cookie and admission gate, choice of a suite, Diffie-Hellman,
NAT detection, the additional key exchange, key derivation.
-/

namespace Veepin.IKE

variable (c : Crypto) {P : Type}

/-! ## The responder -/

/-- `Server`.  `created` counts the SAs created so far. -/
structure Server (P : Type) where
  cfg : Config P
  gate : Gate
  cookies : CookieJar Bytes
  byRSPI : AList (fun _ : ℕ => IKESA) := ∅
  pools : P
  created : ℕ := 0

/-- `NewServer`, after its checks of the configuration.  The jar draws its first secret. -/
def newServer (cfg : Config P) (pools : P) (secret : Option Bytes) (now : ℤ) : Server P :=
  { cfg, pools
    gate := newGate {} now
    cookies := newCookieJar (List.replicate 32 0) secret now }

def Server.storeSA (s : Server P) (sa : IKESA) : Server P :=
  { s with byRSPI := s.byRSPI.insert sa.responderSPI sa }

/-- One received datagram, with the surroundings it is handled in. -/
structure Datagram where
  pkt : Bytes
  remote : UDPAddr
  on4500 : Bool
  env : Env

/-- One datagram sent. -/
structure Sent where
  pkt : Bytes
  remote : UDPAddr
  on4500 : Bool
  deriving DecidableEq, Repr

/-- What handling a datagram leads to. -/
structure Turn (P : Type) where
  server : Server P
  sent : List Sent := []
  effects : List Effect := []

/-- Nothing happens. -/
def Server.ignore (s : Server P) : Turn P := { server := s }

/-! ## Unprotected answers -/

/-- An unprotected message. -/
def buildMessage (hdr : Header) (payloads : List RawPayload) : Bytes :=
  let chain := (build payloads).buf
  { hdr with
    nextPayload := (build payloads).firstType, version := 0x20
    length := headerLen + chain.length : Header }.marshal ++ chain

/-- `sendUnauthNotifyData`. -/
def unauthNotify (req : Header) (nt : ℕ) (data : Bytes) : Bytes :=
  buildMessage
    { initiatorSPI := req.initiatorSPI, responderSPI := req.responderSPI
      exchangeType := req.exchangeType, flags := flagResponse, messageID := req.messageID }
    [notifyPayload { type := nt, data }]

/-! ## Cookies -/

def cookieThreshold : ℕ := 32

def cookieLen : ℕ := 1 + 16

/-- The truncated hash of a cookie. -/
def cookieTag (key msg : Bytes) : Bytes := (c.cookieMac key msg).take (cookieLen - 1)

/-- The octets of a Cookie notify as a cookie. -/
def parseCookie (data : Bytes) : Option (Cookie Bytes) :=
  if data.length = cookieLen then some ⟨data.getD 0 0, data.drop 1⟩ else none

/-- The values of an IKE_SA_INIT that its cookie is bound to. -/
def attemptOf (hdr : Header) (nonce : Bytes) (remote : UDPAddr) : Attempt :=
  ⟨UInt64.ofNat hdr.initiatorSPI, nonce, some remote⟩

/-- The request carries a valid cookie.  Only its first Cookie notify is looked at. -/
def Server.cookieOK (s : Server P) (msg : Message) (nonce : Bytes) (remote : UDPAddr) : Bool :=
  match findNotify msg.payloads cookieNotify with
  | none => false
  | some n => s.cookies.valid (cookieTag c) (parseCookie n.data) (attemptOf msg.header nonce remote)

/-- `checkCookie`: the jar afterwards, and the cookie to demand, if the exchange may not proceed. -/
def Server.checkCookie (s : Server P) (msg : Message) (nonce : Bytes) (d : Datagram) :
    CookieJar Bytes × Option Bytes :=
  if s.gate.halfOpen < cookieThreshold then (s.cookies, none)
  else if s.cookieOK c msg nonce d.remote then (s.cookies, none)
  else
    let (jar, cookie) := s.cookies.issue (cookieTag c) (attemptOf msg.header nonce d.remote)
      d.env.cookieSecret d.env.now
    (jar, some (cookie.version :: cookie.mac))

/-! ## Negotiation -/

def hasIntermediateSupport (ps : List RawPayload) : Bool :=
  (findNotify ps intermediateExchangeSupported).isSome

def findFragSupported (ps : List RawPayload) : Bool :=
  (findNotify ps ikeFragmentationSupported).isSome

/-- The hash numbers in a SIGNATURE_HASH_ALGORITHMS notify. -/
def pairs16 : Bytes → List ℕ
  | a :: b :: rest => (a.toNat * 256 + b.toNat) :: pairs16 rest
  | _ => []

def findSigHashes (ps : List RawPayload) : List ℕ :=
  match findNotify ps signatureHashAlgorithms with
  | none => []
  | some n => pairs16 n.data

/-- `sigHashList`: Identity, SHA-512, SHA-384, SHA-256. -/
def sigHashList : List ℕ := [5, 4, 3, 2]

/-- The additional key exchange method that the responder takes up: the first proposal with the
number of the accepted one decides. -/
def acceptedADDKE (cfg : Config P) (ps : List RawPayload) (props : List Proposal)
    (accepted : Proposal) : Option ℕ :=
  if hasIntermediateSupport ps && !cfg.classicalOnly then
    (props.find? fun p => p.num == accepted.num).bind selectADDKE
  else none

/-- The payloads of the IKE_SA_INIT response. -/
def saInitResponse (cfg : Config P) (sa : IKESA) (accepted : Proposal) (ourPub : Bytes)
    (d : Datagram) : List RawPayload :=
  [⟨typeSA, false, marshalSA [accepted]⟩,
    ⟨typeKE, false, marshalKE ⟨sa.suite.dhID, ourPub⟩⟩, ⟨typeNonce, false, sa.nr⟩] ++
  cfg.natDetection c sa.initiatorSPI sa.responderSPI d.remote d.on4500 ++
  (if sa.fragEnabled then [notifyPayload { type := ikeFragmentationSupported }] else []) ++
  (if sa.addkeGroup ≠ 0 then [notifyPayload { type := intermediateExchangeSupported }] else []) ++
  (if cfg.serverCred.isSome || cfg.clientCAs.isSome then
    [notifyPayload { type := signatureHashAlgorithms, data := sigHashList.flatMap putBE16 },
      ⟨typeCERTREQ, false, marshalCert ⟨certX509Signature, []⟩⟩]
  else [])

/-- `handleIKESAInit` after the gate: the SA that is created, and the response. -/
def negotiate (cfg : Config P) (msg : Message) (saBody keBody nonce : Bytes) (d : Datagram)
    (id : ℕ) : Except Refusal (IKESA × Bytes) := do
  let props ← need (parseSA saBody) (.notify invalidSyntax [])
  let (suite, accepted) ← need (selectIKESuite props) (.notify noProposalChosen [])
  let ke ← need (parseKE keBody) (.notify invalidSyntax [])
  ensure (ke.group == suite.dhID) (.notify invalidKEPayload (putBE16 suite.dhID))
  ensure (supportedDH suite.dhID) (.notify noProposalChosen [])
  let ourPub ← need (c.dhPublic suite.dhID d.env.dhSeed) .drop
  let shared ← need (c.dhSecret suite.dhID d.env.dhSeed ke.keyData) (.notify invalidSyntax [])
  let addke := acceptedADDKE cfg msg.payloads props accepted
  let accepted := { accepted with
    transforms := accepted.transforms ++ (addke.map (⟨transformADDKE1, ·, 0⟩)).toList }
  ensure (!(cfg.requirePostQuantum && addke.getD 0 == 0)) (.notify noProposalChosen [])
  let nr := d.env.randomNonce suite.prfSize
  let sa : IKESA :=
    { id
      root := id
      initiatorSPI := msg.header.initiatorSPI
      responderSPI := d.env.ikeSPI
      state := .saInitDone
      suite
      ni := nonce
      nr
      keys := deriveIKEKeys c suite shared nonce nr msg.header.initiatorSPI d.env.ikeSPI
      initiatorSAInit := d.pkt
      addkeGroup := addke.getD 0
      recvMsgID := 1
      remoteAddr := d.remote
      onPort4500 := d.on4500
      nat := cfg.detectNAT c (findAllInner msg.payloads typeNotify) msg.header.initiatorSPI
        msg.header.responderSPI d.remote d.on4500
      fragEnabled := findFragSupported msg.payloads
      peerSigHashes := findSigHashes msg.payloads }
  let resp := buildMessage
    { initiatorSPI := sa.initiatorSPI, responderSPI := sa.responderSPI
      exchangeType := ikeSAInit, flags := flagResponse, messageID := 0 }
    (saInitResponse c cfg sa accepted ourPub d)
  return ({ sa with responderSAInit := resp }, resp)

/-- The answer to an admitted IKE_SA_INIT. -/
def Server.answerSAInit (s : Server P) (msg : Message) (saBody keBody nonce : Bytes)
    (d : Datagram) : Turn P :=
  match negotiate c s.cfg msg saBody keBody nonce d s.created with
  | .error .drop => s.ignore
  | .error (.notify nt data) =>
    { server := s, sent := [⟨unauthNotify msg.header nt data, d.remote, d.on4500⟩] }
  | .ok (sa, resp) =>
    { server := { s.storeSA sa with created := s.created + 1 }
      sent := [⟨resp, d.remote, d.on4500⟩] }

def Server.handleIKESAInit (s : Server P) (hdr : Header) (d : Datagram) : Turn P :=
  if hdr.isResponse then s.ignore
  else
    match parseMessage d.pkt with
    | none => s.ignore
    | some msg =>
      match findInner msg.payloads typeSA, findInner msg.payloads typeKE,
          findInner msg.payloads typeNonce with
      | some saPay, some kePay, some noncePay =>
        match s.checkCookie c msg noncePay.body d with
        | (jar, some cookie) =>
          { server := { s with cookies := jar }
            sent := [⟨unauthNotify hdr cookieNotify cookie, d.remote, d.on4500⟩] }
        | (jar, none) =>
          let s := { s with cookies := jar }
          match s.gate.tryAdmit d.remote d.env.now with
          | (gate, .admitted) =>
            let t := Server.answerSAInit c { s with gate } msg saPay.body kePay.body
              noncePay.body d
            -- the deferred call when the handler returns
            { t with server := { t.server with gate := t.server.gate.done } }
          | (gate, _) => { server := { s with gate } }
      | _, _, _ =>
        { server := s
          sent := [⟨unauthNotify hdr invalidSyntax [], d.remote, d.on4500⟩] }

end Veepin.IKE
