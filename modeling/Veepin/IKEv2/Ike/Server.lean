import Veepin.IKEv2.Ike.SAInit
import Veepin.IKEv2.Ike.Child

/-!
# The responder's step

The model of `internal/ikev2/ike/secured.go` and of the ingress in `server.go`.  `Server.receive`
opens a protected datagram: it finds the SA, checks the message ID, decrypts (putting fragments
together) and applies the ordering policy `exchangeAllowed`.  `dispatch` runs the handler, and
`Server.conclude` carries out what the handler decided.

A handler runs under the lock of its SA, and the tables, the pools and the gate are behind locks of
their own, so a run of the responder is a sequence of `handlePacket` steps.
-/

namespace Veepin.IKE

variable (c : Crypto) {P : Type}

/-! ## Opening -/

def exchangeAllowed (st : SAState) (ex : UInt8) : Bool :=
  if ex = ikeAuth ∨ ex = ikeIntermediate then st == .saInitDone || st == .intermediate
  else if ex = createChildSA then st == .established
  else if ex = informational then st == .established || st == .deleting
  else false

/-- The reassembler afterwards, and the first inner type with the inner octets, if the datagram
opens or completes a message. -/
def IKESA.openDatagram (sa : IKESA) (hdr : Header) (msg : Message) (d : Datagram) :
    FragReassembler × Option (UInt8 × Bytes) :=
  match findInner msg.payloads typeSKF with
  | some skf =>
    if !sa.fragEnabled then (sa.fragReasm, none)
    else
      match decryptSKF c d.pkt skf sa.suite sa.keys .initiatorToResponder with
      | none => (sa.fragReasm, none)
      | some (fragNum, total, first, chunk) =>
        match sa.fragReasm.add d.env.now hdr.messageID fragNum total first chunk with
        | (frag, .complete inner first) => (frag, some (first, inner))
        | (frag, _) => (frag, none)
  | none =>
    match findInner msg.payloads typeSK with
    | none => (sa.fragReasm, none)
    | some sk =>
      (sa.fragReasm, decryptSK c d.pkt sk sa.suite sa.keys .initiatorToResponder)

/-- What comes of a protected datagram before a handler runs. -/
inductive Received
  | nothing
  | touched (sa : IKESA)
  | request (sa : IKESA) (r : Request)

/-- `handleSecured` up to the dispatch.  The SA that is returned has taken up the fragment, or the
address from which the message came. -/
def Server.receive (s : Server P) (hdr : Header) (d : Datagram) : Received :=
  if hdr.isResponse then .nothing
  else
    match s.byRSPI.lookup hdr.responderSPI with
    | none => .nothing
    | some sa =>
      if hdr.messageID ≠ sa.recvMsgID then .nothing
      else
        match parseMessage d.pkt with
        | none => .nothing
        | some msg =>
          match sa.openDatagram c hdr msg d with
          | (frag, none) => .touched { sa with fragReasm := frag }
          | (frag, some (first, inner)) =>
            let sa := { sa with
              fragReasm := frag, onPort4500 := sa.onPort4500 || d.on4500
              remoteAddr := d.remote }
            match parseInnerPayloads first inner with
            | none => .touched sa
            | some inners =>
              if exchangeAllowed sa.state hdr.exchangeType then
                .request sa ⟨hdr, inners, d.remote, d.env⟩
              else .touched sa

/-! ## Handling -/

/-- The switch of `handleSecured`. -/
def dispatch (cfg : Config P) (sa : IKESA) (r : Request) (id : ℕ) (pools : P) : Outcome P :=
  if r.hdr.exchangeType = ikeAuth then handleIKEAuth c cfg sa r pools
  else if r.hdr.exchangeType = ikeIntermediate then handleIKEIntermediate c sa r pools
  else if r.hdr.exchangeType = createChildSA then handleCreateChildSA c cfg sa r id pools
  else handleInformational c cfg sa r pools

/-- `respondEncrypted`: the datagrams of a response. -/
def sealReply (sa : IKESA) (r : Request) (inners : List RawPayload) : List Sent :=
  let pkts := sealMaybeFragment c
    { initiatorSPI := sa.initiatorSPI, responderSPI := sa.responderSPI
      exchangeType := r.hdr.exchangeType, flags := flagResponse, messageID := r.hdr.messageID }
    sa.suite sa.keys .responderToInitiator (build inners).firstType (build inners).buf
    sa.fragEnabled r.env.iv
  (pkts.getD []).map (⟨·, r.remote, sa.onPort4500⟩)

/-- `ReleaseAddr` for an SA that goes away. -/
def Server.releaseLease (s : Server P) (sa : IKESA) : P :=
  match s.cfg.releaseAddr with
  | some release =>
    if sa.clientIP.isSome || sa.clientIP6.isSome then release sa.assigned s.pools else s.pools
  | none => s.pools

def Server.deleteSA (s : Server P) (sa : IKESA) : Server P :=
  { s with byRSPI := s.byRSPI.erase sa.responderSPI, pools := s.releaseLease sa }

/-- The SA under an SPI, as a handler left it. -/
def Server.writeBack (s : Server P) (rspi : ℕ) (sa : IKESA) : Server P :=
  { s with byRSPI := s.byRSPI.insert rspi sa }

/-- A replacement SA is stored. -/
def Server.adopt (s : Server P) : Option IKESA → Server P
  | none => s
  | some new => { s.storeSA new with created := s.created + 1 }

/-- What a handler decided is carried out.  `sa` is the SA whose keys protect the response. -/
def Server.conclude (s : Server P) (sa : IKESA) (r : Request) (o : Outcome P) : Turn P :=
  let s := ({ s with pools := o.pools }.writeBack r.hdr.responderSPI o.sa).adopt o.stored
  { server := if o.close then s.deleteSA o.sa else s
    sent := (o.reply.map (sealReply c sa r)).getD []
    effects := o.effects }

def Server.handleSecured (s : Server P) (hdr : Header) (d : Datagram) : Turn P :=
  match s.receive c hdr d with
  | .nothing => s.ignore
  | .touched sa => { server := s.writeBack hdr.responderSPI sa }
  | .request sa r => s.conclude c sa r (dispatch c s.cfg sa r s.created s.pools)

/-- The protected exchanges. -/
def isProtected (ex : UInt8) : Bool :=
  ex == ikeAuth || ex == ikeIntermediate || ex == createChildSA || ex == informational

def Server.handlePacket (s : Server P) (d : Datagram) : Turn P :=
  match parseHeader d.pkt with
  | none => s.ignore
  | some hdr =>
    if hdr.version >>> 4 ≠ 2 then s.ignore
    else if hdr.exchangeType = ikeSAInit then s.handleIKESAInit c hdr d
    else if isProtected hdr.exchangeType then s.handleSecured c hdr d
    else s.ignore

/-- One step of the responder. -/
def Server.step (s : Server P) (d : Datagram) : Server P := (s.handlePacket c d).server

/-! ## Requests as an initiator builds them -/

/-- Surroundings that draw the given SPIs, taken from the range of those that are drawn. -/
def drawing (ikeSPI childSPI : ℕ) : Env where
  ikeSPI := (ikeSPI - 1) % (2 ^ 64 - 1) + 1
  childSPI := (childSPI - 1) % (2 ^ 32 - 1) + 1
  ikeSPI_pos := by omega
  ikeSPI_lt := by omega
  childSPI_pos := by omega
  childSPI_lt := by omega

/-- The address of an initiator. -/
def initiatorAddr : UDPAddr := { ip := [192, 0, 2, 1], port := 500 }

/-- A proposal for an IKE SA with AES-GCM, HMAC-SHA-256 and Curve25519, and further transforms. -/
def ikeProposal (spi : Bytes) (more : List Transform) : Proposal where
  num := 1
  protocol := protoIKE
  spi
  transforms := [⟨transformENCR, encrAESGCM16, 256⟩, ⟨transformPRF, prfHMACSHA2256, 0⟩,
    ⟨transformDH, dhCurve25519, 0⟩] ++ more

/-- The payloads that agree on an IKE SA. -/
def ikeAgreement (spi : Bytes) (more : List Transform) : List RawPayload :=
  [⟨typeSA, false, marshalSA [ikeProposal spi more]⟩,
    ⟨typeKE, false, marshalKE ⟨dhCurve25519, []⟩⟩, ⟨typeNonce, false, [1]⟩]

/-- An IKE_SA_INIT request. -/
def saInitRequest (spiI : ℕ) (more : List Transform) (notifies : List RawPayload) (env : Env) :
    Datagram where
  pkt := buildMessage
    { initiatorSPI := spiI, responderSPI := 0, exchangeType := ikeSAInit, flags := flagInitiator
      messageID := 0 } (ikeAgreement [] more ++ notifies)
  remote := initiatorAddr
  on4500 := false
  env

/-- A protected request on the SA under an SPI, with the message ID that the responder expects. -/
def Server.protectedRequest (s : Server P) (rspi : ℕ) (ex : UInt8) (inners : List RawPayload)
    (env : Env) : Datagram where
  pkt := match s.byRSPI.lookup rspi with
    | none => []
    | some sa =>
      (buildEncryptedMessage c
        { initiatorSPI := sa.initiatorSPI, responderSPI := rspi, exchangeType := ex
          flags := flagInitiator, messageID := sa.recvMsgID }
        sa.suite sa.keys .initiatorToResponder (build inners).firstType (build inners).buf
        fun _ => 0).getD []
  remote := initiatorAddr
  on4500 := false
  env

/-- The payloads of an IKE_AUTH with a PSK; the AUTH value is the one of a constant PRF. -/
def pskAuthPayloads : List RawPayload :=
  [⟨typeIDi, false, marshalID ⟨idFQDN, []⟩⟩,
    ⟨typeAUTH, false, marshalAuth ⟨authSharedKeyMIC, List.replicate 32 0⟩⟩]

end Veepin.IKE
