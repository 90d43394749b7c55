import Veepin.IKEv2.Client.Exchange

/-!
# The initiator's handshake

The model of `Connect` in `internal/ikev2/ike/client.go`, of the client's half of
`intermediate.go` and of `internal/ikev2/eap/client.go`: IKE_SA_INIT, the additional key exchange
where the responder takes it up, and IKE_AUTH with a pre-shared key, a certificate or EAP.

IKE_SA_INIT is unprotected and goes over the datagrams themselves; what follows is protected and
goes over messages (`Server.ask`).  A value that the source takes with its error ignored is the zero
value here.  The non-ESP marker is put on and taken off below this model.
-/

namespace Veepin.IKE

variable (c : Crypto) {P : Type}

/-! ## What an initiator has besides -/

/-- The primitives that only an initiator uses. -/
structure Initiator where
  kemPublic : Bytes → Bytes
  kemDecapsulate : Bytes → Bytes → Option Bytes
  systemRoots : Option (List Bytes)
  serverUsage : Cert → Bool

/-- Primitives without any strength, to go with `plainCrypto`. -/
def plainInitiator : Initiator where
  kemPublic _ := []
  kemDecapsulate _ _ := some []
  systemRoots := none
  serverUsage _ := true

/-- The sockets of a handshake: where it starts, and where it floats to. -/
structure Dial where
  localAddr : UDPAddr
  remoteAddr : UDPAddr
  floatedAddr : UDPAddr
  nattPort : ℕ

/-- The credential made from `ClientCert`. -/
def ClientConfig.certCred (cfg : ClientConfig) : Option CertCredential := cfg.clientCert.join

def ClientConfig.expectedServerID (cfg : ClientConfig) : IDPayload :=
  cfg.remoteID.getD cfg.dialled

/-! ## IKE_SA_INIT -/

/-- The proposals of IKE_SA_INIT: with the additional key exchange in each, where it is wanted. -/
def ClientConfig.ikeProposals (cfg : ClientConfig) : List Proposal :=
  (defaultIKEProposals []).map fun p =>
    if cfg.postQuantum then
      { p with transforms := p.transforms ++ [⟨transformADDKE1, mlkem768, 0⟩] }
    else p

/-- The payloads of the IKE_SA_INIT request. -/
def ClientConfig.saInitPayloads (cfg : ClientConfig) (localAddr : UDPAddr) (spiI : ℕ)
    (ni pub : Bytes) : List RawPayload :=
  [⟨typeSA, false, marshalSA cfg.ikeProposals⟩,
    ⟨typeKE, false, marshalKE ⟨dhCurve25519, pub⟩⟩, ⟨typeNonce, false, ni⟩,
    notifyPayload { type := natDetectionSourceIP
                    data := natDetectionHash c spiI 0 localAddr.ip localAddr.port },
    notifyPayload { type := natDetectionDestinationIP
                    data := natDetectionHash c spiI 0 ipv4Zero 0 },
    notifyPayload { type := ikeFragmentationSupported }] ++
  (if cfg.certCred.isSome then
    [notifyPayload { type := signatureHashAlgorithms, data := sigHashList.flatMap putBE16 }]
  else []) ++
  (if cfg.postQuantum then [notifyPayload { type := intermediateExchangeSupported }] else [])

/-- The header of the IKE_SA_INIT request. -/
def saInitHeader (spiI : ℕ) : Header where
  initiatorSPI := spiI
  responderSPI := 0
  exchangeType := ikeSAInit
  flags := flagInitiator
  messageID := 0

/-- The additional key exchange that the responder has taken up.  The first proposal for an IKE SA
decides. -/
def ClientConfig.acceptedGroup (cfg : ClientConfig) (ps : List RawPayload)
    (props : List Proposal) : ℕ :=
  if cfg.postQuantum && hasIntermediateSupport ps then
    ((props.find? fun p => p.protocol == protoIKE).bind selectADDKE).getD 0
  else 0

/-- `saInit`, from the response on. -/
def saInitAnswer (cfg : ClientConfig) (dial : Dial) (spiI : ℕ) (dhSeed ni req resp : Bytes) :
    Except ClientError Client :=
  match parseMessage resp with
  | none => .error .malformed
  | some msg =>
    match findNotifyError msg.payloads with
    | some n => .error (.serverNotify n)
    | none =>
      match findInner msg.payloads typeSA, findInner msg.payloads typeKE,
          findInner msg.payloads typeNonce with
      | some saPay, some kePay, some noncePay =>
        match parseSA saPay.body with
        | none => .error .malformed
        | some props =>
          match selectIKESuite props with
          | none => .error .noSuite
          | some (suite, _) =>
            let addkeGroup := cfg.acceptedGroup msg.payloads props
            if cfg.postQuantum && addkeGroup == 0 && cfg.requirePostQuantum then
              .error .postQuantumRequired
            else
              let ke := (parseKE kePay.body).getD ⟨0, []⟩
              match c.dhSecret dhCurve25519 dhSeed ke.keyData with
              | none => .error .noSecret
              | some shared =>
                let spiR := msg.header.responderSPI
                .ok
                  { cfg
                    localAddr := dial.localAddr
                    remoteAddr := dial.remoteAddr
                    spiI
                    spiR
                    suite
                    ni
                    nr := noncePay.body
                    keys := deriveIKEKeys c suite shared ni noncePay.body spiI spiR
                    saInitReq := req
                    saInitResp := resp
                    addkeGroup
                    frag := findFragSupported msg.payloads
                    peerSigHashes := findSigHashes msg.payloads }
      | _, _, _ => .error .missingPayloads

/-- The IKE_SA_INIT request. -/
def ClientConfig.saInitRequest (cfg : ClientConfig) (localAddr : UDPAddr) (e : Env) (pub : Bytes) :
    Bytes :=
  buildMessage (saInitHeader e.ikeSPI)
    (cfg.saInitPayloads c localAddr e.ikeSPI (octets e.nonce 32) pub)

/-- `saInit`, from what the responder has done with the request on. -/
def saInitAnswered (cfg : ClientConfig) (dial : Dial) (e : Env) (req : Bytes) (t : Turn P) :
    Except ClientError (Client × Server P) :=
  match t.sent with
  | [] => .error .timeout
  | resp :: _ =>
    (saInitAnswer c cfg dial e.ikeSPI e.dhSeed (octets e.nonce 32) req resp.pkt).map
      fun cl => (cl, t.server)

/-- `saInit`: the client, and the responder afterwards. -/
def saInit (cfg : ClientConfig) (dial : Dial) (s : Server P) (e : Env) (h : Hop) :
    Except ClientError (Client × Server P) :=
  match c.dhPublic dhCurve25519 e.dhSeed with
  | none => .error .noDH
  | some pub =>
    saInitAnswered c cfg dial e (cfg.saInitRequest c dial.localAddr e pub)
      (s.handlePacket c ⟨cfg.saInitRequest c dial.localAddr e pub, h.remote, h.on4500, h.env⟩)

/-! ## Protected exchanges -/

/-- A request and its answer. -/
def Server.ask (s : Server P) (cl : Client) (o : Outgoing) (h : Hop) :
    Except ClientError (Server P × Protected) :=
  match s.serve c (cl.message o) h with
  | (_, none) => .error .timeout
  | (s, some reply) => .ok (s, reply)

/-- A request and the payloads of its answer: `seal`, `writeIKEAll` and `recvInners`. -/
def Server.askInners (s : Server P) (cl : Client) (o : Outgoing) (h : Hop) :
    Except ClientError (Server P × List RawPayload) := do
  let (s, reply) ← s.ask c cl o h
  let inners ← cl.accept reply
  return (s, inners)

/-! ## IKE_INTERMEDIATE -/

/-- The payload of the IKE_INTERMEDIATE request. -/
def Client.kemPayload (cl : Client) (pub : Bytes) : RawPayload :=
  ⟨typeKE, false, marshalKE ⟨cl.addkeGroup, pub⟩⟩

/-- `sendIntermediateExchange`, until it waits. -/
def Client.sendIntermediate (cl : Client) (pub : Bytes) : Client × Outgoing :=
  let o : Outgoing := ⟨ikeIntermediate, cl.sendMsgID, [cl.kemPayload pub]⟩
  ({ cl with
      sendMsgID := nextMsgID cl.sendMsgID
      intAuthI := chainIntAuth c cl.suite cl.keys.skpi cl.intAuthI
        (intAuthBlob (cl.header o) (build o.inners).firstType (build o.inners).buf) }, o)

/-- `sendIntermediateExchange`, from the answer on. -/
def Client.finishIntermediate (ini : Initiator) (cl : Client) (kemSeed : Bytes) (o : Outgoing)
    (reply : Protected) : Except ClientError Client :=
  if reply.hdr.messageID ≠ o.msgID then .error .wrongAnswer
  else if reply.hdr.exchangeType ≠ ikeIntermediate then .error .wrongAnswer
  else if reply.suite ≠ cl.suite ∨ reply.keys ≠ cl.keys then .error .decrypt
  else
    match findNotifyError reply.inners with
    | some n => .error (.serverNotify n)
    | none =>
      match reencodeInners reply.inners with
      | none => .error .malformed
      | some respInner =>
        let cl := { cl with
          intAuthR := chainIntAuth c cl.suite cl.keys.skpr cl.intAuthR
            (intAuthBlob reply.hdr (firstType reply.inners) respInner) }
        match findInner reply.inners typeKE with
        | none => .error .missingPayloads
        | some kePay =>
          match parseKE kePay.body with
          | none => .error .malformed
          | some ke =>
            if ke.group ≠ cl.addkeGroup then .error .groupMismatch
            else
              match ini.kemDecapsulate kemSeed ke.keyData with
              | none => .error .kem
              | some shared =>
                .ok { cl with
                  keys := rekeyFromAdditionalExchange c cl.suite cl.keys shared cl.ni
                    cl.nr cl.spiI cl.spiR }

def sendIntermediateExchange (ini : Initiator) (cl : Client) (s : Server P) (e : Env) (h : Hop) :
    Except ClientError (Client × Server P) := do
  let (cl, o) := cl.sendIntermediate c (ini.kemPublic e.kemSeed)
  let (s, reply) ← s.ask c cl o h
  let cl ← cl.finishIntermediate c ini e.kemSeed o reply
  return (cl, s)

/-! ## IKE_AUTH -/

def Client.intAuth (cl : Client) : Bytes := finalIntAuth cl.intAuthI cl.intAuthR cl.authMsgID

def dualStackTS : List TrafficSelector := [allTrafficV4, allTrafficV6]

def dualStackCPRequest : CPPayload :=
  ⟨cfgRequest, [⟨cfgInternalIP4Address, []⟩, ⟨cfgInternalIP4Netmask, []⟩, ⟨cfgInternalIP4DNS, []⟩,
    ⟨cfgInternalIP6Address, []⟩, ⟨cfgInternalIP6DNS, []⟩]⟩

/-- The payloads that ask for an address and for a Child SA. -/
def childRequestPayloads (spi : ℕ) : List RawPayload :=
  [⟨typeCP, false, marshalCP dualStackCPRequest⟩,
    ⟨typeSA, false, marshalSA (defaultESPProposals (putBE32 spi))⟩,
    ⟨typeTSi, false, marshalTS dualStackTS⟩, ⟨typeTSr, false, marshalTS dualStackTS⟩]

/-- `addMobikeSupported`, except over TCP. -/
def ClientConfig.mobikePayloads (cfg : ClientConfig) : List RawPayload :=
  if cfg.tcp then [] else [notifyPayload { type := mobikeSupported }]

def ClientConfig.buildAuthInner (cfg : ClientConfig) (idBody : Bytes) (auth : Option AuthPayload)
    (spi : ℕ) : List RawPayload :=
  [⟨typeIDi, false, idBody⟩] ++
  (auth.map fun a => ⟨typeAUTH, false, marshalAuth a⟩).toList ++
  childRequestPayloads spi ++ cfg.mobikePayloads ++
  (if cfg.iptfs then [notifyPayload { type := useAggFrag, data := [0] }] else [])

def ClientConfig.buildCertAuthInner (cfg : ClientConfig) (cred : CertCredential) (idBody : Bytes)
    (auth : AuthPayload) (spi : ℕ) : List RawPayload :=
  [⟨typeIDi, false, idBody⟩] ++
  (cred.chain.map fun der => ⟨typeCERT, false, marshalCert ⟨certX509Signature, der⟩⟩) ++
  [⟨typeCERTREQ, false, marshalCert ⟨certX509Signature, []⟩⟩,
    ⟨typeAUTH, false, marshalAuth auth⟩] ++
  childRequestPayloads spi ++ cfg.mobikePayloads

/-- The identity of the responder: from this message, or from an earlier one. -/
def Client.resolveServerID (cl : Client) (inners : List RawPayload) :
    Except ClientError (Client × Bytes) :=
  match findInner inners typeIDr with
  | some idrPay =>
    let idr := (parseID idrPay.body).getD ⟨0, []⟩
    if cl.cfg.remoteID.any fun id => idr != id then .error .identity
    else .ok ({ cl with serverIDBody := some (marshalID idr) }, marshalID idr)
  | none =>
    match cl.serverIDBody with
    | some body => .ok (cl, body)
    | none => .error .missingPayloads

def Client.verifyServerAuth (cl : Client) (inners : List RawPayload) (key : Bytes) (eapMSK : Bool) :
    Except ClientError Client :=
  match findInner inners typeAUTH with
  | none => .error .missingPayloads
  | some authPay =>
    match parseAuth authPay.body with
    | none => .error .malformed
    | some auth => do
        let (cl, idBody) ← cl.resolveServerID inners
        let ok := if eapMSK then
            pskAuth c cl.suite key
              (authOctets c cl.suite cl.saInitResp cl.ni cl.keys.skpr idBody cl.intAuth) ==
              auth.data
          else verifyPeerPSKAuth c cl.suite key cl.saInitResp cl.ni cl.keys.skpr idBody cl.intAuth
            auth.data
        if ok then .ok cl else .error .authFailed

/-- The checks of `verifyServerCertAuth` on the leaf. -/
def Client.leafOK (ini : Initiator) (cl : Client) (leaf : Cert) (idr : IDPayload) : Bool :=
  checkableIDType cl.cfg.expectedServerID.type && checkableIDType idr.type &&
    certMatchesID leaf cl.cfg.expectedServerID && certMatchesID leaf idr && ini.serverUsage leaf

def Client.verifyServerCertAuth (ini : Initiator) (cl : Client) (inners : List RawPayload) :
    Except ClientError Client :=
  match findInner inners typeIDr, findInner inners typeAUTH with
  | some idrPay, some authPay =>
    match parseID idrPay.body with
    | none => .error .malformed
    | some idr =>
      if cl.cfg.remoteID.any fun id => idr != id then .error .identity
      else
        match parseCertChain (findAllInner inners typeCERT) with
        | none => .error .invalidCert
        | some (leafDER, intermediates) =>
          match cl.cfg.caRoots <|> ini.systemRoots with
          | none => .error .invalidCert
          | some roots =>
            match c.verifyPeerCertChain leafDER intermediates roots with
            | none => .error .authFailed
            | some leaf =>
              if !cl.leafOK ini leaf idr then .error .authFailed
              else
                match parseAuth authPay.body with
                | none => .error .malformed
                | some auth =>
                  let octets := authOctets c cl.suite cl.saInitResp cl.ni cl.keys.skpr
                    (marshalID idr) cl.intAuth
                  if cl.cfg.postQuantumAuth && !c.isMLDSA leaf.publicKey then
                    .error .invalidCert
                  else if !c.verifyAuth leaf.publicKey auth.method octets auth.data then
                    .error .authFailed
                  else .ok { cl with serverIDBody := some (marshalID idr) }
  | _, _ => .error .missingPayloads

def CPPayload.attrValue (cp : CPPayload) (t : ℕ) : Option Bytes :=
  (cp.attrs.find? fun a => a.type == t).map CFGAttr.value

/-- An attribute of a given length. -/
def CPPayload.sized (cp : CPPayload) (t n : ℕ) : Option Bytes :=
  (cp.attrValue t).filter fun v => v.length == n

/-- The assignment in an answer. -/
def assignmentIn (inners : List RawPayload) : Assignment :=
  match (findInner inners typeCP).bind fun p => parseCP p.body with
  | none => {}
  | some cp =>
    { ip4 := cp.sized cfgInternalIP4Address 4
      netmask := cp.sized cfgInternalIP4Netmask 4
      ip6 := (cp.sized cfgInternalIP6Address 17).map (List.take 16)
      prefix6 := ((cp.sized cfgInternalIP6Address 17).map fun v => (v.getD 16 0).toNat).getD 0
      dns := (cp.attrs.filter fun a =>
        a.type == cfgInternalIP4DNS && a.value.length == 4 ||
          a.type == cfgInternalIP6DNS && a.value.length == 16).map CFGAttr.value }

/-- The AGGFRAG mode that the responder has echoed, where it was asked for. -/
def ClientResult.withAggFrag (res : ClientResult) (cfg : ClientConfig)
    (inners : List RawPayload) : ClientResult :=
  if cfg.iptfs then
    { res with
      aggFrag := (acceptAggFrag inners).isSome
      aggFragFlags := (acceptAggFrag inners).getD 0
      iptfsRate := cfg.iptfsRate }
  else res

def Client.applyAuthResult (cl : Client) (inners : List RawPayload) (spi : ℕ) :
    Except ClientError Client :=
  let a := assignmentIn inners
  if a.ip4 = none ∧ a.ip6 = none then .error .noAddress
  else
    match findInner inners typeSA with
    | none => .error .noChildSA
    | some saPay =>
      let props := (parseSA saPay.body).getD []
      match selectESPSuite props with
      | none => .error .noSuite
      | some (es, _) =>
        let res : ClientResult :=
          { assignedIP := a.ip4
            netmask := a.netmask
            assignedIP6 := a.ip6
            prefix6 := a.prefix6
            dns := a.dns
            serverAddr := cl.remoteAddr
            udpEncap := !cl.cfg.tcp
            inboundSPI := spi
            outboundSPI := espSPI props
            suite := es }
        .ok { cl with
          mobike := (findNotify inners mobikeSupported).isSome
          result := some ((res.withAggFrag cl.cfg inners).keyed es
            (deriveChildKeys c cl.suite cl.keys.skd cl.ni cl.nr es.keyMatLen)) }

def Client.finishAuth (cl : Client) (inners : List RawPayload) (spi : ℕ) (key : Bytes)
    (eapMSK : Bool) : Except ClientError Client := do
  let cl ← cl.verifyServerAuth c inners key eapMSK
  cl.applyAuthResult c inners spi

/-- What the initiator signs. -/
def Client.initiatorOctets (cl : Client) : Bytes :=
  authOctets c cl.suite cl.saInitReq cl.nr cl.keys.skpi (marshalID cl.cfg.localID) cl.intAuth

def Client.authPSK (cl : Client) (s : Server P) (e : Env) (h : Hop) :
    Except ClientError (Client × Server P) := do
  let inner := cl.cfg.buildAuthInner (marshalID cl.cfg.localID)
    (some ⟨authSharedKeyMIC, pskAuth c cl.suite cl.cfg.psk (cl.initiatorOctets c)⟩) e.childSPI
  let (s, inners) ← s.askInners c cl ⟨ikeAuth, cl.authMsgID, inner⟩ h
  let cl ← { cl with sendMsgID := nextMsgID cl.authMsgID }.finishAuth c inners e.childSPI
    cl.cfg.psk false
  return (cl, s)

def Client.authCert (ini : Initiator) (cl : Client) (cred : CertCredential) (s : Server P) (e : Env)
    (h : Hop) : Except ClientError (Client × Server P) :=
  match c.signAuth cred.key (cl.initiatorOctets c) cl.peerSigHashes with
  | none => .error .authFailed
  | some (method, data) => do
      let inner := cl.cfg.buildCertAuthInner cred (marshalID cl.cfg.localID) ⟨method, data⟩
        e.childSPI
      let (s, inners) ← s.askInners c cl ⟨ikeAuth, cl.authMsgID, inner⟩ h
      let cl ← { cl with sendMsgID := nextMsgID cl.authMsgID }.verifyServerCertAuth c ini inners
      let cl ← cl.applyAuthResult c inners e.childSPI
      return (cl, s)

/-! ## EAP -/

def eapResponse : UInt8 := 2

/-- `ParseChallenge`: the identifier and the challenge. -/
def parseChallenge (data : Bytes) : Option (UInt8 × Bytes) :=
  if data.length < 5 + 16 ∨ data.getD 0 0 ≠ opChallenge then none
  else some (data.getD 1 0, (data.drop 5).take 16)

/-- `BuildResponse`: the response, and the MSK. -/
def buildResponse (id : UInt8) (authChallenge peerChallenge username password : Bytes) :
    Bytes × Bytes :=
  let ntHash := c.ntPasswordHash password
  let ntResp := c.generateNTResponse authChallenge peerChallenge username ntHash
  let body := [49] ++ peerChallenge ++ List.replicate 8 0 ++ ntResp ++ [0] ++ username
  ([opResponse, id] ++ putBE16 (4 + body.length) ++ body, c.deriveMSK ntHash ntResp)

/-- The EAP packet of an answer. -/
def eapIn (inners : List RawPayload) : Option Bytes :=
  (findInner inners typeEAP).map RawPayload.body

/-- `sendEAP`. -/
def eapPayload (identifier : UInt8) (data : Bytes) : RawPayload :=
  ⟨typeEAP, false, EapPacket.marshal ⟨eapResponse, identifier, eapTypeMSCHAPv2, data⟩⟩

/-- A packet that could not be parsed is the zero packet. -/
def parseEapOr (body : Bytes) : EapPacket := (parseEap body).getD ⟨0, 0, 0, []⟩

/-- The second message of `authEAP`: the response to the challenge in the first answer, and the
MSK. -/
def Client.answerChallenge (cl : Client) (inners : List RawPayload) (e : Env) :
    Except ClientError (RawPayload × Bytes) :=
  match eapIn inners with
  | none => .error .noEAP
  | some body =>
    match parseEap body with
    | none => .error .malformed
    | some req =>
      match parseChallenge req.data with
      | none => .error .noEAP
      | some (id, challenge) =>
        let (resp, msk) := buildResponse c id challenge
          (octets (e.challenge.getD fun _ => 0) 16) cl.cfg.eapUsername cl.cfg.eapPassword
        .ok (eapPayload req.identifier resp, msk)

/-- The third message of `authEAP`: the acknowledgement of the success in the second answer. -/
def answerSuccess (inners : List RawPayload) : Except ClientError RawPayload :=
  match eapIn inners with
  | none => .error .noEAP
  | some body =>
    let req := parseEapOr body
    if req.code = eapRequest ∧ req.data.head? = some opFailure then .error .authFailed
    else .ok (eapPayload req.identifier [opSuccess])

/-- The third answer holds EAP-Success, if it holds EAP at all. -/
def checkEapSuccess (inners : List RawPayload) : Except ClientError Unit :=
  match eapIn inners with
  | none => .ok ()
  | some body => if (parseEapOr body).code = eapSuccess then .ok () else .error .noEAP

/-- `authEAP`.  It uses four message IDs. -/
def Client.authEAP (cl : Client) (s : Server P) (e : Env) (h : ℕ → Hop) :
    Except ClientError (Client × Server P) := do
  let id := cl.authMsgID
  let first := cl.cfg.buildAuthInner (marshalID cl.cfg.localID) none e.childSPI
  let (s, inners) ← s.askInners c cl ⟨ikeAuth, id, first⟩ (h 0)
  let cl ← cl.verifyServerAuth c inners cl.cfg.psk false
  let (second, msk) ← cl.answerChallenge c inners e
  let (s, inners) ← s.askInners c cl ⟨ikeAuth, nextMsgID id, [second]⟩ (h 1)
  let third ← answerSuccess inners
  let (s, inners) ← s.askInners c cl ⟨ikeAuth, nextMsgID (nextMsgID id), [third]⟩ (h 2)
  checkEapSuccess inners
  let auth := marshalAuth ⟨authSharedKeyMIC, pskAuth c cl.suite msk (cl.initiatorOctets c)⟩
  let (s, inners) ← s.askInners c cl
    ⟨ikeAuth, nextMsgID (nextMsgID (nextMsgID id)), [⟨typeAUTH, false, auth⟩]⟩ (h 3)
  let cl ← { cl with sendMsgID := nextMsgID (nextMsgID (nextMsgID (nextMsgID id))) }.finishAuth c
    inners e.childSPI msk true
  return (cl, s)

/-! ## Connect -/

def Client.floatToNATT (cl : Client) (dial : Dial) : Client :=
  { cl with
    localAddr := dial.floatedAddr
    remoteAddr := { cl.remoteAddr with port := dial.nattPort } }

/-- The client when IKE_SA_INIT is over. -/
def Client.floated (cl : Client) (dial : Dial) : Client :=
  if cl.cfg.tcp then { cl with sendMsgID := 1 }
  else { cl with sendMsgID := 1 }.floatToNATT dial

/-- The first IKE_AUTH has the next message ID, and the AUTH payloads commit to it. -/
def Client.readyForAuth (cl : Client) : Client := { cl with authMsgID := cl.sendMsgID }

/-- `Connect` after IKE_SA_INIT, until IKE_AUTH. -/
def Client.afterSAInit (ini : Initiator) (cl : Client) (dial : Dial) (s : Server P) (e : Env)
    (h : Hop) : Except ClientError (Client × Server P) :=
  let cl := cl.floated dial
  if cl.addkeGroup = 0 then .ok (cl.readyForAuth, s)
  else (sendIntermediateExchange c ini cl s e h).map fun (cl, s) => (cl.readyForAuth, s)

/-- The choice of `Connect` between the ways to authenticate. -/
def Client.auth (ini : Initiator) (cl : Client) (s : Server P) (e : Env) (h : ℕ → Hop) :
    Except ClientError (Client × Server P) :=
  if cl.cfg.eapUsername ≠ [] then cl.authEAP c s e h
  else
    match cl.cfg.clientCert with
    | some none => .error .invalidCert
    | some (some cred) => cl.authCert c ini cred s e (h 0)
    | none => cl.authPSK c s e (h 0)

/-- `Connect`, then `Attach`. -/
def connect (ini : Initiator) (cfg : ClientConfig) (dial : Dial) (s : Server P) (e : Env)
    (h : ℕ → Hop) : Except ClientError (System P) := do
  let (cl, s) ← saInit c cfg dial s e (h 0)
  let (cl, s) ← cl.afterSAInit c ini dial s e (h 1)
  let (cl, s) ← cl.auth c ini s e fun n => h (n + 2)
  return ⟨{ cl with attached := true }, s⟩

/-! ## What a handshake leaves of the responder -/

lemma except_bind_ok {ε α β : Type} {x : Except ε α} {f : α → Except ε β} {b : β} :
    (x >>= f) = .ok b ↔ ∃ a, x = .ok a ∧ f a = .ok b := by
  cases x <;> simp [bind, Except.bind]

lemma except_map_ok {ε α β : Type} {x : Except ε α} {f : α → β} {b : β} :
    x.map f = .ok b ↔ ∃ a, x = .ok a ∧ f a = b := by
  cases x <;> simp [Except.map]

/-- A result that can be evaluated. -/
lemma exists_ok {ε α : Type} {x : Except ε α} {p : α → Bool} (h : x.toOption.any p = true) :
    ∃ a, x = .ok a ∧ p a = true := by
  cases x with
  | error e => cases h
  | ok a => exact ⟨a, rfl, h⟩

variable {cfg : ClientConfig} {dial : Dial} {hs : ℕ → Hop}

section Keyed

variable {c} {s s' : Server P} {cl cl' : Client} {o : Outgoing} {h : Hop} {e : Env}
  {ini : Initiator} {inners : List RawPayload}

lemma Server.Keyed.ask (hkeyed : s.Keyed) {reply : Protected}
    (hok : s.ask c cl o h = .ok (s', reply)) : s'.Keyed := by
  have hserve : (s.serve c (cl.message o) h).1.Keyed := hkeyed.serve _ h
  unfold Server.ask at hok
  rcases hs : s.serve c (cl.message o) h with ⟨s'', _ | reply'⟩
  · rw [hs] at hok
    cases hok
  · rw [hs] at hok hserve
    obtain ⟨rfl, -⟩ := Prod.mk.inj (Except.ok.inj hok)
    exact hserve

lemma Server.Keyed.askInners (hkeyed : s.Keyed) (hok : s.askInners c cl o h = .ok (s', inners)) :
    s'.Keyed := by
  obtain ⟨⟨s'', reply⟩, hask, hok⟩ := except_bind_ok.mp hok
  obtain ⟨inners', -, hok⟩ := except_bind_ok.mp hok
  obtain ⟨rfl, -⟩ := Prod.mk.inj (Except.ok.inj hok)
  exact hkeyed.ask hask

lemma saInitAnswered_ok {req : Bytes} {t : Turn P}
    (hok : saInitAnswered c cfg dial e req t = .ok (cl', s')) :
    ∃ resp rest, t.sent = resp :: rest ∧
      saInitAnswer c cfg dial e.ikeSPI e.dhSeed (octets e.nonce 32) req resp.pkt = .ok cl' ∧
      t.server = s' := by
  unfold saInitAnswered at hok
  split at hok
  · cases hok
  rename_i resp rest hsent
  obtain ⟨cl, hcl, he⟩ := except_map_ok.mp hok
  obtain ⟨rfl, rfl⟩ := Prod.mk.inj he
  exact ⟨resp, rest, hsent, hcl, rfl⟩

/-- What is behind the end of IKE_SA_INIT. -/
lemma saInit_ok (hok : saInit c cfg dial s e h = .ok (cl', s')) :
    ∃ pub resp rest, c.dhPublic dhCurve25519 e.dhSeed = some pub ∧ (s.handlePacket c
        ⟨cfg.saInitRequest c dial.localAddr e pub, h.remote, h.on4500, h.env⟩).sent = resp :: rest ∧
      saInitAnswer c cfg dial e.ikeSPI e.dhSeed (octets e.nonce 32)
        (cfg.saInitRequest c dial.localAddr e pub) resp.pkt = .ok cl' ∧
      (s.handlePacket c
        ⟨cfg.saInitRequest c dial.localAddr e pub, h.remote, h.on4500, h.env⟩).server = s' := by
  unfold saInit at hok
  split at hok
  · cases hok
  rename_i pub hpub
  obtain ⟨resp, rest, hsent, hcl, hs⟩ := saInitAnswered_ok hok
  exact ⟨pub, resp, rest, hpub, hsent, hcl, hs⟩

section

variable (hkeyed : s.Keyed)

include hkeyed

lemma Server.Keyed.handlePacket (d : Datagram) : (s.handlePacket c d).server.Keyed := hkeyed.step

lemma Server.Keyed.saInit (hok : Veepin.IKE.saInit c cfg dial s e h = .ok (cl', s')) :
    s'.Keyed := by
  obtain ⟨pub, resp, rest, -, -, -, rfl⟩ := saInit_ok hok
  exact hkeyed.handlePacket _

lemma Server.Keyed.afterSAInit (hok : cl.afterSAInit c ini dial s e h = .ok (cl', s')) :
    s'.Keyed := by
  unfold Client.afterSAInit at hok
  dsimp only at hok
  split_ifs at hok
  · obtain ⟨-, rfl⟩ := Prod.mk.inj (Except.ok.inj hok)
    exact hkeyed
  obtain ⟨⟨cl'', s''⟩, hint, he⟩ := except_map_ok.mp hok
  obtain ⟨-, rfl⟩ := Prod.mk.inj he
  unfold sendIntermediateExchange at hint
  dsimp only at hint
  obtain ⟨⟨s₁, reply⟩, hask, hint⟩ := except_bind_ok.mp hint
  obtain ⟨cl₁, -, hint⟩ := except_bind_ok.mp hint
  obtain ⟨-, rfl⟩ := Prod.mk.inj (Except.ok.inj hint)
  exact hkeyed.ask hask

lemma Server.Keyed.authEAP (hok : cl.authEAP c s e hs = .ok (cl', s')) : s'.Keyed := by
  unfold Client.authEAP at hok
  obtain ⟨⟨s₁, in₁⟩, h₁, hok⟩ := except_bind_ok.mp hok
  obtain ⟨cl₁, -, hok⟩ := except_bind_ok.mp hok
  obtain ⟨⟨second, msk⟩, -, hok⟩ := except_bind_ok.mp hok
  obtain ⟨⟨s₂, in₂⟩, h₂, hok⟩ := except_bind_ok.mp hok
  obtain ⟨third, -, hok⟩ := except_bind_ok.mp hok
  obtain ⟨⟨s₃, in₃⟩, h₃, hok⟩ := except_bind_ok.mp hok
  obtain ⟨-, -, hok⟩ := except_bind_ok.mp hok
  obtain ⟨⟨s₄, in₄⟩, h₄, hok⟩ := except_bind_ok.mp hok
  obtain ⟨cl₂, -, hok⟩ := except_bind_ok.mp hok
  obtain ⟨-, rfl⟩ := Prod.mk.inj (Except.ok.inj hok)
  exact (((hkeyed.askInners h₁).askInners h₂).askInners h₃).askInners h₄

lemma Server.Keyed.auth (hok : cl.auth c ini s e hs = .ok (cl', s')) : s'.Keyed := by
  unfold Client.auth at hok
  split_ifs at hok
  · exact hkeyed.authEAP hok
  split at hok
  · cases hok
  · unfold Client.authCert at hok
    split at hok
    · cases hok
    obtain ⟨⟨s₁, in₁⟩, h₁, hok⟩ := except_bind_ok.mp hok
    obtain ⟨cl₁, -, hok⟩ := except_bind_ok.mp hok
    obtain ⟨cl₂, -, hok⟩ := except_bind_ok.mp hok
    obtain ⟨-, rfl⟩ := Prod.mk.inj (Except.ok.inj hok)
    exact hkeyed.askInners h₁
  · unfold Client.authPSK at hok
    obtain ⟨⟨s₁, in₁⟩, h₁, hok⟩ := except_bind_ok.mp hok
    obtain ⟨cl₁, -, hok⟩ := except_bind_ok.mp hok
    obtain ⟨-, rfl⟩ := Prod.mk.inj (Except.ok.inj hok)
    exact hkeyed.askInners h₁

/-- **A handshake keeps every SA under its own SPI.** -/
lemma Server.Keyed.connect {sys : System P}
    (hok : Veepin.IKE.connect c ini cfg dial s e hs = .ok sys) : sys.server.Keyed := by
  obtain ⟨⟨cl₁, s₁⟩, h₁, hok⟩ := except_bind_ok.mp hok
  obtain ⟨⟨cl₂, s₂⟩, h₂, hok⟩ := except_bind_ok.mp hok
  obtain ⟨⟨cl₃, s₃⟩, h₃, hok⟩ := except_bind_ok.mp hok
  obtain rfl := Except.ok.inj hok
  exact ((hkeyed.saInit h₁).afterSAInit h₂).auth h₃

end

end Keyed

/-! ## A handshake to try -/

/-- A responder that gives the same addresses to everyone, and permits AGGFRAG. -/
def giving (a : Assignment) : Config Unit where
  psk := [1]
  localID := ⟨idFQDN, []⟩
  iptfs := true
  assignAddr := some fun _ pools => (some a, pools)

/-- A client of it that wants AGGFRAG or not. -/
def wanting (iptfs : Bool) : ClientConfig where
  psk := [1]
  localID := ⟨idFQDN, []⟩
  iptfs
  dialled := ⟨idFQDN, []⟩

def hopDrawing (ikeSPI childSPI : ℕ) : Hop := ⟨initiatorAddr, true, drawing ikeSPI childSPI⟩

/-- The two of them connected, by means of a pre-shared key. -/
def connected (a : Assignment) (iptfs : Bool) : Except ClientError (System Unit) :=
  connect plainCrypto plainInitiator (wanting iptfs)
    ⟨initiatorAddr, initiatorAddr, initiatorAddr, 4500⟩ (newServer (giving a) () (some []) 0)
    (drawing 5 6) fun _ => hopDrawing 7 8

def dpdOnce : Exchange := ⟨.sendDPD, drawing 5 6, [hopDrawing 7 8]⟩

def rekeyOnce : Exchange := ⟨.rekeyChild, drawing 5 9, [hopDrawing 7 10]⟩

end Veepin.IKE
