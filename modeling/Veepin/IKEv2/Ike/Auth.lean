import Veepin.IKEv2.Ike.Session

/-!
# IKE_AUTH and IKE_INTERMEDIATE

The model of `internal/ikev2/ike/ike_auth.go`, of the responder's half of `intermediate.go` and of
the certificate checks in `certauth.go`.  `handleIKEAuth` authenticates the initiator in one of
three ways (a pre-shared key, a certificate, EAP over several rounds).
-/

namespace Veepin.IKE

variable (c : Crypto) {P : Type} (cfg : Config P)

/-- A request that has been opened. -/
structure Request where
  hdr : Header
  inners : List RawPayload
  remote : UDPAddr
  env : Env

/-- The message ID window moves on. -/
def IKESA.expectAfter (sa : IKESA) (r : Request) : IKESA :=
  { sa with recvMsgID := nextMsgID r.hdr.messageID }

@[simp] lemma core_expectAfter (sa : IKESA) (r : Request) : (sa.expectAfter r).core = sa.core := rfl

/-! ## IKE_INTERMEDIATE -/

/-- `kemEncapsulate`: ciphertext and shared secret. -/
def kemEncapsulate (group : ℕ) (peerPublic : Bytes) (env : Env) : Option (Bytes × Bytes) :=
  if group ≠ mlkem768 then none else c.kemEncapsulate env.kemSeed peerPublic

/-- The response to a key encapsulation. -/
def intermediateReply (ke : KEPayload) (ct : Bytes) : List RawPayload :=
  [⟨typeKE, false, marshalKE ⟨ke.group, ct⟩⟩]

/-- The SA after an additional key exchange with the given secret: both authentication chains take
up their message under the old keys, then the keys change. -/
def IKESA.afterKEM (sa : IKESA) (r : Request) (reqInner : Bytes) (reply : List RawPayload)
    (shared : Bytes) : IKESA :=
  { sa with
    intAuthI := chainIntAuth c sa.suite sa.keys.skpi sa.intAuthI
      (intAuthBlob { r.hdr with flags := flagInitiator } (firstType r.inners) reqInner)
    intAuthR := chainIntAuth c sa.suite sa.keys.skpr sa.intAuthR
      (intAuthBlob
        { initiatorSPI := sa.initiatorSPI, responderSPI := sa.responderSPI
          exchangeType := ikeIntermediate, flags := flagResponse, messageID := r.hdr.messageID }
        (build reply).firstType (build reply).buf)
    keys := rekeyFromAdditionalExchange c sa.suite sa.keys shared sa.ni sa.nr sa.initiatorSPI
      sa.responderSPI
    state := .intermediate
    recvMsgID := nextMsgID sa.recvMsgID }

def handleIKEIntermediate (sa : IKESA) (r : Request) (pools : P) : Outcome P :=
  if sa.state ≠ .saInitDone ∧ sa.state ≠ .intermediate then silent sa pools
  else if sa.addkeGroup = 0 then refuse sa pools invalidSyntax
  else
    match findInner r.inners typeKE with
    | none => refuse sa pools invalidSyntax
    | some kePay =>
      match parseKE kePay.body with
      | none => silent sa pools
      | some ke =>
        if ke.group ≠ sa.addkeGroup then refuse sa pools invalidSyntax
        else
          match kemEncapsulate c ke.group ke.keyData r.env with
          | none => refuse sa pools invalidSyntax
          | some (ct, shared) =>
            match reencodeInners r.inners with
            | none => silent sa pools
            | some reqInner =>
              let reply := intermediateReply ke ct
              respond (sa.afterKEM c r reqInner reply shared) pools reply

/-! ## Addresses -/

/-- `bytes.Compare(a, b) <= 0`. -/
def bytesLE : Bytes → Bytes → Bool
  | [], _ => true
  | _ :: _, [] => false
  | a :: as, b :: bs => if a < b then true else if b < a then false else bytesLE as bs

def ipInRange (ip start stop : Bytes) : Bool :=
  match to4 ip with
  | some v4 =>
    match to4 start, to4 stop with
    | some s4, some e4 => bytesLE s4 v4 && bytesLE v4 e4
    | _, _ => false
  | none =>
    match to4 start, to16 start, to16 stop with
    | none, some s16, some e16 =>
      bytesLE s16 ((to16 ip).getD []) && bytesLE ((to16 ip).getD []) e16
    | _, _, _ => false

/-- The template for one family: the first selector that contains the address, or else the first of
the family. -/
def tsTemplate (tsi : List TrafficSelector) (typ : UInt8) (addr : Bytes) : Option TrafficSelector :=
  let fam := tsi.filter fun sel => sel.type == typ
  (fam.find? fun sel => ipInRange addr sel.startAddr sel.endAddr) <|> fam.head?

/-- The selector for one assigned address. -/
def narrowFamily (tsi : List TrafficSelector) (typ : UInt8) (addr : Option Bytes) :
    List TrafficSelector :=
  match addr with
  | none => []
  | some a => ((tsTemplate tsi typ a).map fun t => { t with startAddr := a, endAddr := a }).toList

/-- `narrowTSiToAssignment`; `none` is "nothing changed". -/
def narrowTSiToAssignment (tsi : List TrafficSelector) (sa : IKESA) :
    Option (List TrafficSelector) :=
  let out := narrowFamily tsi tsIPv4AddrRange sa.clientIP ++
    narrowFamily tsi tsIPv6AddrRange sa.clientIP6
  if out = [] then none
  else some (out ++ tsi.filter fun sel =>
    !((sel.type == tsIPv4AddrRange && sa.clientIP.isSome) ||
      (sel.type == tsIPv6AddrRange && sa.clientIP6.isSome)))

def requestedFamilies (req : CPPayload) : AddressRequest :=
  let ip4 := req.attrs.any fun a => a.type == cfgInternalIP4Address
  let ip6 := req.attrs.any fun a => a.type == cfgInternalIP6Address
  ⟨ip4 || (!ip4 && !ip6), ip6⟩

/-- The attribute of one resolver. -/
def dnsAttr (d : Bytes) : Option CFGAttr :=
  match to4 d with
  | some v4 => some ⟨cfgInternalIP4DNS, v4⟩
  | none => (to16 d).map (⟨cfgInternalIP6DNS, ·⟩)

/-- The CFG_REPLY for an assignment. -/
def cpReply (a : Assignment) : CPPayload :=
  ⟨cfgReply,
    (match a.ip4 with
      | none => []
      | some ip => [⟨cfgInternalIP4Address, (to4 ip).getD []⟩] ++
          (a.netmask.map fun m => ⟨cfgInternalIP4Netmask, (to4 m).getD []⟩).toList) ++
    (a.ip6.map fun ip =>
      ⟨cfgInternalIP6Address, (to16 ip).getD [] ++ [UInt8.ofNat a.prefix6]⟩).toList ++
    a.dns.filterMap dnsAttr⟩

/-- `buildCPReply`: the SA with the address it was given, the pools, and the reply. -/
def buildCPReply (sa : IKESA) (pools : P) (cpBody : Option Bytes) : IKESA × P × List RawPayload :=
  match cpBody, cfg.assignAddr with
  | some body, some assign =>
    match parseCP body with
    | none => (sa, pools, [])
    | some req =>
      if req.type ≠ cfgRequest then (sa, pools, [])
      else
        match assign (requestedFamilies req) pools with
        | (none, pools) => (sa, pools, [])
        | (some a, pools) =>
          if a.ip4 = none ∧ a.ip6 = none then (sa, pools, [])
          else
            ({ sa with clientIP := a.ip4, clientIP6 := a.ip6, assigned := a }, pools,
              [⟨typeCP, false, marshalCP (cpReply a)⟩])
  | _, _ => (sa, pools, [])

/-! ## Child SAs -/

/-- `setupChildSA`, with the nonces of the exchange. -/
def setupChildSA (sa : IKESA) (es : ESPSuite) (accepted : Proposal) (tsiBody tsrBody ni nr : Bytes)
    (env : Env) : ChildSA × Proposal :=
  let enc := es.cipher.keyLen
  let integ := (es.integ.map Integrity.keyLen).getD 0
  let km := deriveChildKeys c sa.suite sa.keys.skd ni nr (2 * enc + 2 * integ)
  let slice := fun off n => (km.drop off).take n
  ({ inboundSPI := env.childSPI
     outboundSPI := if accepted.spi.length = 4 then be32 accepted.spi 0 else 0
     suite := es
     encrIn := slice 0 enc
     integIn := slice enc integ
     encrOut := slice (enc + integ) enc
     integOut := slice (2 * enc + integ) integ
     tsi := (parseTS tsiBody).1
     tsr := (parseTS tsrBody).1 },
    { accepted with spi := putBE32 env.childSPI })

/-- `aggfrag.ParseFlags`, then `Unsupported`: the flags the initiator requires, if we can meet
them. -/
def acceptAggFrag (inners : List RawPayload) : Option UInt8 :=
  match findNotify inners useAggFrag with
  | none => none
  | some n =>
    if n.data.length ≠ 1 then none
    else if n.data.getD 0 0 &&& 0xfe ≠ 0 then none
    else some (n.data.getD 0 0)

/-- The flags of AGGFRAG, where the configuration permits it. -/
def Config.aggFragFlags (inners : List RawPayload) : Option UInt8 :=
  if cfg.iptfs then acceptAggFrag inners else none

/-- The selectors of a Child SA after narrowing, and the TSi payload to answer with. -/
def ChildSA.narrowed (child : ChildSA) (sa : IKESA) (tsiBody : Bytes) : ChildSA × Bytes :=
  match narrowTSiToAssignment child.tsi sa with
  | none => (child, tsiBody)
  | some ts => ({ child with tsi := ts }, marshalTS ts)

/-- What is filled in when a Child SA goes up. -/
def ChildSA.placed (child : ChildSA) (sa : IKESA) (r : Request) : ChildSA :=
  { child with
    udpEncap := sa.udpEncap r.env, clientIP := sa.clientIP, clientIP6 := sa.clientIP6
    peerAddr := some r.remote }

/-- The Child SA is entered in its IKE SA. -/
def IKESA.enter (sa : IKESA) (child : ChildSA) : IKESA :=
  { sa with children := sa.children.insert child.inboundSPI child }

/-- The Child SA goes up: it is entered, and handed to the data path. -/
def installChild (sa : IKESA) (child : ChildSA) (pools : P) (reply : List RawPayload) :
    Outcome P :=
  { respond (sa.enter child) pools reply with
    effects := if cfg.dataPath then [.addChild (sa.enter child) child] else [] }

/-! ## The end of IKE_AUTH -/

/-- The three payloads of a Child SA request. -/
structure ChildRequest where
  sa : Bytes
  tsi : Bytes
  tsr : Bytes

/-- A payload of this message, or else the copy saved from the first IKE_AUTH. -/
def savedOr (inners : List RawPayload) (t : UInt8) (saved : Option Bytes) : Option Bytes :=
  ((findInner inners t).map RawPayload.body) <|> saved

/-- The Child SA request that is to be answered. -/
def IKESA.childRequest (sa : IKESA) (inners : List RawPayload) : Option ChildRequest := do
  let saBody ← savedOr inners typeSA sa.eapSApay
  let tsi ← savedOr inners typeTSi sa.eapTSipay
  let tsr ← savedOr inners typeTSr sa.eapTSrpay
  return ⟨saBody, tsi, tsr⟩

/-- The Child SA that is agreed, with the proposal to echo. -/
def agreeChild (sa : IKESA) (q : ChildRequest) (env : Env) : Option (ChildSA × Proposal) := do
  let props ← parseSA q.sa
  let (es, accepted) ← selectESPSuite props
  return setupChildSA c sa es accepted q.tsi q.tsr sa.ni sa.nr env

/-- The SA at the end of IKE_AUTH. -/
def IKESA.establish (sa : IKESA) (r : Request) : IKESA :=
  { sa with state := .established, recvMsgID := nextMsgID r.hdr.messageID }

/-- The Child SA half of `finishIKEAuth`; `b` is the response so far. -/
def finishChild (sa : IKESA) (r : Request) (pools : P) (b : List RawPayload) : Outcome P :=
  match sa.childRequest r.inners with
  | none => respond (sa.establish r) pools b
  | some q =>
    match agreeChild c sa q r.env with
    | none => respond (sa.establish r) pools (b ++ [notifyPayload { type := tsUnacceptable }])
    | some (child, accepted) =>
      let (child, tsiBody) := child.narrowed sa q.tsi
      let reply := b ++ [⟨typeSA, false, marshalSA [accepted]⟩, ⟨typeTSi, false, tsiBody⟩,
        ⟨typeTSr, false, q.tsr⟩]
      match cfg.aggFragFlags r.inners with
      | none => installChild cfg (sa.establish r) (child.placed sa r) pools reply
      | some flags =>
        installChild cfg (sa.establish r)
          ({ child with
            aggFrag := true, aggFragFlags := flags, iptfsRate := cfg.iptfsRate }.placed sa r)
          pools (reply ++ [notifyPayload { type := useAggFrag, data := [0] }])

/-- MOBIKE is on once the peer has advertised it. -/
def IKESA.confirmMobike (sa : IKESA) : IKESA :=
  { sa with mobikeEnabled := sa.peerMobike || sa.mobikeEnabled }

def finishIKEAuth (sa : IKESA) (r : Request) (pools : P) (b : List RawPayload) : Outcome P :=
  let b := b ++ if sa.peerMobike then [notifyPayload { type := mobikeSupported }] else []
  let (sa, pools, cp) := buildCPReply cfg sa.confirmMobike pools
    (savedOr r.inners typeCP sa.eapCPpay)
  finishChild c cfg sa r pools (b ++ cp)

/-! ## Signed octets -/

/-- What the initiator signs. -/
def IKESA.initiatorOctets (sa : IKESA) : Bytes :=
  authOctets c sa.suite sa.initiatorSAInit sa.nr sa.keys.skpi sa.idiForAuth sa.intAuth

/-- What this responder signs. -/
def IKESA.responderOctets (sa : IKESA) : Bytes :=
  authOctets c sa.suite sa.responderSAInit sa.ni sa.keys.skpr (marshalID cfg.localID) sa.intAuth

/-- An AUTH payload keyed by a shared key. -/
def IKESA.sharedKeyAuth (sa : IKESA) (key : Bytes) : RawPayload :=
  ⟨typeAUTH, false, marshalAuth ⟨authSharedKeyMIC, pskAuth c sa.suite key
    (sa.responderOctets c cfg)⟩⟩

/-- Our identity. -/
def Config.idr : RawPayload := ⟨typeIDr, false, marshalID cfg.localID⟩

/-! ## Certificates -/

/-- `net.IP.Equal`. -/
def ipEqual (a b : Bytes) : Bool :=
  a == b || (a.length == 4 && b == v4InV6Head ++ a) || (b.length == 4 && a == v4InV6Head ++ b)

/-- `certMatchesID`.  An identity of a type that a certificate cannot carry is not compared. -/
def certMatchesID (cert : Cert) (id : IDPayload) : Bool :=
  if id.type = idFQDN then cert.dnsNames.contains id.data
  else if id.type = idRFC822 then cert.emailAddresses.contains id.data
  else if id.type = idIPv4Addr ∨ id.type = idIPv6Addr then
    cert.ipAddresses.any fun ip => ipEqual ip id.data
  else if id.type = idDERASN1DN then cert.rawSubject == id.data
  else true

def checkableIDType (t : UInt8) : Bool :=
  t == idFQDN || t == idRFC822 || t == idIPv4Addr || t == idIPv6Addr || t == idDERASN1DN

/-- The DER octets of one CERT payload. -/
def certDER (p : RawPayload) : Option Bytes := do
  let cert ← parseCert p.body
  if cert.encoding ≠ certX509Signature then none
  return cert.data

/-- `parseCertChain`: the leaf and the intermediates. -/
def parseCertChain (certs : List RawPayload) : Option (Bytes × List Bytes) :=
  match certs.mapM certDER with
  | some (leaf :: intermediates) => if leaf = [] then none else some (leaf, intermediates)
  | _ => none

/-- The leaf that the initiator presented, chained to `ClientCAs`. -/
def Config.peerLeaf (inners : List RawPayload) : Option Cert := do
  let cas ← cfg.clientCAs
  if cfg.serverCred.isNone then none
  let (leaf, intermediates) ← parseCertChain (findAllInner inners typeCERT)
  c.verifyPeerCertChain leaf intermediates cas

/-- The checks of `handleCertAuth` on the initiator's certificate and signature. -/
def certAuthOK (sa : IKESA) (inners : List RawPayload) (auth : AuthPayload) : Bool :=
  match cfg.peerLeaf c inners with
  | none => false
  | some leaf =>
    certMatchesID leaf sa.peerID &&
      (!cfg.requirePostQuantumAuth || c.isMLDSA leaf.publicKey) &&
      c.verifyAuth leaf.publicKey auth.method (sa.initiatorOctets c) auth.data

def handleCertAuth (sa : IKESA) (r : Request) (auth : AuthPayload) (pools : P) : Outcome P :=
  if !certAuthOK c cfg sa r.inners auth then refuse sa pools authenticationFailed
  else
    match cfg.serverCred with
    | none => refuse sa pools authenticationFailed
    | some cred =>
      match c.signAuth cred.key (sa.responderOctets c cfg) sa.peerSigHashes with
      | none => refuse sa pools authenticationFailed
      | some (method, data) =>
        finishIKEAuth c cfg sa r pools
          ([cfg.idr] ++
            (cred.chain.map fun der =>
              ⟨typeCERT, false, marshalCert ⟨certX509Signature, der⟩⟩) ++
            [⟨typeAUTH, false, marshalAuth ⟨method, data⟩⟩])

/-! ## EAP -/

/-- A copy of a payload's body: `nil` if it is empty. -/
def copyBody (body : Bytes) : Option Bytes := if body = [] then none else some body

/-- The copy of a payload that is kept for the end of EAP. -/
def savePayload (inners : List RawPayload) (t : UInt8) (old : Option Bytes) : Option Bytes :=
  match findInner inners t with
  | none => old
  | some p => copyBody p.body

def handleEAPStart (sa : IKESA) (r : Request) (pools : P) : Outcome P :=
  match r.env.challenge with
  | none => refuse sa pools authenticationFailed
  | some draw =>
    let (srv, challenge) := beginEap 1 cfg.eapServerName (octets draw 16)
    respond
      { sa with
        eapServer := some srv
        eapSApay := savePayload r.inners typeSA sa.eapSApay
        eapTSipay := savePayload r.inners typeTSi sa.eapTSipay
        eapTSrpay := savePayload r.inners typeTSr sa.eapTSrpay
        eapCPpay := savePayload r.inners typeCP sa.eapCPpay
        recvMsgID := nextMsgID r.hdr.messageID }
      pools [cfg.idr, sa.sharedKeyAuth c cfg cfg.psk, ⟨typeEAP, false, challenge.marshal⟩]

def handleEAPFinalAuth (sa : IKESA) (r : Request) (msk : Bytes) (pools : P) : Outcome P :=
  match findInner r.inners typeAUTH with
  | none => refuse sa pools authenticationFailed
  | some authPay =>
    match parseAuth authPay.body with
    | none => refuse sa pools invalidSyntax
    | some auth =>
      if pskAuth c sa.suite msk (sa.initiatorOctets c) ≠ auth.data then
        refuse sa pools authenticationFailed
      else finishIKEAuth c cfg sa r pools [sa.sharedKeyAuth c cfg msk]

/-- The lookup of credentials. -/
def Config.lookup : Bytes → Option Bytes := cfg.eapCredentials.getD fun _ => none

/-- The SA after a packet of the peer. -/
def IKESA.afterEap (sa : IKESA) (t : EapTurn) : IKESA :=
  { sa with
    eapServer := some t.server
    eapMSK := if !t.err && t.done && t.server.result.success then some t.server.result.msk
      else sa.eapMSK }

def handleEAPContinue (sa : IKESA) (srv : EapServer) (r : Request) (pools : P) : Outcome P :=
  let sa := sa.expectAfter r
  match sa.eapMSK with
  | some msk => handleEAPFinalAuth c cfg sa r msk pools
  | none =>
    match findInner r.inners typeEAP with
    | none => refuse sa pools authenticationFailed
    | some eapPay =>
      match parseEap eapPay.body with
      | none => refuse sa pools authenticationFailed
      | some resp =>
        let t := srv.handlePeer c cfg.lookup cfg.eapServerName resp
        respond (sa.afterEap t) pools [⟨typeEAP, false, t.next.marshal⟩]

/-! ## IKE_AUTH -/

/-- The first IKE_AUTH is the one that the authentication chain commits to. -/
def IKESA.firstAuth (sa : IKESA) (r : Request) : IKESA :=
  { sa with ikeAuthMsgID := r.hdr.messageID }

/-- The SA once the initiator has said who it is. -/
def IKESA.identified (sa : IKESA) (r : Request) (idi : IDPayload) : IKESA :=
  { sa.firstAuth r with
    peerID := idi
    idiForAuth := marshalID idi
    peerMobike := (findNotify r.inners mobikeSupported).isSome }

@[simp] lemma core_firstAuth (sa : IKESA) (r : Request) : (sa.firstAuth r).core = sa.core := rfl

@[simp] lemma core_identified (sa : IKESA) (r : Request) (idi : IDPayload) :
    (sa.identified r idi).core = sa.core := rfl

/-- EAP is on offer: it is not refused for its primitives, there are credentials to look up, and a
PSK for our own authentication. -/
def Config.offersEAP : Bool :=
  !cfg.requirePostQuantumAuth && cfg.eapCredentials.isSome && !cfg.psk.isEmpty

/-- IKE_AUTH with an AUTH payload. -/
def handleAuthPayload (sa : IKESA) (r : Request) (auth : AuthPayload) (pools : P) : Outcome P :=
  if auth.method = authDigitalSig ∨ auth.method = authRSASig then
    if cfg.requirePostQuantumAuth ∧ auth.method = authRSASig then
      refuse sa pools authenticationFailed
    else handleCertAuth c cfg sa r auth pools
  else if auth.method ≠ authSharedKeyMIC then refuse sa pools authenticationFailed
  else if !verifyPeerPSKAuth c sa.suite cfg.psk sa.initiatorSAInit sa.nr sa.keys.skpi
      sa.idiForAuth sa.intAuth auth.data then
    refuse sa pools authenticationFailed
  else finishIKEAuth c cfg sa r pools [cfg.idr, sa.sharedKeyAuth c cfg cfg.psk]

def handleIKEAuth (sa : IKESA) (r : Request) (pools : P) : Outcome P :=
  match sa.eapServer with
  | some srv => handleEAPContinue c cfg sa srv r pools
  | none =>
    match findInner r.inners typeIDi with
    | none => refuse (sa.firstAuth r) pools authenticationFailed
    | some idiPay =>
      match parseID idiPay.body with
      | none => refuse (sa.firstAuth r) pools invalidSyntax
      | some idi =>
        let sa := sa.identified r idi
        match findInner r.inners typeAUTH with
        | none =>
          if cfg.offersEAP then handleEAPStart c cfg sa r pools
          else refuse sa pools authenticationFailed
        | some authPay =>
          match parseAuth authPay.body with
          | none => refuse sa pools invalidSyntax
          | some auth => handleAuthPayload c cfg sa r auth pools

end Veepin.IKE
