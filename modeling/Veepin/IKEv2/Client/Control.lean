import Veepin.IKEv2.Ike.Server

/-!
# The initiator and its control exchanges

The model of the client's state in `internal/ikev2/ike/client.go` and of the exchanges it runs once
the tunnel is up: `SendDPD` (`liveness.go`), `RekeyChild`, `RekeyIKE` and `DeleteChildSA`
(`rekey.go`), and `Roam`.

A call sends a request and waits.  It is cut where it waits: `Client.start` is the part before,
`Client.finish` the part after, and a `Pending` holds the variables that live across.  `RekeyIKE`
waits twice, so the end of its first half is another request.  `exchMu` is held over the whole call,
so no other exchange comes in between.

`Client.seal` puts a request into datagrams, and `Client.recvRound` is what one received datagram
leads to in the loop of `recvInnersFrom`, which looks neither at the SPIs nor at the message ID.
-/

namespace Veepin.IKE

variable (c : Crypto)

/-! ## State -/

/-- What a call on the client returns instead of a result. -/
inductive ClientError
  | notAttached
  | noChildSA
  | overTCP
  | noMobike
  | noDH
  | sealing
  | timeout
  | malformed
  | serverNotify (n : ℕ)
  | authFailed
  | notFragmented
  | reassembly
  | noSK
  | decrypt
  | missingPayloads
  | noSuite
  | noSPI
  | groupMismatch
  | noSecret
  | cookie2
  | postQuantumRequired
  | wrongAnswer
  | kem
  | invalidCert
  | identity
  | noEAP
  | noAddress
  deriving DecidableEq, Repr

/-- `ClientConfig`.  `clientCert` is the credential made from `ClientCert`, if that is valid, and
`dialled` the identity of the host that was dialled. -/
structure ClientConfig where
  psk : Bytes := []
  localID : IDPayload
  remoteID : Option IDPayload := none
  eapUsername : Bytes := []
  eapPassword : Bytes := []
  clientCert : Option (Option CertCredential) := none
  caRoots : Option (List Bytes) := none
  postQuantum : Bool := false
  postQuantumAuth : Bool := false
  requirePostQuantum : Bool := false
  iptfs : Bool := false
  iptfsRate : ℤ := 0
  tcp : Bool := false
  dialled : IDPayload

structure ClientResult where
  assignedIP : Option Bytes := none
  netmask : Option Bytes := none
  assignedIP6 : Option Bytes := none
  prefix6 : ℕ := 0
  dns : List Bytes := []
  serverAddr : UDPAddr
  udpEncap : Bool
  inboundSPI : ℕ
  outboundSPI : ℕ := 0
  suite : ESPSuite
  encKeyOut : Bytes := []
  integKeyOut : Bytes := []
  encKeyIn : Bytes := []
  integKeyIn : Bytes := []
  aggFrag : Bool := false
  aggFragFlags : UInt8 := 0
  iptfsRate : ℤ := 0
  deriving DecidableEq, Repr

/-- `Client`, from IKE_SA_INIT on.  The inbox of an attached client is kept with the network. -/
structure Client where
  cfg : ClientConfig
  localAddr : UDPAddr
  remoteAddr : UDPAddr
  spiI : ℕ
  spiR : ℕ
  suite : Suite
  ni : Bytes
  nr : Bytes
  keys : SAKeys
  saInitReq : Bytes := []
  saInitResp : Bytes := []
  sendMsgID : ℕ := 0
  mobike : Bool := false
  addkeGroup : ℕ := 0
  intAuthI : Bytes := []
  intAuthR : Bytes := []
  authMsgID : ℕ := 0
  frag : Bool := false
  fragReasm : FragReassembler := {}
  peerSigHashes : List ℕ := []
  serverIDBody : Option Bytes := none
  result : Option ClientResult := none
  attached : Bool := false

/-! ## Sealing and opening -/

/-- A request: its exchange type, its message ID and its payloads. -/
structure Outgoing where
  exchangeType : UInt8
  msgID : ℕ
  inners : List RawPayload
  deriving DecidableEq, Repr

/-- The header that `seal` gives a request. -/
def Client.header (cl : Client) (o : Outgoing) : Header where
  initiatorSPI := cl.spiI
  responderSPI := cl.spiR
  version := 0x20
  exchangeType := o.exchangeType
  flags := flagInitiator
  messageID := o.msgID

def Client.seal (cl : Client) (o : Outgoing) (iv : ℕ → ℕ → UInt8) : Option (List Bytes) :=
  sealMaybeFragment c (cl.header o) cl.suite cl.keys .initiatorToResponder
    (build o.inners).firstType (build o.inners).buf cl.frag iv

/-- `findNotifyError` and `findInnerNotifyError`: the first notify of the error class. -/
def findNotifyError (ps : List RawPayload) : Option ℕ :=
  ((ps.filterMap fun p => if p.type = typeNotify then parseNotify p.body else none).find?
    fun n => decide (n.type < 16384) && n.type != 0).map NotifyPayload.type

/-- The first notify reports an error if its type is in the error class. -/
lemma findNotifyError_cons {n : NotifyPayload} (ht : n.type < 2 ^ 16) (hs : n.spi.length < 2 ^ 8)
    (ps : List RawPayload) :
    findNotifyError (notifyPayload n :: ps) =
      if n.type < 16384 ∧ n.type ≠ 0 then some n.type else findNotifyError ps := by
  rw [findNotifyError, List.filterMap_cons, parse_notifyPayload ht hs, List.find?_cons]
  by_cases h : n.type < 16384 ∧ n.type ≠ 0
  · rw [if_pos h, show (decide (n.type < 16384) && n.type != 0) = true by simpa using h]
    rfl
  · rw [if_neg h, show (decide (n.type < 16384) && n.type != 0) = false by simpa using h]
    rfl

/-- The inner payloads of an answer, unless they report an error. -/
def checkInners (inners : List RawPayload) : Except ClientError (List RawPayload) :=
  match findNotifyError inners with
  | none => .ok inners
  | some n => .error (if n = authenticationFailed then .authFailed else .serverNotify n)

lemma eq_of_checkInners {inners inners' : List RawPayload} (h : checkInners inners = .ok inners') :
    inners = inners' := by
  unfold checkInners at h
  split at h
  · exact Except.ok.inj h
  · cases h

/-- What one datagram leads to: an error, the wait for further fragments, or a message. -/
inductive Reading
  | failed (e : ClientError)
  | more
  | message (inners : List RawPayload)

/-- The end of a round, with the octets of a whole message. -/
def readInners (first : UInt8) (inner : Bytes) : Reading :=
  match parseInnerPayloads first inner with
  | none => .failed .malformed
  | some inners =>
    match checkInners inners with
    | .error e => .failed e
    | .ok inners => .message inners

/-- One round of `recvInnersFrom`: the reassembler afterwards, and what the datagram led to. -/
def Client.recvRound (cl : Client) (now : ℤ) (raw : Bytes) : FragReassembler × Reading :=
  match parseMessage raw with
  | none => (cl.fragReasm, .failed .malformed)
  | some msg =>
    match findNotifyError msg.payloads with
    | some n => (cl.fragReasm, .failed (.serverNotify n))
    | none =>
      match findInner msg.payloads typeSKF with
      | some skf =>
        if !cl.frag then (cl.fragReasm, .failed .notFragmented)
        else
          match decryptSKF c raw skf cl.suite cl.keys .responderToInitiator with
          | none => (cl.fragReasm, .failed .decrypt)
          | some (fragNum, total, first, chunk) =>
            match cl.fragReasm.add now msg.header.messageID fragNum total first chunk with
            | (frag, .error) => (frag, .failed .reassembly)
            | (frag, .pending) => (frag, .more)
            | (frag, .complete inner first) => (frag, readInners first inner)
      | none =>
        match findInner msg.payloads typeSK with
        | none => (cl.fragReasm, .failed .noSK)
        | some sk =>
          match decryptSK c raw sk cl.suite cl.keys .responderToInitiator with
          | none => (cl.fragReasm, .failed .decrypt)
          | some (first, inner) => (cl.fragReasm, readInners first inner)

/-! ## Child SAs -/

/-- The suite and the keys of a Child SA as the initiator has them: it sends under the first half of
the key material. -/
def ClientResult.keyed (res : ClientResult) (es : ESPSuite) (km : Bytes) : ClientResult :=
  let enc := es.cipher.keyLen
  let integ := (es.integ.map Integrity.keyLen).getD 0
  let slice := fun off n => (km.drop off).take n
  { res with
    suite := es
    encKeyOut := slice 0 enc
    integKeyOut := slice enc integ
    encKeyIn := slice (enc + integ) enc
    integKeyIn := slice (2 * enc + integ) integ }

/-- The length of the key material of a Child SA. -/
def ESPSuite.keyMatLen (es : ESPSuite) : ℕ :=
  2 * es.cipher.keyLen + 2 * (es.integ.map Integrity.keyLen).getD 0

/-- The SPI in the first proposal, or zero. -/
def espSPI (props : List Proposal) : ℕ :=
  match props.head? with
  | none => 0
  | some p => if p.spi.length = 4 then be32 p.spi 0 else 0

def allTrafficV4 : TrafficSelector where
  type := tsIPv4AddrRange
  startAddr := [0, 0, 0, 0]
  endAddr := [255, 255, 255, 255]

def allTrafficV6 : TrafficSelector where
  type := tsIPv6AddrRange
  startAddr := List.replicate 16 0
  endAddr := List.replicate 16 255

/-! ## Calls that wait -/

/-- The IKE SA that a rekey has agreed on. -/
structure NewIKESA where
  spiI : ℕ
  spiR : ℕ
  suite : Suite
  keys : SAKeys
  ni : Bytes
  nr : Bytes

/-- A call that waits for an answer. -/
inductive Pending
  | sendDPD (msgID : ℕ)
  | deleteChildSA (msgID : ℕ)
  | rekeyChild (msgID inSPI : ℕ) (ni : Bytes) (old : ClientResult)
  | rekeyIKE (msgID spiI : ℕ) (dhSeed ni : Bytes)
  | deleteOldIKESA (new : NewIKESA)
  | roam (msgID : ℕ) (cookie : Bytes) (localAddr : UDPAddr)

/-- What comes after an answer: the call returns, or sends again. -/
inductive Next
  | done (cl : Client)
  | again (p : Pending) (o : Outgoing)

/-- `SendDPD`, until it waits. -/
def Client.sendDPD (cl : Client) : Except ClientError (Pending × Outgoing) :=
  if !cl.attached then .error .notAttached
  else .ok (.sendDPD cl.sendMsgID, ⟨informational, cl.sendMsgID, []⟩)

/-- The payload of `DeleteChildSA`. -/
def deletePayload (inSPI : ℕ) : RawPayload :=
  ⟨typeDelete, false, marshalDelete ⟨protoESP, 4, [putBE32 inSPI]⟩⟩

/-- `DeleteChildSA`, until it waits. -/
def Client.deleteChildSA (cl : Client) (inSPI : ℕ) : Except ClientError (Pending × Outgoing) :=
  if !cl.attached then .error .notAttached
  else .ok (.deleteChildSA cl.sendMsgID, ⟨informational, cl.sendMsgID, [deletePayload inSPI]⟩)

/-- The payloads of `RekeyChild`. -/
def rekeyChildPayloads (oldOutSPI newInSPI : ℕ) (ni : Bytes) : List RawPayload :=
  [notifyPayload { protocol := protoESP, type := rekeySA, spi := putBE32 oldOutSPI },
    ⟨typeSA, false, marshalSA (defaultESPProposals (putBE32 newInSPI))⟩, ⟨typeNonce, false, ni⟩,
    ⟨typeTSi, false, marshalTS [allTrafficV4]⟩, ⟨typeTSr, false, marshalTS [allTrafficV4]⟩]

/-- `RekeyChild`, until it waits. -/
def Client.rekeyChild (cl : Client) (e : Env) : Except ClientError (Pending × Outgoing) :=
  if !cl.attached then .error .notAttached
  else
    match cl.result with
    | none => .error .noChildSA
    | some old =>
      let ni := octets e.nonce 32
      .ok (.rekeyChild cl.sendMsgID e.childSPI ni old,
        ⟨createChildSA, cl.sendMsgID, rekeyChildPayloads old.outboundSPI e.childSPI ni⟩)

/-- `RekeyChild`, from the answer on. -/
def Client.finishRekeyChild (cl : Client) (msgID inSPI : ℕ) (ni : Bytes) (old : ClientResult)
    (inners : List RawPayload) : Except ClientError Client :=
  match findInner inners typeSA, findInner inners typeNonce with
  | some saPay, some noncePay =>
    match parseSA saPay.body with
    | none => .error .malformed
    | some props =>
      match selectESPSuite props with
      | none => .error .noSuite
      | some (es, _) =>
        if espSPI props = 0 then .error .noSPI
        else
          let km := deriveChildKeys c cl.suite cl.keys.skd ni noncePay.body es.keyMatLen
          .ok { cl with
            sendMsgID := nextMsgID msgID
            result := some (({ old with
              inboundSPI := inSPI, outboundSPI := espSPI props }).keyed es km) }
  | _, _ => .error .missingPayloads

/-- The payloads of `RekeyIKE`. -/
def rekeyIKEPayloads (newSPIi dhID : ℕ) (ni pub : Bytes) : List RawPayload :=
  [⟨typeSA, false, marshalSA (defaultIKEProposals (putBE64 newSPIi))⟩, ⟨typeNonce, false, ni⟩,
    ⟨typeKE, false, marshalKE ⟨dhID, pub⟩⟩]

/-- `RekeyIKE`, until it waits for the first time. -/
def Client.rekeyIKE (cl : Client) (e : Env) : Except ClientError (Pending × Outgoing) :=
  if !cl.attached then .error .notAttached
  else if !supportedDH cl.suite.dhID then .error .noDH
  else
    match c.dhPublic cl.suite.dhID e.dhSeed with
    | none => .error .noDH
    | some pub =>
      let ni := octets e.nonce 32
      .ok (.rekeyIKE cl.sendMsgID e.ikeSPI e.dhSeed ni,
        ⟨createChildSA, cl.sendMsgID, rekeyIKEPayloads e.ikeSPI cl.suite.dhID ni pub⟩)

/-- What `RekeyIKE` reads from the answer. -/
def Client.agreeRekeyIKE (cl : Client) (newSPIi : ℕ) (dhSeed ni : Bytes)
    (inners : List RawPayload) : Except ClientError NewIKESA :=
  match findInner inners typeSA, findInner inners typeNonce, findInner inners typeKE with
  | some saPay, some noncePay, some kePay =>
    match parseSA saPay.body with
    | none => .error .malformed
    | some props =>
      match selectIKESuite props with
      | none => .error .noSuite
      | some (suite, _) =>
        match props.head? with
        | none => .error .noSPI
        | some first =>
          if first.spi.length ≠ 8 then .error .noSPI
          else
            match parseKE kePay.body with
            | none => .error .malformed
            | some ke =>
              if ke.group ≠ suite.dhID then .error .groupMismatch
              else
                match c.dhSecret cl.suite.dhID dhSeed ke.keyData with
                | none => .error .noSecret
                | some shared =>
                  let spiR := be64 first.spi 0
                  .ok
                    { spiI := newSPIi
                      spiR
                      suite
                      keys := deriveRekeyedIKEKeys c suite cl.keys.skd shared ni
                        noncePay.body newSPIi spiR
                      ni
                      nr := noncePay.body }
  | _, _, _ => .error .missingPayloads

/-- The payload of `deleteOldIKESA`. -/
def deleteIKEPayload : RawPayload := ⟨typeDelete, false, marshalDelete ⟨protoIKE, 0, []⟩⟩

/-- The swap at the end of `RekeyIKE`: message IDs start from zero. -/
def Client.adopt (cl : Client) (new : NewIKESA) : Client :=
  { cl with
    spiI := new.spiI
    spiR := new.spiR
    suite := new.suite
    keys := new.keys
    ni := new.ni
    nr := new.nr
    sendMsgID := 0 }

/-- The payloads of `sendUpdateSAAddresses`. -/
def Client.updatePayloads (cl : Client) (localAddr : UDPAddr) (cookie : Bytes) : List RawPayload :=
  [notifyPayload { type := updateSAAddresses },
    notifyPayload { type := natDetectionSourceIP
                    data := natDetectionHash c cl.spiI cl.spiR localAddr.ip localAddr.port },
    notifyPayload { type := natDetectionDestinationIP
                    data := natDetectionHash c cl.spiI cl.spiR cl.remoteAddr.ip
                      cl.remoteAddr.port },
    notifyPayload { type := cookie2, data := cookie }]

/-- `Roam` from a new local address, until it waits. -/
def Client.roam (cl : Client) (localAddr : UDPAddr) (e : Env) :
    Except ClientError (Pending × Outgoing) :=
  if cl.cfg.tcp then .error .overTCP
  else if !cl.mobike then .error .noMobike
  else
    let cookie := octets e.nonce 16
    .ok (.roam cl.sendMsgID cookie localAddr,
      ⟨informational, cl.sendMsgID, cl.updatePayloads c localAddr cookie⟩)

/-- The control exchanges. -/
inductive Control
  | sendDPD
  | rekeyChild
  | deleteChildSA (inSPI : ℕ)
  | rekeyIKE
  | roam (localAddr : UDPAddr)
  deriving DecidableEq, Repr

/-- A call, until it waits. -/
def Client.start (cl : Client) (op : Control) (e : Env) : Except ClientError (Pending × Outgoing) :=
  match op with
  | .sendDPD => cl.sendDPD
  | .rekeyChild => cl.rekeyChild e
  | .deleteChildSA inSPI => cl.deleteChildSA inSPI
  | .rekeyIKE => cl.rekeyIKE c e
  | .roam localAddr => cl.roam c localAddr e

/-- What a call waits with and what it sends. -/
inductive Started (cl : Client) : Control → Env → Pending → Outgoing → Prop
  | sendDPD (e : Env) : Started cl .sendDPD e (.sendDPD cl.sendMsgID)
      ⟨informational, cl.sendMsgID, []⟩
  | deleteChildSA (inSPI : ℕ) (e : Env) : Started cl (.deleteChildSA inSPI) e
      (.deleteChildSA cl.sendMsgID) ⟨informational, cl.sendMsgID, [deletePayload inSPI]⟩
  | rekeyChild (e : Env) (old : ClientResult) (hold : cl.result = some old) :
      Started cl .rekeyChild e (.rekeyChild cl.sendMsgID e.childSPI (octets e.nonce 32) old)
        ⟨createChildSA, cl.sendMsgID,
          rekeyChildPayloads old.outboundSPI e.childSPI (octets e.nonce 32)⟩
  | rekeyIKE (e : Env) (pub : Bytes) (hpub : c.dhPublic cl.suite.dhID e.dhSeed = some pub) :
      Started cl .rekeyIKE e (.rekeyIKE cl.sendMsgID e.ikeSPI e.dhSeed (octets e.nonce 32))
        ⟨createChildSA, cl.sendMsgID,
          rekeyIKEPayloads e.ikeSPI cl.suite.dhID (octets e.nonce 32) pub⟩
  | roam (localAddr : UDPAddr) (e : Env) : Started cl (.roam localAddr) e
      (.roam cl.sendMsgID (octets e.nonce 16) localAddr)
      ⟨informational, cl.sendMsgID, cl.updatePayloads c localAddr (octets e.nonce 16)⟩

variable {c} in
/-- **The inversion of a call's first half.** -/
lemma started {cl : Client} {op : Control} {e : Env} {p : Pending} {o : Outgoing}
    (h : cl.start c op e = .ok (p, o)) : Started c cl op e p o := by
  cases op with
  | sendDPD =>
    simp only [Client.start, Client.sendDPD] at h
    split_ifs at h
    cases h
    exact .sendDPD e
  | rekeyChild =>
    simp only [Client.start, Client.rekeyChild] at h
    split_ifs at h
    split at h
    · cases h
    · rename_i old hold
      cases h
      exact .rekeyChild e old hold
  | deleteChildSA inSPI =>
    simp only [Client.start, Client.deleteChildSA] at h
    split_ifs at h
    cases h
    exact .deleteChildSA inSPI e
  | rekeyIKE =>
    simp only [Client.start, Client.rekeyIKE] at h
    split_ifs at h
    split at h
    · cases h
    · rename_i pub hpub
      cases h
      exact .rekeyIKE e pub hpub
  | roam localAddr =>
    simp only [Client.start, Client.roam] at h
    split_ifs at h
    cases h
    exact .roam localAddr e

/-- A call, from the payloads of an answer on. -/
def Client.finish (cl : Client) (p : Pending) (inners : List RawPayload) :
    Except ClientError Next :=
  match p with
  | .sendDPD msgID | .deleteChildSA msgID => .ok (.done { cl with sendMsgID := nextMsgID msgID })
  | .rekeyChild msgID inSPI ni old =>
    (cl.finishRekeyChild c msgID inSPI ni old inners).map .done
  | .rekeyIKE msgID spiI dhSeed ni =>
    (cl.agreeRekeyIKE c spiI dhSeed ni inners).map fun new =>
      -- the delete goes out on the old SA, with the next message ID
      .again (.deleteOldIKESA new) ⟨informational, nextMsgID msgID, [deleteIKEPayload]⟩
  | .deleteOldIKESA new => .ok (.done (cl.adopt new))
  | .roam msgID cookie localAddr =>
    if (findNotify inners cookie2).map NotifyPayload.data = some cookie then
      .ok (.done { cl with sendMsgID := nextMsgID msgID, localAddr })
    else .error .cookie2

end Veepin.IKE
