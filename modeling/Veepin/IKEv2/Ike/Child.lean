import Veepin.IKEv2.Ike.Auth

/-!
# CREATE_CHILD_SA and INFORMATIONAL

The model of `internal/ikev2/ike/child_info.go` and of the responder's half of `mobike.go`.  Both
handlers advance the message ID before anything else, whatever comes of the request.

A rekey of the IKE SA moves the Child SAs and the assignment to a replacement SA and leaves the old
one behind in the state `deleting`.  What it detaches from the old SA is `Children` and `ClientIP`;
`ClientIP6` and the assignment stay.

Go walks the map of Child SAs in any order.  The model walks its entries; only the order of the
SPIs in one Delete payload and of calls on the data path depends on it.
-/

namespace Veepin.IKE

variable (c : Crypto) {P : Type} (cfg : Config P)

/-! ## CREATE_CHILD_SA -/

def tsiCoversLease (tsi : List TrafficSelector) (sa : IKESA) : Bool :=
  tsi.any fun sel => ([sa.clientIP, sa.clientIP6].filterMap id).any fun lease =>
    ipInRange lease sel.startAddr sel.endAddr

/-- The replacement of an IKE SA, as `handleRekeyIKE` builds it.  It has its own number in the order
of creation and continues the SA it replaces. -/
def IKESA.successor (sa : IKESA) (suite : Suite) (keys : SAKeys) (spiI spiR : ℕ) (remote : UDPAddr)
    (id : ℕ) : IKESA :=
  { id
    root := sa.root
    initiatorSPI := spiI
    responderSPI := spiR
    state := .established
    suite
    keys
    recvMsgID := 0
    remoteAddr := remote
    onPort4500 := sa.onPort4500
    nat := sa.nat
    mobikeEnabled := sa.mobikeEnabled
    fragEnabled := sa.fragEnabled
    clientIP := sa.clientIP
    clientIP6 := sa.clientIP6
    assigned := sa.assigned
    peerID := sa.peerID
    children := sa.children }

/-- The old SA after a rekey. -/
def IKESA.retired (sa : IKESA) : IKESA :=
  { sa with children := ∅, clientIP := none, state := .deleting }

/-- What `handleRekeyIKE` agrees on: the suite, the proposal to echo, our share and the secret. -/
structure RekeyAgreement where
  suite : Suite
  accepted : Proposal
  ourPub : Bytes
  shared : Bytes
  spiI : ℕ
  ni : Bytes

/-- The checks of `handleRekeyIKE`; `first` is the first proposal. -/
def agreeRekey (inners : List RawPayload) (props : List Proposal) (first : Proposal) (env : Env) :
    Except Refusal RekeyAgreement := do
  let noncePay ← need (findInner inners typeNonce) (.notify invalidSyntax [])
  let kePay ← need (findInner inners typeKE) (.notify invalidSyntax [])
  ensure (first.spi.length == 8) (.notify invalidSyntax [])
  let (suite, accepted) ← need (selectIKESuite props) (.notify noProposalChosen [])
  let ke ← need (parseKE kePay.body) (.notify invalidSyntax [])
  ensure (ke.group == suite.dhID) (.notify invalidKEPayload [])
  ensure (supportedDH suite.dhID) (.notify noProposalChosen [])
  let ourPub ← need (c.dhPublic suite.dhID env.dhSeed) .drop
  let shared ← need (c.dhSecret suite.dhID env.dhSeed ke.keyData) (.notify invalidSyntax [])
  return ⟨suite, accepted, ourPub, shared, be64 first.spi 0, noncePay.body⟩

def handleRekeyIKE (sa : IKESA) (r : Request) (props : List Proposal) (first : Proposal) (id : ℕ)
    (pools : P) : Outcome P :=
  match agreeRekey c r.inners props first r.env with
  | .error .drop => silent sa pools
  | .error (.notify nt _) => refuse sa pools nt
  | .ok a =>
    let nr := r.env.randomNonce a.suite.prfSize
    let keys := deriveRekeyedIKEKeys c a.suite sa.keys.skd a.shared a.ni nr a.spiI r.env.ikeSPI
    { respond sa.retired pools
        [⟨typeSA, false, marshalSA [{ a.accepted with spi := putBE64 r.env.ikeSPI }]⟩,
          ⟨typeNonce, false, nr⟩, ⟨typeKE, false, marshalKE ⟨a.suite.dhID, a.ourPub⟩⟩] with
      stored := some (sa.successor a.suite keys a.spiI r.env.ikeSPI r.remote id) }

/-- `handleCreateChildSA` for a proposal that is not IKE. -/
def handleNewChild (sa : IKESA) (r : Request) (props : List Proposal) (pools : P) : Outcome P :=
  match findInner r.inners typeNonce, findInner r.inners typeTSi, findInner r.inners typeTSr with
  | some noncePay, some tsiPay, some tsrPay =>
    let (tsi, ok) := parseTS tsiPay.body
    if !ok || !tsiCoversLease tsi sa then refuse sa pools tsUnacceptable
    else
      match selectESPSuite props with
      | none => refuse sa pools noProposalChosen
      | some (es, accepted) =>
        let nr := r.env.randomNonce sa.suite.prfSize
        let (child, accepted) := setupChildSA c sa es accepted tsiPay.body tsrPay.body
          noncePay.body nr r.env
        let (child, tsiBody) := child.narrowed sa tsiPay.body
        installChild cfg sa (child.placed sa r) pools
          [⟨typeSA, false, marshalSA [accepted]⟩, ⟨typeNonce, false, nr⟩,
            ⟨typeTSi, false, tsiBody⟩, ⟨typeTSr, false, tsrPay.body⟩]
  | _, _, _ => refuse sa pools invalidSyntax

def handleCreateChildSA (sa : IKESA) (r : Request) (id : ℕ) (pools : P) : Outcome P :=
  let sa := sa.expectAfter r
  match findInner r.inners typeSA with
  | none => refuse sa pools invalidSyntax
  | some saPay =>
    match parseSA saPay.body with
    | none => refuse sa pools invalidSyntax
    | some props =>
      match props.head? with
      | none => handleNewChild c cfg sa r props pools
      | some first =>
        if first.protocol = protoIKE then handleRekeyIKE c sa r props first id pools
        else handleNewChild c cfg sa r props pools

/-! ## INFORMATIONAL -/

/-- The SA and its Child SAs at the address from which the update came. -/
def IKESA.relocated (sa : IKESA) (r : Request) (nat : NatInfo) : IKESA :=
  { sa with
    remoteAddr := r.remote
    nat
    children := sa.children.entries.foldl
      (fun m e => m.insert e.1 { e.2 with
        peerAddr := some r.remote, udpEncap := nat.natDetected || sa.onPort4500 })
      sa.children }

/-- `handleMobikeInformational`: the SA, the notifies to answer with, and the call on the data
path. -/
def handleMobikeInformational (sa : IKESA) (r : Request) : IKESA × List RawPayload × List Effect :=
  let echo := ((findNotify r.inners cookie2).map fun n =>
    notifyPayload { type := cookie2, data := n.data }).toList
  if (findNotify r.inners updateSAAddresses).isNone || !sa.mobikeEnabled then (sa, echo, [])
  else
    let sa := sa.relocated r
      (cfg.detectNAT c r.inners sa.initiatorSPI sa.responderSPI r.remote sa.onPort4500)
    (sa, echo ++ cfg.natDetection c sa.initiatorSPI sa.responderSPI r.remote sa.onPort4500,
      if cfg.dataPath && cfg.movesPeers then [.updatePeerAddr sa r.remote] else [])

/-- The Child SAs that send to `out` are taken out of the table. -/
def removeOutbound (m : AList (fun _ : ℕ => ChildSA)) (out : ℕ) :
    AList (fun _ : ℕ => ChildSA) × List ChildSA :=
  let hits := m.entries.filter fun e => e.2.outboundSPI == out
  (hits.foldl (fun m e => m.erase e.1) m, hits.map Sigma.snd)

/-- The SPIs of all ESP Delete payloads; those of another length than four are skipped. -/
def deletedSPIs (inners : List RawPayload) : List ℕ :=
  (findAllInner inners typeDelete).flatMap fun p =>
    match parseDelete p.body with
    | none => []
    | some d =>
      if d.protocol = protoESP then
        (d.spis.filter fun spi => spi.length == 4).map fun spi => be32 spi 0
      else []

/-- The peer deletes the whole IKE SA. -/
def deletesIKE (inners : List RawPayload) : Bool :=
  (findAllInner inners typeDelete).any fun p =>
    match parseDelete p.body with
    | none => false
    | some d => d.protocol == protoIKE

/-- The loop over the SPIs to delete: the Child SAs left, and those removed in order. -/
def removeChildren (m : AList (fun _ : ℕ => ChildSA)) (outs : List ℕ) :
    AList (fun _ : ℕ => ChildSA) × List ChildSA :=
  outs.foldl (fun acc out =>
    let (m, removed) := removeOutbound acc.1 out
    (m, acc.2 ++ removed)) (m, [])

/-- The Delete payload of the answer. -/
def deleteReply (removed : List ChildSA) : List RawPayload :=
  if removed = [] then []
  else [⟨typeDelete, false,
    marshalDelete ⟨protoESP, 4, removed.map fun ch => putBE32 ch.inboundSPI⟩⟩]

/-- The calls on the data path for Child SAs that go down. -/
def Config.removals (sa : IKESA) (removed : List ChildSA) : List Effect :=
  if cfg.dataPath then removed.map (.removeChild sa ·) else []

def handleInformational (sa : IKESA) (r : Request) (pools : P) : Outcome P :=
  let sa := sa.expectAfter r
  if r.inners = [] then respond sa pools []
  else
    let (sa, b, moved) := handleMobikeInformational c cfg sa r
    let (children, removed) := removeChildren sa.children (deletedSPIs r.inners)
    let sa := { sa with children }
    let gone := cfg.removals sa removed
    let answer := respond sa pools (b ++ deleteReply removed)
    if deletesIKE r.inners then
      { answer with
        sa := { sa with state := .closed }
        close := true
        effects := moved ++ gone ++ cfg.removals sa (children.entries.map Sigma.snd) }
    else { answer with effects := moved ++ gone }

end Veepin.IKE
