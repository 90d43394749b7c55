import Veepin.Core.Maps
import Veepin.IKEv2.Ike.Sealed
import Veepin.IKEv2.Ike.Eap

/-!
# Security associations

The model of `internal/ikev2/ike/session.go`, `nat.go` and of the configuration in `server.go`: the
state that the responder keeps for one IKE SA, what it is configured with, and what a handler
returns.

A handler is a function of the SA as it stands when the request has been opened; its `Outcome` is
the SA afterwards together with what it did to the world.  The answer is protected with the keys the
SA had when the request came in: `handleIKEIntermediate`, the one handler that changes them, answers
first.

An SA carries two marks that the code does not have.  `id` numbers the SAs in the order in which
they are created, and `root` is the number of the SA that `handleIKESAInit` created and that this
one continues through rekeys.  No function reads them.
-/

namespace Veepin.IKE

/-! ## State -/

inductive SAState
  | initial
  | saInitDone
  | intermediate
  | established
  | deleting
  | closed
  deriving DecidableEq, Repr

structure ChildSA where
  inboundSPI : ℕ
  outboundSPI : ℕ
  suite : ESPSuite
  encrOut : Bytes
  integOut : Bytes
  encrIn : Bytes
  integIn : Bytes
  tsi : List TrafficSelector
  tsr : List TrafficSelector
  udpEncap : Bool := false
  clientIP : Option Bytes := none
  clientIP6 : Option Bytes := none
  peerAddr : Option UDPAddr := none
  aggFrag : Bool := false
  aggFragFlags : UInt8 := 0
  iptfsRate : ℤ := 0
  deriving DecidableEq, Repr

structure AddressRequest where
  ip4 : Bool
  ip6 : Bool
  deriving DecidableEq, Repr

structure Assignment where
  ip4 : Option Bytes := none
  netmask : Option Bytes := none
  ip6 : Option Bytes := none
  prefix6 : ℕ := 0
  dns : List Bytes := []
  deriving DecidableEq, Repr

structure NatInfo where
  peerBehindNAT : Bool := false
  weAreBehindNAT : Bool := false
  deriving DecidableEq, Repr

def NatInfo.natDetected (n : NatInfo) : Bool := n.peerBehindNAT || n.weAreBehindNAT

/-- `IKESA`, of a responder.  A payload saved from the first IKE_AUTH of an EAP exchange is `none`
also if its body was empty, since a copy of an empty slice is `nil`. -/
structure IKESA where
  id : ℕ
  root : ℕ
  initiatorSPI : ℕ
  responderSPI : ℕ
  state : SAState
  suite : Suite
  ni : Bytes := []
  nr : Bytes := []
  keys : SAKeys
  initiatorSAInit : Bytes := []
  responderSAInit : Bytes := []
  intAuthI : Bytes := []
  intAuthR : Bytes := []
  addkeGroup : ℕ := 0
  ikeAuthMsgID : ℕ := 0
  peerID : IDPayload := ⟨0, []⟩
  eapServer : Option EapServer := none
  eapMSK : Option Bytes := none
  idiForAuth : Bytes := []
  eapSApay : Option Bytes := none
  eapTSipay : Option Bytes := none
  eapTSrpay : Option Bytes := none
  eapCPpay : Option Bytes := none
  recvMsgID : ℕ
  remoteAddr : UDPAddr
  onPort4500 : Bool
  nat : NatInfo := {}
  mobikeEnabled : Bool := false
  peerMobike : Bool := false
  fragEnabled : Bool := false
  fragReasm : FragReassembler := {}
  peerSigHashes : List ℕ := []
  clientIP : Option Bytes := none
  clientIP6 : Option Bytes := none
  assigned : Assignment := {}
  children : AList (fun _ : ℕ => ChildSA) := ∅
  deriving DecidableEq

/-- The part of an SA that says who the peer is, how it is keyed and what it holds. -/
structure SACore where
  id : ℕ
  root : ℕ
  initiatorSPI : ℕ
  responderSPI : ℕ
  state : SAState
  suite : Suite
  ni : Bytes
  nr : Bytes
  keys : SAKeys
  intAuthI : Bytes
  intAuthR : Bytes
  addkeGroup : ℕ
  eapServer : Option EapServer
  eapMSK : Option Bytes
  clientIP : Option Bytes
  clientIP6 : Option Bytes
  assigned : Assignment
  deriving DecidableEq

def IKESA.core (sa : IKESA) : SACore :=
  ⟨sa.id, sa.root, sa.initiatorSPI, sa.responderSPI, sa.state, sa.suite, sa.ni, sa.nr, sa.keys,
    sa.intAuthI, sa.intAuthR, sa.addkeGroup, sa.eapServer, sa.eapMSK, sa.clientIP, sa.clientIP6,
    sa.assigned⟩

section Core

variable {a b : IKESA}

lemma id_of_core (h : a.core = b.core) : a.id = b.id := congrArg SACore.id h

lemma root_of_core (h : a.core = b.core) : a.root = b.root := congrArg SACore.root h

lemma spi_of_core (h : a.core = b.core) : a.responderSPI = b.responderSPI :=
  congrArg SACore.responderSPI h

lemma state_of_core (h : a.core = b.core) : a.state = b.state := congrArg SACore.state h

end Core

/-- IKE_AUTH has not been accepted yet. -/
def SAState.halfOpen (st : SAState) : Bool := st == .saInitDone || st == .intermediate

def IKESA.intAuth (sa : IKESA) : Bytes := finalIntAuth sa.intAuthI sa.intAuthR sa.ikeAuthMsgID

/-- Message IDs are 32 bits wide. -/
def nextMsgID (n : ℕ) : ℕ := (n + 1) % 2 ^ 32

/-! ## Configuration and environment -/

/-- `certCredential`: the chain to present, and the key to sign with. -/
structure CertCredential where
  chain : List Bytes
  key : Bytes
  deriving DecidableEq, Repr

/-- `Config`.  `P` is the state of the address pools.  `dataPath` says whether a data path is
attached, and `movesPeers` whether it is a `peerAddrUpdater`. -/
structure Config (P : Type) where
  port500 : ℕ := 500
  port4500 : ℕ := 4500
  psk : Bytes := []
  localID : IDPayload
  serverCred : Option CertCredential := none
  clientCAs : Option (List Bytes) := none
  eapCredentials : Option (Bytes → Option Bytes) := none
  eapServerName : Bytes := []
  publicIP : Option Bytes := none
  requirePostQuantum : Bool := false
  requirePostQuantumAuth : Bool := false
  classicalOnly : Bool := false
  assignAddr : Option (AddressRequest → P → Option Assignment × P) := none
  releaseAddr : Option (Assignment → P → P) := none
  iptfs : Bool := false
  iptfsRate : ℤ := 0
  dataPath : Bool := true
  movesPeers : Bool := true

/-- What the code takes from its surroundings while it handles one datagram: the time, random
numbers, and whether the datagram came over a TCP stream. -/
structure Env where
  now : ℤ := 0
  ikeSPI : ℕ
  childSPI : ℕ
  nonce : ℕ → UInt8 := fun _ => 0
  iv : ℕ → ℕ → UInt8 := fun _ _ => 0
  challenge : Option (ℕ → UInt8) := none
  dhSeed : Bytes := []
  kemSeed : Bytes := []
  cookieSecret : Option Bytes := none
  overTCP : Bool := false
  ikeSPI_pos : ikeSPI ≠ 0
  ikeSPI_lt : ikeSPI < 2 ^ 64
  childSPI_pos : childSPI ≠ 0
  childSPI_lt : childSPI < 2 ^ 32

def Env.randomNonce (e : Env) (n : ℕ) : Bytes := octets e.nonce (max n 16)

/-! ## Outcomes -/

/-- A call on the data path. -/
inductive Effect
  | addChild (sa : IKESA) (child : ChildSA)
  | removeChild (sa : IKESA) (child : ChildSA)
  | updatePeerAddr (sa : IKESA) (addr : UDPAddr)
  deriving DecidableEq

/-- What a handler did. -/
structure Outcome (P : Type) where
  sa : IKESA
  pools : P
  reply : Option (List RawPayload) := none
  stored : Option IKESA := none
  close : Bool := false
  effects : List Effect := []

section Replies

variable {P : Type}

/-- Nothing is sent. -/
def silent (sa : IKESA) (pools : P) : Outcome P := { sa, pools }

/-- `respondEncrypted`. -/
def respond (sa : IKESA) (pools : P) (inners : List RawPayload) : Outcome P :=
  { sa, pools, reply := some inners }

/-- `respondEncryptedNotify`. -/
def refuse (sa : IKESA) (pools : P) (nt : ℕ) : Outcome P :=
  respond sa pools [notifyPayload { type := nt }]

end Replies

/-! ## Refusals -/

/-- How a request is turned down: with a Notify, or in silence. -/
inductive Refusal
  | notify (nt : ℕ) (data : Bytes)
  | drop
  deriving DecidableEq, Repr

/-- A value that is needed to go on. -/
def need {α : Type} (o : Option α) (r : Refusal) : Except Refusal α :=
  match o with
  | none => .error r
  | some a => .ok a

/-- A condition that is needed to go on. -/
def ensure (b : Bool) (r : Refusal) : Except Refusal Unit := if b then .ok () else .error r

lemma need_bind_ok {α β : Type} {o : Option α} {r : Refusal} {f : α → Except Refusal β} {b : β} :
    (need o r >>= f) = .ok b ↔ ∃ a, o = some a ∧ f a = .ok b := by
  cases o <;> simp [need, bind, Except.bind]

lemma ensure_bind_ok {β : Type} {p : Bool} {r : Refusal} {f : Unit → Except Refusal β} {b : β} :
    (ensure p r >>= f) = .ok b ↔ p = true ∧ f () = .ok b := by
  cases p <;> simp [ensure, bind, Except.bind]

/-! ## NAT detection -/

section Nat

variable (c : Crypto) {P : Type} (cfg : Config P)

def natDetectionHash (spiI spiR : ℕ) (ip : Bytes) (port : ℕ) : Bytes :=
  c.sha1 (putBE64 spiI ++ putBE64 spiR ++ ((to4 ip).getD ((to16 ip).getD [])) ++ putBE16 port)

def ipv4Zero : Bytes := v4InV6Head ++ [0, 0, 0, 0]

/-- The address and port of this server, as a peer on the given port sees them. -/
def Config.ourAddr (on4500 : Bool) : Bytes × ℕ :=
  (cfg.publicIP.getD ipv4Zero, if on4500 then cfg.port4500 else cfg.port500)

/-- The hash of the peer's address, and of ours. -/
def Config.natHashes (spiI spiR : ℕ) (remote : UDPAddr) (on4500 : Bool) : Bytes × Bytes :=
  (natDetectionHash c spiI spiR remote.ip remote.port,
    natDetectionHash c spiI spiR (cfg.ourAddr on4500).1 (cfg.ourAddr on4500).2)

/-- `detectNAT`.  Without a detection notify of either kind nothing is concluded, which is also what
the loop gives, since only such a notify sets a flag. -/
def Config.detectNAT (payloads : List RawPayload) (spiI spiR : ℕ) (remote : UDPAddr)
    (on4500 : Bool) : NatInfo :=
  let (peer, us) := cfg.natHashes c spiI spiR remote on4500
  (payloads.filterMap fun p => if p.type = typeNotify then parseNotify p.body else none).foldl
    (fun info n =>
      if n.type = natDetectionSourceIP ∧ n.data ≠ peer then { info with peerBehindNAT := true }
      else if n.type = natDetectionDestinationIP ∧ n.data ≠ us ∧ cfg.publicIP.isSome then
        { info with weAreBehindNAT := true }
      else info) {}

/-- `addNATDetection`: our own address as source, the peer's as destination. -/
def Config.natDetection (spiI spiR : ℕ) (remote : UDPAddr) (on4500 : Bool) : List RawPayload :=
  let (peer, us) := cfg.natHashes c spiI spiR remote on4500
  [notifyPayload { type := natDetectionSourceIP, data := us },
    notifyPayload { type := natDetectionDestinationIP, data := peer }]

def IKESA.udpEncap (sa : IKESA) (env : Env) : Bool :=
  !env.overTCP && (sa.nat.natDetected || sa.onPort4500)

end Nat

end Veepin.IKE
