import Veepin.IKEv2.Ike.KeyMat

/-!
# EAP-MSCHAPv2, the authenticator

The model of `internal/ikev2/eap/packet.go` and `server.go`: the packets, and the state machine that
the responder runs inside an IKE SA.  A user name, a password and the name of the server are octet
strings.  `lookup` and the primitives of MSCHAPv2 are parameters.

`handlePeer_result` says once what a packet from the peer can do to the outcome.
-/

namespace Veepin.IKE

variable (c : Crypto)

/-! ## Packets -/

def eapRequest : UInt8 := 1
def eapSuccess : UInt8 := 3
def eapFailure : UInt8 := 4

def eapTypeIdentity : UInt8 := 1
def eapTypeNak : UInt8 := 3
def eapTypeMSCHAPv2 : UInt8 := 26

/-- `Packet`. -/
structure EapPacket where
  code : UInt8
  identifier : UInt8
  type : UInt8 := 0
  data : Bytes := []
  deriving DecidableEq, Repr

def EapPacket.marshal (p : EapPacket) : Bytes :=
  if p.code = eapSuccess ∨ p.code = eapFailure then [p.code, p.identifier] ++ putBE16 4
  else [p.code, p.identifier] ++ putBE16 (5 + p.data.length) ++ [p.type] ++ p.data

/-- `Parse`. -/
def parseEap (buf : Bytes) : Option EapPacket :=
  if buf.length < 4 then none
  else if be16 buf 2 < 4 ∨ buf.length < be16 buf 2 then none
  else if buf.getD 0 0 = eapSuccess ∨ buf.getD 0 0 = eapFailure then
    some ⟨buf.getD 0 0, buf.getD 1 0, 0, []⟩
  else if be16 buf 2 < 5 then none
  else some ⟨buf.getD 0 0, buf.getD 1 0, buf.getD 4 0, (buf.take (be16 buf 2)).drop 5⟩

def opChallenge : UInt8 := 1
def opResponse : UInt8 := 2
def opSuccess : UInt8 := 3
def opFailure : UInt8 := 4

def mschapChallenge (id : UInt8) (challenge name : Bytes) : Bytes :=
  [opChallenge, id] ++ putBE16 (5 + 1 + 16 + name.length) ++ [16] ++ challenge ++ name

/-- `mschapResponseFields`. -/
structure MschapResponse where
  id : UInt8
  peerChallenge : Bytes
  ntResponse : Bytes
  name : Bytes
  deriving DecidableEq, Repr

def parseMSCHAPResponse (data : Bytes) : Option MschapResponse :=
  if data.length < 5 ∨ data.getD 0 0 ≠ opResponse then none
  else if data.getD 4 0 ≠ 49 then none
  else if data.length < 5 + 49 then none
  else some
    { id := data.getD 1 0
      peerChallenge := (data.drop 5).take 16
      ntResponse := (data.drop (5 + 24)).take 24
      name := data.drop (5 + 49) }

/-- One hexadecimal digit, in upper case. -/
def hexDigit (n : UInt8) : UInt8 := if n < 10 then 48 + n else 55 + n

def upperHex (b : Bytes) : Bytes :=
  b.flatMap fun o : UInt8 => [hexDigit (o >>> 4), hexDigit (o &&& 0x0f)]

/-- `mschapSuccess`: the message is "S=" and the authenticator response. -/
def mschapSuccess (id : UInt8) (authResponse : Bytes) : Bytes :=
  let msg := [83, 61] ++ upperHex authResponse
  [opSuccess, id] ++ putBE16 (4 + msg.length) ++ msg

/-- "E=691 R=0 C=0 V=3 M=Authentication failed". -/
def mschapFailureText : Bytes :=
  [69, 61, 54, 57, 49, 32, 82, 61, 48, 32, 67, 61, 48, 32, 86, 61, 51, 32, 77, 61, 65, 117, 116,
    104, 101, 110, 116, 105, 99, 97, 116, 105, 111, 110, 32, 102, 97, 105, 108, 101, 100]

def mschapFailure (id : UInt8) : Bytes :=
  [opFailure, id] ++ putBE16 (4 + mschapFailureText.length) ++ mschapFailureText

/-! ## The state machine -/

inductive AuthState
  | init
  | challengeSent
  | successSent
  | done
  deriving DecidableEq, Repr

/-- `Result`. -/
structure EapResult where
  success : Bool := false
  username : Bytes := []
  msk : Bytes := []
  deriving DecidableEq, Repr

/-- `Server`. -/
structure EapServer where
  state : AuthState := .init
  eapID : UInt8 := 0
  mschapID : UInt8 := 0
  authChallenge : Bytes := []
  result : EapResult := {}
  deriving DecidableEq, Repr

/-- The Challenge request of an authenticator with the given name. -/
def EapServer.challenge (s : EapServer) (name : Bytes) : EapPacket :=
  ⟨eapRequest, s.eapID, eapTypeMSCHAPv2, mschapChallenge s.mschapID s.authChallenge name⟩

/-- `NewServer`, then `Begin` with the challenge that `rand.Read` drew. -/
def beginEap (eapID : UInt8) (name authChallenge : Bytes) : EapServer × EapPacket :=
  let s : EapServer := { state := .challengeSent, eapID, mschapID := eapID, authChallenge }
  (s, s.challenge name)

/-- What `HandlePeer` returns: the next packet, whether the exchange is over, whether it failed
with an error; and the authenticator after it. -/
structure EapTurn where
  server : EapServer
  next : EapPacket := ⟨0, 0, 0, []⟩
  done : Bool := false
  err : Bool := false

/-- The Failure request after a wrong user or password. -/
def EapServer.fail (s : EapServer) (resp : EapPacket) (username : Bytes) : EapTurn :=
  { server := { s with result := { username }, state := .done }
    next := ⟨eapRequest, resp.identifier + 1, eapTypeMSCHAPv2, mschapFailure s.mschapID⟩ }

/-- `handleResponseState`. -/
def EapServer.handleResponse (lookup : Bytes → Option Bytes) (name : Bytes) (s : EapServer)
    (resp : EapPacket) : EapTurn :=
  if resp.type = eapTypeIdentity then { server := s, next := s.challenge name }
  else if resp.type = eapTypeNak then
    { server := { s with result := {}, state := .done }
      next := ⟨eapFailure, resp.identifier, 0, []⟩
      done := true
      err := true }
  else if resp.type ≠ eapTypeMSCHAPv2 then { server := s, err := true }
  else
    match parseMSCHAPResponse resp.data with
    | none => { server := s, err := true }
    | some fields =>
      match lookup fields.name with
      | none => s.fail resp fields.name
      | some password =>
        let ntHash := c.ntPasswordHash password
        if c.generateNTResponse s.authChallenge fields.peerChallenge fields.name ntHash ≠
            fields.ntResponse then
          s.fail resp fields.name
        else
          let authResp := c.generateAuthenticatorResponse ntHash fields.ntResponse
            fields.peerChallenge s.authChallenge fields.name
          { server := { s with
              result := ⟨true, fields.name, c.deriveMSK ntHash fields.ntResponse⟩
              state := .successSent }
            next := ⟨eapRequest, resp.identifier + 1, eapTypeMSCHAPv2,
              mschapSuccess s.mschapID authResp⟩ }

def EapServer.handlePeer (lookup : Bytes → Option Bytes) (name : Bytes) (s : EapServer)
    (resp : EapPacket) : EapTurn :=
  match s.state with
  | .challengeSent => s.handleResponse c lookup name resp
  | .successSent =>
    -- any packet of the peer acknowledges the success
    { server := { s with state := .done }
      next := ⟨eapSuccess, resp.identifier, 0, []⟩
      done := true }
  | .init | .done => { server := s, err := true }

/-! ## What a packet can do -/

/-- The peer answered the challenge with the NT response for the password of the user it names, and
`msk` is the key of that exchange. -/
def NTMatched (lookup : Bytes → Option Bytes) (s : EapServer) (resp : EapPacket) (msk : Bytes) :
    Prop :=
  s.state = .challengeSent ∧ resp.type = eapTypeMSCHAPv2 ∧
    ∃ fields password, parseMSCHAPResponse resp.data = some fields ∧
      lookup fields.name = some password ∧
      c.generateNTResponse s.authChallenge fields.peerChallenge fields.name
        (c.ntPasswordHash password) = fields.ntResponse ∧
      msk = c.deriveMSK (c.ntPasswordHash password) fields.ntResponse

variable {c} {lookup : Bytes → Option Bytes} {name : Bytes}

lemma handleResponse_result (s : EapServer) (resp : EapPacket) (hs : s.state = .challengeSent) :
    let r := (s.handleResponse c lookup name resp).server.result
    r = s.result ∨ r.success = false ∨ NTMatched c lookup s resp r.msk := by
  simp only [EapServer.handleResponse]
  split_ifs with h1 h2 h3
  · exact Or.inl rfl
  · exact Or.inr (Or.inl rfl)
  · exact Or.inl rfl
  · split
    · exact Or.inl rfl
    rename_i fields hf
    split
    · exact Or.inr (Or.inl rfl)
    · rename_i password hp
      split_ifs with hm
      · exact Or.inr (Or.inl rfl)
      · exact Or.inr (Or.inr ⟨hs, not_not.mp h3, fields, password, hf, hp, not_not.mp hm, rfl⟩)

/-- **What a packet can do to the outcome.** -/
lemma handlePeer_result (s : EapServer) (resp : EapPacket) :
    let r := (s.handlePeer c lookup name resp).server.result
    r = s.result ∨ r.success = false ∨ NTMatched c lookup s resp r.msk := by
  unfold EapServer.handlePeer
  cases hs : s.state with
  | challengeSent => exact handleResponse_result s resp hs
  | successSent | init | done => exact Or.inl rfl

end Veepin.IKE
