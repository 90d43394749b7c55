import Veepin.Core.Bytes

/-!
# PPP frames and control packets

The codecs of `internal/ppp`: frames (`frame.go`), the packets of LCP and IPCP with their options
(`cp.go`), and the bodies of the MS-CHAPv2 packets (`chap.go`).  The two functions of `mschap` are
parameters.
-/

namespace Veepin.PPP

/-! ## Frames -/

def protocolIPCP : ℕ := 0x8021
def protocolLCP : ℕ := 0xc021
def protocolCHAP : ℕ := 0xc223

/-- `encodeFrame`: address, control, protocol, payload. -/
def encodeFrame (protocol : ℕ) (payload : Bytes) : Bytes :=
  [0xff, 0x03] ++ putBE16 protocol ++ payload

/-- `decodeFrame`: the address and control octets may be missing, and a protocol below 256 may be
one odd octet. -/
def decodeFrame (frame : Bytes) : Option (ℕ × Bytes) :=
  let b := if frame.take 2 = [0xff, 0x03] then frame.drop 2 else frame
  match b with
  | [] => none
  | b₀ :: rest =>
    if b₀.toNat % 2 = 1 then some (b₀.toNat, rest)
    else
      match rest with
      | [] => none
      | b₁ :: rest => some (b₀.toNat * 256 + b₁.toNat, rest)

/-! ## Control packets -/

def configureRequest : UInt8 := 1
def configureAck : UInt8 := 2
def configureNak : UInt8 := 3
def configureReject : UInt8 := 4
def terminateRequest : UInt8 := 5
def terminateAck : UInt8 := 6
def echoRequest : UInt8 := 9
def echoReply : UInt8 := 10

structure CpPacket where
  code : UInt8
  id : UInt8
  body : Bytes := []
  deriving DecidableEq, Repr

def CpPacket.marshal (p : CpPacket) : Bytes :=
  [p.code, p.id] ++ putBE16 (4 + p.body.length) ++ p.body

def parseCP (b : Bytes) : Option CpPacket :=
  if b.length < 4 then none
  else if be16 b 2 < 4 ∨ b.length < be16 b 2 then none
  else some ⟨b.getD 0 0, b.getD 1 0, (b.take (be16 b 2)).drop 4⟩

/-- `option`. -/
structure Opt where
  type : UInt8
  value : Bytes
  deriving DecidableEq, Repr

/-- The loop of `parseOptions`; the first argument bounds the number of options. -/
def parseOptionsLoop : ℕ → Bytes → Option (List Opt)
  | _, [] => some []
  | n + 1, t :: len :: b =>
    if len.toNat < 2 ∨ b.length + 2 < len.toNat then none
    else (parseOptionsLoop n (b.drop (len.toNat - 2))).map
      (⟨t, b.take (len.toNat - 2)⟩ :: ·)
  | _, _ => none

def parseOptions (b : Bytes) : Option (List Opt) := parseOptionsLoop b.length b

def marshalOptions (opts : List Opt) : Bytes :=
  opts.flatMap fun o => [o.type, UInt8.ofNat (2 + o.value.length)] ++ o.value

def optMRU : UInt8 := 1
def optAuthProto : UInt8 := 3
def optQuality : UInt8 := 4
def optMagic : UInt8 := 5
def optPFC : UInt8 := 7
def optACFC : UInt8 := 8

def optIPAddress : UInt8 := 3
def optPrimaryDNS : UInt8 := 0x81
def optSecondaryDNS : UInt8 := 0x83

def authMSCHAPv2 : Bytes := [0xc2, 0x23, 0x81]

/-! ## MS-CHAPv2 -/

def chapChallenge : UInt8 := 1
def chapResponse : UInt8 := 2
def chapSuccess : UInt8 := 3
def chapFailure : UInt8 := 4

/-- `GenerateNTResponse` and `AuthenticatorResponse` of `mschap`: of the authenticator's challenge,
the peer's, the user name, the password, and for the second also the NT response. -/
structure Mschap where
  generateNTResponse : Bytes → Bytes → Bytes → Bytes → Bytes
  authenticatorResponse : Bytes → Bytes → Bytes → Bytes → Bytes → Bytes

/-- What an array of `n` octets holds after the octets given have been copied into it. -/
def octets (n : ℕ) (b : Bytes) : Bytes := (b ++ List.replicate n 0).take n

/-- `parseChallenge`: the challenge and the name of the server. -/
def parseChallenge (body : Bytes) : Option (Bytes × Bytes) :=
  if body.headD 0 ≠ 16 ∨ body.length < 1 + 16 then none
  else some ((body.drop 1).take 16, body.drop 17)

/-- The body that `buildResponse` makes: the peer's challenge, eight zeros, the NT response and the
flags in a value of 49 octets, and the user name. -/
def responseBody (peerChallenge ntResponse username : Bytes) : Bytes :=
  [49] ++ (octets 16 peerChallenge ++ List.replicate 8 0 ++ octets 24 ntResponse ++ [0]) ++ username

/-- White space, as `strings.Fields` knows it. -/
def isSpace (b : UInt8) : Bool := b = 32 || (9 ≤ b && b ≤ 13)

/-- The first of the fields of `strings.Fields`. -/
def firstField (b : Bytes) : Bytes := (b.dropWhile isSpace).takeWhile fun c => !isSpace c

/-- `strings.EqualFold`, for letters that are ASCII. -/
def equalFold (a b : Bytes) : Bool :=
  let lower (c : UInt8) : UInt8 := if 65 ≤ c && c ≤ 90 then c + 32 else c
  a.map lower = b.map lower

/-- `verifySuccess`; the message begins with "S=". -/
def verifySuccess (m : Mschap)
    (body authChallenge peerChallenge username password ntResponse : Bytes) : Bool :=
  (firstField body).take 2 = [83, 61] && equalFold (firstField body)
    (m.authenticatorResponse authChallenge peerChallenge username password ntResponse)

def buildChallenge (authChallenge name : Bytes) : Bytes := [16] ++ authChallenge ++ name

/-- `parseResponse`: the peer's challenge, the NT response and the user name. -/
def parseResponse (body : Bytes) : Option (Bytes × Bytes × Bytes) :=
  if body.headD 0 ≠ 49 ∨ body.length < 1 + 49 then none
  else some ((body.drop 1).take 16, (body.drop 25).take 24, body.drop 50)

def verifyResponse (m : Mschap) (authChallenge peerChallenge username password ntResponse : Bytes) :
    Bool :=
  m.generateNTResponse authChallenge peerChallenge username password = ntResponse

/-- `buildFailure`: "E=691 R=0 C=00000000000000000000000000000000 V=3 M=Access denied". -/
def buildFailure : Bytes :=
  [69, 61, 54, 57, 49, 32, 82, 61, 48, 32, 67, 61] ++ List.replicate 32 48 ++
    [32, 86, 61, 51, 32, 77, 61, 65, 99, 99, 101, 115, 115, 32, 100, 101, 110, 105, 101, 100]

end Veepin.PPP
