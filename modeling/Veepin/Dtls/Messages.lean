import Veepin.Dtls.Fragments

/-!
# The bodies of the handshake messages

The model of `internal/dtls/messages.go` and of the messages in `ecdhe.go`.  Each message is read
back from what it is written as, if its fields fit their length prefixes (`parseClientHello_marshal`
and the others).
-/

namespace Veepin.Dtls

open List Option

/-! ## The cursor

`reader` latches its first error, and every parse checks for it at the end; here the first error
ends the parse.  Each read returns what it has read and what is left. -/

/-- `bytes`. -/
def readBytes (n : ℕ) (b : Bytes) : Option (Bytes × Bytes) :=
  if b.length < n then none else some (b.take n, b.drop n)

/-- `uint16`. -/
def readUint16 (b : Bytes) : Option (ℕ × Bytes) :=
  if b.length < 2 then none else some (be16 b 0, b.drop 2)

/-- `vector8`. -/
def readVector8 : Bytes → Option (Bytes × Bytes)
  | [] => none
  | n :: b => readBytes n.toNat b

/-- `vector16`. -/
def readVector16 (b : Bytes) : Option (Bytes × Bytes) :=
  (readUint16 b).bind fun r => readBytes r.1 r.2

@[simp] lemma readBytes_append (x rest : Bytes) :
    readBytes x.length (x ++ rest) = some (x, rest) := by
  simp [readBytes]

@[simp] lemma readUint16_put (n : ℕ) (rest : Bytes) :
    readUint16 (putBE16 n ++ rest) = some (n % 65536, rest) := by
  have hn : be16 (putBE16 n ++ rest) 0 = n % 65536 := be16_putBE16 n
  rw [readUint16, if_neg (by rw [length_append, length_putBE16]; omega), hn]
  rfl

lemma readVector8_put {x : Bytes} (hx : x.length < 256) (rest : Bytes) :
    readVector8 (UInt8.ofNat x.length :: (x ++ rest)) = some (x, rest) := by
  rw [readVector8, UInt8.toNat_ofNat', Nat.mod_eq_of_lt hx, readBytes_append]

lemma readVector16_put {x : Bytes} (hx : x.length < 65536) (rest : Bytes) :
    readVector16 (putBE16 x.length ++ (x ++ rest)) = some (x, rest) := by
  rw [readVector16, readUint16_put, bind_some, Nat.mod_eq_of_lt hx, readBytes_append]

/-! ## Hellos -/

def randomLen : ℕ := 32

structure ClientHello where
  version : ℕ
  random : Bytes
  sessionID : Bytes
  cookie : Bytes
  cipherSuites : List ℕ
  deriving DecidableEq, Repr

def ClientHello.marshal (m : ClientHello) : Bytes :=
  putBE16 m.version ++ (m.random ++ (UInt8.ofNat m.sessionID.length :: (m.sessionID ++
    (UInt8.ofNat m.cookie.length :: (m.cookie ++ (putBE16 (2 * m.cipherSuites.length) ++
      (m.cipherSuites.flatMap putBE16 ++ [1, 0])))))))

/-- The list of suites, two octets each. -/
def suiteIDs : Bytes → List ℕ
  | a :: b :: rest => be16 [a, b] 0 :: suiteIDs rest
  | _ => []

def parseClientHello (b : Bytes) : Option ClientHello :=
  (readUint16 b).bind fun version =>
    (readBytes randomLen version.2).bind fun random =>
      (readVector8 random.2).bind fun sessionID =>
        (readVector8 sessionID.2).bind fun cookie =>
          (readVector16 cookie.2).bind fun suites =>
            if suites.1.length % 2 ≠ 0 then none
            else some ⟨version.1, random.1, sessionID.1, cookie.1, suiteIDs suites.1⟩

lemma length_flatMap_putBE16 (ids : List ℕ) : (ids.flatMap putBE16).length = 2 * ids.length := by
  induction ids with
  | nil => rfl
  | cons id ids ih =>
    rw [flatMap_cons, length_append, ih, length_putBE16, length_cons]
    omega

lemma suiteIDs_flatMap : ∀ {ids : List ℕ}, (∀ id ∈ ids, id < 65536) →
    suiteIDs (ids.flatMap putBE16) = ids
  | [], _ => rfl
  | id :: ids, h => by
    have hid : be16 (putBE16 id) 0 = id := be16_of_lt (h id mem_cons_self)
    have ih := suiteIDs_flatMap fun i hi => h i (mem_cons_of_mem id hi)
    rw [flatMap_cons, putBE16, cons_append, cons_append, nil_append, suiteIDs, ih]
    exact congrArg (· :: ids) hid

/-- The fields of a ClientHello fit into their places. -/
structure ClientHello.Fits (m : ClientHello) : Prop where
  version : m.version < 65536
  random : m.random.length = randomLen
  sessionID : m.sessionID.length < 256
  cookie : m.cookie.length < 256
  cipherSuites : 2 * m.cipherSuites.length < 65536
  ids : ∀ id ∈ m.cipherSuites, id < 65536

lemma parseClientHello_marshal {m : ClientHello} (hm : m.Fits) :
    parseClientHello m.marshal = some m := by
  have hsuites : readVector16 (putBE16 (2 * m.cipherSuites.length) ++
      (m.cipherSuites.flatMap putBE16 ++ [1, 0])) =
        some (m.cipherSuites.flatMap putBE16, [1, 0]) := by
    rw [← length_flatMap_putBE16]
    exact readVector16_put (by rw [length_flatMap_putBE16]; exact hm.cipherSuites) _
  rw [parseClientHello, ClientHello.marshal, readUint16_put, bind_some, ← hm.random]
  simp only [readBytes_append, bind_some, readVector8_put hm.sessionID,
    readVector8_put hm.cookie, hsuites, length_flatMap_putBE16]
  rw [if_neg (by omega), suiteIDs_flatMap hm.ids, Nat.mod_eq_of_lt hm.version]

structure HelloVerifyRequest where
  version : ℕ
  cookie : Bytes
  deriving DecidableEq, Repr

def HelloVerifyRequest.marshal (m : HelloVerifyRequest) : Bytes :=
  putBE16 m.version ++ UInt8.ofNat m.cookie.length :: m.cookie

def parseHelloVerifyRequest (b : Bytes) : Option HelloVerifyRequest :=
  (readUint16 b).bind fun version =>
    (readVector8 version.2).map fun cookie => ⟨version.1, cookie.1⟩

lemma parseHelloVerifyRequest_marshal {m : HelloVerifyRequest} (hversion : m.version < 65536)
    (hcookie : m.cookie.length < 256) : parseHelloVerifyRequest m.marshal = some m := by
  have hread := readVector8_put hcookie []
  rw [append_nil] at hread
  rw [parseHelloVerifyRequest, HelloVerifyRequest.marshal, readUint16_put, bind_some, hread,
    map_some, Nat.mod_eq_of_lt hversion]

structure ServerHello where
  version : ℕ
  random : Bytes
  sessionID : Bytes
  cipherSuite : ℕ
  deriving DecidableEq, Repr

def ServerHello.marshal (m : ServerHello) : Bytes :=
  putBE16 m.version ++ (m.random ++ (UInt8.ofNat m.sessionID.length :: (m.sessionID ++
    (putBE16 m.cipherSuite ++ [0]))))

def parseServerHello (b : Bytes) : Option ServerHello :=
  (readUint16 b).bind fun version =>
    (readBytes randomLen version.2).bind fun random =>
      (readVector8 random.2).bind fun sessionID =>
        (readUint16 sessionID.2).map fun cipherSuite =>
          ⟨version.1, random.1, sessionID.1, cipherSuite.1⟩

lemma parseServerHello_marshal {m : ServerHello} (hversion : m.version < 65536)
    (hrandom : m.random.length = randomLen) (hsessionID : m.sessionID.length < 256)
    (hsuite : m.cipherSuite < 65536) : parseServerHello m.marshal = some m := by
  rw [parseServerHello, ServerHello.marshal, readUint16_put, bind_some, ← hrandom]
  simp only [readBytes_append, bind_some, readVector8_put hsessionID, readUint16_put,
    map_some, Nat.mod_eq_of_lt hversion, Nat.mod_eq_of_lt hsuite]

/-! ## Key exchange with a pre-shared key -/

/-- `pskIdentityHint.marshal`. -/
def marshalPSKIdentityHint (hint : Bytes) : Bytes := putBE16 hint.length ++ hint

/-- `pskClientKeyExchange.marshal`. -/
def marshalPSKClientKeyExchange (identity : Bytes) : Bytes := putBE16 identity.length ++ identity

def parsePSKClientKeyExchange (b : Bytes) : Option Bytes := (readVector16 b).map Prod.fst

lemma parsePSKClientKeyExchange_marshal {identity : Bytes} (h : identity.length < 65536) :
    parsePSKClientKeyExchange (marshalPSKClientKeyExchange identity) = some identity := by
  have hread := readVector16_put h []
  rw [append_nil] at hread
  rw [parsePSKClientKeyExchange, marshalPSKClientKeyExchange, hread, map_some]

/-! ## Key exchange with a certificate -/

def marshalCertificate (chain : List Bytes) : Bytes :=
  let list := chain.flatMap fun der => putBE24 der.length ++ der
  putBE24 list.length ++ list

/-- The loop of `parseCertificate`; `fuel` is a bound on the entries. -/
def parseEntries : ℕ → Bytes → Option (List Bytes)
  | 0, b => if b = [] then some [] else none
  | fuel + 1, b =>
    if b = [] then some []
    else if b.length < 3 then none
    else if (b.drop 3).length < be24 b 0 then none
    else (parseEntries fuel ((b.drop 3).drop (be24 b 0))).map ((b.drop 3).take (be24 b 0) :: ·)

def parseCertificate (b : Bytes) : Option (List Bytes) :=
  if b.length < 3 then none
  else if be24 b 0 ≠ (b.drop 3).length then none
  else (parseEntries b.length (b.drop 3)).bind fun chain => if chain = [] then none else some chain

lemma be24_put (n : ℕ) (rest : Bytes) : be24 (putBE24 n ++ rest) 0 = n % 16777216 :=
  be24_putBE24 n

lemma drop_putBE24 (n : ℕ) (rest : Bytes) : (putBE24 n ++ rest).drop 3 = rest := rfl

lemma parseEntries_flatMap : ∀ {chain : List Bytes}, (∀ der ∈ chain, der.length < 16777216) →
    ∀ {fuel : ℕ}, chain.length ≤ fuel →
      parseEntries fuel (chain.flatMap fun der => putBE24 der.length ++ der) = some chain
  | [], _, fuel, _ => by
    cases fuel <;> rfl
  | der :: chain, h, 0, hfuel => absurd hfuel (by simp)
  | der :: chain, h, fuel + 1, hfuel => by
    have ih := parseEntries_flatMap (fun d hd => h d (mem_cons_of_mem der hd))
      (Nat.le_of_succ_le_succ hfuel)
    have hne : putBE24 der.length ++ (der ++ chain.flatMap fun der => putBE24 der.length ++ der) ≠
        [] := by simp [putBE24]
    rw [flatMap_cons, append_assoc, parseEntries, if_neg hne, if_neg (by simp), be24_put,
      drop_putBE24, Nat.mod_eq_of_lt (h der mem_cons_self), if_neg (by simp), drop_left,
      take_left, ih, map_some]

lemma length_entries : ∀ chain : List Bytes,
    chain.length ≤ (chain.flatMap fun der => putBE24 der.length ++ der).length ∧
      ∀ der ∈ chain, der.length ≤ (chain.flatMap fun der => putBE24 der.length ++ der).length
  | [] => ⟨le_rfl, fun _ h => nomatch h⟩
  | d :: chain => by
    obtain ⟨hcount, hentry⟩ := length_entries chain
    rw [flatMap_cons, length_append, length_append, length_putBE24, length_cons]
    refine ⟨by omega, fun der hder => ?_⟩
    obtain rfl | hder := mem_cons.mp hder
    · omega
    · have := hentry der hder
      omega

lemma parseCertificate_marshal {chain : List Bytes} (hne : chain ≠ [])
    (hlen : (marshalCertificate chain).length < 16777216) :
    parseCertificate (marshalCertificate chain) = some chain := by
  have hlist : (chain.flatMap fun der => putBE24 der.length ++ der).length < 16777216 := by
    simp only [marshalCertificate, length_append, length_putBE24] at hlen
    omega
  have hentry : ∀ der ∈ chain, der.length < 16777216 := by
    intro der hder
    have := (length_entries chain).2 der hder
    omega
  have hcount : chain.length ≤ (marshalCertificate chain).length := by
    have := (length_entries chain).1
    simp only [marshalCertificate, length_append]
    omega
  have hlong : ¬ (marshalCertificate chain).length < 3 := by
    simp [marshalCertificate]
  rw [parseCertificate, if_neg hlong, marshalCertificate, be24_put, drop_putBE24,
    Nat.mod_eq_of_lt hlist, if_neg (not_not.mpr rfl)]
  rw [marshalCertificate] at hcount
  rw [parseEntries_flatMap hentry hcount, bind_some, if_neg hne]

def ecCurveTypeNamedCurve : UInt8 := 3
def ecNamedCurveSecp256r1 : ℕ := 23
def sigHashSHA256 : UInt8 := 4
def sigAlgECDSA : UInt8 := 3

def ecdheServerParams (pubkey : Bytes) : Bytes :=
  [ecCurveTypeNamedCurve] ++
    (putBE16 ecNamedCurveSecp256r1 ++ (UInt8.ofNat pubkey.length :: pubkey))

def marshalECDHEServerKeyExchange (params signature : Bytes) : Bytes :=
  params ++ (sigHashSHA256 :: sigAlgECDSA :: (putBE16 signature.length ++ signature))

structure ServerKeyExchangeECDHE where
  pubkey : Bytes
  params : Bytes
  signature : Bytes
  deriving DecidableEq, Repr

def parseECDHEServerKeyExchange (b : Bytes) : Option ServerKeyExchangeECDHE :=
  (readBytes 1 b).bind fun curveType =>
    (readUint16 curveType.2).bind fun named =>
      (readVector8 named.2).bind fun pub =>
        if curveType.1 ≠ [ecCurveTypeNamedCurve] ∨ named.1 ≠ ecNamedCurveSecp256r1 then none
        else
          (readBytes 2 pub.2).bind fun alg =>
            (readVector16 alg.2).map fun signature =>
              ⟨pub.1, ecdheServerParams pub.1, signature.1⟩

lemma parseECDHEServerKeyExchange_marshal {pubkey signature : Bytes} (hpub : pubkey.length < 256)
    (hsig : signature.length < 65536) :
    parseECDHEServerKeyExchange
      (marshalECDHEServerKeyExchange (ecdheServerParams pubkey) signature) =
      some ⟨pubkey, ecdheServerParams pubkey, signature⟩ := by
  have hread := readVector16_put hsig []
  rw [append_nil] at hread
  have hcurve := readBytes_append [ecCurveTypeNamedCurve] (putBE16 ecNamedCurveSecp256r1 ++
    (UInt8.ofNat pubkey.length :: (pubkey ++
      ([sigHashSHA256, sigAlgECDSA] ++ (putBE16 signature.length ++ signature)))))
  have halg := readBytes_append [sigHashSHA256, sigAlgECDSA] (putBE16 signature.length ++ signature)
  rw [parseECDHEServerKeyExchange, marshalECDHEServerKeyExchange, ecdheServerParams]
  simp only [append_assoc, cons_append, nil_append, length_cons, length_nil] at hcurve halg ⊢
  simp only [hcurve, halg, bind_some, readUint16_put, readVector8_put hpub, hread, map_some]
  rfl

def marshalECDHEClientKeyExchange (pubkey : Bytes) : Bytes := UInt8.ofNat pubkey.length :: pubkey

def parseECDHEClientKeyExchange (b : Bytes) : Option Bytes := (readVector8 b).map Prod.fst

lemma parseECDHEClientKeyExchange_marshal {pubkey : Bytes} (h : pubkey.length < 256) :
    parseECDHEClientKeyExchange (marshalECDHEClientKeyExchange pubkey) = some pubkey := by
  have hread := readVector8_put h []
  rw [append_nil] at hread
  rw [parseECDHEClientKeyExchange, marshalECDHEClientKeyExchange, hread, map_some]

end Veepin.Dtls
