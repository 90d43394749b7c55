import Veepin.Core.Bytes

/-!
# IKEv2 messages

The model of `internal/ikev2/payload/message.go` and of the two places in `internal/ikev2/ike` that
walk or write a payload chain (`parseInnerPayloads` in `sk.go`, `reencodeInners` in
`intermediate.go`).  A message is a fixed header and a chain of payloads; each generic header names
the type of the *next* payload.

Payload, exchange and protocol numbers stay octets: a peer may send any of them.  A parse error is
`none`; the callers log it and drop the message, so its text is not modelled.

* `walkChain_reencode` — parsing undoes the writing of a chain;
* `builder_bytes` — `Builder`, which patches the links on every `Add`, writes the same octets;
* `parseMessage_protected` — a header followed by one terminal payload is read back.
-/

namespace Veepin.IKE

open List

/-! ## Numbers -/

def ikeSAInit : UInt8 := 34
def ikeAuth : UInt8 := 35
def createChildSA : UInt8 := 36
def informational : UInt8 := 37
def ikeIntermediate : UInt8 := 43

def flagInitiator : UInt8 := 0x08
def flagResponse : UInt8 := 0x20

def noNextPayload : UInt8 := 0
def typeSA : UInt8 := 33
def typeKE : UInt8 := 34
def typeIDi : UInt8 := 35
def typeIDr : UInt8 := 36
def typeCERT : UInt8 := 37
def typeCERTREQ : UInt8 := 38
def typeAUTH : UInt8 := 39
def typeNonce : UInt8 := 40
def typeNotify : UInt8 := 41
def typeDelete : UInt8 := 42
def typeTSi : UInt8 := 44
def typeTSr : UInt8 := 45
def typeSK : UInt8 := 46
def typeCP : UInt8 := 47
def typeEAP : UInt8 := 48
def typeSKF : UInt8 := 53

def protoNone : UInt8 := 0
def protoIKE : UInt8 := 1
def protoESP : UInt8 := 3

/-! ## The header -/

def headerLen : ℕ := 28

structure Header where
  initiatorSPI : ℕ
  responderSPI : ℕ
  nextPayload : UInt8 := 0
  version : UInt8 := 0
  exchangeType : UInt8
  flags : UInt8
  messageID : ℕ
  length : ℕ := 0
  deriving DecidableEq, Repr

def Header.isResponse (h : Header) : Bool := h.flags &&& flagResponse != 0

def Header.marshal (h : Header) : Bytes :=
  putBE64 h.initiatorSPI ++ (putBE64 h.responderSPI ++
    ([h.nextPayload, h.version, h.exchangeType, h.flags] ++
      (putBE32 h.messageID ++ putBE32 h.length)))

def parseHeader (buf : Bytes) : Option Header :=
  if buf.length < headerLen then none
  else some
    { initiatorSPI := be64 buf 0
      responderSPI := be64 buf 8
      nextPayload := buf.getD 16 0
      version := buf.getD 17 0
      exchangeType := buf.getD 18 0
      flags := buf.getD 19 0
      messageID := be32 buf 20
      length := be32 buf 24 }

/-- The fields of a header are within their widths. -/
structure Header.Fits (h : Header) : Prop where
  spiI : h.initiatorSPI < 2 ^ 64
  spiR : h.responderSPI < 2 ^ 64
  msgID : h.messageID < 2 ^ 32
  len : h.length < 2 ^ 32

@[simp] lemma length_marshal (h : Header) : h.marshal.length = headerLen := rfl

lemma parseHeader_marshal {h : Header} (hf : h.Fits) (rest : Bytes) :
    parseHeader (h.marshal ++ rest) = some h := by
  have hlen : ¬ (h.marshal ++ rest).length < headerLen := by
    rw [length_append, length_marshal]
    omega
  have hi : be64 (h.marshal ++ rest) 0 = h.initiatorSPI := be64_of_lt hf.spiI
  have hr : be64 (h.marshal ++ rest) 8 = h.responderSPI := be64_of_lt hf.spiR
  have hm : be32 (h.marshal ++ rest) 20 = h.messageID := be32_of_lt hf.msgID
  have hl : be32 (h.marshal ++ rest) 24 = h.length := be32_of_lt hf.len
  rw [parseHeader, if_neg hlen, hi, hr, hm, hl]
  rfl

/-! ## The payload chain -/

structure RawPayload where
  type : UInt8
  critical : Bool
  body : Bytes
  deriving DecidableEq, Repr

/-- The type of the first payload of a chain. -/
def firstType : List RawPayload → UInt8
  | [] => noNextPayload
  | p :: _ => p.type

/-- The walk of `parsePayloadChain` and `parseInnerPayloads`: the payloads from here on, the first
of which has type `next`.  A terminal payload ends the chain whatever its header says.  A payload is
at least four octets long, so `fuel` need not exceed the length of the buffer. -/
def walkChain (terminal : UInt8 → Bool) : ℕ → UInt8 → Bytes → Option (List RawPayload)
  | 0, next, _ => if next = noNextPayload then some [] else none
  | fuel + 1, next, buf =>
    if next = noNextPayload then some []
    else if buf.length < 4 then none
    else if be16 buf 2 < 4 ∨ buf.length < be16 buf 2 then none
    else
      let p : RawPayload :=
        ⟨next, buf.getD 1 0 &&& 0x80 != 0, (buf.take (be16 buf 2)).drop 4⟩
      if terminal next then some [p]
      else (walkChain terminal fuel (buf.getD 0 0) (buf.drop (be16 buf 2))).map (p :: ·)

/-- The Encrypted payload and its fragment form end the unencrypted chain. -/
def isEncrypted (t : UInt8) : Bool := t == typeSK || t == typeSKF

def parsePayloadChain (first : UInt8) (buf : Bytes) : Option (List RawPayload) :=
  walkChain isEncrypted buf.length first buf

def parseInnerPayloads (first : UInt8) (inner : Bytes) : Option (List RawPayload) :=
  walkChain (fun _ => false) inner.length first inner

/-- One payload with its generic header. -/
def encodePayload (next : UInt8) (p : RawPayload) : Bytes :=
  [next, if p.critical then 0x80 else 0] ++ (putBE16 (4 + p.body.length) ++ p.body)

/-- The loop of `reencodeInners`: the chain in octets. -/
def reencode : List RawPayload → Bytes
  | [] => []
  | p :: ps => encodePayload (firstType ps) p ++ reencode ps

def reencodeInners (inners : List RawPayload) : Option Bytes :=
  if inners = [] then none else some (reencode inners)

/-- A payload that can stand in a chain. -/
structure RawPayload.Fits (p : RawPayload) : Prop where
  type : p.type ≠ noNextPayload
  len : 4 + p.body.length < 2 ^ 16

lemma length_encodePayload (next : UInt8) (p : RawPayload) :
    (encodePayload next p).length = 4 + p.body.length := by
  simp only [encodePayload, length_append, length_cons, length_nil, length_putBE16]
  omega

lemma walkChain_encode (terminal : UInt8 → Bool) {p : RawPayload} (hp : p.Fits) (next : UInt8)
    (rest : Bytes) (fuel : ℕ) :
    walkChain terminal (fuel + 1) p.type (encodePayload next p ++ rest) =
      if terminal p.type then some [p]
      else (walkChain terminal fuel next rest).map (p :: ·) := by
  have hlen := length_encodePayload next p
  set buf := encodePayload next p ++ rest with heq
  have h16 : be16 buf 2 = 4 + p.body.length := be16_of_lt hp.len
  have hbuf : buf.length = 4 + p.body.length + rest.length := by rw [heq, length_append, hlen]
  have htake : buf.take (4 + p.body.length) = encodePayload next p := by rw [← hlen, heq, take_left]
  have hdrop : buf.drop (4 + p.body.length) = rest := by rw [← hlen, heq, drop_left]
  have hbody : (encodePayload next p).drop 4 = p.body := rfl
  have hcrit : (buf.getD 1 0 &&& 0x80 != 0) = p.critical := by
    have hget : buf.getD 1 0 = if p.critical then 0x80 else 0 := rfl
    rw [hget]
    cases p.critical <;> rfl
  have hnext : buf.getD 0 0 = next := rfl
  rw [walkChain, if_neg hp.type, h16, if_neg (by omega), if_neg (by omega), htake, hdrop, hbody,
    hcrit, hnext]

/-- **Parsing undoes writing**, if no payload but the last is terminal. -/
lemma walkChain_reencode {terminal : UInt8 → Bool} :
    ∀ {ps : List RawPayload} {fuel : ℕ}, (∀ p ∈ ps, p.Fits) →
      (∀ p ∈ ps.dropLast, terminal p.type = false) → ps.length ≤ fuel →
      walkChain terminal fuel (firstType ps) (reencode ps) = some ps
  | [], 0, _, _, _ => rfl
  | [], fuel + 1, _, _, _ => rfl
  | p :: ps, 0, _, _, hfuel => absurd hfuel (by simp)
  | [p], fuel + 1, h, _, _ => by
    have hone : walkChain terminal (fuel + 1) (firstType [p]) (reencode [p]) = _ :=
      walkChain_encode terminal (h p (by simp)) noNextPayload [] fuel
    rw [hone]
    cases fuel <;> cases terminal p.type <;> rfl
  | p :: q :: ps, fuel + 1, h, hlast, hfuel => by
    have hp : terminal p.type = false := hlast p (by simp)
    have ih : walkChain terminal fuel (firstType (q :: ps)) (reencode (q :: ps)) = some (q :: ps) :=
      walkChain_reencode (fun r hr => h r (mem_cons_of_mem p hr))
        (fun r hr => hlast r (by simp [hr])) (by simpa using hfuel)
    rw [reencode, firstType, walkChain_encode terminal (h p (by simp)), hp, ih]
    rfl

lemma length_le_length_reencode : ∀ ps : List RawPayload, ps.length ≤ (reencode ps).length
  | [] => le_rfl
  | p :: ps => by
    have := length_le_length_reencode ps
    rw [reencode, length_append, length_encodePayload, length_cons]
    omega

lemma parseInnerPayloads_reencode {ps : List RawPayload} (h : ∀ p ∈ ps, p.Fits) :
    parseInnerPayloads (firstType ps) (reencode ps) = some ps :=
  walkChain_reencode h (fun _ _ => rfl) (length_le_length_reencode ps)

lemma parsePayloadChain_reencode {ps : List RawPayload} (h : ∀ p ∈ ps, p.Fits)
    (hlast : ∀ p ∈ ps.dropLast, isEncrypted p.type = false) :
    parsePayloadChain (firstType ps) (reencode ps) = some ps :=
  walkChain_reencode h hlast (length_le_length_reencode ps)

/-! ## The builder -/

structure Builder where
  buf : Bytes := []
  first : Option UInt8 := none
  lastNextOff : ℕ := 0
  deriving DecidableEq, Repr

/-- `Add`: the new payload goes to the end, and the link of the one before it is patched. -/
def Builder.add (b : Builder) (p : RawPayload) : Builder :=
  let buf := if b.first.isSome then b.buf.set b.lastNextOff p.type else b.buf
  { buf := buf ++ encodePayload noNextPayload p
    first := some (b.first.getD p.type)
    lastNextOff := buf.length }

/-- The payloads added one by one. -/
def build (ps : List RawPayload) : Builder := ps.foldl Builder.add {}

def Builder.firstType (b : Builder) : UInt8 := b.first.getD noNextPayload

/-- A chain whose last link is `link`. -/
def linked (link : UInt8) : List RawPayload → Bytes
  | [] => []
  | [p] => encodePayload link p
  | p :: q :: ps => encodePayload q.type p ++ linked link (q :: ps)

lemma linked_concat (link : UInt8) (p : RawPayload) :
    ∀ ps : List RawPayload, linked link (ps ++ [p]) = linked p.type ps ++ encodePayload link p
  | [] => rfl
  | [_] => rfl
  | r :: q :: ps => by
    have ih := linked_concat link p (q :: ps)
    rw [cons_append] at ih
    rw [cons_append, cons_append, linked, ih, linked, append_assoc]

lemma reencode_eq_linked : ∀ ps : List RawPayload, reencode ps = linked noNextPayload ps
  | [] => rfl
  | [p] => by rw [reencode, reencode, append_nil]; rfl
  | p :: q :: ps => by
    rw [reencode, reencode_eq_linked (q :: ps)]
    rfl

/-- The builder after a chain has been added to it, the last payload last. -/
lemma build_concat (ps : List RawPayload) (p : RawPayload) : build (ps ++ [p]) =
      ⟨linked noNextPayload (ps ++ [p]), some (IKE.firstType (ps ++ [p])),
        (linked p.type ps).length⟩ := by
  induction ps using reverseRecOn generalizing p with
  | nil => rfl
  | append_singleton ps q ih =>
    have hfirst : IKE.firstType (ps ++ [q] ++ [p]) = IKE.firstType (ps ++ [q]) := by
      cases ps <;> rfl
    have hset : (linked noNextPayload (ps ++ [q])).set (linked q.type ps).length p.type =
        linked p.type (ps ++ [q]) := by
      rw [linked_concat, linked_concat, set_append_right _ _ le_rfl, Nat.sub_self]
      rfl
    have hstep : build (ps ++ [q] ++ [p]) = (build (ps ++ [q])).add p := by
      rw [build, foldl_append]
      rfl
    rw [hstep, ih q, Builder.add, hfirst, linked_concat _ _ (ps ++ [q])]
    simp only [Option.isSome_some, if_true, hset, Option.getD_some]

/-- **The builder writes the chain.** -/
lemma builder_bytes (ps : List RawPayload) :
    (build ps).buf = reencode ps ∧ (build ps).firstType = IKE.firstType ps := by
  induction ps using reverseRecOn with
  | nil => exact ⟨rfl, rfl⟩
  | append_singleton ps p _ => rw [build_concat, reencode_eq_linked]; exact ⟨rfl, rfl⟩

/-! ## Messages -/

structure Message where
  header : Header
  payloads : List RawPayload
  deriving DecidableEq, Repr

def parseMessage (buf : Bytes) : Option Message := do
  let h ← parseHeader buf
  if h.length ≠ buf.length then none
  let payloads ← parsePayloadChain h.nextPayload (buf.drop headerLen)
  return ⟨h, payloads⟩

/-- `findInner`, and `Find` on a message's payloads: the first payload of a type. -/
def findInner (ps : List RawPayload) (t : UInt8) : Option RawPayload :=
  ps.find? fun p => p.type == t

/-- `findAllInner`, and `FindAll`. -/
def findAllInner (ps : List RawPayload) (t : UInt8) : List RawPayload :=
  ps.filter fun p => p.type == t

/-- **A protected message is read back.**  Its one payload is terminal, and its header may name any
inner type as the next. -/
lemma parseMessage_protected {h : Header} (hf : h.Fits) {p : RawPayload} (hp : p.Fits)
    (next : UInt8) (ht : isEncrypted p.type = true) (hnext : h.nextPayload = p.type)
    (hlen : h.length = headerLen + (4 + p.body.length)) :
    parseMessage (h.marshal ++ encodePayload next p) = some ⟨h, [p]⟩ := by
  have hl : (h.marshal ++ encodePayload next p).length = h.length := by
    rw [length_append, length_marshal, length_encodePayload, hlen]
  have hdrop : (h.marshal ++ encodePayload next p).drop headerLen = encodePayload next p := by
    rw [← length_marshal h, drop_left]
  have hwalk : parsePayloadChain p.type (encodePayload next p) = some [p] := by
    obtain ⟨n, hn⟩ : ∃ n, (encodePayload next p).length = n + 1 :=
      ⟨3 + p.body.length, by rw [length_encodePayload]; omega⟩
    have hone := walkChain_encode isEncrypted hp next [] n
    rw [append_nil, ht] at hone
    rw [parsePayloadChain, hn]
    exact hone
  simp [parseMessage, parseHeader_marshal hf, hl, hdrop, hnext, hwalk]

end Veepin.IKE
