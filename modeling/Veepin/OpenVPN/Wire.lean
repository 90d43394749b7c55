import Veepin.Core.Bytes

/-!
# OpenVPN control packets

The codec of `internal/openvpn/wire/wire.go`: an opcode with a key, the session of the sender, the
acknowledgements with the session they are for, and the message.

* `parseControl_marshal` — what is sent is read back.
-/

namespace Veepin.OpenVPN

open List Function

/-! ## Opcodes -/

def pControlSoftResetV1 : UInt8 := 3
def pControlV1 : UInt8 := 4
def pACKV1 : UInt8 := 5
def pControlHardResetClientV2 : UInt8 := 7
def pControlHardResetServerV2 : UInt8 := 8
def pControlHardResetClientV3 : UInt8 := 10
def pControlWKCV1 : UInt8 := 11

def controlOpcodes : List UInt8 :=
  [pControlSoftResetV1, pControlV1, pACKV1, pControlHardResetClientV2, pControlHardResetServerV2,
    pControlHardResetClientV3, pControlWKCV1]

def isControl (opcode : UInt8) : Bool := controlOpcodes.contains opcode

def opcode : Bytes → Option (UInt8 × UInt8)
  | [] => none
  | b :: _ => some (b >>> 3, b &&& 7)

def firstByte (opcode keyID : UInt8) : UInt8 := opcode <<< 3 ||| (keyID &&& 7)

/-- The two parts of the first octet do not meet. -/
lemma firstByte_split {op : UInt8} (hop : isControl op = true) (keyID : UInt8) :
    firstByte op keyID >>> 3 = op ∧ firstByte op keyID &&& 7 = keyID &&& 7 := by
  have hbits : ∀ x ∈ controlOpcodes.map UInt8.toBitVec, ∀ k : BitVec 8,
      (x <<< 3 ||| (k &&& 7#8)) >>> 3 = x ∧ (x <<< 3 ||| (k &&& 7#8)) &&& 7#8 = k &&& 7#8 := by
    decide +kernel
  have hmem : op ∈ controlOpcodes := by simpa [isControl] using hop
  obtain ⟨h₁, h₂⟩ := hbits op.toBitVec (mem_map_of_mem hmem) keyID.toBitVec
  constructor
  · apply UInt8.toBitVec_inj.1
    simpa [firstByte] using h₁
  · apply UInt8.toBitVec_inj.1
    simpa [firstByte] using h₂

/-! ## Packets -/

/-- `SessionID`: eight octets. -/
abbrev SessionID := { b : Bytes // b.length = 8 }

/-- `copy(id[:], b)` into a new `SessionID`. -/
def sessionIDOf (b : Bytes) : SessionID := ⟨(b ++ List.replicate 8 0).take 8, by simp⟩

lemma sessionIDOf_append (id : SessionID) (rest : Bytes) : sessionIDOf (id.1 ++ rest) = id := by
  have h : ((id.1 ++ rest) ++ replicate 8 0).take 8 = id.1 := by
    rw [append_assoc]
    exact take_left' id.2
  exact Subtype.ext h

structure ControlPacket where
  opcode : UInt8
  keyID : UInt8
  sessionID : SessionID
  acks : List UInt32 := []
  remoteSessionID : SessionID := sessionIDOf []
  packetID : UInt32 := 0
  payload : Bytes := []
  deriving DecidableEq

def ControlPacket.hasMessageBody (p : ControlPacket) : Bool := p.opcode ≠ pACKV1

/-- What follows the session of the sender. -/
def ControlPacket.ackPart (p : ControlPacket) : Bytes :=
  UInt8.ofNat p.acks.length :: p.acks.flatMap (fun id => putBE32 id.toNat) ++
    if p.acks = [] then [] else p.remoteSessionID.1

def ControlPacket.messagePart (p : ControlPacket) : Bytes :=
  if p.hasMessageBody then putBE32 p.packetID.toNat ++ p.payload else []

/-- `Marshal`, into a buffer of `MarshalLen` octets. -/
def ControlPacket.marshal (p : ControlPacket) : Option Bytes :=
  if 255 < p.acks.length then none
  else some (firstByte p.opcode p.keyID :: p.sessionID.1 ++ p.ackPart ++ p.messagePart)

def parseControl (pkt : Bytes) : Option ControlPacket :=
  match opcode pkt with
  | none => none
  | some (op, keyID) =>
    if isControl op = false ∨ pkt.length < 10 then none
    else
      let ackLen := (pkt.getD 9 0).toNat
      let off := 10 + 4 * ackLen + if 0 < ackLen then 8 else 0
      if pkt.length < off then none
      else if op ≠ pACKV1 ∧ pkt.length < off + 4 then none
      else
        some
          { opcode := op
            keyID := keyID
            sessionID := sessionIDOf (pkt.drop 1)
            acks := (List.range ackLen).map fun i => UInt32.ofNat (be32 pkt (10 + 4 * i))
            remoteSessionID :=
              if 0 < ackLen then sessionIDOf (pkt.drop (10 + 4 * ackLen)) else sessionIDOf []
            packetID := if op ≠ pACKV1 then UInt32.ofNat (be32 pkt off) else 0
            payload := if op ≠ pACKV1 then pkt.drop (off + 4) else [] }

/-! ## Round trip -/

/-- A packet that says no more than its octets do. -/
structure ControlPacket.WellFormed (p : ControlPacket) : Prop where
  opcode : isControl p.opcode = true
  acks : p.acks.length ≤ 255
  remote : p.acks = [] → p.remoteSessionID = sessionIDOf []
  body : p.opcode = pACKV1 → p.packetID = 0 ∧ p.payload = []

lemma be32_of_drop {b rest : Bytes} {i : ℕ} {id : UInt32}
    (h : b.drop i = putBE32 id.toNat ++ rest) : UInt32.ofNat (be32 b i) = id := by
  have hhere : be32 b i = be32 (b.drop i) 0 := by
    simp only [be32, be16, getD_eq_getElem?_getD, getElem?_drop, Nat.zero_add, Nat.add_zero,
      Nat.add_assoc]
  have hput : be32 (putBE32 id.toNat ++ rest) 0 = id.toNat % 4294967296 := be32_putBE32 _
  rw [hhere, h, hput]
  exact UInt32.toNat.inj (by simp)

lemma length_flatMap_putBE32 (ids : List UInt32) :
    (ids.flatMap fun id => putBE32 id.toNat).length = 4 * ids.length := by
  induction ids with
  | nil => rfl
  | cons id ids ih => rw [List.flatMap_cons, List.length_append, ih, length_putBE32,
      List.length_cons]; ring

lemma read_ids {ids : List UInt32} {b rest : Bytes} {i : ℕ}
    (h : b.drop i = ids.flatMap (fun id => putBE32 id.toNat) ++ rest) :
    (List.range ids.length).map (fun k => UInt32.ofNat (be32 b (i + 4 * k))) = ids := by
  induction ids generalizing i with
  | nil => rfl
  | cons id ids ih =>
    rw [flatMap_cons, append_assoc] at h
    have hnext : b.drop (i + 4) = ids.flatMap (fun id => putBE32 id.toNat) ++ rest := by
      rw [← drop_drop, h]
      rfl
    rw [length_cons, range_succ_eq_map, map_cons, map_map]
    congr 1
    · exact be32_of_drop h
    refine (map_congr_left fun k _ => ?_).trans (ih hnext)
    rw [comp_apply, show i + 4 * k.succ = i + 4 + 4 * k by omega]

/-- **Round trip.**  After the count come the acknowledgements, the session they are for, and the
message. -/
lemma parseControl_marshal (p : ControlPacket) (hp : p.WellFormed) : ∃ pkt, p.marshal = some pkt ∧
      parseControl pkt = some { p with keyID := p.keyID &&& 7 } := by
  refine ⟨_, if_neg (by have := hp.acks; omega), ?_⟩
  obtain ⟨op, keyID, sid, acks, remote, packetID, payload⟩ := p
  obtain ⟨hop, hacks, hremote, hbody⟩ := hp
  dsimp only at hop hacks hremote hbody
  obtain ⟨hhigh, hlow⟩ := firstByte_split hop keyID
  set ids : Bytes := acks.flatMap fun id => putBE32 id.toNat with hids
  set rem : Bytes := if acks = [] then [] else remote.1 with hrem
  set msg : Bytes := if op ≠ pACKV1 then putBE32 packetID.toNat ++ payload else [] with hmsg
  have hremlen : rem.length = if 0 < acks.length then 8 else 0 := by
    rw [hrem]
    split_ifs with h₁ h₂ h₂
    · simp [h₁] at h₂
    · rfl
    · exact remote.2
    · exact absurd (length_pos_iff.2 h₁) h₂
  generalize hpkt : firstByte op keyID :: sid.1 ++
      ControlPacket.ackPart ⟨op, keyID, sid, acks, remote, packetID, payload⟩ ++
      ControlPacket.messagePart ⟨op, keyID, sid, acks, remote, packetID, payload⟩ = pkt
  have hparts : pkt = firstByte op keyID ::
      (sid.1 ++ (UInt8.ofNat acks.length :: (ids ++ (rem ++ msg)))) := by
    simp only [← hpkt, ControlPacket.ackPart, ControlPacket.messagePart,
      ControlPacket.hasMessageBody, decide_eq_true_eq, hids, hrem, hmsg, append_assoc, cons_append]
  have hopcode : opcode pkt = some (op, keyID &&& 7) := by rw [hparts, opcode, hhigh, hlow]
  have hsid : sessionIDOf (pkt.drop 1) = sid := by
    rw [hparts]
    exact sessionIDOf_append sid _
  have h9 : pkt.drop 9 = UInt8.ofNat acks.length :: (ids ++ (rem ++ msg)) := by
    rw [hparts]
    exact drop_left' sid.2
  have hcount : (pkt.getD 9 0).toNat = acks.length := by
    have hget : pkt[9]? = some (UInt8.ofNat acks.length) := by
      rw [← head?_drop, h9, head?_cons]
    rw [getD_eq_getElem?_getD, hget]
    simp [Nat.mod_eq_of_lt (by omega : acks.length < 256)]
  have h10 : pkt.drop 10 = ids ++ (rem ++ msg) := by
    rw [← drop_drop (i := 1) (j := 9), h9]
    rfl
  have hsession : pkt.drop (10 + 4 * acks.length) = rem ++ msg := by
    rw [← drop_drop, h10]
    exact drop_left' (length_flatMap_putBE32 acks)
  set off := 10 + 4 * acks.length + if 0 < acks.length then 8 else 0 with hoff
  have hmessage : pkt.drop off = msg := by
    rw [hoff, ← drop_drop, hsession]
    exact drop_left' hremlen
  have hlen : pkt.length = off + msg.length := by
    rw [hparts, hoff, ← hremlen]
    simp only [length_cons, length_append, sid.2, hids, length_flatMap_putBE32]
    omega
  have hremote' : (if 0 < acks.length then sessionIDOf (pkt.drop (10 + 4 * acks.length))
      else sessionIDOf []) = remote := by
    split_ifs with h
    · rw [hsession, hrem, if_neg (length_pos_iff.1 h)]
      exact sessionIDOf_append remote msg
    · exact (hremote (length_eq_zero_iff.1 (Nat.eq_zero_of_not_pos h))).symm
  rw [parseControl, hopcode]
  dsimp only
  rw [if_neg (by rw [hop, hlen, hoff]; simp; omega), hcount, ← hoff, if_neg (by omega), hsid,
    read_ids h10, hremote']
  by_cases hack : op = pACKV1
  · simp [hack, hbody hack]
  · rw [hmsg, if_pos hack] at hmessage hlen
    have hpayload : pkt.drop (off + 4) = payload := by
      rw [← drop_drop, hmessage]
      rfl
    rw [length_append, length_putBE32] at hlen
    simp only [hack, ne_eq, not_false_eq_true, true_and, if_true, hpayload, be32_of_drop hmessage]
    exact if_neg (by omega)

end Veepin.OpenVPN
