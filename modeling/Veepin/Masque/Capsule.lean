import Veepin.Masque.Http3

/-!
# Capsules

`capsule.go` and the HTTP-Datagram payload of `connectip.go`, on the request stream.

* `capsuleRead_write` — a capsule that was written whole is read back, and nothing else of the
  stream;
* `Item.decode_capsule` — the packet in a DATAGRAM capsule, with what pads it.
-/

namespace Veepin.Masque

open List

def capsuleDatagram : ℕ := 0x00

def contextIDPackets : ℕ := 0

def maxCapsuleValue : ℕ := 65536

def encodePadded (packet : Bytes) (minInner : ℤ) : Bytes :=
  let inner := if minInner > packet.length then minInner.toNat else packet.length
  appendVarint capsuleDatagram ++
    (appendVarint (varintLen contextIDPackets + inner) ++
      (appendVarint contextIDPackets ++ (packet ++ List.replicate (inner - packet.length) 0)))

def encode (packet : Bytes) : Bytes := encodePadded packet 0

/-- `CapsuleReader.Read`. -/
def capsuleRead (rs : RequestStream) : Got ((ℕ × Bytes) × RequestStream) :=
  (readVarint RequestStream.readFull rs).bind fun (typ, rs) =>
    (readVarint RequestStream.readFull rs).bind fun (length, rs) =>
      if length > maxCapsuleValue then .fail
      else (rs.readFull length).bind fun (value, rs) => .ok ((typ, value), rs)

/-- `DecodeDatagramPayload`: a payload of another context is no packet. -/
def decodeDatagramPayload (payload : Bytes) : Option Bytes :=
  match consumeVarint payload with
  | none => none
  | some (ctx, rest) => if ctx = contextIDPackets then some rest else none

/-- A packet with its padding target, or a capsule of another kind. -/
inductive Item
  | packet (p : Bytes) (target : ℤ)
  | other (typ : ℕ) (value : Bytes)

namespace Item

def writeCapsule (typ : ℕ) (value : Bytes) : Bytes :=
  appendVarint typ ++ (appendVarint value.length ++ value)

/-- What is written. -/
def octets : Item → Bytes
  | .packet p target => encodePadded p target
  | .other typ value => writeCapsule typ value

/-- The packet, with zeros up to the target. -/
def padded (p : Bytes) (target : ℤ) : Bytes := p ++ List.replicate (target.toNat - p.length) 0

/-- What the reader is to return. -/
def capsule : Item → ℕ × Bytes
  | .packet p target => (capsuleDatagram, appendVarint contextIDPackets ++ padded p target)
  | .other typ value => (typ, value)

def maxInnerPacket : ℕ := 65535

/-- Within the limits of the packet and of the value. -/
def Valid : Item → Prop
  | .packet p target => p.length ≤ maxInnerPacket ∧ target ≤ maxInnerPacket
  | .other typ value => typ < 2 ^ 62 ∧ value.length ≤ maxCapsuleValue

lemma octets_eq (i : Item) : i.octets = writeCapsule i.capsule.1 i.capsule.2 := by
  cases i with
  | other typ value => rfl
  | packet p target =>
    have hinner : (if target > p.length then target.toNat else p.length) =
        p.length + (target.toNat - p.length) := by
      split_ifs <;> omega
    have hlen : (appendVarint contextIDPackets ++ padded p target).length =
        varintLen contextIDPackets + (p.length + (target.toNat - p.length)) := by
      rw [length_append, length_appendVarint, padded, length_append, length_replicate]
    simp only [octets, encodePadded, hinner, Nat.add_sub_cancel_left, capsule, writeCapsule, hlen]
    rfl

lemma Valid.bounds {i : Item} (h : i.Valid) :
    i.capsule.1 < 2 ^ 62 ∧ i.capsule.2.length ≤ maxCapsuleValue := by
  cases i with
  | other typ value => exact h
  | packet p target =>
    have hp : p.length ≤ 65535 := h.1
    have ht : target ≤ 65535 := h.2
    refine ⟨show capsuleDatagram < 2 ^ 62 by decide, ?_⟩
    rw [capsule, length_append, length_appendVarint, padded, length_append,
      length_replicate, maxCapsuleValue, show varintLen contextIDPackets = 1 from rfl]
    omega

/-- **The packet comes out**, padded. -/
lemma decode_capsule (p : Bytes) (target : ℤ) :
    decodeDatagramPayload (Item.packet p target).capsule.2 = some (padded p target) := by
  rw [capsule, decodeDatagramPayload, consumeVarint_appendVarint (by decide)]
  rfl

end Item

/-- **A capsule is read**, by any reader of the stream. -/
lemma capsuleRead_of {R : Bytes → RequestStream → Prop}
    (hfull : ∀ b x rs, R (b ++ x) rs → ∃ rs', rs.readFull b.length = .ok (b, rs') ∧ R x rs')
    {i : Item} (hi : i.Valid) {x : Bytes} {rs : RequestStream} (h : R (i.octets ++ x) rs) :
    ∃ rs', capsuleRead rs = .ok (i.capsule, rs') ∧ R x rs' := by
  obtain ⟨htyp, hlen⟩ := hi.bounds
  rw [i.octets_eq, Item.writeCapsule, append_assoc, append_assoc] at h
  obtain ⟨rs₁, hread₁, h₁⟩ := readVarint_of (fun b x rs _ => hfull b x rs) htyp h
  obtain ⟨rs₂, hread₂, h₂⟩ :=
    readVarint_of (fun b x rs _ => hfull b x rs) (hlen.trans_lt (by decide)) h₁
  obtain ⟨rs₃, hread₃, h₃⟩ := hfull _ _ rs₂ h₂
  refine ⟨rs₃, ?_, h₃⟩
  rw [capsuleRead, hread₁, Got.bind_ok]
  dsimp only
  rw [hread₂, Got.bind_ok]
  dsimp only
  rw [if_neg (not_lt.2 hlen), hread₃]
  rfl

/-- **A capsule that was written whole**: nothing else of the stream is read. -/
lemma capsuleRead_write {i : Item} (hi : i.Valid) (hlen : i.octets.length ≤ maxFramePayload)
    (rest : Bytes) :
    capsuleRead ⟨[], writeFrame frameData i.octets ++ rest⟩ = .ok (i.capsule, ⟨[], rest⟩) := by
  -- a read begins with an octet, so it does not matter whether the frame has been opened
  have hvarint : readVarint RequestStream.readFull ⟨[], writeFrame frameData i.octets ++ rest⟩ =
      readVarint RequestStream.readFull ⟨i.octets, rest⟩ := by
    have hne : i.octets ≠ [] := by simp [i.octets_eq, Item.writeCapsule, appendVarint_ne_nil]
    rw [readVarint, readVarint, RequestStream.readFull_write hne hlen (by decide)]
  let R : Bytes → RequestStream → Prop := fun x rs => rs = ⟨x, rest⟩
  have hfull : ∀ b x rs, R (b ++ x) rs → ∃ rs', rs.readFull b.length = .ok (b, rs') ∧ R x rs' :=
    fun b x rs hrs => ⟨⟨x, rest⟩, hrs ▸ RequestStream.readFull_append b x rest, rfl⟩
  have hstart : R (i.octets ++ []) ⟨i.octets, rest⟩ := by simp [R]
  obtain ⟨rs', hread, rfl⟩ := capsuleRead_of hfull hi hstart
  rw [← hread, capsuleRead, capsuleRead, hvarint]

/-- **A datagram is read back**, and is what was sent. -/
lemma capsuleRead_encode {packet : Bytes} (hlen : packet.length ≤ 65507) (rest : Bytes) :
    ∃ value, capsuleRead ⟨[], writeFrame frameData (encode packet) ++ rest⟩ =
        .ok ((capsuleDatagram, value), ⟨[], rest⟩) ∧
      decodeDatagramPayload value = some packet := by
  have hvalid : (Item.packet packet 0).Valid := ⟨hlen.trans (by decide), by decide⟩
  have hpad : Item.padded packet 0 = packet := by simp [Item.padded]
  refine ⟨_, capsuleRead_write hvalid ?_ rest, (Item.decode_capsule packet 0).trans (by rw [hpad])⟩
  have hvar := varintLen_le (Item.packet packet 0).capsule.2.length
  rw [Item.octets_eq, Item.writeCapsule]
  simp only [length_append, length_appendVarint, Item.capsule, hpad] at hvar ⊢
  rw [show varintLen capsuleDatagram = 1 from rfl, show varintLen contextIDPackets = 1 from rfl,
    maxFramePayload] at *
  omega

end Veepin.Masque
