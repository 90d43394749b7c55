import Veepin.Core.Maps
import Veepin.Dataplane.Admission

/-!
# A table of IKEv1 peers behind a gate

The L2TP/IPsec and the Cisco IPsec server keep their peers alike: a map from the initiator cookie
of an IKEv1 session to the peer object, filled by `peerFor` for a cookie not seen before, if the
gate admits it, and emptied by `removePeer`.  This file is that common part, over the type of peer
objects.  A peer is referred to by its place in the list of all peers ever made, which stands for
the pointer of the source.

A new peer takes a slot of the gate (`PeerTable.peerFor_level`), and a peer that is dropped does not
give one back (`PeerTable.drop_live`).
-/

namespace Veepin

/-- The gate, the peers ever made, and the index of those that exist. -/
structure PeerTable (P : Type) where
  gate : Gate
  peers : List P
  byCookie : AList (fun _ : Bytes => ℕ)

namespace PeerTable

variable {P : Type}

/-- `peerFor`: the peer of a cookie, made anew if the gate admits its source; `none` if not. -/
def peerFor (t : PeerTable P) (cookie : Bytes) (addr : UDPAddr) (now : ℤ) (new : P) :
    PeerTable P × Option ℕ :=
  match t.byCookie.lookup cookie with
  | some p => (t, some p)
  | none =>
    let r := t.gate.tryAdmit addr now
    if r.2 = .admitted then
      ({ gate := r.1
         peers := t.peers ++ [new]
         byCookie := t.byCookie.insert cookie t.peers.length }, some t.peers.length)
    else ({ t with gate := r.1 }, none)

/-- The part of `removePeer` that both servers share. -/
def drop (t : PeerTable P) (cookie : Bytes) : PeerTable P :=
  { t with byCookie := t.byCookie.erase cookie }

/-- A change of one peer object. -/
def modify (t : PeerTable P) (p : ℕ) (f : P → P) : PeerTable P :=
  { t with peers := t.peers.modify p f }

/-- The number of peers that exist. -/
def live (t : PeerTable P) : ℕ := mapSize t.byCookie

/-- **A new peer takes a slot.**  `peerFor` changes the slots and the peers alike. -/
lemma peerFor_level {t : PeerTable P} (h : t.gate.halfOpen = t.live) (cookie : Bytes)
    (addr : UDPAddr) (now : ℤ) (new : P) :
    (t.peerFor cookie addr now new).1.gate.halfOpen = (t.peerFor cookie addr now new).1.live := by
  unfold peerFor
  split
  · exact h
  rename_i hnone
  have hmem : cookie ∉ t.byCookie := AList.lookup_eq_none.mp hnone
  dsimp only
  rcases t.gate.tryAdmit_cases addr now with ⟨ha, -, -, hh⟩ | ⟨ha, -, hh⟩
  · rw [if_pos ha]
    show (t.gate.tryAdmit addr now).1.halfOpen = mapSize (t.byCookie.insert cookie t.peers.length)
    rw [hh, mapSize_insert hmem, h]
    rfl
  · rw [if_neg ha]
    exact hh.trans h

/-- **A dropped peer keeps its slot.** -/
lemma drop_live {t : PeerTable P} {cookie : Bytes} (h : cookie ∈ t.byCookie) :
    (t.drop cookie).live + 1 = t.live := mapSize_erase h

end PeerTable

/-- `ikev1.InitiatorCookie`: the first eight octets of a message with a whole ISAKMP header. -/
def initiatorCookie (msg : Bytes) : Option Bytes :=
  if msg.length < 28 then none else some (msg.take 8)

end Veepin
