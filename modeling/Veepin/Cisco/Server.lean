import Veepin.Dataplane.AddrPool
import Veepin.Dataplane.PeerTable

/-!
# The Cisco IPsec server

The model of `internal/cisco/server.go`, the part that makes, indexes and removes peers.  As for
the L2TP server the IKEv1 session of a peer is in the inputs, which call back in any order:
`assign` after XAuth, `Established` after phase 2, `Failed`.
-/

namespace Veepin.Cisco

/-- The NAT-T port a peer is assumed to use until its source port is seen. -/
def defaultNATTPort : ℕ := 4500

/-- `Tunnel`: the ESP SA of one client and the inner address routed to it. -/
structure Tunnel where
  inSPI : UInt32
  inner : Bytes
  peerAddr : UDPAddr
  deriving DecidableEq

/-- `serverPeer`. -/
structure Peer where
  cookie : Bytes
  addr : UDPAddr
  nattAddr : UDPAddr
  tunnel : Option Tunnel := none
  innerIP : Option Bytes := none

/-- `Server`; `pump` is the tunnels the data path routes to. -/
structure Server where
  table : PeerTable Peer
  pump : List Tunnel
  pool : AddrPool

def newServer (pool : AddrPool) (now : ℤ) : Server :=
  { table := { gate := newGate {} now, peers := [], byCookie := ∅ }, pump := [], pool }

/-- What reaches the server: IKE messages (`verified` if an established session accepted it) and
the callbacks of a peer's session. -/
inductive Event
  | ike (msg : Bytes) (addr : UDPAddr) (natt verified : Bool) (now : ℤ)
  | assign (p : ℕ)
  | established (p : ℕ) (inSPI : UInt32)
  | failed (p : ℕ)

def Peer.noteIKEAddr (addr : UDPAddr) (natt : Bool) (p : Peer) : Peer :=
  if natt then { p with nattAddr := addr } else { p with addr := addr }

namespace Server

/-- A change of one peer object. -/
def modify (s : Server) (p : ℕ) (f : Peer → Peer) : Server :=
  { s with table := s.table.modify p f }

def peerFor (s : Server) (cookie : Bytes) (addr : UDPAddr) (now : ℤ) :
    Server × Option ℕ :=
  let r := s.table.peerFor cookie addr now
    { cookie, addr, nattAddr := { ip := addr.ip, port := defaultNATTPort } }
  ({ s with table := r.1 }, r.2)

/-- `dispatchIKE`.  The address of an established peer moves only for a verified message. -/
def dispatchIKE (s : Server) (msg : Bytes) (addr : UDPAddr) (natt verified : Bool)
    (now : ℤ) : Server :=
  match initiatorCookie msg with
  | none => s
  | some cookie =>
    match s.peerFor cookie addr now with
    | (s, none) => s
    | (s, some p) =>
      s.modify p fun q => if q.tunnel.isNone || verified then q.noteIKEAddr addr natt else q

/-- `removePeer`: nothing if the peer's cookie is not in the index. -/
def removePeer (s : Server) (p : ℕ) : Server :=
  match s.table.peers[p]? with
  | none => s
  | some q =>
    if q.cookie ∈ s.table.byCookie then
      { table := (s.table.drop q.cookie).modify p fun q => { q with tunnel := none }
        pump := match q.tunnel with
          | none => s.pump
          | some t => s.pump.erase t
        pool := match q.innerIP with
          | none => s.pool
          | some ip => s.pool.release ip }
    else s

/-- `assign`: the peer gets an inner address; with none left the session is told to fail. -/
def assign (s : Server) (p : ℕ) : Server :=
  match s.pool.allocate with
  | none => s
  | some (ip, pool) =>
    { s with pool, table := s.table.modify p fun q => { q with innerIP := some ip } }

/-- `Established`: a tunnel for the assigned address, or the peer is removed. -/
def established (s : Server) (p : ℕ) (inSPI : UInt32) : Server :=
  match s.table.peers[p]? with
  | none => s
  | some q =>
    match q.innerIP.bind to4 with
    | none => s.removePeer p
    | some inner =>
      let t : Tunnel := { inSPI, inner, peerAddr := q.nattAddr }
      { s with
        table := s.table.modify p fun q => { q with tunnel := some t }
        pump := s.pump ++ [t] }

/-- One event. -/
def step (s : Server) : Event → Server
  | .ike msg addr natt verified now => s.dispatchIKE msg addr natt verified now
  | .assign p => s.assign p
  | .established p inSPI => s.established p inSPI
  | .failed p => s.removePeer p

/-! ## Peers and slots -/

/-- `removePeer` would find the peer. -/
def Removable (s : Server) (p : ℕ) : Prop :=
  ∃ q, s.table.peers[p]? = some q ∧ q.cookie ∈ s.table.byCookie

/-- The peer has no inner address that a tunnel could be made for. -/
def Addressless (s : Server) (p : ℕ) : Prop :=
  ∃ q, s.table.peers[p]? = some q ∧ q.innerIP.bind to4 = none

/-- The event removes a peer. -/
def Ends (s : Server) : Event → Prop
  | .failed p => s.Removable p
  | .established p _ => s.Addressless p ∧ s.Removable p
  | _ => False

variable {s : Server}

lemma removePeer_of_removable {p : ℕ} (h : s.Removable p) :
    (s.removePeer p).table.gate = s.table.gate ∧
      (s.removePeer p).table.live + 1 = s.table.live := by
  obtain ⟨q, hq, hc⟩ := h
  unfold removePeer
  simp only [hq, if_pos hc]
  exact ⟨rfl, PeerTable.drop_live hc⟩

lemma removePeer_of_not_removable {p : ℕ} (h : ¬ s.Removable p) : s.removePeer p = s := by
  unfold removePeer
  split
  · rfl
  · rename_i q hq
    exact if_neg fun hc => h ⟨q, hq, hc⟩

lemma established_of_addressless {p : ℕ} (h : s.Addressless p) (inSPI : UInt32) :
    s.established p inSPI = s.removePeer p := by
  obtain ⟨q, hq, hnone⟩ := h
  simp only [established, hq, hnone]

/-- An event that ends a peer keeps its slot. -/
lemma step_of_ends (s : Server) (e : Event) (h : s.Ends e) :
    (s.step e).table.gate.halfOpen = s.table.gate.halfOpen ∧
      (s.step e).table.live + 1 = s.table.live := by
  cases e with
  | failed p =>
    obtain ⟨hg, hl⟩ := removePeer_of_removable h
    exact ⟨congrArg Gate.halfOpen hg, hl⟩
  | established p inSPI =>
    obtain ⟨hnone, hrem⟩ := h
    obtain ⟨hg, hl⟩ := removePeer_of_removable hrem
    simp only [step, established_of_addressless hnone]
    exact ⟨congrArg Gate.halfOpen hg, hl⟩
  | _ => exact h.elim

/-- Every other event changes slots and peers alike. -/
lemma step_of_not_ends (s : Server) (e : Event) (h : ¬ s.Ends e)
    (hlevel : s.table.gate.halfOpen = s.table.live) :
    (s.step e).table.gate.halfOpen = (s.step e).table.live := by
  cases e with
  | ike msg addr natt verified now =>
    simp only [step, dispatchIKE]
    split
    · exact hlevel
    rename_i cookie _
    have hpeer : (s.peerFor cookie addr now).1.table.gate.halfOpen =
        (s.peerFor cookie addr now).1.table.live := PeerTable.peerFor_level hlevel ..
    generalize s.peerFor cookie addr now = r at hpeer ⊢
    obtain ⟨s', found⟩ := r
    cases found <;> exact hpeer
  | assign p =>
    simp only [step, assign]
    split <;> exact hlevel
  | established p inSPI =>
    by_cases hno : s.Addressless p
    · simp only [step, established_of_addressless hno]
      rw [removePeer_of_not_removable fun hr => h ⟨hno, hr⟩]
      exact hlevel
    simp only [step, established]
    split
    · exact hlevel
    · rename_i q hq
      split
      · rename_i hnone
        exact absurd ⟨q, hq, hnone⟩ hno
      · exact hlevel
  | failed p =>
    simp only [step]
    rw [removePeer_of_not_removable h]
    exact hlevel

end Server

end Veepin.Cisco
