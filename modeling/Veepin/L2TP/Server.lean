import Veepin.Dataplane.AddrPool
import Veepin.Dataplane.PeerTable

/-!
# The L2TP/IPsec server

The model of `internal/l2tp/server.go`, the part that makes, indexes and removes peers.  What the
IKEv1 session, the L2TP tunnel and the PPP session of a peer do is in the inputs: they call back
into the server (`Established`, `Failed`, `SessionUp`, `NetworkUp`, `Closed`) in any order.  The
frames and packets themselves are not modelled.
-/

namespace Veepin.L2TP

/-- The NAT-T port a peer is assumed to use until its source port is seen. -/
def nattPort : ℕ := 4500

/-- `serverPeer`.  `established` stands for the ESP SA and the tunnel, which are set together. -/
structure Peer where
  cookie : Bytes
  addr : UDPAddr
  nattAddr : UDPAddr
  inSPI : UInt32 := 0
  established : Bool := false
  innerIP : Option Bytes := none
  up : Bool := false

structure Server where
  table : PeerTable Peer
  bySPI : AList (fun _ : UInt32 => ℕ)
  byIP : AList (fun _ : ℕ => ℕ)
  pool : AddrPool

def newServer (pool : AddrPool) (now : ℤ) : Server :=
  { table := { gate := newGate {} now, peers := [], byCookie := ∅ }, bySPI := ∅, byIP := ∅, pool }

/-- What reaches the server: IKE messages (`verified` if an established session accepted it), ESP
packets (`authenticated` if it opened under the peer's SA) and the callbacks of a peer's session,
tunnel and PPP engine.  `gone` is every callback that removes the peer. -/
inductive Event
  | ike (msg : Bytes) (addr : UDPAddr) (natt verified : Bool) (now : ℤ)
  | esp (pkt : Bytes) (addr : UDPAddr) (authenticated : Bool)
  | established (p : ℕ) (inSPI : UInt32)
  | sessionUp (p : ℕ)
  | networkUp (p : ℕ)
  | gone (p : ℕ)

def Peer.noteIKEAddr (addr : UDPAddr) (natt : Bool) (p : Peer) : Peer :=
  if natt then { p with nattAddr := addr } else { p with addr := addr }

def Peer.noteAddr (addr : UDPAddr) (p : Peer) : Peer := { p with nattAddr := addr }

namespace Server

/-- A change of one peer object. -/
def modify (s : Server) (p : ℕ) (f : Peer → Peer) : Server :=
  { s with table := s.table.modify p f }

def peerFor (s : Server) (cookie : Bytes) (addr : UDPAddr) (now : ℤ) :
    Server × Option ℕ :=
  let r := s.table.peerFor cookie addr now
    { cookie, addr, nattAddr := { ip := addr.ip, port := nattPort } }
  ({ s with table := r.1 }, r.2)

/-- `dispatchIKE`.  The address of an established peer moves only for a verified message. -/
def dispatchIKE (s : Server) (msg : Bytes) (addr : UDPAddr) (natt verified : Bool)
    (now : ℤ) : Server :=
  match initiatorCookie msg with
  | none => s
  | some cookie =>
    match s.peerFor cookie addr now with
    | (s, none) => s
    | (s, some p) =>
      s.modify p fun q => if !q.established || verified then q.noteIKEAddr addr natt else q

/-- The ESP arm of `recvNATT`. -/
def receiveESP (s : Server) (pkt : Bytes) (addr : UDPAddr) (authenticated : Bool) :
    Server :=
  if pkt.length < 4 then s
  else
    match s.bySPI.lookup (UInt32.ofNat (be32 pkt 0)) with
    | none => s
    | some p =>
      s.modify p fun q => if q.established && authenticated then q.noteAddr addr else q

/-- `removePeer`: nothing if the peer's cookie is not in the index. -/
def removePeer (s : Server) (p : ℕ) : Server :=
  match s.table.peers[p]? with
  | none => s
  | some q =>
    if q.cookie ∈ s.table.byCookie then
      { table := s.table.drop q.cookie
        bySPI := if q.inSPI ≠ 0 then s.bySPI.erase q.inSPI else s.bySPI
        byIP := match q.innerIP.bind to4 with
          | none => s.byIP
          | some v4 => s.byIP.erase (be32 v4 0)
        pool := match q.innerIP with
          | none => s.pool
          | some ip => s.pool.release ip }
    else s

/-- `Established`: the peer has an ESP SA, found by its SPI. -/
def established (s : Server) (p : ℕ) (inSPI : UInt32) : Server :=
  let s := s.modify p fun q => { q with established := true, inSPI := inSPI }
  { s with bySPI := s.bySPI.insert inSPI p }

/-- `SessionUp`: the peer gets an inner address, or is removed when there is none. -/
def sessionUp (s : Server) (p : ℕ) : Server :=
  match s.pool.allocate with
  | none => s.removePeer p
  | some (ip, pool) =>
    { s with pool, table := s.table.modify p fun q => { q with innerIP := some ip } }

/-- `NetworkUp`: from here on the TUN routes to the peer. -/
def networkUp (s : Server) (p : ℕ) : Server :=
  let ip := (s.table.peers[p]?).bind (·.innerIP)
  let s := s.modify p fun q => { q with up := true }
  match ip.bind to4 with
  | none => s
  | some v4 => { s with byIP := s.byIP.insert (be32 v4 0) p }

/-- One event. -/
def step (s : Server) : Event → Server
  | .ike msg addr natt verified now => s.dispatchIKE msg addr natt verified now
  | .esp pkt addr authenticated => s.receiveESP pkt addr authenticated
  | .established p inSPI => s.established p inSPI
  | .sessionUp p => s.sessionUp p
  | .networkUp p => s.networkUp p
  | .gone p => s.removePeer p

/-! ## Peers and slots -/

/-- `removePeer` would find the peer. -/
def Removable (s : Server) (p : ℕ) : Prop :=
  ∃ q, s.table.peers[p]? = some q ∧ q.cookie ∈ s.table.byCookie

/-- The event removes a peer. -/
def Ends (s : Server) : Event → Prop
  | .gone p => s.Removable p
  | .sessionUp p => s.pool.allocate = none ∧ s.Removable p
  | _ => False

lemma removePeer_of_removable {s : Server} {p : ℕ} (h : s.Removable p) :
    (s.removePeer p).table.gate = s.table.gate ∧
      (s.removePeer p).table.live + 1 = s.table.live := by
  obtain ⟨q, hq, hc⟩ := h
  unfold removePeer
  simp only [hq, if_pos hc]
  exact ⟨rfl, PeerTable.drop_live hc⟩

lemma removePeer_of_not_removable {s : Server} {p : ℕ} (h : ¬ s.Removable p) :
    s.removePeer p = s := by
  unfold removePeer
  split
  · rfl
  · rename_i q hq
    exact if_neg fun hc => h ⟨q, hq, hc⟩

/-- An event that ends a peer keeps its slot. -/
lemma step_of_ends (s : Server) (e : Event) (h : s.Ends e) :
    (s.step e).table.gate.halfOpen = s.table.gate.halfOpen ∧
      (s.step e).table.live + 1 = s.table.live := by
  cases e with
  | gone p =>
    obtain ⟨hg, hl⟩ := removePeer_of_removable h
    exact ⟨congrArg Gate.halfOpen hg, hl⟩
  | sessionUp p =>
    obtain ⟨hnone, hrem⟩ := h
    obtain ⟨hg, hl⟩ := removePeer_of_removable hrem
    simp only [step, sessionUp, hnone]
    exact ⟨congrArg Gate.halfOpen hg, hl⟩
  | _ => exact h.elim

/-- Every other event changes slots and peers alike. -/
lemma step_of_not_ends (s : Server) (e : Event) (h : ¬ s.Ends e)
    (hlevel : s.table.gate.halfOpen = s.table.live) :
    (s.step e).table.gate.halfOpen = (s.step e).table.live := by
  cases e with
  | ike msg addr natt verified now =>
    simp only [step, dispatchIKE]
    split
    · exact hlevel
    rename_i cookie _
    have hpeer : (s.peerFor cookie addr now).1.table.gate.halfOpen =
        (s.peerFor cookie addr now).1.table.live := PeerTable.peerFor_level hlevel ..
    generalize s.peerFor cookie addr now = r at hpeer ⊢
    obtain ⟨s', found⟩ := r
    cases found <;> exact hpeer
  | esp pkt addr authenticated =>
    simp only [step, receiveESP]
    split_ifs
    · exact hlevel
    · split <;> exact hlevel
  | established p inSPI => exact hlevel
  | sessionUp p =>
    simp only [step, sessionUp]
    split
    · rename_i hnone
      rw [removePeer_of_not_removable fun hr => h ⟨hnone, hr⟩]
      exact hlevel
    · exact hlevel
  | networkUp p =>
    simp only [step, networkUp]
    split <;> exact hlevel
  | gone p =>
    simp only [step]
    rw [removePeer_of_not_removable h]
    exact hlevel

end Server

end Veepin.L2TP
