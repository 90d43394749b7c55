import Veepin.Core.Bytes
import Veepin.Dataplane.Pump

/-!
# Receiver indices of the WireGuard server

The model of `handleInitiation` in `internal/wireguard/server.go`, from the point where the
initiation has been opened, with the two-slot key store of `tunnel.go` and the inbound keys of the
pump.  The server draws the receiver index of each new session at random, registers it with the pump
and takes away that of the session that falls out.  Nothing looks whether an index is in use.

* `Server.Exact` — the inbound keys are the indices of the sessions held, each peer's its own;
* `Server.Coherent` — with it, no tunnel has one index for both sessions: `coherent_accept`;
* `indices_unambiguous` — the keys stay exact in every run in which the indices drawn are not in
  use.
-/

namespace Veepin.WireGuard

open Option

variable {S P : Type*}

/-! ## The key store of a tunnel -/

/-- `wgTunnel`: the current session and the one before it. -/
structure Tunnel (S : Type*) where
  current : S
  previous : Option S := none
  deriving DecidableEq, Repr

/-- `install`: the new session, and the one that falls out. -/
def Tunnel.install (t : Tunnel S) (sess : S) : Tunnel S × Option S :=
  ({ current := sess, previous := some t.current }, t.previous)

/-- The tunnel can decrypt under the session. -/
def Tunnel.Holds (t : Tunnel S) (sess : S) : Prop := t.current = sess ∨ t.previous = some sess

instance [DecidableEq S] (t : Tunnel S) (sess : S) : Decidable (t.Holds sess) :=
  inferInstanceAs (Decidable (_ ∨ _))

/-! ## Accepting an initiation -/

/-- `wire.After`, on the octets of two TAI64N timestamps. -/
def after : Bytes → Bytes → Bool
  | a :: as, b :: bs => if a ≠ b then a > b else after as bs
  | _, _ => false

/-- A timestamp that was never set. -/
def zeroTimestamp : Bytes := List.replicate 12 0

/-- The server's record of a configured peer. -/
structure Peer (S : Type*) where
  allowedIPs : List Prefix := []
  lastTS : Bytes := zeroTimestamp
  tunnel : Option (Tunnel S) := none
  deriving DecidableEq

/-- The timestamp of an initiation advances. -/
def Peer.fresh (p : Peer S) (ts : Bytes) : Bool := p.lastTS = zeroTimestamp || after ts p.lastTS

/-- What an accepted initiation does to the peer, and the session evicted. -/
def Peer.rotate (p : Peer S) (ts : Bytes) (sess : S) : Peer S × Option S :=
  match p.tunnel with
  | none => ({ p with lastTS := ts, tunnel := some { current := sess } }, none)
  | some t => ({ p with lastTS := ts, tunnel := some (t.install sess).1 }, (t.install sess).2)

/-- `transport.Session`, its indices. -/
structure Session where
  localIndex : UInt32
  remoteIndex : UInt32
  deriving DecidableEq, Repr

/-- An initiation that `Consume` has opened. -/
structure Initiation (P : Type*) where
  static : P
  ts : Bytes
  sender : UInt32

/-- `Server`: the configured peers by static key, and the pump, in which the tunnel of a peer is
known by the peer. -/
structure Server (P : Type*) where
  peers : P → Option (Peer Session)
  pump : Pump P := {}

/-- An initiation with the outcome of `randomIndex`, which may fail. -/
structure Arrival (P : Type*) where
  init : Initiation P
  index : Option UInt32

variable [DecidableEq P]

/-- The pump after the first session of a peer, or after a later one with the evicted one's key. -/
def Server.register (s : Server P) (p : P) (peer : Peer Session) (sess : Session)
    (evicted : Option Session) : Pump P :=
  match peer.tunnel with
  | none => s.pump.addTunnel (fun _ => peer.allowedIPs) (fun _ => sess.localIndex.toNat) p
  | some _ =>
    let pump := s.pump.addInboundKey sess.localIndex.toNat p
    match evicted with
    | none => pump
    | some old => pump.removeInboundKey old.localIndex.toNat

/-- An accepted initiation. -/
def Server.accept (s : Server P) (peer : Peer Session) (i : Initiation P) (index : UInt32) :
    Server P :=
  let sess : Session := ⟨index, i.sender⟩
  let (peer', evicted) := peer.rotate i.ts sess
  { peers := Function.update s.peers i.static (some peer')
    pump := s.register i.static peer sess evicted }

/-- `handleInitiation`, from the opened initiation. -/
def Server.handleInitiation (s : Server P) (a : Arrival P) : Server P :=
  match s.peers a.init.static, a.index with
  | some peer, some index => if peer.fresh a.init.ts then s.accept peer a.init index else s
  | _, _ => s

/-- A server before its first initiation, with the `AllowedIPs` of the peers configured. -/
def Server.new (cfg : P → Option (List Prefix)) : Server P where
  peers p := (cfg p).map fun allowedIPs => { allowedIPs }

/-! ## The inbound keys -/

/-- The tunnel an inbound key leads to. -/
def Server.owner (s : Server P) (key : ℕ) : Option P := (s.pump.byKey key).bind Bound.t

/-- The peer holds a session with this receiver index. -/
def Server.Listens (s : Server P) (p : P) (key : ℕ) : Prop :=
  ∃ peer t sess, s.peers p = some peer ∧ peer.tunnel = some t ∧ t.Holds sess ∧
    sess.localIndex.toNat = key

/-- **Unambiguous.**  The inbound keys that lead to a peer's tunnel are exactly the indices of its
current and previous session. -/
def Server.Exact (s : Server P) : Prop := ∀ p key, s.owner key = some p ↔ s.Listens p key

/-- The index drawn for an initiation is not in use. -/
def Server.IndexFree (s : Server P) (a : Arrival P) : Prop :=
  ∀ index ∈ a.index, s.pump.byKey index.toNat = none

instance (s : Server P) (a : Arrival P) : Decidable (s.IndexFree a) :=
  match h : a.index with
  | none => isTrue fun index hindex => nomatch h.symm.trans hindex
  | some index =>
    decidable_of_iff ((s.pump.byKey index.toNat).isNone = true) (by
      simp [Server.IndexFree, h])

/-- With exact keys, the two sessions of a tunnel have different indices. -/
structure Server.Coherent (s : Server P) : Prop where
  exact : s.Exact
  apart : ∀ p peer t old, s.peers p = some peer → peer.tunnel = some t → t.previous = some old →
    old.localIndex ≠ t.current.localIndex

omit [DecidableEq P] in
lemma coherent_new (cfg : P → Option (List Prefix)) : (Server.new cfg).Coherent where
  exact p key := by
    refine ⟨fun h => (nomatch h), ?_⟩
    rintro ⟨peer, t, sess, hp, ht, -⟩
    obtain ⟨ips, -, rfl⟩ := map_eq_some_iff.1 hp
    exact nomatch ht
  apart p peer t old hp ht := by
    obtain ⟨ips, -, rfl⟩ := map_eq_some_iff.1 hp
    exact nomatch ht

/-- The owner of a key after a session has been registered. -/
lemma owner_register (s : Server P) (p : P) (peer : Peer Session) (sess : Session)
    (evicted : Option Session) (key : ℕ) :
    ((s.register p peer sess evicted).byKey key).bind Bound.t =
      if peer.tunnel.isSome ∧ ∃ old ∈ evicted, old.localIndex.toNat = key then none
      else if key = sess.localIndex.toNat then some p else s.owner key := by
  cases ht : peer.tunnel with
  | none =>
    simp only [Server.register, ht, isSome_none, Bool.false_eq_true, false_and, if_false,
      Pump.addTunnel, (s.pump.countersOf_view p).2.2, Function.update_apply, Server.owner]
    split_ifs <;> rfl
  | some t =>
    cases evicted with
    | none =>
      simp only [Server.register, ht, not_mem_none, false_and, exists_false, and_false, if_false,
        Pump.addInboundKey, (s.pump.countersOf_view p).2.2, Function.update_apply, Server.owner]
      split_ifs <;> rfl
    | some old =>
      simp only [Server.register, ht, isSome_some, true_and, mem_some_iff, exists_eq_left',
        Pump.addInboundKey, Pump.removeInboundKey, (s.pump.countersOf_view p).2.2,
        Function.update_apply, Server.owner, @eq_comm _ key old.localIndex.toNat]
      split_ifs <;> rfl

/-- The sessions of the peer that an initiation is from, and those of the others. -/
lemma listens_accept (s : Server P) (peer : Peer Session) (i : Initiation P) (index : UInt32)
    (p : P) (key : ℕ) :
    (s.accept peer i index).Listens p key ↔
      if p = i.static then
        key = index.toNat ∨ ∃ t, peer.tunnel = some t ∧ t.current.localIndex.toNat = key
      else s.Listens p key := by
  by_cases hp : p = i.static
  · subst hp
    rw [if_pos rfl]
    cases ht : peer.tunnel with
    | none =>
      simp [Server.Listens, Server.accept, Peer.rotate, ht, Tunnel.Holds, eq_comm]
    | some t =>
      simp [Server.Listens, Server.accept, Peer.rotate, ht, Tunnel.Holds, Tunnel.install, eq_comm,
        or_and_right, exists_or]
  · simp [Server.Listens, Server.accept, hp]

/-- **The step.**  An index that is not in use keeps the keys exact: the key that goes with the
evicted session leads to no other. -/
lemma coherent_accept {s : Server P} (h : s.Coherent) {peer : Peer Session} {i : Initiation P}
    (hp : s.peers i.static = some peer) {index : UInt32}
    (hfree : s.pump.byKey index.toNat = none) : (s.accept peer i index).Coherent where
  exact p key := by
    have hnone : s.owner index.toNat = none := by rw [Server.owner, hfree]; rfl
    -- what the peer held before the initiation
    have own : ∀ t sess, peer.tunnel = some t → t.Holds sess →
        s.owner sess.localIndex.toNat = some i.static := fun t sess ht hs =>
      (h.exact _ _).2 ⟨peer, t, sess, hp, ht, hs, rfl⟩
    have hlisten : s.Listens i.static key ↔ ∃ t, peer.tunnel = some t ∧
        ∃ sess, t.Holds sess ∧ sess.localIndex.toNat = key := by
      simp [Server.Listens, hp]
    have hevicted : (peer.tunnel.isSome ∧ ∃ old ∈ (peer.rotate i.ts ⟨index, i.sender⟩).2,
        old.localIndex.toNat = key) ↔
        ∃ t old, peer.tunnel = some t ∧ t.previous = some old ∧ old.localIndex.toNat = key := by
      cases ht : peer.tunnel <;> simp [Peer.rotate, ht, Tunnel.install]
    rw [listens_accept, Server.owner, Server.accept, owner_register]
    split_ifs with hold hpi hkey hpi hpi
    · -- the key of the evicted session is neither the new one nor the one kept
      obtain ⟨t, old, ht, hmem, rfl⟩ := hevicted.1 hold
      refine ⟨fun he => (nomatch he), ?_⟩
      rintro (he | ⟨t', ht', he⟩)
      · rw [← he, own t old ht (.inr hmem)] at hnone
        exact nomatch hnone
      · obtain rfl := some.inj (ht.symm.trans ht')
        exact absurd (UInt32.toNat_inj.1 he).symm (h.apart _ _ _ _ hp ht hmem)
    · obtain ⟨t, old, ht, hmem, rfl⟩ := hevicted.1 hold
      rw [← h.exact, own t old ht (.inr hmem)]
      exact ⟨fun he => (nomatch he), fun he => absurd (some.inj he).symm hpi⟩
    · exact ⟨fun _ => .inl hkey, fun _ => congrArg some hpi.symm⟩
    · rw [hkey, ← h.exact, hnone]
      exact ⟨fun he => absurd (some.inj he).symm hpi, fun he => (nomatch he)⟩
    · rw [h.exact, hpi, hlisten]
      constructor
      · rintro ⟨t, ht, sess, rfl | hs, rfl⟩
        · exact .inr ⟨t, ht, rfl⟩
        · exact absurd (hevicted.2 ⟨t, sess, ht, hs, rfl⟩) hold
      · rintro (he | ⟨t, ht, he⟩)
        · exact absurd he hkey
        · exact ⟨t, ht, t.current, .inl rfl, he⟩
    · exact h.exact p key
  apart p peer' t old hp' ht hold he := by
    simp only [Server.accept, Function.update_apply] at hp'
    split_ifs at hp' with hpi
    · obtain rfl := some.inj hp'
      cases ht' : peer.tunnel with
      | none =>
        simp only [Peer.rotate, ht', some.injEq] at ht
        subst ht
        exact nomatch hold
      | some t₀ =>
        simp only [Peer.rotate, ht', Tunnel.install, some.injEq] at ht
        subst ht
        obtain rfl := some.inj hold
        have hcur : s.owner index.toNat = some i.static :=
          (h.exact _ _).2 ⟨peer, t₀, _, hp, ht', .inl rfl, congrArg UInt32.toNat he⟩
        rw [Server.owner, hfree] at hcur
        exact nomatch hcur
    · exact h.apart p peer' t old hp' ht hold he

lemma coherent_step (s : Server P) (a : Arrival P) (h : s.Coherent) (hfree : s.IndexFree a) :
    (s.handleInitiation a).Coherent := by
  unfold Server.handleInitiation
  split
  · next peer index hp hindex =>
      split_ifs
      · exact coherent_accept h hp (hfree index hindex)
      · exact h
  · exact h

/-- **Indices are unambiguous.**  In every run in which the index drawn for an initiation is not in
use, the inbound keys are in every state those of the sessions held, each peer's its own. -/
theorem indices_unambiguous (cfg : P → Option (List Prefix)) (as : List (Arrival P))
    (hfree : Along Server.handleInitiation Server.IndexFree (Server.new cfg) as) :
    Always Server.handleInitiation Server.Exact (Server.new cfg) as :=
  always_of_inv Server.Coherent coherent_step (fun _ h => h.exact) _ _ (coherent_new cfg) hfree

/-- Two peers with nothing but a name. -/
def twoPeers : Server Bool := Server.new fun _ => some []

/-- An initiation of a peer at some second, and the index drawn. -/
def initiate (p : Bool) (second : UInt8) (index : UInt32) : Arrival Bool :=
  ⟨⟨p, List.replicate 11 0 ++ [second], 1⟩, some index⟩

/-- Two peers that connect and rekey, with different indices. -/
theorem indices_unambiguous_two_peers : Always Server.handleInitiation Server.Exact twoPeers
      [initiate true 1 7, initiate false 1 8, initiate true 2 9, initiate true 3 10] :=
  indices_unambiguous (fun _ => some []) _ (by decide)

/-- Two peers for which the same index is drawn: the first can no longer be reached. -/
theorem indices_ambiguous :
    ¬ Server.Exact (run Server.handleInitiation twoPeers [initiate true 1 7, initiate false 1 7]) :=
  fun h => absurd ((h true 7).2 ⟨_, _, ⟨7, 1⟩, rfl, rfl, .inl rfl, rfl⟩) (by decide)

end Veepin.WireGuard
