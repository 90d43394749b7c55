import Veepin.Cisco.Removal
import Veepin.L2TP.Removal

/-!
# Peers come and go

The two IKEv1 servers decide whether `removePeer` has anything to do by looking whether somebody has
the cookie of the peer.  The initiator chooses the cookie, so after a removal a new peer may have
it, and a callback of the old peer then removes the new one, releases an address for the second
time and takes the route of whoever leases it by now (`late_callback_removes_another`).
-/

namespace Veepin

/-- **Removals are exact while callbacks come in order.**  For both servers and every run from the
start: if every callback is of a live peer (or, for those that remove one, of a peer whose cookie
nobody else has), each removal takes the entries of its peer and no others, every address that is
routed is in use, and each address is given back once. -/
theorem peer_removal_exact (pool : AddrPool) (now : ℤ) :
    (∀ es, Along L2TP.Server.step L2TP.Server.InOrder (L2TP.newServer pool now) es →
      L2TP.RemovalExact (L2TP.newServer pool now) es) ∧
    ∀ es, Along Cisco.Server.step Cisco.Server.InOrder (Cisco.newServer pool now) es →
      Cisco.RemovalExact (Cisco.newServer pool now) es :=
  ⟨L2TP.removalExact_of_inOrder pool now, Cisco.removalExact_of_inOrder pool now⟩

/-- **No inner address is held twice** by peers of either server, and all that are held are taken
from the pool, while callbacks come in order. -/
theorem inner_addresses_exclusive (pool : AddrPool) (now : ℤ) :
    (∀ es, Along L2TP.Server.step L2TP.Server.InOrder (L2TP.newServer pool now) es →
      Always L2TP.Server.step (fun s => Exclusive s.holds s.pool.used)
        (L2TP.newServer pool now) es) ∧
    ∀ es, Along Cisco.Server.step Cisco.Server.InOrder (Cisco.newServer pool now) es →
      Always Cisco.Server.step (fun s => Exclusive s.holds s.pool.used)
        (Cisco.newServer pool now) es :=
  ⟨fun es => always_of_inv L2TP.Server.Inv (fun _ _ h hC => h.step hC) (fun _ h => h.ledger) _ es
      (L2TP.inv_newServer pool now),
    fun es => always_of_inv Cisco.Server.Inv (fun _ _ h hC => h.step hC) (fun _ h => h.ledger) _ es
      (Cisco.inv_newServer pool now)⟩

/-- An IKE message of the initiator with a cookie. -/
def ikeFrom (c : UInt8) : L2TP.Event :=
  .ike (List.replicate 8 c ++ List.replicate 20 0) { ip := [192, 0, 2, 1], port := 500 } false
    false 0

/-- A peer of the L2TP server that comes up and goes, and whose second callback finds it gone. -/
def l2tpComesAndGoes : List L2TP.Event :=
  [ikeFrom 1, .established 0 5, .sessionUp 0, .networkUp 0, .gone 0, .gone 0]

/-- The same of the Cisco server, where a second peer then leases the address. -/
def ciscoComesAndGoes : List Cisco.Event :=
  let ike (c : UInt8) : Cisco.Event :=
    .ike (List.replicate 8 c ++ List.replicate 20 0) { ip := [192, 0, 2, 1], port := 500 } false
      false 0
  [ike 1, .assign 0, .established 0 5, .failed 0, .failed 0, ike 2, .assign 1, .established 1 6]

theorem peer_removal_exact_run :
    ((trace L2TP.Server.step (L2TP.newServer smallPool 0) l2tpComesAndGoes).countP
        (fun x => x.1.gives 0 x.2) = 1 ∧
      L2TP.RemovalExact (L2TP.newServer smallPool 0) l2tpComesAndGoes) ∧
    (trace Cisco.Server.step (Cisco.newServer smallPool 0) ciscoComesAndGoes).countP
        (fun x => x.1.gives 0 x.2) = 1 ∧
      Cisco.RemovalExact (Cisco.newServer smallPool 0) ciscoComesAndGoes := by
  obtain ⟨hl2tp, hcisco⟩ := peer_removal_exact smallPool 0
  exact ⟨⟨by decide +kernel, hl2tp _ (by decide +kernel)⟩, by decide +kernel,
    hcisco _ (by decide +kernel)⟩

theorem inner_addresses_exclusive_run :
    Always L2TP.Server.step (fun s => Exclusive s.holds s.pool.used) (L2TP.newServer smallPool 0)
        l2tpComesAndGoes ∧
      Always Cisco.Server.step (fun s => Exclusive s.holds s.pool.used)
        (Cisco.newServer smallPool 0) ciscoComesAndGoes ∧
      (run Cisco.Server.step (Cisco.newServer smallPool 0) ciscoComesAndGoes).holds 1 = some 2 := by
  obtain ⟨hl2tp, hcisco⟩ := inner_addresses_exclusive smallPool 0
  exact ⟨hl2tp _ (by decide +kernel), hcisco _ (by decide +kernel), by decide +kernel⟩

/-- **A late callback.**  Peer `0` goes; peer `1` comes with its cookie and peer `2` gets its
address.  A second callback of peer `0` then takes peer `1` out of the index and frees the address
of peer `2`, which goes on to route it. -/
theorem late_callback_removes_another : let es : List L2TP.Event :=
      [ikeFrom 1, .established 0 5, .sessionUp 0, .gone 0, ikeFrom 1, ikeFrom 2, .established 2 6,
        .sessionUp 2]
    let s := run L2TP.Server.step (L2TP.newServer smallPool 0) es
    let s' := run L2TP.Server.step (L2TP.newServer smallPool 0) (es ++ [.gone 0, .networkUp 2])
    s.table.byCookie.lookup (List.replicate 8 1) = some 1 ∧
      s'.table.byCookie.lookup (List.replicate 8 1) = none ∧
      s'.byIP.lookup 2 = some 2 ∧ 2 ∉ s'.pool.used ∧
      ¬ L2TP.RemovalExact (L2TP.newServer smallPool 0) (es ++ [.gone 0, .networkUp 2]) := by
  have hip : (run L2TP.Server.step (L2TP.newServer smallPool 0) [ikeFrom 1, .established 0 5,
      .sessionUp 0, .gone 0, ikeFrom 1, ikeFrom 2, .established 2 6, .sessionUp 2, .gone 0,
      .networkUp 2]).byIP.lookup 2 = some 2 := by decide +kernel
  have hfree : 2 ∉ (run L2TP.Server.step (L2TP.newServer smallPool 0) [ikeFrom 1, .established 0 5,
      .sessionUp 0, .gone 0, ikeFrom 1, ikeFrom 2, .established 2 6, .sessionUp 2, .gone 0,
      .networkUp 2]).pool.used := by decide +kernel
  refine ⟨by decide +kernel, by decide +kernel, hip, hfree, fun h => hfree ?_⟩
  exact (h.routed.last 2 2 hip).2

end Veepin
