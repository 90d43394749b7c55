import Veepin.Core.Ledger
import Veepin.Dataplane.AddrPool
import Veepin.IKEv2.Ike.Moves

/-!
# Leases across rekeys

The responder with its address pools as `ikev2.NewServer` wires them: `AssignAddr` draws an IPv4
address, an IPv6 address or both, and `ReleaseAddr` gives back what an assignment holds.  An
assignment belongs to an established SA.  A rekey of the IKE SA hands it to the replacement, and
the old SA, which the peer deletes next, must not give it back.

`handleRekeyIKE` sees to that by clearing `ClientIP` of the old SA, but `deleteSA` releases if
`ClientIP` *or* `ClientIP6` is set.  For a client with an IPv6 address the delete of the old SA
therefore frees both addresses while the new SA goes on using them (`rekeyed_lease_released`).

Where no delete arrives on such an SA, what established SAs hold is marked in the pools and held by
one of them only, in every run (`leases_exclusive`): each move of the responder gives, transfers,
releases or drops, in each address family.
-/

namespace Veepin.IKE

open Option

/-! ## The wiring -/

/-- The pools of `ikev2.NewServer`. -/
structure Pools where
  v4 : AddrPool
  v6 : AddrPool6

/-- The pools over an IPv4 network and an IPv6 prefix. -/
def newPools (net4 ones net6 bits : ℕ) : Option Pools := do
  let v4 ← newAddrPool net4 ones
  let v6 ← newAddrPool6 net6 bits
  return ⟨v4, v6⟩

/-- The IPv6 half of `AssignAddr`, added to what the IPv4 half gave. -/
def Pools.assign6 (p : Pools) (dns : List Bytes) (want : AddressRequest) (a : Assignment) :
    Assignment × Pools :=
  if want.ip6 then
    match p.v6.allocate with
    | none => (a, p)
    | some (ip6, v6) =>
      ({ a with ip6 := some (putBE128 ip6), prefix6 := p.v6.bits, dns }, { p with v6 })
  else (a, p)

/-- `AssignAddr`.  An exhausted IPv4 pool is an error, an exhausted IPv6 pool is not. -/
def Pools.assignAddr (p : Pools) (netmask : Bytes) (dns : List Bytes) (want : AddressRequest) :
    Option Assignment × Pools :=
  if want.ip4 then
    match p.v4.allocate with
    | none => (none, p)
    | some (ip, v4) =>
      ({ p with v4 }.assign6 dns want { ip4 := some ip, netmask := some netmask, dns }).map some id
  else (p.assign6 dns want {}).map some id

def Pools.releaseAddr (p : Pools) (a : Assignment) : Pools where
  v4 := p.v4.release (a.ip4.getD [])
  v6 := match a.ip6 with
    | none => p.v6
    | some ip => if ip.length = 16 then p.v6.release (be128 ip) else p.v6

/-- A configuration with the pools attached. -/
def Config.wired (cfg : Config Pools) (netmask : Bytes) (dns : List Bytes) : Config Pools :=
  { cfg with
    assignAddr := some fun want p => p.assignAddr netmask dns want
    releaseAddr := some fun a p => p.releaseAddr a }

/-! ## The two families -/

/-- An address family. -/
inductive Family
  | v4
  | v6
  deriving DecidableEq

/-- The address of a family in an assignment, as a number. -/
def Family.read : Family → Assignment → Option ℕ
  | .v4, a => a.ip4.bind fun ip => (to4 ip).map fun v => be32 v 0
  | .v6, a => a.ip6.bind fun ip => if ip.length = 16 then some (be128 ip) else none

/-- The addresses of a family that are marked as used. -/
def Family.used : Family → Pools → Finset ℕ
  | .v4, p => p.v4.used
  | .v6, p => p.v6.used

lemma Family.read_eq_none {a : Assignment} (h4 : a.ip4 = none) (h6 : a.ip6 = none) (f : Family) :
    f.read a = none := by
  cases f with
  | v4 => rw [Family.read, h4]; rfl
  | v6 => rw [Family.read, h6]; rfl

/-- What an assignment does to the marks of a family: nothing, if it has no address of that family,
or it marks an address that was free. -/
def Family.Drawn (f : Family) (a : Assignment) (p p' : Pools) : Prop :=
  f.read a = none ∧ f.used p' = f.used p ∨
    ∃ v, f.read a = some v ∧ v ∉ f.used p ∧ f.used p' = insert v (f.used p)

/-- The addresses of an assignment have the shape of their family. -/
structure Assignment.Shaped (a : Assignment) : Prop where
  ip4 : ∀ ip, a.ip4 = some ip → ∃ v, to4 ip = some v
  ip6 : ∀ ip, a.ip6 = some ip → ip.length = 16

lemma shaped_empty : Assignment.Shaped {} :=
  ⟨fun _ h => absurd h (by simp), fun _ h => absurd h (by simp)⟩

section Assign

variable {p p' : Pools} {netmask : Bytes} {dns : List Bytes} {want : AddressRequest}
  {a a' : Assignment}

namespace Pools

/-- The IPv6 half leaves the IPv4 address and its pool alone. -/
lemma assign6_spec (h : p.assign6 dns want a = (a', p')) (h6 : a.ip6 = none) :
    a'.ip4 = a.ip4 ∧ p'.v4 = p.v4 ∧ (∀ ip, a'.ip6 = some ip → ip.length = 16) ∧
      Family.v6.Drawn a' p p' := by
  have hkept : (a, p) = (a', p') → a'.ip4 = a.ip4 ∧ p'.v4 = p.v4 ∧
      (∀ ip, a'.ip6 = some ip → ip.length = 16) ∧ Family.v6.Drawn a' p p' := by
    intro he
    obtain ⟨rfl, rfl⟩ := Prod.mk.inj he
    refine ⟨rfl, rfl, fun ip hip => absurd (h6.symm.trans hip) (by simp), Or.inl ⟨?_, rfl⟩⟩
    rw [Family.read, h6]
    rfl
  unfold assign6 at h
  split_ifs at h
  · split at h
    · exact hkept h
    rename_i ip6 v6 halloc
    obtain ⟨rfl, rfl⟩ := Prod.mk.inj h
    obtain ⟨hlt, hfree, hused⟩ := AddrPool6.allocate_spec halloc
    refine ⟨rfl, rfl, fun ip hip => ?_, Or.inr ⟨ip6, ?_, hfree, hused⟩⟩
    · rw [← some.inj hip, length_putBE128]
    · simp only [Family.read, bind_some, length_putBE128, if_true, be128_putBE128 hlt]
  · exact hkept h

/-- **One assignment.**  Each address in it was free in its pool, and nothing else is marked. -/
lemma assignAddr_spec (h : p.assignAddr netmask dns want = (some a, p')) :
    a.Shaped ∧ ∀ f : Family, f.Drawn a p p' := by
  unfold assignAddr at h
  split_ifs at h
  · split at h
    · exact absurd (Prod.mk.inj h).1 (by simp)
    rename_i ip v4 halloc
    obtain ⟨v, rfl, hlt, hfree, rfl⟩ := AddrPool.allocate_spec halloc
    obtain ⟨h1, h2⟩ := Prod.mk.inj h
    obtain ⟨hip4, hv4, hlen, h6⟩ := assign6_spec (Prod.ext (some.inj h1) h2) rfl
    refine ⟨⟨fun ip hip => ?_, hlen⟩, fun f => ?_⟩
    · rw [hip4] at hip
      rw [← some.inj hip]
      exact ⟨_, to4_u32IP v⟩
    cases f with
    | v4 =>
      refine Or.inr ⟨v, ?_, hfree, congrArg AddrPool.used hv4⟩
      rw [Family.read, hip4]
      simp only [bind_some, to4_u32IP, map_some, be32_u32IP hlt]
    | v6 => exact h6
  · obtain ⟨h1, h2⟩ := Prod.mk.inj h
    obtain ⟨hip4, hv4, hlen, h6⟩ := assign6_spec (Prod.ext (some.inj h1) h2) rfl
    refine ⟨⟨fun ip hip => absurd (hip4.symm.trans hip) (by simp), hlen⟩, fun f => ?_⟩
    cases f with
    | v4 =>
      refine Or.inl ⟨?_, congrArg AddrPool.used hv4⟩
      rw [Family.read, hip4]
      rfl
    | v6 => exact h6

/-- An assignment that fails changes no pool. -/
lemma assignAddr_none (h : p.assignAddr netmask dns want = (none, p')) : p' = p := by
  unfold assignAddr at h
  split_ifs at h
  · split at h
    · exact (Prod.mk.inj h).2.symm
    · exact absurd (Prod.mk.inj h).1 (by simp)
  · exact absurd (Prod.mk.inj h).1 (by simp)

/-- **One release.**  What the assignment holds is no longer marked. -/
lemma used_releaseAddr (p : Pools) (a : Assignment) (f : Family) :
    f.used (p.releaseAddr a) = unmark (f.used p) (f.read a) := by
  cases f with
  | v4 =>
    cases h4 : a.ip4 with
    | none =>
      simp [Family.used, Family.read, releaseAddr, AddrPool.release, h4, to4, unmark]
    | some ip =>
      simp only [Family.used, Family.read, releaseAddr, AddrPool.release, h4, getD_some, bind_some]
      cases to4 ip <;> rfl
  | v6 =>
    cases h6 : a.ip6 with
    | none => simp [Family.used, Family.read, releaseAddr, h6, unmark]
    | some ip =>
      simp only [Family.used, Family.read, releaseAddr, h6, bind_some]
      split_ifs
      · exact AddrPool6.release_used _ _
      · rfl

end Pools

end Assign

/-! ## What an SA holds -/

/-- The address that an SA holds: the one in its assignment, while it is established. -/
def SACore.lease (f : Family) (k : SACore) : Option ℕ :=
  if k.state = .established then f.read k.assigned else none

/-- The address that each SA of a table holds. -/
def leases (f : Family) (m : AList fun _ : ℕ => IKESA) (rspi : ℕ) : Option ℕ :=
  (m.lookup rspi).bind fun sa => sa.core.lease f

variable {f : Family} {m : AList fun _ : ℕ => IKESA} {old : IKESA}

lemma lease_established {k : SACore} (h : k.state = .established) :
    k.lease f = f.read k.assigned := if_pos h

lemma lease_of_ne {k : SACore} (h : k.state ≠ .established) : k.lease f = none :=
  if_neg h

lemma leases_lookup {rspi : ℕ} {sa : IKESA}
    (h : m.lookup rspi = some sa) : leases f m rspi = sa.core.lease f := by
  rw [leases, h]
  rfl

lemma leases_insert (f : Family) (m : AList fun _ : ℕ => IKESA) (rspi : ℕ) (sa : IKESA) :
    leases f (m.insert rspi sa) = Function.update (leases f m) rspi (sa.core.lease f) := by
  funext k
  rw [Function.update_apply, leases, lookup_insert_eq_ite]
  split_ifs <;> rfl

lemma leases_erase (f : Family) (m : AList fun _ : ℕ => IKESA) (rspi : ℕ) :
    leases f (m.erase rspi) = Function.update (leases f m) rspi none := by
  funext k
  rw [Function.update_apply, leases, lookup_erase_eq_ite]
  split_ifs <;> rfl

/-- An SA that is put back with what it held. -/
lemma leases_insert_same {rspi : ℕ} {sa : IKESA}
    (hold : m.lookup rspi = some old) (h : sa.core.lease f = old.core.lease f) :
    leases f (m.insert rspi sa) = leases f m := by
  rw [leases_insert, h, ← leases_lookup hold, Function.update_eq_self]

/-! ## The bookkeeping of one SA -/

/-- How the address fields of an SA go with its state: nothing is assigned before it is
established, and a rekey takes away the IPv4 address. -/
def SACore.fieldsFit (k : SACore) : Prop :=
  match k.state with
  | .saInitDone | .intermediate => k.assigned = {}
  | .deleting => k.clientIP = none
  | _ => True

/-- The bookkeeping of an SA. -/
structure Leasing (k : SACore) : Prop where
  shaped : k.assigned.Shaped
  fields : k.fieldsFit

section Fields

variable {k : SACore}

lemma Leasing.of_halfOpen (h : Leasing k) (hs : k.state.halfOpen) : k.assigned = {} := by
  have hf := h.fields
  unfold SACore.fieldsFit at hf
  cases hst : k.state <;> rw [hst] at hs hf
  case saInitDone | intermediate => exact hf
  all_goals exact absurd hs (by decide)

lemma Leasing.of_deleting (h : Leasing k) (hs : k.state = .deleting) : k.clientIP = none := by
  have hf := h.fields
  unfold SACore.fieldsFit at hf
  rw [hs] at hf
  exact hf

lemma FreshSA.leasing {cfg : Config Pools} {n : ℕ} {sa : IKESA} (h : FreshSA cfg n sa) :
    Leasing sa.core := by
  have hs : sa.core.state = .saInitDone := h.state
  have ha : sa.core.assigned = {} := h.assigned
  refine ⟨ha ▸ shaped_empty, ?_⟩
  unfold SACore.fieldsFit
  rw [hs]
  exact ha

end Fields

variable {o : Outcome Pools} {r : Request}

section Step

variable {c : Crypto} {netmask : Bytes} {dns : List Bytes} {cfg : Config Pools} {pools : Pools}

/-- The pools are attached. -/
structure Wired (netmask : Bytes) (dns : List Bytes) (cfg : Config Pools) : Prop where
  assign : cfg.assignAddr = some fun want p => p.assignAddr netmask dns want
  release : cfg.releaseAddr = some fun a p => p.releaseAddr a

/-- The configuration exchange of an SA that holds nothing yet. -/
lemma Leased.drawn {k k' : SACore} {pools' : Pools} (hw : Wired netmask dns cfg)
    (h : Leased cfg k pools k' pools') (ha : k.assigned = {}) :
    k'.assigned.Shaped ∧ ∀ f : Family, f.Drawn k'.assigned pools pools' := by
  have hfield : k.assigned.Shaped := ha ▸ shaped_empty
  have hread : ∀ f : Family, f.read k.assigned = none := by
    intro f
    rw [ha]
    exact f.read_eq_none rfl rfl
  cases h with
  | unasked hk hp =>
    rw [hk, hp]
    exact ⟨hfield, fun f => Or.inl ⟨hread f, rfl⟩⟩
  | refused assign req res hcfg hassign hres hk =>
    rw [hw.assign] at hcfg
    obtain rfl := some.inj hcfg
    rw [hk]
    refine ⟨hfield, fun f => Or.inl ⟨hread f, ?_⟩⟩
    cases res with
    | none => rw [Pools.assignAddr_none hassign]
    | some a =>
      obtain ⟨h4, h6⟩ := hres a rfl
      rcases (Pools.assignAddr_spec hassign).2 f with ⟨-, hused⟩ | ⟨v, hv, -, -⟩
      · exact hused
      · exact absurd ((f.read_eq_none h4 h6).symm.trans hv) (by simp)
  | given assign req a hcfg hassign hk =>
    rw [hw.assign] at hcfg
    obtain rfl := some.inj hcfg
    obtain ⟨hshape, hdrawn⟩ := Pools.assignAddr_spec hassign
    rw [hk]
    exact ⟨hshape, hdrawn⟩

/-- **The step, for the fields of one SA.** -/
lemma Move.leasing {sa : IKESA} {id : ℕ} (h : Move c cfg sa r id pools o)
    (hw : Wired netmask dns cfg) (hsa : Leasing sa.core) : Leasing o.sa.core := by
  cases h with
  | kept _ _ hcore | childAdded _ _ hcore _ => rw [hcore]; exact hsa
  | eapBegun _ _ _ _ hcore | eapTurned _ _ _ _ _ _ _ _ _ _ _ hcore =>
    rw [hcore]; exact ⟨hsa.shaped, hsa.fields⟩
  | kemKeyed hs _ _ _ _ _ _ _ _ _ _ hcore =>
    rw [hcore]
    exact ⟨hsa.shaped, hsa.of_halfOpen hs⟩
  | authenticated _ hs _ _ _ k hlease hcore _ =>
    rw [hcore]
    exact ⟨(hlease.drawn hw (hsa.of_halfOpen hs)).1, trivial⟩
  | rekeyed _ _ _ _ hcore _ _ _ _ =>
    rw [hcore]
    exact ⟨hsa.shaped, rfl⟩
  | closed _ _ _ _ _ _ hcore =>
    rw [hcore]
    exact ⟨hsa.shaped, trivial⟩

/-- A replacement has the assignment of the SA it replaces. -/
lemma successor_lease {sa : IKESA} (hs : sa.state = .established) (suite : Suite) (keys : SAKeys)
    (spiI spiR : ℕ) (remote : UDPAddr) (id : ℕ) (f : Family) :
    (sa.successor suite keys spiI spiR remote id).core.lease f = sa.core.lease f := by
  rw [lease_established (k := sa.core) hs]
  rfl

/-- No delete of the IKE SA arrives on an SA that a rekey has retired and whose IPv6 address is
still set. -/
def LeaseKept (c : Crypto) (s : Server Pools) (d : Datagram) : Prop :=
  ∀ sa r, s.request c d = some (sa, r) → deletesIKE r.inners = true → sa.state = .deleting →
    sa.clientIP6 = none

/-- What exclusive leases rest on. -/
structure LeaseInv (netmask : Bytes) (dns : List Bytes) (s : Server Pools) : Prop where
  keyed : s.Keyed
  wired : Wired netmask dns s.cfg
  leasing : ∀ rspi sa, s.byRSPI.lookup rspi = some sa → Leasing sa.core
  exclusive : ∀ f : Family, Exclusive (leases f s.byRSPI) (f.used s.pools)

variable {s : Server Pools} {d : Datagram}

section

variable (h : LeaseInv netmask dns s)

include h

lemma LeaseInv.leasing_step :
    ∀ rspi sa, (s.step c d).byRSPI.lookup rspi = some sa → Leasing sa.core := by
  intro rspi sa' hsa'
  cases origin_of_step h.keyed hsa' with
  | stayed sa hsa hcore =>
    rw [hcore]
    exact h.leasing _ _ hsa
  | fresh hf _ _ => exact hf.leasing
  | moved old sa r o _ hold hcore hmove _ hsa =>
    rw [hsa]
    exact hmove.leasing h.wired (hcore ▸ h.leasing _ _ hold)
  | stored old sa r o _ hold hcore hmove hsa _ =>
    obtain ⟨hs, suite, keys, spiI, rfl⟩ := hmove.stored_spec hsa
    have hl : Leasing sa.core := hcore ▸ h.leasing _ _ hold
    exact ⟨hl.shaped, trivial⟩

/-- Closing an SA gives back what it holds, and nothing that it does not hold. -/
lemma LeaseInv.exclusive_close {sa : IKESA}
    (hold : s.byRSPI.lookup r.hdr.responderSPI = some old) (hcore : sa.core = old.core)
    (hs : sa.state = .established ∨ sa.state = .deleting) (hpools : o.pools = s.pools)
    (hstored : o.stored = none) (hclose : o.close = true)
    (ho : o.sa.core = { sa.core with state := .closed })
    (hkept : sa.state = .deleting → sa.clientIP6 = none) (f : Family) :
    Exclusive (leases f (s.conclude c sa r o).server.byRSPI)
      (f.used (s.conclude c sa r o).server.pools) := by
  have hl : Leasing sa.core := hcore ▸ h.leasing _ _ hold
  have hspi : o.sa.responderSPI = r.hdr.responderSPI :=
    (congrArg SACore.responderSPI ho).trans ((spi_of_core hcore).trans (h.keyed _ _ hold))
  have h4 : o.sa.clientIP = sa.clientIP := congrArg SACore.clientIP ho
  have h6 : o.sa.clientIP6 = sa.clientIP6 := congrArg SACore.clientIP6 ho
  have ha : o.sa.assigned = sa.assigned := congrArg SACore.assigned ho
  have hheld : leases f s.byRSPI r.hdr.responderSPI = sa.core.lease f :=
    (leases_lookup hold).trans (by rw [hcore])
  rw [conclude_byRSPI_close hclose hstored, conclude_pools_close hclose hstored h.wired.release,
    hspi, leases_erase, leases_insert, Function.update_idem, hpools, h4, h6, ha]
  rcases hs with hs | hs
  · split_ifs
    · have hmarks : f.read sa.assigned = leases f s.byRSPI r.hdr.responderSPI :=
        (hheld.trans (lease_established hs)).symm
      rw [Pools.used_releaseAddr, hmarks]
      exact (h.exclusive f).release _
    · exact (h.exclusive f).drop _
  · have hno : ¬ (sa.clientIP.isSome || sa.clientIP6.isSome) = true := by
      rw [hkept hs, show sa.clientIP = none from hl.of_deleting hs]
      decide
    rw [if_neg hno]
    exact (h.exclusive f).drop _

/-- **The step, for the table and the pools.** -/
lemma LeaseInv.exclusive_conclude {sa : IKESA}
    (hold : s.byRSPI.lookup r.hdr.responderSPI = some old) (hcore : sa.core = old.core)
    (hmove : Move c s.cfg sa r s.created s.pools o)
    (hkept : deletesIKE r.inners = true → sa.state = .deleting → sa.clientIP6 = none) (f : Family) :
    Exclusive (leases f (s.conclude c sa r o).server.byRSPI)
      (f.used (s.conclude c sa r o).server.pools) := by
  have hheld : leases f s.byRSPI r.hdr.responderSPI = sa.core.lease f :=
    (leases_lookup hold).trans (by rw [hcore])
  -- a move after which the SA holds what it held
  have same : o.Plain s.pools → o.sa.core.lease f = sa.core.lease f →
      Exclusive (leases f (s.conclude c sa r o).server.byRSPI)
        (f.used (s.conclude c sa r o).server.pools) := by
    intro hp hlease
    rw [conclude_byRSPI hp.close, conclude_pools hp.close, hp.stored, hp.pools]
    dsimp only
    rw [leases_insert_same hold (by rw [hlease, hcore])]
    exact h.exclusive f
  cases hmove with
  | kept hp _ ho | childAdded _ hp ho _ => exact same hp (by rw [ho])
  | eapBegun _ hp _ _ ho | eapTurned _ _ hp _ _ _ _ _ _ _ _ ho => exact same hp (by rw [ho]; rfl)
  | kemKeyed hs hp _ _ _ _ _ _ _ _ _ ho =>
    have hne : sa.core.state ≠ .established := by
      intro he
      rw [show sa.state = .established from he] at hs
      exact absurd hs (by decide)
    refine same hp ?_
    rw [ho, lease_of_ne hne]
    rfl
  | authenticated _ hs _ hstored hclose k hlease ho _ =>
    have hl : Leasing sa.core := hcore ▸ h.leasing _ _ hold
    rw [conclude_byRSPI hclose, conclude_pools hclose, hstored]
    dsimp only
    rw [leases_insert, ho, lease_established rfl]
    rcases (hlease.drawn h.wired (hl.of_halfOpen hs)).2 f with ⟨hv, hu⟩ | ⟨v, hv, hfree, hu⟩
    · rw [show f.read _ = none from hv, hu]
      exact (h.exclusive f).drop _
    · rw [show f.read _ = some v from hv, hu]
      exact (h.exclusive f).give _ hfree
  | rekeyed hs hpools hclose _ ho suite keys spiI hstored =>
    rw [conclude_byRSPI hclose, conclude_pools hclose, hstored, hpools]
    dsimp only
    rw [leases_insert, leases_insert, successor_lease hs, ← hheld, ho, lease_of_ne (by simp)]
    exact (h.exclusive f).transfer _ _
  | closed hs hpools hstored hclose _ hdel ho =>
    exact h.exclusive_close hold hcore hs hpools hstored hclose ho (hkept hdel) f

lemma LeaseInv.step (hkept : LeaseKept c s d) : LeaseInv netmask dns (s.step c d) := by
  refine ⟨h.keyed.step, by rw [step_cfg]; exact h.wired, h.leasing_step, fun f => ?_⟩
  unfold Server.step
  cases handlePacket_change c s d with
  | idle hsame hb _ _ =>
    rw [hb, hsame.pools]
    exact h.exclusive f
  | touched rspi old sa hold hcore ht =>
    rw [ht, Server.writeBack, leases_insert_same hold (by rw [hcore])]
    exact h.exclusive f
  | created sa hf hsame hb _ _ =>
    have hne : sa.core.state ≠ .established := by
      rw [show sa.core.state = .saInitDone from hf.state]
      decide
    rw [hb, hsame.pools, leases_insert, lease_of_ne hne]
    exact (h.exclusive f).drop _
  | moved old sa r o hreq hold hcore hmove ht =>
    rw [ht]
    exact h.exclusive_conclude hold hcore hmove (hkept sa r hreq) f

end

end Step

/-! ## Every run -/

/-- Every address of an established SA is marked in its pool, and no two established SAs have an
address in common. -/
structure LeasesExclusive (s : Server Pools) : Prop where
  used4 : ∀ rspi sa ip, s.byRSPI.lookup rspi = some sa → sa.state = .established →
    sa.assigned.ip4 = some ip → s.pools.v4.InUse ip
  used6 : ∀ rspi sa ip, s.byRSPI.lookup rspi = some sa → sa.state = .established →
    sa.assigned.ip6 = some ip → be128 ip ∈ s.pools.v6.used
  apart : ∀ rspi rspi' sa sa', s.byRSPI.lookup rspi = some sa → s.byRSPI.lookup rspi' = some sa' →
    sa.state = .established → sa'.state = .established → rspi ≠ rspi' →
    (∀ ip, sa.assigned.ip4 = some ip → sa'.assigned.ip4 ≠ some ip) ∧
      ∀ ip, sa.assigned.ip6 = some ip → sa'.assigned.ip6 ≠ some ip

section Run

variable {netmask : Bytes} {dns : List Bytes} {s : Server Pools} {rspi : ℕ} {sa : IKESA}

section

variable (h : LeaseInv netmask dns s) (hsa : s.byRSPI.lookup rspi = some sa)
  (hs : sa.state = .established) {ip : Bytes}

include h hsa hs

/-- The IPv4 address of an established SA is what the SA holds. -/
lemma LeaseInv.holds4 (hip : sa.assigned.ip4 = some ip) :
    ∃ v, to4 ip = some v ∧ leases .v4 s.byRSPI rspi = some (be32 v 0) := by
  obtain ⟨v, hv⟩ := (h.leasing _ _ hsa).shaped.ip4 ip hip
  refine ⟨v, hv, ?_⟩
  rw [leases_lookup hsa, lease_established (k := sa.core) hs]
  simp only [Family.read, show sa.core.assigned.ip4 = some ip from hip, bind_some, hv, map_some]

/-- The IPv6 address of an established SA is what the SA holds. -/
lemma LeaseInv.holds6 (hip : sa.assigned.ip6 = some ip) :
    leases .v6 s.byRSPI rspi = some (be128 ip) := by
  have hlen := (h.leasing _ _ hsa).shaped.ip6 ip hip
  rw [leases_lookup hsa, lease_established (k := sa.core) hs]
  simp only [Family.read, show sa.core.assigned.ip6 = some ip from hip, bind_some, hlen, if_true]

end

lemma LeaseInv.leasesExclusive (h : LeaseInv netmask dns s) : LeasesExclusive s := by
  constructor
  · intro rspi sa ip hsa hs hip
    obtain ⟨v, hv, hheld⟩ := h.holds4 hsa hs hip
    exact ⟨v, hv, (h.exclusive .v4).used _ _ hheld⟩
  · intro rspi sa ip hsa hs hip
    exact (h.exclusive .v6).used _ _ (h.holds6 hsa hs hip)
  · intro rspi rspi' sa sa' hsa hsa' hs hs' hne
    refine ⟨fun ip hip hip' => hne ?_, fun ip hip hip' => hne ?_⟩
    · obtain ⟨v, hv, hheld⟩ := h.holds4 hsa hs hip
      obtain ⟨v', hv', hheld'⟩ := h.holds4 hsa' hs' hip'
      obtain rfl := some.inj (hv.symm.trans hv')
      exact (h.exclusive .v4).unique _ _ _ hheld hheld'
    · exact (h.exclusive .v6).unique _ _ _ (h.holds6 hsa hs hip) (h.holds6 hsa' hs' hip')

end Run

/-- **Exclusive leases**, along every run in which no delete arrives on a retired SA that still has
its IPv6 address. -/
theorem leases_exclusive (c : Crypto) (cfg : Config Pools) (netmask : Bytes) (dns : List Bytes)
    (pools : Pools) (secret : Option Bytes) (now : ℤ) (ds : List Datagram)
    (h : Along (Server.step c) (LeaseKept c)
      (newServer (cfg.wired netmask dns) pools secret now) ds) :
    Always (Server.step c) LeasesExclusive (newServer (cfg.wired netmask dns) pools secret now)
      ds := by
  refine always_of_inv (LeaseInv netmask dns) (fun s d hs hd => hs.step hd)
    (fun s hs => hs.leasesExclusive) _ _ ?_ h
  refine ⟨newServer_keyed _ _ _ _, ⟨rfl, rfl⟩, fun rspi sa hsa => ?_, fun f => ?_⟩
  · exact absurd hsa (newServer_lookup _ _ _ _ rspi sa)
  · exact Exclusive.empty _

/-! ## A rekey with and without an IPv6 address -/

/-- 10.10.10.0/24 and fd00:10:10::/64, the defaults. -/
def leasePools : Pools :=
  (newPools 0x0a0a0a00 24 0xfd000010001000000000000000000000 64).get (by decide)

/-- A responder with the default pools and a PSK. -/
def leaseServer : Server Pools :=
  newServer (Config.wired { psk := [1], localID := ⟨idFQDN, []⟩ } [255, 255, 255, 0] []) leasePools
    none 0

/-- The state after some datagrams. -/
def leaseState (ds : List Datagram) : Server Pools := run (Server.step plainCrypto) leaseServer ds

/-- A client that asks for the given attributes is established, and rekeys its IKE SA. -/
def leaseRekeyed (attrs : List CFGAttr) : List Datagram :=
  let init := saInitRequest 1 [] [] (drawing 7 9)
  let auth := (leaseState [init]).protectedRequest plainCrypto 7 ikeAuth
    (pskAuthPayloads ++ [⟨typeCP, false, marshalCP ⟨cfgRequest, attrs⟩⟩]) (drawing 7 9)
  let rekey := (leaseState [init, auth]).protectedRequest plainCrypto 7 createChildSA
    (ikeAgreement (putBE64 2) []) (drawing 8 9)
  [init, auth, rekey]

/-- It deletes the SA it has replaced. -/
def leaseRun (attrs : List CFGAttr) : List Datagram :=
  leaseRekeyed attrs ++ [(leaseState (leaseRekeyed attrs)).protectedRequest plainCrypto 7
    informational [⟨typeDelete, false, marshalDelete ⟨protoIKE, 0, []⟩⟩] (drawing 8 9)]

/-- The attributes that ask for an IPv4 address, and for one of each family. -/
def askIP4 : List CFGAttr := [⟨cfgInternalIP4Address, []⟩]

def askBoth : List CFGAttr := [⟨cfgInternalIP4Address, []⟩, ⟨cfgInternalIP6Address, []⟩]

/-- Whether a delete arrives on a retired SA with an IPv6 address. -/
def lateDelete (c : Crypto) (s : Server Pools) (d : Datagram) : Bool :=
  (s.request c d).any fun x =>
    deletesIKE x.2.inners && x.1.state == .deleting && x.1.clientIP6.isSome

lemma leaseKept_of_not_late {c : Crypto} {s : Server Pools} {d : Datagram}
    (h : lateDelete c s d = false) : LeaseKept c s d := by
  intro sa r hreq hdel hstate
  simpa [lateDelete, hreq, hdel, hstate] using h

/-- A client without an IPv6 address keeps its lease through the rekey and the delete. -/
theorem leases_exclusive_ip4 :
    Always (Server.step plainCrypto) LeasesExclusive leaseServer (leaseRun askIP4) := by
  refine leases_exclusive plainCrypto _ _ _ _ _ _ _ ⟨?_, ?_, ?_, ?_, trivial⟩
  · exact leaseKept_of_not_late (by decide)
  · exact leaseKept_of_not_late (by decide +kernel)
  · exact leaseKept_of_not_late (by decide +kernel)
  · exact leaseKept_of_not_late (by decide +kernel)

/-- **A lease in use is released.**  A client with an address of each family rekeys its IKE SA and
deletes the old one.  The new SA is established with 10.10.10.2, which the pool has free again. -/
theorem rekeyed_lease_released :
    ¬ Always (Server.step plainCrypto) LeasesExclusive leaseServer (leaseRun askBoth) := by
  intro h
  have hend : ((leaseState (leaseRun askBoth)).byRSPI.lookup 8).map
      (fun sa => (sa.state, sa.assigned.ip4)) = some (.established, some [10, 10, 10, 2]) := by
    decide +kernel
  have hfree : (leaseState (leaseRun askBoth)).pools.v4.used = ∅ := by decide +kernel
  obtain ⟨sa, hsa, hval⟩ := map_eq_some_iff.mp hend
  obtain ⟨hstate, hip⟩ := Prod.mk.inj hval
  obtain ⟨v, -, hused⟩ := h.last.used4 8 sa _ hsa hstate hip
  exact absurd (hfree ▸ hused) (Finset.notMem_empty _)

end Veepin.IKE
