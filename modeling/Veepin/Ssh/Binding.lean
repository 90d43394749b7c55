import Veepin.Core.Maps
import Veepin.Core.Runs

/-!
# The addresses of SSH clients

`serveTunnel`, `bind`, `close` and `tunLoop` of `ssh/server.go`.  A client has no address until a
packet of it says one, and `cl.ip == 0` says that it has none yet.  A step is a critical section, or
what a goroutine does between two of them.

* `ssh_bindings` — as long as no packet comes from 0.0.0.0 inside the pool, bindings are exact;
* `ssh_zero_address` — with such a packet a client gets two addresses, and leaves one behind.
-/

namespace Veepin.Ssh

open Function

/-- Where the goroutine of a client is. -/
inductive Task
  | absent
  | reading
  /-- Past the checks, with a packet for the TUN. -/
  | writing (src : ℕ)
  /-- `close` has closed the channel. -/
  | closed
  | gone
  deriving DecidableEq

/-- The network of the pool, the clients with their `ip`, the map `Server.clients`, and the packet
that `tunLoop` holds, by its destination, with the client it has found. -/
structure Server where
  network : ℕ
  ones : ℕ
  task : ℕ → Task := fun _ => .absent
  ip : ℕ → ℕ := fun _ => 0
  clients : ℕ → Option ℕ := fun _ => none
  tunLoop : Option (ℕ × ℕ) := none

inductive Event
  | connect (c : ℕ)
  | packet (c src : ℕ)
  | tunWrite (c : ℕ)
  | closeChannel (c : ℕ)
  | free (c : ℕ)
  | tunRead (dst : ℕ)
  | tunSend

namespace Server

def contains (s : Server) (v : ℕ) : Bool := v / 2 ^ (32 - s.ones) == s.network / 2 ^ (32 - s.ones)

def gateway (s : Server) : ℕ := (s.network + 1) % 2 ^ 32

def goto (s : Server) (c : ℕ) (t : Task) : Server := { s with task := Function.update s.task c t }

def bind (s : Server) (c src : ℕ) : Option Server :=
  if (s.clients src).any (· ≠ c) then none
  else some { s with
    ip := Function.update s.ip c src, clients := Function.update s.clients src (some c) }

/-- A packet in `serveTunnel`, up to the write. -/
def serveTunnel (s : Server) (c src : ℕ) : Server :=
  if s.ip c = 0 then
    if ¬ s.contains src ∨ src = s.gateway then s
    else (s.bind c src).elim s (·.goto c (.writing src))
  else if src ≠ s.ip c then s
  else s.goto c (.writing src)

/-- The second half of `close`. -/
def free (s : Server) (c : ℕ) : Server :=
  if s.ip c ≠ 0 ∧ s.clients (s.ip c) = some c then
    { s.goto c .gone with clients := Function.update s.clients (s.ip c) none }
  else s.goto c .gone

def step (s : Server) : Event → Server
  | .connect c => if s.task c = .absent then s.goto c .reading else s
  | .packet c src => if s.task c = .reading then s.serveTunnel c src else s
  | .tunWrite c =>
    match s.task c with
    | .writing _ => s.goto c .reading
    | _ => s
  | .closeChannel c => if s.task c = .reading then s.goto c .closed else s
  | .free c => if s.task c = .closed then s.free c else s
  | .tunRead dst =>
    if s.tunLoop = none then { s with tunLoop := (s.clients dst).map (dst, ·) } else s
  | .tunSend => { s with tunLoop := none }

/-- The packet is not one from 0.0.0.0 inside the pool. -/
def NotZero (s : Server) : Event → Prop
  | .packet _ src => src = 0 → s.contains src = false
  | _ => True

/-- Between the connect and the end of `close`. -/
def Live (s : Server) (c : ℕ) : Prop := s.task c ≠ .absent ∧ s.task c ≠ .gone

/-- The map and the clients agree. -/
structure Inv (s : Server) : Prop where
  held : ∀ c, s.ip c ≠ 0 → s.Live c → s.clients (s.ip c) = some c
  mapped : ∀ v c, s.clients v = some c →
    s.ip c = v ∧ v ≠ 0 ∧ s.Live c ∧ s.contains v = true ∧ v ≠ s.gateway
  absent : ∀ c, s.task c = .absent → s.ip c = 0
  writing : ∀ c src, s.task c = .writing src → s.clients src = some c
  found : ∀ d c, s.tunLoop = some (d, c) → s.ip c = d ∧ d ≠ 0

variable {s : Server} {c : ℕ}

/-- A client moves on and keeps its address. -/
lemma Inv.goto (h : s.Inv) {t : Task} (hlive : s.ip c ≠ 0 → s.Live c → t ≠ .gone)
    (habsent : t ≠ .absent) (hgone : s.task c = .gone → s.ip c = 0)
    (hwriting : ∀ src, t = .writing src → s.clients src = some c) : (s.goto c t).Inv := by
  -- A client with an address is live before and after.
  have hsame : ∀ j, s.ip j ≠ 0 → ((s.goto c t).Live j ↔ s.Live j) := by
    intro j hip
    by_cases hj : j = c
    · subst hj
      have hold : s.Live j := ⟨fun ha => hip (h.absent j ha), fun hg => hip (hgone hg)⟩
      simp [Live, Server.goto, habsent, hlive hip hold, hold.1, hold.2]
    · simp [Live, Server.goto, hj]
  refine { h with
    held := fun j hip hl => h.held j hip ((hsame j hip).1 hl)
    mapped := fun v j hv => ?_
    absent := fun j hj => ?_
    writing := fun j src hj => ?_ }
  · obtain ⟨rfl, hne, hl, hin⟩ := h.mapped v j hv
    exact ⟨rfl, hne, (hsame j hne).2 hl, hin⟩
  · obtain ⟨-, ht⟩ | ⟨-, hj⟩ := update_eq_cases hj
    · exact absurd ht habsent
    · exact h.absent j hj
  · obtain ⟨rfl, ht⟩ | ⟨-, hj⟩ := update_eq_cases hj
    · exact hwriting src ht
    · exact h.writing j src hj

/-- **A binding** is made of an address that nobody has, by a client that has none. -/
lemma Inv.bind (h : s.Inv) {src : ℕ} (htask : s.task c = .reading) (hip : s.ip c = 0)
    (hin : s.contains src = true) (hgw : src ≠ s.gateway) (hzero : src ≠ 0) {s' : Server}
    (hs : s.bind c src = some s') :
    s'.Inv ∧ s'.task = s.task ∧ s'.clients src = some c ∧
      ∀ v j, s.clients v = some j → s'.clients v = some j := by
  rw [Server.bind] at hs
  split_ifs at hs with hother
  obtain rfl := Option.some.inj hs
  have hfree : s.clients src = none := by
    cases hsrc : s.clients src with
    | none => rfl
    | some j =>
      obtain rfl : j = c := by simpa [hsrc] using hother
      exact absurd ((h.mapped src j hsrc).1.symm.trans hip) hzero
  have hkept : ∀ v j, s.clients v = some j → update s.clients src (some c) v = some j :=
    fun v j hv => (update_of_ne (fun hvs => by simp [← hvs, hv] at hfree) ..).trans hv
  -- The other clients keep their addresses.
  have hsame : ∀ j, s.ip j ≠ 0 → update s.ip c src j = s.ip j :=
    fun j hj => update_of_ne (by rintro rfl; exact hj hip) ..
  refine ⟨⟨fun j hj hl => ?_, fun v j hv => ?_, fun j hj => ?_, fun j v hj => ?_, fun d j hd => ?_⟩,
    rfl, update_self .., hkept⟩
  · by_cases hjc : j = c
    · simp [hjc]
    · dsimp only at hj ⊢
      rw [update_of_ne hjc] at hj ⊢
      exact hkept _ j (h.held j hj hl)
  · obtain ⟨rfl, hc⟩ | ⟨-, hv⟩ := update_eq_cases hv
    · obtain rfl := Option.some.inj hc
      exact ⟨update_self .., hzero, by simp [Live, htask], hin, hgw⟩
    · obtain ⟨rfl, hv0, hrest⟩ := h.mapped v j hv
      exact ⟨hsame j hv0, hv0, hrest⟩
  · have hjc : j ≠ c := fun hjc => by simp [hjc, htask] at hj
    exact (update_of_ne hjc ..).trans (h.absent j hj)
  · exact hkept v j (h.writing j v hj)
  · obtain ⟨rfl, hd0⟩ := h.found d j hd
    exact ⟨hsame j hd0, hd0⟩

/-- **A departure** takes the client's own address out of the map, and no other. -/
lemma Inv.free (h : s.Inv) (c : ℕ) : (s.free c).Inv ∧
    ∀ v j, (s.free c).clients v = some j ↔ s.clients v = some j ∧ j ≠ c := by
  have hclients : ∀ v j, (s.free c).clients v = some j ↔ s.clients v = some j ∧ j ≠ c := by
    intro v j
    rw [Server.free]
    split_ifs with hheld
    · by_cases hv : v = s.ip c
      · simp [hv, hheld.2, eq_comm]
      · simp only [update_of_ne hv, iff_self_and]
        exact fun hj hjc => hv (hjc ▸ (h.mapped v j hj).1.symm)
    · refine iff_self_and.2 fun hj => ?_
      rintro rfl
      obtain ⟨rfl, hv0, -⟩ := h.mapped v j hj
      exact hheld ⟨hv0, hj⟩
  have hform : s.free c = { s.goto c .gone with clients := (s.free c).clients } := by
    rw [Server.free]
    split_ifs <;> rfl
  have hlive : ∀ j, (s.goto c .gone).Live j ↔ s.Live j ∧ j ≠ c := fun j => by
    by_cases hj : j = c <;> simp [Live, Server.goto, hj]
  refine ⟨?_, hclients⟩
  rw [hform]
  refine ⟨fun j hip hl => ?_, fun v j hv => ?_, fun j hj => ?_, fun j src hj => ?_, h.found⟩
  · obtain ⟨hl, hjc⟩ := (hlive j).1 hl
    exact (hclients _ j).2 ⟨h.held j hip hl, hjc⟩
  · obtain ⟨hj, hjc⟩ := (hclients v j).1 hv
    obtain ⟨hip, hv0, hl, hin⟩ := h.mapped v j hj
    exact ⟨hip, hv0, (hlive j).2 ⟨hl, hjc⟩, hin⟩
  · obtain ⟨-, hg⟩ | ⟨-, hj⟩ := update_eq_cases hj
    · cases hg
    · exact h.absent j hj
  · obtain ⟨-, hg⟩ | ⟨hjc, hj⟩ := update_eq_cases hj
    · cases hg
    · exact (hclients src j).2 ⟨h.writing j src hj, hjc⟩

/-- **The step.**  A binding stays, unless its client goes. -/
lemma Inv.step (h : s.Inv) {e : Event} (hC : s.NotZero e) : (s.step e).Inv ∧
    ∀ v j, s.clients v = some j → (s.step e).clients v = some j ∨ e = .free j := by
  have hself : ∀ {p : ℕ → Prop},
      s.Inv ∧ ∀ v j, s.clients v = some j → s.clients v = some j ∨ p j := ⟨h, fun _ _ => .inl⟩
  cases e with
  | connect c | closeChannel c =>
    rw [Server.step]
    split_ifs with htask
    · exact ⟨h.goto nofun nofun (by simp [htask]) nofun, fun _ _ => .inl⟩
    · exact hself
  | packet c src =>
    rw [Server.step]
    split_ifs with htask
    · rw [serveTunnel]
      split_ifs with hip hout hsrc
      · exact hself
      · obtain ⟨hin, hgw⟩ := not_or.1 hout
        have hin : s.contains src = true := by simpa using hin
        have hzero : src ≠ 0 := fun h0 => by simp [hC h0] at hin
        cases hbind : s.bind c src with
        | none => exact hself
        | some s' =>
          obtain ⟨hinv, hsame, haddr, hkept⟩ := h.bind htask hip hin hgw hzero hbind
          exact ⟨hinv.goto nofun nofun (by simp [hsame, htask]) (by simp [haddr]),
            fun v j hv => .inl (hkept v j hv)⟩
      · exact hself
      · have hheld := h.held c hip (by simp [Live, htask])
        rw [← not_not.1 hsrc] at hheld
        exact ⟨h.goto nofun nofun (by simp [htask]) (by simp [hheld]), fun _ _ => .inl⟩
    · exact hself
  | tunWrite c =>
    rw [Server.step]
    split
    · rename_i htask
      exact ⟨h.goto nofun nofun (by simp [htask]) nofun, fun _ _ => .inl⟩
    · exact hself
  | free c =>
    rw [Server.step]
    split_ifs with htask
    · obtain ⟨hinv, hmap⟩ := h.free c
      refine ⟨hinv, fun v j hv => ?_⟩
      by_cases hj : j = c
      · exact .inr (by rw [hj])
      · exact .inl ((hmap v j).2 ⟨hv, hj⟩)
    · exact hself
  | tunRead dst =>
    rw [Server.step]
    split_ifs with hidle
    · refine ⟨{ h with found := fun d j hd => ?_ }, fun _ _ => .inl⟩
      obtain ⟨k, hk, heq⟩ := Option.map_eq_some_iff.1 hd
      obtain ⟨rfl, rfl⟩ := Prod.mk.inj heq
      exact ⟨(h.mapped _ _ hk).1, (h.mapped _ _ hk).2.1⟩
    · exact hself
  | tunSend => exact ⟨{ h with found := nofun }, fun _ _ => .inl⟩

/-- An address in the map is in the pool, is not the gateway, and is the only one of its client,
which is live. -/
def Bound (s : Server) : Prop :=
  ∀ v c, s.clients v = some c →
    s.Live c ∧ s.contains v = true ∧ v ≠ s.gateway ∧ ∀ w, s.clients w = some c → w = v

/-- A step keeps the bindings, unless their client goes; what is written and sent is the client's
own; and a client that goes takes its own binding with it, and only that. -/
def Exact (s : Server) (e : Event) : Prop :=
  (∀ v c, s.clients v = some c → (s.step e).clients v = some c ∨ e = .free c) ∧
    match e with
    | .tunWrite c => ∀ src, s.task c = .writing src → s.clients src = some c
    | .tunSend => ∀ d c, s.tunLoop = some (d, c) → s.Live c → s.task c ≠ .closed →
        s.clients d = some c
    | .free c => s.task c = .closed →
        ∀ v j, (s.step e).clients v = some j ↔ s.clients v = some j ∧ j ≠ c
    | _ => True

lemma Inv.exact (h : s.Inv) {e : Event} (hC : s.NotZero e) : s.Exact e := by
  refine ⟨(h.step hC).2, ?_⟩
  cases e with
  | tunWrite c => exact h.writing c
  | free c =>
    intro htask
    rw [Server.step, if_pos htask]
    exact (h.free c).2
  | tunSend =>
    intro d c hd hlive _
    obtain ⟨rfl, hd0⟩ := h.found d c hd
    exact h.held c hd0 hlive
  | _ => trivial

/-- **The bindings**, in every run without a packet from 0.0.0.0 inside the pool. -/
theorem ssh_bindings (network ones : ℕ) (es : List Event)
    (hes : Along Server.step NotZero { network, ones } es) :
    Always Server.step Bound { network, ones } es ∧
      Along Server.step Exact { network, ones } es := by
  have hstart : ({ network, ones } : Server).Inv :=
    ⟨fun _ hne => absurd rfl hne, nofun, fun _ _ => rfl, nofun, nofun⟩
  have hstep : ∀ s e, Inv s → NotZero s e → (Server.step s e).Inv := fun _ _ h hC => (h.step hC).1
  refine ⟨always_of_inv Inv hstep (fun s h v c hv => ?_) _ es hstart hes,
    along_of_inv Inv hstep (fun _ _ h hC => h.exact hC) _ es hstart hes⟩
  obtain ⟨hip, -, hlive, hin, hgw⟩ := h.mapped v c hv
  exact ⟨hlive, hin, hgw, fun w hw => (h.mapped w c hw).1.symm.trans hip⟩

/-- Two clients of 10.200.0.0/24 that want the same address. -/
theorem ssh_bindings_race : Always Server.step Bound { network := 0x0ac80000, ones := 24 }
      [.connect 0, .connect 1, .packet 1 0x0ac80005, .packet 0 0x0ac80005, .closeChannel 0] :=
  (ssh_bindings 0x0ac80000 24 _ (by simp [Along, NotZero])).1

/-- A client that sends from 0.0.0.0 and then from 0.0.0.5. -/
def twoSources : List Event := [.connect 0, .packet 0 0, .tunWrite 0, .packet 0 5, .tunWrite 0]

/-- In a pool that begins with 0.0.0.0 it is given both, and leaves the first in the map when it
goes. -/
theorem ssh_zero_address : ((run Server.step { network := 0, ones := 24 } twoSources).clients 0 =
        some 0 ∧
      (run Server.step { network := 0, ones := 24 } twoSources).clients 5 = some 0) ∧
    (run Server.step { network := 0, ones := 24 }
        (twoSources ++ [.closeChannel 0, .free 0])).clients 0 = some 0 ∧
      (run Server.step { network := 0, ones := 24 }
        (twoSources ++ [.closeChannel 0, .free 0])).task 0 = .gone := by
  decide

end Server

end Veepin.Ssh
