import Veepin.Core.LossyLink
import Mathlib.Data.Fintype.Sets

/-!
# The flights of the handshake

What `clientHandshake` and `serverHandshake` do with a whole flight that arrives, without its
contents: which flight each end waits for, what it sends then, and what it sends again when a read
times out.  A datagram is named by the flight that it is; the ChangeCipherSpec and the Finished of
either end are datagrams of their own.

* `completes_iff` — over a link that loses any finite set of datagrams, and in every fair schedule,
  both ends complete if and only if the link loses none of the three datagrams that are sent once
  and waited for: the ClientKeyExchange and the two Finished.
-/

namespace Veepin.Dtls

/-- The datagrams of a handshake. -/
inductive Flight
  | clientHello
  | helloVerifyRequest
  | clientHelloCookie
  | serverHello
  | clientKeyExchange
  | clientChangeCipherSpec
  | clientFinished
  | serverChangeCipherSpec
  | serverFinished
  deriving DecidableEq, Repr

instance : Fintype Flight where
  elems := {.clientHello, .helloVerifyRequest, .clientHelloCookie, .serverHello, .clientKeyExchange,
    .clientChangeCipherSpec, .clientFinished, .serverChangeCipherSpec, .serverFinished}
  complete f := by cases f <;> decide

/-- What the client waits for: the answer to its first ClientHello, the server's hello, the server's
Finished, or nothing any more. -/
inductive ClientPhase
  | hello
  | cookie
  | finishing
  | done
  deriving DecidableEq, Repr

instance : Fintype ClientPhase where
  elems := {.hello, .cookie, .finishing, .done}
  complete c := by cases c <;> decide

/-- What the server waits for: a ClientHello, the ClientHello with the cookie, the
ClientKeyExchange, the client's Finished, or nothing any more.  While it has no keys, it holds a
Finished that comes. -/
inductive ServerPhase
  | start
  | verifying
  | keyExchange (held : Bool)
  | finishing
  | done
  deriving DecidableEq, Repr

instance : Fintype ServerPhase where
  elems := {.start, .verifying, .keyExchange false, .keyExchange true, .finishing, .done}
  complete s := by
    rcases s with _ | _ | held | _ | _
    case keyExchange => cases held <;> decide
    all_goals decide

/-- The server's last flight. -/
def serverLast : List Flight := [.serverChangeCipherSpec, .serverFinished]

def ClientPhase.receive : ClientPhase → Flight → ClientPhase × List Flight
  | .hello, .helloVerifyRequest => (.cookie, [.clientHelloCookie])
  | .cookie, .serverHello =>
    (.finishing, [.clientKeyExchange, .clientChangeCipherSpec, .clientFinished])
  | .finishing, .serverFinished => (.done, [])
  | c, _ => (c, [])

/-- While it waits for the server's Finished, the client has no flight to send again. -/
def ClientPhase.timeout : ClientPhase → List Flight
  | .hello => [.clientHello]
  | .cookie => [.clientHelloCookie]
  | .finishing => []
  | .done => []

def ServerPhase.receive : ServerPhase → Flight → ServerPhase × List Flight
  | .start, .clientHello => (.verifying, [.helloVerifyRequest])
  | .verifying, .clientHelloCookie => (.keyExchange false, [.serverHello])
  | .keyExchange _, .clientFinished => (.keyExchange true, [])
  | .keyExchange true, .clientKeyExchange => (.done, serverLast)
  | .keyExchange false, .clientKeyExchange => (.finishing, [])
  | .finishing, .clientFinished => (.done, serverLast)
  | s, _ => (s, [])

def ServerPhase.timeout : ServerPhase → List Flight
  | .start => []
  | .verifying => [.helloVerifyRequest]
  | .keyExchange _ => [.serverHello]
  | .finishing => [.serverHello]
  | .done => []

/-- The two ends. -/
def flightEnds : Ends ClientPhase ServerPhase Flight where
  clientReceive := ClientPhase.receive
  clientTimeout := ClientPhase.timeout
  serverReceive := ServerPhase.receive
  serverTimeout := ServerPhase.timeout

abbrev FlightLink := Link ClientPhase ServerPhase Flight Flight

def FlightLink.step (lost : Finset (Flight × ℕ)) (l : FlightLink) (e : LinkEvent) : FlightLink :=
  Link.step id lost flightEnds l e

/-! ## Where the two ends can be -/

/-- What the client can have sent. -/
def ClientPhase.sends : ClientPhase → List Flight
  | .hello => [.clientHello]
  | .cookie => [.clientHello, .clientHelloCookie]
  | _ => [.clientHello, .clientHelloCookie, .clientKeyExchange, .clientChangeCipherSpec,
      .clientFinished]

/-- What the server can have sent. -/
def ServerPhase.sends : ServerPhase → List Flight
  | .start => []
  | .verifying => [.helloVerifyRequest]
  | .done => [.helloVerifyRequest, .serverHello, .serverChangeCipherSpec, .serverFinished]
  | _ => [.helloVerifyRequest, .serverHello]

/-- Where the two ends can be at the same time. -/
def meets : ClientPhase → ServerPhase → Bool
  | .hello, .start => true
  | .hello, .verifying => true
  | .cookie, .verifying => true
  | .cookie, .keyExchange false => true
  | .finishing, .keyExchange _ => true
  | .finishing, .finishing => true
  | .finishing, .done => true
  | .done, .done => true
  | _, _ => false

/-- How far the handshake is: the steps of either end. -/
def ClientPhase.steps : ClientPhase → ℕ
  | .hello => 0
  | .cookie => 1
  | .finishing => 2
  | .done => 3

def ServerPhase.steps : ServerPhase → ℕ
  | .start => 0
  | .verifying => 1
  | .keyExchange _ => 2
  | .finishing => 3
  | .done => 4

/-- The datagram that takes the handshake on. -/
def wanted : ClientPhase → ServerPhase → Wanted Flight
  | .hello, .start => .byServer .clientHello
  | .hello, _ => .byClient .helloVerifyRequest
  | .cookie, .verifying => .byServer .clientHelloCookie
  | .cookie, _ => .byClient .serverHello
  | .finishing, .keyExchange _ => .byServer .clientKeyExchange
  | .finishing, .finishing => .byServer .clientFinished
  | .finishing, _ => .byClient .serverFinished
  | .done, _ => .byServer .serverFinished

/-- The handshake as a protocol that proceeds stage by stage. -/
def handshakeLadder : Ladder ClientPhase ServerPhase Flight where
  ends := flightEnds
  Meet := meets
  clientSends := ClientPhase.sends
  serverSends := ServerPhase.sends
  stage c s := c.steps + s.steps
  wanted := wanted
  clientTimeout := by decide
  serverTimeout := by decide
  clientSends_receive := by decide
  serverSends_receive := by decide
  meet_clientReceive := by decide
  meet_serverReceive := by decide
  stage_clientReceive := by decide
  stage_serverReceive := by decide
  serverTimeout_wanted := by decide
  clientTimeout_wanted := by decide

/-! ## The datagrams that are sent once -/

lemma sendsOnce_clientKeyExchange : handshakeLadder.SendsOnce .clientKeyExchange
    (fun c => 2 ≤ c.steps) (fun s => 3 ≤ s.steps) := by
  constructor <;> decide

lemma sendsOnce_clientFinished : handshakeLadder.SendsOnce .clientFinished
    (fun c => 2 ≤ c.steps) (fun s => s = .keyExchange true ∨ s = .done) := by
  constructor <;> decide

lemma sendsOnce_serverFinished : handshakeLadder.swap.SendsOnce .serverFinished
    (fun s => s = .done) (fun c => c = .done) := by
  constructor <;> decide

/-- The first datagram of this flight is not lost. -/
def Spared (lost : Finset (Flight × ℕ)) (f : Flight) : Prop := (f, 0) ∉ lost

variable {lost : Finset (Flight × ℕ)} {l : FlightLink}

/-- What holds of the link at all times. -/
structure FlightLink.Inv (lost : Finset (Flight × ℕ)) (l : FlightLink) : Prop where
  orderly : handshakeLadder.Orderly l
  clientKeyExchange : Once lost .clientKeyExchange (fun c => 2 ≤ c.steps) (fun s => 3 ≤ s.steps) l
  clientFinished : Once lost .clientFinished (fun c => 2 ≤ c.steps)
    (fun s => s = .keyExchange true ∨ s = .done) l
  serverFinished : Once lost .serverFinished (fun s => s = .done) (fun c => c = .done) l.swap

lemma FlightLink.Inv.step (h : l.Inv lost) (e : LinkEvent) : (l.step lost e).Inv lost := by
  refine ⟨h.orderly.step e, h.clientKeyExchange.step sendsOnce_clientKeyExchange h.orderly e,
    h.clientFinished.step sendsOnce_clientFinished h.orderly e, ?_⟩
  rw [FlightLink.step, Link.step_swap]
  exact h.serverFinished.step sendsOnce_serverFinished h.orderly.swap e.swap

/-- The client has sent its first ClientHello. -/
def FlightLink.start (lost : Finset (Flight × ℕ)) : FlightLink :=
  Link.fromClient id lost ⟨.hello, .start, [], [], fun _ => 0⟩ [.clientHello]

lemma inv_start (lost : Finset (Flight × ℕ)) : (FlightLink.start lost).Inv lost := by
  have hsub : (FlightLink.start lost).toServer ⊆ [.clientHello] :=
    transmit_subset (List.nil_subset _) (List.Subset.refl _)
  have hnot : ∀ f, f ≠ .clientHello → f ∉ (FlightLink.start lost).toServer :=
    fun f hf hmem => hf (List.mem_singleton.mp (hsub hmem))
  have hsent : ∀ f, f ≠ .clientHello → (FlightLink.start lost).sent f = 0 :=
    fun f hf => @transmit_sent_other _ _ lost f _ (fun _ => 0) []
      fun hmem => hf (List.mem_singleton.mp hmem)
  refine ⟨⟨rfl, hsub, List.nil_subset _⟩, ⟨fun _ => ?_, fun h => ?_⟩, ⟨fun _ => ?_, fun h => ?_⟩,
    ⟨fun _ => ?_, fun h => ?_⟩⟩
  · exact ⟨hsent _ (by decide), hnot _ (by decide), show ¬ 3 ≤ ServerPhase.start.steps by decide⟩
  · exact absurd (show 2 ≤ ClientPhase.hello.steps from h) (by decide)
  · exact ⟨hsent _ (by decide), hnot _ (by decide), not_or.mpr ⟨ServerPhase.noConfusion,
      ServerPhase.noConfusion⟩⟩
  · exact absurd (show 2 ≤ ClientPhase.hello.steps from h) (by decide)
  · exact ⟨hsent .serverFinished (by decide), List.not_mem_nil, ClientPhase.noConfusion⟩
  · exact ServerPhase.noConfusion h

/-! ## The handshake completes -/

/-- None of the datagrams is lost that are sent once and waited for. -/
def OnceSpared (lost : Finset (Flight × ℕ)) : Prop :=
  Spared lost .clientKeyExchange ∧ Spared lost .clientFinished ∧ Spared lost .serverFinished

instance (lost : Finset (Flight × ℕ)) : Decidable (OnceSpared lost) :=
  inferInstanceAs (Decidable ((_, _) ∉ lost ∧ (_, _) ∉ lost ∧ (_, _) ∉ lost))

/-- Both ends have completed the handshake. -/
def FlightLink.Completed (l : FlightLink) : Prop := l.client = .done ∧ l.server = .done

lemma completed_iff : l.Completed ↔ 7 ≤ l.client.steps + l.server.steps := by
  obtain ⟨client, server, -, -, -⟩ := l
  cases client <;> cases server <;>
    simp [FlightLink.Completed, ClientPhase.steps, ServerPhase.steps]

/-- **What is waited for.**  Up to the server's hello it is sent again; what comes then is sent
once, and on the way unless it has arrived. -/
lemma FlightLink.Inv.ready (h : l.Inv lost) (hspared : OnceSpared lost) (hl : ¬ l.Completed) :
    handshakeLadder.Ready l := by
  obtain ⟨client, server, toServer, toClient, sent⟩ := l
  have hmeet := h.orderly.meet
  have hkey := fun hc => (h.clientKeyExchange.behind hc).mp hspared.1
  have hclient := fun hc => (h.clientFinished.behind hc).mp hspared.2.1
  have hserver := fun hs => (h.serverFinished.behind hs).mp hspared.2.2
  dsimp only at hmeet hkey hclient
  cases client with
  | hello =>
    cases server with
    | start | verifying => exact Or.inr rfl
    | _ => cases hmeet
  | cookie =>
    cases server with
    | verifying | keyExchange held => exact Or.inr rfl
    | _ => cases hmeet
  | finishing =>
    cases server with
    | keyExchange held => exact Or.inl ((hkey le_rfl).resolve_right (Nat.not_succ_le_self 2))
    | finishing => exact Or.inl ((hclient le_rfl).resolve_right (by decide))
    | done => exact Or.inl ((hserver rfl).resolve_right ClientPhase.noConfusion)
    | _ => cases hmeet
  | done =>
    cases server with
    | done => exact absurd ⟨rfl, rfl⟩ hl
    | _ => cases hmeet

/-- Who has completed has got what is sent once. -/
lemma FlightLink.Inv.onceSpared (h : l.Inv lost) (hl : l.Completed) : OnceSpared lost := by
  obtain ⟨hclient, hserver⟩ := hl
  have hbegun : 2 ≤ l.client.steps := by
    rw [hclient]
    decide
  refine ⟨(h.clientKeyExchange.behind hbegun).mpr (Or.inr ?_),
    (h.clientFinished.behind hbegun).mpr (Or.inr (Or.inr hserver)),
    (h.serverFinished.behind hserver).mpr (Or.inr hclient)⟩
  rw [hserver]
  decide

/-- **The handshake completes** if and only if the link loses none of the datagrams that are sent
once and waited for. -/
theorem completes_iff (lost : Finset (Flight × ℕ)) {sched : ℕ → LinkEvent} (hfair : Fair sched) :
    (∃ n, (after (FlightLink.step lost) (FlightLink.start lost) sched n).Completed) ↔
      OnceSpared lost := by
  have hinv : ∀ n, (after (FlightLink.step lost) (FlightLink.start lost) sched n).Inv lost :=
    inv_after (fun l e h => h.step e) (inv_start lost)
  constructor
  · rintro ⟨n, hn⟩
    exact (hinv n).onceSpared hn
  intro hspared
  obtain ⟨n, hn⟩ := handshakeLadder.climbs 7 hfair
    (fun l e (h : FlightLink.Inv lost l) => h.step e) (fun l h => h.orderly)
    (fun l h htop => h.ready hspared fun hl => absurd (completed_iff.mp hl) (not_le.mpr htop))
    (inv_start lost)
  exact ⟨n, completed_iff.mpr hn⟩

end Veepin.Dtls
