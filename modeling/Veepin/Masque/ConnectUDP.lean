import Veepin.Core.Runs
import Veepin.Dataplane.Shape
import Veepin.Masque.Capsule

/-!
# A CONNECT-UDP flow

`serveConnectUDP` of `server.go` on one side of a request stream and `UDPForwarder`'s `Run` and
`readFlow` on the other, with the shaper that the server's other clients use too.

* `Flow.Inv` — either stream holds the datagrams that are under way, framed and whole;
* `datagrams_unchanged` — in every run in which no datagram of the target is padded, either side
  receives the datagrams of the other, in order, and all of them once it has read;
* `datagram_padded` — a datagram that looks like an IP packet arrives longer than it was sent.
-/

namespace Veepin.Masque

open List

open Veepin.Dataplane

/-- A payload that UDP can carry. -/
abbrev UDPPayload := { p : Bytes // p.length ≤ 65507 }

/-- What `ServerConfig` tells of shaping. -/
structure ServerConfig where
  shape : ℤ
  mtu : ℤ

/-- One flow, and what has gone in and come out at either end. -/
structure Flow where
  shaper : Option Shaper
  /-- the client's reading end -/
  down : RequestStream := {}
  /-- the server's reading end -/
  up : RequestStream := {}
  /-- a reading loop has given up -/
  failed : Bool := false
  fromTarget : List Bytes := []
  toLocal : List Bytes := []
  fromLocal : List Bytes := []
  toTarget : List Bytes := []

namespace Flow

inductive Event
  /-- `conn.Read` at the server -/
  | fromTarget (pkt : UDPPayload) (now : ℤ)
  /-- `ReadFromUDP` at the client -/
  | fromLocal (pkt : UDPPayload)
  /-- one turn of `readFlow` -/
  | readFlow
  /-- one turn of the server's reading loop -/
  | relay
  /-- a packet of another client goes through the shaper -/
  | other (pkt : Bytes) (now : ℤ)

/-- `NewServer`, and a flow that has just been opened. -/
def new (cfg : ServerConfig) : Flow where
  shaper := if cfg.shape > 0 then some (Shaper.new { bytes := cfg.shape }) else none

/-- The shaper's word on a packet; a server without one pads nothing. -/
def target (cfg : ServerConfig) (s : Flow) (pkt : Bytes) (now : ℤ) : ℤ × Option Shaper :=
  match s.shaper with
  | none => (0, none)
  | some sh => ((sh.target pkt cfg.mtu now).1, some (sh.target pkt cfg.mtu now).2)

/-- One turn of a reading loop: the stream after it, and the datagram it passes on. -/
def readDatagram (rs : RequestStream) : Got (Option Bytes × RequestStream) :=
  (capsuleRead rs).bind fun ((typ, value), rs) =>
    .ok (if typ ≠ capsuleDatagram then none else decodeDatagramPayload value, rs)

def step (cfg : ServerConfig) (s : Flow) (ev : Event) : Flow :=
  if s.failed then s
  else
    match ev with
    | .fromTarget pkt now =>
      let t := s.target cfg pkt now
      let capsule := if t.1 > pkt.1.length then encodePadded pkt t.1 else encode pkt
      { s with
        shaper := t.2
        down := s.down.write capsule
        fromTarget := s.fromTarget ++ [pkt.1] }
    | .fromLocal pkt =>
      { s with up := s.up.write (encode pkt), fromLocal := s.fromLocal ++ [pkt.1] }
    | .readFlow =>
      match readDatagram s.down with
      | .wait => s
      | .fail => { s with failed := true }
      | .ok (payload, rs) => { s with down := rs, toLocal := s.toLocal ++ payload.toList }
    | .relay =>
      match readDatagram s.up with
      | .wait => s
      | .fail => { s with failed := true }
      | .ok (payload, rs) => { s with up := rs, toTarget := s.toTarget ++ payload.toList }
    | .other pkt now => { s with shaper := (s.target cfg pkt now).2 }

/-- The datagram is sent as it is. -/
def Plain (cfg : ServerConfig) (s : Flow) : Event → Prop
  | .fromTarget pkt now => ∀ sh, s.shaper = some sh → sh.Unshaped pkt cfg.mtu now
  | _ => True

/-- What has come out at either end is what went in at the other, in order, and a turn of the
reading loop for each datagram under way brings out the rest. -/
def Carried (cfg : ServerConfig) (s : Flow) : Prop :=
  s.failed = false ∧ s.toLocal <+: s.fromTarget ∧ s.toTarget <+: s.fromLocal ∧
    (run (step cfg) s (List.replicate (s.fromTarget.length - s.toLocal.length) .readFlow)).toLocal =
      s.fromTarget ∧
    (run (step cfg) s (List.replicate (s.fromLocal.length - s.toTarget.length) .relay)).toTarget =
      s.fromLocal

/-! ## What is under way -/

/-- A stream that holds these datagrams. -/
def framed (ps : List Bytes) : RequestStream :=
  ⟨[], ps.flatMap fun p => writeFrame frameData (encode p)⟩

/-- The datagrams `pd` are on their way down and `pu` on their way up. -/
structure Inv (s : Flow) (pd pu : List Bytes) : Prop where
  up_to_now : s.failed = false
  down : s.down = framed pd
  up : s.up = framed pu
  fromTarget : s.fromTarget = s.toLocal ++ pd
  fromLocal : s.fromLocal = s.toTarget ++ pu
  short : ∀ p ∈ pd ++ pu, p.length ≤ 65507

lemma framed_write (ps : List Bytes) (p : Bytes) :
    (framed ps).write (encode p) = framed (ps ++ [p]) := by
  simp [framed, RequestStream.write]

lemma readDatagram_framed_nil : readDatagram (framed []) = .wait := by
  decide

lemma readDatagram_framed {p : Bytes} (hp : p.length ≤ 65507) (ps : List Bytes) :
    readDatagram (framed (p :: ps)) = .ok (some p, framed ps) := by
  obtain ⟨value, hread, hvalue⟩ :=
    capsuleRead_encode hp (ps.flatMap fun p => writeFrame frameData (encode p))
  rw [readDatagram, framed, flatMap_cons, hread]
  simp only [Got.bind_ok, hvalue]
  rfl

variable {cfg : ServerConfig} {s : Flow} {pd pu : List Bytes}

lemma Inv.readFlow {p : Bytes} (h : s.Inv (p :: pd) pu) : (s.step cfg .readFlow).Inv pd pu := by
  rw [step, if_neg (by simp [h.up_to_now])]
  rw [h.down, readDatagram_framed (h.short p (by simp))]
  exact ⟨h.up_to_now, rfl, h.up, by simp [h.fromTarget], h.fromLocal,
    fun q hq => h.short q (mem_cons_of_mem _ hq)⟩

lemma Inv.relay {p : Bytes} (h : s.Inv pd (p :: pu)) : (s.step cfg .relay).Inv pd pu := by
  rw [step, if_neg (by simp [h.up_to_now])]
  rw [h.up, readDatagram_framed (h.short p (by simp))]
  refine ⟨h.up_to_now, h.down, rfl, h.fromTarget, by simp [h.fromLocal], fun q hq => h.short q ?_⟩
  rcases mem_append.1 hq with hq | hq
  · exact mem_append_left _ hq
  · exact mem_append_right _ (mem_cons_of_mem _ hq)

lemma Inv.step (h : s.Inv pd pu) (ev : Event) (hplain : s.Plain cfg ev) :
    ∃ pd' pu', (s.step cfg ev).Inv pd' pu' := by
  cases ev with
  | fromTarget pkt now =>
    refine ⟨pd ++ [pkt.1], pu, ?_⟩
    have htarget : ¬ (s.target cfg pkt now).1 > pkt.1.length := by
      unfold target
      cases hsh : s.shaper with
      | none => exact by dsimp only; omega
      | some sh =>
        have hzero := (sh.target_eq_zero_iff pkt cfg.mtu now).2 (hplain sh hsh)
        dsimp only
        omega
    rw [Flow.step, if_neg (by simp [h.up_to_now])]
    dsimp only
    rw [if_neg htarget]
    refine ⟨h.up_to_now, ?_, h.up, by simp [h.fromTarget], h.fromLocal, ?_⟩
    · rw [h.down, framed_write]
    intro q hq
    have hcases : q = pkt.1 ∨ q ∈ pd ++ pu := by
      simp only [mem_append, mem_singleton] at hq ⊢
      tauto
    rcases hcases with rfl | hq
    · exact pkt.2
    · exact h.short q hq
  | fromLocal pkt =>
    refine ⟨pd, pu ++ [pkt.1], ?_⟩
    rw [Flow.step, if_neg (by simp [h.up_to_now])]
    refine ⟨h.up_to_now, h.down, ?_, h.fromTarget, by simp [h.fromLocal], ?_⟩
    · rw [h.up, framed_write]
    · intro q hq
      rw [← append_assoc, mem_append, mem_singleton] at hq
      rcases hq with hq | rfl
      · exact h.short q hq
      · exact pkt.2
  | readFlow =>
    cases pd with
    | cons p pd => exact ⟨pd, pu, h.readFlow⟩
    | nil =>
      refine ⟨[], pu, ?_⟩
      rw [Flow.step, if_neg (by simp [h.up_to_now])]
      rw [h.down, readDatagram_framed_nil]
      exact h
  | relay =>
    cases pu with
    | cons p pu => exact ⟨pd, pu, h.relay⟩
    | nil =>
      refine ⟨pd, [], ?_⟩
      rw [Flow.step, if_neg (by simp [h.up_to_now])]
      rw [h.up, readDatagram_framed_nil]
      exact h
  | other pkt now =>
    refine ⟨pd, pu, ?_⟩
    rw [Flow.step, if_neg (by simp [h.up_to_now])]
    exact { h with }

/-- Reading on, until nothing is under way. -/
lemma Inv.drain_down (h : s.Inv pd pu) :
    (run (Flow.step cfg) s (List.replicate pd.length .readFlow)).toLocal = s.fromTarget := by
  induction pd generalizing s with
  | nil => exact (by simpa using h.fromTarget.symm)
  | cons p pd ih =>
    have hstep := ih (show (s.step cfg .readFlow).Inv pd pu from h.readFlow)
    rw [length_cons, replicate_succ]
    refine (show _ = _ from hstep).trans ?_
    rw [Flow.step, if_neg (by simp [h.up_to_now])]
    rw [h.down, readDatagram_framed (h.short p (by simp))]

lemma Inv.drain_up (h : s.Inv pd pu) :
    (run (Flow.step cfg) s (List.replicate pu.length .relay)).toTarget = s.fromLocal := by
  induction pu generalizing s with
  | nil => exact (by simpa using h.fromLocal.symm)
  | cons p pu ih =>
    have hstep := ih (show (s.step cfg .relay).Inv pd pu from h.relay)
    rw [length_cons, replicate_succ]
    refine (show _ = _ from hstep).trans ?_
    rw [Flow.step, if_neg (by simp [h.up_to_now])]
    rw [h.up, readDatagram_framed (h.short p (by simp))]

lemma Inv.carried (h : s.Inv pd pu) : s.Carried cfg := by
  refine ⟨h.up_to_now, ⟨pd, h.fromTarget.symm⟩, ⟨pu, h.fromLocal.symm⟩, ?_, ?_⟩
  · rw [show s.fromTarget.length - s.toLocal.length = pd.length by simp [h.fromTarget]]
    exact h.drain_down
  · rw [show s.fromLocal.length - s.toTarget.length = pu.length by simp [h.fromLocal]]
    exact h.drain_up

end Flow

/-- **Datagrams are carried unchanged.**  For every configuration, in every run in which no datagram
of the target is one that the shaper pads: what comes out at either end is what went in at the
other, octet for octet and in order, and nothing is lost. -/
theorem datagrams_unchanged (cfg : ServerConfig) (evs : List Flow.Event)
    (hplain : Along (Flow.step cfg) (Flow.Plain cfg) (Flow.new cfg) evs) :
    Always (Flow.step cfg) (Flow.Carried cfg) (Flow.new cfg) evs := by
  refine always_of_inv (fun s => ∃ pd pu, s.Inv pd pu) ?_ ?_ _ evs ?_ hplain
  · rintro s ev ⟨pd, pu, h⟩ hev
    exact h.step ev hev
  · rintro s ⟨pd, pu, h⟩
    exact h.carried
  · exact ⟨[], [], rfl, rfl, rfl, rfl, rfl, by simp⟩

/-! ## A datagram that looks like a packet -/

/-- Twenty octets of which the first is `0x45`. -/
def lookalike : UDPPayload := ⟨0x45 :: List.replicate 19 0, by decide⟩

/-- Nothing of this datagram is a flow's. -/
def query : UDPPayload := ⟨[1, 2, 3], by decide⟩

/-- A budget of a hundred octets and an MTU of thirty. -/
def shaping : ServerConfig := ⟨100, 30⟩

theorem datagrams_unchanged_query :
    Always (Flow.step shaping) (Flow.Carried shaping) (Flow.new shaping)
      [.fromLocal lookalike, .fromTarget query 0, .readFlow, .relay] :=
  datagrams_unchanged shaping _
    ⟨trivial, fun _ _ => .inr (.inr (.inr nofun)), trivial, trivial, trivial⟩

/-- **A padded datagram.**  The target's twenty octets come to the local sender as thirty. -/
theorem datagram_padded :
    (run (Flow.step shaping) (Flow.new shaping) [.fromTarget lookalike 0, .readFlow]).fromTarget =
        [lookalike.1] ∧
      (run (Flow.step shaping) (Flow.new shaping) [.fromTarget lookalike 0, .readFlow]).toLocal =
        [lookalike.1 ++ List.replicate 10 0] ∧
      ¬ Always (Flow.step shaping) (Flow.Carried shaping) (Flow.new shaping)
        [.fromTarget lookalike 0, .readFlow] := by
  have hin : (run (Flow.step shaping) (Flow.new shaping)
      [.fromTarget lookalike 0, .readFlow]).fromTarget = [lookalike.1] := by decide
  have hout : (run (Flow.step shaping) (Flow.new shaping)
      [.fromTarget lookalike 0, .readFlow]).toLocal = [lookalike.1 ++ replicate 10 0] := by
    decide
  refine ⟨hin, hout, fun h => ?_⟩
  have hcarried : Flow.Carried shaping (run (Flow.step shaping) (Flow.new shaping)
      [.fromTarget lookalike 0, .readFlow]) := h.last
  obtain ⟨-, hpre, -⟩ := hcarried
  rw [hin, hout] at hpre
  exact absurd hpre (by decide)

end Veepin.Masque
