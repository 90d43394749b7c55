import Veepin.Cisco.Server
import Veepin.L2TP.Server
import Veepin.Pulse.Server

/-!
# Admission slots of the L2TP, Cisco and pulse servers

A slot of the gate stands for a peer that has been let in.  The three servers take one for every
new peer or connection and none of them ever calls `Done`: not when the handshake completes, not
when it fails, not when the peer goes.  So the slots a server holds stay within the peers it has
exactly in the runs in which no peer ever goes (`admission_slots_iff`), and after `MaxHalfOpen`
peers have come and gone nobody is admitted again.
-/

namespace Veepin

/-- The slots taken are within the peers that exist; so with no peer left, a source within its
rate is admitted. -/
def SlotsHeld (gate : Gate) (live : ℕ) : Prop :=
  gate.halfOpen ≤ live ∧
    (live = 0 → ∀ source now, gate.withinRate source now = true →
      (gate.tryAdmit source now).2 = .admitted)

lemma slotsHeld_iff {gate : Gate} {live : ℕ} : SlotsHeld gate live ↔ gate.halfOpen ≤ live := by
  constructor
  · exact fun h => h.1
  · intro h
    refine ⟨h, fun h0 source now hr => Gate.tryAdmit_of_idle (by omega) hr⟩

/-- **Slots are held exactly while nobody leaves.**  For each of the three servers and every run
from its start: the slots stay within the peers (connections) that exist, in every state, if and
only if no step of the run removes a peer or ends a connection. -/
theorem admission_slots_iff (pool : AddrPool) (start : ℤ) :
    (∀ es, Always L2TP.Server.step (fun s => SlotsHeld s.table.gate s.table.live)
          (L2TP.newServer pool start) es ↔
        Along L2TP.Server.step (fun s e => ¬ s.Ends e) (L2TP.newServer pool start) es) ∧
      (∀ es, Always Cisco.Server.step (fun s => SlotsHeld s.table.gate s.table.live)
          (Cisco.newServer pool start) es ↔
        Along Cisco.Server.step (fun s e => ¬ s.Ends e) (Cisco.newServer pool start) es) ∧
      ∀ es, Always Pulse.Server.step (fun s => SlotsHeld s.gate s.live)
          (Pulse.newServer pool start) es ↔
        Along Pulse.Server.step (fun s e => ¬ s.Ends e) (Pulse.newServer pool start) es := by
  simp only [slotsHeld_iff]
  exact ⟨fun es => always_slots_le_iff (fun s e he h => s.step_of_not_ends e he h)
      (fun s e he => s.step_of_ends e he) _ es rfl,
    fun es => always_slots_le_iff (fun s e he h => s.step_of_not_ends e he h)
      (fun s e he => s.step_of_ends e he) _ es rfl,
    fun es => always_slots_le_iff (fun s e he h => s.step_of_not_ends e he h)
      (fun s e he => s.step_of_ends e he) _ es rfl⟩

/-! ## One peer that comes and goes -/

/-- A source address. -/
def someClient : UDPAddr := { ip := [192, 0, 2, 1], port := 500 }

/-- **A slot outlives its peer** on each server: a new peer whose handshake fails (on the pulse
server, a connection whose authentication fails) leaves one slot taken and no peer. -/
theorem slot_leaked : ¬ Always L2TP.Server.step (fun s => SlotsHeld s.table.gate s.table.live)
        (L2TP.newServer smallPool 0)
        [.ike (List.replicate 28 0) someClient false false 1, .gone 0] ∧
      ¬ Always Cisco.Server.step (fun s => SlotsHeld s.table.gate s.table.live)
        (Cisco.newServer smallPool 0)
        [.ike (List.replicate 28 0) someClient false false 1, .failed 0] ∧
      ¬ Always Pulse.Server.step (fun s => SlotsHeld s.gate s.live)
        (Pulse.newServer smallPool 0) [.accept someClient 1, .authFailed 0] := by
  simp only [slotsHeld_iff]
  decide +kernel

end Veepin
