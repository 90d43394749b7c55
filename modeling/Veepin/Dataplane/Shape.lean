import Veepin.Core.Bytes
import Veepin.Core.Maps

/-!
# Downstream flow shaping

`shape.go`: how far an outbound packet is padded.  A flow has a budget, which silence restores.

* `Shaper.target` — `Target`, with the clock's reading as an argument;
* `Shaper.target_eq_zero_iff` — which packets are sent as they are.
-/

namespace Veepin.Dataplane

structure ShapeConfig where
  bytes : ℤ
  idle : ℤ := 0
  maxFlows : ℤ := 0

def defaultShapeIdle : ℤ := 30 * 1000000000

def defaultShapeMaxFlows : ℤ := 4096

def sweepEvery : ℕ := 1024

def ShapeConfig.withDefaults (c : ShapeConfig) : ShapeConfig :=
  { c with
    idle := if c.idle ≤ 0 then defaultShapeIdle else c.idle
    maxFlows := if c.maxFlows ≤ 0 then defaultShapeMaxFlows else c.maxFlows }

structure FlowKey where
  src : Bytes
  dst : Bytes
  sport : ℕ
  dport : ℕ
  proto : UInt8
  deriving DecidableEq

structure FlowState where
  remaining : ℤ
  lastSeen : ℤ

structure Shaper where
  cfg : ShapeConfig
  flows : AList (fun _ : FlowKey => FlowState) := ∅
  since : ℕ := 0

def portsOf (proto : UInt8) (rest : Bytes) : ℕ × ℕ :=
  if proto = 6 ∨ proto = 17 ∨ proto = 132 then
    if rest.length < 4 then (0, 0) else (be16 rest 0, be16 rest 2)
  else (0, 0)

def flowKeyOf (pkt : Bytes) : Option FlowKey :=
  if pkt.length < 1 then none
  else if pkt.headD 0 >>> 4 = 4 then
    let ihl := (pkt.headD 0 &&& 0x0f).toNat * 4
    if pkt.length < 20 then none
    else if ihl < 20 ∨ ihl > pkt.length then none
    else
      let proto := pkt.getD 9 0
      let ports := if be16 pkt 6 &&& 0x1fff = 0 then portsOf proto (pkt.drop ihl) else (0, 0)
      some ⟨(pkt.drop 12).take 4, (pkt.drop 16).take 4, ports.1, ports.2, proto⟩
  else if pkt.headD 0 >>> 4 = 6 then
    if pkt.length < 40 then none
    else
      let proto := pkt.getD 6 0
      let ports := portsOf proto (pkt.drop 40)
      some ⟨(pkt.drop 8).take 16, (pkt.drop 24).take 16, ports.1, ports.2, proto⟩
  else none

/-- `TrimToIP`: the octets that the header of an inner packet declares, or nil. -/
def trimToIP (plain : Bytes) : Option Bytes :=
  if plain = [] then none
  else if plain.headD 0 >>> 4 = 4 then
    let total := be16 plain 2
    if plain.length < 20 ∨ total < 20 ∨ total > plain.length then none else some (plain.take total)
  else if plain.headD 0 >>> 4 = 6 then
    let total := 40 + be16 plain 4
    if plain.length < 40 ∨ total > plain.length then none else some (plain.take total)
  else none

/-- An inner packet of either family that is as long as its header declares. -/
def WellFormed (pkt : Bytes) : Prop :=
  pkt.headD 0 >>> 4 = 4 ∧ 20 ≤ pkt.length ∧ be16 pkt 2 = pkt.length ∨
    pkt.headD 0 >>> 4 = 6 ∧ 40 ≤ pkt.length ∧ 40 + be16 pkt 4 = pkt.length

/-- What follows a well-formed packet is cut off. -/
lemma trimToIP_append {pkt : Bytes} (h : WellFormed pkt) (filler : Bytes) :
    trimToIP (pkt ++ filler) = some pkt := by
  have hne : pkt ≠ [] := by
    rintro rfl
    simp [WellFormed] at h
  have hhead : (pkt ++ filler).headD 0 = pkt.headD 0 := by
    cases pkt with
    | nil => exact absurd rfl hne
    | cons => rfl
  have hlen : (pkt ++ filler).length = pkt.length + filler.length := List.length_append
  rw [trimToIP, if_neg (by simp [hne]), hhead]
  rcases h with ⟨hv, hmin, htotal⟩ | ⟨hv, hmin, htotal⟩
  · rw [if_pos hv, be16_append (by omega), htotal]
    dsimp only
    rw [if_neg (by omega), List.take_left]
  · rw [if_neg (by rw [hv]; decide), if_pos hv, be16_append (by omega), htotal]
    dsimp only
    rw [if_neg (by omega), List.take_left]

namespace Shaper

/-- `NewShaper`. -/
def new (cfg : ShapeConfig) : Shaper where
  cfg := cfg.withDefaults

def sweep (s : Shaper) (now : ℤ) : Shaper :=
  { s with
    flows := s.flows.entries.foldl (fun m e =>
      if now - e.2.lastSeen ≥ s.cfg.idle then m.erase e.1 else m) s.flows }

def store (s : Shaper) (key : FlowKey) (st : FlowState) : Shaper :=
  let flows := if key ∉ s.flows ∧ (mapSize s.flows : ℤ) ≥ s.cfg.maxFlows then ∅ else s.flows
  let s := { s with flows := flows.insert key st, since := s.since + 1 }
  if s.since ≥ sweepEvery then { s with since := 0 }.sweep st.lastSeen else s

/-- The flow as its next packet finds it. -/
def flowAt (s : Shaper) (key : FlowKey) (now : ℤ) : FlowState :=
  match s.flows.lookup key with
  | none => ⟨s.cfg.bytes, now⟩
  | some st =>
    if now - st.lastSeen ≥ s.cfg.idle then ⟨s.cfg.bytes, now⟩ else ⟨st.remaining, now⟩

def target (s : Shaper) (pkt : Bytes) (mtu now : ℤ) : ℤ × Shaper :=
  if s.cfg.bytes ≤ 0 ∨ mtu ≤ 0 then (0, s)
  else
    match flowKeyOf pkt with
    | none => (0, s)
    | some key =>
      let st := s.flowAt key now
      let shape := st.remaining > 0
      let st :=
        if shape then { st with remaining := st.remaining - max (pkt.length : ℤ) mtu } else st
      (if ¬ shape ∨ (pkt.length : ℤ) ≥ mtu then 0 else mtu, s.store key st)

/-- The flow has spent its budget, and has not been silent since. -/
def Spent (s : Shaper) (key : FlowKey) (now : ℤ) : Prop :=
  ∃ st, s.flows.lookup key = some st ∧ st.remaining ≤ 0 ∧ now - st.lastSeen < s.cfg.idle

/-- A packet that is sent as it is: shaping is off, the packet belongs to no flow, it is as long as
padding would make it, or its flow has spent the budget. -/
def Unshaped (s : Shaper) (pkt : Bytes) (mtu now : ℤ) : Prop :=
  s.cfg.bytes ≤ 0 ∨ mtu ≤ 0 ∨ (pkt.length : ℤ) ≥ mtu ∨
    ∀ key, flowKeyOf pkt = some key → s.Spent key now

lemma spent_iff {s : Shaper} (hbytes : ¬ s.cfg.bytes ≤ 0) (key : FlowKey) (now : ℤ) :
    s.Spent key now ↔ (s.flowAt key now).remaining ≤ 0 := by
  unfold Spent flowAt
  cases hst : s.flows.lookup key with
  | none => simpa using hbytes
  | some st =>
    simp only [Option.some.injEq, exists_eq_left']
    split_ifs with hidle
    · simp only [hbytes, iff_false]
      omega
    · simp only [and_iff_left_iff_imp]
      omega

/-- **Which packets are padded.** -/
lemma target_eq_zero_iff (s : Shaper) (pkt : Bytes) (mtu now : ℤ) :
    (s.target pkt mtu now).1 = 0 ↔ s.Unshaped pkt mtu now := by
  unfold target Unshaped
  by_cases hoff : s.cfg.bytes ≤ 0 ∨ mtu ≤ 0
  · rw [if_pos hoff]
    exact iff_of_true rfl (hoff.elim .inl fun h => .inr (.inl h))
  rw [if_neg hoff]
  obtain ⟨hbytes, hmtu⟩ := not_or.1 hoff
  cases hkey : flowKeyOf pkt with
  | none => exact iff_of_true rfl (.inr (.inr (.inr nofun)))
  | some key =>
    have hspent : (∀ k, some key = some k → s.Spent k now) ↔ (s.flowAt key now).remaining ≤ 0 := by
      simp [spent_iff hbytes]
    rw [hspent]
    dsimp only
    split_ifs with hcase <;> omega

end Shaper

end Veepin.Dataplane
