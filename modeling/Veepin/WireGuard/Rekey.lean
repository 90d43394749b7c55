import Veepin.WireGuard.Server

/-!
# Rekeying a WireGuard tunnel

The client's `handshakeOnce`, `doHandshake`, `awaitReply` and `deliverResponse`
(`internal/wireguard/client.go`) against the server's `handleInitiation`, over a network that loses
and delays.  A session has one name at both ends: the number of the attempt it comes from.  The
server rotates its two slots when it accepts an initiation; the client rotates its own when the
response arrives, and only if it still waits on that attempt.

* `Rekey.Live` — each end can open what the other seals, or will as soon as the response arrives;
* `Rekey.InStep` — both ends have one current session, or the server is one attempt ahead, whose
  response is on its way: `inStep_step`;
* `rekey_keeps_tunnel` — the tunnel stays live in every run in which the server accepts only the
  attempt the client waits on, and what it has accepted the client waits for and receives.
-/

namespace Veepin.WireGuard

open List

/-- One `Initiator`: a number of its own, the index of its initiation, and the timestamp. -/
structure Attempt where
  id : ℕ
  localIdx : UInt32
  ts : Bytes
  deriving DecidableEq, Repr

/-- The client's key store and the attempt it waits on (`pending`), the server's record of the
client, the messages on their way, and the number of attempts so far. -/
structure Rekey where
  client : Tunnel ℕ
  pending : Option Attempt
  peer : Peer ℕ
  initiations : List Attempt
  responses : List Attempt
  attempts : ℕ
  deriving DecidableEq

inductive RekeyEvent
  /-- A pass of `doHandshake`: the first, or after the timer, a cookie or an odd reply. -/
  | initiate (localIdx : UInt32) (ts : Bytes)
  /-- `doHandshake` returns without a keypair. -/
  | giveUp
  /-- The server receives an initiation, and is not too busy to look at it. -/
  | receiveInitiation (a : Attempt) (admitted : Bool)
  /-- The client receives a response. -/
  | receiveResponse (a : Attempt)
  | loseInitiation (a : Attempt)
  | loseResponse (a : Attempt)
  deriving DecidableEq

/-- The server accepts an initiation: a new session and a response. -/
def Rekey.respond (s : Rekey) (a : Attempt) : Rekey :=
  { s with
    peer := (s.peer.rotate a.ts a.id).1, initiations := s.initiations.erase a
    responses := a :: s.responses }

/-- `deliverResponse`, and `awaitReply` with what it gets: a response to the attempt waited on
gives a session, one to another attempt under the same index an error, and any other is dropped. -/
def Rekey.deliverResponse (s : Rekey) (a : Attempt) : Rekey :=
  let s := { s with responses := s.responses.erase a }
  match s.pending with
  | none => s
  | some p =>
    if p.localIdx ≠ a.localIdx then s
    else if p ≠ a then { s with pending := none }
    else { s with client := (s.client.install a.id).1, pending := none }

def Rekey.step (s : Rekey) : RekeyEvent → Rekey
  | .initiate localIdx ts =>
    let a : Attempt := ⟨s.attempts, localIdx, ts⟩
    { s with
      pending := some a, initiations := a :: s.initiations, attempts := s.attempts + 1 }
  | .giveUp => { s with pending := none }
  | .receiveInitiation a admitted =>
    if a ∈ s.initiations then
      if admitted ∧ s.peer.fresh a.ts then s.respond a
      else { s with initiations := s.initiations.erase a }
    else s
  | .receiveResponse a => if a ∈ s.responses then s.deliverResponse a else s
  | .loseInitiation a => { s with initiations := s.initiations.erase a }
  | .loseResponse a => { s with responses := s.responses.erase a }

/-- After the first handshake, attempt 1: attempt 0 may have reached the server before, and messages
of earlier attempts may be on their way. -/
def Rekey.established (previous : Option ℕ) (lastTS : Bytes)
    (initiations responses : List Attempt) : Rekey where
  client := { current := 1 }
  pending := none
  peer := { lastTS, tunnel := some { current := 1, previous } }
  initiations := initiations
  responses := responses
  attempts := 2

/-- **The tunnel is live.**  The server holds the session the client seals under; the client holds
the one the server seals under, or the response for it is on its way to the attempt waited on. -/
def Rekey.Live (s : Rekey) : Prop :=
  ∃ t ∈ s.peer.tunnel, t.Holds s.client.current ∧
    (s.client.Holds t.current ∨ ∃ a ∈ s.pending, a.id = t.current ∧ a ∈ s.responses)

instance (s : Rekey) : Decidable s.Live :=
  inferInstanceAs (Decidable (∃ t ∈ s.peer.tunnel, _ ∧ (_ ∨ ∃ a ∈ s.pending, _)))

/-- Both ends seal under one session. -/
def Rekey.Agreed (s : Rekey) : Prop := s.peer.tunnel.map Tunnel.current = some s.client.current

instance (s : Rekey) : Decidable s.Agreed := inferInstanceAs (Decidable (_ = _))

/-- The condition on the moves.  The client starts and ends an attempt, and the server accepts one,
while both ends agree; the server accepts only the attempt waited on; the response to that attempt
is not lost, and no other one with its index arrives. -/
def Rekey.Smooth (s : Rekey) : RekeyEvent → Prop
  | .initiate _ _ | .giveUp => s.Agreed
  | .receiveInitiation a admitted =>
    a ∈ s.initiations → admitted = true → s.peer.fresh a.ts = true →
      s.Agreed ∧ s.pending = some a
  | .receiveResponse a => ∀ p ∈ s.pending, p.localIdx = a.localIdx → p = a
  | .loseInitiation _ => True
  | .loseResponse a => s.pending ≠ some a

instance (s : Rekey) (e : RekeyEvent) : Decidable (s.Smooth e) := by
  cases e <;> unfold Rekey.Smooth <;> infer_instance

/-! ## What the moves keep -/

/-- The server has not answered the attempt waited on. -/
def Rekey.Even (s : Rekey) : Prop := s.Agreed ∧ ∀ p ∈ s.pending, p ∉ s.responses

/-- The server is one attempt ahead. -/
def Rekey.Ahead (s : Rekey) : Prop :=
  ∃ t a, s.peer.tunnel = some t ∧ s.pending = some a ∧ t.current = a.id ∧
    t.previous = some s.client.current ∧ a ∈ s.responses

/-- **The invariant.**  What is on its way belongs to an attempt already made. -/
structure Rekey.InStep (s : Rekey) : Prop where
  made : ∀ a ∈ s.initiations ++ s.responses, a.id < s.attempts
  state : s.Even ∨ s.Ahead

variable {s : Rekey}

lemma Rekey.InStep.live (h : s.InStep) : s.Live := by
  rcases h.state with h | ⟨t, a, ht, hp, hcur, hprev, hmem⟩
  · obtain ⟨t, ht, hcur⟩ := Option.map_eq_some_iff.1 h.1
    exact ⟨t, ht, .inl hcur, .inl (.inl hcur.symm)⟩
  · exact ⟨t, ht, .inr hprev, .inr ⟨a, hp, hcur.symm, hmem⟩⟩

variable {a : Attempt}

/-- When both ends agree and the server accepts the attempt waited on, it is one ahead. -/
lemma Rekey.Agreed.respond (h : s.Agreed) (hp : s.pending = some a) : (s.respond a).Ahead := by
  obtain ⟨t, ht, hcur⟩ := Option.map_eq_some_iff.1 h
  refine ⟨(t.install a.id).1, a, ?_, hp, rfl, congrArg some hcur, mem_cons_self⟩
  rw [Rekey.respond, Peer.rotate, ht]

/-- Messages that are lost or dropped. -/
lemma Rekey.Even.erase (h : s.Even) (a : Attempt) :
    Rekey.Even { s with responses := s.responses.erase a } :=
  ⟨h.1, fun p hp hmem => h.2 p hp (mem_of_mem_erase hmem)⟩

/-- When the response arrives, both ends agree again. -/
lemma Rekey.Ahead.deliverResponse (h : s.Ahead)
    (hsame : ∀ p ∈ s.pending, p.localIdx = a.localIdx → p = a) :
    (s.deliverResponse a).Even ∨ (s.deliverResponse a).Ahead := by
  obtain ⟨t, p, ht, hp, hcur, hprev, hmem⟩ := h
  simp only [Rekey.deliverResponse, hp]
  split_ifs with hidx hpa
  · refine .inr ⟨t, p, ht, rfl, hcur, hprev, ?_⟩
    exact (mem_erase_of_ne fun he => hidx (congrArg Attempt.localIdx he)).2 hmem
  · exact absurd (hsame p hp (not_not.1 hidx)) hpa
  · obtain rfl := not_not.1 hpa
    exact .inl ⟨Option.map_eq_some_iff.2 ⟨t, ht, hcur⟩, fun p hp => nomatch hp⟩

/-- A response that comes while the attempt waited on is unanswered is for another. -/
lemma Rekey.Even.deliverResponse (h : s.Even) (hmem : a ∈ s.responses) :
    (s.deliverResponse a).Even := by
  have hdropped := h.erase a
  cases hp : s.pending with
  | none =>
    simp only [Rekey.deliverResponse, hp] at hdropped ⊢
    exact hdropped
  | some p =>
    simp only [Rekey.deliverResponse, hp] at hdropped ⊢
    split_ifs with hidx hpa
    · exact hdropped
    · exact ⟨h.1, fun p hp => nomatch hp⟩
    · obtain rfl := not_not.1 hpa
      exact absurd hmem (h.2 p hp)

lemma deliverResponse_messages (s : Rekey) (a : Attempt) :
    (s.deliverResponse a).initiations = s.initiations ∧
      (s.deliverResponse a).responses = s.responses.erase a ∧
      (s.deliverResponse a).attempts = s.attempts := by
  cases hp : s.pending with
  | none => simp [Rekey.deliverResponse, hp]
  | some p =>
    simp only [Rekey.deliverResponse, hp]
    split_ifs <;> exact ⟨rfl, rfl, rfl⟩

/-- No move makes up a message of an attempt that was not made. -/
lemma made_step (s : Rekey) (e : RekeyEvent)
    (h : ∀ a ∈ s.initiations ++ s.responses, a.id < s.attempts) :
    ∀ a ∈ (s.step e).initiations ++ (s.step e).responses, a.id < (s.step e).attempts := by
  have hinit : ∀ a ∈ s.initiations, a.id < s.attempts := fun a ha =>
    h a (mem_append_left _ ha)
  have hresp : ∀ a ∈ s.responses, a.id < s.attempts := fun a ha =>
    h a (mem_append_right _ ha)
  intro a ha
  rw [mem_append] at ha
  cases e with
  | initiate localIdx ts =>
    rcases ha with ha | ha
    · rcases mem_cons.1 ha with rfl | ha
      · exact Nat.lt_succ_self _
      · exact Nat.lt_succ_of_lt (hinit a ha)
    · exact Nat.lt_succ_of_lt (hresp a ha)
  | giveUp => exact ha.elim (hinit a) (hresp a)
  | receiveInitiation b admitted =>
    simp only [Rekey.step] at ha ⊢
    split_ifs at ha ⊢ with hb
    · rcases ha with ha | ha
      · exact hinit a (mem_of_mem_erase ha)
      · rcases mem_cons.1 ha with rfl | ha
        · exact hinit a hb
        · exact hresp a ha
    · exact ha.elim (fun ha => hinit a (mem_of_mem_erase ha)) (hresp a)
    · exact ha.elim (hinit a) (hresp a)
  | receiveResponse b =>
    simp only [Rekey.step] at ha ⊢
    split_ifs at ha ⊢
    · obtain ⟨h₁, h₂, h₃⟩ := deliverResponse_messages s b
      rw [h₁, h₂] at ha
      rw [h₃]
      exact ha.elim (hinit a) fun ha => hresp a (mem_of_mem_erase ha)
    · exact ha.elim (hinit a) (hresp a)
  | loseInitiation b => exact ha.elim (fun ha => hinit a (mem_of_mem_erase ha)) (hresp a)
  | loseResponse b => exact ha.elim (hinit a) fun ha => hresp a (mem_of_mem_erase ha)

lemma inStep_step (s : Rekey) (e : RekeyEvent) (h : s.InStep) (hsmooth : s.Smooth e) :
    (s.step e).InStep := by
  refine ⟨made_step s e h.made, ?_⟩
  cases e with
  | initiate localIdx ts =>
    -- the new attempt has a number that nothing on its way has
    refine .inl ⟨hsmooth, fun p hp hmem => ?_⟩
    obtain rfl := Option.some.inj hp
    exact absurd (h.made _ (mem_append_right _ hmem)) (lt_irrefl _)
  | giveUp => exact .inl ⟨hsmooth, fun p hp => nomatch hp⟩
  | receiveInitiation a admitted =>
    simp only [Rekey.step]
    split_ifs with hmem haccept
    · obtain ⟨hagreed, hp⟩ := hsmooth hmem haccept.1 haccept.2
      exact .inr (hagreed.respond hp)
    · exact h.state
    · exact h.state
  | receiveResponse a =>
    simp only [Rekey.step]
    split_ifs with hmem
    · exact h.state.elim (fun heven => .inl (heven.deliverResponse hmem))
        fun hahead => hahead.deliverResponse hsmooth
    · exact h.state
  | loseInitiation a => exact h.state
  | loseResponse a =>
    refine h.state.imp (fun heven => heven.erase a) ?_
    rintro ⟨t, p, ht, hp, hcur, hprev, hmem⟩
    have hne : p ≠ a := fun he => hsmooth (he ▸ hp)
    exact ⟨t, p, ht, hp, hcur, hprev, (mem_erase_of_ne hne).2 hmem⟩

/-- **Rekeys keep the tunnel.**  In every run after the first handshake whose moves meet the
condition, the tunnel is live in every state. -/
theorem rekey_keeps_tunnel (previous : Option ℕ) (lastTS : Bytes)
    (initiations responses : List Attempt) (hold : ∀ a ∈ initiations ++ responses, a.id < 2)
    (es : List RekeyEvent)
    (hsmooth : Along Rekey.step Rekey.Smooth
      (.established previous lastTS initiations responses) es) :
    Always Rekey.step Rekey.Live (.established previous lastTS initiations responses) es :=
  always_of_inv Rekey.InStep inStep_step (fun _ h => h.live) _ _
    ⟨hold, .inl ⟨rfl, fun _ hp => nomatch hp⟩⟩ hsmooth

/-- A timestamp of some second. -/
def second (n : UInt8) : Bytes := List.replicate 11 0 ++ [n]

/-- A rekey whose first initiation is lost. -/
theorem rekey_keeps_tunnel_retry : Always Rekey.step Rekey.Live (.established none (second 1) [] [])
      [.initiate 7 (second 2), .loseInitiation ⟨2, 7, second 2⟩, .initiate 8 (second 3),
        .receiveInitiation ⟨3, 8, second 3⟩ true, .receiveResponse ⟨3, 8, second 3⟩] :=
  rekey_keeps_tunnel none (second 1) [] [] (fun _ h => nomatch h) _ (by decide)

/-- Two initiations arrive and the first response does not: the server no longer has the session
under which the client seals. -/
theorem rekey_cuts_tunnel : ¬ Rekey.Live (run Rekey.step (.established none (second 1) [] [])
      [.initiate 7 (second 2), .receiveInitiation ⟨2, 7, second 2⟩ true,
        .loseResponse ⟨2, 7, second 2⟩, .initiate 8 (second 3),
        .receiveInitiation ⟨3, 8, second 3⟩ true]) := by
  decide

end Veepin.WireGuard
