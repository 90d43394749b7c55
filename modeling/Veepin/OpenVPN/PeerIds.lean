import Veepin.Core.Bytes
import Veepin.OpenVPN.Server

/-!
# Peer-ids of the OpenVPN server

`handshake` numbers its clients with a 32-bit counter, `makeHeader` (`internal/openvpn/data`) writes
24 bits of the number into every data packet, and `serverDataDemux` reads 24 bits back and has the
pump look them up as an inbound key, which is the whole number.

* `serverDataDemux_makeHeader` — what comes back from a header is the number modulo 2^24;
* `Server.Numbered` — the numbers given out, all different; `numbered_step` keeps it;
* `peer_ids_identify_iff` — packets lead to their own client exactly up to 2^24 - 1 numbers.
-/

namespace Veepin.OpenVPN

open List Function Option Server

/-- `makeHeader`: opcode `P_DATA_V2` and key id in one octet, then the peer-id in three. -/
def makeHeader (peerID : UInt32) (keyID : UInt8) : Bytes :=
  [UInt8.ofNat (9 * 8 + keyID.toNat % 8), UInt8.ofNat (peerID.toNat / 65536)] ++
    putBE16 peerID.toNat

def serverDataDemux (pkt : Bytes) : Option ℕ :=
  match pkt with
  | b₀ :: b₁ :: b₂ :: b₃ :: _ =>
    if b₀.toNat / 8 = 9 then some (b₁.toNat * 65536 + b₂.toNat * 256 + b₃.toNat) else none
  | _ => none

/-- **The header.**  24 bits of the peer-id come back. -/
lemma serverDataDemux_makeHeader (peerID : UInt32) (keyID : UInt8) (rest : Bytes) :
    serverDataDemux (makeHeader peerID keyID ++ rest) = some (peerID.toNat % 2 ^ 24) := by
  have hop : (9 * 8 + keyID.toNat % 8) % 256 / 8 = 9 := by omega
  simp only [makeHeader, putBE16, cons_append, nil_append, serverDataDemux,
    UInt8.toNat_ofNat', hop, if_true, some.injEq]
  omega

variable {A : Type*}

/-- **Peer-ids identify clients.**  No two clients with a tunnel in the pump have one inbound key,
and a packet under the header of a client is mapped to its inbound key. -/
structure Server.PeerIdsIdentify (s : Server A) : Prop where
  apart : ∀ n m c c', s.sessions n = some c → s.sessions m = some c' → c.inPump = true →
    c'.inPump = true → c.peerID = c'.peerID → n = m
  mapped : ∀ n c, s.sessions n = some c → c.inPump = true → ∀ keyID rest,
    serverDataDemux (makeHeader c.peerID keyID ++ rest) = some c.peerID.toNat

/-! ## Below 2^24 -/

/-- The numbers given out: those of clients with an address are different and at most the
counter. -/
structure Server.Numbered (s : Server A) : Prop where
  counter : s.nextPeerID.toNat = s.assigned % 2 ^ 32
  holder : ∀ n c, s.sessions n = some c → c.inPump = true ∨ c.phase = .replying →
    c.assignedIP.isSome
  range : ∀ n c, s.sessions n = some c → c.assignedIP.isSome → c.peerID.toNat ≤ s.assigned
  inj : ∀ n m c c', s.sessions n = some c → s.sessions m = some c' → c.assignedIP.isSome →
    c'.assignedIP.isSome → c.peerID = c'.peerID → n = m

variable {s : Server A}

lemma Server.Numbered.identify (h : s.Numbered) (hs : s.assigned < 2 ^ 24) : s.PeerIdsIdentify where
  apart n m c c' hn hm hc hc' :=
    h.inj n m c c' hn hm (h.holder n c hn (.inl hc)) (h.holder m c' hm (.inl hc'))
  mapped n c hn hc keyID rest := by
    have := h.range n c hn (h.holder n c hn (.inl hc))
    rw [serverDataDemux_makeHeader, Nat.mod_eq_of_lt (this.trans_lt hs)]

/-- A turn gives out no number, and a tunnel only to a client that was to be answered. -/
lemma turn_number (now : ℕ) (c : Client A) (t : Turn) :
    (c.turn now t).peerID = c.peerID ∧ (c.turn now t).assignedIP = c.assignedIP ∧
      ((c.turn now t).inPump = true ∨ (c.turn now t).phase = .replying →
        c.inPump = true ∨ c.phase = .replying) := by
  unfold Client.turn Client.onTick Client.close
  split <;> (try split_ifs) <;> (try split) <;> simp_all

variable [DecidableEq A]

lemma assigned_le_step (s : Server A) (e : Event A) : s.assigned ≤ (s.step e).assigned := by
  cases e with
  | opener a => rw [step, opener]; split_ifs <;> exact le_rfl
  | assign n ip =>
    rw [step]
    split
    · rw [assign]; split_ifs; exacts [le_rfl, Nat.le_succ _]
    · exact le_rfl
  | turn n t => rw [step]; split <;> exact le_rfl
  | advance d => rw [step]; split_ifs <;> exact le_rfl

omit [DecidableEq A] in
lemma Server.Numbered.assign (h : s.Numbered) (hs : s.assigned + 1 < 2 ^ 24) (n : ℕ) (c : Client A)
    (ip : PoolAddr) : (s.assign n c ip).Numbered := by
  unfold Server.assign
  split_ifs
  · exact h
  have hnext : (s.nextPeerID + 1).toNat = s.assigned + 1 := by
    rw [UInt32.toNat_add, h.counter]
    simp only [UInt32.reduceToNat]
    omega
  refine ⟨?_, fun m c' hm hc => ?_, fun m c' hm hc => ?_,
    fun m₁ m₂ c₁ c₂ hm₁ hm₂ h₁ h₂ he => ?_⟩
  · simp only [hnext]
    omega
  · obtain ⟨-, rfl⟩ | ⟨-, hm⟩ := update_eq_some hm
    · rfl
    · exact h.holder m c' hm hc
  · obtain ⟨-, rfl⟩ | ⟨-, hm⟩ := update_eq_some hm
    · exact hnext.le
    · exact (h.range m c' hm hc).trans (Nat.le_succ _)
  · -- the new number is above all the others
    have fresh : ∀ m c', s.sessions m = some c' → c'.assignedIP.isSome →
        c'.peerID ≠ s.nextPeerID + 1 := fun m c' hm hc he => by
      have := h.range m c' hm hc
      rw [he, hnext] at this
      omega
    obtain ⟨e₁, rfl⟩ | ⟨-, hm₁⟩ := update_eq_some hm₁ <;>
      obtain ⟨e₂, rfl⟩ | ⟨-, hm₂⟩ := update_eq_some hm₂
    · exact e₁.trans e₂.symm
    · exact absurd he.symm (fresh m₂ c₂ hm₂ h₂)
    · exact absurd he (fresh m₁ c₁ hm₁ h₁)
    · exact h.inj m₁ m₂ c₁ c₂ hm₁ hm₂ h₁ h₂ he

/-- A change to one client that keeps its number and address. -/
lemma Server.Numbered.turn (h : s.Numbered) {n : ℕ} {c : Client A} (hn : s.sessions n = some c)
    (t : Turn) : (s.turn n c t).Numbered := by
  obtain ⟨hid, hip, hhold⟩ := turn_number s.now c t
  -- every client after the turn is one from before, as far as numbers go
  have same : ∀ m c', (s.turn n c t).sessions m = some c' → ∃ c₀, s.sessions m = some c₀ ∧
      c'.peerID = c₀.peerID ∧ c'.assignedIP = c₀.assignedIP ∧
      (c'.inPump = true ∨ c'.phase = .replying → c₀.inPump = true ∨ c₀.phase = .replying) := by
    intro m c' hm
    obtain ⟨rfl, rfl⟩ | ⟨-, hm⟩ := update_eq_some hm
    · exact ⟨c, hn, hid, hip, hhold⟩
    · exact ⟨c', hm, rfl, rfl, id⟩
  refine ⟨h.counter, fun m c' hm hc => ?_, fun m c' hm hc => ?_,
    fun m₁ m₂ c₁ c₂ hm₁ hm₂ h₁ h₂ he => ?_⟩
  · obtain ⟨c₀, hm₀, -, hip₀, hhold₀⟩ := same m c' hm
    rw [hip₀]
    exact h.holder m c₀ hm₀ (hhold₀ hc)
  · obtain ⟨c₀, hm₀, hid₀, hip₀, -⟩ := same m c' hm
    rw [hid₀]
    exact h.range m c₀ hm₀ (hip₀ ▸ hc)
  · obtain ⟨d₁, hd₁, hid₁, hip₁, -⟩ := same m₁ c₁ hm₁
    obtain ⟨d₂, hd₂, hid₂, hip₂, -⟩ := same m₂ c₂ hm₂
    exact h.inj m₁ m₂ d₁ d₂ hd₁ hd₂ (hip₁ ▸ h₁) (hip₂ ▸ h₂) (hid₁.symm.trans (he.trans hid₂))

lemma Server.Numbered.opener (h : s.Numbered) (a : A) : (s.opener a).Numbered := by
  unfold Server.opener
  split_ifs
  · exact h
  -- a new client has neither address nor tunnel
  have old : ∀ m c', update s.sessions s.born (some { addr := a }) m = some c' →
      c'.assignedIP.isSome ∨ c'.inPump = true ∨ c'.phase = .replying → s.sessions m = some c' := by
    intro m c' hm hc
    obtain ⟨-, rfl⟩ | ⟨-, hm⟩ := update_eq_some hm
    · simp at hc
    · exact hm
  exact ⟨h.counter, fun m c' hm hc => h.holder m c' (old m c' hm (.inr hc)) hc,
    fun m c' hm hc => h.range m c' (old m c' hm (.inl hc)) hc,
    fun m₁ m₂ c₁ c₂ hm₁ hm₂ h₁ h₂ =>
      h.inj m₁ m₂ c₁ c₂ (old m₁ c₁ hm₁ (.inl h₁)) (old m₂ c₂ hm₂ (.inl h₂)) h₁ h₂⟩

lemma numbered_step (s : Server A) (e : Event A) (h : s.Numbered)
    (hs : (s.step e).assigned < 2 ^ 24) : (s.step e).Numbered := by
  cases e with
  | opener a => exact h.opener a
  | assign n ip =>
    cases hn : s.sessions n with
    | none =>
      simp only [step, hn]
      exact h
    | some c =>
      simp only [step, hn] at hs ⊢
      by_cases hc : c.phase ≠ .negotiating ∨ ip ∈ s.taken
      · rw [assign, if_pos hc]
        exact h
      · rw [assign, if_neg hc] at hs
        exact h.assign hs n c ip
  | turn n t =>
    rw [step]
    split
    · next hn => exact h.turn hn t
    · exact h
  | advance d =>
    rw [step]
    split_ifs
    · exact { h with }
    · exact h

lemma numbered_run (es : List (Event A)) (hs : (run Server.step {} es).assigned < 2 ^ 24) :
    (run Server.step ({} : Server A) es).Numbered := by
  induction es using reverseRecOn with
  | nil =>
    exact ⟨rfl, fun _ _ h => (nomatch h), fun _ _ h => (nomatch h),
      fun _ _ _ _ h => (nomatch h)⟩
  | append_singleton es e ih =>
    rw [run_concat] at hs ⊢
    exact numbered_step _ e (ih ((assigned_le_step _ e).trans_lt hs)) hs

/-! ## From 2^24 on -/

/-- A client from `a` that is given an address and a number, and then fails. -/
def rejected (a : A) (n : ℕ) : List (Event A) :=
  [.opener a, .assign n 1, .turn n .fail, .turn n .unwind]

/-- No client from `a` is left, and no address is taken. -/
structure Server.Empty (s : Server A) (a : A) (n : ℕ) : Prop where
  clients : s.clients a = none
  taken : s.taken = []
  born : s.born = n
  nextPeerID : s.nextPeerID = UInt32.ofNat n
  assigned : s.assigned = n

lemma Server.Empty.rejected {a : A} {n : ℕ} (h : s.Empty a n) :
    (run Server.step s (rejected a n)).Empty a (n + 1) := by
  obtain ⟨hclients, htaken, hborn, hnext, hassigned⟩ := h
  constructor <;>
    simp [OpenVPN.rejected, step, opener, assign, turn, Client.turn,
      Client.close, hclients, htaken, hborn, hnext, hassigned]

/-- **Handshakes that fail.**  Each uses up a number. -/
lemma run_rejected (a : A) (n : ℕ) :
    (run Server.step {} ((List.range n).map (rejected a)).flatten).Empty a n := by
  induction n with
  | zero => exact ⟨rfl, rfl, rfl, rfl, rfl⟩
  | succ n ih =>
    rw [range_succ, map_append, flatten_append, run_append]
    simpa using ih.rejected

/-- The client that gets number 2^24. -/
lemma misdirected (a : A) {m : ℕ} (hm : m + 1 = 2 ^ 24) :
    let s := run step {} (((range m).map (rejected a)).flatten ++
      [.opener a, .assign m 1, .turn m .replied])
    s.assigned = 2 ^ 24 ∧ ¬ s.PeerIdsIdentify := by
  obtain ⟨hclients, htaken, hborn, hnext, hassigned⟩ := run_rejected a m
  rw [run_append]
  generalize run step {} ((range m).map (rejected a)).flatten = s at *
  have hid : UInt32.ofNat m + 1 = 16777216 := by
    obtain rfl : m = 16777215 := by omega
    rfl
  have hup : (run step s [.opener a, .assign m 1, .turn m .replied]).sessions m = some
      { addr := a, phase := .up, heard := s.now, nextTick := s.now + keepaliveInterval
        assignedIP := some 1, peerID := 16777216, inPump := true } := by
    simp [step, opener, assign, turn, Client.turn, hclients, htaken, hborn, hnext, hid]
  refine ⟨?_, fun h => ?_⟩
  · simp [step, opener, assign, turn, hclients, htaken, hborn, hassigned, hm]
  · have hdemux := h.mapped m _ hup rfl 0 []
    rw [serverDataDemux_makeHeader] at hdemux
    simp at hdemux

/-- **Peer-ids identify clients, up to 2^24 - 1 of them.**  They do so in all runs that give out at
most `n` numbers exactly when `n` is below 2^24. -/
theorem peer_ids_identify_iff (n : ℕ) [Inhabited A] :
    (∀ es : List (Event A), (run Server.step {} es).assigned ≤ n →
      (run Server.step {} es).PeerIdsIdentify) ↔ n < 2 ^ 24 := by
  constructor
  · intro h
    by_contra hn
    obtain ⟨m, hm⟩ : ∃ m : ℕ, m + 1 = 2 ^ 24 := ⟨16777215, rfl⟩
    obtain ⟨hassigned, hnot⟩ := misdirected (default : A) hm
    exact hnot (h _ (by omega))
  · intro hn es hes
    exact (numbered_run es (hes.trans_lt hn)).identify (hes.trans_lt hn)

/-- After 2^24 - 1 handshakes that failed late, the packets of the next client lead nowhere. -/
theorem peer_id_misdirected : ∃ es : List (Event Unit),
    ¬ (run Server.step {} es).PeerIdsIdentify := by
  obtain ⟨m, hm⟩ : ∃ m : ℕ, m + 1 = 2 ^ 24 := ⟨16777215, rfl⟩
  exact ⟨_, (misdirected () hm).2⟩

end Veepin.OpenVPN
