import Veepin.Core.Maps
import Veepin.Core.Runs

/-!
# The clients of the OpenVPN server

The model of `handleControl`, `handshake`, `serveClient`, `silentFor`, `reapClient` and `dropClient`
in `internal/openvpn/server.go`: what each client holds (an address of the pool, a tunnel in the
pump, an entry of `s.clients`) and when it gives it back.  The goroutines of different clients meet
only in the pool, in the map and in the counter of peer-ids.

Time is in nanoseconds.  It passes only when no goroutine has anything to do: a ticker that is due,
a closed channel and a teardown under way all come first.  The negotiation before an address is
taken, and the write of the push reply after it, take as long as they like.

* `Client.Timely` — where each client stands; `timely_turn` and `timely_advance` keep it;
* `addresses_return` — with packet numbers left for the pings, and push replies written in time,
  every address comes back, once and after the tunnel.
-/

namespace Veepin.OpenVPN

open List Function Option

/-- `keepaliveInterval`: ten seconds. -/
def keepaliveInterval : ℕ := 10000000000

/-- `pingRestart`: sixty seconds. -/
def pingRestart : ℕ := 60000000000

/-- An address of the pool. -/
abbrev PoolAddr := BitVec 32

/-- Where a client's goroutine is. -/
inductive Phase
  /-- `handshake`, before an address is taken -/
  | negotiating
  /-- `handshake`, with an address, writing the push reply -/
  | replying
  /-- `serveClient` -/
  | up
  /-- `reapClient`, its channel closed -/
  | closing
  /-- `reapClient`, its tunnel removed -/
  | releasing
  /-- `reapClient`, its address released -/
  | deleting
  /-- `dropClient`, its channel closed -/
  | dropping
  /-- torn down -/
  | gone
  /-- `serveClient` has returned because the ping could not be sealed -/
  | abandoned
  deriving DecidableEq, Repr

/-- `serverClient`.  `heard` is the liveness clock: `upAt`, then the `LastSeen` of its tunnel. -/
structure Client (A : Type*) where
  addr : A
  phase : Phase := .negotiating
  heard : ℕ := 0
  /-- when the control channel was closed -/
  closed : Option ℕ := none
  /-- when the ticker fires next -/
  nextTick : ℕ := 0
  /-- the last packet number of the data cipher -/
  counter : UInt32 := 0
  assignedIP : Option PoolAddr := none
  peerID : UInt32 := 0
  /-- the pump has its tunnel -/
  inPump : Bool := false
  /-- how often its address has been released -/
  releases : ℕ := 0
  deriving DecidableEq

/-- `Server`: the map of clients by address, all clients so far, the addresses taken from the pool,
the counter of peer-ids, and how many it has given out. -/
structure Server (A : Type*) where
  now : ℕ := 0
  clients : A → Option ℕ := fun _ => none
  sessions : ℕ → Option (Client A) := fun _ => none
  born : ℕ := 0
  taken : List PoolAddr := []
  nextPeerID : UInt32 := 0
  assigned : ℕ := 0

/-- What can happen to one client. -/
inductive Turn
  /-- the handshake fails: TLS, the keys, the push request, the pool, the cipher or the reply -/
  | fail
  /-- the push reply is written -/
  | replied
  /-- an authenticated packet comes in -/
  | packetIn
  /-- a packet goes out through the pump -/
  | packetOut
  /-- a send error closes the control channel -/
  | channelCloses
  /-- `serveClient` sees the closed channel -/
  | noticeClosed
  /-- `serveClient` sees the ticker -/
  | tick
  /-- the next section of `reapClient` or `dropClient` -/
  | unwind
  deriving DecidableEq, Repr

inductive Event (A : Type*)
  /-- an admitted hard reset -/
  | opener (a : A)
  /-- `pool.Allocate` gives an address, and the client its peer-id -/
  | assign (n : ℕ) (ip : PoolAddr)
  | turn (n : ℕ) (t : Turn)
  | advance (d : ℕ)

variable {A : Type*}

/-! ## The goroutines -/

def nextPacketID (counter : UInt32) : Option UInt32 :=
  if counter = 0xffffffff then none else some (counter + 1)

/-- `cl.ch.Close()`. -/
def Client.close (c : Client A) (now : ℕ) : Client A :=
  { c with closed := some (c.closed.getD now) }

/-- `silentFor`. -/
def Client.silent (c : Client A) (now : ℕ) : Bool := now - c.heard > pingRestart

/-- A turn of `serveClient` when the ticker fires. -/
def Client.onTick (c : Client A) (now : ℕ) : Client A :=
  if c.silent now then { c.close now with phase := .closing }
  else
    match nextPacketID c.counter with
    | none => { c with phase := .abandoned }
    | some id => { c with counter := id, nextTick := c.nextTick + keepaliveInterval }

/-- The turns of one client. -/
def Client.turn (now : ℕ) (c : Client A) (t : Turn) : Client A :=
  match c.phase, t with
  | .negotiating, .fail => { c.close now with phase := .dropping }
  | .replying, .fail => { c.close now with phase := .dropping, releases := c.releases + 1 }
  | .replying, .replied =>
    { c with phase := .up, heard := now, nextTick := now + keepaliveInterval, inPump := true }
  | .up, .packetIn => { c with heard := now }
  | .up, .packetOut => { c with counter := (nextPacketID c.counter).getD c.counter }
  | .up, .noticeClosed =>
    if c.closed.isSome then { c.close now with phase := .closing } else c
  | .up, .tick => if c.nextTick ≤ now then c.onTick now else c
  | .closing, .unwind => { c with phase := .releasing, inPump := false }
  | .releasing, .unwind => { c with phase := .deleting, releases := c.releases + 1 }
  | .deleting, .unwind => { c with phase := .gone }
  | .dropping, .unwind => { c with phase := .gone }
  | .negotiating, .channelCloses | .replying, .channelCloses | .up, .channelCloses => c.close now
  | _, _ => c

/-- Time may pass for the client. -/
def Client.idle (now d : ℕ) (c : Client A) : Bool :=
  match c.phase with
  | .gone | .abandoned => true
  | .negotiating | .replying => c.closed = none
  | .up => c.closed = none ∧ now + d ≤ c.nextTick
  | .closing | .releasing | .deleting | .dropping => false

variable [DecidableEq A]

/-- The turn of a client, with what it does to the pool and to the map. -/
def Server.turn (s : Server A) (n : ℕ) (c : Client A) (t : Turn) : Server A :=
  let c' := c.turn s.now t
  { s with
    sessions := Function.update s.sessions n (some c')
    taken := if c.releases < c'.releases then s.taken.erase (c.assignedIP.getD 0) else s.taken
    clients := if c.phase ≠ .gone ∧ c'.phase = .gone ∧
        (c.phase = .dropping ∨ s.clients c.addr = some n)
      then Function.update s.clients c.addr none else s.clients }

/-- `handleControl` for an address that has no client. -/
def Server.opener (s : Server A) (a : A) : Server A :=
  if (s.clients a).isSome then s
  else
    { s with
      clients := Function.update s.clients a (some s.born)
      sessions := Function.update s.sessions s.born (some { addr := a })
      born := s.born + 1 }

/-- The middle of `handshake`: an address that is not taken, and `nextPeerID.Add(1)`. -/
def Server.assign (s : Server A) (n : ℕ) (c : Client A) (ip : PoolAddr) : Server A :=
  if c.phase ≠ .negotiating ∨ ip ∈ s.taken then s
  else
    { s with
      taken := ip :: s.taken
      nextPeerID := s.nextPeerID + 1
      assigned := s.assigned + 1
      sessions := Function.update s.sessions n (some { c with
        phase := .replying, heard := s.now, assignedIP := some ip, peerID := s.nextPeerID + 1 }) }

def Server.step (s : Server A) : Event A → Server A
  | .opener a => s.opener a
  | .assign n ip =>
    match s.sessions n with
    | some c => s.assign n c ip
    | none => s
  | .turn n t =>
    match s.sessions n with
    | some c => s.turn n c t
    | none => s
  | .advance d =>
    if ∀ n < s.born, (s.sessions n).all (Client.idle s.now d) then { s with now := s.now + d }
    else s

/-! ## Addresses come back -/

/-- A keepalive tick has passed since the client was silent for `pingRestart`, or since its control
channel was closed. -/
def Client.Due (now : ℕ) (c : Client A) : Prop :=
  c.heard + pingRestart + keepaliveInterval < now ∨ ∃ t ∈ c.closed, t + keepaliveInterval < now

instance (now : ℕ) (c : Client A) : Decidable (c.Due now) :=
  inferInstanceAs (Decidable (_ ∨ ∃ t ∈ c.closed, _))

/-- **Addresses come back.**  An address is released at most once and not while the pump has the
tunnel; once it is due it has been released, and tunnel and entry are gone. -/
def Server.AddressesReturn (s : Server A) : Prop :=
  ∀ n c, s.sessions n = some c → c.assignedIP.isSome →
    c.releases ≤ 1 ∧ (c.releases = 1 → c.inPump = false) ∧
      (c.Due s.now → c.releases = 1 ∧ c.inPump = false ∧ s.clients c.addr ≠ some n)

/-- The conditions: a packet number is left for the ping, and a push reply is written in time. -/
def Server.Prompt (s : Server A) : Event A → Prop
  | .turn n .tick => ∀ c ∈ s.sessions n, c.counter ≠ 0xffffffff
  | .advance d => ∀ n < s.born, ∀ c ∈ s.sessions n, c.phase = .replying →
      s.now + d ≤ c.heard + pingRestart + keepaliveInterval
  | _ => True

/-- The teardown of the client is in time. -/
def Client.InTime (now : ℕ) (c : Client A) : Prop :=
  now ≤ c.heard + pingRestart + keepaliveInterval ∧ ∀ t ∈ c.closed, t = now

/-- Where a client stands: what it holds in each phase, and how long it may hold it. -/
def Client.Timely (now : ℕ) (c : Client A) : Prop :=
  match c.phase with
  | .negotiating => c.assignedIP = none ∧ c.releases = 0 ∧ c.inPump = false ∧
      ∀ t ∈ c.closed, t = now
  | .replying => c.assignedIP.isSome ∧ c.releases = 0 ∧ c.inPump = false ∧ c.InTime now
  | .up => c.assignedIP.isSome ∧ c.releases = 0 ∧ c.inPump = true ∧ c.heard ≤ now ∧
      now ≤ c.nextTick ∧ c.nextTick ≤ c.heard + pingRestart + keepaliveInterval ∧
      ∀ t ∈ c.closed, t = now
  | .closing => c.assignedIP.isSome ∧ c.releases = 0 ∧ c.inPump = true ∧ c.InTime now
  | .releasing => c.assignedIP.isSome ∧ c.releases = 0 ∧ c.inPump = false ∧ c.InTime now
  | .deleting => c.assignedIP.isSome ∧ c.releases = 1 ∧ c.inPump = false ∧ c.InTime now
  | .dropping => c.inPump = false ∧ (c.assignedIP.isSome → c.releases = 1 ∧ c.InTime now)
  | .gone => c.inPump = false ∧ (c.assignedIP.isSome → c.releases = 1)
  | .abandoned => False

/-- **The invariant.**  Every client is in time; the map has the clients that are not torn down,
each under its own address, and no others. -/
structure Server.Kept (s : Server A) : Prop where
  timely : ∀ n c, s.sessions n = some c → c.Timely s.now
  entry : ∀ n c, s.sessions n = some c → (s.clients c.addr = some n ↔ c.phase ≠ .gone)
  known : ∀ a n, s.clients a = some n → ∃ c, s.sessions n = some c ∧ c.addr = a
  born : ∀ n, s.born ≤ n → s.sessions n = none

variable {c : Client A} {now : ℕ}

omit [DecidableEq A] in
lemma Client.close_closed (h : ∀ t ∈ c.closed, t = now) : ∀ t ∈ (c.close now).closed, t = now := by
  intro t ht
  obtain rfl := some.inj ht
  cases hc : c.closed with
  | none => rfl
  | some t => exact h t hc

open Client

omit [DecidableEq A] in
lemma Client.Timely.onTick (hp : c.phase = .up) (h : c.Timely now) (hdue : c.nextTick ≤ now)
    (hcounter : c.counter ≠ 0xffffffff) : (c.onTick now).Timely now := by
  simp only [Client.Timely, hp] at h
  obtain ⟨hip, hrel, hpump, hheard, hnow, htick, hclosed⟩ := h
  rw [Client.onTick]
  split_ifs with hsilent
  · exact ⟨hip, hrel, hpump, hnow.trans htick, close_closed hclosed⟩
  · -- the clock was right at this tick, so it is at the next
    have hrecent : now - c.heard ≤ pingRestart := by
      simpa [silent] using hsilent
    simp only [nextPacketID, if_neg hcounter, Client.Timely, hp]
    refine ⟨hip, hrel, hpump, hheard, ?_, ?_, hclosed⟩ <;> omega

omit [DecidableEq A] in
/-- **A turn of one client.** -/
lemma timely_turn (t : Turn) (h : c.Timely now) (hcounter : t = .tick → c.counter ≠ 0xffffffff) :
    (c.turn now t).Timely now := by
  have hall := h
  unfold turn
  split <;> rename_i hp <;> simp only [Client.Timely, hp] at h
  · exact ⟨h.2.2.1, fun hip => absurd hip (by simp [close, h.1])⟩
  · obtain ⟨hip, hrel, hpump, htime⟩ := h
    exact ⟨hpump, fun _ => ⟨congrArg Nat.succ hrel, htime.1, close_closed htime.2⟩⟩
  · obtain ⟨hip, hrel, hpump, htime⟩ := h
    refine ⟨hip, hrel, rfl, le_rfl, Nat.le_add_right _ _, ?_, htime.2⟩
    simp only
    omega
  · obtain ⟨hip, hrel, hpump, hheard, hnow, htick, hclosed⟩ := h
    simp only [Client.Timely, hp]
    refine ⟨hip, hrel, hpump, le_rfl, hnow, ?_, hclosed⟩
    omega
  · simpa only [Client.Timely, hp] using h
  · obtain ⟨hip, hrel, hpump, hheard, hnow, htick, hclosed⟩ := h
    split_ifs
    · exact ⟨hip, hrel, hpump, hnow.trans htick, close_closed hclosed⟩
    · exact hall
  · split_ifs with hdue
    · exact hall.onTick hp hdue (hcounter rfl)
    · exact hall
  · exact ⟨h.1, h.2.1, rfl, h.2.2.2⟩
  · exact ⟨h.1, congrArg Nat.succ h.2.1, h.2.2⟩
  · exact ⟨h.2.2.1, fun _ => h.2.1⟩
  · exact ⟨h.1, fun hip => (h.2 hip).1⟩
  · simp only [Client.Timely, close, hp]
    exact ⟨h.1, h.2.1, h.2.2.1, close_closed h.2.2.2⟩
  · simp only [Client.Timely, close, hp]
    exact ⟨h.1, h.2.1, h.2.2.1, h.2.2.2.1, close_closed h.2.2.2.2⟩
  · simp only [Client.Timely, close, hp]
    exact ⟨h.1, h.2.1, h.2.2.1, h.2.2.2.1, h.2.2.2.2.1, h.2.2.2.2.2.1,
      close_closed h.2.2.2.2.2.2⟩
  · exact hall

omit [DecidableEq A] in
lemma timely_advance {d : ℕ} (h : c.Timely now) (hidle : c.idle now d = true)
    (hreply : c.phase = .replying → now + d ≤ c.heard + pingRestart + keepaliveInterval) :
    c.Timely (now + d) := by
  have hopen : c.closed = none → ∀ t ∈ c.closed, t = now + d := fun hc t ht =>
    absurd (hc.symm.trans ht) (by simp)
  cases hp : c.phase <;> simp only [Client.Timely, idle, hp] at h hidle ⊢
  case negotiating => exact ⟨h.1, h.2.1, h.2.2.1, hopen (of_decide_eq_true hidle)⟩
  case replying => exact ⟨h.1, h.2.1, h.2.2.1, hreply hp, hopen (of_decide_eq_true hidle)⟩
  case up =>
    obtain ⟨hip, hrel, hpump, hheard, -, htick, -⟩ := h
    obtain ⟨hclosed, hnow⟩ := of_decide_eq_true hidle
    exact ⟨hip, hrel, hpump, hheard.trans (Nat.le_add_right _ _), hnow, htick, hopen hclosed⟩
  case gone => exact h
  all_goals exact absurd hidle Bool.false_ne_true

/-! ## The server -/

omit [DecidableEq A] in
lemma turn_addr (now : ℕ) (c : Client A) (t : Turn) : (c.turn now t).addr = c.addr := by
  unfold turn onTick close
  split <;> (try split_ifs) <;> (try split) <;> rfl

omit [DecidableEq A] in
lemma turn_gone (now : ℕ) (c : Client A) (t : Turn) (hp : c.phase = .gone) :
    (c.turn now t).phase = .gone := by
  unfold turn
  split <;> simp_all

variable {s : Server A}

lemma kept_turn (h : s.Kept) {n : ℕ} (hn : s.sessions n = some c) (t : Turn)
    (hcounter : t = .tick → c.counter ≠ 0xffffffff) : (s.turn n c t).Kept := by
  have hown : c.phase ≠ .gone → s.clients c.addr = some n := (h.entry n c hn).2
  -- what becomes of the map: only the client's own entry is deleted, at the end of its teardown
  have hclients : (s.turn n c t).clients =
      if c.phase ≠ .gone ∧ (c.turn s.now t).phase = .gone
      then update s.clients c.addr none else s.clients := by
    simp only [Server.turn]
    refine if_congr ⟨fun hc => ⟨hc.1, hc.2.1⟩, fun hc => ⟨hc.1, hc.2, .inr (hown hc.1)⟩⟩ rfl rfl
  refine ⟨fun m c' hm => ?_, fun m c' hm => ?_, fun a m ha => ?_, fun m hm => ?_⟩
  · obtain ⟨-, rfl⟩ | ⟨-, hm⟩ := update_eq_some hm
    · exact timely_turn t (h.timely n c hn) hcounter
    · exact h.timely m c' hm
  · rw [hclients]
    obtain ⟨rfl, rfl⟩ | ⟨hmn, hm⟩ := update_eq_some hm
    · rw [turn_addr]
      split_ifs with hgone
      · simp [hgone.2]
      · rw [h.entry m c hn]
        exact ⟨fun hc he => hgone ⟨hc, he⟩, fun hc he => hc (turn_gone s.now c t he)⟩
    · split_ifs with hgone
      · -- the deleted entry was not this one's
        rw [update_apply]
        split_ifs with haddr
        · refine iff_of_false (fun he => nomatch he) fun hc => hmn ?_
          have := (h.entry m c' hm).2 hc
          rw [haddr, hown hgone.1] at this
          exact (some.inj this).symm
        · exact h.entry m c' hm
      · exact h.entry m c' hm
  · rw [hclients] at ha
    have hold : s.clients a = some m := by
      split_ifs at ha
      · obtain ⟨-, ha⟩ | ⟨-, ha⟩ := update_eq_cases ha
        · cases ha
        · exact ha
      · exact ha
    obtain ⟨c', hm, haddr⟩ := h.known a m hold
    simp only [Server.turn, update_apply]
    split_ifs with hmn
    · subst hmn
      rw [hn] at hm
      obtain rfl := some.inj hm
      exact ⟨_, rfl, (turn_addr s.now c t).trans haddr⟩
    · exact ⟨c', hm, haddr⟩
  · have hne : m ≠ n := by
      rintro rfl
      exact nomatch hn.symm.trans (h.born m hm)
    simp only [Server.turn, update_apply, if_neg hne]
    exact h.born m hm

lemma kept_opener (h : s.Kept) (a : A) : (s.opener a).Kept := by
  unfold Server.opener
  split_ifs with ha
  · exact h
  have hnew : s.sessions s.born = none := h.born s.born le_rfl
  refine ⟨fun m c hm => ?_, fun m c hm => ?_, fun b m hb => ?_, fun m hm => ?_⟩
  · obtain ⟨-, rfl⟩ | ⟨-, hm⟩ := update_eq_some hm
    · exact ⟨rfl, rfl, rfl, fun _ ht => nomatch ht⟩
    · exact h.timely m c hm
  · obtain ⟨rfl, rfl⟩ | ⟨hmb, hm⟩ := update_eq_some hm
    · simp
    · simp only [update_apply]
      split_ifs with haddr
      · refine iff_of_false (fun he => hmb (some.inj he).symm) fun hc => ha ?_
        rw [← haddr, (h.entry m c hm).2 hc]
        rfl
      · exact h.entry m c hm
  · obtain ⟨rfl, rfl⟩ | ⟨-, hb⟩ := update_eq_some hb
    · exact ⟨_, update_self .., rfl⟩
    · obtain ⟨c, hm, haddr⟩ := h.known b m hb
      refine ⟨c, (update_of_ne ?_ ..).trans hm, haddr⟩
      rintro rfl
      exact nomatch hm.symm.trans hnew
  · have hlt : s.born < m := hm
    simp only [update_apply, if_neg hlt.ne']
    exact h.born m hlt.le

omit [DecidableEq A] in
lemma kept_assign (h : s.Kept) {n : ℕ} (hn : s.sessions n = some c) (ip : PoolAddr) :
    (s.assign n c ip).Kept := by
  unfold Server.assign
  split_ifs with hcond
  · exact h
  obtain ⟨hphase, -⟩ := not_or.1 hcond
  have hp : c.phase = .negotiating := not_not.1 hphase
  have htimely := h.timely n c hn
  simp only [Client.Timely, hp] at htimely
  obtain ⟨-, hrel, hpump, hclosed⟩ := htimely
  refine ⟨fun m c' hm => ?_, fun m c' hm => ?_, fun b m hb => ?_, fun m hm => ?_⟩
  · obtain ⟨-, rfl⟩ | ⟨-, hm⟩ := update_eq_some hm
    · refine ⟨rfl, hrel, hpump, ?_, hclosed⟩
      simp only
      omega
    · exact h.timely m c' hm
  · obtain ⟨rfl, rfl⟩ | ⟨-, hm⟩ := update_eq_some hm
    · exact iff_of_true ((h.entry m c hn).2 (by simp [hp])) (by simp)
    · exact h.entry m c' hm
  · obtain ⟨c', hm, haddr⟩ := h.known b m hb
    simp only [update_apply]
    split_ifs with hmn
    · subst hmn
      rw [hn] at hm
      obtain rfl := some.inj hm
      exact ⟨_, rfl, haddr⟩
    · exact ⟨c', hm, haddr⟩
  · have hne : m ≠ n := by
      rintro rfl
      exact nomatch hn.symm.trans (h.born m hm)
    simp only [update_apply, if_neg hne]
    exact h.born m hm

lemma kept_step (s : Server A) (e : Event A) (h : s.Kept) (hprompt : s.Prompt e) :
    (s.step e).Kept := by
  cases e with
  | opener a => exact kept_opener h a
  | assign n ip =>
    rw [Server.step]
    split
    · next hn => exact kept_assign h hn ip
    · exact h
  | turn n t =>
    rw [Server.step]
    split
    · next c hn =>
        refine kept_turn h hn t ?_
        rintro rfl
        exact hprompt c hn
    · exact h
  | advance d =>
    rw [Server.step]
    split_ifs with hidle
    · refine ⟨fun m c hm => ?_, h.entry, h.known, h.born⟩
      have hm' : m < s.born := by
        by_contra hle
        exact nomatch hm.symm.trans (h.born m (not_lt.1 hle))
      have hi := hidle m hm'
      rw [hm] at hi
      exact timely_advance (h.timely m c hm) hi (hprompt m hm' c hm)
    · exact h

omit [DecidableEq A] in
/-- A client that is in time has given back what was due. -/
lemma Server.Kept.addressesReturn (h : s.Kept) : s.AddressesReturn := by
  intro n c hn hip
  have htimely := h.timely n c hn
  have hentry := h.entry n c hn
  -- nothing is due while the teardown is in time
  have early : c.InTime s.now → ¬ c.Due s.now := by
    rintro ⟨hheard, hclosed⟩ (hdue | ⟨t, ht, hdue⟩)
    · omega
    · have := hclosed t ht
      omega
  cases hp : c.phase <;> simp only [Client.Timely, hp] at htimely
  case negotiating => exact absurd hip (by simp [htimely.1])
  case replying | closing | releasing =>
    obtain ⟨-, hrel, -, htime⟩ := htimely
    exact ⟨by omega, fun h₁ => absurd h₁ (by omega), fun hdue => absurd hdue (early htime)⟩
  case up =>
    obtain ⟨-, hrel, -, -, hnow, htick, hclosed⟩ := htimely
    exact ⟨by omega, fun h₁ => absurd h₁ (by omega),
      fun hdue => absurd hdue (early ⟨hnow.trans htick, hclosed⟩)⟩
  case deleting =>
    obtain ⟨-, hrel, hpump, htime⟩ := htimely
    exact ⟨hrel.le, fun _ => hpump, fun hdue => absurd hdue (early htime)⟩
  case dropping =>
    obtain ⟨hpump, hrest⟩ := htimely
    exact ⟨(hrest hip).1.le, fun _ => hpump, fun hdue => absurd hdue (early (hrest hip).2)⟩
  case gone =>
    obtain ⟨hpump, hrel⟩ := htimely
    exact ⟨(hrel hip).le, fun _ => hpump,
      fun _ => ⟨hrel hip, hpump, fun he => hentry.1 he hp⟩⟩

/-- **Addresses come back.**  In every run in which a packet number is left whenever a ping is due,
and push replies are written in time, every address is released once, in time, and after the tunnel
has left the pump. -/
theorem addresses_return (es : List (Event A)) (hprompt : Along Server.step Server.Prompt {} es) :
    Always Server.step Server.AddressesReturn ({} : Server A) es :=
  always_of_inv Server.Kept kept_step (fun _ h => h.addressesReturn) _ _
    ⟨fun _ _ h => (nomatch h), fun _ _ h => (nomatch h), fun _ _ h => (nomatch h),
      fun _ _ => rfl⟩ hprompt

instance (s : Server A) (e : Event A) : Decidable (s.Prompt e) := by
  unfold Server.Prompt
  split <;> infer_instance

/-- A client that connects and is pinged once, and whose control channel is then closed. -/
theorem addresses_return_closed : Always Server.step Server.AddressesReturn ({} : Server Unit)
      [.opener (), .assign 0 1, .turn 0 .replied, .turn 0 .packetIn, .advance 10000000000,
        .turn 0 .tick, .turn 0 .channelCloses, .turn 0 .noticeClosed, .turn 0 .unwind,
        .turn 0 .unwind, .turn 0 .unwind, .advance 100000000000] :=
  addresses_return _ (by decide)

/-! ## A ping that cannot be sealed -/

/-- A client that is up, with the last packet number used. -/
def talkative (counter : UInt32) : Server Unit where
  clients := Function.update (fun _ => none) () (some 0)
  sessions := Function.update (fun _ => none) 0 (some
    { addr := (), phase := .up, nextTick := keepaliveInterval, counter, assignedIP := some 1
      peerID := 1, inPump := true })
  born := 1
  taken := [1]
  nextPeerID := 1
  assigned := 1

lemma talkative_start :
    run Server.step ({} : Server Unit) [.opener (), .assign 0 1, .turn 0 .replied] =
      talkative 0 := by
  simp [Server.step, Server.opener, Server.assign, Server.turn, turn, talkative]

lemma talkative_step (k : UInt32) (hk : k ≠ 0xffffffff) :
    (talkative k).step (.turn 0 .packetOut) = talkative (k + 1) := by
  simp [Server.step, talkative, Server.turn, turn, nextPacketID, hk]

/-- Packets to the client use up the numbers. -/
lemma talkative_run (k : ℕ) (hk : k < 2 ^ 32) :
    run Server.step (talkative 0) (List.replicate k (.turn 0 .packetOut)) =
      talkative (UInt32.ofNat k) := by
  induction k with
  | zero => rfl
  | succ k ih =>
    have hne : UInt32.ofNat k ≠ 0xffffffff := by
      intro he
      have := congrArg UInt32.toNat he
      rw [UInt32.toNat_ofNat_of_lt' (Nat.lt_of_succ_lt hk)] at this
      simp only [UInt32.reduceToNat] at this
      omega
    rw [replicate_succ', run_concat, ih (Nat.lt_of_succ_lt hk), talkative_step _ hne,
      UInt32.ofNat_add]
    rfl

/-- When the packet numbers are used up, the next ping ends `serveClient`; the address of the client
is never released. -/
theorem address_lost : ∃ es : List (Event Unit),
    ¬ (run Server.step ({} : Server Unit) es).AddressesReturn := by
  refine ⟨[.opener (), .assign 0 1, .turn 0 .replied] ++
    replicate (2 ^ 32 - 1) (.turn 0 .packetOut) ++
    [.advance 10000000000, .turn 0 .tick, .advance 100000000000], fun h => ?_⟩
  rw [run_append, run_append, talkative_start, talkative_run _ (by decide)] at h
  have hdue := (h 0 _ rfl rfl).2.2 (.inl (by decide))
  exact absurd hdue.1 (by decide)

end Veepin.OpenVPN
