import Veepin.Core.Fair
import Mathlib.Data.Finset.Card
import Mathlib.Data.Prod.Lex

/-!
# Two ends and a link that loses datagrams

A client and a server answer each datagram that they read and send something again when they wait in
vain.  What they send is queued in order for the other end, apart from a finite set of datagrams
that are lost; a datagram is named by its kind and by how many of the kind were sent before it.

* `Link.Simulates.step` — two such systems proceed in step if their ends do;
* `Awaited` — how far a datagram is that an end waits for: its place in the queue, or how many more
  times it gets lost.
-/

namespace Veepin

open List Function

/-- What the two ends do with a datagram that they read, and what they send when a read times
out. -/
structure Ends (C S D : Type*) where
  clientReceive : C → D → C × List D
  clientTimeout : C → List D
  serverReceive : S → D → S × List D
  serverTimeout : S → List D

/-- The two ends, the datagrams on the way to each, and how many of each kind were sent. -/
structure Link (C S D K : Type*) where
  client : C
  server : S
  toServer : List D
  toClient : List D
  sent : K → ℕ

/-- What can happen next. -/
inductive LinkEvent
  | clientTimeout
  | serverTimeout
  | clientReads
  | serverReads
  deriving DecidableEq, Repr

section Steps

variable {C S D K : Type*} [DecidableEq K] (kind : D → K) (lost : Finset (K × ℕ))

/-- The datagrams `ds` are sent, one after the other: the counts and the queue afterwards. -/
def transmit : (K → ℕ) → List D → List D → (K → ℕ) × List D
  | sent, queue, [] => (sent, queue)
  | sent, queue, d :: ds =>
    transmit (Function.update sent (kind d) (sent (kind d) + 1))
      (if (kind d, sent (kind d)) ∈ lost then queue else queue ++ [d]) ds

/-- The client sends. -/
def Link.fromClient (l : Link C S D K) (ds : List D) : Link C S D K :=
  { l with
    toServer := (transmit kind lost l.sent l.toServer ds).2
    sent := (transmit kind lost l.sent l.toServer ds).1 }

/-- The server sends. -/
def Link.fromServer (l : Link C S D K) (ds : List D) : Link C S D K :=
  { l with
    toClient := (transmit kind lost l.sent l.toClient ds).2
    sent := (transmit kind lost l.sent l.toClient ds).1 }

/-- One event.  A read waits while there is nothing to be read. -/
def Link.step (ends : Ends C S D) (l : Link C S D K) : LinkEvent → Link C S D K
  | .clientTimeout => l.fromClient kind lost (ends.clientTimeout l.client)
  | .serverTimeout => l.fromServer kind lost (ends.serverTimeout l.server)
  | .clientReads =>
    match l.toClient with
    | [] => l
    | d :: ds =>
      { l with client := (ends.clientReceive l.client d).1, toClient := ds }.fromClient kind lost
        (ends.clientReceive l.client d).2
  | .serverReads =>
    match l.toServer with
    | [] => l
    | d :: ds =>
      { l with server := (ends.serverReceive l.server d).1, toServer := ds }.fromServer kind lost
        (ends.serverReceive l.server d).2

/-- The same events with the ends exchanged. -/
def LinkEvent.swap : LinkEvent → LinkEvent
  | .clientTimeout => .serverTimeout
  | .serverTimeout => .clientTimeout
  | .clientReads => .serverReads
  | .serverReads => .clientReads

def Ends.swap (ends : Ends C S D) : Ends S C D :=
  ⟨ends.serverReceive, ends.serverTimeout, ends.clientReceive, ends.clientTimeout⟩

def Link.swap (l : Link C S D K) : Link S C D K :=
  ⟨l.server, l.client, l.toClient, l.toServer, l.sent⟩

/-- **The ends are alike.** -/
lemma Link.step_swap (ends : Ends C S D) (l : Link C S D K) (e : LinkEvent) :
    (Link.step kind lost ends l e).swap = Link.step kind lost ends.swap l.swap e.swap := by
  obtain ⟨client, server, toServer, toClient, sent⟩ := l
  cases e with
  | clientTimeout => rfl
  | serverTimeout => rfl
  | clientReads => cases toClient <;> rfl
  | serverReads => cases toServer <;> rfl

end Steps

/-! ## Two systems in step -/

section Simulation

variable {C S C' S' D D' K : Type*} [DecidableEq K] {kind : D → K} {kind' : D' → K}
  {lost : Finset (K × ℕ)}

/-- The system `l` does what `l'` does, with the datagrams of `l'` written as `enc` says. -/
structure Link.Simulates (enc : D' → D) (client : C' → C → Prop) (server : S' → S → Prop)
    (l' : Link C' S' D' K) (l : Link C S D K) : Prop where
  client : client l'.client l.client
  server : server l'.server l.server
  toServer : l.toServer = l'.toServer.map enc
  toClient : l.toClient = l'.toClient.map enc
  sent : l.sent = l'.sent

/-- One end of `l` answers as the end of `l'` does. -/
def AnswersAs (enc : D' → D) (R : C' → C → Prop) (r' : C' × List D') (r : C × List D) : Prop :=
  R r'.1 r.1 ∧ r.2 = r'.2.map enc

lemma transmit_map {enc : D' → D} (hkind : ∀ d, kind (enc d) = kind' d) :
    ∀ (ds : List D') (sent : K → ℕ) (queue : List D'),
      transmit kind lost sent (queue.map enc) (ds.map enc) =
        ((transmit kind' lost sent queue ds).1, (transmit kind' lost sent queue ds).2.map enc)
  | [], _, _ => rfl
  | d :: ds, sent, queue => by
    have hqueue : (if (kind' d, sent (kind' d)) ∈ lost then queue.map enc
        else queue.map enc ++ [enc d]) =
        (if (kind' d, sent (kind' d)) ∈ lost then queue else queue ++ [d]).map enc := by
      split_ifs <;> simp
    rw [map_cons, transmit, transmit, hkind, hqueue]
    exact transmit_map hkind ds _ _

variable {enc : D' → D} {Rc : C' → C → Prop} {Rs : S' → S → Prop} {l' : Link C' S' D' K}
  {l : Link C S D K}

section

variable (hkind : ∀ d, kind (enc d) = kind' d) (h : Link.Simulates enc Rc Rs l' l) (ds : List D')

include hkind h

lemma Link.Simulates.fromClient :
    Link.Simulates enc Rc Rs (l'.fromClient kind' lost ds)
      (l.fromClient kind lost (ds.map enc)) := by
  have hsent := @transmit_map _ _ _ _ kind kind' lost enc hkind ds l'.sent l'.toServer
  refine ⟨h.client, h.server, ?_, h.toClient, ?_⟩
  · rw [Link.fromClient, h.sent, h.toServer, hsent]
    rfl
  · rw [Link.fromClient, h.sent, h.toServer, hsent]
    rfl

lemma Link.Simulates.fromServer :
    Link.Simulates enc Rc Rs (l'.fromServer kind' lost ds)
      (l.fromServer kind lost (ds.map enc)) := by
  have hsent := @transmit_map _ _ _ _ kind kind' lost enc hkind ds l'.sent l'.toClient
  refine ⟨h.client, h.server, h.toServer, ?_, ?_⟩
  · rw [Link.fromServer, h.sent, h.toClient, hsent]
    rfl
  · rw [Link.fromServer, h.sent, h.toClient, hsent]
    rfl

end

/-- **One event**, if each end answers what it is about to read as the other system's end does. -/
theorem Link.Simulates.step {ends : Ends C S D} {ends' : Ends C' S' D'}
    (hkind : ∀ d, kind (enc d) = kind' d)
    (hclient : ∀ d ∈ l'.toClient, AnswersAs enc Rc (ends'.clientReceive l'.client d)
      (ends.clientReceive l.client (enc d)))
    (hserver : ∀ d ∈ l'.toServer, AnswersAs enc Rs (ends'.serverReceive l'.server d)
      (ends.serverReceive l.server (enc d)))
    (hclientTimeout : ends.clientTimeout l.client = (ends'.clientTimeout l'.client).map enc)
    (hserverTimeout : ends.serverTimeout l.server = (ends'.serverTimeout l'.server).map enc)
    (h : Link.Simulates enc Rc Rs l' l) (e : LinkEvent) :
    Link.Simulates enc Rc Rs (Link.step kind' lost ends' l' e) (Link.step kind lost ends l e) := by
  obtain ⟨client', server', toServer', toClient', sent'⟩ := l'
  obtain ⟨client, server, toServer, toClient, sent⟩ := l
  obtain ⟨hc, hs, htoServer, htoClient, hsent⟩ := h
  dsimp only at hc hs htoServer htoClient hsent hclient hserver hclientTimeout hserverTimeout
  subst htoServer htoClient hsent
  cases e with
  | clientTimeout =>
    dsimp only [Link.step]
    rw [hclientTimeout]
    exact Link.Simulates.fromClient hkind ⟨hc, hs, rfl, rfl, rfl⟩ _
  | serverTimeout =>
    dsimp only [Link.step]
    rw [hserverTimeout]
    exact Link.Simulates.fromServer hkind ⟨hc, hs, rfl, rfl, rfl⟩ _
  | clientReads =>
    cases toClient' with
    | nil => exact ⟨hc, hs, rfl, rfl, rfl⟩
    | cons d ds =>
      obtain ⟨hnext, hsends⟩ := hclient d mem_cons_self
      simp only [Link.step, map_cons]
      rw [hsends]
      exact Link.Simulates.fromClient hkind ⟨hnext, hs, rfl, rfl, rfl⟩ _
  | serverReads =>
    cases toServer' with
    | nil => exact ⟨hc, hs, rfl, rfl, rfl⟩
    | cons d ds =>
      obtain ⟨hnext, hsends⟩ := hserver d mem_cons_self
      simp only [Link.step, map_cons]
      rw [hsends]
      exact Link.Simulates.fromServer hkind ⟨hc, hnext, rfl, rfl, rfl⟩ _

end Simulation

/-! ## Waiting for a datagram -/

section Waiting

variable {K : Type*} [DecidableEq K] (lost : Finset (K × ℕ))

/-- How many more times a datagram of kind `k` gets lost, after `n` of them were sent. -/
def lossesFrom (k : K) (n : ℕ) : ℕ := (lost.filter fun p => p.1 = k ∧ n ≤ p.2).card

/-- How far a datagram of kind `k` is from being read: either it is in the queue, or it has to be
sent again. -/
def awaited (k : K) (sent : K → ℕ) (queue : List K) : ℕ ×ₗ ℕ :=
  if k ∈ queue then toLex (0, queue.idxOf k) else toLex (1, lossesFrom lost k (sent k))

variable {lost} {k k' : K} {sent : K → ℕ} {queue : List K} {sent' : K → ℕ} {queue' : List K}

lemma lossesFrom_succ {n : ℕ} (h : (k, n) ∈ lost) :
    lossesFrom lost k (n + 1) < lossesFrom lost k n := by
  refine Finset.card_lt_card ⟨?_, ?_⟩
  · intro p hp
    rw [Finset.mem_filter] at hp ⊢
    exact ⟨hp.1, hp.2.1, by omega⟩
  · intro hsub
    have hle := (Finset.mem_filter.mp (hsub (Finset.mem_filter.mpr ⟨h, rfl, le_rfl⟩))).2.2
    exact absurd hle (Nat.not_succ_le_self n)

lemma awaited_of_mem (h : k ∈ queue) : awaited lost k sent queue = toLex (0, queue.idxOf k) :=
  if_pos h

lemma awaited_of_notMem (h : k ∉ queue) :
    awaited lost k sent queue = toLex (1, lossesFrom lost k (sent k)) := if_neg h

lemma awaited_lt_of_mem (h : k ∈ queue') (h' : k ∉ queue) :
    awaited lost k sent' queue' < awaited lost k sent queue := by
  rw [awaited_of_mem h, awaited_of_notMem h', Prod.Lex.toLex_lt_toLex]
  exact Or.inl Nat.zero_lt_one

/-- Another datagram is read. -/
lemma awaited_pop (hne : k' ≠ k) (h : k ∈ k' :: queue) :
    awaited lost k sent queue < awaited lost k sent (k' :: queue) := by
  have hmem : k ∈ queue := (mem_cons.mp h).resolve_left hne.symm
  rw [awaited_of_mem hmem, awaited_of_mem h, idxOf_cons_ne queue hne, Prod.Lex.toLex_lt_toLex]
  exact Or.inr ⟨rfl, Nat.lt_succ_self _⟩

lemma awaited_pop_of_notMem (h : k ∉ k' :: queue) :
    awaited lost k sent queue = awaited lost k sent (k' :: queue) := by
  rw [awaited_of_notMem h, awaited_of_notMem fun hmem => h (mem_cons_of_mem k' hmem)]

/-- The datagram is in the queue, and what is sent comes behind it. -/
lemma awaited_append (h : k ∈ queue) (more : List K) :
    awaited lost k sent' (queue ++ more) = awaited lost k sent queue := by
  rw [awaited_of_mem h, awaited_of_mem (mem_append_left more h), idxOf_append_of_mem h]

variable (lost) in
/-- What is sent goes behind the queue. -/
lemma transmit_snd : ∀ (ds : List K) (sent : K → ℕ) (queue : List K),
    ∃ more, (transmit id lost sent queue ds).2 = queue ++ more ∧ ∀ k ∈ more, k ∈ ds
  | [], _, queue => ⟨[], (append_nil queue).symm, fun _ h => h⟩
  | d :: ds, sent, queue => by
    rw [transmit]
    split_ifs with hlost
    · obtain ⟨more, hmore, hsub⟩ :=
        transmit_snd ds (update sent d (sent d + 1)) queue
      exact ⟨more, hmore, fun k hk => mem_cons_of_mem d (hsub k hk)⟩
    obtain ⟨more, hmore, hsub⟩ :=
      transmit_snd ds (update sent d (sent d + 1)) (queue ++ [d])
    refine ⟨d :: more, ?_, ?_⟩
    · exact hmore.trans (append_cons queue d more).symm
    · intro k hk
      obtain rfl | hk := mem_cons.mp hk
      · exact mem_cons_self
      · exact mem_cons_of_mem d (hsub k hk)

/-- Of datagrams of different kinds, those arrive that are not lost. -/
lemma mem_transmit : ∀ {ds : List K} (sent : K → ℕ) (queue : List K), ds.Nodup →
    (k ∈ (transmit id lost sent queue ds).2 ↔ k ∈ queue ∨ k ∈ ds ∧ (k, sent k) ∉ lost)
  | [], _, _, _ => by simp [transmit]
  | d :: ds, sent, queue, hnodup => by
    obtain ⟨hd, hnodup⟩ := nodup_cons.mp hnodup
    rw [transmit, mem_transmit _ _ hnodup]
    by_cases hk : k = d
    · subst hk
      by_cases hlost : (k, sent k) ∈ lost <;> simp [hd, hlost]
    · have hsent : update sent (id d) (sent (id d) + 1) k = sent k :=
        update_of_ne hk _ _
      rw [hsent]
      by_cases hlost : (d, sent d) ∈ lost <;> simp [hk, hlost]

/-- What is not sent is not counted. -/
lemma transmit_sent_other : ∀ {ds : List K} (sent : K → ℕ) (queue : List K), k ∉ ds →
    (transmit id lost sent queue ds).1 k = sent k
  | [], _, _, _ => rfl
  | d :: ds, sent, queue, h => by
    rw [mem_cons, not_or] at h
    rw [transmit, transmit_sent_other _ _ h.2]
    exact update_of_ne h.1 _ _

/-- **The datagram is sent again.**  It gets into the queue, or there is one loss less to come; if
it is in the queue already, nothing changes. -/
lemma awaited_send (h : k ∉ queue) :
    awaited lost k (transmit id lost sent queue [k]).1 (transmit id lost sent queue [k]).2 <
      awaited lost k sent queue := by
  simp only [transmit, id_eq]
  split_ifs with hlost
  · rw [awaited_of_notMem h, awaited_of_notMem h, update_self, Prod.Lex.toLex_lt_toLex]
    exact Or.inr ⟨rfl, lossesFrom_succ hlost⟩
  · exact awaited_lt_of_mem (mem_append_right _ mem_cons_self) h

lemma awaited_send_of_mem (h : k ∈ queue) (ds : List K) :
    awaited lost k (transmit id lost sent queue ds).1 (transmit id lost sent queue ds).2 =
      awaited lost k sent queue := by
  obtain ⟨more, hmore, -⟩ := transmit_snd lost ds sent queue
  rw [hmore]
  exact awaited_append h more

/-- Something else is sent, to either end. -/
lemma awaited_sent_other {ds : List K} (h : k ∉ ds) :
    awaited lost k (transmit id lost sent queue' ds).1 queue = awaited lost k sent queue := by
  unfold awaited
  rw [transmit_sent_other _ _ h]

end Waiting

/-! ## Protocols that proceed stage by stage -/

section Ladder

variable {C S K : Type*}

/-- A datagram that one of the ends waits for. -/
inductive Wanted (K : Type*)
  | byServer (k : K)
  | byClient (k : K)
  deriving DecidableEq, Repr

def Wanted.swap : Wanted K → Wanted K
  | .byServer k => .byClient k
  | .byClient k => .byServer k

lemma Wanted.swap_injective : Function.Injective (Wanted.swap : Wanted K → Wanted K) := by
  rintro (j | j) (k | k) h <;> cases h <;> rfl

/-- A protocol in which each stage waits for one datagram: where its ends can meet, what each can
have sent by then, and what a stage waits for.  To read that datagram leads to a higher stage; to
read anything else leads to a higher stage or has no effect. -/
structure Ladder (C S K : Type*) where
  ends : Ends C S K
  Meet : C → S → Bool
  clientSends : C → List K
  serverSends : S → List K
  stage : C → S → ℕ
  wanted : C → S → Wanted K
  clientTimeout : ∀ c, ends.clientTimeout c ⊆ clientSends c
  serverTimeout : ∀ s, ends.serverTimeout s ⊆ serverSends s
  clientSends_receive : ∀ c s, Meet c s → ∀ k ∈ serverSends s,
    clientSends c ⊆ clientSends (ends.clientReceive c k).1 ∧
      (ends.clientReceive c k).2 ⊆ clientSends (ends.clientReceive c k).1
  serverSends_receive : ∀ c s, Meet c s → ∀ k ∈ clientSends c,
    serverSends s ⊆ serverSends (ends.serverReceive s k).1 ∧
      (ends.serverReceive s k).2 ⊆ serverSends (ends.serverReceive s k).1
  meet_clientReceive : ∀ c s, Meet c s → ∀ k ∈ serverSends s, Meet (ends.clientReceive c k).1 s
  meet_serverReceive : ∀ c s, Meet c s → ∀ k ∈ clientSends c, Meet c (ends.serverReceive s k).1
  stage_clientReceive : ∀ c s, Meet c s → ∀ k ∈ serverSends s,
    stage c s < stage (ends.clientReceive c k).1 s ∨
      wanted c s ≠ .byClient k ∧ (ends.clientReceive c k).2 = [] ∧
        stage (ends.clientReceive c k).1 s = stage c s ∧
        wanted (ends.clientReceive c k).1 s = wanted c s
  stage_serverReceive : ∀ c s, Meet c s → ∀ k ∈ clientSends c,
    stage c s < stage c (ends.serverReceive s k).1 ∨
      wanted c s ≠ .byServer k ∧ (ends.serverReceive s k).2 = [] ∧
        stage c (ends.serverReceive s k).1 = stage c s ∧
        wanted c (ends.serverReceive s k).1 = wanted c s
  serverTimeout_wanted : ∀ c s k, Meet c s → wanted c s = .byServer k → k ∉ ends.serverTimeout s
  clientTimeout_wanted : ∀ c s k, Meet c s → wanted c s = .byClient k → k ∉ ends.clientTimeout c

variable (L : Ladder C S K)

/-- The same protocol with the ends exchanged. -/
def Ladder.swap : Ladder S C K where
  ends := L.ends.swap
  Meet s c := L.Meet c s
  clientSends := L.serverSends
  serverSends := L.clientSends
  stage s c := L.stage c s
  wanted s c := (L.wanted c s).swap
  clientTimeout := L.serverTimeout
  serverTimeout := L.clientTimeout
  clientSends_receive s c := L.serverSends_receive c s
  serverSends_receive s c := L.clientSends_receive c s
  meet_clientReceive s c := L.meet_serverReceive c s
  meet_serverReceive s c := L.meet_clientReceive c s
  stage_clientReceive s c hmeet k hk := (L.stage_serverReceive c s hmeet k hk).imp_right
    fun ⟨hne, hsends, hstage, hwanted⟩ =>
      ⟨fun h => hne (Wanted.swap_injective h), hsends, hstage, congrArg Wanted.swap hwanted⟩
  stage_serverReceive s c hmeet k hk := (L.stage_clientReceive c s hmeet k hk).imp_right
    fun ⟨hne, hsends, hstage, hwanted⟩ =>
      ⟨fun h => hne (Wanted.swap_injective h), hsends, hstage, congrArg Wanted.swap hwanted⟩
  serverTimeout_wanted s c k hmeet h := L.clientTimeout_wanted c s k hmeet (Wanted.swap_injective h)
  clientTimeout_wanted s c k hmeet h := L.serverTimeout_wanted c s k hmeet (Wanted.swap_injective h)

/-- The ends can be where they are, and what is on the way can have been sent. -/
structure Ladder.Orderly (l : Link C S K K) : Prop where
  meet : L.Meet l.client l.server
  toServer : l.toServer ⊆ L.clientSends l.client
  toClient : l.toClient ⊆ L.serverSends l.server

/-- What is waited for is on the way, or it is what the other end sends when a read times out. -/
def Ladder.Ready (l : Link C S K K) : Prop :=
  match L.wanted l.client l.server with
  | .byServer k => k ∈ l.toServer ∨ L.ends.clientTimeout l.client = [k]
  | .byClient k => k ∈ l.toClient ∨ L.ends.serverTimeout l.server = [k]

variable [DecidableEq K] {L} {lost : Finset (K × ℕ)} {l : Link C S K K}

lemma transmit_subset {sends : List K} {sent : K → ℕ} {queue ds : List K} (hqueue : queue ⊆ sends)
    (hds : ds ⊆ sends) : (transmit id lost sent queue ds).2 ⊆ sends := by
  obtain ⟨more, hmore, hsub⟩ := transmit_snd lost ds sent queue
  rw [hmore]
  exact append_subset.mpr ⟨hqueue, fun k hk => hds (hsub k hk)⟩

/-- **The ends stay in order.** -/
theorem Ladder.Orderly.step (h : L.Orderly l) (e : LinkEvent) :
    L.Orderly (Link.step id lost L.ends l e) := by
  obtain ⟨client, server, toServer, toClient, sent⟩ := l
  obtain ⟨hmeet, htoServer, htoClient⟩ := h
  dsimp only at hmeet htoServer htoClient
  cases e with
  | clientTimeout => exact ⟨hmeet, transmit_subset htoServer (L.clientTimeout client), htoClient⟩
  | serverTimeout => exact ⟨hmeet, htoServer, transmit_subset htoClient (L.serverTimeout server)⟩
  | clientReads =>
    cases toClient with
    | nil => exact ⟨hmeet, htoServer, htoClient⟩
    | cons k queue =>
      have hk := htoClient mem_cons_self
      obtain ⟨hmono, hsends⟩ := L.clientSends_receive client server hmeet k hk
      exact ⟨L.meet_clientReceive client server hmeet k hk,
        transmit_subset (List.Subset.trans htoServer hmono) hsends,
        List.Subset.trans (subset_cons_self k queue) htoClient⟩
  | serverReads =>
    cases toServer with
    | nil => exact ⟨hmeet, htoServer, htoClient⟩
    | cons k queue =>
      have hk := htoServer mem_cons_self
      obtain ⟨hmono, hsends⟩ := L.serverSends_receive client server hmeet k hk
      exact ⟨L.meet_serverReceive client server hmeet k hk,
        List.Subset.trans (subset_cons_self k queue) htoServer,
        transmit_subset (List.Subset.trans htoClient hmono) hsends⟩

/-- How far the datagram is that the link waits for. -/
def Ladder.waiting (L : Ladder C S K) (lost : Finset (K × ℕ)) (l : Link C S K K) : ℕ ×ₗ ℕ :=
  match L.wanted l.client l.server with
  | .byServer k => awaited lost k l.sent l.toServer
  | .byClient k => awaited lost k l.sent l.toClient

/-- The stages that are left, and how far the datagram is that this one waits for. -/
def Ladder.rank (L : Ladder C S K) (lost : Finset (K × ℕ)) (top : ℕ) (l : Link C S K K) :
    ℕ ×ₗ ℕ ×ₗ ℕ :=
  toLex (top - L.stage l.client l.server, L.waiting lost l)

/-- To read the datagram, or to send it again. -/
def Ladder.helpful (L : Ladder C S K) (l : Link C S K K) : LinkEvent :=
  match L.wanted l.client l.server with
  | .byServer k => if k ∈ l.toServer then .serverReads else .clientTimeout
  | .byClient k => if k ∈ l.toClient then .clientReads else .serverTimeout

/-- What an event does: the rank gets lower; or nothing changes, and the event was not the one that
helps. -/
def Ladder.Moves (L : Ladder C S K) (lost : Finset (K × ℕ)) (top : ℕ) (l : Link C S K K)
    (e : LinkEvent) : Prop :=
  L.rank lost top (Link.step id lost L.ends l e) < L.rank lost top l ∨
    L.helpful l ≠ e ∧ L.rank lost top (Link.step id lost L.ends l e) = L.rank lost top l ∧
      L.helpful (Link.step id lost L.ends l e) = L.helpful l

variable {top : ℕ} {l' : Link C S K K}

lemma rank_lt_of_stage (htop : L.stage l.client l.server < top)
    (h : L.stage l.client l.server < L.stage l'.client l'.server) :
    L.rank lost top l' < L.rank lost top l := by
  unfold Ladder.rank
  rw [Prod.Lex.toLex_lt_toLex]
  exact Or.inl (by omega)

lemma rank_lt_of_waiting (hstage : L.stage l'.client l'.server = L.stage l.client l.server)
    (h : L.waiting lost l' < L.waiting lost l) : L.rank lost top l' < L.rank lost top l := by
  unfold Ladder.rank
  rw [Prod.Lex.toLex_lt_toLex, hstage]
  exact Or.inr ⟨rfl, h⟩

lemma rank_eq (hstage : L.stage l'.client l'.server = L.stage l.client l.server)
    (h : L.waiting lost l' = L.waiting lost l) : L.rank lost top l' = L.rank lost top l := by
  unfold Ladder.rank
  rw [hstage, h]

lemma waiting_byServer {k : K} (h : L.wanted l.client l.server = .byServer k) :
    L.waiting lost l = awaited lost k l.sent l.toServer := by
  rw [Ladder.waiting, h]

lemma waiting_byClient {k : K} (h : L.wanted l.client l.server = .byClient k) :
    L.waiting lost l = awaited lost k l.sent l.toClient := by
  rw [Ladder.waiting, h]

lemma helpful_byServer {k : K} (h : L.wanted l.client l.server = .byServer k) :
    L.helpful l = if k ∈ l.toServer then .serverReads else .clientTimeout := by
  rw [Ladder.helpful, h]

lemma helpful_byClient {k : K} (h : L.wanted l.client l.server = .byClient k) :
    L.helpful l = if k ∈ l.toClient then .clientReads else .serverTimeout := by
  rw [Ladder.helpful, h]

lemma Ladder.Orderly.clientReads (h : L.Orderly l) (htop : L.stage l.client l.server < top) :
    L.Moves lost top l .clientReads := by
  obtain ⟨client, server, toServer, toClient, sent⟩ := l
  obtain ⟨hmeet, -, htoClient⟩ := h
  dsimp only at hmeet htoClient htop
  cases toClient with
  | nil =>
    refine Or.inr ⟨?_, rfl, rfl⟩
    cases hw : L.wanted client server with
    | byServer k =>
      rw [helpful_byServer hw]
      split_ifs <;> simp
    | byClient k =>
      rw [helpful_byClient hw, if_neg not_mem_nil]
      simp
  | cons k₀ queue =>
    obtain hup | ⟨hne, hsends, hstage, hwanted⟩ :=
      L.stage_clientReceive client server hmeet k₀ (htoClient mem_cons_self)
    · exact Or.inl (rank_lt_of_stage htop hup)
    · -- nothing is sent, and the link waits for the same datagram
      have hstep : Link.step id lost L.ends ⟨client, server, toServer, k₀ :: queue, sent⟩
          .clientReads = ⟨(L.ends.clientReceive client k₀).1, server, toServer, queue, sent⟩ := by
        simp only [Link.step, hsends]
        rfl
      unfold Ladder.Moves
      rw [hstep]
      cases hw : L.wanted client server with
      | byServer k =>
        have hw' := hwanted.trans hw
        refine Or.inr ⟨?_, rank_eq hstage ?_, ?_⟩
        · rw [helpful_byServer hw]
          split_ifs <;> simp
        · rw [waiting_byServer hw', waiting_byServer hw]
        · rw [helpful_byServer hw', helpful_byServer hw]
      | byClient k =>
        have hw' := hwanted.trans hw
        have hk : k₀ ≠ k := by
          rintro rfl
          exact hne hw
        by_cases hmem : k ∈ k₀ :: queue
        · refine Or.inl (rank_lt_of_waiting hstage ?_)
          rw [waiting_byClient hw', waiting_byClient hw]
          exact awaited_pop hk hmem
        have hmem' : k ∉ queue := fun hq => hmem (mem_cons_of_mem k₀ hq)
        refine Or.inr ⟨?_, rank_eq hstage ?_, ?_⟩
        · rw [helpful_byClient hw, if_neg hmem]
          simp
        · rw [waiting_byClient hw', waiting_byClient hw]
          exact awaited_pop_of_notMem hmem
        · rw [helpful_byClient hw', helpful_byClient hw, if_neg hmem, if_neg hmem']

lemma Ladder.Orderly.clientTimeout (h : L.Orderly l) (hready : L.Ready l) :
    L.Moves lost top l .clientTimeout := by
  obtain ⟨client, server, toServer, toClient, sent⟩ := l
  have hmeet := h.meet
  unfold Ladder.Ready at hready
  dsimp only at hmeet hready
  obtain ⟨more, hmore, -⟩ := transmit_snd lost (L.ends.clientTimeout client) sent toServer
  cases hw : L.wanted client server with
  | byServer k =>
    rw [hw] at hready
    dsimp only at hready
    have hw' : L.wanted (Link.step id lost L.ends ⟨client, server, toServer, toClient, sent⟩
        .clientTimeout).client server = .byServer k := hw
    by_cases hmem : k ∈ toServer
    · refine Or.inr ⟨?_, rank_eq rfl ?_, ?_⟩
      · rw [helpful_byServer hw, if_pos hmem]
        simp
      · rw [waiting_byServer hw', waiting_byServer hw]
        exact awaited_send_of_mem hmem _
      · have hmem' : k ∈ (transmit id lost sent toServer (L.ends.clientTimeout client)).2 := by
          rw [hmore]
          exact mem_append_left more hmem
        rw [helpful_byServer hw', helpful_byServer hw, if_pos hmem]
        exact if_pos hmem'
    · refine Or.inl (rank_lt_of_waiting rfl ?_)
      rw [waiting_byServer hw', waiting_byServer hw]
      simp only [Link.step, Link.fromClient, hready.resolve_left hmem]
      exact awaited_send hmem
  | byClient k =>
    have hother := L.clientTimeout_wanted client server k hmeet hw
    have hw' : L.wanted (Link.step id lost L.ends ⟨client, server, toServer, toClient, sent⟩
        .clientTimeout).client server = .byClient k := hw
    refine Or.inr ⟨?_, rank_eq rfl ?_, ?_⟩
    · rw [helpful_byClient hw]
      split_ifs <;> simp
    · rw [waiting_byClient hw', waiting_byClient hw]
      exact awaited_sent_other hother
    · rw [helpful_byClient hw', helpful_byClient hw]
      rfl

lemma rank_swap : L.swap.rank lost top l.swap = L.rank lost top l := by
  have hwaiting : L.swap.waiting lost l.swap = L.waiting lost l := by
    cases hw : L.wanted l.client l.server with
    | byServer k =>
      rw [waiting_byServer hw]
      exact waiting_byClient (congrArg Wanted.swap hw)
    | byClient k =>
      rw [waiting_byClient hw]
      exact waiting_byServer (congrArg Wanted.swap hw)
  unfold Ladder.rank
  rw [hwaiting]
  rfl

lemma helpful_swap : L.swap.helpful l.swap = (L.helpful l).swap := by
  cases hw : L.wanted l.client l.server with
  | byServer k =>
    rw [helpful_byServer hw]
    refine (helpful_byClient (congrArg Wanted.swap hw)).trans ?_
    by_cases hmem : k ∈ l.toServer
    · rw [if_pos hmem]
      exact if_pos hmem
    · rw [if_neg hmem]
      exact if_neg hmem
  | byClient k =>
    rw [helpful_byClient hw]
    refine (helpful_byServer (congrArg Wanted.swap hw)).trans ?_
    by_cases hmem : k ∈ l.toClient
    · rw [if_pos hmem]
      exact if_pos hmem
    · rw [if_neg hmem]
      exact if_neg hmem

lemma swap_injective : Function.Injective LinkEvent.swap := by
  intro e e'
  cases e <;> cases e' <;> simp [LinkEvent.swap]

lemma Ladder.Moves.of_swap {e : LinkEvent} (h : L.swap.Moves lost top l.swap e.swap) :
    L.Moves lost top l e := by
  have hstep : Link.step id lost L.swap.ends l.swap e.swap = (Link.step id lost L.ends l e).swap :=
    (Link.step_swap id lost L.ends l e).symm
  unfold Ladder.Moves at h
  rw [hstep, rank_swap, rank_swap, helpful_swap, helpful_swap] at h
  exact h.imp_right fun ⟨hne, hrank, hhelpful⟩ =>
    ⟨fun he => hne (congrArg LinkEvent.swap he), hrank, swap_injective hhelpful⟩

omit [DecidableEq K] in
lemma Ladder.Orderly.swap (h : L.Orderly l) : L.swap.Orderly l.swap :=
  ⟨h.meet, h.toClient, h.toServer⟩

omit [DecidableEq K] in
lemma Ladder.Ready.swap (h : L.Ready l) : L.swap.Ready l.swap := by
  unfold Ladder.Ready at h ⊢
  have hwanted : L.swap.wanted l.swap.client l.swap.server = (L.wanted l.client l.server).swap :=
    rfl
  rw [hwanted]
  cases hw : L.wanted l.client l.server with
  | byServer k | byClient k =>
    rw [hw] at h
    exact h

lemma Ladder.Orderly.moves (h : L.Orderly l) (hready : L.Ready l)
    (htop : L.stage l.client l.server < top) (e : LinkEvent) : L.Moves lost top l e := by
  cases e with
  | clientTimeout => exact h.clientTimeout hready
  | serverTimeout => exact Ladder.Moves.of_swap (h.swap.clientTimeout hready.swap)
  | clientReads => exact h.clientReads htop
  | serverReads => exact Ladder.Moves.of_swap (h.swap.clientReads htop)

variable (L top) in
/-- **Every stage is left.**  If what is waited for is always on the way or sent again, a fair
schedule leads to the top. -/
theorem Ladder.climbs {Inv : Link C S K K → Prop} {sched : ℕ → LinkEvent} (hfair : Fair sched)
    (hinv : ∀ l e, Inv l → Inv (Link.step id lost L.ends l e)) (horderly : ∀ l, Inv l → L.Orderly l)
    (hready : ∀ l, Inv l → L.stage l.client l.server < top → L.Ready l) (hl : Inv l) :
    ∃ n, top ≤ L.stage (after (Link.step id lost L.ends) l sched n).client
      (after (Link.step id lost L.ends) l sched n).server := by
  have hmoves : ∀ l e, Inv l → ¬ top ≤ L.stage l.client l.server → L.Moves lost top l e :=
    fun l e hl htop => (horderly l hl).moves (hready l hl (not_le.mp htop)) (not_le.mp htop) e
  refine hfair.reaches (fun l => top ≤ L.stage l.client l.server) (L.rank lost top) L.helpful hinv
    ?_ ?_ hl
  · intro l hl htop
    obtain hlt | ⟨hne, -⟩ := hmoves l (L.helpful l) hl htop
    · exact Or.inr hlt
    · exact absurd rfl hne
  · intro l e hl htop
    obtain hlt | ⟨-, hsame⟩ := hmoves l e hl htop
    · exact Or.inl (Or.inr hlt)
    · exact Or.inr hsame

/-! ## Datagrams that are sent once -/

/-- The client sends `k` when it gets to where `Begun` holds, and the server has got it where
`Arrived` holds. -/
structure Ladder.SendsOnce (L : Ladder C S K) (k : K) (Begun : C → Prop) (Arrived : S → Prop) :
    Prop where
  clientTimeout : ∀ c, k ∉ L.ends.clientTimeout c
  serverTimeout : ∀ s, k ∉ L.ends.serverTimeout s
  serverReceive : ∀ s j, k ∉ (L.ends.serverReceive s j).2
  nodup : ∀ c j, (L.ends.clientReceive c j).2.Nodup
  stays : ∀ c j, Begun c → Begun (L.ends.clientReceive c j).1 ∧ k ∉ (L.ends.clientReceive c j).2
  begins : ∀ c j, ¬ Begun c →
    (Begun (L.ends.clientReceive c j).1 ↔ k ∈ (L.ends.clientReceive c j).2)
  arrived : ∀ c s, L.Meet c s → ∀ j ∈ L.clientSends c,
    (Arrived (L.ends.serverReceive s j).1 ↔ Arrived s ∨ j = k)

/-- It is not sent before; afterwards it is on the way or has arrived, unless it was lost. -/
structure Once (lost : Finset (K × ℕ)) (k : K) (Begun : C → Prop) (Arrived : S → Prop)
    (l : Link C S K K) : Prop where
  before : ¬ Begun l.client → l.sent k = 0 ∧ k ∉ l.toServer ∧ ¬ Arrived l.server
  behind : Begun l.client → ((k, 0) ∉ lost ↔ k ∈ l.toServer ∨ Arrived l.server)

lemma mem_transmit_other {k : K} {sent : K → ℕ} {queue ds : List K} (h : k ∉ ds) :
    k ∈ (transmit id lost sent queue ds).2 ↔ k ∈ queue := by
  obtain ⟨more, hmore, hsub⟩ := transmit_snd lost ds sent queue
  rw [hmore, mem_append, or_iff_left fun hk => h (hsub k hk)]

variable {k : K} {Begun : C → Prop} {Arrived : S → Prop}

theorem Once.step (hL : L.SendsOnce k Begun Arrived) (horderly : L.Orderly l)
    (h : Once lost k Begun Arrived l) (e : LinkEvent) :
    Once lost k Begun Arrived (Link.step id lost L.ends l e) := by
  obtain ⟨client, server, toServer, toClient, sent⟩ := l
  obtain ⟨hmeet, htoServer, -⟩ := horderly
  obtain ⟨hbefore, hbehind⟩ := h
  dsimp only at hmeet htoServer hbefore hbehind
  cases e with
  | clientTimeout =>
    have hmem := @mem_transmit_other _ _ lost k sent toServer _ (hL.clientTimeout client)
    have hsent := @transmit_sent_other _ _ lost k _ sent toServer (hL.clientTimeout client)
    refine ⟨fun hc => ?_, fun hc => (hbehind hc).trans (or_congr_left hmem.symm)⟩
    obtain ⟨hzero, hnot, harrived⟩ := hbefore hc
    exact ⟨hsent.trans hzero, fun hk => hnot (hmem.mp hk), harrived⟩
  | serverTimeout =>
    have hsent := @transmit_sent_other _ _ lost k _ sent toClient (hL.serverTimeout server)
    refine ⟨fun hc => ?_, hbehind⟩
    obtain ⟨hzero, hrest⟩ := hbefore hc
    exact ⟨hsent.trans hzero, hrest⟩
  | clientReads =>
    cases toClient with
    | nil => exact ⟨hbefore, hbehind⟩
    | cons j queue =>
      have hmem := @mem_transmit _ _ lost k _ sent toServer (hL.nodup client j)
      by_cases hc : Begun client
      · obtain ⟨hbegun, hother⟩ := hL.stays client j hc
        refine ⟨fun hnot => absurd hbegun hnot, fun _ => (hbehind hc).trans ?_⟩
        exact or_congr_left (mem_transmit_other hother).symm
      obtain ⟨hzero, hnot, harrived⟩ := hbefore hc
      refine ⟨fun hnext => ?_, fun hnext => ?_⟩
      · have hother := fun hk => hnext ((hL.begins client j hc).mpr hk)
        exact ⟨(transmit_sent_other sent toServer hother).trans hzero,
          fun hk => hnot ((mem_transmit_other hother).mp hk), harrived⟩
      · have hk := (hL.begins client j hc).mp hnext
        refine Iff.trans ?_ (or_iff_left harrived).symm
        refine Iff.trans ?_ hmem.symm
        rw [hzero, or_iff_right hnot]
        exact (and_iff_right hk).symm
  | serverReads =>
    cases toServer with
    | nil => exact ⟨hbefore, hbehind⟩
    | cons j queue =>
      have hnext := hL.arrived client server hmeet j (htoServer mem_cons_self)
      have hsent := @transmit_sent_other _ _ lost k _ sent toClient (hL.serverReceive server j)
      refine ⟨fun hc => ?_, fun hc => (hbehind hc).trans ?_⟩
      · obtain ⟨hzero, hnot, harrived⟩ := hbefore hc
        rw [mem_cons, not_or] at hnot
        refine ⟨hsent.trans hzero, hnot.2, fun h => ?_⟩
        exact (hnext.mp h).elim harrived fun hj => hnot.1 hj.symm
      · refine Iff.trans ?_ (or_congr_right hnext.symm)
        rw [mem_cons, eq_comm]
        tauto

end Ladder

end Veepin
