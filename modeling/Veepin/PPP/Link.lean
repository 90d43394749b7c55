import Veepin.Core.Fair
import Veepin.PPP.Progress
import Veepin.PPP.Sessions

/-!
# A client session and a server session on a lossy carrier

The two sessions of `internal/ppp` with the frames between them, on a carrier that may lose,
duplicate and delay them, such as the data channel of L2TP.

* `Link.simulates` — every orderly event is a step of the negotiation;
* `negotiation_ends` — a link that waits has an armed timer, and both sides are up or closed in the
  end, in every run in which no CHAP frame is lost or duplicated and no timer runs out while the
  other side is still at it;
* `challenge_lost` — both sides wait for good after the challenge is lost.
-/

namespace Veepin.PPP

open List

/-! ## The link -/

/-- The two sessions, and the frames on their way to each. -/
structure Link where
  client : Client
  server : Server
  toClient : List Frame := []
  toServer : List Frame := []

namespace Link

def phase (l : Link) : Side → Phase
  | .client => l.client.phase
  | .server => l.server.phase

def flight (l : Link) : Side → List Frame
  | .client => l.toClient
  | .server => l.toServer

def restart (l : Link) : Side → Proto → RestartTimer
  | .client => l.client.restart
  | .server => l.server.restart

/-- The client has acted; what it has sent is under way. -/
def clientTurn (l : Link) (c : Client) : Link :=
  { l with
    client := c
    toServer := l.toServer ++ (c.log.drop l.client.log.length).filterMap ClientAction.frame }

def serverTurn (l : Link) (s : Server) : Link :=
  { l with
    server := s
    toClient := l.toClient ++ (s.log.drop l.server.log.length).filterMap Action.frame }

variable (e : LinkEnv)

def step (l : Link) : LinkEvent Frame → Link
  | .deliver .client f =>
    if f ∈ l.toClient then
      { l with toClient := l.toClient.erase f }.clientTurn
        (l.client.receive e.client (frameBytes f))
    else l
  | .deliver .server f =>
    if f ∈ l.toServer then
      { l with toServer := l.toServer.erase f }.serverTurn
        (l.server.receive e.server (frameBytes f))
    else l
  | .lose .client f => { l with toClient := l.toClient.erase f }
  | .lose .server f => { l with toServer := l.toServer.erase f }
  | .duplicate .client f => if f ∈ l.toClient then { l with toClient := l.toClient ++ [f] } else l
  | .duplicate .server f => if f ∈ l.toServer then { l with toServer := l.toServer ++ [f] } else l
  | .timer .client .lcp => l.clientTurn (l.client.lcpTimeout e.client)
  | .timer .client .ipcp => l.clientTurn (l.client.ipcpTimeout e.client)
  | .timer .server .lcp => l.serverTurn (l.server.lcpTimeout e.server)
  | .timer .server .ipcp => l.serverTurn (l.server.ipcpTimeout e.server)
  | .echo => l.clientTurn (l.client.sendEcho e.client)

/-- Both sessions have been started. -/
def new : Link :=
  let l : Link := { client := { magic := e.clientMagic }, server := { magic := e.serverMagic } }
  let l := l.clientTurn (l.client.sendLCPConfigReq e.client)
  l.serverTurn (l.server.sendLCPConfigReq e.server)

/-- A side is neither up nor closed, and nothing is under way. -/
def Waits (l : Link) : Prop := (∃ x, ¬ (l.phase x).Done) ∧ ∀ x, l.flight x = []

/-- **A link that waits has an armed timer.** -/
def Guarded (l : Link) : Prop := l.Waits → ∃ x p, (l.restart x p).armed = true

/-- No frame of CHAP is lost or duplicated, and no timer runs out while the other side is neither up
nor closed. -/
def Orderly (l : Link) : LinkEvent Frame → Prop
  | .lose _ f | .duplicate _ f => f.1 ≠ protocolCHAP
  | .timer x p => Server.maxConfigure ≤ (l.restart x p).tries + 1 → (l.phase x.other).Done
  | _ => True

end Link

/-! ## The link and the negotiation -/

variable {x : Side} {f : Frame} {out : List Frame} {c : Client} {s : Server}

section Simulation

variable {e : LinkEnv} {l : Link}

lemma isCHAP_kindOf (e : LinkEnv) (x : Side) (f : Frame) :
    (kindOf e x f).isCHAP = decide (f.1 = protocolCHAP) := by
  by_cases hlcp : f.1 = protocolLCP
  · have hne : f.1 ≠ protocolCHAP := hlcp ▸ (by decide)
    rw [kindOf, if_pos hlcp, decide_eq_false hne]
    split_ifs <;> rfl
  rw [kindOf, if_neg hlcp]
  by_cases hchap : f.1 = protocolCHAP
  · rw [if_pos hchap, decide_eq_true hchap]
    split_ifs <;> rfl
  · rw [if_neg hchap, decide_eq_false hchap]
    split_ifs <;> rfl

lemma kindOf_of_not_chap (h : f.1 ≠ protocolCHAP) : (kindOf e x f).isCHAP = false := by
  rw [isCHAP_kindOf, decide_eq_false h]

namespace Link

def half (e : LinkEnv) (l : Link) : Side → Half
  | .client => l.client.half e
  | .server => l.server.half

/-- The link as the negotiation sees it. -/
def talk (e : LinkEnv) (l : Link) : Talk Frame := ⟨l.half e, l.flight⟩

lemma phase_talk (e : LinkEnv) (l : Link) (x : Side) : ((l.talk e).half x).phase = l.phase x := by
  cases x <;> rfl

lemma armed_talk (e : LinkEnv) (l : Link) (x : Side) (p : Proto) :
    (((l.talk e).half x).cp p).armed = (l.restart x p).armed := by
  cases x <;> cases p <;> rfl

/-- The sessions have what they need, and the CHAP frame that is under way is the next one of the
exchange that they remember. -/
structure Sound (e : LinkEnv) (l : Link) : Prop where
  client : l.client.Equipped e
  server : l.server.Equipped e
  fit : ∀ x, ∀ f ∈ l.flight x, Fit e x f
  challenge : ∀ f ∈ l.toClient, kindOf e .client f = .challenge →
    f.2.body = buildChallenge l.server.authChallenge Server.name ∧
      l.server.authChallenge.length = 16
  response : ∀ f ∈ l.toServer, kindOf e .server f = .response →
    f.2.body = responseBody l.client.peerChallenge l.client.ntResponse e.username ∧
      l.client.Answered e l.server.authChallenge
  success : ∀ f ∈ l.toClient, kindOf e .client f = .success →
    verifySuccess e.mschap f.2.body l.client.authChallenge l.client.peerChallenge e.username
      e.password l.client.ntResponse = true

lemma drop_frames {A : Type*} {g : A → Option Frame} {old new : List A}
    (h : ∃ as, new = old ++ as ∧ as.filterMap g = out) :
    (new.drop old.length).filterMap g = out := by
  obtain ⟨as, rfl, rfl⟩ := h
  rw [drop_left]

lemma clientTurn_eq (h : ∃ as, c.log = l.client.log ++ as ∧ as.filterMap ClientAction.frame = out) :
    l.clientTurn c = { l with client := c, toServer := l.toServer ++ out } := by
  rw [clientTurn, drop_frames h]

lemma serverTurn_eq (h : ∃ as, s.log = l.server.log ++ as ∧ as.filterMap Action.frame = out) :
    l.serverTurn s = { l with server := s, toClient := l.toClient ++ out } := by
  rw [serverTurn, drop_frames h]

lemma clientTurn_self (l : Link) : l.clientTurn l.client = l := by
  rw [clientTurn_eq ⟨[], (append_nil _).symm, rfl⟩, filterMap_nil, append_nil]

lemma serverTurn_self (l : Link) : l.serverTurn l.server = l := by
  rw [serverTurn_eq ⟨[], (append_nil _).symm, rfl⟩, filterMap_nil, append_nil]

/-- Frames are taken off or come twice. -/
lemma Sound.frames (h : l.Sound e) {toClient toServer : List Frame}
    (hc : ∀ f ∈ toClient, f ∈ l.toClient) (hs : ∀ f ∈ toServer, f ∈ l.toServer) :
    Sound e { l with toClient, toServer } := by
  refine ⟨h.client, h.server, fun x f hf => ?_, fun f hf => h.challenge f (hc f hf),
    fun f hf => h.response f (hs f hf), fun f hf => h.success f (hc f hf)⟩
  cases x with
  | client => exact h.fit .client f (hc f hf)
  | server => exact h.fit .server f (hs f hf)

/-- The client does something that has nothing to do with CHAP. -/
lemma Sound.client_goes (h : l.Sound e) (hg : l.client.Goes e c out) (hc : c.Equipped e) :
    Sound e { l with client := c, toServer := l.toServer ++ out } := by
  refine ⟨hc, h.server, fun x f hf => ?_, h.challenge, fun f hf hk => ?_, fun f hf hk => ?_⟩
  · cases x with
    | client => exact h.fit .client f hf
    | server => exact (mem_append.1 hf).elim (h.fit .server f) fun hf => (hg.fit f hf).1
  · rcases mem_append.1 hf with hf | hf
    · obtain ⟨hbody, hac, hpc, hnt⟩ := h.response f hf hk
      dsimp only
      rw [hg.peerChallenge, hg.ntResponse]
      exact ⟨hbody, hg.authChallenge.trans hac, hg.peerChallenge ▸ hpc,
        by rw [hg.ntResponse, hg.peerChallenge]; exact hnt⟩
    · have := kindOf_of_not_chap (e := e) (x := .server) (hg.fit f hf).2
      rw [hk] at this
      exact nomatch this
  · dsimp only
    rw [hg.authChallenge, hg.peerChallenge, hg.ntResponse]
    exact h.success f hf hk

/-- The server does something that has nothing to do with CHAP. -/
lemma Sound.server_goes (h : l.Sound e) (hg : l.server.Goes e s out) (hs : s.Equipped e) :
    Sound e { l with server := s, toClient := l.toClient ++ out } := by
  have hnot : ∀ f ∈ out, (kindOf e .client f).isCHAP = false := fun f hf =>
    kindOf_of_not_chap (hg.fit f hf).2
  refine ⟨h.client, hs, fun x f hf => ?_, fun f hf hk => ?_, fun f hf hk => ?_, fun f hf hk => ?_⟩
  · cases x with
    | client => exact (mem_append.1 hf).elim (h.fit .client f) fun hf => (hg.fit f hf).1
    | server => exact h.fit .server f hf
  · rcases mem_append.1 hf with hf | hf
    · dsimp only
      rw [hg.authChallenge]
      exact h.challenge f hf hk
    · exact nomatch hk ▸ hnot f hf
  · dsimp only
    rw [hg.authChallenge]
    exact h.response f hf hk
  · rcases mem_append.1 hf with hf | hf
    · exact h.success f hf hk
    · exact nomatch hk ▸ hnot f hf

/-- The event is a step of the negotiation. -/
abbrev Simulates (e : LinkEnv) (l : Link) (ev : LinkEvent Frame) (l' : Link) : Prop :=
  (l.talk e).Step (kindOf e) e.auth ev (l'.talk e) ∧ l'.Sound e

variable (hfit : e.Fits) (hs : l.Sound e) (hi : (l.talk e).Inv (kindOf e) e.auth)

include hfit hs hi

lemma simulates_client (hf : f ∈ l.toClient) :
    l.Simulates e (.deliver .client f) (l.step e (.deliver .client f)) := by
  have hstep : l.step e (.deliver .client f) = { l with toClient := l.toClient.erase f }.clientTurn
        (l.client.receive e.client (frameBytes f)) := if_pos hf
  have hsub : Sound e { l with toClient := l.toClient.erase f } :=
    hs.frames (fun g hg => mem_of_mem_erase hg) fun g hg => hg
  rw [hstep]
  by_cases hclosed : l.client.phase = .closed
  · have hreceive : l.client.receive e.client (frameBytes f) = l.client := by
      rw [Client.receive, (hs.fit .client f hf).packetOf hfit]
      exact if_pos hclosed
    rw [hreceive, show ({ l with toClient := l.toClient.erase f } : Link).clientTurn l.client = _
      from clientTurn_self _]
    exact ⟨.ignore .client f hf hclosed ⟨rfl, rfl, rfl, rfl⟩, hsub⟩
  obtain ⟨out, hreply, hanswer⟩ := Client.turn hs.client (hi.sound .client) hfit hclosed
    (hs.fit .client f hf) (hs.challenge f hf) (hs.success f hf) fun hk => by
      have := hi.carries .client f hf
      rw [hk] at this
      exact this.2
  rw [clientTurn_eq (l := { l with toClient := l.toClient.erase f }) hreply.log]
  refine ⟨.deliver .client f hf hclosed _ out hreply.turn ⟨rfl, rfl, rfl, rfl⟩, ?_⟩
  by_cases hk : kindOf e .client f = .challenge
  · obtain ⟨hans, hout⟩ := hanswer hk
    have hmem : f ∈ (l.talk e).chaps (kindOf e) .client := Talk.mem_chaps.2 ⟨hf, hk ▸ rfl⟩
    have honly : ∀ {y : Side} {g : Frame}, g ∈ l.flight y → (kindOf e y g).isCHAP = true →
        Side.client = y ∧ f = g := fun hg hchap =>
      hi.token.unique hmem (Talk.mem_chaps.2 ⟨hg, hchap⟩)
    refine ⟨hreply.sound, hs.server, fun x g hg => ?_, fun g hg => ?_, fun g hg hk' => ?_,
      fun g hg hk' => ?_⟩
    · cases x with
      | client => exact hsub.fit .client g hg
      | server => exact (mem_append.1 hg).elim (hs.fit .server g) (hreply.fit g)
    · exact hs.challenge g (mem_of_mem_erase hg)
    · rcases mem_append.1 hg with hg | hg
      · cases (honly (y := .server) hg (hk' ▸ rfl)).1
      · exact ⟨hout g hg, hans⟩
    · obtain ⟨-, rfl⟩ := honly (y := .client) (mem_of_mem_erase hg) (hk' ▸ rfl)
      cases hk.symm.trans hk'
  · exact hsub.client_goes (hreply.same hk) hreply.sound

lemma simulates_server (hf : f ∈ l.toServer) :
    l.Simulates e (.deliver .server f) (l.step e (.deliver .server f)) := by
  have hstep : l.step e (.deliver .server f) = { l with toServer := l.toServer.erase f }.serverTurn
        (l.server.receive e.server (frameBytes f)) := if_pos hf
  have hsub : Sound e { l with toServer := l.toServer.erase f } :=
    hs.frames (fun g hg => hg) fun g hg => mem_of_mem_erase hg
  rw [hstep]
  by_cases hclosed : l.server.phase = .closed
  · have hreceive : l.server.receive e.server (frameBytes f) = l.server := by
      rw [Server.receive, (hs.fit .server f hf).packetOf hfit]
      exact if_pos hclosed
    rw [hreceive, show ({ l with toServer := l.toServer.erase f } : Link).serverTurn l.server = _
      from serverTurn_self _]
    exact ⟨.ignore .server f hf hclosed ⟨rfl, rfl, rfl, rfl⟩, hsub⟩
  obtain ⟨out, hreply⟩ := Server.turn hfit hs.server (hi.sound .server) hclosed
    (hs.fit .server f hf) fun hk => ⟨(hs.response f hf hk).1, (hs.response f hf hk).2.peerChallenge,
      (hs.response f hf hk).2.ntResponse⟩
  rw [serverTurn_eq (l := { l with toServer := l.toServer.erase f }) hreply.log]
  refine ⟨.deliver .server f hf hclosed _ out hreply.turn ⟨rfl, rfl, rfl, rfl⟩, ?_⟩
  have hfits : ∀ x, ∀ g ∈ Link.flight { l with
      server := l.server.receive e.server (frameBytes f)
      toServer := l.toServer.erase f
      toClient := l.toClient ++ out } x, Fit e x g := fun x g hg => by
    cases x with
    | client => exact (mem_append.1 hg).elim (hs.fit .client g) (hreply.fit g)
    | server => exact hsub.fit .server g hg
  have hchap : ∀ {y : Side} {g : Frame}, (kindOf e y g).isCHAP = true → g.1 = protocolCHAP :=
    fun h => of_decide_eq_true ((isCHAP_kindOf _ _ _).symm.trans h)
  cases hreply.chap with
  | plain hg => exact hsub.server_goes hg hreply.equipped
  | challenged hph hauth hac hout =>
    have hnone : ∀ {y : Side} {g : Frame}, g ∈ l.flight y → (kindOf e y g).isCHAP = true →
        False := fun {y g} hg hk => by
      have hmem : g ∈ (l.talk e).chaps (kindOf e) y := Talk.mem_chaps.2 ⟨hg, hk⟩
      rw [hi.token.none_of_lcp hauth hph] at hmem
      cases hmem
    refine ⟨hs.client, hreply.equipped, hfits, fun g hg hk => ?_, fun g hg hk => ?_,
      fun g hg hk => ?_⟩
    · rcases mem_append.1 hg with hg | hg
      · exact (hnone (y := .client) hg (hk ▸ rfl)).elim
      · exact ⟨(hout g hg (hchap (y := .client) (hk ▸ rfl))).2, hac⟩
    · exact (hnone (y := .server) (mem_of_mem_erase hg) (hk ▸ rfl)).elim
    · rcases mem_append.1 hg with hg | hg
      · exact (hnone (y := .client) hg (hk ▸ rfl)).elim
      · cases hk.symm.trans (hout g hg (hchap (y := .client) (hk ▸ rfl))).1
  | judged hk hac hout =>
    obtain ⟨hbody, hans⟩ := hs.response f hf hk
    refine ⟨hs.client, hreply.equipped, hfits, fun g hg hk' => ?_, fun g hg hk' => ?_,
      fun g hg hk' => ?_⟩
    · rcases mem_append.1 hg with hg | hg
      · dsimp only
        rw [hac]
        exact hs.challenge g hg hk'
      · rcases hout g hg (hchap (y := .client) (hk' ▸ rfl)) with h | h
        · cases hk'.symm.trans h
        · cases hk'.symm.trans h.1
    · dsimp only
      rw [hac]
      exact hs.response g (mem_of_mem_erase hg) hk'
    · rcases mem_append.1 hg with hg | hg
      · exact hs.success g hg hk'
      · rcases hout g hg (hchap (y := .client) (hk' ▸ rfl)) with h | h
        · cases hk'.symm.trans h
        · dsimp only
          rw [hans.authChallenge]
          exact h.2 _ _ hbody hans.peerChallenge hans.ntResponse

omit hfit hs in
/-- IPCP has begun where its timer is armed. -/
lemma begun_of_armed (x : Side) (harmed : (l.restart x .ipcp).armed = true)
    (hopen : l.phase x ≠ .closed) : l.phase x = .ipcp ∨ l.phase x = .up := by
  rw [← armed_talk e] at harmed
  rw [← phase_talk e] at hopen ⊢
  refine Phase.Late.active ?_ hopen
  by_contra hl
  exact nomatch harmed.symm.trans ((hi.sound x).early hl).2

lemma simulates_clientTimer (p : Proto) (ho : l.Orderly (.timer .client p)) :
    l.Simulates e (.timer .client p) (l.step e (.timer .client p)) := by
  obtain ⟨c, hstep, htimeout⟩ : ∃ c, l.step e (.timer .client p) = l.clientTurn c ∧
      l.client.Timeout e p c := by
    cases p with
    | lcp => exact ⟨_, rfl, Client.timeout_lcp hs.client⟩
    | ipcp => exact ⟨_, rfl, Client.timeout_ipcp hs.client hfit (begun_of_armed hi .client)⟩
  rw [hstep]
  cases htimeout with
  | moot hmoot heq =>
    rw [heq, clientTurn_self]
    exact ⟨.moot _ (hmoot.imp id fun h => (armed_talk e l .client p).trans h) rfl, hs⟩
  | fire f hopen harmed hgoes hequipped hhalf hkind =>
    rw [clientTurn_eq hgoes.log]
    exact ⟨.fire .client p hopen f ((armed_talk e l .client p).trans harmed) hkind
      ⟨hhalf, rfl, rfl, rfl⟩, hs.client_goes hgoes hequipped⟩
  | runOut htries hgoes hequipped hhalf =>
    rw [clientTurn_eq hgoes.log]
    refine ⟨.runOut .client p ?_ ⟨hhalf, rfl, rfl, append_nil _⟩, hs.client_goes hgoes hequipped⟩
    exact ho htries

lemma simulates_serverTimer (p : Proto) (ho : l.Orderly (.timer .server p)) :
    l.Simulates e (.timer .server p) (l.step e (.timer .server p)) := by
  obtain ⟨s, hstep, htimeout⟩ : ∃ s, l.step e (.timer .server p) = l.serverTurn s ∧
      l.server.Timeout e p s := by
    cases p with
    | lcp => exact ⟨_, rfl, Server.timeout_lcp hs.server⟩
    | ipcp => exact ⟨_, rfl, Server.timeout_ipcp hfit hs.server (begun_of_armed hi .server)⟩
  rw [hstep]
  cases htimeout with
  | moot hmoot heq =>
    rw [heq, serverTurn_self]
    exact ⟨.moot _ (hmoot.imp id fun h => (armed_talk e l .server p).trans h) rfl, hs⟩
  | fire f hopen harmed hgoes hequipped hhalf hkind =>
    rw [serverTurn_eq hgoes.log]
    exact ⟨.fire .server p hopen f ((armed_talk e l .server p).trans harmed) hkind
      ⟨hhalf, rfl, rfl, rfl⟩, hs.server_goes hgoes hequipped⟩
  | runOut htries hgoes hequipped hhalf =>
    rw [serverTurn_eq hgoes.log]
    refine ⟨.runOut .server p ?_ ⟨hhalf, rfl, rfl, append_nil _⟩, hs.server_goes hgoes hequipped⟩
    exact ho htries

omit hfit hi in
/-- A frame is lost, or comes twice. -/
lemma simulates_carrier (hf : f.1 ≠ protocolCHAP) :
    l.Simulates e (.lose x f) (l.step e (.lose x f)) ∧
      l.Simulates e (.duplicate x f) (l.step e (.duplicate x f)) := by
  have hchap : (kindOf e x f).isCHAP = false := kindOf_of_not_chap hf
  by_cases hmem : f ∈ l.flight x
  · have hdup : ∀ {fs : List Frame}, f ∈ fs → ∀ g ∈ fs ++ [f], g ∈ fs := fun hf g hg =>
      (mem_append.1 hg).elim id fun hg => mem_singleton.1 hg ▸ hf
    cases x with
    | client =>
      have hstep : l.step e (.duplicate .client f) =
          { l with toClient := l.toClient ++ [f] } := if_pos hmem
      rw [hstep]
      exact ⟨⟨.lose .client f hmem hchap ⟨rfl, rfl, rfl, rfl⟩,
        hs.frames (fun g hg => mem_of_mem_erase hg) fun g hg => hg⟩,
        .duplicate .client f hmem hchap ⟨rfl, rfl, rfl, rfl⟩,
        hs.frames (hdup hmem) fun g hg => hg⟩
    | server =>
      have hstep : l.step e (.duplicate .server f) =
          { l with toServer := l.toServer ++ [f] } := if_pos hmem
      rw [hstep]
      exact ⟨⟨.lose .server f hmem hchap ⟨rfl, rfl, rfl, rfl⟩,
        hs.frames (fun g hg => hg) fun g hg => mem_of_mem_erase hg⟩,
        .duplicate .server f hmem hchap ⟨rfl, rfl, rfl, rfl⟩,
        hs.frames (fun g hg => hg) (hdup hmem)⟩
  · have hsame : l.step e (.lose x f) = l ∧ l.step e (.duplicate x f) = l := by
      cases x with
      | client =>
        exact ⟨by rw [step, erase_of_not_mem (show f ∉ l.toClient from hmem)], if_neg hmem⟩
      | server =>
        exact ⟨by rw [step, erase_of_not_mem (show f ∉ l.toServer from hmem)], if_neg hmem⟩
    rw [hsame.1, hsame.2]
    exact ⟨⟨.moot _ hmem rfl, hs⟩, .moot _ hmem rfl, hs⟩

/-- **Every orderly event is a step of the negotiation.** -/
theorem simulates {ev : LinkEvent Frame} (ho : l.Orderly ev) : l.Simulates e ev (l.step e ev) := by
  cases ev with
  | deliver x f =>
    by_cases hf : f ∈ l.flight x
    · cases x with
      | client => exact simulates_client hfit hs hi hf
      | server => exact simulates_server hfit hs hi hf
    · have hsame : l.step e (.deliver x f) = l := by
        cases x with
        | client | server => exact if_neg hf
      rw [hsame]
      exact ⟨.moot _ hf rfl, hs⟩
  | lose x f => exact (simulates_carrier hs ho).1
  | duplicate x f => exact (simulates_carrier hs ho).2
  | timer x p =>
    cases x with
    | client => exact simulates_clientTimer hfit hs hi p ho
    | server => exact simulates_serverTimer hfit hs hi p ho
  | echo =>
    by_cases hmoot : l.client.phase = .closed ∨ l.client.echoWait = true
    · have hsame : l.step e .echo = l := by
        rw [step, Client.sendEcho, if_pos hmoot]
        exact clientTurn_self l
      rw [hsame]
      exact ⟨.moot _ trivial rfl, hs⟩
    · obtain ⟨hgoes, hequipped, hhalf⟩ := Client.sendEcho_spec hs.client hmoot
      rw [step, clientTurn_eq hgoes.log]
      exact ⟨.echo _ (kindOf_echoRequest _ _) ⟨hhalf, rfl, rfl, rfl⟩,
        hs.client_goes hgoes hequipped⟩

end Link

end Simulation

/-! ## Every run -/

section Runs

variable {e : LinkEnv}

namespace Link

/-- The options with which the server begins. -/
lemma lcpOptions_server (e : LinkEnv) (magic : Bytes) :
    (∀ o ∈ (if e.cfg.noAuth then [] else [(⟨optAuthProto, authMSCHAPv2⟩ : Opt)]) ++
      [⟨optMagic, magic⟩], o.type = optMagic ∨ o = ⟨optAuthProto, authMSCHAPv2⟩) ∧
    Client.hasAuthProto ((if e.cfg.noAuth then [] else [(⟨optAuthProto, authMSCHAPv2⟩ : Opt)]) ++
      [⟨optMagic, magic⟩]) = e.auth := by
  have hne : optMagic ≠ optAuthProto := by decide
  cases h : e.cfg.noAuth <;> simp [Client.hasAuthProto, LinkEnv.auth, h, hne]

variable (e) in
/-- A link that has just been started: each side has sent its first LCP request. -/
structure Fresh (l : Link) : Prop where
  toClient : l.toClient = [(protocolLCP, l.server.lcpConfigReq)]
  toServer : l.toServer = [(protocolLCP, l.client.lcpConfigReq)]
  client : l.client.Equipped e
  server : l.server.Equipped e
  fit : ∀ x, ∀ f ∈ l.flight x, Fit e x f
  kinds : ∀ x, ∀ f ∈ l.flight x, kindOf e x f = .request .lcp 1 true
  phase : ∀ x, (l.half e x).phase = .lcp
  flags : ∀ x p, ((l.half e x).cp p).localOpen = false ∧ ((l.half e x).cp p).remoteOpen = false ∧
    ((l.half e x).cp p).armed = decide (p = .lcp)
  good : ∀ x p, p = .lcp ∨ x = .server → ((l.half e x).cp p).good = true

lemma fresh_new (e : LinkEnv) : (Link.new e).Fresh e := by
  have hshort : ∀ o ∈
      ([⟨optMRU, putBE16 defaultMRU⟩, ⟨optMagic, putBE32 e.clientMagic⟩] : List Opt),
      o.value.length + 2 < 256 := by simp
  have hshort' : ∀ o ∈ (if e.cfg.noAuth then [] else [(⟨optAuthProto, authMSCHAPv2⟩ : Opt)]) ++
      [⟨optMagic, putBE32 e.serverMagic⟩], o.value.length + 2 < 256 := by
    cases e.cfg.noAuth <;> simp [authMSCHAPv2]
  have hlen' : (marshalOptions ((if e.cfg.noAuth then [] else
      [(⟨optAuthProto, authMSCHAPv2⟩ : Opt)]) ++ [⟨optMagic, putBE32 e.serverMagic⟩])).length + 4 <
      65536 := by
    cases e.cfg.noAuth <;> simp [marshalOptions, authMSCHAPv2]
  have hclient : Fit e .server (protocolLCP, ⟨configureRequest, 1, marshalOptions
      [⟨optMRU, putBE16 defaultMRU⟩, ⟨optMagic, putBE32 e.clientMagic⟩]⟩) :=
    .lcpRequestToServer 1 _ _ (parseOptions_marshalOptions hshort) (by simp)
      (by simp [marshalOptions])
  have hserver : Fit e .client (protocolLCP, ⟨configureRequest, 1, marshalOptions
      ((if e.cfg.noAuth then [] else [(⟨optAuthProto, authMSCHAPv2⟩ : Opt)]) ++
        [⟨optMagic, putBE32 e.serverMagic⟩])⟩) :=
    .lcpRequestToClient 1 _ _ (parseOptions_marshalOptions hshort')
      (lcpOptions_server e _).1 (lcpOptions_server e _).2 hlen'
  refine ⟨rfl, rfl, ⟨⟨_, rfl, hclient⟩, (fun h => by cases h),
    fun h => by rcases h with h | h <;> cases h⟩, ⟨⟨_, rfl, hserver⟩,
    fun h => by rcases h with h | h <;> cases h⟩, fun x f hf => ?_, fun x f hf => ?_, fun x => ?_,
    fun x p => ?_, fun x p hp => ?_⟩
  · cases x with
    | client => exact mem_singleton.1 hf ▸ hserver
    | server => exact mem_singleton.1 hf ▸ hclient
  · cases x with
    | client | server => exact mem_singleton.1 hf ▸ kindOf_lcpRequest _ _
  · cases x <;> rfl
  · cases x <;> cases p <;> exact ⟨rfl, rfl, rfl⟩
  · cases x with
    | client =>
      obtain rfl := hp.resolve_right (by decide)
      rfl
    | server => cases p <;> rfl

end Link

/-- A side that has just been started. -/
lemma sound_started {h : Half} {auth : Bool} (hph : h.phase = .lcp)
    (hflags : ∀ p, (h.cp p).localOpen = false ∧ (h.cp p).remoteOpen = false ∧
      (h.cp p).armed = decide (p = .lcp))
    (hgood : ∀ p, p = .lcp ∨ x = .server → (h.cp p).good = true) : h.Sound x auth := by
  refine ⟨⟨fun p hp _ => ?_, by simp [hph], fun _ => ⟨(hflags .ipcp).1, (hflags .ipcp).2.2⟩,
    by simp [hph], by simp [hph], hgood⟩, fun _ hb => ?_, by simp [hph]⟩
  · cases p with
    | lcp => exact (hflags .lcp).2.2
    | ipcp => simp [hph, Phase.Active] at hp
  · cases (hflags .lcp).1.symm.trans hb.1

lemma Link.sound_new (e : LinkEnv) :
    (Link.new e).Sound e ∧ ((Link.new e).talk e).Inv (kindOf e) e.auth := by
  have hf := Link.fresh_new e
  generalize Link.new e = l at hf ⊢
  have hchaps : ∀ x, Talk.chaps (kindOf e) (l.talk e) x = [] := fun x =>
    filter_eq_nil_iff.2 fun f hm => by
      rw [hf.kinds x f hm]
      exact Bool.false_ne_true
  refine ⟨⟨hf.client, hf.server, hf.fit, fun f hm hk => ?_, fun f hm hk => ?_, fun f hm hk => ?_⟩,
    ⟨fun x => sound_started (hf.phase x) (hf.flags x) (hf.good x), fun x p hl => ?_, fun x hr => ?_,
      fun x f hm => ?_, fun h => ?_, fun h => ?_, ?_⟩⟩
  · exact nomatch hk.symm.trans (hf.kinds .client f hm)
  · exact nomatch hk.symm.trans (hf.kinds .server f hm)
  · exact nomatch hk.symm.trans (hf.kinds .client f hm)
  · exact nomatch (hf.flags x p).1.symm.trans hl
  · exact nomatch (hf.flags x .ipcp).2.1.symm.trans hr
  · rw [hf.kinds x f hm]
    exact ⟨nofun, nofun⟩
  · exact nomatch (hf.phase .client).symm.trans h
  · exact nomatch (hf.phase .server).symm.trans h
  · cases hauth : e.auth with
    | false => exact .free rfl (hchaps _) (hchaps _)
    | true =>
      refine .before rfl (hf.phase .server) ?_ (hchaps _) (hchaps _)
      rw [show ((l.talk e).half .client).phase = .lcp from hf.phase .client]
      simp [Phase.Late]

variable (e) in
/-- The link after the first `n` events of a schedule. -/
def linkAt (sched : ℕ → LinkEvent Frame) (n : ℕ) : Link :=
  after (Link.step e) (Link.new e) sched n

variable (e) in
/-- What the carrier and the clock do in a run without end: a frame that is under way is delivered
or lost, an armed timer fires if it is not stopped, and only finitely many frames are lost or
duplicated. -/
structure Fairly (sched : ℕ → LinkEvent Frame) : Prop where
  arrives : ∀ n x f, f ∈ (linkAt e sched n).flight x → ∃ m, n ≤ m ∧
    f ∈ (linkAt e sched m).flight x ∧ (sched m = .deliver x f ∨ sched m = .lose x f)
  fires : ∀ n x p, ((linkAt e sched n).restart x p).armed = true → ∃ m, n ≤ m ∧
    (((linkAt e sched m).restart x p).armed = false ∨ sched m = .timer x p)
  settles : ∃ N, ∀ n, N ≤ n → ∀ x f, f ∈ (linkAt e sched n).flight x →
    sched n ≠ .lose x f ∧ sched n ≠ .duplicate x f

/-- **The negotiation does not hang.**  In every run in which no CHAP frame is lost or duplicated
and no timer runs out while the other side is still at it, a link that waits has an armed timer; and
if the carrier is fair, both sides are up or closed in the end. -/
theorem negotiation_ends (e : LinkEnv) (hfit : e.Fits) :
    (∀ es, Along (Link.step e) Link.Orderly (Link.new e) es →
      Always (Link.step e) Link.Guarded (Link.new e) es) ∧
    ∀ sched, (∀ n, (linkAt e sched n).Orderly (sched n)) → Fairly e sched →
      ∃ n, ∀ m, n ≤ m → ∀ x, ((linkAt e sched m).phase x).Done := by
  have hstep : ∀ (l : Link) ev, l.Sound e ∧ (l.talk e).Inv (kindOf e) e.auth → l.Orderly ev →
      (l.step e ev).Sound e ∧ ((l.step e ev).talk e).Inv (kindOf e) e.auth := fun l ev h ho =>
    have hsim := Link.simulates hfit h.1 h.2 ho
    ⟨hsim.2, h.2.step hsim.1⟩
  refine ⟨fun es hes => ?_, fun sched ho hfair => ?_⟩
  · refine always_of_inv (fun l => l.Sound e ∧ (l.talk e).Inv (kindOf e) e.auth) hstep
      (fun l h hw => ?_) _ es (Link.sound_new e) hes
    obtain ⟨⟨x, hx⟩, hquiet⟩ := hw
    rw [← Link.phase_talk e] at hx
    obtain ⟨y, p, harmed⟩ := h.2.armed hx hquiet
    exact ⟨y, p, (Link.armed_talk e l y p).symm.trans harmed⟩
  · have hall : ∀ n, (linkAt e sched n).Sound e ∧
        ((linkAt e sched n).talk e).Inv (kindOf e) e.auth := fun n => by
      induction n with
      | zero => exact Link.sound_new e
      | succ n ih => exact hstep _ _ ih (ho n)
    have hfair' : Talk.Fairly (fun n => (linkAt e sched n).talk e) sched :=
      ⟨hfair.arrives, fun n x p => by
        simp only [Link.armed_talk]
        exact hfair.fires n x p, hfair.settles⟩
    obtain ⟨n, hn⟩ := Talk.ends (R := fun n => (linkAt e sched n).talk e) (hall 0).2
      (fun n => (Link.simulates hfit (hall n).1 (hall n).2 (ho n)).1) hfair'
    exact ⟨n, fun m hm x => Link.phase_talk e _ x ▸ hn m hm x⟩

/-! ## A link that comes up, and one that does not -/

namespace Link

variable (e)

/-- The frame that has been under way to a side for longest is delivered. -/
def oldest (l : Link) (x : Side) : LinkEvent Frame :=
  .deliver x ((l.flight x).headD (0, ⟨0, 0, []⟩))

variable (pre : List (LinkEvent Frame))

/-- After its first events, the carrier serves the sides in turn. -/
def inTurn : ℕ → Link
  | 0 => new e
  | n + 1 => (inTurn n).step e
    (pre.getD n ((inTurn n).oldest (if n % 2 = 0 then .server else .client)))

def turns (n : ℕ) : LinkEvent Frame :=
  pre.getD n ((inTurn e pre n).oldest (if n % 2 = 0 then .server else .client))

lemma linkAt_turns (n : ℕ) : linkAt e (turns e pre) n = inTurn e pre n := by
  induction n with
  | zero => rfl
  | succ n ih => exact congrArg (step e · (turns e pre n)) ih

variable {e pre}

lemma flight_clientTurn {l : Link} (h : f ∈ l.flight x) : f ∈ (l.clientTurn c).flight x := by
  cases x with
  | client => exact h
  | server => exact mem_append_left _ h

lemma flight_serverTurn {l : Link} (h : f ∈ l.flight x) : f ∈ (l.serverTurn s).flight x := by
  cases x with
  | client => exact mem_append_left _ h
  | server => exact h

/-- A frame stays under way until it is delivered or lost. -/
lemma flight_step {l : Link} {ev : LinkEvent Frame} (h : f ∈ l.flight x) (hd : ev ≠ .deliver x f)
    (hl : ev ≠ .lose x f) : f ∈ (l.step e ev).flight x := by
  have herase {fs : List Frame} {g : Frame} (hm : f ∈ fs) (hne : f ≠ g) : f ∈ fs.erase g :=
    (mem_erase_of_ne hne).2 hm
  cases ev with
  | deliver y g =>
    cases y with
    | client =>
      rw [step]
      split_ifs with hg
      · refine flight_clientTurn ?_
        cases x with
        | client => exact herase h fun hfg => hd (by rw [hfg])
        | server => exact h
      · exact h
    | server =>
      rw [step]
      split_ifs with hg
      · refine flight_serverTurn ?_
        cases x with
        | client => exact h
        | server => exact herase h fun hfg => hd (by rw [hfg])
      · exact h
  | lose y g =>
    cases y <;> cases x
    case client.client | server.server => exact herase h fun hfg => hl (by rw [hfg])
    case client.server | server.client => exact h
  | duplicate y g =>
    cases y with
    | client =>
      rw [step]
      split_ifs with hg
      · cases x with
        | client => exact mem_append_left _ h
        | server => exact h
      · exact h
    | server =>
      rw [step]
      split_ifs with hg
      · cases x with
        | client => exact h
        | server => exact mem_append_left _ h
      · exact h
  | timer y p =>
    cases y with
    | client => cases p <;> exact flight_clientTurn h
    | server => cases p <;> exact flight_serverTurn h
  | echo => exact flight_clientTurn h

/-- A link that is at rest stays so. -/
lemma inTurn_of_quiet {N : ℕ} (hN : pre.length ≤ N) (h : ∀ x, (inTurn e pre N).flight x = [])
    (n : ℕ) (hn : N ≤ n) : inTurn e pre n = inTurn e pre N := by
  induction n, hn using Nat.le_induction with
  | base => rfl
  | succ n hn ih =>
    rw [inTurn, ih, getD_eq_default _ _ (hN.trans hn)]
    have hc : (inTurn e pre N).toClient = [] := h .client
    have hs : (inTurn e pre N).toServer = [] := h .server
    split_ifs <;> simp [oldest, step, flight, hc, hs]

/-- If the link comes to rest, all frames have been delivered or lost. -/
lemma turns_fairly {N : ℕ} (hN : pre.length ≤ N) (h : ∀ x, (inTurn e pre N).flight x = [])
    (ht : ∀ x p, ((inTurn e pre N).restart x p).armed = false) : Fairly e (turns e pre) := by
  have hend := inTurn_of_quiet hN h
  refine ⟨fun n x f hf => ?_, fun n x p _ => ⟨max n N, le_max_left _ _, .inl ?_⟩,
    N, fun n hn x f hf => ?_⟩
  · simp only [linkAt_turns] at hf ⊢
    by_contra hnever
    push Not at hnever
    have hstays : ∀ m, n ≤ m → f ∈ (inTurn e pre m).flight x := fun m hm => by
      induction m, hm using Nat.le_induction with
      | base => exact hf
      | succ m hm ih => exact flight_step ih (hnever m hm ih).1 (hnever m hm ih).2
    have hmem := hstays (max n N) (le_max_left _ _)
    rw [hend _ (le_max_right _ _), h x] at hmem
    exact nomatch hmem
  · rw [linkAt_turns, hend _ (le_max_right _ _)]
    exact ht x p
  · rw [linkAt_turns, hend n hn, h x] at hf
    exact nomatch hf

end Link

end Runs

/-- One user, and a response that is the same for every challenge. -/
def meeting : LinkEnv where
  cfg :=
    { clientIP := [10, 0, 0, 2], serverIP := [10, 0, 0, 1], dns := [[10, 0, 0, 53]]
      auth := fun u => if u = [97] then some [112] else none }
  mschap :=
    { generateNTResponse := fun _ _ _ _ => List.replicate 24 0
      authenticatorResponse := fun _ _ _ _ _ => [83, 61, 65] }
  username := [97]
  password := [112]
  challenge := some (List.replicate 16 7)
  peerChallenge := fun _ => some (List.replicate 16 8)

lemma meeting_fits : meeting.Fits :=
  ⟨rfl, rfl, by decide, by decide, ⟨_, rfl, rfl⟩, fun _ => rfl,
    fun _ _ _ _ _ _ _ => ⟨(by decide : 3 + 4 < 65536), rfl⟩⟩

/-- The client's first request is lost, and its timer fires. -/
def requestLost : List (LinkEvent Frame) :=
  [.lose .server (protocolLCP, ⟨configureRequest, 1,
    marshalOptions [⟨optMRU, putBE16 defaultMRU⟩, ⟨optMagic, putBE32 0⟩]⟩), .timer .client .lcp]

/-- The link comes up, the lost request being sent again. -/
theorem negotiation_ends_up : (Link.inTurn meeting requestLost 1).toServer = [] ∧
      (∀ x, (Link.inTurn meeting requestLost 22).phase x = .up) ∧
      ∃ n, ∀ m, n ≤ m →
        ∀ x, ((linkAt meeting (Link.turns meeting requestLost) m).phase x).Done := by
  refine ⟨by decide, by rintro (_ | _) <;> decide, ?_⟩
  refine (negotiation_ends meeting meeting_fits).2 (Link.turns meeting requestLost) (fun n => ?_)
    (Link.turns_fairly (N := 22) (by decide) (by rintro (_ | _) <;> decide)
      (by rintro (_ | _) (_ | _) <;> decide))
  match n with
  | 0 => exact (by decide : protocolLCP ≠ protocolCHAP)
  | 1 =>
    intro htries
    exact absurd htries (by decide)
  | n + 2 => trivial

/-- LCP is open on both sides, and the challenge is lost. -/
def challengeLost : List (LinkEvent Frame) :=
  let clientOptions := marshalOptions [⟨optMRU, putBE16 defaultMRU⟩, ⟨optMagic, putBE32 0⟩]
  let serverOptions := marshalOptions [⟨optAuthProto, authMSCHAPv2⟩, ⟨optMagic, putBE32 0⟩]
  [.deliver .server (protocolLCP, ⟨configureRequest, 1, clientOptions⟩),
    .deliver .client (protocolLCP, ⟨configureRequest, 1, serverOptions⟩),
    .deliver .client (protocolLCP, ⟨configureAck, 1, clientOptions⟩),
    .deliver .server (protocolLCP, ⟨configureAck, 1, serverOptions⟩),
    .lose .client (protocolCHAP,
      ⟨chapChallenge, 2, buildChallenge (List.replicate 16 7) Server.name⟩)]

/-- **A lost challenge is not sent again.**  Both sides wait for the other, with nothing under way
and no timer armed. -/
theorem challenge_lost : ∃ l, run (Link.step meeting) (Link.new meeting) challengeLost = l ∧
      (∀ x, l.phase x = .auth ∧ l.flight x = []) ∧ ¬ l.Guarded := by
  refine ⟨_, rfl, by rintro (_ | _) <;> decide, fun hguarded => ?_⟩
  obtain ⟨x, p, harmed⟩ := hguarded
    ⟨⟨.client, by decide⟩, by rintro (_ | _) <;> decide⟩
  revert harmed
  cases x <;> cases p <;> decide

end Veepin.PPP
