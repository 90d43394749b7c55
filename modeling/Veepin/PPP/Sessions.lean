import Veepin.PPP.Client
import Veepin.PPP.Negotiation

/-!
# What the sessions do with each other's frames

A client session and a server session send each other only frames of a few shapes (`Fit`), and with
such a frame a session does what the negotiation says (`Client.turn`, `Server.turn`).  A frame is
kept as the packet it was made of; what a session receives are its octets.

* `Client.Goes`, `Server.Goes` — what a handler sends, with the session afterwards;
* `LinkEnv.Fits` — what the configuration has to be like: addresses that are IPv4, a user name that
  fits a packet, random numbers, and an MS-CHAPv2 success that the client believes.
-/

namespace Veepin.PPP

open List Option Server

/-- The protocol and the packet of a frame. -/
abbrev Frame := ℕ × CpPacket

instance : BEq Frame := instBEqOfDecidableEq

def frameBytes (f : Frame) : Bytes := encodeFrame f.1 f.2.marshal

def Action.frame : Action → Option Frame
  | .sent protocol packet => some (protocol, packet)
  | _ => none

def ClientAction.frame : ClientAction → Option Frame
  | .sent protocol packet => some (protocol, packet)
  | _ => none

lemma lcp_ne_chap : protocolLCP ≠ protocolCHAP := by decide

lemma ipcp_ne_chap : protocolIPCP ≠ protocolCHAP := by decide

/-- The configuration of the two sessions, and what `rand.Read` gives them. -/
structure LinkEnv where
  cfg : ServerConfig
  mschap : Mschap
  username : Bytes
  password : Bytes
  challenge : Option Bytes
  peerChallenge : ℕ → Option Bytes
  clientMagic : ℕ := 0
  serverMagic : ℕ := 0

def LinkEnv.client (e : LinkEnv) : ClientEnv :=
  { username := e.username, password := e.password, mschap := e.mschap, random := e.peerChallenge }

def LinkEnv.server (e : LinkEnv) : Env :=
  { cfg := e.cfg, mschap := e.mschap, random := e.challenge }

/-- The three ends of a Restart timer's callback. -/
lemma restart_cases {α : Type*} (T : α → Prop) {closed : Prop} [Decidable closed] {r : RestartTimer}
    {x y z : α} (hmoot : closed ∨ r.armed = false → T x)
    (hout : ¬ closed → r.tries + 1 ≥ maxConfigure → T y) (hfire : ¬ closed → r.armed = true → T z) :
    T (if closed ∨ r.armed = false then x else if r.tries + 1 ≥ maxConfigure then y else z) := by
  split_ifs with h htries
  · exact hmoot h
  · exact hout (not_or.1 h).1 htries
  · exact hfire (not_or.1 h).1 (by simpa using (not_or.1 h).2)

/-! ## Packets and options that are read back -/

lemma parseCP_marshal {p : CpPacket} (h : p.body.length + 4 < 65536) :
    parseCP p.marshal = some p := by
  have hlen : p.marshal.length = p.body.length + 4 := by
    simp [CpPacket.marshal]
    omega
  have hbe : be16 p.marshal 2 = p.body.length + 4 :=
    (be16_of_lt (n := 4 + p.body.length) (by omega)).trans (Nat.add_comm _ _)
  unfold parseCP
  rw [hlen, hbe, if_neg (by omega), if_neg (by omega), take_of_length_le (by omega)]
  rfl

variable {f : Frame}

lemma decodeFrame_frameBytes (hp : f.1 ∈ [protocolLCP, protocolCHAP, protocolIPCP]) :
    decodeFrame (frameBytes f) = some (f.1, f.2.marshal) := by
  obtain ⟨protocol, p⟩ := f
  simp only [mem_cons, not_mem_nil, or_false] at hp
  rcases hp with rfl | rfl | rfl <;>
    simp [frameBytes, encodeFrame, decodeFrame, putBE16, protocolLCP, protocolCHAP, protocolIPCP]

lemma packetOf_frameBytes (hp : f.1 ∈ [protocolLCP, protocolCHAP, protocolIPCP])
    (h : f.2.body.length + 4 < 65536) : Server.packetOf (frameBytes f) = some f := by
  rw [packetOf, decodeFrame_frameBytes hp]
  dsimp only
  rw [parseCP_marshal h]
  rfl

variable {opts : List Opt} {pc nt : Bytes}

lemma parseOptionsLoop_marshal (h : ∀ o ∈ opts, o.value.length + 2 < 256) :
    ∀ n, opts.length ≤ n → parseOptionsLoop n (marshalOptions opts) = some opts := by
  induction opts with
  | nil => intro n _; cases n <;> rfl
  | cons o opts ih =>
    intro n hn
    obtain ⟨n, rfl⟩ : ∃ k, n = k + 1 := ⟨n - 1, by simp at hn; omega⟩
    have ho : o.value.length + 2 < 256 := h o mem_cons_self
    have hlen : (UInt8.ofNat (2 + o.value.length)).toNat = 2 + o.value.length := by
      simp
      omega
    have hrest := ih (fun o' ho' => h o' (mem_cons_of_mem _ ho')) n (by simpa using hn)
    rw [marshalOptions, flatMap_cons]
    change parseOptionsLoop (n + 1) (o.type :: UInt8.ofNat (2 + o.value.length) ::
      (o.value ++ marshalOptions opts)) = _
    rw [parseOptionsLoop, hlen, if_neg (by rw [length_append]; omega), Nat.add_sub_cancel_left,
      drop_left, take_left, hrest]
    rfl

lemma length_le_length_marshalOptions (opts : List Opt) :
    opts.length ≤ (marshalOptions opts).length := by
  induction opts with
  | nil => exact le_rfl
  | cons o opts ih =>
    rw [marshalOptions, flatMap_cons, length_append, ← marshalOptions]
    simp
    omega

lemma parseOptions_marshalOptions (h : ∀ o ∈ opts, o.value.length + 2 < 256) :
    parseOptions (marshalOptions opts) = some opts :=
  parseOptionsLoop_marshal h _ (length_le_length_marshalOptions opts)

@[simp] lemma length_octets (n : ℕ) (b : Bytes) : (octets n b).length = n := by simp [octets]

lemma octets_of_length {n : ℕ} {b : Bytes} (h : b.length = n) : octets n b = b := by
  rw [octets, ← h, take_left]

lemma parseResponse_responseBody (user : Bytes) (hpc : pc.length = 16)
    (hnt : nt.length = 24) : parseResponse (responseBody pc nt user) = some (pc, nt, user) := by
  have hbody : responseBody pc nt user =
      49 :: (pc ++ (replicate 8 0 ++ (nt ++ ([0] ++ user)))) := by
    rw [responseBody, octets_of_length hpc, octets_of_length hnt]
    simp
  have hpeer : (drop 1 (responseBody pc nt user)).take 16 = pc := by
    rw [hbody]
    exact take_left' hpc
  have hresponse : (drop 25 (responseBody pc nt user)).take 24 = nt := by
    rw [hbody]
    change take 24 (drop 24 _) = nt
    rw [← append_assoc, drop_left' (by simp [hpc])]
    exact take_left' hnt
  have huser : drop 50 (responseBody pc nt user) = user := by
    rw [hbody]
    change drop 49 _ = user
    rw [← append_assoc, ← append_assoc, ← append_assoc]
    exact drop_left' (by simp [hpc, hnt])
  unfold parseResponse
  rw [hpeer, hresponse, huser, if_neg (by simp [hbody, hpc, hnt]; omega)]

lemma parseChallenge_buildChallenge {c : Bytes} (name : Bytes) (hc : c.length = 16) :
    parseChallenge (buildChallenge c name) = some (c, name) := by
  unfold parseChallenge buildChallenge
  rw [if_neg (by simp [hc])]
  simp [← hc]

/-! ## The sessions as halves of the negotiation -/

/-- The options of the client's first IPCP request, and of the one after a Nak. -/
def zeroOptions : List Opt := Client.ipcpOptions ipv4zero (some ipv4zero) (some ipv4zero)

namespace LinkEnv

variable (e : LinkEnv)

def dnsAt (i : ℕ) : Bytes := e.cfg.dns[i]?.getD ipv4zero

def assignedOptions : List Opt :=
  Client.ipcpOptions e.cfg.clientIP (some (e.dnsAt 0)) (some (e.dnsAt 1))

/-- What the server has against the options of a request. -/
def naks (opts : List Opt) : List Opt := opts.flatMap (Server.nakFor e.server)

/-- Authentication is asked for. -/
def auth : Bool := !e.cfg.noAuth

/-- A configuration with which the sessions understand each other. -/
structure Fits : Prop where
  clientIP : e.cfg.clientIP.length = 4
  serverIP : e.cfg.serverIP.length = 4
  dns : ∀ d ∈ e.cfg.dns, d.length = 4
  username : e.username.length + 54 < 65536
  challenge : ∃ c, e.challenge = some c ∧ c.length = 16
  peerChallenge : ∀ n, (e.peerChallenge n).isSome = true
  success : ∀ ac pc nt password, e.cfg.auth e.username = some password →
    nt = octets 24 (e.mschap.generateNTResponse ac pc e.username e.password) →
    e.mschap.generateNTResponse ac pc e.username password = nt →
    (e.mschap.authenticatorResponse ac pc e.username password nt).length + 4 < 65536 ∧
      verifySuccess e.mschap (e.mschap.authenticatorResponse ac pc e.username password nt) ac pc
        e.username e.password nt = true

end LinkEnv

def Client.half (e : LinkEnv) (c : Client) : Half where
  phase := c.phase
  lcp := ⟨c.lcpReqID, true, c.lcpLocalOpen, c.lcpRemoteOpen, c.lcpRestart.armed⟩
  ipcp := ⟨c.ipcpReqID, e.naks (ipcpOptions c.reqIP c.reqDNS1 c.reqDNS2) = [], c.ipcpLocalOpen,
    c.ipcpRemoteOpen, c.ipcpRestart.armed⟩

def Server.half (s : Server) : Half where
  phase := s.phase
  lcp := ⟨s.lcpReqID, true, s.lcpLocalOpen, s.lcpRemoteOpen, s.lcpRestart.armed⟩
  ipcp := ⟨s.ipcpReqID, true, s.ipcpLocalOpen, s.ipcpRemoteOpen, s.ipcpRestart.armed⟩

/-- What a frame on its way to a side says. -/
def kindOf (e : LinkEnv) (x : Side) (f : Frame) : Msg :=
  if f.1 = protocolLCP then
    if f.2.code = configureRequest then .request .lcp f.2.id true
    else if f.2.code = configureAck then .ack .lcp f.2.id
    else .other
  else if f.1 = protocolCHAP then
    if f.2.code = chapChallenge then .challenge
    else if f.2.code = chapResponse then .response
    else if f.2.code = chapSuccess then .success
    else .failure
  else if f.2.code = configureRequest then
    .request .ipcp f.2.id
      (x = .client ∨ (parseOptions f.2.body).map e.naks = some [])
  else if f.2.code = configureAck then .ack .ipcp f.2.id
  else .nak

/-- The frames of a link. -/
inductive Fit (e : LinkEnv) : Side → Frame → Prop
  | lcpRequestToServer (k : UInt8) (body : Bytes) (opts : List Opt)
      (hopts : parseOptions body = some opts)
      (hok : ∀ o ∈ opts, o.type = optMRU ∨ o.type = optMagic)
      (hlen : body.length + 4 < 65536) : Fit e .server (protocolLCP, ⟨configureRequest, k, body⟩)
  | lcpRequestToClient (k : UInt8) (body : Bytes) (opts : List Opt)
      (hopts : parseOptions body = some opts)
      (hok : ∀ o ∈ opts, o.type = optMagic ∨ o = ⟨optAuthProto, authMSCHAPv2⟩)
      (hauth : Client.hasAuthProto opts = e.auth) (hlen : body.length + 4 < 65536) :
      Fit e .client (protocolLCP, ⟨configureRequest, k, body⟩)
  | lcpAck (x : Side) (k : UInt8) (body : Bytes) (hlen : body.length + 4 < 65536) :
      Fit e x (protocolLCP, ⟨configureAck, k, body⟩)
  | echoRequest (k : UInt8) (body : Bytes) (hlen : body.length + 4 < 65536) :
      Fit e .server (protocolLCP, ⟨PPP.echoRequest, k, body⟩)
  | echoReply (k : UInt8) (body : Bytes) (hlen : body.length + 4 < 65536) :
      Fit e .client (protocolLCP, ⟨PPP.echoReply, k, body⟩)
  | challenge (k : UInt8) (body : Bytes) (hlen : body.length + 4 < 65536) :
      Fit e .client (protocolCHAP, ⟨chapChallenge, k, body⟩)
  | response (k : UInt8) (body : Bytes) (hlen : body.length + 4 < 65536) :
      Fit e .server (protocolCHAP, ⟨chapResponse, k, body⟩)
  | success (k : UInt8) (body : Bytes) (hlen : body.length + 4 < 65536) :
      Fit e .client (protocolCHAP, ⟨chapSuccess, k, body⟩)
  | failure (k : UInt8) (body : Bytes) (hlen : body.length + 4 < 65536) :
      Fit e .client (protocolCHAP, ⟨chapFailure, k, body⟩)
  | ipcpRequestToServer (k : UInt8) (opts : List Opt)
      (hopts : opts = zeroOptions ∨ opts = e.assignedOptions) :
      Fit e .server (protocolIPCP, ⟨configureRequest, k, marshalOptions opts⟩)
  | ipcpRequestToClient (k : UInt8) (body : Bytes) (hlen : body.length + 4 < 65536) :
      Fit e .client (protocolIPCP, ⟨configureRequest, k, body⟩)
  | ipcpAck (x : Side) (k : UInt8) (body : Bytes) (hlen : body.length + 4 < 65536) :
      Fit e x (protocolIPCP, ⟨configureAck, k, body⟩)
  | ipcpNak (k : UInt8) :
      Fit e .client (protocolIPCP, ⟨configureNak, k, marshalOptions (e.naks zeroOptions)⟩)

/-! ### The addresses -/

section Addresses

variable {e : LinkEnv} {t : UInt8} {i : ℕ}

open LinkEnv

lemma length_dnsAt (hfit : e.Fits) (i : ℕ) : (e.dnsAt i).length = 4 := by
  unfold dnsAt
  cases h : e.cfg.dns[i]? with
  | none => rfl
  | some d => exact hfit.dns d (mem_of_getElem? h)

lemma short_request (hfit : e.Fits) (hopts : opts = zeroOptions ∨ opts = e.assignedOptions) :
    (∀ o ∈ opts, o.value.length + 2 < 256) ∧ (marshalOptions opts).length + 4 < 65536 := by
  have h0 := length_dnsAt hfit 0
  have h1 := length_dnsAt hfit 1
  have hc := hfit.clientIP
  rcases hopts with rfl | rfl
  · exact ⟨by decide, by decide⟩
  · simp [assignedOptions, Client.ipcpOptions, marshalOptions, h0, h1, hc]

/-- What the server has against a DNS server that is asked for. -/
lemma nakFor_dns (e : LinkEnv) (v : Bytes)
    (ht : t = optPrimaryDNS ∧ i = 0 ∨ t = optSecondaryDNS ∧ i = 1) :
    nakFor e.server ⟨t, v⟩ = match e.cfg.dns[i]? with
      | none => []
      | some ip => if v.length = 4 ∧ v = ip then [] else [⟨t, ip⟩] := by
  rcases ht with ⟨rfl, rfl⟩ | ⟨rfl, rfl⟩ <;> rfl

lemma nakFor_dns_assigned (hfit : e.Fits)
    (ht : t = optPrimaryDNS ∧ i = 0 ∨ t = optSecondaryDNS ∧ i = 1) :
    nakFor e.server ⟨t, e.dnsAt i⟩ = [] := by
  have hlen := length_dnsAt hfit i
  rw [nakFor_dns e _ ht]
  unfold dnsAt at hlen ⊢
  cases h : e.cfg.dns[i]? with
  | none => rfl
  | some ip =>
    rw [h] at hlen
    exact if_pos ⟨hlen, rfl⟩

/-- The server has nothing against the addresses that it has assigned. -/
lemma naks_assigned (hfit : e.Fits) : e.naks e.assignedOptions = [] := by
  simp only [naks, assignedOptions, Client.ipcpOptions, map_some, toList_some,
    flatMap_cons, flatMap_nil, append_nil, singleton_append, append_eq_nil_iff]
  refine ⟨?_, nakFor_dns_assigned hfit (.inl ⟨rfl, rfl⟩),
    nakFor_dns_assigned hfit (.inr ⟨rfl, rfl⟩)⟩
  simp [nakFor, server, hfit.clientIP]

lemma nakFor_dns_zero
    (ht : t = optPrimaryDNS ∧ i = 0 ∨ t = optSecondaryDNS ∧ i = 1) :
    nakFor e.server ⟨t, ipv4zero⟩ = if ipv4zero = e.dnsAt i then [] else [⟨t, e.dnsAt i⟩] := by
  rw [nakFor_dns e _ ht]
  unfold dnsAt
  cases e.cfg.dns[i]? with
  | none => rfl
  | some ip => exact if_congr (and_iff_right rfl) rfl rfl

lemma naks_zero (e : LinkEnv) : e.naks zeroOptions =
    (if ipv4zero = e.cfg.clientIP then [] else [⟨optIPAddress, e.cfg.clientIP⟩]) ++
      ((if ipv4zero = e.dnsAt 0 then [] else [⟨optPrimaryDNS, e.dnsAt 0⟩]) ++
        if ipv4zero = e.dnsAt 1 then [] else [⟨optSecondaryDNS, e.dnsAt 1⟩]) := by
  simp only [naks, zeroOptions, Client.ipcpOptions, map_some,
    toList_some, flatMap_cons, flatMap_nil, append_nil, singleton_append]
  refine congrArg₂ _ ?_ (congrArg₂ _ (nakFor_dns_zero (.inl ⟨rfl, rfl⟩))
    (nakFor_dns_zero (.inr ⟨rfl, rfl⟩)))
  exact if_congr (and_iff_right rfl) rfl rfl

end Addresses

/-! ## What a frame says -/

section Kinds

variable {e : LinkEnv} {x : Side} (k : UInt8) (body : Bytes)

@[simp] lemma kindOf_lcpRequest :
    kindOf e x (protocolLCP, ⟨configureRequest, k, body⟩) = .request .lcp k true := by rfl

@[simp] lemma kindOf_echoRequest :
    kindOf e x (protocolLCP, ⟨echoRequest, k, body⟩) = .other := by rfl

@[simp] lemma kindOf_echoReply : kindOf e x (protocolLCP, ⟨echoReply, k, body⟩) = .other := by rfl

@[simp] lemma kindOf_challenge :
    kindOf e x (protocolCHAP, ⟨chapChallenge, k, body⟩) = .challenge := by rfl

@[simp] lemma kindOf_response :
    kindOf e x (protocolCHAP, ⟨chapResponse, k, body⟩) = .response := by rfl

@[simp] lemma kindOf_success :
    kindOf e x (protocolCHAP, ⟨chapSuccess, k, body⟩) = .success := by rfl

@[simp] lemma kindOf_failure :
    kindOf e x (protocolCHAP, ⟨chapFailure, k, body⟩) = .failure := by rfl

@[simp] lemma kindOf_ipcpNak : kindOf e x (protocolIPCP, ⟨configureNak, k, body⟩) = .nak := by rfl

@[simp] lemma kindOf_ipcpRequestToClient :
    kindOf e .client (protocolIPCP, ⟨configureRequest, k, body⟩) = .request .ipcp k true := by rfl

lemma kindOf_ipcpRequestToServer (h : ∀ o ∈ opts, o.value.length + 2 < 256) :
    kindOf e .server (protocolIPCP, ⟨configureRequest, k, marshalOptions opts⟩) =
      .request .ipcp k (e.naks opts = []) := by
  simp [kindOf, protocolIPCP, protocolCHAP, protocolLCP, parseOptions_marshalOptions h]

end Kinds

lemma length_naks_zero {e : LinkEnv} (hfit : e.Fits) :
    (marshalOptions (e.naks zeroOptions)).length + 4 < 65536 ∧
      ∀ o ∈ e.naks zeroOptions, o.value.length + 2 < 256 := by
  have h0 := length_dnsAt hfit 0
  have h1 := length_dnsAt hfit 1
  have hc := hfit.clientIP
  rw [naks_zero]
  split_ifs <;> simp [marshalOptions, h0, h1, hc]

lemma Fit.packetOf {e : LinkEnv} (hfit : e.Fits) {x : Side} (hf : Fit e x f) :
    Server.packetOf (frameBytes f) = some f := by
  cases hf with
  | ipcpRequestToServer k opts hopts =>
    exact packetOf_frameBytes (by simp) (short_request hfit hopts).2
  | ipcpNak k => exact packetOf_frameBytes (by simp) (length_naks_zero hfit).1
  | lcpRequestToServer _ _ _ _ _ hlen | lcpRequestToClient _ _ _ _ _ _ hlen | lcpAck _ _ _ hlen
  | echoRequest _ _ hlen | echoReply _ _ hlen | challenge _ _ hlen | response _ _ hlen
  | success _ _ hlen | failure _ _ hlen | ipcpRequestToClient _ _ hlen | ipcpAck _ _ _ hlen =>
    exact packetOf_frameBytes (by simp) hlen

/-- A protocol comes up in its phase, when both directions are open. -/
lemma stays_iff {ph ph' : Phase} {l r : Bool} :
    ph ≠ ph' ∨ l = false ∨ r = false ↔ ¬ (ph = ph' ∧ l = true ∧ r = true) := by
  cases l <;> cases r <;> simp

/-! ## The client -/

namespace Client

/-- What a client that keeps to the negotiation has at hand. -/
structure Equipped (e : LinkEnv) (c : Client) : Prop where
  lcp : ∃ body, c.lcpConfigReq = ⟨configureRequest, c.lcpReqID, body⟩ ∧
    Fit e .server (protocolLCP, c.lcpConfigReq)
  auth : c.lcpRemoteOpen = true → c.peerRequiresAuth = e.auth
  ipcp : c.phase = .ipcp ∨ c.phase = .up →
    c.ipcpConfigReq = ⟨configureRequest, c.ipcpReqID,
      marshalOptions (ipcpOptions c.reqIP c.reqDNS1 c.reqDNS2)⟩ ∧
    (c.reqIP = ipv4zero ∧ c.reqDNS1 = some ipv4zero ∧ c.reqDNS2 = some ipv4zero ∨
      c.reqIP = e.cfg.clientIP ∧ c.reqDNS1 = some (e.dnsAt 0) ∧ c.reqDNS2 = some (e.dnsAt 1))

/-- What a session has sent on its way to another one; nothing of it is CHAP, and the data of the
CHAP exchange is as before. -/
structure Goes (e : LinkEnv) (c c' : Client) (out : List Frame) : Prop where
  log : ∃ as, c'.log = c.log ++ as ∧ as.filterMap ClientAction.frame = out
  fit : ∀ f ∈ out, Fit e .server f ∧ f.1 ≠ protocolCHAP
  authChallenge : c'.authChallenge = c.authChallenge
  peerChallenge : c'.peerChallenge = c.peerChallenge
  ntResponse : c'.ntResponse = c.ntResponse

variable {e : LinkEnv} {c c' c'' : Client} {out out' : List Frame}

lemma Goes.of_eq (h : (c'.log, c'.authChallenge, c'.peerChallenge, c'.ntResponse) =
    (c.log, c.authChallenge, c.peerChallenge, c.ntResponse)) : Goes e c c' [] := by
  simp only [Prod.mk.injEq] at h
  exact ⟨⟨[], by simp [h.1], rfl⟩, nofun, h.2.1, h.2.2.1, h.2.2.2⟩

lemma Goes.trans (h : Goes e c c' out) (h' : Goes e c' c'' out') : Goes e c c'' (out ++ out') := by
  obtain ⟨as, hlog, has⟩ := h.log
  obtain ⟨bs, hlog', hbs⟩ := h'.log
  refine ⟨⟨as ++ bs, by rw [hlog', hlog, append_assoc], by rw [filterMap_append, has, hbs]⟩,
    fun f hf => (mem_append.1 hf).elim (h.fit f) (h'.fit f),
    h'.authChallenge.trans h.authChallenge, h'.peerChallenge.trans h.peerChallenge,
    h'.ntResponse.trans h.ntResponse⟩

lemma Goes.send (hf : Fit e .server f) (hp : f.1 ≠ protocolCHAP)
    (h : (c'.log, c'.authChallenge, c'.peerChallenge, c'.ntResponse) =
      (c.log ++ [.sent f.1 f.2], c.authChallenge, c.peerChallenge, c.ntResponse)) :
    Goes e c c' [f] := by
  simp only [Prod.mk.injEq] at h
  exact ⟨⟨_, h.1, rfl⟩, fun _ hg => mem_singleton.1 hg ▸ ⟨hf, hp⟩, h.2.1, h.2.2.1, h.2.2.2⟩

lemma options_of_sound (hs : c.Equipped e) (hph : c.phase = .ipcp ∨ c.phase = .up) :
    ipcpOptions c.reqIP c.reqDNS1 c.reqDNS2 = zeroOptions ∨
      ipcpOptions c.reqIP c.reqDNS1 c.reqDNS2 = e.assignedOptions := by
  rcases (hs.ipcp hph).2 with ⟨h, h1, h2⟩ | ⟨h, h1, h2⟩ <;> rw [h, h1, h2]
  · exact .inl rfl
  · exact .inr rfl

lemma startIPCP_spec (hs : c.Equipped e) :
    ∃ out, Goes e c (startIPCP e.client { c with phase := .ipcp }) out ∧
      (startIPCP e.client { c with phase := .ipcp }).Equipped e ∧ ∃ k good,
        (startIPCP e.client { c with phase := .ipcp }).half e = (c.half e).start k good ∧
          out.map (kindOf e .server) = [.request .ipcp k good] := by
  have hshort : ∀ o ∈ zeroOptions, o.value.length + 2 < 256 := by decide
  refine ⟨[(protocolIPCP, ⟨configureRequest, c.reqID + 1, marshalOptions zeroOptions⟩)],
    .send (.ipcpRequestToServer _ _ (.inl rfl)) ipcp_ne_chap rfl,
    { hs with ipcp := fun _ => ⟨rfl, .inl ⟨rfl, rfl, rfl⟩⟩ }, c.reqID + 1,
    decide (e.naks zeroOptions = []), rfl, ?_⟩
  rw [map_singleton, kindOf_ipcpRequestToServer _ hshort]

lemma maybeLCPUp_spec (hs : c.Equipped e) (hipcp : c.phase = .ipcp → ¬ (c.half e).Both .ipcp) :
    ∃ out, Goes e c (c.maybeLCPUp e.client) out ∧ (c.maybeLCPUp e.client).Equipped e ∧
      (c.half e).Settles .client e.auth ((c.maybeLCPUp e.client).half e)
        (out.map (kindOf e .server)) := by
  unfold maybeLCPUp
  by_cases hstay : c.phase ≠ .lcp ∨ c.lcpLocalOpen = false ∨ c.lcpRemoteOpen = false
  · rw [if_pos hstay]
    refine ⟨[], .of_eq rfl, hs, .stay (fun hph hb => ?_) hipcp⟩
    exact stays_iff.1 hstay ⟨hph, hb⟩
  rw [if_neg hstay]
  obtain ⟨hph, hopen⟩ := not_not.1 (stays_iff.not.1 hstay)
  have hboth : (c.half e).Both .lcp := hopen
  have hreq := hs.auth hboth.2
  by_cases hauth : c.peerRequiresAuth = true
  · rw [if_pos hauth]
    exact ⟨[], .of_eq rfl, ⟨hs.lcp, hs.auth, by simp⟩,
      .auth hph hboth (hreq ▸ hauth) _ rfl⟩
  · rw [if_neg hauth]
    obtain ⟨out, hgoes, hsound, k, good, hhalf, hout⟩ := startIPCP_spec hs
    refine ⟨out, hgoes, hsound, ?_⟩
    rw [hhalf, hout]
    exact .ipcp k good hph hboth (by rw [← hreq]; simpa using hauth) nofun

lemma maybeIPCPUp_spec (hs : c.Equipped e) (hlcp : c.phase = .lcp → ¬ (c.half e).Both .lcp) :
    Goes e c c.maybeIPCPUp [] ∧ c.maybeIPCPUp.Equipped e ∧
      (c.half e).Settles .client e.auth (c.maybeIPCPUp.half e) [] := by
  unfold maybeIPCPUp
  by_cases hstay : c.phase ≠ .ipcp ∨ c.ipcpLocalOpen = false ∨ c.ipcpRemoteOpen = false
  · rw [if_pos hstay]
    refine ⟨.of_eq rfl, hs, .stay hlcp fun hph hb => ?_⟩
    exact stays_iff.1 hstay ⟨hph, hb⟩
  · rw [if_neg hstay]
    obtain ⟨hph, hboth⟩ := not_not.1 (stays_iff.not.1 hstay)
    exact ⟨⟨⟨_, rfl, rfl⟩, nofun, rfl, rfl, rfl⟩, ⟨hs.lcp, hs.auth, fun _ => hs.ipcp (.inl hph)⟩,
      .up hph hboth⟩

/-! ### Frame by frame -/

/-- What the client does with a frame. -/
structure Reply (e : LinkEnv) (c : Client) (f : Frame) (c' : Client) (out : List Frame) : Prop where
  log : ∃ as, c'.log = c.log ++ as ∧ as.filterMap ClientAction.frame = out
  fit : ∀ g ∈ out, Fit e .server g
  sound : c'.Equipped e
  turn : (c.half e).Turn .client e.auth (kindOf e .client f) (c'.half e)
    (out.map (kindOf e .server))
  same : kindOf e .client f ≠ .challenge → Goes e c c' out

section

variable (hg : Goes e c c' out) (hs : c'.Equipped e)

include hg hs

lemma Goes.reply (ht : (c.half e).Turn .client e.auth (kindOf e .client f) (c'.half e)
      (out.map (kindOf e .server))) : Reply e c f c' out :=
  ⟨hg.log, fun f hf => (hg.fit f hf).1, hs, ht, fun _ => hg⟩

lemma Goes.thenLCPUp (hipcp : c'.phase = .ipcp → ¬ (c'.half e).Both .ipcp)
    (ht : ∀ h' ms, (c'.half e).Settles .client e.auth h' ms →
      (c.half e).Turn .client e.auth (kindOf e .client f) h' (out.map (kindOf e .server) ++ ms)) :
    ∃ out, Reply e c f (c'.maybeLCPUp e.client) out := by
  obtain ⟨out', hgoes, hequipped, hsettles⟩ := maybeLCPUp_spec hs hipcp
  exact ⟨_, (hg.trans hgoes).reply hequipped (map_append ▸ ht _ _ hsettles)⟩

lemma Goes.thenIPCPUp (hlcp : c'.phase = .lcp → ¬ (c'.half e).Both .lcp)
    (ht : ∀ h', (c'.half e).Settles .client e.auth h' [] →
      (c.half e).Turn .client e.auth (kindOf e .client f) h' (out.map (kindOf e .server))) :
    ∃ out, Reply e c f c'.maybeIPCPUp out := by
  obtain ⟨hgoes, hequipped, hsettles⟩ := maybeIPCPUp_spec hs hlcp
  exact ⟨_, (hg.trans hgoes).reply hequipped (by simpa using ht _ hsettles)⟩

end

variable (hs : c.Equipped e) (hh : (c.half e).Sound .client e.auth) (k : UInt8) (body : Bytes)

include hs hh

lemma reply_lcpRequest (hopts : parseOptions body = some opts)
    (hok : ∀ o ∈ opts, o.type = optMagic ∨ o = ⟨optAuthProto, authMSCHAPv2⟩)
    (hauth : hasAuthProto opts = e.auth) (hlen : body.length + 4 < 65536) :
    ∃ out, Reply e c (protocolLCP, ⟨configureRequest, k, body⟩)
      (c.handleLCP e.client ⟨configureRequest, k, body⟩) out := by
  have hrej : (opts.filter fun o =>
      o.type ∉ [optMRU, optMagic, optQuality, optPFC, optACFC, optAuthProto]) = [] := by
    refine filter_eq_nil_iff.2 fun o ho => ?_
    rcases hok o ho with ht | rfl
    · simp [ht]
    · simp
  have hnak : (opts.filter fun o => o.type = optAuthProto ∧ o.value ≠ authMSCHAPv2) = [] := by
    refine filter_eq_nil_iff.2 fun o ho => ?_
    rcases hok o ho with ht | rfl
    · simp [ht, (by decide : optMagic ≠ optAuthProto)]
    · simp
  have hhandle : c.handleLCP e.client ⟨configureRequest, k, body⟩ =
      maybeLCPUp e.client { c.act (.sent protocolLCP ⟨configureAck, k, body⟩) with
        lcpRestart := ⟨c.lcpRestart.armed, 0⟩, peerRequiresAuth := e.auth,
        lcpRemoteOpen := true } := by
    rw [handleLCP]
    simp only [if_true, handleLCPConfigReq, hopts, hrej, hnak, hauth, ne_eq, not_true_eq_false,
      if_false, map_nil]
    rfl
  rw [hhandle]
  refine Goes.thenLCPUp (.send (.lcpAck _ k body hlen) lcp_ne_chap rfl)
    { hs with auth := fun _ => rfl } hh.ipcp fun h' ms hsettles => ?_
  exact .grant .lcp k _ _ hsettles

lemma reply_lcpAck :
    ∃ out, Reply e c (protocolLCP, ⟨configureAck, k, body⟩)
      (c.handleLCP e.client ⟨configureAck, k, body⟩) out := by
  have hhandle : c.handleLCP e.client ⟨configureAck, k, body⟩ =
      if k = c.lcpReqID then maybeLCPUp e.client { c with lcpRestart := {}, lcpLocalOpen := true }
      else { c with lcpRestart := { c.lcpRestart with tries := 0 } } := by
    rw [handleLCP]
    exact (if_neg (by decide : configureAck ≠ configureRequest)).trans (if_pos rfl)
  rw [hhandle]
  split_ifs with hk
  · refine Goes.thenLCPUp (.of_eq rfl) { hs with } hh.ipcp fun h' ms hsettles => ?_
    subst hk
    exact .opened .lcp _ _ hsettles
  · exact ⟨[], Goes.reply (.of_eq rfl) { hs with } (.stale .lcp k hk)⟩

omit hh in
lemma reply_echoReply :
    ∃ out, Reply e c (protocolLCP, ⟨echoReply, k, body⟩)
      (c.handleLCP e.client ⟨echoReply, k, body⟩) out := by
  have hhandle : c.handleLCP e.client ⟨echoReply, k, body⟩ =
      if c.echoWait ∧ k = c.echoID then
        { c with lcpRestart := { c.lcpRestart with tries := 0 }, echoWait := false }
      else { c with lcpRestart := { c.lcpRestart with tries := 0 } } := rfl
  rw [hhandle]
  refine ⟨[], ?_⟩
  split_ifs
  · exact Goes.reply (.of_eq rfl) { hs with } (.other [] nofun)
  · exact Goes.reply (.of_eq rfl) { hs with } (.other [] nofun)

lemma reply_ipcpRequest (hlen : body.length + 4 < 65536) :
    ∃ out, Reply e c (protocolIPCP, ⟨configureRequest, k, body⟩)
      (c.handleIPCP e.client ⟨configureRequest, k, body⟩) out := by
  obtain ⟨ip, hip⟩ : ∃ ip, ({ c with ipcpRestart := { c.ipcpRestart with tries := 0 } } :
      Client).recordPeerIP body =
      { c with ipcpRestart := { c.ipcpRestart with tries := 0 }, peerIP := ip } := by
    unfold recordPeerIP
    cases parseOptions body with
    | none => exact ⟨c.peerIP, rfl⟩
    | some opts =>
      dsimp only
      generalize c.ipcpRestart = r
      suffices h : ∀ ip, ∃ ip', opts.foldl (fun (s : Client) o =>
          if o.type = optIPAddress ∧ o.value.length = 4 then { s with peerIP := o.value } else s)
          { c with ipcpRestart := { r with tries := 0 }, peerIP := ip } =
          { c with ipcpRestart := { r with tries := 0 }, peerIP := ip' } from h c.peerIP
      induction opts with
      | nil => exact fun ip => ⟨ip, rfl⟩
      | cons o opts ih =>
        intro ip
        rw [foldl_cons]
        split_ifs
        · exact ih o.value
        · exact ih ip
  have hhandle : c.handleIPCP e.client ⟨configureRequest, k, body⟩ =
      maybeIPCPUp { c.act (.sent protocolIPCP ⟨configureAck, k, body⟩) with
        ipcpRestart := { c.ipcpRestart with tries := 0 }, peerIP := ip,
        ipcpRemoteOpen := true } := by
    rw [handleIPCP]
    simp only [if_true, hip]
    rfl
  rw [hhandle]
  refine Goes.thenIPCPUp (.send (.ipcpAck _ k body hlen) ipcp_ne_chap rfl) { hs with } hh.lcp
    fun h' hsettles => ?_
  rw [kindOf_ipcpRequestToClient]
  exact .grant .ipcp k _ _ hsettles

lemma reply_ipcpAck :
    ∃ out, Reply e c (protocolIPCP, ⟨configureAck, k, body⟩)
      (c.handleIPCP e.client ⟨configureAck, k, body⟩) out := by
  have hhandle : c.handleIPCP e.client ⟨configureAck, k, body⟩ =
      if k = c.ipcpReqID then maybeIPCPUp { c with ipcpRestart := {}, ipcpLocalOpen := true }
      else { c with ipcpRestart := { c.ipcpRestart with tries := 0 } } := by
    rw [handleIPCP]
    exact (if_neg (by decide : configureAck ≠ configureRequest)).trans (if_pos rfl)
  rw [hhandle]
  split_ifs with hk
  · refine Goes.thenIPCPUp (.of_eq rfl) { hs with } hh.lcp fun h' hsettles => ?_
    subst hk
    exact .opened .ipcp _ _ hsettles
  · exact ⟨[], Goes.reply (.of_eq rfl) { hs with } (.stale .ipcp k hk)⟩

omit hh in
lemma reply_success (hverify : verifySuccess e.mschap body c.authChallenge c.peerChallenge
      e.username e.password c.ntResponse = true) :
    ∃ out, Reply e c (protocolCHAP, ⟨chapSuccess, k, body⟩)
      (c.handleCHAP e.client ⟨chapSuccess, k, body⟩) out := by
  have hhandle : c.handleCHAP e.client ⟨chapSuccess, k, body⟩ =
      startIPCP e.client { c.act (.authenticated c.ntResponse) with phase := .ipcp } := by
    rw [handleCHAP]
    exact (if_neg (by decide : chapSuccess ≠ chapChallenge)).trans
      ((if_pos rfl).trans (if_pos hverify))
  rw [hhandle]
  obtain ⟨out, hgoes, hsound, i, good, hhalf, hout⟩ :=
    startIPCP_spec (e := e) (c := c.act (.authenticated c.ntResponse)) { hs with }
  have hfirst : Goes e c (c.act (.authenticated c.ntResponse)) [] :=
    ⟨⟨_, rfl, rfl⟩, nofun, rfl, rfl, rfl⟩
  refine ⟨_, (hfirst.trans hgoes).reply hsound ?_⟩
  rw [hhalf, nil_append, hout]
  exact .success i good rfl

omit hh in
lemma reply_failure (hopen : c.phase ≠ .closed) :
    ∃ out, Reply e c (protocolCHAP, ⟨chapFailure, k, body⟩)
      (c.handleCHAP e.client ⟨chapFailure, k, body⟩) out := by
  have hhandle : c.handleCHAP e.client ⟨chapFailure, k, body⟩ = c.fail := rfl
  rw [hhandle, fail, if_neg hopen]
  exact ⟨[], Goes.reply ⟨⟨_, rfl, rfl⟩, nofun, rfl, rfl, rfl⟩ ⟨hs.lcp, hs.auth, nofun⟩
    (.failure rfl)⟩

omit hh in
/-- A Nak tells the client its addresses. -/
lemma adopt_naks (hfit : e.Fits) (hph : c.phase = .ipcp ∨ c.phase = .up) :
    c.adoptIPCPValues (marshalOptions (e.naks zeroOptions)) = { c with
      reqIP := e.cfg.clientIP, reqDNS1 := some (e.dnsAt 0), reqDNS2 := some (e.dnsAt 1) } := by
  have hc := hfit.clientIP
  have h0 := length_dnsAt hfit 0
  have h1 := length_dnsAt hfit 1
  have hip : c.reqIP = ipv4zero ∨ c.reqIP = e.cfg.clientIP := (hs.ipcp hph).2.imp And.left And.left
  have hdns1 : c.reqDNS1 = some ipv4zero ∨ c.reqDNS1 = some (e.dnsAt 0) :=
    (hs.ipcp hph).2.imp (fun h => h.2.1) fun h => h.2.1
  have hdns2 : c.reqDNS2 = some ipv4zero ∨ c.reqDNS2 = some (e.dnsAt 1) :=
    (hs.ipcp hph).2.imp (fun h => h.2.2) fun h => h.2.2
  rw [adoptIPCPValues, parseOptions_marshalOptions (length_naks_zero hfit).2, naks_zero]
  obtain ⟨⟩ := c
  simp only at hip hdns1 hdns2 ⊢
  split_ifs with hz hz1 hz2 hz2 hz1 hz2 hz2 <;>
    simp_all [optIPAddress, optPrimaryDNS, optSecondaryDNS]

omit hh in
lemma reply_nak (hfit : e.Fits) (hph : c.phase = .ipcp ∨ c.phase = .up) :
    ∃ out, Reply e c (protocolIPCP, ⟨configureNak, k, marshalOptions (e.naks zeroOptions)⟩)
      (c.handleIPCP e.client ⟨configureNak, k, marshalOptions (e.naks zeroOptions)⟩) out := by
  have hsound : Equipped e { c with ipcpRestart := { c.ipcpRestart with tries := 0 } } :=
    { hs with }
  have hhandle : c.handleIPCP e.client ⟨configureNak, k, marshalOptions (e.naks zeroOptions)⟩ =
      sendIPCPConfigReq e.client { c with
        ipcpRestart := { c.ipcpRestart with tries := 0 }
        reqIP := e.cfg.clientIP, reqDNS1 := some (e.dnsAt 0), reqDNS2 := some (e.dnsAt 1) } := by
    rw [handleIPCP]
    refine (if_neg (by decide : configureNak ≠ configureRequest)).trans
      ((if_neg (by decide : configureNak ≠ configureAck)).trans ((if_pos rfl).trans ?_))
    exact congrArg _ (adopt_naks hsound hfit hph)
  have hshort := (short_request hfit (.inr rfl : e.assignedOptions = zeroOptions ∨ _)).1
  rw [hhandle]
  refine ⟨[(protocolIPCP, ⟨configureRequest, c.reqID + 1, marshalOptions e.assignedOptions⟩)],
    Goes.reply (.send (.ipcpRequestToServer _ _ (.inr rfl)) ipcp_ne_chap rfl)
      ⟨hs.lcp, hs.auth, fun _ => ⟨rfl, .inr ⟨rfl, rfl, rfl⟩⟩⟩ ?_⟩
  have hhalf : (sendIPCPConfigReq e.client { c with
        ipcpRestart := { c.ipcpRestart with tries := 0 }
        reqIP := e.cfg.clientIP, reqDNS1 := some (e.dnsAt 0),
        reqDNS2 := some (e.dnsAt 1) }).half e =
      (c.half e).set .ipcp (((c.half e).cp .ipcp).asking (c.reqID + 1) true) := by
    have hgood : decide (e.naks e.assignedOptions = []) = true := by simp [naks_assigned hfit]
    rw [← hgood]
    rfl
  rw [hhalf, map_singleton, kindOf_ipcpRequestToServer _ hshort, naks_assigned hfit, kindOf_ipcpNak]
  exact .nak (c.reqID + 1) rfl

/-- The client has answered a challenge, and remembers how. -/
structure Answered (e : LinkEnv) (c : Client) (ac : Bytes) : Prop where
  authChallenge : c.authChallenge = ac
  peerChallenge : c.peerChallenge.length = 16
  ntResponse : c.ntResponse =
    octets 24 (e.mschap.generateNTResponse ac c.peerChallenge e.username e.password)

omit hh in
lemma reply_challenge (hfit : e.Fits) {ac : Bytes} (hac : ac.length = 16) :
    ∃ out c', c.handleCHAP e.client ⟨chapChallenge, k, buildChallenge ac Server.name⟩ = c' ∧
      Reply e c (protocolCHAP, ⟨chapChallenge, k, buildChallenge ac Server.name⟩) c' out ∧
      c'.Answered e ac ∧
      ∀ g ∈ out, g.2.body = responseBody c'.peerChallenge c'.ntResponse e.username := by
  obtain ⟨pc, hpc⟩ := isSome_iff_exists.1 (hfit.peerChallenge c.log.length)
  have hhandle : c.handleCHAP e.client ⟨chapChallenge, k, buildChallenge ac name⟩ = act { c with
        authChallenge := ac
        peerChallenge := octets 16 pc
        ntResponse := octets 24
          (e.mschap.generateNTResponse ac (octets 16 pc) e.username e.password) }
        (.sent protocolCHAP ⟨chapResponse, k, responseBody (octets 16 pc) (octets 24
          (e.mschap.generateNTResponse ac (octets 16 pc) e.username e.password)) e.username⟩) := by
    rw [handleCHAP]
    refine (if_pos rfl).trans ?_
    simp only [parseChallenge_buildChallenge _ hac]
    rw [show e.client.random c.log.length = some pc from hpc]
    rfl
  have hlen : (responseBody (octets 16 pc) (octets 24
      (e.mschap.generateNTResponse ac (octets 16 pc) e.username e.password))
      e.username).length + 4 < 65536 := by
    have := hfit.username
    simp only [responseBody, length_append, length_octets, length_replicate, length_singleton]
    omega
  refine ⟨[(protocolCHAP, ⟨chapResponse, k, _⟩)], _, hhandle, ⟨⟨_, rfl, rfl⟩,
    fun g hg => mem_singleton.1 hg ▸ .response k _ hlen, { hs with },
    .challenge rfl, fun hne => absurd (kindOf_challenge k _) hne⟩, ⟨rfl, length_octets 16 pc, rfl⟩,
    fun g hg => mem_singleton.1 hg ▸ rfl⟩

/-- **The client.**  It does with every frame of the link what the negotiation says. -/
theorem turn (hfit : e.Fits) (hopen : c.phase ≠ .closed) (hf : Fit e .client f) {ac : Bytes}
    (hchallenge : kindOf e .client f = .challenge →
      f.2.body = buildChallenge ac Server.name ∧ ac.length = 16)
    (hsuccess : kindOf e .client f = .success → verifySuccess e.mschap f.2.body c.authChallenge
      c.peerChallenge e.username e.password c.ntResponse = true)
    (hnak : kindOf e .client f = .nak → c.phase.Late) :
    ∃ out, Reply e c f (c.receive e.client (frameBytes f)) out ∧
      (kindOf e .client f = .challenge → (c.receive e.client (frameBytes f)).Answered e ac ∧
        ∀ g ∈ out, g.2.body = responseBody (c.receive e.client (frameBytes f)).peerChallenge
          (c.receive e.client (frameBytes f)).ntResponse e.username) := by
  have hreceive : c.receive e.client (frameBytes f) = c.handle e.client f.1 f.2 := by
    rw [receive, hf.packetOf hfit]
  have hlcp : ∀ p, c.handle e.client protocolLCP p = c.handleLCP e.client p := fun p => by
    rw [handle, if_neg hopen, if_pos rfl]
  have hchap : ∀ p, c.handle e.client protocolCHAP p = c.handleCHAP e.client p := fun p => by
    rw [handle, if_neg hopen, if_neg (by decide), if_pos rfl]
  have hipcp : ∀ p, c.handle e.client protocolIPCP p = c.handleIPCP e.client p := fun p => by
    rw [handle, if_neg hopen, if_neg (by decide), if_neg (by decide), if_pos rfl]
  rw [hreceive]
  cases hf with
  | lcpRequestToClient k body opts hopts hok hauth hlen =>
    obtain ⟨out, h⟩ := reply_lcpRequest hs hh k body hopts hok hauth hlen
    exact ⟨out, hlcp _ ▸ h, nofun⟩
  | lcpAck _ k body hlen =>
    obtain ⟨out, h⟩ := reply_lcpAck hs hh k body
    exact ⟨out, hlcp _ ▸ h, nofun⟩
  | echoReply k body hlen =>
    obtain ⟨out, h⟩ := reply_echoReply hs k body
    exact ⟨out, hlcp _ ▸ h, nofun⟩
  | challenge k body hlen =>
    obtain ⟨hbody, hac⟩ := hchallenge (kindOf_challenge k body)
    dsimp only at hbody
    subst hbody
    obtain ⟨out, c', hc', h, hans, hout⟩ := reply_challenge hs k hfit hac
    rw [hchap, hc']
    exact ⟨out, h, fun _ => ⟨hans, hout⟩⟩
  | success k body hlen =>
    obtain ⟨out, h⟩ := reply_success hs k body (hsuccess (kindOf_success k body))
    exact ⟨out, hchap _ ▸ h, nofun⟩
  | failure k body hlen =>
    obtain ⟨out, h⟩ := reply_failure hs k body hopen
    exact ⟨out, hchap _ ▸ h, nofun⟩
  | ipcpRequestToClient k body hlen =>
    obtain ⟨out, h⟩ := reply_ipcpRequest hs hh k body hlen
    exact ⟨out, hipcp _ ▸ h, nofun⟩
  | ipcpAck _ k body hlen =>
    obtain ⟨out, h⟩ := reply_ipcpAck hs hh k body
    exact ⟨out, hipcp _ ▸ h, nofun⟩
  | ipcpNak k =>
    obtain ⟨out, h⟩ := reply_nak hs k hfit ((hnak (kindOf_ipcpNak k _)).active hopen)
    exact ⟨out, hipcp _ ▸ h, nofun⟩

/-! ### Timers and echoes -/

def restart (c : Client) : Proto → RestartTimer
  | .lcp => c.lcpRestart
  | .ipcp => c.ipcpRestart

/-- What the callback of a Restart timer does. -/
inductive Timeout (e : LinkEnv) (c : Client) (p : Proto) (c' : Client) : Prop
  | moot (h : c.phase = .closed ∨ (c.restart p).armed = false) (heq : c' = c)
  | fire (f : Frame) (hopen : c.phase ≠ .closed) (harmed : (c.restart p).armed = true)
      (hgoes : Goes e c c' [f]) (hequipped : c'.Equipped e) (hhalf : c'.half e = c.half e)
      (hkind : kindOf e .server f = .request p ((c.half e).cp p).reqID ((c.half e).cp p).good)
  | runOut (htries : Server.maxConfigure ≤ (c.restart p).tries + 1) (hgoes : Goes e c c' [])
      (hequipped : c'.Equipped e) (hhalf : c'.half e = (c.half e).close)

omit hh in
lemma timeout_lcp : Timeout e c .lcp (c.lcpTimeout e.client) := by
  refine restart_cases (Timeout e c .lcp) (.moot · rfl) (fun hopen htries => ?_)
    fun hopen harmed => ?_
  · rw [fail, if_neg (by exact hopen)]
    exact .runOut htries ⟨⟨_, rfl, rfl⟩, nofun, rfl, rfl, rfl⟩ ⟨hs.lcp, hs.auth, nofun⟩ rfl
  obtain ⟨body, hreq, hfit⟩ := hs.lcp
  refine .fire (protocolLCP, c.lcpConfigReq) hopen harmed
    (.send hfit lcp_ne_chap rfl) { hs with } ?_ (by rw [hreq, kindOf_lcpRequest]; rfl)
  rw [half, half, harmed]
  rfl

omit hh in
lemma timeout_ipcp (hfit : e.Fits) (hbegun : c.ipcpRestart.armed = true → c.phase ≠ .closed →
    c.phase = .ipcp ∨ c.phase = .up) : Timeout e c .ipcp (c.ipcpTimeout e.client) := by
  refine restart_cases (Timeout e c .ipcp) (.moot · rfl) (fun hopen htries => ?_)
    fun hopen harmed => ?_
  · rw [fail, if_neg (by exact hopen)]
    exact .runOut htries ⟨⟨_, rfl, rfl⟩, nofun, rfl, rfl, rfl⟩ ⟨hs.lcp, hs.auth, nofun⟩ rfl
  have hopts := options_of_sound hs (hbegun harmed hopen)
  have hreq := (hs.ipcp (hbegun harmed hopen)).1
  refine .fire (protocolIPCP, c.ipcpConfigReq) hopen harmed
    (.send ?_ ipcp_ne_chap rfl) { hs with } ?_ ?_
  · rw [hreq]
    exact .ipcpRequestToServer _ _ hopts
  · rw [half, half, harmed]
    rfl
  · rw [hreq, kindOf_ipcpRequestToServer _ (short_request hfit hopts).1]
    rfl

omit hh in
lemma sendEcho_spec (hopen : ¬ (c.phase = .closed ∨ c.echoWait = true)) :
    Goes e c (c.sendEcho e.client) [(protocolLCP, ⟨echoRequest, c.reqID + 1, putBE32 c.magic⟩)] ∧
      (c.sendEcho e.client).Equipped e ∧ (c.sendEcho e.client).half e = c.half e := by
  rw [sendEcho, if_neg hopen]
  exact ⟨.send (.echoRequest _ _ (by simp)) lcp_ne_chap rfl, { hs with }, rfl⟩

end Client

/-! ## The server -/

namespace Server

/-- What a server that keeps to the negotiation has at hand. -/
structure Equipped (e : LinkEnv) (s : Server) : Prop where
  lcp : ∃ body, s.lcpConfigReq = ⟨configureRequest, s.lcpReqID, body⟩ ∧
    Fit e .client (protocolLCP, s.lcpConfigReq)
  ipcp : s.phase = .ipcp ∨ s.phase = .up → s.ipcpConfigReq =
    ⟨configureRequest, s.ipcpReqID, marshalOptions [⟨optIPAddress, e.cfg.serverIP⟩]⟩

/-- What a session has sent on its way to another one; nothing of it is CHAP, and the challenge is
the same. -/
structure Goes (e : LinkEnv) (s s' : Server) (out : List Frame) : Prop where
  log : ∃ as, s'.log = s.log ++ as ∧ as.filterMap Action.frame = out
  fit : ∀ f ∈ out, Fit e .client f ∧ f.1 ≠ protocolCHAP
  authChallenge : s'.authChallenge = s.authChallenge

variable {e : LinkEnv} {s s' s'' : Server} {out out' : List Frame}

lemma Goes.of_eq (h : (s'.log, s'.authChallenge) = (s.log, s.authChallenge)) : Goes e s s' [] := by
  simp only [Prod.mk.injEq] at h
  exact ⟨⟨[], by simp [h.1], rfl⟩, nofun, h.2⟩

lemma Goes.trans (h : Goes e s s' out) (h' : Goes e s' s'' out') : Goes e s s'' (out ++ out') := by
  obtain ⟨as, hlog, has⟩ := h.log
  obtain ⟨bs, hlog', hbs⟩ := h'.log
  exact ⟨⟨as ++ bs, by rw [hlog', hlog, append_assoc], by rw [filterMap_append, has, hbs]⟩,
    fun f hf => (mem_append.1 hf).elim (h.fit f) (h'.fit f),
    h'.authChallenge.trans h.authChallenge⟩

lemma Goes.send (hf : Fit e .client f) (hp : f.1 ≠ protocolCHAP)
    (h : (s'.log, s'.authChallenge) = (s.log ++ [.sent f.1 f.2], s.authChallenge)) :
    Goes e s s' [f] := by
  simp only [Prod.mk.injEq] at h
  exact ⟨⟨_, h.1, rfl⟩, fun _ hg => mem_singleton.1 hg ▸ ⟨hf, hp⟩, h.2⟩

lemma fit_ipcpRequest (hfit : e.Fits) (k : UInt8) : Fit e .client (protocolIPCP,
    ⟨configureRequest, k, marshalOptions [⟨optIPAddress, e.cfg.serverIP⟩]⟩) :=
  .ipcpRequestToClient k _ (by simp [marshalOptions, hfit.serverIP])

/-- The server begins with IPCP. -/
lemma startIPCP_spec (hfit : e.Fits) (hs : s.Equipped e) :
    Goes e s (sendIPCPConfigReq e.server { s with phase := .ipcp }) [(protocolIPCP,
        ⟨configureRequest, s.reqID + 1, marshalOptions [⟨optIPAddress, e.cfg.serverIP⟩]⟩)] ∧
      (sendIPCPConfigReq e.server { s with phase := .ipcp }).Equipped e ∧
      (sendIPCPConfigReq e.server { s with phase := .ipcp }).half =
        s.half.start (s.reqID + 1) true :=
  ⟨.send (fit_ipcpRequest hfit _) ipcp_ne_chap rfl,
    ⟨hs.lcp, fun _ => rfl⟩, rfl⟩

/-- What the server has to do with CHAP in one turn: nothing, the challenge, or the judgement of a
response. -/
inductive Chap (e : LinkEnv) (s : Server) (f : Frame) (s' : Server) (out : List Frame) : Prop
  | plain (h : Goes e s s' out)
  | challenged (hph : s.phase = .lcp) (hauth : e.auth = true) (hac : s'.authChallenge.length = 16)
      (hout : ∀ g ∈ out, g.1 = protocolCHAP → kindOf e .client g = .challenge ∧
        g.2.body = buildChallenge s'.authChallenge name)
  | judged (hf : kindOf e .server f = .response) (hac : s'.authChallenge = s.authChallenge)
      (hout : ∀ g ∈ out, g.1 = protocolCHAP → kindOf e .client g = .failure ∨
        kindOf e .client g = .success ∧ ∀ pc nt, f.2.body = responseBody pc nt e.username →
          pc.length = 16 →
          nt = octets 24 (e.mschap.generateNTResponse s.authChallenge pc e.username e.password) →
          verifySuccess e.mschap g.2.body s.authChallenge pc e.username e.password nt = true)

/-- What the server does with a frame. -/
structure Reply (e : LinkEnv) (s : Server) (f : Frame) (s' : Server) (out : List Frame) : Prop where
  log : ∃ as, s'.log = s.log ++ as ∧ as.filterMap Action.frame = out
  fit : ∀ g ∈ out, Fit e .client g
  equipped : s'.Equipped e
  turn : s.half.Turn .server e.auth (kindOf e .server f) s'.half (out.map (kindOf e .client))
  chap : Chap e s f s' out

lemma Goes.reply (hg : Goes e s s' out) (hs : s'.Equipped e)
    (ht : s.half.Turn .server e.auth (kindOf e .server f) s'.half (out.map (kindOf e .client))) :
    Reply e s f s' out :=
  ⟨hg.log, fun f hf => (hg.fit f hf).1, hs, ht, .plain hg⟩

/-- `maybeLCPUp`: IPCP begins, or the client is challenged. -/
lemma maybeLCPUp_spec (hfit : e.Fits) (hs : s.Equipped e)
    (hipcp : s.phase = .ipcp → ¬ s.half.Both .ipcp) (f : Frame) :
    ∃ out, (∃ as, (s.maybeLCPUp e.server).log = s.log ++ as ∧
        as.filterMap Action.frame = out) ∧ (∀ g ∈ out, Fit e .client g) ∧
      (s.maybeLCPUp e.server).Equipped e ∧
      s.half.Settles .server e.auth (s.maybeLCPUp e.server).half (out.map (kindOf e .client)) ∧
      Chap e s f (s.maybeLCPUp e.server) out := by
  unfold maybeLCPUp
  by_cases hstay : s.phase ≠ .lcp ∨ s.lcpLocalOpen = false ∨ s.lcpRemoteOpen = false
  · rw [if_pos hstay]
    refine ⟨[], ⟨[], by simp, rfl⟩, nofun, hs, .stay (fun hph hb => ?_) hipcp,
      .plain (.of_eq rfl)⟩
    exact stays_iff.1 hstay ⟨hph, hb⟩
  rw [if_neg hstay]
  obtain ⟨hph, hopen⟩ := not_not.1 (stays_iff.not.1 hstay)
  have hboth : s.half.Both .lcp := hopen
  by_cases hauth : e.server.cfg.noAuth = true
  · rw [if_pos hauth]
    obtain ⟨hgoes, hequipped, hhalf⟩ := startIPCP_spec hfit hs
    refine ⟨_, hgoes.log, fun g hg => (hgoes.fit g hg).1, hequipped, ?_, .plain hgoes⟩
    rw [hhalf, map_singleton, kindOf_ipcpRequestToClient]
    refine .ipcp _ _ hph hboth ?_ fun _ => rfl
    rw [LinkEnv.auth, show e.cfg.noAuth = true from hauth]
    rfl
  · rw [if_neg hauth]
    obtain ⟨ch, hch, hlen⟩ := hfit.challenge
    have hauth' : e.auth = true := by
      rw [LinkEnv.auth, show e.cfg.noAuth = false from Bool.eq_false_of_not_eq_true hauth]
      rfl
    have hsend : sendChallenge e.server { s with phase := .auth } =
        (({ s with phase := .auth, authChallenge := ch, reqID := s.reqID + 1 } : Server).act
          (.drew ch)).act
          (.sent protocolCHAP ⟨chapChallenge, s.reqID + 1, buildChallenge ch name⟩) := by
      rw [sendChallenge, show e.server.random = some ch from hch]
      rfl
    rw [hsend]
    refine ⟨[(protocolCHAP, ⟨chapChallenge, s.reqID + 1, buildChallenge ch name⟩)],
      ⟨[.drew ch, .sent protocolCHAP ⟨chapChallenge, s.reqID + 1, buildChallenge ch name⟩],
        by simp [act], rfl⟩, fun g hg => ?_, ⟨hs.lcp, nofun⟩,
      .auth hph hboth hauth' _ rfl, .challenged hph hauth' hlen fun g hg _ => ?_⟩
    · rw [mem_singleton.1 hg]
      exact .challenge _ _ (by simp [buildChallenge, hlen, name])
    · rw [mem_singleton.1 hg]
      exact ⟨kindOf_challenge _ _, rfl⟩

lemma maybeIPCPUp_spec (hs : s.Equipped e) (hlcp : s.phase = .lcp → ¬ s.half.Both .lcp) :
    Goes e s s.maybeIPCPUp [] ∧ s.maybeIPCPUp.Equipped e ∧
      s.half.Settles .server e.auth s.maybeIPCPUp.half [] := by
  unfold maybeIPCPUp
  by_cases hstay : s.phase ≠ .ipcp ∨ s.ipcpLocalOpen = false ∨ s.ipcpRemoteOpen = false
  · rw [if_pos hstay]
    refine ⟨.of_eq rfl, hs, .stay hlcp fun hph hb => ?_⟩
    exact stays_iff.1 hstay ⟨hph, hb⟩
  · rw [if_neg hstay]
    obtain ⟨hph, hboth⟩ := not_not.1 (stays_iff.not.1 hstay)
    exact ⟨⟨⟨_, rfl, rfl⟩, nofun, rfl⟩, ⟨hs.lcp, fun _ => hs.ipcp (.inl hph)⟩, .up hph hboth⟩

lemma Goes.thenIPCPUp (hg : Goes e s s' out) (hs : s'.Equipped e)
    (hlcp : s'.phase = .lcp → ¬ s'.half.Both .lcp)
    (ht : ∀ h', s'.half.Settles .server e.auth h' [] →
      s.half.Turn .server e.auth (kindOf e .server f) h' (out.map (kindOf e .client))) :
    ∃ out, Reply e s f s'.maybeIPCPUp out := by
  obtain ⟨hgoes, hequipped, hsettles⟩ := maybeIPCPUp_spec hs hlcp
  exact ⟨_, (hg.trans hgoes).reply hequipped (by simpa using ht _ hsettles)⟩

/-- Something plain, and then `maybeLCPUp`. -/
lemma Chap.after (h : Goes e s s' out) (hph : s'.phase = s.phase) (h' : Chap e s' f s'' out')
    (hf : kindOf e .server f ≠ .response) : Chap e s f s'' (out ++ out') := by
  cases h' with
  | plain h' => exact .plain (h.trans h')
  | challenged hph' hauth hac hout =>
    refine .challenged (hph.symm.trans hph') hauth hac fun g hg hp => ?_
    rcases mem_append.1 hg with hg | hg
    · exact absurd hp (h.fit g hg).2
    · exact hout g hg hp
  | judged hk _ _ => exact absurd hk hf

lemma Goes.thenLCPUp (hg : Goes e s s' out) (hfit : e.Fits) (hs : s'.Equipped e)
    (hipcp : s'.phase = .ipcp → ¬ s'.half.Both .ipcp) (hph : s'.phase = s.phase)
    (hf : kindOf e .server f ≠ .response)
    (ht : ∀ h' ms, s'.half.Settles .server e.auth h' ms →
      s.half.Turn .server e.auth (kindOf e .server f) h' (out.map (kindOf e .client) ++ ms)) :
    ∃ out, Reply e s f (s'.maybeLCPUp e.server) out := by
  obtain ⟨out', ⟨bs, hlog', hbs⟩, hfits, hequipped, hsettles, hchap⟩ :=
    maybeLCPUp_spec hfit hs hipcp f
  obtain ⟨as, hlog, has⟩ := hg.log
  refine ⟨out ++ out', ⟨as ++ bs, by rw [hlog', hlog, append_assoc],
    by rw [filterMap_append, has, hbs]⟩, fun g hg' => ?_, hequipped, map_append ▸ ht _ _ hsettles,
    hchap.after hg hph hf⟩
  exact (mem_append.1 hg').elim (fun h => (hg.fit g h).1) (hfits g)

/-! ### Frame by frame -/

variable (hfit : e.Fits) (hs : s.Equipped e) (hh : s.half.Sound .server e.auth) (k : UInt8)
  (body : Bytes)

include hfit hs hh

lemma reply_lcpRequest (hopts : parseOptions body = some opts)
    (hok : ∀ o ∈ opts, o.type = optMRU ∨ o.type = optMagic) (hlen : body.length + 4 < 65536) :
    ∃ out, Reply e s (protocolLCP, ⟨configureRequest, k, body⟩)
      (s.handleLCP e.server ⟨configureRequest, k, body⟩) out := by
  have hrej : (opts.filter fun o =>
      o.type ∉ [optMRU, optMagic, optQuality, optPFC, optACFC]) = [] := by
    refine filter_eq_nil_iff.2 fun o ho => ?_
    rcases hok o ho with ht | ht <;> simp [ht]
  have hhandle : s.handleLCP e.server ⟨configureRequest, k, body⟩ =
      maybeLCPUp e.server { s.act (.sent protocolLCP ⟨configureAck, k, body⟩) with
        lcpRestart := { s.lcpRestart with tries := 0 }, lcpRemoteOpen := true } := by
    rw [handleLCP]
    simp only [if_true, handleLCPConfigReq, hopts, hrej, ne_eq, not_true_eq_false, if_false]
    rfl
  rw [hhandle]
  refine Goes.thenLCPUp (.send (.lcpAck _ k body hlen) lcp_ne_chap rfl) hfit ⟨hs.lcp, hs.ipcp⟩
    hh.ipcp rfl nofun fun h' ms hsettles => ?_
  exact .grant .lcp k _ _ hsettles

lemma reply_lcpAck :
    ∃ out, Reply e s (protocolLCP, ⟨configureAck, k, body⟩)
      (s.handleLCP e.server ⟨configureAck, k, body⟩) out := by
  have hhandle : s.handleLCP e.server ⟨configureAck, k, body⟩ =
      if k = s.lcpReqID then maybeLCPUp e.server { s with lcpRestart := {}, lcpLocalOpen := true }
      else { s with lcpRestart := { s.lcpRestart with tries := 0 } } := by
    rw [handleLCP]
    exact (if_neg (by decide : configureAck ≠ configureRequest)).trans (if_pos rfl)
  rw [hhandle]
  split_ifs with hk
  · refine Goes.thenLCPUp (.of_eq rfl) hfit ⟨hs.lcp, hs.ipcp⟩ hh.ipcp rfl nofun
      fun h' ms hsettles => ?_
    subst hk
    exact .opened .lcp _ _ hsettles
  · exact ⟨[], Goes.reply (.of_eq rfl) ⟨hs.lcp, hs.ipcp⟩ (.stale .lcp k hk)⟩

omit hfit hh in
lemma reply_echoRequest (hlen : body.length + 4 < 65536) :
    ∃ out, Reply e s (protocolLCP, ⟨echoRequest, k, body⟩)
      (s.handleLCP e.server ⟨echoRequest, k, body⟩) out := by
  have hhandle : s.handleLCP e.server ⟨echoRequest, k, body⟩ =
      { s.act (.sent protocolLCP ⟨echoReply, k, putBE32 s.magic ++ body.drop 4⟩) with
        lcpRestart := { s.lcpRestart with tries := 0 } } := rfl
  rw [hhandle]
  refine ⟨_, Goes.reply (.send (.echoReply k _ ?_) lcp_ne_chap rfl)
    ⟨hs.lcp, hs.ipcp⟩ (.other _ (by simp))⟩
  simp only [length_append, length_putBE32, length_drop]
  omega

lemma reply_ipcpRequest (hopts : opts = zeroOptions ∨ opts = e.assignedOptions) :
    ∃ out, Reply e s (protocolIPCP, ⟨configureRequest, k, marshalOptions opts⟩)
      (s.handleIPCP e.server ⟨configureRequest, k, marshalOptions opts⟩) out := by
  obtain ⟨hshort, hlen⟩ := short_request hfit hopts
  have hkind := kindOf_ipcpRequestToServer (e := e) k hshort
  by_cases hnak : e.naks opts = []
  · have hhandle : s.handleIPCP e.server ⟨configureRequest, k, marshalOptions opts⟩ =
        maybeIPCPUp { s.act (.sent protocolIPCP ⟨configureAck, k, marshalOptions opts⟩) with
          ipcpRestart := { s.ipcpRestart with tries := 0 }, ipcpRemoteOpen := true } := by
      rw [handleIPCP]
      simp only [if_true, handleIPCPConfigReq, parseOptions_marshalOptions hshort]
      rw [if_neg (not_not.2 (show opts.flatMap (nakFor e.server) = [] from hnak))]
      rfl
    rw [hhandle]
    refine Goes.thenIPCPUp (.send (.ipcpAck _ k _ hlen) ipcp_ne_chap rfl) ⟨hs.lcp, hs.ipcp⟩ hh.lcp
      fun h' hsettles => ?_
    rw [hkind, decide_eq_true hnak]
    exact .grant .ipcp k _ _ hsettles
  · have hzero : opts = zeroOptions := hopts.resolve_right fun h =>
      hnak (h ▸ naks_assigned hfit)
    have hhandle : s.handleIPCP e.server ⟨configureRequest, k, marshalOptions opts⟩ =
        { s.act (.sent protocolIPCP ⟨configureNak, k, marshalOptions (e.naks opts)⟩) with
          ipcpRestart := { s.ipcpRestart with tries := 0 } } := by
      rw [handleIPCP]
      simp only [if_true, handleIPCPConfigReq, parseOptions_marshalOptions hshort]
      rw [if_pos (show opts.flatMap (nakFor e.server) ≠ [] from hnak)]
      rfl
    rw [hhandle]
    subst hzero
    refine ⟨_, Goes.reply (.send (.ipcpNak k) ipcp_ne_chap rfl)
      ⟨hs.lcp, hs.ipcp⟩ ?_⟩
    rw [hkind, decide_eq_false hnak, map_singleton, kindOf_ipcpNak]
    exact .refuse k rfl

omit hfit in
lemma reply_ipcpAck :
    ∃ out, Reply e s (protocolIPCP, ⟨configureAck, k, body⟩)
      (s.handleIPCP e.server ⟨configureAck, k, body⟩) out := by
  have hhandle : s.handleIPCP e.server ⟨configureAck, k, body⟩ =
      if k = s.ipcpReqID then maybeIPCPUp { s with ipcpRestart := {}, ipcpLocalOpen := true }
      else { s with ipcpRestart := { s.ipcpRestart with tries := 0 } } := by
    rw [handleIPCP]
    exact (if_neg (by decide : configureAck ≠ configureRequest)).trans (if_pos rfl)
  rw [hhandle]
  split_ifs with hk
  · refine Goes.thenIPCPUp (.of_eq rfl) ⟨hs.lcp, hs.ipcp⟩ hh.lcp fun h' hsettles => ?_
    subst hk
    exact .opened .ipcp _ _ hsettles
  · exact ⟨[], Goes.reply (.of_eq rfl) ⟨hs.lcp, hs.ipcp⟩ (.stale .ipcp k hk)⟩

omit hh in
/-- The server judges a response. -/
lemma reply_response (hopen : s.phase ≠ .closed) (hpc : pc.length = 16)
    (hnt : nt = octets 24 (e.mschap.generateNTResponse s.authChallenge pc e.username e.password)) :
    ∃ out, Reply e s (protocolCHAP, ⟨chapResponse, k, responseBody pc nt e.username⟩)
      (s.handleCHAP e.server ⟨chapResponse, k, responseBody pc nt e.username⟩) out := by
  have hparse :=
    parseResponse_responseBody e.username hpc (hnt ▸ length_octets 24 _ : nt.length = 24)
  have hinj : ∀ {pc' nt'}, responseBody pc nt e.username = responseBody pc' nt' e.username →
      pc'.length = 16 → nt' = octets 24
        (e.mschap.generateNTResponse s.authChallenge pc' e.username e.password) →
      pc' = pc ∧ nt' = nt := by
    intro pc' nt' hbody hpc' hnt'
    rw [hbody, parseResponse_responseBody e.username hpc'
      (hnt' ▸ length_octets 24 _ : nt'.length = 24)] at hparse
    simpa using hparse
  rw [handleCHAP, if_neg (not_not.2 rfl), if_neg (by rw [hparse]; exact Bool.false_ne_true)]
  cases hver : s.verified e.server ⟨chapResponse, k, responseBody pc nt e.username⟩ with
  | none =>
    have hfail : (s.send e.server protocolCHAP ⟨chapFailure, k, buildFailure⟩).fail = { s with
          phase := .closed, lcpRestart := {}, ipcpRestart := {}
          log := s.log ++ [.sent protocolCHAP ⟨chapFailure, k, buildFailure⟩] ++ [.closed] } := by
      rw [fail, if_neg (by exact hopen)]
      rfl
    refine ⟨[(protocolCHAP, ⟨chapFailure, k, buildFailure⟩)], ?_⟩
    dsimp only
    rw [hfail]
    refine ⟨⟨_, append_assoc _ _ _, rfl⟩, fun g hg => ?_, ⟨hs.lcp, by simp⟩, .refused rfl,
      .judged (kindOf_response k _) rfl fun g hg _ => .inl ?_⟩
    · rw [mem_singleton.1 hg]
      exact .failure k _ (by decide)
    · rw [mem_singleton.1 hg, kindOf_failure]
  | some r =>
    obtain ⟨pw, hauth, hverify, rfl⟩ : ∃ pw, e.cfg.auth e.username = some pw ∧
        e.mschap.generateNTResponse s.authChallenge pc e.username pw = nt ∧
        r = (pc, e.username, pw, nt) := by
      rw [verified, hparse] at hver
      dsimp only at hver
      cases hpw : e.server.cfg.auth e.username with
      | none => cases (hpw ▸ hver :)
      | some pw =>
        rw [hpw] at hver
        dsimp only at hver
        split_ifs at hver with hv
        · exact ⟨pw, hpw, of_decide_eq_true hv, (some.inj hver).symm⟩
    obtain ⟨hlen, hsucc⟩ := hfit.success s.authChallenge pc nt pw hauth hnt hverify
    dsimp only
    refine ⟨[(protocolCHAP, ⟨chapSuccess, k,
        e.mschap.authenticatorResponse s.authChallenge pc e.username pw nt⟩),
      (protocolIPCP, ⟨configureRequest, s.reqID + 1,
        marshalOptions [⟨optIPAddress, e.cfg.serverIP⟩]⟩)], ?_⟩
    refine ⟨⟨[.sent protocolCHAP ⟨chapSuccess, k,
        e.mschap.authenticatorResponse s.authChallenge pc e.username pw nt⟩,
      .authenticated e.username pw nt, .sent protocolIPCP ⟨configureRequest, s.reqID + 1,
        marshalOptions [⟨optIPAddress, e.cfg.serverIP⟩]⟩], ?_, rfl⟩, fun g hg => ?_,
      ⟨hs.lcp, fun _ => rfl⟩, ?_, .judged (kindOf_response k _) rfl fun g hg hp => ?_⟩
    · simp [sendIPCPConfigReq, resendIPCPConfigReq, send, act, LinkEnv.server]
    · rcases mem_cons.1 hg with rfl | hg
      · exact .success k _ hlen
      · rw [mem_singleton.1 hg]
        exact fit_ipcpRequest hfit _
    · rw [kindOf_response]
      simp only [map_cons, map_nil, kindOf_success, kindOf_ipcpRequestToClient]
      exact .verified (s.reqID + 1) rfl
    · rcases mem_cons.1 hg with rfl | hg
      · refine .inr ⟨kindOf_success k _, fun pc' nt' hbody hpc' hnt' => ?_⟩
        obtain ⟨rfl, rfl⟩ := hinj hbody hpc' hnt'
        exact hsucc
      · rw [mem_singleton.1 hg] at hp
        exact absurd hp ipcp_ne_chap

/-- **The server.**  It does with every frame of the link what the negotiation says. -/
theorem turn (hopen : s.phase ≠ .closed) (hf : Fit e .server f)
    (hresponse : kindOf e .server f = .response → f.2.body = responseBody pc nt e.username ∧
      pc.length = 16 ∧
      nt = octets 24 (e.mschap.generateNTResponse s.authChallenge pc e.username e.password)) :
    ∃ out, Reply e s f (s.receive e.server (frameBytes f)) out := by
  have hreceive : s.receive e.server (frameBytes f) = s.handle e.server f.1 f.2 := by
    rw [receive, hf.packetOf hfit]
  have hlcp : ∀ p, s.handle e.server protocolLCP p = s.handleLCP e.server p := fun p => by
    rw [handle, if_neg hopen, if_pos rfl]
  have hchap : ∀ p, s.handle e.server protocolCHAP p = s.handleCHAP e.server p := fun p => by
    rw [handle, if_neg hopen, if_neg (by decide), if_pos rfl]
  have hipcp : ∀ p, s.handle e.server protocolIPCP p = s.handleIPCP e.server p := fun p => by
    rw [handle, if_neg hopen, if_neg (by decide), if_neg (by decide), if_pos rfl]
  rw [hreceive]
  cases hf with
  | lcpRequestToServer k body opts hopts hok hlen =>
    exact hlcp _ ▸ reply_lcpRequest hfit hs hh k body hopts hok hlen
  | lcpAck _ k body hlen => exact hlcp _ ▸ reply_lcpAck hfit hs hh k body
  | echoRequest k body hlen => exact hlcp _ ▸ reply_echoRequest hs k body hlen
  | response k body hlen =>
    obtain ⟨hbody, hpc, hnt⟩ := hresponse (kindOf_response k body)
    dsimp only at hbody
    subst hbody
    exact hchap _ ▸ reply_response hfit hs k hopen hpc hnt
  | ipcpRequestToServer k opts hopts => exact hipcp _ ▸ reply_ipcpRequest hfit hs hh k hopts
  | ipcpAck _ k body hlen => exact hipcp _ ▸ reply_ipcpAck hs hh k body

/-! ### Timers -/

def restart (s : Server) : Proto → RestartTimer
  | .lcp => s.lcpRestart
  | .ipcp => s.ipcpRestart

/-- What the callback of a Restart timer does. -/
inductive Timeout (e : LinkEnv) (s : Server) (p : Proto) (s' : Server) : Prop
  | moot (h : s.phase = .closed ∨ (s.restart p).armed = false) (heq : s' = s)
  | fire (f : Frame) (hopen : s.phase ≠ .closed) (harmed : (s.restart p).armed = true)
      (hgoes : Goes e s s' [f]) (hequipped : s'.Equipped e) (hhalf : s'.half = s.half)
      (hkind : kindOf e .client f = .request p (s.half.cp p).reqID (s.half.cp p).good)
  | runOut (htries : maxConfigure ≤ (s.restart p).tries + 1) (hgoes : Goes e s s' [])
      (hequipped : s'.Equipped e) (hhalf : s'.half = s.half.close)

omit hfit hh in
lemma timeout_lcp : Timeout e s .lcp (s.lcpTimeout e.server) := by
  refine restart_cases (Timeout e s .lcp) (.moot · rfl) (fun hopen htries => ?_)
    fun hopen harmed => ?_
  · rw [fail, if_neg (by exact hopen)]
    exact .runOut htries ⟨⟨_, rfl, rfl⟩, by simp, rfl⟩ ⟨hs.lcp, by simp [act]⟩ rfl
  obtain ⟨body, hreq, hf⟩ := hs.lcp
  refine .fire (protocolLCP, s.lcpConfigReq) hopen harmed
    (.send hf lcp_ne_chap rfl) ⟨hs.lcp, hs.ipcp⟩ ?_
    (by rw [hreq, kindOf_lcpRequest]; rfl)
  rw [half, half, harmed]
  rfl

omit hh in
lemma timeout_ipcp (hbegun : s.ipcpRestart.armed = true → s.phase ≠ .closed →
    s.phase = .ipcp ∨ s.phase = .up) : Timeout e s .ipcp (s.ipcpTimeout e.server) := by
  refine restart_cases (Timeout e s .ipcp) (.moot · rfl) (fun hopen htries => ?_)
    fun hopen harmed => ?_
  · rw [fail, if_neg (by exact hopen)]
    exact .runOut htries ⟨⟨_, rfl, rfl⟩, by simp, rfl⟩ ⟨hs.lcp, by simp [act]⟩ rfl
  have hreq := hs.ipcp (hbegun harmed hopen)
  refine .fire (protocolIPCP, s.ipcpConfigReq) hopen harmed
    (.send (hreq ▸ fit_ipcpRequest hfit _) ipcp_ne_chap rfl)
    ⟨hs.lcp, hs.ipcp⟩ ?_ (by rw [hreq, kindOf_ipcpRequestToClient]; rfl)
  rw [half, half, harmed]
  rfl

end Server

end Veepin.PPP
