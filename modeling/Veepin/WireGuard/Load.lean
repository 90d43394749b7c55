import Veepin.WireGuard.Agreement
import Veepin.WireGuard.Server

/-!
# The WireGuard server under load

`handleInitiation` of `server.go` from the datagram on, with the load meter of `cookie.go` and the
cookies of `noise/cookie.go`.  Time passes between initiations; who sends them knows the server's
public key and the cookies that were sent, and cannot make a MAC without its key.

* `LoadServer.Inv` — the secret is older than every cookie it has made;
* `consume_under_load` — under load `Consume` runs only for an address that was sent a cookie, and
  the accepted timestamps of a peer increase, unless an initiation carries the zero timestamp;
* `zero_timestamp_again` — one that does is accepted again and again.
-/

namespace Veepin.WireGuard

open List Function

/-! ## The load meter -/

/-- `handshakeLoad`; the zero time is `none`. -/
structure HandshakeLoad where
  threshold : ℤ
  windowStart : Option ℤ := none
  count : ℤ := 0
  until_ : Option ℤ := none

def defaultCookieThreshold : ℤ := 128

def underLoadFor : ℤ := 1000000000

/-- `observe`: whether the server is under load. -/
def HandshakeLoad.observe (l : HandshakeLoad) (now : ℤ) : Bool × HandshakeLoad :=
  if l.threshold < 0 then (true, l)
  else
    let l := if l.windowStart.all fun t => now - t ≥ 1000000000 then
      { l with windowStart := some now, count := 0 } else l
    let l := { l with count := l.count + 1 }
    let l := if l.count > l.threshold then { l with until_ := some (now + underLoadFor) } else l
    (l.until_.any fun t => now < t, l)

/-! ## The server -/

/-- A cookie reply that was built. -/
structure Issued where
  src : AddrPort
  secret : Bytes
  time : ℤ

/-- What the server knows of a configured peer. -/
structure PeerKeys where
  psk : Bytes
  lastTS : Bytes := zeroTimestamp

structure LoadServer where
  checker : CookieChecker
  load : HandshakeLoad
  localStatic : Bytes
  typeResponse : UInt32
  peers : Bytes → Option PeerKeys
  now : ℤ := 0
  issued : List Issued := []
  /-- the initiations accepted: the peer and the timestamp -/
  accepted : List (Bytes × Bytes) := []

/-- An initiation: how long after the last, its octets and source, what is drawn on the way, and
whether the gate admits it. -/
structure LoadEvent where
  wait : ℕ
  pkt : Bytes
  src : AddrPort
  secret : Bytes := []
  nonce : Bytes := []
  admitted : Bool := true
  eph : Bytes := []
  idx : UInt32 := 0

/-- What the gates have decided. -/
inductive Gate
  | dropped
  | cookie
  | refused
  | consume (underLoad : Bool)
  deriving DecidableEq

namespace LoadServer

/-- `NewServer`. -/
def new (c : Crypto) (localStatic : Bytes) (h1 h2 : UInt32) (threshold : ℤ)
    (peers : Bytes → Option Bytes) : LoadServer where
  checker := CookieChecker.new c localStatic h1
  load := { threshold := if threshold = 0 then defaultCookieThreshold else threshold }
  localStatic := localStatic
  typeResponse := h2
  peers ps := (peers ps).map fun psk => { psk }

/-- The clock at an initiation. -/
def clock (s : LoadServer) (ev : LoadEvent) : ℤ := s.now + ev.wait

/-- The three gates of `handleInitiation`. -/
def gates (c : Crypto) (s : LoadServer) (ev : LoadEvent) : Gate :=
  if s.checker.checkMAC1 c ev.pkt = false then .dropped
  else if (s.load.observe (s.clock ev)).1 = true ∧
      s.checker.checkMAC2 c ev.pkt ev.src (s.clock ev) = false then .cookie
  else if ev.admitted = false then .refused
  else .consume (s.load.observe (s.clock ev)).1

def sendCookieReply (c : Crypto) (s : LoadServer) (ev : LoadEvent) : LoadServer :=
  match s.checker.cookieReply c ev.pkt ev.src s.now ev.secret ev.nonce with
  | none => s
  | some (_, k) => { s with checker := k, issued := s.issued ++ [⟨ev.src, k.secret, s.now⟩] }

/-- The state after an accepted initiation. -/
def accept (s : LoadServer) (ps ts : Bytes) (peer : PeerKeys) : LoadServer :=
  { s with
    peers := Function.update s.peers ps (some { peer with lastTS := ts })
    accepted := s.accepted ++ [(ps, ts)] }

/-- The handshake, for an initiation that has passed. -/
def respond (c : Crypto) (s : LoadServer) (ev : LoadEvent) : LoadServer :=
  match (Responder.new c s.localStatic s.checker.typeInitiation s.typeResponse).consume c
      ev.pkt with
  | none => s
  | some ((ps, ts), r) =>
    match s.peers ps with
    | none => s
    | some peer =>
      if peer.lastTS ≠ zeroTimestamp ∧ after ts peer.lastTS = false then s
      else
        match r.response c peer.psk ev.eph ev.idx with
        | none => s
        | some _ => s.accept ps ts peer

def handleInitiation (c : Crypto) (s : LoadServer) (ev : LoadEvent) : LoadServer :=
  let observed := { s with now := s.clock ev, load := (s.load.observe (s.clock ev)).2 }
  match s.gates c ev with
  | .dropped => { s with now := s.clock ev }
  | .cookie => observed.sendCookieReply c ev
  | .refused => observed
  | .consume _ => observed.respond c ev

/-! ## What is asked, and what is assumed -/

/-- Under load, `Consume` runs only if a cookie was sent to the same address and port, under the
secret that is in force, at most `CookieRefreshTime` ago. -/
def Proved (c : Crypto) (s : LoadServer) (ev : LoadEvent) : Prop :=
  s.gates c ev = .consume true →
    ∃ r ∈ s.issued, unmap r.src.ip = unmap ev.src.ip ∧ r.src.port = ev.src.port ∧
      r.secret = s.checker.secret ∧ r.time ≤ s.clock ev ∧ s.clock ev - r.time ≤ cookieRefreshTime

/-- The timestamps accepted from a peer. -/
def stamps (s : LoadServer) (ps : Bytes) : List Bytes :=
  (s.accepted.filter fun a => a.1 = ps).map Prod.snd

/-- They increase. -/
def Increasing (s : LoadServer) : Prop :=
  ∀ ps, (s.stamps ps).Pairwise fun ts ts' => after ts' ts = true

/-- Who makes a mac2 under a secret in force has its cookie from a reply, cookies do not collide,
and a new secret is one that was not used before. -/
structure Ideal (c : Crypto) (s : LoadServer) (ev : LoadEvent) : Prop where
  unforged : s.checker.fresh (s.clock ev) = true → c.mac (s.checker.cookieFor c ev.src)
      (macOver (ev.pkt.take 132) s.checker.typeInitiation) = slice ev.pkt 132 16 →
    ∃ r ∈ s.issued, c.mac r.secret r.src.am = s.checker.cookieFor c ev.src
  collisionFree : ∀ r ∈ s.issued, c.mac r.secret r.src.am = s.checker.cookieFor c ev.src →
    r.secret = s.checker.secret ∧ r.src.am = ev.src.am
  secret_new : ∀ r ∈ s.issued, r.secret ≠ ev.secret

instance Ideal.decidable (c : Crypto) (s : LoadServer) (ev : LoadEvent) :
    Decidable (s.Ideal c ev) :=
  decidable_of_iff
    ((s.checker.fresh (s.clock ev) = true → c.mac (s.checker.cookieFor c ev.src)
          (macOver (ev.pkt.take 132) s.checker.typeInitiation) = slice ev.pkt 132 16 →
        ∃ r ∈ s.issued, c.mac r.secret r.src.am = s.checker.cookieFor c ev.src) ∧
      (∀ r ∈ s.issued, c.mac r.secret r.src.am = s.checker.cookieFor c ev.src →
        r.secret = s.checker.secret ∧ r.src.am = ev.src.am) ∧
      ∀ r ∈ s.issued, r.secret ≠ ev.secret)
    ⟨fun h => ⟨h.1, h.2.1, h.2.2⟩, fun h => ⟨h.1, h.2, h.3⟩⟩

/-- An initiation of a configured peer does not carry the zero timestamp. -/
def Stamped (c : Crypto) (s : LoadServer) (ev : LoadEvent) : Prop :=
  ∀ x ∈ (Responder.new c s.localStatic s.checker.typeInitiation s.typeResponse).consume c ev.pkt,
    (s.peers x.1.1).isSome → x.1.2 ≠ zeroTimestamp

instance Stamped.decidable (c : Crypto) (s : LoadServer) (ev : LoadEvent) :
    Decidable (s.Stamped c ev) :=
  match h : (Responder.new c s.localStatic s.checker.typeInitiation s.typeResponse).consume c
      ev.pkt with
  | none => isTrue fun _ hx => nomatch h.symm.trans hx
  | some y =>
    decidable_of_iff ((s.peers y.1.1).isSome → y.1.2 ≠ zeroTimestamp)
      ⟨fun hy _ hx => Option.some.inj (h.symm.trans hx) ▸ hy, fun hall => hall y h⟩

end LoadServer

/-! ## Timestamps and addresses -/

lemma after_trans : ∀ a b d : Bytes, after a b = true → after b d = true → after a d = true
  | [], _, _, h, _ | _ :: _, [], _, h, _ | _ :: _, _ :: _, [], _, h => nomatch h
  | x :: a, y :: b, z :: d, hab, hbd => by
    rw [after] at hab hbd ⊢
    by_cases hxy : x = y
    · subst hxy
      rw [if_neg (by simp)] at hab
      by_cases hxz : x = z
      · subst hxz
        rw [if_neg (by simp)] at hbd ⊢
        exact after_trans a b d hab hbd
      · rw [if_pos hxz] at hbd ⊢
        exact hbd
    · rw [if_pos hxy] at hab
      by_cases hyz : y = z
      · subst hyz
        rw [if_pos hxy]
        exact hab
      rw [if_pos hyz] at hbd
      have hyx : y < x := of_decide_eq_true hab
      have hzy : z < y := of_decide_eq_true hbd
      have hzx : z < x := UInt8.lt_trans hzy hyx
      rw [if_pos (UInt8.ne_of_lt hzx).symm]
      exact decide_eq_true hzx

lemma AddrPort.am_inj {a b : AddrPort} (h : a.am = b.am) :
    unmap a.ip = unmap b.ip ∧ a.port = b.port := by
  obtain ⟨hip, hport⟩ := append_inj' h rfl
  refine ⟨hip, UInt16.toNat_inj.1 ?_⟩
  have hmod := congrArg (be16 · 0) hport
  simp only [be16_putBE16] at hmod
  have ha := a.port.toNat_lt
  have hb := b.port.toNat_lt
  omega

namespace LoadServer

variable {c : Crypto} {s : LoadServer} {ev : LoadEvent}

/-- The secret in force is older than the cookies it has made, and every peer's record is the last
timestamp accepted. -/
structure Inv (s : LoadServer) : Prop where
  past : ∀ r ∈ s.issued, r.time ≤ s.now
  secret : ∀ r ∈ s.issued, r.secret = s.checker.secret →
    ∃ t, s.checker.secretAt = some t ∧ t ≤ r.time
  secretAt : ∀ t, s.checker.secretAt = some t → t ≤ s.now
  increasing : s.Increasing
  last : ∀ ps ts, ts ∈ s.stamps ps → ∃ peer, s.peers ps = some peer ∧ peer.lastTS ≠ zeroTimestamp ∧
    (peer.lastTS = ts ∨ after peer.lastTS ts = true)

lemma checkMAC2_of_consume (h : s.gates c ev = .consume true) :
    s.checker.checkMAC2 c ev.pkt ev.src (s.clock ev) = true := by
  unfold gates at h
  split_ifs at h with h1 h2 h3
  have hload : (s.load.observe (s.clock ev)).1 = true := Gate.consume.inj h
  by_contra hne
  exact h2 ⟨hload, by simpa using hne⟩

/-- **The cookie that was sent.** -/
lemma proved (hinv : s.Inv) (hideal : s.Ideal c ev) : s.Proved c ev := by
  intro hconsume
  have hmac2 := checkMAC2_of_consume hconsume
  unfold CookieChecker.checkMAC2 at hmac2
  split_ifs at hmac2
  obtain ⟨hfresh, hmac⟩ := Bool.and_eq_true_iff.1 hmac2
  obtain ⟨r, hr, hcookie⟩ := hideal.unforged hfresh (of_decide_eq_true hmac)
  obtain ⟨hsecret, ham⟩ := hideal.collisionFree r hr hcookie
  obtain ⟨hip, hport⟩ := AddrPort.am_inj ham
  obtain ⟨t, ht, hle⟩ := hinv.secret r hr hsecret
  have hpast := hinv.past r hr
  have hwait : (0 : ℤ) ≤ ev.wait := Int.natCast_nonneg _
  refine ⟨r, hr, hip, hport, hsecret, by unfold clock; omega, ?_⟩
  unfold CookieChecker.fresh at hfresh
  rw [ht] at hfresh
  have hage : s.clock ev - t ≤ cookieRefreshTime := of_decide_eq_true hfresh
  omega

/-- The clock moves on. -/
lemma Inv.observed (h : s.Inv) (ev : LoadEvent) (l : HandshakeLoad) :
    { s with now := s.clock ev, load := l }.Inv := by
  have hle : s.now ≤ s.clock ev := by
    unfold clock
    omega
  exact ⟨fun r hr => (h.past r hr).trans hle, h.secret, fun t ht => (h.secretAt t ht).trans hle,
    h.increasing, h.last⟩

lemma Inv.sendCookieReply (h : s.Inv) (hnew : ∀ r ∈ s.issued, r.secret ≠ ev.secret) :
    (s.sendCookieReply c ev).Inv := by
  unfold LoadServer.sendCookieReply CookieChecker.cookieReply
  by_cases hlen : ev.pkt.length ≠ sizeHandshakeInitiation
  · rw [if_pos hlen]
    exact h
  rw [if_neg hlen]
  dsimp only
  unfold CookieChecker.renew
  split_ifs with hfresh
  · -- the secret stays
    obtain ⟨t, ht⟩ : ∃ t, s.checker.secretAt = some t := by
      unfold CookieChecker.fresh at hfresh
      cases hat : s.checker.secretAt with
      | none => simp [hat] at hfresh
      | some t => exact ⟨t, rfl⟩
    refine { h with past := fun r hr => ?_, secret := fun r hr hsecret => ?_ }
    · rcases mem_append.1 hr with hr | hr
      · exact h.past r hr
      · rw [mem_singleton.1 hr]
    · rcases mem_append.1 hr with hr | hr
      · exact h.secret r hr hsecret
      · rw [mem_singleton.1 hr]
        exact ⟨t, ht, h.secretAt t ht⟩
  · refine ⟨fun r hr => ?_, fun r hr hsecret => ?_, fun t ht => ?_, h.increasing, h.last⟩
    · rcases mem_append.1 hr with hr | hr
      · exact h.past r hr
      · rw [mem_singleton.1 hr]
    · rcases mem_append.1 hr with hr | hr
      · exact absurd hsecret (hnew r hr)
      · rw [mem_singleton.1 hr]
        exact ⟨s.now, rfl, le_rfl⟩
    · rw [Option.some.inj ht]

lemma Inv.new (c : Crypto) (localStatic : Bytes) (h1 h2 : UInt32) (threshold : ℤ)
    (peers : Bytes → Option Bytes) : (new c localStatic h1 h2 threshold peers).Inv where
  past _ hr := nomatch hr
  secret _ hr := nomatch hr
  secretAt _ ht := nomatch ht
  increasing _ := List.Pairwise.nil
  last _ _ hts := nomatch hts

lemma stamps_accept_self (s : LoadServer) (ps ts : Bytes) (peer : PeerKeys) :
    (s.accept ps ts peer).stamps ps = s.stamps ps ++ [ts] := by
  simp [stamps, accept, filter_append]

lemma stamps_accept_of_ne (s : LoadServer) {ps ps' : Bytes} (ts : Bytes) (peer : PeerKeys)
    (hne : ps' ≠ ps) : (s.accept ps ts peer).stamps ps' = s.stamps ps' := by
  simp [stamps, accept, filter_append, hne.symm]

/-- **An accepted timestamp is above all that were accepted.** -/
lemma Inv.above {ps ts : Bytes} {peer : PeerKeys} (h : s.Inv) (hpeer : s.peers ps = some peer)
    (hstale : ¬ (peer.lastTS ≠ zeroTimestamp ∧ after ts peer.lastTS = false)) :
    ∀ t ∈ s.stamps ps, after ts t = true := by
  intro t ht
  obtain ⟨peer', hpeer', hset, hlast⟩ := h.last ps t ht
  obtain rfl : peer = peer' := Option.some.inj (hpeer.symm.trans hpeer')
  have hafter : after ts peer.lastTS = true := by
    by_contra hne
    exact hstale ⟨hset, by simpa using hne⟩
  rcases hlast with heq | hlt
  · rw [← heq]
    exact hafter
  · exact after_trans ts peer.lastTS t hafter hlt

lemma Inv.accept {ps ts : Bytes} {peer : PeerKeys} (h : s.Inv)
    (habove : ∀ t ∈ s.stamps ps, after ts t = true) (hts : ts ≠ zeroTimestamp) :
    (s.accept ps ts peer).Inv where
  past := h.past
  secret := h.secret
  secretAt := h.secretAt
  increasing := by
    intro ps'
    by_cases heq : ps' = ps
    · subst heq
      rw [stamps_accept_self, pairwise_append]
      refine ⟨h.increasing ps', pairwise_singleton _ _, fun t ht t' ht' => ?_⟩
      rw [mem_singleton.1 ht']
      exact habove t ht
    · rw [stamps_accept_of_ne s ts peer heq]
      exact h.increasing ps'
  last := by
    intro ps' t ht
    by_cases heq : ps' = ps
    · subst heq
      refine ⟨{ peer with lastTS := ts }, update_self _ _ _, hts, ?_⟩
      rw [stamps_accept_self] at ht
      rcases mem_append.1 ht with ht | ht
      · exact .inr (habove t ht)
      · exact .inl (mem_singleton.1 ht).symm
    · rw [stamps_accept_of_ne s ts peer heq] at ht
      obtain ⟨peer', hpeer', hlast⟩ := h.last ps' t ht
      exact ⟨peer', (update_of_ne heq _ _).trans hpeer', hlast⟩

lemma Inv.respond (h : s.Inv) (hstamped : s.Stamped c ev) : (s.respond c ev).Inv := by
  unfold LoadServer.respond
  split
  · exact h
  next ps ts r hconsume =>
    split
    · exact h
    next peer hpeer =>
      have hts := hstamped ((ps, ts), r) hconsume (Option.isSome_iff_exists.2 ⟨peer, hpeer⟩)
      split_ifs with hstale
      · exact h
      · split
        · exact h
        · exact h.accept (h.above hpeer hstale) hts

lemma Inv.step (h : s.Inv) (hev : s.Ideal c ev ∧ s.Stamped c ev) :
    (s.handleInitiation c ev).Inv := by
  have hobs := h.observed ev (s.load.observe (s.clock ev)).2
  unfold handleInitiation
  cases s.gates c ev with
  | dropped => exact h.observed ev s.load
  | cookie => exact hobs.sendCookieReply hev.1.secret_new
  | refused => exact hobs
  | consume underLoad => exact hobs.respond hev.2

end LoadServer

open LoadServer

/-- **No Diffie-Hellman for an address that is not proved.**  Whatever initiations arrive, from
wherever and whenever: `Consume` runs under load only for an address and port that were sent a
cookie which is still good, and the timestamps accepted from a peer increase, unless one of a
configured peer carries the zero timestamp. -/
theorem consume_under_load (c : Crypto) (localStatic : Bytes) (h1 h2 : UInt32) (threshold : ℤ)
    (peers : Bytes → Option Bytes) (evs : List LoadEvent)
    (hrun : Along (handleInitiation c) (fun s ev => s.Ideal c ev ∧ s.Stamped c ev)
      (new c localStatic h1 h2 threshold peers) evs) :
    Along (handleInitiation c) (Proved c) (new c localStatic h1 h2 threshold peers) evs ∧
      Always (handleInitiation c) Increasing (new c localStatic h1 h2 threshold peers) evs := by
  have h0 := Inv.new c localStatic h1 h2 threshold peers
  have hstep : ∀ (s : LoadServer) (ev : LoadEvent), s.Inv → s.Ideal c ev ∧ s.Stamped c ev →
      (s.handleInitiation c ev).Inv := fun _ _ hinv hev => hinv.step hev
  exact ⟨along_of_inv Inv hstep (fun _ _ hinv hev => proved hinv hev.1) _ _ h0 hrun,
    always_of_inv Inv hstep (fun _ hinv => hinv.increasing) _ _ h0 hrun⟩

/-- A server with one peer. -/
def toyServer (threshold : ℤ) : LoadServer :=
  new toyCrypto [4] 0 0 threshold fun ps =>
    if ps = toyCrypto.pub [3] then some (List.replicate 32 9) else none

/-- What the peer sends, with a cookie and a timestamp. -/
def toyEvent (cookie ts : Bytes) (secret : Bytes) : LoadEvent where
  wait := 1
  pkt :=
    ((((Initiator.new toyCrypto toyConfig).setCookie cookie).initiation toyCrypto [5] 11 ts).map
      Prod.fst).getD []
  src := ⟨[192, 0, 2, 1], 51820⟩
  secret := secret
  eph := [6]
  idx := 12

/-- The peer is asked for a cookie, and comes back with it. -/
def toyRound : List LoadEvent :=
  [toyEvent zeroMAC (timestamp 0 0) [1], toyEvent (List.replicate 16 7) (timestamp 0 0) [2]]

/-- It is then let in. -/
theorem consume_under_load_round :
    (run (handleInitiation toyCrypto) (toyServer (-1)) toyRound).stamps (toyCrypto.pub [3]) =
        [timestamp 0 0] ∧
      Along (handleInitiation toyCrypto) (Proved toyCrypto) (toyServer (-1)) toyRound ∧
      Always (handleInitiation toyCrypto) Increasing (toyServer (-1)) toyRound :=
  ⟨by decide +kernel, consume_under_load toyCrypto [4] 0 0 (-1) _ toyRound (by decide +kernel)⟩

/-- The zero timestamp stands for none in the peer's record: an initiation that carries it is
accepted as often as it arrives. -/
theorem zero_timestamp_again : Along (handleInitiation toyCrypto) (Ideal toyCrypto) (toyServer 0)
        (List.replicate 2 (toyEvent zeroMAC zeroTimestamp [1])) ∧
      ¬ (run (handleInitiation toyCrypto) (toyServer 0)
        (List.replicate 2 (toyEvent zeroMAC zeroTimestamp [1]))).Increasing := by
  refine ⟨by decide +kernel, fun hincr => ?_⟩
  have hstamps : (run (handleInitiation toyCrypto) (toyServer 0)
      (replicate 2 (toyEvent zeroMAC zeroTimestamp [1]))).stamps (toyCrypto.pub [3]) =
        [zeroTimestamp, zeroTimestamp] := by
    decide +kernel
  have hpair := hincr (toyCrypto.pub [3])
  rw [hstamps] at hpair
  have hafter := rel_of_pairwise_cons hpair (mem_singleton.2 rfl)
  exact absurd hafter (by decide)

end Veepin.WireGuard
