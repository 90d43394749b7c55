import Veepin.Core.Runs
import Veepin.Core.Bytes

/-!
# IKE_SA_INIT cookies

The model of `internal/ikev2/ike/cookie.go`.  A jar holds the current and the previous secret and
the version octet of the current one; a cookie is that octet and a MAC over the values that
identify an attempt.  The MAC is a parameter, so the same definitions serve the responder, where a
tag is sixteen octets, and the symbolic analysis, where `hmac` is collision-free in key and message
and an attacker presents a tag from an issued cookie or one that it computed without the secrets
drawn so far (`Derivable`).

Two things let a cookie pass that was not issued for the values it comes with (`cookie_forged`):
until the second rotation the previous secret is the all-zero array, and the MAC input is the plain
concatenation of nonce, address, port and SPI, so octets can move between a nonce and an address of
another family.  Where neither is the case no cookie is forged, along every run
(`cookie_unforgeable`): `JarInv` says which secret each issued cookie was made with.
-/

namespace Veepin.IKE

open List

variable {Key Tag : Type}

/-- How often the secret is replaced, in nanoseconds. -/
def cookieRotate : ℤ := 120 * 1000000000

/-- A cookie: the version octet and the truncated hash.  An octet string of another length than
`cookieLen` is no cookie. -/
structure Cookie (Tag : Type) where
  version : UInt8
  mac : Tag
  deriving DecidableEq, Repr

/-- The values a cookie is bound to. -/
structure Attempt where
  initiatorSPI : UInt64
  nonce : Bytes
  remote : Option UDPAddr
  deriving DecidableEq, Repr

/-- The octets written to the MAC. -/
def Attempt.macInput (a : Attempt) : Bytes :=
  a.nonce ++ (match a.remote with
    | none => []
    | some r => r.ip ++ putBE16 r.port) ++ putBE64 a.initiatorSPI.toNat

def cookieWith (hmac : Key → Bytes → Tag) (secret : Key) (version : UInt8) (a : Attempt) :
    Cookie Tag :=
  ⟨version, hmac secret a.macInput⟩

structure CookieJar (Key : Type) where
  current : Key
  prev : Key
  version : UInt8
  rotated : ℤ
  deriving DecidableEq, Repr

/-- `rotate`, with the secret `rand.Read` drew; `none` is a failed read. -/
def CookieJar.rotate (j : CookieJar Key) (draw : Option Key) (now : ℤ) : CookieJar Key :=
  match draw with
  | none => { j with prev := j.current }
  | some secret =>
    { current := secret, prev := j.current, version := j.version + 1, rotated := now }

/-- `newCookieJar`: both secrets start as the all-zero array, then one rotation. -/
def newCookieJar (zero : Key) (draw : Option Key) (now : ℤ) : CookieJar Key :=
  CookieJar.rotate ⟨zero, zero, 0, 0⟩ draw now

/-- The secret has aged out. -/
def CookieJar.stale (j : CookieJar Key) (now : ℤ) : Bool := decide (cookieRotate ≤ now - j.rotated)

def CookieJar.maybeRotate (j : CookieJar Key) (draw : Option Key) (now : ℤ) : CookieJar Key :=
  if j.stale now then j.rotate draw now else j

/-- `issue`: the jar after a due rotation, and the cookie. -/
def CookieJar.issue (hmac : Key → Bytes → Tag) (j : CookieJar Key) (a : Attempt)
    (draw : Option Key) (now : ℤ) : CookieJar Key × Cookie Tag :=
  let j := j.maybeRotate draw now
  (j, cookieWith hmac j.current j.version a)

/-- `valid`; `none` stands for octets that are not `cookieLen` long. -/
def CookieJar.valid [DecidableEq Tag] (hmac : Key → Bytes → Tag) (j : CookieJar Key)
    (got : Option (Cookie Tag)) (a : Attempt) : Bool :=
  match got with
  | none => false
  | some c =>
    if c.version = j.version then c = cookieWith hmac j.current j.version a
    else if c.version = j.version - 1 then c = cookieWith hmac j.prev (j.version - 1) a
    else false

/-! ## Runs of one jar -/

/-- The calls on a jar.  A rotation comes with the secret it draws. -/
inductive JarOp (Key Tag : Type)
  | rotate (draw : Option Key) (now : ℤ)
  | issue (a : Attempt) (draw : Option Key) (now : ℤ)
  | valid (got : Option (Cookie Tag)) (a : Attempt)

/-- A jar with what happened to it: the secrets drawn, newest first, and the cookies issued. -/
structure JarLog (Key Tag : Type) where
  jar : CookieJar Key
  draws : List Key
  issued : List (Attempt × Cookie Tag)

/-- The log of a new jar. -/
def JarLog.new (zero : Key) (draw : Key) (now : ℤ) : JarLog Key Tag :=
  ⟨newCookieJar zero (some draw) now, [draw], []⟩

/-- The secrets a call draws, if it draws one. -/
def JarLog.drawn (s : JarLog Key Tag) : JarOp Key Tag → List Key
  | .rotate draw _ => draw.toList
  | .issue _ draw now => if s.jar.stale now then draw.toList else []
  | .valid _ _ => []

/-- One call. -/
def JarLog.step (hmac : Key → Bytes → Tag) (s : JarLog Key Tag) (op : JarOp Key Tag) :
    JarLog Key Tag :=
  let draws := s.drawn op ++ s.draws
  match op with
  | .rotate draw now => ⟨s.jar.rotate draw now, draws, s.issued⟩
  | .issue a draw now =>
    let r := s.jar.issue hmac a draw now
    ⟨r.1, draws, (a, r.2) :: s.issued⟩
  | .valid _ _ => s

/-- A tag an attacker can present: seen in an issued cookie, or computed without the secrets. -/
def Derivable (hmac : Key → Bytes → Tag) (s : JarLog Key Tag) (tag : Tag) : Prop :=
  (∃ e ∈ s.issued, e.2.mac = tag) ∨ ∀ k ∈ s.draws, ∀ m, hmac k m ≠ tag

/-- A secret that was never drawn before and is not the all-zero array. -/
def Fresh (zero : Key) (s : JarLog Key Tag) (draw : Option Key) : Prop :=
  ∃ k, draw = some k ∧ k ≠ zero ∧ k ∉ s.draws

/-- The environment of a call: a secret that is drawn is fresh, and a cookie that is presented has
a derivable tag. -/
def FairCall (hmac : Key → Bytes → Tag) (zero : Key) (s : JarLog Key Tag) :
    JarOp Key Tag → Prop
  | .rotate draw _ => Fresh zero s draw
  | .issue _ draw now => s.jar.stale now = true → Fresh zero s draw
  | .valid none _ => True
  | .valid (some c) _ => Derivable hmac s c.mac

/-- A call of `valid` that returns true has a cookie that was issued for the values it is presented
with. -/
def Unforged [DecidableEq Tag] (hmac : Key → Bytes → Tag) (s : JarLog Key Tag) :
    JarOp Key Tag → Prop
  | .valid got a => s.jar.valid hmac got a = true → ∃ c, got = some c ∧ (a, c) ∈ s.issued
  | _ => True

/-- A call of `valid` presents neither the cookie of the all-zero secret before the second
rotation, nor values whose MAC input equals that of other values a cookie was issued for. -/
def Separated (hmac : Key → Bytes → Tag) (zero : Key) (s : JarLog Key Tag) :
    JarOp Key Tag → Prop
  | .valid (some c) a =>
    (s.draws.length = 1 → c ≠ cookieWith hmac zero (s.jar.version - 1) a) ∧
      ∀ e ∈ s.issued, e.1.macInput = a.macInput → e.1 = a
  | _ => True

/-! ## Which secret made which cookie -/

variable {s : JarLog Key Tag}

section Unforgeable

variable {hmac : Key → Bytes → Tag} {zero : Key}

/-- What holds between two calls: the jar's secrets are the newest two drawn (the all-zero array
stands in while there is only one), and every issued cookie was made with a drawn secret, under
the version octet that still belongs to it while the secret is in the jar. -/
structure JarInv (hmac : Key → Bytes → Tag) (zero : Key) (s : JarLog Key Tag) : Prop where
  nodup : (s.draws ++ [zero]).Nodup
  newest : ∃ rest, s.draws = s.jar.current :: rest ∧ s.jar.prev = rest.headD zero
  issued : ∀ e ∈ s.issued, ∃ k ∈ s.draws, e.2.mac = hmac k e.1.macInput ∧
    (k = s.jar.current → e.2.version = s.jar.version) ∧
    (k = s.jar.prev → e.2.version = s.jar.version - 1)

section

variable (h : JarInv hmac zero s)

include h

lemma JarInv.current_mem : s.jar.current ∈ s.draws := by
  obtain ⟨rest, hd, -⟩ := h.newest
  rw [hd]
  exact mem_cons_self

/-- The two secrets of a jar differ. -/
lemma JarInv.current_ne_prev : s.jar.current ≠ s.jar.prev := by
  obtain ⟨rest, hd, hp⟩ := h.newest
  have hnd := h.nodup
  rw [hd, cons_append, nodup_cons] at hnd
  intro he
  apply hnd.1
  rw [he, hp]
  cases rest with
  | nil | cons k rest => simp

/-- After a second draw the previous secret is a drawn one. -/
lemma JarInv.prev_mem (h1 : s.draws.length ≠ 1) : s.jar.prev ∈ s.draws := by
  obtain ⟨rest, hd, hp⟩ := h.newest
  rw [hd] at h1 ⊢
  rw [hp]
  cases rest with
  | nil => exact absurd rfl h1
  | cons k rest => simp

lemma JarInv.prev_eq_zero (h1 : s.draws.length = 1) : s.jar.prev = zero := by
  obtain ⟨rest, hd, hp⟩ := h.newest
  rw [hd] at h1
  cases rest with
  | nil => exact hp
  | cons k rest => simp at h1

lemma JarInv.rotate {k : Key} (hz : k ≠ zero) (hk : k ∉ s.draws) (now : ℤ) :
    JarInv hmac zero ⟨s.jar.rotate (some k) now, k :: s.draws, s.issued⟩ := by
  refine ⟨?_, ⟨s.draws, rfl, ?_⟩, ?_⟩
  · rw [cons_append, nodup_cons]
    exact ⟨by simp [hk, hz], h.nodup⟩
  · obtain ⟨rest, hd, -⟩ := h.newest
    rw [hd]
    rfl
  · intro e he
    obtain ⟨k', hmem, hmac', hcur, -⟩ := h.issued e he
    refine ⟨k', mem_cons_of_mem k hmem, hmac', ?_, ?_⟩
    · rintro rfl
      exact absurd hmem hk
    · intro hprev
      rw [hcur hprev]
      exact (UInt8.add_sub_cancel _ _).symm

/-- A cookie issued with the current secret. -/
lemma JarInv.issued_current (a : Attempt) : JarInv hmac zero
      ⟨s.jar, s.draws, (a, cookieWith hmac s.jar.current s.jar.version a) :: s.issued⟩ := by
  refine ⟨h.nodup, h.newest, ?_⟩
  intro e he
  rcases mem_cons.mp he with rfl | he
  · exact ⟨s.jar.current, h.current_mem, rfl, fun _ => rfl,
      fun hp => absurd hp h.current_ne_prev⟩
  · exact h.issued e he

end

lemma jarInv_step (s : JarLog Key Tag) (op : JarOp Key Tag) (hs : JarInv hmac zero s)
    (hop : FairCall hmac zero s op) : JarInv hmac zero (s.step hmac op) := by
  cases op with
  | rotate draw now =>
    obtain ⟨k, rfl, hz, hk⟩ := hop
    exact hs.rotate hz hk now
  | issue a draw now =>
    cases hst : s.jar.stale now with
    | false =>
      have := hs.issued_current a
      simpa [JarLog.step, JarLog.drawn, CookieJar.issue, CookieJar.maybeRotate, hst] using this
    | true =>
      obtain ⟨k, rfl, hz, hk⟩ := hop hst
      have := (hs.rotate hz hk now).issued_current a
      simpa [JarLog.step, JarLog.drawn, CookieJar.issue, CookieJar.maybeRotate, hst] using this
  | valid got a => exact hs

/-- A derivable tag made with a drawn secret was seen in an issued cookie, made with the same
secret over the same octets. -/
lemma issued_of_derivable (hfree : ∀ k m k' m', hmac k m = hmac k' m' → k = k' ∧ m = m')
    (hs : JarInv hmac zero s) {k : Key} (hk : k ∈ s.draws) {m : Bytes}
    (hd : Derivable hmac s (hmac k m)) :
    ∃ e ∈ s.issued, e.2.mac = hmac k m ∧ e.1.macInput = m ∧
      (k = s.jar.current → e.2.version = s.jar.version) ∧
      (k = s.jar.prev → e.2.version = s.jar.version - 1) := by
  rcases hd with ⟨e, he, hmac'⟩ | hno
  · obtain ⟨k', -, hmade, hcur, hprev⟩ := hs.issued e he
    obtain ⟨rfl, hm⟩ := hfree k' _ k m (hmade.symm.trans hmac')
    exact ⟨e, he, hmac', hm, hcur, hprev⟩
  · exact absurd rfl (hno k hk m)

/-- **Cookies are unforgeable** in runs that keep clear of the all-zero secret and of ambiguous
MAC inputs: every cookie that `valid` accepts was returned by an earlier `issue` for the same
SPI, nonce and address.  The MAC is collision-free, drawn secrets are new, and a presented tag is
derivable. -/
theorem cookie_unforgeable [DecidableEq Tag]
    (hfree : ∀ k m k' m', hmac k m = hmac k' m' → k = k' ∧ m = m')
    (draw : Key) (hdraw : draw ≠ zero) (now : ℤ) (ops : List (JarOp Key Tag))
    (h : Along (JarLog.step hmac) (fun s op => FairCall hmac zero s op ∧ Separated hmac zero s op)
      (JarLog.new zero draw now) ops) :
    Along (JarLog.step hmac) (Unforged hmac) (JarLog.new zero draw now) ops := by
  refine along_of_inv (JarInv hmac zero) (fun s op hs hop => jarInv_step s op hs hop.1) ?_ _ ops
    ?_ h
  · rintro s op hs ⟨hfair, hsep⟩
    rcases op with _ | _ | ⟨_ | c, a⟩
    · trivial
    · trivial
    · intro hvalid
      exact absurd hvalid (by simp [CookieJar.valid])
    · intro hvalid
      have hderiv : Derivable hmac s c.mac := hfair
      obtain ⟨hzero, hinput⟩ := hsep
      refine ⟨c, rfl, ?_⟩
      simp only [CookieJar.valid] at hvalid
      split_ifs at hvalid with hcur hprev
      · -- the octet names the current secret
        have hc : c = cookieWith hmac s.jar.current s.jar.version a := of_decide_eq_true hvalid
        rw [hc] at hderiv
        obtain ⟨⟨a', c'⟩, he, hm, hin, hv, -⟩ :=
          issued_of_derivable hfree hs hs.current_mem hderiv
        obtain rfl := hinput _ he hin
        have hceq : c' = c := by
          rw [hc, cookieWith, ← hm, ← hv rfl]
        rwa [← hceq]
      · -- the octet names the previous secret, which was drawn
        have hc : c = cookieWith hmac s.jar.prev (s.jar.version - 1) a :=
          of_decide_eq_true hvalid
        have h1 : s.draws.length ≠ 1 := by
          intro h1
          exact hzero h1 (by rw [hc, hs.prev_eq_zero h1])
        rw [hc] at hderiv
        obtain ⟨⟨a', c'⟩, he, hm, hin, -, hv⟩ :=
          issued_of_derivable hfree hs (hs.prev_mem h1) hderiv
        obtain rfl := hinput _ he hin
        have hceq : c' = c := by
          rw [hc, cookieWith, ← hm, ← hv rfl]
        rwa [← hceq]
  · exact ⟨by simpa [JarLog.new] using hdraw, ⟨[], rfl, rfl⟩, fun e he => absurd he (by
      simp [JarLog.new])⟩

end Unforgeable

/-! ## Runs that meet the conditions, and runs that do not -/

/-- A symbolic MAC: the tag is the pair of key and message. -/
def pairMac (k : ℕ) (m : Bytes) : ℕ × Bytes := (k, m)

/-- A cookie for an IPv4 client, issued and presented. -/
def plainRun : List (JarOp ℕ (ℕ × Bytes)) :=
  [.issue ⟨7, List.replicate 16 1, some ⟨[10, 0, 0, 1], 500, ""⟩⟩ none 1,
    .valid (some (cookieWith pairMac 1 1
        ⟨7, List.replicate 16 1, some ⟨[10, 0, 0, 1], 500, ""⟩⟩))
      ⟨7, List.replicate 16 1, some ⟨[10, 0, 0, 1], 500, ""⟩⟩]

theorem cookie_unforgeable_plain :
    Along (JarLog.step pairMac) (Unforged pairMac) (JarLog.new 0 1 0) plainRun := by
  refine cookie_unforgeable ?_ 1 (show 1 ≠ 0 by decide) 0 plainRun
    ⟨⟨?_, trivial⟩, ⟨?_, ?_⟩, trivial⟩
  · intro k m k' m' h
    exact Prod.mk.inj h
  · intro h
    exact absurd h (by decide)
  · exact Or.inl ⟨_, mem_cons_self, rfl⟩
  · exact ⟨by decide, by decide⟩

/-- Before the second rotation: the cookie of the all-zero secret, presented to a new jar. -/
def zeroSecretRun : List (JarOp ℕ (ℕ × Bytes)) :=
  [.valid (some (cookieWith pairMac 0 0
        ⟨7, List.replicate 16 1, some ⟨[10, 0, 0, 1], 500, ""⟩⟩))
      ⟨7, List.replicate 16 1, some ⟨[10, 0, 0, 1], 500, ""⟩⟩]

/-- A cookie issued to an IPv4 address, presented from an IPv6 address that takes the last twelve
octets of the nonce over. -/
def movedOctetsRun : List (JarOp ℕ (ℕ × Bytes)) :=
  [.issue ⟨7, List.replicate 28 1, some ⟨[10, 0, 0, 1], 500, ""⟩⟩ none 1,
    .valid (some (cookieWith pairMac 1 1
        ⟨7, List.replicate 28 1, some ⟨[10, 0, 0, 1], 500, ""⟩⟩))
      ⟨7, List.replicate 16 1, some ⟨List.replicate 12 1 ++ [10, 0, 0, 1], 500, ""⟩⟩]

/-- **Two forgeries.**  In both runs the environment is fair and `valid` accepts a cookie that was
not issued for the values it is presented with. -/
theorem cookie_forged :
    (Along (JarLog.step pairMac) (FairCall pairMac 0) (JarLog.new 0 1 0) zeroSecretRun ∧
        ¬ Along (JarLog.step pairMac) (Unforged pairMac) (JarLog.new 0 1 0) zeroSecretRun) ∧
      Along (JarLog.step pairMac) (FairCall pairMac 0) (JarLog.new 0 1 0) movedOctetsRun ∧
        ¬ Along (JarLog.step pairMac) (Unforged pairMac) (JarLog.new 0 1 0) movedOctetsRun := by
  refine ⟨⟨⟨Or.inr ?_, trivial⟩, ?_⟩, ⟨?_, Or.inl ⟨_, mem_cons_self, rfl⟩, trivial⟩, ?_⟩
  · -- a tag under key 0 is no tag under the only secret, 1
    intro k hk m he
    obtain rfl := mem_singleton.mp hk
    exact absurd (congrArg Prod.fst he) (show (1 : ℕ) ≠ 0 by decide)
  · rintro ⟨h, -⟩
    obtain ⟨c, -, hmem⟩ := h (by decide)
    exact absurd hmem (by simp [JarLog.new])
  · intro h
    exact absurd h (by decide)
  · rintro ⟨-, h, -⟩
    obtain ⟨c, -, hmem⟩ := h (by decide)
    have hnonce := congrArg (fun e => e.1.nonce.length) (mem_singleton.mp hmem)
    exact absurd hnonce (show (16 : ℕ) ≠ 28 by decide)

end Veepin.IKE
