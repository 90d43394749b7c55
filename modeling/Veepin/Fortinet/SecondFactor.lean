import Veepin.Core.Bytes
import Veepin.Core.Maps
import Veepin.Core.Runs

/-!
# The second factor of a Fortinet login

`handleLogin`, `issueChallenge`, `handleChallenge` and `grantSession` of `fortinet/server.go`, and
`VerifyCounter` of `otp/otp.go`.  A step is a critical section, or what a request does between two
of them; times are nanoseconds.  What `newCookie` draws is an input of the login, and a client may
send any reqid.

* `second_factor` — no session without a fresh challenge and a step above all accepted ones, while
  no reqid is drawn twice (`Server.Fresh`).
-/

namespace Veepin.Fortinet

open List Function

/-- `otp.Config`, with `int64(period().Seconds())` as `step`, the HMAC of its algorithm, and
`strings.TrimSpace`. -/
structure TOTP where
  hmac : Bytes → Bytes → Bytes
  trimSpace : String → String
  digits : ℤ
  step : ℤ
  skew : ℤ

namespace TOTP

def hotp (o : TOTP) (secret : Bytes) (counter : ℕ) : Option String :=
  let digits := if o.digits = 0 then 6 else o.digits
  if digits < 1 ∨ 9 ≤ digits then none
  else
    let sum := o.hmac secret (putBE64 counter)
    let code := be32 sum (sum.getLastD 0 &&& 0x0f).toNat &&& 0x7fffffff
    some (.ofList ((Nat.toDigits 10 (code % 10 ^ digits.toNat)).leftpad digits.toNat '0'))

/-- `Config.skew`. -/
def window (o : TOTP) : ℕ := if o.skew = 0 then 1 else o.skew.toNat

/-- The loop of `VerifyCounter`, with `n` steps from `c` on to go. -/
def scan (o : TOTP) (secret : Bytes) (code : String) : ℤ → ℕ → Option ℕ → Option ℕ
  | _, 0, matched => matched
  | c, n + 1, matched =>
    if c < 0 then scan o secret code (c + 1) n matched
    else
      match o.hotp secret c.toNat with
      | none => none
      | some want =>
        scan o secret code (c + 1) n (if want = code then some c.toNat else matched)

/-- `VerifyCounter`.  With a period below a second the division panics. -/
def verifyCounter (o : TOTP) (secret : Bytes) (code : String) (unix : ℤ) : Option ℕ :=
  if o.trimSpace code = "" ∨ o.step = 0 then none
  else o.scan secret (o.trimSpace code) (unix.tdiv o.step - o.window) (2 * o.window + 1) none

/-- The code is that of the step `c`, which is in the skew window. -/
def Valid (o : TOTP) (secret : Bytes) (code : String) (unix : ℤ) (c : ℕ) : Prop :=
  o.hotp secret c = some (o.trimSpace code) ∧ |c - unix.tdiv o.step| ≤ o.window

variable {secret : Bytes} {code : String}

lemma scan_some {o : TOTP} {k : ℕ} :
    ∀ {n : ℕ} {c : ℤ} {m : Option ℕ}, o.scan secret code c n m = some k →
      m = some k ∨ o.hotp secret k = some code ∧ c ≤ k ∧ k < c + n
  | 0, _, _, h => .inl h
  | n + 1, c, m, h => by
    rw [scan] at h
    split_ifs at h with hneg
    · have := scan_some h
      grind
    cases hwant : o.hotp secret c.toNat with
    | none => simp [hwant] at h
    | some want =>
      simp only [hwant] at h
      have := scan_some h
      grind

lemma verifyCounter_valid {o : TOTP} {unix : ℤ} {c : ℕ}
    (h : o.verifyCounter secret code unix = some c) : o.Valid secret code unix c := by
  rw [verifyCounter] at h
  split_ifs at h
  obtain h | ⟨hcode, hlo, hhi⟩ := scan_some h
  · cases h
  · exact ⟨hcode, abs_le.mpr (by omega)⟩

end TOTP

/-- The part of `ServerConfig` that a login reads, `userdb.Verify` and `otp.DecodeSecret`. -/
structure Config where
  users : String → Option String
  verify : String → String → Bool
  totpSecrets : String → Option String
  decodeSecret : String → Option Bytes
  totp : TOTP

/-- The check of the password. -/
def Config.correct (cfg : Config) (username password : String) : Bool :=
  (cfg.users username).any (cfg.verify · password)

def challengeTTL : ℤ := 3 * 60 * 10 ^ 9

structure ChallengeState where
  username : String
  expires : ℤ

/-- A challenge that was issued, and the password that it answers. -/
structure Issue where
  username : String
  password : String
  time : ℤ

/-- A code that was right: the challenge and when it was taken, the step and when it was checked. -/
structure Pass where
  reqid : String
  taken : ℤ
  code : String
  checked : ℤ
  step : ℕ

/-- Where the request is that took a challenge. -/
inductive Answer
  | awaited
  | challenged (username : String) (taken : ℤ) (code : String)
  | verified (username : String) (p : Pass)
  /-- In `grantSession`. -/
  | granting (username : String) (p : Pass)
  | done

/-- The server, for each reqid the challenge and the request that took it, and the steps accepted
and sessions granted so far, the newest first. -/
structure Server where
  clock : ℤ
  pending2FA : String → Option ChallengeState := fun _ => none
  lastTOTP : String → Option ℕ := fun _ => none
  issued : String → Option Issue := fun _ => none
  answers : String → Answer := fun _ => .awaited
  accepted : List (String × Pass) := []
  grants : List (String × Option Pass) := []

/-- `reqid` of a login: what `newCookie` draws; `admitted`: the gate admits the login, and the pool
has an address. -/
inductive Event
  | tick (d : ℕ)
  | login (username password reqid : String) (d : ℕ) (admitted : Bool)
  | answer (reqid username code : String) (ftmPush : Bool)
  | verify (reqid : String)
  | record (reqid : String)
  | grant (reqid : String) (admitted : Bool)

namespace Server

def goto (s : Server) (n : String) (k : Answer) : Server :=
  { s with answers := Function.update s.answers n k }

/-- `expireChallengesLocked`. -/
def expireChallenges (s : Server) : Server :=
  { s with pending2FA := fun id => (s.pending2FA id).filter (s.clock ≤ ·.expires) }

/-- `issueChallenge`; the clock moves on by `d` between its two readings. -/
def issueChallenge (s : Server) (username password reqid : String) (d : ℕ) : Server :=
  { s with
    clock := s.clock + d
    pending2FA := Function.update s.expireChallenges.pending2FA reqid
      (some ⟨username, s.clock + d + challengeTTL⟩)
    issued := Function.update s.issued reqid (some ⟨username, password, s.clock + d⟩) }

def grantSession (s : Server) (username : String) (p : Option Pass) (admitted : Bool) : Server :=
  if admitted then { s with grants := (username, p) :: s.grants } else s

def handleLogin (cfg : Config) (s : Server) (username password reqid : String) (d : ℕ)
    (admitted : Bool) : Server :=
  if !cfg.correct username password then s
  else if (cfg.totpSecrets username).isSome then s.issueChallenge username password reqid d
  else s.grantSession username none admitted

/-- `handleChallenge`, up to the check of the code. -/
def handleChallenge (s : Server) (n username code : String) (ftmPush : Bool) : Server :=
  match s.expireChallenges.pending2FA n with
  | none => s.expireChallenges
  | some state =>
    { s with
      pending2FA := Function.update s.expireChallenges.pending2FA n none
      answers := Function.update s.answers n
        (if state.username ≠ username ∨ ftmPush then .done
        else .challenged state.username s.clock code) }

/-- The second critical section of `handleChallenge`. -/
def record (s : Server) (n username : String) (p : Pass) : Server :=
  if (s.lastTOTP username).any (p.step ≤ ·) then s.goto n .done
  else { s.goto n (.granting username p) with
    lastTOTP := Function.update s.lastTOTP username (some p.step)
    accepted := (username, p) :: s.accepted }

def step (cfg : Config) (s : Server) : Event → Server
  | .tick d => { s with clock := s.clock + d }
  | .login username password reqid d admitted =>
    s.handleLogin cfg username password reqid d admitted
  | .answer n username code ftmPush => s.handleChallenge n username code ftmPush
  | .verify n =>
    match s.answers n with
    | .challenged username taken code =>
      match (cfg.decodeSecret ((cfg.totpSecrets username).getD "")).bind
          (cfg.totp.verifyCounter · code (s.clock / 10 ^ 9)) with
      | some step => s.goto n (.verified username ⟨n, taken, code, s.clock, step⟩)
      | none => s.goto n .done
    | _ => s
  | .record n =>
    match s.answers n with
    | .verified username p => s.record n username p
    | _ => s
  | .grant n admitted =>
    match s.answers n with
    | .granting username p => (s.goto n .done).grantSession username (some p) admitted
    | _ => s

/-- The sessions granted for a second factor. -/
def passes (s : Server) : List (String × Pass) := s.grants.filterMap fun g => g.2.map (g.1, ·)

/-- The reqid was issued to this user for a correct password, at most `challengeTTL` before. -/
def Issued (cfg : Config) (s : Server) (username n : String) (taken : ℤ) : Prop :=
  ∃ i, s.issued n = some i ∧ i.username = username ∧ cfg.correct username i.password ∧
    i.time ≤ taken ∧ taken ≤ i.time + challengeTTL

/-- And the code is right for its step. -/
def Earned (cfg : Config) (s : Server) (username : String) (p : Pass) : Prop :=
  s.Issued cfg username p.reqid p.taken ∧
    ∃ secret, cfg.decodeSecret ((cfg.totpSecrets username).getD "") = some secret ∧
      cfg.totp.Valid secret p.code (p.checked / 10 ^ 9) p.step

/-- What the second factor promises. -/
structure Secure (cfg : Config) (s : Server) : Prop where
  earned : ∀ g ∈ s.grants, (cfg.totpSecrets g.1).isSome →
    ∃ p, g.2 = some p ∧ s.Earned cfg g.1 p ∧ (g.1, p) ∈ s.accepted
  rising : s.accepted.Pairwise fun a b => a.1 = b.1 → b.2.step < a.2.step
  reqids : (s.passes.map (·.2.reqid)).Nodup
  steps : (s.passes.map fun a => (a.1, a.2.step)).Nodup

/-- `newCookie` draws no reqid for the second time. -/
def Fresh (s : Server) : Event → Prop
  | .login _ _ reqid _ _ => s.issued reqid = none
  | _ => True

instance (s : Server) : DecidablePred s.Fresh
  | .login _ _ reqid _ _ => inferInstanceAs (Decidable (s.issued reqid = none))
  | .tick _ | .answer .. | .verify _ | .record _ | .grant .. => isTrue trivial

/-- What the state of a request says is so. -/
def Founded (cfg : Config) (s : Server) (n : String) : Answer → Prop
  | .challenged u taken _ => s.Issued cfg u n taken
  | .verified u p => p.reqid = n ∧ s.Earned cfg u p
  | .granting u p => p.reqid = n ∧ s.Earned cfg u p ∧ (u, p) ∈ s.accepted
  | .awaited | .done => True

/-- The invariant. -/
structure Inv (cfg : Config) (s : Server) : Prop where
  issued : ∀ n i, s.issued n = some i → cfg.correct i.username i.password ∧ i.time ≤ s.clock
  pending : ∀ n st, s.pending2FA n = some st → s.answers n = .awaited ∧ ∃ i, s.issued n = some i ∧
    i.username = st.username ∧ st.expires = i.time + challengeTTL
  known : ∀ n, s.answers n ≠ .awaited → s.issued n ≠ none
  founded : ∀ n, s.Founded cfg n (s.answers n)
  granted : ∀ g ∈ s.grants, ((cfg.totpSecrets g.1).isSome → g.2.isSome) ∧ ∀ p, g.2 = some p →
    s.answers p.reqid = .done ∧ s.Earned cfg g.1 p ∧ (g.1, p) ∈ s.accepted
  reqids : (s.passes.map (·.2.reqid)).Nodup
  last : ∀ a ∈ s.accepted, ∃ l, s.lastTOTP a.1 = some l ∧ a.2.step ≤ l
  rising : s.accepted.Pairwise fun a b => a.1 = b.1 → b.2.step < a.2.step

variable {cfg : Config} {s s' : Server} {n : String} {k : Answer}

/-- Challenges that were issued and steps that were accepted stay so. -/
lemma Founded.mono (hk : s.Founded cfg n k)
    (hissued : ∀ {v j taken}, s.Issued cfg v j taken → s'.Issued cfg v j taken)
    (haccepted : s.accepted ⊆ s'.accepted) : s'.Founded cfg n k := by
  cases k with
  | awaited | done => trivial
  | challenged u taken code => exact hissued hk
  | verified u p => exact hk.imp_right (.imp_left hissued)
  | granting u p => exact hk.imp_right (.imp (.imp_left hissued) (@haccepted _))

section

variable (h : s.Inv cfg) {u : String}

include h

/-- A request that is not over gets on, and challenges go from the map. -/
lemma Inv.move {m : String → Option ChallengeState}
    (hm : ∀ j st, m j = some st → s.pending2FA j = some st ∧ j ≠ n)
    (hold : s.answers n ≠ .done) (hknown : s.issued n ≠ none) (hk : s.Founded cfg n k) :
    Inv cfg { s with pending2FA := m, answers := Function.update s.answers n k } := by
  refine ⟨h.issued, ?pending, ?known, ?founded, ?granted, h.reqids, h.last, h.rising⟩
  case pending =>
    intro j st hj
    obtain ⟨hst, hne⟩ := hm j st hj
    exact (h.pending j st hst).imp_left (update_of_ne hne ..).trans
  case known =>
    intro j hj
    by_cases hjn : j = n
    · exact hjn ▸ hknown
    · exact h.known j fun ha => hj ((update_of_ne hjn ..).trans ha)
  case founded =>
    intro j
    show s.Founded cfg j (update s.answers n k j)
    by_cases hjn : j = n
    · rwa [hjn, update_self]
    · rw [update_of_ne hjn]
      exact h.founded j
  case granted =>
    refine fun g hg => (h.granted g hg).imp_right fun hall p hp => ?_
    obtain ⟨hdone, hearned⟩ := hall p hp
    have hne : p.reqid ≠ n := fun he => hold (he ▸ hdone)
    exact ⟨(update_of_ne hne ..).trans hdone, hearned⟩

/-- The same for the request that has the challenge. -/
lemma Inv.goto (hn : s.answers n ≠ .awaited ∧ s.answers n ≠ .done) (hk : s.Founded cfg n k) :
    (s.goto n k).Inv cfg :=
  h.move (fun j st hj => ⟨hj, fun hjn => hn.1 (hjn ▸ (h.pending j st hj).1)⟩) hn.2
    (h.known n hn.1) hk

lemma Inv.expireChallenges : s.expireChallenges.Inv cfg :=
  { h with pending := fun n st hst => h.pending n st (Option.filter_eq_some_iff.mp hst).1 }

/-- **A challenge is issued** under a reqid that nobody has. -/
lemma Inv.issueChallenge {password reqid : String} (hpass : cfg.correct u password)
    (hfresh : s.issued reqid = none) (d : ℕ) : (s.issueChallenge u password reqid d).Inv cfg := by
  have hne : ∀ {j i}, s.issued j = some i → j ≠ reqid := by
    rintro _ _ hi rfl
    cases hfresh.symm.trans hi
  have hissued : ∀ {v j taken}, s.Issued cfg v j taken →
      (s.issueChallenge u password reqid d).Issued cfg v j taken :=
    fun ⟨i, hi, hrest⟩ => ⟨i, (update_of_ne (hne hi) ..).trans hi, hrest⟩
  refine { h with
    issued := fun j i hi => ?_
    pending := fun j st hst => ?_
    known := fun j hj => ?_
    founded := fun j => (h.founded j).mono hissued (Subset.refl _)
    granted := fun g hg => (h.granted g hg).imp_right fun hall p hp => (hall p hp).imp_right
      (.imp_left (.imp_left hissued)) }
  · obtain ⟨-, hi⟩ | ⟨-, hi⟩ := update_eq_cases hi
    · obtain rfl := Option.some.inj hi
      exact ⟨hpass, le_rfl⟩
    · exact (h.issued j i hi).imp_right (le_add_of_le_of_nonneg · d.cast_nonneg)
  · by_cases hj : j = reqid
    · subst hj
      obtain rfl : _ = st := by simpa [Server.issueChallenge] using hst
      exact ⟨by_contra fun hans => h.known j hans hfresh, _, update_self .., rfl, rfl⟩
    · simp only [Server.issueChallenge, update_of_ne hj] at hst ⊢
      exact h.expireChallenges.pending j st hst
  · obtain ⟨i, hi⟩ := Option.ne_none_iff_exists'.mp (h.known j hj)
    simp [Server.issueChallenge, update_of_ne (hne hi), hi]

/-- **A challenge is taken** out of the map, once and in time. -/
lemma Inv.handleChallenge (u code : String) (ftmPush : Bool) :
    (s.handleChallenge n u code ftmPush).Inv cfg := by
  unfold Server.handleChallenge
  cases hst : s.expireChallenges.pending2FA n with
  | none => exact h.expireChallenges
  | some st =>
    obtain ⟨hold, htime⟩ := Option.filter_eq_some_iff.mp hst
    obtain ⟨hawaited, i, hi, hu, hexpires⟩ := h.pending n st hold
    obtain ⟨hcorrect, hclock⟩ := h.issued n i hi
    have hissued : s.Issued cfg st.username n s.clock :=
      ⟨i, hi, hu, hu ▸ hcorrect, hclock, by simpa [hexpires] using htime⟩
    refine h.move (fun j st' hj => ?_) (by simp [hawaited]) (by simp [hi]) ?_
    · obtain ⟨-, hj⟩ | ⟨hjn, hj⟩ := update_eq_cases hj
      · cases hj
      · exact ⟨(Option.filter_eq_some_iff.mp hj).1, hjn⟩
    · split_ifs
      · trivial
      · exact hissued

/-- **A step is accepted** if it is above all the user's before. -/
lemma Inv.record {p : Pass} (hn : s.answers n = .verified u p) :
    (s.record n u p).Inv cfg := by
  unfold Server.record
  split_ifs with hlast
  · exact h.goto (by simp [hn]) trivial
  have hfound : s.Founded cfg n (.verified u p) := hn ▸ h.founded n
  have hnew : Inv cfg { s with
      lastTOTP := update s.lastTOTP u (some p.step), accepted := (u, p) :: s.accepted } := by
    have habove : ∀ a ∈ s.accepted, u = a.1 → a.2.step < p.step := by
      intro a ha hu
      obtain ⟨l, hl, hle⟩ := h.last a ha
      have : l < p.step := by simpa [hu, hl] using hlast
      omega
    exact { h with
      founded := fun j => (h.founded j).mono id (subset_cons_self _ _)
      granted := fun g hg => ⟨(h.granted g hg).1, fun q hq =>
        ((h.granted g hg).2 q hq).imp_right (.imp_right (.tail _))⟩
      last := fun a ha => by
        have := h.last a
        have := habove a
        grind
      rising := pairwise_cons.mpr ⟨habove, h.rising⟩ }
  exact hnew.goto (by simp [hn]) ⟨hfound.1, hfound.2, mem_cons_self⟩

/-- **A session is granted**, and the challenge is spent. -/
lemma Inv.grant {p : Pass} (hn : s.answers n = .granting u p)
    (admitted : Bool) : ((s.goto n .done).grantSession u (some p) admitted).Inv cfg := by
  have hdone : (s.goto n .done).Inv cfg := h.goto (by simp [hn]) trivial
  have hfound : s.Founded cfg n (.granting u p) := hn ▸ h.founded n
  obtain ⟨rfl, hearned, hacc⟩ := hfound
  unfold grantSession
  split_ifs
  · refine { hdone with
      granted := forall_mem_cons.mpr ⟨⟨fun _ => rfl, ?_⟩, hdone.granted⟩
      reqids := nodup_cons.mpr ⟨?_, hdone.reqids⟩ }
    · rintro q ⟨⟩
      exact ⟨update_self .., hearned, hacc⟩
    · simp only [mem_map, mem_filterMap]
      rintro ⟨a, ⟨g, hg, ha⟩, hp⟩
      obtain ⟨q, hq, rfl⟩ := Option.map_eq_some_iff.mp ha
      cases hn.symm.trans (hp ▸ ((h.granted g hg).2 q hq).1)
  · exact hdone

lemma Inv.step {e : Event} (hfresh : s.Fresh e) : (s.step cfg e).Inv cfg := by
  cases e with
  | tick d =>
    exact { h with
      issued := fun n i hi => (h.issued n i hi).imp_right
        (le_add_of_le_of_nonneg · d.cast_nonneg) }
  | login u password reqid d admitted =>
    simp only [Server.step, handleLogin]
    split_ifs with hwrong htotp
    · exact h
    · exact h.issueChallenge (by simpa using hwrong) hfresh d
    · unfold grantSession
      split_ifs
      · exact { h with
          granted := forall_mem_cons.mpr ⟨⟨fun ht => absurd ht htotp, nofun⟩, h.granted⟩ }
      · exact h
  | answer n u code ftmPush => exact h.handleChallenge u code ftmPush
  | verify n =>
    simp only [Server.step]
    split
    · next u taken code hn =>
      split
      · next step hstep =>
        obtain ⟨secret, hsecret, hcode⟩ := Option.bind_eq_some_iff.mp hstep
        have hfound : s.Founded cfg n (.challenged u taken code) := hn ▸ h.founded n
        exact h.goto (by simp [hn])
          ⟨rfl, hfound, secret, hsecret, TOTP.verifyCounter_valid hcode⟩
      · exact h.goto (by simp [hn]) trivial
    · exact h
  | record n =>
    simp only [Server.step]
    split
    · next hn => exact h.record hn
    · exact h
  | grant n admitted =>
    simp only [Server.step]
    split
    · next hn => exact h.grant hn admitted
    · exact h

lemma Inv.secure : s.Secure cfg := by
  have haccepted : s.passes ⊆ s.accepted := by
    intro a ha
    obtain ⟨g, hg, hga⟩ := mem_filterMap.mp ha
    obtain ⟨p, hp, rfl⟩ := Option.map_eq_some_iff.mp hga
    exact ((h.granted g hg).2 p hp).2.2
  have hsteps : (s.accepted.map fun a => (a.1, a.2.step)).Nodup :=
    pairwise_map.mpr (h.rising.imp (by grind))
  refine ⟨fun g hg htotp => ?_, h.rising, h.reqids, ?_⟩
  · obtain ⟨p, hp⟩ := Option.isSome_iff_exists.mp ((h.granted g hg).1 htotp)
    exact ⟨p, hp, ((h.granted g hg).2 p hp).2⟩
  · exact h.reqids.of_map.map_on fun a ha b hb =>
      inj_on_of_nodup_map hsteps (haccepted ha) (haccepted hb)

end

/-- **The second factor** is neither skipped nor replayed, whatever requests come, while no reqid is
drawn twice. -/
theorem second_factor (cfg : Config) (clock : ℤ) (es : List Event)
    (hfresh : Along (step cfg) Fresh { clock := clock } es) :
    Always (step cfg) (Secure cfg) { clock := clock } es := by
  have hinit : Inv cfg { clock := clock } := by
    constructor <;> simp [passes, Founded]
  exact always_of_inv (Inv cfg) (fun s e h hC => h.step hC) (fun s h => h.secure) _ es hinit hfresh

/-- One user with a password and a secret, whose code is always the same. -/
def oneUser : Config where
  users name := if name = "a" then some "p" else none
  verify stored password := stored = password
  totpSecrets name := if name = "a" then some "s" else none
  decodeSecret _ := some []
  totp := { hmac := fun _ _ => replicate 20 0, trimSpace := id, digits := 6, step := 30, skew := 1 }

/-- The user logs in and answers, and does it again with the code that was accepted. -/
def loginTwice : List Event :=
  [.login "a" "p" "r" 0 true, .answer "r" "a" "000000" false, .verify "r", .record "r",
    .grant "r" true, .login "a" "p" "q" 0 true, .answer "q" "a" "000000" false, .verify "q",
    .record "q", .grant "q" true]

theorem second_factor_login : Always (step oneUser) (Secure oneUser) { clock := 0 } loginTwice ∧
    (run (step oneUser) { clock := 0 } loginTwice).passes.map (·.2.reqid) = ["r"] :=
  ⟨second_factor oneUser 0 loginTwice (by decide +kernel), by decide +kernel⟩

end Server

end Veepin.Fortinet
