import Veepin.IKEv2.Ike.Moves

/-!
# Half-open SAs

An SA is half-open from its IKE_SA_INIT until its IKE_AUTH is accepted.  The gate is to bound their
number, and from `cookieThreshold` on an initiator is to return a cookie first.

Neither happens.  The handler gives the slot of the gate back when it returns
(`defer s.gate.Done()`), while the SA it stands for stays in the table.  Between two datagrams the
gate counts nothing (`gate_idle`), so a cookie is never asked for (`cookie_never_demanded`), and
requests from different addresses create an SA each (`flood_creates`).

So each IKE_SA_INIT request within its rate limit whose negotiation succeeds creates an SA
(`step_of_isSAInit`), and `half_open_bounded` says of every step just when it breaks the bound or
the demand for a cookie.
-/

namespace Veepin.IKE

open Server

variable (c : Crypto) {P : Type}

/-! ## What is counted, and what is asked -/

/-- The number of SAs that are not authenticated yet. -/
def Server.halfOpenCount (s : Server P) : ℕ := mapCount (fun sa => sa.state.halfOpen) s.byRSPI

/-- The datagram is an IKE_SA_INIT, as `handlePacket` reads it. -/
def Datagram.isSAInit (d : Datagram) : Bool :=
  match parseHeader d.pkt with
  | none => false
  | some hdr => hdr.version >>> 4 = 2 ∧ hdr.exchangeType = ikeSAInit

/-- An IKE_SA_INIT request that has the payloads it needs. -/
structure SAInitRequest where
  msg : Message
  saBody : Bytes
  keBody : Bytes
  nonce : Bytes

def Datagram.saInit (d : Datagram) : Option SAInitRequest := do
  let hdr ← parseHeader d.pkt
  if hdr.isResponse then none
  let msg ← parseMessage d.pkt
  let saPay ← findInner msg.payloads typeSA
  let kePay ← findInner msg.payloads typeKE
  let noncePay ← findInner msg.payloads typeNonce
  return ⟨msg, saPay.body, kePay.body, noncePay.body⟩

/-- The SA of an IKE_SA_INIT request from a source within its rate limit, if the negotiation
succeeds. -/
def Server.opens (s : Server P) (d : Datagram) : Option IKESA :=
  if s.gate.withinRate d.remote d.env.now then
    d.saInit.bind fun q =>
      (negotiate c s.cfg q.msg q.saBody q.keBody q.nonce d s.created).toOption.map Prod.fst
  else none

/-- The request carries a valid cookie. -/
def Server.hasCookie (s : Server P) (d : Datagram) : Bool :=
  d.saInit.any fun q => s.cookieOK c q.msg q.nonce d.remote

/-- There are no more half-open SAs than the gate allows. -/
def HalfOpenBounded (s : Server P) : Prop := s.halfOpenCount ≤ s.gate.cfg.maxHalfOpen

/-- Above the threshold, an IKE_SA_INIT without a valid cookie creates no SA. -/
def CookieDemanded (s : Server P) (d : Datagram) : Prop :=
  cookieThreshold ≤ s.halfOpenCount → d.isSAInit → s.hasCookie c d = false →
    (s.step c d).byRSPI = s.byRSPI ∧ (s.step c d).created = s.created

/-- With all slots taken, an IKE_SA_INIT opens an SA, in the place of no other half-open one. -/
def Overfills (s : Server P) (d : Datagram) : Prop :=
  s.halfOpenCount = s.gate.cfg.maxHalfOpen ∧ d.isSAInit ∧ ∃ sa ∈ s.opens c d,
    ¬ (s.byRSPI.lookup sa.responderSPI).any (·.state.halfOpen)

/-- At the threshold, an IKE_SA_INIT without a valid cookie opens an SA. -/
def Unasked (s : Server P) (d : Datagram) : Prop :=
  cookieThreshold ≤ s.halfOpenCount ∧ d.isSAInit ∧ s.hasCookie c d = false ∧
    (s.opens c d).isSome = true

variable {c} {s : Server P} {d : Datagram}

/-! ## The gate -/

/-- The slot taken for an IKE_SA_INIT is given back with the answer. -/
lemma handleIKESAInit_gate (hdr : Header) :
    (s.handleIKESAInit c hdr d).server.gate.halfOpen = s.gate.halfOpen ∧
      (s.handleIKESAInit c hdr d).server.gate.cfg = s.gate.cfg := by
  have hcases := s.gate.tryAdmit_cases d.remote d.env.now
  have hcfg := s.gate.tryAdmit_cfg d.remote d.env.now
  unfold handleIKESAInit
  split_ifs
  · exact ⟨rfl, rfl⟩
  split
  · exact ⟨rfl, rfl⟩
  split
  · rename_i saPay kePay noncePay _ _ _
    split
    · exact ⟨rfl, rfl⟩
    rename_i jar _
    dsimp only
    split
    · rename_i gate hgate
      obtain ⟨-, -, hsame, -⟩ := answerSAInit_change c { s with cookies := jar, gate := gate } _
        saPay.body kePay.body noncePay.body d
      rw [hgate] at hcases hcfg
      rw [hsame]
      rcases hcases with ⟨-, -, -, htaken⟩ | ⟨hrefused, -⟩
      · exact ⟨by simp only [Gate.done] at htaken ⊢; omega, hcfg⟩
      · exact absurd rfl hrefused
    · rename_i gate reason hreason hgate
      rw [hgate] at hcases hcfg
      rcases hcases with ⟨hadm, -⟩ | ⟨-, -, hkept⟩
      · exact absurd hadm hreason
      · exact ⟨hkept, hcfg⟩
  · exact ⟨rfl, rfl⟩

lemma handleSecured_gate (hdr : Header) : (s.handleSecured c hdr d).server.gate = s.gate := by
  unfold handleSecured
  split
  · rfl
  · rfl
  · rename_i sa r _
    simp only [conclude]
    generalize dispatch c s.cfg sa r s.created s.pools = o
    cases o.close <;> cases o.stored <;> rfl

lemma step_gate (c : Crypto) (s : Server P) (d : Datagram) :
    (s.step c d).gate.halfOpen = s.gate.halfOpen ∧ (s.step c d).gate.cfg = s.gate.cfg := by
  unfold step handlePacket
  split
  · exact ⟨rfl, rfl⟩
  rename_i hdr _
  split_ifs
  · exact ⟨rfl, rfl⟩
  · exact handleIKESAInit_gate hdr
  · rw [handleSecured_gate hdr]
    exact ⟨rfl, rfl⟩
  · exact ⟨rfl, rfl⟩

section

variable (c : Crypto) (cfg : Config P) (pools : P) (secret : Option Bytes) (now : ℤ)
  (ds : List Datagram)

/-- **The gate counts nothing** in any state between two datagrams. -/
theorem gate_idle :
    Always (Server.step c) (fun s => s.gate.halfOpen = 0) (newServer cfg pools secret now) ds :=
  always_of_inv (fun s => s.gate.halfOpen = 0)
    (fun s d hs _ => (step_gate c s d).1.trans hs) (fun _ hs => hs) _ _ rfl (along_true _ _ _)

/-- **A cookie is never asked for.** -/
theorem cookie_never_demanded :
    Always (Server.step c) (fun s => ∀ msg nonce d, (s.checkCookie c msg nonce d).2 = none)
      (newServer cfg pools secret now) ds := by
  refine (gate_idle c cfg pools secret now ds).imp fun s hs msg nonce d => ?_
  rw [checkCookie, if_pos (by rw [hs]; decide)]

end

/-! ## Counting -/

/-- With an idle gate, neither the number of half-open SAs nor a cookie matters to an
IKE_SA_INIT. -/
lemma handleIKESAInit_of_idle {hdr : Header} (hparse : parseHeader d.pkt = some hdr)
    (hidle : s.gate.halfOpen = 0) :
    ((s.handleIKESAInit c hdr d).server.byRSPI, (s.handleIKESAInit c hdr d).server.created) =
      match s.opens c d with
      | none => (s.byRSPI, s.created)
      | some sa => (s.byRSPI.insert sa.responderSPI sa, s.created + 1) := by
  have hnone (h : d.saInit = none) : s.opens c d = none := by simp [opens, h]
  unfold handleIKESAInit
  split_ifs with hresp
  · rw [hnone (by simp [Datagram.saInit, hparse, hresp])]
    rfl
  split
  · rename_i hmsg
    rw [hnone (by simp [Datagram.saInit, hparse, hmsg])]
    rfl
  rename_i msg hmsg
  split
  · rename_i saPay kePay noncePay hsa hke hnonce
    have hreq : d.saInit = some ⟨msg, saPay.body, kePay.body, noncePay.body⟩ := by
      simp [Datagram.saInit, hparse, hresp, hmsg, hsa, hke, hnonce]
    rw [show s.checkCookie c msg noncePay.body d = (s.cookies, none) by
      rw [checkCookie, if_pos (by rw [hidle]; decide)]]
    dsimp only [opens]
    rw [hreq, Option.bind_some]
    cases hrate : s.gate.withinRate d.remote d.env.now with
    | true =>
      have hadm := Gate.tryAdmit_of_idle hidle hrate
      generalize s.gate.tryAdmit d.remote d.env.now = x at hadm
      obtain ⟨gate, verdict⟩ := x
      cases hadm
      dsimp only [answerSAInit]
      cases hneg : negotiate c s.cfg msg saPay.body kePay.body noncePay.body d s.created with
      | error e => cases e <;> rfl
      | ok y => rfl
    | false =>
      have hrefused : (s.gate.tryAdmit d.remote d.env.now).2 ≠ .admitted := by
        rcases s.gate.tryAdmit_cases d.remote d.env.now with ⟨-, hin, -⟩ | ⟨hno, -⟩
        · rw [hrate] at hin
          exact absurd hin (by decide)
        · exact hno
      generalize s.gate.tryAdmit d.remote d.env.now = x at hrefused
      obtain ⟨gate, verdict⟩ := x
      cases verdict with
      | admitted => exact absurd rfl hrefused
      | rateLimited | atCapacity => rfl
  · rename_i hmissing
    rw [hnone ?_]
    simp only [Datagram.saInit, hparse, hresp, hmsg, Option.bind_eq_bind, Option.bind_some]
    cases hsa : findInner msg.payloads typeSA with
    | none => rfl
    | some saPay =>
      cases hke : findInner msg.payloads typeKE with
      | none => rfl
      | some kePay =>
        cases hnonce : findInner msg.payloads typeNonce with
        | none => rfl
        | some noncePay => exact (hmissing _ _ _ hsa hke hnonce).elim

/-- **What an IKE_SA_INIT does** to the table. -/
lemma step_of_isSAInit (hinit : d.isSAInit) (hidle : s.gate.halfOpen = 0) :
    ((s.step c d).byRSPI, (s.step c d).created) =
      match s.opens c d with
      | none => (s.byRSPI, s.created)
      | some sa => (s.byRSPI.insert sa.responderSPI sa, s.created + 1) := by
  cases hparse : parseHeader d.pkt with
  | none => exact absurd hinit (by simp [Datagram.isSAInit, hparse])
  | some hdr =>
    have hsa : hdr.version >>> 4 = 2 ∧ hdr.exchangeType = ikeSAInit := by
      simpa [Datagram.isSAInit, hparse] using hinit
    unfold step handlePacket
    simp only [hparse]
    rw [if_neg (not_not.mpr hsa.1), if_pos hsa.2]
    exact handleIKESAInit_of_idle hparse hidle

/-- A step on anything but an IKE_SA_INIT creates no half-open SA. -/
lemma halfOpenCount_moved {old sa : IKESA} {r : Request} {o : Outcome P} {id : ℕ}
    (hold : s.byRSPI.lookup r.hdr.responderSPI = some old) (hcore : sa.core = old.core)
    (hmove : Move c s.cfg sa r id s.pools o) :
    (s.conclude c sa r o).server.halfOpenCount ≤ s.halfOpenCount := by
  have hback : mapCount (fun sa => sa.state.halfOpen) (s.byRSPI.insert r.hdr.responderSPI o.sa) ≤
      s.halfOpenCount := by
    refine mapCount_insert_le_of_imp _ hold fun ho => ?_
    rw [← state_of_core hcore]
    exact hmove.halfOpen_of ho
  unfold halfOpenCount at hback ⊢
  cases hclose : o.close with
  | true =>
    rw [conclude_byRSPI_close hclose (hmove.stored_of_close hclose)]
    exact (mapCount_erase_le _ _ _).trans hback
  | false =>
    rw [conclude_byRSPI hclose]
    cases hstored : o.stored with
    | none => exact hback
    | some new =>
      obtain ⟨-, suite, keys, spiI, rfl⟩ := hmove.stored_spec hstored
      refine (mapCount_insert_le_of_not _ _ _ ?_).trans hback
      simp [IKESA.successor, SAState.halfOpen]

lemma handleSecured_count (hdr : Header) :
    (s.handleSecured c hdr d).server.halfOpenCount ≤ s.halfOpenCount := by
  unfold handleSecured
  split
  · exact le_rfl
  · rename_i sa hrec
    obtain ⟨old, hold, hcore⟩ := receive_touched hrec
    exact mapCount_insert_le_of_imp _ hold fun h => by rw [← state_of_core hcore]; exact h
  · rename_i sa r hrec
    obtain ⟨rfl, hallowed, old, hold, hcore⟩ := receive_request hrec
    exact halfOpenCount_moved hold hcore (dispatch_move hallowed)

/-- Only an IKE_SA_INIT creates a half-open SA. -/
lemma halfOpenCount_step (c : Crypto) (s : Server P) {d : Datagram} (hno : ¬ d.isSAInit) :
    (s.step c d).halfOpenCount ≤ s.halfOpenCount := by
  unfold step handlePacket
  split
  · exact le_rfl
  rename_i hdr hparse
  split_ifs with hver hinit hprot
  · exact le_rfl
  · exact absurd (by simp [Datagram.isSAInit, hparse, not_not.mp hver, hinit]) hno
  · exact handleSecured_count hdr
  · exact le_rfl

lemma halfOpen_of_opens {sa : IKESA} (h : s.opens c d = some sa) : sa.state.halfOpen = true := by
  unfold opens at h
  split_ifs at h
  obtain ⟨q, -, hq⟩ := Option.bind_eq_some_iff.mp h
  cases hneg : negotiate c s.cfg q.msg q.saBody q.keBody q.nonce d s.created with
  | error e => rw [hneg] at hq; exact nomatch hq
  | ok x =>
    rw [hneg] at hq
    obtain rfl : x.1 = sa := Option.some.inj hq
    rw [(negotiate_fresh hneg).state]
    rfl

/-- The count after an IKE_SA_INIT that opens an SA. -/
lemma halfOpenCount_of_opens {sa : IKESA} (hinit : d.isSAInit) (hidle : s.gate.halfOpen = 0)
    (h : s.opens c d = some sa) :
    (s.step c d).halfOpenCount +
        (if (s.byRSPI.lookup sa.responderSPI).any (·.state.halfOpen) then 1 else 0) =
      s.halfOpenCount + 1 := by
  have hstep := step_of_isSAInit (c := c) hinit hidle
  rw [h] at hstep
  rw [halfOpenCount, (Prod.mk.inj hstep).1, mapCount_insert, if_pos (halfOpen_of_opens h),
    add_right_comm]
  congr 1
  cases hold : s.byRSPI.lookup sa.responderSPI with
  | none =>
    refine congrArg (List.countP _) (List.kerase_of_notMem_keys ?_)
    exact AList.lookup_eq_none.mp hold
  | some old => exact mapCount_erase_of_lookup _ hold

lemma step_of_not_opens (hinit : d.isSAInit) (hidle : s.gate.halfOpen = 0)
    (h : s.opens c d = none) :
    (s.step c d).byRSPI = s.byRSPI ∧ (s.step c d).created = s.created := by
  have hstep := step_of_isSAInit (c := c) hinit hidle
  rw [h] at hstep
  exact Prod.mk.inj hstep

lemma halfOpenBounded_step_iff (hidle : s.gate.halfOpen = 0) (h : HalfOpenBounded s) :
    HalfOpenBounded (s.step c d) ↔ ¬ Overfills c s d := by
  unfold HalfOpenBounded at h ⊢
  rw [(step_gate c s d).2]
  by_cases hinit : d.isSAInit
  · cases hopens : s.opens c d with
    | none =>
      rw [halfOpenCount, (step_of_not_opens hinit hidle hopens).1]
      exact iff_of_true h fun ⟨_, _, sa, hsa, _⟩ => nomatch hopens ▸ hsa
    | some sa =>
      have hcount := halfOpenCount_of_opens hinit hidle hopens
      constructor
      · rintro hle ⟨hfull, -, sa', hsa', hnew⟩
        obtain rfl : sa = sa' := Option.some.inj (hopens ▸ hsa')
        rw [if_neg hnew] at hcount
        omega
      · intro hno
        by_contra hgt
        have hnot : ¬ (s.byRSPI.lookup sa.responderSPI).any (·.state.halfOpen) = true := by
          intro hold
          rw [if_pos hold] at hcount
          omega
        rw [if_neg hnot] at hcount
        exact hno ⟨by omega, hinit, sa, hopens, hnot⟩
  · exact iff_of_true ((halfOpenCount_step c s hinit).trans h) fun ho => hinit ho.2.1

lemma cookieDemanded_iff (hidle : s.gate.halfOpen = 0) :
    CookieDemanded c s d ↔ ¬ Unasked c s d := by
  constructor
  · rintro h ⟨hmany, hinit, hno, hsome⟩
    obtain ⟨sa, hopens⟩ := Option.isSome_iff_exists.mp hsome
    have hstep := step_of_isSAInit (c := c) hinit hidle
    rw [hopens] at hstep
    have hcreated := (Prod.mk.inj hstep).2
    have := (h hmany hinit hno).2
    omega
  · intro h hmany hinit hno
    refine step_of_not_opens hinit hidle ?_
    rw [← Option.not_isSome_iff_eq_none]
    exact fun hsome => h ⟨hmany, hinit, hno, hsome⟩

section

variable (c : Crypto) (cfg : Config P) (pools : P) (secret : Option Bytes) (now : ℤ)
  (ds : List Datagram)

/-- There are no more half-open SAs than IKE_SA_INITs have come. -/
lemma halfOpenCount_run :
    (run (Server.step c) (newServer cfg pools secret now) ds).halfOpenCount ≤
      ds.countP Datagram.isSAInit := by
  induction ds using List.reverseRecOn with
  | nil => exact le_rfl
  | append_singleton ds d ih =>
    rw [run_concat, List.countP_append, List.countP_singleton]
    have hidle := (gate_idle c cfg pools secret now ds).last
    generalize run (Server.step c) (newServer cfg pools secret now) ds = s at ih hidle ⊢
    by_cases hinit : d.isSAInit
    · rw [if_pos hinit]
      cases hopens : s.opens c d with
      | none =>
        rw [halfOpenCount, (step_of_not_opens hinit hidle hopens).1]
        exact ih.trans (Nat.le_add_right _ _)
      | some sa =>
        have hcount := halfOpenCount_of_opens hinit hidle hopens
        omega
    · rw [if_neg hinit]
      exact (halfOpenCount_step c s hinit).trans ih

lemma gate_cfg_run : (run (Server.step c) (newServer cfg pools secret now) ds).gate.cfg =
    (newServer cfg pools secret now).gate.cfg :=
  inv_run (fun s : Server P => s.gate.cfg = (newServer cfg pools secret now).gate.cfg)
    (fun s d hs _ => (step_gate c s d).2.trans hs) _ _ rfl (along_true _ _ _)

/-- **The half-open bound.**  A step from within the bound breaks it just when it opens an SA with
all slots taken, and breaks the demand for a cookie just when it opens one unasked.  Both hold in a
run with no more IKE_SA_INITs than slots, in which those without a valid cookie come among the first
`cookieThreshold`. -/
theorem half_open_bounded :
    Along (Server.step c) (fun s d =>
        (HalfOpenBounded s → (HalfOpenBounded (s.step c d) ↔ ¬ Overfills c s d)) ∧
          (CookieDemanded c s d ↔ ¬ Unasked c s d)) (newServer cfg pools secret now) ds ∧
      (ds.countP Datagram.isSAInit ≤ (newServer cfg pools secret now).gate.cfg.maxHalfOpen →
        Always (Server.step c) HalfOpenBounded (newServer cfg pools secret now) ds) ∧
      ((∀ pre d post, ds = pre ++ d :: post → d.isSAInit →
          (run (Server.step c) (newServer cfg pools secret now) pre).hasCookie c d = false →
          pre.countP Datagram.isSAInit < cookieThreshold) →
        Along (Server.step c) (CookieDemanded c) (newServer cfg pools secret now) ds) := by
  refine ⟨?_, fun hfew => ?_, fun hearly => ?_⟩
  · exact along_of_inv (fun s => s.gate.halfOpen = 0) (fun s d hs _ => (step_gate c s d).1.trans hs)
      (fun s d hs _ => ⟨halfOpenBounded_step_iff hs, cookieDemanded_iff hs⟩) _ _ rfl
      (along_true _ _ _)
  · refine always_iff.mpr fun pre post he => ?_
    rw [HalfOpenBounded, gate_cfg_run]
    rw [he, List.countP_append] at hfew
    exact (halfOpenCount_run c cfg pools secret now pre).trans (by omega)
  · refine along_iff.mpr fun pre d post he hmany hinit hno => ?_
    have := hearly pre d post he hinit hno
    have := halfOpenCount_run c cfg pools secret now pre
    omega

end

/-! ## A flood -/

def floodServer : Server Unit := newServer { psk := [1], localID := ⟨idFQDN, []⟩ } () none 0

/-- The IKE_SA_INIT requests of a flood come from different addresses and carry no cookie. -/
def floodInit (k : ℕ) : Datagram :=
  { saInitRequest (k + 1) [] [] (drawing (k % 256 + 1) 9) with
    remote := { ip := [192, 0, 2, UInt8.ofNat k], port := 500 } }

/-- The state after `n` of them. -/
def flooded (n : ℕ) : Server Unit :=
  run (Server.step plainCrypto) floodServer ((List.range n).map floodInit)

/-- With two requests, each with its own SA, and room for many more. -/
theorem half_open_bounded_two :
    Always (Server.step plainCrypto) HalfOpenBounded floodServer [floodInit 0, floodInit 1] ∧
      Along (Server.step plainCrypto) (CookieDemanded plainCrypto) floodServer
        [floodInit 0, floodInit 1] := by
  obtain ⟨-, hbound, hcookie⟩ := half_open_bounded plainCrypto
    { psk := [1], localID := ⟨idFQDN, []⟩ } () none 0 [floodInit 0, floodInit 1]
  refine ⟨hbound (by decide), hcookie fun pre d post he _ _ => ?_⟩
  have hlen := congrArg List.length he
  simp only [List.length_append, List.length_cons, List.length_nil] at hlen
  calc pre.countP Datagram.isSAInit ≤ pre.length := List.countP_le_length
    _ < 32 := by omega

/-- **A flood is not held up.**  With `cookieThreshold` SAs half-open, the next IKE_SA_INIT without
a cookie creates one more. -/
theorem flood_creates : ¬ (Always (Server.step plainCrypto) HalfOpenBounded floodServer
          ((List.range (cookieThreshold + 1)).map floodInit) ∧
        Along (Server.step plainCrypto) (CookieDemanded plainCrypto) floodServer
          ((List.range (cookieThreshold + 1)).map floodInit)) := by
  rintro ⟨-, h⟩
  rw [List.range_succ, List.map_append] at h
  have hsame : ((flooded cookieThreshold).step plainCrypto (floodInit cookieThreshold)).created =
      (flooded cookieThreshold).created :=
    (along_last _ _ _ h (by decide +kernel) (by decide) (by decide)).2
  exact absurd hsame (by decide +kernel)

end Veepin.IKE
