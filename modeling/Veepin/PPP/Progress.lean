import Veepin.PPP.Negotiation

/-!
# The negotiation ends

A link whose frames arrive and whose timers fire: after the last loss and the last duplication, each
of the four openers is acknowledged in turn, and the CHAP exchange goes from frame to frame.

* `Talk.unsettled` — the requests that will be refused and the Naks under way; they die out, because
  a client that has been told its addresses asks for nothing else (`settles_down`);
* `Talk.ends` — both sides are up or closed in the end.
-/

namespace Veepin.PPP

open List

/-! ## What one step keeps -/

def Msg.isBad : Msg → Bool
  | .request _ _ false => true
  | _ => false

namespace Half

variable {x : Side} {auth : Bool} {h h' : Half} {m : Msg} {ms : List Msg}

lemma Settles.reqID (hs : h.Settles x auth h' ms) (p : Proto)
    (hp : p = .lcp ∨ h.phase.Late) : (h'.cp p).reqID = (h.cp p).reqID := by
  cases hs with
  | ipcp k good hphase _ _ _ =>
    rcases hp with rfl | hl
    · rfl
    · simp [hphase, Phase.Late] at hl
  | _ => simp

/-- Only a Nak makes a client that has begun with IPCP send another request. -/
lemma Turn.reqID (ht : h.Turn x auth m h' ms) (p : Proto)
    (hp : p = .lcp ∨ h.phase.Late ∧ m ≠ .response ∧ m ≠ .success ∧ (x = .client → m ≠ .nak)) :
    (h'.cp p).reqID = (h.cp p).reqID := by
  have hset : ∀ {q : Proto} {o : Opener}, o.reqID = (h.cp q).reqID →
      ((h.set q o).cp p).reqID = (h.cp p).reqID := fun {q o} ho => by
    by_cases hpq : p = q
    · subst hpq
      simpa using ho
    · rw [cp_set_of_ne h o hpq]
  cases ht with
  | grant q k _ _ hs | opened q _ _ hs =>
    rw [hs.reqID p (by simpa using hp.imp_right And.left)]
    exact hset rfl
  | nak k hx =>
    rcases hp with rfl | hp
    · rfl
    · exact absurd rfl (hp.2.2.2 hx)
  | verified k _ =>
    rcases hp with rfl | hp
    · rfl
    · exact absurd rfl hp.2.1
  | success k good _ =>
    rcases hp with rfl | hp
    · rfl
    · exact absurd rfl hp.2.2.1
  | refused _ | failure _ => simp
  | _ => rfl

/-- A request that is refused makes one Nak, and nothing else does. -/
lemma Turn.naks (ht : h.Turn .server auth m h' ms) :
    ms.countP (· = .nak) = if m.isBad then 1 else 0 := by
  have hsettles : ∀ {h₀ : Half} {ms : List Msg}, h₀.Settles .server auth h' ms →
      ms.countP (· = .nak) = 0 := by
    intro h₀ ms hs
    cases hs with
    | auth _ _ _ _ hout => subst hout; rfl
    | _ => rfl
  cases ht with
  | grant p k _ _ hs | opened p _ _ hs => simpa [Msg.isBad] using hsettles hs
  | other _ hout =>
    rw [if_neg (by simp [Msg.isBad]), countP_eq_zero]
    intro m hm
    simp [hout m hm]
  | nak _ hx => exact nomatch hx
  | _ => rfl

/-- A client that has begun with IPCP sends no bad request but the one it has. -/
lemma Turn.bads (ht : h.Turn .client auth m h' ms) (hl : h.phase.Late) (hm : m ≠ .success) :
    ms.countP Msg.isBad = 0 := by
  have hsettles : ∀ {h₀ : Half} {ms : List Msg}, h₀.Settles .client auth h' ms → h₀.phase.Late →
      ms.countP Msg.isBad = 0 := by
    intro h₀ ms hs hl
    cases hs with
    | auth _ _ _ _ hout => subst hout; rfl
    | ipcp k good hphase _ _ _ => simp [hphase, Phase.Late] at hl
    | _ => rfl
  cases ht with
  | grant p k _ _ hs => simpa [Msg.isBad] using hsettles hs (by simpa using hl)
  | opened p _ _ hs => simpa using hsettles hs (by simpa using hl)
  | other _ hout =>
    rw [countP_eq_zero]
    intro m hm
    simp [hout m hm, Msg.isBad]
  | success _ _ _ => exact absurd rfl hm
  | _ => rfl

end Half

variable {n : ℕ}

namespace Talk

variable {F : Type*} [DecidableEq F] {kind : Side → F → Msg} {auth : Bool} {t t' : Talk F}
  {e : LinkEvent F} {x : Side} {p : Proto}

lemma Inv.grows (h : t.Inv kind auth) (hs : t.Step kind auth e t') (x : Side) :
    (t.half x).Grows (t'.half x) := by
  have hsame : ∀ {y : Side} {here there : List F}, t.Effect t' y (t.half y) here there →
      (t.half x).Grows (t'.half x) := fun heff =>
    heff.both (P := fun x => (t.half x).Grows (t'.half x)) (by rw [heff.half]; exact .refl _)
      (by rw [heff.half_other]; exact .refl _) x
  cases hs with
  | deliver y f hf _ h' out hturn heff =>
    exact heff.both (P := fun x => (t.half x).Grows (t'.half x))
      (by rw [heff.half]; exact hturn.grows (h.not_late hf hturn))
      (by rw [heff.half_other]; exact .refl _) x
  | runOut y _ _ heff =>
    exact heff.both (P := fun x => (t.half x).Grows (t'.half x))
      (by rw [heff.half]; exact Half.grows_close _) (by rw [heff.half_other]; exact .refl _) x
  | moot _ _ heq => exact heq ▸ .refl _
  | ignore _ _ _ _ heff | lose _ _ _ _ heff | duplicate _ _ _ _ heff | fire _ _ _ _ _ _ heff
  | echo _ _ heff => exact hsame heff

/-- The number of the outstanding request stays. -/
lemma Inv.reqID (h : t.Inv kind auth) (hs : t.Step kind auth e t')
    (hp : p = .lcp ∨ (t.half x).phase.Late ∧
      (x = .client → ∀ f ∈ t.flight .client, kind .client f ≠ .nak)) :
    ((t'.half x).cp p).reqID = ((t.half x).cp p).reqID := by
  have hsame : ∀ {y : Side} {here there : List F}, t.Effect t' y (t.half y) here there →
      ((t'.half x).cp p).reqID = ((t.half x).cp p).reqID := fun heff =>
    heff.both (P := fun x => ((t'.half x).cp p).reqID = ((t.half x).cp p).reqID)
      (by rw [heff.half]) (by rw [heff.half_other]) x
  cases hs with
  | deliver y f hf _ h' out hturn heff =>
    rcases x.eq_or_eq_other y with rfl | rfl
    · rw [heff.half]
      refine hturn.reqID p (hp.imp_right fun ⟨hl, hnak⟩ => ⟨hl, fun hk => ?_, fun hk => ?_, ?_⟩)
      · rw [(h.chap hf hturn).1 hk] at hl
        simp [Phase.Late] at hl
      · exact ((h.chap hf hturn).2.1 hk).1 hl
      · rintro rfl
        exact hnak rfl f hf
    · rw [heff.half_other]
  | runOut y _ _ heff =>
    rcases x.eq_or_eq_other y with rfl | rfl
    · rw [heff.half]
      simp
    · rw [heff.half_other]
  | moot _ _ heq => rw [heq]
  | ignore _ _ _ _ heff | lose _ _ _ _ heff | duplicate _ _ _ _ heff | fire _ _ _ _ _ _ heff
  | echo _ _ heff => exact hsame heff

/-! ## Refused requests die out -/

variable (kind) in
/-- How many Naks there may still be: a request that will be refused counts twice, for itself and
for its Nak. -/
def unsettled (t : Talk F) : ℕ :=
  2 * (t.flight .server).countP (fun f => (kind .server f).isBad) +
    (t.flight .client).countP fun f => kind .client f = .nak

/-- The frames that make the client send another request, now or later. -/
def Unsettling (kind : Side → F → Msg) : Side → F → Prop
  | .client, f => kind .client f = .nak
  | .server, f => (kind .server f).isBad = true

omit [DecidableEq F] in
lemma exists_unsettling (h : 0 < t.unsettled kind) :
    ∃ x, ∃ f ∈ t.flight x, Unsettling kind x f := by
  by_contra hnone
  push Not at hnone
  have hs : (t.flight .server).countP (fun f => (kind .server f).isBad) = 0 :=
    countP_eq_zero.2 fun f hf => hnone .server f hf
  have hc : (t.flight .client).countP (fun f => decide (kind .client f = .nak)) = 0 :=
    countP_eq_zero.2 fun f hf hk =>
      hnone .client f hf (show kind .client f = .nak from of_decide_eq_true hk)
  rw [unsettled, hs, hc] at h
  exact absurd h (by decide)

omit [DecidableEq F] in
lemma no_nak (h : t.unsettled kind = 0) : ∀ f ∈ t.flight .client, kind .client f ≠ .nak := by
  intro f hf hk
  have hc : (t.flight .client).countP (fun f => decide (kind .client f = .nak)) = 0 := by
    rw [unsettled] at h
    omega
  exact countP_eq_zero.1 hc f hf (decide_eq_true hk)

/-- **The step of the count.** -/
lemma Inv.unsettled_step (h : t.Inv kind auth) (hs : t.Step kind auth e t')
    (hl : (t.half .client).phase.Late) (hgood : ((t.half .client).cp .ipcp).good = true)
    (hno : ∀ y f, f ∈ t.flight y → e ≠ .lose y f ∧ e ≠ .duplicate y f)
    (hopen : ∀ y, (t.half y).phase ≠ .closed) :
    t'.unsettled kind ≤ t.unsettled kind ∧ ∀ y f, e = .deliver y f → f ∈ t.flight y →
      Unsettling kind y f → t'.unsettled kind < t.unsettled kind := by
  cases hs with
  | deliver y f hf _ h' out hturn heff =>
    have hcount := fun q : F → Bool => (perm_cons_erase hf).countP_eq q
    simp only [countP_cons] at hcount
    cases y with
    | client =>
      have hout : (out.countP fun g => (kind .server g).isBad) = 0 := by
        rw [← hturn.bads hl fun hk => ((h.chap hf hturn).2.1 hk).1 hl, countP_map]
        rfl
      have hserver : (t'.flight .server).countP (fun g => (kind .server g).isBad) =
          (t.flight .server).countP fun g => (kind .server g).isBad := by
        rw [show t'.flight .server = t.flight .server ++ out from heff.flight_other,
          countP_append, hout, Nat.add_zero]
      have hclient := hcount fun g => decide (kind .client g = .nak)
      rw [← heff.flight] at hclient
      refine ⟨?_, ?_⟩
      · rw [unsettled, unsettled, hserver, hclient]
        omega
      · rintro y g he - hun
        cases he
        have hnak : kind .client f = .nak := hun
        rw [unsettled, unsettled, hserver, hclient, if_pos (decide_eq_true hnak)]
        omega
    | server =>
      have hout : (out.countP fun g => decide (kind .client g = .nak)) =
          if (kind .server f).isBad then 1 else 0 := by
        rw [← hturn.naks, countP_map]
        rfl
      have hclient : (t'.flight .client).countP (fun g => decide (kind .client g = .nak)) =
          (t.flight .client).countP (fun g => decide (kind .client g = .nak)) +
            if (kind .server f).isBad then 1 else 0 := by
        rw [show t'.flight .client = t.flight .client ++ out from heff.flight_other,
          countP_append, hout]
      have hserver := hcount fun g => (kind .server g).isBad
      rw [← heff.flight] at hserver
      refine ⟨?_, ?_⟩
      · rw [unsettled, unsettled, hserver, hclient]
        omega
      · rintro y g he - hun
        cases he
        have hbad : (kind .server f).isBad = true := hun
        rw [unsettled, unsettled, hserver, hclient, if_pos hbad]
        omega
  | ignore y f _ hclosed _ => exact absurd hclosed (hopen y)
  | lose y f hf _ _ => exact absurd rfl (hno y f hf).1
  | duplicate y f hf _ _ => exact absurd rfl (hno y f hf).2
  | fire y p _ f _ hkind heff =>
    refine ⟨le_of_eq ?_, nofun⟩
    cases y with
    | client =>
      have hg : ((t.half .client).cp p).good = true := by
        cases p with
        | lcp => exact (h.sound .client).good .lcp (.inl rfl)
        | ipcp => exact hgood
      rw [hg] at hkind
      rw [unsettled, unsettled, heff.flight,
        show t'.flight .server = t.flight .server ++ [f] from heff.flight_other]
      simp [countP_append, show kind .server f = _ from hkind, Msg.isBad]
    | server =>
      rw [unsettled, unsettled, heff.flight,
        show t'.flight .client = t.flight .client ++ [f] from heff.flight_other]
      simp [countP_append, show kind .client f = _ from hkind]
  | runOut y _ _ heff =>
    refine ⟨le_of_eq ?_, nofun⟩
    have hflight : ∀ y, t'.flight y = t.flight y := heff.both heff.flight heff.flight_other
    rw [unsettled, unsettled, hflight, hflight]
  | echo f hkind heff =>
    refine ⟨le_of_eq ?_, nofun⟩
    rw [unsettled, unsettled, heff.flight,
      show t'.flight .server = t.flight .server ++ [f] from heff.flight_other]
    simp [countP_append, hkind, Msg.isBad]
  | moot _ he heq =>
    refine ⟨le_of_eq (by rw [heq]), fun y f hd hf _ => ?_⟩
    subst hd
    exact absurd hf he

/-! ## Runs without end -/

/-- What the carrier and the clock do: a frame that is under way is delivered or lost, an armed
timer fires if it is not stopped, and the last loss and the last duplication come some time. -/
structure Fairly (R : ℕ → Talk F) (ev : ℕ → LinkEvent F) : Prop where
  arrives : ∀ n x f, f ∈ (R n).flight x →
    ∃ m, n ≤ m ∧ f ∈ (R m).flight x ∧ (ev m = .deliver x f ∨ ev m = .lose x f)
  fires : ∀ n x p, (((R n).half x).cp p).armed = true →
    ∃ m, n ≤ m ∧ ((((R m).half x).cp p).armed = false ∨ ev m = .timer x p)
  settles : ∃ N, ∀ n, N ≤ n → ∀ x f, f ∈ (R n).flight x →
    ev n ≠ .lose x f ∧ ev n ≠ .duplicate x f

/-- A message is under way. -/
def Under (kind : Side → F → Msg) (t : Talk F) (x : Side) (m : Msg) : Prop :=
  ∃ f ∈ t.flight x, kind x f = m

section Live

variable {R : ℕ → Talk F} {ev : ℕ → LinkEvent F} (hinv : (R 0).Inv kind auth)
  (hstep : ∀ n, (R n).Step kind auth (ev n) (R (n + 1)))

include hinv hstep

lemma inv_at (n : ℕ) : (R n).Inv kind auth := by
  induction n with
  | zero => exact hinv
  | succ n ih => exact ih.step (hstep n)

lemma grows_at {m : ℕ} (hnm : n ≤ m) (x : Side) : ((R n).half x).Grows ((R m).half x) := by
  induction m, hnm using Nat.le_induction with
  | base => exact .refl _
  | succ m _ ih => exact ih.trans ((inv_at hinv hstep m).grows (hstep m) x)

variable (hfair : Fairly R ev) (hopen : ∀ n y, ((R n).half y).phase ≠ .closed) {N : ℕ}
  (hN : ∀ n, N ≤ n → ∀ x f, f ∈ (R n).flight x → ev n ≠ .lose x f ∧ ev n ≠ .duplicate x f)

include hfair hopen

omit hinv in
lemma fires (harmed : ∀ k, n ≤ k → (((R k).half x).cp p).armed = true) :
    ∃ k, n ≤ k ∧ (R (k + 1)).Under kind x.other
      (.request p (((R k).half x).cp p).reqID (((R k).half x).cp p).good) := by
  obtain ⟨k, hk, hoff | he⟩ := hfair.fires n x p (harmed n le_rfl)
  · exact nomatch hoff.symm.trans (harmed k hk)
  have hs := hstep k
  rw [he] at hs
  cases hs with
  | fire _ _ _ f _ hkind heff =>
    refine ⟨k, hk, f, ?_, hkind⟩
    rw [heff.flight_other]
    exact mem_append_right _ mem_cons_self
  | runOut _ _ _ heff => exact absurd (congrArg Half.phase heff.half) (hopen (k + 1) x)
  | moot _ hmoot _ =>
    rcases hmoot with hc | hoff
    · exact absurd hc (hopen k x)
    · exact nomatch hoff.symm.trans (harmed k hk)

include hN

section

variable (hn : N ≤ n)

include hn

omit hinv in
lemma arrives {m : Msg} (hm : (R n).Under kind x m) :
    ∃ k, n ≤ k ∧ ∃ ms, ((R k).half x).Turn x auth m ((R (k + 1)).half x) ms ∧
      ∀ m' ∈ ms, (R (k + 1)).Under kind x.other m' := by
  obtain ⟨f, hf, rfl⟩ := hm
  obtain ⟨k, hk, hfk, he⟩ := hfair.arrives n x f hf
  have he : ev k = .deliver x f := he.resolve_right (hN k (hn.trans hk) x f hfk).1
  have hs := hstep k
  rw [he] at hs
  cases hs with
  | deliver _ _ _ _ h' out hturn heff =>
    refine ⟨k, hk, out.map (kind x.other), heff.half ▸ hturn, fun m' hm' => ?_⟩
    obtain ⟨g, hg, rfl⟩ := mem_map.1 hm'
    exact ⟨g, by rw [heff.flight_other]; exact mem_append_right _ hg, rfl⟩
  | ignore _ _ _ hclosed _ => exact absurd hclosed (hopen k x)
  | moot _ hmoot _ => exact absurd hfk hmoot

/-- An opener whose request is good and stays the same. -/
lemma opens_of_steady (hact : ∀ k, n ≤ k → ((R k).half x).phase.Active p)
    (hgood : ∀ k, n ≤ k → (((R k).half x).cp p).good = true)
    (hid : ∀ k, n ≤ k → (((R k).half x).cp p).reqID = (((R n).half x).cp p).reqID) :
    ∃ m, n ≤ m ∧ (((R m).half x).cp p).localOpen = true := by
  by_contra hnever
  push Not at hnever
  have harmed : ∀ k, n ≤ k → (((R k).half x).cp p).armed = true := fun k hk =>
    ((inv_at hinv hstep k).sound x).timer p (hact k hk) (by simpa using hnever k hk)
  obtain ⟨k, hk, hreq⟩ := fires hstep hfair hopen harmed
  rw [hgood k hk, hid k hk] at hreq
  obtain ⟨l, hl, ms, hturn, hms⟩ :=
    arrives hstep hfair hopen hN (hn.trans (hk.trans k.le_succ)) hreq
  have hack : (R (l + 1)).Under kind x (.ack p (((R n).half x).cp p).reqID) := by
    have := hms (.ack p (((R n).half x).cp p).reqID) (by cases hturn; exact mem_cons_self)
    rwa [Side.other_other] at this
  have hnl : n ≤ l + 1 := (hk.trans (k.le_succ.trans hl)).trans l.le_succ
  obtain ⟨m, hm, ms', hturn', -⟩ := arrives hstep hfair hopen hN (hn.trans hnl) hack
  have hnm : n ≤ m := hnl.trans hm
  refine hnever (m + 1) (hnm.trans m.le_succ) ?_
  rw [← hid m hnm] at hturn'
  generalize hreqID : (((R m).half x).cp p).reqID = i at hturn'
  generalize (R (m + 1)).half x = h' at hturn'
  cases hturn' with
  | opened _ _ _ hs => exact hs.grows.opened p (by simp [Opener.opened])
  | stale _ _ hne => exact absurd hreqID.symm hne

/-- **The client's addresses.**  Some time its request is one that is acknowledged. -/
lemma becomes_good (hl : ((R n).half .client).phase.Late)
    (hnever : ∀ k, (((R k).half .client).cp .ipcp).localOpen ≠ true) :
    ∃ m, n ≤ m ∧ (((R m).half .client).cp .ipcp).good = true := by
  have hlate : ∀ k, n ≤ k → ((R k).half .client).phase.Late := fun k hk =>
    (grows_at hinv hstep hk .client).late hl
  have harmed : ∀ k, n ≤ k → (((R k).half .client).cp .ipcp).armed = true := fun k hk =>
    ((inv_at hinv hstep k).sound .client).timer .ipcp ((hlate k hk).active (hopen k .client))
      (by simpa using hnever k)
  obtain ⟨k, hk, hreq⟩ := fires hstep hfair hopen harmed
  by_cases hgood : (((R k).half .client).cp .ipcp).good = true
  · exact ⟨k, hk, hgood⟩
  rw [Bool.not_eq_true] at hgood
  rw [hgood] at hreq
  obtain ⟨l, hl, ms, hturn, hms⟩ :=
    arrives hstep hfair hopen hN (hn.trans (hk.trans k.le_succ)) hreq
  have hnak : (R (l + 1)).Under kind .client .nak :=
    hms .nak (by
      generalize (R (l + 1)).half (Side.other .client) = h' at hturn
      cases hturn
      exact mem_cons_self)
  have hnl : n ≤ l + 1 := (hk.trans (k.le_succ.trans hl)).trans l.le_succ
  obtain ⟨m, hm, ms', hturn', -⟩ := arrives hstep hfair hopen hN (hn.trans hnl) hnak
  refine ⟨m + 1, (hnl.trans hm).trans m.le_succ, ?_⟩
  generalize (R (m + 1)).half .client = h' at hturn'
  cases hturn' with
  | nak _ _ => rfl

/-- **Refused requests die out.**  By induction on how many Naks there may still be. -/
lemma settles_down (hl : ((R n).half .client).phase.Late)
    (hgood : (((R n).half .client).cp .ipcp).good = true) :
    ∃ m, n ≤ m ∧ ∀ k, m ≤ k → (R k).unsettled kind = 0 := by
  have hstay : ∀ k, n ≤ k → ((R k).half .client).phase.Late ∧
      (((R k).half .client).cp .ipcp).good = true := fun k hk =>
    ⟨(grows_at hinv hstep hk .client).late hl, (grows_at hinv hstep hk .client).good .ipcp hl hgood⟩
  have hone := fun k (hk : n ≤ k) => (inv_at hinv hstep k).unsettled_step (hstep k) (hstay k hk).1
    (hstay k hk).2 (hN k (hn.trans hk)) (hopen k)
  have hmono : ∀ {k m : ℕ}, n ≤ k → k ≤ m → (R m).unsettled kind ≤ (R k).unsettled kind := by
    intro k m hk hkm
    induction m, hkm using Nat.le_induction with
    | base => exact le_rfl
    | succ m hm ih => exact (hone m (hk.trans hm)).1.trans ih
  have hleads : Leads (fun k => n ≤ k) fun k => n ≤ k ∧ (R k).unsettled kind = 0 := by
    refine Leads.rank (fun k => (R k).unsettled kind) fun r k hk => ?_
    obtain ⟨hk, hr⟩ := hk
    rcases Nat.eq_zero_or_pos ((R k).unsettled kind) with h0 | hpos
    · exact ⟨k, le_rfl, .inl ⟨hk, h0⟩⟩
    obtain ⟨x, f, hf, hun⟩ := exists_unsettling hpos
    obtain ⟨m, hm, hfm, he⟩ := hfair.arrives k x f hf
    have he : ev m = .deliver x f := he.resolve_right (hN m (hn.trans (hk.trans hm)) x f hfm).1
    refine ⟨m + 1, hm.trans m.le_succ, .inr ⟨(hk.trans hm).trans m.le_succ, ?_⟩⟩
    calc (R (m + 1)).unsettled kind < (R m).unsettled kind :=
          (hone m (hk.trans hm)).2 x f he hfm hun
      _ ≤ (R k).unsettled kind := hmono hk hm
      _ = r := hr
  obtain ⟨m, hm, hnm, hzero⟩ := hleads n le_rfl
  exact ⟨m, hm, fun k hk => Nat.le_zero.1 ((hmono hnm hk).trans hzero.le)⟩

/-- **An opener that is started is acknowledged.** -/
lemma opens (hp : p = .lcp ∨ ((R n).half x).phase.Late) :
    ∃ m, n ≤ m ∧ (((R m).half x).cp p).localOpen = true := by
  have hact : ∀ k, n ≤ k → ((R k).half x).phase.Active p := fun k hk => by
    rcases hp with rfl | hl
    · exact hopen k x
    · have := ((grows_at hinv hstep hk x).late hl).active (hopen k x)
      cases p with
      | lcp => exact hopen k x
      | ipcp => exact this
  have hlate : ∀ k, n ≤ k → p = .lcp ∨ ((R k).half x).phase.Late := fun k hk =>
    hp.imp_right fun hl => (grows_at hinv hstep hk x).late hl
  by_cases hclient : p = .ipcp ∧ x = .client
  · obtain ⟨rfl, rfl⟩ := hclient
    have hl := hp.resolve_left nofun
    by_contra hnever
    push Not at hnever
    have hnever' : ∀ k, (((R k).half .client).cp .ipcp).localOpen ≠ true := fun k hk =>
      hnever (max n k) (le_max_left _ _)
        ((grows_at hinv hstep (le_max_right n k) .client).opened .ipcp hk)
    obtain ⟨m, hm, hgood⟩ := becomes_good hinv hstep hfair hopen hN hn hl hnever'
    have hlm := (hlate m hm).resolve_left nofun
    obtain ⟨l, hml, hzero⟩ := settles_down hinv hstep hfair hopen hN (hn.trans hm) hlm hgood
    have hid : ∀ k, l ≤ k →
        (((R k).half .client).cp .ipcp).reqID = (((R l).half .client).cp .ipcp).reqID := by
      intro k hk
      induction k, hk using Nat.le_induction with
      | base => rfl
      | succ k hk ih =>
        refine ((inv_at hinv hstep k).reqID (hstep k) (.inr ⟨?_, fun _ => ?_⟩)).trans ih
        · exact (hlate k (hm.trans (hml.trans hk))).resolve_left nofun
        · exact no_nak (hzero k hk)
    obtain ⟨k, hk, hopened⟩ := opens_of_steady hinv hstep hfair hopen hN
      (hn.trans (hm.trans hml)) (fun k hk => hact k (hm.trans (hml.trans hk)))
      (fun k hk => (grows_at hinv hstep (hml.trans hk) .client).good .ipcp hlm hgood) hid
    exact hnever' k hopened
  · have hgood : p = .lcp ∨ x = .server := by
      cases p <;> cases x <;> simp_all
    refine opens_of_steady hinv hstep hfair hopen hN hn hact
      (fun k _ => ((inv_at hinv hstep k).sound x).good p hgood) fun k hk => ?_
    induction k, hk using Nat.le_induction with
    | base => rfl
    | succ k hk ih =>
      refine ((inv_at hinv hstep k).reqID (hstep k) ?_).trans ih
      rcases hgood with hlcp | hx
      · exact .inl hlcp
      · exact (hlate k hk).imp_right fun hl => ⟨hl, fun hc => nomatch hc.symm.trans hx⟩

/-- Both directions, at both sides. -/
lemma opens_both (hp : ∀ y, p = .lcp ∨ ((R n).half y).phase.Late) :
    ∃ m, n ≤ m ∧ ∀ y, ((R m).half y).Both p := by
  obtain ⟨k, hk, hclient⟩ := opens hinv hstep hfair hopen hN hn (hp .client)
  obtain ⟨l, hl, hserver⟩ := opens hinv hstep hfair hopen hN hn (hp .server)
  have hlocal : ∀ y, (((R (max k l)).half y).cp p).localOpen = true := fun y => by
    cases y with
    | client => exact (grows_at hinv hstep (le_max_left k l) .client).opened p hclient
    | server => exact (grows_at hinv hstep (le_max_right k l) .server).opened p hserver
  refine ⟨max k l, hk.trans (le_max_left k l), fun y => ⟨hlocal y, ?_⟩⟩
  have := (inv_at hinv hstep (max k l)).opened y.other p (hlocal _)
  rwa [Side.other_other] at this

/-- **The CHAP exchange**, from frame to frame. -/
lemma authenticates (hboth : ∀ y, ((R n).half y).Both .lcp) :
    ∃ m, n ≤ m ∧ ∀ y, ((R m).half y).phase.Late := by
  have h := inv_at hinv hstep n
  have hlcp : ∀ y, ((R n).half y).phase ≠ .lcp := fun y hph => (h.sound y).lcp hph (hboth y)
  have hsuccess : ∀ k, n ≤ k → (R k).Under kind .client .success →
      ((R k).half .server).phase.Late → ∃ m, n ≤ m ∧ ∀ y, ((R m).half y).phase.Late := by
    intro k hk hunder hserver
    obtain ⟨l, hl, ms, hturn, -⟩ := arrives hstep hfair hopen hN (hn.trans hk) hunder
    have hclient : ((R (l + 1)).half .client).phase = .ipcp := by
      generalize (R (l + 1)).half .client = h' at hturn
      cases hturn
      rfl
    refine ⟨l + 1, (hk.trans hl).trans l.le_succ, fun y => ?_⟩
    cases y with
    | client => exact .inl hclient
    | server => exact (grows_at hinv hstep (hl.trans l.le_succ) .server).late hserver
  have hresponse : ∀ k, n ≤ k → (R k).Under kind .server .response →
      ∃ m, n ≤ m ∧ ∀ y, ((R m).half y).phase.Late := by
    intro k hk hunder
    obtain ⟨l, hl, ms, hturn, hms⟩ := arrives hstep hfair hopen hN (hn.trans hk) hunder
    have hphase : ((R (l + 1)).half .server).phase = .ipcp ∧ Msg.success ∈ ms := by
      have hnot := hopen (l + 1) .server
      generalize (R (l + 1)).half .server = h' at hturn hnot
      cases hturn with
      | verified k _ => exact ⟨rfl, mem_cons_self⟩
      | refused _ => exact absurd rfl hnot
    exact hsuccess (l + 1) ((hk.trans hl).trans l.le_succ) (hms _ hphase.2) (.inl hphase.1)
  have hchallenge : (R n).Under kind .client .challenge →
      ∃ m, n ≤ m ∧ ∀ y, ((R m).half y).phase.Late := by
    intro hunder
    obtain ⟨l, hl, ms, hturn, hms⟩ := arrives hstep hfair hopen hN hn hunder
    refine hresponse (l + 1) (hl.trans l.le_succ) (hms _ ?_)
    generalize (R (l + 1)).half .client = h' at hturn
    cases hturn
    exact mem_cons_self
  have hunder : ∀ {y : Side} {f : F} {m : Msg}, (R n).chaps kind y = [f] → kind y f = m →
      (R n).Under kind y m := fun {y f m} hc hm =>
    ⟨f, (mem_chaps.1 (hc ▸ mem_cons_self : f ∈ (R n).chaps kind y)).1, hm⟩
  cases h.token with
  | free hauth _ _ =>
    exact ⟨n, le_rfl, fun y => h.late_of_free hauth (hlcp y) (hopen n y)⟩
  | before _ hps _ _ _ => exact absurd hps (hlcp .server)
  | challenged _ _ _ f hf hc _ => exact hchallenge (hunder hc hf)
  | answered _ _ _ f hf _ hs => exact hresponse n le_rfl (hunder hs hf)
  | accepted _ hps _ f hf hc _ =>
    exact hsuccess n le_rfl (hunder hc hf) (hps.imp_right .inl)
  | refused _ hps _ _ _ _ _ => exact absurd hps (hopen n .server)
  | after _ hps hpc _ _ =>
    refine ⟨n, le_rfl, fun y => ?_⟩
    cases y with
    | client => exact hpc
    | server => exact hps

end

/-- If neither side is closed, both come up. -/
lemma comes_up : ∃ n, ∀ y, ((R n).half y).phase.Done := by
  obtain ⟨n₁, h₁, hlcp⟩ := opens_both hinv hstep hfair hopen hN le_rfl (p := .lcp) fun _ => .inl rfl
  obtain ⟨n₂, h₂, hlate⟩ := authenticates hinv hstep hfair hopen hN h₁ hlcp
  obtain ⟨n₃, h₃, hipcp⟩ := opens_both hinv hstep hfair hopen hN (h₁.trans h₂) (p := .ipcp)
    fun y => .inr (hlate y)
  refine ⟨n₃, fun y => ?_⟩
  rcases (grows_at hinv hstep h₃ y).late (hlate y) with hph | hdone
  · exact absurd (hipcp y) (((inv_at hinv hstep n₃).sound y).ipcp hph)
  · exact hdone

omit hopen hN in
/-- If a side is closed, the other one is done, or hears of it. -/
lemma closed_done {y : Side} (hc : ((R n).half y).phase = .closed) :
    ∃ m, ∀ z, ((R m).half z).phase.Done := by
  have hclient : ∀ k, ((R k).half .client).phase = .closed → ∀ z, ((R k).half z).phase.Done := by
    intro k hk z
    cases z with
    | client => exact .inr hk
    | server => exact (inv_at hinv hstep k).clientClosed hk
  cases y with
  | client => exact ⟨n, hclient n hc⟩
  | server =>
    rcases (inv_at hinv hstep n).serverClosed hc with hd | ⟨f, hf, hk⟩
    · refine ⟨n, fun z => ?_⟩
      cases z with
      | client => exact hd
      | server => exact .inr hc
    obtain ⟨m, hm, hfm, he⟩ := hfair.arrives n .client f hf
    have hs := hstep m
    rcases he with he | he
    · rw [he] at hs
      cases hs with
      | deliver _ _ _ _ h' out hturn heff =>
        refine ⟨m + 1, hclient (m + 1) ?_⟩
        rw [heff.half]
        rw [hk] at hturn
        generalize out.map (kind Side.client.other) = ms at hturn
        cases hturn
        rfl
      | ignore _ _ _ hclosed _ => exact ⟨m, hclient m hclosed⟩
      | moot _ hmoot _ => exact absurd hfm hmoot
    · rw [he] at hs
      cases hs with
      | lose _ _ _ hchap _ => exact nomatch hk ▸ hchap
      | moot _ hmoot _ => exact absurd hfm hmoot

omit hopen hN in
/-- **The end.** -/
theorem ends : ∃ n, ∀ m, n ≤ m → ∀ y, ((R m).half y).phase.Done := by
  suffices h : ∃ n, ∀ y, ((R n).half y).phase.Done by
    obtain ⟨n, hn⟩ := h
    exact ⟨n, fun m hm y => (grows_at hinv hstep hm y).done (hn y)⟩
  obtain ⟨N, hN⟩ := hfair.settles
  by_cases hclosed : ∃ n y, ((R n).half y).phase = .closed
  · obtain ⟨n, y, hc⟩ := hclosed
    exact closed_done hinv hstep hfair hc
  · push Not at hclosed
    exact comes_up hinv hstep hfair hclosed hN

end Live

end Talk

end Veepin.PPP
