import Veepin.Core.LeadsTo
import Veepin.PPP.Server

/-!
# The negotiation of a PPP link

What the two sessions of a link do to each other, without the octets.  Each side has two openers,
one for LCP and one for IPCP: a request of its own that the other side is to acknowledge, with the
Restart timer that repeats it, and the request of the other side that it has acknowledged.  Between
the two protocols stands the MS-CHAPv2 exchange, whose frames no timer repeats.

* `Talk.Step` — what happens to the two sides and the frames between them, provided that no CHAP
  frame is lost or duplicated, and that no side gives up while the other one is still at it;
* `Talk.Inv` — the invariant: an acknowledgement is given by a side that has opened, a side that has
  no acknowledgement has an armed timer, and there is one CHAP frame at a time;
* `Talk.Inv.armed` — a link that waits with nothing under way has an armed timer.
-/

namespace Veepin.PPP

open List

/-! ## Sides, messages and openers -/

inductive Side
  | client
  | server
  deriving DecidableEq, Repr

def Side.other : Side → Side
  | .client => .server
  | .server => .client

@[simp] lemma Side.other_other (x : Side) : x.other.other = x := by cases x <;> rfl

lemma Side.eq_or_eq_other (x y : Side) : x = y ∨ x = y.other := by
  cases x <;> cases y <;> simp [other]

/-- The protocols whose options are negotiated. -/
inductive Proto
  | lcp
  | ipcp
  deriving DecidableEq, Repr

/-- What a frame says.  A request is good if the other side has nothing against its options. -/
inductive Msg
  | request (p : Proto) (id : UInt8) (good : Bool)
  | ack (p : Proto) (id : UInt8)
  | nak
  | challenge
  | response
  | success
  | failure
  | other
  deriving DecidableEq, Repr

def Msg.isCHAP : Msg → Bool
  | .challenge | .response | .success | .failure => true
  | _ => false

/-- One protocol at one side: the request that is outstanding, whether each direction is open, and
whether the Restart timer is armed. -/
structure Opener where
  reqID : UInt8
  good : Bool
  localOpen : Bool
  remoteOpen : Bool
  armed : Bool

/-- The request has been acknowledged. -/
def Opener.opened (o : Opener) : Opener := { o with localOpen := true, armed := false }

/-- The request of the other side has been acknowledged. -/
def Opener.granted (o : Opener) : Opener := { o with remoteOpen := true }

/-- A new request is sent. -/
def Opener.asking (o : Opener) (id : UInt8) (good : Bool) : Opener :=
  { o with reqID := id, good, armed := true }

/-- Nothing is left to be done. -/
def Phase.Done (ph : Phase) : Prop := ph = .up ∨ ph = .closed

/-- Past the authentication. -/
def Phase.Late (ph : Phase) : Prop := ph = .ipcp ∨ ph = .up ∨ ph = .closed

/-- The protocol has been started and is not stopped. -/
def Phase.Active (ph : Phase) : Proto → Prop
  | .lcp => ph ≠ .closed
  | .ipcp => ph = .ipcp ∨ ph = .up

instance (ph : Phase) : Decidable ph.Done := inferInstanceAs (Decidable (_ ∨ _))
instance (ph : Phase) : Decidable ph.Late := inferInstanceAs (Decidable (_ ∨ _))

lemma Phase.Done.late {ph : Phase} (h : ph.Done) : ph.Late := .inr h

lemma Phase.Late.active {ph : Phase} (h : ph.Late) (hopen : ph ≠ .closed) : ph.Active .ipcp := by
  rcases h with h | h | h
  · exact .inl h
  · exact .inr h
  · exact absurd h hopen

/-- One side of the link. -/
structure Half where
  phase : Phase
  lcp : Opener
  ipcp : Opener

namespace Half

def cp (h : Half) : Proto → Opener
  | .lcp => h.lcp
  | .ipcp => h.ipcp

def set (h : Half) : Proto → Opener → Half
  | .lcp, o => { h with lcp := o }
  | .ipcp, o => { h with ipcp := o }

def enter (h : Half) (ph : Phase) : Half := { h with phase := ph }

/-- IPCP begins with a request. -/
def start (h : Half) (id : UInt8) (good : Bool) : Half :=
  (h.set .ipcp ((h.cp .ipcp).asking id good)).enter .ipcp

/-- `failLocked`. -/
def close (h : Half) : Half :=
  ⟨.closed, { h.lcp with armed := false }, { h.ipcp with armed := false }⟩

def Both (h : Half) (p : Proto) : Prop := (h.cp p).localOpen = true ∧ (h.cp p).remoteOpen = true

section Fields

variable (h : Half) (p q : Proto) (o : Opener) (ph : Phase)

@[simp] lemma cp_set_self : (h.set p o).cp p = o := by cases p <;> rfl

lemma cp_set_of_ne {p q : Proto} (hpq : q ≠ p) : (h.set p o).cp q = h.cp q := by
  cases p <;> cases q <;> first | rfl | exact absurd rfl hpq

@[simp] lemma phase_set : (h.set p o).phase = h.phase := by cases p <;> rfl

@[simp] lemma cp_enter : (h.enter ph).cp p = h.cp p := by cases p <;> rfl

@[simp] lemma phase_enter : (h.enter ph).phase = ph := rfl

@[simp] lemma phase_start (id : UInt8) (good : Bool) : (h.start id good).phase = .ipcp := rfl

@[simp] lemma cp_start_lcp (id : UInt8) (good : Bool) : (h.start id good).cp .lcp = h.cp .lcp := rfl

@[simp] lemma cp_start_ipcp (id : UInt8) (good : Bool) :
    (h.start id good).cp .ipcp = (h.cp .ipcp).asking id good := rfl

@[simp] lemma phase_close : h.close.phase = .closed := rfl

@[simp] lemma cp_close : h.close.cp p = { h.cp p with armed := false } := by cases p <;> rfl

end Fields

/-! ## What one side does -/

/-- `maybeLCPUp` and `maybeIPCPUp`: the side afterwards, and what it sends. -/
inductive Settles (x : Side) (auth : Bool) (h : Half) : Half → List Msg → Prop
  | stay (hlcp : h.phase = .lcp → ¬ h.Both .lcp) (hipcp : h.phase = .ipcp → ¬ h.Both .ipcp) :
      Settles x auth h h []
  | auth (hphase : h.phase = .lcp) (hboth : h.Both .lcp) (hauth : auth = true) (out : List Msg)
      (hout : out = match x with | .client => [] | .server => [.challenge]) :
      Settles x auth h (h.enter .auth) out
  | ipcp (id : UInt8) (good : Bool) (hphase : h.phase = .lcp) (hboth : h.Both .lcp)
      (hauth : auth = false) (hgood : x = .server → good = true) :
      Settles x auth h (h.start id good) [.request .ipcp id good]
  | up (hphase : h.phase = .ipcp) (hboth : h.Both .ipcp) : Settles x auth h (h.enter .up) []

/-- What a side that is not closed does with a message. -/
inductive Turn (x : Side) (auth : Bool) (h : Half) : Msg → Half → List Msg → Prop
  | grant (p : Proto) (id : UInt8) (h' : Half) (out : List Msg)
      (hs : (h.set p (h.cp p).granted).Settles x auth h' out) :
      Turn x auth h (.request p id true) h' (.ack p id :: out)
  | refuse (id : UInt8) (hx : x = .server) : Turn x auth h (.request .ipcp id false) h [.nak]
  | opened (p : Proto) (h' : Half) (out : List Msg)
      (hs : (h.set p (h.cp p).opened).Settles x auth h' out) :
      Turn x auth h (.ack p (h.cp p).reqID) h' out
  | stale (p : Proto) (id : UInt8) (hid : id ≠ (h.cp p).reqID) : Turn x auth h (.ack p id) h []
  | nak (id : UInt8) (hx : x = .client) :
      Turn x auth h .nak (h.set .ipcp ((h.cp .ipcp).asking id true)) [.request .ipcp id true]
  | challenge (hx : x = .client) : Turn x auth h .challenge h [.response]
  | verified (id : UInt8) (hx : x = .server) :
      Turn x auth h .response (h.start id true) [.success, .request .ipcp id true]
  | refused (hx : x = .server) : Turn x auth h .response h.close [.failure]
  | success (id : UInt8) (good : Bool) (hx : x = .client) :
      Turn x auth h .success (h.start id good) [.request .ipcp id good]
  | failure (hx : x = .client) : Turn x auth h .failure h.close []
  | other (out : List Msg) (hout : ∀ m ∈ out, m = .other) : Turn x auth h .other h out

/-! ### What is never taken back -/

/-- Open directions stay open, and the phase does not go back. -/
structure Grows (h h' : Half) : Prop where
  remote : ∀ p, (h.cp p).remoteOpen = true → (h'.cp p).remoteOpen = true
  opened : ∀ p, (h.cp p).localOpen = true → (h'.cp p).localOpen = true
  late : h.phase.Late → h'.phase.Late
  done : h.phase.Done → h'.phase.Done
  good : ∀ p, h.phase.Late → (h.cp p).good = true → (h'.cp p).good = true

variable {x : Side} {auth : Bool} {h h' h'' : Half} {m : Msg} {out : List Msg}

lemma Grows.refl (h : Half) : Grows h h :=
  ⟨fun _ => id, fun _ => id, id, id, fun _ _ => id⟩

lemma Grows.trans (hg : Grows h h') (hg' : Grows h' h'') : Grows h h'' :=
  ⟨fun p => hg'.remote p ∘ hg.remote p, fun p => hg'.opened p ∘ hg.opened p, hg'.late ∘ hg.late,
    hg'.done ∘ hg.done, fun p hl => hg'.good p (hg.late hl) ∘ hg.good p hl⟩

lemma grows_set (p : Proto) {o : Opener} (hr : (h.cp p).remoteOpen = true → o.remoteOpen = true)
    (hl : (h.cp p).localOpen = true → o.localOpen = true)
    (hg : (h.cp p).good = true → o.good = true) : Grows h (h.set p o) := by
  have hcp : ∀ q, q = p ∨ (h.set p o).cp q = h.cp q := fun q =>
    (em (q = p)).imp_right fun hq => cp_set_of_ne h o hq
  refine ⟨fun q => ?_, fun q => ?_, by simp, by simp, fun q _ => ?_⟩ <;>
    rcases hcp q with rfl | hq
  · simpa using hr
  · rw [hq]; exact id
  · simpa using hl
  · rw [hq]; exact id
  · simpa using hg
  · rw [hq]; exact id

lemma grows_enter {ph : Phase} (hl : h.phase.Late → ph.Late) (hd : h.phase.Done → ph.Done) :
    Grows h (h.enter ph) :=
  ⟨fun p => by simp, fun p => by simp, hl, hd, fun p _ => by simp⟩

lemma grows_start (id : UInt8) (good : Bool) (hl : ¬ h.phase.Late) : Grows h (h.start id good) := by
  refine ⟨fun p => ?_, fun p => ?_, fun _ => .inl rfl, fun hd => absurd hd.late hl,
    fun _ hlate => absurd hlate hl⟩ <;> cases p <;> simp [Opener.asking]

lemma grows_close (h : Half) : Grows h h.close :=
  ⟨fun p => by simp, fun p => by simp, fun _ => .inr (.inr rfl), fun _ => .inr rfl,
    fun p _ => by simp⟩

lemma Settles.grows (hs : h.Settles x auth h' out) : Grows h h' := by
  cases hs with
  | stay _ _ => exact .refl h
  | auth hphase _ _ _ =>
    exact grows_enter (by simp [hphase, Phase.Late]) (by simp [hphase, Phase.Done])
  | ipcp id good hphase _ _ _ => exact grows_start id good (by simp [hphase, Phase.Late])
  | up hphase _ => exact grows_enter (fun _ => .inr (.inl rfl)) fun _ => .inl rfl

lemma Turn.grows (ht : h.Turn x auth m h' out)
    (hm : m = .response ∨ m = .success → ¬ h.phase.Late) : Grows h h' := by
  cases ht with
  | grant p id _ _ hs =>
    exact (grows_set p (by simp [Opener.granted]) (by simp [Opener.granted])
      (by simp [Opener.granted])).trans hs.grows
  | opened p _ _ hs =>
    exact (grows_set p (by simp [Opener.opened]) (by simp [Opener.opened])
      (by simp [Opener.opened])).trans hs.grows
  | nak id _ =>
    exact grows_set .ipcp (by simp [Opener.asking]) (by simp [Opener.asking]) fun _ => rfl
  | verified id _ => exact grows_start id true (hm (.inl rfl))
  | success id good _ => exact grows_start id good (hm (.inr rfl))
  | refused _ | failure _ => exact grows_close h
  | _ => exact .refl h

/-! ### The invariant of one side -/

/-- What holds of a side at any time, also before `maybeLCPUp` and `maybeIPCPUp`. -/
structure Nearly (x : Side) (auth : Bool) (h : Half) : Prop where
  timer : ∀ p, h.phase.Active p → (h.cp p).localOpen = false → (h.cp p).armed = true
  challenge : h.phase = .auth → h.Both .lcp ∧ auth = true
  early : ¬ h.phase.Late → (h.cp .ipcp).localOpen = false ∧ (h.cp .ipcp).armed = false
  past : h.phase = .ipcp → auth = false ∨ x = .server → h.Both .lcp
  up : h.phase = .up → h.Both .ipcp
  good : ∀ p, p = .lcp ∨ x = .server → (h.cp p).good = true

structure Sound (x : Side) (auth : Bool) (h : Half) : Prop extends Nearly x auth h where
  lcp : h.phase = .lcp → ¬ h.Both .lcp
  ipcp : h.phase = .ipcp → ¬ h.Both .ipcp

/-- IPCP is started. -/
lemma Nearly.start (hn : h.Nearly x auth) (id : UInt8) (good : Bool) (hl : ¬ h.phase.Late)
    (hgood : x = .server → good = true) (hboth : auth = false ∨ x = .server → h.Both .lcp) :
    (h.start id good).Sound x auth := by
  refine ⟨⟨fun p _ => ?_, nofun, fun hlate => absurd (.inl rfl) hlate,
    fun _ hx => by simpa [Both] using hboth hx, nofun, fun p hp => ?_⟩, nofun, fun _ hb => ?_⟩
  · cases p with
    | lcp => simpa using hn.timer .lcp fun hc => hl (.inr (.inr hc))
    | ipcp => exact fun _ => rfl
  · cases p with
    | lcp => simpa using hn.good .lcp (.inl rfl)
    | ipcp => exact hgood (by simpa using hp)
  · exact absurd ((hn.early hl).1.symm.trans hb.1) Bool.false_ne_true

lemma Nearly.settles (hn : h.Nearly x auth) (hs : h.Settles x auth h' out) : h'.Sound x auth := by
  cases hs with
  | stay hlcp hipcp => exact ⟨hn, hlcp, hipcp⟩
  | auth hphase hboth hauth _ =>
    refine ⟨⟨fun p hp => ?_, fun _ => ⟨by simpa [Both] using hboth, hauth⟩, fun _ => ?_, nofun,
      nofun, fun p hp => ?_⟩, nofun, nofun⟩
    · cases p with
      | lcp => simpa using hn.timer .lcp (by simp [Phase.Active, hphase])
      | ipcp => exact absurd hp (by simp [Phase.Active])
    · simpa using hn.early (by simp [Phase.Late, hphase])
    · simpa using hn.good p hp
  | ipcp id good hphase hboth hauth hgood =>
    exact hn.start id good (by simp [Phase.Late, hphase]) hgood fun _ => hboth
  | up hphase hboth =>
    refine ⟨⟨fun p _ => ?_, nofun, fun hl => absurd (.inr (.inl rfl)) hl, nofun,
      fun _ => by simpa [Both] using hboth, fun p hp => ?_⟩, nofun, nofun⟩
    · cases p with
      | lcp => simpa using hn.timer .lcp (by simp [Phase.Active, hphase])
      | ipcp => simpa using hn.timer .ipcp (.inl hphase)
    · simpa using hn.good p hp

lemma Both.set {p : Proto} {o : Opener} (q : Proto) (hb : h.Both q)
    (hr : (h.cp p).remoteOpen = true → o.remoteOpen = true)
    (hl : (h.cp p).localOpen = true → o.localOpen = true) : (h.set p o).Both q := by
  by_cases hq : q = p
  · subst hq
    exact ⟨by simpa using hl hb.1, by simpa using hr hb.2⟩
  · unfold Both
    rw [cp_set_of_ne h o hq]
    exact hb

/-- The fields of one opener change. -/
lemma Nearly.set (hn : h.Nearly x auth) (p : Proto) {o : Opener}
    (ht : h.phase.Active p → o.localOpen = false → o.armed = true)
    (he : p = .ipcp → ¬ h.phase.Late → o.localOpen = false ∧ o.armed = false)
    (hr : (h.cp p).remoteOpen = true → o.remoteOpen = true)
    (hl : (h.cp p).localOpen = true → o.localOpen = true)
    (hg : (h.cp p).good = true → o.good = true) : (h.set p o).Nearly x auth := by
  refine ⟨fun q => ?_, ?_, ?_, ?_, ?_, fun q hq => ?_⟩
  · rw [phase_set]
    by_cases hq : q = p
    · subst hq
      simpa using ht
    · rw [cp_set_of_ne h o hq]
      exact hn.timer q
  · rw [phase_set]
    exact fun hph => ⟨(hn.challenge hph).1.set .lcp hr hl, (hn.challenge hph).2⟩
  · rw [phase_set]
    intro hlate
    by_cases hp : Proto.ipcp = p
    · subst hp
      simpa using he rfl hlate
    · rw [cp_set_of_ne h o hp]
      exact hn.early hlate
  · rw [phase_set]
    exact fun hph hx => (hn.past hph hx).set .lcp hr hl
  · rw [phase_set]
    exact fun hph => (hn.up hph).set .ipcp hr hl
  · by_cases hqp : q = p
    · subst hqp
      simpa using hg (hn.good q hq)
    · rw [cp_set_of_ne h o hqp]
      exact hn.good q hq

lemma Sound.close (hs : h.Sound x auth) : h.close.Sound x auth := by
  refine ⟨⟨fun p hp => ?_, nofun, fun hl => absurd (.inr (.inr rfl)) hl, nofun, nofun,
    fun p hp => by simpa using hs.good p hp⟩, nofun, nofun⟩
  cases p with
  | lcp => exact absurd rfl hp
  | ipcp => exact absurd hp (by simp [Phase.Active])

/-- **The step of one side.** -/
lemma Sound.turn (hs : h.Sound x auth) (ht : h.Turn x auth m h' out)
    (hm : m = .response ∨ m = .success → ¬ h.phase.Late)
    (hboth : m = .response → h.Both .lcp) (hauth : m = .success → auth = true)
    (hack : ∀ id, m = .ack .ipcp id → h.phase.Late) (hnak : m = .nak → h.phase.Late) :
    h'.Sound x auth := by
  cases ht with
  | grant p k _ _ hsettle =>
    refine Nearly.settles (hs.toNearly.set p (o := (h.cp p).granted) (hs.timer p)
      (fun hp hl => ?_) (fun _ => rfl) id id) hsettle
    subst hp
    exact hs.early hl
  | opened p _ _ hsettle =>
    refine Nearly.settles (hs.toNearly.set p (o := (h.cp p).opened) (fun _ => nofun)
      (fun hp hl => ?_) id (fun _ => rfl) id) hsettle
    subst hp
    exact absurd (hack _ rfl) hl
  | nak k hx =>
    have hn := hs.toNearly.set .ipcp (o := (h.cp .ipcp).asking k true) (fun _ _ => rfl)
      (fun _ hl => absurd (hnak rfl) hl) id id fun _ => rfl
    refine ⟨hn, fun hph hb => ?_, fun hph hb => ?_⟩
    · exact hs.lcp (by simpa using hph) (by simpa [Both, cp_set_of_ne] using hb)
    · exact hs.ipcp (by simpa using hph) (by simpa [Both, Opener.asking] using hb)
  | verified id hx =>
    exact hs.toNearly.start id true (hm (.inl rfl)) (fun _ => rfl) fun _ => hboth rfl
  | success id good hx =>
    refine hs.toNearly.start id good (hm (.inr rfl)) (fun h => ?_) fun h => ?_
    · exact nomatch hx.symm.trans h
    · rcases h with h | h
      · exact nomatch (hauth rfl).symm.trans h
      · exact nomatch hx.symm.trans h
  | refused _ | failure _ => exact hs.close
  | _ => exact hs

end Half

/-! ## What happens on the link -/

/-- The events of a link with frames of type `F`. -/
inductive LinkEvent (F : Type*)
  | deliver (x : Side) (f : F)
  | lose (x : Side) (f : F)
  | duplicate (x : Side) (f : F)
  | timer (x : Side) (p : Proto)
  /-- the client's `SendEcho` -/
  | echo
  deriving DecidableEq, Repr

/-- The two sides, and the frames on their way to each. -/
structure Talk (F : Type*) where
  half : Side → Half
  flight : Side → List F

variable {y : Side}

namespace Talk

variable {F : Type*}

/-- One side and the frames on their way to it and from it are changed. -/
structure Effect (t t' : Talk F) (x : Side) (h : Half) (here there : List F) : Prop where
  half : t'.half x = h
  half_other : t'.half x.other = t.half x.other
  flight : t'.flight x = here
  flight_other : t'.flight x.other = there

/-- There is nothing to happen. -/
def Moot (t : Talk F) : LinkEvent F → Prop
  | .deliver x f | .lose x f | .duplicate x f => f ∉ t.flight x
  | .timer x p => (t.half x).phase = .closed ∨ ((t.half x).cp p).armed = false
  | .echo => True

variable (kind : Side → F → Msg) (auth : Bool)

/-- What an event does to the link, as long as no CHAP frame is lost or duplicated and no timer runs
out while the other side is still at it. -/
inductive Step [DecidableEq F] (t : Talk F) : LinkEvent F → Talk F → Prop
  | deliver {t' : Talk F} (x : Side) (f : F) (hf : f ∈ t.flight x)
      (hopen : (t.half x).phase ≠ .closed) (h' : Half) (out : List F)
      (hturn : (t.half x).Turn x auth (kind x f) h' (out.map (kind x.other)))
      (heff : t.Effect t' x h' ((t.flight x).erase f) (t.flight x.other ++ out)) :
      Step t (.deliver x f) t'
  | ignore {t' : Talk F} (x : Side) (f : F) (hf : f ∈ t.flight x)
      (hclosed : (t.half x).phase = .closed)
      (heff : t.Effect t' x (t.half x) ((t.flight x).erase f) (t.flight x.other)) :
      Step t (.deliver x f) t'
  | lose {t' : Talk F} (x : Side) (f : F) (hf : f ∈ t.flight x)
      (hchap : (kind x f).isCHAP = false)
      (heff : t.Effect t' x (t.half x) ((t.flight x).erase f) (t.flight x.other)) :
      Step t (.lose x f) t'
  | duplicate {t' : Talk F} (x : Side) (f : F) (hf : f ∈ t.flight x)
      (hchap : (kind x f).isCHAP = false)
      (heff : t.Effect t' x (t.half x) (t.flight x ++ [f]) (t.flight x.other)) :
      Step t (.duplicate x f) t'
  | fire {t' : Talk F} (x : Side) (p : Proto) (hopen : (t.half x).phase ≠ .closed) (f : F)
      (harmed : ((t.half x).cp p).armed = true)
      (hkind : kind x.other f = .request p ((t.half x).cp p).reqID ((t.half x).cp p).good)
      (heff : t.Effect t' x (t.half x) (t.flight x) (t.flight x.other ++ [f])) :
      Step t (.timer x p) t'
  | runOut {t' : Talk F} (x : Side) (p : Proto) (hdone : (t.half x.other).phase.Done)
      (heff : t.Effect t' x (t.half x).close (t.flight x) (t.flight x.other)) :
      Step t (.timer x p) t'
  | echo {t' : Talk F} (f : F) (hkind : kind .server f = .other)
      (heff : t.Effect t' .client (t.half .client) (t.flight .client) (t.flight .server ++ [f])) :
      Step t .echo t'
  | moot {t' : Talk F} (e : LinkEvent F) (he : t.Moot e) (heq : t' = t) : Step t e t'

/-! ### The CHAP frames -/

/-- The CHAP frames on their way to a side. -/
def chaps (t : Talk F) (x : Side) : List F := (t.flight x).filter fun f => (kind x f).isCHAP

/-- **One CHAP frame at a time.** -/
inductive Token (t : Talk F) : Prop
  | free (hauth : auth = false) (hc : t.chaps kind .client = []) (hs : t.chaps kind .server = [])
  | before (hauth : auth = true) (hps : (t.half .server).phase = .lcp)
      (hpc : ¬ (t.half .client).phase.Late) (hc : t.chaps kind .client = [])
      (hs : t.chaps kind .server = [])
  | challenged (hauth : auth = true) (hps : (t.half .server).phase = .auth)
      (hpc : ¬ (t.half .client).phase.Late) (f : F) (hf : kind .client f = .challenge)
      (hc : t.chaps kind .client = [f]) (hs : t.chaps kind .server = [])
  | answered (hauth : auth = true) (hps : (t.half .server).phase = .auth)
      (hpc : ¬ (t.half .client).phase.Late) (f : F) (hf : kind .server f = .response)
      (hc : t.chaps kind .client = []) (hs : t.chaps kind .server = [f])
  | accepted (hauth : auth = true)
      (hps : (t.half .server).phase = .ipcp ∨ (t.half .server).phase = .up)
      (hpc : ¬ (t.half .client).phase.Late) (f : F) (hf : kind .client f = .success)
      (hc : t.chaps kind .client = [f]) (hs : t.chaps kind .server = [])
  | refused (hauth : auth = true) (hps : (t.half .server).phase = .closed)
      (hpc : (t.half .client).phase.Late → (t.half .client).phase = .closed) (f : F)
      (hf : kind .client f = .failure) (hc : t.chaps kind .client = [f])
      (hs : t.chaps kind .server = [])
  | after (hauth : auth = true) (hps : (t.half .server).phase.Late)
      (hpc : (t.half .client).phase.Late) (hc : t.chaps kind .client = [])
      (hs : t.chaps kind .server = [])

variable {kind auth} {t t' : Talk F} {x : Side} {f : F} {h' : Half} {out : List F}

lemma mem_chaps : f ∈ t.chaps kind x ↔ f ∈ t.flight x ∧ (kind x f).isCHAP = true :=
  mem_filter

/-- A frame is taken off, and others are put on. -/
lemma chaps_deliver [DecidableEq F] (kind : Side → F → Msg)
    (heff : t.Effect t' x h' ((t.flight x).erase f) (t.flight x.other ++ out)) :
    t'.chaps kind x = (t.chaps kind x).erase f ∧ t'.chaps kind x.other =
      t.chaps kind x.other ++ out.filter fun g => (kind x.other g).isCHAP := by
  refine ⟨?_, ?_⟩
  · rw [chaps, heff.flight, chaps, erase_filter]
  · rw [chaps, heff.flight_other, filter_append, chaps]

/-- A frame is taken off, and none is sent. -/
lemma chaps_erase [DecidableEq F] (kind : Side → F → Msg)
    (heff : t.Effect t' x h' ((t.flight x).erase f) (t.flight x.other)) :
    t'.chaps kind x = (t.chaps kind x).erase f ∧ t'.chaps kind x.other = t.chaps kind x.other := by
  obtain ⟨hx, hy⟩ := chaps_deliver kind
    ⟨heff.half, heff.half_other, heff.flight, heff.flight_other.trans (append_nil _).symm⟩
  exact ⟨hx, by rw [hy, filter_nil, append_nil]⟩

lemma chaps_erase_of_not [DecidableEq F] (hf : (kind x f).isCHAP = false) :
    (t.chaps kind x).erase f = t.chaps kind x :=
  erase_of_not_mem fun hmem => absurd (hf.symm.trans (mem_chaps.1 hmem).2) Bool.false_ne_true

/-- The CHAP frames among those that are sent, by what they say. -/
lemma filter_out {ms : List Msg} (hms : out.map (kind y) = ms) :
    (out.filter fun g => (kind y g).isCHAP).map (kind y) = ms.filter Msg.isCHAP := by
  rw [← hms, filter_map]
  rfl

lemma filter_out_nil {ms : List Msg} (hms : out.map (kind y) = ms)
    (hnone : ms.filter Msg.isCHAP = []) : (out.filter fun g => (kind y g).isCHAP) = [] :=
  map_eq_nil_iff.1 ((filter_out hms).trans hnone)

lemma filter_out_single {ms : List Msg} {m : Msg} (hms : out.map (kind y) = ms)
    (hone : ms.filter Msg.isCHAP = [m]) :
    ∃ g, (out.filter fun g => (kind y g).isCHAP) = [g] ∧ kind y g = m :=
  map_eq_singleton_iff.1 ((filter_out hms).trans hone)

section

variable (h : t.Token kind auth)

include h

lemma Token.unique {g : F} (hf : f ∈ t.chaps kind x) (hg : g ∈ t.chaps kind y) : x = y ∧ f = g := by
  cases h <;> cases x <;> cases y <;> simp_all

/-- The frame of CHAP on its way to the server. -/
lemma Token.to_server (hf : f ∈ t.chaps kind .server) : auth = true ∧
    t.chaps kind .client = [] ∧ t.chaps kind .server = [f] ∧ kind .server f = .response ∧
      (t.half .server).phase = .auth ∧ ¬ (t.half .client).phase.Late := by
  cases h <;> simp_all

/-- The frame of CHAP on its way to the client. -/
lemma Token.to_client (hf : f ∈ t.chaps kind .client) : auth = true ∧
    t.chaps kind .client = [f] ∧ t.chaps kind .server = [] ∧
      (kind .client f = .challenge ∧ (t.half .server).phase = .auth ∧
          ¬ (t.half .client).phase.Late ∨
        kind .client f = .success ∧
        ((t.half .server).phase = .ipcp ∨ (t.half .server).phase = .up) ∧
          ¬ (t.half .client).phase.Late ∨
        kind .client f = .failure ∧ (t.half .server).phase = .closed) := by
  cases h <;> simp_all

lemma Token.none_of_lcp (hauth : auth = true)
    (hps : (t.half .server).phase = .lcp) : t.chaps kind x = [] := by
  cases h <;> cases x <;> simp_all [Phase.Late]

/-- Nothing happens to the CHAP frames, and little to the phases. -/
lemma Token.keep (hc : t'.chaps kind .client = t.chaps kind .client)
    (hs : t'.chaps kind .server = t.chaps kind .server)
    (hps : auth = true → (t'.half .server).phase = (t.half .server).phase ∨
      (t.half .server).phase = .ipcp ∧ (t'.half .server).phase = .up)
    (hpc : auth = true → ((t'.half .client).phase.Late ↔ (t.half .client).phase.Late) ∧
      ((t.half .client).phase = .closed → (t'.half .client).phase = .closed)) :
    t'.Token kind auth := by
  have hstay : ∀ {ph : Phase}, auth = true → (t.half .server).phase = ph → ph ≠ .ipcp →
      (t'.half .server).phase = ph := by
    intro ph hauth hph hne
    rcases hps hauth with h | h
    · exact h.trans hph
    · exact absurd (hph.symm.trans h.1) hne
  cases h with
  | free hauth hc₀ hs₀ => exact .free hauth (hc.trans hc₀) (hs.trans hs₀)
  | before hauth hps₀ hpc₀ hc₀ hs₀ =>
    exact .before hauth (hstay hauth hps₀ nofun) (fun hl => hpc₀ ((hpc hauth).1.1 hl))
      (hc.trans hc₀)
      (hs.trans hs₀)
  | challenged hauth hps₀ hpc₀ f hf hc₀ hs₀ =>
    exact .challenged hauth (hstay hauth hps₀ nofun) (fun hl => hpc₀ ((hpc hauth).1.1 hl)) f hf
      (hc.trans hc₀) (hs.trans hs₀)
  | answered hauth hps₀ hpc₀ f hf hc₀ hs₀ =>
    exact .answered hauth (hstay hauth hps₀ nofun) (fun hl => hpc₀ ((hpc hauth).1.1 hl)) f hf
      (hc.trans hc₀) (hs.trans hs₀)
  | accepted hauth hps₀ hpc₀ f hf hc₀ hs₀ =>
    refine .accepted hauth ?_ (fun hl => hpc₀ ((hpc hauth).1.1 hl)) f hf (hc.trans hc₀)
      (hs.trans hs₀)
    rcases hps hauth with h | h
    · rwa [h]
    · exact .inr h.2
  | refused hauth hps₀ hpc₀ f hf hc₀ hs₀ =>
    refine .refused hauth (hstay hauth hps₀ nofun) (fun hl => ?_) f hf (hc.trans hc₀) (hs.trans hs₀)
    exact (hpc hauth).2 (hpc₀ ((hpc hauth).1.1 hl))
  | after hauth hps₀ hpc₀ hc₀ hs₀ =>
    refine .after hauth ?_ ((hpc hauth).1.2 hpc₀) (hc.trans hc₀) (hs.trans hs₀)
    rcases hps hauth with h | h
    · rwa [h]
    · exact .inr (.inl h.2)

end

lemma filter_other {ms : List Msg} (hms : ∀ m ∈ ms, m = .other) : ms.filter Msg.isCHAP = [] := by
  refine filter_eq_nil_iff.2 fun m hm => ?_
  rw [hms m hm]
  exact Bool.false_ne_true

/-- What a message other than those of CHAP does to the phase of the client. -/
lemma turn_client {h : Half} {m : Msg} {ms : List Msg} (ht : h.Turn .client auth m h' ms)
    (hm : m.isCHAP = false) : ms.filter Msg.isCHAP = [] ∧
      (auth = true → (h'.phase.Late ↔ h.phase.Late) ∧
        (h.phase = .closed → h'.phase = .closed)) := by
  have hsettles : ∀ {h₀ : Half} {ms : List Msg}, h₀.Settles .client auth h' ms →
      ms.filter Msg.isCHAP = [] ∧ (auth = true → (h'.phase.Late ↔ h₀.phase.Late) ∧
        (h₀.phase = .closed → h'.phase = .closed)) := by
    intro h₀ ms hs
    cases hs with
    | stay _ _ => exact ⟨rfl, fun _ => ⟨.rfl, id⟩⟩
    | auth hphase _ _ _ hout =>
      subst hout
      exact ⟨rfl, fun _ => ⟨by simp [hphase, Phase.Late], by simp [hphase]⟩⟩
    | ipcp _ _ _ _ hauth _ => exact ⟨rfl, fun h => nomatch hauth.symm.trans h⟩
    | up hphase _ => exact ⟨rfl, fun _ => ⟨by simp [hphase, Phase.Late], by simp [hphase]⟩⟩
  cases ht with
  | grant p id _ _ hs => simpa [Msg.isCHAP] using hsettles hs
  | opened p _ _ hs => simpa using hsettles hs
  | nak id _ => exact ⟨rfl, fun _ => by simp⟩
  | refuse _ hx => exact nomatch hx
  | stale _ _ _ => exact ⟨rfl, fun _ => ⟨.rfl, id⟩⟩
  | other _ hout => exact ⟨filter_other hout, fun _ => ⟨.rfl, id⟩⟩
  | _ => exact nomatch hm

/-- The same for the server, which challenges the client when LCP is open. -/
lemma turn_server {h : Half} {m : Msg} {ms : List Msg} (ht : h.Turn .server auth m h' ms)
    (hm : m.isCHAP = false) :
    ms.filter Msg.isCHAP = [] ∧
        (auth = true → h'.phase = h.phase ∨ h.phase = .ipcp ∧ h'.phase = .up) ∨
      auth = true ∧ h.phase = .lcp ∧ h'.phase = .auth ∧ ms.filter Msg.isCHAP = [.challenge] := by
  have hsettles : ∀ {h₀ : Half} {ms : List Msg}, h₀.Settles .server auth h' ms →
      ms.filter Msg.isCHAP = [] ∧
          (auth = true → h'.phase = h₀.phase ∨ h₀.phase = .ipcp ∧ h'.phase = .up) ∨
        auth = true ∧ h₀.phase = .lcp ∧ h'.phase = .auth ∧ ms.filter Msg.isCHAP = [.challenge] := by
    intro h₀ ms hs
    cases hs with
    | stay _ _ => exact .inl ⟨rfl, fun _ => .inl rfl⟩
    | auth hphase _ hauth _ hout =>
      subst hout
      exact .inr ⟨hauth, hphase, rfl, rfl⟩
    | ipcp _ _ _ _ hauth _ => exact .inl ⟨rfl, fun h => nomatch hauth.symm.trans h⟩
    | up hphase _ => exact .inl ⟨rfl, fun _ => .inr ⟨hphase, rfl⟩⟩
  cases ht with
  | grant p id _ _ hs => simpa [Msg.isCHAP] using hsettles hs
  | opened p _ _ hs => simpa using hsettles hs
  | nak _ hx => exact nomatch hx
  | refuse _ _ | stale _ _ _ => exact .inl ⟨rfl, fun _ => .inl rfl⟩
  | other _ hout => exact .inl ⟨filter_other hout, fun _ => .inl rfl⟩
  | _ => exact nomatch hm

lemma Token.deliver_client [DecidableEq F] (h : t.Token kind auth) (hf : f ∈ t.flight .client)
    (hturn : (t.half .client).Turn .client auth (kind .client f) h' (out.map (kind .server)))
    (heff : t.Effect t' .client h' ((t.flight .client).erase f) (t.flight .server ++ out)) :
    t'.Token kind auth := by
  obtain ⟨hc, hs⟩ := chaps_deliver kind heff
  have hserver : t'.half .server = t.half .server := heff.half_other
  have hclient : t'.half .client = h' := heff.half
  change t'.chaps kind .server = t.chaps kind .server ++
    out.filter fun g => (kind .server g).isCHAP at hs
  by_cases hchap : (kind .client f).isCHAP = false
  · obtain ⟨hnone, hphase⟩ := turn_client hturn hchap
    rw [chaps_erase_of_not hchap] at hc
    rw [filter_out_nil rfl hnone, append_nil] at hs
    exact h.keep hc hs (fun _ => .inl (congrArg Half.phase hserver)) (hclient ▸ hphase)
  · have hmem : f ∈ t.chaps kind .client := mem_chaps.2 ⟨hf, by simpa using hchap⟩
    obtain ⟨hauth, hc₀, hs₀, hcase⟩ := h.to_client hmem
    have hc : t'.chaps kind .client = [] := by rw [hc, hc₀]; simp
    generalize hms : out.map (kind .server) = ms at hturn
    rcases hcase with ⟨hg, hps, hpc⟩ | ⟨hg, hps, -⟩ | ⟨hg, hps⟩ <;> rw [hg] at hturn
    · cases hturn with
      | challenge _ =>
        obtain ⟨g, hout, hkind⟩ := filter_out_single hms rfl
        rw [hout, hs₀] at hs
        exact .answered hauth (by rw [hserver]; exact hps)
          (by rw [hclient]; exact hpc) g hkind hc hs
    · cases hturn with
      | success id good _ =>
        rw [filter_out_nil hms rfl, hs₀] at hs
        exact .after hauth (by rw [hserver]; exact hps.imp_right .inl)
          (by rw [hclient]; exact .inl rfl) hc hs
    · cases hturn with
      | failure _ =>
        rw [filter_out_nil hms rfl, hs₀] at hs
        exact .after hauth (by rw [hserver]; exact .inr (.inr hps))
          (by rw [hclient]; exact .inr (.inr rfl)) hc hs

lemma Token.deliver_server [DecidableEq F] (h : t.Token kind auth) (hf : f ∈ t.flight .server)
    (hturn : (t.half .server).Turn .server auth (kind .server f) h' (out.map (kind .client)))
    (heff : t.Effect t' .server h' ((t.flight .server).erase f) (t.flight .client ++ out)) :
    t'.Token kind auth := by
  obtain ⟨hs, hc⟩ := chaps_deliver kind heff
  have hclient : t'.half .client = t.half .client := heff.half_other
  have hserver : t'.half .server = h' := heff.half
  change t'.chaps kind .client = t.chaps kind .client ++
    out.filter fun g => (kind .client g).isCHAP at hc
  by_cases hchap : (kind .server f).isCHAP = false
  · rw [chaps_erase_of_not hchap] at hs
    rcases turn_server hturn hchap with ⟨hnone, hphase⟩ | ⟨hauth, hlcp, hph, hone⟩
    · rw [filter_out_nil rfl hnone, append_nil] at hc
      exact h.keep hc hs (hserver ▸ hphase) fun _ => by rw [hclient]; exact ⟨.rfl, id⟩
    -- only before the challenge is the server's phase that of LCP
    obtain ⟨g, hout, hkind⟩ := filter_out_single rfl hone
    rw [hout] at hc
    cases h with
    | before _ _ hpc hc₀ hs₀ =>
      exact .challenged hauth (by rw [hserver]; exact hph) (by rw [hclient]; exact hpc) g hkind
        (by rw [hc, hc₀, nil_append]) (hs.trans hs₀)
    | free hfree _ _ => exact nomatch hfree.symm.trans hauth
    | challenged _ hps _ _ _ _ _ | answered _ hps _ _ _ _ _ | refused _ hps _ _ _ _ _ =>
      exact nomatch hps.symm.trans hlcp
    | accepted _ hps _ _ _ _ _ => simp [hlcp] at hps
    | after _ hps _ _ _ => simp [hlcp, Phase.Late] at hps
  · have hmem : f ∈ t.chaps kind .server := mem_chaps.2 ⟨hf, by simpa using hchap⟩
    obtain ⟨hauth, hc₀, hs₀, hg, -, hpc⟩ := h.to_server hmem
    have hs : t'.chaps kind .server = [] := by rw [hs, hs₀]; simp
    generalize hms : out.map (kind .client) = ms at hturn
    rw [hg] at hturn
    cases hturn with
    | verified id _ =>
      obtain ⟨g, hout, hkind⟩ := filter_out_single hms rfl
      rw [hout, hc₀] at hc
      exact .accepted hauth (by rw [hserver]; exact .inl rfl)
        (by rw [hclient]; exact hpc) g hkind hc
        hs
    | refused _ =>
      obtain ⟨g, hout, hkind⟩ := filter_out_single hms rfl
      rw [hout, hc₀] at hc
      exact .refused hauth (by rw [hserver]; rfl)
        (by rw [hclient]; exact fun hl => absurd hl hpc) g hkind hc hs

/-! ### The invariant -/

/-- What a message on its way to a side says about the two sides. -/
def Carries (t : Talk F) (x : Side) : Msg → Prop
  | .request p _ good => (p = .ipcp → (t.half x.other).phase.Late) ∧ (good = false → x = .server)
  | .ack p _ => ((t.half x.other).cp p).remoteOpen = true ∧ (p = .ipcp → (t.half x).phase.Late)
  | .nak => x = .client ∧ (t.half x).phase.Late
  | _ => True

variable (kind auth) in
structure Inv (t : Talk F) : Prop where
  sound : ∀ x, (t.half x).Sound x auth
  opened : ∀ x p, ((t.half x).cp p).localOpen = true → ((t.half x.other).cp p).remoteOpen = true
  granted : ∀ x, ((t.half x).cp .ipcp).remoteOpen = true → (t.half x.other).phase.Late
  carries : ∀ x, ∀ f ∈ t.flight x, t.Carries x (kind x f)
  clientClosed : (t.half .client).phase = .closed → (t.half .server).phase.Done
  serverClosed : (t.half .server).phase = .closed → (t.half .client).phase.Done ∨
    ∃ f ∈ t.flight .client, kind .client f = .failure
  token : t.Token kind auth

lemma Carries.mono (hg : ∀ y, (t.half y).Grows (t'.half y)) {m : Msg} (h : t.Carries x m) :
    t'.Carries x m := by
  cases m with
  | request p k good => exact ⟨fun hp => (hg _).late (h.1 hp), h.2⟩
  | ack p k => exact ⟨(hg _).remote p h.1, fun hp => (hg _).late (h.2 hp)⟩
  | nak => exact ⟨h.1, (hg _).late h.2⟩
  | _ => trivial

/-- What `maybeLCPUp` and `maybeIPCPUp` send. -/
lemma carries_settles {h : Half} {ms : List Msg} (hs : h.Settles x auth (t'.half x) ms) {m : Msg}
    (hm : m ∈ ms) : t'.Carries x.other m := by
  generalize hh : t'.half x = h' at hs
  cases hs with
  | stay _ _ | up _ _ => exact nomatch hm
  | auth _ _ _ _ hout =>
    subst hout
    cases x with
    | client => exact nomatch hm
    | server => exact mem_singleton.1 hm ▸ trivial
  | ipcp k good _ _ _ hgood =>
    rw [mem_singleton.1 hm]
    refine ⟨fun _ => ?_, fun hbad => ?_⟩
    · rw [Side.other_other, hh]
      exact .inl rfl
    · cases x with
      | client => rfl
      | server => exact nomatch (hgood rfl).symm.trans hbad

/-- What a side sends. -/
lemma carries_turn {h : Half} {m : Msg} {ms : List Msg} (ht : h.Turn x auth m (t'.half x) ms)
    (hm : t'.Carries x m) : ∀ m' ∈ ms, t'.Carries x.other m' := by
  intro m' hm'
  generalize hh : t'.half x = h' at ht
  cases ht with
  | grant p k _ _ hs =>
    rcases mem_cons.1 hm' with rfl | hm'
    · refine ⟨?_, hm.1⟩
      rw [Side.other_other, hh]
      exact hs.grows.remote p (by simp [Opener.granted])
    · exact carries_settles (hh ▸ hs) hm'
  | opened p _ _ hs => exact carries_settles (hh ▸ hs) hm'
  | refuse k hx =>
    subst hx
    rw [mem_singleton.1 hm']
    exact ⟨rfl, hm.1 rfl⟩
  | nak k hx =>
    subst hx
    rw [mem_singleton.1 hm']
    exact ⟨fun _ => hm.2, nofun⟩
  | verified k hx =>
    rcases mem_cons.1 hm' with rfl | hm'
    · trivial
    · rw [mem_singleton.1 hm']
      refine ⟨fun _ => ?_, nofun⟩
      rw [Side.other_other, hh]
      exact .inl rfl
  | success k good hx =>
    subst hx
    rw [mem_singleton.1 hm']
    refine ⟨fun _ => ?_, fun _ => rfl⟩
    rw [Side.other_other, hh]
    exact .inl rfl
  | challenge _ | refused _ => exact mem_singleton.1 hm' ▸ trivial
  | other _ hout => exact hout m' hm' ▸ trivial
  | _ => exact nomatch hm'

end Talk

namespace Half

variable {x : Side} {auth : Bool} {h h' : Half} {m : Msg} {ms : List Msg}

lemma Settles.same (hs : h.Settles x auth h' ms) (p : Proto) :
    (h'.cp p).localOpen = (h.cp p).localOpen ∧ (h'.cp p).remoteOpen = (h.cp p).remoteOpen := by
  cases hs with
  | ipcp k good _ _ _ _ => cases p <;> exact ⟨rfl, rfl⟩
  | _ => simp

/-- A direction is opened by an acknowledgement, or by the request of the other side. -/
lemma Turn.opens (ht : h.Turn x auth m h' ms) (p : Proto) :
    ((h'.cp p).localOpen = true → (h.cp p).localOpen = true ∨ ∃ k, m = .ack p k) ∧
      ((h'.cp p).remoteOpen = true → (h.cp p).remoteOpen = true ∨ ∃ k, m = .request p k true) := by
  cases ht with
  | grant q k _ _ hs =>
    rw [(hs.same p).1, (hs.same p).2]
    by_cases hpq : p = q
    · subst hpq
      exact ⟨fun h => .inl (by simpa [Opener.granted] using h), fun _ => .inr ⟨k, rfl⟩⟩
    · rw [cp_set_of_ne h _ hpq]
      exact ⟨.inl, .inl⟩
  | opened q _ _ hs =>
    rw [(hs.same p).1, (hs.same p).2]
    by_cases hpq : p = q
    · subst hpq
      exact ⟨fun _ => .inr ⟨_, rfl⟩, fun h => .inl (by simpa [Opener.opened] using h)⟩
    · rw [cp_set_of_ne h _ hpq]
      exact ⟨.inl, .inl⟩
  | nak k _ | verified k _ | success k good _ => cases p <;> exact ⟨.inl, .inl⟩
  | refused _ | failure _ => simp
  | _ => exact ⟨.inl, .inl⟩

/-- A side is closed by a failure, and a server by a response that it refuses. -/
lemma Turn.closes (ht : h.Turn x auth m h' ms) (hopen : h.phase ≠ .closed)
    (hclosed : h'.phase = .closed) :
    x = .client ∧ m = .failure ∨ x = .server ∧ m = .response ∧ ms = [.failure] := by
  have hsettles : ∀ {h₀ : Half} {ms : List Msg}, h₀.Settles x auth h' ms → h₀.phase ≠ .closed →
      False := by
    intro h₀ ms hs hne
    cases hs with
    | stay _ _ => exact hne hclosed
    | _ => exact nomatch hclosed
  cases ht with
  | grant p k _ _ hs | opened p _ _ hs => exact (hsettles hs (by simpa using hopen)).elim
  | nak k _ => exact absurd (by simpa using hclosed) hopen
  | failure hx => exact .inl ⟨hx, rfl⟩
  | refused hx => exact .inr ⟨hx, rfl, rfl⟩
  | verified k _ | success k good _ => exact nomatch hclosed
  | _ => exact absurd hclosed hopen

end Half

namespace Talk

variable {F : Type*} {kind : Side → F → Msg} {auth : Bool} {t t' : Talk F} {x : Side} {f : F}
  {h' : Half} {out : List F}

section

variable (h : t.Inv kind auth) (hf : f ∈ t.flight x) {ms : List Msg}
  (ht : (t.half x).Turn x auth (kind x f) h' ms)

include h hf ht

/-- Where a response or a success is on its way. -/
lemma Inv.chap : (kind x f = .response → (t.half x).phase = .auth) ∧
      (kind x f = .success → ¬ (t.half x).phase.Late ∧ auth = true) ∧
      (kind x f = .failure → (t.half .server).phase = .closed) := by
  by_cases hchap : (kind x f).isCHAP = false
  · exact ⟨fun hk => absurd (hk ▸ hchap) nofun, fun hk => absurd (hk ▸ hchap) nofun,
      fun hk => absurd (hk ▸ hchap) nofun⟩
  have hmem : f ∈ t.chaps kind x := mem_chaps.2 ⟨hf, by simpa using hchap⟩
  have hx : (kind x f = .response → x = .server) ∧ (kind x f = .success → x = .client) ∧
      (kind x f = .failure → x = .client) := by
    generalize kind x f = m at ht
    cases ht <;> simp_all
  refine ⟨fun hk => ?_, fun hk => ?_, fun hk => ?_⟩
  · obtain rfl := hx.1 hk
    exact (h.token.to_server hmem).2.2.2.2.1
  · obtain rfl := hx.2.1 hk
    obtain ⟨hauth, -, -, hcase⟩ := h.token.to_client hmem
    have hwon : ((t.half .server).phase = .ipcp ∨ (t.half .server).phase = .up) ∧
        ¬ (t.half .client).phase.Late := by simpa [hk] using hcase
    exact ⟨hwon.2, hauth⟩
  · obtain rfl := hx.2.2 hk
    simpa [hk] using (h.token.to_client hmem).2.2.2

lemma Inv.not_late (hm : kind x f = .response ∨ kind x f = .success) :
    ¬ (t.half x).phase.Late := by
  obtain ⟨hresp, hsucc, -⟩ := h.chap hf ht
  refine hm.elim (fun hk => ?_) fun hk => (hsucc hk).1
  rw [hresp hk]
  simp [Phase.Late]

end

/-- An effect on one side, for both. -/
lemma Effect.both {P : Side → Prop} {h : Half} {here there : List F}
    (_ : t.Effect t' x h here there) (hx : P x) (hother : P x.other) (y : Side) : P y :=
  (y.eq_or_eq_other x).elim (fun he => he ▸ hx) fun he => he ▸ hother

variable (h : t.Inv kind auth)

include h

/-- **The step, for a frame that arrives.** -/
lemma Inv.deliver [DecidableEq F] (hf : f ∈ t.flight x)
    (hopen : (t.half x).phase ≠ .closed)
    (hturn : (t.half x).Turn x auth (kind x f) h' (out.map (kind x.other)))
    (heff : t.Effect t' x h' ((t.flight x).erase f) (t.flight x.other ++ out)) :
    t'.Inv kind auth := by
  obtain ⟨hresp, hsucc, hfail⟩ := h.chap hf hturn
  have hgrows : ∀ y, (t.half y).Grows (t'.half y) := heff.both
    (by rw [heff.half]; exact hturn.grows (h.not_late hf hturn))
    (by rw [heff.half_other]; exact .refl _)
  have hcarries := h.carries x f hf
  have hlate : ∀ {y : Side}, (t.half y).phase.Late → (t'.half y).phase.Late := fun hl =>
    (hgrows _).late hl
  refine ⟨heff.both ?_ ?_, heff.both (fun p hl => ?_) fun p hl => ?_,
    heff.both (fun hr => ?_) fun hr => ?_, heff.both (fun g hg => ?_) fun g hg => ?_,
    fun hc => ?_, fun hc => ?_, ?_⟩
  · rw [heff.half]
    refine (h.sound x).turn hturn (h.not_late hf hturn) (fun hk => ?_) (fun hk => (hsucc hk).2)
      (fun k hk => ?_) fun hk => ?_
    · exact ((h.sound x).challenge (hresp hk)).1
    · rw [hk] at hcarries
      exact hcarries.2 rfl
    · rw [hk] at hcarries
      exact hcarries.2
  · rw [heff.half_other]
    exact h.sound _
  · rw [heff.half_other]
    rw [heff.half] at hl
    rcases (hturn.opens p).1 hl with hl | ⟨k, hk⟩
    · exact h.opened x p hl
    · rw [hk] at hcarries
      exact hcarries.1
  · rw [heff.half_other] at hl
    exact (hgrows _).remote p (h.opened _ p hl)
  · rw [heff.half_other]
    rw [heff.half] at hr
    rcases (hturn.opens .ipcp).2 hr with hr | ⟨k, hk⟩
    · exact h.granted x hr
    · rw [hk] at hcarries
      exact hcarries.1 rfl
  · rw [heff.half_other] at hr
    exact hlate (h.granted _ hr)
  · rw [heff.flight] at hg
    exact (h.carries x g (mem_of_mem_erase hg)).mono hgrows
  · rw [heff.flight_other] at hg
    rcases mem_append.1 hg with hg | hg
    · exact (h.carries _ g hg).mono hgrows
    · refine carries_turn (h := t.half x) (by rw [heff.half]; exact hturn) (hcarries.mono hgrows) _
        (mem_map_of_mem hg)
  · -- the client is closed now: it was before, or a failure has arrived
    cases x with
    | client =>
      rw [heff.half] at hc
      rw [show t'.half .server = t.half .server from heff.half_other]
      rcases hturn.closes hopen hc with ⟨-, hk⟩ | ⟨hx, -⟩
      · exact .inr (hfail hk)
      · exact nomatch hx
    | server =>
      rw [show t'.half .client = t.half .client from heff.half_other] at hc
      exact (hgrows _).done (h.clientClosed hc)
  · cases x with
    | client =>
      rw [show t'.half .server = t.half .server from heff.half_other] at hc
      rcases h.serverClosed hc with hd | ⟨g, hg, hk⟩
      · exact .inl ((hgrows _).done hd)
      by_cases hgf : g = f
      · subst hgf
        rw [hk] at hturn
        rw [heff.half]
        generalize out.map (kind Side.client.other) = ms at hturn
        cases hturn with
        | failure _ => exact .inl (.inr rfl)
      · rw [heff.flight]
        exact .inr ⟨g, (mem_erase_of_ne hgf).2 hg, hk⟩
    | server =>
      rw [heff.half] at hc
      rcases hturn.closes hopen hc with ⟨hx, -⟩ | ⟨-, -, hms⟩
      · exact nomatch hx
      · obtain ⟨g, rfl, hg⟩ := map_eq_singleton_iff.1 hms
        refine .inr ⟨g, ?_, hg⟩
        rw [show t'.flight .client = t.flight .client ++ [g] from heff.flight_other]
        exact mem_append_right _ mem_cons_self
  · cases x with
    | client => exact h.token.deliver_client hf hturn heff
    | server => exact h.token.deliver_server hf hturn heff

/-- The sides stay as they are, and what is on its way fits them. -/
lemma Inv.of_half (hhalf : ∀ y, t'.half y = t.half y)
    (hflight : ∀ y, ∀ g ∈ t'.flight y, g ∈ t.flight y ∨ t.Carries y (kind y g))
    (hserver : (t.half .server).phase = .closed → (t.half .client).phase.Done ∨
      ∃ f ∈ t'.flight .client, kind .client f = .failure) (htoken : t'.Token kind auth) :
    t'.Inv kind auth := by
  refine ⟨fun y => by rw [hhalf]; exact h.sound y,
    fun y p => by rw [hhalf, hhalf]; exact h.opened y p,
    fun y => by rw [hhalf, hhalf]; exact h.granted y, fun y g hg => ?_,
    by rw [hhalf, hhalf]; exact h.clientClosed, by rw [hhalf, hhalf]; exact hserver, htoken⟩
  exact ((hflight y g hg).elim (h.carries y g) id).mono fun y => by rw [hhalf y]; exact .refl _

/-- Frames come and go, and the sides stay as they are. -/
lemma Inv.frames (hhalf : ∀ y, t'.half y = t.half y)
    (hflight : ∀ y, ∀ g ∈ t'.flight y, g ∈ t.flight y ∨ t.Carries y (kind y g))
    (hchaps : ∀ y, t'.chaps kind y = t.chaps kind y) : t'.Inv kind auth := by
  refine h.of_half hhalf hflight (fun hc => ?_) ?_
  · refine (h.serverClosed hc).imp_right fun ⟨g, hg, hk⟩ => ⟨g, ?_, hk⟩
    have : g ∈ t'.chaps kind .client := by
      rw [hchaps]
      exact mem_chaps.2 ⟨hg, hk ▸ rfl⟩
    exact (mem_chaps.1 this).1
  · exact h.token.keep (hchaps _) (hchaps _) (fun _ => .inl (by rw [hhalf]))
      fun _ => by rw [hhalf]; exact ⟨.rfl, id⟩

/-- A frame that is none of CHAP is put on its way. -/
lemma Inv.sends (hcarries : t.Carries x.other (kind x.other f))
    (hchap : (kind x.other f).isCHAP = false)
    (heff : t.Effect t' x (t.half x) (t.flight x) (t.flight x.other ++ [f])) :
    t'.Inv kind auth := by
  refine h.frames (heff.both heff.half heff.half_other)
    (heff.both (fun g hg => .inl (heff.flight ▸ hg)) fun g hg => ?_) (heff.both ?_ ?_)
  · rw [heff.flight_other] at hg
    refine (mem_append.1 hg).imp id fun hg => ?_
    rw [mem_singleton.1 hg]
    exact hcarries
  · rw [chaps, heff.flight, chaps]
  · rw [chaps, heff.flight_other, filter_append]
    simp [chaps, hchap]

/-- A frame that is none of CHAP is lost. -/
lemma Inv.lose [DecidableEq F] (hchap : (kind x f).isCHAP = false)
    (heff : t.Effect t' x (t.half x) ((t.flight x).erase f) (t.flight x.other)) :
    t'.Inv kind auth := by
  obtain ⟨hx, hy⟩ := chaps_erase kind heff
  rw [chaps_erase_of_not hchap] at hx
  exact h.frames (heff.both heff.half heff.half_other)
    (heff.both (fun g hg => .inl (mem_of_mem_erase (heff.flight ▸ hg)))
      fun g hg => .inl (heff.flight_other ▸ hg)) (heff.both hx hy)

/-- A side that is closed takes frames and does nothing. -/
lemma Inv.ignore [DecidableEq F] (hf : f ∈ t.flight x)
    (hclosed : (t.half x).phase = .closed)
    (heff : t.Effect t' x (t.half x) ((t.flight x).erase f) (t.flight x.other)) :
    t'.Inv kind auth := by
  by_cases hchap : (kind x f).isCHAP = false
  · exact h.lose hchap heff
  have hhalf : ∀ y, t'.half y = t.half y := heff.both heff.half heff.half_other
  have hflight : ∀ y, ∀ g ∈ t'.flight y, g ∈ t.flight y :=
    heff.both (fun g hg => mem_of_mem_erase (heff.flight ▸ hg))
      fun g hg => heff.flight_other ▸ hg
  obtain ⟨hx, hy⟩ := chaps_erase kind heff
  -- the frame of a CHAP exchange that is over
  have hmem : f ∈ t.chaps kind x := mem_chaps.2 ⟨hf, by simpa using hchap⟩
  cases x with
  | server =>
    exact nomatch (h.token.to_server hmem).2.2.2.2.1.symm.trans hclosed
  | client =>
    have hlate : (t.half .client).phase.Late := .inr (.inr hclosed)
    refine h.of_half hhalf (fun y g hg => .inl (hflight y g hg)) (fun _ => .inl (.inr hclosed)) ?_
    obtain ⟨hauth, hc, hs, ⟨-, -, hpc⟩ | ⟨-, -, hpc⟩ | ⟨-, hps⟩⟩ := h.token.to_client hmem
    · exact absurd hlate hpc
    · exact absurd hlate hpc
    · exact .after hauth (by rw [hhalf]; exact .inr (.inr hps)) (by rw [hhalf]; exact hlate)
        (by rw [hx, hc]; simp) (hy.trans hs)

lemma Inv.runOut (hdone : (t.half x.other).phase.Done)
    (heff : t.Effect t' x (t.half x).close (t.flight x) (t.flight x.other)) :
    t'.Inv kind auth := by
  have hgrows : ∀ y, (t.half y).Grows (t'.half y) := heff.both
    (by rw [heff.half]; exact Half.grows_close _) (by rw [heff.half_other]; exact .refl _)
  have hchaps : ∀ y, t'.chaps kind y = t.chaps kind y :=
    heff.both (by rw [chaps, heff.flight, chaps]) (by rw [chaps, heff.flight_other, chaps])
  have hflight : ∀ y, t'.flight y = t.flight y := heff.both heff.flight heff.flight_other
  have hup : ∀ y, (t.half y).phase = .up → (t.half y.other).phase.Late := fun y hy =>
    h.granted y ((h.sound y).up hy).2
  refine ⟨heff.both (by rw [heff.half]; exact (h.sound x).close)
      (by rw [heff.half_other]; exact h.sound _),
    heff.both (fun p hl => ?_) fun p hl => ?_, heff.both (fun hr => ?_) fun hr => ?_,
    fun y g hg => (h.carries y g (hflight y ▸ hg)).mono hgrows, fun hc => ?_, fun hc => ?_, ?_⟩
  · rw [heff.half_other]
    exact h.opened x p (by simpa [heff.half] using hl)
  · rw [heff.half_other] at hl
    exact (hgrows _).remote p (h.opened _ p hl)
  · rw [heff.half_other]
    exact h.granted x (by simpa [heff.half] using hr)
  · rw [heff.half_other] at hr
    exact (hgrows _).late (h.granted _ hr)
  · cases x with
    | client => exact (hgrows .server).done hdone
    | server => exact .inr (by rw [heff.half]; rfl)
  · cases x with
    | client => exact .inl (.inr (by rw [heff.half]; rfl))
    | server => exact .inl ((hgrows .client).done hdone)
  · cases x with
    | client =>
      have hs : (t'.half .server).phase = (t.half .server).phase :=
        congrArg Half.phase heff.half_other
      have hc : (t'.half .client).phase = .closed := by rw [heff.half]; rfl
      have hlate : (t'.half .client).phase.Late := .inr (.inr hc)
      cases h.token with
      | free hauth hc₀ hs₀ => exact .free hauth ((hchaps _).trans hc₀) ((hchaps _).trans hs₀)
      | before _ hps _ _ _ | challenged _ hps _ _ _ _ _ | answered _ hps _ _ _ _ _ =>
        simp [Side.other, hps, Phase.Done] at hdone
      | accepted _ hps hpc _ _ _ _ =>
        rcases hps with hps | hps
        · simp [Side.other, hps, Phase.Done] at hdone
        · exact absurd (hup .server hps) hpc
      | refused hauth hps hpc g hg hc₀ hs₀ =>
        exact .refused hauth (hs.trans hps) (fun _ => hc) g hg ((hchaps _).trans hc₀)
          ((hchaps _).trans hs₀)
      | after hauth hps _ hc₀ hs₀ =>
        exact .after hauth (hs ▸ hps) hlate ((hchaps _).trans hc₀) ((hchaps _).trans hs₀)
    | server =>
      have hc : (t'.half .client).phase = (t.half .client).phase :=
        congrArg Half.phase heff.half_other
      have hs : (t'.half .server).phase = .closed := by rw [heff.half]; rfl
      have hlate : (t.half .client).phase.Late := hdone.late
      cases h.token with
      | free hauth hc₀ hs₀ => exact .free hauth ((hchaps _).trans hc₀) ((hchaps _).trans hs₀)
      | before _ _ hpc _ _ | challenged _ _ hpc _ _ _ _ | answered _ _ hpc _ _ _ _
      | accepted _ _ hpc _ _ _ _ => exact absurd hlate hpc
      | refused hauth hps hpc g hg hc₀ hs₀ =>
        exact .refused hauth hs (by rw [hc]; exact hpc) g hg ((hchaps _).trans hc₀)
          ((hchaps _).trans hs₀)
      | after hauth _ _ hc₀ hs₀ =>
        exact .after hauth (.inr (.inr hs)) (hc ▸ hlate) ((hchaps _).trans hc₀)
          ((hchaps _).trans hs₀)

/-- **The step.** -/
theorem Inv.step [DecidableEq F] {e : LinkEvent F}
    (hs : t.Step kind auth e t') : t'.Inv kind auth := by
  cases hs with
  | deliver x f hf hopen h' out hturn heff => exact h.deliver hf hopen hturn heff
  | ignore x f hf hclosed heff => exact h.ignore hf hclosed heff
  | lose x f hf hchap heff => exact h.lose hchap heff
  | duplicate x f hf hchap heff =>
    refine h.frames (heff.both heff.half heff.half_other) (heff.both (fun g hg => .inl ?_)
      fun g hg => .inl (heff.flight_other ▸ hg)) (heff.both ?_ ?_)
    · rw [heff.flight] at hg
      exact (mem_append.1 hg).elim id fun hg => mem_singleton.1 hg ▸ hf
    · rw [chaps, heff.flight, filter_append]
      simp [chaps, hchap]
    · rw [chaps, heff.flight_other, chaps]
  | fire x p hopen f harmed hkind heff =>
    have hcarries : t.Carries x.other (kind x.other f) := by
      rw [hkind]
      refine ⟨fun hp => ?_, fun hbad => ?_⟩
      · subst hp
        rw [Side.other_other]
        by_contra hl
        exact nomatch harmed.symm.trans ((h.sound x).early hl).2
      · cases x with
        | client => rfl
        | server => exact nomatch ((h.sound .server).good p (.inr rfl)).symm.trans hbad
    exact h.sends hcarries (by rw [hkind]; rfl) heff
  | runOut x p hdone heff => exact h.runOut hdone heff
  | echo f hkind heff =>
    refine h.sends (x := .client) ?_ ?_ heff
    · exact hkind ▸ trivial
    · exact hkind ▸ rfl
  | moot _ _ heq => exact heq ▸ h

/-! ### A link that waits -/

/-- A side that waits for the other one is not alone. -/
lemma Inv.other_open (hx : ¬ (t.half x).phase.Done)
    (hquiet : t.flight .client = []) : (t.half x.other).phase ≠ .closed := by
  intro hc
  cases x with
  | client =>
    rcases h.serverClosed hc with hd | ⟨f, hf, -⟩
    · exact hx hd
    · exact nomatch hquiet ▸ hf
  | server => exact hx (h.clientClosed hc)

/-- A protocol that is not open in both directions has an armed timer, at one side or the other. -/
lemma Inv.armed_of_not_both {p : Proto} (hx : (t.half x).phase.Active p)
    (hy : (t.half x.other).phase.Active p) (hboth : ¬ (t.half x).Both p) :
    ∃ y, ((t.half y).cp p).armed = true := by
  by_cases hl : ((t.half x).cp p).localOpen = false
  · exact ⟨x, (h.sound x).timer p hx hl⟩
  · refine ⟨x.other, (h.sound _).timer p hy ?_⟩
    by_contra hother
    have := h.opened _ p (by simpa using hother)
    rw [Side.other_other] at this
    exact hboth ⟨by simpa using hl, this⟩

/-- Without authentication IPCP follows LCP. -/
lemma Inv.late_of_free (hauth : auth = false)
    (hlcp : (t.half x).phase ≠ .lcp) (hopen : (t.half x).phase ≠ .closed) :
    (t.half x).phase.Late := by
  have hnot : (t.half x).phase ≠ .auth := fun hph =>
    nomatch hauth.symm.trans ((h.sound x).challenge hph).2
  generalize (t.half x).phase = ph at *
  cases ph <;> simp_all [Phase.Late]

/-- **A link that waits has an armed timer.** -/
theorem Inv.armed (hx : ¬ (t.half x).phase.Done)
    (hquiet : ∀ y, t.flight y = []) : ∃ y p, ((t.half y).cp p).armed = true := by
  have hopen : (t.half x).phase ≠ .closed := fun hc => hx (.inr hc)
  have hother := h.other_open hx (hquiet _)
  by_cases hlcp : (t.half x).Both .lcp ∧ (t.half x.other).Both .lcp
  · have hne : ∀ y, (t.half y).Both .lcp → (t.half y).phase ≠ .lcp := fun y hb hph =>
      (h.sound y).lcp hph hb
    have hlate : (t.half x).phase.Late ∧ (t.half x.other).phase.Late := by
      have hsides : ∀ y, (t.half y).phase ≠ .lcp ∧ (t.half y).phase ≠ .closed :=
        fun y => (y.eq_or_eq_other x).elim (fun he => he ▸ ⟨hne x hlcp.1, hopen⟩)
          fun he => he ▸ ⟨hne _ hlcp.2, hother⟩
      have hchaps : ∀ y, t.chaps kind y = [] := fun y => by rw [chaps, hquiet]; rfl
      suffices hall : ∀ y, (t.half y).phase.Late from ⟨hall _, hall _⟩
      cases h.token with
      | free hauth _ _ => exact fun y => h.late_of_free hauth (hsides y).1 (hsides y).2
      | before _ hps _ _ _ => exact absurd hps (hsides _).1
      | challenged _ _ _ _ _ hc _ | accepted _ _ _ _ _ hc _ | refused _ _ _ _ _ hc _ =>
        exact nomatch (hchaps _).symm.trans hc
      | answered _ _ _ _ _ _ hs => exact nomatch (hchaps _).symm.trans hs
      | after _ hps hpc _ _ =>
        intro y
        cases y
        · exact hpc
        · exact hps
    have hipcp : ¬ (t.half x).Both .ipcp := by
      rcases hlate.1 with hph | hph
      · exact (h.sound x).ipcp hph
      · exact absurd hph hx
    obtain ⟨y, hy⟩ := h.armed_of_not_both (hlate.1.active hopen) (hlate.2.active hother) hipcp
    exact ⟨y, .ipcp, hy⟩
  · rcases not_and_or.1 hlcp with hb | hb
    · obtain ⟨y, hy⟩ := h.armed_of_not_both (p := .lcp) hopen hother hb
      exact ⟨y, .lcp, hy⟩
    · obtain ⟨y, hy⟩ := h.armed_of_not_both (p := .lcp) (x := x.other) hother
        (by rw [Side.other_other]; exact hopen) hb
      exact ⟨y, .lcp, hy⟩

end Talk

end Veepin.PPP
