import Veepin.IKEv2.Client.Rekey
import Veepin.IKEv2.Client.SAInitAgreement

/-!
# The two ends of a Child SA

A Child SA comes up at the end of the handshake and at each `RekeyChild`, by other code each time.
The two ends of one are `Crosswise` if what one sends the other receives, in the same mode.

* `connect_crosswise` — the handshake leaves the two ends crosswise, whichever way the client
  authenticates;
* `exchange_crosswise` — a `RekeyChild` that completes does so exactly if the Child SA before it did
  not use AGGFRAG.  USE_AGGFRAG is negotiated in IKE_AUTH only: the client takes the mode of the old
  Child SA over, and the responder's new one does not have it.
-/

namespace Veepin.IKE

open List Function

variable {c : Crypto} {P : Type} {cfg : Config P} {sa : IKESA} {r : Request} {id : ℕ} {pools : P}
  {inners : List RawPayload}

/-- **The two ends fit together.** -/
def Crosswise (res : ClientResult) (child : ChildSA) : Prop :=
  Paired res child ∧ res.aggFrag = child.aggFrag

instance (res : ClientResult) (child : ChildSA) : Decidable (Crosswise res child) :=
  inferInstanceAs (Decidable (_ ∧ _))

/-! ## Requests before IKE_AUTH is over -/

/-- A request on a half-open SA keeps the SA where it is, and its nonces. -/
lemma Move.of_halfOpen {o : Outcome P} (h : Move c cfg sa r id pools o) (hs : sa.state.halfOpen) :
    o.stored = none ∧ o.close = false ∧ o.sa.ni = sa.ni ∧ o.sa.nr = sa.nr := by
  have keep : o.sa.core.ni = sa.core.ni → o.sa.core.nr = sa.core.nr →
      o.sa.ni = sa.ni ∧ o.sa.nr = sa.nr := fun hi hr => ⟨hi, hr⟩
  have not_established : sa.state ≠ .established ∧ sa.state ≠ .deleting := by
    constructor <;> intro he <;> rw [he] at hs <;> exact absurd hs (by decide)
  cases h with
  | kept hp _ hcore | eapBegun _ hp _ _ hcore | eapTurned _ _ hp _ _ _ _ _ _ _ _ hcore
  | kemKeyed _ hp _ _ _ _ _ _ _ _ _ hcore =>
    exact ⟨hp.stored, hp.close, keep (by rw [hcore]) (by rw [hcore])⟩
  | authenticated _ _ _ hstored hclose k hlease hcore =>
    have hk : k.ni = sa.core.ni ∧ k.nr = sa.core.nr := by
      cases hlease with
      | unasked hk | refused _ _ _ _ _ _ hk | given _ _ _ _ _ hk => rw [hk]; exact ⟨rfl, rfl⟩
    exact ⟨hstored, hclose, keep (by rw [hcore]; exact hk.1) (by rw [hcore]; exact hk.2)⟩
  | childAdded hs' | rekeyed hs' => exact absurd hs' not_established.1
  | closed hs' => exact absurd hs' (by simp [not_established])

/-- The exchanges before IKE_AUTH is over are allowed on a half-open SA only. -/
lemma halfOpen_of_allowed {st : SAState} {ex : UInt8} (hex : ex = ikeAuth ∨ ex = ikeIntermediate)
    (h : exchangeAllowed st ex = true) : st.halfOpen = true := by
  rw [exchangeAllowed, if_pos hex] at h
  exact h

section Ask

variable {s s' : Server P} {cl : Client} {o : Outgoing} {h : Hop} {reply : Protected}

lemma ask_ok (hok : s.ask c cl o h = .ok (s', reply)) : ∃ sa inners, Served s (cl.message o) sa ∧
      (s.outcome c (cl.message o) h sa).reply = some inners ∧
      reply = replyMessage (sa.heardFrom h) ((cl.message o).request h) inners ∧
      s' = (s.conclude c (sa.heardFrom h) ((cl.message o).request h)
        (s.outcome c (cl.message o) h sa)).server := by
  unfold Server.ask at hok
  rcases hserve : s.serve c (cl.message o) h with ⟨s'', _ | reply'⟩
  · rw [hserve] at hok
    cases hok
  rw [hserve] at hok
  obtain ⟨rfl, rfl⟩ := Prod.mk.inj (Except.ok.inj hok)
  obtain ⟨sa, hserved⟩ := serve_answered (congrArg Prod.snd hserve)
  rw [hserved.serve] at hserve
  obtain ⟨hs, hreply⟩ := Prod.mk.inj hserve
  obtain ⟨inners, hinners, he⟩ := Option.map_eq_some_iff.mp hreply
  exact ⟨sa, inners, hserved, hinners, he.symm, hs.symm⟩

/-- What is behind the answer to a request before IKE_AUTH is over. -/
structure Asked (c : Crypto) (s : Server P) (cl : Client) (o : Outgoing) (h : Hop) (sa : IKESA)
    (s' : Server P) : Prop where
  served : Served s (cl.message o) sa
  lookup : s'.byRSPI.lookup cl.spiR = some (s.outcome c (cl.message o) h sa).sa
  ni : (s.outcome c (cl.message o) h sa).sa.ni = sa.ni
  nr : (s.outcome c (cl.message o) h sa).sa.nr = sa.nr

/-- The SA of the client is the one that is asked. -/
lemma Asked.eq_of_lookup {sa₀ : IKESA} (hasked : Asked c s cl o h sa s')
    (hl : s.byRSPI.lookup cl.spiR = some sa₀) : sa₀ = sa :=
  Option.some.inj (hl.symm.trans hasked.served.lookup)

lemma Served.asked (hserved : Served s (cl.message o) sa) (h : Hop)
    (hex : o.exchangeType = ikeAuth ∨ o.exchangeType = ikeIntermediate) :
    Asked c s cl o h sa (s.conclude c (sa.heardFrom h) ((cl.message o).request h)
      (s.outcome c (cl.message o) h sa)).server := by
  have hhalf : (sa.heardFrom h).state.halfOpen = true := halfOpen_of_allowed hex hserved.allowed
  obtain ⟨hstored, hclose, hni, hnr⟩ := (hserved.move (c := c) h).of_halfOpen hhalf
  refine ⟨hserved, ?_, hni, hnr⟩
  rw [conclude_byRSPI hclose, hstored]
  exact AList.lookup_insert _

lemma askInners_ok (hex : o.exchangeType = ikeAuth)
    (hok : s.askInners c cl o h = .ok (s', inners)) :
    ∃ sa, Asked c s cl o h sa s' ∧ (s.outcome c (cl.message o) h sa).reply = some inners ∧
      checkInners inners = .ok inners := by
  unfold Server.askInners at hok
  obtain ⟨⟨s'', reply⟩, hask, hok⟩ := except_bind_ok.mp hok
  obtain ⟨inners', hacc, hok⟩ := except_bind_ok.mp hok
  obtain ⟨rfl, rfl⟩ := Prod.mk.inj (Except.ok.inj hok)
  obtain ⟨sa, inners'', hserved, hreply, rfl, rfl⟩ := ask_ok hask
  unfold Client.accept at hacc
  split_ifs at hacc
  obtain rfl : inners'' = inners' := eq_of_checkInners hacc
  exact ⟨sa, hserved.asked h (Or.inl hex), hreply, hacc⟩

end Ask

/-! ## The responder's IKE_AUTH -/

lemma ne_ok_of_refusal {nt : ℕ} (hnt : nt < 16384 ∧ nt ≠ 0) :
    checkInners [notifyPayload { type := nt }] ≠ .ok inners := by
  have ht : nt < 2 ^ 16 := hnt.1.trans (by decide)
  have hs : ([] : Bytes).length < 2 ^ 8 := by decide
  rw [checkInners, findNotifyError_cons (n := { type := nt }) ht hs, if_pos hnt]
  exact fun h => nomatch h

/-- A response so far: neither a Child SA is in it, nor a notify. -/
def Bare (b : List RawPayload) : Prop :=
  ∀ t ∈ b.map RawPayload.type, t ≠ typeSA ∧ t ≠ typeNotify

/-- The SA is the same as far as the keys of a Child SA and the saved request for one go. -/
structure SameKeying (sa sa' : IKESA) : Prop where
  suite : sa'.suite = sa.suite
  keys : sa'.keys = sa.keys
  ni : sa'.ni = sa.ni
  nr : sa'.nr = sa.nr
  saved : sa'.eapSApay = sa.eapSApay

/-- The end of a handler that the client does not read an error from: the initiator has been
authenticated. -/
def Finished (c : Crypto) (cfg : Config P) (sa : IKESA) (r : Request) (pools : P) (o : Outcome P) :
    Prop :=
  ∃ sa' b, o = finishIKEAuth c cfg sa' r pools b ∧ SameKeying sa sa' ∧ Bare b

lemma Bare.append {b b' : List RawPayload} (h : Bare b) (h' : Bare b') : Bare (b ++ b') := by
  intro t ht
  rw [map_append, mem_append] at ht
  exact ht.elim (h t) (h' t)

variable {t : UInt8} {es : ESPSuite} {auth body : Bytes} {q : Proposal}

lemma bare_singleton (ht : t ≠ typeSA ∧ t ≠ typeNotify) (body : Bytes) :
    Bare [⟨t, false, body⟩] := by
  intro t' ht'
  rw [mem_singleton.mp ht']
  exact ht

lemma bare_map {α : Type} (ht : t ≠ typeSA ∧ t ≠ typeNotify) (body : α → Bytes) (xs : List α) :
    Bare (xs.map fun x => ⟨t, false, body x⟩) := by
  intro t' ht'
  simp only [map_map, mem_map, comp_apply] at ht'
  obtain ⟨x, -, rfl⟩ := ht'
  exact ht

lemma handleCertAuth_cases {old : IKESA} (hsame : SameKeying old sa) (auth : AuthPayload) :
    handleCertAuth c cfg sa r auth pools = refuse sa pools authenticationFailed ∨
      Finished c cfg old r pools (handleCertAuth c cfg sa r auth pools) := by
  unfold handleCertAuth
  split_ifs
  · exact Or.inl rfl
  split
  · exact Or.inl rfl
  split
  · exact Or.inl rfl
  · refine Or.inr ⟨sa, _, rfl, hsame, ?_⟩
    exact ((bare_singleton (by decide) _).append (bare_map (by decide) _ _)).append
      (bare_singleton (by decide) _)

/-- A handler has refused the request, or has finished. -/
def RefusedOr (o : Outcome P) (Q : Prop) : Prop :=
  (∃ sa' pools' nt, o = refuse sa' pools' nt ∧ nt < 16384 ∧ nt ≠ 0) ∨ Q

lemma refusedOr_failed (sa : IKESA) (pools : P) (Q : Prop) :
    RefusedOr (refuse sa pools authenticationFailed) Q :=
  Or.inl ⟨sa, pools, _, rfl, by decide, by decide⟩

lemma refusedOr_malformed (sa : IKESA) (pools : P) (Q : Prop) :
    RefusedOr (refuse sa pools invalidSyntax) Q :=
  Or.inl ⟨sa, pools, _, rfl, by decide, by decide⟩

/-- The client reads an error from a refusal. -/
lemma RefusedOr.resolve {o : Outcome P} {Q : Prop} (h : RefusedOr o Q)
    (hreply : o.reply = some inners)
    (hok : checkInners inners = .ok inners) : Q := by
  obtain ⟨sa', pools', nt, rfl, hnt⟩ | h := h
  · rw [← Option.some.inj hreply] at hok
    exact absurd hok (ne_ok_of_refusal hnt)
  · exact h

/-- The first IKE_AUTH, with an AUTH payload. -/
lemma handleIKEAuth_cases (heap : sa.eapServer = none)
    (hauth : (findInner r.inners typeAUTH).isSome) :
    RefusedOr (handleIKEAuth c cfg sa r pools)
      (Finished c cfg sa r pools (handleIKEAuth c cfg sa r pools)) := by
  obtain ⟨authPay, hauth⟩ := Option.isSome_iff_exists.mp hauth
  simp only [handleIKEAuth, heap, hauth]
  split
  · exact refusedOr_failed _ _ _
  split
  · exact refusedOr_malformed _ _ _
  rename_i idi _
  split
  · exact refusedOr_malformed _ _ _
  rename_i auth _
  have hsame : SameKeying sa (sa.identified r idi) := ⟨rfl, rfl, rfl, rfl, rfl⟩
  unfold handleAuthPayload
  split_ifs
  · exact refusedOr_failed _ _ _
  · exact (handleCertAuth_cases hsame auth).imp (fun h => ⟨_, _, _, h, by decide, by decide⟩) id
  · exact refusedOr_failed _ _ _
  · exact refusedOr_failed _ _ _
  · refine Or.inr ⟨sa.identified r idi, _, rfl, hsame, ?_⟩
    exact (bare_singleton (by decide) _).append (bare_singleton (by decide) _)

/-- The first IKE_AUTH, without one: EAP begins, and the request for a Child SA is saved. -/
lemma handleIKEAuth_begins (heap : sa.eapServer = none)
    (hauth : findInner r.inners typeAUTH = none) :
    RefusedOr (handleIKEAuth c cfg sa r pools)
      ((handleIKEAuth c cfg sa r pools).sa.eapServer.isSome ∧
        (handleIKEAuth c cfg sa r pools).sa.eapSApay =
          savePayload r.inners typeSA sa.eapSApay) := by
  simp only [handleIKEAuth, heap, hauth]
  split
  · exact refusedOr_failed _ _ _
  split
  · exact refusedOr_malformed _ _ _
  split_ifs
  · unfold handleEAPStart
    split
    · exact refusedOr_failed _ _ _
    · exact Or.inr ⟨rfl, rfl⟩
  · exact refusedOr_failed _ _ _

/-- A further message of EAP, without an AUTH payload. -/
lemma handleIKEAuth_continues (heap : sa.eapServer.isSome)
    (hauth : findInner r.inners typeAUTH = none) :
    (handleIKEAuth c cfg sa r pools).sa.eapServer.isSome ∧
      (handleIKEAuth c cfg sa r pools).sa.eapSApay = sa.eapSApay := by
  obtain ⟨srv, hsrv⟩ := Option.isSome_iff_exists.mp heap
  simp only [handleIKEAuth, hsrv, handleEAPContinue, handleEAPFinalAuth, hauth]
  split
  · exact ⟨heap, rfl⟩
  split
  · exact ⟨heap, rfl⟩
  split
  · exact ⟨heap, rfl⟩
  · exact ⟨rfl, rfl⟩

/-- The last message of EAP, with an AUTH payload and nothing else. -/
lemma handleIKEAuth_ends (heap : sa.eapServer.isSome)
    (hin : r.inners = [⟨typeAUTH, false, auth⟩]) :
    RefusedOr (handleIKEAuth c cfg sa r pools)
      (Finished c cfg sa r pools (handleIKEAuth c cfg sa r pools)) := by
  obtain ⟨srv, hsrv⟩ := Option.isSome_iff_exists.mp heap
  have hauth : findInner r.inners typeAUTH = some ⟨typeAUTH, false, auth⟩ := by rw [hin]; rfl
  have heapPay : findInner r.inners typeEAP = none := by rw [hin]; rfl
  simp only [handleIKEAuth, hsrv, handleEAPContinue, handleEAPFinalAuth, hauth, heapPay]
  split
  · split
    · exact refusedOr_malformed _ _ _
    split_ifs
    · exact refusedOr_failed _ _ _
    · exact Or.inr ⟨sa.expectAfter r, _, rfl, ⟨rfl, rfl, rfl, rfl, rfl⟩,
        bare_singleton (by decide) _⟩
  · exact refusedOr_failed _ _ _

/-! ## The Child SA of IKE_AUTH -/

/-- What the client takes from the last response. -/
lemma applyAuthResult_ok {cl cl' : Client} {spi : ℕ} {p : Proposal}
    (hsa : findInner inners typeSA = some ⟨typeSA, false, body⟩) (hparse : parseSA body = some [p])
    (hselect : selectESPSuite [p] = some (es, q))
    (hok : cl.applyAuthResult c inners spi = .ok cl') :
    ∃ res : ClientResult, res.inboundSPI = spi ∧ res.outboundSPI = espSPI [p] ∧
      res.aggFrag = (cl.cfg.iptfs && (acceptAggFrag inners).isSome) ∧
      cl'.spiR = cl.spiR ∧ cl'.result = some (res.keyed es
        (deriveChildKeys c cl.suite cl.keys.skd cl.ni cl.nr es.keyMatLen)) := by
  simp only [Client.applyAuthResult, hsa, hparse, Option.getD_some, hselect] at hok
  split_ifs at hok
  obtain rfl := Except.ok.inj hok
  refine ⟨_, ?_, ?_, ?_, rfl, rfl⟩
  all_goals
    unfold ClientResult.withAggFrag
    split_ifs with hiptfs
  · rfl
  · rfl
  · rfl
  · rfl
  · rw [hiptfs]
    rfl
  · rw [Bool.eq_false_iff.mpr hiptfs]
    rfl

variable {ps : List RawPayload}

/-- The echo of USE_AGGFRAG asks for nothing that cannot be met. -/
lemma acceptAggFrag_echo (h : findNotify ps useAggFrag = some { type := useAggFrag, data := [0] }) :
    acceptAggFrag ps = some 0 := by
  rw [acceptAggFrag, h]
  rfl

lemma findNotify_append {t : ℕ} (h : findNotify ps t = none) (ps' : List RawPayload) :
    findNotify (ps ++ ps') t = findNotify ps' t := by
  rw [findNotify, filterMap_append, find?_append]
  rw [findNotify] at h
  rw [h]
  rfl

lemma findNotify_eq_none (h : ∀ t ∈ ps.map RawPayload.type, t ≠ typeNotify) (t : ℕ) :
    findNotify ps t = none := by
  have hnone : (ps.filterMap fun p => if p.type = typeNotify then parseNotify p.body else none) =
      [] := by
    refine filterMap_eq_nil_iff.mpr fun p hp => if_neg ?_
    exact h p.type (mem_map_of_mem hp)
  rw [findNotify, hnone]
  rfl

variable {b : List RawPayload}

lemma findNotify_bare (hb : Bare b) (t : ℕ) : findNotify b t = none :=
  findNotify_eq_none (fun t' ht' => (hb t' ht').2) t

lemma findNotify_mobike :
    findNotify [notifyPayload { type := mobikeSupported }] useAggFrag = none := by
  have hs : ([] : Bytes).length < 2 ^ 8 := by decide
  exact (findNotify_cons (show mobikeSupported < 2 ^ 16 by decide) hs _ _).trans
    (if_neg (by decide))

lemma findInner_append (h : findInner ps t = none) (ps' : List RawPayload) :
    findInner (ps ++ ps') t = findInner ps' t := by
  rw [findInner] at h ⊢
  rw [find?_append, h]
  rfl

/-- The Child SA that the responder has installed, and the one that the client takes from the
response with the payloads `inners`. -/
structure Installs (c : Crypto) (cfg : Config P) (sa : IKESA) (r : Request)
    (inners : List RawPayload) (spi : ℕ) (o : Outcome P) (child : ChildSA) : Prop where
  inSPI : child.inboundSPI = r.env.childSPI
  entered : o.sa.children.lookup r.env.childSPI = some child
  aggFrag : child.aggFrag = (cfg.aggFragFlags r.inners).isSome
  echoed : (acceptAggFrag inners).isSome = (cfg.aggFragFlags r.inners).isSome
  taken : ∀ cl cl' : Client, cl.suite = sa.suite → cl.keys = sa.keys → cl.ni = sa.ni →
    cl.nr = sa.nr → cl.applyAuthResult c inners spi = .ok cl' →
      ∃ res, cl'.result = some res ∧ cl'.spiR = cl.spiR ∧ Paired res child ∧
        res.aggFrag = (cl.cfg.iptfs && (acceptAggFrag inners).isSome)

/-- The response with a Child SA in it. -/
def childPart (accepted : Proposal) (tsi tsr : Bytes) (rest : List RawPayload) : List RawPayload :=
  ⟨typeSA, false, marshalSA [accepted]⟩ :: ⟨typeTSi, false, tsi⟩ :: ⟨typeTSr, false, tsr⟩ :: rest

lemma findInner_childPart (hb : findInner b typeSA = none) (accepted : Proposal) (tsi tsr : Bytes)
    (rest : List RawPayload) :
    findInner (b ++ childPart accepted tsi tsr rest) typeSA =
      some ⟨typeSA, false, marshalSA [accepted]⟩ := by
  rw [findInner_append hb]
  rfl

lemma findNotify_childPart {t : ℕ} (hb : findNotify b t = none) (accepted : Proposal)
    (tsi tsr : Bytes) (rest : List RawPayload) :
    findNotify (b ++ childPart accepted tsi tsr rest) t = findNotify rest t := by
  rw [findNotify_append hb, childPart, findNotify_skip (show typeSA ≠ typeNotify by decide),
    findNotify_skip (show typeTSi ≠ typeNotify by decide),
    findNotify_skip (show typeTSr ≠ typeNotify by decide)]

variable {child : ChildSA}

/-- A Child SA that fits the one of `setupChildSA`, with the response that says so. -/
lemma installChild_installs {rest : List RawPayload} {spi : ℕ} (hlt : spi < 2 ^ 32)
    {accepted : Proposal} (hspi : accepted.spi = putBE32 spi)
    (hfits : ({ accepted with spi := putBE32 r.env.childSPI } : Proposal).Fits)
    (hselect : selectESPProposal { accepted with spi := putBE32 r.env.childSPI } = some (es, q))
    (hb : findInner b typeSA = none) (hn : findNotify b useAggFrag = none) {tsi tsr tsi' : Bytes}
    (hchild : ∀ res, Paired res (setupChildSA c sa es accepted tsi tsr sa.ni sa.nr r.env).1 →
      Paired res child) (hin : child.inboundSPI = r.env.childSPI)
    (hagg : child.aggFrag = (cfg.aggFragFlags r.inners).isSome)
    (hrest : findNotify rest useAggFrag =
      (cfg.aggFragFlags r.inners).map fun _ => { type := useAggFrag, data := [0] }) :
    Installs c cfg sa r
      (b ++ childPart { accepted with spi := putBE32 r.env.childSPI } tsi' tsr rest) spi
      (installChild cfg (sa.establish r) child pools
        (b ++ childPart { accepted with spi := putBE32 r.env.childSPI } tsi' tsr rest)) child := by
  refine ⟨hin, ?_, hagg, ?_, ?_⟩
  · rw [← hin]
    exact AList.lookup_insert _
  · have hfound := (findNotify_childPart hn { accepted with spi := putBE32 r.env.childSPI } tsi' tsr
      rest).trans hrest
    cases hflags : cfg.aggFragFlags r.inners with
    | none =>
      rw [hflags] at hfound
      rw [acceptAggFrag, hfound]
      rfl
    | some flags =>
      rw [hflags] at hfound
      rw [acceptAggFrag_echo hfound]
      rfl
  · intro cl cl' hs hk hni hnr hok
    have hsuite : selectESPSuite [{ accepted with spi := putBE32 r.env.childSPI }] =
        some (es, q) := by
      rw [selectESPSuite, findSome?_cons, hselect]
    obtain ⟨res, hinb, hout, hmode, hspiR, hres⟩ := applyAuthResult_ok
      (findInner_childPart hb _ tsi' tsr rest) (parseSA_marshalSA (by simpa using hfits)) hsuite hok
    rw [hs, hk, hni, hnr] at hres
    refine ⟨_, hres, hspiR, hchild _ (paired_setupChildSA ?_ ?_ ?_), hmode⟩
    · rw [hinb, hspi]
    · rw [hinb]
      exact hlt
    · rw [hout, espSPI_singleton accepted r.env.childSPI_lt]

/-- The Child SA half. -/
lemma finishChild_installs {spi : ℕ} (hlt : spi < 2 ^ 32)
    (hsaved : savedOr r.inners typeSA sa.eapSApay =
      some (marshalSA (defaultESPProposals (putBE32 spi)))) (hb : findInner b typeSA = none)
    (hn : findNotify b useAggFrag = none)
    (hreply : (finishChild c cfg sa r pools b).reply = some inners)
    (hsa : (findInner inners typeSA).isSome) :
    ∃ child, Installs c cfg sa r inners spi (finishChild c cfg sa r pools b) child := by
  obtain ⟨hprops, p, hp, es, accepted, hselect, hsuite, hspi⟩ :=
    defaultESPProposals_spec (length_putBE32_lt spi)
  obtain ⟨hecho, q, hagain⟩ :=
    selectESPProposal_echo hselect (hprops p hp) (length_putBE32_lt r.env.childSPI)
  unfold finishChild at hreply ⊢
  cases hq : sa.childRequest r.inners with
  | none =>
    rw [hq] at hreply
    obtain rfl : b = inners := Option.some.inj hreply
    rw [hb] at hsa
    cases hsa
  | some request =>
    have hrequest : request.sa = marshalSA (defaultESPProposals (putBE32 spi)) := by
      obtain ⟨body, hbody, hq⟩ := Option.bind_eq_some_iff.mp hq
      obtain ⟨tsi, -, hq⟩ := Option.bind_eq_some_iff.mp hq
      obtain ⟨tsr, -, hq⟩ := Option.bind_eq_some_iff.mp hq
      rw [← Option.some.inj hq]
      exact Option.some.inj (hbody.symm.trans hsaved)
    have hagree : agreeChild c sa request r.env =
        some (setupChildSA c sa es accepted request.tsi request.tsr sa.ni sa.nr r.env) := by
      simp only [agreeChild, hrequest, parseSA_marshalSA hprops, hsuite, bind, Option.bind]
      rfl
    rw [hq] at hreply
    simp only [hagree] at hreply ⊢
    have hkeeps := narrowed_keeps
      (setupChildSA c sa es accepted request.tsi request.tsr sa.ni sa.nr r.env).1 sa request.tsi
    cases hflags : cfg.aggFragFlags r.inners with
    | none =>
      rw [hflags] at hreply
      obtain rfl := Option.some.inj hreply
      refine ⟨_, installChild_installs hlt hspi hecho hagain hb hn
        (fun res hres => hres.placed sa request.tsi r) hkeeps.1 ?_ ?_⟩
      · rw [hflags]
        exact hkeeps.2
      · rw [hflags]
        rfl
    | some flags =>
      rw [hflags] at hreply
      obtain rfl := Option.some.inj hreply
      have hs : ([] : Bytes).length < 2 ^ 8 := by decide
      rw [append_assoc]
      refine ⟨_, installChild_installs hlt hspi hecho hagain hb hn
        (fun res (hres : Paired res (setupChildSA c sa es accepted request.tsi request.tsr sa.ni
          sa.nr r.env).1) => ?_) hkeeps.1 ?_ ?_⟩
      · exact { hres.placed sa request.tsi r with }
      · rw [hflags]
        rfl
      · rw [hflags]
        exact (findNotify_cons (show useAggFrag < 2 ^ 16 by decide) hs _ _).trans (if_pos rfl)

lemma findInner_bare (hb : Bare b) : findInner b typeSA = none := by
  refine find?_eq_none.mpr fun p hp => ?_
  rw [beq_iff_eq]
  exact (hb p.type (mem_map_of_mem hp)).1

/-- The response before the Child SA. -/
lemma buildCPReply_same (cfg : Config P) (sa : IKESA) (pools : P) (body : Option Bytes) :
    SameKeying sa (buildCPReply cfg sa pools body).1 ∧
      Bare (buildCPReply cfg sa pools body).2.2 := by
  have hnil : Bare [] := fun t ht => absurd ht not_mem_nil
  have hsame : SameKeying sa sa := ⟨rfl, rfl, rfl, rfl, rfl⟩
  unfold buildCPReply
  split
  · split
    · exact ⟨hsame, hnil⟩
    split_ifs
    · exact ⟨hsame, hnil⟩
    split
    · exact ⟨hsame, hnil⟩
    split_ifs
    · exact ⟨hsame, hnil⟩
    · exact ⟨⟨rfl, rfl, rfl, rfl, rfl⟩, bare_singleton (by decide) _⟩
  · exact ⟨hsame, hnil⟩

lemma Installs.of_same {old : IKESA} {spi : ℕ} {o : Outcome P} (hsame : SameKeying old sa)
    (h : Installs c cfg sa r inners spi o child) : Installs c cfg old r inners spi o child := by
  refine { h with taken := fun cl cl' hs hk hni hnr => ?_ }
  exact h.taken cl cl' (hs.trans hsame.suite.symm) (hk.trans hsame.keys.symm)
    (hni.trans hsame.ni.symm) (hnr.trans hsame.nr.symm)

/-- **The end of IKE_AUTH.** -/
lemma Finished.installs {spi : ℕ} {o : Outcome P} (h : Finished c cfg sa r pools o)
    (hlt : spi < 2 ^ 32)
    (hsaved : savedOr r.inners typeSA sa.eapSApay =
      some (marshalSA (defaultESPProposals (putBE32 spi))))
    (hreply : o.reply = some inners) (hsa : (findInner inners typeSA).isSome) :
    ∃ child, Installs c cfg sa r inners spi o child := by
  obtain ⟨sa', b, rfl, hsame, hb⟩ := h
  obtain ⟨hcp, hbare⟩ := buildCPReply_same cfg sa'.confirmMobike pools
    (savedOr r.inners typeCP sa'.eapCPpay)
  have hmobike : ∀ m : Bool,
      findInner (if m then [notifyPayload { type := mobikeSupported }] else []) typeSA = none ∧
      findNotify (if m then [notifyPayload { type := mobikeSupported }] else []) useAggFrag =
        none := by
    intro m
    cases m
    · exact ⟨rfl, rfl⟩
    · exact ⟨rfl, findNotify_mobike⟩
  unfold finishIKEAuth at hreply ⊢
  dsimp only at hreply ⊢
  have hsame' : SameKeying sa (buildCPReply cfg sa'.confirmMobike pools
      (savedOr r.inners typeCP sa'.eapCPpay)).1 :=
    ⟨hcp.suite.trans hsame.suite, hcp.keys.trans hsame.keys, hcp.ni.trans hsame.ni,
      hcp.nr.trans hsame.nr, hcp.saved.trans hsame.saved⟩
  obtain ⟨child, hchild⟩ := finishChild_installs hlt (by rw [hsame'.saved]; exact hsaved) (by
      rw [append_assoc, findInner_append (findInner_bare hb), findInner_append (hmobike _).1]
      exact findInner_bare hbare)
    (by
      rw [append_assoc, findNotify_append (findNotify_bare hb _), findNotify_append (hmobike _).2]
      exact findNotify_bare hbare _)
    hreply hsa
  exact ⟨child, hchild.of_same hsame'⟩

/-! ## The client's IKE_AUTH -/

variable {ini : Initiator} {hs : ℕ → Hop}

section Auth

variable {s s' : Server P} {cl cl' : Client} {o : Outgoing} {h : Hop} {spi : ℕ} {e : Env}
  {cl₁ : Client}

/-- The client has a Child SA, and the responder has the other end of it. -/
def Crossed (cl : Client) (s : Server P) : Prop :=
  ∃ res sa child, cl.result = some res ∧ s.byRSPI.lookup cl.spiR = some sa ∧
    sa.children.lookup res.outboundSPI = some child ∧ Crosswise res child

instance (cl : Client) (s : Server P) : Decidable (Crossed cl s) :=
  decidable_of_iff
    ((cl.result.any fun res => (s.byRSPI.lookup cl.spiR).any fun sa =>
      (sa.children.lookup res.outboundSPI).any fun child => decide (Crosswise res child)) = true)
    (by simp [Crossed, Option.any_eq_true])

/-- The client is the same as far as its keys go. -/
structure SameClient (cl cl' : Client) : Prop where
  cfg : cl'.cfg = cl.cfg
  spiR : cl'.spiR = cl.spiR
  suite : cl'.suite = cl.suite
  keys : cl'.keys = cl.keys
  ni : cl'.ni = cl.ni
  nr : cl'.nr = cl.nr

lemma verifyServerAuth_same {key : Bytes} {eapMSK : Bool}
    (hok : cl.verifyServerAuth c inners key eapMSK = .ok cl') : SameClient cl cl' := by
  unfold Client.verifyServerAuth at hok
  split at hok
  · cases hok
  split at hok
  · cases hok
  obtain ⟨⟨cl₁, idBody⟩, hid, hok⟩ := except_bind_ok.mp hok
  have hsame : SameClient cl cl₁ := by
    unfold Client.resolveServerID at hid
    split at hid
    · dsimp only at hid
      split_ifs at hid
      obtain ⟨rfl, -⟩ := Prod.mk.inj (Except.ok.inj hid)
      exact ⟨rfl, rfl, rfl, rfl, rfl, rfl⟩
    · split at hid
      · obtain ⟨rfl, -⟩ := Prod.mk.inj (Except.ok.inj hid)
        exact ⟨rfl, rfl, rfl, rfl, rfl, rfl⟩
      · cases hid
  dsimp only at hok
  split_ifs at hok
  all_goals
    obtain rfl := Except.ok.inj hok
    exact hsame

lemma verifyServerCertAuth_same (hok : cl.verifyServerCertAuth c ini inners = .ok cl') :
    SameClient cl cl' := by
  unfold Client.verifyServerCertAuth at hok
  split at hok
  · split at hok
    · cases hok
    split at hok
    · cases hok
    split at hok
    · cases hok
    split at hok
    · cases hok
    split at hok
    · cases hok
    split at hok
    · cases hok
    split at hok
    · cases hok
    dsimp only at hok
    split at hok
    · cases hok
    split at hok
    · cases hok
    obtain rfl := Except.ok.inj hok
    exact ⟨rfl, rfl, rfl, rfl, rfl, rfl⟩
  · cases hok

lemma applyAuthResult_sa (hok : cl.applyAuthResult c inners spi = .ok cl') :
    (findInner inners typeSA).isSome := by
  unfold Client.applyAuthResult at hok
  dsimp only at hok
  split_ifs at hok
  cases hsa : findInner inners typeSA with
  | none =>
    rw [hsa] at hok
    cases hok
  | some saPay => rfl

/-- The client asks for AGGFRAG only if it wants it. -/
def Asks (cl : Client) (inners : List RawPayload) : Prop :=
  cl.cfg.iptfs = false → findNotify inners useAggFrag = none

/-- **The last response.**  If the responder has finished, the two ends are crosswise. -/
lemma Asked.crossed (hasked : Asked c s cl o h sa s')
    (hfin : Finished c s.cfg (sa.heardFrom h) ((cl.message o).request h) s.pools
      (s.outcome c (cl.message o) h sa))
    (hni : sa.ni = cl.ni) (hnr : sa.nr = cl.nr) (hlt : spi < 2 ^ 32)
    (hsaved : savedOr o.inners typeSA sa.eapSApay =
      some (marshalSA (defaultESPProposals (putBE32 spi))))
    (hasks : Asks cl o.inners)
    (hreply : (s.outcome c (cl.message o) h sa).reply = some inners) (hsame : SameClient cl cl₁)
    (hok : cl₁.applyAuthResult c inners spi = .ok cl') : Crossed cl' s' := by
  obtain ⟨child, hchild⟩ := hfin.installs hlt hsaved hreply (applyAuthResult_sa hok)
  obtain ⟨res, hres, hspiR, hpaired, hmode⟩ := hchild.taken cl₁ cl'
    (hsame.suite.trans hasked.served.suite.symm) (hsame.keys.trans hasked.served.keys.symm)
    (hsame.ni.trans hni.symm) (hsame.nr.trans hnr.symm) hok
  refine ⟨res, (s.outcome c (cl.message o) h sa).sa, child, hres, ?_, ?_, hpaired, ?_⟩
  · rw [hspiR, hsame.spiR]
    exact hasked.lookup
  · rw [hpaired.outSPI, hchild.inSPI]
    exact hchild.entered
  · rw [hmode, hchild.echoed, hchild.aggFrag, hsame.cfg]
    cases hiptfs : cl.cfg.iptfs with
    | true => rfl
    | false =>
      have hnone : acceptAggFrag ((cl.message o).request h).inners = none := by
        rw [acceptAggFrag, show findNotify ((cl.message o).request h).inners useAggFrag = none from
          hasks hiptfs]
      rw [Config.aggFragFlags, hnone, ite_self]
      rfl

lemma outcome_ikeAuth (hex : o.exchangeType = ikeAuth) : s.outcome c (cl.message o) h sa =
      handleIKEAuth c s.cfg (sa.heardFrom h) ((cl.message o).request h) s.pools := by
  rw [Server.outcome, dispatch, show ((cl.message o).request h).hdr.exchangeType = ikeAuth from hex]
  rfl

lemma outcome_ikeIntermediate (hex : o.exchangeType = ikeIntermediate) :
    s.outcome c (cl.message o) h sa =
      handleIKEIntermediate c (sa.heardFrom h) ((cl.message o).request h) s.pools := by
  rw [Server.outcome, dispatch,
    show ((cl.message o).request h).hdr.exchangeType = ikeIntermediate from hex]
  rfl

/-- A single IKE_AUTH that the client reads no error from. -/
lemma finished_of_auth (hex : o.exchangeType = ikeAuth) (heap : sa.eapServer = none)
    (hauth : (findInner o.inners typeAUTH).isSome)
    (hreply : (s.outcome c (cl.message o) h sa).reply = some inners)
    (hok : checkInners inners = .ok inners) :
    Finished c s.cfg (sa.heardFrom h) ((cl.message o).request h) s.pools
      (s.outcome c (cl.message o) h sa) := by
  rw [outcome_ikeAuth hex] at hreply ⊢
  exact RefusedOr.resolve (handleIKEAuth_cases heap hauth) hreply hok

/-- The requests of IKE_AUTH. -/
lemma findNotify_mobikePayloads (cfg : ClientConfig) :
    findNotify cfg.mobikePayloads useAggFrag = none := by
  unfold ClientConfig.mobikePayloads
  split_ifs
  · rfl
  · exact findNotify_mobike

lemma asks_buildAuthInner (cl : Client) (idBody : Bytes) (auth : Option AuthPayload) (spi : ℕ) :
    Asks cl (cl.cfg.buildAuthInner idBody auth spi) := by
  intro hiptfs
  have htypes : ∀ t ∈ ([(⟨typeIDi, false, idBody⟩ : RawPayload)] ++
      (auth.map fun a => (⟨typeAUTH, false, marshalAuth a⟩ : RawPayload)).toList ++
      childRequestPayloads spi).map RawPayload.type, t ≠ typeNotify := by
    cases auth with
    | none =>
      exact show ∀ t ∈ [typeIDi, typeCP, typeSA, typeTSi, typeTSr], t ≠ typeNotify by
        decide +kernel
    | some a =>
      exact show ∀ t ∈ [typeIDi, typeAUTH, typeCP, typeSA, typeTSi, typeTSr], t ≠ typeNotify by
        decide +kernel
  rw [ClientConfig.buildAuthInner, hiptfs, if_neg Bool.false_ne_true, append_nil,
    findNotify_append (findNotify_eq_none htypes _)]
  exact findNotify_mobikePayloads cl.cfg

lemma findInner_buildAuthInner (cfg : ClientConfig) (idBody : Bytes) (auth : Option AuthPayload)
    (spi : ℕ) :
    findInner (cfg.buildAuthInner idBody auth spi) typeSA =
      some ⟨typeSA, false, marshalSA (defaultESPProposals (putBE32 spi))⟩ := by
  cases auth <;> rfl

/-- The certificates of the client stand before what the responder looks for. -/
lemma findInner_buildCertAuthInner (cfg : ClientConfig) (cred : CertCredential) (idBody : Bytes)
    (auth : AuthPayload) (spi : ℕ) (ht : t ≠ typeIDi ∧ t ≠ typeCERT) :
    findInner (cfg.buildCertAuthInner cred idBody auth spi) t =
      findInner ([⟨typeCERTREQ, false, marshalCert ⟨certX509Signature, []⟩⟩,
        ⟨typeAUTH, false, marshalAuth auth⟩] ++ childRequestPayloads spi ++
          cfg.mobikePayloads) t := by
  have hnone : findInner ([⟨typeIDi, false, idBody⟩] ++ (cred.chain.map fun der =>
      ⟨typeCERT, false, marshalCert ⟨certX509Signature, der⟩⟩)) t = none := by
    refine find?_eq_none.mpr fun p hp => ?_
    rw [beq_iff_eq]
    rcases mem_append.mp hp with hp | hp
    · rw [mem_singleton.mp hp]
      exact ht.1.symm
    · obtain ⟨der, -, rfl⟩ := mem_map.mp hp
      exact ht.2.symm
  rw [ClientConfig.buildCertAuthInner, append_assoc, append_assoc,
    findInner_append hnone, append_assoc]

lemma asks_buildCertAuthInner (cl : Client) (cred : CertCredential) (idBody : Bytes)
    (auth : AuthPayload) (spi : ℕ) : Asks cl (cl.cfg.buildCertAuthInner cred idBody auth spi) := by
  intro _
  have htail : ∀ t ∈ ([(⟨typeCERTREQ, false, marshalCert ⟨certX509Signature, []⟩⟩ : RawPayload),
      ⟨typeAUTH, false, marshalAuth auth⟩] ++ childRequestPayloads spi).map RawPayload.type,
      t ≠ typeNotify :=
    show ∀ t ∈ [typeCERTREQ, typeAUTH, typeCP, typeSA, typeTSi, typeTSr], t ≠ typeNotify by
      decide +kernel
  have hhead : Bare ([⟨typeIDi, false, idBody⟩] ++ (cred.chain.map fun der =>
      ⟨typeCERT, false, marshalCert ⟨certX509Signature, der⟩⟩)) :=
    (bare_singleton (by decide) _).append (bare_map (by decide) _ _)
  rw [ClientConfig.buildCertAuthInner, append_assoc, append_assoc, findNotify_append
    (findNotify_bare hhead _), ← append_assoc, findNotify_append (findNotify_eq_none htail _)]
  exact findNotify_mobikePayloads cl.cfg

lemma authPSK_crossed (hlinked : Linked cl s) (hok : cl.authPSK c s e h = .ok (cl', s')) :
    Crossed cl' s' := by
  obtain ⟨sa₀, hlookup, hni, hnr, heap⟩ := hlinked
  unfold Client.authPSK at hok
  obtain ⟨⟨s₁, inners⟩, hask, hok⟩ := except_bind_ok.mp hok
  obtain ⟨cl₁, hfinish, hok⟩ := except_bind_ok.mp hok
  obtain ⟨rfl, rfl⟩ := Prod.mk.inj (Except.ok.inj hok)
  obtain ⟨sa, hasked, hreply, hchecked⟩ := askInners_ok rfl hask
  obtain rfl := hasked.eq_of_lookup hlookup
  obtain ⟨cl₂, hverify, happly⟩ := except_bind_ok.mp hfinish
  have hsame : SameClient cl cl₂ := { verifyServerAuth_same hverify with }
  exact hasked.crossed (finished_of_auth rfl heap rfl hreply hchecked) hni hnr e.childSPI_lt rfl
    (asks_buildAuthInner cl _ _ _) hreply hsame happly

lemma authCert_crossed {cred : CertCredential} (hlinked : Linked cl s)
    (hok : cl.authCert c ini cred s e h = .ok (cl', s')) : Crossed cl' s' := by
  obtain ⟨sa₀, hlookup, hni, hnr, heap⟩ := hlinked
  unfold Client.authCert at hok
  split at hok
  · cases hok
  rename_i method data _
  obtain ⟨⟨s₁, inners⟩, hask, hok⟩ := except_bind_ok.mp hok
  obtain ⟨cl₁, hverify, hok⟩ := except_bind_ok.mp hok
  obtain ⟨cl₂, happly, hok⟩ := except_bind_ok.mp hok
  obtain ⟨rfl, rfl⟩ := Prod.mk.inj (Except.ok.inj hok)
  obtain ⟨sa, hasked, hreply, hchecked⟩ := askInners_ok rfl hask
  obtain rfl := hasked.eq_of_lookup hlookup
  have hsame : SameClient cl cl₁ := { verifyServerCertAuth_same hverify with }
  have hauth := findInner_buildCertAuthInner cl.cfg cred (marshalID cl.cfg.localID)
    ⟨method, data⟩ e.childSPI (t := typeAUTH) (by decide)
  have hsa := findInner_buildCertAuthInner cl.cfg cred (marshalID cl.cfg.localID)
    ⟨method, data⟩ e.childSPI (t := typeSA) (by decide)
  refine hasked.crossed (finished_of_auth rfl heap (by rw [hauth]; rfl) hreply hchecked) hni hnr
    e.childSPI_lt ?_ (asks_buildCertAuthInner cl _ _ _ _) hreply hsame happly
  rw [savedOr, hsa]
  rfl

/-- EAP is under way: the request for a Child SA has been saved. -/
def Underway (cl : Client) (spi : ℕ) (s : Server P) : Prop :=
  ∃ sa, s.byRSPI.lookup cl.spiR = some sa ∧ sa.ni = cl.ni ∧ sa.nr = cl.nr ∧
    sa.eapServer.isSome ∧ sa.eapSApay = some (marshalSA (defaultESPProposals (putBE32 spi)))

section

variable (hex : o.exchangeType = ikeAuth) (hask : s.askInners c cl o h = .ok (s', inners))

include hex hask

lemma underway_begins {idBody : Bytes} (hlinked : Linked cl s)
    (hin : o.inners = cl.cfg.buildAuthInner idBody none spi) : Underway cl spi s' := by
  obtain ⟨sa₀, hlookup, hni, hnr, heap⟩ := hlinked
  obtain ⟨sa, hasked, hreply, hchecked⟩ := askInners_ok hex hask
  obtain rfl := hasked.eq_of_lookup hlookup
  have hauth : findInner ((cl.message o).request h).inners typeAUTH = none := by
    rw [show ((cl.message o).request h).inners = _ from hin]
    unfold ClientConfig.buildAuthInner ClientConfig.mobikePayloads
    split_ifs <;> rfl
  have hsa : findInner ((cl.message o).request h).inners typeSA =
      some ⟨typeSA, false, marshalSA (defaultESPProposals (putBE32 spi))⟩ := by
    rw [show ((cl.message o).request h).inners = _ from hin]
    exact findInner_buildAuthInner cl.cfg idBody none spi
  have heap' : (sa₀.heardFrom h).eapServer = none := heap
  refine ⟨_, hasked.lookup, hasked.ni.trans hni, hasked.nr.trans hnr, ?_⟩
  rw [outcome_ikeAuth hex] at hreply ⊢
  obtain ⟨hbegun, hsaved⟩ := RefusedOr.resolve (handleIKEAuth_begins heap' hauth) hreply hchecked
  refine ⟨hbegun, hsaved.trans ?_⟩
  rw [savePayload, hsa]
  rfl

lemma Underway.continues (hu : Underway cl spi s)
    (hin : o.inners = [⟨typeEAP, false, body⟩]) : Underway cl spi s' := by
  obtain ⟨sa₀, hlookup, hni, hnr, heap, hsaved⟩ := hu
  obtain ⟨sa, hasked, -, -⟩ := askInners_ok hex hask
  obtain rfl := hasked.eq_of_lookup hlookup
  have hauth : findInner ((cl.message o).request h).inners typeAUTH = none := by
    rw [show ((cl.message o).request h).inners = _ from hin]
    rfl
  have heap' : (sa₀.heardFrom h).eapServer.isSome := heap
  refine ⟨_, hasked.lookup, hasked.ni.trans hni, hasked.nr.trans hnr, ?_⟩
  rw [outcome_ikeAuth hex, (handleIKEAuth_continues heap' hauth).2]
  exact ⟨(handleIKEAuth_continues heap' hauth).1, hsaved⟩

lemma Underway.ends (hu : Underway cl spi s)
    (hin : o.inners = [⟨typeAUTH, false, auth⟩]) (hlt : spi < 2 ^ 32)
    (hsame : SameClient cl cl₁) (hok : cl₁.applyAuthResult c inners spi = .ok cl') :
    Crossed cl' s' := by
  obtain ⟨sa₀, hlookup, hni, hnr, heap, hsaved⟩ := hu
  obtain ⟨sa, hasked, hreply, hchecked⟩ := askInners_ok hex hask
  obtain rfl := hasked.eq_of_lookup hlookup
  have heap' : (sa₀.heardFrom h).eapServer.isSome := heap
  have hin' : ((cl.message o).request h).inners = [⟨typeAUTH, false, auth⟩] := hin
  have hfin : Finished c s.cfg (sa₀.heardFrom h) ((cl.message o).request h) s.pools
      (s.outcome c (cl.message o) h sa₀) := by
    rw [outcome_ikeAuth hex] at hreply ⊢
    exact RefusedOr.resolve (handleIKEAuth_ends heap' hin') hreply hchecked
  refine hasked.crossed hfin hni hnr hlt ?_ ?_ hreply hsame hok
  · rw [hin]
    exact hsaved
  · intro _
    rw [hin]
    rfl

end

lemma Underway.of_same (hsame : SameClient cl cl') (hu : Underway cl spi s) :
    Underway cl' spi s := by
  obtain ⟨sa, hl, hni, hnr, hrest⟩ := hu
  exact ⟨sa, hsame.spiR ▸ hl, hni.trans hsame.ni.symm, hnr.trans hsame.nr.symm, hrest⟩

lemma authEAP_crossed (hlinked : Linked cl s) (hok : cl.authEAP c s e hs = .ok (cl', s')) :
    Crossed cl' s' := by
  unfold Client.authEAP at hok
  obtain ⟨⟨s₁, in₁⟩, h₁, hok⟩ := except_bind_ok.mp hok
  obtain ⟨cl₁, hverify, hok⟩ := except_bind_ok.mp hok
  obtain ⟨⟨second, msk⟩, hsecond, hok⟩ := except_bind_ok.mp hok
  obtain ⟨⟨s₂, in₂⟩, h₂, hok⟩ := except_bind_ok.mp hok
  obtain ⟨third, hthird, hok⟩ := except_bind_ok.mp hok
  obtain ⟨⟨s₃, in₃⟩, h₃, hok⟩ := except_bind_ok.mp hok
  obtain ⟨-, -, hok⟩ := except_bind_ok.mp hok
  obtain ⟨⟨s₄, in₄⟩, h₄, hok⟩ := except_bind_ok.mp hok
  obtain ⟨cl₂, hfinish, hok⟩ := except_bind_ok.mp hok
  obtain ⟨rfl, rfl⟩ := Prod.mk.inj (Except.ok.inj hok)
  obtain ⟨cl₃, hverify', happly⟩ := except_bind_ok.mp hfinish
  obtain ⟨body₂, hbody₂⟩ : ∃ body, second = ⟨typeEAP, false, body⟩ := by
    unfold Client.answerChallenge at hsecond
    split at hsecond
    · cases hsecond
    split at hsecond
    · cases hsecond
    split at hsecond
    · cases hsecond
    · obtain ⟨rfl, -⟩ := Prod.mk.inj (Except.ok.inj hsecond)
      exact ⟨_, rfl⟩
  obtain ⟨body₃, hbody₃⟩ : ∃ body, third = ⟨typeEAP, false, body⟩ := by
    unfold answerSuccess at hthird
    split at hthird
    · cases hthird
    dsimp only at hthird
    split_ifs at hthird
    obtain rfl := Except.ok.inj hthird
    exact ⟨_, rfl⟩
  have hsame : SameClient cl₁ cl₃ := { verifyServerAuth_same hverify' with }
  have hu := (underway_begins rfl h₁ hlinked rfl).of_same (verifyServerAuth_same hverify)
  exact ((hu.continues rfl h₂ (congrArg (fun p => [p]) hbody₂)).continues rfl h₃
    (congrArg (fun p => [p]) hbody₃)).ends rfl h₄ rfl e.childSPI_lt hsame happly

/-! ## The handshake -/

lemma handleIKEIntermediate_eapServer :
    (handleIKEIntermediate c sa r pools).sa.eapServer = sa.eapServer := by
  unfold handleIKEIntermediate
  split_ifs
  · rfl
  · rfl
  split
  · rfl
  split
  · rfl
  split_ifs
  · rfl
  split
  · rfl
  split <;> rfl

lemma finishIntermediate_same {kemSeed : Bytes} {reply : Protected}
    (hok : cl.finishIntermediate c ini kemSeed o reply = .ok cl') :
    cl'.spiR = cl.spiR ∧ cl'.ni = cl.ni ∧ cl'.nr = cl.nr := by
  unfold Client.finishIntermediate at hok
  split_ifs at hok
  split at hok
  · cases hok
  split at hok
  · cases hok
  dsimp only at hok
  split at hok
  · cases hok
  split at hok
  · cases hok
  split_ifs at hok
  split at hok
  · cases hok
  obtain rfl := Except.ok.inj hok
  exact ⟨rfl, rfl, rfl⟩

/-- IKE_INTERMEDIATE keeps the nonces. -/
lemma sendIntermediateExchange_linked (hlinked : Linked cl s)
    (hok : sendIntermediateExchange c ini cl s e h = .ok (cl', s')) : Linked cl' s' := by
  obtain ⟨sa₀, hlookup, hni, hnr, heap⟩ := hlinked
  unfold sendIntermediateExchange at hok
  dsimp only at hok
  obtain ⟨⟨s₁, reply⟩, hask, hok⟩ := except_bind_ok.mp hok
  obtain ⟨cl₁, hfinish, hok⟩ := except_bind_ok.mp hok
  obtain ⟨rfl, rfl⟩ := Prod.mk.inj (Except.ok.inj hok)
  obtain ⟨hspiR, hni', hnr'⟩ := finishIntermediate_same hfinish
  obtain ⟨sa, inners, hserved, -, -, rfl⟩ := ask_ok hask
  have hasked := hserved.asked (c := c) h (Or.inr rfl)
  obtain rfl := hasked.eq_of_lookup hlookup
  refine ⟨_, hspiR ▸ hasked.lookup, (hasked.ni.trans hni).trans hni'.symm,
    (hasked.nr.trans hnr).trans hnr'.symm, ?_⟩
  rw [outcome_ikeIntermediate rfl, handleIKEIntermediate_eapServer]
  exact heap

lemma afterSAInit_linked {dial : Dial} (hlinked : Linked cl s)
    (hok : cl.afterSAInit c ini dial s e h = .ok (cl', s')) : Linked cl' s' := by
  have hfloated : Linked (cl.floated dial) s := by
    unfold Client.floated
    split_ifs <;> exact hlinked
  unfold Client.afterSAInit at hok
  dsimp only at hok
  split_ifs at hok
  · obtain ⟨rfl, rfl⟩ := Prod.mk.inj (Except.ok.inj hok)
    exact hfloated
  · obtain ⟨⟨cl₁, s₁⟩, hint, he⟩ := except_map_ok.mp hok
    obtain ⟨rfl, rfl⟩ := Prod.mk.inj he
    have hlinked' : Linked cl₁ s₁ := sendIntermediateExchange_linked hfloated hint
    exact hlinked'

lemma auth_crossed (hlinked : Linked cl s) (hok : cl.auth c ini s e hs = .ok (cl', s')) :
    Crossed cl' s' := by
  unfold Client.auth at hok
  split_ifs at hok
  · exact authEAP_crossed hlinked hok
  split at hok
  · cases hok
  · exact authCert_crossed hlinked hok
  · exact authPSK_crossed hlinked hok

/-- **The handshake.**  However the client authenticates, its Child SA and the responder's fit
together. -/
lemma connect_crosswise (hc : c.Sized) {client : ClientConfig} {dial : Dial} {sys : System P}
    (hok : connect c ini client dial s e hs = .ok sys) : Crossed sys.client sys.server := by
  unfold connect at hok
  obtain ⟨⟨cl₁, s₁⟩, h₁, hok⟩ := except_bind_ok.mp hok
  obtain ⟨⟨cl₂, s₂⟩, h₂, hok⟩ := except_bind_ok.mp hok
  obtain ⟨⟨cl₃, s₃⟩, h₃, hok⟩ := except_bind_ok.mp hok
  obtain rfl := Except.ok.inj hok
  have hcrossed : Crossed cl₃ s₃ := auth_crossed (afterSAInit_linked (saInit_linked hc h₁) h₂) h₃
  exact hcrossed

end Auth

/-! ## RekeyChild -/

section Rekey

variable {sys : System P} {p : Pending} {o : Outgoing}

/-- A call that returns no error has read its answers. -/
lemma answered_of_ok : ∀ {hops : List Hop} {sys : System P} {p : Pending} {o : Outgoing},
    (sys.converse c hops p o).err = none → (sys.converse c hops p o).answered = true
  | [], _, _, _, h => nomatch h
  | h :: hs, sys, p, o, herr => by
    rw [System.converse] at herr ⊢
    rcases hawait : sys.await c p o h with ⟨s, _ | e | cl | ⟨p', o'⟩⟩
    · rw [hawait] at herr
      cases herr
    · rfl
    · rfl
    · rw [hawait] at herr
      exact answered_of_ok herr

lemma crossed_iff {cl : Client} {s : Server P} {res : ClientResult} {rspi : ℕ}
    (hres : cl.result = some res) (hspi : cl.spiR = rspi) (hsa : s.byRSPI.lookup rspi = some sa)
    (hchild : sa.children.lookup res.outboundSPI = some child) :
    Crossed cl s ↔ Crosswise res child := by
  subst hspi
  constructor
  · rintro ⟨res', sa', child', hres', hsa', hchild', hcross⟩
    obtain rfl := Option.some.inj (hres.symm.trans hres')
    obtain rfl := Option.some.inj (hsa.symm.trans hsa')
    obtain rfl := Option.some.inj (hchild.symm.trans hchild')
    exact hcross
  · exact fun hcross => ⟨res, sa, child, hres, hsa, hchild, hcross⟩

/-- A `RekeyChild` that completes: the keys fit, and the modes do if the old one is not AGGFRAG. -/
lemma rekeyChild_crossed {hops : List Hop} {msgID inSPI out : ℕ} {ni : Bytes} {old : ClientResult}
    (hex : o.exchangeType = createChildSA) (hin : o.inners = rekeyChildPayloads out inSPI ni)
    (hlt : inSPI < 2 ^ 32)
    (hok : (sys.converse c hops (.rekeyChild msgID inSPI ni old) o).err = none) :
    Crossed (sys.converse c hops (.rekeyChild msgID inSPI ni old) o).sys.client
        (sys.converse c hops (.rekeyChild msgID inSPI ni old) o).sys.server ↔
      old.aggFrag = false := by
  obtain ⟨h, hs, sa, inners, rfl, hserved, hreply⟩ := converse_answered (answered_of_ok hok)
  have ho : sys.server.outcome c (sys.client.message o) h sa = _ := dispatch_createChildSA hex
  cases hcov : tsiCoversLease [allTrafficV4] sa with
  | false =>
    have hout := handleCreateChildSA_refused ho hin hcov
    have hinners : [notifyPayload { type := tsUnacceptable }] = inners :=
      Option.some.inj ((congrArg Outcome.reply hout).symm.trans hreply)
    rw [converse_cons hs hserved hreply] at hok
    cases hcheck : checkInners inners with
    | error e =>
      rw [hcheck] at hok
      cases hok
    | ok inners' =>
      rw [← hinners] at hcheck
      exact absurd hcheck (ne_ok_of_refusal (by decide))
  | true =>
    obtain ⟨child, reply, hout, hchildSPI, hmode, hclient⟩ :=
      handleCreateChildSA_rekeyChild ho hin hlt hcov
    obtain rfl : reply = inners :=
      Option.some.inj ((congrArg Outcome.reply hout).symm.trans hreply)
    obtain ⟨res, hdone, hpaired, hold⟩ :=
      hclient sys.client msgID old hserved.suite.symm hserved.keys.symm
    have hlookup : (sys.after c o h sa).byRSPI.lookup sys.client.spiR =
        some (sys.server.outcome c (sys.client.message o) h sa).sa :=
      lookup_conclude (r := (sys.client.message o).request h) (congrArg Outcome.close hout)
        (congrArg Outcome.stored hout)
    have hentered : (sys.server.outcome c (sys.client.message o) h sa).sa.children.lookup
        res.outboundSPI = some child := by
      rw [hout, hpaired.outSPI]
      exact AList.lookup_insert _
    rw [converse_cons hs hserved hreply, hdone]
    refine Iff.trans (crossed_iff ?_ ?_ hlookup hentered) ?_
    · rfl
    · rfl
    · rw [Crosswise, hmode, hold]
      exact and_iff_right hpaired

lemma exchange_crosswise {x : Exchange} (hop : x.op = .rekeyChild)
    (hok : (sys.exchange c x).err = none) :
    Crossed (sys.exchange c x).sys.client (sys.exchange c x).sys.server ↔
      ∀ old ∈ sys.client.result, old.aggFrag = false := by
  obtain ⟨e, he⟩ | ⟨p, o, hstarted, heq⟩ := exchange_cases c sys x
  · rw [he] at hok
    cases hok
  rw [heq] at hok ⊢
  obtain ⟨op, draws, hops⟩ := x
  obtain rfl : op = .rekeyChild := hop
  cases hstarted with
  | rekeyChild _ old hold =>
    have hcrossed := rekeyChild_crossed
      (o := ⟨createChildSA, sys.client.sendMsgID, _⟩) rfl rfl draws.childSPI_lt hok
    refine hcrossed.trans ?_
    rw [hold]
    simp

end Rekey

/-! ## Runs -/

/-- **Both ends of every Child SA.**  After the handshake they fit together; after a `RekeyChild`
that has completed they do if and only if the Child SA before did not use AGGFRAG. -/
theorem child_sas_crosswise (c : Crypto) (hc : c.Sized) (cfg : Config P) (pools : P)
    (secret : Option Bytes) (now : ℤ) (ds : List Datagram) (ini : Initiator) (client : ClientConfig)
    (dial : Dial) (e : Env) (h : ℕ → Hop) (sys : System P)
    (hconn : connect c ini client dial (run (Server.step c) (newServer cfg pools secret now) ds) e h
      = .ok sys) (xs : List Exchange) :
    Crossed sys.client sys.server ∧
      Along (System.step c) (fun sys x => x.op = .rekeyChild → (sys.exchange c x).err = none →
        (Crossed (sys.exchange c x).sys.client (sys.exchange c x).sys.server ↔
          ∀ old ∈ sys.client.result, old.aggFrag = false)) sys xs := by
  refine ⟨connect_crosswise hc hconn, ?_⟩
  exact along_of_inv (fun _ => True) (C := fun _ _ => True) (fun _ _ _ _ => trivial)
    (fun sys x _ _ => exchange_crosswise) sys xs trivial (along_true _ sys xs)

/-- A handshake without AGGFRAG, then a `RekeyChild`. -/
theorem child_sas_crosswise_rekeyed :
    ∃ sys, connected { ip4 := some [10, 0, 0, 2] } false = .ok sys ∧
      Crossed sys.client sys.server ∧ (sys.exchange plainCrypto rekeyOnce).err = none ∧
      Crossed (sys.exchange plainCrypto rekeyOnce).sys.client
        (sys.exchange plainCrypto rekeyOnce).sys.server := by
  obtain ⟨sys, hconn, hrun⟩ := exists_ok (x := connected { ip4 := some [10, 0, 0, 2] } false)
    (p := fun sys => decide ((sys.exchange plainCrypto rekeyOnce).err = none ∧
      ∀ old ∈ sys.client.result, old.aggFrag = false)) (by decide +kernel)
  obtain ⟨hok, hmode⟩ := of_decide_eq_true hrun
  obtain ⟨hconnected, hrekeyed, -⟩ := child_sas_crosswise plainCrypto plainCrypto_sized _ () _ 0 []
    plainInitiator _ _ _ _ sys hconn [rekeyOnce]
  exact ⟨sys, hconn, hconnected, hok, (hrekeyed rfl hok).mpr hmode⟩

/-- **AGGFRAG is lost at one end.**  Both want AGGFRAG, and a `RekeyChild` completes: the client
sends on in AGGFRAG, to a Child SA of the responder that does not use it. -/
theorem rekeyChild_loses_aggfrag : ∃ sys, connected { ip4 := some [10, 0, 0, 2] } true = .ok sys ∧
      Crossed sys.client sys.server ∧ (sys.exchange plainCrypto rekeyOnce).err = none ∧
      ¬ Crossed (sys.exchange plainCrypto rekeyOnce).sys.client
        (sys.exchange plainCrypto rekeyOnce).sys.server := by
  obtain ⟨sys, hconn, hrun⟩ := exists_ok (x := connected { ip4 := some [10, 0, 0, 2] } true)
    (p := fun sys => decide (Crossed sys.client sys.server ∧
      (sys.exchange plainCrypto rekeyOnce).err = none ∧
      ¬ Crossed (sys.exchange plainCrypto rekeyOnce).sys.client
        (sys.exchange plainCrypto rekeyOnce).sys.server)) (by decide +kernel)
  exact ⟨sys, hconn, of_decide_eq_true hrun⟩

end Veepin.IKE
