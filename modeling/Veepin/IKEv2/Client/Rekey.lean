import Veepin.IKEv2.Client.Exchange

/-!
# What the two ends make of a rekey

The client builds a request and reads the answer, the responder selects from the request and echoes
what it selected.  Here the halves are put together, for a client and an SA with the same keys.

* `handleCreateChildSA_rekeyChild` — if the lease is an IPv4 address, the responder installs a
  Child SA and the client one that is `Paired` with it; the AGGFRAG mode of the client's is the one
  of the Child SA before.
* `handleCreateChildSA_refused` — otherwise the responder answers TS_UNACCEPTABLE, since the client
  proposes a traffic selector for IPv4 only.
* `handleCreateChildSA_rekeyIKE` — the client takes up the SA that the responder has stored.
-/

namespace Veepin.IKE

variable {c : Crypto} {P : Type} {cfg : Config P} {sa : IKESA} {r : Request} {id : ℕ} {pools : P}
  {o : Outcome P} {n : ℕ}

/-! ## Two ends of a Child SA -/

/-- What one end sends the other receives: under the same SPI and the same keys. -/
structure Paired (res : ClientResult) (child : ChildSA) : Prop where
  outSPI : res.outboundSPI = child.inboundSPI
  inSPI : res.inboundSPI = child.outboundSPI
  suite : res.suite = child.suite
  encOut : res.encKeyOut = child.encrIn
  integOut : res.integKeyOut = child.integIn
  encIn : res.encKeyIn = child.encrOut
  integIn : res.integKeyIn = child.integOut

instance (res : ClientResult) (child : ChildSA) : Decidable (Paired res child) :=
  decidable_of_iff
    (res.outboundSPI = child.inboundSPI ∧ res.inboundSPI = child.outboundSPI ∧
      res.suite = child.suite ∧ res.encKeyOut = child.encrIn ∧ res.integKeyOut = child.integIn ∧
      res.encKeyIn = child.encrOut ∧ res.integKeyIn = child.integOut)
    ⟨fun ⟨h1, h2, h3, h4, h5, h6, h7⟩ => ⟨h1, h2, h3, h4, h5, h6, h7⟩,
      fun h => ⟨h.1, h.2, h.3, h.4, h.5, h.6, h.7⟩⟩

lemma espSPI_singleton (p : Proposal) (h : n < 2 ^ 32) :
    espSPI [{ p with spi := putBE32 n }] = n := by
  change be32 (putBE32 n) 0 = n
  rw [be32_putBE32]
  exact Nat.mod_eq_of_lt h

variable {accepted : Proposal} {res : ClientResult} {es : ESPSuite}

/-- **The key material is cut crosswise.**  The client's SPI comes from the proposal that the
responder selected, the responder's from its answer. -/
lemma paired_setupChildSA {tsi tsr ni nr : Bytes} {env : Env}
    (hin : accepted.spi = putBE32 res.inboundSPI) (hlt : res.inboundSPI < 2 ^ 32)
    (hout : res.outboundSPI = env.childSPI) :
    Paired (res.keyed es (deriveChildKeys c sa.suite sa.keys.skd ni nr es.keyMatLen))
      (setupChildSA c sa es accepted tsi tsr ni nr env).1 := by
  refine ⟨hout, ?_, rfl, rfl, rfl, rfl, rfl⟩
  have hspi : be32 accepted.spi 0 = res.inboundSPI := by
    rw [hin, be32_putBE32]
    exact Nat.mod_eq_of_lt hlt
  have hlen : accepted.spi.length = 4 := by rw [hin]; rfl
  change res.inboundSPI = if accepted.spi.length = 4 then be32 accepted.spi 0 else 0
  rw [if_pos hlen, hspi]

/-- What a Child SA is given when it goes up does not concern the other end. -/
lemma Paired.placed {child : ChildSA} (h : Paired res child) (sa : IKESA)
    (tsiBody : Bytes) (r : Request) : Paired res ((child.narrowed sa tsiBody).1.placed sa r) := by
  unfold ChildSA.narrowed
  split <;> exact ⟨h.1, h.2, h.3, h.4, h.5, h.6, h.7⟩

lemma narrowed_keeps (child : ChildSA) (sa : IKESA) (tsiBody : Bytes) :
    (child.narrowed sa tsiBody).1.inboundSPI = child.inboundSPI ∧
      (child.narrowed sa tsiBody).1.aggFrag = child.aggFrag := by
  unfold ChildSA.narrowed
  split <;> exact ⟨rfl, rfl⟩

/-! ## RekeyChild -/

section RekeyChild

variable {out inSPI : ℕ} {ni : Bytes}

lemma parseTS_allTrafficV4 : parseTS (marshalTS [allTrafficV4]) = ([allTrafficV4], true) := by
  decide

/-- The request of `RekeyChild` is handled as one for a new Child SA. -/
lemma handleCreateChildSA_eq (hin : r.inners = rekeyChildPayloads out inSPI ni) :
    handleCreateChildSA c cfg sa r id pools =
      handleNewChild c cfg (sa.expectAfter r) r (defaultESPProposals (putBE32 inSPI)) pools := by
  have hsa : findInner r.inners typeSA =
      some ⟨typeSA, false, marshalSA (defaultESPProposals (putBE32 inSPI))⟩ := by
    rw [hin]
    rfl
  have hparse := parseSA_marshalSA (defaultESPProposals_spec (length_putBE32_lt inSPI)).1
  simp only [handleCreateChildSA, hsa, hparse]
  rfl

lemma findInner_rekeyChild (hin : r.inners = rekeyChildPayloads out inSPI ni) :
    findInner r.inners typeNonce = some ⟨typeNonce, false, ni⟩ ∧
      findInner r.inners typeTSi = some ⟨typeTSi, false, marshalTS [allTrafficV4]⟩ ∧
      findInner r.inners typeTSr = some ⟨typeTSr, false, marshalTS [allTrafficV4]⟩ := by
  rw [hin]
  exact ⟨rfl, rfl, rfl⟩

/-- **A lease that the proposed selector does not cover** is refused. -/
lemma handleCreateChildSA_refused (ho : o = handleCreateChildSA c cfg sa r id pools)
    (hin : r.inners = rekeyChildPayloads out inSPI ni)
    (hcov : tsiCoversLease [allTrafficV4] sa = false) :
    o = refuse (sa.expectAfter r) pools tsUnacceptable := by
  have hcov' : tsiCoversLease [allTrafficV4] (sa.expectAfter r) = false := hcov
  obtain ⟨hnonce, htsi, htsr⟩ := findInner_rekeyChild hin
  rw [ho, handleCreateChildSA_eq hin]
  simp only [handleNewChild, hnonce, htsi, htsr, parseTS_allTrafficV4, hcov']
  rfl

/-- The answer to a request for a Child SA. -/
def childReply (accepted : Proposal) (nr tsi tsr : Bytes) : List RawPayload :=
  [⟨typeSA, false, marshalSA [accepted]⟩, ⟨typeNonce, false, nr⟩, ⟨typeTSi, false, tsi⟩,
    ⟨typeTSr, false, tsr⟩]

/-- What the client makes of the answer. -/
lemma finish_childReply {q : Proposal}
    (hfits : ({ accepted with spi := putBE32 n } : Proposal).Fits)
    (hselect : selectESPProposal { accepted with spi := putBE32 n } = some (es, q)) (hpos : n ≠ 0)
    (hlt : n < 2 ^ 32) (nr tsi tsr : Bytes) (cl : Client) (msgID : ℕ) (old : ClientResult) :
    (checkInners (childReply { accepted with spi := putBE32 n } nr tsi tsr) >>=
        cl.finish c (.rekeyChild msgID inSPI ni old)) =
      .ok (.done { cl with
        sendMsgID := nextMsgID msgID
        result := some (({ old with inboundSPI := inSPI, outboundSPI := n }).keyed es
          (deriveChildKeys c cl.suite cl.keys.skd ni nr es.keyMatLen)) }) := by
  have hparse : parseSA (marshalSA [{ accepted with spi := putBE32 n }]) = some _ :=
    parseSA_marshalSA (by simpa using hfits)
  have hsuite : selectESPSuite [{ accepted with spi := putBE32 n }] = some (es, q) := by
    rw [selectESPSuite, List.findSome?_cons, hselect]
  have hspi := espSPI_singleton accepted hlt
  have hsa : findInner (childReply { accepted with spi := putBE32 n } nr tsi tsr) typeSA =
    some ⟨typeSA, false, marshalSA [{ accepted with spi := putBE32 n }]⟩ := rfl
  have hnonce : findInner (childReply { accepted with spi := putBE32 n } nr tsi tsr) typeNonce =
    some ⟨typeNonce, false, nr⟩ := rfl
  change (cl.finishRekeyChild c msgID inSPI ni old _).map Next.done = _
  simp only [Client.finishRekeyChild, hsa, hnonce, hparse, hsuite, hspi, hpos, if_false]
  rfl

/-- **A lease that it covers** leads to a Child SA at each end. -/
lemma handleCreateChildSA_rekeyChild (ho : o = handleCreateChildSA c cfg sa r id pools)
    (hin : r.inners = rekeyChildPayloads out inSPI ni) (hlt : inSPI < 2 ^ 32)
    (hcov : tsiCoversLease [allTrafficV4] sa = true) :
    ∃ child reply, o = installChild cfg (sa.expectAfter r) child pools reply ∧
      child.inboundSPI = r.env.childSPI ∧ child.aggFrag = false ∧
      ∀ (cl : Client) (msgID : ℕ) (old : ClientResult), cl.suite = sa.suite → cl.keys = sa.keys →
        ∃ res, (checkInners reply >>= cl.finish c (.rekeyChild msgID inSPI ni old)) =
            .ok (.done { cl with sendMsgID := nextMsgID msgID, result := some res }) ∧
          Paired res child ∧ res.aggFrag = old.aggFrag := by
  have hcov' : tsiCoversLease [allTrafficV4] (sa.expectAfter r) = true := hcov
  obtain ⟨hnonce, htsi, htsr⟩ := findInner_rekeyChild hin
  obtain ⟨hprops, p, hp, es, accepted, hselect, hsuite, hspi⟩ :=
    defaultESPProposals_spec (length_putBE32_lt inSPI)
  obtain ⟨hecho, q, hagain⟩ :=
    selectESPProposal_echo hselect (hprops p hp) (length_putBE32_lt r.env.childSPI)
  -- the Child SA before its selectors are narrowed
  let child := (setupChildSA c (sa.expectAfter r) es accepted (marshalTS [allTrafficV4])
    (marshalTS [allTrafficV4]) ni (r.env.randomNonce sa.suite.prfSize) r.env).1
  let narrowed := child.narrowed (sa.expectAfter r) (marshalTS [allTrafficV4])
  refine ⟨narrowed.1.placed (sa.expectAfter r) r,
    childReply { accepted with spi := putBE32 r.env.childSPI }
      (r.env.randomNonce sa.suite.prfSize) narrowed.2 (marshalTS [allTrafficV4]), ?_,
    (narrowed_keeps child _ _).1, (narrowed_keeps child _ _).2, ?_⟩
  · rw [ho, handleCreateChildSA_eq hin]
    simp only [handleNewChild, hnonce, htsi, htsr, parseTS_allTrafficV4, hcov', hsuite]
    rfl
  · intro cl msgID old hs hk
    refine ⟨_, finish_childReply hecho hagain r.env.childSPI_pos r.env.childSPI_lt _ _ _ _ _ _, ?_,
      rfl⟩
    rw [hs, hk]
    exact (paired_setupChildSA hspi hlt rfl).placed _ _ _

end RekeyChild

/-! ## RekeyIKE -/

section RekeyIKE

variable {spiI : ℕ} {ni pub seed : Bytes} {suite : Suite}

/-- The request of `RekeyIKE` passes the responder's checks: what remains is the key exchange. -/
lemma agreeRekey_rekeyIKE (hin : r.inners = rekeyIKEPayloads spiI dhCurve25519 ni pub)
    (hlt : spiI < 2 ^ 64) {first : Proposal}
    (hsuite : selectIKESuite (defaultIKEProposals (putBE64 spiI)) = some (suite, accepted))
    (hdh : suite.dhID = dhCurve25519) (hfirst : first.spi = putBE64 spiI) :
    agreeRekey c r.inners (defaultIKEProposals (putBE64 spiI)) first r.env =
      (need (c.dhPublic dhCurve25519 r.env.dhSeed) .drop >>= fun ourPub =>
        need (c.dhSecret dhCurve25519 r.env.dhSeed pub) (.notify invalidSyntax []) >>= fun shared =>
          pure ⟨suite, accepted, ourPub, shared, spiI, ni⟩) := by
  have hnonce : findInner r.inners typeNonce = some ⟨typeNonce, false, ni⟩ := by rw [hin]; rfl
  have hke : findInner r.inners typeKE =
      some ⟨typeKE, false, marshalKE ⟨dhCurve25519, pub⟩⟩ := by rw [hin]; rfl
  have hparse : parseKE (marshalKE ⟨dhCurve25519, pub⟩) = some ⟨dhCurve25519, pub⟩ :=
    parseKE_marshalKE (show dhCurve25519 < 2 ^ 16 by decide)
  have hspi : be64 first.spi 0 = spiI := hfirst ▸ be64_of_lt hlt
  have hlen : (first.spi.length == 8) = true := by rw [hfirst]; rfl
  have hsup : supportedDH dhCurve25519 = true := rfl
  simp only [agreeRekey, hnonce, hke, hsuite, hlen, hspi, need, ensure, bind, Except.bind, hparse,
    hdh, BEq.rfl, hsup, if_true]

/-- The answer to a request for a new IKE SA. -/
def rekeyReply (accepted : Proposal) (nr : Bytes) (ke : KEPayload) : List RawPayload :=
  [⟨typeSA, false, marshalSA [accepted]⟩, ⟨typeNonce, false, nr⟩, ⟨typeKE, false, marshalKE ke⟩]

/-- What the client makes of the answer. -/
lemma finish_rekeyReply {q : Proposal}
    (hfits : ({ accepted with spi := putBE64 n } : Proposal).Fits)
    (hselect : selectIKEProposal { accepted with spi := putBE64 n } = some (suite, q))
    (hlt : n < 2 ^ 64) (hdh : suite.dhID = dhCurve25519) {ourPub shared : Bytes} {cl : Client}
    (hcl : cl.suite.dhID = dhCurve25519)
    (hshared : c.dhSecret dhCurve25519 seed ourPub = some shared) (nr : Bytes) (msgID : ℕ) :
    (checkInners (rekeyReply { accepted with spi := putBE64 n } nr ⟨suite.dhID, ourPub⟩) >>=
        cl.finish c (.rekeyIKE msgID spiI seed ni)) =
      .ok (.again (.deleteOldIKESA
        { spiI, spiR := n, suite, ni, nr
          keys := deriveRekeyedIKEKeys c suite cl.keys.skd shared ni nr spiI n })
        ⟨informational, nextMsgID msgID, [deleteIKEPayload]⟩) := by
  have hparse : parseSA (marshalSA [{ accepted with spi := putBE64 n }]) = some _ :=
    parseSA_marshalSA (by simpa using hfits)
  have hsuite : selectIKESuite [{ accepted with spi := putBE64 n }] = some (suite, q) := by
    rw [selectIKESuite, List.findSome?_cons, hselect]
  have hke : parseKE (marshalKE ⟨dhCurve25519, ourPub⟩) = some ⟨dhCurve25519, ourPub⟩ :=
    parseKE_marshalKE (show dhCurve25519 < 2 ^ 16 by decide)
  have hspi := be64_of_lt hlt
  generalize hreply : rekeyReply { accepted with spi := putBE64 n } nr ⟨suite.dhID, ourPub⟩ = reply
  have hchecked : checkInners reply = .ok reply := by rw [← hreply]; rfl
  have hsa : findInner reply typeSA =
      some ⟨typeSA, false, marshalSA [{ accepted with spi := putBE64 n }]⟩ := by rw [← hreply]; rfl
  have hnonce : findInner reply typeNonce = some ⟨typeNonce, false, nr⟩ := by rw [← hreply]; rfl
  have hkepay : findInner reply typeKE =
      some ⟨typeKE, false, marshalKE ⟨dhCurve25519, ourPub⟩⟩ := by rw [← hreply, hdh]; rfl
  have hlen : (putBE64 n).length = 8 := rfl
  have hagree : cl.agreeRekeyIKE c spiI seed ni reply = .ok
      { spiI, spiR := n, suite, ni, nr
        keys := deriveRekeyedIKEKeys c suite cl.keys.skd shared ni nr spiI n } := by
    simp only [Client.agreeRekeyIKE, hsa, hnonce, hkepay, hparse, hsuite, List.head?_cons, hlen,
      hke, hdh, hcl, hshared, hspi, ne_eq, not_true, if_false]
  rw [hchecked]
  change (cl.agreeRekeyIKE c spiI seed ni reply).map _ = _
  rw [hagree]
  rfl

/-- **A rekey of the IKE SA.**  The responder is silent, if it cannot make a share of its own, or
stores a replacement, and the client goes on to delete the old SA and to take up that one. -/
lemma handleCreateChildSA_rekeyIKE (ho : o = handleCreateChildSA c cfg sa r id pools)
    (hin : r.inners = rekeyIKEPayloads spiI dhCurve25519 ni pub) (hlt : spiI < 2 ^ 64)
    (hpub : c.dhPublic dhCurve25519 seed = some pub) :
    o = silent (sa.expectAfter r) pools ∨
      ∃ reply new, o = { respond (sa.expectAfter r).retired pools reply with stored := some new } ∧
        new.responderSPI = r.env.ikeSPI ∧ new.recvMsgID = 0 ∧
        ∀ (cl : Client) (msgID : ℕ), cl.suite.dhID = dhCurve25519 → cl.keys = sa.keys →
          ∃ agreed : NewIKESA,
            (checkInners reply >>= cl.finish c (.rekeyIKE msgID spiI seed ni)) =
              .ok (.again (.deleteOldIKESA agreed)
                ⟨informational, nextMsgID msgID, [deleteIKEPayload]⟩) ∧
            agreed.spiI = new.initiatorSPI ∧ agreed.spiR = new.responderSPI ∧
            agreed.suite = new.suite ∧ agreed.keys = new.keys := by
  have hsa : findInner r.inners typeSA =
      some ⟨typeSA, false, marshalSA (defaultIKEProposals (putBE64 spiI))⟩ := by
    rw [hin]
    rfl
  have hfits : ∀ n, (putBE64 n).length < 2 ^ 8 := by
    intro n
    rw [length_putBE64]
    decide
  obtain ⟨hprops, p, hp, suite, accepted, hselect, hsuite, hdh⟩ :=
    defaultIKEProposals_spec (hfits spiI)
  obtain ⟨first, hfirst, heq⟩ : ∃ first : Proposal, first.spi = putBE64 spiI ∧
      handleCreateChildSA c cfg sa r id pools = handleRekeyIKE c (sa.expectAfter r) r
        (defaultIKEProposals (putBE64 spiI)) first id pools := by
    refine ⟨(defaultIKEProposals (putBE64 spiI)).head (List.cons_ne_nil _ _), rfl, ?_⟩
    have hparse := parseSA_marshalSA hprops
    simp only [handleCreateChildSA, hsa, hparse]
    rfl
  rw [ho, heq, handleRekeyIKE, agreeRekey_rekeyIKE hin hlt hsuite hdh hfirst]
  cases hour : c.dhPublic dhCurve25519 r.env.dhSeed with
  | none => exact Or.inl rfl
  | some ourPub =>
    obtain ⟨shared, hclient, hserver⟩ := c.dh_agree _ _ _ _ _ hpub hour
    have hecho := selectIKEProposal_echo hselect (hprops p hp) (hfits r.env.ikeSPI)
      (show ([] : List Transform).length ≤ 1 from Nat.zero_le 1)
      (fun t ht => absurd ht List.not_mem_nil)
    simp only [List.append_nil] at hecho
    obtain ⟨hecho, q, hagain⟩ := hecho
    rw [hserver]
    refine Or.inr ⟨rekeyReply { accepted with spi := putBE64 r.env.ikeSPI }
      (r.env.randomNonce suite.prfSize) ⟨suite.dhID, ourPub⟩, _, rfl, rfl, rfl, ?_⟩
    intro cl msgID hcl hk
    refine ⟨_, finish_rekeyReply hecho hagain r.env.ikeSPI_lt hdh hcl hclient _ _, rfl, rfl, rfl,
      ?_⟩
    rw [hk]
    rfl

end RekeyIKE

end Veepin.IKE
