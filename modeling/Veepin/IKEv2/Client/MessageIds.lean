import Veepin.IKEv2.Client.Handshake
import Veepin.IKEv2.Client.Rekey

/-!
# Message IDs

The client numbers its requests, and the responder takes only the number it expects next.
`handleCreateChildSA` and `handleInformational` advance the responder's counter before they look at
the request; the client advances its own after the answer has been read without an error.

* `exchange_agree` — after an exchange that the responder accepts, the two counters are the same,
  and so after every exchange of a run of such exchanges (`message_ids_agree`);
* `refused_rekeyChild_disagrees` — after a `RekeyChild` that it refuses they are not.
-/

namespace Veepin.IKE

open List Option

variable {c : Crypto} {P : Type} {cfg : Config P} {sa : IKESA} {r : Request} {pools : P}

/-! ## INFORMATIONAL -/

lemma handleMobikeInformational_recvMsgID (c : Crypto) (cfg : Config P) (sa : IKESA)
    (r : Request) : (handleMobikeInformational c cfg sa r).1.recvMsgID = sa.recvMsgID := by
  unfold handleMobikeInformational
  split_ifs <;> rfl

/-- A notify of the status class reports no error. -/
lemma findNotifyError_status {t : ℕ} (ht : 16384 ≤ t ∧ t < 2 ^ 16) (data : Bytes)
    (ps : List RawPayload) :
    findNotifyError (notifyPayload { type := t, data } :: ps) = findNotifyError ps := by
  have hs : ([] : Bytes).length < 2 ^ 8 := by decide
  rw [findNotifyError_cons ht.2 hs, if_neg fun h => absurd h.1 (Nat.not_lt.mpr ht.1)]

/-- A Delete reports no error. -/
lemma findNotifyError_deleteReply (removed : List ChildSA) :
    findNotifyError (deleteReply removed) = none := by
  unfold deleteReply
  split_ifs <;> rfl

lemma findNotifyError_natDetection (c : Crypto) (cfg : Config P) (spiI spiR : ℕ) (remote : UDPAddr)
    (on4500 : Bool) (rest : List RawPayload) :
    findNotifyError (cfg.natDetection c spiI spiR remote on4500 ++ rest) =
      findNotifyError rest := by
  simp only [Config.natDetection, cons_append, nil_append]
  rw [findNotifyError_status (by decide), findNotifyError_status (by decide)]

/-- The answer of the responder's half of MOBIKE: no error, and the COOKIE2 of the request. -/
lemma handleMobikeInformational_reply (c : Crypto) (cfg : Config P) (sa : IKESA) (r : Request)
    {rest : List RawPayload} (hrest : findNotifyError rest = none) :
    findNotifyError ((handleMobikeInformational c cfg sa r).2.1 ++ rest) = none ∧
      ∀ n, findNotify r.inners cookie2 = some n →
        findNotify ((handleMobikeInformational c cfg sa r).2.1 ++ rest) cookie2 =
          some { type := cookie2, data := n.data } := by
  obtain ⟨more, hmore, hreply⟩ : ∃ more, findNotifyError (more ++ rest) = none ∧
      (handleMobikeInformational c cfg sa r).2.1 = ((findNotify r.inners cookie2).map fun n =>
          notifyPayload { type := cookie2, data := n.data }).toList ++ more := by
    unfold handleMobikeInformational
    split_ifs
    · exact ⟨[], hrest, (append_nil _).symm⟩
    all_goals exact ⟨_, (findNotifyError_natDetection c cfg _ _ _ _ rest).trans hrest, rfl⟩
  rw [hreply, append_assoc]
  cases findNotify r.inners cookie2 with
  | none => exact ⟨hmore, fun n hn => absurd hn (by simp)⟩
  | some n =>
    refine ⟨(findNotifyError_status (by decide) n.data _).trans hmore, ?_⟩
    rintro n' hn'
    obtain rfl := some.inj hn'
    have hs : ([] : Bytes).length < 2 ^ 8 := by decide
    exact (findNotify_cons (show cookie2 < 2 ^ 16 by decide) hs _ _).trans (if_pos rfl)

/-- **The handler of INFORMATIONAL.**  It advances the counter and answers without an error, and it
closes the SA if it is told to delete it. -/
lemma handleInformational_spec {o : Outcome P} {inners : List RawPayload}
    (ho : o = handleInformational c cfg sa r pools) (hreply : o.reply = some inners) :
    o.sa.recvMsgID = nextMsgID r.hdr.messageID ∧ o.stored = none ∧ o.close = deletesIKE r.inners ∧
      checkInners inners = .ok inners ∧ ∀ n, findNotify r.inners cookie2 = some n →
        findNotify inners cookie2 = some { type := cookie2, data := n.data } := by
  by_cases hnil : r.inners = []
  · replace ho : o = respond (sa.expectAfter r) pools [] := ho.trans (if_pos hnil)
    subst ho
    obtain rfl := some.inj hreply
    rw [hnil]
    exact ⟨rfl, rfl, rfl, rfl, fun n hn => absurd hn (by simp [findNotify])⟩
  have hmsgID := handleMobikeInformational_recvMsgID c cfg (sa.expectAfter r) r
  have hanswer := fun removed => handleMobikeInformational_reply c cfg (sa.expectAfter r) r
    (findNotifyError_deleteReply removed)
  have hcheck : ∀ inners, findNotifyError inners = none → checkInners inners = .ok inners := by
    intro inners h
    rw [checkInners, h]
  replace ho : o = _ := ho.trans (if_neg hnil)
  dsimp only at ho
  cases hdel : deletesIKE r.inners
  all_goals
    subst ho
    rw [hdel] at hreply ⊢
    obtain rfl := some.inj hreply
    exact ⟨hmsgID, rfl, rfl, hcheck _ (hanswer _).1, (hanswer _).2⟩

/-! ## One exchange -/

variable {hops : List Hop}

section Exchange

variable {sys : System P} {p : Pending} {o : Outgoing} {h : Hop} {inners : List RawPayload}

/-- The two ends number the next request alike. -/
def System.Agree (sys : System P) : Prop :=
  (sys.server.byRSPI.lookup sys.client.spiR).map IKESA.recvMsgID = some sys.client.sendMsgID

instance (sys : System P) : Decidable sys.Agree := inferInstanceAs (Decidable (_ = _))

/-- **A call that is done after one answer.** -/
lemma agree_of_done {hs : List Hop} {cl : Client} {m : ℕ}
    (hserved : Served sys.server (sys.client.message o) sa)
    (hreply : (sys.server.outcome c (sys.client.message o) h sa).reply = some inners)
    (hclose : (sys.server.outcome c (sys.client.message o) h sa).close = false)
    (hstored : (sys.server.outcome c (sys.client.message o) h sa).stored = none)
    (hmsgID : (sys.server.outcome c (sys.client.message o) h sa).sa.recvMsgID = m)
    (hdone : (checkInners inners >>= sys.client.finish c p) = .ok (.done cl))
    (hspi : cl.spiR = sys.client.spiR) (hsend : cl.sendMsgID = m) :
    (sys.converse c (h :: hs) p o).sys.Agree := by
  rw [converse_cons hs hserved hreply, hdone]
  have hl : (sys.after c o h sa).byRSPI.lookup ((sys.client.message o).request h).hdr.responderSPI =
      some (sys.server.outcome c (sys.client.message o) h sa).sa :=
    lookup_conclude hclose hstored
  change (AList.lookup cl.spiR (sys.after c o h sa).byRSPI).map _ = some cl.sendMsgID
  rw [hspi, hsend, ← hmsgID]
  exact congrArg (Option.map IKESA.recvMsgID) hl

/-- A request that is an INFORMATIONAL and deletes no IKE SA. -/
lemma informational_agree (hex : o.exchangeType = informational)
    (hdel : deletesIKE o.inners = false)
    (hfinish : ∀ inners, (∀ n, findNotify o.inners cookie2 = some n →
        findNotify inners cookie2 = some { type := cookie2, data := n.data }) →
      ∃ cl, sys.client.finish c p inners = .ok (.done cl) ∧ cl.spiR = sys.client.spiR ∧
        cl.sendMsgID = nextMsgID o.msgID) (ha : (sys.converse c hops p o).answered = true) :
    (sys.converse c hops p o).sys.Agree := by
  obtain ⟨h, hs, sa, inners, rfl, hserved, hreply⟩ := converse_answered ha
  obtain ⟨hmsgID, hstored, hclose, hcheck, hcookie⟩ :=
    handleInformational_spec (dispatch_informational hex) hreply
  obtain ⟨cl, hfin, hspi, hsend⟩ := hfinish inners hcookie
  refine agree_of_done hserved hreply (hclose.trans hdel) hstored hmsgID ?_ hspi hsend
  rw [hcheck]
  exact hfin

/-! ## The calls -/

/-- `DeleteChildSA` deletes no IKE SA. -/
lemma deletesIKE_deletePayload (inSPI : ℕ) : deletesIKE [deletePayload inSPI] = false := by
  have hparse : parseDelete (marshalDelete ⟨protoESP, 4, [putBE32 inSPI]⟩) =
      some ⟨protoESP, 4, [putBE32 inSPI]⟩ := by
    apply parseDelete_marshalDelete
    · intro spi hspi
      rw [mem_singleton.mp hspi]
      rfl
    · exact Nat.one_lt_two_pow (by decide)
  simp only [deletesIKE, findAllInner, deletePayload, filter_cons, filter_nil, BEq.rfl,
    if_true, any_cons, any_nil, hparse, Bool.or_false]
  rfl

/-- The COOKIE2 of an update is the last of its notifies. -/
lemma findNotify_updatePayloads (cl : Client) (localAddr : UDPAddr) (cookie : Bytes) :
    findNotify (cl.updatePayloads c localAddr cookie) cookie2 =
      some { type := cookie2, data := cookie } := by
  have hs : ([] : Bytes).length < 2 ^ 8 := by decide
  have hskip : ∀ {t : ℕ} (data ps), t < 2 ^ 16 → t ≠ cookie2 →
      findNotify (notifyPayload { type := t, data } :: ps) cookie2 = findNotify ps cookie2 :=
    fun _ _ ht hne => (findNotify_cons ht hs _ _).trans (if_neg hne)
  rw [Client.updatePayloads, hskip _ _ (by decide) (by decide), hskip _ _ (by decide) (by decide),
    hskip _ _ (by decide) (by decide)]
  exact (findNotify_cons (show cookie2 < 2 ^ 16 by decide) hs _ _).trans (if_pos rfl)

/-- `RekeyChild` on a lease that the selector covers. -/
lemma rekeyChild_agree {msgID inSPI out : ℕ} {ni : Bytes} {old : ClientResult}
    (hex : o.exchangeType = createChildSA) (hid : o.msgID = msgID)
    (hin : o.inners = rekeyChildPayloads out inSPI ni) (hlt : inSPI < 2 ^ 32)
    (hcov : ∀ sa ∈ sys.server.byRSPI.lookup sys.client.spiR,
      tsiCoversLease [allTrafficV4] sa = true)
    (ha : (sys.converse c hops (.rekeyChild msgID inSPI ni old) o).answered = true) :
    (sys.converse c hops (.rekeyChild msgID inSPI ni old) o).sys.Agree := by
  obtain ⟨h, hs, sa, inners, rfl, hserved, hreply⟩ := converse_answered ha
  have ho : sys.server.outcome c (sys.client.message o) h sa = _ := dispatch_createChildSA hex
  obtain ⟨child, reply, hout, -, -, hclient⟩ :=
    handleCreateChildSA_rekeyChild ho hin hlt (hcov sa hserved.lookup)
  obtain rfl : reply = inners := some.inj ((congrArg Outcome.reply hout).symm.trans hreply)
  obtain ⟨res, hdone, -, -⟩ := hclient sys.client msgID old hserved.suite.symm hserved.keys.symm
  exact agree_of_done hserved hreply (congrArg Outcome.close hout)
    (congrArg Outcome.stored hout) (congrArg (fun o => o.sa.recvMsgID) hout) hdone rfl
    (congrArg nextMsgID hid.symm)

/-- The end of `RekeyIKE`: the replacement is under another SPI than the old SA, so it is still
there when that one is deleted. -/
lemma deleteOldIKESA_agree {agreed : NewIKESA} {new : IKESA} (hex : o.exchangeType = informational)
    (hin : o.inners = [deleteIKEPayload]) (hkeyed : sys.server.Keyed)
    (hnew : sys.server.byRSPI.lookup agreed.spiR = some new) (hzero : new.recvMsgID = 0)
    (hspi : agreed.spiR ≠ sys.client.spiR)
    (ha : (sys.converse c hops (.deleteOldIKESA agreed) o).answered = true) :
    (sys.converse c hops (.deleteOldIKESA agreed) o).sys.Agree := by
  obtain ⟨h, hs, sa, inners, rfl, hserved, hreply⟩ := converse_answered ha
  obtain ⟨-, hstored, hclose, hcheck, -⟩ :=
    handleInformational_spec (dispatch_informational hex) hreply
  have hclose' : (sys.server.outcome c (sys.client.message o) h sa).close = true :=
    hclose.trans (congrArg deletesIKE hin)
  have hold : (sys.server.outcome c (sys.client.message o) h sa).sa.responderSPI =
      sys.client.spiR :=
    (hserved.move h).spi_eq.trans (hkeyed _ sa hserved.lookup)
  rw [converse_cons hs hserved hreply, hcheck]
  change (AList.lookup agreed.spiR (sys.after c o h sa).byRSPI).map _ = some 0
  rw [System.after, conclude_byRSPI_close hclose' hstored, hold, lookup_erase_eq_ite, if_neg hspi,
    lookup_insert_eq_ite]
  change (if agreed.spiR = sys.client.spiR then _ else _ : Option IKESA).map _ = _
  rw [if_neg hspi, hnew, ← hzero]
  rfl

/-- `RekeyIKE`, over both of its exchanges. -/
lemma rekeyIKE_agree {msgID spiI : ℕ} {seed ni pub : Bytes} (hex : o.exchangeType = createChildSA)
    (hin : o.inners = rekeyIKEPayloads spiI dhCurve25519 ni pub) (hlt : spiI < 2 ^ 64)
    (hpub : c.dhPublic dhCurve25519 seed = some pub) (hkeyed : sys.server.Keyed)
    (hdh : sys.client.suite.dhID = dhCurve25519)
    (hfresh : ∀ h ∈ hops.head?, h.env.ikeSPI ≠ sys.client.spiR)
    (ha : (sys.converse c hops (.rekeyIKE msgID spiI seed ni) o).answered = true) :
    (sys.converse c hops (.rekeyIKE msgID spiI seed ni) o).sys.Agree := by
  obtain ⟨h, hs, sa, inners, rfl, hserved, hreply⟩ := converse_answered ha
  have ho : sys.server.outcome c (sys.client.message o) h sa = _ := dispatch_createChildSA hex
  obtain hout | ⟨reply, new, hout, hspi, hmsgID, hclient⟩ :=
    handleCreateChildSA_rekeyIKE ho hin hlt hpub
  · exact absurd ((congrArg Outcome.reply hout).symm.trans hreply) (by simp [silent])
  obtain rfl : reply = inners := some.inj ((congrArg Outcome.reply hout).symm.trans hreply)
  obtain ⟨agreed, hagain, -, hspiR, -, -⟩ := hclient sys.client msgID hdh hserved.keys.symm
  have hclose := congrArg Outcome.close hout
  have hnew : (sys.after c o h sa).byRSPI.lookup agreed.spiR = some new := by
    rw [System.after, conclude_byRSPI hclose, congrArg Outcome.stored hout, hspiR]
    exact AList.lookup_insert _
  rw [converse_cons hs hserved hreply, hagain] at ha ⊢
  have hne : agreed.spiR ≠ sys.client.spiR := by
    rw [hspiR, hspi]
    exact hfresh h rfl
  exact deleteOldIKESA_agree rfl rfl (hkeyed.after hserved h) hnew hmsgID hne ha

/-- What the responder accepts: a `RekeyChild` if the lease is covered by the selector that the
client proposes, and a `RekeyIKE` if the client's group is the one that it picks.  The SPI that it
draws for the replacement of an IKE SA is not the one of the SA that it replaces. -/
def System.Accepted (sys : System P) (x : Exchange) : Prop :=
  match x.op with
  | .rekeyChild => ∀ sa ∈ sys.server.byRSPI.lookup sys.client.spiR,
      tsiCoversLease [allTrafficV4] sa = true
  | .rekeyIKE => sys.client.suite.dhID = dhCurve25519 ∧
      ∀ h ∈ x.hops.head?, h.env.ikeSPI ≠ sys.client.spiR
  | _ => True

instance (sys : System P) (x : Exchange) : Decidable (sys.Accepted x) := by
  unfold System.Accepted
  cases x.op <;> infer_instance

/-- **The step.**  After an exchange that the responder accepts, the two ends number the next
request alike. -/
lemma exchange_agree {x : Exchange} (hkeyed : sys.server.Keyed) (hacc : sys.Accepted x)
    (ha : (sys.exchange c x).answered = true) : (sys.exchange c x).sys.Agree := by
  obtain ⟨e, he⟩ | ⟨p, o, hstarted, heq⟩ := exchange_cases c sys x
  · rw [he] at ha
    exact absurd ha Bool.false_ne_true
  rw [heq] at ha ⊢
  obtain ⟨op, draws, hops⟩ := x
  cases hstarted with
  | sendDPD => exact informational_agree rfl rfl (fun inners _ => ⟨_, rfl, rfl, rfl⟩) ha
  | deleteChildSA inSPI =>
    exact informational_agree rfl (deletesIKE_deletePayload inSPI)
      (fun inners _ => ⟨_, rfl, rfl, rfl⟩) ha
  | rekeyChild _ old _ =>
    exact rekeyChild_agree (o := ⟨createChildSA, sys.client.sendMsgID, _⟩) rfl rfl rfl
      draws.childSPI_lt hacc ha
  | rekeyIKE _ pub hpub =>
    obtain ⟨hdh, hfresh⟩ := hacc
    dsimp only at ha ⊢
    rw [hdh] at hpub ha ⊢
    exact rekeyIKE_agree (o := ⟨createChildSA, _, _⟩) rfl rfl draws.ikeSPI_lt hpub hkeyed hdh
      hfresh ha
  | roam localAddr =>
    refine informational_agree rfl rfl (fun inners hcookie => ?_) ha
    have hfound := hcookie _ (findNotify_updatePayloads sys.client localAddr _)
    refine ⟨{ sys.client with sendMsgID := nextMsgID sys.client.sendMsgID, localAddr }, ?_,
      rfl, rfl⟩
    rw [Client.finish, hfound]
    exact if_pos rfl

end Exchange

/-! ## Runs -/

/-- **The run.**  From the end of a handshake on, as long as the responder accepts what is asked of
it, each exchange whose answers the client has read leaves the two ends with the same number. -/
theorem message_ids_agree (c : Crypto) (cfg : Config P) (pools : P) (secret : Option Bytes)
    (now : ℤ) (ds : List Datagram) (ini : Initiator) (client : ClientConfig) (dial : Dial) (e : Env)
    (h : ℕ → Hop) (sys : System P)
    (hconn : connect c ini client dial (run (Server.step c) (newServer cfg pools secret now) ds) e h
      = .ok sys) (xs : List Exchange) (hacc : Along (System.step c) System.Accepted sys xs) :
    Along (System.step c)
      (fun sys x => (sys.exchange c x).answered = true → (sys.exchange c x).sys.Agree) sys xs := by
  have hreached : (run (Server.step c) (newServer cfg pools secret now) ds).Keyed :=
    inv_run Server.Keyed (fun s d hs _ => hs.step) _ ds (newServer_keyed cfg pools secret now)
      (along_true _ _ ds)
  have hkeyed : sys.server.Keyed := hreached.connect hconn
  exact along_of_inv (fun sys : System P => sys.server.Keyed) (fun sys x hk _ => hk.exchange x)
    (fun sys x hk hx => exchange_agree hk hx) sys xs hkeyed hacc

/-- A run of every kind of exchange. -/
def everyExchange : List Exchange :=
  [dpdOnce, rekeyOnce,
    ⟨.deleteChildSA 6, drawing 5 6, [hopDrawing 7 8]⟩,
    ⟨.rekeyIKE, drawing 11 6, [hopDrawing 12 8, hopDrawing 12 8]⟩,
    ⟨.roam initiatorAddr, drawing 5 6, [hopDrawing 7 8]⟩]

theorem message_ids_agree_every : ∃ sys, connected { ip4 := some [10, 0, 0, 2] } false = .ok sys ∧
      Along (System.step plainCrypto) System.Accepted sys everyExchange ∧
      Along (System.step plainCrypto) (fun sys x => (sys.exchange plainCrypto x).answered = true)
        sys everyExchange ∧
      Along (System.step plainCrypto) (fun sys x => (sys.exchange plainCrypto x).answered = true →
        (sys.exchange plainCrypto x).sys.Agree) sys everyExchange := by
  obtain ⟨sys, hconn, hrun⟩ : ∃ sys, connected { ip4 := some [10, 0, 0, 2] } false = .ok sys ∧
      decide (Along (System.step plainCrypto) System.Accepted sys everyExchange ∧
        Along (System.step plainCrypto) (fun sys x => (sys.exchange plainCrypto x).answered = true)
          sys everyExchange) = true := exists_ok (by decide +kernel)
  obtain ⟨hacc, hanswered⟩ := of_decide_eq_true hrun
  exact ⟨sys, hconn, hacc, hanswered,
    message_ids_agree plainCrypto _ () _ 0 [] plainInitiator _ _ _ _ sys hconn _ hacc⟩

/-- **A refused rekey.**  The lease is an IPv6 address: `RekeyChild` reads the refusal, and the
number of its next request is not the one that the responder expects. -/
theorem refused_rekeyChild_disagrees :
    ∃ sys, connected { ip6 := some (List.replicate 16 0) } false = .ok sys ∧ sys.Agree ∧
      (sys.exchange plainCrypto rekeyOnce).answered = true ∧
      (sys.exchange plainCrypto rekeyOnce).err = some (.serverNotify tsUnacceptable) ∧
      ¬ (sys.exchange plainCrypto rekeyOnce).sys.Agree ∧
      ((sys.exchange plainCrypto rekeyOnce).sys.exchange plainCrypto dpdOnce).answered = false := by
  obtain ⟨sys, hconn, hrun⟩ := exists_ok (x := connected { ip6 := some (replicate 16 0) } false)
    (p := fun sys => decide (sys.Agree ∧ (sys.exchange plainCrypto rekeyOnce).answered = true ∧
      (sys.exchange plainCrypto rekeyOnce).err = some (.serverNotify tsUnacceptable) ∧
      ¬ (sys.exchange plainCrypto rekeyOnce).sys.Agree ∧
      ((sys.exchange plainCrypto rekeyOnce).sys.exchange plainCrypto dpdOnce).answered = false))
    (by decide +kernel)
  exact ⟨sys, hconn, of_decide_eq_true hrun⟩

end Veepin.IKE
