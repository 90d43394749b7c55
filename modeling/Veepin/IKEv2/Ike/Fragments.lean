import Veepin.Core.Runs
import Veepin.IKEv2.Ike.Sealed

/-!
# Fragments go round

A protected message that is too long goes out as SKF fragments, each sealed for itself, and is put
together by the reassembler of the other end (`fragment.go`).  Fragments come in any order, and any
of them comes again.

* `FragReassembler.Holding` — what the reassembler keeps of a message of which a set of fragments
  has come; `holding_add` is the step and `kept_run` the run;
* `build_fragments` — the datagrams of a message bring its chunks to the reassembler;
* `Tracked`, `tracks_take` — whatever fragments come, those that `got` counts have come.

The slot of a fragment counts as free while its chunk is empty, the reassembler takes fewer octets
than the sender lets through, and it forgets a message when it completes it.
`fragmentation_round_trip` says when none of this matters.
-/

namespace Veepin.IKE

open List Option

variable {c : Crypto} {total fragNum : ℕ}

/-! ## One fragment -/

namespace FragReassembler

/-- The reassembler as a fragment of a message finds it: begun anew, unless it is at work on that
message already. -/
def begun (r : FragReassembler) (now : ℤ) (msgID total : ℕ) : FragReassembler :=
  if r.parts = none ∨ msgID ≠ r.msgID ∨ total ≠ r.total ∨
      (r.parts.isSome && decide (fragReassemblyTTL < now - r.started)) then
    { msgID, total, parts := some (List.replicate total []), got := 0, bytes := 0, first := 0,
      started := now }
  else r

/-- The reassembler with one more fragment, in slot `i`. -/
def stored (r : FragReassembler) (i : ℕ) (first : UInt8) (chunk : Bytes) :
    FragReassembler :=
  { r with
    parts := some ((r.parts.getD []).set i chunk), got := r.got + 1,
    bytes := r.bytes + chunk.length, first := if i + 1 = 1 then first else r.first }

/-- **What `add` does** with a fragment whose number and total are in range. -/
lemma add_eq (r : FragReassembler) (now : ℤ) (msgID : ℕ) {i : ℕ}
    (first : UInt8) (chunk : Bytes) (hmax : total ≤ maxFragments) (hi : i < total) :
    r.add now msgID (i + 1) total first chunk =
      let b := r.begun now msgID total
      if (b.parts.getD []).getD i [] ≠ [] then (b, .pending)
      else if maxReassembledBytes < b.bytes + chunk.length then (b.reset, .error)
      else if b.got + 1 < b.total then (b.stored i first chunk, .pending)
      else ((b.stored i first chunk).reset,
        .complete ((b.parts.getD []).set i chunk).flatten (b.stored i first chunk).first) := by
  rw [add, if_neg (by omega), if_neg (by omega)]
  rfl

/-- A number or a total out of range is refused. -/
lemma add_refused (r : FragReassembler) (now : ℤ) (msgID : ℕ) (first : UInt8)
    (chunk : Bytes) (h : ¬ ((0 < total ∧ total ≤ maxFragments) ∧ 0 < fragNum ∧ fragNum ≤ total)) :
    r.add now msgID fragNum total first chunk = (r, .error) := by
  rw [add]
  by_cases ht : total = 0 ∨ maxFragments < total
  · rw [if_pos ht]
  · rw [if_neg ht, if_pos (by omega)]

end FragReassembler

/-! ## The fragments of one message -/

section Message

variable {inner : Bytes} {n : ℕ} {chunk : Fin n → Bytes} {msgID : ℕ} {first : UInt8}
  {r : FragReassembler} {S : Finset (Fin n)} {t : ℤ}

/-- An inner chain, cut into chunks. -/
structure Chunks (inner : Bytes) (chunk : Fin n → Bytes) : Prop where
  pos : 0 < n
  le : n ≤ maxFragments
  join : (List.ofFn chunk).flatten = inner
  /-- Only an empty message has an empty chunk. -/
  ne_nil : 1 < n → ∀ i, chunk i ≠ []

/-- The chunk of a fragment that has come. -/
def part (chunk : Fin n → Bytes) (S : Finset (Fin n)) (i : Fin n) : Bytes :=
  if i ∈ S then chunk i else []

/-- The fragments of `S` have come, the first at `t`. -/
structure FragReassembler.Holding (r : FragReassembler) (chunk : Fin n → Bytes) (msgID : ℕ)
    (first : UInt8) (S : Finset (Fin n)) (t : ℤ) : Prop where
  msgID : r.msgID = msgID
  total : r.total = n
  parts : r.parts = some (List.ofFn (part chunk S))
  got : r.got = S.card
  bytes : r.bytes = ∑ i ∈ S, (chunk i).length
  first : r.first = if ∃ i ∈ S, i.val = 0 then first else 0
  started : r.started = t

/-- The reassembler is not at work on the message. -/
def FragReassembler.Fresh (r : FragReassembler) (msgID : ℕ) : Prop :=
  r.parts = none ∨ r.msgID ≠ msgID

lemma Chunks.length_eq (h : Chunks inner chunk) : inner.length = ∑ i, (chunk i).length := by
  rw [← h.join, length_flatten, map_ofFn, sum_ofFn]
  rfl

open FragReassembler

lemma FragReassembler.Fresh.begun (h : r.Fresh msgID) (now : ℤ) :
    (r.begun now msgID n).Holding chunk msgID first ∅ now := by
  have hparts : replicate n [] = ofFn (part chunk ∅) := by
    rw [← ofFn_const]
    rfl
  have hnew : r.parts = none ∨ msgID ≠ r.msgID ∨ n ≠ r.total ∨
      (r.parts.isSome && decide (fragReassemblyTTL < now - r.started)) := by
    rcases h with h | h
    · exact .inl h
    · exact .inr (.inl h.symm)
  rw [FragReassembler.begun, if_pos hnew]
  exact ⟨rfl, rfl, congrArg some hparts, rfl, rfl, by simp, rfl⟩

lemma FragReassembler.Holding.begun (h : r.Holding chunk msgID first S t) {now : ℤ}
    (hnow : now - t ≤ fragReassemblyTTL) : r.begun now msgID n = r := by
  rw [FragReassembler.begun, if_neg]
  rw [h.parts, h.msgID, h.total, h.started]
  simp [hnow]

lemma part_insert (chunk : Fin n → Bytes) (S : Finset (Fin n)) (i : Fin n) :
    (List.ofFn (part chunk S)).set i (chunk i) = List.ofFn (part chunk (insert i S)) := by
  refine ext_getElem (by simp) fun k hk _ => ?_
  have hkn : k < n := by simpa using hk
  rw [List.getElem_set, List.getElem_ofFn, List.getElem_ofFn]
  by_cases hik : i.val = k
  · have : i = ⟨k, hkn⟩ := Fin.ext hik
    simp [hik, ← this, part]
  · have hne : (⟨k, hkn⟩ : Fin n) ≠ i := fun h => hik (congrArg Fin.val h).symm
    simp [hik, part, Finset.mem_insert, hne]

/-- The slot of a fragment is empty just if it has not come. -/
lemma Chunks.slot_eq_nil (h : Chunks inner chunk) (hS : S ≠ Finset.univ) (i : Fin n) :
    (List.ofFn (part chunk S)).getD i [] = [] ↔ i ∉ S := by
  have hget : (ofFn (part chunk S)).getD i [] = part chunk S i := by
    rw [getD_eq_getElem _ _ (by simp)]
    simp
  rw [hget, part]
  split_ifs with hi
  · -- a message of one fragment would be complete
    have h1 : 1 < n := by
      by_contra hn
      have : n = 1 := by have := h.pos; omega
      subst this
      exact hS (Finset.eq_univ_of_forall fun j => Subsingleton.elim i j ▸ hi)
    simp [hi, h.ne_nil h1 i]
  · simp [hi]

/-- Fragment `i` of the message comes at `now`. -/
def FragReassembler.deliver (chunk : Fin n → Bytes) (msgID : ℕ) (first : UInt8)
    (r : FragReassembler) (i : Fin n) (now : ℤ) : FragReassembler × FragResult :=
  r.add now msgID (i + 1) n (if i.val = 0 then first else 0) (chunk i)

/-- What comes of a fragment when those of `S` have come before. -/
structure Delivered (chunk : Fin n → Bytes) (msgID : ℕ) (first : UInt8) (inner : Bytes)
    (S : Finset (Fin n)) (i : Fin n) (t : ℤ) (d : FragReassembler × FragResult) : Prop where
  last : insert i S = Finset.univ → inner.length ≤ maxReassembledBytes ∧
    d.2 = .complete inner first ∧ d.1.parts = none
  more : insert i S ≠ Finset.univ → d.2 = .pending ∧ d.1.Holding chunk msgID first (insert i S) t

/-- **The step.**  A fragment of the message that the reassembler is at work on is kept, ignored or
completes the message, unless there are too many octets. -/
lemma holding_add (hc : Chunks inner chunk) (hS : S ≠ Finset.univ) (i : Fin n) {now : ℤ}
    (h : (r.begun now msgID n).Holding chunk msgID first S t)
    (hok : inner.length ≤ maxReassembledBytes ∨ (r.deliver chunk msgID first i now).2 ≠ .error) :
    Delivered chunk msgID first inner S i t (r.deliver chunk msgID first i now) := by
  have hslot := hc.slot_eq_nil hS i
  unfold deliver at hok ⊢
  rw [add_eq _ _ _ _ _ hc.le i.isLt] at hok ⊢
  simp only [h.parts, getD_some, h.total] at hok ⊢
  by_cases hi : i ∈ S
  · -- a fragment that has come already
    have hsame : insert i S = S := Finset.insert_eq_self.mpr hi
    rw [if_pos (fun he => hslot.mp he hi)]
    exact ⟨fun hu => absurd (hsame ▸ hu) hS, fun _ => ⟨rfl, by rw [hsame]; exact h⟩⟩
  rw [if_neg (not_not.mpr (hslot.mpr hi))] at hok ⊢
  have hsum : ∑ j ∈ insert i S, (chunk j).length =
      (r.begun now msgID n).bytes + (chunk i).length := by
    rw [Finset.sum_insert hi, h.bytes, Nat.add_comm]
  have hle : (r.begun now msgID n).bytes + (chunk i).length ≤ inner.length := by
    rw [← hsum, hc.length_eq]
    exact Finset.sum_le_univ_sum_of_nonneg fun _ => Nat.zero_le _
  have hroom : ¬ maxReassembledBytes < (r.begun now msgID n).bytes + (chunk i).length := by
    rcases hok with hok | hok
    · omega
    · exact fun hlt => hok (by rw [if_pos hlt])
  rw [if_neg hroom]
  have hcard : (r.begun now msgID n).got + 1 = (insert i S).card := by
    rw [Finset.card_insert_of_notMem hi, h.got]
  have hfirst : ((r.begun now msgID n).stored i (if i.val = 0 then first else 0) (chunk i)).first =
      if ∃ j ∈ insert i S, j.val = 0 then first else 0 := by
    rw [stored, h.first]
    by_cases h0 : i.val = 0 <;> simp [h0]
  rw [part_insert, hcard, hfirst]
  constructor
  · intro hu
    have hfull : ¬ (insert i S).card < n := by rw [hu, Finset.card_univ, Fintype.card_fin]; omega
    have hzero : ∃ j ∈ insert i S, j.val = 0 := ⟨⟨0, hc.pos⟩, by rw [hu]; simp, rfl⟩
    have hparts : part chunk (insert i S) = chunk := by
      funext j
      simp [part, hu]
    rw [if_neg hfull, if_pos hzero, hparts, hc.join]
    refine ⟨?_, rfl, rfl⟩
    rw [hc.length_eq, ← hu, hsum]
    omega
  · intro hne
    have hlt : (insert i S).card < n := by
      simpa using (Finset.card_lt_iff_ne_univ _).mpr hne
    rw [if_pos hlt]
    refine ⟨rfl, h.msgID, h.total, ?_, hcard, hsum.symm, hfirst, h.started⟩
    rw [stored, h.parts, ← part_insert]
    rfl

/-! ## Arrivals in any order -/

/-- A datagram arrives: which of those that were sent, and when. -/
structure Arrival (n : ℕ) where
  index : Fin n
  now : ℤ
  deriving DecidableEq, Repr

/-- The fragments that have arrived. -/
def arrived (as : List (Arrival n)) : Finset (Fin n) := (as.map Arrival.index).toFinset

/-- Every fragment has arrived. -/
def Covers (as : List (Arrival n)) : Prop := arrived as = Finset.univ

instance (as : List (Arrival n)) : Decidable (Covers as) :=
  inferInstanceAs (Decidable (_ = _))

/-- No arrival is later than another by more than the lifetime of a reassembly. -/
def InTime (as : List (Arrival n)) : Prop :=
  as.Pairwise fun a b => b.now - a.now ≤ fragReassemblyTTL

variable {as bs : List (Arrival n)} {a : Arrival n}

lemma arrived_concat (as : List (Arrival n)) (a : Arrival n) :
    arrived (as ++ [a]) = insert a.index (arrived as) := by
  simp [arrived, toFinset_append, Finset.union_comm]

lemma covers_iff : Covers as ↔ ∀ i, i ∈ as.map Arrival.index := by
  simp [Covers, arrived, Finset.eq_univ_iff_forall]

lemma Covers.mono (h : Covers as) (hsub : as ⊆ bs) : Covers bs :=
  covers_iff.mpr fun i => map_subset _ hsub (covers_iff.mp h i)

/-- The arrival with which every fragment is there for the first time. -/
lemma Covers.exists_first (hn : 0 < n) (h : Covers as) :
    ∃ pre a post, as = pre ++ a :: post ∧ ¬ Covers pre ∧ Covers (pre ++ [a]) := by
  induction as using reverseRecOn with
  | nil => exact absurd (covers_iff.mp h ⟨0, hn⟩) (by simp)
  | append_singleton as a ih =>
    by_cases has : Covers as
    · obtain ⟨pre, b, post, rfl, hpre, hb⟩ := ih has
      exact ⟨pre, b, post ++ [a], by simp, hpre, hb⟩
    · exact ⟨as, a, [], rfl, has, h⟩

/-- What the reassembler keeps after the arrivals `as`, which do not complete the message. -/
def Kept (chunk : Fin n → Bytes) (msgID : ℕ) (first : UInt8) (r : FragReassembler) :
    List (Arrival n) → Prop
  | [] => r.Fresh msgID
  | a :: as => r.Holding chunk msgID first (arrived (a :: as)) a.now

/-- Delivery as a step function. -/
def deliverStep (chunk : Fin n → Bytes) (msgID : ℕ) (first : UInt8) (r : FragReassembler)
    (a : Arrival n) : FragReassembler :=
  (r.deliver chunk msgID first a.index a.now).1

/-- What comes of an arrival, the last of `as`. -/
structure Answered (chunk : Fin n → Bytes) (msgID : ℕ) (first : UInt8) (inner : Bytes)
    (as : List (Arrival n)) (d : FragReassembler × FragResult) : Prop where
  last : Covers as → inner.length ≤ maxReassembledBytes ∧ d.2 = .complete inner first ∧
    d.1.Fresh msgID
  more : ¬ Covers as → d.2 = .pending ∧ Kept chunk msgID first d.1 as

/-- One more arrival. -/
lemma kept_deliver (hc : Chunks inner chunk) (hin : InTime (as ++ [a])) (has : ¬ Covers as)
    (h : Kept chunk msgID first r as) (hok : inner.length ≤ maxReassembledBytes ∨
      (r.deliver chunk msgID first a.index a.now).2 ≠ .error) :
    Answered chunk msgID first inner (as ++ [a]) (r.deliver chunk msgID first a.index a.now) := by
  cases as with
  | nil =>
    obtain ⟨hlast, hmore⟩ := holding_add hc has a.index (FragReassembler.Fresh.begun h a.now) hok
    refine ⟨fun hcov => ?_, fun hcov => hmore (arrived_concat [] a ▸ hcov)⟩
    obtain ⟨h1, h2, h3⟩ := hlast (arrived_concat [] a ▸ hcov)
    exact ⟨h1, h2, .inl h3⟩
  | cons b as =>
    have hlate : a.now - b.now ≤ fragReassemblyTTL :=
      rel_of_pairwise_cons hin (by simp)
    have hb : r.Holding chunk msgID first (arrived (b :: as)) b.now := h
    have hbegun : (r.begun a.now msgID n).Holding chunk msgID first (arrived (b :: as)) b.now := by
      rw [hb.begun hlate]
      exact hb
    have hset := arrived_concat (b :: as) a
    obtain ⟨hlast, hmore⟩ := holding_add hc has a.index hbegun hok
    rw [← hset] at hlast hmore
    refine ⟨fun hcov => ?_, hmore⟩
    obtain ⟨h1, h2, h3⟩ := hlast hcov
    exact ⟨h1, h2, .inl h3⟩

/-- No arrival of the run is answered with an error. -/
def NoError (chunk : Fin n → Bytes) (msgID : ℕ) (first : UInt8) (r : FragReassembler)
    (as : List (Arrival n)) : Prop :=
  ∀ pre a post, as = pre ++ a :: post →
    ((run (deliverStep chunk msgID first) r pre).deliver chunk msgID first a.index a.now).2 ≠ .error

lemma NoError.left (h : NoError chunk msgID first r (as ++ bs)) :
    NoError chunk msgID first r as := fun pre a post he => h pre a (post ++ bs) (by simp [he])

/-- **The run.**  As long as a fragment is outstanding, the reassembler keeps those that have
arrived. -/
lemma kept_run (hc : Chunks inner chunk) (hr : r.Fresh msgID) (hin : InTime as) (has : ¬ Covers as)
    (hok : inner.length ≤ maxReassembledBytes ∨ NoError chunk msgID first r as) :
    Kept chunk msgID first (run (deliverStep chunk msgID first) r as) as := by
  induction as using reverseRecOn with
  | nil => exact hr
  | append_singleton as a ih =>
    have hshort : ¬ Covers as := fun h => has (h.mono (by simp))
    have hkept := ih (pairwise_append.mp hin).1 hshort (hok.imp_right NoError.left)
    rw [run_concat]
    exact ((kept_deliver hc hin hshort hkept (hok.imp_right fun h => h as a [] rfl)).more has).2

/-- The answer to each arrival: the message, to the first arrival with which it is complete. -/
def CompletesOnce (chunk : Fin n → Bytes) (msgID : ℕ) (first : UInt8) (inner : Bytes)
    (r : FragReassembler) (as : List (Arrival n)) : Prop :=
  ∀ pre a post, as = pre ++ a :: post →
    ((run (deliverStep chunk msgID first) r pre).deliver chunk msgID first a.index a.now).2 =
      if Covers (pre ++ [a]) ∧ ¬ Covers pre then .complete inner first else .pending

lemma CompletesOnce.noError (h : CompletesOnce chunk msgID first inner r as) :
    NoError chunk msgID first r as := by
  intro pre a post he
  rw [h pre a post he]
  split_ifs <;> simp

/-- The answer to an arrival that finds a fragment outstanding. -/
lemma deliver_run (hc : Chunks inner chunk) (first : UInt8) (hr : r.Fresh msgID)
    (hin : InTime (as ++ [a])) (has : ¬ Covers as)
    (hok : inner.length ≤ maxReassembledBytes ∨ NoError chunk msgID first r (as ++ [a])) :
    Answered chunk msgID first inner (as ++ [a])
      ((run (deliverStep chunk msgID first) r as).deliver chunk msgID first a.index a.now) :=
  kept_deliver hc hin has
    (kept_run hc hr (pairwise_append.mp hin).1 has (hok.imp_right NoError.left))
    (hok.imp_right fun h => h as a [] rfl)

/-- **A message completes once** just if it is not too long and does not arrive a second time. -/
lemma completesOnce_iff (hc : Chunks inner chunk) (hr : r.Fresh msgID) (hin : InTime as)
    (hcov : Covers as) :
    CompletesOnce chunk msgID first inner r as ↔ inner.length ≤ maxReassembledBytes ∧
        ¬ ∃ pre post, as = pre ++ post ∧ Covers pre ∧ Covers post := by
  constructor
  · intro h
    have hno := h.noError
    have hle : inner.length ≤ maxReassembledBytes := by
      obtain ⟨pre, a, post, rfl, hpre, ha⟩ := hcov.exists_first hc.pos
      rw [append_cons] at hin hno
      exact ((deliver_run hc first hr (pairwise_append.mp hin).1 hpre (.inr hno.left)).last ha).1
    refine ⟨hle, ?_⟩
    rintro ⟨pre, post, rfl, hpre, hpost⟩
    -- the reassembler is fresh after the message, so the second copy completes as the first did
    obtain ⟨p, a, q, rfl, hp, ha⟩ := hpre.exists_first hc.pos
    obtain ⟨p', b, q', he, hp', hb⟩ := (hpost.mono (subset_append_right q post)).exists_first hc.pos
    have hsplit : p ++ a :: q ++ post = (p ++ [a]) ++ (p' ++ b :: q') := by simp [← he]
    have hfresh : (run (deliverStep chunk msgID first) r (p ++ [a])).Fresh msgID := by
      rw [run_concat]
      exact ((deliver_run hc first hr (hin.sublist (by simp)) hp (.inl hle)).last ha).2.2
    have hin' : InTime (p' ++ [b]) := hin.sublist (by
      rw [hsplit]
      exact List.Sublist.trans (by simp) (sublist_append_right _ _))
    have hsecond := ((deliver_run hc first hfresh hin' hp' (.inl hle)).last hb).2.1
    rw [← run_append, h (p ++ [a] ++ p') b q' (by simp [hsplit]), if_neg] at hsecond
    · cases hsecond
    · exact fun hboth => hboth.2 (ha.mono (by simp))
  · rintro ⟨hle, honce⟩ pre a post rfl
    have hsub : (pre ++ [a]).Sublist (pre ++ a :: post) := by simp
    by_cases hpre : Covers pre
    · -- the message is complete already, and what comes after it is not all of it again
      obtain ⟨p, b, q, rfl, hp, hb⟩ := hpre.exists_first hc.pos
      have hrest : ¬ Covers (q ++ [a]) := fun hq => honce
        ⟨p ++ [b], q ++ a :: post, by simp, hb, hq.mono (by simp)⟩
      have hfresh : (run (deliverStep chunk msgID first) r (p ++ [b])).Fresh msgID := by
        rw [run_concat]
        exact ((deliver_run hc first hr (hin.sublist (by simp)) hp (.inl hle)).last hb).2.2
      have hin' : InTime (q ++ [a]) := hin.sublist (by simp)
      have hpend := (deliver_run hc first hfresh hin' (fun hq => hrest (hq.mono (by simp)))
        (.inl hle)).more hrest
      rw [← run_append] at hpend
      rw [if_neg (fun hboth => hboth.2 hpre)]
      simpa using hpend.1
    · obtain ⟨hlast, hmore⟩ := deliver_run hc first hr (hin.sublist hsub) hpre (.inl hle)
      split_ifs with hif
      · exact (hlast hif.1).2.1
      · exact (hmore fun ha => hif ⟨ha, hpre⟩).1

end Message

/-! ## From the wire -/

/-- A datagram with an SKF payload, as both ends take it in: `decryptSKF`, then `add`. -/
def FragReassembler.receive (c : Crypto) (s : Suite) (keys : SAKeys) (dir : KeyDir)
    (r : FragReassembler) (now : ℤ) (raw : Bytes) : FragReassembler × Option FragResult :=
  match parseMessage raw with
  | none => (r, none)
  | some msg =>
    match findInner msg.payloads typeSKF with
    | none => (r, none)
    | some skf =>
      match decryptSKF c raw skf s keys dir with
      | none => (r, none)
      | some (fragNum, total, first, chunk) =>
        let added := r.add now msg.header.messageID fragNum total first chunk
        (added.1, some added.2)

variable {hdr : Header} {keys : SAKeys} {dir : KeyDir}

lemma receive_eq {s : Suite} {raw body chunk : Bytes}
    {first : UInt8}
    (hparse : parseMessage raw = some ⟨hdr, [⟨typeSKF, false, body⟩]⟩)
    (hdecrypt : decryptSKF c raw ⟨typeSKF, false, body⟩ s keys dir =
      some (fragNum, total, first, chunk)) (r : FragReassembler) (now : ℤ) :
    r.receive c s keys dir now raw = ((r.add now hdr.messageID fragNum total first chunk).1,
        some (r.add now hdr.messageID fragNum total first chunk).2) := by
  have hfind : findInner [⟨typeSKF, false, body⟩] typeSKF = some ⟨typeSKF, false, body⟩ := by
    simp [findInner]
  simp only [FragReassembler.receive, hparse, hfind, hdecrypt]

/-- The header of a fragment, as it goes out. -/
def fragmentHeader (hdr : Header) (s : Suite) (chunkLen : ℕ) : Header :=
  { hdr with
    nextPayload := typeSKF, version := 0x20
    length := headerLen + (4 + skfPrefixLen + s.skBodyLen chunkLen) }

/-- **A fragment arrives as it was sealed.** -/
lemma receive_fragment (hf : hdr.Fits) (s : Suite) (keys : SAKeys) (dir : KeyDir)
    (hn : fragNum < 2 ^ 16) (ht : total < 2 ^ 16) (next : UInt8) (chunk : Bytes)
    (iv : ℕ → UInt8) (hlen : 4 + skfPrefixLen + s.skBodyLen chunk.length < 2 ^ 16) :
    ∃ pkt, sealSKF c hdr s keys dir fragNum total next chunk iv = some pkt ∧
      ∀ (r : FragReassembler) now, r.receive c s keys dir now pkt =
        ((r.add now hdr.messageID fragNum total next chunk).1,
          some (r.add now hdr.messageID fragNum total next chunk).2) := by
  set numbers := putBE16 fragNum ++ putBE16 total with hnumbers
  have hnl : numbers.length = skfPrefixLen := rfl
  have hhdr : (fragmentHeader hdr s chunk.length).Fits :=
    ⟨hf.spiI, hf.spiR, hf.msgID, by simp only [fragmentHeader, headerLen]; omega⟩
  obtain ⟨aad, body, haad, hbody, hbl, hparse, hstart, htake, hfirst, hopen⟩ :=
    parseMessage_sealed c hhdr s keys dir next numbers chunk iv hlen (by rw [hnl]; omega) rfl
      (t := typeSKF) rfl (by decide)
  refine ⟨aad ++ body, ?_, fun r now => receive_eq hparse ?_ r now⟩
  · subst hbody haad
    exact if_neg fun hne => hne hbl
  have hnum : be16 (numbers ++ body) 0 = fragNum := be16_of_lt hn
  have htot : be16 (numbers ++ body) 2 = total := be16_of_lt ht
  have hlong : ¬ (numbers ++ body).length < skfPrefixLen := by
    rw [length_append, hnl]
    omega
  have hdrop : (numbers ++ body).drop skfPrefixLen = body := by rw [← hnl, drop_left]
  simp only [decryptSKF, if_neg hlong, hdrop, hstart, htake, hopen, hnum, htot]
  simpa [strip_pad chunk s.blockLen_le, hnl, skfPrefixLen] using hfirst

/-- The `i`-th chunk of `room` octets. -/
def chunkAt (inner : Bytes) (room i : ℕ) : Bytes := (inner.drop (i * room)).take room

lemma flatten_chunkAt (inner : Bytes) (room n : ℕ) :
    ((List.range n).map (chunkAt inner room)).flatten = inner.take (n * room) := by
  induction n with
  | zero => simp
  | succ n ih =>
    rw [range_succ, map_append, flatten_append, ih, Nat.succ_mul, take_add]
    simp [chunkAt]

/-- What `buildFragmentedMessage` cuts a chain into. -/
lemma chunks_chunkAt {inner : Bytes} {room n : ℕ} (hroom : 0 < room)
    (hn : n = max 1 ((inner.length + room - 1) / room)) (hle : n ≤ maxFragments) :
    Chunks inner fun i : Fin n => chunkAt inner room i := by
  refine ⟨by omega, hle, ?_, fun h1 i => ?_⟩
  · have hofFn : ofFn (fun i : Fin n => chunkAt inner room i) =
        (range n).map (chunkAt inner room) := by
      refine ext_getElem (by simp) fun k _ _ => by simp
    have hlen : inner.length ≤ n * room := by
      have := Nat.lt_div_mul_add hroom (a := inner.length + room - 1)
      have hdiv : (inner.length + room - 1) / room * room ≤ n * room :=
        Nat.mul_le_mul_right _ (by omega)
      omega
    rw [hofFn, flatten_chunkAt, take_of_length_le hlen]
  · have hdiv : i.val + 1 ≤ (inner.length + room - 1) / room := by have := i.isLt; omega
    have hmul : (i.val + 1) * room ≤ inner.length + room - 1 :=
      (Nat.le_div_iff_mul_le hroom).mp hdiv
    rw [Nat.succ_mul] at hmul
    have hpos : 0 < (chunkAt inner room i).length := by
      rw [chunkAt, length_take, length_drop]
      omega
    exact ne_nil_of_length_pos hpos

lemma forall₂_of_mapM {α β : Type*} {f : α → Option β} :
    ∀ {xs : List α} {ys : List β}, xs.mapM f = some ys →
      List.Forall₂ (fun x y => f x = some y) xs ys
  | [], ys, h => by
    obtain rfl : [] = ys := by simpa using h
    exact .nil
  | x :: xs, ys, h => by
    simp only [mapM_cons, Option.bind_eq_bind, Option.bind_eq_some_iff, Option.pure_def,
      some.injEq] at h
    obtain ⟨y, hy, ys', hys, rfl⟩ := h
    exact .cons hy (forall₂_of_mapM hys)

/-- **The datagrams of a fragmented message** bring its chunks to the reassembler. -/
lemma build_fragments (hf : hdr.Fits) {s : Suite} {first : UInt8}
    {inner : Bytes} {iv : ℕ → ℕ → UInt8} {ds : List Bytes}
    (h : buildFragmentedMessage c hdr s keys dir first inner iv = some ds) :
    ∃ chunk : Fin ds.length → Bytes, Chunks inner chunk ∧
      ∀ (r : FragReassembler) i now, r.receive c s keys dir now (ds.get i) =
        ((r.deliver chunk hdr.messageID first i now).1,
          some (r.deliver chunk hdr.messageID first i now).2) := by
  unfold buildFragmentedMessage at h
  simp only at h
  generalize hover : headerLen + 4 + skfPrefixLen + s.cipher.ivLen + s.icvLen + 1 +
    (if 1 < s.cipher.blockLen then s.cipher.blockLen else 0) = overhead at h
  generalize hroom : fragmentThreshold - overhead = room at h
  generalize htotal : max 1 ((inner.length + room - 1) / room) = total at h
  split_ifs at h with h0 hmax
  have hshort : ∀ i, 4 + skfPrefixLen + s.skBodyLen (chunkAt inner room i).length < 2 ^ 16 := by
    intro i
    have hpad := padLen_lt (chunkAt inner room i).length s.cipher.blockLen s.blockLen_le
    have hchunk : (chunkAt inner room i).length ≤ room := length_take_le _ _
    simp only [Suite.skBodyLen, skfPrefixLen, fragmentThreshold] at *
    omega
  obtain ⟨hlen, hget⟩ := forall₂_iff_get.mp (forall₂_of_mapM h)
  obtain rfl : total = ds.length := by simpa using hlen
  refine ⟨fun i => chunkAt inner room i, chunks_chunkAt (by omega) htotal.symm (by omega),
    fun r i now => ?_⟩
  have hmax16 : maxFragments < 2 ^ 16 := by decide
  have hi := i.isLt
  have hnum : i.val + 1 < 2 ^ 16 := by omega
  have htot : ds.length < 2 ^ 16 := by omega
  obtain ⟨pkt, hpkt, hrecv⟩ := receive_fragment (c := c) hf s keys dir hnum htot
    (if i.val = 0 then first else 0) (chunkAt inner room i) (iv i) (hshort i)
  have hds := hget i.val (by simp) i.isLt
  simp only [get_eq_getElem, getElem_range] at hds
  have heq : ds.get i = pkt := some.inj (hds.symm.trans hpkt)
  rw [heq]
  exact hrecv r now

/-! ## Whatever fragments come -/

/-- A fragment that has been decrypted. -/
structure Fragment where
  now : ℤ
  msgID : ℕ
  fragNum : ℕ
  total : ℕ
  first : UInt8 := 0
  chunk : Bytes
  deriving DecidableEq, Repr

def FragReassembler.take (r : FragReassembler) (f : Fragment) : FragReassembler × FragResult :=
  r.add f.now f.msgID f.fragNum f.total f.first f.chunk

/-- The fragment has number `i + 1` of the message. -/
structure Fragment.Fills (f : Fragment) (msgID total i : ℕ) : Prop where
  msgID : f.msgID = msgID
  total : f.total = total
  fragNum : f.fragNum = i + 1

/-- What the reassembler holds of the fragments `pre`: those in its slots have come, and so have all
that it has counted. -/
structure Tracked (pre : List Fragment) (r : FragReassembler) (ps : List Bytes) : Prop where
  length : ps.length = r.total
  came : ∀ i, ps.getD i [] ≠ [] → ∃ g ∈ pre, g.Fills r.msgID r.total i
  counted : ∃ N ⊆ Finset.range r.total, N.card = r.got ∧
    ∀ i ∈ N, ps.getD i [] ≠ [] ∨ ∃ g ∈ pre, g.Fills r.msgID r.total i ∧ g.chunk = []

def FragReassembler.Tracks (r : FragReassembler) (pre : List Fragment) : Prop :=
  ∀ ps, r.parts = some ps → Tracked pre r ps

/-- The fragment does not repeat the number of one that came empty. -/
def Fragment.NotDoubled (f : Fragment) (pre : List Fragment) : Prop :=
  f.total = 1 ∨ ∀ g ∈ pre, g.msgID = f.msgID → g.total = f.total → g.fragNum = f.fragNum →
    g.chunk ≠ []

variable {pre : List Fragment} {ps : List Bytes} {r : FragReassembler}

lemma Tracked.mono (h : Tracked pre r ps) (f : Fragment) :
    Tracked (pre ++ [f]) r ps := by
  obtain ⟨N, hN, hcard, hcount⟩ := h.counted
  have hmono : ∀ {P : Fragment → Prop}, (∃ g ∈ pre, P g) → ∃ g ∈ pre ++ [f], P g :=
    fun ⟨g, hg, hP⟩ => ⟨g, mem_append_left _ hg, hP⟩
  exact ⟨h.length, fun i hi => hmono (h.came i hi), N, hN, hcard,
    fun i hi => (hcount i hi).imp_right hmono⟩

/-- The reassembler as a fragment finds it. -/
lemma FragReassembler.Tracks.begun (h : r.Tracks pre) (now : ℤ)
    (msgID total : ℕ) :
    ∃ ps, (r.begun now msgID total).parts = some ps ∧ (r.begun now msgID total).msgID = msgID ∧
      (r.begun now msgID total).total = total ∧ Tracked pre (r.begun now msgID total) ps := by
  unfold FragReassembler.begun
  split_ifs with hnew
  · refine ⟨_, rfl, rfl, rfl, by simp, fun i hi => ?_, ∅, by simp, rfl, by simp⟩
    exact absurd (by simp) hi
  · simp only [not_or, not_not] at hnew
    obtain ⟨hp, hm, ht, -⟩ := hnew
    obtain ⟨ps, hps⟩ := ne_none_iff_exists'.mp hp
    exact ⟨ps, hps, hm.symm, ht.symm, h ps hps⟩

/-- The fragments after one more has been stored in an empty slot. -/
lemma Tracked.stored (h : Tracked pre r ps) {f : Fragment} {i : ℕ}
    (hi : i < r.total) (hf : f.Fills r.msgID r.total i) (hempty : ps.getD i [] = [])
    (hnew : ∀ g ∈ pre, g.Fills r.msgID r.total i → g.chunk ≠ []) :
    Tracked (pre ++ [f]) (r.stored i f.first f.chunk) (ps.set i f.chunk) := by
  obtain ⟨N, hN, hcard, hcount⟩ := h.counted
  have hiN : i ∉ N := fun hin => by
    rcases hcount i hin with hs | ⟨g, hg, hfill, hnil⟩
    · exact hs hempty
    · exact hnew g hg hfill hnil
  have hslot : ∀ j, j ≠ i → (ps.set i f.chunk).getD j [] = ps.getD j [] := fun j hj => by
    simp [getD_eq_getElem?_getD, getElem?_set_ne (Ne.symm hj)]
  have hself : (ps.set i f.chunk).getD i [] = f.chunk := by
    have : i < ps.length := h.length ▸ hi
    simp [getD_eq_getElem?_getD, this]
  refine ⟨by rw [length_set]; exact h.length, fun j hj => ?_, insert i N, ?_, ?_, ?_⟩
  · by_cases hji : j = i
    · exact ⟨f, by simp, hji ▸ hf⟩
    · exact (h.mono f).came j (hslot j hji ▸ hj)
  · exact Finset.insert_subset (Finset.mem_range.mpr hi) hN
  · rw [Finset.card_insert_of_notMem hiN, hcard]
    rfl
  · intro j hj
    by_cases hji : j = i
    · subst hji
      by_cases hc : f.chunk = []
      · exact .inr ⟨f, by simp, hf, hc⟩
      · exact .inl (by rw [hself]; exact hc)
    · have hjN := (Finset.mem_insert.mp hj).resolve_left hji
      rw [hslot j hji]
      exact (hcount j hjN).imp_right fun ⟨g, hg, hP⟩ => ⟨g, mem_append_left _ hg, hP⟩

/-- Once as many fragments are counted as there are, all have come. -/
lemma Tracked.all (h : Tracked pre r ps) (hgot : r.total ≤ r.got) {k : ℕ}
    (hk : k < r.total) : ∃ g ∈ pre, g.Fills r.msgID r.total k := by
  obtain ⟨N, hN, hcard, hcount⟩ := h.counted
  have hall : N = Finset.range r.total :=
    Finset.eq_of_subset_of_card_le hN (by rw [Finset.card_range, hcard]; exact hgot)
  rcases hcount k (hall ▸ Finset.mem_range.mpr hk) with hs | ⟨g, hg, hfill, -⟩
  · exact h.came k hs
  · exact ⟨g, hg, hfill⟩

/-- **The step.**  Whatever fragment comes, unless it doubles an empty one. -/
lemma tracks_take (h : r.Tracks pre) (f : Fragment) (hf : f.NotDoubled pre) :
    (r.take f).1.Tracks (pre ++ [f]) ∧
      ∀ inner first, (r.take f).2 = .complete inner first → ∀ k < f.total,
        ∃ g ∈ pre ++ [f], g.Fills f.msgID f.total k := by
  unfold FragReassembler.take
  by_cases hrange : (0 < f.total ∧ f.total ≤ maxFragments) ∧ 0 < f.fragNum ∧ f.fragNum ≤ f.total
  swap
  · rw [FragReassembler.add_refused _ _ _ _ _ hrange]
    exact ⟨fun ps hps => (h ps hps).mono f, nofun⟩
  obtain ⟨⟨ht, hmax⟩, hn, hnt⟩ := hrange
  obtain ⟨i, hi⟩ : ∃ i, f.fragNum = i + 1 := ⟨f.fragNum - 1, by omega⟩
  obtain ⟨ps, hps, hm, htot, htrack⟩ := h.begun f.now f.msgID f.total
  rw [hi, FragReassembler.add_eq _ _ _ _ _ hmax (by omega)]
  generalize r.begun f.now f.msgID f.total = b at *
  simp only [hps, getD_some]
  have hfill : f.Fills b.msgID b.total i := ⟨hm.symm, htot.symm, hi⟩
  have hstored : f.total ≠ 1 → ps.getD i [] = [] →
      Tracked (pre ++ [f]) (b.stored i f.first f.chunk) (ps.set i f.chunk) := fun h1 hempty =>
    htrack.stored (by omega) hfill hempty fun g hg hgf =>
      hf.resolve_left h1 g hg (hgf.msgID.trans hm) (hgf.total.trans htot)
        (hgf.fragNum.trans hi.symm)
  split_ifs with hslot hbig hmore
  · exact ⟨fun qs hqs => (some.inj (hps.symm.trans hqs) ▸ htrack).mono f, nofun⟩
  · exact ⟨nofun, nofun⟩
  · refine ⟨fun qs hqs => ?_, nofun⟩
    have hqs' : ps.set i f.chunk = qs := by
      have : (b.stored i f.first f.chunk).parts = some (ps.set i f.chunk) := by
        rw [FragReassembler.stored, hps]
        rfl
      exact some.inj (this.symm.trans hqs)
    exact hqs' ▸ hstored (by omega) (not_not.mp hslot)
  · refine ⟨nofun, fun _ _ _ k hk => ?_⟩
    by_cases h1 : f.total = 1
    · exact ⟨f, by simp, rfl, rfl, by omega⟩
    · have hall := (hstored h1 (not_not.mp hslot)).all (not_lt.mp hmore) (k := k)
        (by rw [← htot] at hk; exact hk)
      exact hm ▸ htot ▸ hall

/-- **The run.**  The fragments that come double no empty one. -/
lemma tracks_run {fs : List Fragment} (h : ∀ pre f post, fs = pre ++ f :: post → f.NotDoubled pre) :
    (run (fun r f => (r.take f).1) ({} : FragReassembler) fs).Tracks fs := by
  induction fs using reverseRecOn with
  | nil => exact nofun
  | append_singleton fs f ih =>
    rw [run_concat]
    exact (tracks_take (ih fun pre g post he => h pre g (post ++ [f]) (by simp [he])) f
      (h fs f [] rfl)).1

/-! ## Round trip -/

/-- The answers of the other end to the datagrams of a message: the message, to the first arrival
with which all have arrived, and nothing to the others. -/
def ReceivedOnce (c : Crypto) (s : Suite) (keys : SAKeys) (dir : KeyDir) (ds : List Bytes)
    (first : UInt8) (inner : Bytes) (r : FragReassembler) (as : List (Arrival ds.length)) : Prop :=
  ∀ pre a post, as = pre ++ a :: post →
    ((run (fun r b => (r.receive c s keys dir b.now (ds.get b.index)).1) r pre).receive c s keys
        dir a.now (ds.get a.index)).2 =
      some (if Covers (pre ++ [a]) ∧ ¬ Covers pre then .complete inner first else .pending)

/-- **Fragmentation goes round**, where the limits agree and nothing comes twice that the
reassembler cannot tell from a first time.

A fragmented message is received once, with the arrival that makes it complete, just if it is not
longer than the reassembler allows and its fragments do not all arrive again after that.  And
whatever fragments come, as long as none doubles an empty one, nothing is complete before all its
fragments have come. -/
theorem fragmentation_round_trip (c : Crypto) :
    (∀ (hdr : Header) (s : Suite) (keys : SAKeys) (dir : KeyDir) (first : UInt8) (inner : Bytes)
        (iv : ℕ → ℕ → UInt8) (ds : List Bytes) (r : FragReassembler)
        (as : List (Arrival ds.length)), hdr.Fits →
      buildFragmentedMessage c hdr s keys dir first inner iv = some ds →
      r.Fresh hdr.messageID → InTime as → Covers as →
      (ReceivedOnce c s keys dir ds first inner r as ↔ inner.length ≤ maxReassembledBytes ∧
          ¬ ∃ pre post, as = pre ++ post ∧ Covers pre ∧ Covers post)) ∧
    ∀ fs : List Fragment, (∀ pre f post, fs = pre ++ f :: post → f.NotDoubled pre) →
      ∀ pre f post, fs = pre ++ f :: post → ∀ inner first,
        ((run (fun r g => (r.take g).1) ({} : FragReassembler) pre).take f).2 =
          .complete inner first →
        ∀ k, 1 ≤ k → k ≤ f.total →
          ∃ g ∈ pre ++ [f], g.msgID = f.msgID ∧ g.total = f.total ∧ g.fragNum = k := by
  constructor
  · intro hdr s keys dir first inner iv ds r as hf hbuild hr hin hcov
    obtain ⟨chunk, hc, hrecv⟩ := build_fragments hf hbuild
    rw [← completesOnce_iff hc hr hin hcov, ReceivedOnce, CompletesOnce]
    simp only [hrecv, some.injEq]
    rfl
  · rintro fs hfs pre f post rfl inner first hcomplete k hk hkt
    have htrack : (run (fun r g => (r.take g).1) ({} : FragReassembler) pre).Tracks pre :=
      tracks_run fun p g q he => hfs p g (q ++ f :: post) (by simp [he])
    obtain ⟨g, hg, hfill⟩ := (tracks_take htrack f (hfs pre f post rfl)).2 inner first hcomplete
      (k - 1) (by omega)
    exact ⟨g, hg, hfill.msgID, hfill.total, by rw [hfill.fragNum]; omega⟩

/-- AES-GCM with the SHA-256 PRF. -/
def gcmSuite : Suite :=
  ⟨encrAESGCM16, 256, prfHMACSHA2256, 0, dhCurve25519, ⟨36, 8, 16, 1⟩, none, 32, rfl, rfl, rfl⟩

/-- The datagrams of a message of 1300 octets. -/
def longMessage (keys : SAKeys) : Option (List Bytes) :=
  buildFragmentedMessage plainCrypto ⟨1, 2, 0, 0, 35, 8, 1, 0⟩ gcmSuite keys .initiatorToResponder
    typeIDi (replicate 1300 0) fun _ _ => 0

/-- Its second fragment comes before the first and again after it; and of two fragments that come in
the other order both have come when the message is complete. -/
theorem fragmentation_round_trip_two :
    (∃ (keys : SAKeys) (ds : List Bytes) (h : ds.length = 2), longMessage keys = some ds ∧
      ReceivedOnce plainCrypto gcmSuite keys .initiatorToResponder ds typeIDi (replicate 1300 0) {}
        [⟨⟨1, by omega⟩, 0⟩, ⟨⟨0, by omega⟩, 1⟩, ⟨⟨1, by omega⟩, 2⟩]) ∧
    ∀ k, 1 ≤ k → k ≤ 2 → ∃ g ∈ [(⟨0, 5, 2, 2, 0, [2]⟩ : Fragment), ⟨1, 5, 1, 2, typeIDi, [1]⟩],
      g.msgID = 5 ∧ g.total = 2 ∧ g.fragNum = k := by
  obtain ⟨hround, hcame⟩ := fragmentation_round_trip plainCrypto
  constructor
  · have hbuild : (longMessage ⟨[], [], [], [], [], [], []⟩).map length = some 2 := by
      decide +kernel
    obtain ⟨ds, hds, hlen⟩ := map_eq_some_iff.mp hbuild
    refine ⟨_, ds, hlen, hds, (hround _ _ _ _ _ _ _ ds _ _
      ⟨by decide, by decide, by decide, by decide⟩ hds (.inl rfl)
      (by simp [InTime, fragReassemblyTTL]) ?_).2 ⟨by decide +kernel, ?_⟩⟩
    · refine Finset.eq_univ_iff_forall.mpr fun i => mem_toFinset.mpr ?_
      simp only [map_cons, map_nil, mem_cons, Fin.ext_iff]
      omega
    · -- Each half would take two of the three arrivals.
      rintro ⟨pre, post, he, hpre, hpost⟩
      have htwo : ∀ l : List (Arrival ds.length), Covers l → 2 ≤ l.length := by
        intro l hl
        have hcard : (arrived l).card ≤ _ := toFinset_card_le (l.map Arrival.index)
        rw [hl, Finset.card_fin, length_map] at hcard
        omega
      have hthree : 3 = pre.length + post.length := by simpa using congrArg length he
      have := htwo pre hpre
      have := htwo post hpost
      omega
  · refine hcame [⟨0, 5, 2, 2, 0, [2]⟩, ⟨1, 5, 1, 2, typeIDi, [1]⟩] (fun pre f post he => ?_)
      [⟨0, 5, 2, 2, 0, [2]⟩] ⟨1, 5, 1, 2, typeIDi, [1]⟩ [] rfl [1, 2] typeIDi (by decide)
    have hchunk : ∀ g ∈ [(⟨0, 5, 2, 2, 0, [2]⟩ : Fragment), ⟨1, 5, 1, 2, typeIDi, [1]⟩],
        g.chunk ≠ [] := by decide
    exact .inr fun g hg _ _ _ => hchunk g (by simp [he, hg])

/-- **An empty fragment is counted twice.**  The first of two fragments comes empty, and comes
again: the message is complete, and the second fragment has not come.  And a message that has been
complete is complete again when it comes again. -/
theorem empty_fragment_counted_twice :
    (run (fun r f => (r.take f).1) ({} : FragReassembler) [⟨0, 5, 1, 2, typeIDi, []⟩]).take
        ⟨1, 5, 1, 2, typeIDi, []⟩ = ({ msgID := 5, started := 0 }, .complete [] typeIDi) ∧
      ({} : FragReassembler).take ⟨0, 5, 1, 1, typeIDi, [1]⟩ =
        ({ msgID := 5, started := 0 }, .complete [1] typeIDi) ∧
      ((({} : FragReassembler).take ⟨0, 5, 1, 1, typeIDi, [1]⟩).1.take
        ⟨1, 5, 1, 1, typeIDi, [1]⟩).2 = .complete [1] typeIDi := by
  decide

end Veepin.IKE
