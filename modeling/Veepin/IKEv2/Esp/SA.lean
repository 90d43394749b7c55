import Veepin.Core.Runs
import Veepin.Dataplane.Gro
import Veepin.Dataplane.Shape

/-!
# ESP packets there and back

`internal/ikev2/esp/esp.go`: an SA numbers, pads and seals inner packets, and opens those of its
peer.  The scratch buffer a plaintext is built in holds whatever was built in it before, so it is an
argument of the call, and so are the octets the crypter draws for the IV.

* `SA.decapsulate_sealed` — the peer gets the payload back, with its filler;
* `trimToIP_append` — the filler behind a well-formed packet is cut off;
* `esp_round_trip` — any calls, and any of their packets at the peer before the next one.
-/

namespace Veepin.Esp

open List

/-- `ESPCrypter`.  Sealing takes the octets of the IV, the associated data and the plaintext. -/
structure Crypter where
  blockLen : ℕ
  sealWith : Bytes → Bytes → Bytes → Bytes
  openInPlace : Bytes → Bytes → Option Bytes

/-- What `inn` opens is what `out` sealed, for plaintexts of whole blocks. -/
def Crypter.Opens (inn out : Crypter) : Prop :=
  ∀ iv aad plaintext, max out.blockLen 1 ∣ length plaintext →
    inn.openInPlace aad (out.sealWith iv aad plaintext) = some plaintext

/-! ## The replay window -/

/-- `replayWindow`: the highest number accepted, and a mask in which bit `i` is `top - i`. -/
structure ReplayWindow where
  top : ℕ := 0
  mask : BitVec 64 := 0

/-- Whether the number is a replay, or too old. -/
def ReplayWindow.check (w : ReplayWindow) (seq : ℕ) : Bool :=
  if seq = 0 then true
  else if seq > w.top then false
  else
    let diff := w.top - seq
    if diff ≥ 64 then true else w.mask &&& (1#64 <<< diff) ≠ 0#64

def ReplayWindow.advance (w : ReplayWindow) (seq : ℕ) : ReplayWindow :=
  if seq > w.top then
    let shift := seq - w.top
    ⟨seq, (if shift ≥ 64 then 0#64 else w.mask <<< shift) ||| 1#64⟩
  else
    let diff := w.top - seq
    if diff < 64 then { w with mask := w.mask ||| (1#64 <<< diff) } else w

/-! ## Security associations -/

inductive Error
  | prepare
  | seqExhausted
  | shortPacket
  | unknownSPI
  | replayed
  | opening
  | shortTrailer
  | badPadLength
  deriving DecidableEq, Repr

/-- `SA`.  There are no crypters, outbound and inbound, when a transform is not supported. -/
structure SA where
  spiOut : UInt32
  spiIn : UInt32
  crypters : Option (Crypter × Crypter)
  seqOut : ℕ := 0
  window : ReplayWindow := {}

/-- The arguments of `AppendEncapsulated`, and what the call finds and draws. -/
structure Call where
  dst : Bytes := []
  inner : Bytes
  nextHeader : UInt8
  minInner : ℤ := 0
  scratch : Bytes
  iv : Bytes

/-- `Encapsulate`: a fresh buffer and no filler. -/
def Call.encapsulate (inner : Bytes) (nextHeader : UInt8) (scratch iv : Bytes) : Call :=
  { inner, nextHeader, scratch, iv }

def Call.encapsulatePadded (inner : Bytes) (nextHeader : UInt8) (minInner : ℤ)
    (scratch iv : Bytes) : Call :=
  { inner, nextHeader, minInner, scratch, iv }

def Call.payloadLen (c : Call) : ℕ := (max (c.inner.length : ℤ) c.minInner).toNat

def padLen (block payloadLen : ℕ) : ℕ := (block - (payloadLen + 2) % block) % block

/-- The plaintext as it is built in the scratch buffer. -/
def Call.plaintext (c : Call) (padLen : ℕ) : Bytes :=
  let ptLen := c.payloadLen + padLen + 2
  let pt := if c.scratch.length < ptLen then replicate ptLen 0 else c.scratch.take ptLen
  let pt := Gro.overwrite pt 0 c.inner
  let pt := Gro.overwrite pt c.inner.length (replicate (c.payloadLen - c.inner.length) 0)
  let pt := Gro.overwrite pt c.payloadLen ((range padLen).map fun i => UInt8.ofNat (i + 1))
  Gro.overwrite pt (ptLen - 2) [UInt8.ofNat padLen, c.nextHeader]

namespace SA

def appendEncapsulated (s : SA) (c : Call) : SA × Except Error Bytes :=
  match s.crypters with
  | none => (s, .error .prepare)
  | some (out, _) =>
    if s.seqOut = 4294967295 then (s, .error .seqExhausted)
    else
      let s := { s with seqOut := s.seqOut + 1 }
      let hdr := putBE32 s.spiOut.toNat ++ putBE32 s.seqOut
      let pt := c.plaintext (padLen (max out.blockLen 1) c.payloadLen)
      (s, .ok (c.dst ++ (hdr ++ out.sealWith c.iv hdr pt)))

/-- The trailer: the last octet is the next header, the one before it the length of the padding. -/
def stripTrailer (plaintext : Bytes) : Except Error (Bytes × UInt8) :=
  if plaintext.length < 2 then .error .shortTrailer
  else
    let nextHeader := plaintext.getD (plaintext.length - 1) 0
    let padLen := (plaintext.getD (plaintext.length - 2) 0).toNat
    if padLen + 2 > plaintext.length then .error .badPadLength
    else .ok (plaintext.take (plaintext.length - padLen - 2), nextHeader)

def decapsulate (s : SA) (pkt : Bytes) : SA × Except Error (Bytes × UInt8) :=
  match s.crypters with
  | none => (s, .error .prepare)
  | some (_, inn) =>
    if pkt.length < 8 then (s, .error .shortPacket)
    else if be32 pkt 0 ≠ s.spiIn.toNat then (s, .error .unknownSPI)
    else
      let seq := be32 pkt 4
      if s.window.check seq then (s, .error .replayed)
      else
        match inn.openInPlace (pkt.take 8) (pkt.drop 8) with
        | none => (s, .error .opening)
        | some plaintext =>
          match stripTrailer plaintext with
          | .error e => (s, .error e)
          | .ok inner =>
            -- looked up once more under the lock that advances the window
            if s.window.check seq then (s, .error .replayed)
            else ({ s with window := s.window.advance seq }, .ok inner)

end SA

/-! ## The plaintext -/

section

variable (c : Call)

lemma Call.length_le : c.inner.length ≤ c.payloadLen := by
  unfold payloadLen
  omega

lemma take_overwrite {b data : Bytes} {off n : ℕ} (h : off ≤ b.length)
    (hn : off + data.length = n) :
    (Gro.overwrite b off data).take n = b.take off ++ data := by
  have hlen : (b.take off ++ data).length = n := by
    rw [length_append, length_take, min_eq_left h, hn]
  rw [Gro.overwrite, ← hlen, take_left]

lemma length_overwrite {b data : Bytes} {off : ℕ} (h : off + data.length ≤ b.length) :
    (Gro.overwrite b off data).length = b.length := by
  simp only [Gro.overwrite, length_append, length_take, length_drop]
  omega

/-- **What is sealed.**  Nothing of the scratch buffer is left. -/
lemma Call.plaintext_eq (n : ℕ) :
    c.plaintext n = c.inner ++ replicate (c.payloadLen - c.inner.length) 0 ++
      (range n).map (fun i => UInt8.ofNat (i + 1)) ++ [UInt8.ofNat n, c.nextHeader] := by
  have hle := c.length_le
  unfold plaintext
  extract_lets ptLen pt₀ pt₁ pt₂ pt₃
  have h₀ : pt₀.length = ptLen := by
    unfold pt₀
    split_ifs
    · exact length_replicate
    · rw [length_take]
      omega
  have h₁ : pt₁.length = ptLen := (length_overwrite (by omega)).trans h₀
  have h₂ : pt₂.length = ptLen := (length_overwrite (by rw [length_replicate]; omega)).trans h₁
  have h₃ : pt₃.length = ptLen :=
    (length_overwrite (by rw [length_map, length_range]; omega)).trans h₂
  have t₁ : pt₁.take c.inner.length = c.inner := take_overwrite (Nat.zero_le _) (Nat.zero_add _)
  have t₂ : pt₂.take c.payloadLen = pt₁.take c.inner.length ++ replicate _ 0 :=
    take_overwrite (by omega) (by rw [length_replicate]; omega)
  have t₃ : pt₃.take (ptLen - 2) = pt₂.take c.payloadLen ++ map _ (range n) :=
    take_overwrite (by omega) (by rw [length_map, length_range]; omega)
  rw [Gro.overwrite, t₃, t₂, t₁, drop_eq_nil_of_le (by simp; omega), append_nil]

lemma dvd_padded {block : ℕ} (hb : 0 < block) (n : ℕ) : block ∣ n + padLen block n + 2 := by
  unfold padLen
  have hlt := Nat.mod_lt (n + 2) hb
  have hdiv := Nat.div_add_mod (n + 2) block
  rcases Nat.eq_zero_or_pos ((n + 2) % block) with hz | hpos
  · rw [hz, Nat.sub_zero, Nat.mod_self]
    exact Nat.dvd_of_mod_eq_zero hz
  · rw [Nat.mod_eq_of_lt (by omega)]
    exact ⟨(n + 2) / block + 1, by rw [Nat.mul_succ]; omega⟩

lemma stripTrailer_append (body pad : Bytes) (nextHeader : UInt8) (h : pad.length < 256) :
    SA.stripTrailer (body ++ pad ++ [UInt8.ofNat pad.length, nextHeader]) =
      .ok (body, nextHeader) := by
  have hpad : (UInt8.ofNat pad.length).toNat = pad.length := by
    rw [UInt8.toNat_ofNat', Nat.mod_eq_of_lt h]
  have hlen : (body ++ pad).length = body.length + pad.length := length_append
  have hlast : ∀ k, (body ++ pad ++ [UInt8.ofNat pad.length, nextHeader]).getD
      ((body ++ pad).length + k) 0 = [UInt8.ofNat pad.length, nextHeader].getD k 0 := by
    intro k
    rw [getD_append_right _ _ _ _ (by omega), Nat.add_sub_cancel_left]
  have hpadLen : UInt8.toNat (getD _ ((body ++ pad).length + 2 - 2) 0) = pad.length :=
    (congrArg UInt8.toNat (hlast 0)).trans hpad
  rw [SA.stripTrailer, show (body ++ pad ++ [UInt8.ofNat pad.length, nextHeader]).length =
    (body ++ pad).length + 2 from length_append, if_neg (by omega)]
  dsimp only [Nat.add_succ_sub_one]
  rw [hpadLen, if_neg (by omega), hlast 1, show (body ++ pad).length + 2 - pad.length - 2 =
    body.length by omega, append_assoc, take_left]
  rfl

end

/-! ## One packet -/

namespace SA

variable {s peer : SA} {out out' inn inn' : Crypter} {c : Call}

/-- The header of the next packet. -/
def header (s : SA) : Bytes := putBE32 s.spiOut.toNat ++ putBE32 (s.seqOut + 1)

/-- The packet of a call: the header, and what the crypter makes of the plaintext. -/
def packet (s : SA) (out : Crypter) (c : Call) : Bytes :=
  s.header ++ out.sealWith c.iv s.header (c.plaintext (padLen (max out.blockLen 1) c.payloadLen))

lemma appendEncapsulated_eq (hs : s.crypters = some (out, inn)) :
    s.appendEncapsulated c = if s.seqOut = 4294967295 then (s, .error .seqExhausted)
      else ({ s with seqOut := s.seqOut + 1 }, .ok (c.dst ++ s.packet out c)) := by
  simp only [appendEncapsulated, hs, packet, header]

lemma be32_packet (out : Crypter) (c : Call) (h : s.seqOut < 4294967295) :
    be32 (s.packet out c) 0 = s.spiOut.toNat ∧ be32 (s.packet out c) 4 = s.seqOut + 1 := by
  rw [packet, header, append_assoc]
  constructor
  · exact be32_of_lt s.spiOut.toNat_lt
  · exact be32_of_lt (by omega)

/-- **A packet at the peer**, if its number is above the window. -/
lemma decapsulate_packet (hp : peer.crypters = some (out', inn)) (hopens : inn.Opens out)
    (hblock : out.blockLen ≤ 256) (hspi : peer.spiIn = s.spiOut) (hseq : s.seqOut < 4294967295)
    (htop : peer.window.top ≤ s.seqOut) :
    (peer.decapsulate (s.packet out c)).2 =
      .ok (c.inner ++ replicate (c.payloadLen - c.inner.length) 0, c.nextHeader) := by
  obtain ⟨hspi₀, hseq₀⟩ := be32_packet out c hseq
  have hcheck : peer.window.check (s.seqOut + 1) = false := by
    rw [ReplayWindow.check, if_neg (by omega), if_pos (by omega)]
  have hlt : padLen (max out.blockLen 1) c.payloadLen < 256 :=
    (Nat.mod_lt _ (by omega)).trans_le (by omega)
  have hopen : inn.openInPlace ((s.packet out c).take 8) ((s.packet out c).drop 8) =
      some (c.plaintext (padLen (max out.blockLen 1) c.payloadLen)) := by
    have hlen := c.length_le
    refine hopens _ _ _ ?_
    have := dvd_padded (show 0 < max out.blockLen 1 by omega) c.payloadLen
    rw [c.plaintext_eq]
    simp only [length_append, length_replicate, length_map, length_range, length_cons, length_nil]
    rwa [Nat.add_sub_cancel' hlen]
  have hstrip := stripTrailer_append (c.inner ++ replicate (c.payloadLen - c.inner.length) 0)
    ((range (padLen (max out.blockLen 1) c.payloadLen)).map fun i => UInt8.ofNat (i + 1))
    c.nextHeader (by rwa [length_map, length_range])
  rw [length_map, length_range, ← c.plaintext_eq] at hstrip
  rw [decapsulate, hp]
  dsimp only
  rw [if_neg (by simp [packet, header]; omega), if_neg (by simp [hspi₀, hspi]), hseq₀, hopen]
  simp only [hcheck, hstrip, Bool.false_eq_true, if_false]

/-! ## Any calls -/

/-- The SA after a call, and the packets so far. -/
def send (st : SA × List Bytes) (c : Call) : SA × List Bytes :=
  match st.1.appendEncapsulated c with
  | (s, .ok out) => (s, out.drop c.dst.length :: st.2)
  | (s, .error _) => (s, st.2)

/-- After `n` calls: the numbers are those of the calls as long as they last, and no packet has a
higher one than the SA. -/
structure Sent (s : SA) (n : ℕ) (st : SA × List Bytes) : Prop where
  crypters : st.1.crypters = s.crypters
  spi : st.1.spiOut = s.spiOut
  seq : st.1.seqOut = min n 4294967295
  packets : ∀ p ∈ st.2, be32 p 4 ≤ st.1.seqOut

lemma Sent.send (hs : s.crypters = some (out, inn)) {n : ℕ} {st : SA × List Bytes}
    (h : Sent s n st) (c : Call) : Sent s (n + 1) (SA.send st c) := by
  have hseq := h.seq
  rw [SA.send, appendEncapsulated_eq (h.crypters.trans hs)]
  split_ifs with hend
  · exact { h with seq := by simp only; omega }
  · refine { h with seq := by simp only; omega, packets := fun p hp => ?_ }
    rcases mem_cons.1 hp with rfl | hp
    · rw [drop_left, (be32_packet _ _ (by omega)).2]
    · exact (h.packets p hp).trans (Nat.le_succ _)

lemma sent_run (hs : s.crypters = some (out, inn)) (hnew : s.seqOut = 0) (calls : List Call) :
    Sent s calls.length (run send (s, []) calls) := by
  induction calls using reverseRecOn with
  | nil => exact ⟨rfl, rfl, hnew, by simp⟩
  | append_singleton calls c ih =>
    rw [run_concat, length_append]
    exact ih.send hs c

/-- The peer has its keys, and its window has not passed `n`. -/
structure Heard (peer : SA) (n : ℕ) (p : SA) : Prop where
  crypters : p.crypters = peer.crypters
  spi : p.spiIn = peer.spiIn
  top : p.window.top ≤ n

lemma Heard.decapsulate {n : ℕ} {p : SA} (h : Heard peer n p) {pkt : Bytes} (hn : be32 pkt 4 ≤ n) :
    Heard peer n (p.decapsulate pkt).1 := by
  have htop : (p.window.advance (be32 pkt 4)).top ≤ n := by
    have := h.top
    unfold ReplayWindow.advance
    dsimp only
    split_ifs <;> assumption
  unfold SA.decapsulate
  dsimp only
  repeat' split
  all_goals first | exact h | exact { h with top := htop }

lemma heard_run (hnew : peer.window.top = 0) {n : ℕ} {pkts : List Bytes}
    (hpkts : ∀ p ∈ pkts, be32 p 4 ≤ n) :
    Heard peer n (run (fun p pkt => (p.decapsulate pkt).1) peer pkts) := by
  induction pkts using reverseRecOn with
  | nil => exact ⟨rfl, rfl, hnew ▸ Nat.zero_le n⟩
  | append_singleton pkts pkt ih =>
    rw [run_concat]
    exact (ih fun p hp => hpkts p (mem_append_left _ hp)).decapsulate (hpkts pkt (by simp))

end SA

open SA in
/-- **The round trip.**  After any calls on a new SA, and any of their packets at the peer in any
order, the next call of a well-formed packet gets the next number; its packet, which is put behind
`dst`, is opened by the peer, with the next header of the call and zeros for filler, and what
`TrimToIP` leaves of that is the inner packet.  After 2^32 - 1 calls every one is refused. -/
theorem esp_round_trip (s peer : SA) (out inn out' inn' : Crypter)
    (hs : s.crypters = some (out, inn')) (hp : peer.crypters = some (out', inn))
    (hopens : inn.Opens out) (hblock : out.blockLen ≤ 256) (hspi : peer.spiIn = s.spiOut)
    (hnew : s.seqOut = 0 ∧ peer.window = {}) (calls : List Call) (pkts : List Bytes)
    (hpkts : pkts ⊆ (run send (s, []) calls).2) (c : Call) (hc : Dataplane.WellFormed c.inner) :
    let r := (run send (s, []) calls).1.appendEncapsulated c
    if calls.length < 2 ^ 32 - 1 then
      ∃ pkt filler, r.2 = .ok (c.dst ++ pkt) ∧ be32 pkt 4 = calls.length + 1 ∧
        ((run (fun p pkt => (p.decapsulate pkt).1) peer pkts).decapsulate pkt).2 =
          .ok (c.inner ++ filler, c.nextHeader) ∧
        filler = replicate (c.minInner - c.inner.length).toNat 0 ∧
        Dataplane.trimToIP (c.inner ++ filler) = some c.inner
    else r.2 = .error .seqExhausted := by
  intro r
  have hsent := sent_run hs hnew.1 calls
  have hseq := hsent.seq
  have hr : r = _ := appendEncapsulated_eq (hsent.crypters.trans hs)
  split_ifs with hend
  · rw [if_neg (by omega)] at hr
    have hheard := heard_run (show peer.window.top = 0 by rw [hnew.2])
      fun p hp => hsent.packets p (hpkts hp)
    refine ⟨_, _, congrArg Prod.snd hr, ?_, ?_, rfl, Dataplane.trimToIP_append hc _⟩
    · rw [(be32_packet _ _ (by omega)).2, hseq, min_eq_left (by omega)]
    · rw [decapsulate_packet (hheard.crypters.trans hp) hopens hblock
        (hheard.spi.trans (hspi.trans hsent.spi.symm)) (by omega) hheard.top]
      unfold Call.payloadLen
      congr 5
      omega
  · rw [if_pos (by omega)] at hr
    exact congrArg Prod.snd hr

/-- The second ping of 28 octets, padded to 40, between two SAs whose crypter puts four octets in
front; the peer has opened the first. -/
theorem esp_round_trip_ping :
    let k : Crypter := ⟨4, fun _ _ pt => [0, 0, 0, 0] ++ pt, fun _ b => some (b.drop 4)⟩
    let inner : Bytes := [0x45, 0, 0, 28] ++ replicate 24 1
    let ping : Call := .encapsulatePadded inner 4 40 [1, 2, 3] []
    let first := run SA.send (⟨7, 9, some (k, k), 0, {}⟩, []) [ping]
    let peer := run (fun p pkt => (SA.decapsulate p pkt).1) ⟨9, 7, some (k, k), 0, {}⟩ first.2
    peer.window.top = 1 ∧ ∃ pkt filler, (first.1.appendEncapsulated ping).2 = .ok pkt ∧
      (peer.decapsulate pkt).2 = .ok (inner ++ filler, 4) ∧
      Dataplane.trimToIP (inner ++ filler) = some inner := by
  intro k inner ping first peer
  obtain ⟨pkt, filler, hr, -, hopen, -, htrim⟩ := esp_round_trip ⟨7, 9, some (k, k), 0, {}⟩
    ⟨9, 7, some (k, k), 0, {}⟩ k k k k rfl rfl (fun _ _ _ _ => rfl) (by decide) rfl ⟨rfl, rfl⟩
    [ping] first.2 (Subset.refl _) ping (.inl (by decide))
  exact ⟨by decide, pkt, filler, hr, hopen, htrim⟩

end Veepin.Esp
