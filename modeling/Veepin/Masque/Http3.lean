import Veepin.Core.Bytes

/-!
# HTTP/3 frames and the request stream

`varint.go`, `frame.go` and the second life of `stream.go`: a QUIC stream is the octets that were
written and not yet read, and a read that needs more of them waits.

* `readVarint_appendVarint` — a variable-length integer is read back, by any reader;
* `RequestStream.readFull_write` — what follows a DATA frame is read from its payload.
-/

namespace Veepin.Masque

open List

/-- What a read has come to. -/
inductive Got (α : Type)
  | wait
  | fail
  | ok (a : α)
  deriving DecidableEq

namespace Got

variable {α β : Type}

def bind : Got α → (α → Got β) → Got β
  | .wait, _ => .wait
  | .fail, _ => .fail
  | .ok a, f => f a

@[simp] lemma bind_ok (a : α) (f : α → Got β) : (ok a).bind f = f a := rfl

end Got

/-! ## Variable-length integers -/

/-- `AppendVarint(nil, v)`. -/
def appendVarint (v : ℕ) : Bytes :=
  if v ≤ 63 then [UInt8.ofNat v]
  else if v ≤ 16383 then [UInt8.ofNat (v >>> 8) ||| 0x40, UInt8.ofNat v]
  else if v ≤ 1073741823 then
    [UInt8.ofNat (v >>> 24) ||| 0x80, UInt8.ofNat (v >>> 16), UInt8.ofNat (v >>> 8), UInt8.ofNat v]
  else
    [UInt8.ofNat (v >>> 56) ||| 0xc0, UInt8.ofNat (v >>> 48), UInt8.ofNat (v >>> 40),
      UInt8.ofNat (v >>> 32), UInt8.ofNat (v >>> 24), UInt8.ofNat (v >>> 16), UInt8.ofNat (v >>> 8),
      UInt8.ofNat v]

def varintLen (v : ℕ) : ℕ :=
  if v ≤ 63 then 1 else if v ≤ 16383 then 2 else if v ≤ 1073741823 then 4 else 8

/-- The octets after the first. -/
def varintRest (v : ℕ) (more : Bytes) : ℕ := more.foldl (fun v c => v * 256 + c.toNat) v

def consumeVarint : Bytes → Option (ℕ × Bytes)
  | [] => none
  | b :: rest =>
    let n := 1 <<< (b >>> 6).toNat
    if (b :: rest).length < n then none
    else some (varintRest (b &&& 0x3f).toNat (rest.take (n - 1)), rest.drop (n - 1))

/-- `ReadVarint`, from any reader: `full n` is `io.ReadFull` of `n` octets. -/
def readVarint {σ : Type} (full : ℕ → σ → Got (Bytes × σ)) (r : σ) : Got (ℕ × σ) :=
  (full 1 r).bind fun (b, r) =>
    let n := 1 <<< (b.headD 0 >>> 6).toNat
    let v := (b.headD 0 &&& 0x3f).toNat
    if n = 1 then .ok (v, r)
    else (full (n - 1) r).bind fun (more, r) => .ok (varintRest v more, r)

lemma length_appendVarint (v : ℕ) : (appendVarint v).length = varintLen v := by
  unfold appendVarint varintLen
  split_ifs <;> rfl

lemma varintLen_le (v : ℕ) : varintLen v ≤ 8 := by
  unfold varintLen
  split_ifs <;> omega

lemma appendVarint_ne_nil (v : ℕ) : appendVarint v ≠ [] := by
  unfold appendVarint
  split_ifs <;> simp

/-- The first octet carries the length above its six bits. -/
lemma tagged_octet : ∀ n < 64, (UInt8.ofNat n >>> 6 = 0 ∧ (UInt8.ofNat n &&& 0x3f).toNat = n) ∧
      ((UInt8.ofNat n ||| 0x40) >>> 6 = 1 ∧ ((UInt8.ofNat n ||| 0x40) &&& 0x3f).toNat = n) ∧
      ((UInt8.ofNat n ||| 0x80) >>> 6 = 2 ∧ ((UInt8.ofNat n ||| 0x80) &&& 0x3f).toNat = n) ∧
      ((UInt8.ofNat n ||| 0xc0) >>> 6 = 3 ∧ ((UInt8.ofNat n ||| 0xc0) &&& 0x3f).toNat = n) := by
  decide

variable {v : ℕ}

/-- A variable-length integer is an octet that tells the length, and the others. -/
lemma exists_appendVarint (hv : v < 2 ^ 62) : ∃ b more, appendVarint v = b :: more ∧
    1 <<< (b >>> 6).toNat = more.length + 1 ∧ varintRest (b &&& 0x3f).toNat more = v := by
  simp only [appendVarint, Nat.shiftRight_eq_div_pow]
  split_ifs with h1 h2 h3
  · obtain ⟨⟨htop, hlow⟩, -⟩ := tagged_octet v (by omega)
    refine ⟨_, _, rfl, by rw [htop]; rfl, ?_⟩
    rw [hlow]
    rfl
  · obtain ⟨-, ⟨htop, hlow⟩, -⟩ := tagged_octet (v / 2 ^ 8) (by omega)
    refine ⟨_, _, rfl, by rw [htop]; rfl, ?_⟩
    simp only [hlow, varintRest, foldl_cons, foldl_nil, UInt8.toNat_ofNat']
    omega
  · obtain ⟨-, -, ⟨htop, hlow⟩, -⟩ := tagged_octet (v / 2 ^ 24) (by omega)
    refine ⟨_, _, rfl, by rw [htop]; rfl, ?_⟩
    simp only [hlow, varintRest, foldl_cons, foldl_nil, UInt8.toNat_ofNat']
    omega
  · obtain ⟨-, -, -, htop, hlow⟩ := tagged_octet (v / 2 ^ 56) (by omega)
    refine ⟨_, _, rfl, by rw [htop]; rfl, ?_⟩
    simp only [hlow, varintRest, foldl_cons, foldl_nil, UInt8.toNat_ofNat']
    omega

lemma consumeVarint_appendVarint (hv : v < 2 ^ 62) (rest : Bytes) :
    consumeVarint (appendVarint v ++ rest) = some (v, rest) := by
  obtain ⟨b, more, happ, hlen, hval⟩ := exists_appendVarint hv
  rw [happ, cons_append, consumeVarint, hlen, if_neg (by simp), Nat.add_sub_cancel,
    take_left, drop_left, hval]

/-- **Reading back.**  `R x r` says that the reader `r` has the octets `x` before it. -/
lemma readVarint_of {σ : Type} {full : ℕ → σ → Got (Bytes × σ)} {R : Bytes → σ → Prop}
    (hfull : ∀ b x r, b ≠ [] → R (b ++ x) r → ∃ r', full b.length r = .ok (b, r') ∧ R x r')
    (hv : v < 2 ^ 62) {x : Bytes} {r : σ} (hr : R (appendVarint v ++ x) r) :
    ∃ r', readVarint full r = .ok (v, r') ∧ R x r' := by
  obtain ⟨b, more, happ, hlen, hval⟩ := exists_appendVarint hv
  rw [happ] at hr
  obtain ⟨r₁, hfirst, hr₁⟩ := hfull [b] (more ++ x) r (by simp) hr
  rw [length_singleton] at hfirst
  rw [readVarint, hfirst]
  simp only [Got.bind_ok, headD_cons, hlen]
  cases hm : more with
  | nil =>
    subst hm
    rw [if_pos (show ([] : Bytes).length + 1 = 1 from rfl), show (b &&& 0x3f).toNat = v from hval]
    exact ⟨r₁, rfl, hr₁⟩
  | cons c cs =>
    obtain ⟨r₂, hrest, hr₂⟩ := hfull more x r₁ (by simp [hm]) hr₁
    rw [if_neg (by simp), ← hm, Nat.add_sub_cancel, hrest]
    exact ⟨r₂, by simp only [Got.bind_ok, hval], hr₂⟩

/-- A reader that is nothing but the octets before it. -/
lemma readVarint_appendVarint {σ : Type} {full : ℕ → σ → Got (Bytes × σ)} (mk : Bytes → σ)
    (hfull : ∀ b x, b ≠ [] → full b.length (mk (b ++ x)) = .ok (b, mk x)) (hv : v < 2 ^ 62)
    (x : Bytes) : readVarint full (mk (appendVarint v ++ x)) = .ok (v, mk x) := by
  let R : Bytes → σ → Prop := fun x r => r = mk x
  have hof : ∀ b x r, b ≠ [] → R (b ++ x) r → ∃ r', full b.length r = .ok (b, r') ∧ R x r' :=
    fun b x r hb hr => ⟨mk x, hr ▸ hfull b x hb, rfl⟩
  obtain ⟨r', hread, rfl⟩ := readVarint_of hof hv (show R _ _ from rfl)
  exact hread

/-! ## Frames -/

def frameData : ℕ := 0x00

def maxFramePayload : ℕ := 65536

def writeFrame (typ : ℕ) (payload : Bytes) : Bytes :=
  appendVarint typ ++ (appendVarint payload.length ++ payload)

/-- `io.ReadFull` on the QUIC stream. -/
def quicFull (n : ℕ) (qs : Bytes) : Got (Bytes × Bytes) :=
  if qs.length < n then .wait else .ok (qs.take n, qs.drop n)

def readFrame (qs : Bytes) : Got ((ℕ × Bytes) × Bytes) :=
  (readVarint quicFull qs).bind fun (typ, qs) =>
    (readVarint quicFull qs).bind fun (length, qs) =>
      if length > maxFramePayload then .fail
      else (quicFull length qs).bind fun (payload, qs) => .ok ((typ, payload), qs)

lemma quicFull_append (b x : Bytes) : quicFull b.length (b ++ x) = .ok (b, x) := by
  rw [quicFull, if_neg (by simp), take_left, drop_left]

lemma readVarint_quicFull (hv : v < 2 ^ 62) (x : Bytes) :
    readVarint quicFull (appendVarint v ++ x) = .ok (v, x) :=
  readVarint_appendVarint id (fun b x _ => quicFull_append b x) hv x

/-- A frame up to its payload. -/
lemma readFrame_header {typ : ℕ} {payload : Bytes} (htyp : typ < 2 ^ 62)
    (hlen : payload.length < 2 ^ 62) (rest : Bytes) :
    readFrame (writeFrame typ payload ++ rest) =
      if payload.length > maxFramePayload then .fail else .ok ((typ, payload), rest) := by
  rw [readFrame, writeFrame, append_assoc, readVarint_quicFull htyp, Got.bind_ok]
  dsimp only
  rw [append_assoc, readVarint_quicFull hlen, Got.bind_ok]
  dsimp only
  rw [quicFull_append, Got.bind_ok]

lemma readFrame_writeFrame {typ : ℕ} {payload : Bytes} (htyp : typ < 2 ^ 62)
    (hlen : payload.length ≤ maxFramePayload) (rest : Bytes) :
    readFrame (writeFrame typ payload ++ rest) = .ok ((typ, payload), rest) := by
  rw [readFrame_header htyp (hlen.trans_lt (by decide)), if_neg (not_lt.2 hlen)]

/-! ## The request stream -/

/-- The reading end of `RequestStream`. -/
structure RequestStream where
  readBuf : Bytes := []
  qs : Bytes := []
  deriving DecidableEq

namespace RequestStream

/-- `Write`, at the other end. -/
def write (rs : RequestStream) (p : Bytes) : RequestStream :=
  { rs with qs := rs.qs ++ writeFrame frameData p }

/-- The loop of `Read`: frames until there is something to give.  Each of them takes an octet. -/
def fill : ℕ → RequestStream → Got RequestStream
  | 0, rs => if rs.readBuf = [] then .wait else .ok rs
  | fuel + 1, rs =>
    if rs.readBuf ≠ [] then .ok rs
    else
      (readFrame rs.qs).bind fun ((typ, payload), qs) =>
        fill fuel ⟨if typ = frameData then payload else rs.readBuf, qs⟩

/-- `Read` of at most `n` octets. -/
def read (n : ℕ) (rs : RequestStream) : Got (Bytes × RequestStream) :=
  (fill (rs.qs.length + 1) rs).bind fun rs =>
    .ok (rs.readBuf.take n, { rs with readBuf := rs.readBuf.drop n })

/-- `io.ReadFull`.  Each `Read` gives an octet. -/
def readFullLoop : ℕ → ℕ → RequestStream → Got (Bytes × RequestStream)
  | 0, n, rs => if n = 0 then .ok ([], rs) else .wait
  | fuel + 1, n, rs =>
    if n = 0 then .ok ([], rs)
    else
      (rs.read n).bind fun (b, rs) =>
        (readFullLoop fuel (n - b.length) rs).bind fun (b', rs) => .ok (b ++ b', rs)

def readFull (n : ℕ) (rs : RequestStream) : Got (Bytes × RequestStream) := readFullLoop n n rs

lemma read_of_ne_nil {rs : RequestStream} (h : rs.readBuf ≠ []) (n : ℕ) :
    rs.read n = .ok (rs.readBuf.take n, { rs with readBuf := rs.readBuf.drop n }) := by
  rw [read, fill, if_pos h, Got.bind_ok]

lemma readFullLoop_zero (fuel : ℕ) (rs : RequestStream) :
    readFullLoop fuel 0 rs = .ok ([], rs) := by
  cases fuel <;> rfl

/-- What lies in the buffer is read from it. -/
lemma readFull_append (b x qs : Bytes) : readFull b.length ⟨b ++ x, qs⟩ = .ok (b, ⟨x, qs⟩) := by
  cases b with
  | nil => rfl
  | cons c cs =>
    rw [readFull, show (c :: cs).length = cs.length + 1 from rfl, readFullLoop, if_neg (by omega),
      ← show (c :: cs).length = cs.length + 1 from rfl, read_of_ne_nil (by simp)]
    simp only [Got.bind_ok, take_left, drop_left, Nat.sub_self, readFullLoop_zero, append_nil]

/-- **A DATA frame.**  What comes next is its payload. -/
lemma readFull_write {c : Bytes} (hc : c ≠ []) (hlen : c.length ≤ maxFramePayload) {n : ℕ}
    (hn : n ≠ 0) (rest : Bytes) :
    readFull n ⟨[], writeFrame frameData c ++ rest⟩ = readFull n ⟨c, rest⟩ := by
  have hread : read n ⟨[], writeFrame frameData c ++ rest⟩ = read n ⟨c, rest⟩ := by
    rw [read_of_ne_nil (show (⟨c, rest⟩ : RequestStream).readBuf ≠ [] from hc), read, fill, if_neg
      (by simp), readFrame_writeFrame (by decide) hlen, Got.bind_ok]
    dsimp only
    rw [if_pos rfl]
    cases hfuel : (writeFrame frameData c ++ rest).length with
    | zero => rw [fill, if_neg hc, Got.bind_ok]
    | succ fuel => rw [fill, if_pos hc, Got.bind_ok]
  obtain ⟨m, rfl⟩ := Nat.exists_eq_succ_of_ne_zero hn
  rw [readFull, readFull, readFullLoop, readFullLoop, if_neg hn, if_neg hn, hread]

end RequestStream

end Veepin.Masque
