import Mathlib.Data.List.GetD
import Mathlib.Tactic

/-!
# Octet strings and big-endian fields

A Go `[]byte` is a list of octets.  Multi-octet fields are read with `be16`, `be32` and `be64` at
an offset and written with `putBE16`, `putBE32` and `putBE64`; an octet past the end reads as
zero, so every reader is total and the callers that guard a read state the guard themselves.

* `be16_append` — a field that lies inside a string is the same field of any string that continues
  it;
* `be16_putBE16`, `be32_putBE32`, `be64_putBE64` — reading back what was written gives the value
  modulo the field's width.
-/

namespace Veepin

/-- An octet string. -/
abbrev Bytes := List UInt8

/-- `binary.BigEndian.Uint16(b[i:])`. -/
def be16 (b : Bytes) (i : ℕ) : ℕ := (b.getD i 0).toNat * 256 + (b.getD (i + 1) 0).toNat

/-- `binary.BigEndian.Uint32(b[i:])`. -/
def be32 (b : Bytes) (i : ℕ) : ℕ := be16 b i * 65536 + be16 b (i + 2)

/-- `binary.BigEndian.Uint64(b[i:])`. -/
def be64 (b : Bytes) (i : ℕ) : ℕ := be32 b i * 4294967296 + be32 b (i + 4)

/-- `binary.BigEndian.AppendUint16(nil, n)`. -/
def putBE16 (n : ℕ) : Bytes := [UInt8.ofNat (n / 256), UInt8.ofNat n]

/-- `binary.BigEndian.AppendUint32(nil, n)`. -/
def putBE32 (n : ℕ) : Bytes := putBE16 (n / 65536) ++ putBE16 n

/-- `binary.BigEndian.AppendUint64(nil, n)`. -/
def putBE64 (n : ℕ) : Bytes := putBE32 (n / 4294967296) ++ putBE32 n

@[simp] lemma length_putBE16 (n : ℕ) : (putBE16 n).length = 2 := rfl

@[simp] lemma length_putBE32 (n : ℕ) : (putBE32 n).length = 4 := rfl

@[simp] lemma length_putBE64 (n : ℕ) : (putBE64 n).length = 8 := rfl

lemma be16_lt (b : Bytes) (i : ℕ) : be16 b i < 65536 := by
  have h0 := (b.getD i 0).toNat_lt
  have h1 := (b.getD (i + 1) 0).toNat_lt
  unfold be16
  omega

lemma be32_lt (b : Bytes) (i : ℕ) : be32 b i < 4294967296 := by
  have h0 := be16_lt b i
  have h1 := be16_lt b (i + 2)
  unfold be32
  omega

variable {b : Bytes}

lemma be16_append {i : ℕ} (h : i + 2 ≤ b.length) (c : Bytes) : be16 (b ++ c) i = be16 b i := by
  unfold be16
  rw [List.getD_append _ _ _ _ (by omega), List.getD_append _ _ _ _ (by omega)]

@[simp] lemma be16_putBE16 (n : ℕ) : be16 (putBE16 n) 0 = n % 65536 := by
  simp only [be16, putBE16, List.getD_cons_zero, List.getD_cons_succ, UInt8.toNat_ofNat']
  omega

lemma be32_putBE32 (n : ℕ) : be32 (putBE32 n) 0 = n % 4294967296 := by
  have hhigh : be16 (putBE32 n) 0 = n / 65536 % 65536 := be16_putBE16 _
  have hlow : be16 (putBE32 n) (0 + 2) = n % 65536 := be16_putBE16 n
  rw [be32, hhigh, hlow]
  omega

lemma be64_putBE64 (n : ℕ) : be64 (putBE64 n) 0 = n % 18446744073709551616 := by
  have hhigh : be32 (putBE64 n) 0 = n / 4294967296 % 4294967296 := be32_putBE32 _
  have hlow : be32 (putBE64 n) (0 + 4) = n % 4294967296 := be32_putBE32 n
  rw [be64, hhigh, hlow]
  omega

/-! A value that fits its field is read back as it is. -/

lemma be16_of_lt {n : ℕ} (h : n < 2 ^ 16) : be16 (putBE16 n) 0 = n :=
  (be16_putBE16 n).trans (Nat.mod_eq_of_lt h)

lemma be32_of_lt {n : ℕ} (h : n < 2 ^ 32) : be32 (putBE32 n) 0 = n :=
  (be32_putBE32 n).trans (Nat.mod_eq_of_lt h)

lemma be64_of_lt {n : ℕ} (h : n < 2 ^ 64) : be64 (putBE64 n) 0 = n :=
  (be64_putBE64 n).trans (Nat.mod_eq_of_lt h)

/-! ## Addresses -/

structure UDPAddr where
  ip : Bytes
  port : ℕ
  zone : String := ""
  deriving DecidableEq, Repr

/-- The twelve octets before an IPv4 address in its IPv6 form. -/
def v4InV6Head : Bytes := List.replicate 10 0 ++ [0xff, 0xff]

/-- `net.IP.To4`: the four octets of an IPv4 address in either form. -/
def to4 (ip : Bytes) : Option Bytes :=
  if ip.length = 4 then some ip
  else if ip.length = 16 ∧ ip.take 12 = v4InV6Head then some (ip.drop 12)
  else none

/-- `net.IP.To16`: the sixteen octets of an address of either family. -/
def to16 (ip : Bytes) : Option Bytes :=
  if ip.length = 4 then some (v4InV6Head ++ ip) else if ip.length = 16 then some ip else none

end Veepin
