import Mathlib.Tactic.IntervalCases

/-! # Byte order of the shared registers

The register file is shared with the Modbus side and keeps every word with its
two bytes exchanged; 32-bit quantities take two words in big-endian order. The
conversions below follow `jlib.cpp` and `jshmem.cpp` on a little-endian machine:
a buffer is a list of bytes and an exchange is three exclusive-or assignments.
-/

namespace Jincubator

abbrev Byte := BitVec 8

abbrev Word := BitVec 16

abbrev Word32 := BitVec 32

/-- `*a ^= *b; *b ^= *a; *a ^= *b;` -/
def xorSwap (a b : Byte) : Byte × Byte :=
  let a := a ^^^ b
  let b := b ^^^ a
  let a := a ^^^ b
  (a, b)

@[simp] theorem xorSwap_eq (a b : Byte) : xorSwap a b = (b, a) := by
  simp only [xorSwap, Prod.mk.injEq]
  have first : b ^^^ (a ^^^ b) = a := by
    rw [BitVec.xor_comm a b, ← BitVec.xor_assoc, BitVec.xor_self, BitVec.zero_xor]
  refine ⟨?_, first⟩
  rw [first, BitVec.xor_comm a b, BitVec.xor_assoc, BitVec.xor_self, BitVec.xor_zero]

def baGroups : List Byte → List Byte
  | a :: b :: rest =>
      let (a, b) := xorSwap a b
      a :: b :: baGroups rest
  | rest => rest

/-- The null pointer is `none`; the buffer is then left as it was. -/
def ba (buf : List Byte) : Option (List Byte) :=
  if buf.length % 2 ≠ 0 ∨ buf.length ≤ 0 then none else some (baGroups buf)

def dcbaGroups : List Byte → List Byte
  | a :: b :: c :: d :: rest =>
      let (a, d) := xorSwap a d
      let (b, c) := xorSwap b c
      a :: b :: c :: d :: dcbaGroups rest
  | rest => rest

def dcba (buf : List Byte) : Option (List Byte) :=
  if buf.length % 4 ≠ 0 ∨ buf.length ≤ 0 then none else some (dcbaGroups buf)

/-- The bytes of a word in memory. -/
def wordBytes (w : Word) : List Byte := [w.extractLsb' 0 8, w.extractLsb' 8 8]

def bytesWord : List Byte → Word
  | [lo, hi] => hi ++ lo
  | _ => 0

@[simp] theorem bytesWord_wordBytes (w : Word) : bytesWord (wordBytes w) = w := by
  apply BitVec.eq_of_getLsbD_eq
  intro i inside
  simp only [wordBytes, bytesWord, BitVec.getLsbD_append, BitVec.getLsbD_extractLsb']
  interval_cases i <;> simp

/-- The bytes of an `int` in memory. -/
def intBytes (v : Word32) : List Byte :=
  [v.extractLsb' 0 8, v.extractLsb' 8 8, v.extractLsb' 16 8, v.extractLsb' 24 8]

def bytesInt : List Byte → Word32
  | [a, b, c, d] => (d ++ c ++ b ++ a : BitVec (8 + 8 + 8 + 8))
  | _ => 0

/-- `memcpy` of a word followed by `ba` over its two bytes. -/
def baWord (w : Word) : Word :=
  bytesWord ((ba (wordBytes w)).getD (wordBytes w))

theorem baWord_eq (w : Word) : baWord w = w.extractLsb' 0 8 ++ w.extractLsb' 8 8 := by
  simp [baWord, ba, wordBytes, baGroups, bytesWord]

@[simp] theorem baWord_baWord (w : Word) : baWord (baWord w) = w := by
  simp only [baWord_eq]
  apply BitVec.eq_of_getLsbD_eq
  intro i inside
  simp only [BitVec.getLsbD_append, BitVec.getLsbD_extractLsb']
  interval_cases i <;> simp

/-- `shm2ushort` -/
def shm2ushort (w : Word) : Int := (baWord w).toNat

/-- `shm2short` -/
def shm2short (w : Word) : Int := (baWord w).toInt

/-- `shm2shortpid`: the quotient by ten, truncated. -/
def shm2shortpid (w : Word) : Int := (baWord w).toInt.tdiv 10

/-- `pidshm2short`: ten times the value, stored back into a `short`. -/
def pidshm2short (w : Word) : Int := (BitVec.ofInt 16 ((baWord w).toInt * 10)).toInt

/-- `ushort2shm` -/
def ushort2shm (v : Int) : Word := baWord (BitVec.ofInt 16 v)

/-- `short2shm` -/
def short2shm (v : Int) : Word := baWord (BitVec.ofInt 16 v)

/-- Two words read by `memcpy` into an `int` and reversed by `dcba`. -/
def shm2int (first second : Word) : Word32 :=
  let raw := wordBytes first ++ wordBytes second
  bytesInt ((dcba raw).getD raw)

/-- An `int` reversed by `dcba` and written by `memcpy` over two words. -/
def int2shm (v : Word32) : Word × Word :=
  let raw := (dcba (intBytes v)).getD (intBytes v)
  (bytesWord (raw.take 2), bytesWord (raw.drop 2))

private theorem append_pairs (a b c d : Byte) :
    (a ++ b ++ c ++ d : BitVec (8 + 8 + 8 + 8)) = ((a ++ b) ++ (c ++ d) : BitVec (16 + 16)) := by
  rw [BitVec.append_assoc]
  rfl

theorem shm2int_eq (first second : Word) :
    shm2int first second = baWord first ++ baWord second := by
  simp only [baWord_eq, ← append_pairs]
  simp [shm2int, dcba, wordBytes, dcbaGroups, bytesInt]

private theorem extract_extract (v : Word32) (outer inner : Nat) (inside : inner + 8 ≤ 16) :
    (v.extractLsb' outer 16).extractLsb' inner 8 = v.extractLsb' (outer + inner) 8 := by
  ext i bound
  have short : inner + i < 16 := by omega
  simp [short, Nat.add_assoc]

theorem int2shm_eq (v : Word32) :
    int2shm v = (baWord (v.extractLsb' 16 16), baWord (v.extractLsb' 0 16)) := by
  simp only [baWord_eq]
  rw [extract_extract v 16 0 (by decide), extract_extract v 16 8 (by decide)]
  simp [int2shm, dcba, intBytes, dcbaGroups, bytesWord]

end Jincubator
