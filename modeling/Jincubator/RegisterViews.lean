import Jincubator.PidArithmetic

/-! # Views of the register file

A register is read as a signed or an unsigned word, and two registers together as a
signed or an unsigned integer whose upper word comes first. Whatever is written through
one view is read through every other one.
-/

namespace Jincubator

open Incubator

/-! ## Words and integers -/

namespace Incubator

section

variable (s : Incubator) (i : Nat)

theorem getTime_words : s.getTime i = s.getUval i * 65536 + s.getUval (i + 1) := by
  have low := (s.reg (i + 1)).isLt
  rw [getTime_eq, BitVec.toNat_append, ← Nat.shiftLeft_add_eq_or_of_lt low, Nat.shiftLeft_eq,
    getUval_eq, getUval_eq]
  push_cast
  rfl

theorem getInt_getTime : s.getInt i = int32 (s.getTime i) := by
  rw [getTime_eq, getInt_eq, int32, ofInt_toNat]

theorem getInt_words : s.getInt i % 4294967296 =
    (s.getUval i * 65536 + s.getUval (i + 1)) % 4294967296 := by
  rw [getInt_getTime, getTime_words, int32_eq_bmod]
  exact Int.bmod_emod

/-- The upper bits are not stored. -/
theorem setUval_emod (v : Int) : setUval i (v % 65536) s = setUval i v s := by
  have stored : BitVec.ofInt 16 (v % 65536) = BitVec.ofInt 16 v := by
    apply BitVec.eq_of_toNat_eq
    rw [BitVec.toNat_ofInt, BitVec.toNat_ofInt]
    exact congrArg Int.toNat (Int.emod_emod_of_dvd v (Int.dvd_refl _))
  rw [setUval, setUval, ushort2shm, ushort2shm, stored]

end

end Incubator

/-- Two registers hold an integer for every view of them, and no other register has changed. -/
structure HoldsInt (i : Nat) (v : Word32) (s t : Incubator) : Prop where
  getInt : t.getInt i = v.toInt
  getTime : t.getTime i = v.toNat
  intWords : t.getInt i % 4294967296 =
    (t.getUval i * 65536 + t.getUval (i + 1)) % 4294967296
  timeWords : t.getTime i = t.getUval i * 65536 + t.getUval (i + 1)
  elsewhere : ∀ j, j ≠ i → j ≠ i + 1 → t.shmOut j = s.shmOut j

/-- A register holds a word for both views of it, and no other register has changed. -/
structure HoldsVal (i : Nat) (w : Word) (s t : Incubator) : Prop where
  getVal : t.getVal i = w.toInt
  getUval : t.getUval i = w.toNat
  elsewhere : ∀ j, j ≠ i → t.shmOut j = s.shmOut j

section

variable (i : Nat) (s : Incubator)

theorem holdsInt_setTime (v : Word32) : HoldsInt i v s (setTime i v.toNat s) := by
  have within : Within [i, i + 1] s (setTime i v.toNat s) := by simp
  have time : (setTime i v.toNat s).getTime i = v.toNat := by
    rw [getTime_setTime_self, uint32, ofInt_toNat]
  constructor
  case getInt => rw [getInt_getTime, time, int32, ofInt_toNat]
  case getTime => exact time
  case intWords => exact getInt_words _ i
  case timeWords => exact getTime_words _ i
  case elsewhere =>
    intro j high low
    exact within.out j (by simp [high, low])

theorem setInt_toInt (v : Word32) : setInt i v.toInt s = setTime i v.toNat s := by
  rw [setInt, setTime, BitVec.ofInt_toInt, ofInt_toNat]

/-- The halves of an integer, stored one after the other. -/
theorem setUval_halves (v : Int) :
    (s |> setUval i (v / 65536) |> setUval (i + 1) (v % 65536)) = setTime i v s := by
  rw [setUval_emod, setUval_eq, setUval_eq, setTime_eq, setInt_eq]

theorem holdsVal_setVal (w : Word) : HoldsVal i w s (setVal i w.toInt s) := by
  have within : Within [i] s (setVal i w.toInt s) := by simp
  constructor
  case getVal => rw [getVal_setVal_self, short, BitVec.ofInt_toInt]
  case getUval => rw [getUval_setVal_self, ushort, BitVec.ofInt_toInt]
  case elsewhere =>
    intro j other
    exact within.out j (by simp [other])

theorem setUval_toNat (w : Word) : setUval i w.toNat s = setVal i w.toInt s := by
  rw [setUval, setVal, ushort2shm, short2shm, BitVec.ofInt_toInt, ofInt_toNat]

end

/-- What is written through one view is read through all of them. -/
theorem registerViews (s : Incubator) (i : Nat) :
    (∀ v : Word32, HoldsInt i v s (setInt i v.toInt s)) ∧
    (∀ v : Word32, HoldsInt i v s (setTime i v.toNat s)) ∧
    (∀ w : Word, HoldsVal i w s (setVal i w.toInt s)) ∧
    (∀ w : Word, HoldsVal i w s (setUval i w.toNat s)) ∧
    (∀ v : Word32, HoldsInt i v s
      (s |> setUval i (v.toNat / 65536) |> setUval (i + 1) (v.toNat % 65536))) ∧
    (∀ v : Word32, HoldsInt i v s
      (s |> setUval (i + 1) (v.toNat % 65536) |> setUval i (v.toNat / 65536))) := by
  refine ⟨?_, holdsInt_setTime i s, holdsVal_setVal i s, ?_, ?_, ?_⟩
  · intro v
    rw [setInt_toInt]
    exact holdsInt_setTime i s v
  · intro w
    rw [setUval_toNat]
    exact holdsVal_setVal i s w
  · intro v
    rw [setUval_halves]
    exact holdsInt_setTime i s v
  · intro v
    rw [setUval_eq, setUval_eq, setVal_comm (Nat.succ_ne_self i).symm, ← setUval_eq,
      ← setUval_eq, setUval_halves]
    exact holdsInt_setTime i s v

end Jincubator
