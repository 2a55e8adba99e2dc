import Jincubator.ByteOrder
import Jincubator.Library.Footprint

/-! # The state of the controller

The controller works on one array of shared registers, an array with the values
last seen of them, and a few variables of its own. Every access below is the
accessor of the same name, over the words as the shared memory holds them.
Numbers are integers that are cut to their width where the code stores them.
-/

namespace Jincubator

open Footprint

abbrev on : Int := 1

abbrev off : Int := 0

/-- Conversion to `short`. -/
def short (v : Int) : Int := (BitVec.ofInt 16 v).toInt

/-- Conversion to `unsigned short`. -/
def ushort (v : Int) : Int := (BitVec.ofInt 16 v).toNat

/-- Conversion to `int`. -/
def int32 (v : Int) : Int := (BitVec.ofInt 32 v).toInt

/-- Conversion to `unsigned int`. -/
def uint32 (v : Int) : Int := (BitVec.ofInt 32 v).toNat

theorem ofInt_toNat {w : Nat} (v : BitVec w) : BitVec.ofInt w v.toNat = v := by
  rw [BitVec.ofInt_natCast, BitVec.ofNat_toNat, BitVec.setWidth_eq]

theorem ushort_eq (v : Int) : ushort v = v % 65536 := by
  rw [ushort, BitVec.toNat_ofInt]
  omega

theorem short_of_range {v : Int} (range : -32768 ≤ v ∧ v < 32768) : short v = v := by
  rw [short, BitVec.toInt_ofInt]
  exact Int.bmod_eq_of_le (by omega) (by omega)

theorem short_range (v : Int) : -32768 ≤ short v ∧ short v < 32768 := by
  have low := (BitVec.ofInt 16 v).le_toInt
  have high := (BitVec.ofInt 16 v).toInt_lt
  rw [short]
  exact ⟨by omega, by omega⟩

theorem ushort_of_range {v : Int} (range : 0 ≤ v ∧ v < 65536) : ushort v = v := by
  rw [ushort_eq]
  omega

/-- The static variables of a PID calculation. -/
structure PidStatics where
  vn1 : Int
  wn1 : Int

/-- The static variables of a latched output. -/
structure Latch where
  nn : Int
  retf : Int

structure Incubator where
  shmOut : Nat → Word
  shmOld : Nat → Word
  /-- `g_fan_status` -/
  fanStatus : Int
  /-- `ui_timer_1_minute_count` -/
  timerCount : Int
  pidTemp : PidStatics
  pidHumi : PidStatics
  coolLatch : Latch
  dbOpenLatch : Latch
  dbCloseLatch : Latch

namespace Incubator

/-- Every register and every variable is zero. -/
def cleared : Incubator where
  shmOut _ := 0
  shmOld _ := 0
  fanStatus := 0
  timerCount := 0
  pidTemp := ⟨0, 0⟩
  pidHumi := ⟨0, 0⟩
  coolLatch := ⟨0, 0⟩
  dbOpenLatch := ⟨0, 0⟩
  dbCloseLatch := ⟨0, 0⟩

/-- A register with its bytes in machine order. -/
def reg (s : Incubator) (index : Nat) : Word := baWord (s.shmOut index)

def old (s : Incubator) (index : Nat) : Word := baWord (s.shmOld index)

def getVal (s : Incubator) (index : Nat) : Int := shm2short (s.shmOut index)

def getUval (s : Incubator) (index : Nat) : Int := shm2ushort (s.shmOut index)

def getOld (s : Incubator) (index : Nat) : Int := shm2short (s.shmOld index)

def getUold (s : Incubator) (index : Nat) : Int := shm2ushort (s.shmOld index)

def getX10Val (s : Incubator) (index : Nat) : Int := pidshm2short (s.shmOut index)

def getE10Val (s : Incubator) (index : Nat) : Int := shm2shortpid (s.shmOut index)

def getInt (s : Incubator) (index : Nat) : Int :=
  (shm2int (s.shmOut index) (s.shmOut (index + 1))).toInt

def getTime (s : Incubator) (addr : Nat) : Int :=
  (shm2int (s.shmOut addr) (s.shmOut (addr + 1))).toNat

/-- `shm_out[index] = word` -/
def put (s : Incubator) (index : Nat) (word : Word) : Incubator :=
  { s with shmOut := Function.update s.shmOut index word }

def setVal (index : Nat) (data : Int) (s : Incubator) : Incubator :=
  s.put index (short2shm data)

def setUval (index : Nat) (data : Int) (s : Incubator) : Incubator :=
  s.put index (ushort2shm data)

def setUold (index : Nat) (data : Int) (s : Incubator) : Incubator :=
  { s with shmOld := Function.update s.shmOld index (ushort2shm data) }

def setInt (index : Nat) (data : Int) (s : Incubator) : Incubator :=
  let words := int2shm (BitVec.ofInt 32 data)
  (s.put index words.1).put (index + 1) words.2

def setTime (addr : Nat) (time : Int) (s : Incubator) : Incubator :=
  let words := int2shm (BitVec.ofInt 32 time)
  (s.put addr words.1).put (addr + 1) words.2

/-! ## Reading and writing in machine order -/

section

variable (s : Incubator) (i j : Nat) (v : Int)

theorem getVal_eq : s.getVal i = (s.reg i).toInt := rfl

theorem getUval_eq : s.getUval i = (s.reg i).toNat := rfl

theorem getUval_range : 0 ≤ s.getUval i ∧ s.getUval i < 65536 := by
  have bound := (s.reg i).isLt
  rw [getUval_eq]
  omega

theorem getVal_range : -32768 ≤ s.getVal i ∧ s.getVal i < 32768 := by
  have low := (s.reg i).le_toInt
  have high := (s.reg i).toInt_lt
  rw [getVal_eq]
  exact ⟨by omega, by omega⟩

theorem getVal_eq_short : s.getVal i = short (s.getUval i) := by
  rw [getVal_eq, getUval_eq, short, ofInt_toNat]

theorem getUval_eq_ushort : s.getUval i = ushort (s.getVal i) := by
  rw [getVal_eq, getUval_eq, ushort, BitVec.ofInt_toInt]

theorem getTime_eq : s.getTime i = (s.reg i ++ s.reg (i + 1)).toNat := by
  rw [getTime, shm2int_eq, reg, reg]

theorem getInt_eq : s.getInt i = (s.reg i ++ s.reg (i + 1)).toInt := by
  rw [getInt, shm2int_eq, reg, reg]

theorem setUval_eq : setUval i v s = setVal i v s := rfl

theorem setTime_eq : setTime i v s = setInt i v s := rfl

private theorem low_word : (BitVec.ofInt 32 v).extractLsb' 0 16 = BitVec.ofInt 16 v := by
  apply BitVec.eq_of_toNat_eq
  simp only [BitVec.extractLsb'_toNat, BitVec.toNat_ofInt, Nat.shiftRight_zero]
  omega

private theorem high_word :
    (BitVec.ofInt 32 v).extractLsb' 16 16 = BitVec.ofInt 16 (v / 65536) := by
  apply BitVec.eq_of_toNat_eq
  simp only [BitVec.extractLsb'_toNat, BitVec.toNat_ofInt, Nat.shiftRight_eq_div_pow]
  omega

theorem setInt_eq : setInt i v s = setVal (i + 1) v (setVal i (v / 65536) s) := by
  simp only [setInt, setVal, int2shm_eq, low_word, high_word, short2shm]

theorem reg_setVal_self : (setVal i v s).reg i = BitVec.ofInt 16 v := by
  simp [setVal, put, reg, short2shm]

variable {i j} in
theorem reg_setVal_of_ne (other : j ≠ i) : (setVal i v s).reg j = s.reg j := by
  simp [setVal, put, reg, other]

variable {s i j v} in
theorem setVal_comm {w : Int} (apart : i ≠ j) :
    setVal i v (setVal j w s) = setVal j w (setVal i v s) := by
  simp only [setVal, put, Function.update_comm apart]

variable {i j} in
theorem getVal_setVal_of_ne (other : j ≠ i) : (setVal i v s).getVal j = s.getVal j :=
  congrArg BitVec.toInt (reg_setVal_of_ne s v other)

variable {i j} in
theorem getUval_setVal_of_ne (other : j ≠ i) : (setVal i v s).getUval j = s.getUval j := by
  rw [getUval_eq, getUval_eq, reg_setVal_of_ne s v other]

@[simp] theorem getVal_setVal_self : (setVal i v s).getVal i = short v := by
  rw [getVal_eq, reg_setVal_self, short]

@[simp] theorem getUval_setVal_self : (setVal i v s).getUval i = ushort v := by
  rw [getUval_eq, reg_setVal_self, ushort]

theorem getTime_setVal_of_ne (high : i ≠ j) (low : i + 1 ≠ j) :
    (setVal j v s).getTime i = s.getTime i := by
  rw [getTime_eq, getTime_eq, reg_setVal_of_ne s v high, reg_setVal_of_ne s v low]

theorem getTime_setTime_of_ne (high : i ≠ j ∧ i ≠ j + 1) (low : i + 1 ≠ j ∧ i + 1 ≠ j + 1) :
    (setTime j v s).getTime i = s.getTime i := by
  rw [setTime_eq, setInt_eq, getTime_setVal_of_ne _ _ _ _ high.2 low.2,
    getTime_setVal_of_ne _ _ _ _ high.1 low.1]

theorem reg_setTime_of_ne (high : i ≠ j) (low : i ≠ j + 1) :
    (setTime j v s).reg i = s.reg i := by
  rw [setTime_eq, setInt_eq, reg_setVal_of_ne _ _ low, reg_setVal_of_ne _ _ high]

/-- The two words of a value. -/
theorem ofInt_append_ofInt :
    BitVec.ofInt 16 (v / 65536) ++ BitVec.ofInt 16 v = BitVec.ofInt 32 v := by
  rw [← high_word, ← low_word]
  apply BitVec.eq_of_getLsbD_eq
  intro k inside
  simp only [BitVec.getLsbD_append, BitVec.getLsbD_extractLsb']
  by_cases small : k < 16
  · simp [small]
  · simp [small, show k - 16 < 16 by omega, show 16 + (k - 16) = k by omega]

@[simp] theorem getTime_setTime_self : (setTime i v s).getTime i = uint32 v := by
  rw [getTime_eq, setTime_eq, setInt_eq, reg_setVal_self, reg_setVal_of_ne _ _ (by omega),
    reg_setVal_self, ofInt_append_ofInt, uint32]

theorem ofInt_getUval : BitVec.ofInt 16 (s.getUval i) = s.reg i := by
  rw [getUval_eq, ofInt_toNat]

@[simp] theorem uint32_getTime : uint32 (s.getTime i) = s.getTime i := by
  rw [getTime_eq, uint32, ofInt_toNat]

/-- A stored register is not cut again. -/
@[simp] theorem ushort_getUval : ushort (s.getUval i) = s.getUval i := by
  rw [getUval_eq, ushort, ofInt_toNat]

@[simp] theorem short_getVal : short (s.getVal i) = s.getVal i := by
  rw [getVal_eq, short, BitVec.ofInt_toInt]

end

/-! ## Footprints

A procedure is described by the registers it may write. It never changes the
values last seen, the fan status or the minute counter unless said otherwise.
-/

theorem getVal_agree {writes : List Nat} {s t : Incubator} {i : Nat}
    (st : AgreeOff writes s.shmOut t.shmOut) (untouched : i ∉ writes) :
    t.getVal i = s.getVal i :=
  congrArg shm2short (st i untouched)

theorem getUval_agree {writes : List Nat} {s t : Incubator} {i : Nat}
    (st : AgreeOff writes s.shmOut t.shmOut) (untouched : i ∉ writes) :
    t.getUval i = s.getUval i :=
  congrArg shm2ushort (st i untouched)

structure Within (writes : List Nat) (s t : Incubator) : Prop where
  out : AgreeOff writes s.shmOut t.shmOut
  old : t.shmOld = s.shmOld
  fanStatus : t.fanStatus = s.fanStatus
  timerCount : t.timerCount = s.timerCount

namespace Within

variable {writes few many : List Nat} {s t u : Incubator} {i : Nat}

@[simp] theorem refl (writes : List Nat) (s : Incubator) : Within writes s s :=
  ⟨.refl _ _, rfl, rfl, rfl⟩

theorem trans (st : Within writes s t) (tu : Within writes t u) : Within writes s u :=
  ⟨st.out.trans tu.out, tu.old.trans st.old, tu.fanStatus.trans st.fanStatus,
    tu.timerCount.trans st.timerCount⟩

theorem mono (st : Within few s t) (sub : few ⊆ many) : Within many s t :=
  ⟨st.out.mono sub, st.old, st.fanStatus, st.timerCount⟩

/-- A procedure that writes allowed registers only can be skipped. -/
theorem skip (tu : Within few t u) (sub : few ⊆ many) :
    Within many s u ↔ Within many s t := by
  refine ⟨fun su => ?_, fun st => st.trans (tu.mono sub)⟩
  refine ⟨(agreeOff_skip tu.out sub).mp su.out, ?_, ?_, ?_⟩
  · exact tu.old.symm.trans su.old
  · exact tu.fanStatus.symm.trans su.fanStatus
  · exact tu.timerCount.symm.trans su.timerCount

theorem reg (st : Within writes s t) (untouched : i ∉ writes) : t.reg i = s.reg i :=
  congrArg baWord (st.out i untouched)

theorem getVal (st : Within writes s t) (untouched : i ∉ writes) : t.getVal i = s.getVal i :=
  getVal_agree st.out untouched

theorem getUval (st : Within writes s t) (untouched : i ∉ writes) :
    t.getUval i = s.getUval i :=
  getUval_agree st.out untouched

theorem getX10Val (st : Within writes s t) (untouched : i ∉ writes) :
    t.getX10Val i = s.getX10Val i :=
  congrArg pidshm2short (st.out i untouched)

theorem getE10Val (st : Within writes s t) (untouched : i ∉ writes) :
    t.getE10Val i = s.getE10Val i :=
  congrArg shm2shortpid (st.out i untouched)

theorem getTime (st : Within writes s t) (high : i ∉ writes) (low : i + 1 ∉ writes) :
    t.getTime i = s.getTime i := by
  rw [getTime_eq, getTime_eq, st.reg high, st.reg low]

theorem getInt (st : Within writes s t) (high : i ∉ writes) (low : i + 1 ∉ writes) :
    t.getInt i = s.getInt i := by
  rw [getInt_eq, getInt_eq, st.reg high, st.reg low]

end Within

section

variable {writes : List Nat} {s t : Incubator} {i : Nat} {v : Int}

@[simp] theorem within_ite {c : Prop} [Decidable c] {t u : Incubator} :
    Within writes s (if c then t else u) ↔
      if c then Within writes s t else Within writes s u := by
  split <;> rfl

/-- A loop keeps to a footprint when its body does. -/
theorem within_foldl {α : Type*} {f : Incubator → α → Incubator} {l : List α}
    (body : ∀ a ∈ l, ∀ t, Within writes s (f t a) ↔ Within writes s t) (t : Incubator) :
    Within writes s (l.foldl f t) ↔ Within writes s t := by
  induction l generalizing t with
  | nil => rfl
  | cons a l ih =>
      rw [List.foldl_cons, ih fun b mem => body b (List.mem_cons_of_mem a mem),
        body a List.mem_cons_self]

theorem put_within (s : Incubator) (i : Nat) (word : Word) : Within [i] s (s.put i word) :=
  ⟨agreeOff_update _ _ _, rfl, rfl, rfl⟩

@[simp] theorem within_put {word : Word} (allowed : i ∈ writes) :
    Within writes s (t.put i word) ↔ Within writes s t :=
  (put_within t i word).skip (by simpa using allowed)

@[simp] theorem within_setVal (allowed : i ∈ writes) :
    Within writes s (setVal i v t) ↔ Within writes s t :=
  within_put allowed

@[simp] theorem within_setUval (allowed : i ∈ writes) :
    Within writes s (setUval i v t) ↔ Within writes s t :=
  within_put allowed

@[simp] theorem within_setInt (high : i ∈ writes) (low : i + 1 ∈ writes) :
    Within writes s (setInt i v t) ↔ Within writes s t := by
  rw [setInt_eq, within_setVal low, within_setVal high]

@[simp] theorem within_setTime (high : i ∈ writes) (low : i + 1 ∈ writes) :
    Within writes s (setTime i v t) ↔ Within writes s t :=
  within_setInt high low

end

end Incubator

end Jincubator
