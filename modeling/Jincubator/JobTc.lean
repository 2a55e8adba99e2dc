import Jincubator.Define
import Jincubator.Registers

/-! # PID calculations and latched outputs

The computations of `job_tc.cpp`: two PID loops of one shape, the duty of the
main heater and of the humidifier, and three latched outputs that follow a
comparison after a minimal number of calls. The moving averages live in the
register file as native integers, without an exchange of bytes. On the target a
division by zero ends the process; here it has a value, and the same computations
over a machine that refuses it tell which calls return.
-/

namespace Jincubator

open Incubator

/-! ## The moving average -/

namespace Incubator

/-- `((int *)&shm_out[base])[index]` -/
def nativeInt (base : Nat) (s : Incubator) (index : Nat) : Int :=
  (s.shmOut (base + 2 * index + 1) ++ s.shmOut (base + 2 * index)).toInt

def setNativeInt (base index : Nat) (v : Int) (s : Incubator) : Incubator :=
  (s.put (base + 2 * index) (BitVec.ofInt 16 v)).put (base + 2 * index + 1)
    (BitVec.ofInt 16 (v / 65536))

end Incubator

/-- `p[i] = p[i - 1]` for `i` from the argument down to one. -/
def shiftFilter (base : Nat) : Nat → Incubator → Incubator
  | 0, s => s
  | i + 1, s => shiftFilter base i (setNativeInt base (i + 1) (s.nativeInt base i) s)

def pidFilter (pid : Int) (base num : Nat) (s : Incubator) : Int × Incubator :=
  let s := s |> shiftFilter base (num - 1) |> setNativeInt base 0 pid
  let sum := (List.range num).foldl (fun sum i => int32 (sum + s.nativeInt base i)) 0
  (short (sum.tdiv num), s)

/-! ## The PID loops -/

/-- The parameters of one loop and the sum it keeps. -/
structure PidLoop where
  p : Nat
  i : Nat
  d : Nat
  ohi : Nat
  olo : Nat
  sum : Nat

def tempLoop : PidLoop where
  p := Reg.pTempP
  i := Reg.pTempI
  d := Reg.pTempD
  ohi := Reg.pTempOhi
  olo := Reg.pTempOlo
  sum := Reg.pidTempSum

def humiLoop : PidLoop where
  p := Reg.pHumP
  i := Reg.pHumI
  d := Reg.pHumD
  ohi := Reg.pHumOhi
  olo := Reg.pHumOlo
  sum := Reg.pidHumiSum

def clamp (low high v : Int) : Int :=
  let v := if v < low then low else v
  if v > high then high else v

namespace PidLoop

variable (loop : PidLoop)

def InBand (en : Int) (s : Incubator) : Prop :=
  |en| ≤ (s.getX10Val loop.p).tdiv 2

instance (en : Int) (s : Incubator) : Decidable (loop.InBand en s) :=
  inferInstanceAs (Decidable (_ ≤ _))

def xp (pv sp : Int) (s : Incubator) : Int :=
  let en := sp - pv
  clamp 0 10000 <|
    if s.getX10Val loop.p > 0 then
      if loop.InBand en s then (10000 * en).tdiv (s.getX10Val loop.p) + 5000
      else if sp > pv then 10000
      else 0
    else 0

/-- The integral part, with the sum it leaves behind. -/
def xi (en : Int) (s : Incubator) : Int × Incubator :=
  if s.getE10Val loop.i > 0 ∧ loop.InBand en s then
    let s := setInt loop.sum (s.getInt loop.sum + en) s
    (clamp (-10000) 10000 ((int32 (50 * s.getInt loop.sum)).tdiv (s.getE10Val loop.i)), s)
  else (0, setInt loop.sum 0 s)

def xd (en vn vn1 : Int) (s : Incubator) : Int :=
  if s.getE10Val loop.d > 0 ∧ loop.InBand en s then
    int32 (2 * s.getE10Val loop.d * (vn - vn1))
  else 0

/-- The calculation up to the limit of the unscaled result; it returns unless `jv` is zero. -/
def pid (statics : PidStatics) (pv sp : Int) (s : Incubator) : Int × PidStatics × Incubator :=
  let en := sp - pv
  let xi := loop.xi en s
  let vn := loop.xp pv sp s + xi.1
  let s := xi.2
  let s := if vn > 15000 ∨ vn < -5000 then setInt loop.sum (s.getInt loop.sum - en) s else s
  let wn := int32 (vn + loop.xd en vn statics.vn1 s)
  let iv := int32 (wn + (int32 (s.getE10Val loop.d * 100 * statics.wn1)).tdiv 500)
  let jv := 1 + (s.getE10Val loop.d * 100).tdiv 500
  (clamp 0 10000 (iv.tdiv jv), ⟨vn, wn⟩, s)

/-- The output limits, which come last and in this order. -/
def limit (pidv : Int) (s : Incubator) : Int :=
  let pidv := if pidv > s.getVal loop.ohi * 100 then s.getVal loop.ohi * 100 else pidv
  if pidv < s.getVal loop.olo * 100 then s.getVal loop.olo * 100 else pidv

end PidLoop

def pidCalc1 (pv sp : Int) (s : Incubator) : Int × Incubator :=
  let result := tempLoop.pid s.pidTemp pv sp s
  let s := { result.2.2 with pidTemp := result.2.1 }
  (tempLoop.limit result.1 s, s)

def pidCalc2 (pv sp : Int) (s : Incubator) : Int × Incubator :=
  let result := humiLoop.pid s.pidHumi pv sp s
  let s := { result.2.2 with pidHumi := result.2.1 }
  (humiLoop.limit ((result.1 - 5000) * 2) s, s)

/-! ## Duties and latched outputs -/

/-- A call returns unless the two bounds are equal. -/
def mainHeater (pid : Int) (s : Incubator) : Int :=
  let dutyHi := 10 * s.getVal Reg.pTempOhi
  let dutyLo := 10 * s.getVal Reg.pTempOlo
  let duty := (100 * (pid.tdiv 10 - s.getVal Reg.pHlo * 10)).tdiv
    (s.getVal Reg.pHhi - s.getVal Reg.pHlo)
  let duty := if duty ≥ dutyHi then dutyHi else if duty ≤ dutyLo then dutyLo else duty
  if s.getVal Reg.rAiTpMain ≥ s.getVal Reg.pAoTpMain then 0
  else if s.getVal Reg.rAiTpMain <
      s.getVal Reg.pAoTpMain - (s.getX10Val Reg.pTempP).tdiv 2 then dutyHi
  else duty

/-- One call of a latched output: count up while asked for, down otherwise, and hold above the
minimal count until the count is used up. -/
def Latch.next (asked interlock : Prop) [Decidable asked] [Decidable interlock] (tmin : Int)
    (latch : Latch) : Latch :=
  let op : Int := if asked then 1000 else 0
  let nn :=
    if latch.retf ≠ 0 then if op < 500 then int32 (latch.nn - 1) else latch.nn
    else if op > 500 then int32 (latch.nn + 1)
    else int32 (latch.nn - 1)
  let nn := if interlock then 0 else nn
  let retf := if nn > tmin then 1 else latch.retf
  if nn ≤ 0 then ⟨0, 0⟩ else ⟨nn, retf⟩

def cool (pid : Int) (s : Incubator) : Int × Incubator :=
  let latch := s.coolLatch.next (pid ≤ s.getVal Reg.pCol * 100) False (s.getVal Reg.pTco)
  (if s.getVal Reg.rAiTpMain ≤ s.getVal Reg.pAoTpMain then 0 else latch.retf,
    { s with coolLatch := latch })

/-- `db_stoke`, which nothing assigns. -/
def dbStoke : Int := 10000

def dbOpen (pid : Int) (s : Incubator) : Int × Incubator :=
  let tmin := if dbStoke > 10050 then s.getVal Reg.pTcl else s.getVal Reg.pTop
  let latch := s.dbOpenLatch.next (pid < s.getVal Reg.pOpe * 100)
    (s.getVal Reg.pidTempDbClose ≠ 0) tmin
  (if s.getVal Reg.rAiTpMain ≤ s.getVal Reg.pAoTpMain then 0 else latch.retf,
    { s with dbOpenLatch := latch })

def dbClose (pid : Int) (s : Incubator) : Int × Incubator :=
  let tmin := if dbStoke < 9950 then s.getVal Reg.pTcl else s.getVal Reg.pTop
  let latch := s.dbCloseLatch.next (pid > s.getVal Reg.pOpe * 100)
    (s.getVal Reg.pidTempDbOpen ≠ 0) tmin
  (if s.getVal Reg.rAiTpMain ≥ s.getVal Reg.pAoTpMain then 0 else latch.retf,
    { s with dbCloseLatch := latch })

def sprayDuty (pid : Int) (s : Incubator) : Int × Incubator :=
  let average := pidFilter pid Reg.filterPidHumiArr 50 s
  let s := average.2
  let duty := int32 (uint32 average.1 / 10)
  let duty :=
    if duty > 10 * s.getVal Reg.pHumOhi then 10 * s.getVal Reg.pHumOhi
    else if duty < 10 * s.getVal Reg.pHumOlo then 10 * s.getVal Reg.pHumOlo
    else duty
  let half := (s.getX10Val Reg.pHumP).tdiv 2
  let pointStp := if s.getVal Reg.pHumSpr < half then s.getVal Reg.pHumSpr else half
  let humi := s.getVal Reg.rAiHm
  let setting := s.getVal Reg.pAoHm
  let result :=
    if humi < setting - half then 10 * s.getVal Reg.pHumOhi
    else if humi > setting then 0
    else if humi ≥ setting - half ∧ humi ≤ setting + pointStp then duty
    else 0
  (result, s)

def pidTempInit (s : Incubator) : Incubator :=
  let temp := pidCalc1 (s.getVal Reg.rAiTpMain) (s.getVal Reg.pAoTpMain) s
  let s := setInt Reg.pidTempValue temp.1 temp.2
  let average := pidFilter temp.1 Reg.filterPidTempArr 10 s
  let s := setInt Reg.pidTempNewFilterValue average.1 average.2
  let s := setUval Reg.pidTempMainHeater (mainHeater average.1 s) s
  let pidCool := cool average.1 s
  let s := setUval Reg.pidTempCool pidCool.1 pidCool.2
  let pidAdOpen := dbOpen average.1 s
  let s := setUval Reg.pidTempDbOpen pidAdOpen.1 pidAdOpen.2
  let pidAdClose := dbClose average.1 s
  setUval Reg.pidTempDbClose pidAdClose.1 pidAdClose.2

def pidHumiInit (s : Incubator) : Incubator :=
  let humi := pidCalc2 (s.getVal Reg.rAiHm) (s.getVal Reg.pAoHm) s
  let s := setInt Reg.pidHumiValue humi.1 humi.2
  let spray := sprayDuty humi.1 s
  setInt Reg.pidHumiNewHumidification spray.1 spray.2

/-! ## Footprints -/

section

variable {writes : List Nat} {s t : Incubator}

@[simp] theorem within_setNativeInt {base index : Nat} {v : Int}
    (low : base + 2 * index ∈ writes) (high : base + 2 * index + 1 ∈ writes) :
    Within writes s (setNativeInt base index v t) ↔ Within writes s t := by
  simp [setNativeInt, low, high]

theorem within_shiftFilter {base count : Nat} (s t : Incubator)
    (allowed : ∀ index ≤ count, base + 2 * index ∈ writes ∧ base + 2 * index + 1 ∈ writes) :
    Within writes s (shiftFilter base count t) ↔ Within writes s t := by
  induction count generalizing t with
  | zero => rfl
  | succ count ih =>
      have here := allowed (count + 1) (Nat.le_refl _)
      rw [shiftFilter, ih _ fun index bound => allowed index (Nat.le_succ_of_le bound),
        within_setNativeInt here.1 here.2]

@[simp] theorem within_pidFilter {pid : Int} {base num : Nat}
    (allowed : ∀ index ≤ num - 1, base + 2 * index ∈ writes ∧ base + 2 * index + 1 ∈ writes) :
    Within writes s (pidFilter pid base num t).2 ↔ Within writes s t := by
  have first := allowed 0 (Nat.zero_le _)
  rw [pidFilter, within_setNativeInt first.1 first.2, within_shiftFilter s t allowed]

@[simp] theorem within_pid {loop : PidLoop} {statics : PidStatics} {pv sp : Int}
    (high : loop.sum ∈ writes) (low : loop.sum + 1 ∈ writes) :
    Within writes s (loop.pid statics pv sp t).2.2 ↔ Within writes s t := by
  simp [PidLoop.pid, PidLoop.xi, apply_ite Prod.snd, high, low]

@[simp] theorem within_statics {temp humi : PidStatics} {cooler opened closed : Latch} :
    Within writes s ⟨t.shmOut, t.shmOld, t.fanStatus, t.timerCount, temp, humi, cooler, opened,
      closed⟩ ↔ Within writes s t :=
  ⟨fun st => ⟨st.out, st.old, st.fanStatus, st.timerCount⟩,
    fun st => ⟨st.out, st.old, st.fanStatus, st.timerCount⟩⟩

/-- The registers that the temperature loop computes. -/
def pidTempWrites : List Nat :=
  List.range' Reg.filterPidTempArr 20 ++
    [Reg.pidTempSum, Reg.pidTempSum + 1, Reg.pidTempValue, Reg.pidTempValue + 1,
      Reg.pidTempNewFilterValue, Reg.pidTempNewFilterValue + 1, Reg.pidTempMainHeater,
      Reg.pidTempCool, Reg.pidTempDbOpen, Reg.pidTempDbClose]

theorem pidTempInit_within (s : Incubator) : Within pidTempWrites s (pidTempInit s) := by
  simp (disch := decide) [pidTempInit, cool, dbOpen, dbClose, pidCalc1]

/-- The registers that the humidity loop computes. -/
def pidHumiWrites : List Nat :=
  List.range' Reg.filterPidHumiArr 100 ++
    [Reg.pidHumiSum, Reg.pidHumiSum + 1, Reg.pidHumiValue, Reg.pidHumiValue + 1,
      Reg.pidHumiNewHumidification, Reg.pidHumiNewHumidification + 1]

theorem pidHumiInit_within (s : Incubator) : Within pidHumiWrites s (pidHumiInit s) := by
  simp (disch := decide) [pidHumiInit, sprayDuty, pidCalc2]

end

end Jincubator
