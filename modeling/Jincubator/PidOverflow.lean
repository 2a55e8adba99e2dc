import Jincubator.Humidity
import Jincubator.PidWindup
import Jincubator.Temperature

/-! # Overflow of the PID calculations

With the parameters that are installed by default only one product can overflow, that
of the humidity filter with the result of the last call. The result is large when the
calculation jumps inside the band, which takes a sum that was cleared in between. The
unfiltered result itself always stays within the bounds of the comment beside it.
-/

namespace Jincubator

open Incubator Arithmetic Run

/-! ## One call within its bounds -/

namespace PidLoop

variable {loop : PidLoop} {m : Machine} {pv sp en vn vn1 wn wn1 : Int} {s : Incubator}

theorem xiWith_eq (keeps : Keeps intHalf m) (apart : loop.Apart) (bounded : loop.SumBounded s)
    (small : |en| ≤ 65535) : loop.xiWith m en s = some (loop.xi en s) := by
  by_cases enabled : s.getE10Val loop.i > 0 ∧ loop.InBand en s
  · obtain ⟨sum, scaled⟩ := bounded.fits small
    have kept (v : Int) : (setInt loop.sum v s).getE10Val loop.i = s.getE10Val loop.i :=
      (setSum_within loop v s).getE10Val (apart _ (by simp))
    rw [xi_inside apart enabled ⟨sum, scaled⟩, xiWith, if_pos enabled, keeps.int _ sum]
    simp only [Option.bind_eq_bind, Option.bind_some, getInt_setInt_self, int32_of_fits sum,
      keeps.int _ scaled, kept,
      keeps.div _ _ (ne_of_gt enabled.1) (fits_tdiv scaled enabled.1)]
    rfl
  · rw [xiWith, xi, if_neg enabled, if_neg enabled]

/-- The sum that the integral part leaves behind is not much larger. -/
theorem xi_sum (apart : loop.Apart) (bounded : loop.SumBounded s) (small : |en| ≤ 65535) :
    |(loop.xi en s).2.getInt loop.sum| ≤ 720935 := by
  have range := getE10Val_range s loop.i
  have sum := (bounded.fits small).1
  rw [SumBounded, abs_le] at bounded
  rw [abs_le] at small
  by_cases enabled : s.getE10Val loop.i > 0 ∧ loop.InBand en s
  · rw [xi_inside apart enabled (SumBounded.fits (abs_le.mpr bounded) (abs_le.mpr small)),
      getInt_setInt_self, int32_of_fits sum, abs_le]
    omega
  · rw [xi, if_neg enabled, getInt_setInt_self]
    decide

theorem undoWith_eq (keeps : Keeps intHalf m) (small : |en| ≤ 65535)
    (sum : |s.getInt loop.sum| ≤ 720935) : loop.undoWith m vn en s =
      some (if vn > 15000 ∨ vn < -5000 then setInt loop.sum (s.getInt loop.sum - en) s else s) := by
  rw [abs_le] at small sum
  have fits : Fits intHalf (s.getInt loop.sum - en) := fits_int.mpr (by omega)
  rw [undoWith]
  split
  · rw [keeps.int _ fits]
    rfl
  · rfl

/-- The differential part, with a derivative of at most thirty. -/
theorem xdWith_eq (keeps : Keeps intHalf m) (derivative : s.getE10Val loop.d ≤ 30)
    (rise : |vn - vn1| ≤ 30000) : loop.xdWith m en vn vn1 s = some (loop.xd en vn vn1 s) := by
  rw [abs_le] at rise
  rw [xdWith, xd]
  by_cases enabled : s.getE10Val loop.d > 0 ∧ loop.InBand en s
  · have product : -1800000 ≤ 2 * s.getE10Val loop.d * (vn - vn1) ∧
        2 * s.getE10Val loop.d * (vn - vn1) ≤ 1800000 := by
      constructor <;> nlinarith [enabled.1]
    have fits : Fits intHalf (2 * s.getE10Val loop.d * (vn - vn1)) := fits_int.mpr (by omega)
    rw [if_pos enabled, if_pos enabled, keeps.int _ (fits_int.mpr (by omega)),
      keeps.int _ (fits_int.mpr (by omega))]
    simp only [Option.bind_eq_bind, Option.bind_some, keeps.int _ fits, int32_of_fits fits]
  · rw [if_neg enabled, if_neg enabled]

theorem xd_range (derivative : s.getE10Val loop.d ≤ 30) (rise : |vn - vn1| ≤ 30000) :
    |loop.xd en vn vn1 s| ≤ 1800000 := by
  rw [abs_le] at rise ⊢
  rw [xd]
  split
  · rename_i enabled
    have product : -1800000 ≤ 2 * s.getE10Val loop.d * (vn - vn1) ∧
        2 * s.getE10Val loop.d * (vn - vn1) ≤ 1800000 := by
      constructor <;> nlinarith [enabled.1]
    rwa [int32_of_fits (fits_int.mpr (by omega))]
  · decide

/-- The filter overflows in one product only. -/
theorem filterWith_noOverflow (derivative : 0 ≤ s.getE10Val loop.d ∧ s.getE10Val loop.d ≤ 30)
    (small : |wn| ≤ 1820000) : loop.filterWith (noOverflow intHalf) wn wn1 s =
      if Fits intHalf (s.getE10Val loop.d * 100 * wn1) then
        some ((int32 (wn + (int32 (s.getE10Val loop.d * 100 * wn1)).tdiv 500)).tdiv
          (loop.divisor s))
      else none := by
  have keeps := noOverflow_keeps intHalf
  have scaled : Fits intHalf (s.getE10Val loop.d * 100) := fits_int.mpr (by omega)
  have ratio := Int.tdiv_nonneg (show 0 ≤ s.getE10Val loop.d * 100 by omega)
    (show (0 : Int) ≤ 500 by decide)
  have bounds := tdiv_bounds (s.getE10Val loop.d * 100) (show (0 : Int) < 500 by decide)
  have divisor : 0 < loop.divisor s := by
    rw [PidLoop.divisor]
    omega
  have divisorFits : Fits intHalf (1 + (s.getE10Val loop.d * 100).tdiv 500) :=
    fits_int.mpr (by omega)
  rw [filterWith, keeps.int _ scaled]
  simp only [Option.bind_eq_bind, Option.bind_some]
  by_cases product : Fits intHalf (s.getE10Val loop.d * 100 * wn1)
  · have past := fits_tdiv product (show (0 : Int) < 500 by decide)
    have pastBounds := tdiv_bounds (s.getE10Val loop.d * 100 * wn1) (show (0 : Int) < 500 by decide)
    have room := fits_int.mp product
    rw [abs_le] at small
    have sum : Fits intHalf (wn + (s.getE10Val loop.d * 100 * wn1).tdiv 500) :=
      fits_int.mpr (by omega)
    rw [if_pos product, keeps.int _ product, int32_of_fits product, int32_of_fits sum]
    simp only [Option.bind_some, keeps.div _ _ (show (500 : Int) ≠ 0 by decide) past,
      keeps.int _ sum, keeps.div _ _ (show (500 : Int) ≠ 0 by decide)
        (fits_tdiv scaled (show (0 : Int) < 500 by decide)), keeps.int _ divisorFits]
    exact keeps.div _ _ (ne_of_gt divisor) (fits_tdiv sum divisor)
  · have refused : (noOverflow intHalf).int (s.getE10Val loop.d * 100 * wn1) = none :=
      if_neg product
    rw [if_neg product, refused]
    rfl

/-- What a call starts from. -/
structure Bounded (loop : PidLoop) (statics : PidStatics) (s : Incubator) : Prop where
  sum : loop.SumBounded s
  derivative : 0 ≤ s.getE10Val loop.d ∧ s.getE10Val loop.d ≤ 30
  vn1 : -10000 ≤ statics.vn1 ∧ statics.vn1 ≤ 20000

section

variable {statics : PidStatics}

theorem vn_range (loop : PidLoop) (pv sp : Int) (s : Incubator) :
    -10000 ≤ loop.xp pv sp s + (loop.xi (sp - pv) s).1 ∧
      loop.xp pv sp s + (loop.xi (sp - pv) s).1 ≤ 20000 := by
  have xp := loop.xp_range pv sp s
  have xi := loop.xi_range (sp - pv) s
  omega

/-- The static variables after a call. -/
theorem statics_range (bounded : loop.Bounded statics s) (apart : loop.Apart) (pv sp : Int) :
    (-10000 ≤ (loop.pid statics pv sp s).2.1.vn1 ∧ (loop.pid statics pv sp s).2.1.vn1 ≤ 20000) ∧
      |(loop.pid statics pv sp s).2.1.wn1| ≤ 1820000 := by
  have vn := loop.vn_range pv sp s
  refine ⟨vn, ?_⟩
  have derivative : (loop.summed pv sp s).getE10Val loop.d = s.getE10Val loop.d :=
    (loop.summed_within pv sp s).getE10Val (apart loop.d (by simp))
  have rise : |loop.xp pv sp s + (loop.xi (sp - pv) s).1 - statics.vn1| ≤ 30000 := by
    have := bounded.vn1
    rw [abs_le]
    omega
  have xd : |loop.xd (sp - pv) _ statics.vn1 (loop.summed pv sp s)| ≤ 1800000 :=
    xd_range (derivative.trans_le bounded.derivative.2) rise
  have result : (loop.pid statics pv sp s).2.1.wn1 = int32 (loop.xp pv sp s +
      (loop.xi (sp - pv) s).1 + loop.xd (sp - pv) (loop.xp pv sp s + (loop.xi (sp - pv) s).1)
        statics.vn1 (loop.summed pv sp s)) := by
    rw [pid_eq]
  rw [abs_le] at xd
  rw [result, int32_of_fits (fits_int.mpr (by omega)), abs_le]
  omega

/-- A call overflows exactly if the product of the filter does. -/
theorem pidWith_noOverflow (bounded : loop.Bounded statics s) (apart : loop.Apart)
    (words : Words pv sp) : loop.pidWith (noOverflow intHalf) statics pv sp s =
      if Fits intHalf (s.getE10Val loop.d * 100 * statics.wn1) then
        some (loop.pid statics pv sp s)
      else none := by
  have keeps := noOverflow_keeps intHalf
  have small := error_range words
  have vn := loop.vn_range pv sp s
  have error : Fits intHalf (sp - pv) := by
    rw [abs_le] at small
    exact fits_int.mpr (by omega)
  have derivative := summed_derivative apart pv sp s
  have divisor := divisor_summed apart pv sp s
  have rise : |loop.xp pv sp s + (loop.xi (sp - pv) s).1 - statics.vn1| ≤ 30000 := by
    have := bounded.vn1
    rw [abs_le]
    omega
  set result := loop.xp pv sp s + (loop.xi (sp - pv) s).1 with summing
  have xdEq : loop.xdWith (noOverflow intHalf) (sp - pv) result statics.vn1
      (loop.summed pv sp s) =
        some (loop.xd (sp - pv) result statics.vn1 (loop.summed pv sp s)) :=
    xdWith_eq keeps (derivative.trans_le bounded.derivative.2) rise
  have xd : |loop.xd (sp - pv) result statics.vn1 (loop.summed pv sp s)| ≤ 1800000 :=
    xd_range (derivative.trans_le bounded.derivative.2) rise
  rw [abs_le] at xd
  have wn : Fits intHalf (result + loop.xd (sp - pv) result statics.vn1 (loop.summed pv sp s)) :=
    fits_int.mpr (by omega)
  rw [pidWith, keeps.int _ error]
  simp only [Option.bind_eq_bind, Option.bind_some, xpWith_eq keeps,
    xiWith_eq keeps apart bounded.sum small, ← summing,
    keeps.int result (fits_int.mpr (by omega)),
    undoWith_eq keeps small (xi_sum apart bounded.sum small)]
  change ((loop.xdWith _ _ result statics.vn1 (loop.summed pv sp s)).bind _) = _
  rw [xdEq, Option.bind_some, keeps.int _ wn, Option.bind_some]
  change ((loop.filterWith _ _ statics.wn1 (loop.summed pv sp s)).bind _) = _
  rw [filterWith_noOverflow (by rw [derivative]; exact bounded.derivative)
    (by rw [abs_le]; omega), derivative, divisor]
  split
  · rw [Option.bind_some, pid_eq]
    simp only [← summing, int32_of_fits wn, derivative, divisor]
    rfl
  · rfl

end

end PidLoop

/-! ## The default parameters -/

/-- What `init_para` installs where nothing is set. -/
structure DefaultPid (s : Incubator) : Prop where
  tempP : s.getVal Reg.pTempP = 6
  tempI : s.getVal Reg.pTempI = 9990
  tempD : s.getVal Reg.pTempD = 100
  humP : s.getVal Reg.pHumP = 10
  humI : s.getVal Reg.pHumI = 9990
  humD : s.getVal Reg.pHumD = 300

def pidParameters : List Nat :=
  [Reg.pTempP, Reg.pTempI, Reg.pTempD, Reg.pHumP, Reg.pHumI, Reg.pHumD]

section

variable {s t : Incubator} {writes : List Nat}

theorem getX10Val_eq (s : Incubator) (i : Nat) : s.getX10Val i = short (s.getVal i * 10) := rfl

theorem DefaultPid.within (st : Within writes s t) (untouched : ∀ r ∈ pidParameters, r ∉ writes)
    (defaults : DefaultPid s) : DefaultPid t where
  tempP := (st.getVal (untouched _ (by decide))).trans defaults.tempP
  tempI := (st.getVal (untouched _ (by decide))).trans defaults.tempI
  tempD := (st.getVal (untouched _ (by decide))).trans defaults.tempD
  humP := (st.getVal (untouched _ (by decide))).trans defaults.humP
  humI := (st.getVal (untouched _ (by decide))).trans defaults.humI
  humD := (st.getVal (untouched _ (by decide))).trans defaults.humD

theorem DefaultPid.temp (defaults : DefaultPid s) :
    s.getX10Val tempLoop.p = 60 ∧ s.getE10Val tempLoop.i = 999 ∧ s.getE10Val tempLoop.d = 10 := by
  rw [getX10Val_eq, getE10Val_eq, getE10Val_eq, tempLoop, defaults.tempP, defaults.tempI,
    defaults.tempD]
  decide

theorem DefaultPid.humi (defaults : DefaultPid s) :
    s.getX10Val humiLoop.p = 100 ∧ s.getE10Val humiLoop.i = 999 ∧
      s.getE10Val humiLoop.d = 30 := by
  rw [getX10Val_eq, getE10Val_eq, getE10Val_eq, humiLoop, defaults.humP, defaults.humI,
    defaults.humD]
  decide

theorem DefaultPid.integrates (defaults : DefaultPid s) :
    tempLoop.Integrates s ∧ humiLoop.Integrates s := by
  obtain ⟨tempP, tempI, -⟩ := defaults.temp
  obtain ⟨humP, humI, -⟩ := defaults.humi
  exact ⟨⟨by omega, by omega, by omega⟩, by omega, by omega, by omega⟩

theorem PidLoop.SumBounded.within {loop : PidLoop} (st : Within writes s t)
    (untouched : ∀ r ∈ [loop.sum, loop.sum + 1, loop.i], r ∉ writes)
    (bounded : loop.SumBounded s) : loop.SumBounded t := by
  rw [PidLoop.SumBounded, st.getInt (untouched _ (by simp)) (untouched _ (by simp)),
    st.getE10Val (untouched _ (by simp))]
  exact bounded

end

/-! ## Events -/

/-- A call of a calculation with sixteen-bit arguments, or what clears its integral: leaving the
band of its control function. -/
inductive PidEvent where
  | temp (pv sp : Word)
  | humi (pv sp : Word)
  | leaveTemp (average : Int)
  | leaveHumi

def pidStep (s : Incubator) : PidEvent → Incubator
  | .temp pv sp => (pidCalc1 pv.toInt sp.toInt s).2
  | .humi pv sp => (pidCalc2 pv.toInt sp.toInt s).2
  | .leaveTemp average => leavePidRange average s
  | .leaveHumi => leaveHumiRange s

/-- No operation of the event overflows, and it gives what the calculation gives. -/
def PidEvent.Runs (s : Incubator) : PidEvent → Prop
  | .temp pv sp => pidCalc1With (noOverflow intHalf) pv.toInt sp.toInt s =
      some (pidCalc1 pv.toInt sp.toInt s)
  | .humi pv sp => pidCalc2With (noOverflow intHalf) pv.toInt sp.toInt s =
      some (pidCalc2 pv.toInt sp.toInt s)
  | .leaveTemp _ => True
  | .leaveHumi => True

/-- The unfiltered results are within the bounds of the comment. -/
structure PidSound (s : Incubator) (e : PidEvent) (t : Incubator) : Prop where
  runs : e.Runs s
  temp : |t.pidTemp.wn1| ≤ 1820000
  humi : |t.pidHumi.wn1| ≤ 1820000

/-- Inside the band the humidity calculation does not jump too far from the last one. -/
def HumiSettles (en : Int) (s : Incubator) : Prop :=
  |61 * bandResult 100 999 en (s.getInt Reg.pidHumiSum + en) - 60 * s.pidHumi.vn1| ≤ 715827

def PidEvent.Settles (s : Incubator) : PidEvent → Prop
  | .temp _ _ => True
  | .humi pv sp => |sp.toInt - pv.toInt| ≤ 50 → HumiSettles (sp.toInt - pv.toInt) s
  | .leaveTemp _ => True
  | .leaveHumi => True

/-- What every run from the start of the program reaches. -/
structure PidReached (s : Incubator) : Prop where
  defaults : DefaultPid s
  tempSum : tempLoop.SumBounded s
  humiSum : humiLoop.SumBounded s
  tempVn : -10000 ≤ s.pidTemp.vn1 ∧ s.pidTemp.vn1 ≤ 20000
  humiVn : -10000 ≤ s.pidHumi.vn1 ∧ s.pidHumi.vn1 ≤ 20000
  tempWn : |s.pidTemp.wn1| ≤ 1820000
  humiWn : |s.pidHumi.wn1| ≤ 1820000

section

variable {s t : Incubator}

theorem PidReached.temp (reached : PidReached s) : tempLoop.Bounded s.pidTemp s where
  sum := reached.tempSum
  derivative := by
    have parameter := reached.defaults.temp.2.2
    omega
  vn1 := reached.tempVn

theorem PidReached.humi (reached : PidReached s) : humiLoop.Bounded s.pidHumi s where
  sum := reached.humiSum
  derivative := by
    have parameter := reached.defaults.humi.2.2
    omega
  vn1 := reached.humiVn

/-- The temperature calculation never overflows. -/
theorem temp_runs (reached : PidReached s) (pv sp : Word) : (PidEvent.temp pv sp).Runs s := by
  have words := PidLoop.words_toInt pv sp
  have product : Fits intHalf (s.getE10Val tempLoop.d * 100 * s.pidTemp.wn1) := by
    have small := abs_le.mp reached.tempWn
    rw [reached.defaults.temp.2.2]
    exact fits_int.mpr (by omega)
  rw [PidEvent.Runs, pidCalc1With, PidLoop.pidWith_noOverflow reached.temp PidLoop.tempLoop_apart
    words, if_pos product]
  simp only [Option.bind_eq_bind, Option.bind_some,
    PidLoop.limitWith_eq (noOverflow_keeps intHalf)]
  rfl

/-- The humidity calculation overflows exactly after a result that is too large. -/
theorem humi_runs_iff (reached : PidReached s) (pv sp : Word) :
    (PidEvent.humi pv sp).Runs s ↔ |s.pidHumi.wn1| ≤ 715827 := by
  have words := PidLoop.words_toInt pv sp
  have product : Fits intHalf (s.getE10Val humiLoop.d * 100 * s.pidHumi.wn1) ↔
      |s.pidHumi.wn1| ≤ 715827 := by
    rw [reached.defaults.humi.2.2, fits_int, abs_le]
    omega
  rw [PidEvent.Runs, pidCalc2With, PidLoop.pidWith_noOverflow reached.humi PidLoop.humiLoop_apart
    words]
  by_cases fits : Fits intHalf (s.getE10Val humiLoop.d * 100 * s.pidHumi.wn1)
  · have keeps := noOverflow_keeps intHalf
    have range := humiLoop.pid_result_range s.pidHumi pv.toInt sp.toInt s
    rw [if_pos fits]
    simp only [Option.bind_eq_bind, Option.bind_some, PidLoop.limitWith_eq keeps]
    rw [keeps.int _ (fits_int.mpr (by omega)), Option.bind_some,
      keeps.int _ (fits_int.mpr (by omega))]
    exact iff_of_true rfl (product.mp fits)
  · rw [if_neg fits]
    refine iff_of_false (fun same => ?_) fun small => fits (product.mpr small)
    cases same

/-- The registers of a calculation leave the static variables alone. -/
theorem PidLoop.summed_statics (loop : PidLoop) (pv sp : Int) (s : Incubator) :
    (loop.summed pv sp s).pidTemp = s.pidTemp ∧ (loop.summed pv sp s).pidHumi = s.pidHumi := by
  have stored (v : Int) (t : Incubator) :
      (setInt loop.sum v t).pidTemp = t.pidTemp ∧ (setInt loop.sum v t).pidHumi = t.pidHumi :=
    ⟨rfl, rfl⟩
  have integral : (loop.xi (sp - pv) s).2.pidTemp = s.pidTemp ∧
      (loop.xi (sp - pv) s).2.pidHumi = s.pidHumi := by
    rw [xi]
    split
    · exact stored _ s
    · exact stored _ s
  rw [summed]
  split
  · exact ⟨(stored _ _).1.trans integral.1, (stored _ _).2.trans integral.2⟩
  · exact integral

theorem temp_reached (reached : PidReached s) (pv sp : Word) :
    PidReached (pidStep s (.temp pv sp)) := by
  have words := PidLoop.words_toInt pv sp
  have summed := tempLoop.summed_within pv.toInt sp.toInt s
  have sum := PidLoop.summed_bounded PidLoop.tempLoop_apart reached.defaults.integrates.1
    reached.tempSum words
  have after := PidLoop.statics_range reached.temp PidLoop.tempLoop_apart pv.toInt sp.toInt
  have other := (tempLoop.summed_statics pv.toInt sp.toInt s).2
  rw [pidStep, pidCalc1_state]
  generalize tempLoop.summed pv.toInt sp.toInt s = u at summed sum other
  generalize (tempLoop.pid s.pidTemp pv.toInt sp.toInt s).2.1 = statics at after
  have within : Within [tempLoop.sum, tempLoop.sum + 1] s { u with pidTemp := statics } :=
    within_statics.mpr summed
  refine ⟨reached.defaults.within within (by decide), sum,
    reached.humiSum.within within (by decide), after.1, ?_, after.2, ?_⟩
  · rw [other]
    exact reached.humiVn
  · rw [other]
    exact reached.humiWn

theorem humi_reached (reached : PidReached s) (pv sp : Word) :
    PidReached (pidStep s (.humi pv sp)) := by
  have words := PidLoop.words_toInt pv sp
  have summed := humiLoop.summed_within pv.toInt sp.toInt s
  have sum := PidLoop.summed_bounded PidLoop.humiLoop_apart reached.defaults.integrates.2
    reached.humiSum words
  have after := PidLoop.statics_range reached.humi PidLoop.humiLoop_apart pv.toInt sp.toInt
  have other := (humiLoop.summed_statics pv.toInt sp.toInt s).1
  rw [pidStep, pidCalc2_state]
  generalize humiLoop.summed pv.toInt sp.toInt s = u at summed sum other
  generalize (humiLoop.pid s.pidHumi pv.toInt sp.toInt s).2.1 = statics at after
  have within : Within [humiLoop.sum, humiLoop.sum + 1] s { u with pidHumi := statics } :=
    within_statics.mpr summed
  refine ⟨reached.defaults.within within (by decide), reached.tempSum.within within (by decide),
    sum, ?_, after.1, ?_, after.2⟩
  · rw [other]
    exact reached.tempVn
  · rw [other]
    exact reached.tempWn

/-- A sum of zero is within its bound. -/
theorem PidLoop.sumBounded_zero {loop : PidLoop} (integrates : loop.Integrates s)
    (zero : s.getInt loop.sum = 0) : loop.SumBounded s := by
  have := integrates.integral
  rw [PidLoop.SumBounded, zero, abs_zero]
  omega

theorem leavePidRange_sum (average : Int) (s : Incubator) :
    (leavePidRange average s).getInt Reg.pidTempSum = 0 := by
  have rest : Within (List.range' Reg.filterPidTempArr 20 ++ [Reg.pidPeriodCountMainHeater,
      Reg.pidPeriodCountMainHeater + 1, Reg.pidTempModeStatus]) (setTime Reg.pidTempSum 0 s)
        (leavePidRange average s) := by
    simp (disch := decide) only [leavePidRange, within_fillFilter, within_setVal, within_setTime,
      Within.refl]
  rw [rest.getInt (by decide) (by decide), setTime_eq, getInt_setInt_self]
  rfl

theorem leaveHumiRange_sum (s : Incubator) :
    (leaveHumiRange s).getInt Reg.pidHumiSum = 0 := by
  have rest : Within [Reg.pidPeriodCountHumi, Reg.pidPeriodCountHumi + 1]
      (setInt Reg.pidHumiSum 0 s) (leaveHumiRange s) := by
    simp (disch := decide) only [leaveHumiRange, within_setInt, Within.refl]
  rw [rest.getInt (by decide) (by decide), getInt_setInt_self]
  rfl

theorem fillFilter_statics (v : Int) (count : Nat) (s : Incubator) :
    (fillFilter v count s).pidTemp = s.pidTemp ∧ (fillFilter v count s).pidHumi = s.pidHumi := by
  induction count with
  | zero => exact ⟨rfl, rfl⟩
  | succ count ih => exact ih

theorem leaveTemp_reached (reached : PidReached s) (average : Int) :
    PidReached (pidStep s (.leaveTemp average)) := by
  have within := leavePidRange_within average s
  have defaults := reached.defaults.within within (by decide)
  have statics : (leavePidRange average s).pidTemp = s.pidTemp ∧
      (leavePidRange average s).pidHumi = s.pidHumi := fillFilter_statics average 10 _
  rw [pidStep]
  refine ⟨defaults, ?_, ?_, ?_, ?_, ?_, ?_⟩
  · exact PidLoop.sumBounded_zero defaults.integrates.1 (leavePidRange_sum average s)
  · exact reached.humiSum.within within (by decide)
  · rw [statics.1]
    exact reached.tempVn
  · rw [statics.2]
    exact reached.humiVn
  · rw [statics.1]
    exact reached.tempWn
  · rw [statics.2]
    exact reached.humiWn

theorem leaveHumi_reached (reached : PidReached s) : PidReached (pidStep s .leaveHumi) := by
  have within : Within [Reg.pidHumiSum, Reg.pidHumiSum + 1, Reg.pidPeriodCountHumi,
      Reg.pidPeriodCountHumi + 1] s (leaveHumiRange s) := by
    simp (disch := decide) only [leaveHumiRange, within_setInt, Within.refl]
  have defaults := reached.defaults.within within (by decide)
  refine ⟨defaults, ?_, ?_, reached.tempVn, reached.humiVn, reached.tempWn, reached.humiWn⟩
  · exact reached.tempSum.within within (by decide)
  · exact PidLoop.sumBounded_zero defaults.integrates.2 (leaveHumiRange_sum s)

theorem pidStep_reached (reached : PidReached s) (e : PidEvent) : PidReached (pidStep s e) := by
  cases e with
  | temp pv sp => exact temp_reached reached pv sp
  | humi pv sp => exact humi_reached reached pv sp
  | leaveTemp average => exact leaveTemp_reached reached average
  | leaveHumi => exact leaveHumi_reached reached

/-! ## The result that the filter keeps -/

theorem inBand_humi (defaults : DefaultPid s) (en : Int) : humiLoop.InBand en s ↔ |en| ≤ 50 := by
  rw [PidLoop.InBand, defaults.humi.1]
  rfl

/-- The result of the proportional and the integral part. -/
theorem humi_vn (reached : PidReached s) (pv sp : Word) :
    humiLoop.xp pv.toInt sp.toInt s + (humiLoop.xi (sp.toInt - pv.toInt) s).1 =
      if |sp.toInt - pv.toInt| ≤ 50 then
        bandResult 100 999 (sp.toInt - pv.toInt)
          (s.getInt Reg.pidHumiSum + (sp.toInt - pv.toInt))
      else humiLoop.xp pv.toInt sp.toInt s := by
  have words := PidLoop.words_toInt pv sp
  obtain ⟨band, integral, -⟩ := reached.defaults.humi
  by_cases inside : |sp.toInt - pv.toInt| ≤ 50
  · have within := (inBand_humi reached.defaults (sp.toInt - pv.toInt)).mpr inside
    rw [if_pos inside, PidLoop.xp_inside (by omega) within,
      PidLoop.xi_inside PidLoop.humiLoop_apart ⟨by omega, within⟩
        (reached.humiSum.fits (PidLoop.error_range words)), band, integral]
    rfl
  · have outside := fun within => inside ((inBand_humi reached.defaults _).mp within)
    have none : humiLoop.xi (sp.toInt - pv.toInt) s = (0, setInt humiLoop.sum 0 s) :=
      if_neg fun enabled => outside enabled.2
    rw [if_neg inside, none, add_zero]

/-- The unfiltered result of the humidity calculation, inside and outside the band. -/
theorem humi_result (reached : PidReached s) (pv sp : Word) :
    (pidStep s (.humi pv sp)).pidHumi.wn1 =
      if |sp.toInt - pv.toInt| ≤ 50 then
        61 * bandResult 100 999 (sp.toInt - pv.toInt)
          (s.getInt Reg.pidHumiSum + (sp.toInt - pv.toInt)) - 60 * s.pidHumi.vn1
      else humiLoop.xp pv.toInt sp.toInt s := by
  have vn := humi_vn reached pv sp
  have range := humiLoop.vn_range pv.toInt sp.toInt s
  have last := reached.humiVn
  have summed := humiLoop.summed_within pv.toInt sp.toInt s
  have derivative : (humiLoop.summed pv.toInt sp.toInt s).getE10Val humiLoop.d = 30 :=
    (summed.getE10Val (by decide)).trans reached.defaults.humi.2.2
  have band : humiLoop.InBand (sp.toInt - pv.toInt) (humiLoop.summed pv.toInt sp.toInt s) ↔
      |sp.toInt - pv.toInt| ≤ 50 :=
    inBand_humi (reached.defaults.within summed (by decide)) _
  rw [pidStep, pidCalc2_state]
  simp only [PidLoop.pid_eq]
  rw [PidLoop.xd, derivative, vn]
  rw [vn] at range
  by_cases inside : |sp.toInt - pv.toInt| ≤ 50
  · rw [if_pos inside] at range
    rw [if_pos inside, if_pos inside, if_pos ⟨by decide, band.mpr inside⟩]
    generalize bandResult 100 999 _ _ = result at range ⊢
    have xd : int32 (2 * 30 * (result - s.pidHumi.vn1)) = 2 * 30 * (result - s.pidHumi.vn1) :=
      int32_of_fits (fits_int.mpr (by omega))
    rw [xd, int32_of_fits (fits_int.mpr (by omega))]
    omega
  · rw [if_neg inside] at range
    rw [if_neg inside, if_neg inside, if_neg fun enabled => inside (band.mp enabled.2), add_zero,
      int32_of_fits (fits_int.mpr (by omega))]

/-- The next humidity calculation goes through exactly if this one settles. -/
theorem humi_settles_iff (reached : PidReached s) (pv sp : Word) :
    |(pidStep s (.humi pv sp)).pidHumi.wn1| ≤ 715827 ↔ (PidEvent.humi pv sp).Settles s := by
  rw [humi_result reached, PidEvent.Settles]
  by_cases inside : |sp.toInt - pv.toInt| ≤ 50
  · rw [if_pos inside, forall_prop_of_true inside, HumiSettles]
  · have xp := humiLoop.xp_range pv.toInt sp.toInt s
    rw [if_neg inside]
    refine iff_of_true ?_ fun within => absurd within inside
    rw [abs_le]
    omega

theorem pidSound_iff (reached : PidReached s) (e : PidEvent) :
    PidSound s e (pidStep s e) ↔ e.Runs s := by
  have after := pidStep_reached reached e
  exact ⟨fun sound => sound.runs, fun runs => ⟨runs, after.tempWn, after.humiWn⟩⟩

/-- A run can be followed by a humidity calculation exactly if all that came before settled. -/
theorem pidSound_append (reached : PidReached s) (es : List PidEvent) (pv sp : Word) :
    Along pidStep PidSound s (es ++ [.humi pv sp]) ↔
      |s.pidHumi.wn1| ≤ 715827 ∧ Along pidStep (fun s e _ => e.Settles s) s es := by
  induction es generalizing s with
  | nil =>
      rw [List.nil_append, along_cons, pidSound_iff reached, humi_runs_iff reached]
      simp only [along_nil]
  | cons e es ih =>
      rw [List.cons_append, along_cons, along_cons, pidSound_iff reached,
        ih (pidStep_reached reached e)]
      cases e with
      | temp pv sp =>
          have other : (pidStep s (.temp pv sp)).pidHumi = s.pidHumi := by
            rw [pidStep, pidCalc1_state]
            exact (tempLoop.summed_statics pv.toInt sp.toInt s).2
          rw [other, and_iff_right (temp_runs reached pv sp)]
          exact and_congr_right fun _ => (and_iff_right trivial).symm
      | humi pv sp =>
          rw [humi_runs_iff reached, humi_settles_iff reached]
      | leaveTemp average =>
          have other : (pidStep s (.leaveTemp average)).pidHumi = s.pidHumi :=
            (fillFilter_statics average 10 _).2
          rw [other, PidEvent.Runs, true_and, PidEvent.Settles, true_and]
      | leaveHumi => rw [PidEvent.Runs, true_and, PidEvent.Settles, true_and]; rfl

/-- The start of the program: no calculation was made, and the sums are within their bounds. -/
structure PidStart (s : Incubator) : Prop where
  defaults : DefaultPid s
  tempSum : tempLoop.SumBounded s
  humiSum : humiLoop.SumBounded s
  temp : s.pidTemp = ⟨0, 0⟩
  humi : s.pidHumi = ⟨0, 0⟩

theorem PidStart.reached (start : PidStart s) : PidReached s := by
  obtain ⟨defaults, tempSum, humiSum, temp, humi⟩ := start
  refine ⟨defaults, tempSum, humiSum, ?_, ?_, ?_, ?_⟩
  · rw [temp]
    decide
  · rw [humi]
    decide
  · rw [temp]
    decide
  · rw [humi]
    decide

end

/-- From the start of the program, a run whose humidity calculations all settle never overflows and
keeps the unfiltered results within their bounds. After one that does not settle, the next humidity
calculation overflows whatever its arguments are. -/
theorem pidOverflow_iff (s : Incubator) (start : PidStart s) (es : List PidEvent) :
    (Along pidStep (fun s e _ => e.Settles s) s es → Along pidStep PidSound s es) ∧
      ∀ pv sp, (Along pidStep PidSound s (es ++ [.humi pv sp]) ↔
        Along pidStep (fun s e _ => e.Settles s) s es) := by
  have first : |s.pidHumi.wn1| ≤ 715827 := by
    rw [start.humi]
    decide
  refine ⟨fun settles => ?_, fun pv sp => ?_⟩
  · have sound := (pidSound_append start.reached es 0 0).mpr ⟨first, settles⟩
    exact ((along_append _ _ _ _ _).mp sound).1
  · rw [pidSound_append start.reached, and_iff_right first]

/-! ## A jump -/

def defaultStart : Incubator :=
  cleared |> setVal Reg.pTempP 6 |> setVal Reg.pTempI 9990 |> setVal Reg.pTempD 100
    |> setVal Reg.pHumP 10 |> setVal Reg.pHumI 9990 |> setVal Reg.pHumD 300

theorem defaultStart_defaults : DefaultPid defaultStart :=
  ⟨by decide +kernel, by decide +kernel, by decide +kernel, by decide +kernel,
    by decide +kernel, by decide +kernel⟩

theorem defaultStart_start : PidStart defaultStart where
  defaults := defaultStart_defaults
  tempSum := PidLoop.sumBounded_zero defaultStart_defaults.integrates.1 (by decide +kernel)
  humiSum := PidLoop.sumBounded_zero defaultStart_defaults.integrates.2 (by decide +kernel)
  temp := rfl
  humi := rfl

theorem pidOverflow_iff_default :
    Along pidStep PidSound defaultStart [.humi 0 50, .temp 0 10, .leaveHumi] := by
  have first : HumiSettles 50 defaultStart := by
    rw [HumiSettles]
    decide +kernel
  have settles : Along pidStep (fun s e _ => e.Settles s) defaultStart
      [.humi 0 50, .temp 0 10, .leaveHumi] :=
    ⟨fun _ => first, trivial, trivial, trivial⟩
  exact (pidOverflow_iff defaultStart defaultStart_start _).1 settles

/-- The humidity was fifty below its set point in a number of calls. -/
structure Dry (calls : Nat) (s : Incubator) : Prop where
  reached : PidReached s
  sum : s.getInt Reg.pidHumiSum = 50 * calls
  vn1 : 0 < calls → s.pidHumi.vn1 = 10000 + (2500 * calls : Int).tdiv 999

/-- The integral part grows by two and a half with each call. -/
theorem dry_result {calls : Nat} (few : calls < 1000) :
    bandResult 100 999 50 (50 * calls + 50) = 10000 + (2500 * (calls + 1 : Nat) : Int).tdiv 999 ∧
      10000 + (2500 * (calls + 1 : Nat) : Int).tdiv 999 ≤ 15000 := by
  have product : 50 * (50 * calls + 50 : Int) = 2500 * (calls + 1 : Nat) := by
    push_cast
    ring
  have quotient := tdiv_bounds (2500 * (calls + 1 : Nat) : Int) (show (0 : Int) < 999 by decide)
  have nonneg := Int.tdiv_nonneg (show (0 : Int) ≤ 2500 * (calls + 1 : Nat) by omega)
    (show (0 : Int) ≤ 999 by decide)
  have xp : clamp 0 10000 ((10000 * 50 : Int).tdiv 100 + 5000) = 10000 := by decide
  refine ⟨?_, by omega⟩
  rw [bandResult, xp, product, clamp_of_range (by omega) (by omega)]

theorem Dry.next {calls : Nat} {s : Incubator} (dry : Dry calls s) (few : calls < 1000) :
    Dry (calls + 1) (pidStep s (.humi 0 50)) := by
  obtain ⟨result, limit⟩ := dry_result few
  obtain ⟨band, integral, -⟩ := dry.reached.defaults.humi
  have words := PidLoop.words_toInt 0 50
  have error : (50 : Word).toInt - (0 : Word).toInt = 50 := by decide
  refine ⟨humi_reached dry.reached 0 50, ?_, fun _ => ?_⟩
  · have inside : humiLoop.InBand ((50 : Word).toInt - (0 : Word).toInt) s :=
      (inBand_humi dry.reached.defaults _).mpr (by decide)
    have nonneg := Int.tdiv_nonneg (show (0 : Int) ≤ 2500 * (calls + 1 : Nat) by omega)
      (show (0 : Int) ≤ 999 by decide)
    have sum := PidLoop.summed_inside PidLoop.humiLoop_apart dry.reached.defaults.integrates.2
      dry.reached.humiSum words inside
    have before : s.getInt humiLoop.sum = 50 * calls := dry.sum
    rw [error, band, integral, before, result, if_neg (by omega)] at sum
    calc (pidStep s (.humi 0 50)).getInt Reg.pidHumiSum = 50 * calls + 50 := by
          rw [pidStep, pidCalc2_state]
          generalize humiLoop.summed (0 : Word).toInt (50 : Word).toInt s = u at sum ⊢
          exact sum
      _ = 50 * (calls + 1 : Nat) := by
          push_cast
          ring
  · have vn := humi_vn dry.reached 0 50
    rw [error, if_pos (by decide), dry.sum, result] at vn
    rw [pidStep, pidCalc2_state]
    exact (humiLoop.pid_vn1 _ _ _ _).trans (by rw [error]; exact vn)

theorem dry_run (calls : Nat) (few : calls ≤ 1000) :
    Dry calls (run pidStep defaultStart (List.replicate calls (.humi 0 50))) := by
  induction calls with
  | zero =>
      refine ⟨defaultStart_start.reached, by decide +kernel, fun none => ?_⟩
      exact absurd none (by decide)
  | succ calls ih =>
      rw [List.replicate_succ', run_append, run_cons, run_nil]
      exact (ih (by omega)).next (by omega)

/-- A cleared sum and a humidity above the set point. -/
theorem Dry.jumps {s : Incubator} (dry : Dry 800 s) :
    ¬(PidEvent.humi 50 0).Settles (pidStep s .leaveHumi) := by
  intro settles
  have result : bandResult 100 999 (-50) (-50) = -2 := by decide
  have error : (0 : Word).toInt - (50 : Word).toInt = -50 := by decide
  have last : (leaveHumiRange s).pidHumi.vn1 = 12002 := dry.vn1 (by decide)
  have jump := settles (by decide)
  rw [HumiSettles, pidStep, leaveHumiRange_sum, error, zero_add, result, last] at jump
  exact absurd jump (by decide)

/-- After eight hundred calls below the set point the integral is cleared, and the humidity is
above the set point in the next two. -/
theorem pid_overflows : ¬∀ s, PidStart s → ∀ es, Along pidStep PidSound s es := by
  intro sound
  have jump := sound defaultStart defaultStart_start
    (List.replicate 800 (.humi 0 50) ++ [.leaveHumi, .humi 50 0] ++ [.humi 50 0])
  have settles := ((pidSound_append defaultStart_start.reached _ 50 0).mp jump).2
  rw [along_append] at settles
  obtain ⟨-, -, last, -⟩ := settles
  exact (dry_run 800 (by decide)).jumps last

end Jincubator
