import Jincubator.Define
import Jincubator.Registers

/-! # Set points

While the incubator runs, each set point follows a table of thirty rows of a
time (day and hour in one number) and a value; the row in force is the first one
whose time has come and whose successor's has not. Preheating takes one value
for each set point instead. The temperature table is also searched for the lower
bound of four of the other tables.
-/

namespace Jincubator

open Incubator

/-- `SET_PARA_DAY` -/
def setParaDay : Nat := 30

/-- The row is in force at the time `now`. -/
def RowInForce (headDay day : Nat) (now : Int) (s : Incubator) (index : Nat) : Prop :=
  let head := if index > 0 then s.getUval (headDay + (index - 1) * 2) else 0
  let next := s.getUval (day + (index + 1) * 2)
  now ≥ head ∧ now ≥ s.getUval (day + index * 2) ∧
    (index < setParaDay - 1 → now < next ∨ next ≤ 0)

instance (headDay day : Nat) (now : Int) (s : Incubator) (index : Nat) :
    Decidable (RowInForce headDay day now s index) :=
  inferInstanceAs (Decidable (_ ∧ _ ∧ (_ → _)))

/-- The loop over a table stops at the first row in force. -/
def updateRow (headDay day : Nat) (now : Int) (value : Nat → Incubator → Int) (setting : Nat)
    (s : Incubator) : Incubator :=
  match (List.range setParaDay).find? (fun index => RowInForce headDay day now s index) with
  | some index => setUval setting (value index s) s
  | none => s

/-- The temperature loop takes the first row's value for as long as its time has not come. -/
def updateTempRow (now : Int) : List Nat → Incubator → Incubator
  | [], s => s
  | index :: rest, s =>
      if index < setParaDay - 1 ∧ now < s.getUval Reg.pSetTpMainDay then
        s |> setUval Reg.pAoTpMain (s.getVal Reg.pSetTpMainVal) |> updateTempRow now rest
      else if RowInForce Reg.pSetTpMainDay Reg.pSetTpMainDay now s index then
        setUval Reg.pAoTpMain (s.getVal (Reg.pSetTpMainVal + index * 2)) s
      else updateTempRow now rest s

/-- A table of values. -/
def tableValue (table index : Nat) (s : Incubator) : Int := s.getVal (table + index * 2)

/-- Return-water tables hold differences from the main temperature. -/
def refluxValue (table index : Nat) (s : Incubator) : Int :=
  short (s.getVal Reg.pAoTpMain + s.getVal (table + index * 2))

def initSetPara (s : Incubator) : Incubator :=
  let s := s |> setUval Reg.pAoTpMain (s.getUval Reg.pSetTpMainVal)
    |> setUval Reg.pAoHm (s.getUval Reg.pSetHmVal)
    |> setUval Reg.pAoCo (s.getUval Reg.pSetCoVal)
    |> setUval Reg.pAoAd (s.getUval Reg.pSetAdVal)
  s |> setUval Reg.pAoTpRf1 (s.getUval Reg.pAoTpMain + s.getUval Reg.pSetTpRf1Val)
    |> setUval Reg.pAoTpRf2 (s.getUval Reg.pAoTpMain + s.getUval Reg.pSetTpRf2Val)
    |> setUval Reg.pAoTpRf3 (s.getUval Reg.pAoTpMain + s.getUval Reg.pSetTpRf3Val)
    |> setUval Reg.pAoTpRf4 (s.getUval Reg.pAoTpMain + s.getUval Reg.pSetTpRf4Val)

def updateSetPara (s : Incubator) : Incubator :=
  let now := s.getUval Reg.rRunDay
  s |> initSetPara
    |> updateTempRow now (List.range setParaDay)
    |> updateRow Reg.pSetTpMainDay Reg.pSetHmDay now (tableValue Reg.pSetHmVal) Reg.pAoHm
    |> updateRow Reg.pSetTpMainDay Reg.pSetCoDay now (tableValue Reg.pSetCoVal) Reg.pAoCo
    |> updateRow Reg.pSetTpMainDay Reg.pSetAdDay now (tableValue Reg.pSetAdVal) Reg.pAoAd
    |> updateRow Reg.pSetTpMainDay Reg.pSetTpRf1Day now (refluxValue Reg.pSetTpRf1Val)
      Reg.pAoTpRf1
    |> updateRow Reg.pSetTpMainDay Reg.pSetTpRf2Day now (refluxValue Reg.pSetTpRf2Val)
      Reg.pAoTpRf2
    |> updateRow Reg.pSetTpRf3Day Reg.pSetTpRf3Day now (refluxValue Reg.pSetTpRf3Val)
      Reg.pAoTpRf3
    |> updateRow Reg.pSetTpRf4Day Reg.pSetTpRf4Day now (refluxValue Reg.pSetTpRf4Val)
      Reg.pAoTpRf4

/-- A return-water set point of the preheating. -/
def preReflux (setting table : Nat) (s : Incubator) : Incubator :=
  setUval setting (short (s.getVal Reg.pAoTpMain + s.getVal table)) s

def preheatSetPara (s : Incubator) : Incubator :=
  let s := s |> setUval Reg.pAoTpMain 0 |> setUval Reg.pAoHm 0 |> setUval Reg.pAoCo 0
    |> setUval Reg.pAoAd 0 |> setUval Reg.pAoTpRf1 0 |> setUval Reg.pAoTpRf2 0
    |> setUval Reg.pAoTpRf3 0 |> setUval Reg.pAoTpRf4 0
  s |> setUval Reg.pAoTpMain (s.getVal Reg.pPreTpMain)
    |> setUval Reg.pAoHm (s.getVal Reg.pPreHm)
    |> setUval Reg.pAoCo (s.getVal Reg.pPreCo)
    |> setUval Reg.pAoAd (s.getVal Reg.pPreAd)
    |> preReflux Reg.pAoTpRf1 Reg.pPreTpRf1
    |> preReflux Reg.pAoTpRf2 Reg.pPreTpRf2
    |> preReflux Reg.pAoTpRf3 Reg.pPreTpRf3
    |> preReflux Reg.pAoTpRf4 Reg.pPreTpRf4

/-! ## Footprints -/

/-- The set points. -/
def setPoints : List Nat := List.range' Reg.pAoTpMain 8

section

variable {writes : List Nat} {s t : Incubator}

theorem within_updateRow {headDay day setting : Nat} {now : Int} {value : Nat → Incubator → Int}
    (allowed : setting ∈ writes) :
    Within writes s (updateRow headDay day now value setting t) ↔ Within writes s t := by
  rw [updateRow]
  split
  · exact within_setUval allowed
  · rfl

theorem within_updateTempRow {now : Int} {rows : List Nat} (allowed : Reg.pAoTpMain ∈ writes) :
    Within writes s (updateTempRow now rows t) ↔ Within writes s t := by
  induction rows generalizing t with
  | nil => rfl
  | cons index rest ih =>
      simp only [updateTempRow, within_ite, ih, within_setUval allowed, ite_self]

theorem updateSetPara_within (s : Incubator) : Within setPoints s (updateSetPara s) := by
  simp (disch := decide) only [updateSetPara, initSetPara, within_updateRow, within_updateTempRow,
    within_setUval, Within.refl]

theorem preheatSetPara_within (s : Incubator) : Within setPoints s (preheatSetPara s) := by
  simp (disch := decide) only [preheatSetPara, preReflux, within_setUval, Within.refl]

@[simp] theorem within_updateSetPara (allowed : setPoints ⊆ writes) :
    Within writes s (updateSetPara t) ↔ Within writes s t :=
  (updateSetPara_within t).skip allowed

@[simp] theorem within_preheatSetPara (allowed : setPoints ⊆ writes) :
    Within writes s (preheatSetPara t) ↔ Within writes s t :=
  (preheatSetPara_within t).skip allowed

end

end Jincubator
