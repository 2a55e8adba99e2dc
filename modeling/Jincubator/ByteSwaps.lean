import Jincubator.ByteOrder
import Jincubator.Library.Groups
import Mathlib.Data.Fin.VecNotation

/-! # Byte orders of a buffer

The converters of `jlib.cpp` work in place on the bytes behind an address, one group
after the other. A converter is named after the bytes its groups hold afterwards.
-/

namespace Jincubator

namespace Buffer

open Groups

/-! ## The converters -/

abbrev Memory := Nat → Byte

/-- `*(uc_addr + i) ^= *(uc_addr + j)` -/
def xorAssign (i j : Nat) (mem : Memory) : Memory :=
  Function.update mem i (mem i ^^^ mem j)

/-- Three exclusive-or assignments. -/
def exchange (i j : Nat) (mem : Memory) : Memory :=
  mem |> xorAssign i j |> xorAssign j i |> xorAssign i j

/-- The returned pointer, `none` for the null pointer, and the memory. -/
@[ext] structure Converted where
  addr : Option Nat
  memory : Memory

abbrev Converter := Nat → Int → Memory → Converted

/-- The exchanges of the group that starts at `count`. -/
def exchangeGroup {size : Nat} (pairs : List (Fin size × Fin size)) (count : Nat)
    (mem : Memory) : Memory :=
  pairs.foldl (fun mem pair => exchange (count + pair.1) (count + pair.2) mem) mem

/-- A length that is not a positive multiple of the size of a group is refused. -/
def convert (size : Nat) (pairs : List (Fin size × Fin size)) : Converter := fun buf len mem =>
  if len.tmod size ≠ 0 ∨ len ≤ 0 then ⟨none, mem⟩
  else ⟨some buf, eachGroup size (exchangeGroup pairs) (len.tdiv size).toNat buf mem⟩

abbrev A {n : Nat} : Fin (n + 2) := 0

abbrev B {n : Nat} : Fin (n + 2) := 1

abbrev C {n : Nat} : Fin (n + 4) := 2

abbrev D {n : Nat} : Fin (n + 4) := 3

def ba : Converter := convert 2 [(A, B)]

def abdc : Converter := convert 4 [(C, D)]

def bacd : Converter := convert 4 [(A, B)]

def badc : Converter := convert 4 [(A, B), (C, D)]

def cdab : Converter := convert 4 [(A, C), (B, D)]

def cdba : Converter := convert 4 [(A, C), (B, D), (C, D)]

def dcab : Converter := convert 4 [(A, D), (B, C), (C, D)]

def dcba : Converter := convert 4 [(A, D), (B, C)]

/-! ## What they have in common -/

theorem exchange_eq {i j : Nat} (different : i ≠ j) (mem : Memory) :
    exchange i j mem = mem ∘ Equiv.swap i j := by
  have swapped := xorSwap_eq (mem i) (mem j)
  funext k
  rw [Function.comp_apply]
  by_cases first : k = i
  · have value : (mem i ^^^ mem j) ^^^ (mem j ^^^ (mem i ^^^ mem j)) = mem j :=
      congrArg Prod.fst swapped
    rw [first, Equiv.swap_apply_left]
    simp only [exchange, xorAssign, Function.update_self, Function.update_of_ne different,
      Function.update_of_ne different.symm, value]
  · by_cases second : k = j
    · have value : mem j ^^^ (mem i ^^^ mem j) = mem i := congrArg Prod.snd swapped
      rw [second, Equiv.swap_apply_right]
      simp only [exchange, xorAssign, Function.update_self, Function.update_of_ne different,
        Function.update_of_ne different.symm, value]
    · rw [Equiv.swap_apply_of_ne_of_ne first second]
      simp only [exchange, xorAssign, Function.update_of_ne first, Function.update_of_ne second]

section

variable {size : Nat} {pairs before after : List (Fin size × Fin size)} {len : Int}

/-- The pairs of places are two places each. -/
def Apart (pairs : List (Fin size × Fin size)) : Prop := ∀ pair ∈ pairs, pair.1 ≠ pair.2

instance (pairs : List (Fin size × Fin size)) : Decidable (Apart pairs) :=
  inferInstanceAs (Decidable (∀ _ ∈ pairs, _))

theorem exchangeGroup_eq (apart : Apart pairs) (count : Nat) (mem : Memory) :
    exchangeGroup pairs count mem = exchanges pairs count mem := by
  refine List.foldl_ext _ _ mem ?_
  intro mem pair mem_pairs
  refine exchange_eq ?_ mem
  intro same
  exact apart pair mem_pairs (Fin.ext (Nat.add_left_cancel same))

/-- A positive multiple of the size of a group. -/
def Accepted (size : Nat) (len : Int) : Prop := 0 < len ∧ (size : Int) ∣ len

theorem accepted_iff : Accepted size len ↔ ¬(len.tmod size ≠ 0 ∨ len ≤ 0) := by
  rw [Accepted, Int.dvd_iff_tmod_eq_zero]
  omega

theorem convert_refused (refused : ¬Accepted size len) (pairs : List (Fin size × Fin size))
    (buf : Nat) (mem : Memory) : convert size pairs buf len mem = ⟨none, mem⟩ := by
  rw [accepted_iff, not_not] at refused
  exact if_pos refused

theorem convert_addr (accepted : Accepted size len) (pairs : List (Fin size × Fin size))
    (buf : Nat) (mem : Memory) : (convert size pairs buf len mem).addr = some buf := by
  rw [convert, if_neg (accepted_iff.mp accepted)]

theorem convert_regrouped (apart : Apart pairs) (accepted : Accepted size len) (buf : Nat)
    (mem : Memory) :
    Regrouped (order pairs) buf (len.tdiv size).toNat mem
      (convert size pairs buf len mem).memory := by
  rw [convert, if_neg (accepted_iff.mp accepted)]
  refine regrouped_eachGroup ?_ _ _ _
  intro start m
  rw [exchangeGroup_eq apart]
  exact regrouped_exchanges pairs start m

theorem convert_regrouped_twice (beforeApart : Apart before) (afterApart : Apart after)
    (accepted : Accepted size len) (buf : Nat) (mem : Memory) :
    Regrouped (order before * order after) buf (len.tdiv size).toNat mem
      (convert size after buf len (convert size before buf len mem).memory).memory := by
  have first := convert_regrouped beforeApart accepted buf mem
  exact first.trans (convert_regrouped afterApart accepted buf _)

/-- One converter after another one does what a third one does. -/
def Composes (whole second first : Converter) : Prop :=
  ∀ buf len mem, whole buf len mem = second buf len (first buf len mem).memory

/-- One converter takes back what another one did. -/
def Undoes (second first : Converter) : Prop :=
  ∀ buf len mem, (second buf len (first buf len mem).memory).memory = mem

theorem convert_composes {whole : List (Fin size × Fin size)} (wholeApart : Apart whole)
    (beforeApart : Apart before) (afterApart : Apart after)
    (orders : ∀ k, order whole k = order before (order after k)) :
    Composes (convert size whole) (convert size after) (convert size before) := by
  intro buf len mem
  by_cases accepted : Accepted size len
  · have both := convert_regrouped_twice beforeApart afterApart accepted buf mem
    rw [← show order whole = order before * order after from Equiv.ext orders] at both
    apply Converted.ext
    case addr => rw [convert_addr accepted, convert_addr accepted]
    case memory => exact (convert_regrouped wholeApart accepted buf mem).unique both
  · simp only [convert_refused accepted]

theorem convert_undoes (beforeApart : Apart before) (afterApart : Apart after)
    (orders : ∀ k, order before (order after k) = k) :
    Undoes (convert size after) (convert size before) := by
  intro buf len mem
  by_cases accepted : Accepted size len
  · have both := convert_regrouped_twice beforeApart afterApart accepted buf mem
    rw [show order before * order after = 1 from Equiv.ext orders] at both
    exact both.unique (.refl size buf _ mem)
  · simp only [convert_refused accepted]

/-- The groups are permuted as the name says, the byte `k` of a group becoming the old byte
`name k`, and nothing else is written. -/
structure Converts {size : Nat} (f : Converter) (name : Fin size → Fin size) : Prop where
  addr : ∀ buf len mem, 0 < len → (size : Int) ∣ len → (f buf len mem).addr = some buf
  permutes : ∀ buf (groups : Nat) mem, ∀ g < groups, ∀ k : Fin size,
    (f buf (size * groups) mem).memory (buf + size * g + k) = mem (buf + size * g + name k)
  elsewhere : ∀ buf (groups : Nat) mem i, i < buf ∨ buf + size * groups ≤ i →
    (f buf (size * groups) mem).memory i = mem i
  refuses : ∀ buf len mem, ¬(0 < len ∧ (size : Int) ∣ len) → f buf len mem = ⟨none, mem⟩

/-- The buffer holds no group where its length is refused. -/
theorem convert_groups (apart : Apart pairs) (buf groups : Nat) (mem : Memory) :
    Regrouped (order pairs) buf groups mem (convert size pairs buf (size * groups) mem).memory := by
  by_cases accepted : Accepted size (size * groups)
  · have positive : (size : Int) ≠ 0 := by
      intro zero
      have length := accepted.1
      rw [zero, Int.zero_mul] at length
      omega
    have regrouped := convert_regrouped apart accepted buf mem
    rwa [Int.mul_tdiv_cancel_left _ positive, Int.toNat_natCast] at regrouped
  · have none : size * groups = 0 := by
      by_contra some
      refine accepted ⟨?_, Int.dvd_mul_right _ _⟩
      exact_mod_cast Nat.pos_of_ne_zero some
    rw [convert_refused accepted]
    constructor
    case inside =>
      intro g within k
      have group := Nat.mul_pos k.pos (Nat.zero_lt_of_lt within)
      omega
    case outside => exact fun i _ => rfl

theorem convert_converts (apart : Apart pairs) {name : Fin size → Fin size}
    (named : ∀ k, order pairs k = name k) : Converts (convert size pairs) name := by
  constructor
  case addr => exact fun buf len mem positive multiple => convert_addr ⟨positive, multiple⟩ _ _ _
  case permutes =>
    intro buf groups mem g within k
    rw [(convert_groups apart buf groups mem).inside g within, named]
  case elsewhere => exact fun buf groups mem => (convert_groups apart buf groups mem).outside
  case refuses => exact fun buf len mem refused => convert_refused refused pairs buf mem

end

/-! ## The eight orders -/

/-- What the names of the converters say, and what follows from the names. -/
theorem byteOrders :
    (Converts ba ![B, A] ∧ Converts abdc ![A, B, D, C] ∧ Converts bacd ![B, A, C, D] ∧
      Converts badc ![B, A, D, C] ∧ Converts cdab ![C, D, A, B] ∧ Converts cdba ![C, D, B, A] ∧
      Converts dcab ![D, C, A, B] ∧ Converts dcba ![D, C, B, A]) ∧
    (∀ f ∈ [ba, abdc, bacd, badc, cdab, dcba], Undoes f f) ∧
    (Undoes dcab cdba ∧ Undoes cdba dcab) ∧
    Composes badc abdc bacd ∧ Composes dcba cdab badc := by
  refine ⟨⟨?_, ?_, ?_, ?_, ?_, ?_, ?_, ?_⟩, ?_, ⟨?_, ?_⟩, ?_, ?_⟩
  iterate 8 exact convert_converts (by decide) (by decide)
  · simp only [List.forall_mem_cons]
    refine ⟨?_, ?_, ?_, ?_, ?_, ?_, ?_⟩
    iterate 6 exact convert_undoes (by decide) (by decide) (by decide)
    exact fun f mem => absurd mem List.not_mem_nil
  · exact convert_undoes (by decide) (by decide) (by decide)
  · exact convert_undoes (by decide) (by decide) (by decide)
  · exact convert_composes (by decide) (by decide) (by decide) (by decide)
  · exact convert_composes (by decide) (by decide) (by decide) (by decide)

/-! ## Buffers as lists -/

/-- The bytes of a buffer. -/
def bytesAt (mem : Memory) (buf len : Nat) : List Byte := List.ofFn fun i : Fin len => mem (buf + i)

section

variable {mem after : Memory} {size buf groups len : Nat} {pairs : List (Fin size × Fin size)}
  {name : Fin size → Fin size} {f : List Byte → List Byte}

@[simp] theorem length_bytesAt : (bytesAt mem buf len).length = len := List.length_ofFn

theorem bytesAt_add (mem : Memory) (buf one other : Nat) :
    bytesAt mem buf (one + other) = bytesAt mem buf one ++ bytesAt mem (buf + one) other := by
  simp only [bytesAt, List.ofFn_add, Fin.val_castLE, Fin.val_natAdd, Nat.add_assoc]

/-- The function puts the first group of a list into the order of the name. -/
structure Renames (f : List Byte → List Byte) (name : Fin size → Fin size) : Prop where
  empty : f [] = []
  first : ∀ (group : Fin size → Byte) rest,
    f (List.ofFn group ++ rest) = List.ofFn (group ∘ name) ++ f rest

theorem baGroups_renames : Renames baGroups ![B, A] := by
  constructor
  case empty => rfl
  case first =>
    intro group rest
    simp [baGroups]

theorem dcbaGroups_renames : Renames dcbaGroups ![D, C, B, A] := by
  constructor
  case empty => rfl
  case first =>
    intro group rest
    simp [dcbaGroups]

theorem bytesAt_groups (renames : Renames f name)
    (inside : ∀ g < groups, ∀ k : Fin size,
      after (buf + size * g + k) = mem (buf + size * g + name k)) :
    bytesAt after buf (size * groups) = f (bytesAt mem buf (size * groups)) := by
  induction groups generalizing buf with
  | zero => exact renames.empty.symm
  | succ groups ih =>
      have first : bytesAt after buf size =
          List.ofFn ((fun k : Fin size => mem (buf + k)) ∘ name) :=
        congrArg List.ofFn (funext (inside 0 (Nat.succ_pos groups)))
      have later : ∀ g < groups, ∀ k : Fin size,
          after (buf + size + size * g + k) = mem (buf + size + size * g + name k) := by
        intro g within k
        have group := inside (g + 1) (Nat.succ_lt_succ within) k
        rwa [Nat.mul_succ, Nat.add_comm (size * g), ← Nat.add_assoc] at group
      rw [Nat.mul_succ, Nat.add_comm, bytesAt_add, bytesAt_add, first, ih later]
      exact (renames.first _ _).symm

/-- A converter does in memory what the function does to the list of the bytes. -/
theorem convert_bytesAt (apart : Apart pairs) (named : ∀ k, order pairs k = name k)
    (renames : Renames f name) (buf len : Nat) (mem : Memory) :
    (convert size pairs buf len mem).addr.map
        (fun _ => bytesAt (convert size pairs buf len mem).memory buf len) =
      if len % size ≠ 0 ∨ len ≤ 0 then none else some (f (bytesAt mem buf len)) := by
  have same : (len % size ≠ 0 ∨ len ≤ 0) ↔ ¬Accepted size len := by
    rw [Accepted, Int.natCast_dvd_natCast, Nat.dvd_iff_mod_eq_zero]
    omega
  by_cases accepted : Accepted size len
  · obtain ⟨groups, rfl⟩ := Int.natCast_dvd_natCast.mp accepted.2
    have inside := (convert_converts apart named).permutes buf groups mem
    rw [if_neg (by rwa [same, not_not]), convert_addr accepted, Option.map_some]
    rw [← Int.natCast_mul] at inside
    exact congrArg some (bytesAt_groups renames inside)
  · rw [if_pos (same.mpr accepted), convert_refused accepted, Option.map_none]

end

section

variable (buf len : Nat) (mem : Memory)

theorem ba_bytesAt :
    (ba buf len mem).addr.map (fun _ => bytesAt (ba buf len mem).memory buf len) =
      Jincubator.ba (bytesAt mem buf len) := by
  rw [Jincubator.ba, length_bytesAt]
  exact convert_bytesAt (by decide) (by decide) baGroups_renames buf len mem

theorem dcba_bytesAt :
    (dcba buf len mem).addr.map (fun _ => bytesAt (dcba buf len mem).memory buf len) =
      Jincubator.dcba (bytesAt mem buf len) := by
  rw [Jincubator.dcba, length_bytesAt]
  exact convert_bytesAt (by decide) (by decide) dcbaGroups_renames buf len mem

end

/-! ## Copies of registers

The accessors copy registers, convert the copy in place and read it.
-/

section

variable {buf : Nat} {mem : Memory}

theorem ba_addr (buf : Nat) (mem : Memory) : (ba buf 2 mem).addr = some buf :=
  convert_addr ⟨by decide, by decide⟩ _ buf mem

theorem dcba_addr (buf : Nat) (mem : Memory) : (dcba buf 4 mem).addr = some buf :=
  convert_addr ⟨by decide, by decide⟩ _ buf mem

theorem baWord_copy {w : Word} (copied : bytesAt mem buf 2 = wordBytes w) :
    bytesWord (bytesAt (ba buf 2 mem).memory buf 2) = baWord w := by
  have bytes := ba_bytesAt buf 2 mem
  rw [Nat.cast_ofNat, ba_addr, copied, Option.map_some] at bytes
  rw [baWord, ← bytes, Option.getD_some]

theorem shm2int_copy {first second : Word}
    (copied : bytesAt mem buf 4 = wordBytes first ++ wordBytes second) :
    bytesInt (bytesAt (dcba buf 4 mem).memory buf 4) = shm2int first second := by
  have bytes := dcba_bytesAt buf 4 mem
  rw [Nat.cast_ofNat, dcba_addr, copied, Option.map_some] at bytes
  rw [shm2int, ← bytes, Option.getD_some]

theorem int2shm_copy {v : Word32} (copied : bytesAt mem buf 4 = intBytes v) :
    int2shm v = (bytesWord ((bytesAt (dcba buf 4 mem).memory buf 4).take 2),
      bytesWord ((bytesAt (dcba buf 4 mem).memory buf 4).drop 2)) := by
  have bytes := dcba_bytesAt buf 4 mem
  rw [Nat.cast_ofNat, dcba_addr, copied, Option.map_some] at bytes
  rw [int2shm, ← bytes, Option.getD_some]

end

end Buffer

end Jincubator
