import Mathlib.Data.List.DropRight

/-! # Text

Trimming a list at both ends, and joining lines into a text that splits into the same
lines again.
-/

namespace Text

variable {α : Type*}

/-! ## Trimming -/

section

variable (p : α → Bool)

def trim (l : List α) : List α := (l.rdropWhile p).dropWhile p

/-- There is nothing to trim at either end. -/
structure Trimmed (l : List α) : Prop where
  head : ∀ a ∈ l.head?, p a = false
  last : ∀ a ∈ l.getLast?, p a = false

end

variable {p : α → Bool} {l : List α}

theorem trimmed_nil : Trimmed p [] := ⟨by simp, by simp⟩

theorem mem_of_mem_trim {a : α} (inside : a ∈ trim p l) : a ∈ l :=
  (List.rdropWhile_prefix p l).subset ((List.dropWhile_sublist p).subset inside)

theorem head_dropWhile {a : α} (first : a ∈ (l.dropWhile p).head?) : p a = false := by
  induction l with
  | nil => simp at first
  | cons b l ih =>
      rw [List.dropWhile_cons] at first
      split at first
      · exact ih first
      · rename_i stays
        cases first
        simpa using stays

theorem last_rdropWhile {a : α} (last : a ∈ (l.rdropWhile p).getLast?) : p a = false := by
  rw [List.rdropWhile, List.getLast?_reverse] at last
  exact head_dropWhile last

theorem last_dropWhile {a : α} (last : a ∈ (l.dropWhile p).getLast?) : a ∈ l.getLast? := by
  induction l with
  | nil => simp at last
  | cons b l ih =>
      rw [List.dropWhile_cons] at last
      split at last
      · cases l with
        | nil => simp at last
        | cons c l => exact ih last
      · exact last

theorem trimmed_trim : Trimmed p (trim p l) :=
  ⟨fun _ first => head_dropWhile first, fun _ last => last_rdropWhile (last_dropWhile last)⟩

theorem Trimmed.dropWhile_eq (head : ∀ a ∈ l.head?, p a = false) : l.dropWhile p = l := by
  cases l with
  | nil => rfl
  | cons a l => rw [List.dropWhile_cons_of_neg (by simp [head a rfl])]

theorem Trimmed.rdropWhile_eq (last : ∀ a ∈ l.getLast?, p a = false) : l.rdropWhile p = l := by
  have reversed : l.reverse.dropWhile p = l.reverse :=
    dropWhile_eq fun a first => last a (List.head?_reverse ▸ first)
  rw [List.rdropWhile, reversed, List.reverse_reverse]

theorem Trimmed.trim_eq (trimmed : Trimmed p l) : trim p l = l := by
  rw [trim, rdropWhile_eq trimmed.last, dropWhile_eq trimmed.head]

theorem head_trim (head : ∀ a ∈ l.head?, p a = false) : (trim p l).head? = l.head? := by
  cases l with
  | nil => rfl
  | cons a l =>
      have stays : p a = false := head a rfl
      have kept : (a :: l).rdropWhile p ≠ [] := by
        rw [Ne, List.rdropWhile_eq_nil_iff]
        intro all
        simp [all a List.mem_cons_self] at stays
      obtain ⟨r, front⟩ := List.rdropWhile_prefix p (a :: l)
      cases found : (a :: l).rdropWhile p with
      | nil => exact absurd found kept
      | cons b r' =>
          rw [found] at front
          cases front
          rw [trim, found, List.dropWhile_cons_of_neg (by simp [stays])]
          rfl

theorem last_trim (last : ∀ a ∈ l.getLast?, p a = false) {a : α}
    (inside : a ∈ (trim p l).getLast?) : a ∈ l.getLast? := by
  rw [trim, Trimmed.rdropWhile_eq last] at inside
  exact last_dropWhile inside

/-! ## Lines -/

/-- Every line is followed by an end of line. -/
def unlines (eol : α) (ls : List (List α)) : List α := ls.flatMap (· ++ [eol])

section

variable {eol : α} {ls ks : List (List α)}

theorem unlines_append : unlines eol (ls ++ ks) = unlines eol ls ++ unlines eol ks :=
  List.flatMap_append

variable [BEq α] [LawfulBEq α]

theorem splitOn_unlines (free : ∀ line ∈ ls, eol ∉ line) :
    (unlines eol ls).splitOn eol = ls ++ [[]] := by
  induction ls with
  | nil => rfl
  | cons line ls ih =>
      have text : unlines eol (line :: ls) = line ++ eol :: unlines eol ls := by simp [unlines]
      rw [text, List.splitOn_append_cons_self_of_not_mem (free line List.mem_cons_self),
        ih fun other inside => free other (List.mem_cons_of_mem line inside), List.cons_append]

theorem notMem_of_mem_splitOn {line : List α} (inside : line ∈ l.splitOn eol) : eol ∉ line := by
  induction l generalizing line with
  | nil =>
      rw [List.splitOn_nil, List.mem_singleton] at inside
      simp [inside]
  | cons a l ih =>
      rw [List.splitOn_cons_eq_if_modifyHead] at inside
      split at inside
      · cases inside with
        | head => simp
        | tail _ inside => exact ih inside
      · rename_i other
        cases rest : l.splitOn eol with
        | nil => exact absurd rest (List.splitOn_ne_nil eol l)
        | cons first rest' =>
            rw [rest, List.modifyHead_cons] at inside
            rw [rest] at ih
            cases inside with
            | head =>
                have same : eol ≠ a := fun same => other (beq_iff_eq.mpr same.symm)
                simp [same, ih List.mem_cons_self]
            | tail _ inside => exact ih (List.mem_cons_of_mem first inside)

end

end Text
