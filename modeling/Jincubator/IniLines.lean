import Jincubator.IniBindings

/-! # Nodes and lines

A node is written as one line, and the line is read as the same node: that holds of all
nodes that come from a line, but for the name of a section that starts or ends with a
bracket of its own.
-/

namespace Jincubator.Ini

open Text XiniNode

def space (c : Byte) : Bool := xspaceChars.contains c

/-- A line without its end and without blanks around it. -/
structure Plain (s : List Byte) : Prop where
  trimmed : Trimmed space s
  single : lineFeed ∉ s

theorem plain_nil : Plain [] := ⟨trimmed_nil, List.not_mem_nil⟩

theorem plain_trim {s : List Byte} (single : lineFeed ∉ s) : Plain (xstrTrim s) :=
  ⟨trimmed_trim, fun inside => single (mem_of_mem_trim inside)⟩

theorem Plain.trim_eq {s : List Byte} (plain : Plain s) : xstrTrim s = s := plain.trimmed.trim_eq

/-- The name has no bracket at its ends. -/
structure Bare (name : List Byte) : Prop where
  head : name.head? ≠ some lsect
  last : name.getLast? ≠ some rsect

instance (name : List Byte) : Decidable (Bare name) :=
  decidable_of_iff (name.head? ≠ some lsect ∧ name.getLast? ≠ some rsect)
    ⟨fun h => ⟨h.1, h.2⟩, fun h => ⟨h.1, h.2⟩⟩

/-- What can be told from a keyvalue's line. -/
structure LegibleEntry (key kname value : List Byte) : Prop where
  own : key = kname
  plainKey : Plain kname
  plainValue : Plain value
  nonempty : kname ≠ []
  noEqual : equal ∉ kname
  noComment : kname.head? ≠ some semicolon ∧ kname.head? ≠ some numberSign
  noSection : ¬(kname.head? = some lsect ∧ value.getLast? = some rsect)

namespace XiniNode

def line : XiniNode → List Byte
  | nilline => []
  | comment text => text
  | sect name => lsect :: name ++ [rsect]
  | keyvalue _ kname value => kname ++ equal :: value

def Legible : XiniNode → Prop
  | nilline => True
  | comment text =>
      Plain text ∧ (text.head? = some semicolon ∨ text.head? = some numberSign)
  | sect name => Plain name ∧ name ≠ []
  | keyvalue key kname value => LegibleEntry key kname value

end XiniNode

variable {node : XiniNode}

theorem print_eq_line (legible : node.Legible) : node.print = node.line ++ [lineFeed] := by
  cases node with
  | nilline | comment => rfl
  | sect name =>
      rw [XiniNode.print, if_neg legible.2, XiniNode.line]
      simp
  | keyvalue key kname value =>
      rw [XiniNode.print, XiniNode.line]

theorem plain_line (legible : node.Legible) : Plain node.line := by
  cases node with
  | nilline => exact plain_nil
  | comment text => exact legible.1
  | sect name =>
      obtain ⟨⟨-, single⟩, -⟩ := legible
      constructor
      · constructor
        · intro c first
          cases first
          rfl
        · intro c last
          rw [XiniNode.line, List.getLast?_append_of_ne_nil _ (List.cons_ne_nil _ _)] at last
          cases last
          rfl
      · rw [XiniNode.line, List.mem_append, List.mem_cons, List.mem_singleton]
        rintro ((start | inside) | finish)
        · exact absurd start (by decide)
        · exact single inside
        · exact absurd finish (by decide)
  | keyvalue key kname value =>
      obtain ⟨-, plainKey, plainValue, nonempty, -, -, -⟩ := legible
      constructor
      · constructor
        · intro c first
          rw [XiniNode.line, List.head?_append_of_ne_nil _ nonempty] at first
          exact plainKey.trimmed.head c first
        · intro c last
          rw [XiniNode.line, List.getLast?_append_of_ne_nil _ (List.cons_ne_nil _ _)] at last
          cases value with
          | nil =>
              cases last
              rfl
          | cons b value => exact plainValue.trimmed.last c last
      · rw [XiniNode.line, List.mem_append, List.mem_cons]
        rintro (inside | sign | inside)
        · exact plainKey.single inside
        · exact absurd sign (by decide)
        · exact plainValue.single inside

/-! ## Reading the line of a node -/

theorem bracketed_sect {name : List Byte} (plain : Plain name) (nonempty : name ≠ [])
    (bare : Bare name) : bracketed (lsect :: name ++ [rsect]) = name := by
  have right : xstrRtrim [rsect] (lsect :: name ++ [rsect]) = lsect :: name := by
    have last : ∀ c ∈ (lsect :: name).getLast?, [rsect].contains c = false := by
      intro c last
      rw [List.getLast?_cons, Option.mem_some_iff] at last
      have other : c ≠ rsect := by
        rintro rfl
        cases found : name.getLast? with
        | none => exact absurd (List.getLast?_eq_none_iff.mp found) nonempty
        | some b =>
            rw [found, Option.getD_some] at last
            exact bare.last (found.trans (congrArg some last))
      simpa using other
    unfold xstrRtrim
    rw [List.rdropWhile_concat_pos _ _ _ (by rfl)]
    exact Trimmed.rdropWhile_eq last
  have left : xstrLtrim [lsect] (lsect :: name) = name := by
    unfold xstrLtrim
    rw [List.dropWhile_cons_of_pos (by rfl)]
    apply Trimmed.dropWhile_eq
    intro c first
    have other : c ≠ lsect := fun same => bare.head (same ▸ first)
    simpa using other
  rw [bracketed, right, left, plain.trim_eq]

theorem niltryCreate_eq_none {s : List Byte} (nonempty : s ≠ []) : niltryCreate s = none :=
  if_neg nonempty

theorem commentTryCreate_eq_none {s : List Byte} (first : s.head? ≠ some semicolon)
    (other : s.head? ≠ some numberSign) : commentTryCreate s = none :=
  if_neg (not_or.mpr ⟨first, other⟩)

theorem keyvalueTryCreate_line {kname value : List Byte} (plainKey : Plain kname)
    (plainValue : Plain value) (nonempty : kname ≠ []) (noEqual : equal ∉ kname) :
    keyvalueTryCreate (kname ++ equal :: value) = some (keyvalue kname kname value) := by
  have name : (kname ++ equal :: value).takeWhile (· ≠ equal) = kname := by
    rw [List.takeWhile_append_of_pos, List.takeWhile_cons_of_neg, List.append_nil]
    · simp
    · intro c inside
      simpa using fun same : c = equal => noEqual (same ▸ inside)
  have rest : (kname ++ equal :: value).drop (kname.length + 1) = value := by
    rw [List.drop_append, List.drop_eq_nil_of_le (by omega), Nat.add_sub_cancel_left]
    rfl
  unfold keyvalueTryCreate
  simp only [name]
  rw [if_neg (by simp [nonempty]), rest, plainKey.trim_eq, plainValue.trim_eq]

/-- A line is read as the node that it was written for. -/
theorem makeNode_line (legible : node.Legible) (bare : ∀ name, node = sect name → Bare name) :
    makeNode node.line = some node := by
  unfold makeNode
  cases node with
  | nilline => rfl
  | comment text =>
      have nonempty : text ≠ [] := by
        rintro rfl
        cases legible.2 <;> contradiction
      rw [XiniNode.line, niltryCreate_eq_none nonempty, commentTryCreate, if_pos legible.2]
      rfl
  | sect name =>
      have first : (lsect :: name ++ [rsect]).head? = some lsect := rfl
      have last : (lsect :: name ++ [rsect]).getLast? = some rsect :=
        List.getLast?_append_of_ne_nil _ (List.cons_ne_nil _ _)
      rw [XiniNode.line, niltryCreate_eq_none (s := lsect :: name ++ [rsect]) (by simp),
        commentTryCreate_eq_none (first.trans_ne (by decide)) (first.trans_ne (by decide)),
        sectionTryCreate, if_pos ⟨first, last⟩,
        bracketed_sect legible.1 legible.2 (bare name rfl)]
      rfl
  | keyvalue key kname value =>
      obtain ⟨own, plainKey, plainValue, nonempty, noEqual, noComment, noSection⟩ := legible
      have first : (kname ++ equal :: value).head? = kname.head? :=
        List.head?_append_of_ne_nil _ nonempty
      have last : (kname ++ equal :: value).getLast? = some rsect →
          value.getLast? = some rsect := by
        rw [List.getLast?_append_of_ne_nil _ (List.cons_ne_nil _ _)]
        cases value with
        | nil => exact fun sign => absurd sign (by decide)
        | cons b value => exact id
      rw [XiniNode.line, niltryCreate_eq_none (by simp [nonempty]),
        commentTryCreate_eq_none (first ▸ noComment.1) (first ▸ noComment.2), sectionTryCreate,
        if_neg fun both => noSection ⟨first ▸ both.1, last both.2⟩,
        keyvalueTryCreate_line plainKey plainValue nonempty noEqual, own]
      rfl

/-! ## Nodes that come from a line -/

theorem exists_equal {line : List Byte} (sign : equal ∈ line) :
    ∃ rest, line = line.takeWhile (· ≠ equal) ++ equal :: rest ∧
      line.drop ((line.takeWhile (· ≠ equal)).length + 1) = rest := by
  have whole := List.takeWhile_append_dropWhile (p := (· ≠ equal)) (l := line)
  cases found : line.dropWhile (· ≠ equal) with
  | nil => simpa using List.dropWhile_eq_nil_iff.mp found equal sign
  | cons c rest =>
      have first : c = equal := by
        have stops := head_dropWhile (p := (· ≠ equal)) (l := line) (a := c) (by rw [found]; rfl)
        simpa using stops
      subst first
      rw [found] at whole
      refine ⟨rest, whole.symm, ?_⟩
      nth_rewrite 2 [← whole]
      rw [List.drop_append, List.drop_eq_nil_of_le (by omega), Nat.add_sub_cancel_left]
      rfl

theorem keyvalueTryCreate_legible {line : List Byte} (plain : Plain line)
    (noComment : ¬(line.head? = some semicolon ∨ line.head? = some numberSign))
    (noSection : ¬(line.head? = some lsect ∧ line.getLast? = some rsect))
    (made : keyvalueTryCreate line = some node) : node.Legible := by
  unfold keyvalueTryCreate at made
  dsimp only at made
  split at made
  · cases made
  · rename_i named
    rw [not_or, not_not] at named
    obtain ⟨nonempty, sign⟩ := named
    obtain ⟨rest, whole, dropped⟩ := exists_equal sign
    rw [dropped] at made
    have noEqual : equal ∉ line.takeWhile (· ≠ equal) := by
      intro inside
      simpa using List.mem_takeWhile_imp inside
    generalize line.takeWhile (· ≠ equal) = kname at *
    cases made
    have start : kname.head? = line.head? := by
      rw [whole, List.head?_append_of_ne_nil _ nonempty]
    have first : (xstrTrim kname).head? = line.head? :=
      (head_trim fun c inside => plain.trimmed.head c (start ▸ inside)).trans start
    have finish : ∀ c ∈ rest.getLast?, c ∈ line.getLast? := by
      intro c inside
      rw [whole, List.getLast?_append_of_ne_nil _ (List.cons_ne_nil _ _)]
      cases rest with
      | nil => cases inside
      | cons b rest => exact inside
    have last : (xstrTrim rest).getLast? = some rsect → line.getLast? = some rsect :=
      fun inside => finish rsect
        (last_trim (fun c inside => plain.trimmed.last c (finish c inside)) inside)
    have part : ∀ c, c ∈ kname ∨ c ∈ rest → c ∈ line := by
      intro c inside
      rw [whole, List.mem_append, List.mem_cons]
      exact inside.imp id Or.inr
    constructor
    · rfl
    · exact plain_trim fun inside => plain.single (part _ (Or.inl inside))
    · exact plain_trim fun inside => plain.single (part _ (Or.inr inside))
    · intro nothing
      rw [nothing, ← start] at first
      exact nonempty (List.head?_eq_none_iff.mp first.symm)
    · exact fun inside => noEqual (mem_of_mem_trim inside)
    · rw [first]
      exact not_or.mp noComment
    · rw [first]
      exact fun both => noSection ⟨both.1, last both.2⟩

theorem plain_bracketed {line : List Byte} (plain : Plain line) : Plain (bracketed line) := by
  apply plain_trim
  intro inside
  apply plain.single
  exact (List.rdropWhile_prefix _ line).subset ((List.dropWhile_sublist _).subset inside)

/-- A line is a node that is written as a line again, or a heading without a name. -/
theorem makeNode_legible {line : List Byte} (plain : Plain line)
    (made : makeNode line = some node) :
    node.Legible ∨ node = sect [] := by
  unfold makeNode niltryCreate commentTryCreate sectionTryCreate at made
  split at made
  · cases made
    exact Or.inl trivial
  · rename_i nonempty
    split at made
    · rename_i sign
      cases made
      exact Or.inl ⟨plain, sign⟩
    · rename_i noComment
      split at made
      · cases made
        by_cases nameless : bracketed line = []
        · exact Or.inr (congrArg sect nameless)
        · exact Or.inl ⟨plain_bracketed plain, nameless⟩
      · rename_i noSection
        exact Or.inl (keyvalueTryCreate_legible plain noComment noSection made)

/-! ## Texts -/

theorem getlines_unlines {lines : List (List Byte)} (plain : ∀ line ∈ lines, Plain line) :
    getlines (unlines lineFeed lines) = lines := by
  have cut : ((unlines lineFeed lines).splitOn lineFeed).map xstrTrim = lines ++ [[]] := by
    rw [splitOn_unlines fun line inside => (plain line inside).single, List.map_append,
      List.map_congr_left fun line inside => (plain line inside).trim_eq, List.map_id']
    rfl
  unfold getlines
  simp only [cut]
  rw [if_pos List.getLast?_concat, List.dropLast_concat]

theorem plain_of_mem_getlines {text line : List Byte} (inside : line ∈ getlines text) :
    Plain line := by
  have trimmed : line ∈ (text.splitOn lineFeed).map xstrTrim := by
    unfold getlines at inside
    dsimp only at inside
    split at inside
    · exact List.dropLast_subset _ inside
    · exact inside
  obtain ⟨piece, member, rfl⟩ := List.mem_map.mp trimmed
  exact plain_trim (notMem_of_mem_splitOn member)

end Jincubator.Ini
