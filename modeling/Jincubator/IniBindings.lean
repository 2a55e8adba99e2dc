import Jincubator.IniFile
import Jincubator.Library.Keyed

/-! # The bindings of a configuration file

A key has the value of the first line that gives it one in its section. A section can be
left and taken up again, and the letters of its name and of the key may be in either case.
-/

namespace Jincubator.Ini

open Keyed XiniNode XiniSection

/-! ## Names -/

/-- A string as `xstr_icmp` sees it. -/
def folded (s : List Byte) : List Byte := (cString s).map lower

theorem lower_eq_zero {c : Byte} : lower c = 0 ↔ c = 0 := by
  unfold lower
  split <;> bv_omega

theorem toNat_lower {c : Byte} : (lower c).toNat = 0 ↔ c = 0 := by
  rw [← lower_eq_zero]
  bv_omega

theorem folded_nil : folded [] = [] := rfl

theorem folded_zero (s : List Byte) : folded (0 :: s) = [] := rfl

theorem folded_cons {c : Byte} (goes : c ≠ 0) (s : List Byte) :
    folded (c :: s) = lower c :: folded s := by
  unfold folded cString
  rw [List.takeWhile_cons_of_pos (by simpa using goes), List.map_cons]

theorem folded_eq_nil {s : List Byte} : folded s = [] ↔ ∀ c ∈ s.head?, c = 0 := by
  cases s with
  | nil => simp [folded_nil]
  | cons c s =>
      by_cases ends : c = 0
      · rw [ends, folded_zero]
        simp
      · rw [folded_cons ends]
        exact iff_of_false (List.cons_ne_nil _ _) fun zero => ends (zero c rfl)

theorem xstrIcmp_eq_zero {l r : List Byte} : xstrIcmp l r = 0 ↔ folded l = folded r := by
  induction l generalizing r with
  | nil =>
      cases r with
      | nil => simp [xstrIcmp]
      | cons b r =>
          rw [xstrIcmp, folded_nil, eq_comm (a := []), folded_eq_nil, zero_sub, neg_eq_zero]
          simp [toNat_lower]
  | cons a l ih =>
      cases r with
      | nil =>
          rw [xstrIcmp, folded_nil, folded_eq_nil]
          simp [toNat_lower]
      | cons b r =>
          have same : ((lower a).toNat : Int) - (lower b).toNat = 0 ↔ lower a = lower b := by
            rw [Int.sub_eq_zero, Int.ofNat_inj, BitVec.toNat_inj]
          rw [xstrIcmp]
          by_cases left : a = 0
          · rw [if_neg fun goes => goes.1 (lower_eq_zero.mpr left), same, left, folded_zero,
              eq_comm (a := []), folded_eq_nil, lower_eq_zero.mpr rfl, eq_comm (a := 0),
              lower_eq_zero]
            simp
          · by_cases right : b = 0
            · rw [if_neg fun goes => left (lower_eq_zero.mp (goes.2.trans
                (lower_eq_zero.mpr right))), same, right, folded_zero, folded_eq_nil,
                lower_eq_zero.mpr rfl, lower_eq_zero]
              simp
            · rw [folded_cons left, folded_cons right, List.cons.injEq]
              by_cases equal : lower a = lower b
              · rw [if_pos ⟨fun zero => left (lower_eq_zero.mp zero), equal⟩, ih,
                  and_iff_right equal]
              · rw [if_neg fun goes => equal goes.2, same]
                simp only [equal, false_and]

/-! ## Entries -/

/-- The key of an entry of a map. -/
def foldedName {β : Type} (e : List Byte × β) : List Byte := folded e.1

def foldedKey (s : XiniSection) : List Byte := folded s.key

def XiniSection.value (s : XiniSection) (k : List Byte) : Option (List Byte) :=
  (entry foldedName s.ndkv k).map Prod.snd

/-- The value under the folded names of a section and a key. -/
def value (sects : List XiniSection) (n k : List Byte) : Option (List Byte) :=
  (entry foldedKey sects n).bind fun s => s.value k

theorem findKnode_eq (s : XiniSection) (key : List Byte) :
    s.findKnode key = s.value (folded key) := by
  unfold findKnode XiniSection.value entry foldedName
  simp only [xstrIcmp_eq_zero]

theorem lookup_eq (f : XiniFile) (name key : List Byte) : f.lookup name key =
    value f.sects (folded (XiniFile.sectName name)) (folded (xstrTrim key)) := by
  unfold XiniFile.lookup XiniFile.findSect value entry foldedKey
  simp only [xstrIcmp_eq_zero, findKnode_eq]

/-! ## Comments at the end of a section -/

/-- Comments, and an empty line after them. -/
def tailComment (texts : List (List Byte)) (blank : Bool) : List XiniNode :=
  texts.map comment ++ if blank then [nilline] else []

theorem ndkv_tailComment (texts : List (List Byte)) (blank : Bool) :
    (tailComment texts blank).filterMap XiniNode.ndkv = [] := by
  unfold tailComment
  rw [List.filterMap_append, List.filterMap_map]
  cases blank <;> simp [Function.comp_def, XiniNode.ndkv]

theorem popLoop_append (line : Nat) (taken rest : List XiniNode) :
    (popLoop line taken rest).1.reverse ++ (popLoop line taken rest).2 =
      rest.reverse ++ taken := by
  induction rest generalizing line taken with
  | nil => rfl
  | cons node rest ih =>
      cases node with
      | nilline =>
          rw [popLoop]
          split
          · rfl
          · rw [ih, List.reverse_cons, List.append_assoc, List.singleton_append]
      | comment text =>
          rw [popLoop, ih, List.reverse_cons, List.append_assoc, List.singleton_append]
      | sect | keyvalue => simp [popLoop]

theorem popLoop_taken (line : Nat) (taken rest : List XiniNode) (started : line > 0) :
    (popLoop line taken rest).2 = [] ∨
      ∃ texts : List (List Byte), (popLoop line taken rest).2 = texts.map comment ++ taken := by
  induction rest generalizing line taken with
  | nil => exact Or.inr ⟨[], rfl⟩
  | cons node rest ih =>
      cases node with
      | nilline =>
          rw [popLoop, if_pos started]
          exact Or.inr ⟨[], rfl⟩
      | comment text =>
          cases ih (line + 1) (comment text :: taken) line.succ_pos with
          | inl nothing => exact Or.inl nothing
          | inr some =>
              obtain ⟨texts, eq⟩ := some
              refine Or.inr ⟨texts ++ [text], ?_⟩
              rw [popLoop, eq, List.map_append, List.append_assoc]
              rfl
      | sect | keyvalue => exact Or.inl rfl

/-- What the section keeps and what is taken make up the section. -/
theorem popTailComment_append (nodes : List XiniNode) :
    (popTailComment nodes).1 ++ (popTailComment nodes).2 = nodes := by
  have whole := popLoop_append 0 [] nodes.reverse
  rwa [List.reverse_reverse, List.append_nil] at whole

theorem popTailComment_taken (nodes : List XiniNode) :
    ∃ texts blank, (popTailComment nodes).2 = tailComment texts blank := by
  unfold popTailComment
  cases nodes.reverse with
  | nil => exact ⟨[], false, rfl⟩
  | cons node rest =>
      cases node with
      | nilline =>
          cases popLoop_taken 1 [nilline] rest Nat.one_pos with
          | inl nothing => exact ⟨[], false, nothing⟩
          | inr some =>
              obtain ⟨texts, eq⟩ := some
              exact ⟨texts, true, eq⟩
      | comment text =>
          cases popLoop_taken 1 [comment text] rest Nat.one_pos with
          | inl nothing => exact ⟨[], false, nothing⟩
          | inr some =>
              obtain ⟨texts, eq⟩ := some
              refine ⟨texts ++ [text], false, eq.trans ?_⟩
              simp [tailComment]
      | sect | keyvalue => exact ⟨[], false, rfl⟩

theorem ndkv_kept (nodes : List XiniNode) :
    (popTailComment nodes).1.filterMap XiniNode.ndkv = nodes.filterMap XiniNode.ndkv := by
  obtain ⟨texts, blank, taken⟩ := popTailComment_taken nodes
  have whole := congrArg (List.filterMap XiniNode.ndkv) (popTailComment_append nodes)
  rwa [List.filterMap_append, taken, ndkv_tailComment, List.append_nil] at whole

theorem ndkv_taken (nodes : List XiniNode) :
    (popTailComment nodes).2.filterMap XiniNode.ndkv = [] := by
  obtain ⟨texts, blank, taken⟩ := popTailComment_taken nodes
  rw [taken, ndkv_tailComment]

/-! ## What a line changes -/

/-- The sections with their values, without the other nodes. -/
def outline (sects : List XiniSection) : List (List Byte × List (List Byte × List Byte)) :=
  sects.map fun s => (s.key, s.ndkv)

theorem value_eq_outline (sects : List XiniSection) (n k : List Byte) : value sects n k =
    (entry foldedName (outline sects) n).bind fun o => (entry foldedName o.2 k).map Prod.snd := by
  unfold value entry outline
  rw [List.find?_map, Option.bind_map]
  rfl

theorem value_congr {sects other : List XiniSection} (same : outline sects = outline other)
    (n k : List Byte) : value sects n k = value other n k := by
  rw [value_eq_outline, value_eq_outline, same]

/-- A section without keys adds no value. -/
theorem value_added {sects other : List XiniSection} {name : List Byte}
    (added : outline sects = outline other ++ [(name, [])]) (n k : List Byte) :
    value sects n k = value other n k := by
  rw [value_eq_outline, value_eq_outline, added, entry_append]
  cases entry foldedName (outline other) n with
  | some o => rfl
  | none =>
      by_cases own : foldedName (name, ([] : List (List Byte × List Byte))) = n
      · rw [Option.none_or, entry_cons_self own]
        rfl
      · rw [Option.none_or, entry_cons_of_ne own]
        rfl

theorem map_foldedKey (sects : List XiniSection) :
    sects.map foldedKey = (outline sects).map foldedName := by
  rw [outline, List.map_map]
  rfl

theorem outline_modify {f : XiniSection → XiniSection} (key : ∀ s, (f s).key = s.key)
    (ndkv : ∀ s, (f s).ndkv = s.ndkv) (sects : List XiniSection) (i : Nat) :
    outline (sects.modify i f) = outline sects :=
  Keyed.map_modify (fun s => Prod.ext (key s) (ndkv s)) sects i

theorem ndkv_endNilline (s : XiniSection) : s.endNilline.ndkv = s.ndkv := by
  unfold endNilline
  split
  · rfl
  · unfold pushNode XiniSection.ndkv
    rw [List.filterMap_append]
    exact List.append_nil _

theorem key_endNilline (s : XiniSection) : s.endNilline.key = s.key := by
  unfold endNilline
  split <;> rfl

theorem outline_keepTail (sects : List XiniSection) (i : Nat) :
    outline (sects.modify i keepTail) = outline sects :=
  outline_modify (f := keepTail) (fun _ => rfl) (fun s => ndkv_kept s.nodes) sects i

theorem outline_addTail {taken : List XiniNode} (bare : taken.filterMap XiniNode.ndkv = [])
    (sects : List XiniSection) (i : Nat) :
    outline (sects.modify i (addTail taken)) = outline sects := by
  apply outline_modify
  · intro s
    unfold addTail
    rw [key_endNilline]
  · intro s
    unfold addTail
    rw [ndkv_endNilline, XiniSection.ndkv, List.filterMap_append, bare, List.append_nil]
    exact ndkv_endNilline s

/-- The current section has this name, and no two sections have the same one. -/
structure Loading.Stands (l : Loading) (n : List Byte) : Prop where
  distinct : (l.sects.map foldedKey).Nodup
  current : ∃ s, l.sects[l.current]? = some s ∧ foldedKey s = n

variable {l : Loading} {n : List Byte}

theorem pushSect_stands (stands : l.Stands n) (name : List Byte) :
    (l.pushSect name).Stands (folded name) ∧
      (outline (l.pushSect name).sects = outline l.sects ∨
        outline (l.pushSect name).sects = outline l.sects ++ [(name, [])]) := by
  unfold Loading.pushSect
  have bare := ndkv_taken l.nodes
  cases found : l.sects.findIdx? fun s => xstrIcmp s.key name = 0 with
  | none =>
      have fresh : ∀ s ∈ l.sects, foldedKey s ≠ folded name := by
        intro s inside same
        have differs := List.findIdx?_eq_none_iff.mp found s inside
        exact absurd (xstrIcmp_eq_zero.mpr same) (by simpa using differs)
      have after : outline (l.sects.modify l.current keepTail ++
          [⟨name, (popTailComment l.nodes).2 ++ [sect name]⟩]) =
            outline l.sects ++ [(name, [])] := by
        unfold outline
        rw [List.map_append]
        congr 1
        · exact outline_keepTail l.sects l.current
        · rw [List.map_singleton, XiniSection.ndkv, List.filterMap_append, bare]
          rfl
      refine ⟨⟨?_, ⟨name, (popTailComment l.nodes).2 ++ [sect name]⟩, ?_, rfl⟩, Or.inr after⟩
      · rw [map_foldedKey, after, List.map_append, ← map_foldedKey, List.nodup_append]
        refine ⟨stands.distinct, List.nodup_singleton _, ?_⟩
        intro a inside b own
        obtain ⟨s, member, rfl⟩ := List.mem_map.mp inside
        rw [List.map_singleton, List.mem_singleton] at own
        exact own ▸ fresh s member
      · rw [List.getElem?_append_right (by rw [List.length_modify]), List.length_modify,
          Nat.sub_self]
        rfl
  | some i =>
      obtain ⟨s, place, own⟩ : ∃ s, l.sects[i]? = some s ∧ foldedKey s = folded name := by
        obtain ⟨bound, own, -⟩ := List.findIdx?_eq_some_iff_getElem.mp found
        exact ⟨l.sects[i], List.getElem?_eq_getElem bound,
          xstrIcmp_eq_zero.mp (by simpa using own)⟩
      by_cases same : i = l.current
      · simp only [same, if_true]
        exact ⟨⟨stands.distinct, s, same ▸ place, own⟩, Or.inl trivial⟩
      · simp only [if_neg same]
        have after := (outline_addTail bare (l.sects.modify l.current keepTail) i).trans
          (outline_keepTail l.sects l.current)
        refine ⟨⟨?_, ?_⟩, Or.inl after⟩
        · rw [map_foldedKey, after, ← map_foldedKey]
          exact stands.distinct
        · have keys := congrArg (fun o => (o.map foldedName)[i]?) after
          simp only [← map_foldedKey, List.getElem?_map, place, Option.map_some] at keys
          obtain ⟨s', place', own'⟩ := Option.map_eq_some_iff.mp keys
          exact ⟨s', place', own'.trans own⟩

theorem value_pushNode (s : XiniSection) (key kname v k : List Byte) :
    (s.pushNode (keyvalue key kname v)).value k =
      (s.value k).or (if folded key = k then some v else none) := by
  unfold pushNode
  simp only [findKnode_eq]
  cases known : s.value (folded key) with
  | some old =>
      rw [if_pos Option.isSome_some]
      by_cases own : folded key = k
      · rw [← own, known]
        rfl
      · rw [if_neg own, Option.or_none]
  | none =>
      simp only [Option.isSome_none, Bool.false_eq_true, if_false]
      unfold XiniSection.value XiniSection.ndkv
      rw [List.filterMap_append, entry_append, Option.map_or]
      congr 1
      have name : foldedName (key, v) = folded key := rfl
      by_cases own : folded key = k
      · rw [if_pos own]
        exact congrArg (Option.map Prod.snd) (entry_cons_self (name.trans own))
      · rw [if_neg own]
        exact congrArg (Option.map Prod.snd) (entry_cons_of_ne (name ▸ own))

theorem key_pushNode (s : XiniSection) (node : XiniNode) : (s.pushNode node).key = s.key := by
  cases node with
  | nilline | comment | sect => rfl
  | keyvalue =>
      unfold pushNode
      dsimp only
      split <;> rfl

theorem push_inner (l : Loading) {node : XiniNode} (inner : ∀ name, node ≠ sect name) :
    l.push node = { l with sects := l.sects.modify l.current fun s => s.pushNode node } := by
  cases node with
  | sect name => exact absurd rfl (inner name)
  | nilline | comment | keyvalue => rfl

theorem push_stands (stands : l.Stands n) {node : XiniNode} (inner : ∀ name, node ≠ sect name) :
    (l.push node).Stands n := by
  have keeps : ∀ s : XiniSection, foldedKey (s.pushNode node) = foldedKey s :=
    fun s => congrArg folded (key_pushNode s node)
  obtain ⟨s, place, own⟩ := stands.current
  rw [push_inner l inner]
  constructor
  · rw [Keyed.map_modify keeps]
    exact stands.distinct
  · exact ⟨s.pushNode node, by simp [place], (keeps s).trans own⟩

/-- A line for a key that has a value already changes nothing. -/
theorem value_push_keyvalue (stands : l.Stands n) (key kname v m k : List Byte) :
    value (l.push (keyvalue key kname v)).sects m k =
      (value l.sects m k).or (if (n, folded key) = (m, k) then some v else none) := by
  obtain ⟨s, place, own⟩ := stands.current
  have keeps : ∀ s : XiniSection, foldedKey (s.pushNode (keyvalue key kname v)) = foldedKey s :=
    fun s => congrArg folded (key_pushNode s _)
  have found : entry foldedKey l.sects n = some s := own ▸
    entry_of_mem stands.distinct (List.mem_of_getElem? place)
  have changed := entry_modify (k := m) keeps stands.distinct place
  unfold value
  refine (congrArg (Option.bind · fun s => s.value k) changed).trans ?_
  by_cases here : n = m
  · subst here
    rw [if_pos own, Option.bind_some, value_pushNode]
    refine Eq.trans ?_ (congrArg (fun e => (Option.bind e fun s => s.value k).or _) found.symm)
    simp only [Option.bind_some, Prod.mk.injEq, true_and]
  · rw [if_neg fun same => here (own.symm.trans same),
      if_neg fun same => here (Prod.ext_iff.mp same).1, Option.or_none]

/-! ## The first binding -/

/-- The lines that give a value to a key, in order, with the name of their section. -/
def bindings (name : List Byte) :
    List (List Byte) → List ((List Byte × List Byte) × List Byte)
  | [] => []
  | line :: lines =>
      match makeNode line with
      | some (sect name) => bindings name lines
      | some (keyvalue key _ v) => ((name, key), v) :: bindings name lines
      | _ => bindings name lines

/-- The section and the key of a line. -/
def foldedPlace (b : (List Byte × List Byte) × List Byte) : List Byte × List Byte :=
  (folded b.1.1, folded b.1.2)

/-- The first of them with this section and key, the case of letters aside. -/
def firstBinding (all : List ((List Byte × List Byte) × List Byte)) (name key : List Byte) :
    Option (List Byte) :=
  (entry foldedPlace all (folded name, folded key)).map Prod.snd

theorem value_readLines (lines : List (List Byte)) {name : List Byte}
    (stands : l.Stands (folded name)) (other key : List Byte) :
    value (lines.foldl Loading.pushLine l).sects (folded other) (folded key) =
      (value l.sects (folded other) (folded key)).or
        (firstBinding (bindings name lines) other key) := by
  induction lines generalizing l name with
  | nil => exact (Option.or_none).symm
  | cons line lines ih =>
      rw [List.foldl_cons, Loading.pushLine, bindings]
      cases made : makeNode line with
      | none => exact ih stands
      | some node =>
          cases node with
          | nilline | comment =>
              refine (ih (push_stands stands (by simp))).trans ?_
              congr 1
              refine value_congr (outline_modify ?_ ?_ l.sects l.current) _ _
              · intro s
                rfl
              · intro s
                exact (List.filterMap_append).trans (List.append_nil _)
          | sect heading =>
              obtain ⟨stands', changes⟩ := pushSect_stands stands heading
              refine (ih stands').trans ?_
              congr 1
              cases changes with
              | inl same => exact value_congr same _ _
              | inr added => exact value_added added _ _
          | keyvalue k kname v =>
              refine (ih (push_stands stands (by simp))).trans ?_
              rw [value_push_keyvalue stands, Option.or_assoc]
              congr 1
              unfold firstBinding
              have place : foldedPlace ((name, k), v) = (folded name, folded k) := rfl
              by_cases own : (folded name, folded k) = (folded other, folded key)
              · rw [if_pos own]
                exact congrArg (Option.map Prod.snd) (entry_cons_self (place.trans own)).symm
              · rw [if_neg own]
                exact congrArg (Option.map Prod.snd) (entry_cons_of_ne (place ▸ own)).symm

/-- Reading a file finds for every key the first line that gives it a value in its section. -/
theorem load_lookup (bytes name key : List Byte) :
    (XiniFile.load (some bytes)).lookup name key =
      firstBinding (bindings [] (getlines (skipHead bytes).2)) (XiniFile.sectName name)
        (xstrTrim key) := by
  have stands : Loading.Stands ⟨[⟨[], []⟩], 0⟩ (folded []) :=
    ⟨List.nodup_singleton _, ⟨[], []⟩, rfl, rfl⟩
  have nothing : ∀ n k, value [⟨[], []⟩] n k = none := by
    intro n k
    unfold value
    cases found : entry foldedKey [⟨[], []⟩] n with
    | none => rfl
    | some s =>
        rw [List.mem_singleton.mp (mem_of_entry found)]
        rfl
  rw [lookup_eq]
  refine (value_readLines _ stands _ _).trans ?_
  rw [nothing, Option.none_or]

end Jincubator.Ini
