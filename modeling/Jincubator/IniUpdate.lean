import Jincubator.IniRoundTrip

/-! # Changing a configuration file

Looking an entry up leaves every value as it is, and an entry that is missing gets an empty
one. Setting an entry changes that value only. Both keep the file sound, so what is set is
found again when the file was written and read.
-/

namespace Jincubator.Ini

open Keyed Text XiniNode XiniSection

/-- The names of a section and a key that can be told again from the lines they are written
in. -/
structure Clean (name key : List Byte) : Prop where
  singleName : xstrIsSingleLine name = true
  singleKey : xstrIsSingleLine key = true
  named : folded (XiniFile.sectName name) ≠ []
  bare : Bare (XiniFile.sectName name)
  nonempty : xstrTrim key ≠ []
  noEqual : equal ∉ xstrTrim key
  noComment : (xstrTrim key).head? ≠ some semicolon ∧ (xstrTrim key).head? ≠ some numberSign

theorem notMem_iff_all {c : Byte} {s : List Byte} :
    c ∉ s ↔ (s.all fun d => decide (d ≠ c)) = true := by
  rw [List.all_eq_true]
  constructor
  · intro other d inside
    exact decide_eq_true fun same => other (same ▸ inside)
  · intro all inside
    exact of_decide_eq_true (all c inside) rfl

instance (name key : List Byte) : Decidable (Clean name key) :=
  decidable_of_iff (xstrIsSingleLine name = true ∧ xstrIsSingleLine key = true ∧
      folded (XiniFile.sectName name) ≠ [] ∧ Bare (XiniFile.sectName name) ∧ xstrTrim key ≠ [] ∧
      ((xstrTrim key).all fun d => decide (d ≠ equal)) = true ∧
      (xstrTrim key).head? ≠ some semicolon ∧ (xstrTrim key).head? ≠ some numberSign)
    ⟨fun h => ⟨h.1, h.2.1, h.2.2.1, h.2.2.2.1, h.2.2.2.2.1, notMem_iff_all.mpr h.2.2.2.2.2.1,
        h.2.2.2.2.2.2⟩,
      fun h => ⟨h.1, h.2, h.3, h.4, h.5, notMem_iff_all.mp h.6, h.7⟩⟩

/-- The place of an entry, the case of letters aside. -/
def place (name key : List Byte) : List Byte × List Byte :=
  (folded (XiniFile.sectName name), folded (xstrTrim key))

def valueAt (f : XiniFile) (p : List Byte × List Byte) : Option (List Byte) := value f.sects p.1 p.2

theorem single_iff {s : List Byte} (single : xstrIsSingleLine s = true) : lineFeed ∉ s := by
  intro inside
  have all := List.all_eq_true.mp single lineFeed inside
  exact absurd all (by decide)

section

variable {f : XiniFile} {name key : List Byte}

theorem plain_sectName (single : xstrIsSingleLine name = true) : Plain (XiniFile.sectName name) :=
  plain_bracketed (plain_trim (single_iff single))

/-! ## Sections -/

theorem modifySect_sects (change : XiniSection → XiniSection) :
    (f.modifySect name change).sects = update foldedKey (folded name) change f.sects := by
  unfold XiniFile.modifySect update
  simp only [xstrIcmp_eq_zero]
  rfl

theorem findSect_eq : f.findSect name = entry foldedKey f.sects (folded name) := by
  unfold XiniFile.findSect entry
  simp only [xstrIcmp_eq_zero]
  rfl

theorem mem_update {s : XiniSection} {change : XiniSection → XiniSection} {n : List Byte}
    (inside : s ∈ update foldedKey n change f.sects) :
    (s ∈ f.sects ∧ foldedKey s ≠ n) ∨ ∃ t ∈ f.sects, foldedKey t = n ∧ s = change t := by
  obtain ⟨t, member, eq⟩ := List.mem_map.mp inside
  split at eq
  · rename_i own
    exact Or.inr ⟨t, member, own, eq.symm⟩
  · rename_i other
    exact Or.inl (eq ▸ ⟨member, other⟩)

theorem XiniFile.Sound.modifySect (sound : f.Sound) {change : XiniSection → XiniSection}
    (named : folded name ≠ [])
    (keeps : ∀ s, foldedKey s = folded name → foldedKey (change s) = folded name)
    (formed : ∀ s ∈ f.sects, foldedKey s = folded name → Formed (change s) ∧ Bare (change s).key) :
    (f.modifySect name change).Sound := by
  have keys : (f.modifySect name change).sects.map foldedKey = f.sects.map foldedKey := by
    rw [modifySect_sects]
    exact map_update keeps
  refine ⟨⟨?_, keys ▸ sound.wellFormed.distinct, keys ▸ sound.wellFormed.named⟩, ⟨?_, ?_⟩,
    sound.mark⟩
  · intro s inside
    rw [modifySect_sects] at inside
    cases mem_update inside with
    | inl old => exact sound.wellFormed.formed s old.1
    | inr new =>
        obtain ⟨t, member, own, rfl⟩ := new
        exact (formed t member own).1
  · intro o inside
    rw [modifySect_sects] at inside
    obtain ⟨s, member, rfl⟩ := List.mem_map.mp inside
    cases mem_update member with
    | inl old => exact sound.regular.bare _ (List.mem_map_of_mem old.1)
    | inr new =>
        obtain ⟨t, old, own, rfl⟩ := new
        exact (formed t old own).2
  · intro o inside nameless
    rw [modifySect_sects] at inside
    obtain ⟨s, member, rfl⟩ := List.mem_map.mp inside
    cases mem_update member with
    | inl old => exact sound.regular.start _ (List.mem_map_of_mem old.1) nameless
    | inr new =>
        obtain ⟨t, -, own, rfl⟩ := new
        exact absurd ((keeps t own).symm.trans (congrArg folded nameless)) named

theorem valueAt_modifySect {change : XiniSection → XiniSection}
    (keeps : ∀ s, foldedKey s = folded name → foldedKey (change s) = folded name)
    (n k : List Byte) : value (f.modifySect name change).sects n k =
      if n = folded name then (entry foldedKey f.sects n).bind fun s => (change s).value k
      else value f.sects n k := by
  unfold value
  rw [modifySect_sects, entry_update keeps]
  by_cases own : n = folded name
  · rw [if_pos own, if_pos own, Option.bind_map]
    rfl
  · rw [if_neg own, if_neg own]

/-! ## Looking an entry up -/

theorem Clean.legible (clean : Clean name key) :
    (keyvalue (xstrTrim key) (xstrTrim key) []).Legible := by
  refine ⟨rfl, plain_trim (single_iff clean.singleKey), plain_nil, clean.nonempty, clean.noEqual,
    clean.noComment, fun both => ?_⟩
  cases both.2

/-- The section gets an entry with an empty value, if it has none. -/
theorem subscript_eq (clean : Clean name key) (s : XiniSection) : s.subscript key =
    some (s.pushNode (keyvalue (xstrTrim key) (xstrTrim key) [])) := by
  have plain := plain_trim (single_iff clean.singleKey)
  unfold XiniSection.subscript XiniSection.pushNode
  dsimp only
  rw [keyvalueTryCreate_line plain plain_nil clean.nonempty clean.noEqual, clean.singleKey]
  rw [if_neg (by decide)]
  split <;> rfl

/-- A section that is new goes to the end of the file. -/
theorem XiniFile.Sound.addSect (sound : f.Sound) {s : XiniSection} (formed : Formed s)
    (bare : Bare s.key) (named : folded s.key ≠ [])
    (fresh : ∀ t ∈ f.sects, foldedKey t ≠ folded s.key) :
    XiniFile.Sound { f with sects := f.sects ++ [s] } := by
  have added : outline (f.sects ++ [s]) = outline f.sects ++ [(s.key, s.ndkv)] := by
    rw [outline, List.map_append]
    rfl
  refine ⟨⟨?_, ?_, ?_⟩, ⟨?_, ?_⟩, sound.mark⟩
  · intro t inside
    cases List.mem_append.mp inside with
    | inl old => exact sound.wellFormed.formed t old
    | inr own =>
        rw [List.mem_singleton.mp own]
        exact formed
  · rw [List.map_append, List.nodup_append]
    refine ⟨sound.wellFormed.distinct, List.nodup_singleton _, ?_⟩
    intro a inside b own
    obtain ⟨t, member, rfl⟩ := List.mem_map.mp inside
    rw [List.mem_singleton.mp own]
    exact fresh t member
  · have nameless := sound.wellFormed.named
    rw [List.map_append]
    cases keys : f.sects.map foldedKey with
    | nil => exact List.not_mem_nil
    | cons k ks =>
        rw [keys] at nameless
        intro inside
        cases List.mem_append.mp inside with
        | inl old => exact nameless old
        | inr own => exact named (List.mem_singleton.mp own).symm
  · rw [added]
    intro o inside
    cases List.mem_append.mp inside with
    | inl old => exact sound.regular.bare o old
    | inr own =>
        rw [List.mem_singleton.mp own]
        exact bare
  · rw [added]
    intro o inside nameless
    cases List.mem_append.mp inside with
    | inl old => exact sound.regular.start o old nameless
    | inr own =>
        rw [List.mem_singleton.mp own] at nameless
        exact absurd (congrArg folded nameless) named

theorem subscript_sound (sound : f.Sound) (clean : Clean name key) :
    ∃ g, f.subscript name = some g ∧ g.Sound ∧ g.head = f.head ∧ g.dirty = f.dirty ∧
      (∀ n k, value g.sects n k = value f.sects n k) ∧
      ∃ s, g.findSect (XiniFile.sectName name) = some s := by
  have plain := plain_sectName clean.singleName
  have nonempty : XiniFile.sectName name ≠ [] :=
    fun nothing => clean.named (congrArg folded nothing)
  unfold XiniFile.subscript
  rw [clean.singleName]
  dsimp only
  cases found : f.findSect (XiniFile.sectName name) with
  | some s => exact ⟨f, rfl, sound, rfl, rfl, fun _ _ => rfl, s, found⟩
  | none =>
      have named := clean.named
      have bare := clean.bare
      generalize XiniFile.sectName name = new at *
      have formed : Formed ⟨new, [sect new]⟩ := by
        refine ⟨?_, List.nodup_nil, Or.inr ⟨named, [], false, [], rfl, ?_⟩⟩
        · intro node inside
          rw [List.mem_singleton.mp inside]
          exact ⟨plain, nonempty⟩
        · exact fun _ => List.not_mem_nil
      have created : sectionTryCreate (lsect :: new ++ [rsect]) = some (sect new) := by
        have last : (lsect :: new ++ [rsect]).getLast? = some rsect :=
          List.getLast?_append_of_ne_nil _ (List.cons_ne_nil _ _)
        unfold sectionTryCreate
        rw [if_pos ⟨rfl, last⟩, bracketed_sect plain nonempty bare]
      have added : outline (f.sects ++ [⟨new, [sect new]⟩]) = outline f.sects ++ [(new, [])] := by
        rw [outline, List.map_append]
        rfl
      rw [findSect_eq] at found
      refine ⟨{ f with sects := f.sects ++ [⟨new, [sect new]⟩] }, ?_,
        sound.addSect formed bare named (entry_eq_none.mp found), rfl, rfl, value_added added,
        ⟨new, [sect new]⟩, ?_⟩
      · rw [created]
        rfl
      · rw [findSect_eq, entry_append, found]
        exact entry_cons_self rfl

/-- An entry has its value, or an empty one; every other value is as before. -/
theorem entry_sound (sound : f.Sound) (clean : Clean name key) :
    ∃ g, f.entry name key = some g ∧ g.Sound ∧ g.head = f.head ∧ g.dirty = f.dirty ∧
      ∀ p, valueAt g p =
        if p = place name key then some ((valueAt f p).getD []) else valueAt f p := by
  obtain ⟨g, opened, sound', head, dirty, same, s, found⟩ := subscript_sound sound clean
  have foundEntry : entry foldedKey g.sects (folded (XiniFile.sectName name)) = some s :=
    findSect_eq ▸ found
  have own : foldedKey s = folded (XiniFile.sectName name) := key_of_entry foundEntry
  have inside : s ∈ g.sects := mem_of_entry foundEntry
  let new := s.pushNode (keyvalue (xstrTrim key) (xstrTrim key) [])
  have newKey : new.key = s.key := key_pushNode s _
  have keeps : ∀ t, foldedKey t = folded (XiniFile.sectName name) →
      foldedKey new = folded (XiniFile.sectName name) :=
    fun t _ => (congrArg folded newKey).trans own
  refine ⟨g.modifySect (XiniFile.sectName name) fun _ => new, ?_, ?_, head, dirty, ?_⟩
  · unfold XiniFile.entry
    rw [opened, Option.bind_some, found, Option.bind_some, subscript_eq clean, Option.map_some]
  · refine sound'.modifySect clean.named keeps fun t _ _ => ⟨?_, ?_⟩
    · exact (sound'.wellFormed.formed s inside).pushNode clean.legible (by simp)
    · exact newKey ▸ sound'.regular.bare _ (List.mem_map_of_mem inside)
  · rintro ⟨n, k⟩
    have before : value g.sects (folded (XiniFile.sectName name)) k = s.value k := by
      rw [value, foundEntry, Option.bind_some]
    unfold valueAt place
    dsimp only
    rw [valueAt_modifySect keeps, ← same n k]
    by_cases here : n = folded (XiniFile.sectName name)
    · rw [if_pos here, here, foundEntry, Option.bind_some, value_pushNode, before]
      by_cases mine : folded (xstrTrim key) = k
      · rw [if_pos mine, if_pos (congrArg (Prod.mk _) mine.symm)]
        cases s.value k <;> rfl
      · rw [if_neg mine, if_neg fun both => mine (Prod.ext_iff.mp both).2.symm, Option.or_none]
    · rw [if_neg here, if_neg fun both => here (Prod.ext_iff.mp both).1]

theorem lookup_eq_valueAt : f.lookup name key = valueAt f (place name key) := lookup_eq f name key

/-- Reading an entry gives its value, or an empty string. -/
theorem read_sound (sound : f.Sound) (clean : Clean name key) :
    ∃ g, f.read name key = some (g, (valueAt f (place name key)).getD []) ∧ g.Sound ∧
      g.head = f.head ∧ g.dirty = f.dirty ∧
      ∀ p, (valueAt g p).getD [] = (valueAt f p).getD [] := by
  obtain ⟨g, opened, sound', head, dirty, values⟩ := entry_sound sound clean
  refine ⟨g, ?_, sound', head, dirty, fun p => ?_⟩
  · unfold XiniFile.read
    rw [opened, Option.bind_some, lookup_eq_valueAt, values, if_pos rfl, Option.map_some]
  · rw [values]
    split <;> rfl

/-! ## Setting an entry -/

theorem ndkv_setKnode (s : XiniSection) (key v : List Byte) : (s.setKnode key v).ndkv =
    update foldedName (folded key) (fun e => (e.1, v)) s.ndkv := by
  unfold XiniSection.setKnode XiniSection.ndkv update
  rw [List.filterMap_map, List.map_filterMap]
  apply List.filterMap_congr
  intro node inside
  cases node with
  | nilline | comment | sect => rfl
  | keyvalue k kname old =>
      simp only [Function.comp_apply, XiniNode.ndkv, Option.map_some, xstrIcmp_eq_zero]
      by_cases own : folded k = folded key
      · have name : foldedName (k, old) = folded key := own
        rw [if_pos own, if_pos name]
      · have name : ¬foldedName (k, old) = folded key := own
        rw [if_neg own, if_neg name]

theorem keeps_name (v n : List Byte) (e : List Byte × List Byte) (own : foldedName e = n) :
    foldedName (e.1, v) = n := own

theorem value_setKnode (s : XiniSection) (key v k : List Byte) : (s.setKnode key v).value k =
    if k = folded key then (s.value k).map fun _ => v else s.value k := by
  unfold XiniSection.value
  rw [ndkv_setKnode, entry_update (keeps_name v _)]
  split
  · rw [Option.map_map, Option.map_map]
    rfl
  · rfl

theorem Formed.setKnode {s : XiniSection} (formed : Formed s) {v : List Byte} (plain : Plain v)
    (last : v.getLast? ≠ some rsect) (key : List Byte) : Formed (s.setKnode key v) := by
  refine ⟨?_, ?_, ?_⟩
  · intro node inside
    obtain ⟨old, member, rfl⟩ := List.mem_map.mp inside
    have legible := formed.legible old member
    cases old with
    | nilline | comment | sect => exact legible
    | keyvalue k kname value =>
        dsimp only
        split
        · obtain ⟨own, plainKey, -, nonempty, noEqual, noComment, -⟩ := legible
          exact ⟨own, plainKey, plain, nonempty, noEqual, noComment, fun both => last both.2⟩
        · exact legible
  · rw [ndkv_setKnode, map_update (keeps_name v _)]
    exact formed.keys
  · have inner : ∀ {nodes : List XiniNode}, (∀ name, sect name ∉ nodes) →
        ∀ name, sect name ∉ (XiniSection.setKnode ⟨s.key, nodes⟩ key v).nodes := by
      intro nodes inner name inside
      obtain ⟨old, member, eq⟩ := List.mem_map.mp inside
      cases old with
      | nilline | comment | keyvalue => cases eq
      | sect other => exact inner other member
    cases formed.place with
    | inl unnamed => exact Or.inl ⟨unnamed.1, inner unnamed.2⟩
    | inr headed =>
        obtain ⟨named, texts, blank, body, nodes, tail⟩ := headed
        refine Or.inr ⟨named, texts, blank, _, ?_, inner tail⟩
        unfold XiniSection.setKnode
        dsimp only
        rw [nodes, List.map_append, List.map_cons]
        congr 1
        unfold tailComment
        rw [List.map_append, List.map_map]
        cases blank <;> rfl

/-- The value is set, and no other value changes. -/
theorem invkSetValue_sound (sound : f.Sound) (named : folded (XiniFile.sectName name) ≠ [])
    {v : List Byte} (plain : Plain v) (last : v.getLast? ≠ some rsect)
    (there : valueAt f (place name key) ≠ none) :
    (f.invkSetValue name key v).Sound ∧ (f.invkSetValue name key v).head = f.head ∧
      (f.invkSetValue name key v).dirty = (f.dirty || valueAt f (place name key) ≠ some v) ∧
      ∀ p, valueAt (f.invkSetValue name key v) p =
        if p = place name key then some v else valueAt f p := by
  unfold XiniFile.invkSetValue
  rw [lookup_eq_valueAt]
  by_cases same : valueAt f (place name key) = some v
  · rw [if_pos same]
    refine ⟨sound, rfl, by simp [same], fun p => ?_⟩
    by_cases own : p = place name key
    · rw [if_pos own, own, same]
    · rw [if_neg own]
  · rw [if_neg same]
    have keeps : ∀ s, foldedKey s = folded (XiniFile.sectName name) →
        foldedKey (s.setKnode (xstrTrim key) v) = folded (XiniFile.sectName name) :=
      fun s own => own
    have changed := sound.modifySect named keeps fun s inside _ =>
      ⟨(sound.wellFormed.formed s inside).setKnode plain last _,
        sound.regular.bare _ (List.mem_map_of_mem inside)⟩
    refine ⟨⟨changed.wellFormed, changed.regular, changed.mark⟩, rfl, by simp [same], ?_⟩
    rintro ⟨n, k⟩
    have set := valueAt_modifySect (f := f) keeps n k
    refine set.trans ?_
    unfold valueAt place at *
    by_cases here : n = folded (XiniFile.sectName name)
    · rw [if_pos here]
      cases found : entry foldedKey f.sects n with
      | none =>
          rw [value, ← here, found] at there
          exact absurd rfl there
      | some s =>
          have before : value f.sects n k = s.value k := by
            rw [value, found, Option.bind_some]
          rw [Option.bind_some, value_setKnode, before]
          by_cases mine : k = folded (xstrTrim key)
          · rw [if_pos mine, if_pos (by rw [here, mine])]
            rw [value, ← here, found, Option.bind_some, ← mine] at there
            cases known : s.value k with
            | none => exact absurd known there
            | some old => rfl
          · rw [if_neg mine, if_neg fun both => mine (Prod.ext_iff.mp both).2]
    · rw [if_neg here, if_neg fun both => here (Prod.ext_iff.mp both).1]

end

/-! ## Numbers -/

theorem toNat_digit {c : Char} (digit : c.isDigit) :
    (BitVec.ofNat 8 c.toNat).toNat = c.toNat ∧ 48 ≤ c.toNat ∧ c.toNat ≤ 57 := by
  obtain ⟨low, high⟩ := Char.isDigit_iff_toNat.mp digit
  have low : 48 ≤ c.toNat := low
  have high : c.toNat ≤ 57 := high
  exact ⟨Nat.mod_eq_of_lt (by omega), low, high⟩

theorem isDigit_digit {c : Char} (digit : c.isDigit) : isDigit (BitVec.ofNat 8 c.toNat) = true := by
  obtain ⟨same, low, high⟩ := toNat_digit digit
  simp only [isDigit, decide_eq_true_eq, BitVec.le_def, same]
  exact ⟨low, high⟩

theorem foldl_digits {digits : List Char} (all : ∀ c ∈ digits, c.isDigit) (n : Nat) :
    (digits.map fun c => BitVec.ofNat 8 c.toNat).foldl
        (fun (n : Int) (c : Byte) => 10 * n + (c.toNat - 0x30)) n =
      Nat.ofDigitChars 10 digits n := by
  induction digits generalizing n with
  | nil => simp
  | cons c digits ih =>
      obtain ⟨same, low, -⟩ := toNat_digit (all c List.mem_cons_self)
      have step : (10 * (n : Int) + ((BitVec.ofNat 8 c.toNat).toNat - 0x30)) =
          ((10 * n + (c.toNat - '0'.toNat) : Nat) : Int) := by
        have zero : '0'.toNat = 48 := rfl
        rw [same, zero]
        omega
      rw [List.map_cons, List.foldl_cons, step, Nat.ofDigitChars_cons,
        ih fun d inside => all d (List.mem_cons_of_mem c inside)]

/-- The digits of a number, as bytes. -/
def digits (n : Nat) : List Byte := (Nat.toDigits 10 n).map fun c => BitVec.ofNat 8 c.toNat

theorem isDigit_of_mem_digits {n : Nat} {c : Byte} (inside : c ∈ digits n) : isDigit c = true := by
  obtain ⟨d, member, rfl⟩ := List.mem_map.mp inside
  exact isDigit_digit (Nat.isDigit_of_mem_toDigits (by decide) (by decide) member)

theorem digits_ne_nil (n : Nat) : digits n ≠ [] := by
  intro nothing
  exact Nat.toDigits_ne_nil (List.map_eq_nil_iff.mp nothing)

theorem number_digits (n : Nat) : ((digits n).takeWhile isDigit).foldl
    (fun (n : Int) (c : Byte) => 10 * n + (c.toNat - 0x30)) 0 = n := by
  rw [List.takeWhile_eq_self_iff.mpr fun c inside => isDigit_of_mem_digits inside]
  have all : ∀ c ∈ Nat.toDigits 10 n, c.isDigit :=
    fun c inside => Nat.isDigit_of_mem_toDigits (by decide) (by decide) inside
  have value := foldl_digits all 0
  rw [Nat.ofDigitChars_ten_toDigits] at value
  exact value

theorem digit_other {c : Byte} (digit : isDigit c = true) :
    space c = false ∧ c ≠ lineFeed ∧ c ≠ rsect ∧ c ≠ 0x2d ∧ c ≠ 0x2b := by
  revert c
  decide

theorem decimal_eq (n : Int) :
    decimal n = if n < 0 then 0x2d :: digits n.natAbs else digits n.natAbs := rfl

theorem plain_decimal (n : Int) : Plain (decimal n) := by
  have head : ∀ c ∈ (decimal n).head?, space c = false := by
    rw [decimal_eq]
    split
    · intro c first
      cases first
      rfl
    · intro c first
      exact (digit_other (isDigit_of_mem_digits (List.mem_of_mem_head? first))).1
  have last : ∀ c ∈ (decimal n).getLast?, isDigit c = true := by
    rw [decimal_eq]
    split
    · rw [List.getLast?_cons_of_ne_nil (digits_ne_nil _)]
      exact fun c inside => isDigit_of_mem_digits (List.mem_of_getLast? inside)
    · exact fun c inside => isDigit_of_mem_digits (List.mem_of_getLast? inside)
  refine ⟨⟨head, fun c inside => (digit_other (last c inside)).1⟩, ?_⟩
  have digits_single : lineFeed ∉ digits n.natAbs :=
    fun inside => (digit_other (isDigit_of_mem_digits inside)).2.1 rfl
  rw [decimal_eq]
  split
  · intro inside
    cases List.mem_cons.mp inside with
    | inl sign => exact absurd sign (by decide)
    | inr digit => exact digits_single digit
  · exact digits_single

theorem last_decimal (n : Int) : (decimal n).getLast? ≠ some rsect := by
  have last : (digits n.natAbs).getLast? ≠ some rsect := fun inside =>
    (digit_other (isDigit_of_mem_digits (List.mem_of_getLast? inside))).2.2.1 rfl
  rw [decimal_eq]
  split
  · rwa [List.getLast?_cons_of_ne_nil (digits_ne_nil _)]
  · exact last

/-- A number is read as it was printed. -/
theorem atoll_decimal {n : Int} (low : -2 ^ 63 ≤ n) (high : n < 2 ^ 63) :
    atoll (decimal n) = n := by
  have start : (decimal n).dropWhile (xspaceChars.contains ·) = decimal n :=
    Trimmed.dropWhile_eq (plain_decimal n).trimmed.head
  have bound : max (-2 ^ 63) (min n (2 ^ 63 - 1)) = n := by omega
  unfold atoll
  rw [start, decimal_eq]
  dsimp only
  by_cases negative : n < 0
  · rw [if_pos negative]
    dsimp only
    rw [if_pos rfl, number_digits]
    have same : -(n.natAbs : Int) = n := by omega
    rw [same, bound]
  · rw [if_neg negative]
    have same : (n.natAbs : Int) = n := by omega
    have value := number_digits n.natAbs
    cases shape : digits n.natAbs with
    | nil => exact absurd shape (digits_ne_nil _)
    | cons c rest =>
        have digit := digit_other (isDigit_of_mem_digits (shape ▸ List.mem_cons_self))
        rw [shape] at value
        dsimp only
        rw [if_neg digit.2.2.2.1, if_neg digit.2.2.2.2, value, same, bound]

end Jincubator.Ini
