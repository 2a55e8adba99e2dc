import Mathlib.Data.List.Nodup

/-! # Lists with a key

The entry of a key in a list is the first one that has it. Where the keys are distinct a
changed entry is found under its key, and every other entry as before.
-/

namespace Keyed

variable {α κ : Type*}

theorem map_modify {key : α → κ} {f : α → α} (keeps : ∀ a, key (f a) = key a) (l : List α)
    (i : Nat) : (l.modify i f).map key = l.map key := by
  induction l generalizing i with
  | nil => rw [List.modify_nil]
  | cons b l ih =>
      cases i with
      | zero => rw [List.modify_zero_cons, List.map_cons, List.map_cons, keeps]
      | succ i => rw [List.modify_succ_cons, List.map_cons, List.map_cons, ih]

theorem mem_modify {f : α → α} {l : List α} {i : Nat} {a : α} (inside : a ∈ l.modify i f) :
    a ∈ l ∨ ∃ b ∈ l, a = f b := by
  induction l generalizing i with
  | nil => simp at inside
  | cons b l ih =>
      cases i with
      | zero =>
          rw [List.modify_zero_cons] at inside
          cases inside with
          | head => exact Or.inr ⟨b, List.mem_cons_self, rfl⟩
          | tail _ rest => exact Or.inl (List.mem_cons_of_mem b rest)
      | succ i =>
          rw [List.modify_succ_cons] at inside
          cases inside with
          | head => exact Or.inl List.mem_cons_self
          | tail _ rest =>
              cases ih rest with
              | inl old => exact Or.inl (List.mem_cons_of_mem b old)
              | inr changed =>
                  obtain ⟨c, member, eq⟩ := changed
                  exact Or.inr ⟨c, List.mem_cons_of_mem b member, eq⟩

variable [DecidableEq κ] (key : α → κ)

def entry (l : List α) (k : κ) : Option α := l.find? fun a => key a = k

variable {key} {l r : List α} {a : α} {k : κ}

theorem entry_cons_self (own : key a = k) : entry key (a :: l) k = some a :=
  List.find?_cons_of_pos (by simpa using own)

theorem entry_cons_of_ne (other : key a ≠ k) : entry key (a :: l) k = entry key l k :=
  List.find?_cons_of_neg (by simpa using other)

theorem entry_append : entry key (l ++ r) k = (entry key l k).or (entry key r k) :=
  List.find?_append

theorem entry_eq_none : entry key l k = none ↔ ∀ a ∈ l, key a ≠ k := by
  simp [entry]

theorem key_of_entry (found : entry key l k = some a) : key a = k := by
  simpa using List.find?_some found

theorem mem_of_entry (found : entry key l k = some a) : a ∈ l := List.mem_of_find?_eq_some found

/-- An entry is the only one with its key. -/
theorem entry_of_mem (distinct : (l.map key).Nodup) (inside : a ∈ l) :
    entry key l (key a) = some a := by
  induction l with
  | nil => cases inside
  | cons b l ih =>
      rw [List.map_cons, List.nodup_cons] at distinct
      cases inside with
      | head => exact entry_cons_self rfl
      | tail _ inside =>
          have other : key b ≠ key a :=
            fun same => distinct.1 (same ▸ List.mem_map_of_mem inside)
          rw [entry_cons_of_ne other, ih distinct.2 inside]

theorem entry_modify {f : α → α} (keeps : ∀ a, key (f a) = key a) (distinct : (l.map key).Nodup)
    {i : Nat} (place : l[i]? = some a) :
    entry key (l.modify i f) k = if key a = k then some (f a) else entry key l k := by
  induction l generalizing i with
  | nil => simp at place
  | cons b l ih =>
      rw [List.map_cons, List.nodup_cons] at distinct
      cases i with
      | zero =>
          cases place
          rw [List.modify_zero_cons]
          split
          · rename_i own
            exact entry_cons_self ((keeps _).trans own)
          · rename_i other
            have moved : key (f a) ≠ k := fun own => other ((keeps a).symm.trans own)
            rw [entry_cons_of_ne moved, entry_cons_of_ne other]
      | succ i =>
          rw [List.modify_succ_cons]
          rw [List.getElem?_cons_succ] at place
          by_cases own : key b = k
          · have inside : key a ∈ l.map key :=
              List.mem_map_of_mem (List.mem_of_getElem? place)
            have other : key a ≠ k := fun same => distinct.1 (own.trans same.symm ▸ inside)
            rw [entry_cons_self own, entry_cons_self own, if_neg other]
          · rw [entry_cons_of_ne own, ih distinct.2 place, entry_cons_of_ne own]

/-- The entry of one key, changed. -/
def update (key : α → κ) (j : κ) (f : α → α) (l : List α) : List α :=
  l.map fun a => if key a = j then f a else a

variable {j : κ} {f : α → α}

theorem map_update (keeps : ∀ a, key a = j → key (f a) = j) :
    (update key j f l).map key = l.map key := by
  rw [update, List.map_map]
  apply List.map_congr_left
  intro a inside
  by_cases own : key a = j
  · rw [Function.comp_apply, if_pos own, keeps a own, own]
  · rw [Function.comp_apply, if_neg own]

theorem entry_update (keeps : ∀ a, key a = j → key (f a) = j) :
    entry key (update key j f l) k =
      if k = j then (entry key l k).map f else entry key l k := by
  induction l with
  | nil => simp [entry, update]
  | cons b l ih =>
      rw [update, List.map_cons]
      by_cases own : key b = k
      · by_cases changed : key b = j
        · rw [if_pos changed, entry_cons_self ((keeps b changed).trans (changed.symm.trans own)),
            entry_cons_self own, if_pos (own.symm.trans changed), Option.map_some]
        · rw [if_neg changed, entry_cons_self own,
            if_neg fun same => changed (own.trans same), entry_cons_self own]
      · have moved : key (if key b = j then f b else b) ≠ k := by
          split
          · rename_i changed
            exact fun same => own (changed.trans ((keeps b changed).symm.trans same))
          · exact own
        rw [entry_cons_of_ne moved, entry_cons_of_ne own]
        exact ih

end Keyed
