import Mathlib.Data.List.Induction
import Mathlib.Data.List.Nodup
import Mathlib.Data.List.Perm.Basic
import Colony.Table

/-!
# What a table lists

The table of a list of entries has each of their keys once, in the order in
which the keys first came, and under a key the value that came last.
-/

namespace Colony.Table

/-- What a list that was mapped is reordered to, the list itself is reordered to before that. -/
theorem exists_map_of_perm {β γ : Type} {f : β → γ} {moved : List γ} {others : List β}
    (perm : moved.Perm (others.map f)) :
    ∃ matching : List β, matching.map f = moved ∧ matching.Perm others := by
  have mapped : List.Forall₂ (fun c b => c = f b) (others.map f) others := by
    rw [List.forall₂_map_left_iff]
    exact List.forall₂_same.mpr fun _ _ => rfl
  obtain ⟨matching, same, order⟩ := List.perm_comp_forall₂ perm mapped
  refine ⟨matching, ?_, order⟩
  clear order mapped perm
  induction same with
  | nil => rfl
  | cons first _ ih => rw [List.map_cons, first, ih]

variable {κ ν : Type} [BEq κ]

/-! ## What holds of every entry -/

section Entries

variable {P : ν → Prop}

theorem of_get? {table : Table κ ν} (all : ∀ entry ∈ table, P entry.2) {key : κ} {value : ν}
    (found : table.get? key = some value) : P value := by
  induction table with
  | nil => cases found
  | cons entry rest ih =>
      rw [get?] at found
      split at found
      · cases found
        exact all _ List.mem_cons_self
      · exact ih (fun other member => all other (List.mem_cons_of_mem entry member)) found

theorem forall_put {table : Table κ ν} (all : ∀ entry ∈ table, P entry.2) (key : κ) {value : ν}
    (new : P value) : ∀ entry ∈ table.put key value, P entry.2 := by
  induction table with
  | nil =>
      intro entry member
      rw [List.mem_singleton.mp member]
      exact new
  | cons first rest ih =>
      have others := fun other member => all other (List.mem_cons_of_mem first member)
      unfold put
      intro entry member
      split at member
      · rcases List.mem_cons.mp member with rfl | old
        · exact new
        · exact others entry old
      · rcases List.mem_cons.mp member with rfl | later
        · exact all _ List.mem_cons_self
        · exact ih others entry later

end Entries

/-! ## Keys -/

theorem ofList_concat (entries : List (κ × ν)) (entry : κ × ν) :
    ofList (entries ++ [entry]) = (ofList entries).put entry.1 entry.2 := by
  simp [ofList]

theorem forall_ofList {P : ν → Prop} {entries : List (κ × ν)} (all : ∀ entry ∈ entries, P entry.2) :
    ∀ entry ∈ ofList entries, P entry.2 := by
  induction entries using List.reverseRecOn with
  | nil => exact List.forall_mem_nil _
  | append_singleton entries entry ih =>
      rw [ofList_concat]
      have old := ih fun other member => all other (List.mem_append_left _ member)
      exact forall_put old entry.1 (all entry (by simp))

variable [LawfulBEq κ]

theorem keys_put_of_mem {key : κ} {table : Table κ ν} (known : key ∈ table.map (·.1))
    (value : ν) : (table.put key value).map (·.1) = table.map (·.1) := by
  induction table with
  | nil => cases known
  | cons entry rest ih =>
      obtain ⟨k, v⟩ := entry
      unfold put
      split
      · rfl
      · rename_i other
        have later : key ∈ rest.map (·.1) := by
          rcases List.mem_cons.mp known with rfl | later
          · simp at other
          · exact later
        rw [List.map_cons, ih later, List.map_cons]

theorem keys_put_of_not_mem {key : κ} {table : Table κ ν} (unknown : key ∉ table.map (·.1))
    (value : ν) : (table.put key value).map (·.1) = table.map (·.1) ++ [key] := by
  rw [put_of_absent unknown, List.map_append, List.map_singleton]

theorem keys_ofList (entries : List (κ × ν)) :
    (ofList entries).map (·.1) = (entries.map (·.1)).eraseDups := by
  induction entries using List.reverseRecOn with
  | nil => rfl
  | append_singleton entries entry ih =>
      rw [ofList_concat, List.map_append, List.map_singleton, List.eraseDups_append]
      by_cases known : entry.1 ∈ entries.map (·.1)
      · rw [keys_put_of_mem (by rwa [ih, List.mem_eraseDups]), ih]
        simp [List.removeAll, known]
      · rw [keys_put_of_not_mem (by rwa [ih, List.mem_eraseDups]), ih]
        simp [List.removeAll, known, List.eraseDups_cons]

theorem nodup_keys_ofList (entries : List (κ × ν)) : ((ofList entries).map (·.1)).Nodup := by
  induction entries using List.reverseRecOn with
  | nil => exact List.nodup_nil
  | append_singleton entries entry ih =>
      rw [ofList_concat]
      by_cases known : entry.1 ∈ (ofList entries).map (·.1)
      · rwa [keys_put_of_mem known]
      · rw [keys_put_of_not_mem known]
        simpa using ih.concat known

/-- A key that comes again does not change the place of any. -/
theorem keys_ofList_sublist (entries : List (κ × ν)) :
    ((ofList entries).map (·.1)).Sublist (entries.map (·.1)) := by
  induction entries using List.reverseRecOn with
  | nil => exact .slnil
  | append_singleton entries entry ih =>
      rw [ofList_concat, List.map_append, List.map_singleton]
      by_cases known : entry.1 ∈ (ofList entries).map (·.1)
      · rw [keys_put_of_mem known]
        exact ih.trans (List.sublist_append_left _ _)
      · rw [keys_put_of_not_mem known]
        exact ih.append (List.Sublist.refl _)

/-! ## Values -/

/-- All values that are given to a key, the last at the end. -/
def valuesFor (key : κ) (entries : List (κ × ν)) : List ν :=
  (entries.filter (·.1 == key)).map (·.2)

theorem get?_ofList (entries : List (κ × ν)) (key : κ) :
    (ofList entries).get? key = (valuesFor key entries).getLast? := by
  induction entries using List.reverseRecOn with
  | nil => rfl
  | append_singleton entries entry ih =>
      rw [ofList_concat, valuesFor, List.filter_append, List.map_append]
      by_cases same : entry.1 = key
      · simp [← same, get?_put_self]
      · simpa [get?_put_of_ne same, same, valuesFor] using ih

theorem mem_iff_get? {table : Table κ ν} (distinct : (table.map (·.1)).Nodup) {key : κ}
    {value : ν} : (key, value) ∈ table ↔ table.get? key = some value := by
  induction table with
  | nil => simp [get?]
  | cons entry rest ih =>
      obtain ⟨k, v⟩ := entry
      obtain ⟨absent, distinct⟩ := List.nodup_cons.mp distinct
      unfold get?
      by_cases same : k = key
      · subst same
        have elsewhere : (k, value) ∉ rest := fun member =>
          absent (List.mem_map.mpr ⟨(k, value), member, rfl⟩)
        simp [elsewhere, eq_comm]
      · simp [Ne.symm same, same, ih distinct]

/-! ## One table over another -/

theorem get?_ofList_append (entries others : List (κ × ν)) (key : κ) :
    (ofList (entries ++ others)).get? key =
      ((ofList others).get? key).or ((ofList entries).get? key) := by
  rw [get?_ofList, get?_ofList, get?_ofList, valuesFor, List.filter_append, List.map_append,
    List.getLast?_append]
  rfl

theorem get?_eq_none_iff {table : Table κ ν} {key : κ} :
    table.get? key = none ↔ key ∉ table.map (·.1) := by
  induction table with
  | nil => simp [get?]
  | cons entry rest ih =>
      obtain ⟨k, v⟩ := entry
      unfold get?
      by_cases same : k = key
      · simp [same]
      · simp [same, Ne.symm same, ih]

/-- Where the second of two tables has a key, its entry is taken. -/
theorem mem_ofList_append {table upper : Table κ ν} (distinct : (table.map (·.1)).Nodup)
    (distinctUpper : (upper.map (·.1)).Nodup) {entry : κ × ν} :
    entry ∈ ofList (table ++ upper) ↔
      entry ∈ upper ∨ (entry ∈ table ∧ entry.1 ∉ upper.map (·.1)) := by
  obtain ⟨key, value⟩ := entry
  rw [mem_iff_get? (nodup_keys_ofList _), get?_ofList_append, ofList_of_nodup distinct,
    ofList_of_nodup distinctUpper, Option.or_eq_some_iff, ← mem_iff_get? distinct,
    ← mem_iff_get? distinctUpper, get?_eq_none_iff, and_comm (a := key ∉ _)]

theorem keys_ofList_append {table upper : List (κ × ν)} {key : κ} :
    key ∈ (ofList (table ++ upper)).map (·.1) ↔
      key ∈ table.map (·.1) ∨ key ∈ upper.map (·.1) := by
  rw [keys_ofList, List.mem_eraseDups, List.map_append, List.mem_append]

end Colony.Table
