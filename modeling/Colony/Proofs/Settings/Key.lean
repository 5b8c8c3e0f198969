import Colony.Settings.Override

/-!
# Keys of settings

A key is divided at its first point: what stands before it names a section,
what follows one of its fields.  The seed goes without a field, and a point
after it alone makes no difference.  So the keys that name something can be
spelled out, and any other key is refused for one reason.
-/

namespace Colony.Settings

/-- The keys that name a target, as they are spelled. -/
inductive Names : String → Target → Prop where
  | seed : Names "seed" .seed
  | seedPoint : Names "seed." .seed
  | knob {group : Group} {knob : Knob} (listed : knob ∈ Knob.inGroup group) :
      Names (group.name ++ "." ++ knob.field) (.knob knob)

/-- The keys that name nothing, each with what is wrong with it. -/
inductive Misnames {α : Type} : String → Failure α → Prop where
  | noField {key : String} (unpointed : '.' ∉ key.toList) (ne : key ≠ "seed") :
      Misnames key (.keyWithoutField key)
  | emptyField {before : String} (unpointed : '.' ∉ before.toList) (ne : before ≠ "seed") :
      Misnames (before ++ ".") (.keyWithoutField (before ++ "."))
  | unknownSection {before field : String} (unpointed : '.' ∉ before.toList) (given : field ≠ "")
      (unknown : ∀ group : Group, group.name ≠ before) :
      Misnames (before ++ "." ++ field) (.unknownSection before)
  | unknownField {group : Group} {field : String} (given : field ≠ "")
      (unknown : ∀ knob ∈ Knob.inGroup group, knob.field ≠ field) :
      Misnames (group.name ++ "." ++ field) (.unknownField group.title field)

/-! ## Sections and fields by name -/

theorem Group.ofName?_name (group : Group) : Group.ofName? group.name = some group := by
  cases group <;> rfl

theorem Group.ofName?_eq_none {name : String} (unknown : ∀ group : Group, group.name ≠ name) :
    Group.ofName? name = none := by
  simp [Group.ofName?, unknown]

theorem Group.unpointed_name (group : Group) : '.' ∉ group.name.toList := by
  cases group <;> decide

theorem Knob.ofField?_field {group : Group} {knob : Knob} (listed : knob ∈ Knob.inGroup group) :
    Knob.ofField? group knob.field = some knob := by
  revert knob
  cases group <;> decide

theorem Knob.ofField?_eq_none {group : Group} {field : String}
    (unknown : ∀ knob ∈ Knob.inGroup group, knob.field ≠ field) :
    Knob.ofField? group field = none := by
  simpa [Knob.ofField?] using unknown

theorem Knob.field_ne_empty (knob : Knob) : knob.field ≠ "" := by
  cases knob <;> decide

/-! ## Dividing a key -/

theorem splitKey_of_unpointed {key : String} (unpointed : '.' ∉ key.toList) :
    splitKey key = (key, "") := by
  rw [splitKey, Text.splitFirst?_eq_none_iff.mpr unpointed]

theorem splitKey_of_point {before : String} (unpointed : '.' ∉ before.toList) (field : String) :
    splitKey (before ++ "." ++ field) = (before, field) := by
  have chars : (before ++ "." ++ field).toList = before.toList ++ '.' :: field.toList := by
    simp
  rw [splitKey, chars, Text.splitFirst?_append unpointed]
  simp

/-- A key has no point, or it is divided at its first one. -/
theorem point_cases (key : String) : '.' ∉ key.toList ∨
    ∃ before field, '.' ∉ before.toList ∧ key = before ++ "." ++ field := by
  cases cut : Text.splitFirst? '.' key.toList with
  | none => exact .inl (Text.splitFirst?_eq_none_iff.mp cut)
  | some parts =>
      obtain ⟨whole, free⟩ := Text.splitFirst?_eq_some cut
      refine .inr ⟨String.ofList parts.1, String.ofList parts.2, by simpa using free, ?_⟩
      apply String.toList_inj.mp
      simp [whole]

/-! ## What a key names -/

section Targets

variable {α : Type} {key : String}

theorem ofKey_of_names {target : Target} (names : Names key target) :
    (Target.ofKey key : Answer α Target) = .ok target := by
  cases names with
  | seed => rfl
  | seedPoint => rfl
  | @knob group knob listed =>
      simp [Target.ofKey, splitKey_of_point group.unpointed_name, knob.field_ne_empty,
        Group.ofName?_name, Knob.ofField?_field listed]

theorem ofKey_of_misnames {failure : Failure α} (misnames : Misnames key failure) :
    Target.ofKey key = .error failure := by
  cases misnames with
  | noField unpointed ne => simp [Target.ofKey, splitKey_of_unpointed unpointed, ne]
  | emptyField unpointed ne =>
      have split := splitKey_of_point unpointed ""
      rw [String.append_empty] at split
      simp [Target.ofKey, split, ne]
  | unknownSection unpointed given unknown =>
      simp [Target.ofKey, splitKey_of_point unpointed, given, Group.ofName?_eq_none unknown]
  | @unknownField group field given unknown =>
      simp [Target.ofKey, splitKey_of_point group.unpointed_name, given, Group.ofName?_name,
        Knob.ofField?_eq_none unknown]

/-- Every key names a target or is wrong in one of the listed ways. -/
theorem names_or_misnames (key : String) :
    (∃ target, Names key target) ∨ ∃ failure : Failure α, Misnames key failure := by
  obtain unpointed | ⟨before, field, unpointed, rfl⟩ := point_cases key
  · by_cases seed : key = "seed"
    · exact .inl ⟨.seed, seed ▸ .seed⟩
    · exact .inr ⟨_, .noField unpointed seed⟩
  · by_cases empty : field = ""
    · subst empty
      rw [String.append_empty]
      by_cases seed : before = "seed"
      · subst seed
        exact .inl ⟨.seed, .seedPoint⟩
      · exact .inr ⟨_, .emptyField unpointed seed⟩
    · by_cases known : ∃ group : Group, group.name = before
      · obtain ⟨group, rfl⟩ := known
        by_cases listed : ∃ knob ∈ Knob.inGroup group, knob.field = field
        · obtain ⟨knob, listed, rfl⟩ := listed
          exact .inl ⟨.knob knob, .knob listed⟩
        · exact .inr ⟨_, .unknownField empty (by simpa using listed)⟩
      · exact .inr ⟨_, .unknownSection unpointed empty (by simpa using known)⟩

theorem Names.unique {target other : Target} (names : Names key target)
    (names' : Names key other) : target = other := by
  have read : (Target.ofKey key : Answer Unit Target) = .ok target := ofKey_of_names names
  exact Except.ok.inj (read.symm.trans (ofKey_of_names names'))

/-- A key that names a target is not wrong in any way. -/
theorem Misnames.not_names {failure : Failure α} (misnames : Misnames key failure)
    (target : Target) : ¬ Names key target := by
  intro names
  cases (ofKey_of_names names).symm.trans (ofKey_of_misnames misnames)

end Targets

end Colony.Settings
