import Mathlib.Data.List.Forall2
import Colony.Proofs.Settings.Key
import Colony.Scalar.Amount

/-!
# What overrides leave

An override that is accepted writes one setting, whatever the settings are.
A list of overrides is carried out up to the first one that is rejected, and
what the ones before it wrote is not taken back.  One override alone is
therefore all or nothing, and several are not.
-/

namespace Colony.Settings

variable {α : Type}

/-- The new value of one setting. -/
inductive Write (α : Type) where
  | seed (n : Int)
  | value (knob : Knob) (v : Value α)

namespace Write

def apply : Write α → Settings α → Settings α
  | .seed n, s => { s with seed := n }
  | .value knob v, s => s.set knob v

def seed? : Write α → Option Int
  | .seed n => some n
  | .value _ _ => none

def value? (other : Knob) : Write α → Option (Value α)
  | .seed _ => none
  | .value knob v => if knob = other then some v else none

end Write

def applyAll (writes : List (Write α)) (s : Settings α) : Settings α :=
  writes.foldl (fun s write => write.apply s) s

@[simp] theorem applyAll_nil (s : Settings α) : applyAll [] s = s := rfl

@[simp] theorem applyAll_cons (write : Write α) (writes : List (Write α)) (s : Settings α) :
    applyAll (write :: writes) s = applyAll writes (write.apply s) := rfl

/-- All that is written to the seed, the last at the end. -/
def seedsOf (writes : List (Write α)) : List Int := writes.filterMap Write.seed?

/-- All that is written to the knob, the last at the end. -/
def valuesOf (knob : Knob) (writes : List (Write α)) : List (Value α) :=
  writes.filterMap (Write.value? knob)

/-- The settings once the writes have been made: each setting is as it was last written, or as it
was before if nothing was written to it. -/
structure Rewritten (writes : List (Write α)) (s next : Settings α) : Prop where
  seed : next.seed = (seedsOf writes).getLastD s.seed
  value : ∀ knob, next.value knob = (valuesOf knob writes).getLastD (s.value knob)

theorem Rewritten.eq_self_iff {writes : List (Write α)} {s next : Settings α}
    (h : Rewritten writes s next) :
    next = s ↔ (seedsOf writes).getLastD s.seed = s.seed ∧
      ∀ knob, (valuesOf knob writes).getLastD (s.value knob) = s.value knob := by
  constructor
  · rintro rfl
    exact ⟨h.seed.symm, fun knob => (h.value knob).symm⟩
  · rintro ⟨seed, value⟩
    obtain ⟨n, values⟩ := s
    obtain ⟨m, nextValues⟩ := next
    rw [mk.injEq]
    exact ⟨h.seed.trans seed, funext fun knob => (h.value knob).trans (value knob)⟩

theorem Rewritten.cons {write : Write α} {writes : List (Write α)} {s next : Settings α}
    (h : Rewritten writes (write.apply s) next) : Rewritten (write :: writes) s next := by
  obtain ⟨seed, value⟩ := h
  cases write with
  | seed n =>
      have written : (Write.seed n : Write α).seed? = some n := rfl
      refine ⟨seed.trans ?_, value⟩
      rw [seedsOf, seedsOf, List.filterMap_cons_some written, List.getLastD_cons, Write.apply]
  | value knob v =>
      refine ⟨seed, fun other => (value other).trans ?_⟩
      by_cases same : knob = other
      · subst same
        have written : (Write.value knob v).value? knob = some v := if_pos rfl
        rw [valuesOf, valuesOf, List.filterMap_cons_some written, List.getLastD_cons, Write.apply,
          value_set_self]
      · have elsewhere : (Write.value knob v).value? other = none := if_neg same
        rw [valuesOf, valuesOf, List.filterMap_cons_none elsewhere, Write.apply,
          value_set_of_ne (Ne.symm same)]

theorem rewritten_applyAll (writes : List (Write α)) (s : Settings α) :
    Rewritten writes s (applyAll writes s) := by
  induction writes generalizing s with
  | nil => exact ⟨rfl, fun knob => rfl⟩
  | cons write writes ih => exact (ih (write.apply s)).cons

/-! ## Accepted and rejected overrides -/

variable [Scalar α]

/-- What is written to a target: the default role is read, and so is the seed, and any other knob
takes the value as it is. -/
inductive Writes : Target → Value α → Write α → Prop where
  | seed {v : Value α} {n : Int} (read : v.toInt = .ok n) : Writes .seed v (.seed n)
  | role {v : Value α} {role : Role} (read : Role.ofValue? v = some role) :
      Writes (.knob .defaultRole) v (.value .defaultRole (.text role.name))
  | plain {v : Value α} {knob : Knob} (ne : knob ≠ .defaultRole) :
      Writes (.knob knob) v (.value knob v)

/-- The target reads the value and cannot. -/
inductive Unreadable : Target → Value α → Failure α → Prop where
  | seed {v : Value α} {failure : Failure α} (unread : v.toInt = .error failure) :
      Unreadable .seed v failure
  | role {v : Value α} (unread : Role.ofValue? v = none) :
      Unreadable (.knob .defaultRole) v (.unknownRole v)

theorem assign_of_writes {target : Target} {v : Value α} {write : Write α}
    (writes : Writes target v write) (s : Settings α) :
    assign target v s = .ok (write.apply s) := by
  cases writes with
  | seed read => simp [assign, read, Except.map, Write.apply]
  | role read => simp [assign, Role.ofValue_eq_ok_iff.mpr read, Except.map, Write.apply]
  | plain ne => simp [assign, Write.apply]

theorem assign_of_unreadable {target : Target} {v : Value α} {failure : Failure α}
    (unreadable : Unreadable target v failure) (s : Settings α) :
    assign target v s = .error failure := by
  cases unreadable with
  | seed unread => simp [assign, unread, Except.map]
  | role unread =>
      simp [assign, Role.ofValue_eq_error_iff.mpr ⟨unread, rfl⟩, Except.map]

theorem writes_or_unreadable (target : Target) (v : Value α) :
    (∃ write, Writes target v write) ∨ ∃ failure, Unreadable target v failure := by
  cases target with
  | seed =>
      cases read : v.toInt with
      | ok n => exact .inl ⟨_, .seed read⟩
      | error failure => exact .inr ⟨_, .seed read⟩
  | knob knob =>
      by_cases role : knob = .defaultRole
      · subst role
        cases read : Role.ofValue? v with
        | some role => exact .inl ⟨_, .role read⟩
        | none => exact .inr ⟨_, .role read⟩
      · exact .inl ⟨_, .plain role⟩

/-- The override names a target, and this is what it writes there. -/
inductive Accepted : Value α × Value α → Write α → Prop where
  | intro {key : String} {v : Value α} {target : Target} {write : Write α}
      (names : Names key target) (writes : Writes target v write) : Accepted (.text key, v) write

/-- What can be wrong with an override. -/
inductive Rejected : Value α × Value α → Failure α → Prop where
  | misnamed {key : String} {v : Value α} {failure : Failure α} (misnames : Misnames key failure) :
      Rejected (.text key, v) failure
  | unreadable {key : String} {v : Value α} {target : Target} {failure : Failure α}
      (names : Names key target) (unreadable : Unreadable target v failure) :
      Rejected (.text key, v) failure
  | bytes {bs : List UInt8} {v : Value α} : Rejected (.bytes bs, v) .wrongKind
  | untextual {key v : Value α} (noText : ∀ name, key ≠ .text name)
      (noBytes : ∀ bs, key ≠ .bytes bs) : Rejected (key, v) .keyWithoutParts

theorem overrideEntry_of_accepted {key v : Value α} {write : Write α}
    (accepted : Accepted (key, v) write) (s : Settings α) :
    s.overrideEntry key v = .ok (write.apply s) := by
  cases accepted with
  | intro names writes =>
      simp [overrideEntry, override, ofKey_of_names names, assign_of_writes writes, bind,
        Except.bind]

theorem overrideEntry_of_rejected {key v : Value α} {failure : Failure α}
    (rejected : Rejected (key, v) failure) (s : Settings α) :
    s.overrideEntry key v = .error failure := by
  cases rejected with
  | misnamed misnames =>
      simp [overrideEntry, override, ofKey_of_misnames misnames, bind, Except.bind]
  | unreadable names unreadable =>
      simp [overrideEntry, override, ofKey_of_names names, assign_of_unreadable unreadable, bind,
        Except.bind]
  | bytes => rfl
  | untextual noText noBytes =>
      cases key with
      | text name => exact absurd rfl (noText name)
      | bytes bs => exact absurd rfl (noBytes bs)
      | _ => rfl

theorem accepted_or_rejected (entry : Value α × Value α) :
    (∃ write, Accepted entry write) ∨ ∃ failure, Rejected entry failure := by
  obtain ⟨key, v⟩ := entry
  cases key with
  | text name =>
      obtain ⟨target, names⟩ | ⟨failure, misnames⟩ := names_or_misnames (α := α) name
      · obtain ⟨write, writes⟩ | ⟨failure, unreadable⟩ := writes_or_unreadable target v
        · exact .inl ⟨write, .intro names writes⟩
        · exact .inr ⟨failure, .unreadable names unreadable⟩
      · exact .inr ⟨failure, .misnamed misnames⟩
  | bytes bs => exact .inr ⟨_, .bytes⟩
  | _ => exact .inr ⟨_, .untextual nofun nofun⟩

/-! ## Overrides in turn -/

theorem overrideEntries_append {overrides : List (Value α × Value α)} {writes : List (Write α)}
    (accepted : List.Forall₂ Accepted overrides writes) (rest : List (Value α × Value α))
    (s : Settings α) :
    s.overrideEntries (overrides ++ rest) = (applyAll writes s).overrideEntries rest := by
  induction accepted generalizing s with
  | nil => rfl
  | @cons entry write overrides writes first _ ih =>
      obtain ⟨key, v⟩ := entry
      simp only [List.cons_append, overrideEntries, overrideEntry_of_accepted first s]
      exact ih (write.apply s)

/-- The overrides are all accepted, or there is a first one that is rejected. -/
theorem accepted_up_to_rejected (overrides : List (Value α × Value α)) :
    (∃ writes, List.Forall₂ Accepted overrides writes) ∨
      ∃ before entry rest writes failure, overrides = before ++ entry :: rest ∧
        List.Forall₂ Accepted before writes ∧ Rejected entry failure := by
  induction overrides with
  | nil => exact .inl ⟨[], .nil⟩
  | cons entry overrides ih =>
      obtain ⟨write, first⟩ | ⟨failure, rejected⟩ := accepted_or_rejected entry
      · obtain ⟨writes, accepted⟩ | ⟨before, bad, rest, writes, failure, rfl, accepted, rejected⟩ :=
          ih
        · exact .inl ⟨write :: writes, .cons first accepted⟩
        · exact .inr ⟨entry :: before, bad, rest, write :: writes, failure, rfl,
            .cons first accepted, rejected⟩
      · exact .inr ⟨[], entry, overrides, [], failure, rfl, .nil, rejected⟩

/-- Overrides are carried out in turn up to the first one that is rejected; then the application
fails as that one does, and what was written before it stays. -/
theorem overrideEntries_up_to_rejected (overrides : List (Value α × Value α)) :
    (∃ writes, List.Forall₂ Accepted overrides writes ∧
      ∀ s : Settings α, ∃ next, s.overrideEntries overrides = .done () next ∧
        Rewritten writes s next) ∨
    ∃ before entry rest writes failure, overrides = before ++ entry :: rest ∧
      List.Forall₂ Accepted before writes ∧ Rejected entry failure ∧
      ∀ s : Settings α, ∃ next, s.overrideEntries overrides = .fail failure next ∧
        Rewritten writes s next ∧
        (next = s ↔ (seedsOf writes).getLastD s.seed = s.seed ∧
          ∀ knob, (valuesOf knob writes).getLastD (s.value knob) = s.value knob) := by
  obtain ⟨writes, accepted⟩ | ⟨before, ⟨key, v⟩, rest, writes, failure, rfl, accepted, rejected⟩ :=
    accepted_up_to_rejected overrides
  · refine .inl ⟨writes, accepted, fun s => ⟨applyAll writes s, ?_, rewritten_applyAll writes s⟩⟩
    simpa [overrideEntries] using overrideEntries_append accepted [] s
  · refine .inr ⟨before, (key, v), rest, writes, failure, rfl, accepted, rejected, fun s => ?_⟩
    have left := rewritten_applyAll writes s
    refine ⟨applyAll writes s, ?_, left, left.eq_self_iff⟩
    rw [overrideEntries_append accepted, overrideEntries, overrideEntry_of_rejected rejected]

/-- The seed has been replaced when the second key turns out to name no section. -/
theorem seed_replaced_before_rejection :
    let overrides : List (Value Amount × Value Amount) :=
      [(.text "seed", .int 7), (.text "weather.rate", .int 1)]
    (standard.overrideEntries overrides).answer = .error (.unknownSection "weather") ∧
      (standard.overrideEntries overrides).state.seed = 7 ∧
      (standard : Settings Amount).seed = 0 := by
  intro overrides
  exact ⟨rfl, rfl, rfl⟩

/-! ## One override -/

/-- An override whose key names a target that can read the value is accepted, and any other key is
rejected and changes nothing. -/
theorem overrideEntries_text_iff_names (s : Settings α) (key : String) (v : Value α)
    (readable : ∀ target, Names key target → ∃ write, Writes target v write) :
    ((∃ next, s.overrideEntries [(.text key, v)] = .done () next) ↔ ∃ target, Names key target) ∧
      ((¬ ∃ target, Names key target) → ∃ failure, Misnames key failure ∧
        s.overrideEntries [(.text key, v)] = .fail failure s) := by
  obtain ⟨target, names⟩ | ⟨failure, misnames⟩ := names_or_misnames (α := α) key
  · obtain ⟨write, writes⟩ := readable target names
    have taken : s.overrideEntries [(.text key, v)] = .done () (write.apply s) := by
      simp [overrideEntries, overrideEntry_of_accepted (.intro names writes)]
    constructor
    · constructor
      · intro _
        exact ⟨target, names⟩
      · intro _
        exact ⟨_, taken⟩
    · intro nameless
      exact absurd ⟨target, names⟩ nameless
  · have refused : s.overrideEntries [(.text key, v)] = .fail failure s := by
      simp [overrideEntries, overrideEntry_of_rejected (.misnamed misnames)]
    constructor
    · constructor
      · rintro ⟨next, taken⟩
        cases congrArg Outcome.answer (taken.symm.trans refused)
      · rintro ⟨target, names⟩
        exact absurd names (misnames.not_names target)
    · intro _
      exact ⟨failure, misnames, refused⟩

theorem overrideEntries_text_iff_names_role :
    let key := "behavior.default_role"
    let v : Value Amount := .text " Guard "
    (∀ target, Names key target → ∃ write, Writes target v write) ∧
      ∃ next, (standard : Settings Amount).overrideEntries [(.text key, v)] = .done () next := by
  intro key v
  have names : Names key (.knob .defaultRole) := @Names.knob .behavior .defaultRole (by decide)
  have readable : ∀ target, Names key target → ∃ write, Writes target v write := by
    intro target named
    obtain rfl := named.unique names
    have guard : Role.ofValue? v = some .guard := by decide
    exact ⟨_, .role guard⟩
  exact ⟨readable, (overrideEntries_text_iff_names standard key v readable).1.mpr ⟨_, names⟩⟩

/-- A point after the seed is neither the seed alone nor a section with a field, and is accepted. -/
theorem seed_with_point_accepted :
    let key := "seed."
    key ≠ "seed" ∧
      (∀ group : Group, ∀ knob ∈ Knob.inGroup group, key ≠ group.name ++ "." ++ knob.field) ∧
      (.int 7 : Value Amount).toInt = .ok 7 ∧
      (standard : Settings Amount).overrideEntries [(.text key, .int 7)] =
        .done () { standard with seed := 7 } := by
  intro key
  have read : (.int 7 : Value Amount).toInt = .ok 7 := rfl
  refine ⟨by decide, fun group knob listed => ?_, read, ?_⟩
  · cases group <;> revert knob <;> decide
  · simp [overrideEntries, key, overrideEntry_of_accepted (.intro .seedPoint (.seed read)),
      Write.apply]

end Colony.Settings
