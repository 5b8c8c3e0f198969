import Mathlib.Data.List.Forall2
import Colony.Proofs.Answer
import Colony.Proofs.Decimal.Numeral
import Colony.Proofs.Table
import Colony.Scalar.Amount
import Colony.Settings.Assignment

/-!
# Assignments read back

A text is an assignment if it holds an equals sign, and the first one divides
it.  A key and a value written in this form come back as they were: the key if
there is no equals sign in it and no blank at its ends, the value if no kind
that is tried before its own takes the text for one of its own.
-/

namespace Colony.Settings

variable {α : Type} [Scalar α]

/-! ## What a text assigns -/

/-- The key and the value in a text, which its first equals sign divides. -/
inductive Assigns : String → String × Value α → Prop
  | intro {before : String} (free : '=' ∉ before.toList) (after : String) :
      Assigns (before ++ "=" ++ after) (Text.trim before, readValue (Text.trim after))

theorem readAssignment_of_free {before : String} (free : '=' ∉ before.toList) (after : String) :
    readAssignment (before ++ "=" ++ after) =
      .ok (Text.trim before, (readValue (Text.trim after) : Value α)) := by
  have chars : (before ++ "=" ++ after).toList = before.toList ++ '=' :: after.toList := by simp
  rw [readAssignment, chars, Text.splitFirst?_append free]
  simp

theorem readAssignment_eq_ok_iff {pair : String} {entry : String × Value α} :
    readAssignment pair = .ok entry ↔ Assigns pair entry := by
  constructor
  · intro read
    unfold readAssignment at read
    split at read
    · rename_i key raw divided
      obtain ⟨whole, free⟩ := Text.splitFirst?_eq_some divided
      have form : pair = String.ofList key ++ "=" ++ String.ofList raw := by
        apply String.toList_inj.mp
        simp [whole]
      rw [form, ← Except.ok.inj read]
      exact .intro (by simpa using free) _
    · cases read
  · rintro ⟨free, after⟩
    exact readAssignment_of_free free after

theorem readAssignment_eq_error_iff {pair : String} {failure : Failure α} :
    readAssignment pair = .error failure ↔
      '=' ∉ pair.toList ∧ failure = .notAnAssignment pair := by
  rw [← Text.splitFirst?_eq_none_iff, readAssignment]
  cases Text.splitFirst? '=' pair.toList <;> simp [eq_comm]

/-! ## Values that a text brings back -/

/-- Whole numbers within the digit limit, truth values, and texts without blanks at their ends that
are no whole number, no numeral and no truth value. -/
inductive Recovered : Value α → Prop
  | int {n : Int} (digits : (Nat.toDigits 10 n.natAbs).length ≤ 4300) : Recovered (.int n)
  | bool (b : Bool) : Recovered (.bool b)
  | text {s : String} (trimmed : Text.trim s = s)
      (noInteger : Decimal.readInteger? s.toList = none)
      (noNumeral : Decimal.readNumeral? s.toList = none)
      (noTruth : Text.lower s ≠ "true" ∧ Text.lower s ≠ "false") : Recovered (.text s)

/-- The text of a value, where there is one that holds in a string. -/
def textOf (v : Value α) : String := ((v.shown?.bind Points.string?).getD "")

theorem textOf_eq {v : Value α} {text : String} (shown : v.shown? = some (Points.ofString text)) :
    textOf v = text := by
  rw [textOf, shown, Option.bind_some, Points.string?_ofString, Option.getD_some]

theorem textOf_int {n : Int} (digits : (Nat.toDigits 10 n.natAbs).length ≤ 4300) :
    textOf (.int n : Value α) = n.repr := by
  refine textOf_eq ?_
  rw [Value.shown?_of_no_points rfl, Value.written?, Decimal.writeInteger?_repr digits]
  rfl

theorem textOf_text (s : String) : textOf (.text s : Value α) = s := textOf_eq rfl

/-- Every value that is recovered has a text. -/
theorem Recovered.shown? {v : Value α} (recovered : Recovered v) :
    v.shown? = some (Points.ofString (textOf v)) := by
  cases recovered with
  | int digits =>
      rw [textOf_int digits, Value.shown?_of_no_points rfl, Value.written?,
        Decimal.writeInteger?_repr digits]
      rfl
  | bool b => cases b <;> rfl
  | @text s _ _ _ _ =>
      rw [textOf_text]
      rfl

theorem Recovered.trim_textOf {v : Value α} (recovered : Recovered v) :
    Text.trim (textOf v) = textOf v := by
  cases recovered with
  | @int n digits =>
      have unspaced : Text.trimChars Text.isBlank n.repr.toList = n.repr.toList :=
        Text.trimChars_of_free fun c => Decimal.not_isBlank_of_mem_repr
      rw [textOf_int digits, Text.trim, unspaced, String.ofList_toList]
  | bool b =>
      cases b with
      | true => exact (by decide : Text.trim "True" = "True")
      | false => exact (by decide : Text.trim "False" = "False")
  | text trimmed =>
      rw [textOf_text]
      exact trimmed

theorem Recovered.readValue_textOf {v : Value α} (recovered : Recovered v) :
    readValue (textOf v) = v := by
  cases recovered with
  | int digits =>
      rw [textOf_int digits]
      simp only [readValue, Decimal.readInteger?_repr digits]
  | bool b =>
      cases b with
      | true => exact (rfl : readValue "True" = (.bool true : Value α))
      | false => exact (rfl : readValue "False" = (.bool false : Value α))
  | @text s trimmed noInteger noNumeral noTruth =>
      rw [textOf_text]
      simp [readValue, noInteger, noNumeral, noTruth]

/-! ## Assignments in a row -/

/-- How a key and a value are written down as an assignment. -/
def assignment (entry : String × Value α) : String := entry.1 ++ "=" ++ textOf entry.2

/-- A key that an assignment brings back. -/
structure IsKey (key : String) : Prop where
  free : '=' ∉ key.toList
  trimmed : Text.trim key = key

theorem readAssignment_assignment {entry : String × Value α} (key : IsKey entry.1)
    (value : Recovered entry.2) : readAssignment (assignment entry) = .ok entry := by
  rw [assignment, readAssignment_of_free key.free, key.trimmed, value.trim_textOf,
    value.readValue_textOf]

theorem readAssignments_eq_ok_iff {pairs : List String} {table : List (String × Value α)} :
    readAssignments pairs = .ok table ↔
      ∃ entries, List.Forall₂ Assigns pairs entries ∧ Table.ofList entries = table := by
  simp only [readAssignments, Answer.map_eq_ok, Answer.mapM_eq_ok, readAssignment_eq_ok_iff]

theorem exists_error_readAssignments_iff {pairs : List String} :
    (∃ failure : Failure α, readAssignments pairs = .error failure) ↔
      ∃ pair ∈ pairs, '=' ∉ pair.toList := by
  have same : (∃ failure : Failure α, readAssignments pairs = .error failure) ↔
      ∃ failure : Failure α, pairs.mapM readAssignment = .error failure := by
    unfold readAssignments
    cases pairs.mapM (readAssignment (α := α)) <;> simp [Except.map]
  rw [same, Answer.exists_error_mapM_iff]
  simp [readAssignment_eq_error_iff]

/-- Entries are read back from their assignments as they were; a list of texts is refused just if
one of them is no assignment, and otherwise a key stands where it first came, with the value that
came last. -/
theorem readAssignments_read_back {entries : List (String × Value α)}
    (distinct : (entries.map (·.1)).Nodup) (keys : ∀ entry ∈ entries, IsKey entry.1)
    (values : ∀ entry ∈ entries, Recovered entry.2) (pairs : List String) :
    readAssignments (entries.map assignment) = .ok entries ∧
    ((∃ failure : Failure α, readAssignments pairs = .error failure) ↔
      ∃ pair ∈ pairs, '=' ∉ pair.toList) ∧
    ∀ table : List (String × Value α), readAssignments pairs = .ok table →
      ∃ given, List.Forall₂ Assigns pairs given ∧
        table.map (·.1) = (given.map (·.1)).eraseDups ∧
        ∀ key, Table.get? key table = (Table.valuesFor key given).getLast? := by
  refine ⟨?_, exists_error_readAssignments_iff, fun table read => ?_⟩
  · rw [readAssignments_eq_ok_iff]
    refine ⟨entries, ?_, Table.ofList_of_nodup distinct⟩
    rw [List.forall₂_map_left_iff, List.forall₂_same]
    intro entry member
    exact readAssignment_eq_ok_iff.mp
      (readAssignment_assignment (keys entry member) (values entry member))
  · obtain ⟨given, assigns, rfl⟩ := readAssignments_eq_ok_iff.mp read
    exact ⟨given, assigns, Table.keys_ofList given, Table.get?_ofList given⟩

/-- A negative number, a truth value and a text with an equals sign in it. -/
theorem readAssignments_read_back_salt :
    let entries : List (String × Value Amount) :=
      [("seed", .int (-42)), ("telemetry.enabled", .bool false), ("rng.salt", .text "a=1_")]
    let pairs := ["seed=-42", "telemetry.enabled=False", "rng.salt=a=1_"]
    ((entries.map (·.1)).Nodup ∧ (∀ entry ∈ entries, IsKey entry.1) ∧
        ∀ entry ∈ entries, Recovered entry.2) ∧
      entries.map assignment = pairs ∧
      readAssignments pairs = .ok entries := by
  intro entries pairs
  have distinct : (entries.map (·.1)).Nodup := by decide
  have keys : ∀ entry ∈ entries, IsKey entry.1 := by
    intro entry member
    simp only [entries, List.mem_cons, List.not_mem_nil, or_false] at member
    rcases member with rfl | rfl | rfl <;> exact ⟨by decide, by decide⟩
  have values : ∀ entry ∈ entries, Recovered entry.2 := by
    intro entry member
    simp only [entries, List.mem_cons, List.not_mem_nil, or_false] at member
    rcases member with rfl | rfl | rfl
    · exact .int (by decide)
    · exact .bool false
    · exact .text (by decide) (by decide) (by decide) (by decide)
  have seed : assignment ("seed", (.int (-42) : Value Amount)) = "seed=-42" := by
    rw [assignment, textOf_int (by decide)]
    rfl
  have written : entries.map assignment = pairs := by
    simp only [entries, List.map_cons, List.map_nil, seed]
    rfl
  have read := (readAssignments_read_back distinct keys values pairs).1
  rw [written] at read
  exact ⟨⟨distinct, keys, values⟩, written, read⟩

end Colony.Settings
