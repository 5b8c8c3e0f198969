import Mathlib.Data.List.Basic
import Colony.Chance.Streams

/-!
# Draws

A draw asks for the key of its counter, moves the counter and digests a text.
The text can be made where salt and seed can be written, and encoded where
neither the salt nor the name of the stream has half of a surrogate pair
inside.  So streams either answer every draw whose key is a string, or none.
-/

namespace Colony

namespace Points

theorem ofString_append (s t : String) : ofString (s ++ t) = ofString s ++ ofString t := by
  rw [ofString, String.toList_append, List.map_append]
  rfl

/-- A text that is a string has strings for its parts. -/
theorem exists_of_append_eq {ps qs : Points} {u : String} (whole : ps ++ qs = ofString u) :
    ∃ s t, ps = ofString s ∧ qs = ofString t := by
  obtain ⟨cs, ds, -, front, back⟩ := List.map_eq_append_iff.mp whole.symm
  exact ⟨String.ofList cs, String.ofList ds, by simp [ofString, front], by simp [ofString, back]⟩

end Points

namespace Chance

theorem bar_append (ps : Points) : bar ++ ps = .char '|' :: ps := by
  simp [bar, Points.ofString]

namespace Streams

variable {α : Type} [Scalar α] {s : Streams} {key text : Points} {n : Nat}

theorem drawText?_eq_some_iff : s.drawText? key n = some text ↔
    ∃ salt seed, s.salt = some salt ∧ s.seed.text? = some seed ∧
      salt ++ bar ++ (Points.ofString seed ++ bar ++
        (key ++ bar ++ Points.ofString (toString n))) = text := by
  simp only [drawText?, bind, Option.bind_eq_some_iff, pure, Option.some_inj]
  constructor
  · rintro ⟨salt, salted, seed, seeded, rfl⟩
    exact ⟨salt, seed, salted, seeded, by simp only [List.append_assoc]⟩
  · rintro ⟨salt, seed, salted, seeded, rfl⟩
    exact ⟨salt, salted, seed, seeded, by simp only [List.append_assoc]⟩

/-- Salt and seed can be written, and the salt is a string. -/
def Legible (s : Streams) : Prop :=
  ∃ salt seed, s.salt = some (Points.ofString salt) ∧ s.seed.text? = some seed

/-- The text of a draw can be digested. -/
def Digested (s : Streams) (key : Points) (n : Nat) (text : String) : Prop :=
  s.drawText? key n = some (Points.ofString text)

theorem Legible.digested (legible : s.Legible) (key : String) (n : Nat) :
    ∃ text, s.Digested key n text := by
  obtain ⟨salt, seed, salted, seeded⟩ := legible
  refine ⟨salt ++ "|" ++ (seed ++ "|" ++ (key ++ "|" ++ toString n)),
    drawText?_eq_some_iff.mpr ⟨_, _, salted, seeded, ?_⟩⟩
  simp only [Points.ofString_append]
  rfl

theorem Digested.legible {digested : String} (h : s.Digested key n digested) :
    s.Legible ∧ ∃ name, key = Points.ofString name := by
  obtain ⟨salt, seed, salted, seeded, whole⟩ := drawText?_eq_some_iff.mp h
  obtain ⟨front, rest, beforeSeed, afterSalt⟩ := Points.exists_of_append_eq whole
  obtain ⟨saltText, -, rfl, -⟩ := Points.exists_of_append_eq beforeSeed
  obtain ⟨-, last, -, afterSeed⟩ := Points.exists_of_append_eq afterSalt
  obtain ⟨keyed, -, beforeNumber, -⟩ := Points.exists_of_append_eq afterSeed
  obtain ⟨name, -, rfl, -⟩ := Points.exists_of_append_eq beforeNumber
  exact ⟨⟨saltText, seed, salted, seeded⟩, name, rfl⟩

theorem value_eq_ok_iff {x : α} :
    s.value key n = .ok x ↔ ∃ text, s.Digested key n text ∧ fraction text = x := by
  constructor
  · intro given
    unfold value at given
    split at given
    · cases given
    · rename_i text made
      cases encoded : text.string? with
      | none =>
          rw [encoded] at given
          cases given
      | some t =>
          rw [encoded] at given
          exact ⟨t, made.trans (congrArg some (Points.eq_ofString encoded)), Except.ok.inj given⟩
  · rintro ⟨text, digested, rfl⟩
    have made : s.drawText? key n = some (Points.ofString text) := digested
    rw [value, made]
    simp only [Points.string?_ofString]
    rfl

theorem Legible.value (legible : s.Legible) (key : String) (n : Nat) :
    ∃ x : α, s.value key n = .ok x := by
  obtain ⟨text, digested⟩ := legible.digested key n
  exact ⟨fraction text, value_eq_ok_iff.mpr ⟨text, digested, rfl⟩⟩

theorem draw_of_key {stream : Points} {scope : Scope α} (named : counterKey stream scope = .ok key)
    (s : Streams) : s.draw stream scope = .of (s.value key (s.count key)) (s.counted key) := by
  rw [draw, named, Outcome.of_ok_andThen]

theorem draw_of_no_key {stream : Points} {scope : Scope α} {failure : Failure α}
    (unnamed : counterKey stream scope = .error failure) (s : Streams) :
    s.draw stream scope = .fail failure s := by
  rw [draw, unnamed, Outcome.of_error_andThen]

theorem answer_draw_eq_ok {stream : Points} {scope : Scope α}
    (named : counterKey stream scope = .ok key) {digested : String}
    (made : s.Digested key (s.count key) digested) :
    (s.draw stream scope).answer = .ok (fraction digested) := by
  rw [draw_of_key named]
  exact value_eq_ok_iff.mpr ⟨digested, made, rfl⟩

end Streams

end Chance

end Colony
