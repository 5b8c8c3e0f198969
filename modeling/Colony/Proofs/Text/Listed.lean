import Mathlib
import Colony.Proofs.Text.Quotes

/-!
# Texts in lists

Texts between commas up to a closing bracket can be told one from the other
if each of them can be told from what follows it.  So can whole numbers, which
end where no digit follows.
-/

namespace Colony.Text

variable {β : Type}

/-- Further texts, each after a comma, up to the closing character. -/
def followed (stop : Char) : List (List Char) → List Char
  | [] => [stop]
  | t :: ts => ',' :: (t ++ followed stop ts)

/-- Texts between commas, up to the closing character. -/
def enclosed (stop : Char) : List (List Char) → List Char
  | [] => [stop]
  | t :: ts => t ++ followed stop ts

theorem toList_intercalate (stop : Char) (ts : List String) :
    (",".intercalate ts).toList ++ [stop] = enclosed stop (ts.map String.toList) := by
  have rest : ∀ (t : List Char) (ts : List (List Char)),
      [','].intercalate (t :: ts) ++ [stop] = t ++ followed stop ts := by
    intro t ts
    induction ts generalizing t with
    | nil => simp [followed]
    | cons u ts ih => rw [List.intercalate_cons_cons, List.append_assoc, ih]; simp [followed]
  rw [String.toList_intercalate]
  cases ts with
  | nil => rfl
  | cons t ts => exact rest t.toList (ts.map String.toList)

/-- What can follow a text inside a list or a dictionary, or at the end. -/
def Ends (rest : List Char) : Prop := ∀ c ∈ rest.head?, c = ',' ∨ c = ']' ∨ c = '}'

section Enclosed

variable {stop : Char} (closing : stop = ']' ∨ stop = '}')
include closing

theorem ends_followed (ts : List (List Char)) (rest : List Char) :
    Ends (followed stop ts ++ rest) := by
  cases ts with
  | nil => simpa [Ends, followed] using .inr closing
  | cons t ts => simp [Ends, followed]

variable {f : β → List Char} {R : β → β → Prop} {bs cs : List β}
variable (each : ∀ b ∈ bs, ∀ c ∈ cs, ∀ r s, Ends r → Ends s → f b ++ r = f c ++ s → R b c ∧ r = s)
include each

theorem followed_append_inj {r s : List Char}
    (same : followed stop (bs.map f) ++ r = followed stop (cs.map f) ++ s) :
    List.Forall₂ R bs cs ∧ r = s := by
  have separate : stop ≠ ',' := by rcases closing with rfl | rfl <;> decide
  induction bs generalizing cs with
  | nil =>
      cases cs with
      | nil => exact ⟨.nil, (List.cons.inj same).2⟩
      | cons c cs => exact absurd (List.cons.inj same).1 separate
  | cons b bs ih =>
      cases cs with
      | nil => exact absurd (List.cons.inj same).1.symm separate
      | cons c cs =>
          simp only [List.map_cons, followed, List.cons_append, List.append_assoc,
            List.cons.injEq, true_and] at same
          obtain ⟨first, rest⟩ := each b (by simp) c (by simp) _ _
            (ends_followed closing _ r) (ends_followed closing _ s) same
          obtain ⟨others, last⟩ := ih
            (fun b' hb c' hc => each b' (by simp [hb]) c' (by simp [hc])) rest
          exact ⟨.cons first others, last⟩

theorem enclosed_append_inj {r s : List Char}
    (starts : ∀ b ∈ bs ++ cs, ∃ c rest, f b = c :: rest ∧ c ≠ stop)
    (same : enclosed stop (bs.map f) ++ r = enclosed stop (cs.map f) ++ s) :
    List.Forall₂ R bs cs ∧ r = s := by
  cases bs with
  | nil =>
      cases cs with
      | nil => exact ⟨.nil, (List.cons.inj same).2⟩
      | cons c cs =>
          obtain ⟨start, rest, text, other⟩ := starts c (by simp)
          simp only [List.map_cons, enclosed, text] at same
          exact absurd (List.cons.inj same).1.symm other
  | cons b bs =>
      cases cs with
      | nil =>
          obtain ⟨start, rest, text, other⟩ := starts b (by simp)
          simp only [List.map_cons, enclosed, text] at same
          exact absurd (List.cons.inj same).1 other
      | cons c cs =>
          -- After a comma the first texts are further texts themselves.
          exact followed_append_inj closing each (congrArg (',' :: ·) same)

end Enclosed

theorem reads_enclosed {stop : Char} {ts : List (List Char)} (closing : stop = ']' ∨ stop = '}')
    (each : ∀ t ∈ ts, Reads .outside t .outside) : Reads .outside (enclosed stop ts) .outside := by
  have last : Reads .outside [stop] .outside := by
    rcases closing with rfl | rfl <;> rfl
  have rest : ∀ {ts : List (List Char)}, (∀ t ∈ ts, Reads .outside t .outside) →
      Reads .outside (followed stop ts) .outside := by
    intro ts each
    induction ts with
    | nil => exact last
    | cons t ts ih =>
        exact .cons rfl ((each t (by simp)).append (ih fun u member => each u (by simp [member])))
  cases ts with
  | nil => exact last
  | cons t ts => exact (each t (by simp)).append (rest fun u member => each u (by simp [member]))

/-! ## Whole numbers -/

def isNumeral (c : Char) : Bool := c.isDigit || c == '-'

theorem isNumeral_of_mem_repr {n : Int} {c : Char} (member : c ∈ n.repr.toList) :
    isNumeral c = true := by
  have digit : ∀ {m : Nat}, c ∈ m.repr.toList → c.isDigit = true := fun {m} member =>
    Nat.isDigit_of_mem_toDigits (by decide) (by decide) (Nat.toList_repr (n := m) ▸ member)
  rw [Int.repr_eq_if] at member
  split at member
  · simp [isNumeral, digit member]
  · rw [String.toList_append] at member
    rcases List.mem_append.mp member with sign | digits
    · rw [List.mem_singleton.mp sign]
      rfl
    · simp [isNumeral, digit digits]

theorem repr_ne_nil (n : Int) : n.repr.toList ≠ [] := by
  have digits : ∀ m : Nat, m.repr.toList ≠ [] := fun m => by
    rw [Nat.toList_repr]
    exact Nat.toDigits_ne_nil
  rw [Int.repr_eq_if]
  split
  · exact digits _
  · simp

namespace Unmarked

theorem of_numerals {t : String} (each : ∀ c ∈ t.toList, isNumeral c = true) : Unmarked t := by
  intro c member
  have numeral := each c member
  have unmarked : c ≠ doubleQuote ∧ ¬ (c = '\\' ∨ c = '|') := by
    refine ⟨?_, ?_⟩
    · rintro rfl
      cases numeral
    · rintro (rfl | rfl) <;> cases numeral
  simp [Place.step, unmarked]

theorem whole (n : Int) : Unmarked (toString n) :=
  of_numerals fun _ member => isNumeral_of_mem_repr (Int.toString_eq_repr ▸ member)

theorem natural (n : Nat) : Unmarked (toString n) := whole n

end Unmarked

theorem repr_append_inj {m n : Int} {r s : List Char} (hr : Ends r) (hs : Ends s)
    (same : m.repr.toList ++ r = n.repr.toList ++ s) : m = n ∧ r = s := by
  have stops : ∀ {rest : List Char}, Ends rest → rest.takeWhile isNumeral = [] := by
    intro rest ends
    cases rest with
    | nil => rfl
    | cons c rest =>
        have closed : isNumeral c = false := by
          rcases ends c rfl with rfl | rfl | rfl <;> decide
        simp [closed]
  have digits := congrArg (List.takeWhile isNumeral) same
  rw [List.takeWhile_append_of_pos fun c => isNumeral_of_mem_repr,
    List.takeWhile_append_of_pos fun c => isNumeral_of_mem_repr, stops hr, stops hs,
    List.append_nil, List.append_nil] at digits
  rw [digits] at same
  exact ⟨Int.repr_inj.mp (String.toList_inj.mp digits), List.append_cancel_left same⟩

end Colony.Text
