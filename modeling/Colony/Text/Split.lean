/-!
# Splitting a text at a mark
-/

namespace Colony.Text

def splitFirst? (mark : Char) : List Char → Option (List Char × List Char)
  | [] => none
  | c :: rest =>
      if c = mark then some ([], rest)
      else (splitFirst? mark rest).map fun parts => (c :: parts.1, parts.2)

theorem splitFirst?_eq_none_iff {mark : Char} {cs : List Char} :
    splitFirst? mark cs = none ↔ mark ∉ cs := by
  induction cs with
  | nil => simp [splitFirst?]
  | cons c cs ih =>
      unfold splitFirst?
      by_cases h : c = mark
      · simp [h]
      · simp [h, ih, Ne.symm h]

theorem splitFirst?_append {mark : Char} {before after : List Char} (free : mark ∉ before) :
    splitFirst? mark (before ++ mark :: after) = some (before, after) := by
  induction before with
  | nil => simp [splitFirst?]
  | cons c cs ih =>
      simp only [List.mem_cons, not_or] at free
      simp [splitFirst?, Ne.symm free.1, ih free.2]

theorem splitFirst?_eq_some {mark : Char} {cs before after : List Char}
    (split : splitFirst? mark cs = some (before, after)) :
    cs = before ++ mark :: after ∧ mark ∉ before := by
  induction cs generalizing before with
  | nil => simp [splitFirst?] at split
  | cons c cs ih =>
      unfold splitFirst? at split
      by_cases h : c = mark
      · simp only [h, if_true, Option.some.injEq, Prod.mk.injEq] at split
        obtain ⟨rfl, rfl⟩ := split
        simp [h]
      · simp only [h, if_false, Option.map_eq_some_iff, Prod.mk.injEq] at split
        obtain ⟨⟨front, back⟩, cut, rfl, rfl⟩ := split
        obtain ⟨whole, free⟩ := ih cut
        simp [whole, free, Ne.symm h]

end Colony.Text
