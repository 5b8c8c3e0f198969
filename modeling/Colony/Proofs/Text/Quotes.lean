import Colony.Proofs.Text.Escape

/-!
# Reading quotes

A reader that goes through a text from its beginning knows of each character
whether it stands inside quotes.  Outside quotes there is neither a backslash
nor a bar.  Two readers of one text that differ in this keep differing, so a
text with closed quotes cannot go on, from a bar within it, with another text
with closed quotes.
-/

namespace Colony

open Text (doubleQuote)

inductive Place where
  | outside
  | inside
  | escaped
  deriving DecidableEq, Repr

namespace Place

def step : Place → Char → Option Place
  | .outside, c =>
      if c = doubleQuote then some .inside else if c = '\\' ∨ c = '|' then none else some .outside
  | .inside, c =>
      if c = doubleQuote then some .outside else if c = '\\' then some .escaped else some .inside
  | .escaped, _ => some .inside

theorem step_quote : step .outside doubleQuote = some .inside ∧
    step .inside doubleQuote = some .outside := by decide

theorem step_inside_of_unmarked {c : Char} (unmarked : c ≠ doubleQuote ∧ c ≠ '\\') :
    step .inside c = some .inside := by
  simp [step, unmarked]

end Place

def Reads (p : Place) (w : List Char) (q : Place) : Prop := w.foldlM Place.step p = some q

namespace Reads

variable {p q r : Place} {c : Char} {w v : List Char}

theorem nil : Reads p [] p := rfl

theorem nil_iff : Reads p [] q ↔ p = q := by simp [Reads]

theorem cons_iff : Reads p (c :: w) r ↔ ∃ q, p.step c = some q ∧ Reads q w r := by
  simp [Reads, List.foldlM_cons, Option.bind_eq_some_iff]

theorem append_iff : Reads p (w ++ v) r ↔ ∃ q, Reads p w q ∧ Reads q v r := by
  simp [Reads, List.foldlM_append, Option.bind_eq_some_iff]

theorem append (first : Reads p w q) (rest : Reads q v r) : Reads p (w ++ v) r :=
  append_iff.mpr ⟨q, first, rest⟩

theorem cons (first : p.step c = some q) (rest : Reads q w r) : Reads p (c :: w) r :=
  cons_iff.mpr ⟨q, first, rest⟩

/-- What leaves a place at every character leaves it in the end. -/
theorem of_steps (stays : ∀ c ∈ w, p.step c = some p) : Reads p w p := by
  induction w with
  | nil => exact nil
  | cons c w ih =>
      exact cons (stays c (by simp)) (ih fun d member => stays d (by simp [member]))

theorem flatMap {β : Type} {f : β → List Char} (each : ∀ b, Reads p (f b) p) (bs : List β) :
    Reads p (bs.flatMap f) p := by
  induction bs with
  | nil => exact nil
  | cons b bs ih =>
      rw [List.flatMap_cons]
      exact (each b).append ih

/-! ## Two readers -/

/-- Where the reader outside quotes is not stopped, both readers cross a quote or neither does. -/
theorem opposite (fromOutside : Reads .outside w p) (fromInside : Reads .inside w q) :
    p = .outside ∧ q = .inside ∨ p = .inside ∧ q = .outside := by
  induction w generalizing p q with
  | nil => exact .inl ⟨(nil_iff.mp fromOutside).symm, (nil_iff.mp fromInside).symm⟩
  | cons c w ih =>
      obtain ⟨p', first, restOutside⟩ := cons_iff.mp fromOutside
      obtain ⟨q', first', restInside⟩ := cons_iff.mp fromInside
      by_cases quote : c = doubleQuote
      · rw [quote, Place.step_quote.1, Option.some_inj] at first
        rw [quote, Place.step_quote.2, Option.some_inj] at first'
        subst first first'
        -- The two readers have changed places.
        exact (ih restInside restOutside).symm.imp And.symm And.symm
      · have unmarked : ¬ (c = '\\' ∨ c = '|') := by
          intro marked
          simp [Place.step, quote, marked] at first
        rw [Place.step, if_neg quote, if_neg unmarked, Option.some_inj] at first
        rw [Place.step_inside_of_unmarked ⟨quote, fun mark => unmarked (.inl mark)⟩,
          Option.some_inj] at first'
        subst first first'
        exact ih restOutside restInside

theorem not_after_bar (whole : Reads .outside (w ++ '|' :: v) .outside) :
    ¬ Reads .outside v .outside := by
  intro alone
  obtain ⟨q, -, rest⟩ := append_iff.mp whole
  obtain ⟨q', bar, after⟩ := cons_iff.mp rest
  have quoted : q' = .inside := by
    cases q with
    | outside => cases bar
    | inside => exact (Option.some_inj.mp bar).symm
    | escaped => exact (Option.some_inj.mp bar).symm
  subst quoted
  rcases opposite alone after with ⟨-, closed⟩ | ⟨opened, -⟩
  · cases closed
  · cases opened

theorem split_at_last {more : Points} (hw : Reads .outside w .outside)
    (hv : Reads .outside v .outside)
    (same : .char '|' :: w.map Point.char = more ++ .char '|' :: v.map Point.char) :
    more = [] ∧ w = v := by
  have chars : Function.Injective Point.char := fun c d same => Point.char.inj same
  cases more with
  | nil => exact ⟨rfl, List.map_injective_iff.mpr chars (List.cons.inj same).2⟩
  | cons p more =>
      -- A longer beginning would leave the other text after a bar of this one.
      obtain ⟨front, back, longer, -, rest⟩ := List.map_eq_append_iff.mp (List.cons.inj same).2
      obtain ⟨c, after, rfl, bar, others⟩ := List.map_eq_cons_iff.mp rest
      rw [Point.char.inj bar, List.map_injective_iff.mpr chars others] at longer
      exact absurd hv (not_after_bar (longer ▸ hw))

/-- Whatever stands before the bar, it can be told from a text with closed quotes after it. -/
theorem split_at_bar {s t : Points} (hw : Reads .outside w .outside)
    (hv : Reads .outside v .outside)
    (same : s ++ .char '|' :: w.map Point.char = t ++ .char '|' :: v.map Point.char) :
    s = t ∧ w = v := by
  rcases List.append_eq_append_iff.mp same with ⟨more, rfl, rest⟩ | ⟨more, rfl, rest⟩
  · obtain ⟨rfl, texts⟩ := split_at_last hw hv rest
    exact ⟨(List.append_nil s).symm, texts⟩
  · obtain ⟨rfl, texts⟩ := split_at_last hv hw rest
    exact ⟨List.append_nil t, texts.symm⟩

end Reads

/-! ## Texts without marks -/

/-- Neither a quote nor a backslash nor a bar. -/
def Text.Unmarked (t : String) : Prop := ∀ c ∈ t.toList, Place.step .outside c = some .outside

namespace Text.Unmarked

variable {s t : String}

instance (t : String) : Decidable (Unmarked t) :=
  decidable_of_iff (t.toList.all fun c => Place.step .outside c = some .outside)
    (by simp [Unmarked])

theorem append (hs : Unmarked s) (ht : Unmarked t) : Unmarked (s ++ t) := by
  intro c member
  rw [String.toList_append] at member
  exact (List.mem_append.mp member).elim (hs c) (ht c)

theorem ofList {cs : List Char} (h : Unmarked t) (subset : cs ⊆ t.toList) :
    Unmarked (String.ofList cs) := fun c member =>
  h c (subset (by simpa using member))

theorem reads (h : Unmarked t) : Reads .outside t.toList .outside := .of_steps h

end Text.Unmarked

/-! ## Quoted texts -/

namespace Value

theorem Escaped.reads {p : Point} {t : List Char} (h : Escaped p t) : Reads .inside t .inside := by
  have opened : Place.step .inside '\\' = some .escaped := by decide
  have digits : ∀ n, Reads .inside (Text.hexDigits 4 n) .inside := fun n =>
    .of_steps fun c member => Place.step_inside_of_unmarked (Text.hexDigits_unmarked member)
  have code : ∀ n, Reads .inside ('\\' :: 'u' :: Text.hexDigits 4 n) .inside := fun n =>
    .cons opened (.cons rfl (digits n))
  cases h with
  | plain unquoted unescaped =>
      exact .cons (Place.step_inside_of_unmarked ⟨unquoted, unescaped⟩) .nil
  | letter => exact .cons opened (.cons rfl .nil)
  | code => exact code p.code
  | codes => exact (code _).append (code _)

theorem reads_compactText (ps : Points) :
    Reads .outside (compactText ps).toList .outside := by
  have body : Reads .inside (ps.flatMap compactPoint) .inside :=
    .flatMap (fun p => (escaped_compactPoint p).reads) ps
  rw [toList_compactText]
  exact .cons Place.step_quote.1 (body.append (.cons Place.step_quote.2 .nil))

end Value

end Colony
