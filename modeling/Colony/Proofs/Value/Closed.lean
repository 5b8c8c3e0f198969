import Colony.Proofs.Value.Compact
import Colony.Scalar.Amount

/-!
# Compact texts close their quotes

In the compact text of any value at all, of fractions and under keys of every
kind too, backslashes and bars stand inside quotes only, and quotes are closed.
Numbers are written without any of them.
-/

namespace Colony

/-! ## Numbers -/

theorem Text.Unmarked.zeros (n : Nat) : Unmarked (Decimal.zeros n) := by
  intro c member
  rw [Decimal.zeros, String.toList_ofList] at member
  rw [List.eq_of_mem_replicate member]
  rfl

open Text (Unmarked)

namespace Decimal

variable {layout : Layout} {digits : String}

theorem unmarked_positional (whole : Unmarked layout.wholeMark) (h : Unmarked digits)
    (point : Int) : Unmarked (positional layout digits point) := by
  unfold positional
  split
  · exact (Unmarked.append (by decide) (.zeros _)).append h
  · split
    · exact (h.append (.zeros _)).append whole
    · exact ((h.ofList (List.take_subset _ _)).append (by decide)).append
        (h.ofList (List.drop_subset _ _))

theorem unmarked_exponentText (mark : Unmarked layout.exponentMark) (e : Int) :
    Unmarked (exponentText layout e) := by
  have sign : Unmarked (if e < 0 then "-" else "+") := by split <;> decide
  exact (mark.append sign).append (.append (.zeros _) (.natural _))

theorem unmarked_scientific (mark : Unmarked layout.exponentMark) (h : Unmarked digits)
    (point : Int) : Unmarked (scientific layout digits point) := by
  have fraction : Unmarked (if (digits.toList.drop 1).isEmpty then ""
      else "." ++ String.ofList (digits.toList.drop 1)) := by
    split
    · decide
    · exact .append (by decide) (h.ofList (List.drop_subset _ _))
  exact ((h.ofList (List.take_subset _ _)).append fraction).append
    (unmarked_exponentText mark _)

theorem unmarked_write (whole : Unmarked layout.wholeMark) (mark : Unmarked layout.exponentMark)
    (d : Shortest) : Unmarked (layout.write d) := by
  have digits : Unmarked (toString d.digits) := .natural d.digits
  unfold Layout.write
  dsimp only
  split
  · exact unmarked_positional whole digits _
  · exact unmarked_scientific mark digits _

end Decimal

theorem unmarked_binaryText (x : Float) : Unmarked (binaryText x) := by
  have sign : Unmarked (if Decimal.signBit ≤ x.toBits.toNat then "-" else "") := by
    split <;> decide
  unfold binaryText
  dsimp only
  split
  · exact sign.append (by decide)
  · split
    · exact sign.append (Decimal.unmarked_write (by decide) (by decide) _)
    · split
      · exact sign.append (by decide)
      · decide

theorem Amount.unmarked_text (x : Amount) : Unmarked x.text := by
  cases x with
  | whole n => exact .whole n
  | flag b => cases b <;> decide
  | binary x => exact unmarked_binaryText x
  | overflow => decide

/-! ## Values -/

namespace Value

/-- Quotes are closed, and what marks them off stands inside. -/
def Closed (t : String) : Prop := Reads .outside t.toList .outside

variable {α : Type} [Scalar α]

theorem closed_between {first last : String} {start stop : Char} (opens : first.toList = [start])
    (closes : last.toList = [stop]) (outside : Place.step .outside start = some .outside)
    (closing : stop = ']' ∨ stop = '}') {ts : List String} (each : ∀ t ∈ ts, Closed t) :
    Closed (first ++ ",".intercalate ts ++ last) := by
  rw [Closed, String.toList_append, String.toList_append, opens, closes, List.append_assoc,
    Text.toList_intercalate]
  exact .cons outside (Text.reads_enclosed closing (by simpa [Closed] using each))

theorem closed_bracketed {ts : List String} (each : ∀ t ∈ ts, Closed t) :
    Closed ("[" ++ ",".intercalate ts ++ "]") :=
  closed_between rfl rfl rfl (.inl rfl) each

theorem closed_braced {ts : List String} (each : ∀ t ∈ ts, Closed t) :
    Closed (braced (",".intercalate ts)) :=
  closed_between rfl rfl rfl (.inr rfl) each

theorem closed_items {items : List (Value α)}
    (each : ∀ v ∈ items, ∀ t, compact v = .ok t → Closed t)
    {t : String}
    (written : (compactItems items).map (fun ts => "[" ++ ",".intercalate ts ++ "]") = .ok t) :
    Closed t := by
  obtain ⟨ts, texts, rfl⟩ := Answer.map_eq_ok.mp written
  refine closed_bracketed fun t member => ?_
  rw [compactItems_eq_mapM] at texts
  obtain ⟨v, listed, known⟩ := Answer.exists_of_mem_mapM texts member
  exact each v listed t known

theorem closed_compactEntries {entries : List (Value α × Answer α String)}
    (each : ∀ entry ∈ entries, ∀ t, entry.2 = .ok t → Closed t) {t : String}
    (written : compactEntries entries = .ok t) : Closed t := by
  unfold compactEntries at written
  split at written
  · obtain ⟨members, mapped, rfl⟩ := Answer.map_eq_ok.mp written
    refine closed_braced fun m member => ?_
    obtain ⟨entry, listed, named⟩ := Answer.exists_of_mem_mapM mapped member
    obtain ⟨key, -, named⟩ := Answer.bind_eq_ok.mp named
    obtain ⟨value, known, named⟩ := Answer.bind_eq_ok.mp named
    cases named
    have closed := each entry (mem_sort.mp listed) value known
    rw [Closed, String.toList_append, String.toList_append, List.append_assoc]
    exact (reads_compactText key).append (.cons rfl closed)
  · cases written

theorem closed_compactAtom (numbers : ∀ x : α, Unmarked (Scalar.text x)) {v : Value α}
    {t : String} (written : compactAtom v = .ok t) : Closed t := by
  have number : ∀ x : α, Unmarked (compactNumber x) := by
    intro x
    unfold compactNumber
    split
    · exact numbers x
    · split <;> decide
    · decide
  cases v with
  | null =>
      cases written
      rfl
  | bool b =>
      cases written
      cases b <;> rfl
  | int n =>
      rw [compactAtom, Decimal.writeInteger?] at written
      split at written
      · cases written
        exact (Unmarked.whole n).reads
      · cases written
  | num x =>
      cases written
      exact (number x).reads
  | _ => cases written

theorem closed_compact (numbers : ∀ x : α, Unmarked (Scalar.text x)) {v : Value α} {t : String}
    (written : compact v = .ok t) : Closed t := by
  induction v generalizing t with
  | null =>
      cases written
      rfl
  | text s =>
      cases written
      exact reads_compactText s
  | torn u =>
      cases written
      exact reads_compactText u.points
  | bytes bs => cases written
  | list items ih => exact closed_items (fun v member _ => ih v member) written
  | tuple items ih => exact closed_items (fun v member _ => ih v member) written
  | dict entries ih =>
      rw [compact, compactValues_eq_map] at written
      refine closed_compactEntries (List.forall_mem_map.mpr fun entry listed t known => ?_) written
      exact ih entry listed known
  | bool b => exact closed_compactAtom numbers (v := .bool b) written
  | int n => exact closed_compactAtom numbers (v := .int n) written
  | num x => exact closed_compactAtom numbers (v := .num x) written

end Value

end Colony
