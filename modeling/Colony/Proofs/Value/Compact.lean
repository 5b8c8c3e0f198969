import Colony.Proofs.Answer
import Colony.Proofs.Sorting
import Colony.Proofs.Text.Listed
import Colony.Proofs.Value.Alike

/-!
# Compact texts tell values apart

Every plain value under text keys has a compact text.  Whatever follows it, as
long as it could follow inside a list or a dictionary, the text can be told
from it, and it belongs to alike values only.
-/

namespace Colony.Value

open Text

variable {α β : Type}

/-! ## Entries in the order of their keys -/

def byKey (entries : List (Points × β)) : List (Points × β) :=
  sort (fun e f => e.1.before f.1) entries

/-- Texts are in the order of their code points. -/
theorem byKey_codes : ByKey (fun e : Points × β => e.1.map Point.code)
    fun e f => e.1.before f.1 := fun e f => by simp [Points.before]

theorem codes_injective : Function.Injective (List.map Point.code) :=
  List.map_injective_iff.mpr fun _ _ => Point.code_injective

theorem nodup_codes {entries : List (Points × β)} (distinct : (entries.map (·.1)).Nodup) :
    (entries.map fun e => e.1.map Point.code).Nodup := by
  rw [← Function.comp_def (List.map Point.code) Prod.fst, ← List.map_map]
  exact distinct.map codes_injective

theorem byKey_eq_of_perm {entries others : List (Points × β)}
    (distinct : (entries.map (·.1)).Nodup) (perm : entries.Perm others) :
    byKey entries = byKey others :=
  byKey_codes.sort_eq_of_perm (nodup_codes distinct) perm

theorem byKey_map (f : Points × α → β) (entries : List (Points × α)) :
    byKey (entries.map fun e => (e.1, f e)) = (byKey entries).map fun e => (e.1, f e) :=
  sort_map (fun _ _ => rfl) entries

/-! ## The compact text -/

variable [Scalar α]

/-- The compact text of a value that has one. -/
def compacted (v : Value α) : String := v.compact.toOption.getD ""

/-- Whether the value has a compact text. -/
def Written (v : Value α) : Prop := compact v = .ok (compacted v)

theorem compacted_of_eq {v : Value α} {t : String} (h : compact v = .ok t) : compacted v = t := by
  simp [compacted, h, Except.toOption]

theorem written_of_eq {v : Value α} {t : String} (h : compact v = .ok t) : Written v := by
  rw [Written, compacted_of_eq h, h]

theorem compactItems_eq_mapM (items : List (Value α)) :
    compactItems items = items.mapM compact := by
  induction items with
  | nil => rfl
  | cons v vs ih =>
      rw [compactItems, List.mapM_cons, ih]
      cases compact v with
      | error failure => rfl
      | ok t => cases vs.mapM compact <;> rfl

theorem compactItems_of_written {items : List (Value α)} (each : ∀ v ∈ items, Written v) :
    compactItems items = .ok (items.map compacted) := by
  rw [compactItems_eq_mapM, Answer.mapM_eq_ok, List.forall₂_map_right_iff]
  exact List.forall₂_same.mpr each

theorem compactValues_eq_map (entries : List (Value α × Value α)) :
    compactValues entries = entries.map fun e => (e.1, compact e.2) := by
  induction entries with
  | nil => rfl
  | cons e es ih => rw [compactValues, ih, List.map_cons]

def member (entry : Points × String) : String := compactText entry.1 ++ ":" ++ entry.2

theorem keyText_ofPoints (ps : Points) : keyText (ofPoints ps : Value α) = .ok ps := by
  rw [keyText, points?_ofPoints]

theorem compactEntries_text (entries : List (Points × String)) :
    compactEntries (entries.map fun e => ((ofPoints e.1 : Value α), .ok e.2)) =
      .ok (braced (",".intercalate ((byKey entries).map member))) := by
  have compared : keysCompare
      ((entries.map fun e => ((ofPoints e.1 : Value α), (.ok e.2 : Answer α String))).map (·.1)) =
      true := by
    simp [keysCompare, points?_ofPoints]
  have sorted : sort (fun e f => keyBefore e.1 f.1)
      (entries.map fun e => ((ofPoints e.1 : Value α), (.ok e.2 : Answer α String))) =
      (byKey entries).map fun e => (ofPoints e.1, .ok e.2) :=
    sort_map (fun e f => by simp [keyBefore, points?_ofPoints]) entries
  have members : ((byKey entries).map fun e =>
      ((ofPoints e.1 : Value α), (.ok e.2 : Answer α String))).mapM compactMember =
      .ok ((byKey entries).map member) := by
    rw [Answer.mapM_eq_ok, List.forall₂_map_left_iff, List.forall₂_map_right_iff]
    refine List.forall₂_same.mpr fun e _ => ?_
    simp only [compactMember, keyText_ofPoints]
    rfl
  rw [compactEntries, if_pos compared, sorted, members]
  rfl

theorem compact_list {items : List (Value α)} (each : ∀ v ∈ items, Written v) :
    compact (.list items) = .ok ("[" ++ ",".intercalate (items.map compacted) ++ "]") := by
  rw [compact, compactItems_of_written each]
  rfl

theorem compact_dict {entries : List (Points × Value α)} (each : ∀ e ∈ entries, Written e.2) :
    compact (.dict (textKeyed entries)) = .ok (braced (",".intercalate
      ((byKey (entries.map fun e => (e.1, compacted e.2))).map member))) := by
  have texts : compactValues (textKeyed entries) =
      (entries.map fun e => (e.1, compacted e.2)).map fun e => (ofPoints e.1, .ok e.2) := by
    rw [compactValues_eq_map, textKeyed, List.map_map, List.map_map]
    exact List.map_congr_left fun e member => Prod.ext rfl (each e member)
  rw [compact, texts, compactEntries_text]

theorem compact_int {n : Int} (short : n.natAbs < 10 ^ Decimal.digitLimit) :
    compact (.int n : Value α) = .ok n.repr := by
  rw [compact, compactAtom, Decimal.writeInteger?, Nat.pow_eq, if_pos short, Int.toString_eq_repr]
  rfl

theorem Keyed.written {v : Value α} (h : Keyed v) : Written v := by
  induction h with
  | null => exact written_of_eq rfl
  | bool b => exact written_of_eq rfl
  | int n short => exact written_of_eq (compact_int short)
  | text s => exact written_of_eq rfl
  | torn t => exact written_of_eq rfl
  | list items _ ih => exact written_of_eq (compact_list ih)
  | dict entries _ _ _ ih => exact written_of_eq (compact_dict ih)

/-! ## The compact text as characters -/

def chars (v : Value α) : List Char := (compacted v).toList

def memberChars (entry : Points × Value α) : List Char :=
  (compactText entry.1).toList ++ ':' :: chars entry.2

theorem chars_null : chars (.null : Value α) = ['n', 'u', 'l', 'l'] := by
  rw [chars, compacted_of_eq rfl]
  rfl

theorem chars_bool (b : Bool) : chars (.bool b : Value α) =
    if b then ['t', 'r', 'u', 'e'] else ['f', 'a', 'l', 's', 'e'] := by
  rw [chars, compacted_of_eq rfl]
  cases b <;> rfl

theorem chars_int {n : Int} (short : n.natAbs < 10 ^ Decimal.digitLimit) :
    chars (.int n : Value α) = n.repr.toList := by
  rw [chars, compacted_of_eq (compact_int short)]

theorem chars_text (s : String) : chars (.text s : Value α) = (compactText s).toList := by
  rw [chars, compacted_of_eq rfl]

theorem chars_torn (t : Torn) : chars (.torn t : Value α) = (compactText t.points).toList := by
  rw [chars, compacted_of_eq rfl]

theorem chars_list {items : List (Value α)} (each : ∀ v ∈ items, Keyed v) :
    chars (.list items) = '[' :: enclosed ']' (items.map chars) := by
  have written := compact_list fun v member => (each v member).written
  rw [chars, compacted_of_eq written, String.toList_append, String.toList_append, List.append_assoc]
  have body := toList_intercalate ']' (items.map compacted)
  rw [List.map_map] at body
  exact congrArg ('[' :: ·) body

theorem chars_dict {entries : List (Points × Value α)} (each : ∀ e ∈ entries, Keyed e.2) :
    chars (.dict (textKeyed entries)) =
      '{' :: enclosed '}' ((byKey entries).map memberChars) := by
  have written := compact_dict fun e member => (each e member).written
  have members :
      ((byKey (entries.map fun e => (e.1, compacted e.2))).map member).map String.toList =
      (byKey entries).map memberChars := by
    rw [byKey_map, List.map_map, List.map_map]
    simp [member, memberChars, chars, Function.comp_def]
  have body := toList_intercalate '}' ((byKey (entries.map fun e => (e.1, compacted e.2))).map
    member)
  rw [members] at body
  rw [chars, compacted_of_eq written, braced, String.toList_append, String.toList_append,
    List.append_assoc]
  exact congrArg ('{' :: ·) body

/-! ## Telling values apart -/

/-- The first character of a compact text, the same one for all values of a kind. -/
def opener : Value α → Char
  | .null => 'n'
  | .bool _ => 't'
  | .int _ => '0'
  | .text _ => doubleQuote
  | .torn _ => doubleQuote
  | .list _ => '['
  | .dict _ => '{'
  | _ => ' '

def openerOf (c : Char) : Char := if c = 'f' then 't' else if isNumeral c then '0' else c

theorem Keyed.opens {v : Value α} (h : Keyed v) :
    ∃ c rest, chars v = c :: rest ∧ openerOf c = opener v := by
  cases h with
  | null => exact ⟨_, _, chars_null, rfl⟩
  | bool b =>
      cases b with
      | true => exact ⟨_, _, chars_bool true, rfl⟩
      | false => exact ⟨_, _, chars_bool false, rfl⟩
  | int n short =>
      obtain ⟨c, rest, text⟩ := List.exists_cons_of_ne_nil (repr_ne_nil n)
      have numeral : isNumeral c = true := isNumeral_of_mem_repr (text ▸ List.mem_cons_self)
      have notF : c ≠ 'f' := by
        rintro rfl
        cases numeral
      exact ⟨c, rest, (chars_int short).trans text, by simp [openerOf, opener, numeral, notF]⟩
  | text s => exact ⟨_, _, (chars_text s).trans (toList_compactText s), rfl⟩
  | torn t => exact ⟨_, _, (chars_torn t).trans (toList_compactText t.points), rfl⟩
  | list items each => exact ⟨_, _, chars_list each, rfl⟩
  | dict entries _ _ each => exact ⟨_, _, chars_dict each, rfl⟩

theorem Keyed.opens_no_bracket {v : Value α} (h : Keyed v) :
    ∃ c rest, chars v = c :: rest ∧ c ≠ ']' := by
  obtain ⟨c, rest, text, first⟩ := h.opens
  refine ⟨c, rest, text, ?_⟩
  rintro rfl
  cases h <;> cases first

theorem opener_eq_of_append_eq {v w : Value α} (hv : Keyed v) (hw : Keyed w) {r s : List Char}
    (same : chars v ++ r = chars w ++ s) : opener v = opener w := by
  obtain ⟨c, rest, text, first⟩ := hv.opens
  obtain ⟨d, rest', text', first'⟩ := hw.opens
  rw [text, text'] at same
  rw [← first, ← first', (List.cons.inj same).1]

/-- The value can be told from its text, up to the order of entries, whatever ends the text. -/
def Told (v : Value α) : Prop :=
  ∀ ⦃w⦄, Keyed w → ∀ ⦃r s⦄, Ends r → Ends s → chars v ++ r = chars w ++ s → Alike v w ∧ r = s

theorem told_null : Told (.null : Value α) := by
  intro w hw r s _ _ same
  have kind := opener_eq_of_append_eq .null hw same
  cases hw with
  | null => exact ⟨.null, List.append_cancel_left same⟩
  | _ => cases kind

theorem told_bool (b : Bool) : Told (.bool b : Value α) := by
  intro w hw r s _ _ same
  have kind := opener_eq_of_append_eq (.bool b) hw same
  cases hw with
  | bool b' =>
      rw [chars_bool, chars_bool] at same
      have first : b = b' := by cases b <;> cases b' <;> simp at same ⊢
      subst first
      exact ⟨.bool b, List.append_cancel_left same⟩
  | _ => cases kind

theorem told_int {n : Int} (short : n.natAbs < 10 ^ Decimal.digitLimit) :
    Told (.int n : Value α) := by
  intro w hw r s hr hs same
  have kind := opener_eq_of_append_eq (.int n short) hw same
  cases hw with
  | int m short' =>
      rw [chars_int short, chars_int short'] at same
      obtain ⟨rfl, rest⟩ := repr_append_inj hr hs same
      exact ⟨.int n, rest⟩
  | _ => cases kind

theorem told_text (t : String) : Told (.text t : Value α) := by
  intro w hw r s _ _ same
  have kind := opener_eq_of_append_eq (.text t) hw same
  cases hw with
  | text u =>
      rw [chars_text, chars_text] at same
      obtain ⟨points, rest⟩ := compactText_append_inj (.ofString t) (.ofString u) same
      obtain rfl := Points.ofString_injective points
      exact ⟨.text t, rest⟩
  | torn u unpaired =>
      rw [chars_text, chars_torn] at same
      obtain ⟨points, -⟩ := compactText_append_inj (.ofString t) unpaired same
      exact absurd points.symm (u.points_ne_ofString t)
  | _ => cases kind

theorem told_torn {t : Torn} (unpaired : Unpaired t.points) : Told (.torn t : Value α) := by
  intro w hw r s _ _ same
  have kind := opener_eq_of_append_eq (.torn t unpaired) hw same
  cases hw with
  | text u =>
      rw [chars_torn, chars_text] at same
      obtain ⟨points, -⟩ := compactText_append_inj unpaired (.ofString u) same
      exact absurd points (t.points_ne_ofString u)
  | torn u unpaired' =>
      rw [chars_torn, chars_torn] at same
      obtain ⟨points, rest⟩ := compactText_append_inj unpaired unpaired' same
      obtain rfl : t = u := Torn.eq_of_points points
      exact ⟨.torn t, rest⟩
  | _ => cases kind

theorem told_list {items : List (Value α)} (each : ∀ v ∈ items, Keyed v)
    (told : ∀ v ∈ items, Told v) : Told (.list items) := by
  intro w hw r s _ _ same
  have kind := opener_eq_of_append_eq (.list items each) hw same
  cases hw with
  | list others each' =>
      rw [chars_list each, chars_list each'] at same
      have starts : ∀ v ∈ items ++ others, ∃ c rest, chars v = c :: rest ∧ c ≠ ']' := by
        intro v member
        rcases List.mem_append.mp member with left | right
        · exact (each v left).opens_no_bracket
        · exact (each' v right).opens_no_bracket
      obtain ⟨alike, rest⟩ := enclosed_append_inj (.inl rfl)
        (fun v hv w hw r s hr hs same => told v hv (each' w hw) hr hs same) starts
        (List.cons.inj same).2
      exact ⟨.list alike, rest⟩
  | _ => cases kind

theorem memberChars_append_inj {e f : Points × Value α} (unpaired : Unpaired e.1)
    (unpaired' : Unpaired f.1) (told : Told e.2) (keyed : Keyed f.2)
    {r s : List Char} (hr : Ends r) (hs : Ends s)
    (same : memberChars e ++ r = memberChars f ++ s) : AlikeEntry e f ∧ r = s := by
  simp only [memberChars, List.append_assoc] at same
  obtain ⟨key, value⟩ := compactText_append_inj unpaired unpaired' same
  obtain ⟨alike, rest⟩ := told keyed hr hs (List.cons.inj value).2
  exact ⟨⟨key, alike⟩, rest⟩

theorem told_dict {entries : List (Points × Value α)} (distinct : (entries.map (·.1)).Nodup)
    (unpaired : ∀ e ∈ entries, Unpaired e.1) (each : ∀ e ∈ entries, Keyed e.2)
    (told : ∀ e ∈ entries, Told e.2) : Told (.dict (textKeyed entries)) := by
  intro w hw r s _ _ same
  have kind := opener_eq_of_append_eq (.dict entries distinct unpaired each) hw same
  cases hw with
  | dict others distinct' unpaired' each' =>
      -- Both texts list the entries by key; they are compared in that order and then moved back.
      rw [chars_dict each, chars_dict each'] at same
      have starts : ∀ e ∈ byKey entries ++ byKey others,
          ∃ c rest, memberChars e = c :: rest ∧ c ≠ '}' := by
        intro e _
        rw [memberChars, toList_compactText]
        exact ⟨_, _, rfl, by decide⟩
      obtain ⟨alike, rest⟩ := enclosed_append_inj (.inr rfl)
        (fun e he f hf r s hr hs same => memberChars_append_inj (unpaired e (mem_sort.mp he))
          (unpaired' f (mem_sort.mp hf)) (told e (mem_sort.mp he)) (each' f (mem_sort.mp hf))
          hr hs same) starts (List.cons.inj same).2
      exact ⟨alike_dict_of_perm (sort_perm _ entries).symm (sort_perm _ others) alike, rest⟩
  | _ => cases kind

theorem Keyed.told {v : Value α} (h : Keyed v) : Told v := by
  induction h with
  | null => exact told_null
  | bool b => exact told_bool b
  | int n short => exact told_int short
  | text t => exact told_text t
  | torn t unpaired => exact told_torn unpaired
  | list items each ih => exact told_list each ih
  | dict entries distinct unpaired each ih => exact told_dict distinct unpaired each ih

/-! ## One text for alike values -/

theorem map_eq_of_forall₂ {γ : Type} {R : β → β → Prop} {f : β → γ} {bs cs : List β}
    (each : List.Forall₂ R bs cs) (same : ∀ b ∈ bs, ∀ c ∈ cs, R b c → f b = f c) :
    bs.map f = cs.map f := by
  induction each with
  | nil => rfl
  | cons first _ ih =>
      rw [List.map_cons, List.map_cons, same _ (by simp) _ (by simp) first,
        ih fun b hb c hc => same b (by simp [hb]) c (by simp [hc])]

theorem Keyed.compact_eq {v w : Value α} (hv : Keyed v) (hw : Keyed w) (alike : Alike v w) :
    compacted v = compacted w := by
  -- Alike entries are known to be keyed only from the values they stand in, so the induction is
  -- on the first value and not on the likeness.
  induction hv generalizing w with
  | null => cases alike; rfl
  | bool b => cases alike; rfl
  | int n => cases alike; rfl
  | text s => cases alike; rfl
  | torn t => cases alike; rfl
  | list items each ih =>
      cases hw with
      | list others each' =>
          have texts : items.map compacted = others.map compacted :=
            map_eq_of_forall₂ (alike_list_iff.mp alike) fun v hv w hw => ih v hv (each' w hw)
          rw [compacted_of_eq (compact_list fun v member => (each v member).written),
            compacted_of_eq (compact_list fun v member => (each' v member).written), texts]
      | _ => cases alike
  | dict entries distinct _ each ih =>
      cases hw with
      | dict others distinct' _ each' =>
          obtain ⟨matching, entriesAlike, moved⟩ := alike_dict_iff.mp alike
          have texts : entries.map (fun e => (e.1, compacted e.2)) =
              matching.map fun e => (e.1, compacted e.2) := by
            refine map_eq_of_forall₂ entriesAlike fun e he f hf same => ?_
            rw [same.1, ih e he (each' f (moved.mem_iff.mp hf)) same.2]
          have sorted : byKey (entries.map fun e => (e.1, compacted e.2)) =
              byKey (others.map fun e => (e.1, compacted e.2)) := by
            refine byKey_eq_of_perm ?_ (texts ▸ moved.map _)
            simpa [Function.comp_def] using distinct
          rw [compacted_of_eq (compact_dict fun e member => (each e member).written),
            compacted_of_eq (compact_dict fun e member => (each' e member).written), sorted]
      | _ => cases alike

/-- Alike values, and no others, have one compact text. -/
theorem Keyed.compact_eq_iff {v w : Value α} (hv : Keyed v) (hw : Keyed w) :
    compacted v = compacted w ↔ Alike v w := by
  refine ⟨fun same => ?_, hv.compact_eq hw⟩
  have ends : Ends [] := by simp [Ends]
  exact (hv.told hw ends ends (congrArg (·.toList ++ []) same)).1

/-! ## Quotes are closed -/

theorem Keyed.reads {v : Value α} (h : Keyed v) : Reads .outside (chars v) .outside := by
  induction h with
  | null =>
      rw [chars_null]
      rfl
  | bool b =>
      rw [chars_bool]
      cases b <;> rfl
  | int n short =>
      rw [chars_int short, ← Int.toString_eq_repr]
      exact (Unmarked.whole n).reads
  | text s =>
      rw [chars_text]
      exact reads_compactText s
  | torn t =>
      rw [chars_torn]
      exact reads_compactText t.points
  | list items each ih =>
      rw [chars_list each]
      exact .cons rfl (reads_enclosed (.inl rfl) (by simpa using ih))
  | dict entries _ _ each ih =>
      rw [chars_dict each]
      refine .cons rfl (reads_enclosed (.inr rfl) fun t member => ?_)
      obtain ⟨e, listed, rfl⟩ := List.mem_map.mp member
      exact (reads_compactText e.1).append (.cons rfl (ih e (mem_sort.mp listed)))

end Colony.Value
