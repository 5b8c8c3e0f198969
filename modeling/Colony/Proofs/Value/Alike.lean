import Colony.Proofs.Table
import Colony.Proofs.Text.Escape

/-!
# Alike values

Plain values under text keys are alike if they differ in nothing but the order
in which the entries of their dictionaries were put, at any depth.
-/

namespace Colony.Value

variable {α : Type}

def textKeyed (entries : List (Points × Value α)) : List (Value α × Value α) :=
  entries.map fun entry => (ofPoints entry.1, entry.2)

/-- Values without fractions, bytes and tuples whose dictionaries have texts as keys.

No whole number is too long to be written, and no text has a pair of halves inside. -/
inductive Keyed : Value α → Prop
  | null : Keyed .null
  | bool (b : Bool) : Keyed (.bool b)
  | int (n : Int) (short : n.natAbs < 10 ^ Decimal.digitLimit) : Keyed (.int n)
  | text (s : String) : Keyed (.text s)
  | torn (t : Torn) (unpaired : Unpaired t.points) : Keyed (.torn t)
  | list (items : List (Value α)) (each : ∀ v ∈ items, Keyed v) : Keyed (.list items)
  | dict (entries : List (Points × Value α)) (distinct : (entries.map (·.1)).Nodup)
      (unpaired : ∀ entry ∈ entries, Unpaired entry.1) (each : ∀ entry ∈ entries, Keyed entry.2) :
      Keyed (.dict (textKeyed entries))

theorem textKeyed_injective : Function.Injective (textKeyed (α := α)) :=
  List.map_injective_iff.mpr fun e f same => by
    obtain ⟨key, value⟩ := Prod.mk.inj same
    exact Prod.ext (ofPoints_injective key) value

theorem keyed_dict_iff {entries : List (Points × Value α)} :
    Keyed (.dict (textKeyed entries)) ↔ (entries.map (·.1)).Nodup ∧
      (∀ entry ∈ entries, Unpaired entry.1) ∧ ∀ entry ∈ entries, Keyed entry.2 := by
  constructor
  · intro keyed
    generalize same : textKeyed entries = given at keyed
    cases keyed with
    | dict others distinct unpaired each =>
        rw [textKeyed_injective same]
        exact ⟨distinct, unpaired, each⟩
  · exact fun ⟨distinct, unpaired, each⟩ => .dict entries distinct unpaired each

/-- The values of the entries that follow each other are alike, and then the entries are moved. -/
inductive Alike : Value α → Value α → Prop
  | null : Alike .null .null
  | bool (b : Bool) : Alike (.bool b) (.bool b)
  | int (n : Int) : Alike (.int n) (.int n)
  | text (s : String) : Alike (.text s) (.text s)
  | torn (t : Torn) : Alike (.torn t) (.torn t)
  | list {items others : List (Value α)} (each : List.Forall₂ Alike items others) :
      Alike (.list items) (.list others)
  | dict {entries matching others : List (Value α × Value α)}
      (keys : entries.map (·.1) = matching.map (·.1))
      (values : List.Forall₂ Alike (entries.map (·.2)) (matching.map (·.2)))
      (moved : matching.Perm others) : Alike (.dict entries) (.dict others)

theorem alike_list_iff {items others : List (Value α)} :
    Alike (.list items) (.list others) ↔ List.Forall₂ Alike items others := by
  constructor
  · rintro ⟨⟩
    assumption
  · exact .list

def AlikeEntry (entry other : Points × Value α) : Prop :=
  entry.1 = other.1 ∧ Alike entry.2 other.2

theorem forall₂_alikeEntry_iff {entries others : List (Points × Value α)} :
    List.Forall₂ AlikeEntry entries others ↔
      (textKeyed entries).map (·.1) = (textKeyed others).map (·.1) ∧
      List.Forall₂ Alike ((textKeyed entries).map (·.2)) ((textKeyed others).map (·.2)) := by
  induction entries generalizing others with
  | nil => cases others <;> simp [textKeyed]
  | cons entry entries ih =>
      cases others with
      | nil => simp [textKeyed]
      | cons other others =>
          rw [List.forall₂_cons, ih]
          have keys : (ofPoints entry.1 : Value α) = ofPoints other.1 ↔ entry.1 = other.1 :=
            ⟨ofPoints_injective, congrArg ofPoints⟩
          simp only [textKeyed, List.map_cons, List.cons.injEq, keys, List.forall₂_cons,
            AlikeEntry]
          tauto

theorem alike_dict_iff {entries others : List (Points × Value α)} :
    Alike (.dict (textKeyed entries)) (.dict (textKeyed others)) ↔
      ∃ matching, List.Forall₂ AlikeEntry entries matching ∧ matching.Perm others := by
  constructor
  · rintro ⟨⟩
    rename_i moved keys values order
    obtain ⟨matching, rfl, perm⟩ := Table.exists_map_of_perm order
    exact ⟨matching, forall₂_alikeEntry_iff.mpr ⟨keys, values⟩, perm⟩
  · rintro ⟨matching, each, order⟩
    obtain ⟨keys, values⟩ := forall₂_alikeEntry_iff.mp each
    exact .dict keys values (order.map _)

/-- Entries that are alike one by one in other orders are alike. -/
theorem alike_dict_of_perm {entries others sorted sorted' : List (Points × Value α)}
    (order : entries.Perm sorted) (order' : sorted'.Perm others)
    (each : List.Forall₂ AlikeEntry sorted sorted') :
    Alike (.dict (textKeyed entries)) (.dict (textKeyed others)) := by
  obtain ⟨matching, same, moved⟩ := List.perm_comp_forall₂ order each
  exact alike_dict_iff.mpr ⟨matching, same, moved.trans order'⟩

end Colony.Value
