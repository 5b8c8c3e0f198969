import Colony.Proofs.Table
import Colony.Proofs.Value.Compact
import Colony.Scalar.Amount
import Colony.Value.Plain

/-!
# Plain values are canonical

What `plain?` makes of a value is in one form: dictionaries list texts in
ascending order, at any depth, and there is nothing left to be done.  Where no
two keys of a dictionary become the same text, nothing is lost on the way and
the order in which entries were put does not show.  A value has no plain form
just if a key inside has a whole number that is too long to be written.
-/

namespace Colony.Value

variable {α : Type}

/-! ## Values that can be written -/

section Short

mutual

/-- Whether no whole number in a value is too long to be written. -/
def short : Value α → Bool
  | .int n => n.natAbs < 10 ^ Decimal.digitLimit
  | .list items => shortItems items
  | .tuple items => shortItems items
  | .dict entries => shortEntries entries
  | .null => true
  | .bool _ => true
  | .num _ => true
  | .text _ => true
  | .torn _ => true
  | .bytes _ => true
  termination_by structural v => v

def shortItems : List (Value α) → Bool
  | [] => true
  | v :: vs => short v && shortItems vs
  termination_by structural vs => vs

def shortEntries : List (Value α × Value α) → Bool
  | [] => true
  | (k, v) :: rest => short k && short v && shortEntries rest
  termination_by structural entries => entries

end

mutual

/-- Whether this is so of every key of the dictionaries in a value. -/
def shortKeyed : Value α → Bool
  | .list items => shortKeyedItems items
  | .tuple items => shortKeyedItems items
  | .dict entries => shortKeyedEntries entries
  | .null => true
  | .bool _ => true
  | .int _ => true
  | .num _ => true
  | .text _ => true
  | .torn _ => true
  | .bytes _ => true
  termination_by structural v => v

def shortKeyedItems : List (Value α) → Bool
  | [] => true
  | v :: vs => shortKeyed v && shortKeyedItems vs
  termination_by structural vs => vs

def shortKeyedEntries : List (Value α × Value α) → Bool
  | [] => true
  | (k, v) :: rest => short k && shortKeyed v && shortKeyedEntries rest
  termination_by structural entries => entries

end

variable [Scalar α]

theorem isSome_writtenItems? {items : List (Value α)}
    (each : ∀ v ∈ items, v.written?.isSome = v.short) :
    (writtenItems? items).isSome = shortItems items := by
  induction items with
  | nil => rfl
  | cons v vs ih =>
      rw [shortItems, ← each v List.mem_cons_self,
        ← ih fun w member => each w (List.mem_cons_of_mem v member), writtenItems?]
      cases v.written? <;> simp

theorem isSome_writtenEntries? {entries : List (Value α × Value α)}
    (each : ∀ entry ∈ entries, entry.1.written?.isSome = entry.1.short ∧
      entry.2.written?.isSome = entry.2.short) :
    (writtenEntries? entries).isSome = shortEntries entries := by
  induction entries with
  | nil => rfl
  | cons entry rest ih =>
      obtain ⟨key, value⟩ := each entry List.mem_cons_self
      rw [shortEntries, ← key, ← value,
        ← ih fun other member => each other (List.mem_cons_of_mem entry member), writtenEntries?]
      cases entry.1.written? <;> cases entry.2.written? <;> simp

theorem isSome_written? (v : Value α) : v.written?.isSome = v.short := by
  induction v using deepInduction with
  | int n =>
      simp only [written?, short, Decimal.writeInteger?, Nat.pow_eq]
      split <;> simp [*]
  | list items ih =>
      rw [written?, Option.isSome_map, isSome_writtenItems? ih, short]
  | tuple items ih =>
      rw [written?, Option.isSome_map, isSome_writtenItems? ih, short]
  | dict entries ih =>
      rw [written?, Option.isSome_map, isSome_writtenEntries? ih, short]
  | null | bool _ | num _ | text _ | torn _ | bytes _ => rfl

theorem isSome_shown? (v : Value α) : v.shown?.isSome = v.short := by
  cases v with
  | text s => rfl
  | torn t => rfl
  | _ => rw [shown?_of_no_points rfl, Option.isSome_map, isSome_written?]

theorem isSome_plainItems? {items : List (Value α)}
    (each : ∀ v ∈ items, v.plain?.isSome = v.shortKeyed) :
    (plainItems? items).isSome = shortKeyedItems items := by
  induction items with
  | nil => rfl
  | cons v vs ih =>
      rw [shortKeyedItems, ← each v List.mem_cons_self,
        ← ih fun w member => each w (List.mem_cons_of_mem v member), plainItems?]
      cases v.plain? <;> simp

theorem isSome_plainEntries? {entries : List (Value α × Value α)}
    (each : ∀ entry ∈ entries, entry.2.plain?.isSome = entry.2.shortKeyed) :
    (plainEntries? entries).isSome = shortKeyedEntries entries := by
  induction entries with
  | nil => rfl
  | cons entry rest ih =>
      rw [shortKeyedEntries, ← isSome_shown?, ← each entry List.mem_cons_self,
        ← ih fun other member => each other (List.mem_cons_of_mem entry member), plainEntries?]
      cases entry.1.shown? <;> cases entry.2.plain? <;> simp

theorem isSome_plain? (v : Value α) : v.plain?.isSome = v.shortKeyed := by
  induction v with
  | list items ih => rw [plain?, Option.isSome_map, isSome_plainItems? ih, shortKeyed]
  | tuple items ih => rw [plain?, Option.isSome_map, isSome_plainItems? ih, shortKeyed]
  | dict entries ih => rw [plain?, Option.isSome_map, isSome_plainEntries? ih, shortKeyed]
  | null | bool _ | int _ | num _ | text _ | torn _ | bytes _ => rfl

end Short

variable [Scalar α]

/-! ## One step of the way -/

theorem mapM_eq_some {β γ : Type} {f : β → Option γ} {bs : List β} {cs : List γ} :
    bs.mapM f = some cs ↔ List.Forall₂ (fun b c => f b = some c) bs cs := by
  induction bs generalizing cs with
  | nil => simp [eq_comm]
  | cons b bs ih =>
      simp only [List.mapM_cons, bind, Option.bind_eq_some_iff, pure, Option.some_inj, ih,
        List.forall₂_cons_left_iff]
      constructor
      · rintro ⟨c, first, rest, others, same⟩
        exact ⟨c, rest, first, others, same.symm⟩
      · rintro ⟨c, rest, first, others, same⟩
        exact ⟨c, first, rest, others, same.symm⟩

theorem plainItems?_eq_mapM (items : List (Value α)) : plainItems? items = items.mapM plain? := by
  induction items with
  | nil => rfl
  | cons v vs ih =>
      rw [plainItems?, List.mapM_cons, ih]
      cases plain? v with
      | none => rfl
      | some w => cases vs.mapM plain? <;> rfl

def entryOf? (entry : Value α × Value α) : Option (Points × Value α) :=
  entry.1.shown?.bind fun key => entry.2.plain?.map fun w => (key, w)

theorem entryOf?_eq_some {entry : Value α × Value α} {plain : Points × Value α} :
    entryOf? entry = some plain ↔
      entry.1.shown? = some plain.1 ∧ entry.2.plain? = some plain.2 := by
  obtain ⟨key, value⟩ := plain
  simp only [entryOf?, Option.bind_eq_some_iff, Option.map_eq_some_iff, Prod.mk.injEq]
  constructor
  · rintro ⟨shown, first, w, rest, rfl, rfl⟩
    exact ⟨first, rest⟩
  · rintro ⟨first, rest⟩
    exact ⟨key, first, value, rest, rfl, rfl⟩

theorem plainEntries?_eq_mapM (entries : List (Value α × Value α)) :
    plainEntries? entries = entries.mapM entryOf? := by
  induction entries with
  | nil => rfl
  | cons entry rest ih =>
      rw [plainEntries?, List.mapM_cons, ih, entryOf?]
      cases entry.1.shown? with
      | none => rfl
      | some key =>
          cases entry.2.plain? with
          | none => rfl
          | some w => cases rest.mapM entryOf? <;> rfl

/-- The values of a list and their plain forms. -/
def PlainItems (items others : List (Value α)) : Prop :=
  List.Forall₂ (fun v w => plain? v = some w) items others

/-- The entries of a dictionary and what they become. -/
def PlainEntries (entries : List (Value α × Value α)) (others : List (Points × Value α)) : Prop :=
  List.Forall₂ (fun entry plain => entryOf? entry = some plain) entries others

theorem plainItems?_eq_some {items others : List (Value α)} :
    plainItems? items = some others ↔ PlainItems items others := by
  rw [plainItems?_eq_mapM, mapM_eq_some, PlainItems]

theorem plainEntries?_eq_some {entries : List (Value α × Value α)}
    {others : List (Points × Value α)} :
    plainEntries? entries = some others ↔ PlainEntries entries others := by
  rw [plainEntries?_eq_mapM, mapM_eq_some, PlainEntries]

omit [Scalar α] in
theorem keyed_eq (entries : List (Points × Value α)) :
    keyed entries = .dict (textKeyed (Table.ofList (byKey entries))) := rfl

/-! ## The form of plain values -/

/-- Keys in ascending order of their code points. -/
def Ascending (entries : List (Points × Value α)) : Prop :=
  entries.Pairwise fun e f => e.1.map Point.code < f.1.map Point.code

/-- Values of the plain kinds whose dictionaries list texts in ascending order. -/
inductive Canonical : Value α → Prop
  | null : Canonical .null
  | bool (b : Bool) : Canonical (.bool b)
  | int (n : Int) : Canonical (.int n)
  | num (x : α) : Canonical (.num x)
  | text (s : String) : Canonical (.text s)
  | torn (t : Torn) : Canonical (.torn t)
  | list (items : List (Value α)) (each : ∀ v ∈ items, Canonical v) : Canonical (.list items)
  | dict (entries : List (Points × Value α)) (ascending : Ascending entries)
      (each : ∀ entry ∈ entries, Canonical entry.2) : Canonical (.dict (textKeyed entries))

omit [Scalar α] in
theorem Ascending.nodup {entries : List (Points × Value α)} (ascending : Ascending entries) :
    (entries.map (·.1)).Nodup := by
  refine List.pairwise_map.mpr (ascending.imp fun {e f} before => ?_)
  intro same
  rw [same] at before
  exact lt_irrefl _ before

omit [Scalar α] in
theorem ascending_ofList (entries : List (Points × Value α)) :
    Ascending (Table.ofList (byKey entries)) := by
  have weakly :
      ((byKey entries).map (·.1)).Pairwise fun k l => k.map Point.code ≤ l.map Point.code :=
    List.pairwise_map.mpr (byKey_codes.pairwise_sort_le entries)
  have distinct := Table.nodup_keys_ofList (byKey entries)
  have strictly := (weakly.sublist (Table.keys_ofList_sublist _)).imp₂
    (fun k l le ne => lt_of_le_of_ne le fun same => ne (codes_injective same)) distinct
  rw [List.pairwise_map] at strictly
  exact strictly

theorem forall_of_forall₂ {β γ : Type} {R : β → γ → Prop} {P : γ → Prop} {bs : List β}
    {cs : List γ} (pairs : List.Forall₂ R bs cs) (each : ∀ b ∈ bs, ∀ c, R b c → P c) :
    ∀ c ∈ cs, P c := by
  induction pairs with
  | nil => exact List.forall_mem_nil P
  | @cons b c bs cs first _ ih =>
      exact List.forall_mem_cons.mpr ⟨each b List.mem_cons_self c first,
        ih fun b' member => each b' (List.mem_cons_of_mem b member)⟩

theorem canonical_of_plain? {v p : Value α} (plain : v.plain? = some p) : Canonical p := by
  induction v generalizing p with
  | null =>
      cases plain
      exact .null
  | bool b =>
      cases plain
      exact .bool b
  | int n =>
      cases plain
      exact .int n
  | num x =>
      cases plain
      exact .num x
  | text s =>
      cases plain
      exact .text s
  | torn t =>
      cases plain
      exact .torn t
  | bytes bs =>
      cases plain
      exact .text _
  | list items ih | tuple items ih =>
      obtain ⟨others, pairs, rfl⟩ := Option.map_eq_some_iff.mp plain
      exact .list _ (forall_of_forall₂ (plainItems?_eq_some.mp pairs) fun v member w => ih v member)
  | dict entries ih =>
      obtain ⟨others, pairs, rfl⟩ := Option.map_eq_some_iff.mp plain
      have each : ∀ other ∈ others, Canonical other.2 :=
        forall_of_forall₂ (plainEntries?_eq_some.mp pairs) fun entry member other same =>
          ih entry member (entryOf?_eq_some.mp same).2
      rw [keyed_eq]
      exact .dict _ (ascending_ofList _)
        (Table.forall_ofList fun entry member => each entry (mem_sort.mp member))

theorem Canonical.plain?_eq {v : Value α} (h : Canonical v) : v.plain? = some v := by
  induction h with
  | null | bool _ | int _ | num _ | text _ | torn _ => rfl
  | list items each ih =>
      have same : plainItems? items = some items :=
        plainItems?_eq_some.mpr (List.forall₂_same.mpr ih)
      rw [plain?, same]
      rfl
  | dict entries ascending each ih =>
      have same : plainEntries? (textKeyed entries) = some entries := by
        rw [plainEntries?_eq_some, PlainEntries, textKeyed, List.forall₂_map_left_iff]
        exact List.forall₂_same.mpr fun entry member =>
          entryOf?_eq_some.mpr ⟨shown?_ofPoints entry.1, ih entry member⟩
      have sorted : byKey entries = entries := byKey_codes.sort_of_sorted ascending
      rw [plain?, same, Option.map_some, keyed_eq, sorted, Table.ofList_of_nodup ascending.nodup]

/-! ## Nothing is lost -/

/-- No dictionary, at any depth, has two keys that become the same text. -/
inductive Unambiguous : Value α → Prop
  | null : Unambiguous .null
  | bool (b : Bool) : Unambiguous (.bool b)
  | int (n : Int) : Unambiguous (.int n)
  | num (x : α) : Unambiguous (.num x)
  | text (s : String) : Unambiguous (.text s)
  | torn (t : Torn) : Unambiguous (.torn t)
  | bytes (bs : List UInt8) : Unambiguous (.bytes bs)
  | list (items : List (Value α)) (each : ∀ v ∈ items, Unambiguous v) :
      Unambiguous (.list items)
  | tuple (items : List (Value α)) (each : ∀ v ∈ items, Unambiguous v) :
      Unambiguous (.tuple items)
  | dict (entries : List (Value α × Value α)) (distinct : (entries.map (·.1.shown?)).Nodup)
      (each : ∀ entry ∈ entries, Unambiguous entry.2) : Unambiguous (.dict entries)

/-- The second value tells all of the first: bytes by their text, a tuple by a list, and every entry
of a dictionary, in some order, under the text of its key. -/
inductive Renders : Value α → Value α → Prop
  | null : Renders .null .null
  | bool (b : Bool) : Renders (.bool b) (.bool b)
  | int (n : Int) : Renders (.int n) (.int n)
  | num (x : α) : Renders (.num x) (.num x)
  | text (s : String) : Renders (.text s) (.text s)
  | torn (t : Torn) : Renders (.torn t) (.torn t)
  | bytes (bs : List UInt8) : Renders (.bytes bs) (.text (Text.quotedBytes bs))
  | list {items others : List (Value α)} (each : List.Forall₂ Renders items others) :
      Renders (.list items) (.list others)
  | tuple {items others : List (Value α)} (each : List.Forall₂ Renders items others) :
      Renders (.tuple items) (.list others)
  | dict {entries moved others : List (Value α × Value α)} (order : entries.Perm moved)
      (keys : moved.map (·.1.shown?) = others.map (·.1.points?))
      (values : List.Forall₂ Renders (moved.map (·.2)) (others.map (·.2))) :
      Renders (.dict entries) (.dict others)

theorem PlainItems.renders {items others : List (Value α)} (pairs : PlainItems items others)
    (each : ∀ v ∈ items, ∀ w, v.plain? = some w → Renders v w) :
    List.Forall₂ Renders items others :=
  ((List.forall₂_and_left _ _).mpr ⟨each, pairs⟩).imp fun _ w both => both.1 w both.2

theorem PlainEntries.keys {entries : List (Value α × Value α)} {others : List (Points × Value α)}
    (pairs : PlainEntries entries others) :
    entries.map (·.1.shown?) = others.map fun other => some other.1 := by
  induction pairs with
  | nil => rfl
  | cons first _ ih => rw [List.map_cons, List.map_cons, ih, (entryOf?_eq_some.mp first).1]

theorem PlainEntries.values {entries : List (Value α × Value α)}
    {others : List (Points × Value α)} (pairs : PlainEntries entries others) :
    PlainItems (entries.map (·.2)) (others.map (·.2)) := by
  rw [PlainItems, List.forall₂_map_left_iff, List.forall₂_map_right_iff]
  exact pairs.imp fun _ _ same => (entryOf?_eq_some.mp same).2

theorem PlainEntries.nodup {entries : List (Value α × Value α)} {others : List (Points × Value α)}
    (pairs : PlainEntries entries others) (distinct : (entries.map (·.1.shown?)).Nodup) :
    (others.map (·.1)).Nodup := by
  rw [pairs.keys, ← Function.comp_def some Prod.fst, ← List.map_map] at distinct
  exact distinct.of_map

/-- Entries that become others become them in any order. -/
theorem PlainEntries.perm {entries : List (Value α × Value α)}
    {others sorted : List (Points × Value α)} (pairs : PlainEntries entries others)
    (order : others.Perm sorted) :
    ∃ moved, entries.Perm moved ∧ PlainEntries moved sorted := by
  obtain ⟨moved, same, back⟩ := List.perm_comp_forall₂ order.symm (List.Forall₂.flip pairs)
  exact ⟨moved, back.symm, List.Forall₂.flip same⟩

/-- Without a key that comes twice, each entry becomes one, and they are put in order. -/
theorem PlainEntries.keyed_eq {entries : List (Value α × Value α)}
    {others : List (Points × Value α)} (pairs : PlainEntries entries others)
    (distinct : (entries.map (·.1.shown?)).Nodup) :
    keyed others = .dict (textKeyed (byKey others)) := by
  have once : ((byKey others).map (·.1)).Nodup :=
    ((sort_perm _ others).map _).nodup_iff.mpr (pairs.nodup distinct)
  rw [Value.keyed_eq, Table.ofList_of_nodup once]

theorem Unambiguous.renders {v p : Value α} (h : Unambiguous v) (plain : v.plain? = some p) :
    Renders v p := by
  induction h generalizing p with
  | null =>
      cases plain
      exact .null
  | bool b =>
      cases plain
      exact .bool b
  | int n =>
      cases plain
      exact .int n
  | num x =>
      cases plain
      exact .num x
  | text s =>
      cases plain
      exact .text s
  | torn t =>
      cases plain
      exact .torn t
  | bytes bs =>
      cases plain
      exact .bytes bs
  | list items each ih =>
      obtain ⟨others, pairs, rfl⟩ := Option.map_eq_some_iff.mp plain
      exact .list ((plainItems?_eq_some.mp pairs).renders fun v member w => ih v member)
  | tuple items each ih =>
      obtain ⟨others, pairs, rfl⟩ := Option.map_eq_some_iff.mp plain
      exact .tuple ((plainItems?_eq_some.mp pairs).renders fun v member w => ih v member)
  | dict entries distinct each ih =>
      obtain ⟨others, known, rfl⟩ := Option.map_eq_some_iff.mp plain
      have pairs := plainEntries?_eq_some.mp known
      obtain ⟨moved, order, sorted⟩ := pairs.perm (sort_perm _ others).symm
      have values := sorted.values.renders (List.forall_mem_map.mpr fun entry member w =>
        ih entry (order.mem_iff.mpr member))
      rw [pairs.keyed_eq distinct]
      refine .dict order ?_ ?_
      · rw [sorted.keys, textKeyed, List.map_map]
        exact List.map_congr_left fun other _ => (points?_ofPoints other.1).symm
      · rw [textKeyed, List.map_map]
        exact values

/-! ## The order of entries does not show -/

/-- Values that differ in nothing but the order in which the entries of dictionaries were put. -/
inductive Reordered : Value α → Value α → Prop
  | same (v : Value α) : Reordered v v
  | list {items others : List (Value α)} (each : List.Forall₂ Reordered items others) :
      Reordered (.list items) (.list others)
  | tuple {items others : List (Value α)} (each : List.Forall₂ Reordered items others) :
      Reordered (.tuple items) (.tuple others)
  | dict {entries matching others : List (Value α × Value α)}
      (keys : entries.map (·.1) = matching.map (·.1))
      (values : List.Forall₂ Reordered (entries.map (·.2)) (matching.map (·.2)))
      (moved : matching.Perm others) : Reordered (.dict entries) (.dict others)

theorem PlainItems.of_reordered {items others plain : List (Value α)}
    (pairs : PlainItems items plain) (same : List.Forall₂ Reordered items others)
    (each : ∀ v ∈ items, ∀ w, Reordered v w → ∀ p, v.plain? = some p → w.plain? = some p) :
    PlainItems others plain := by
  induction same generalizing plain with
  | nil => exact pairs
  | @cons v w vs ws first _ ih =>
      cases pairs with
      | cons known rest =>
          exact .cons (each v List.mem_cons_self w first _ known)
            (ih rest fun v' member => each v' (List.mem_cons_of_mem v member))

theorem plainEntries_iff {entries : List (Value α × Value α)} {others : List (Points × Value α)} :
    PlainEntries entries others ↔
      entries.map (·.1.shown?) = others.map (fun other => some other.1) ∧
        PlainItems (entries.map (·.2)) (others.map (·.2)) := by
  refine ⟨fun pairs => ⟨pairs.keys, pairs.values⟩, ?_⟩
  rintro ⟨keys, values⟩
  rw [PlainItems, List.forall₂_map_left_iff, List.forall₂_map_right_iff] at values
  rw [← List.forall₂_eq_eq_eq, List.forall₂_map_left_iff, List.forall₂_map_right_iff] at keys
  induction keys with
  | nil => exact .nil
  | cons key _ ih =>
      cases values with
      | cons value rest => exact .cons (entryOf?_eq_some.mpr ⟨key, value⟩) (ih rest)

theorem Unambiguous.plain?_eq {v w p : Value α} (h : Unambiguous v) (reordered : Reordered v w)
    (plain : v.plain? = some p) : w.plain? = some p := by
  -- Only the first value is known to be unambiguous, so the induction is on it.
  induction h generalizing w p with
  | list items each ih =>
      cases reordered with
      | same => exact plain
      | list same =>
          obtain ⟨others, known, rfl⟩ := Option.map_eq_some_iff.mp plain
          have moved := (plainItems?_eq_some.mp known).of_reordered same
            fun v member w again p => ih v member again
          rw [plain?, plainItems?_eq_some.mpr moved]
          rfl
  | tuple items each ih =>
      cases reordered with
      | same => exact plain
      | tuple same =>
          obtain ⟨others, known, rfl⟩ := Option.map_eq_some_iff.mp plain
          have moved := (plainItems?_eq_some.mp known).of_reordered same
            fun v member w again p => ih v member again
          rw [plain?, plainItems?_eq_some.mpr moved]
          rfl
  | dict entries distinct each ih =>
      cases reordered with
      | same => exact plain
      | @dict _ matching others keys values moved =>
          obtain ⟨given, known, rfl⟩ := Option.map_eq_some_iff.mp plain
          have pairs := plainEntries?_eq_some.mp known
          have shown : entries.map (·.1.shown?) = matching.map (·.1.shown?) := by
            have texts := congrArg (List.map shown?) keys
            rwa [List.map_map, List.map_map] at texts
          have matched : PlainEntries matching given := plainEntries_iff.mpr
            ⟨shown.symm.trans pairs.keys, pairs.values.of_reordered values
              (List.forall_mem_map.mpr fun entry member w again p => ih entry member again)⟩
          obtain ⟨again, rest, order⟩ := List.perm_comp_forall₂ moved.symm matched
          have sorted : byKey given = byKey again :=
            byKey_eq_of_perm (pairs.nodup distinct) order.symm
          have restKnown : plainEntries? others = some again := plainEntries?_eq_some.mpr rest
          rw [plain?, restKnown, Option.map_some, keyed_eq, keyed_eq, sorted]
  | _ =>
      cases reordered
      exact plain

/-- A value has a plain form unless a key of a dictionary inside cannot be written.  The form is
canonical and stays as it is, whatever the keys become; and where no two keys of a dictionary
become one text, it tells all of the value and nothing of the order in which entries were put. -/
theorem plain_is_canonical (v : Value α) :
    v.plain?.isSome = v.shortKeyed ∧
      ∀ p, v.plain? = some p → Canonical p ∧ p.plain? = some p ∧
        (Unambiguous v → Renders v p ∧ ∀ w, Reordered v w → w.plain? = some p) :=
  ⟨isSome_plain? v, fun _ plain =>
    ⟨canonical_of_plain? plain, (canonical_of_plain? plain).plain?_eq, fun unambiguous =>
      ⟨unambiguous.renders plain, fun _ reordered => unambiguous.plain?_eq reordered plain⟩⟩⟩

def seats : List (Value Amount × Value Amount) := [(.bool true, .int 1), (.null, .text "x")]

def post : Value Amount × Value Amount := (.text "2", .tuple [.null, .bytes [65]])

def watch : Value Amount := .dict [post, (.text "10", .dict seats)]

def watchPutAgain : Value Amount := .dict [(.text "10", .dict seats.reverse), post]

theorem unambiguous_watch : Unambiguous watch := by
  have first : Unambiguous post.2 :=
    .tuple _ (by simp [Unambiguous.null, Unambiguous.bytes])
  have second : Unambiguous (.dict seats) :=
    .dict _ (by decide +kernel) (by simp [seats, Unambiguous.int, Unambiguous.text])
  exact .dict _ (by decide +kernel) (by simp [first, second])

theorem reordered_watch : Reordered watch watchPutAgain := by
  have inner : Reordered (.dict seats) (.dict seats.reverse) :=
    .dict rfl (List.forall₂_same.mpr fun v _ => .same v) (List.reverse_perm _).symm
  have moved : [post, (.text "10", .dict seats.reverse)].Perm
      [(.text "10", .dict seats.reverse), post] := .swap _ _ []
  refine .dict ?_ ?_ moved
  · rfl
  · exact .cons (.same post.2) (.cons inner .nil)

theorem plain_is_canonical_of_watch :
    let plain : Value Amount := .dict
      [(.text "10", .dict [(.text "None", .text "x"), (.text "True", .int 1)]),
        (.text "2", .list [.null, .text "b'A'"])]
    watch.plain? = some plain ∧ Unambiguous watch ∧ Reordered watch watchPutAgain ∧
      Renders watch plain ∧ watchPutAgain.plain? = some plain := by
  intro plain
  have known : watch.plain? = some plain := rfl
  obtain ⟨-, -, all⟩ := (plain_is_canonical watch).2 plain known
  obtain ⟨renders, same⟩ := all unambiguous_watch
  exact ⟨known, unambiguous_watch, reordered_watch, renders, same _ reordered_watch⟩

/-- A key that is too long to be written leaves the whole value without a plain form.  And of two
keys that are one number a dictionary keeps the one that was put first, which shows in the text. -/
theorem no_plain_form :
    let long : Value Amount := .int (Nat.pow 10 Decimal.digitLimit : Nat)
    let one : Value Amount × Value Amount := (.int 1, .text "x")
    let yes : Value Amount × Value Amount := (.bool true, .text "x")
    plain? (.dict [(long, .null)]) = none ∧
      (ofEntries [one, yes]).plain? ≠ (ofEntries [yes, one]).plain? := by
  intro long one yes
  have unwritten : long.shown? = none := by
    rw [shown?_of_no_points rfl, written?, Decimal.writeInteger?_of_le (Nat.le_refl _)]
    rfl
  have shown : one.1.shown? = some (Points.ofString "1") := by
    rw [shown?_of_no_points rfl, written?,
      Decimal.writeInteger?_of_lt (by decide : (1 : Int).natAbs < 10 ^ 1) (by decide)]
    rfl
  have number : (ofEntries [one, yes]).plain? = some (.dict [(.text "1", .text "x")]) := by
    have kept : (ofEntries [one, yes] : Value Amount) = .dict [one] := rfl
    rw [kept, plain?, plainEntries?, shown]
    rfl
  have truth : (ofEntries [yes, one]).plain? = some (.dict [(.text "True", .text "x")]) := rfl
  refine ⟨?_, ?_⟩
  · rw [plain?, plainEntries?, unwritten]
    rfl
  · rw [number, truth]
    simp

end Colony.Value
