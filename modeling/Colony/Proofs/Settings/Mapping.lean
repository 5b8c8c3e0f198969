import Colony.Proofs.Settings.Override
import Colony.Proofs.Table

/-!
# Mappings of overrides

A mapping gives one value to each of its keys.  Apart from the point that may
follow the seed, each target is spelled by one key alone, so the overrides of a
mapping write to different targets.  What they leave can then be told from the
overrides by themselves, whatever their order: a target that is named has what
was written to it, and any other is as it was before.
-/

namespace Colony.Settings

variable {α : Type}

/-! ## One setting -/

def Write.target : Write α → Target
  | .seed _ => .seed
  | .value knob _ => .knob knob

/-- What a target has, as the write that leaves it alone. -/
def setting (s : Settings α) : Target → Write α
  | .seed => .seed s.seed
  | .knob knob => .value knob (s.value knob)

theorem ext_setting {s next : Settings α}
    (same : ∀ target, s.setting target = next.setting target) : s = next := by
  obtain ⟨n, values⟩ := s
  obtain ⟨m, nextValues⟩ := next
  have seed : n = m := Write.seed.inj (same .seed)
  have value : values = nextValues := funext fun knob => (Write.value.inj (same (.knob knob))).2
  rw [seed, value]

theorem setting_apply_self (write : Write α) (s : Settings α) :
    (write.apply s).setting write.target = write := by
  cases write with
  | seed n => rfl
  | value knob v =>
      change Write.value knob ((s.set knob v).value knob) = _
      rw [value_set_self]

theorem setting_apply_of_ne {write : Write α} {target : Target} (ne : target ≠ write.target)
    (s : Settings α) : (write.apply s).setting target = s.setting target := by
  cases write with
  | seed n =>
      cases target with
      | seed => exact absurd rfl ne
      | knob knob => rfl
  | value knob v =>
      cases target with
      | seed => rfl
      | knob other =>
          have elsewhere : other ≠ knob := fun same => ne (congrArg Target.knob same)
          change Write.value other ((s.set knob v).value other) = _
          rw [value_set_of_ne elsewhere]
          rfl

/-! ## One key for each target -/

theorem Knob.group_unique {group other : Group} {knob : Knob} (listed : knob ∈ Knob.inGroup group)
    (listed' : knob ∈ Knob.inGroup other) : group = other := by
  revert knob
  cases group <;> cases other <;> decide

/-- No target has two spellings, if the seed is spelled without its point. -/
theorem Names.key_unique {key other : String} {target : Target} (names : Names key target)
    (names' : Names other target) (unpointed : key ≠ "seed.") (unpointed' : other ≠ "seed.") :
    key = other := by
  cases names with
  | seed =>
      cases names' with
      | seed => rfl
      | seedPoint => exact absurd rfl unpointed'
  | seedPoint => exact absurd rfl unpointed
  | knob listed =>
      cases names' with
      | knob listed' => rw [Knob.group_unique listed listed']

/-- Keys of overrides that spell no target twice. -/
structure Spelled (overrides : List (String × Value α)) : Prop where
  distinct : (overrides.map (·.1)).Nodup
  unpointed : "seed." ∉ overrides.map (·.1)

theorem Spelled.of_cons {entry : String × Value α} {overrides : List (String × Value α)}
    (spelled : Spelled (entry :: overrides)) : Spelled overrides :=
  ⟨(List.nodup_cons.mp spelled.distinct).2, fun member =>
    spelled.unpointed (List.mem_cons_of_mem entry.1 member)⟩

theorem Spelled.of_perm {overrides others : List (String × Value α)} (spelled : Spelled overrides)
    (order : others.Perm overrides) : Spelled others :=
  ⟨(order.map _).nodup_iff.mpr spelled.distinct, fun member =>
    spelled.unpointed ((order.map _).mem_iff.mp member)⟩

theorem Spelled.merge {overrides others : List (String × Value α)} (spelled : Spelled overrides)
    (spelled' : Spelled others) : Spelled (Table.ofList (overrides ++ others)) := by
  refine ⟨Table.nodup_keys_ofList _, fun member => ?_⟩
  exact (Table.keys_ofList_append.mp member).elim spelled.unpointed spelled'.unpointed

/-- A target that one override names is named by no other key. -/
theorem Spelled.key_unique {overrides others : List (String × Value α)}
    (spelled : Spelled overrides) (spelled' : Spelled others) {key other : String} {target : Target}
    (member : key ∈ overrides.map (·.1)) (member' : other ∈ others.map (·.1))
    (names : Names key target) (names' : Names other target) : key = other :=
  names.key_unique names' (fun same => spelled.unpointed (same ▸ member))
    fun same => spelled'.unpointed (same ▸ member')

section Overriding

variable [Scalar α]

theorem Writes.target_eq {target : Target} {v : Value α} {write : Write α}
    (writes : Writes target v write) : write.target = target := by
  cases writes <;> rfl

theorem Writes.unique {target : Target} {v : Value α} {write other : Write α}
    (writes : Writes target v write) (writes' : Writes target v other) : write = other := by
  have written := assign_of_writes writes standard
  rw [assign_of_writes writes' standard] at written
  have same := congrArg (setting · target) (Except.ok.inj written)
  simp only [← writes.target_eq, setting_apply_self] at same
  rw [writes.target_eq, ← writes'.target_eq, setting_apply_self] at same
  exact same.symm

/-! ## What a mapping leaves -/

/-- Each override names a target, which has what was written to it; what none of them names is as it
was before. -/
structure Overridden (overrides : List (String × Value α)) (s next : Settings α) : Prop where
  named : ∀ entry ∈ overrides, ∃ target write,
    Names entry.1 target ∧ Writes target entry.2 write ∧ next.setting target = write
  unnamed : ∀ target, (∀ key ∈ overrides.map (·.1), ¬ Names key target) →
    next.setting target = s.setting target

namespace Overridden

variable {overrides others : List (String × Value α)} {s mid next last : Settings α}

theorem nil (s : Settings α) : Overridden [] s s := ⟨nofun, fun _ _ => rfl⟩

theorem cons {key : String} {v : Value α} {target : Target} {write : Write α}
    (spelled : Spelled ((key, v) :: overrides)) (names : Names key target)
    (writes : Writes target v write) (rest : Overridden overrides (write.apply s) next) :
    Overridden ((key, v) :: overrides) s next := by
  have once : ∀ other ∈ overrides.map (·.1), ¬ Names other target := by
    intro other member names'
    have same := spelled.key_unique spelled.of_cons List.mem_cons_self member names names'
    exact (List.nodup_cons.mp spelled.distinct).1 (same ▸ member)
  constructor
  · intro entry member
    rcases List.mem_cons.mp member with rfl | later
    · refine ⟨target, write, names, writes, ?_⟩
      rw [rest.unnamed target once, ← writes.target_eq, setting_apply_self]
    · exact rest.named entry later
  · intro other free
    have ne : other ≠ write.target := by
      rintro rfl
      exact free key List.mem_cons_self (writes.target_eq ▸ names)
    rw [rest.unnamed other fun later member => free later (List.mem_cons_of_mem key member),
      setting_apply_of_ne ne]

/-- The overrides and what was there before leave no choice. -/
theorem unique (h : Overridden overrides s next) (h' : Overridden overrides s last) :
    next = last := by
  refine ext_setting fun target => ?_
  by_cases named : ∃ entry ∈ overrides, Names entry.1 target
  · obtain ⟨entry, member, names⟩ := named
    obtain ⟨_, write, names', writes, left⟩ := h.named entry member
    obtain rfl := names.unique names'
    obtain ⟨_, write', names', writes', left'⟩ := h'.named entry member
    obtain rfl := names.unique names'
    rw [left, left', writes.unique writes']
  · have free : ∀ key ∈ overrides.map (·.1), ¬ Names key target := by
      intro key member names
      obtain ⟨entry, listed, rfl⟩ := List.mem_map.mp member
      exact named ⟨entry, listed, names⟩
    rw [h.unnamed target free, h'.unnamed target free]

theorem of_perm (h : Overridden overrides s next) (order : others.Perm overrides) :
    Overridden others s next where
  named entry member := h.named entry (order.mem_iff.mp member)
  unnamed target free := h.unnamed target fun key member =>
    free key ((order.map _).mem_iff.mpr member)

theorem again (h : Overridden overrides s next) : Overridden overrides next next :=
  ⟨h.named, fun _ _ => rfl⟩

/-- Two mappings in turn are their merge, in which the second has precedence. -/
theorem merge (first : Overridden overrides s mid) (second : Overridden others mid last)
    (spelled : Spelled overrides) (spelled' : Spelled others) :
    Overridden (Table.ofList (overrides ++ others)) s last := by
  constructor
  · intro entry member
    rcases (Table.mem_ofList_append spelled.distinct spelled'.distinct).mp member with
      listed | ⟨listed, free⟩
    · exact second.named entry listed
    · obtain ⟨target, write, names, writes, left⟩ := first.named entry listed
      refine ⟨target, write, names, writes, ?_⟩
      rw [second.unnamed target, left]
      intro key later names'
      have member : entry.1 ∈ overrides.map (·.1) := List.mem_map_of_mem listed
      exact free (spelled.key_unique spelled' member later names names' ▸ later)
  · intro target free
    rw [second.unnamed target fun key member =>
        free key (Table.keys_ofList_append.mpr (.inr member)),
      first.unnamed target fun key member =>
        free key (Table.keys_ofList_append.mpr (.inl member))]

end Overridden

/-! ## Mappings are carried out -/

/-- Overrides under keys that are texts. -/
def textKeyed (overrides : List (String × Value α)) : List (Value α × Value α) :=
  overrides.map fun entry => (.text entry.1, entry.2)

section Application

variable {overrides : List (String × Value α)} {s next : Settings α}

theorem overrideEntries_of_accepted {key v : Value α} {write : Write α}
    (accepted : Accepted (key, v) write) (rest : List (Value α × Value α)) (s : Settings α) :
    s.overrideEntries ((key, v) :: rest) = (write.apply s).overrideEntries rest := by
  rw [overrideEntries, overrideEntry_of_accepted accepted]

theorem accepted_of_applied {key v : Value α} {rest : List (Value α × Value α)}
    (applied : s.overrideEntries ((key, v) :: rest) = .done () next) :
    ∃ write, Accepted (key, v) write ∧ (write.apply s).overrideEntries rest = .done () next := by
  obtain ⟨write, accepted⟩ | ⟨failure, rejected⟩ := accepted_or_rejected (key, v)
  · rw [overrideEntries_of_accepted accepted] at applied
    exact ⟨write, accepted, applied⟩
  · rw [overrideEntries, overrideEntry_of_rejected rejected] at applied
    cases congrArg Outcome.answer applied

/-- Keys that are no texts are never accepted. -/
theorem exists_texts {entries : List (Value α × Value α)}
    (applied : s.overrideEntries entries = .done () next) :
    ∃ overrides, entries = textKeyed overrides := by
  induction entries generalizing s with
  | nil => exact ⟨[], rfl⟩
  | cons entry entries ih =>
      obtain ⟨key, v⟩ := entry
      obtain ⟨write, accepted, rest⟩ := accepted_of_applied applied
      obtain ⟨overrides, rfl⟩ := ih rest
      cases accepted with
      | @intro name => exact ⟨(name, v) :: overrides, rfl⟩

theorem Spelled.overridden (spelled : Spelled overrides)
    (applied : s.overrideEntries (textKeyed overrides) = .done () next) :
    Overridden overrides s next := by
  induction overrides generalizing s with
  | nil =>
      cases applied
      exact .nil next
  | cons entry overrides ih =>
      obtain ⟨write, accepted, rest⟩ := accepted_of_applied applied
      cases accepted with
      | intro names writes => exact .cons spelled names writes (ih spelled.of_cons rest)

theorem exists_applied
    (accepted : ∀ entry ∈ overrides, ∃ write, Accepted (.text entry.1, entry.2) write)
    (s : Settings α) : ∃ next, s.overrideEntries (textKeyed overrides) = .done () next := by
  induction overrides generalizing s with
  | nil => exact ⟨s, rfl⟩
  | cons entry overrides ih =>
      obtain ⟨write, first⟩ := accepted entry List.mem_cons_self
      obtain ⟨next, rest⟩ := ih (fun other member =>
        accepted other (List.mem_cons_of_mem entry member)) (write.apply s)
      exact ⟨next, (overrideEntries_of_accepted first (textKeyed overrides) s).trans rest⟩

/-- The overrides of a mapping succeed just if there is something that they say. -/
theorem Spelled.applied_iff (spelled : Spelled overrides) :
    s.overrideEntries (textKeyed overrides) = .done () next ↔ Overridden overrides s next := by
  constructor
  · exact spelled.overridden
  · intro said
    obtain ⟨last, applied⟩ := exists_applied (fun entry member => by
      obtain ⟨target, write, names, writes, -⟩ := said.named entry member
      exact ⟨write, .intro names writes⟩) s
    rw [applied, said.unique (spelled.overridden applied)]

end Application

/-! ## Mappings under keys of any kind -/

/-- No two entries have the same key. -/
def IsMapping (entries : List (Value α × Value α)) : Prop :=
  entries.Pairwise fun e f => (e.1 == f.1) = false

/-- The mapping with the entries of both, where the second has precedence. -/
def merged (entries others : List (Value α × Value α)) : List (Value α × Value α) :=
  Table.ofList (entries ++ others)

theorem beq_text (s t : String) : ((.text s : Value α) == .text t) = (s == t) := rfl

theorem isMapping_textKeyed_iff {overrides : List (String × Value α)} :
    IsMapping (textKeyed overrides) ↔ (overrides.map (·.1)).Nodup := by
  rw [IsMapping, textKeyed, List.pairwise_map, List.Nodup, List.pairwise_map]
  simp [beq_text]

theorem put_textKeyed (key : String) (v : Value α) (overrides : Table String (Value α)) :
    Table.put (.text key) v (textKeyed overrides) = textKeyed (overrides.put key v) := by
  induction overrides with
  | nil => rfl
  | cons entry overrides ih =>
      obtain ⟨k, w⟩ := entry
      simp only [textKeyed, List.map_cons, Table.put, beq_text] at ih ⊢
      by_cases same : (k == key) = true
      · simp [same]
      · simp [same, ih]

theorem ofList_textKeyed (overrides : List (String × Value α)) :
    Table.ofList (textKeyed overrides) = textKeyed (Table.ofList overrides) := by
  induction overrides using List.reverseRecOn with
  | nil => rfl
  | append_singleton overrides entry ih =>
      have last : textKeyed (overrides ++ [entry]) =
          textKeyed overrides ++ [(.text entry.1, entry.2)] := List.map_append
      rw [last, Table.ofList_concat, Table.ofList_concat, ih, put_textKeyed]

theorem merged_textKeyed (overrides others : List (String × Value α)) :
    merged (textKeyed overrides) (textKeyed others) =
      textKeyed (Table.ofList (overrides ++ others)) := by
  rw [← ofList_textKeyed, merged, textKeyed, textKeyed, textKeyed, List.map_append]

theorem spelled_of_isMapping {overrides : List (String × Value α)}
    (mapping : IsMapping (textKeyed overrides))
    (unpointed : ∀ v, (.text "seed.", v) ∉ textKeyed overrides) : Spelled overrides := by
  refine ⟨isMapping_textKeyed_iff.mp mapping, fun member => ?_⟩
  obtain ⟨⟨key, v⟩, listed, rfl⟩ := List.mem_map.mp member
  exact unpointed v (List.mem_map.mpr ⟨_, listed, rfl⟩)

/-- A mapping of overrides that succeeds does so in any order and leaves the same, which is what the
mapping says; once more it changes nothing, and together with a second mapping it is their merge. -/
theorem overrides_in_any_order {s next : Settings α} {overrides : List (Value α × Value α)}
    (mapping : IsMapping overrides) (unpointed : ∀ v, (.text "seed.", v) ∉ overrides)
    (applied : s.overrideEntries overrides = .done () next) :
    (∀ reordered : List (Value α × Value α), reordered.Perm overrides →
      s.overrideEntries reordered = .done () next) ∧
    (∃ texts, overrides = textKeyed texts ∧ Overridden texts s next) ∧
    next.overrideEntries overrides = .done () next ∧
    ∀ (others : List (Value α × Value α)) (last : Settings α), IsMapping others →
      (∀ v, (.text "seed.", v) ∉ others) → next.overrideEntries others = .done () last →
      s.overrideEntries (merged overrides others) = .done () last := by
  obtain ⟨texts, rfl⟩ := exists_texts applied
  have spelled := spelled_of_isMapping mapping unpointed
  have said := spelled.overridden applied
  refine ⟨fun reordered order => ?_, ⟨texts, rfl, said⟩, spelled.applied_iff.mpr said.again, ?_⟩
  · obtain ⟨moved, rfl, moves⟩ := Table.exists_map_of_perm order
    exact (spelled.of_perm moves).applied_iff.mpr (said.of_perm moves)
  · intro others last mapping' unpointed' applied'
    obtain ⟨texts', rfl⟩ := exists_texts applied'
    have spelled' := spelled_of_isMapping mapping' unpointed'
    have saidThen := spelled'.overridden applied'
    rw [merged_textKeyed]
    exact (spelled.merge spelled').applied_iff.mpr (said.merge saidThen spelled spelled')

end Overriding

/-- The seed is read, and so is the role; a second mapping has another seed and a salt. -/
theorem overrides_in_any_order_role :
    let overrides : List (Value Amount × Value Amount) :=
      [(.text "seed", .text " 7 "), (.text "behavior.default_role", .text "Guard"),
        (.text "rebellion.halt_threshold", .bool true)]
    let others : List (Value Amount × Value Amount) :=
      [(.text "rng.salt", .int 5), (.text "seed", .bool true)]
    let s : Settings Amount := standard
    let next := (s.overrideEntries overrides).state
    let last := (next.overrideEntries others).state
    (IsMapping overrides ∧ (∀ v, (.text "seed.", v) ∉ overrides) ∧
        s.overrideEntries overrides = .done () next) ∧
      (IsMapping others ∧ (∀ v, (.text "seed.", v) ∉ others) ∧
        next.overrideEntries others = .done () last) ∧
      s.overrideEntries overrides.reverse = .done () next ∧
      next.overrideEntries overrides = .done () next ∧
      s.overrideEntries (merged overrides others) = .done () last ∧
      next.seed = 7 ∧ last.seed = 1 := by
  intro overrides others s next last
  have mapping : IsMapping overrides := by
    unfold IsMapping
    decide
  have unpointed : ∀ v, (.text "seed.", v) ∉ overrides := by simp [overrides]
  have mapping' : IsMapping others := by
    unfold IsMapping
    decide
  have unpointed' : ∀ v, (.text "seed.", v) ∉ others := by simp [others]
  have applied : s.overrideEntries overrides = .done () next := by rfl
  have applied' : next.overrideEntries others = .done () last := by rfl
  obtain ⟨anyOrder, -, again, merge⟩ := overrides_in_any_order mapping unpointed applied
  exact ⟨⟨mapping, unpointed, applied⟩, ⟨mapping', unpointed', applied'⟩,
    anyOrder _ overrides.reverse_perm, again, merge others last mapping' unpointed' applied',
    by rfl, by rfl⟩

end Colony.Settings
