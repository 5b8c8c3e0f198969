import Mathlib.Data.List.Perm.Basic
import Colony.Proofs.Npc.Roster
import Colony.Proofs.Sorting
import Colony.Proofs.World.Registry
import Colony.Scalar.Rational

/-!
# Who lines up for a cleansing

A party is made up of everybody in a combat role, the warriors before the
guards and each of the two by identifier.  Nothing is left in it of the order
in which they were registered or changed their roles.
-/

namespace Colony

deriving instance DecidableEq for Npc

namespace World

variable {α : Type} [Scalar α]

/-- Warriors line up before guards, and those of one role in the order of their identifiers. -/
def Ahead (p q : Cleansing.Participant α) : Prop :=
  p.role = "warrior" ∧ q.role = "guard" ∨ p.role = q.role ∧ p.npcId < q.npcId

/-- A party of everybody in a combat role and of nobody else. -/
structure Mustered (w : World α) (party : List (Cleansing.Participant α)) : Prop where
  mem : ∀ p, p ∈ party ↔ ∃ npc ∈ w.roster.npcs, (npc.role = .warrior ∨ npc.role = .guard) ∧
    p = ⟨npc.id, npc.role.name, (w.trauma.get? npc.id).getD 0, npc.morale, npc.morale⟩
  once : (party.map (·.npcId)).Nodup
  lined : party.Pairwise Ahead

section Parties

omit [Scalar α] in
theorem nodup_inRole {r : Roster α} (distinct : r.ids.Nodup) (role : Role) :
    ((r.inRole role).map (·.id)).Nodup :=
  (List.filter_sublist.map _).nodup distinct

variable {w w' : World α}

theorem mem_party {p : Cleansing.Participant α} :
    p ∈ w.party ↔ ∃ npc ∈ w.roster.npcs, (npc.role = .warrior ∨ npc.role = .guard) ∧
      p = w.participant npc := by
  simp only [party, List.mem_flatMap, List.mem_map, mem_sort, Roster.inRole, List.mem_filter,
    Role.combat, List.mem_cons, List.not_mem_nil, or_false, beq_iff_eq]
  constructor
  · rintro ⟨role, combat, npc, ⟨listed, rfl⟩, rfl⟩
    exact ⟨npc, listed, combat, rfl⟩
  · rintro ⟨npc, listed, combat, rfl⟩
    exact ⟨npc.role, combat, npc, ⟨listed, rfl⟩, rfl⟩

theorem role_of_mem_line {role : Role} {p : Cleansing.Participant α}
    (member : p ∈ (sort (fun a b => textBefore a.id b.id) (w.roster.inRole role)).map
      w.participant) : p.role = role.name := by
  obtain ⟨npc, listed, rfl⟩ := List.mem_map.mp member
  have held := (List.mem_filter.mp (mem_sort.mp listed)).2
  exact congrArg Role.name (beq_iff_eq.mp held)

theorem pairwise_party (distinct : w.roster.ids.Nodup) : w.party.Pairwise Ahead := by
  rw [party, List.pairwise_flatMap]
  refine ⟨fun role _ => ?_, ?_⟩
  · have sorted := (ByKey.text Npc.id).pairwise_sort (nodup_inRole distinct role)
    refine List.pairwise_map.mpr (sorted.imp_of_mem fun {a b} ha hb before => .inr ⟨?_, ?_⟩)
    · rw [role_of_mem_line (List.mem_map_of_mem ha), role_of_mem_line (List.mem_map_of_mem hb)]
    · exact of_decide_eq_true before
  · refine List.pairwise_pair.mpr fun p warrior q guard => .inl ⟨?_, ?_⟩
    · exact role_of_mem_line warrior
    · exact role_of_mem_line guard

theorem party_perm (w : World α) :
    w.party.Perm ((Role.combat.flatMap w.roster.inRole).map w.participant) := by
  rw [List.map_flatMap]
  exact List.Perm.flatMap_left _ fun role _ => (sort_perm _ _).map w.participant

theorem nodup_party (distinct : w.roster.ids.Nodup) : (w.party.map (·.npcId)).Nodup := by
  have everybody : ((Role.all.flatMap w.roster.inRole).map Npc.id).Nodup :=
    (w.roster.inRole_perm.map Npc.id).nodup_iff.mpr distinct
  have combatants : (Role.combat.flatMap w.roster.inRole).Sublist
      (Role.all.flatMap w.roster.inRole) := List.sublist_append_right _ _
  have once := (combatants.map (·.id)).nodup everybody
  rw [((w.party_perm).map (·.npcId)).nodup_iff, List.map_map]
  exact once

theorem mustered_party (distinct : w.roster.ids.Nodup) : Mustered w w.party where
  mem _ := mem_party
  once := nodup_party distinct
  lined := pairwise_party distinct

/-- Rosters of the same records and the same traumas make up the same party. -/
theorem party_eq_of_same (distinct : w.roster.ids.Nodup) (distinct' : w'.roster.ids.Nodup)
    (records : ∀ npc, npc ∈ w'.roster.npcs ↔ npc ∈ w.roster.npcs)
    (trauma : ∀ id, w'.trauma.get? id = w.trauma.get? id) : w'.party = w.party := by
  have perm : w'.roster.npcs.Perm w.roster.npcs :=
    (List.perm_ext_iff_of_nodup distinct'.of_map distinct.of_map).mpr records
  have participants : w'.participant = w.participant := by
    funext npc
    simp only [participant, traumaOf, trauma]
  unfold party
  rw [participants]
  refine List.flatMap_congr fun role _ => ?_
  have same : (w'.roster.inRole role).Perm (w.roster.inRole role) := perm.filter _
  exact congrArg (List.map w.participant)
    ((ByKey.text Npc.id).sort_eq_of_perm (nodup_inRole distinct' role) same)

end Parties

/-- Whoever reaches a world of the same records and traumas musters the same party, whatever was
done in whatever order and under whichever settings. -/
theorem party_of_combatants {settings : Settings α} {start : Observed (World α) α}
    (started : World.start settings = .ok start) (ops : List (Operation α)) :
    let o := start.after Operation.perform ops
    Mustered o.subject o.subject.party ∧
      o.run (fun w => .done w.party w) = (.ok o.subject.party, o) ∧
      ∀ settings' start', World.start settings' = .ok start' → ∀ ops' : List (Operation α),
        let o' := start'.after Operation.perform ops'
        (∀ npc, npc ∈ o'.subject.roster.npcs ↔ npc ∈ o.subject.roster.npcs) →
        (∀ id, o'.subject.trauma.get? id = o.subject.trauma.get? id) →
        o'.subject.party = o.subject.party := by
  intro o
  have distinct : o.subject.roster.ids.Nodup := nodup_ids_after started ops
  refine ⟨mustered_party distinct, Observed.run_silent rfl, ?_⟩
  intro settings' start' started' ops' o' records trauma
  exact party_eq_of_same distinct (nodup_ids_after started' ops') records trauma

/-- Roles are taken up late and changed; another order of the same steps musters the same party. -/
theorem party_of_combatants_recast :
    let ops : List (Operation Rat) :=
      [.register "b", .enlist "c" (.text "guard"), .enlist "d" (.text " Warrior "),
       .setTrauma "d" 0.5, .enlist "b" (.text "warrior"), .register "a"]
    let ops' : List (Operation Rat) :=
      [.register "a", .setTrauma "d" 0.5, .enlist "d" (.text "warrior"),
       .enlist "b" (.text "WARRIOR"), .enlist "c" (.text "worker"), .enlist "c" (.text "guard")]
    ∃ start, World.start (.standard : Settings Rat) = .ok start ∧
      let w := (start.after Operation.perform ops).subject
      let w' := (start.after Operation.perform ops').subject
      Mustered w w.party ∧ w.party.map (·.npcId) = ["b", "d", "c"] ∧ w'.party = w.party := by
  intro ops ops'
  have reached : ((World.start (.standard : Settings Rat)).toOption.map fun start =>
      let w := (start.after Operation.perform ops).subject
      let w' := (start.after Operation.perform ops').subject
      decide (w'.roster.npcs.Perm w.roster.npcs ∧ w'.trauma = w.trauma ∧
        w.party.map (·.npcId) = ["b", "d", "c"])) = some true := by
    decide +kernel
  obtain ⟨start, started, facts⟩ := Answer.toOption_map_eq_some.mp reached
  obtain ⟨perm, trauma, listed⟩ := of_decide_eq_true facts
  obtain ⟨mustered, -, again⟩ := party_of_combatants started ops
  refine ⟨start, started, mustered, listed, again _ start started ops' (fun _ => perm.mem_iff) ?_⟩
  intro id
  rw [trauma]

end World

end Colony
