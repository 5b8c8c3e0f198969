import Mathlib.Data.List.Induction
import Mathlib.Data.List.Perm.Basic
import Colony.Proofs.World.Deed

/-!
# The roster as an ordered map

The roster lists each identifier once, in the order in which they were first
registered.  An operation that names somebody on the roster makes a new record
out of the old one and leaves everything else alone, so operations upon two
different NPCs may be swapped.
-/

namespace Colony

namespace Roster

variable {α : Type}

/-! ## Looking up -/

section Records

variable {r : Roster α} {id : String} {npc other : Npc α}

theorem mem_ids_iff : id ∈ r.ids ↔ ∃ npc, r.find? id = some npc := by
  refine ⟨fun member => ?_, fun ⟨npc, known⟩ => ?_⟩
  · obtain ⟨npc, listed, named⟩ := List.mem_map.mp member
    have found : (r.find? id).isSome := List.find?_isSome.mpr ⟨npc, listed, by simp [named]⟩
    exact Option.isSome_iff_exists.mp found
  · exact List.mem_map.mpr ⟨npc, List.mem_of_find?_eq_some known, id_of_find? known⟩

theorem find?_of_not_mem (unknown : id ∉ r.ids) : r.find? id = none := by
  by_contra known
  exact unknown (mem_ids_iff.mpr (Option.ne_none_iff_exists'.mp known))

/-- Where no identifier is listed twice, looking one up finds the record that has it. -/
theorem find?_eq_some_iff (distinct : r.ids.Nodup) :
    r.find? id = some npc ↔ npc ∈ r.npcs ∧ npc.id = id := by
  refine ⟨fun known => ⟨List.mem_of_find?_eq_some known, id_of_find? known⟩, ?_⟩
  rintro ⟨listed, rfl⟩
  obtain ⟨found, known⟩ := mem_ids_iff.mp (List.mem_map_of_mem (f := (·.id)) listed)
  have same : found = npc :=
    List.inj_on_of_nodup_map distinct (List.mem_of_find?_eq_some known) listed (id_of_find? known)
  rw [known, same]

/-- Every NPC is listed under exactly one of the roles. -/
theorem inRole_perm (r : Roster α) : (Role.all.flatMap r.inRole).Perm r.npcs := by
  obtain ⟨defaults, npcs⟩ := r
  simp only [Role.all, List.flatMap_cons, List.flatMap_nil, List.append_nil, inRole]
  induction npcs with
  | nil => exact .refl []
  | cons npc npcs ih =>
      cases role : npc.role with
      | worker => simpa [List.filter_cons, role] using ih
      | warrior =>
          simp only [List.filter_cons, role]
          exact List.perm_middle.trans (ih.cons npc)
      | guard =>
          simp only [List.filter_cons, role]
          rw [← List.append_assoc] at ih ⊢
          exact List.perm_middle.trans (ih.cons npc)

/-! ## Putting a record in the place of another -/

/-- The roster with a record in the place of the one that has its identifier. -/
def put (npc : Npc α) (r : Roster α) : Roster α :=
  { r with npcs := r.npcs.map fun other => if other.id = npc.id then npc else other }

theorem change_eq_put (distinct : r.ids.Nodup) (known : r.find? id = some npc)
    {f : Npc α → Npc α} (keeps : (f npc).id = npc.id) : r.change id f = r.put (f npc) := by
  obtain ⟨listed, rfl⟩ := (find?_eq_some_iff distinct).mp known
  have same : (r.npcs.map fun other => if other.id == npc.id then f other else other) =
      r.npcs.map fun other => if other.id = (f npc).id then f npc else other := by
    refine List.map_congr_left fun other member => ?_
    rw [keeps]
    by_cases named : other.id = npc.id
    · have found := (find?_eq_some_iff distinct).mpr ⟨member, named⟩
      simp [Option.some.inj (found.symm.trans known)]
    · simp [named]
  rw [change, put, same]

theorem put_of_mem (distinct : r.ids.Nodup) (listed : npc ∈ r.npcs) : r.put npc = r := by
  have known := (find?_eq_some_iff distinct).mpr ⟨listed, rfl⟩
  rw [← change_eq_put (f := fun npc => npc) distinct known rfl]
  simp [change]

theorem ids_put (npc : Npc α) (r : Roster α) : (r.put npc).ids = r.ids := by
  rw [ids, put, List.map_map]
  refine List.map_congr_left fun other _ => ?_
  simp only [Function.comp_apply]
  split
  · rename_i named
    exact named.symm
  · rfl

theorem mem_put (ne : other.id ≠ npc.id) (listed : other ∈ r.npcs) : other ∈ (r.put npc).npcs :=
  List.mem_map.mpr ⟨other, listed, if_neg ne⟩

theorem put_comm (ne : npc.id ≠ other.id) (r : Roster α) :
    (r.put npc).put other = (r.put other).put npc := by
  simp only [put, List.map_map]
  congr 1
  refine List.map_congr_left fun one _ => ?_
  simp only [Function.comp_apply]
  by_cases first : one.id = npc.id
  · simp [first, ne]
  · by_cases second : one.id = other.id <;> simp [first, second, ne.symm]

end Records

variable [Scalar α]

/-! ## Whom an operation names, and what it makes of them -/

namespace Operation

def named? : Operation α → Option String
  | .register id => some id
  | .enlist id _ => some id
  | .addEfficiency id _ => some id
  | .addMorale id _ => some id
  | .assign id _ => some id
  | .inRole _ => none

/-- Whom an operation enters on the roster, unless they are there, and in which role. -/
def entry? (d : Defaults α) : Operation α → Option (String × Value α)
  | .register id => some (id, d.role)
  | .enlist id role => some (id, role)
  | .addEfficiency _ _ => none
  | .addMorale _ _ => none
  | .assign _ _ => none
  | .inRole _ => none

/-- The record after an operation that names it. -/
def upon (npc : Npc α) : Operation α → Answer α (Npc α)
  | .register _ => .ok npc
  | .enlist _ role => (Role.ofValue role).map fun role => { npc with role := role }
  | .addEfficiency _ delta => npc.shiftEfficiency delta
  | .addMorale _ delta => npc.shiftMorale delta
  | .assign _ task => npc.withTask task
  | .inRole _ => .ok npc

/-- The later record differs from the earlier one at most in the field that an operation is for. -/
def Only (npc next : Npc α) : Operation α → Prop
  | .register _ => next = npc
  | .enlist _ _ => next = { npc with role := next.role }
  | .addEfficiency _ _ => next = { npc with efficiency := next.efficiency }
  | .addMorale _ _ => next = { npc with morale := next.morale }
  | .assign _ _ => next = { npc with task := next.task }
  | .inRole _ => next = npc

/-- The record that an operation leaves, which is the old one if it fails. -/
def left (op : Operation α) (npc : Npc α) : Npc α := (op.upon npc).toOption.getD npc

/-- Whom an operation registers, be it again; one that fails registers nobody. -/
def registered (op : Operation α) (r : Roster α) : List String :=
  if (op.perform r).answer.isOk then ((op.entry? r.defaults).map (·.1)).toList else []

end Operation

/-- Whom the operations of a run register, in their order. -/
def registrations : List (Operation α) → Roster α → List String
  | [], _ => []
  | op :: ops, r => op.registered r ++ registrations ops (op.perform r).state

/-- A record as it is first entered. -/
structure Newcomer (d : Defaults α) (id : String) (role : Value α) (npc : Npc α) : Prop where
  id : npc.id = id
  role : Role.ofValue role = .ok npc.role
  efficiency : Scalar.confined d.efficiency = .ok npc.efficiency
  morale : Scalar.confined d.morale = .ok npc.morale
  task : npc.task = []

/-- Nobody can be entered in what is no role, nor with a default too large to be confined. -/
def Closed (d : Defaults α) (role : Value α) : Prop :=
  Role.ofValue? role = none ∨ Scalar.overflown (Scalar.rounded d.efficiency) = true ∨
    Scalar.overflown (Scalar.rounded d.morale) = true

/-- What an operation can come to: it fails, tells of the roster, changes somebody who is listed, or
adds somebody who is not. -/
inductive Step (op : Operation α) (r : Roster α) : Outcome (Roster α) α (Reply α) → Prop where
  | failed (failure : Failure α) : Step op r (.fail failure r)
  | told (reply : Reply α) (unnamed : op.named? = none) : Step op r (.done reply r)
  | changed {npc next : Npc α} (listed : npc ∈ r.npcs) (named : op.named? = some npc.id)
      (made : op.upon npc = .ok next) : Step op r (.done (.npc next) (r.put next))
  | added {id : String} {role : Value α} {npc : Npc α}
      (entry : op.entry? r.defaults = some (id, role)) (unknown : id ∉ r.ids)
      (newcomer : Newcomer r.defaults id role npc) : Step op r (.done (.npc npc) (r.add npc))

section Operations

variable {r : Roster α} {op : Operation α} {id : String} {npc next : Npc α}

omit [Scalar α] in
theorem named_of_entry {d : Defaults α} {role : Value α} (entry : op.entry? d = some (id, role)) :
    op.named? = some id := by
  cases op <;> cases entry <;> rfl

theorem only_of_upon (made : op.upon npc = .ok next) : op.Only npc next := by
  cases op with
  | register id => exact (Except.ok.inj made).symm
  | enlist id role =>
      obtain ⟨read, -, rfl⟩ := Answer.map_eq_ok.mp made
      rfl
  | addEfficiency id delta =>
      obtain ⟨efficiency, -, rfl⟩ := Answer.map_eq_ok.mp made
      rfl
  | addMorale id delta =>
      obtain ⟨morale, -, rfl⟩ := Answer.map_eq_ok.mp made
      rfl
  | assign id task =>
      obtain ⟨text, -, rfl⟩ := Npc.withTask_eq_ok.mp made
      rfl
  | inRole role => exact (Except.ok.inj made).symm

theorem id_of_upon (made : op.upon npc = .ok next) : next.id = npc.id := by
  have only := only_of_upon made
  cases op with
  | register id => exact congrArg (·.id) only
  | enlist id role => exact congrArg (·.id) only
  | addEfficiency id delta => exact congrArg (·.id) only
  | addMorale id delta => exact congrArg (·.id) only
  | assign id task => exact congrArg (·.id) only
  | inRole role => exact congrArg (·.id) only

omit [Scalar α] in
theorem update_of_find? (distinct : r.ids.Nodup) (known : r.find? id = some npc)
    {f : Npc α → Answer α (Npc α)} (keeps : ∀ changed, f npc = .ok changed → changed.id = npc.id) :
    r.update id f = (f npc).map fun changed => (changed, r.put changed) := by
  rw [update_of_some known]
  cases made : f npc with
  | error failure => rfl
  | ok changed =>
      rw [Except.map, change_eq_put (f := fun _ => changed) distinct known (keeps changed made)]
      rfl

theorem enlistAs_of_find? (distinct : r.ids.Nodup) (known : r.find? id = some npc)
    (role : Value α) : r.enlistAs id role = (Role.ofValue role).map fun role =>
      ({ npc with role := role }, r.put { npc with role := role }) := by
  unfold enlistAs
  cases (Role.ofValue role : Answer α Role) with
  | error failure => rfl
  | ok read =>
      change r.enlist id read = .ok ({ npc with role := read }, r.put { npc with role := read })
      simp only [enlist, known]
      rw [change_eq_put (f := fun npc => { npc with role := read }) distinct known rfl]

/-- Whoever is on the roster is only changed in their place. -/
theorem perform_of_find? (distinct : r.ids.Nodup) (named : op.named? = some id)
    (known : r.find? id = some npc) :
    op.perform r = Outcome.ofAnswer r ((op.upon npc).map fun next => (.npc next, r.put next)) := by
  cases op with
  | register other =>
      cases named
      rw [Operation.perform, register_of_known known, Operation.upon, Except.map,
        put_of_mem distinct (List.mem_of_find?_eq_some known)]
      rfl
  | enlist other role =>
      cases named
      rw [Operation.perform, enlistAs_of_find? distinct known, Operation.upon]
      cases (Role.ofValue role : Answer α Role) <;> rfl
  | addEfficiency other delta =>
      cases named
      rw [Operation.perform, addEfficiency,
        update_of_find? distinct known fun _ => Npc.id_shiftEfficiency,
        Operation.upon]
      cases npc.shiftEfficiency delta <;> rfl
  | addMorale other delta =>
      cases named
      rw [Operation.perform, addMorale, update_of_find? distinct known fun _ => Npc.id_shiftMorale,
        Operation.upon]
      cases npc.shiftMorale delta <;> rfl
  | assign other task =>
      cases named
      rw [Operation.perform, assign, update_of_find? distinct known fun _ => Npc.id_withTask,
        Operation.upon]
      cases npc.withTask task <;> rfl
  | inRole role => cases named

theorem id_left (op : Operation α) (npc : Npc α) : (op.left npc).id = npc.id := by
  unfold Operation.left
  cases made : op.upon npc with
  | error failure => rfl
  | ok next => exact id_of_upon made

theorem state_of_mem (distinct : r.ids.Nodup) (listed : npc ∈ r.npcs)
    (named : op.named? = some npc.id) : (op.perform r).state = r.put (op.left npc) := by
  rw [perform_of_find? distinct named ((find?_eq_some_iff distinct).mpr ⟨listed, rfl⟩),
    Operation.left]
  cases op.upon npc with
  | error failure => exact (put_of_mem distinct listed).symm
  | ok next => rfl

/-- Of operations upon two NPCs neither sees what the other has done. -/
theorem perform_swap (distinct : r.ids.Nodup) {other : Npc α} {p q : Operation α}
    (listed : npc ∈ r.npcs) (other_listed : other ∈ r.npcs) (ne : npc.id ≠ other.id)
    (named : p.named? = some npc.id) (other_named : q.named? = some other.id) :
    (q.perform (p.perform r).state).state = (p.perform (q.perform r).state).state := by
  have still : npc ∈ (r.put (q.left other)).npcs := mem_put (by rwa [id_left]) listed
  have other_still : other ∈ (r.put (p.left npc)).npcs :=
    mem_put (by rw [id_left]; exact ne.symm) other_listed
  rw [state_of_mem distinct listed named, state_of_mem distinct other_listed other_named,
    state_of_mem (by rwa [ids_put]) other_still other_named,
    state_of_mem (by rwa [ids_put]) still named]
  exact put_comm (by rwa [id_left, id_left]) r

theorem enter_cases (id : String) (role : Role) (r : Roster α) :
    ((Scalar.overflown (Scalar.rounded r.defaults.efficiency) = true ∨
        Scalar.overflown (Scalar.rounded r.defaults.morale) = true) ∧
      r.enter id role = .error .overflow) ∨
      ∃ efficiency morale, r.enter id role =
          .ok (⟨id, role, efficiency, morale, []⟩, r.add ⟨id, role, efficiency, morale, []⟩) ∧
        Scalar.confined r.defaults.efficiency = .ok efficiency ∧
        Scalar.confined r.defaults.morale = .ok morale := by
  unfold enter newcomer
  cases work : Scalar.confined r.defaults.efficiency with
  | error failure =>
      obtain ⟨large, rfl⟩ := Scalar.confined_eq_error_iff.mp work
      exact .inl ⟨.inl large, rfl⟩
  | ok efficiency =>
      cases mood : Scalar.confined r.defaults.morale with
      | error failure =>
          obtain ⟨large, rfl⟩ := Scalar.confined_eq_error_iff.mp mood
          exact .inl ⟨.inr large, rfl⟩
      | ok morale => exact .inr ⟨efficiency, morale, rfl, rfl, rfl⟩

theorem Newcomer.not_closed {role : Value α} (h : Newcomer r.defaults id role npc) :
    ¬ Closed r.defaults role := by
  have read := Role.ofValue_eq_ok_iff.mp h.role
  have work := (Scalar.confined_eq_ok_iff.mp h.efficiency).1
  have mood := (Scalar.confined_eq_ok_iff.mp h.morale).1
  rintro (unread | large | large)
  · rw [read] at unread
    cases unread
  · rw [work] at large
    cases large
  · rw [mood] at large
    cases large

/-- Whoever is not on the roster is added at its end, unless no newcomer can be made. -/
theorem perform_of_entry {role : Value α} (entry : op.entry? r.defaults = some (id, role))
    (unknown : id ∉ r.ids) :
    (Closed r.defaults role ∧ ∃ failure, op.perform r = .fail failure r) ∨
      ∃ npc, Newcomer r.defaults id role npc ∧ op.perform r = .done (.npc npc) (r.add npc) := by
  have missing := find?_of_not_mem unknown
  have same :
      op.perform r = (Outcome.ofAnswer r (do r.enter id (← Role.ofValue role))).map .npc := by
    cases op with
    | register other =>
        cases entry
        simp only [Operation.perform, register, missing]
    | enlist other read =>
        cases entry
        simp only [Operation.perform, enlistAs, enlist, missing]
    | addEfficiency other delta => cases entry
    | addMorale other delta => cases entry
    | assign other task => cases entry
    | inRole read => cases entry
  rw [same]
  cases read : (Role.ofValue role : Answer α Role) with
  | error failure =>
      have unread : Role.ofValue? role = none := by
        by_contra known
        obtain ⟨role', same⟩ := Option.ne_none_iff_exists'.mp known
        rw [Role.ofValue_eq_ok_iff.mpr same] at read
        cases read
      exact .inl ⟨.inl unread, failure, rfl⟩
  | ok known =>
      change (_ ∧ ∃ failure, (Outcome.ofAnswer r (r.enter id known)).map Reply.npc = _) ∨
        ∃ npc, _ ∧ (Outcome.ofAnswer r (r.enter id known)).map Reply.npc = _
      rcases enter_cases id known r with
        ⟨large, refused⟩ | ⟨efficiency, morale, entered, work, mood⟩
      · rw [refused]
        exact .inl ⟨.inr large, .overflow, rfl⟩
      · rw [entered]
        exact .inr ⟨_, ⟨rfl, read, work, mood, rfl⟩, rfl⟩

/-- Nobody but a newcomer can be named who is not on the roster. -/
theorem perform_of_unknown (named : op.named? = some id) (entry : op.entry? r.defaults = none)
    (unknown : id ∉ r.ids) : op.perform r = .fail (.npcNotFound id) r := by
  have none := find?_of_not_mem unknown
  cases op with
  | register other => cases entry
  | enlist other read => cases entry
  | addEfficiency other delta =>
      cases named
      rw [Operation.perform, addEfficiency, update, require, none]
      rfl
  | addMorale other delta =>
      cases named
      rw [Operation.perform, addMorale, update, require, none]
      rfl
  | assign other task =>
      cases named
      rw [Operation.perform, assign, update, require, none]
      rfl
  | inRole role => cases named

theorem inRole_perform (role : Value α) (r : Roster α) :
    (Operation.inRole role).perform r =
      Outcome.of ((Role.ofValue role).map fun role => .npcs (r.inRole role)) r := by
  rw [Operation.perform, inRoleOf]
  cases (Role.ofValue role : Answer α Role) <;> rfl

theorem step_perform (distinct : r.ids.Nodup) (op : Operation α) : Step op r (op.perform r) := by
  cases named : op.named? with
  | none =>
      cases op with
      | inRole role =>
          rw [inRole_perform]
          cases (Role.ofValue role : Answer α Role) with
          | error failure => exact .failed failure
          | ok read => exact .told (.npcs (r.inRole read)) rfl
      | register id => cases named
      | enlist id role => cases named
      | addEfficiency id delta => cases named
      | addMorale id delta => cases named
      | assign id task => cases named
  | some id =>
      by_cases member : id ∈ r.ids
      · obtain ⟨npc, known⟩ := mem_ids_iff.mp member
        obtain ⟨listed, rfl⟩ := (find?_eq_some_iff distinct).mp known
        rw [perform_of_find? distinct named known]
        cases made : op.upon npc with
        | error failure => exact .failed failure
        | ok next => exact .changed listed named made
      · cases entry : op.entry? r.defaults with
        | none =>
            rw [perform_of_unknown named entry member]
            exact .failed (.npcNotFound id)
        | some entered =>
            obtain ⟨other, role⟩ := entered
            obtain rfl := Option.some.inj ((named_of_entry entry).symm.trans named)
            rcases perform_of_entry entry member with
              ⟨-, failure, refused⟩ | ⟨npc, newcomer, added⟩
            · rw [refused]
              exact .failed failure
            · rw [added]
              exact .added entry member newcomer

theorem fail_of_error (distinct : r.ids.Nodup) {failure : Failure α}
    (refused : (op.perform r).answer = .error failure) : op.perform r = .fail failure r := by
  have step := step_perform distinct op
  generalize op.perform r = outcome at step refused ⊢
  cases step with
  | failed given =>
      cases refused
      rfl
  | told reply unnamed => cases refused
  | changed listed named made => cases refused
  | added entry unknown newcomer => cases refused

/-! ## The order of the identifiers -/

/-- An operation registers somebody who is listed already, or adds them at the end. -/
theorem ids_perform (distinct : r.ids.Nodup) (op : Operation α) :
    (op.perform r).state.ids = r.ids ∧ op.registered r ⊆ r.ids ∨
      ∃ id, id ∉ r.ids ∧ (op.perform r).state.ids = r.ids ++ [id] ∧ op.registered r = [id] := by
  have step := step_perform distinct op
  unfold Operation.registered
  generalize op.perform r = outcome at step ⊢
  cases step with
  | failed failure => exact .inl ⟨rfl, List.nil_subset r.ids⟩
  | told reply unnamed =>
      have nobody : op.entry? r.defaults = none := by
        by_contra entered
        obtain ⟨entry, given⟩ := Option.ne_none_iff_exists'.mp entered
        rw [named_of_entry given] at unnamed
        cases unnamed
      rw [nobody]
      exact .inl ⟨rfl, List.nil_subset r.ids⟩
  | @changed npc next listed named made =>
      refine .inl ⟨ids_put next r, ?_⟩
      cases entry : op.entry? r.defaults with
      | none => exact List.nil_subset r.ids
      | some entered =>
          rw [named_of_entry entry] at named
          have member : entered.1 ∈ r.ids := Option.some.inj named ▸ List.mem_map_of_mem listed
          exact List.cons_subset.mpr ⟨member, List.nil_subset r.ids⟩
  | @added id role npc entry unknown newcomer =>
      rw [entry]
      refine .inr ⟨id, unknown, ?_, rfl⟩
      rw [← newcomer.id]
      exact List.map_append

end Operations

theorem registrations_concat (ops : List (Operation α)) (op : Operation α) (r : Roster α) :
    registrations (ops ++ [op]) r =
      registrations ops r ++ op.registered (after Operation.perform ops r) := by
  induction ops generalizing r with
  | nil => exact List.append_nil _
  | cons first ops ih => rw [List.cons_append, registrations, ih, registrations,
      List.append_assoc, after_cons]

/-- What a roster lists after the registrations of a run. -/
structure Listing (registered : List String) (r : Roster α) : Prop where
  order : r.ids = registered.eraseDups
  once : r.ids.Nodup

theorem Listing.perform {registered : List String} {r : Roster α} (h : Listing registered r)
    (op : Operation α) : Listing (registered ++ op.registered r) (op.perform r).state := by
  rcases ids_perform h.once op with ⟨same, known⟩ | ⟨id, unknown, joined, only⟩
  · have none : (op.registered r).removeAll registered = [] := by
      refine List.filter_eq_nil_iff.mpr fun id member => ?_
      have listed := known member
      rw [h.order, List.mem_eraseDups] at listed
      simpa using listed
    refine ⟨?_, same ▸ h.once⟩
    rw [same, h.order, List.eraseDups_append, none, List.eraseDups_nil, List.append_nil]
  · refine ⟨?_, Extends.nodup (.inr ⟨id, unknown, joined⟩) h.once⟩
    have new : id ∉ registered := by rwa [h.order, List.mem_eraseDups] at unknown
    rw [joined, h.order, only, List.eraseDups_append]
    simp [List.removeAll, new, List.eraseDups_cons]

theorem listing_after (ops : List (Operation α)) (d : Defaults α) :
    Listing (registrations ops ⟨d, []⟩) (after Operation.perform ops ⟨d, []⟩) := by
  induction ops using List.reverseRecOn with
  | nil => exact ⟨rfl, List.nodup_nil⟩
  | append_singleton ops op ih =>
      rw [registrations_concat, after_append]
      exact ih.perform op

/-! ## An ordered map -/

/-- A roster that has taken registrations is a map in their order. -/
structure OrderedMap (registered : List String) (r : Roster α) : Prop
    extends Listing registered r where
  size : r.size = r.ids.length
  lookup : ∀ id npc, r.find? id = some npc ↔ npc ∈ r.npcs ∧ npc.id = id
  again : ∀ npc ∈ r.npcs, (Operation.register npc.id).perform r = .done (.npc npc) r
  changed : ∀ op : Operation α, ∀ npc ∈ r.npcs, op.named? = some npc.id →
    op.perform r = Outcome.ofAnswer r ((op.upon npc).map fun next => (.npc next, r.put next))
  only : ∀ (op : Operation α) npc next, op.upon npc = .ok next → op.Only npc next
  added : ∀ (op : Operation α) id role, op.entry? r.defaults = some (id, role) → id ∉ r.ids →
    (Closed r.defaults role ∧ ∃ failure, op.perform r = .fail failure r) ∨
      (¬ Closed r.defaults role ∧
        ∃ npc, Newcomer r.defaults id role npc ∧ op.perform r = .done (.npc npc) (r.add npc))
  missed : ∀ (op : Operation α) id, op.named? = some id → op.entry? r.defaults = none →
    id ∉ r.ids → op.perform r = .fail (.npcNotFound id) r
  refused : ∀ (op : Operation α) failure, (op.perform r).answer = .error failure →
    op.perform r = .fail failure r
  roles : ∀ npc ∈ r.npcs, npc.role.name ∈ ["worker", "warrior", "guard"]
  read : ∀ role : Role, Role.ofValue (.text role.name : Value α) = .ok role
  inRole : ∀ role value, Role.ofValue value = .ok role →
    (Operation.inRole value).perform r = .done (.npcs (r.npcs.filter (·.role == role))) r
  parted : (Role.all.flatMap fun role => r.npcs.filter (·.role == role)).Perm r.npcs
  swapped : ∀ p q : Operation α, ∀ npc ∈ r.npcs, ∀ other ∈ r.npcs, npc.id ≠ other.id →
    p.named? = some npc.id → q.named? = some other.id → ∀ later,
      after Operation.perform (p :: q :: later) r = after Operation.perform (q :: p :: later) r

theorem Listing.orderedMap {registered : List String} {r : Roster α} (h : Listing registered r) :
    OrderedMap registered r where
  toListing := h
  size := (List.length_map _).symm
  lookup _ _ := find?_eq_some_iff h.once
  again _ listed := by
    rw [Operation.perform, register_of_known ((find?_eq_some_iff h.once).mpr ⟨listed, rfl⟩)]
    rfl
  changed _ _ listed named :=
    perform_of_find? h.once named ((find?_eq_some_iff h.once).mpr ⟨listed, rfl⟩)
  only _ _ _ := only_of_upon
  added _ _ _ entry unknown := by
    obtain refused | ⟨npc, newcomer, joined⟩ := perform_of_entry entry unknown
    · exact .inl refused
    · exact .inr ⟨newcomer.not_closed, npc, newcomer, joined⟩
  missed _ _ named entry unknown := perform_of_unknown named entry unknown
  refused _ _ refused := fail_of_error h.once refused
  roles npc _ := by cases npc.role <;> decide
  read role := by cases role <;> rfl
  inRole role value read := by
    rw [inRole_perform, read]
    rfl
  parted := inRole_perm r
  swapped _ _ _ listed _ other_listed ne named other_named later :=
    congrArg (after Operation.perform later)
      (perform_swap h.once listed other_listed ne named other_named)

theorem after_orderedMap (d : Defaults α) (ops : List (Operation α)) :
    OrderedMap (registrations ops ⟨d, []⟩) (after Operation.perform ops ⟨d, []⟩) :=
  (listing_after ops d).orderedMap

/-- Of these calls the third and the fifth fail: a shift by too large a number, and a task for
somebody who was never registered. -/
example :
    let ops : List (Operation Amount) :=
      [.register "ada", .enlist "bo" (.text "warrior"), .addMorale "ada" (.whole (10 ^ 400)),
        .addEfficiency "bo" 1, .assign "cy" (.text "dig"), .enlist "ada" (.text "guard")]
    let start : Roster Amount := ⟨⟨0.5, 0.5, .text "worker"⟩, []⟩
    ((after Operation.perform ops start).npcs.map fun npc =>
        (npc.id, npc.role, decide (1 ≤ npc.efficiency), decide (1 ≤ npc.morale))) =
        [("ada", .guard, false, false), ("bo", .warrior, true, false)] ∧
      registrations ops start = ["ada", "bo", "ada"] := by
  decide +kernel

end Roster

end Colony
