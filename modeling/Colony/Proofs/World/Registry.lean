import Mathlib.Data.List.Nodup
import Colony.Proofs.Answer
import Colony.Proofs.Chronicle.Hearing
import Colony.Proofs.Operation
import Colony.Proofs.World.Start

/-!
# Who is on the roster

No operation takes anybody off the roster, changes an identifier or lists one
twice; at most one newcomer is added, at the end.
-/

namespace Colony

variable {α β γ : Type}

/-! ## Rosters -/

namespace Roster

def ids (r : Roster α) : List String := r.npcs.map (·.id)

/-- A later roster lists the same people, or one newcomer after them. -/
def Extends (next r : Roster α) : Prop :=
  next.ids = r.ids ∨ ∃ id, id ∉ r.ids ∧ next.ids = r.ids ++ [id]

theorem Extends.refl (r : Roster α) : r.Extends r := .inl rfl

theorem Extends.of_ids {r next last : Roster α} (h : next.Extends r) (same : last.ids = next.ids) :
    last.Extends r := by
  unfold Extends
  rw [same]
  exact h

theorem Extends.subset {r next : Roster α} (h : next.Extends r) : r.ids ⊆ next.ids := by
  rcases h with same | ⟨id, -, joined⟩
  · rw [same]
    exact fun _ member => member
  · rw [joined]
    exact fun _ member => List.mem_append_left _ member

theorem Extends.nodup {r next : Roster α} (h : next.Extends r) (distinct : r.ids.Nodup) :
    next.ids.Nodup := by
  rcases h with same | ⟨id, new, joined⟩
  · rw [same]
    exact distinct
  · rw [joined, List.nodup_append]
    refine ⟨distinct, List.nodup_singleton id, fun other member last given same => new ?_⟩
    rwa [← List.mem_singleton.mp given, ← same]

theorem ids_change (id : String) {f : Npc α → Npc α} (keeps : ∀ npc, npc.id = id → (f npc).id = id)
    (r : Roster α) : (r.change id f).ids = r.ids := by
  rw [ids, change, List.map_map]
  refine List.map_congr_left fun npc _ => ?_
  simp only [Function.comp_apply]
  split
  · rename_i named
    have named := eq_of_beq named
    rw [keeps npc named, named]
  · rfl

theorem id_of_find? {id : String} {r : Roster α} {npc : Npc α} (known : r.find? id = some npc) :
    npc.id = id := by
  have found := List.find?_some known
  simpa using found

theorem find?_change {id : String} {f : Npc α → Npc α}
    (keeps : ∀ npc, npc.id = id → (f npc).id = id) (other : String) (r : Roster α) :
    (r.change id f).find? other = if other = id then (r.find? other).map f else r.find? other := by
  have same :
      ((fun npc : Npc α => npc.id == other) ∘ fun npc => if npc.id == id then f npc else npc) =
        fun npc => npc.id == other := by
    funext npc
    simp only [Function.comp_apply]
    split
    · rename_i named
      have named := eq_of_beq named
      rw [keeps npc named, named]
    · rfl
  have changed : (r.change id f).find? other =
      (r.find? other).map fun npc => if npc.id == id then f npc else npc := by
    rw [find?, change, List.find?_map, same]
    rfl
  rw [changed]
  cases known : r.find? other with
  | none => simp
  | some npc =>
      have named := id_of_find? known
      by_cases here : other = id <;> simp [named, here]

theorem not_mem_ids_of_find? {id : String} {r : Roster α} (none : r.find? id = none) :
    id ∉ r.ids := by
  intro member
  obtain ⟨npc, listed, rfl⟩ := List.mem_map.mp member
  have differs := List.find?_eq_none.mp none npc listed
  simp at differs

variable [Scalar α]

theorem add_of_enter {id : String} {role : Role} {r next : Roster α} {npc : Npc α}
    (entered : r.enter id role = .ok (npc, next)) : npc.id = id ∧ next = r.add npc := by
  obtain ⟨newcomer, made, pair⟩ := Answer.map_eq_ok.mp entered
  obtain ⟨efficiency, -, rest⟩ := Answer.bind_eq_ok.mp made
  obtain ⟨morale, -, built⟩ := Answer.bind_eq_ok.mp rest
  cases built
  cases pair
  exact ⟨rfl, rfl⟩

theorem extends_enter {id : String} {role : Role} {r next : Roster α} {npc : Npc α}
    (new : id ∉ r.ids) (entered : r.enter id role = .ok (npc, next)) : next.Extends r := by
  obtain ⟨rfl, rfl⟩ := add_of_enter entered
  exact .inr ⟨npc.id, new, List.map_append⟩

theorem extends_register {id : String} {r next : Roster α} {npc : Npc α}
    (registered : r.register id = .ok (npc, next)) : next.Extends r := by
  unfold register at registered
  split at registered
  · cases registered
    exact .refl r
  · rename_i unknown
    obtain ⟨role, -, entered⟩ := Answer.bind_eq_ok.mp registered
    exact extends_enter (not_mem_ids_of_find? unknown) entered

theorem extends_enlist {id : String} {role : Role} {r next : Roster α} {npc : Npc α}
    (enlisted : r.enlist id role = .ok (npc, next)) : next.Extends r := by
  unfold enlist at enlisted
  split at enlisted
  · cases enlisted
    refine (Extends.refl r).of_ids (ids_change id ?_ r)
    exact fun npc named => named
  · rename_i unknown
    exact extends_enter (not_mem_ids_of_find? unknown) enlisted

theorem extends_enlistAs {id : String} {role : Value α} {r next : Roster α} {npc : Npc α}
    (enlisted : r.enlistAs id role = .ok (npc, next)) : next.Extends r := by
  obtain ⟨role', -, done⟩ := Answer.bind_eq_ok.mp enlisted
  exact extends_enlist done

omit [Scalar α] in
theorem update_of_none {id : String} {r : Roster α} (unknown : r.find? id = none)
    (f : Npc α → Answer α (Npc α)) : r.update id f = .error (.npcNotFound id) := by
  rw [update, require, unknown]
  rfl

omit [Scalar α] in
theorem update_of_some {id : String} {r : Roster α} {npc : Npc α} (known : r.find? id = some npc)
    (f : Npc α → Answer α (Npc α)) :
    r.update id f = (f npc).map fun changed => (changed, r.change id fun _ => changed) := by
  rw [update, require_eq_ok_iff.mpr known, Answer.map_eq_bind]
  rfl

omit [Scalar α] in
theorem update_eq_ok {id : String} {f : Npc α → Answer α (Npc α)} {r next : Roster α}
    {changed : Npc α} :
    r.update id f = .ok (changed, next) ↔
      ∃ npc, r.find? id = some npc ∧ f npc = .ok changed ∧ next = r.change id fun _ => changed := by
  rw [update, Answer.bind_eq_ok]
  refine exists_congr fun npc => ?_
  rw [require_eq_ok_iff, Answer.bind_eq_ok]
  refine and_congr_right fun _ => ?_
  constructor
  · rintro ⟨made, answered, same⟩
    cases same
    exact ⟨answered, rfl⟩
  · rintro ⟨answered, rfl⟩
    exact ⟨changed, answered, rfl⟩

omit [Scalar α] in
theorem ids_update {id : String} {f : Npc α → Answer α (Npc α)}
    (keeps : ∀ npc changed, f npc = .ok changed → changed.id = npc.id) {r next : Roster α}
    {changed : Npc α} (updated : r.update id f = .ok (changed, next)) : next.ids = r.ids := by
  obtain ⟨npc, known, answered, rfl⟩ := update_eq_ok.mp updated
  have named : changed.id = id := (keeps npc changed answered).trans (id_of_find? known)
  exact ids_change id (fun _ _ => named) r

omit [Scalar α] in
theorem extends_update {id : String} {f : Npc α → Answer α (Npc α)}
    (keeps : ∀ npc changed, f npc = .ok changed → changed.id = npc.id) {r next : Roster α}
    {changed : Npc α} (updated : r.update id f = .ok (changed, next)) : next.Extends r :=
  (Extends.refl r).of_ids (ids_update keeps updated)

end Roster

namespace Npc

variable [Scalar α] {npc changed : Npc α}

theorem id_shiftEfficiency {delta : α} (shifted : npc.shiftEfficiency delta = .ok changed) :
    changed.id = npc.id := by
  obtain ⟨efficiency, -, rfl⟩ := Answer.map_eq_ok.mp shifted
  rfl

theorem id_shiftMorale {delta : α} (shifted : npc.shiftMorale delta = .ok changed) :
    changed.id = npc.id := by
  obtain ⟨morale, -, rfl⟩ := Answer.map_eq_ok.mp shifted
  rfl

theorem withTask_eq_ok {task : Value α} :
    npc.withTask task = .ok changed ↔
      ∃ text, (task.holds = true ∧ task.shown? = some text ∨ task.holds = false ∧ text = []) ∧
        changed = { npc with task := text } := by
  unfold withTask
  cases task.holds with
  | false => simp [eq_comm]
  | true => cases task.shown? <;> simp [eq_comm]

theorem id_withTask {task : Value α} (given : npc.withTask task = .ok changed) :
    changed.id = npc.id := by
  obtain ⟨text, -, rfl⟩ := withTask_eq_ok.mp given
  rfl

end Npc

/-! ## The world -/

namespace World

section Steps

variable {r : Roster α}

theorem extends_andThen {o : Outcome (World α) α β}
    {next : β → World α → Outcome (World α) α γ} (first : o.state.roster.Extends r)
    (rest : ∀ b w, w.roster.Extends r → (next b w).state.roster.Extends r) :
    (o.andThen next).state.roster.Extends r :=
  Outcome.state_andThen (P := fun w : World α => w.roster.Extends r) first rest

theorem onRoster_of_ok {operation : Roster α → Answer α (β × Roster α)} {w : World α} {b : β}
    {next : Roster α} (done : operation w.roster = .ok (b, next)) :
    w.onRoster operation = .done b { w with roster := next } := by
  simp only [onRoster, done]
  rfl

theorem onRoster_of_error {operation : Roster α → Answer α (β × Roster α)} {w : World α}
    {failure : Failure α} (failed : operation w.roster = .error failure) :
    w.onRoster operation = .fail failure w := by
  simp only [onRoster, failed]
  rfl

section Deploy

variable [Scalar α] {P : World α → Prop} {w : World α}
variable (streams : ∀ v streams, P v → P { v with streams := streams })
variable (script : ∀ v script, P v → P { v with script := script })
variable (cleanse : ∀ v, P v → P (v.onEconomy (·.cleanse)).state)
include streams script cleanse

theorem roll_induction (h : P w) : P w.roll.state := by
  unfold roll
  split
  · exact streams w _ h
  · split
    · exact Outcome.state_andThen (cleanse w h) fun _ next kept => script next _ kept
    · exact script w _ h

/-- A deployment draws or reads a roll, cleanses the plague perhaps, and does nothing else. -/
theorem deploy_induction (h : P w) (party : Option (List (Cleansing.Participant α))) :
    P (w.deploy party).state := by
  unfold deploy
  split
  · refine Outcome.state_andThen (Outcome.state_andThen h fun rate next kept => ?_) ?_
    · exact Outcome.state_andThen (roll_induction streams script cleanse kept)
        fun _ _ rolled => rolled
    · intro verdict next kept
      split
      · refine Outcome.state_andThen ?_ fun _ _ clean => clean
        unfold cleanseIfAwake
        split
        · exact cleanse next kept
        · exact kept
      · exact kept
  · exact h

end Deploy

theorem extends_onRoster {operation : Roster α → Answer α (β × Roster α)} {w : World α}
    (known : w.roster.Extends r)
    (h : ∀ b next, operation w.roster = .ok (b, next) → next.Extends r) :
    (w.onRoster operation).state.roster.Extends r := by
  unfold onRoster
  cases answer : operation w.roster with
  | error failure => exact known
  | ok pair => exact h pair.1 pair.2 answer

variable [Scalar α] {w : World α}

theorem extends_refresh (known : w.roster.Extends r) : w.refresh.state.roster.Extends r := by
  refine extends_andThen ?_ fun _ _ kept => extends_andThen kept fun _ _ told => told
  unfold survey Rebellion.survey
  split <;> exact known

theorem extends_setTrauma (known : w.roster.Extends r) (id : String) (trauma : α) :
    (w.setTrauma id trauma).state.roster.Extends r :=
  extends_andThen known fun _ _ kept => kept

theorem extends_store (known : w.roster.Extends r) (npc : Npc α) (profile : Profile α) :
    (w.store npc profile).state.roster.Extends r := by
  refine extends_andThen ?_ fun _ w known => extends_andThen ?_ fun _ w known => ?_
  · refine extends_onRoster known fun _ _ shifted => known.of_ids ?_
    exact Roster.ids_update (fun _ _ => Npc.id_shiftEfficiency) shifted
  · refine extends_onRoster known fun _ _ shifted => known.of_ids ?_
    exact Roster.ids_update (fun _ _ => Npc.id_shiftMorale) shifted
  · exact extends_setTrauma known _ _

theorem extends_advance (known : w.roster.Extends r) (times : Value α) :
    (w.advance times).state.roster.Extends r :=
  extends_andThen (extends_refresh known) fun _ _ kept => kept

theorem extends_deploy (known : w.roster.Extends r)
    (party : Option (List (Cleansing.Participant α))) :
    (w.deploy party).state.roster.Extends r :=
  deploy_induction (P := fun v => v.roster.Extends r) (fun _ _ kept => kept) (fun _ _ kept => kept)
    (fun _ kept => kept) known party

end Steps

variable [Scalar α]

theorem extends_assess (id : String) (w : World α) :
    (w.assess id).state.roster.Extends w.roster :=
  extends_andThen (extends_onRoster (.refl w.roster) fun _ _ => Roster.extends_register)
    fun _ _ kept => kept

theorem extends_perform (deed : Deed α) (w : World α) :
    (w.perform deed).state.roster.Extends w.roster := by
  refine extends_andThen (extends_onRoster (.refl w.roster) fun _ _ => Roster.extends_register) ?_
  intro npc next known
  refine extends_andThen known fun effect next known => ?_
  split
  · exact known
  · exact extends_andThen (extends_store known npc effect.profile) fun _ _ stored => stored

theorem Operation.extends_roster (op : Operation α) (w : World α) :
    (op.perform w).state.roster.Extends w.roster := by
  cases op with
  | register id => exact extends_onRoster (.refl w.roster) fun _ _ => Roster.extends_register
  | enlist id role => exact extends_onRoster (.refl w.roster) fun _ _ => Roster.extends_enlistAs
  | addEfficiency id delta =>
      refine extends_onRoster (.refl w.roster) fun _ _ => ?_
      exact Roster.extends_update fun _ _ => Npc.id_shiftEfficiency
  | addMorale id delta =>
      refine extends_onRoster (.refl w.roster) fun _ _ => ?_
      exact Roster.extends_update fun _ _ => Npc.id_shiftMorale
  | assign id task =>
      refine extends_onRoster (.refl w.roster) fun _ _ => ?_
      exact Roster.extends_update fun _ _ => Npc.id_withTask
  | setTrauma id trauma => exact extends_setTrauma (.refl w.roster) id trauma
  | assess id => exact extends_assess id w
  | act deed => exact extends_perform deed w
  | refresh => exact extends_refresh (.refl w.roster)
  | advance times => exact extends_advance (.refl w.roster) times
  | economy op => exact .refl w.roster
  | deploy party => exact extends_deploy (.refl w.roster) party
  | follow rolls cleanseFirst => exact .refl w.roster

/-! ### Nothing but people -/

/-- At most the roster and somebody's trauma have changed. -/
def OnlyPeople (w next : World α) : Prop :=
  ∃ roster trauma, next = { w with roster := roster, trauma := trauma }

namespace OnlyPeople

variable {w next last : World α}

omit [Scalar α] in
theorem refl (w : World α) : OnlyPeople w w := ⟨w.roster, w.trauma, rfl⟩

omit [Scalar α] in
theorem trans (first : OnlyPeople w next) (rest : OnlyPeople next last) : OnlyPeople w last := by
  obtain ⟨roster, trauma, rfl⟩ := first
  obtain ⟨roster, trauma, rfl⟩ := rest
  exact ⟨roster, trauma, rfl⟩

omit [Scalar α] in
theorem andThen {o : Outcome (World α) α β} {next : β → World α → Outcome (World α) α γ}
    (first : OnlyPeople w o.state) (rest : ∀ b v, OnlyPeople v (next b v).state) :
    OnlyPeople w (o.andThen next).state :=
  Outcome.state_andThen first fun b v known => known.trans (rest b v)

omit [Scalar α] in
theorem onRoster (operation : Roster α → Answer α (β × Roster α)) (w : World α) :
    OnlyPeople w (w.onRoster operation).state :=
  ⟨_, w.trauma, rfl⟩

theorem setTrauma (id : String) (trauma : α) (w : World α) :
    OnlyPeople w (w.setTrauma id trauma).state := by
  refine andThen (refl w) fun trauma v => ?_
  exact ⟨v.roster, v.trauma.put id trauma, rfl⟩

theorem assess (id : String) (w : World α) : OnlyPeople w (w.assess id).state :=
  andThen (onRoster _ w) fun _ v => refl v

theorem store (npc : Npc α) (profile : Profile α) (w : World α) :
    OnlyPeople w (w.store npc profile).state :=
  andThen (onRoster _ w) fun _ v => andThen (onRoster _ v) fun _ v => setTrauma _ _ v

theorem perform (deed : Deed α) (w : World α) : OnlyPeople w (w.perform deed).state := by
  refine andThen (onRoster _ w) fun npc v => andThen (refl v) fun effect v => ?_
  split
  · exact refl v
  · exact andThen (store npc effect.profile v) fun _ v => refl v

omit [Scalar α] in
theorem economy (h : OnlyPeople w next) : w.economy = next.economy := by
  obtain ⟨roster, trauma, rfl⟩ := h
  rfl

end OnlyPeople

/-! ### Runs -/

theorem nodup_ids_after {settings : Settings α} {start : Observed (World α) α}
    (started : World.start settings = .ok start) (ops : List (Operation α)) :
    (start.after Operation.perform ops).subject.roster.ids.Nodup := by
  obtain ⟨w, c, -, made, rfl⟩ := start_eq_ok.mp started
  refine Observed.subject_after_induction (P := fun w : World α => w.roster.ids.Nodup)
    (fun op w distinct => (op.extends_roster w).nodup distinct) ops ?_
  rw [Roster.ids, (fresh_of_new made).nobody]
  exact List.nodup_nil

end World

end Colony
