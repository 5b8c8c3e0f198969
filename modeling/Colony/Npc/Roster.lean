import Colony.Npc.Role

/-!
# The roster

The roster lists the NPCs in the order in which they were first registered.
Work efficiency and morale stay between 0 and 1 whatever is added to them; a
sum that overflows is refused, and so is a task that cannot be written.
-/

namespace Colony

structure Npc (α : Type) where
  id : String
  role : Role
  efficiency : α
  morale : α
  task : Points := []

namespace Npc

variable {α : Type} [Scalar α]

def shiftEfficiency (delta : α) (npc : Npc α) : Answer α (Npc α) :=
  (Scalar.confined (npc.efficiency + delta)).map fun efficiency =>
    { npc with efficiency := efficiency }

def shiftMorale (delta : α) (npc : Npc α) : Answer α (Npc α) :=
  (Scalar.confined (npc.morale + delta)).map fun morale => { npc with morale := morale }

/-- Gives a task by its text; a value that does not hold takes the task away. -/
def withTask (task : Value α) (npc : Npc α) : Answer α (Npc α) :=
  if task.holds then
    task.shown?.elim (.error .badValue) fun text => .ok { npc with task := text }
  else .ok { npc with task := [] }

end Npc

structure Roster.Defaults (α : Type) where
  efficiency : α
  morale : α
  role : Value α

structure Roster (α : Type) where
  defaults : Roster.Defaults α
  npcs : List (Npc α) := []

namespace Roster

variable {α : Type} [Scalar α]

def size (r : Roster α) : Nat := r.npcs.length

def find? (id : String) (r : Roster α) : Option (Npc α) := r.npcs.find? (·.id == id)

def require (id : String) (r : Roster α) : Answer α (Npc α) :=
  (r.find? id).elim (.error (.npcNotFound id)) .ok

def newcomer (id : String) (role : Role) (r : Roster α) : Answer α (Npc α) := do
  return {
    id := id
    role := role
    efficiency := ← Scalar.confined r.defaults.efficiency
    morale := ← Scalar.confined r.defaults.morale }

def add (npc : Npc α) (r : Roster α) : Roster α := { r with npcs := r.npcs ++ [npc] }

def change (id : String) (f : Npc α → Npc α) (r : Roster α) : Roster α :=
  { r with npcs := r.npcs.map fun npc => if npc.id == id then f npc else npc }

/-- Adds a newcomer, unless the defaults are too large to start with. -/
def enter (id : String) (role : Role) (r : Roster α) : Answer α (Npc α × Roster α) :=
  (r.newcomer id role).map fun npc => (npc, r.add npc)

/-- Registers an NPC in the default role; one that is registered stays as it is. -/
def register (id : String) (r : Roster α) : Answer α (Npc α × Roster α) :=
  match r.find? id with
  | some npc => .ok (npc, r)
  | none => do
      let role ← Role.ofValue r.defaults.role
      r.enter id role

/-- Registers an NPC in a role; one that is registered changes only its role. -/
def enlist (id : String) (role : Role) (r : Roster α) : Answer α (Npc α × Roster α) :=
  match r.find? id with
  | some npc =>
      .ok ({ npc with role := role }, r.change id fun npc => { npc with role := role })
  | none => r.enter id role

def enlistAs (id : String) (role : Value α) (r : Roster α) : Answer α (Npc α × Roster α) := do
  let role ← Role.ofValue role
  r.enlist id role

def inRole (role : Role) (r : Roster α) : List (Npc α) := r.npcs.filter (·.role == role)

def inRoleOf (role : Value α) (r : Roster α) : Answer α (List (Npc α)) :=
  (Role.ofValue role).map fun role => r.inRole role

/-- Exchanges a registered NPC for what a change makes of it, unless the change fails. -/
def update (id : String) (f : Npc α → Answer α (Npc α)) (r : Roster α) :
    Answer α (Npc α × Roster α) := do
  let npc ← r.require id
  let changed ← f npc
  return (changed, r.change id fun _ => changed)

def addEfficiency (id : String) (delta : α) (r : Roster α) : Answer α (Npc α × Roster α) :=
  r.update id (Npc.shiftEfficiency delta)

def addMorale (id : String) (delta : α) (r : Roster α) : Answer α (Npc α × Roster α) :=
  r.update id (Npc.shiftMorale delta)

def assign (id : String) (task : Value α) (r : Roster α) : Answer α (Npc α × Roster α) :=
  r.update id (Npc.withTask task)

omit [Scalar α] in
theorem require_eq_ok_iff {id : String} {r : Roster α} {npc : Npc α} :
    r.require id = .ok npc ↔ r.find? id = some npc := by
  unfold require
  cases r.find? id <;> simp

end Roster

end Colony
