import Colony.Chronicle.Note
import Colony.Value.Entries

/-!
# Events

Events as they stand in the log, as they are asked for from outside, and the
filters that select them.
-/

namespace Colony

structure Event (α : Type) where
  seq : Nat
  kind : String
  severity : Severity
  npcId : Value α
  tick : Int
  payload : List (Points × Value α)

/-- An event as asked for from outside, its severity and tick still to be read. -/
structure Report (α : Type) where
  kind : String
  severity : Option (Value α) := none
  npcId : Option (Value α) := none
  tick : Option (Value α) := none
  payload : List (Points × Value α) := []

/-- A draft as a report, as it is asked for from outside. -/
def Draft.report {α : Type} (draft : Draft α) : Report α :=
  { kind := draft.kind
    severity := some (.int draft.severity.level)
    npcId := some draft.npcId
    tick := some (.int draft.tick)
    payload := draft.payload }

structure Query (α : Type) where
  limit : Option (Value α) := none
  npcId : Option String := none
  minSeverity : Option (Value α) := none
  kinds : Option (List (Value α)) := none

namespace Report

variable {α : Type}

/-- Takes the report in which a part is filled, unless the part was given before. -/
def fill {β : Type} (part : Option β) (filled : Report α) : Answer α (Report α) :=
  if part.isSome then .error .wrongKind else .ok filled

/-- Adds a detail.

Details share their names with the parts of a report, and each name goes once;
`kind` and `self` are always taken. -/
def addDetail (r : Report α) : Value α × Value α → Answer α (Report α)
  | (.text name, v) =>
      if name = "severity" then fill r.severity { r with severity := some v }
      else if name = "tick" then fill r.tick { r with tick := some v }
      else if name = "npc_id" then fill r.npcId { r with npcId := some v }
      else if name = "kind" ∨ name = "self" then .error .wrongKind
      else .ok { r with payload := r.payload ++ [(Points.ofString name, v)] }
  | (.torn name, v) => .ok { r with payload := r.payload ++ [(name.points, v)] }
  | _ => .error .wrongKind

def addDetails (details : List (Value α × Value α)) (r : Report α) : Answer α (Report α) :=
  details.foldlM addDetail r

end Report

namespace Query

variable {α : Type} [Scalar α]

/-- Whether an event passes the filters.  An empty subject filters nothing. -/
def selects (q : Query α) (e : Event α) : Bool :=
  q.npcId.all (fun id => id == "" || e.npcId == .text id) &&
  q.minSeverity.all (fun least => !(Value.exceeds least e.severity.level matches .ok true)) &&
  q.kinds.all (fun kinds => kinds.contains (.text e.kind))

/-- Takes events that pass until there are as many as the limit says, and one whatever it says. -/
def pick (q : Query α) (limit : Int) : List (Event α) → List (Event α)
  | [] => []
  | e :: rest =>
      if q.selects e then
        if limit ≤ 1 then [e] else e :: pick q (limit - 1) rest
      else pick q limit rest

/-- Kinds are looked up as keys, so each has to be one; a kind that is no text selects nothing. -/
def checkKinds (q : Query α) : Answer α Unit :=
  if q.kinds.all (·.all (·.canBeKey)) then .ok () else .error .wrongKind

end Query

end Colony
