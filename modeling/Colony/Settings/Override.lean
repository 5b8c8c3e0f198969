import Colony.Settings
import Colony.Text.Split

/-!
# Overrides

An override names the seed, or a knob by its section and field with a point
between them, and gives its new value.  Overrides are applied one after the
other; one that fails ends the application, and those before it stay.
-/

namespace Colony.Settings

inductive Target where
  | seed
  | knob (knob : Knob)
  deriving DecidableEq, Repr

/-- The section and the field of a key; without a point the whole key is the section. -/
def splitKey (key : String) : String × String :=
  match Text.splitFirst? '.' key.toList with
  | some (before, after) => (String.ofList before, String.ofList after)
  | none => (key, "")

variable {α : Type} [Scalar α]

/-- Only the seed goes without a field; a point alone does not make one. -/
def Target.ofKey (key : String) : Answer α Target :=
  let (sectionName, field) := splitKey key
  if field = "" then
    if sectionName = "seed" then .ok .seed else .error (.keyWithoutField key)
  else
    match Group.ofName? sectionName with
    | none => .error (.unknownSection sectionName)
    | some group =>
        (Knob.ofField? group field).elim (.error (.unknownField group.title field)) fun k =>
          .ok (.knob k)

/-- The default role is read when it is set; every other knob keeps the value as given. -/
def assign (target : Target) (v : Value α) (s : Settings α) : Answer α (Settings α) :=
  match target with
  | .seed => v.toInt.map fun n => { s with seed := n }
  | .knob .defaultRole => (Role.ofValue v).map fun role => s.set .defaultRole (.text role.name)
  | .knob knob => .ok (s.set knob v)

def override (key : String) (v : Value α) (s : Settings α) : Answer α (Settings α) := do
  let target ← Target.ofKey key
  assign target v s

def overrideAll : List (String × Value α) → Settings α → Outcome (Settings α) α Unit
  | [], s => .done () s
  | (key, v) :: rest, s =>
      match s.override key v with
      | .ok next => next.overrideAll rest
      | .error failure => .fail failure s

/-- Overrides whose keys are values.  Bytes have parts, but none that a point divides. -/
def overrideEntry (key v : Value α) (s : Settings α) : Answer α (Settings α) :=
  match key with
  | .text name => s.override name v
  | .bytes _ => .error .wrongKind
  | _ => .error .keyWithoutParts

def overrideEntries : List (Value α × Value α) → Settings α → Outcome (Settings α) α Unit
  | [], s => .done () s
  | (key, v) :: rest, s =>
      match s.overrideEntry key v with
      | .ok next => next.overrideEntries rest
      | .error failure => .fail failure s

theorem overrideEntries_text (overrides : List (String × Value α)) (s : Settings α) :
    s.overrideEntries (overrides.map fun entry => (.text entry.1, entry.2)) =
      s.overrideAll overrides := by
  induction overrides generalizing s with
  | nil => rfl
  | cons entry rest ih =>
      obtain ⟨key, v⟩ := entry
      simp only [List.map_cons, overrideEntries, overrideEntry, overrideAll]
      cases s.override key v with
      | ok next => exact ih next
      | error failure => rfl

def built (apply : Settings α → Outcome (Settings α) α Unit) : Answer α (Settings α) :=
  let outcome := apply standard
  outcome.answer.map fun _ => outcome.state

def build (overrides : List (String × Value α)) : Answer α (Settings α) :=
  built (overrideAll overrides)

def buildEntries (overrides : List (Value α × Value α)) : Answer α (Settings α) :=
  built (overrideEntries overrides)

end Colony.Settings
