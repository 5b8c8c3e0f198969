import Colony.Npc.Profile

/-!
# Actions upon NPCs

An action has a kind and an intensity between 0 and 1, and shifts morale,
trauma and efficiency by the effect of its kind times its intensity.
-/

namespace Colony

inductive ActionKind where
  | command
  | punishment
  | reward
  | dialogue
  | environment
  | resourceChange
  | unknown
  deriving DecidableEq, Repr, Inhabited

namespace ActionKind

def name : ActionKind → String
  | command => "command"
  | punishment => "punishment"
  | reward => "reward"
  | dialogue => "dialogue"
  | environment => "environment"
  | resourceChange => "resource_change"
  | unknown => "unknown"

def all : List ActionKind :=
  [command, punishment, reward, dialogue, environment, resourceChange, unknown]

def ofText (s : String) : ActionKind :=
  let word := Text.lower (Text.trim s)
  (all.find? fun kind => kind.name == word).getD unknown

variable {α : Type}

/-- Only a text names a kind; whatever names none is of unknown kind. -/
def ofValue : Value α → ActionKind
  | .text s => ofText s
  | _ => unknown

end ActionKind

/-- Shifts for an action of full intensity. -/
structure Effect (α : Type) where
  efficiency : α
  morale : α
  trauma : α

variable {α : Type} [Scalar α]

def ActionKind.effect : ActionKind → Effect α
  | .reward => { efficiency := 0, morale := 0.15, trauma := -0.05 }
  | .punishment => { efficiency := 0, morale := -0.20, trauma := 0.15 }
  | .command => { efficiency := 0.10, morale := -0.05, trauma := 0 }
  | .dialogue => { efficiency := 0, morale := 0.10, trauma := 0 }
  | .environment => { efficiency := 0, morale := 0, trauma := 0.10 }
  | .resourceChange => { efficiency := 0, morale := 0, trauma := 0 }
  | .unknown => { efficiency := 0, morale := 0, trauma := 0 }

structure Action (α : Type) where
  kind : ActionKind
  intensity : α

/-- The profile after an action.  Every action confines it to the range from 0 to 1. -/
def Profile.after (action : Action α) (p : Profile α) : Answer α (Profile α) := do
  let effect : Effect α := action.kind.effect
  let intensity ← Scalar.confined action.intensity
  return { p with
    trauma := ← Scalar.confined (p.trauma + effect.trauma * intensity)
    efficiency := ← Scalar.confined (p.efficiency + effect.efficiency * intensity)
    morale := ← Scalar.confined (p.morale + effect.morale * intensity) }

end Colony
