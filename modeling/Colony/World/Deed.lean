import Colony.World

/-!
# Deeds

A deed is an action upon one NPC, carried out or only tried.  An NPC that is
not on the roster is registered first, in both cases.
-/

namespace Colony

structure Deed (α : Type) where
  npcId : String
  actionId : String
  action : Action α
  dryRun : Bool := false

structure Deed.Effect (α : Type) where
  npcId : String
  profile : Profile α
  before : Rebellion.Assessment α
  after : Rebellion.Assessment α
  applied : Bool

variable {α : Type} [Scalar α]

def Deed.Effect.change (e : Deed.Effect α) : α := e.after.probability - e.before.probability

namespace World

def assess (id : String) (w : World α) : Outcome (World α) α (Rebellion.Assessment α) :=
  (w.onRoster (·.register id)).andThen fun npc next =>
    .of (Rebellion.assess next.rebellion (next.profileOf npc)) next

/-- Writes a profile back, as shifts of what the NPC has and as its trauma. -/
def store (npc : Npc α) (profile : Profile α) (w : World α) : Outcome (World α) α Unit :=
  (w.onRoster (·.addEfficiency npc.id (profile.efficiency - npc.efficiency))).andThen fun _ w =>
    (w.onRoster (·.addMorale npc.id (profile.morale - npc.morale))).andThen fun _ w =>
      w.setTrauma npc.id profile.trauma

def rebellionTriggered (deed : Deed α) (tick : Nat) (after : Rebellion.Assessment α) : Draft α :=
  { kind := "REBELLION_TRIGGERED"
    severity := .ofIntensity after.probability
    npcId := .text deed.npcId
    tick := tick
    payload :=
      [("probability", .num after.probability), ("trigger_action_id", .text deed.actionId)] }

def rebellionNotes (deed : Deed α) (tick : Nat) (after : Rebellion.Assessment α) :
    List (Note α) :=
  if after.halts then [.event (rebellionTriggered deed tick after)] else []

def effectOn (npc : Npc α) (deed : Deed α) (w : World α) : Answer α (Deed.Effect α) := do
  let profile := w.profileOf npc
  let before ← Rebellion.assess w.rebellion profile
  let changed ← profile.after deed.action
  return {
    npcId := npc.id
    profile := changed
    before := before
    after := ← Rebellion.assess w.rebellion changed
    applied := !deed.dryRun }

def apply (npc : Npc α) (deed : Deed α) (effect : Deed.Effect α) (w : World α) :
    Outcome (World α) α (Deed.Effect α) :=
  (w.store npc effect.profile).andThen fun _ stored =>
    { answer := .ok effect
      notes := rebellionNotes deed stored.economy.status.tickCount effect.after
      state := stored }

def perform (deed : Deed α) (w : World α) : Outcome (World α) α (Deed.Effect α) :=
  (w.onRoster (·.register deed.npcId)).andThen fun npc next =>
    (Outcome.of (next.effectOn npc deed) next).andThen fun effect next =>
      if deed.dryRun then .done effect next else next.apply npc deed effect

end World

end Colony
