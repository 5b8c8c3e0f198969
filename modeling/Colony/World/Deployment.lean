import Colony.World

/-!
# Deploying a cleansing

While the Plague Heart is awake, a party may be sent against it: a given one,
or everybody in a combat role.  If the party succeeds, the plague is cleansed.
-/

namespace Colony.World

variable {α : Type} [Scalar α]

def rollStream : Points := "cleansing.roll"

/-- An NPC's morale stands for its confidence too. -/
def participant (w : World α) (npc : Npc α) : Cleansing.Participant α :=
  { npcId := npc.id
    role := npc.role.name
    trauma := w.traumaOf npc.id
    morale := npc.morale
    confidence := npc.morale }

/-- Everybody in a combat role, role by role and by identifier within a role. -/
def party (w : World α) : List (Cleansing.Participant α) :=
  Role.combat.flatMap fun role =>
    (sort (fun a b => textBefore a.id b.id) (w.roster.inRole role)).map w.participant

def drawRoll (w : World α) : Outcome (World α) α α :=
  (w.streams.draw rollStream []).within fun streams => { w with streams := streams }

def readRoll (script : Script α) (w : World α) : Outcome (World α) α α :=
  .done script.rolls.head { w with script := some { script with rolls := script.rolls.next } }

/-- The next roll: from the script if there is one, else from the stream. -/
def roll (w : World α) : Outcome (World α) α α :=
  match w.script with
  | none => w.drawRoll
  | some script =>
      if script.cleanseFirst then
        (w.onEconomy (·.cleanse)).andThen fun _ next => next.readRoll script
      else w.readRoll script

/-- Cleanses the plague, or does nothing if its heart sleeps already. -/
def cleanseIfAwake (w : World α) : Outcome (World α) α Unit :=
  if w.economy.plague.heart then w.onEconomy (·.cleanse) else .done () w

def deploy (given : Option (List (Cleansing.Participant α))) (w : World α) :
    Outcome (World α) α (Cleansing.Verdict α) :=
  if w.economy.plague.heart then
    (Cleansing.execute w.cleansing (given.getD w.party) true roll w).andThen fun verdict next =>
      if verdict.success then next.cleanseIfAwake.andThen fun _ clean => .done verdict clean
      else .done verdict next
  else .fail .heartInactive w

end Colony.World
