import Colony.Chance.Source
import Colony.Cleansing.Operation
import Colony.Settings.Override

/-!
# The world

The world joins the roster, the trauma of each NPC, the economy with its
plague, and the source of rolls.  Its operations answer with notes; their live
forms write to the chronicle that the world shares with its engines.
-/

namespace Colony

/-- Rolls written down in advance; the plague may be cleansed before each is read. -/
structure Script (α : Type) where
  rolls : Chance.Listed α
  cleanseFirst : Bool

structure World (α : Type) where
  rebellion : Rebellion.Config α
  cleansing : Cleansing.Config α
  roster : Roster α
  trauma : Table String α := []
  economy : Economy α
  streams : Chance.Streams
  script : Option (Script α) := none

namespace World

variable {α β : Type} [Scalar α]

def new (s : Settings α) : Answer α (World α) := do
  return {
    rebellion := ← s.rebellion
    cleansing := ← s.cleansing
    roster := { defaults := ← s.roster }
    economy := Economy.new (← s.economy) (← s.plague)
    streams := { salt := (s.value .salt).shown?, seed := .number s.seed } }

def start (settings : Settings α) : Answer α (Observed (World α) α) := do
  let chronicle ← Chronicle.new settings.chronicle
  let world ← new settings
  return ⟨world, some chronicle⟩

def build (overrides : List (String × Value α)) : Answer α (Observed (World α) α) := do
  start (← Settings.build overrides)

def onEconomy (operation : Economy α → Outcome (Economy α) α β) (w : World α) :
    Outcome (World α) α β :=
  (operation w.economy).within fun economy => { w with economy := economy }

def onRoster (operation : Roster α → Answer α (β × Roster α)) (w : World α) :
    Outcome (World α) α β :=
  (Outcome.ofAnswer w.roster (operation w.roster)).within fun roster => { w with roster := roster }

/-! ## Trauma -/

def setTrauma (id : String) (trauma : α) (w : World α) : Outcome (World α) α Unit :=
  (Outcome.of (Scalar.confined trauma) w).andThen fun trauma w =>
    .done () { w with trauma := w.trauma.put id trauma }

/-- Whose trauma was never set has none. -/
def traumaOf (id : String) (w : World α) : α := (w.trauma.get? id).getD 0

def profileOf (npc : Npc α) (w : World α) : Profile α :=
  { npcId := npc.id
    trauma := w.traumaOf npc.id
    efficiency := npc.efficiency
    morale := npc.morale }

def follow (rolls : Chance.Listed α) (cleanseFirst : Bool) (w : World α) : World α :=
  { w with script := some ⟨rolls, cleanseFirst⟩ }

end World

end Colony
