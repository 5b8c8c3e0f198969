import Colony.Chronicle.Event
import Colony.Chronicle.Leaderboard
import Colony.Chronicle.Ring
import Colony.Outcome
import Colony.Value.Plain

/-!
# The chronicle

A chronicle holds a ring of recent events and three kinds of metrics:
counters, gauges and leaderboards.  Events are numbered from 1 on in the
order in which they are recorded.  A chronicle that is not enabled records no
events and still keeps its metrics.
-/

namespace Colony

structure Chronicle.Config (α : Type) where
  enabled : Value α
  capacity : Value α
  recentLimit : Value α
  boardSize : Value α

structure Chronicle (α : Type) where
  enabled : Bool
  capacity : Int
  recentLimit : Value α
  boardSize : Value α
  log : Ring (Event α) := {}
  counters : Table String α := []
  gauges : Table String (Value α) := []
  boards : Table String (Leaderboard α) := []

/-- The metrics in the order of their names, gauges in plain form. -/
structure Metrics (α : Type) where
  counters : List (String × α)
  gauges : List (String × Value α)
  boards : List (String × Leaderboard α)

namespace Chronicle

variable {α : Type} [Scalar α]

/-- A chronicle without entries; it keeps at least one event. -/
def new (config : Config α) : Answer α (Chronicle α) := do
  let capacity ← config.capacity.toInt
  return { enabled := config.enabled.holds
           capacity := max 1 capacity
           recentLimit := config.recentLimit
           boardSize := config.boardSize }

def record (draft : Draft α) (c : Chronicle α) : Option (Event α) × Chronicle α :=
  if c.enabled then
    let event : Event α :=
      { seq := c.log.total + 1
        kind := draft.kind
        severity := draft.severity
        npcId := draft.npcId
        tick := draft.tick
        payload := draft.payload }
    (some event, { c with log := c.log.push c.capacity event })
  else (none, c)

/-- Records a report.  The severity is read before the tick, and neither unless events are kept. -/
def recordReport (report : Report α) (c : Chronicle α) :
    Answer α (Option (Event α) × Chronicle α) :=
  if c.enabled then do
    let severity ← Severity.ofValue (report.severity.getD (.int 1))
    let tick ← (report.tick.getD (.int 0)).toInt
    return c.record
      { kind := report.kind
        severity := severity
        npcId := report.npcId.getD (.text systemId)
        tick := tick
        payload := report.payload }
  else .ok (none, c)

def count (name : String) (n : α) (c : Chronicle α) : α × Chronicle α :=
  let value := (c.counters.get? name).getD 0 + n
  (value, { c with counters := c.counters.put name value })

/-- Counts by any number, which is taken as a fraction. -/
def countBy (name : String) (n : α) (c : Chronicle α) : Answer α α × Chronicle α :=
  match Scalar.checked (Scalar.rounded n) with
  | .ok n => (.ok (c.count name n).1, (c.count name n).2)
  | .error failure => (.error failure, c)

def gauge (name : String) (value : Value α) (c : Chronicle α) : Chronicle α :=
  { c with gauges := c.gauges.put name value }

/-- Changes a leaderboard, which starts without standings; the change stays also if it fails. -/
def onBoard (board : String) (change : Leaderboard α → Answer α Unit × Leaderboard α)
    (c : Chronicle α) : Answer α Unit × Chronicle α :=
  let (answer, standings) := change ((c.boards.get? board).getD [])
  (answer, { c with boards := c.boards.put board standings })

def rank (board : String) (standing : Standing α) (c : Chronicle α) :
    Answer α Unit × Chronicle α :=
  c.onBoard board (Leaderboard.addSized c.boardSize standing)

def rankBid (board : String) (bid : Bid α) (c : Chronicle α) :
    Answer α Unit × Chronicle α :=
  c.onBoard board (Leaderboard.addBid c.boardSize bid)

def metric (name : String) (default : Value α) (c : Chronicle α) : Value α :=
  match c.counters.get? name with
  | some x => .num x
  | none => (c.gauges.get? name).getD default

def byName {β : Type} (table : Table String β) : List (String × β) :=
  sort (fun e f => textBefore e.1 f.1) table

def plainGauge (gauge : String × Value α) : Answer α (String × Value α) :=
  gauge.2.plain?.elim (.error .badValue) fun plain => .ok (gauge.1, plain)

/-- A snapshot of the metrics, unless a gauge has no plain form. -/
def metrics (c : Chronicle α) : Answer α (Metrics α) := do
  return {
    counters := byName c.counters
    gauges := ← (byName c.gauges).mapM plainGauge
    boards := byName c.boards }

def clear (c : Chronicle α) : Chronicle α := { c with log := { c.log with kept := [] } }

/-! ## Recent events -/

/-- A limit that is missing or not above zero gives way to the one in the settings. -/
def limitFor (limit : Option (Value α)) (c : Chronicle α) : Answer α Int := do
  let chosen ← match limit with
    | none => pure c.recentLimit
    | some given => do
        if ← given.isAtMost 0 then pure c.recentLimit else pure given
  return min (← chosen.toInt) c.capacity

/-- The newest events that pass the filters, newest first, and one of them whatever the limit. -/
def recent (q : Query α) (c : Chronicle α) : Answer α (List (Event α)) := do
  let limit ← c.limitFor q.limit
  q.checkKinds
  return q.pick limit c.log.kept.reverse

/-! ## Notes -/

def hear (note : Note α) (c : Chronicle α) : Answer α Unit × Chronicle α :=
  match note with
  | .count name => (.ok (), (c.count name 1).2)
  | .gauge name value => (.ok (), c.gauge name value)
  | .event draft => (.ok (), (c.record draft).2)
  | .rank board key score payload => c.rank board ⟨key, score, payload⟩

/-- Writes notes one after the other, up to the first that cannot be written. -/
def hearAll : List (Note α) → Chronicle α → Answer α Unit × Chronicle α
  | [], c => (.ok (), c)
  | note :: rest, c =>
      match c.hear note with
      | (.ok (), next) => next.hearAll rest
      | (.error failure, next) => (.error failure, next)

end Chronicle

/-- A state with or without a chronicle that its operations' notes go to. -/
structure Observed (σ α : Type) where
  subject : σ
  chronicle : Option (Chronicle α) := none

namespace Observed

variable {σ α β : Type} [Scalar α]

/-- Runs an operation and writes its notes.

If they cannot all be written, the operation fails and its subject stays as
it was.  Only the ranks of a survey can fail to be written, and those it writes
before anything else changes; `Operation.live_writes` shows for every operation
that this is what becomes of it when it writes live. -/
def run (operation : σ → Outcome σ α β) (o : Observed σ α) : Answer α β × Observed σ α :=
  let outcome := operation o.subject
  match o.chronicle with
  | none => (outcome.answer, { o with subject := outcome.state })
  | some chronicle =>
      match chronicle.hearAll outcome.notes with
      | (.ok (), heard) => (outcome.answer, ⟨outcome.state, some heard⟩)
      | (.error failure, heard) => (.error failure, { o with chronicle := some heard })

end Observed

end Colony
