import Colony.Chance.Sha256
import Colony.Chance.Twister
import Colony.Outcome
import Colony.Value.Compact

/-!
# Random streams

Every draw belongs to a stream and a scope, which together name a counter.
The value of a draw depends only on the salt, the seed, that name and how
often it was drawn before: their text is digested, and the digest seeds a
fresh generator.  So no stream feels how often another one is used.

A draw counts before its text is made.  Where the salt or the seed cannot be
written, or the text cannot be encoded, it fails with its counter moved.
-/

namespace Colony.Chance

/-- What narrows a stream down; the order of its entries plays no part. -/
abbrev Scope (α : Type) := List (Value α × Value α)

/-- A seed is a whole number or a truth value; neither stands for the other. -/
inductive Seed where
  | number (n : Int)
  | flag (b : Bool)
  deriving DecidableEq, Repr, Inhabited

namespace Seed

def text? : Seed → Option String
  | .number n => Decimal.writeInteger? n
  | .flag b => some (if b then "True" else "False")

def ofValue? {α : Type} : Value α → Option Seed
  | .int n => some (.number n)
  | .bool b => some (.flag b)
  | _ => none

end Seed

structure Streams where
  /-- The text of the salt, if it can be written. -/
  salt : Option Points
  seed : Seed
  counters : Table Points Nat := []

variable {α : Type} [Scalar α]

/-- An entry of a scope under the text of its key. -/
def underText (entry : Value α × Value α) : Answer α (Points × Value α) :=
  entry.1.shown?.elim (.error .badValue) fun key => .ok (key, entry.2)

def scopeText (scope : Scope α) : Answer α String :=
  if scope.isEmpty then .ok (Value.braced "")
  else do
    let entries ← scope.mapM underText
    Value.compact (.dict ((Table.ofList entries).map fun entry => (.ofPoints entry.1, entry.2)))

def bar : Points := "|"

def counterKey (stream : Points) (scope : Scope α) : Answer α Points :=
  (scopeText scope).map fun text => stream ++ bar ++ Points.ofString text

namespace Streams

def count (key : Points) (s : Streams) : Nat := (s.counters.get? key).getD 0

def drawText? (s : Streams) (key : Points) (n : Nat) : Option Points := do
  let salt ← s.salt
  let seed ← s.seed.text?
  return salt ++ bar ++ Points.ofString seed ++ bar ++ key ++ bar ++ Points.ofString (toString n)

/-- The first eight bytes of the digest in words of 32 bits, least significant first.

A second word of zero is left out. -/
def seedWords (text : String) : List UInt32 :=
  match Sha256.wordsOf ((Sha256.digest text.toUTF8.toList).take 8) with
  | [high, low] => if high = 0 then [low] else [low, high]
  | words => words

/-- The fraction that a text decides, at least 0 and less than 1. -/
def fraction (text : String) : α :=
  (Twister.fraction (seedWords text) : α) / (Twister.fractions : α)

/-- The value of a draw by its number. -/
def value (s : Streams) (key : Points) (n : Nat) : Answer α α :=
  match s.drawText? key n with
  | none => .error .badValue
  | some text => text.string?.elim (.error .unencodable) fun text => .ok (fraction text)

def counted (key : Points) (s : Streams) : Streams :=
  { s with counters := s.counters.put key (s.count key + 1) }

/-- Draws once.  A scope without a text fails the draw and leaves every counter as it was. -/
def draw (stream : Points) (scope : Scope α) (s : Streams) : Outcome Streams α α :=
  (Outcome.of (counterKey stream scope) s).andThen fun key s =>
    .of (s.value key (s.count key)) (s.counted key)

def draws (s : Streams) : Nat := s.counters.foldl (fun sum entry => sum + entry.2) 0

theorem count_counted_self (key : Points) (s : Streams) :
    (s.counted key).count key = s.count key + 1 := by
  simp [counted, count, Table.get?_put_self]

theorem count_counted_of_ne {key other : Points} (ne : key ≠ other) (s : Streams) :
    (s.counted key).count other = s.count other := by
  simp [counted, count, Table.get?_put_of_ne ne]

end Streams

end Colony.Chance
