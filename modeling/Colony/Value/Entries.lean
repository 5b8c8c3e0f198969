import Colony.Failure

/-!
# Entries from values

The details of a standing are a dictionary, but may be given as any value
that lists entries: as a dictionary itself or as a sequence of pairs.  A value
that does not hold gives no entries.
-/

namespace Colony.Value

variable {α : Type}

mutual

/-- Whether a value can be a key; lists and dictionaries cannot, nor can a tuple with one inside. -/
def canBeKey : Value α → Bool
  | .list _ => false
  | .dict _ => false
  | .tuple items => canBeKeys items
  | .null => true
  | .bool _ => true
  | .int _ => true
  | .num _ => true
  | .text _ => true
  | .torn _ => true
  | .bytes _ => true
  termination_by structural v => v

def canBeKeys : List (Value α) → Bool
  | [] => true
  | v :: vs => canBeKey v && canBeKeys vs
  termination_by structural vs => vs

end

/-- The items of a sequence: code points, bytes, items, or the keys of a dictionary. -/
def items? : Value α → Option (List (Value α))
  | .text s => some (s.toList.map fun c => .text (String.ofList [c]))
  | .torn t => some (t.points.map fun p => ofPoints [p])
  | .bytes bs => some (bs.map fun b => .int b.toNat)
  | .list items => some items
  | .tuple items => some items
  | .dict entries => some (entries.map (·.1))
  | _ => none

/-- An entry is a sequence of two items, a key and a value. -/
def toEntry (v : Value α) : Answer α (Value α × Value α) :=
  match v.items? with
  | some [key, value] => if key.canBeKey then .ok (key, value) else .error .wrongKind
  | some _ => .error .badValue
  | none => .error .wrongKind

def listed [Scalar α] : Value α → Answer α (List (Value α × Value α))
  | .dict entries => .ok entries
  | v =>
      match v.items? with
      | some items => (items.mapM toEntry).map Table.ofList
      | none => .error .wrongKind

def toEntries [Scalar α] (v : Value α) : Answer α (List (Value α × Value α)) :=
  if v.holds then v.listed else .ok []

end Colony.Value
