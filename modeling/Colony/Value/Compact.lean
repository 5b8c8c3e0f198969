import Colony.Failure
import Colony.Sorting

/-!
# Compact text

The compact text of a value is one line of ASCII without blanks: the entries
of a dictionary stand in the order of their keys, texts are quoted and every
code point outside printable ASCII is escaped, by two codes where one does not
hold it.  Bytes have no compact text, nor has a dictionary whose keys are of
kinds that do not compare, nor a whole number that is too long to be written;
which of these is met first decides the failure.
-/

namespace Colony.Value

variable {α : Type} [Scalar α]

def unicodeEscape (n : Nat) : List Char :=
  if n < 0x10000 then '\\' :: 'u' :: Text.hexDigits 4 n
  else
    let m := n - 0x10000
    '\\' :: 'u' :: Text.hexDigits 4 (0xd800 + m / 0x400) ++
      '\\' :: 'u' :: Text.hexDigits 4 (0xdc00 + m % 0x400)

def compactChar (c : Char) : List Char :=
  if c = Text.doubleQuote ∨ c = '\\' then ['\\', c]
  else if 0x20 ≤ c.toNat ∧ c.toNat < 0x7f then [c]
  else if c = '\n' then ['\\', 'n']
  else if c = '\r' then ['\\', 'r']
  else if c = '\t' then ['\\', 't']
  else if c.toNat = 0x0c then ['\\', 'f']
  else if c.toNat = 0x08 then ['\\', 'b']
  else unicodeEscape c.toNat

def compactPoint : Point → List Char
  | .char c => compactChar c
  | .half h => unicodeEscape h.code

def compactText (ps : Points) : String :=
  String.ofList (Text.doubleQuote :: ps.flatMap compactPoint ++ [Text.doubleQuote])

def compactNumber (x : α) : String :=
  match Scalar.exact x with
  | .finite _ => Scalar.text x
  | .infinite negative => if negative then "-Infinity" else "Infinity"
  | .undefined => "NaN"

def compactAtom : Value α → Answer α String
  | .null => .ok "null"
  | .bool b => .ok (if b then "true" else "false")
  | .int n => (Decimal.writeInteger? n).elim (.error .badValue) .ok
  | .num x => .ok (compactNumber x)
  | _ => .error .wrongKind

/-- A key is written as a text: a text as itself, any other as its compact text. -/
def keyText (key : Value α) : Answer α Points :=
  match key.points? with
  | some ps => .ok ps
  | none => key.compactAtom.map Points.ofString

/-- Keys compare if there are not two of them, or all are texts, or all are numbers. -/
def keysCompare (keys : List (Value α)) : Bool :=
  keys.length ≤ 1 || keys.all (·.points?.isSome) || keys.all (·.number?.isSome)

def keyBefore (k l : Value α) : Bool :=
  match k.points?, l.points? with
  | some ps, some qs => ps.before qs
  | _, _ => ((k.number?.bind fun x => l.number?.map fun y => x.before y)).getD false

def braced (body : String) : String := "\x7b" ++ body ++ "\x7d"

def compactMember (entry : Value α × Answer α String) : Answer α String := do
  let key ← entry.1.keyText
  let value ← entry.2
  return compactText key ++ ":" ++ value

/-- The text of a dictionary from its keys and the texts of its values. -/
def compactEntries (entries : List (Value α × Answer α String)) : Answer α String :=
  if keysCompare (entries.map (·.1)) then
    ((sort (fun e f => keyBefore e.1 f.1) entries).mapM compactMember).map fun members =>
      braced (",".intercalate members)
  else .error .wrongKind

mutual

def compact : Value α → Answer α String
  | .text s => .ok (compactText s)
  | .torn t => .ok (compactText t.points)
  | .list items => (compactItems items).map fun ts => "[" ++ ",".intercalate ts ++ "]"
  | .tuple items => (compactItems items).map fun ts => "[" ++ ",".intercalate ts ++ "]"
  | .dict entries => compactEntries (compactValues entries)
  | .null => compactAtom .null
  | .bool b => compactAtom (.bool b)
  | .int n => compactAtom (.int n)
  | .num x => compactAtom (.num x)
  | .bytes _ => .error .wrongKind
  termination_by structural v => v

def compactItems : List (Value α) → Answer α (List String)
  | [] => .ok []
  | v :: vs => (compact v).bind fun t => (compactItems vs).map (t :: ·)
  termination_by structural vs => vs

def compactValues : List (Value α × Value α) → List (Value α × Answer α String)
  | [] => []
  | (k, v) :: rest => (k, compact v) :: compactValues rest
  termination_by structural entries => entries

end

end Colony.Value
