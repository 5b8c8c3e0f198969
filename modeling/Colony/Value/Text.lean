import Colony.Text.Quoted
import Colony.Value.Basic

/-!
# Values as text

`written?` is the text of a value as it stands inside a list or a message,
where texts are quoted.  `shown?` is the text of a value on its own.  A value
with a whole number inside that is too long to be written has neither.
-/

namespace Colony.Value

variable {α : Type} [Scalar α]

def commaList (items : List String) : String := ", ".intercalate items

mutual

def written? : Value α → Option String
  | .null => some "None"
  | .bool b => some (if b then "True" else "False")
  | .int n => Decimal.writeInteger? n
  | .num x => some (Scalar.text x)
  | .text s => some (Text.quoted s)
  | .torn t => some (Text.quoted t.points)
  | .bytes bs => some (Text.quotedBytes bs)
  | .list items => (writtenItems? items).map fun ts => "[" ++ commaList ts ++ "]"
  | .tuple items => (writtenItems? items).map fun ts =>
      "(" ++ commaList ts ++ (if items.length = 1 then ",)" else ")")
  | .dict entries => (writtenEntries? entries).map fun ts => "\x7b" ++ commaList ts ++ "\x7d"
  termination_by structural v => v

def writtenItems? : List (Value α) → Option (List String)
  | [] => some []
  | v :: vs => (written? v).bind fun t => (writtenItems? vs).map (t :: ·)
  termination_by structural vs => vs

def writtenEntries? : List (Value α × Value α) → Option (List String)
  | [] => some []
  | (k, v) :: rest =>
      (written? k).bind fun key => (written? v).bind fun value =>
        (writtenEntries? rest).map ((key ++ ": " ++ value) :: ·)
  termination_by structural entries => entries

end

def shown? : Value α → Option Points
  | .text s => some s
  | .torn t => some t.points
  | v => (written? v).map Points.ofString

theorem shown?_of_points? {v : Value α} {ps : Points} (h : v.points? = some ps) :
    v.shown? = some ps := by
  cases v with
  | text s => exact h
  | torn t => exact h
  | _ => cases h

theorem shown?_of_no_points {v : Value α} (h : v.points? = none) :
    v.shown? = v.written?.map Points.ofString := by
  cases v with
  | text s => cases h
  | torn t => cases h
  | _ => rfl

theorem shown?_ofPoints (ps : Points) : (ofPoints ps : Value α).shown? = some ps :=
  shown?_of_points? (points?_ofPoints ps)

end Colony.Value
