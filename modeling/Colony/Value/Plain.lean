import Colony.Failure
import Colony.Sorting

/-!
# Plain values

A snapshot of the metrics holds plain values only: nothing, truth values,
numbers, texts, lists, and dictionaries whose keys are texts in ascending
order.  `plain?` brings a value into this form, unless it has a key inside
that is too long to be written.  Keys that become the same text share one
entry, and the last of them gives its value.
-/

namespace Colony.Value

variable {α : Type} [Scalar α]

/-- Entries in the order of their keys, one for each key. -/
def keyed (entries : List (Points × Value α)) : Value α :=
  let sorted := sort (fun e f => e.1.before f.1) entries
  .dict ((Table.ofList sorted).map fun entry => (.ofPoints entry.1, entry.2))

mutual

def plain? : Value α → Option (Value α)
  | .null => some .null
  | .bool b => some (.bool b)
  | .int n => some (.int n)
  | .num x => some (.num x)
  | .text s => some (.text s)
  | .torn t => some (.torn t)
  | .bytes bs => some (.text (Text.quotedBytes bs))
  | .list items => (plainItems? items).map .list
  | .tuple items => (plainItems? items).map .list
  | .dict entries => (plainEntries? entries).map keyed
  termination_by structural v => v

def plainItems? : List (Value α) → Option (List (Value α))
  | [] => some []
  | v :: vs => (plain? v).bind fun w => (plainItems? vs).map (w :: ·)
  termination_by structural vs => vs

def plainEntries? : List (Value α × Value α) → Option (List (Points × Value α))
  | [] => some []
  | (k, v) :: rest =>
      k.shown?.bind fun key => (plain? v).bind fun w =>
        (plainEntries? rest).map ((key, w) :: ·)
  termination_by structural entries => entries

end

end Colony.Value
