import Colony.Scalar
import Colony.Table
import Colony.Text.Point

/-!
# Values

Settings, event payloads and gauges hold values of any kind, from nothing at
all to nested lists and dictionaries.  The entries of a dictionary are listed
in the order in which their keys were first put.  A text that is no string has
a kind of its own.
-/

namespace Colony

/-- A text with half of a surrogate pair inside. -/
structure Torn where
  points : Points
  noString : points.string? = none
  deriving DecidableEq

theorem Torn.eq_of_points {s t : Torn} (same : s.points = t.points) : s = t := by
  cases s
  cases t
  cases same
  rfl

theorem Torn.points_ne_ofString (t : Torn) (s : String) : t.points ≠ Points.ofString s := by
  intro same
  have noString := t.noString
  rw [same, Points.string?_ofString] at noString
  cases noString

inductive Value (α : Type) where
  | null
  | bool (b : Bool)
  | int (n : Int)
  | num (x : α)
  | text (s : String)
  | torn (t : Torn)
  | bytes (bs : List UInt8)
  | list (items : List (Value α))
  | tuple (items : List (Value α))
  | dict (entries : List (Value α × Value α))
  deriving Inhabited

namespace Value

/-- What holds of a value as soon as it holds of the items, the keys and the values inside holds of
all. -/
@[elab_as_elim]
theorem deepInduction {α : Type} {motive : Value α → Prop} (null : motive .null)
    (bool : ∀ b, motive (.bool b)) (int : ∀ n, motive (.int n)) (num : ∀ x, motive (.num x))
    (text : ∀ s, motive (.text s)) (torn : ∀ t, motive (.torn t))
    (bytes : ∀ bs, motive (.bytes bs))
    (list : ∀ items, (∀ v ∈ items, motive v) → motive (.list items))
    (tuple : ∀ items, (∀ v ∈ items, motive v) → motive (.tuple items))
    (dict : ∀ entries, (∀ entry ∈ entries, motive entry.1 ∧ motive entry.2) →
      motive (.dict entries))
    (v : Value α) : motive v := by
  refine @Value.rec α motive (fun items => ∀ v ∈ items, motive v)
    (fun entries => ∀ entry ∈ entries, motive entry.1 ∧ motive entry.2)
    (fun entry => motive entry.1 ∧ motive entry.2)
    null bool int num text torn bytes list tuple dict ?_ ?_ ?_ ?_
    (fun _ _ key value => ⟨key, value⟩) v
  · exact List.forall_mem_nil motive
  · exact fun v vs first rest => List.forall_mem_cons.mpr ⟨first, rest⟩
  · exact List.forall_mem_nil _
  · exact fun entry entries first rest => List.forall_mem_cons.mpr ⟨first, rest⟩

/-- What holds of a value as soon as it holds of the items or the values inside holds of all. -/
@[elab_as_elim, induction_eliminator]
theorem induction {α : Type} {motive : Value α → Prop} (null : motive .null)
    (bool : ∀ b, motive (.bool b)) (int : ∀ n, motive (.int n)) (num : ∀ x, motive (.num x))
    (text : ∀ s, motive (.text s)) (torn : ∀ t, motive (.torn t))
    (bytes : ∀ bs, motive (.bytes bs))
    (list : ∀ items, (∀ v ∈ items, motive v) → motive (.list items))
    (tuple : ∀ items, (∀ v ∈ items, motive v) → motive (.tuple items))
    (dict : ∀ entries, (∀ entry ∈ entries, motive entry.2) → motive (.dict entries))
    (v : Value α) : motive v :=
  v.deepInduction null bool int num text torn bytes list tuple
    fun entries each => dict entries fun entry member => (each entry member).2

/-! ## Texts -/

section Texts

variable {α : Type}

/-- The value of a text. -/
def ofPoints (ps : Points) : Value α :=
  match h : ps.string? with
  | some s => .text s
  | none => .torn ⟨ps, h⟩

def points? : Value α → Option Points
  | .text s => some s
  | .torn t => some t.points
  | _ => none

theorem points?_ofPoints (ps : Points) : (ofPoints ps : Value α).points? = some ps := by
  unfold ofPoints
  split
  · rename_i s h
    rw [Points.eq_ofString h]
    rfl
  · rfl

theorem ofPoints_injective {ps qs : Points} (same : (ofPoints ps : Value α) = ofPoints qs) :
    ps = qs :=
  Option.some_inj.mp (by rw [← points?_ofPoints (α := α) ps, ← points?_ofPoints (α := α) qs, same])

end Texts

variable {α : Type} [Scalar α]

/-- The number a value stands for; a truth value counts as 1 or 0. -/
def number? : Value α → Option Exact
  | .bool b => some (.ofBool b)
  | .int n => some (.finite n)
  | .num x => some (Scalar.exact x)
  | _ => none

def scalar? : Value α → Option α
  | .bool b => some (Scalar.ofFlag b)
  | .int n => some (Scalar.ofWhole n)
  | .num x => some x
  | _ => none

/-- Nothing, zero, false and whatever is empty do not hold; every other value does. -/
def holds : Value α → Bool
  | .null => false
  | .bool b => b
  | .int n => n != 0
  | .num x => Scalar.exact x != .finite 0
  | .text s => s != ""
  | .torn _ => true
  | .bytes bs => !bs.isEmpty
  | .list items => !items.isEmpty
  | .tuple items => !items.isEmpty
  | .dict entries => !entries.isEmpty

/-- Whether two values are numbers and the same number; no number is undefined. -/
def sameNumber (v w : Value α) : Bool :=
  match v.number?, w.number? with
  | some x, some y => x.same y
  | _, _ => false

mutual

/-- Whether two values are one key of a dictionary.

Numbers are compared as numbers, of whichever kind they are. -/
def sameKey : Value α → Value α → Bool
  | .null, .null => true
  | .text s, .text t => s == t
  | .torn s, .torn t => s == t
  | .bytes bs, .bytes cs => bs == cs
  | .tuple items, .tuple others => sameKeys items others
  | v, w => sameNumber v w
  termination_by structural v => v

def sameKeys : List (Value α) → List (Value α) → Bool
  | [], [] => true
  | v :: vs, w :: ws => sameKey v w && sameKeys vs ws
  | _, _ => false
  termination_by structural vs => vs

end

instance : BEq (Value α) := ⟨sameKey⟩

def ofEntries (entries : List (Value α × Value α)) : Value α := .dict (Table.ofList entries)

end Value

end Colony
