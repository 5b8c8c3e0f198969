import Colony.Chronicle

/-!
# Live operations

An engine holds a chronicle, or none, and writes to it in the midst of its
operations.  A live operation runs on a state beside its chronicle, part by
part: a part that fails ends it, and what the parts before it changed stays.
The outcome of an operation gathers as notes what its live form writes.
-/

namespace Colony

def Live (σ α β : Type) : Type := Observed σ α → Answer α β × Observed σ α

namespace Live

variable {σ τ α β γ : Type}

def andThen (op : Live σ α β) (next : β → Live σ α γ) : Live σ α γ := fun o =>
  match op o with
  | (.ok b, o) => next b o
  | (.error failure, o) => (.error failure, o)

instance : Monad (Live σ α) where
  pure b := fun o => (.ok b, o)
  bind := andThen

def subject : Live σ α σ := fun o => (.ok o.subject, o)

def answer (a : Answer α β) : Live σ α β := fun o => (a, o)

/-- A part that works on the state alone and has nothing to tell. -/
def act (operation : σ → Outcome σ α β) : Live σ α β := fun o =>
  ((operation o.subject).answer, { o with subject := (operation o.subject).state })

def modify (f : σ → σ) : Live σ α Unit := fun o => (.ok (), { o with subject := f o.subject })

/-- Writes to the chronicle, if there is one. -/
def tell (write : Chronicle α → Answer α Unit × Chronicle α) : Live σ α Unit := fun o =>
  match o.chronicle with
  | none => (.ok (), o)
  | some c => ((write c).1, { o with chronicle := some (write c).2 })

/-- Runs on a part of the state, with the same chronicle or with none. -/
def within (part : τ → σ) (place : σ → τ → τ) (heard : τ → Bool) (op : Live σ α β) :
    Live τ α β := fun o =>
  let run := op ⟨part o.subject, if heard o.subject then o.chronicle else none⟩
  (run.1, ⟨place run.2.subject o.subject, if heard o.subject then run.2.chronicle else o.chronicle⟩)

/-! ## Writing -/

section Writing

variable [Scalar α]

def count (name : String) : Live σ α Unit :=
  tell fun c => ((c.countBy name 1).1.map fun _ => (), (c.countBy name 1).2)

def gauge (name : String) (value : Value α) : Live σ α Unit :=
  tell fun c => (.ok (), c.gauge name value)

def event (draft : Draft α) : Live σ α Unit :=
  tell fun c =>
    match c.recordReport draft.report with
    | .ok (_, next) => (.ok (), next)
    | .error failure => (.error failure, c)

def rank (board : String) (bid : Bid α) : Live σ α Unit := tell (·.rankBid board bid)

end Writing

def onlyIf (p : Prop) [Decidable p] (op : Live σ α Unit) : Live σ α Unit :=
  if p then op else pure ()

/-- One part for each item, in turn. -/
def each (op : β → Live σ α Unit) : List β → Live σ α Unit
  | [] => pure ()
  | b :: bs => do
      op b
      each op bs

end Live

end Colony
