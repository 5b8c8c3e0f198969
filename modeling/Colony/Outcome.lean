import Colony.Chronicle.Note

/-!
# Outcomes

What an operation on a state leads to: an answer or a failure, notes for a
chronicle, and the state afterwards.  A failure may leave a state that
differs from the one before.
-/

namespace Colony

structure Outcome (σ α β : Type) where
  answer : Answer α β
  notes : List (Note α) := []
  state : σ

namespace Outcome

variable {σ τ α β γ : Type}

/-- A failure that leaves the state as it was. -/
def fail (failure : Failure α) (s : σ) : Outcome σ α β := ⟨.error failure, [], s⟩

def done (b : β) (s : σ) : Outcome σ α β := ⟨.ok b, [], s⟩

/-- An answer or a failure beside a state that it does not change. -/
def of (answer : Answer α β) (s : σ) : Outcome σ α β := ⟨answer, [], s⟩

def andThen (o : Outcome σ α β) (next : β → σ → Outcome σ α γ) : Outcome σ α γ :=
  match o.answer with
  | .error failure => ⟨.error failure, o.notes, o.state⟩
  | .ok b =>
      let rest := next b o.state
      ⟨rest.answer, o.notes ++ rest.notes, rest.state⟩

def within (o : Outcome σ α β) (place : σ → τ) : Outcome τ α β := ⟨o.answer, o.notes, place o.state⟩

/-- An answer together with the next state, or a failure that leaves the state as it was. -/
def ofAnswer (s : σ) (a : Answer α (β × σ)) : Outcome σ α β :=
  match a with
  | .ok (b, next) => done b next
  | .error failure => fail failure s

@[simp] theorem answer_fail (failure : Failure α) (s : σ) :
    (fail failure s : Outcome σ α β).answer = .error failure := rfl

@[simp] theorem state_fail (failure : Failure α) (s : σ) :
    (fail failure s : Outcome σ α β).state = s := rfl

@[simp] theorem answer_done (b : β) (s : σ) : (done b s : Outcome σ α β).answer = .ok b := rfl

@[simp] theorem state_done (b : β) (s : σ) : (done b s : Outcome σ α β).state = s := rfl

@[simp] theorem fail_andThen (failure : Failure α) (s : σ) (next : β → σ → Outcome σ α γ) :
    (fail failure s : Outcome σ α β).andThen next = fail failure s := rfl

@[simp] theorem of_ok_andThen (b : β) (s : σ) (next : β → σ → Outcome σ α γ) :
    (of (.ok b) s).andThen next = next b s := rfl

@[simp] theorem of_error_andThen (failure : Failure α) (s : σ) (next : β → σ → Outcome σ α γ) :
    (of (.error failure) s : Outcome σ α β).andThen next = fail failure s := rfl

@[simp] theorem done_andThen (b : β) (s : σ) (next : β → σ → Outcome σ α γ) :
    (done b s).andThen next = next b s := rfl

theorem answer_andThen_of_ok {o : Outcome σ α β} {b : β} (done : o.answer = .ok b)
    (next : β → σ → Outcome σ α γ) : (o.andThen next).answer = (next b o.state).answer := by
  simp only [andThen, done]

theorem state_andThen_of_ok {o : Outcome σ α β} {b : β} (done : o.answer = .ok b)
    (next : β → σ → Outcome σ α γ) : (o.andThen next).state = (next b o.state).state := by
  simp only [andThen, done]

/-- What a first operation leaves and a second keeps is left by both, one after the other. -/
theorem state_andThen {P : σ → Prop} {o : Outcome σ α β} {next : β → σ → Outcome σ α γ}
    (first : P o.state) (rest : ∀ b s, P s → P (next b s).state) : P (o.andThen next).state := by
  obtain ⟨answer, notes, state⟩ := o
  cases answer with
  | error failure => exact first
  | ok b => exact rest b state first

theorem andThen_assoc {δ : Type} (o : Outcome σ α β) (next : β → σ → Outcome σ α γ)
    (last : γ → σ → Outcome σ α δ) :
    (o.andThen next).andThen last = o.andThen fun b s => (next b s).andThen last := by
  obtain ⟨answer, notes, state⟩ := o
  cases answer with
  | error failure => rfl
  | ok b =>
      simp only [andThen]
      cases (next b state).answer <;> simp

end Outcome

end Colony
