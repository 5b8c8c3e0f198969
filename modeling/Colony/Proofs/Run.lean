import Colony.Chronicle

/-!
# Runs

A run carries out operations one after the other, each on the state that the
one before it left, whether that one answered or failed.
-/

namespace Colony

variable {σ α β γ ω : Type}

def Outcome.map (f : β → γ) (o : Outcome σ α β) : Outcome σ α γ :=
  ⟨o.answer.map f, o.notes, o.state⟩

theorem Outcome.answer_andThen_eq_ok {o : Outcome σ α β} {next : β → σ → Outcome σ α γ} {c : γ} :
    (o.andThen next).answer = .ok c ↔ ∃ b, o.answer = .ok b ∧ (next b o.state).answer = .ok c := by
  unfold andThen
  cases o.answer <;> simp

section Arithmetic

variable [Scalar α]

/-- What follows a value that has to be checked is done with the value, or not at all. -/
theorem Outcome.of_checked_andThen_cases (x : α) (s : σ) (next : α → σ → Outcome σ α β) :
    (Scalar.overflown x = false ∧ (Outcome.of (Scalar.checked x) s).andThen next = next x s) ∨
      (Scalar.overflown x = true ∧
        (Outcome.of (Scalar.checked x) s).andThen next = .fail .overflow s) := by
  cases known : Scalar.overflown x with
  | false => exact .inl ⟨rfl, by rw [Scalar.checked_eq_ok_iff.mpr ⟨known, rfl⟩, of_ok_andThen]⟩
  | true =>
      exact .inr ⟨rfl, by rw [Scalar.checked_eq_error_iff.mpr ⟨known, rfl⟩, of_error_andThen]⟩

theorem Outcome.of_confined_andThen_cases (x : α) (s : σ) (next : α → σ → Outcome σ α β) :
    (Scalar.overflown (Scalar.rounded x) = false ∧
        (Outcome.of (Scalar.confined x) s).andThen next = next (Scalar.unit x) s) ∨
      (Scalar.overflown (Scalar.rounded x) = true ∧
        (Outcome.of (Scalar.confined x) s).andThen next = .fail .overflow s) := by
  cases known : Scalar.overflown (Scalar.rounded x) with
  | false => exact .inl ⟨rfl, by rw [Scalar.confined_eq_ok_iff.mpr ⟨known, rfl⟩, of_ok_andThen]⟩
  | true =>
      exact .inr ⟨rfl, by rw [Scalar.confined_eq_error_iff.mpr ⟨known, rfl⟩, of_error_andThen]⟩

end Arithmetic

def after (perform : ω → σ → Outcome σ α β) (ops : List ω) (s : σ) : σ :=
  ops.foldl (fun s op => (perform op s).state) s

/-- What each operation of a run answered, and the state it left. -/
def transcript (perform : ω → σ → Outcome σ α β) : List ω → σ → List (Answer α β × σ)
  | [], _ => []
  | op :: ops, s =>
      ((perform op s).answer, (perform op s).state) :: transcript perform ops (perform op s).state

@[simp] theorem after_nil (perform : ω → σ → Outcome σ α β) (s : σ) :
    after perform [] s = s := rfl

@[simp] theorem after_cons (perform : ω → σ → Outcome σ α β) (op : ω) (ops : List ω) (s : σ) :
    after perform (op :: ops) s = after perform ops (perform op s).state := rfl

theorem after_append (perform : ω → σ → Outcome σ α β) (first last : List ω) (s : σ) :
    after perform (first ++ last) s = after perform last (after perform first s) :=
  List.foldl_append

/-- What every operation keeps holds at the end of a run if it holds at the start. -/
theorem after_induction {perform : ω → σ → Outcome σ α β} {P : σ → Prop}
    (step : ∀ op s, P s → P (perform op s).state) (ops : List ω) {s : σ} (start : P s) :
    P (after perform ops s) := by
  induction ops generalizing s with
  | nil => exact start
  | cons op ops ih => exact ih (step op s start)

namespace Observed

variable [Scalar α]

def after (perform : ω → σ → Outcome σ α β) (ops : List ω) (o : Observed σ α) : Observed σ α :=
  ops.foldl (fun o op => (o.run (perform op)).2) o

/-- What each operation of a run answered, and the subject it left; the chronicle is not shown. -/
def transcript (perform : ω → σ → Outcome σ α β) :
    List ω → Observed σ α → List (Answer α β × σ)
  | [], _ => []
  | op :: ops, o =>
      ((o.run (perform op)).1, (o.run (perform op)).2.subject) ::
        transcript perform ops (o.run (perform op)).2

theorem after_induction {perform : ω → σ → Outcome σ α β} {P : Observed σ α → Prop}
    (step : ∀ op o, P o → P (o.run (perform op)).2) (ops : List ω) {o : Observed σ α}
    (start : P o) : P (o.after perform ops) := by
  induction ops generalizing o with
  | nil => exact start
  | cons op ops ih => exact ih (step op o start)

end Observed

end Colony
