import Colony.Proofs.Answer
import Colony.Proofs.Chronicle.Hearing
import Colony.Proofs.Operation

/-!
# Refusals

The colony itself refuses an operation in four ways: its NPC is not
registered, a role it needs is none, the Plague Heart is asleep, or the party
is too small.  An operation asks for at most one thing, is refused just if
that is missing, and a refusal leaves no trace, neither in the engine nor in
its chronicle.
-/

namespace Colony

variable {σ τ α β γ : Type}

inductive Failure.Refuses : Failure α → Prop
  | npcNotFound (id : String) : Refuses (.npcNotFound id)
  | unknownRole (given : Value α) : Refuses (.unknownRole given)
  | heartInactive : Refuses .heartInactive
  | tooFewParticipants (required : Value α) (provided : Nat) :
      Refuses (.tooFewParticipants required provided)

def Refused (a : Answer α β) : Prop := ∃ f, f.Refuses ∧ a = .error f

theorem Failure.not_refuses_wrongKind : ¬ (wrongKind : Failure α).Refuses := nofun

theorem Failure.not_refuses_badValue : ¬ (badValue : Failure α).Refuses := nofun

theorem Failure.not_refuses_unencodable : ¬ (unencodable : Failure α).Refuses := nofun

theorem Failure.not_refuses_overflow : ¬ (overflow : Failure α).Refuses := nofun

theorem not_refused_ok (b : β) : ¬ Refused (.ok b : Answer α β) := by
  rintro ⟨f, -, failed⟩
  cases failed

theorem not_refused_error {f : Failure α} (h : ¬ f.Refuses) :
    ¬ Refused (.error f : Answer α β) := by
  rintro ⟨g, refuses, failed⟩
  cases failed
  exact h refuses

theorem not_refused_bind {a : Answer α β} {next : β → Answer α γ} (first : ¬ Refused a)
    (rest : ∀ b, a = .ok b → ¬ Refused (next b)) : ¬ Refused (a >>= next) := by
  cases a with
  | error f =>
      rintro ⟨g, refuses, failed⟩
      cases failed
      exact first ⟨f, refuses, rfl⟩
  | ok b => exact rest b rfl

theorem not_refused_map {a : Answer α β} (f : β → γ) (h : ¬ Refused a) : ¬ Refused (a.map f) := by
  cases a with
  | error g =>
      rintro ⟨other, refuses, failed⟩
      cases failed
      exact h ⟨g, refuses, rfl⟩
  | ok b => exact not_refused_ok (f b)

theorem not_refused_mapM {f : β → Answer α γ} {bs : List β} (h : ∀ b ∈ bs, ¬ Refused (f b)) :
    ¬ Refused (bs.mapM f) := by
  induction bs with
  | nil => exact not_refused_ok []
  | cons b bs ih =>
      obtain ⟨first, rest⟩ := List.forall_mem_cons.mp h
      rw [List.mapM_cons]
      exact not_refused_bind first fun _ _ => not_refused_bind (ih rest) fun _ _ => not_refused_ok _

theorem not_refused_elim (b : Option β) {f : Failure α} (h : ¬ f.Refuses) :
    ¬ Refused (b.elim (.error f) .ok : Answer α β) := by
  cases b with
  | none => exact not_refused_error h
  | some b => exact not_refused_ok b

/-! ## What an operation asks for -/

inductive Need (α : Type) where
  | nothing
  | npc (id : String) (known : Bool)
  | role (given : Value α)
  | heart (awake : Bool)
  | party (awake : Bool) (required : Value α) (size : Nat)

def Need.refusal? [Scalar α] : Need α → Option (Failure α)
  | .nothing => none
  | .npc id known => if known then none else some (.npcNotFound id)
  | .role given => if (Role.ofValue? given).isSome then none else some (.unknownRole given)
  | .heart awake => if awake then none else some .heartInactive
  | .party awake required size =>
      if awake then
        match required.exceeds size with
        | .ok true => some (.tooFewParticipants required size)
        | _ => none
      else some .heartInactive

/-- An answer that is the refusal given, or none at all. -/
def Answers (refusal : Option (Failure α)) (a : Answer α β) : Prop :=
  match refusal with
  | some f => a = .error f
  | none => ¬ Refused a

/-- An outcome that is the refusal given, without a trace, or none at all. -/
def Outcome.Heeds (refusal : Option (Failure α)) (s : σ) (o : Outcome σ α β) : Prop :=
  match refusal with
  | some f => o = .fail f s
  | none => ¬ Refused o.answer

section Answers

variable {refusal : Option (Failure α)} {a : Answer α β}

theorem Answers.bind (h : Answers refusal a) {next : β → Answer α γ}
    (rest : ∀ b, ¬ Refused (next b)) : Answers refusal (a >>= next) := by
  cases refusal with
  | none => exact not_refused_bind h fun b _ => rest b
  | some f => exact congrArg (· >>= next) h

theorem Answers.map (h : Answers refusal a) (f : β → γ) : Answers refusal (a.map f) := by
  cases refusal with
  | none => exact not_refused_map f h
  | some failure => exact congrArg (Except.map f) h

theorem answers_role [Scalar α] (given : Value α) :
    Answers (Need.role given).refusal? (Role.ofValue given) := by
  cases read : Role.ofValue? given with
  | none => simp [Need.refusal?, read, Answers, Role.ofValue]
  | some role =>
      have known : Role.ofValue given = .ok role := Role.ofValue_eq_ok_iff.mpr read
      simpa [Need.refusal?, read, Answers, known] using not_refused_ok role

end Answers

namespace Outcome

variable {refusal : Option (Failure α)} {s : σ} {o : Outcome σ α β}

theorem heeds_of {a : Answer α β} (h : Answers refusal a) (s : σ) :
    (Outcome.of a s).Heeds refusal s := by
  cases refusal with
  | none => exact h
  | some f => exact congrArg (Outcome.of · s) h

theorem heeds_ofAnswer {a : Answer α (β × σ)} (h : Answers refusal a) :
    (Outcome.ofAnswer s a).Heeds refusal s := by
  cases refusal with
  | none =>
      cases a with
      | error f => exact h ∘ fun ⟨g, refuses, failed⟩ => ⟨g, refuses, by cases failed; rfl⟩
      | ok pair => exact not_refused_ok pair.1
  | some f => exact congrArg (Outcome.ofAnswer s) h

theorem not_refused_ofAnswer {a : Answer α (β × σ)} (h : ¬ Refused a) :
    ¬ Refused (Outcome.ofAnswer s a).answer := by
  have heeds : (Outcome.ofAnswer s a).Heeds none s := heeds_ofAnswer h
  exact heeds

theorem Heeds.andThen (h : o.Heeds refusal s) {next : β → σ → Outcome σ α γ}
    (rest : ∀ b, o.answer = .ok b → ¬ Refused (next b o.state).answer) :
    (o.andThen next).Heeds refusal s := by
  cases refusal with
  | none =>
      obtain ⟨answer, notes, state⟩ := o
      cases answer with
      | error f => exact not_refused_error fun refuses => h ⟨f, refuses, rfl⟩
      | ok b => exact rest b rfl
  | some f =>
      have same : o = .fail f s := h
      rw [same]
      rfl

theorem Heeds.map (h : o.Heeds refusal s) (f : β → γ) : (o.map f).Heeds refusal s := by
  cases refusal with
  | none => exact not_refused_map f h
  | some failure =>
      have same : o = .fail failure s := h
      rw [same]
      rfl

theorem Heeds.within (h : o.Heeds refusal s) (place : σ → τ) :
    (o.within place).Heeds refusal (place s) := by
  cases refusal with
  | none => exact h
  | some f =>
      have same : o = .fail f s := h
      rw [same]
      rfl

/-- An outcome that heeds no refusal is a start for another that does not either. -/
theorem not_refused_andThen (first : ¬ Refused o.answer) {next : β → σ → Outcome σ α γ}
    (rest : ∀ b, o.answer = .ok b → ¬ Refused (next b o.state).answer) :
    ¬ Refused (o.andThen next).answer := by
  have heeds : o.Heeds none o.state := first
  exact heeds.andThen rest

end Outcome

/-! ## Runs with a chronicle -/

variable [Scalar α]

theorem Value.not_refused_toInt (v : Value α) : ¬ Refused v.toInt := by
  cases v with
  | bool b => exact not_refused_ok _
  | int n => exact not_refused_ok n
  | num x =>
      rw [Value.toInt]
      cases Scalar.exact x with
      | finite q => exact not_refused_ok _
      | infinite negative => exact not_refused_error Failure.not_refuses_overflow
      | undefined => exact not_refused_error Failure.not_refuses_badValue
  | text s => exact not_refused_elim _ Failure.not_refuses_badValue
  | torn t => exact not_refused_error Failure.not_refuses_badValue
  | bytes bs => exact not_refused_elim _ Failure.not_refuses_badValue
  | null => exact not_refused_error Failure.not_refuses_wrongKind
  | list items => exact not_refused_error Failure.not_refuses_wrongKind
  | tuple items => exact not_refused_error Failure.not_refuses_wrongKind
  | dict entries => exact not_refused_error Failure.not_refuses_wrongKind

end Colony
