import Mathlib.Data.List.Forall2
import Colony.Failure

/-!
# Answers in sequence

What it takes for several answers in a row to come to an answer.
-/

namespace Colony.Answer

variable {α β γ δ : Type}

theorem bind_eq_ok {a : Answer α β} {f : β → Answer α γ} {c : γ} :
    (a >>= f) = .ok c ↔ ∃ b, a = .ok b ∧ f b = .ok c := by
  cases a <;> simp [bind, Except.bind]

theorem map_eq_bind (a : Answer α β) (f : β → γ) : a.map f = a >>= fun b => .ok (f b) := by
  cases a <;> rfl

theorem map_eq_ok {a : Answer α β} {f : β → γ} {c : γ} :
    a.map f = .ok c ↔ ∃ b, a = .ok b ∧ f b = c := by
  cases a <;> simp [Except.map]

theorem toOption_map_eq_some {a : Answer α β} {f : β → γ} {c : γ} :
    a.toOption.map f = some c ↔ ∃ b, a = .ok b ∧ f b = c := by
  cases a <;> simp [Except.toOption]

theorem mapM_eq_ok {f : β → Answer α γ} {bs : List β} {cs : List γ} :
    bs.mapM f = .ok cs ↔ List.Forall₂ (fun b c => f b = .ok c) bs cs := by
  induction bs generalizing cs with
  | nil => simp [pure, Except.pure, eq_comm]
  | cons b bs ih =>
      rw [List.mapM_cons, bind_eq_ok, List.forall₂_cons_left_iff]
      refine exists_congr fun c => ?_
      rw [bind_eq_ok]
      constructor
      · rintro ⟨first, rest, answered, same⟩
        exact ⟨rest, first, ih.mp answered, (Except.ok.inj same).symm⟩
      · rintro ⟨rest, first, answered, same⟩
        exact ⟨first, rest, ih.mpr answered, congrArg Except.ok same.symm⟩

theorem exists_of_mem_mapM {f : β → Answer α γ} {bs : List β} {cs : List γ}
    (h : bs.mapM f = .ok cs) {c : γ} (member : c ∈ cs) : ∃ b ∈ bs, f b = .ok c := by
  have pairs := mapM_eq_ok.mp h
  clear h
  induction pairs with
  | nil => cases member
  | @cons b first bs rest answered _ ih =>
      rcases List.mem_cons.mp member with rfl | later
      · exact ⟨b, List.mem_cons_self, answered⟩
      · obtain ⟨other, known, given⟩ := ih later
        exact ⟨other, List.mem_cons_of_mem b known, given⟩

theorem exists_of_mapM {f : β → Answer α γ} {bs : List β} {cs : List γ}
    (h : bs.mapM f = .ok cs) {b : β} (member : b ∈ bs) : ∃ c ∈ cs, f b = .ok c := by
  have pairs := mapM_eq_ok.mp h
  clear h
  induction pairs with
  | nil => cases member
  | @cons first c bs cs answered _ ih =>
      rcases List.mem_cons.mp member with rfl | later
      · exact ⟨c, List.mem_cons_self, answered⟩
      · obtain ⟨other, known, given⟩ := ih later
        exact ⟨other, List.mem_cons_of_mem c known, given⟩

theorem exists_mapM {f : β → Answer α γ} {bs : List β} (all : ∀ b ∈ bs, ∃ c, f b = .ok c) :
    ∃ cs, bs.mapM f = .ok cs := by
  induction bs with
  | nil => exact ⟨[], rfl⟩
  | cons b bs ih =>
      obtain ⟨c, answered⟩ := all b List.mem_cons_self
      obtain ⟨cs, rest⟩ := ih fun other member => all other (List.mem_cons_of_mem b member)
      refine ⟨c :: cs, ?_⟩
      rw [List.mapM_cons, answered, rest]
      rfl

/-- Several answers in a row fail if and only if one of them does. -/
theorem exists_error_mapM_iff {f : β → Answer α γ} {bs : List β} :
    (∃ failure, bs.mapM f = .error failure) ↔ ∃ b ∈ bs, ∃ failure, f b = .error failure := by
  induction bs with
  | nil => simp [pure, Except.pure]
  | cons b bs ih =>
      rw [List.mapM_cons, List.exists_mem_cons_iff, ← ih]
      cases f b with
      | error failure => simp [bind, Except.bind]
      | ok c => cases bs.mapM f <;> simp [bind, Except.bind, pure, Except.pure]

theorem mapM_map (f : β → Answer α γ) (g : γ → δ) (bs : List β) :
    (bs.mapM fun b => (f b).map g) = (bs.mapM f).map (List.map g) := by
  induction bs with
  | nil => rfl
  | cons b bs ih =>
      rw [List.mapM_cons, List.mapM_cons, ih]
      cases f b with
      | error failure => rfl
      | ok c => cases bs.mapM f <;> rfl

end Colony.Answer
