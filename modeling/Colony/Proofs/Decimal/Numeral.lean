import Mathlib.Data.List.TakeWhile
import Colony.Decimal.Numeral
import Colony.Proofs.Text.Listed

/-!
# Whole numbers read back

A whole number is written with the plain digits, after a minus if it is
negative.  These are digits to the reader too, with the values they were
written for, and nothing else in the text is a blank, a sign or an underscore.
So the reader gives the number back, unless it has too many digits.
-/

namespace Colony

/-! ## Trimming -/

theorem Text.trimChars_of_free {drop : Char → Bool} {cs : List Char}
    (free : ∀ c ∈ cs, drop c = false) : trimChars drop cs = cs := by
  have kept : ∀ {ds : List Char}, (∀ c ∈ ds, drop c = false) → ds.dropWhile drop = ds := by
    intro ds free
    refine List.dropWhile_eq_self_iff.mpr fun nonempty => ?_
    simp [free _ (List.getElem_mem nonempty)]
  rw [trimChars, kept free, kept fun c member => free c (List.mem_reverse.mp member),
    List.reverse_reverse]

namespace Decimal

open Text (digitValue?)

/-! ## Plain digits -/

theorem exists_digitChar {c : Char} (digit : c.isDigit = true) : ∃ d < 10, c = Nat.digitChar d := by
  have bounds : 48 ≤ c.toNat ∧ c.toNat ≤ 57 := by
    simpa [Char.isDigit, UInt32.le_iff_toNat_le] using digit
  refine ⟨c.toNat - 48, by omega, Char.toNat_inj.mp ?_⟩
  rw [Nat.toNat_digitChar_of_lt_ten (by omega)]
  omega

theorem digitValue?_of_isDigit {c : Char} (digit : c.isDigit = true) :
    digitValue? c = some (c.toNat - '0'.toNat) := by
  obtain ⟨d, small, rfl⟩ := exists_digitChar digit
  revert d
  decide

theorem not_isBlank_of_isDigit {c : Char} (digit : c.isDigit = true) : Text.isBlank c = false := by
  obtain ⟨d, small, rfl⟩ := exists_digitChar digit
  revert d
  decide

theorem isDigit_of_mem_toDigits {n : Nat} {c : Char} (member : c ∈ Nat.toDigits 10 n) :
    c.isDigit = true :=
  Nat.isDigit_of_mem_toDigits (by decide) (by decide) member

/-! ## Reading digits -/

theorem dropUnderscores?_of_free {cs : List Char} (free : '_' ∉ cs) (afterDigit : Bool) :
    dropUnderscores? afterDigit cs = some cs := by
  induction cs generalizing afterDigit with
  | nil => rfl
  | cons c cs ih =>
      obtain ⟨other, free⟩ := not_or.mp (mt List.mem_cons.mpr free)
      simp [dropUnderscores?, Ne.symm other, ih free]

theorem digitsValue_toDigits (n : Nat) : digitsValue (Nat.toDigits 10 n) = n := by
  have same : digitsValue (Nat.toDigits 10 n) = Nat.ofDigitChars 10 (Nat.toDigits 10 n) 0 := by
    refine List.foldl_ext _ _ 0 fun value c member => ?_
    rw [digitValue?_of_isDigit (isDigit_of_mem_toDigits member), Option.getD_some]
  rw [same, Nat.ofDigitChars_toDigits (by decide) (by decide)]

theorem readDigits?_toDigits (n : Nat) : readDigits? (Nat.toDigits 10 n) = some n := by
  have digits : (Nat.toDigits 10 n).all isDigit = true := by
    refine List.all_eq_true.mpr fun c member => ?_
    rw [isDigit, digitValue?_of_isDigit (isDigit_of_mem_toDigits member), Option.isSome_some]
  simp [readDigits?, digits, Nat.toDigits_ne_nil, digitsValue_toDigits]

/-! ## Reading a whole number -/

theorem toList_repr (n : Int) :
    n.repr.toList = (if n < 0 then ['-'] else []) ++ Nat.toDigits 10 n.natAbs := by
  rw [Int.repr_eq_if]
  by_cases negative : n < 0
  · have magnitude : (-n).toNat = n.natAbs := by omega
    rw [if_neg (by omega), if_pos negative, String.toList_append, Nat.toList_repr, magnitude]
    rfl
  · have magnitude : n.toNat = n.natAbs := by omega
    rw [if_pos (by omega), if_neg negative, Nat.toList_repr, magnitude, List.nil_append]

theorem splitSign_of_isDigit {c : Char} (digit : c.isDigit = true) (cs : List Char) :
    splitSign (c :: cs) = (false, c :: cs) := by
  unfold splitSign
  split
  · rename_i minus
    obtain ⟨rfl, -⟩ := List.cons.inj minus
    cases digit
  · rename_i plus
    obtain ⟨rfl, -⟩ := List.cons.inj plus
    cases digit
  · rfl

theorem splitSign_repr (n : Int) :
    splitSign n.repr.toList = (decide (n < 0), Nat.toDigits 10 n.natAbs) := by
  rw [toList_repr]
  by_cases negative : n < 0
  · simp [negative, splitSign]
  · rw [if_neg negative, List.nil_append, decide_eq_false negative]
    cases digits : Nat.toDigits 10 n.natAbs with
    | nil => exact absurd digits Nat.toDigits_ne_nil
    | cons c cs =>
        exact splitSign_of_isDigit (isDigit_of_mem_toDigits (digits ▸ List.mem_cons_self)) cs

theorem not_isBlank_of_mem_repr {n : Int} {c : Char} (member : c ∈ n.repr.toList) :
    Text.isBlank c = false := by
  have numeral := Text.isNumeral_of_mem_repr member
  rw [Text.isNumeral, Bool.or_eq_true, beq_iff_eq] at numeral
  rcases numeral with digit | rfl
  · exact not_isBlank_of_isDigit digit
  · decide

/-- The digit limit is all that stands between a whole number and its text. -/
theorem readInteger?_repr {n : Int} (few : (Nat.toDigits 10 n.natAbs).length ≤ digitLimit) :
    readInteger? n.repr.toList = some n := by
  have unspaced : Text.trimChars isNumberBlank n.repr.toList = n.repr.toList :=
    Text.trimChars_of_free fun c member => by
      rw [isNumberBlank, not_isBlank_of_mem_repr member, Bool.false_and]
  have plain : '_' ∉ Nat.toDigits 10 n.natAbs := fun member =>
    absurd (isDigit_of_mem_toDigits member) (by decide)
  have sign : signed (decide (n < 0)) n.natAbs = n := by
    simp only [signed, decide_eq_true_eq]
    omega
  simp [readInteger?, unspaced, splitSign_repr, dropUnderscores?_of_free plain,
    Nat.not_lt.mpr few, readDigits?_toDigits, sign]

theorem writeInteger?_repr {n : Int} (few : (Nat.toDigits 10 n.natAbs).length ≤ digitLimit) :
    writeInteger? n = some n.repr := by
  have short : n.natAbs < 10 ^ digitLimit :=
    (Nat.length_toDigits_le_iff (by decide) (by decide)).mp few
  rw [writeInteger?, Nat.pow_eq, if_pos short, Int.toString_eq_repr]

end Decimal

end Colony
