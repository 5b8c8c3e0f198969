import Mathlib.Algebra.Ring.Nat
import Mathlib.Data.List.Chain
import Mathlib.Tactic.SplitIfs
import Colony.Value.Compact

/-!
# Escapes

Inside quotes a code point stands for itself, or an escape stands for it: a
backslash and a letter, or one or two codes of four hexadecimal digits.  Two
codes stand for one character, and they are those of a high and a low half.
So a quoted text can be told from its code points, whatever follows it, unless
it has a low half right after a high one: these two are written as the one
character is that they are a pair of.
-/

namespace Colony

namespace Text

theorem hexDigit_inj : ∀ m < 16, ∀ n < 16, hexDigit m = hexDigit n → m = n := by decide

theorem hexDigit_unmarked : ∀ n < 16, hexDigit n ≠ doubleQuote ∧ hexDigit n ≠ '\\' := by decide

theorem hexDigits_unmarked {width n : Nat} {c : Char} (member : c ∈ hexDigits width n) :
    c ≠ doubleQuote ∧ c ≠ '\\' := by
  induction width generalizing n with
  | zero => cases member
  | succ width ih =>
      rcases List.mem_append.mp member with front | last
      · exact ih front
      · rw [List.mem_singleton.mp last]
        exact hexDigit_unmarked _ (Nat.mod_lt _ (by decide))

theorem hexDigits_inj {width m n : Nat} (hm : m < 16 ^ width) (hn : n < 16 ^ width)
    (same : hexDigits width m = hexDigits width n) : m = n := by
  induction width generalizing m n with
  | zero => omega
  | succ width ih =>
      obtain ⟨front, last⟩ := List.append_inj' same rfl
      have high : m / 16 = n / 16 := ih (by omega) (by omega) front
      have low : m % 16 = n % 16 :=
        hexDigit_inj _ (by omega) _ (by omega) (List.singleton_inj.mp last)
      omega

end Text

namespace Value

open Text (doubleQuote hexDigits)

/-- The characters with an escape of one letter, and that letter. -/
def letters : List (Char × Char) :=
  [(doubleQuote, doubleQuote), ('\\', '\\'), ('\n', 'n'), ('\r', 'r'), ('\t', 't'),
    (Char.ofNat 0x0c, 'f'), (Char.ofNat 0x08, 'b')]

theorem letters_inj : ∀ p ∈ letters, ∀ q ∈ letters, p.2 = q.2 → p.1 = q.1 := by decide

theorem letters_ne_u : ∀ p ∈ letters, p.2 ≠ 'u' := by decide

def highCode (n : Nat) : Nat := 0xd800 + (n - 0x10000) / 0x400

def lowCode (n : Nat) : Nat := 0xdc00 + (n - 0x10000) % 0x400

/-- The ways in which a code point stands inside quotes. -/
inductive Escaped : Point → List Char → Prop
  | plain {c : Char} (unquoted : c ≠ doubleQuote) (unescaped : c ≠ '\\') : Escaped (.char c) [c]
  | letter {c x : Char} (known : (c, x) ∈ letters) : Escaped (.char c) ['\\', x]
  | code {p : Point} (small : p.code < 0x10000) : Escaped p ('\\' :: 'u' :: hexDigits 4 p.code)
  | codes {c : Char} (large : 0x10000 ≤ c.toNat) :
      Escaped (.char c) ('\\' :: 'u' :: (hexDigits 4 (highCode c.toNat) ++
        '\\' :: 'u' :: hexDigits 4 (lowCode c.toNat)))

theorem escaped_unicodeEscape (c : Char) : Escaped (.char c) (unicodeEscape c.toNat) := by
  unfold unicodeEscape
  split
  · rename_i small
    exact .code (p := .char c) small
  · rename_i large
    exact .codes (Nat.le_of_not_lt large)

theorem escaped_compactChar (c : Char) : Escaped (.char c) (compactChar c) := by
  unfold compactChar
  split_ifs with marked printed newline ret tab feed back
  · refine .letter ?_
    rcases marked with rfl | rfl <;> decide
  · obtain ⟨unquoted, unescaped⟩ := not_or.mp marked
    exact .plain unquoted unescaped
  · rw [newline]
    exact .letter (by decide)
  · rw [ret]
    exact .letter (by decide)
  · rw [tab]
    exact .letter (by decide)
  · rw [← Char.ofNat_toNat c, feed]
    exact .letter (by decide)
  · rw [← Char.ofNat_toNat c, back]
    exact .letter (by decide)
  · exact escaped_unicodeEscape c

theorem escaped_compactPoint (p : Point) : Escaped p (compactPoint p) := by
  cases p with
  | char c => exact escaped_compactChar c
  | half h =>
      have small : h.code < 0x10000 := Nat.lt_trans h.inRange.2 (by decide)
      have written : compactPoint (.half h) = '\\' :: 'u' :: hexDigits 4 h.code := by
        rw [compactPoint, unicodeEscape, if_pos small]
      rw [written]
      exact .code (p := .half h) small

/-- The two codes of a character are in the ranges of the two halves. -/
theorem codes_range {c : Char} (large : 0x10000 ≤ c.toNat) :
    (0xd800 ≤ highCode c.toNat ∧ highCode c.toNat < 0xdc00) ∧
      0xdc00 ≤ lowCode c.toNat ∧ lowCode c.toNat < 0xe000 := by
  have valid : c.toNat < 0xd800 ∨ 0xdfff < c.toNat ∧ c.toNat < 0x110000 := c.valid
  unfold highCode lowCode
  omega

theorem eq_of_codes {c d : Char} (hc : 0x10000 ≤ c.toNat) (hd : 0x10000 ≤ d.toNat)
    (high : highCode c.toNat = highCode d.toNat) (low : lowCode c.toNat = lowCode d.toNat) :
    c = d := by
  have same : c.toNat = d.toNat := by
    unfold highCode at high
    unfold lowCode at low
    omega
  exact Char.toNat_inj.mp same

theorem code_lt {c : Char} (large : 0x10000 ≤ c.toNat) :
    highCode c.toNat < 16 ^ 4 ∧ lowCode c.toNat < 16 ^ 4 := by
  have range := codes_range large
  omega

theorem hexDigits_append_inj {m n : Nat} {r s : List Char} (hm : m < 16 ^ 4) (hn : n < 16 ^ 4)
    (same : hexDigits 4 m ++ r = hexDigits 4 n ++ s) : m = n ∧ r = s := by
  have length : (hexDigits 4 m).length = (hexDigits 4 n).length := by
    rw [Text.length_hexDigits, Text.length_hexDigits]
  obtain ⟨digits, rest⟩ := List.append_inj same length
  exact ⟨Text.hexDigits_inj hm hn digits, rest⟩

/-- The first of two texts is what a high half leaves where the second follows a character. -/
def Cut (p : Point) (r s : List Char) : Prop :=
  p.isHigh = true ∧ ∃ low, 0xdc00 ≤ low ∧ low < 0xe000 ∧ r = '\\' :: 'u' :: (hexDigits 4 low ++ s)

namespace Escaped

variable {p q : Point} {t u r s : List Char}

theorem head_ne_quote (h : Escaped p t) (same : t ++ r = doubleQuote :: s) : False := by
  cases h with
  | plain unquoted => exact unquoted (List.cons.inj same).1
  | letter => cases (List.cons.inj same).1
  | code => cases (List.cons.inj same).1
  | codes => cases (List.cons.inj same).1

theorem cut_of_code {c : Char} (small : p.code < 0x10000) (large : 0x10000 ≤ c.toNat)
    (same : hexDigits 4 p.code ++ r =
      hexDigits 4 (highCode c.toNat) ++ '\\' :: 'u' :: (hexDigits 4 (lowCode c.toNat) ++ s)) :
    Cut p r s := by
  obtain ⟨number, rest⟩ := hexDigits_append_inj small (code_lt large).1 same
  obtain ⟨⟨above, below⟩, low, last⟩ := codes_range large
  refine ⟨?_, _, low, last, rest⟩
  rw [Point.isHigh, number]
  simp [above, below]

/-- What stands for one code point is not the beginning of what stands for another, except that
the first of two codes may stand for a high half. -/
theorem append_inj (hp : Escaped p t) (hq : Escaped q u) (same : t ++ r = u ++ s) :
    p = q ∧ r = s ∨ Cut p r s ∨ Cut q s r := by
  cases hp with
  | plain unquoted unescaped =>
      cases hq with
      | plain =>
          obtain ⟨first, rest⟩ := List.cons.inj same
          exact .inl ⟨congrArg _ first, rest⟩
      | letter | code | codes => exact absurd (List.cons.inj same).1 unescaped
  | letter known =>
      cases hq with
      | plain _ unescaped => exact absurd (List.cons.inj same).1.symm unescaped
      | letter known' =>
          obtain ⟨letter, rest⟩ := List.cons.inj (List.cons.inj same).2
          exact .inl ⟨congrArg _ (letters_inj _ known _ known' letter), rest⟩
      | code | codes => exact absurd (List.cons.inj (List.cons.inj same).2).1 (letters_ne_u _ known)
  | code small =>
      cases hq with
      | plain _ unescaped => exact absurd (List.cons.inj same).1.symm unescaped
      | letter known =>
          exact absurd (List.cons.inj (List.cons.inj same).2).1.symm (letters_ne_u _ known)
      | code small' =>
          obtain ⟨number, rest⟩ := hexDigits_append_inj small small'
            (List.cons.inj (List.cons.inj same).2).2
          exact .inl ⟨Point.code_injective number, rest⟩
      | codes large =>
          simp only [List.cons_append, List.append_assoc, List.cons.injEq, true_and] at same
          exact .inr (.inl (cut_of_code small large same))
  | codes large =>
      cases hq with
      | plain _ unescaped => exact absurd (List.cons.inj same).1.symm unescaped
      | letter known =>
          exact absurd (List.cons.inj (List.cons.inj same).2).1.symm (letters_ne_u _ known)
      | code small =>
          simp only [List.cons_append, List.append_assoc, List.cons.injEq, true_and] at same
          exact .inr (.inr (cut_of_code small large same.symm))
      | codes large' =>
          simp only [List.cons_append, List.append_assoc, List.cons.injEq, true_and] at same
          obtain ⟨high, second⟩ :=
            hexDigits_append_inj (code_lt large).1 (code_lt large').1 same
          simp only [List.cons.injEq, true_and] at second
          obtain ⟨low, rest⟩ := hexDigits_append_inj (code_lt large).2 (code_lt large').2 second
          exact .inl ⟨congrArg _ (eq_of_codes large large' high low), rest⟩

/-- Where a low code stands first, it stands for a low half. -/
theorem isLow {low : Nat} (h : Escaped p t) (above : 0xdc00 ≤ low) (below : low < 0xe000)
    (same : t ++ r = '\\' :: 'u' :: (hexDigits 4 low ++ s)) : p.isLow = true := by
  have bound : low < 16 ^ 4 := by omega
  cases h with
  | plain _ unescaped => exact absurd (List.cons.inj same).1 unescaped
  | letter known => exact absurd (List.cons.inj (List.cons.inj same).2).1 (letters_ne_u _ known)
  | code small =>
      simp only [List.cons_append, List.cons.injEq, true_and] at same
      obtain ⟨number, -⟩ := hexDigits_append_inj small bound same
      rw [Point.isLow, number]
      simp [above, below]
  | codes large =>
      simp only [List.cons_append, List.append_assoc, List.cons.injEq, true_and] at same
      obtain ⟨number, -⟩ := hexDigits_append_inj (code_lt large).1 bound same
      have range := codes_range large
      omega

end Escaped

/-! ## Quoted texts -/

/-- No low half stands right after a high one. -/
def Unpaired (ps : Points) : Prop := ps.IsChain fun p q => ¬ (p.isHigh = true ∧ q.isLow = true)

instance (ps : Points) : Decidable (Unpaired ps) := inferInstanceAs (Decidable (List.IsChain _ _))

theorem Unpaired.tail {p : Point} {ps : Points} (h : Unpaired (p :: ps)) : Unpaired ps :=
  List.IsChain.tail h

theorem Unpaired.ofString (s : String) : Unpaired (Points.ofString s) := by
  have unbroken : ∀ c : Char, (Point.char c).isHigh = false := by
    intro c
    have valid : c.toNat < 0xd800 ∨ 0xdfff < c.toNat ∧ c.toNat < 0x110000 := c.valid
    have outside : ¬ (0xd800 ≤ c.toNat ∧ c.toNat < 0xdc00) := by omega
    rw [Point.isHigh, ← Bool.decide_and]
    exact decide_eq_false outside
  have pairs : s.toList.Pairwise fun c d =>
      ¬ ((Point.char c).isHigh = true ∧ (Point.char d).isLow = true) :=
    List.pairwise_of_forall fun c _ both => by
      rw [unbroken c] at both
      cases both.1
  exact (List.pairwise_map.mpr pairs).isChain

theorem toList_compactText (ps : Points) : (compactText ps).toList =
    doubleQuote :: (ps.flatMap compactPoint ++ [doubleQuote]) := by
  simp [compactText]

/-- After a high half the rest of a text does not go on with a low code. -/
theorem Unpaired.not_cut {p : Point} {ps : Points} (h : Unpaired (p :: ps)) {r s : List Char} :
    ¬ Cut p (ps.flatMap compactPoint ++ doubleQuote :: r) s := by
  rintro ⟨high, low, above, below, same⟩
  cases ps with
  | nil => cases (List.cons.inj same).1
  | cons q ps =>
      rw [List.flatMap_cons, List.append_assoc] at same
      have second := (escaped_compactPoint q).isLow above below same
      exact (List.isChain_cons_cons.mp h).1 ⟨high, second⟩

theorem flatMap_append_inj {ps qs : Points} (hp : Unpaired ps) (hq : Unpaired qs)
    {r s : List Char} (same : ps.flatMap compactPoint ++ doubleQuote :: r =
      qs.flatMap compactPoint ++ doubleQuote :: s) : ps = qs ∧ r = s := by
  induction ps generalizing qs with
  | nil =>
      cases qs with
      | nil => exact ⟨rfl, (List.cons.inj same).2⟩
      | cons q qs =>
          rw [List.flatMap_cons, List.append_assoc] at same
          exact ((escaped_compactPoint q).head_ne_quote same.symm).elim
  | cons p ps ih =>
      rw [List.flatMap_cons, List.append_assoc] at same
      cases qs with
      | nil => exact ((escaped_compactPoint p).head_ne_quote same).elim
      | cons q qs =>
          rw [List.flatMap_cons, List.append_assoc] at same
          rcases (escaped_compactPoint p).append_inj (escaped_compactPoint q) same with
            ⟨first, rest⟩ | cut | cut
          · obtain ⟨others, last⟩ := ih hp.tail hq.tail rest
            exact ⟨by rw [first, others], last⟩
          · exact absurd cut hp.not_cut
          · exact absurd cut hq.not_cut

theorem compactText_append_inj {ps qs : Points} (hp : Unpaired ps) (hq : Unpaired qs)
    {r u : List Char} (same : (compactText ps).toList ++ r = (compactText qs).toList ++ u) :
    ps = qs ∧ r = u := by
  rw [toList_compactText, toList_compactText] at same
  simp only [List.cons_append, List.append_assoc, List.cons.injEq, true_and] at same
  exact flatMap_append_inj hp hq same

end Value

end Colony
