import Colony.Text.Blank
import Colony.Text.DecimalDigit

/-!
# Written numbers

`readInteger?` and `readNumeral?` read the two written forms of a number.
Blanks around the number are skipped, digits of every script count, and a
single underscore may stand between two digits.  Whole numbers have a digit
limit, numerals have a fraction and an exponent and three named values.
-/

namespace Colony

/-- What a written numeral denotes: a signed `digits * 10 ^ exponent`, an infinity or no number. -/
inductive Numeral where
  | decimal (negative : Bool) (digits : Nat) (exponent : Int)
  | infinite (negative : Bool)
  | undefined
  deriving DecidableEq, Repr

namespace Decimal

open Colony.Text

def isDigit (c : Char) : Bool := (digitValue? c).isSome

/-- Around a number the blanks are those of White_Space, without the information separators. -/
def isNumberBlank (c : Char) : Bool := isBlank c && !isSeparator c

/-- Splits off one leading sign; the answer says whether it was a minus. -/
def splitSign : List Char → Bool × List Char
  | '-' :: rest => (true, rest)
  | '+' :: rest => (false, rest)
  | rest => (false, rest)

/-- Removes underscores, each of which has to stand between two digits. -/
def dropUnderscores? (afterDigit : Bool) : List Char → Option (List Char)
  | [] => some []
  | c :: rest =>
      if c = '_' then
        if afterDigit && (rest.head?.map isDigit).getD false then
          dropUnderscores? false rest
        else none
      else (dropUnderscores? (isDigit c) rest).map (c :: ·)

def digitsValue (cs : List Char) : Nat :=
  cs.foldl (fun value c => 10 * value + (digitValue? c).getD 0) 0

def readDigits? (cs : List Char) : Option Nat :=
  if !cs.isEmpty && cs.all isDigit then some (digitsValue cs) else none

/-- Whole numbers of more digits are neither read, leading zeros counted, nor written. -/
def digitLimit : Nat := 4300

def signed (negative : Bool) (n : Nat) : Int := if negative then -n else n

/-- A whole number as text, unless it has more digits than the limit. -/
def writeInteger? (n : Int) : Option String :=
  if n.natAbs < Nat.pow 10 digitLimit then some (toString n) else none

theorem writeInteger?_of_lt {n : Int} {digits : Nat} (bound : n.natAbs < Nat.pow 10 digits)
    (short : digits ≤ digitLimit) : writeInteger? n = some (toString n) := by
  have larger : ∀ limit, digits ≤ limit → Nat.pow 10 digits ≤ Nat.pow 10 limit :=
    fun _ more => Nat.pow_le_pow_right (by decide) more
  exact if_pos (Nat.lt_of_lt_of_le bound (larger digitLimit short))

theorem writeInteger?_of_le {n : Nat} (long : Nat.pow 10 digitLimit ≤ n) : writeInteger? n = none :=
  if_neg (Nat.not_lt.mpr long)

def readInteger? (cs : List Char) : Option Int := do
  let (negative, body) := splitSign (trimChars isNumberBlank cs)
  let digits ← dropUnderscores? false body
  if digitLimit < digits.length then none
  else (readDigits? digits).map (signed negative)

/-- An exponent mark with an optional sign and digits, or nothing at all. -/
def readExponent? : List Char → Option Int
  | [] => some 0
  | mark :: rest =>
      if mark = 'e' ∨ mark = 'E' then
        let (negative, digits) := splitSign rest
        (readDigits? digits).map (signed negative)
      else none

/-- Digits with an optional point among or beside them, at least one digit in all. -/
def readDecimal? (negative : Bool) (cs : List Char) : Option Numeral := do
  let whole := cs.takeWhile isDigit
  let rest := cs.dropWhile isDigit
  let (fraction, tail) := match rest with
    | '.' :: rest => (rest.takeWhile isDigit, rest.dropWhile isDigit)
    | rest => ([], rest)
  let digits ← readDigits? (whole ++ fraction)
  let exponent ← readExponent? tail
  return .decimal negative digits (exponent - fraction.length)

def readNumeral? (cs : List Char) : Option Numeral :=
  let (negative, body) := splitSign (trimChars isNumberBlank cs)
  let word := String.ofList (body.map Char.toLower)
  if word = "inf" ∨ word = "infinity" then some (.infinite negative)
  else if word = "nan" then some .undefined
  else (dropUnderscores? false body).bind (readDecimal? negative)

end Decimal

end Colony
