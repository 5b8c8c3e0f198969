import Colony.Text.Ranges

/-!
# Blanks and trimming

A blank is a character of the Unicode property White_Space or one of the four
information separators U+001C to U+001F.  `trim` takes blanks from both ends
of a text and leaves those inside alone.
-/

namespace Colony.Text

def blankRanges : List (Nat × Nat) :=
  [(0x09, 0x0d), (0x1c, 0x20), (0x85, 0x85), (0xa0, 0xa0), (0x1680, 0x1680),
   (0x2000, 0x200a), (0x2028, 0x2029), (0x202f, 0x202f), (0x205f, 0x205f),
   (0x3000, 0x3000)]

def isBlank (c : Char) : Bool := inRanges blankRanges c

/-- The information separators count as blanks around a word, not around a number. -/
def isSeparator (c : Char) : Bool := inRanges [(0x1c, 0x1f)] c

/-- Drops the leading and the trailing run of characters of one class. -/
def trimChars (drop : Char → Bool) (cs : List Char) : List Char :=
  ((cs.dropWhile drop).reverse.dropWhile drop).reverse

def trim (s : String) : String := String.ofList (trimChars isBlank s.toList)

end Colony.Text
