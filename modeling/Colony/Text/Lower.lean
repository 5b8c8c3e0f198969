/-!
# Lower case for comparison with plain words

`lower` is used only to compare a text with words made of the letters a to z.
Outside the basic Latin alphabet just one character has a single plain letter
as its lower case, the Kelvin sign U+212A, so mapping it and the capitals A to
Z decides every such comparison as the full Unicode mapping does.
-/

namespace Colony.Text

def lowerChar (c : Char) : Char := if c.toNat = 0x212a then 'k' else c.toLower

def lower (s : String) : String := String.ofList (s.toList.map lowerChar)

end Colony.Text
