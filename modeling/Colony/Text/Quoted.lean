import Colony.Text.Hex
import Colony.Text.Point
import Colony.Text.Printable

/-!
# Quoted text

A text in quotes is written between single quotes, unless it holds a single
quote and no double quote.  The backslash, the quote in use, the line feed,
the carriage return and the tab are escaped by a backslash; any other
character that does not show, and half of a surrogate pair, is written by its
code point in two, four or eight hexadecimal digits.  Bytes are quoted the same
way, with a leading `b` and two digits for every byte outside printable ASCII.
-/

namespace Colony.Text

def singleQuote : Char := '\x27'
def doubleQuote : Char := '\x22'

def quoteFor (cs : List Char) : Char :=
  if cs.contains singleQuote && !cs.contains doubleQuote then doubleQuote else singleQuote

def shortEscape? (quote c : Char) : Option (List Char) :=
  if c = quote ∨ c = '\\' then some ['\\', c]
  else if c = '\n' then some ['\\', 'n']
  else if c = '\r' then some ['\\', 'r']
  else if c = '\t' then some ['\\', 't']
  else none

def escapeChar (quote c : Char) : List Char :=
  match shortEscape? quote c with
  | some escape => escape
  | none =>
      if isPrintable c then [c]
      else if c.toNat < 0x100 then '\\' :: 'x' :: hexDigits 2 c.toNat
      else if c.toNat < 0x10000 then '\\' :: 'u' :: hexDigits 4 c.toNat
      else '\\' :: 'U' :: hexDigits 8 c.toNat

def escapePoint (quote : Char) : Point → List Char
  | .char c => escapeChar quote c
  | .half h => '\\' :: 'u' :: hexDigits 4 h.code

def quoted (ps : Points) : String :=
  let quote := quoteFor (ps.filterMap Point.char?)
  String.ofList (quote :: ps.flatMap (escapePoint quote) ++ [quote])

def escapeByte (quote : Char) (b : UInt8) : List Char :=
  let c := Char.ofNat b.toNat
  match shortEscape? quote c with
  | some escape => escape
  | none =>
      if 0x20 ≤ b.toNat && b.toNat < 0x7f then [c] else '\\' :: 'x' :: hexDigits 2 b.toNat

def quotedBytes (bytes : List UInt8) : String :=
  let quote := quoteFor (bytes.map fun b => Char.ofNat b.toNat)
  String.ofList ('b' :: quote :: bytes.flatMap (escapeByte quote) ++ [quote])

end Colony.Text
