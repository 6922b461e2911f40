import Crontab.Text

/-!
# Code pages

A code page gives a character to each byte, or to some of them. The bytes at its start stand for the
characters of the same number, so a page is told by the characters from there on.
-/

namespace Crontab.Text

/-- A code page. -/
structure CodePage where
  /-- Its names. The first is its proper name. -/
  names : List String
  /-- The first byte that does not stand for the character of the same number. -/
  first : Nat
  /-- The characters of that byte and the ones after it. A byte without a character is shown as the
  replacement character, or left out at the end. -/
  rest : String

namespace CodePage

/-- What stands in a page for a byte without a character. -/
def unused : Char := '\ufffd'

/-- The character of a byte. -/
def char? (page : CodePage) (byte : UInt8) : Option Char :=
  if byte.toNat < page.first then some (Char.ofNat byte.toNat)
  else (page.rest.toList[byte.toNat - page.first]?).filter (· ≠ unused)

/-- The text that some bytes spell. -/
def decode? (page : CodePage) (bytes : List UInt8) : Option Text :=
  bytes.mapM fun byte => (page.char? byte).map CodePoint.char

end CodePage

end Crontab.Text
