import Crontab.Text.CodePage

/-!
# Planes of characters

Charsets with two bytes to a character lay their characters out in rows of cells. The standards of
several countries have a plane of 94 rows with 94 cells each, and charsets differ in the bytes by
which they name a row and a cell. Rows and cells are counted from zero here.
-/

namespace Crontab.Text

/-- A plane of characters. -/
structure Plane where
  /-- Its rows. A cell without a character is shown as in a code page, or left out at the end. -/
  rows : List String

/-- The character in a cell. -/
def Plane.char? (plane : Plane) (row cell : Nat) : Option Char :=
  (plane.rows[row]?).bind fun cells => (cells.toList[cell]?).filter (· ≠ CodePage.unused)

/-- The first byte of those that name rows and cells in the upper half of a code table. -/
def upperFirst : Nat := 0xA1

/-- The character in a cell that is named by two bytes of the upper half. -/
def Plane.upper? (plane : Plane) (a b : Nat) : Option Char :=
  if a < upperFirst || b < upperFirst then none else plane.char? (a - upperFirst) (b - upperFirst)

/-- Characters that stand one after the other from a code of two bytes on. -/
structure Stretch where
  /-- The first code. -/
  first : Nat
  /-- The characters. -/
  chars : String

/-- The character of a code among stretches. -/
def Stretch.char? (stretches : List Stretch) (code : Nat) : Option Char :=
  stretches.findSome? fun s => if code < s.first then none else s.chars.toList[code - s.first]?

end Crontab.Text
