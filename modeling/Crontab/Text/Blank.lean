import Crontab.Text

/-!
# Blank characters

The characters that Unicode counts as white space. Text notations leave them aside around a value.
-/

namespace Crontab.Text

/-- The ranges of white space, both ends included. -/
def blankRanges : List (Nat × Nat) :=
  [(0x09, 0x0D), (0x20, 0x20), (0x85, 0x85), (0xA0, 0xA0), (0x1680, 0x1680), (0x2000, 0x200A),
    (0x2028, 0x2029), (0x202F, 0x202F), (0x205F, 0x205F), (0x3000, 0x3000)]

/-- A code point is white space. -/
def isBlank (c : CodePoint) : Bool := blankRanges.any fun (a, b) => a ≤ c.code && c.code ≤ b

/-- A code point is white space or one of the four separators among the control characters. -/
def isSeparator (c : CodePoint) : Bool := isBlank c || (0x1C ≤ c.code && c.code ≤ 0x1F)

end Crontab.Text
