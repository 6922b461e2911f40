import Crontab.Text

/-!
# Hexadecimal

Digits to base sixteen. Both cases are read; which one is written is for the notation to say.
-/

namespace Crontab.Text.Hex

/-- The value of the hexadecimal digit that a number stands for. -/
def digit? (n : Nat) : Option Nat :=
  if 0x30 ≤ n && n ≤ 0x39 then some (n - 0x30)
  else if 0x61 ≤ n && n ≤ 0x66 then some (n - 0x61 + 10)
  else if 0x41 ≤ n && n ≤ 0x46 then some (n - 0x41 + 10)
  else none

/-- The digits of a number in lower case, with zeros in front up to a width. -/
def padded (width n : Nat) : Text :=
  let digits := Nat.toDigits 16 n
  (List.replicate (width - digits.length) '0' ++ digits).map CodePoint.char

end Crontab.Text.Hex
