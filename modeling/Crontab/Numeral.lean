import Crontab.Text

/-!
# Numerals

A numeral is a non-empty run of ASCII digits. Its exact value has no bound; a bounded reading gives
up on a numeral with more significant digits than `maxDigits`.
-/

namespace Crontab.Numeral

/-- A numeral is a non-empty run of ASCII digits. -/
def isNumeral (text : Text) : Bool := !text.isEmpty && text.all CodePoint.isDigit

/-- The number that a digit stands for. -/
def digit (c : CodePoint) : Nat := c.code - 0x30

/-- The exact decimal value of a run of digits; zero for the empty run. -/
def value (digits : Text) : Nat := digits.foldl (fun n c => 10 * n + digit c) 0

/-- The most significant digits that a bounded reading takes. -/
def maxDigits : Nat := 9

/-- The largest number of `maxDigits` digits. -/
def largest : Nat := 999999999

/-- The value of a run of digits, unless it has more than `maxDigits` digits after its leading
zeros. -/
def bounded? (digits : Text) : Option Nat :=
  let significant := digits.dropWhile (· = .char '0')
  if significant.length ≤ maxDigits then some (value significant) else none

/-- The value of a run of digits, or `cap` if that is less. The numbers on the way stay near `cap`
however long the run is. -/
def capped (cap : Nat) (digits : Text) : Nat :=
  digits.foldl (fun n c => min cap (10 * n + digit c)) 0

@[simp] theorem value_nil : value [] = 0 := rfl

/-- One more digit multiplies the value by ten and adds its own. -/
theorem value_concat (digits : Text) (c : CodePoint) :
    value (digits ++ [c]) = 10 * value digits + digit c := by
  simp [value]

/-- Reading on from a capped number gives what reading on from the number itself gives, capped. -/
theorem foldl_capped (cap n : Nat) (digits : Text) :
    digits.foldl (fun n c => min cap (10 * n + digit c)) (min cap n) =
      min cap (digits.foldl (fun n c => 10 * n + digit c) n) := by
  induction digits generalizing n with
  | nil => rfl
  | cons c digits ih =>
    have step : min cap (10 * min cap n + digit c) = min cap (10 * n + digit c) := by omega
    rw [List.foldl_cons, List.foldl_cons, step, ih]

/-- A capped value is the value, or the cap if that is less. -/
theorem capped_eq_min (cap : Nat) (digits : Text) : capped cap digits = min cap (value digits) := by
  simpa [capped, value] using foldl_capped cap 0 digits

end Crontab.Numeral
