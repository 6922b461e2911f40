import Crontab.Numeral

/-!
# Decimals

A number as it is written: digits, perhaps with a point among them, and perhaps an exponent. Such a
number is exact; whether a double can hold it is decided on its digits alone.
-/

namespace Crontab

/-- The power of ten after the mark of an exponent. -/
structure Exponent where
  /-- The power is negative. -/
  negative : Bool
  /-- Its digits. -/
  digits : Text
  deriving DecidableEq, Repr

/-- A number as it is written. -/
structure Decimal where
  /-- The number is negative. -/
  negative : Bool
  /-- The digits before the point. -/
  whole : Text
  /-- The digits after the point; none if there is no point. -/
  fraction : Text
  /-- The exponent. -/
  exponent : Option Exponent
  deriving DecidableEq, Repr

namespace Decimal

/-- The digits at the front of a text, if there are any, and what follows them. -/
def readDigits? (text : Text) : Option (Text × Text) :=
  let digits := text.takeWhile CodePoint.isDigit
  if digits.isEmpty then none else some (digits, text.drop digits.length)

/-- The digits before the point. A zero in front stands alone. -/
def readWhole? : Text → Option (Text × Text)
  | '0' :: rest => some (['0'], rest)
  | text => readDigits? text

/-- The digits after a point, and what follows them. A point without digits is not read. -/
def readFraction (text : Text) : Text × Text :=
  match text with
  | '.' :: rest => (readDigits? rest).getD ([], text)
  | _ => ([], text)

/-- The sign of an exponent, and what follows it. -/
def readSign : Text → Bool × Text
  | '-' :: rest => (true, rest)
  | '+' :: rest => (false, rest)
  | rest => (false, rest)

/-- The exponent at the front of a text, and what follows it. A mark without digits is not read. -/
def readExponent (text : Text) : Option Exponent × Text :=
  match text with
  | mark :: rest =>
    if mark = 'e' || mark = 'E' then
      match readDigits? (readSign rest).2 with
      | some (digits, rest') => (some ⟨(readSign rest).1, digits⟩, rest')
      | none => (none, text)
    else (none, text)
  | [] => (none, text)

/-- The longest number at the front of a text, without its sign, and what follows it. -/
def readUnsigned? (negative : Bool) (text : Text) : Option (Decimal × Text) := do
  let (whole, rest) ← readWhole? text
  let (fraction, rest) := readFraction rest
  let (exponent, rest) := readExponent rest
  return (⟨negative, whole, fraction, exponent⟩, rest)

/-- The longest number at the front of a text, and what follows it. -/
def read? : Text → Option (Decimal × Text)
  | '-' :: rest => readUnsigned? true rest
  | text => readUnsigned? false text

/-- A number has neither a point nor an exponent. -/
def isWhole (d : Decimal) : Bool := d.fraction.isEmpty && d.exponent.isNone

/-- The value of a number's digits before the point, with its sign. -/
def toInt (d : Decimal) : Int :=
  let n : Int := Numeral.value d.whole
  if d.negative then -n else n

/-- The least number that no double can hold: halfway between the greatest double and the next one
that there would be. -/
def doubleLimit : Nat := 18014398509481983 * Nat.pow 2 970

/-- How many digits `doubleLimit` has. -/
def limitDigits : Nat := 309

/-- The power of ten of a number, or one of the same sign that is as large as the number of digits
lets matter. -/
def power (d : Decimal) : Int :=
  match d.exponent with
  | none => 0
  | some e =>
    let n : Int := Numeral.capped (d.whole.length + d.fraction.length + limitDigits + 1) e.digits
    if e.negative then -n else n

/-- No double can hold a number, because it is too far from zero. The first digit that is not zero
decides by its place, and where that leaves it open, the first `limitDigits` digits decide. -/
def overflows (d : Decimal) : Bool :=
  let digits := d.whole ++ d.fraction
  let significant := digits.dropWhile (· = .char '0')
  let zeros := digits.length - significant.length
  let place : Int := d.whole.length - zeros + d.power
  let leading := (significant ++ List.replicate limitDigits (CodePoint.char '0')).take limitDigits
  !significant.isEmpty &&
    (limitDigits < place || limitDigits = place && doubleLimit ≤ Numeral.value leading)

/-- A number as it is written. -/
def text (d : Decimal) : Text :=
  let mark (b : Bool) (t : Text) : Text := if b then t else []
  mark d.negative ['-'] ++ d.whole ++ mark (!d.fraction.isEmpty) (.char '.' :: d.fraction) ++
    (d.exponent.map fun e => .char 'e' :: mark e.negative ['-'] ++ e.digits).getD []

end Decimal

end Crontab
