import Crontab.Numeral
import Crontab.Text.Blank

/-!
# Integers in settings and queries

An integer may be written with blanks around it, a plus sign, zeros in front, single underscores
between digits, and a fraction that is zero. All of this is cleared away first, and what is left has
to be an integer in its shortest form. The zeros in front may be mixed with underscores, and a minus
sign may also stand after them. An integer has at most `maxDigits` digits; only a text that shows
more than that right from its start is said to be too long.
-/

namespace Crontab.Numeral.Signed

/-- Why a text gives no integer. -/
inductive Fault where
  /-- It spells none. -/
  | unreadable
  /-- It starts with more digits than an integer may have. -/
  | tooLong
  deriving DecidableEq, Repr

/-- The most digits that an integer may have. -/
def maxDigits : Nat := 4300

/-- A code point may start what follows the zeros in front of a number. -/
def startsNumber (c : CodePoint) : Bool := c = '-' || c.isDigit && c ≠ '0'

/-- Passes over the rest of the zeros in front of a number, the last of which was `last`. A zero is
kept if nothing but a fraction follows it. -/
def afterZero (last : CodePoint) : Text → Option Text
  | [] => some [last]
  | c :: rest =>
    if c = '0' || c = '_' then afterZero c rest
    else if startsNumber c then some (c :: rest)
    else if c = '.' then some (last :: c :: rest)
    else none

/-- A number without the zeros in front of it. -/
def withoutZeros? : Text → Option Text
  | [] => none
  | c :: rest =>
    if c = '0' then afterZero c rest
    else if startsNumber c then some (c :: rest)
    else none

/-- A text without its plus sign and the zeros after its sign. -/
def unpadded? : Text → Option Text
  | '+' :: '-' :: _ => none
  | '+' :: rest => withoutZeros? rest
  | '-' :: rest => (withoutZeros? rest).map fun t => .char '-' :: t
  | rest => withoutZeros? rest

/-- A text without a fraction that is zero. -/
def withoutFraction (text : Text) : Text :=
  match Text.pieces '.' text with
  | [whole, fraction] =>
    if !fraction.isEmpty && fraction.all (· = .char '0') then whole else text
  | _ => text

/-- A text without its underscores, if they stand one by one and inside it. -/
def ungrouped (text : Text) : Text :=
  let groups := Text.pieces '_' text
  if groups.all fun group => !group.isEmpty then groups.flatten else text

/-- A text with all cleared away that is no part of an integer in its shortest form. -/
def cleared? (text : Text) : Option Text :=
  (unpadded? (Text.trim Text.isBlank text)).map fun t => ungrouped (withoutFraction t)

/-- A numeral in its shortest form has no zero in front, and it has few enough digits. -/
def isShortest (digits : Text) : Bool :=
  isNumeral digits && (digits.head? ≠ some '0' || digits.length = 1) && digits.length ≤ maxDigits

/-- The integer in its shortest form that a text is. -/
def shortest? : Text → Option Int
  | '-' :: digits => if isShortest digits then some (-(value digits : Int)) else none
  | digits => if isShortest digits then some (value digits : Int) else none

/-- A text has a run of too many digits right after its minus sign, if it has one, and no zero in
front of them. -/
def isTooLong (text : Text) : Bool :=
  let digits : Text := match text with
    | '-' :: rest => rest
    | _ => text
  digits.head? ≠ some (.char '0') && maxDigits < (digits.takeWhile CodePoint.isDigit).length

/-- The integer that a text spells. -/
def ofText (text : Text) : Except Fault Int :=
  if isTooLong text then .error .tooLong
  else
    match (cleared? text).bind shortest? with
    | some n => .ok n
    | none => .error .unreadable

end Crontab.Numeral.Signed
