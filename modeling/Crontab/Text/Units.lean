import Crontab.Text

/-!
# Sixteen-bit units

Some notations give code points by numbers below 65536 and write every greater one as a pair of
surrogates. A first surrogate waits for the second one to come right after it; a surrogate without
its partner stays on its own.
-/

namespace Crontab.Text.Units

/-- A number is the first of a pair. -/
def isHigh (unit : Nat) : Bool := 0xD800 ≤ unit && unit ≤ 0xDBFF

/-- A number is the second of a pair. -/
def isLow (unit : Nat) : Bool := 0xDC00 ≤ unit && unit ≤ 0xDFFF

/-- The code point that a pair stands for. -/
def pair (high low : Nat) : CodePoint :=
  .ofCode (0x10000 + (high - 0xD800) * 0x400 + (low - 0xDC00))

/-- A text being put together. -/
structure Scan where
  /-- The code points read, the latest first. -/
  done : Text
  /-- A first surrogate that waits for its partner. -/
  high : Option Nat
  deriving DecidableEq, Repr

namespace Scan

/-- Nothing has been read. -/
def start : Scan := ⟨[], none⟩

/-- Gives up on the partner of a waiting surrogate. -/
def settled (scan : Scan) : Text :=
  match scan.high with
  | some high => .ofCode high :: scan.done
  | none => scan.done

/-- Reads a code point that is given as itself. -/
def point (scan : Scan) (c : CodePoint) : Scan := ⟨c :: scan.settled, none⟩

/-- Reads a unit. -/
def unit (scan : Scan) (n : Nat) : Scan :=
  match scan.high with
  | some high => if isLow n then ⟨pair high n :: scan.done, none⟩ else apart scan.settled
  | none => apart scan.done
where
  /-- Reads a unit that is not the second of a pair. -/
  apart (done : Text) : Scan := if isHigh n then ⟨done, some n⟩ else ⟨.ofCode n :: done, none⟩

/-- The text that was read. -/
def text (scan : Scan) : Text := scan.settled.reverse

end Scan

/-- The text that a list of units spells. -/
def toText (units : List Nat) : Text := (units.foldl Scan.unit .start).text

end Crontab.Text.Units
