/-!
# Signed positions

A position in a list that is not negative counts from the start, and a negative one counts back from
the end, so `-1` is the last element. A position is kept in 64 bits with its sign; a number that
does not fit there is no position at all.
-/

namespace Crontab.SignedPosition

/-- Why a number names no element. -/
inductive Fault where
  /-- There is no element there. -/
  | outOfRange
  /-- The number does not fit into 64 bits. -/
  | tooWide
  deriving DecidableEq, Repr

/-- The message that reports a fault. -/
def Fault.message : Fault → String
  | .outOfRange => "tuple index out of range"
  | .tooWide => "cannot fit 'int' into an index-sized integer"

/-- The first number above those that fit into 64 bits with a sign. -/
def width : Int := 9223372036854775808

/-- A number fits into 64 bits with its sign. -/
def fits (i : Int) : Bool := -width ≤ i && i < width

/-- The element at a signed position, if there is one. -/
def nth? {α : Type} (xs : List α) (i : Int) : Option α :=
  if 0 ≤ i then xs[i.toNat]?
  else if 0 ≤ xs.length + i then xs[(xs.length + i).toNat]?
  else none

/-- The element at a signed position. -/
def nth {α : Type} (xs : List α) (i : Int) : Except Fault α :=
  if !fits i then .error .tooWide
  else
    match nth? xs i with
    | some a => .ok a
    | none => .error .outOfRange

/-- The elements before a signed position, all of them when it is past the end and none when it is
before the start. -/
def before {α : Type} (xs : List α) (i : Int) : List α :=
  if 0 ≤ i then xs.take i.toNat else xs.take (xs.length + i).toNat

end Crontab.SignedPosition
