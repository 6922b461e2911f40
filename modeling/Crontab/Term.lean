import Crontab.Field
import Crontab.Value

/-!
# Terms

A term is the text of one field of an entry. Reading it against its field gives a value, or errors
that say where in the term it fails. The forms are tried in a fixed order and the first that fits
decides: every number, one number, a list, a range, a step.
-/

namespace Crontab.Term

/-- Why a term, or a part of it, is not a value of its field. -/
inductive Fault where
  /-- The one number of the term is out of bounds. -/
  | outOfBounds
  /-- A piece of a list is no numeral. -/
  | pieceUnreadable (piece : Text)
  /-- A number of a list is out of bounds. -/
  | pieceOutOfBounds
  /-- The first number of a range is out of bounds. -/
  | firstOutOfBounds
  /-- The last number of a range is out of bounds. -/
  | lastOutOfBounds
  /-- A step has more significant digits than can be read. -/
  | stepTooLarge
  /-- A step is zero. -/
  | stepZero
  /-- The term has none of the known forms. -/
  | unreadable (term : Text)
  deriving DecidableEq, Repr

/-- The message that reports a fault in a term of `field`. -/
def Fault.message (field : Field) : Fault → Text
  | .outOfBounds => .ofString s!"{field.name} term value must be {field.bounds}"
  | .pieceUnreadable piece => cited s!"bad {field.name} list value: " piece
  | .pieceOutOfBounds => .ofString s!"{field.name} term values must be {field.bounds}"
  | .firstOutOfBounds => .ofString s!"{field.name} term start range value must be {field.bounds}"
  | .lastOutOfBounds => .ofString s!"{field.name} term end range value must be {field.bounds}"
  | .stepTooLarge =>
    .ofString s!"{field.name} term step interval cannot exceed {Numeral.largest}"
  | .stepZero => .ofString s!"{field.name} term step interval cannot be 0"
  | .unreadable term => cited s!"bad {field.name} term: " term
where
  /-- A complaint that ends with the text it is about. -/
  cited (complaint : String) (text : Text) : Text :=
    Text.ofString s!"{complaint}'" ++ text ++ Text.ofString "'"

/-- A failure inside a term. Offsets count from the start of the term. -/
structure Error where
  /-- Where the failing part starts. -/
  start : Int
  /-- Where the failing part stops; the character there is not part of it. -/
  stop : Int
  /-- What is wrong with it. -/
  message : Text
  deriving DecidableEq, Repr

/-- What reading a term gives. -/
inductive Reading where
  /-- The term is well formed. -/
  | value (v : Value)
  /-- The term failed with these errors. -/
  | errors (es : List Error)
  deriving DecidableEq, Repr

namespace Reading

/-- The errors of a reading; a value has none. -/
def errorList : Reading → List Error
  | .value _ => []
  | .errors es => es

/-- The value of a reading that did not fail. -/
def value? : Reading → Option Value
  | .value v => some v
  | .errors _ => none

end Reading

/-- The error that reports `fault` between two offsets of a term of `field`. -/
def errorAt (field : Field) (start stop : Nat) (fault : Fault) : Error :=
  ⟨start, stop, fault.message field⟩

/-- The columns that locating a list piece allows for each number before it and its comma. The place
is exact when those numbers have one digit each. -/
def slotWidth : Nat := 2

/-- Reads the piece of a list at index `i`. -/
def readPiece (field : Field) (piece : Text) (i : Nat) : Except Error Nat :=
  let start := slotWidth * i
  let fail := errorAt field start (start + piece.length)
  if Numeral.isNumeral piece then
    match field.number? piece with
    | some n => .ok n
    | none => .error (fail .pieceOutOfBounds)
  else .error (fail (.pieceUnreadable piece))

/-- Reads a term that consists of one numeral. -/
def readSingle (field : Field) (term : Text) : Reading :=
  match field.number? term with
  | some n => .value (.exactly n)
  | none => .errors [errorAt field 0 term.length .outOfBounds]

/-- The number of a piece that was read. -/
def number? : Except Error Nat → Option Int
  | .ok n => some n
  | .error _ => none

/-- The error of a piece that failed. -/
def error? : Except Error Nat → Option Error
  | .ok _ => none
  | .error e => some e

/-- Reads a list of numbers. One bad piece makes the whole list fail, and each bad piece is
reported. -/
def readList (field : Field) (term : Text) : Reading :=
  let results := (Text.pieces ',' term).zipIdx.map fun (piece, i) => readPiece field piece i
  match results.filterMap error? with
  | [] => .value (.anyOf (results.filterMap number?))
  | errors => .errors errors

/-- Reads a range between two numerals. The first number may be the larger one. -/
def readRange (field : Field) (first last : Text) : Reading :=
  let middle := first.length
  let stop := middle + 1 + last.length
  let badFirst := errorAt field 0 middle .firstOutOfBounds
  let badLast := errorAt field (middle + 1) stop .lastOutOfBounds
  match field.number? first, field.number? last with
  | some a, some b => .value (.range a b)
  | none, some _ => .errors [badFirst]
  | some _, none => .errors [badLast]
  | none, none => .errors [badFirst, badLast]

/-- Reads a step from the numeral after the two characters that mark it. -/
def readStep (field : Field) (step : Text) : Reading :=
  let fail fault := Reading.errors [errorAt field 2 (2 + step.length) fault]
  match Numeral.bounded? step with
  | none => fail .stepTooLarge
  | some 0 => fail .stepZero
  | some n => .value (.every n)

/-- The two numerals of a range, when the term is one. -/
def range? (term : Text) : Option (Text × Text) :=
  match Text.pieces '-' term with
  | [first, last] =>
    if Numeral.isNumeral first && Numeral.isNumeral last then some (first, last) else none
  | _ => none

/-- The numeral of a step, when the term is one. -/
def step? : Text → Option Text
  | '*' :: '/' :: step => if Numeral.isNumeral step then some step else none
  | _ => none

/-- Reads a term against its field. -/
def read (field : Field) (term : Text) : Reading :=
  if term = [.char '*'] then .value .any
  else if Numeral.isNumeral term then readSingle field term
  else if .char ',' ∈ term then readList field term
  else if let some (first, last) := range? term then readRange field first last
  else if let some step := step? term then readStep field step
  else .errors [errorAt field 0 term.length (.unreadable term)]

end Crontab.Term
