import Crontab.Json
import Crontab.Numeral.Signed

/-!
# Checked values

Values that come from outside are checked field by field. Checking goes on after a problem, so that
a failed check reports every problem, in the order of the fields.
-/

namespace Crontab

/-- What is wrong with a value from outside. -/
inductive Flaw where
  /-- It is not there. -/
  | missing
  /-- It is no text. -/
  | notText
  /-- It is nothing that could be an integer. -/
  | notInteger
  /-- It is a text that spells no integer. -/
  | unreadableInteger
  /-- It is a text that is too long to be read as an integer. -/
  | longInteger
  /-- It is nothing that could be a truth value. -/
  | notTruth
  /-- It is a number or a text that stands for no truth value. -/
  | unreadableTruth
  /-- It is none of the members of an enumeration. -/
  | notMember
  /-- It is none of the words allowed. -/
  | notAllowed
  /-- It is negative. -/
  | negative
  /-- It is not JSON. -/
  | notJson
  /-- It is no object. -/
  | notObject
  deriving DecidableEq, Repr

/-- The code by which answers name a flaw. -/
def Flaw.code : Flaw → String
  | .missing => "missing"
  | .notText => "string_type"
  | .notInteger => "int_type"
  | .unreadableInteger => "int_parsing"
  | .longInteger => "int_parsing_size"
  | .notTruth => "bool_type"
  | .unreadableTruth => "bool_parsing"
  | .notMember => "enum"
  | .notAllowed => "literal_error"
  | .negative => "greater_than_equal"
  | .notJson => "json_invalid"
  | .notObject => "model_attributes_type"

/-- A flaw and the place where it is. A report of it repeats the value that has the flaw, or for a
value that is not there the one that should have held it. -/
structure Problem where
  /-- What is wrong. -/
  flaw : Flaw
  /-- Where it is, the outermost name first. -/
  place : List String
  /-- What matters of the value for repeating it. -/
  extent : Json.Extent
  deriving DecidableEq, Repr

/-- The problem that a value has a flaw. -/
def Problem.of (flaw : Flaw) (place : List String) (v : Json) : Problem :=
  ⟨flaw, place, v.extent⟩

/-- The outcome of a check. -/
inductive Checked (α : Type) where
  /-- The value passed. -/
  | ok (a : α)
  /-- The value failed with these problems. -/
  | failed (ps : List Problem)
  deriving DecidableEq, Repr

namespace Checked

variable {α β : Type}

/-- Applies a checked function to a checked value; the problems of both are kept, in order. -/
def apply : Checked (α → β) → Checked α → Checked β
  | .ok f, .ok a => .ok (f a)
  | .ok _, .failed ps => .failed ps
  | .failed ps, .ok _ => .failed ps
  | .failed ps, .failed qs => .failed (ps ++ qs)

instance : Applicative Checked where
  pure := .ok
  seq f a := apply f (a ())

/-- Reads a value at a place. -/
def check (place : List String) (read : Json → Except Flaw α) (v : Json) : Checked α :=
  match read v with
  | .ok a => .ok a
  | .error flaw => .failed [.of flaw place v]

/-- Reads a value that `holder` must hold. -/
def required (place : List String) (holder : Json) (read : Json → Except Flaw α) :
    Option Json → Checked α
  | some v => check place read v
  | none => .failed [.of .missing place holder]

/-- Reads a value that may be left out. -/
def optional (place : List String) (default : α) (read : Json → Except Flaw α) :
    Option Json → Checked α
  | some v => check place read v
  | none => .ok default

end Checked

namespace Json

/-- Reads a text. -/
def asText : Json → Except Flaw Text
  | .string s => .ok s
  | _ => .error .notText

/-- Reads an integer. A text may spell one, and a truth value counts as zero or one. -/
def asInteger : Json → Except Flaw Int
  | .int n => .ok n
  | .bool b => .ok b.toInt
  | .string s =>
    match Numeral.Signed.ofText s with
    | .ok n => .ok n
    | .error .unreadable => .error .unreadableInteger
    | .error .tooLong => .error .longInteger
  | _ => .error .notInteger

/-- The words for truth values, in lower case. -/
def truthWords : List (String × Bool) :=
  [("0", false), ("off", false), ("f", false), ("false", false), ("n", false), ("no", false),
    ("1", true), ("on", true), ("t", true), ("true", true), ("y", true), ("yes", true)]

/-- Reads a truth value. Zero and one count as such, and so do some words in any case. Other numbers
are looked at as far as they have 64 bits. -/
def asTruth : Json → Except Flaw Bool
  | .bool b => .ok b
  | .int 0 => .ok false
  | .int 1 => .ok true
  | .int n =>
    .error (if -Int.pow 2 63 ≤ n && n < Int.pow 2 63 then .unreadableTruth else .notTruth)
  | .string s =>
    match truthWords.find? fun word => Text.ofString word.1 = s.asciiLower with
    | some word => .ok word.2
    | none => .error .unreadableTruth
  | _ => .error .notTruth

/-- Reads a value that may be null. -/
def orNull {α : Type} (read : Json → Except Flaw α) : Json → Except Flaw (Option α)
  | .null => .ok none
  | v => (read v).map some

end Json

end Crontab
