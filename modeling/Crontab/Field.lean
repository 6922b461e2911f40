import Crontab.Numeral
import Crontab.SignedPosition

/-!
# Fields

The five time fields of a crontab entry, in the order in which they stand there, each with its name
and the numbers it admits.
-/

namespace Crontab

/-- A time field of an entry. -/
inductive Field where
  /-- Minute of the hour. -/
  | minute
  /-- Hour of the day. -/
  | hour
  /-- Day of the month, counted from one. -/
  | dayOfMonth
  /-- Month of the year, counted from one. -/
  | month
  /-- Day of the week, counted from zero. -/
  | dayOfWeek
  deriving DecidableEq, Repr

namespace Field

/-- The fields in entry order. -/
def all : List Field := [.minute, .hour, .dayOfMonth, .month, .dayOfWeek]

/-- The name by which messages call a field. -/
def name : Field → String
  | .minute => "minute"
  | .hour => "hour"
  | .dayOfMonth => "day of month"
  | .month => "month"
  | .dayOfWeek => "day of week"

/-- The least number of a field. -/
def least : Field → Nat
  | .minute | .hour | .dayOfWeek => 0
  | .dayOfMonth | .month => 1

/-- The greatest number of a field. -/
def greatest : Field → Nat
  | .minute => 59
  | .hour => 23
  | .dayOfMonth => 31
  | .month => 12
  | .dayOfWeek => 6

/-- The place of a field in an entry, counted from zero. -/
def position : Field → Nat
  | .minute => 0
  | .hour => 1
  | .dayOfMonth => 2
  | .month => 3
  | .dayOfWeek => 4

/-- A number belongs to a field when it lies within the field's inclusive bounds. -/
def contains (field : Field) (n : Int) : Bool := field.least ≤ n && n ≤ field.greatest

/-- The field at a signed position of the entry. -/
def nth (i : Int) : Except SignedPosition.Fault Field := SignedPosition.nth all i

/-- The field of a given name. -/
def ofName? (s : Text) : Option Field := all.find? fun field => .ofString field.name = s

/-- The bounds of a field in words. -/
def bounds (field : Field) : String := s!"between {field.least} and {field.greatest}"

/-- The value of a run of digits, when it is a number of the field. -/
def number? (field : Field) (digits : Text) : Option Nat :=
  (Numeral.bounded? digits).filter fun n => field.contains n

/-- Every field stands at its own position. -/
theorem nth_position (field : Field) : nth field.position = .ok field := by
  cases field <;> rfl

/-- A field is found by its name. -/
theorem ofName?_name (field : Field) : ofName? (.ofString field.name) = some field := by
  cases field <;> simp [ofName?, all, name]

end Field

end Crontab
