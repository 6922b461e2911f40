/-!
# Positions

A place in a document as an editor writes it. Both numbers must lie between zero and `limit`, and
the line is checked first.
-/

namespace Crontab

/-- A place in a document. -/
structure Position where
  /-- The line. -/
  line : Int
  /-- The character on the line, in the units of the editor. -/
  character : Int
  deriving DecidableEq, Repr

namespace Position

/-- The largest line or character that an editor can be told. -/
def limit : Int := 2147483647

/-- Why two numbers are no position. -/
inductive Fault where
  /-- The line is out of range. -/
  | line (n : Int)
  /-- The character is out of range. -/
  | character (n : Int)
  deriving DecidableEq, Repr

/-- The message that reports a fault. -/
def Fault.message : Fault → String
  | .line n => s!"Position.line should be in range [0:{limit}], but was {n}."
  | .character n => s!"Position.character should be in range [0:{limit}], but was {n}."

/-- A number that a position may hold. -/
def inRange (n : Int) : Bool := 0 ≤ n && n ≤ limit

/-- The position at a line and a character. -/
def make (line character : Int) : Except Fault Position :=
  if !inRange line then .error (.line line)
  else if !inRange character then .error (.character character)
  else .ok ⟨line, character⟩

/-- A stretch of a document between two positions. -/
structure Range where
  /-- Where it starts. -/
  start : Position
  /-- Where it stops. -/
  stop : Position
  deriving DecidableEq, Repr

/-- The four numbers of a stretch, which may be out of range. -/
structure Bounds where
  /-- The line where it starts. -/
  startLine : Int
  /-- The character where it starts. -/
  startChar : Int
  /-- The line where it stops. -/
  endLine : Int
  /-- The character where it stops. -/
  endChar : Int
  deriving DecidableEq, Repr

/-- The stretch that four numbers give. The start is checked first. -/
def Bounds.range (b : Bounds) : Except Fault Range := do
  let start ← make b.startLine b.startChar
  let stop ← make b.endLine b.endChar
  return ⟨start, stop⟩

/-- The stretch of one line between two characters. -/
def onLine (line startChar endChar : Int) : Except Fault Range :=
  Bounds.range ⟨line, startChar, line, endChar⟩

end Position

end Crontab
