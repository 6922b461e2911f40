import Crontab.Text

/-!
# Runs of cased characters

Most characters that have an upper or a lower case move to it by a distance that they share with
their neighbours. A table of such runs says where each character goes.
-/

namespace Crontab.Text

/-- Characters that reach their other case by the same distance. -/
structure CaseRun where
  /-- The first of them. -/
  first : Nat
  /-- The last of them. -/
  last : Nat
  /-- The step from each of them to the next. -/
  step : Nat
  /-- The distance to the other case. -/
  distance : Int
  deriving DecidableEq, Repr

namespace CaseRun

/-- A character belongs to a run. -/
def contains (run : CaseRun) (code : Nat) : Bool :=
  run.first ≤ code && code ≤ run.last && (code - run.first) % run.step = 0

/-- Where a code point goes by a table of runs. One that is in none of them stays. -/
def move (runs : List CaseRun) (c : CodePoint) : CodePoint :=
  match runs.find? fun run => run.contains c.code with
  | some run => .ofCode (c.code + run.distance).toNat
  | none => c

end CaseRun

end Crontab.Text
