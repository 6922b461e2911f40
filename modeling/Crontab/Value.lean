/-!
# Field values

What a well-formed term of an entry stands for, and its description in words.
-/

namespace Crontab

/-- What a term says about the numbers of its field. -/
inductive Value where
  /-- Every number. -/
  | any
  /-- One number. -/
  | exactly (n : Int)
  /-- The listed numbers, in the order written. -/
  | anyOf (ns : List Int)
  /-- The numbers from `first` to `last`, both included. -/
  | range (first last : Int)
  /-- Every `n`-th number. -/
  | every (n : Int)
  deriving DecidableEq, Repr

/-- A value in words. -/
def Value.describe : Value → String
  | .any => "any"
  | .exactly n => s!"at {n}"
  | .anyOf ns => "at any of " ++ " ".intercalate (ns.map toString)
  | .range first last => s!"from {first} to {last} (inclusive)"
  | .every n => s!"every {n}"

end Crontab
