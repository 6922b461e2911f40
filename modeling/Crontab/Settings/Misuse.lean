import Crontab.Checked
import Crontab.Text.Reading

/-!
# Misuse

Why the arguments that a caller gives for settings cannot be used at all. It is told apart from what
is wrong with the value of a setting, which is checked later.
-/

namespace Crontab.Settings

/-- Why the arguments of a caller cannot be used. -/
inductive Misuse where
  /-- An argument is of a kind that it cannot have. -/
  | kind
  /-- An argument lacks an operation that is needed, such as one of texts. -/
  | operation
  /-- An argument is of a kind that it can have and is refused nevertheless. -/
  | refused
  /-- Arguments have the wrong values. -/
  | flawed (ps : List Problem)
  /-- A path starts at the home of nobody known. -/
  | home
  /-- A path is too long to be followed. -/
  | longPath
  /-- A file is looked for too far up. -/
  | farUp
  /-- The name of a charset has a NUL in it. -/
  | cutName
  /-- The name of a charset has a surrogate on its own in it. -/
  | unspelledName
  /-- There is no charset of a name. -/
  | charset
  /-- The environment file has bytes that spell nothing in its charset. -/
  | undecodable
  /-- The environment file as a whole spells no text in its charset. -/
  | illFormed
  /-- The environment file calls a set of characters from a place in which it cannot be. -/
  | misplacedSet
  /-- What should be a pair has another number of parts. -/
  | unpaired (parts : Nat)
  /-- There is no mark for flags, given as a text or else as a list. -/
  | unmarked (asText : Bool)
  /-- The marks for flags are a list. -/
  | listedMarks
  /-- The mark for flags cannot be looked for. -/
  | unsearchable
  /-- One flag is declared for two uses. -/
  | clash
  /-- A word of the command line is an object. -/
  | objectWord
  /-- The flags are wrong or ask for help, and nothing comes after them. -/
  | ended
  deriving DecidableEq, Repr

/-- A file that cannot be read in its charset. -/
def Misuse.ofReading : Text.ReadFault → Misuse
  | .bytes => .undecodable
  | .whole => .illFormed
  | .set => .misplacedSet

/-- What is said about a misuse, if anything is. -/
def Misuse.message? : Misuse → Option String
  | .home => some "Could not determine home directory."
  | .misplacedSet => some "internal codec error"
  | .farUp =>
    some "Stop argument for islice() must be None or an integer: 0 <= x <= sys.maxsize."
  | .cutName => some "embedded null character"
  | .unpaired n =>
    if n < 2 then some s!"not enough values to unpack (expected 2, got {n})"
    else some "too many values to unpack (expected 2)"
  | .unmarked asText =>
    some (if asText then "string index out of range" else "list index out of range")
  | .listedMarks => some "dest supplied twice for positional argument"
  | _ => none

end Crontab.Settings
