import Crontab.Measure
import Crontab.Position

/-!
# The framework of the language server

The language server is built on a framework, which speaks with the editor. What is decided there and
not by the server is gathered here: the encoding that is agreed on when a session begins, and what a
change to a document has to be. Positions that cannot be told have a module of their own.
-/

namespace Crontab.Editor

/-- The encoding in use until another is agreed on. -/
def defaultEncoding : Encoding := .utf16

/-- The first encoding on offer that is known, or else the default. -/
def choose (encodings : List Text) : Encoding :=
  (encodings.findSome? Encoding.ofName?).getD defaultEncoding

/-- A change to a document. It brings a text; the stretch that it may name has to be one, but does
not matter otherwise. -/
structure Change where
  /-- The text. -/
  text : Text
  /-- The stretch. -/
  bounds : Option Position.Bounds
  deriving DecidableEq, Repr

/-- The text of a change, when its stretch is one. -/
def Change.checked (change : Change) : Except Position.Fault Text :=
  match change.bounds with
  | some bounds => bounds.range.map fun _ => change.text
  | none => .ok change.text

end Crontab.Editor
