import Crontab.Token

/-!
# Diagnostics

A diagnostic is a problem placed in a document. The diagnostics of a document are always the
complete list: one for each error of each term, in token order.
-/

namespace Crontab

/-- How grave a problem is. -/
inductive Severity where
  /-- The document is wrong. -/
  | error
  /-- The document is doubtful. -/
  | warning
  /-- Worth knowing. -/
  | information
  /-- A suggestion. -/
  | hint
  deriving DecidableEq, Repr

namespace Severity

/-- All severities, gravest first. -/
def all : List Severity := [.error, .warning, .information, .hint]

/-- The name of a severity. -/
def name : Severity → String
  | .error => "error"
  | .warning => "warning"
  | .information => "information"
  | .hint => "hint"

/-- The number by which editors know a severity. -/
def code : Severity → Nat
  | .error => 1
  | .warning => 2
  | .information => 3
  | .hint => 4

/-- The severity of a given name. -/
def ofName? (s : Text) : Option Severity :=
  all.find? fun severity => .ofString severity.name = s

end Severity

/-- A problem at a place of a document. -/
structure Diagnostic where
  /-- The line it stands on. -/
  line : Int
  /-- Where it starts on the line. -/
  startChar : Int
  /-- Where it stops; the character there is not part of it. -/
  endChar : Int
  /-- How grave it is. -/
  severity : Severity
  /-- What is wrong. -/
  message : Text
  /-- Who says so. -/
  source : Text
  deriving DecidableEq, Repr

/-- The source that signs diagnostics unless another is chosen. -/
def Diagnostic.defaultSource : Text := .ofString "Crontab Language Server"

/-- The diagnostics of one token: its errors, moved to where the token stands. -/
def Token.diagnostics (source : Text) (token : Token) : List Diagnostic :=
  token.errors.map fun e =>
    { line := token.line, startChar := token.char + e.start, endChar := token.char + e.stop,
      severity := .error, message := e.message, source }

/-- The diagnostics of a list of tokens, signed by `source`. -/
def diagnose (source : Text) (tokens : List Token) : List Diagnostic :=
  tokens.flatMap (Token.diagnostics source)

end Crontab
