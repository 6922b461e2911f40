import Crontab.Term

/-!
# Tokens

A document is analysed as tokens: comment lines, the terms of an entry, and its command. A token
carries its place and its text, and covers a half-open span of its line.
-/

namespace Crontab

/-- A token of a document. Lines and characters count from zero. -/
inductive Token where
  /-- A whole line that starts with a number sign. -/
  | comment (line : Int) (content : Text)
  /-- A time field of an entry, with what reading it gave. -/
  | term (line char : Int) (field : Field) (reading : Term.Reading) (content : Text)
  /-- What an entry runs. -/
  | command (line char : Int) (content : Text)
  deriving DecidableEq, Repr

namespace Token

/-- The line on which a token stands. -/
def line : Token → Int
  | .comment line _ => line
  | .term line _ _ _ _ => line
  | .command line _ _ => line

/-- Where a token starts on its line. -/
def char : Token → Int
  | .comment _ _ => 0
  | .term _ char _ _ _ => char
  | .command _ char _ => char

/-- The text of a token. -/
def content : Token → Text
  | .comment _ content => content
  | .term _ _ _ _ content => content
  | .command _ _ content => content

/-- The half-open span of a token on its line. -/
def span (token : Token) : Int × Int := (token.char, token.char + token.content.length)

/-- The length of a token's span. -/
def length (token : Token) : Int := token.span.2 - token.span.1

/-- The span of a token covers a position. -/
def covers (token : Token) (char : Int) : Bool := token.span.1 ≤ char && char < token.span.2

/-- The errors that a token carries. Only terms have any. -/
def errors : Token → List Term.Error
  | .term _ _ _ reading _ => reading.errorList
  | _ => []

/-- A token is a time field of an entry. -/
def isTerm : Token → Bool
  | .term _ _ _ _ _ => true
  | _ => false

/-- The tokens on a line. -/
def onLine (tokens : List Token) (line : Int) : List Token :=
  tokens.filter fun token => token.line = line

/-- The first token on a line whose span covers a position. -/
def at? (tokens : List Token) (line char : Int) : Option Token :=
  (onLine tokens line).find? fun token => token.covers char

/-- The number of errors in a list of tokens. -/
def errorCount (tokens : List Token) : Nat := (tokens.flatMap errors).length

end Token

end Crontab
