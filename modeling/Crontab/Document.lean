import Crontab.Diagnostic
import Crontab.Entry
import Crontab.Highlight
import Crontab.Hover
import Crontab.Measure

/-!
# Documents

A document keeps the lines and the tokens of its text, which is analysed once, and answers every
question about the text from them.
-/

namespace Crontab

/-- A text that has been analysed. -/
structure Document where
  /-- The lines of the text. -/
  lines : Array Text
  /-- The tokens of the text. -/
  tokens : List Token
  deriving DecidableEq, Repr

namespace Document

/-- Analyses a text. -/
def ofText (text : Text) : Document := ⟨(Line.split text).toArray, tokenize text⟩

/-- The text of a line. A line that does not exist is empty. -/
def lineText (doc : Document) (line : Int) : Text := Line.nth doc.lines line

/-- The tokens on a line. -/
def lineTokens (doc : Document) (line : Int) : List Token := Token.onLine doc.tokens line

/-- A code point offset on a line in units. -/
def toUnits (doc : Document) (measure : Measure) (line char : Int) : Int :=
  measure.toUnits (doc.lineText line) char

/-- An offset in units on a line as a code point offset. -/
def fromUnits (doc : Document) (measure : Measure) (line units : Int) : Int :=
  measure.fromUnits (doc.lineText line) units

/-- The first token on a line whose span covers a position. -/
def tokenAt? (doc : Document) (line char : Int) : Option Token := Token.at? doc.tokens line char

/-- What is shown at a position. The position asked about and the stretch answered are both in
units. -/
def hover? (doc : Document) (measure : Measure) (line units : Int) : Option Hover := do
  let token ← doc.tokenAt? line (doc.fromUnits measure line units)
  let text ← Hover.describe (doc.lineTokens line) token
  return { line
           startChar := doc.toUnits measure line token.span.1
           endChar := doc.toUnits measure line token.span.2
           text }

/-- The diagnostics of a document, signed by `source`. -/
def diagnostics (doc : Document) (source : Text) : List Diagnostic := diagnose source doc.tokens

/-- The highlighting data of a document, with columns in units. -/
def highlights (doc : Document) (measure : Measure) : List Int :=
  Highlight.flatten (Highlight.encode (doc.toUnits measure) doc.tokens)

/-- The number of lines shown for a document. -/
def lineCount (doc : Document) : Nat := Line.count doc.lines

/-- The number of errors in a document. -/
def errorCount (doc : Document) : Nat := Token.errorCount doc.tokens

end Document

end Crontab
