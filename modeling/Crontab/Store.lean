import Crontab.Document
import Crontab.Log
import Crontab.Register

/-!
# The document store

The tokens and the lines of the open documents by id, each kept in order of opening, and the source
that signs their diagnostics. Both front ends answer from a store. Writing a text always analyses it
afresh, and a question reads what it needs: the tokens, the lines, or both.
-/

namespace Crontab

/-- The open documents. -/
structure Store where
  /-- Who signs the diagnostics. -/
  source : Text
  /-- The tokens of the open documents by id. -/
  tokens : Register (List Token)
  /-- The lines of the open documents by id. -/
  lines : Register (Array Text)
  deriving DecidableEq, Repr

/-- A short account of an open document. -/
structure Summary where
  /-- The id of the document. -/
  id : Text
  /-- How many lines it has. -/
  lines : Nat
  /-- How many tokens it has. -/
  tokens : Nat
  /-- How many errors it has. -/
  errors : Nat
  deriving DecidableEq, Repr

namespace Store

/-- A question about a document that is not open. -/
structure NotOpen where
  /-- The id that was asked for. -/
  id : Text
  deriving DecidableEq, Repr

/-- The message that reports a document that is not open. -/
def NotOpen.message (e : NotOpen) : Text :=
  Text.ofString "Document '" ++ e.id ++ Text.ofString "' is not open"

/-- The record of a document that is not open. -/
def NotOpen.record (e : NotOpen) : Log.Record :=
  ⟨.warning, .store, Text.ofString "lookup for unopened document " ++ e.id⟩

/-- A store with no open documents. -/
def empty (source : Text) : Store := ⟨source, .empty, .empty⟩

/-- Opens a document with a text, or replaces the text of an open one. -/
def write (store : Store) (id : Text) (text : Text) : Store :=
  { store with
    tokens := store.tokens.put id (tokenize text)
    lines := store.lines.put id (Line.split text).toArray }

/-- Closes a document. Nothing happens when it is not open. -/
def close (store : Store) (id : Text) : Store :=
  { store with tokens := store.tokens.erase id, lines := store.lines.erase id }

/-- The diagnostics of a text as this store signs them. -/
def diagnose (store : Store) (text : Text) : List Diagnostic :=
  Crontab.diagnose store.source (tokenize text)

/-- A document is open. -/
def holds (store : Store) (id : Text) : Bool := store.tokens.holds id

/-- What a register holds for an open document. -/
def look {α : Type} (r : Register α) (id : Text) : Except NotOpen α :=
  match r.get? id with
  | some a => .ok a
  | none => .error ⟨id⟩

/-- The tokens of an open document. -/
def tokensOf (store : Store) (id : Text) : Except NotOpen (List Token) := look store.tokens id

/-- The lines of an open document. -/
def linesOf (store : Store) (id : Text) : Except NotOpen (Array Text) := look store.lines id

/-- An open document, with its lines and its tokens. -/
def find (store : Store) (id : Text) : Except NotOpen Document := do
  let lines ← store.linesOf id
  let tokens ← store.tokensOf id
  return ⟨lines, tokens⟩

/-- The tokens on a line. -/
def lineTokens (store : Store) (id : Text) (line : Int) : Except NotOpen (List Token) :=
  (store.tokensOf id).map fun tokens => Token.onLine tokens line

/-- The text of a line. A line that does not exist is empty. -/
def lineText (store : Store) (id : Text) (line : Int) : Except NotOpen Text :=
  (store.linesOf id).map fun lines => Line.nth lines line

/-- A code point offset on a line in units. -/
def toUnits (store : Store) (measure : Measure) (id : Text) (line char : Int) :
    Except NotOpen Int :=
  (store.lineText id line).map fun text => measure.toUnits text char

/-- An offset in units on a line as a code point offset. -/
def fromUnits (store : Store) (measure : Measure) (id : Text) (line units : Int) :
    Except NotOpen Int :=
  (store.lineText id line).map fun text => measure.fromUnits text units

/-- The first token on a line whose span covers a position. -/
def tokenAt (store : Store) (id : Text) (line char : Int) : Except NotOpen (Option Token) :=
  (store.tokensOf id).map fun tokens => Token.at? tokens line char

/-- What is shown at a position, both in units. -/
def hover (store : Store) (measure : Measure) (id : Text) (line units : Int) :
    Except NotOpen (Option Hover) :=
  (store.find id).map fun doc => doc.hover? measure line units

/-- The diagnostics of an open document. -/
def diagnostics (store : Store) (id : Text) : Except NotOpen (List Diagnostic) :=
  (store.tokensOf id).map (Crontab.diagnose store.source)

/-- The highlighting data of an open document, with columns in units. -/
def highlights (store : Store) (measure : Measure) (id : Text) : Except NotOpen (List Int) :=
  (store.find id).map fun doc => doc.highlights measure

/-- A summary of each open document, in order of opening. -/
def summaries (store : Store) : List Summary :=
  store.tokens.entries.map fun (id, tokens) =>
    { id
      lines := Line.count ((store.lines.get? id).getD #[])
      tokens := tokens.length
      errors := Token.errorCount tokens }

end Store

end Crontab
