import Crontab.Step
import Crontab.Store

/-!
# Commands on the store

Everything that can be asked of a document store, as commands with answers. Only writing and closing
change the store; every other command reads one open document and fails when it is not open.
-/

namespace Crontab.Store

/-- A question about one document. -/
inductive Query where
  /-- All tokens. -/
  | tokens
  /-- The tokens on a line. -/
  | lineTokens (line : Int)
  /-- The text of a line. -/
  | lineText (line : Int)
  /-- A code point offset in units. -/
  | toUnits (measure : Measure) (line char : Int)
  /-- An offset in units as a code point offset. -/
  | fromUnits (measure : Measure) (line units : Int)
  /-- The token at a position. -/
  | tokenAt (line char : Int)
  /-- What is shown at a position. -/
  | hover (measure : Measure) (line units : Int)
  /-- The diagnostics. -/
  | diagnostics
  /-- The highlighting data. -/
  | highlights (measure : Measure)

/-- What a store can be asked to do. -/
inductive Command where
  /-- Open a document. -/
  | load (id : Text) (text : Text)
  /-- Replace the text of a document. -/
  | change (id : Text) (text : Text)
  /-- Close a document. -/
  | close (id : Text)
  /-- Tell whether a document is open. -/
  | holds (id : Text)
  /-- Answer a question about a document. -/
  | ask (id : Text) (query : Query)
  /-- Summarise all open documents. -/
  | list

/-- What a store answers. -/
inductive Answer where
  /-- It is done. -/
  | done
  /-- Yes or no. -/
  | flag (b : Bool)
  /-- Tokens. -/
  | tokens (ts : List Token)
  /-- The text of a line. -/
  | text (t : Text)
  /-- An offset. -/
  | offset (n : Int)
  /-- A token, if there is one. -/
  | token (t : Option Token)
  /-- What is shown, if anything is. -/
  | hover (h : Option Hover)
  /-- Diagnostics. -/
  | diagnostics (ds : List Diagnostic)
  /-- Highlighting data. -/
  | highlights (data : List Int)
  /-- Summaries. -/
  | summaries (ss : List Summary)
  deriving DecidableEq, Repr

/-- The answer to a question about a document. -/
def answer (store : Store) (id : Text) : Query → Except NotOpen Answer
  | .tokens => (store.tokensOf id).map .tokens
  | .lineTokens line => (store.lineTokens id line).map .tokens
  | .lineText line => (store.lineText id line).map .text
  | .toUnits measure line char => (store.toUnits measure id line char).map .offset
  | .fromUnits measure line units => (store.fromUnits measure id line units).map .offset
  | .tokenAt line char => (store.tokenAt id line char).map .token
  | .hover measure line units => (store.hover measure id line units).map .hover
  | .diagnostics => (store.diagnostics id).map .diagnostics
  | .highlights measure => (store.highlights measure id).map .highlights

/-- The record of a text being written. -/
def writeRecord (verb : String) (id text : Text) : Log.Record :=
  .info .store (Text.ofString s!"{verb} " ++ id ++ Text.ofString s!" (length={text.length})")

/-- The record of a document being opened. -/
def loadRecord (id text : Text) : Log.Record := writeRecord "open" id text

/-- The record of a document being changed. -/
def changeRecord (id text : Text) : Log.Record := writeRecord "change" id text

/-- The record of a document being closed. -/
def closeRecord (id : Text) : Log.Record := .info .store (Text.ofString "close " ++ id)

/-- The records of a look-up: one if it failed. -/
def findLog {α : Type} : Except NotOpen α → List Log.Record
  | .ok _ => []
  | .error e => [e.record]

/-- What a command does to a store. -/
def step (store : Store) : Command → Step Store (Except NotOpen Answer)
  | .load id text =>
    ⟨store.write id text, .ok (.diagnostics (store.diagnose text)), [loadRecord id text]⟩
  | .change id text =>
    ⟨store.write id text, .ok (.diagnostics (store.diagnose text)), [changeRecord id text]⟩
  | .close id => ⟨store.close id, .ok .done, [closeRecord id]⟩
  | .holds id => ⟨store, .ok (.flag (store.holds id)), []⟩
  | .ask id query =>
    let answer := store.answer id query
    ⟨store, answer, findLog answer⟩
  | .list => ⟨store, .ok (.summaries store.summaries), []⟩

end Crontab.Store
