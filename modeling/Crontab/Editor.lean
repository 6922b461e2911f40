import Crontab.Editor.Framework
import Crontab.Store.Command

/-!
# The language server

A session with an editor: the documents it has open and the encoding in which it counts columns.
Opening or changing a document publishes its diagnostics, with columns converted to that encoding.
-/

namespace Crontab

/-- A session with an editor. -/
structure Editor where
  /-- How the editor counts columns. -/
  encoding : Encoding
  /-- The documents that the editor has open. -/
  store : Store
  deriving DecidableEq, Repr

namespace Editor

/-- The name of the server. -/
def serverName : String := "crontab-ls"

/-- The version of the server. -/
def version : String := "0.1.0"

/-- A session that has just begun. -/
def start (source : Text) : Editor := ⟨defaultEncoding, .empty source⟩

/-- What the server tells an editor about itself. -/
structure Capabilities where
  /-- The encoding agreed on. -/
  encoding : Encoding
  /-- The name of the server. -/
  name : String := serverName
  /-- The version of the server. -/
  version : String := Editor.version
  /-- How changes are sent: `1` is the whole text each time. -/
  sync : Nat := 1
  /-- Opening and closing are to be announced. -/
  openClose : Bool := true
  /-- Hovering is answered. -/
  hover : Bool := true
  /-- The legend of the highlighting data. -/
  tokenTypes : List String := Highlight.legend
  /-- The modifiers of the highlighting data. -/
  tokenModifiers : List String := Highlight.modifiers
  /-- Highlighting is answered for a whole document. -/
  full : Bool := true
  /-- Highlighting is answered for a part of a document. -/
  range : Bool := false
  deriving DecidableEq, Repr

/-- A diagnostic as an editor is told it. -/
structure Notice where
  /-- Where it is. -/
  range : Position.Range
  /-- What is wrong. -/
  message : Text
  /-- How grave it is. -/
  severity : Severity
  /-- Who says so. -/
  source : Text
  deriving DecidableEq, Repr

/-- The complete diagnostics of a document, which replace those told before. -/
structure Publication where
  /-- The document. -/
  uri : Text
  /-- Its diagnostics. -/
  notices : List Notice
  deriving DecidableEq, Repr

/-- A hover text with the stretch it belongs to. -/
structure HoverReply where
  /-- What is shown. -/
  text : Text
  /-- Where it belongs. -/
  range : Position.Range
  deriving DecidableEq, Repr

/-- What an editor can ask or announce. -/
inductive Command where
  /-- Begin, with the encodings that the editor can count in, best first. -/
  | negotiate (encodings : List Text)
  /-- The editor is ready. -/
  | ready
  /-- A document was opened. -/
  | load (uri : Text) (text : Text)
  /-- A document was changed; the texts of the changes follow one another. -/
  | change (uri : Text) (changes : List Change)
  /-- A document was closed. -/
  | close (uri : Text)
  /-- A document was saved. -/
  | save (uri : Text)
  /-- What is shown at a position. -/
  | hover (uri : Text) (line character : Int)
  /-- The highlighting data of a document. -/
  | highlights (uri : Text)
  /-- The size of a text in the encoding agreed on. -/
  | measure (text : Text)
  /-- The editor is about to leave. -/
  | shutdown

/-- What the server answers. -/
inductive Answer where
  /-- What the server can do. -/
  | capabilities (c : Capabilities)
  /-- The diagnostics published. -/
  | published (ps : List Publication)
  /-- What is shown, if anything is. -/
  | hover (h : Option HoverReply)
  /-- Highlighting data. -/
  | highlights (data : List Int)
  /-- The size of a text. -/
  | size (n : Nat)
  deriving DecidableEq, Repr

/-- Why a command fails. -/
inductive Fault where
  /-- The document is not open. -/
  | notOpen (e : Store.NotOpen)
  /-- A position cannot be told. -/
  | position (e : Position.Fault)
  deriving DecidableEq, Repr

/-- The message that reports a fault. -/
def Fault.message : Fault → Text
  | .notOpen e => e.message
  | .position e => .ofString e.message

/-- A diagnostic as an editor is told it. -/
def Notice.ofDiagnostic (d : Diagnostic) : Except Position.Fault Notice := do
  let range ← Position.onLine d.line d.startChar d.endChar
  return { range, message := d.message, severity := d.severity, source := d.source }

/-- A diagnostic of an open document with its columns in the units of the editor. -/
def inUnits (editor : Editor) (uri : Text) (d : Diagnostic) : Except Store.NotOpen Diagnostic := do
  let measure := editor.encoding.measure
  let startChar ← editor.store.toUnits measure uri d.line d.startChar
  let endChar ← editor.store.toUnits measure uri d.line d.endChar
  return { d with startChar, endChar }

/-- The publication of the diagnostics of an open document. -/
def publication (editor : Editor) (uri : Text) (ds : List Diagnostic) :
    Except Fault Publication := do
  let notices ← ds.mapM fun d => do
    let d ← (editor.inUnits uri d).mapError .notOpen
    (Notice.ofDiagnostic d).mapError .position
  return ⟨uri, notices⟩

/-- A hover text as an editor is told it. -/
def HoverReply.ofHover (h : Hover) : Except Position.Fault HoverReply := do
  let range ← Position.onLine h.line h.startChar h.endChar
  return ⟨h.text, range⟩

/-- A record of the language server, perhaps about a document. -/
def record (event : String) (uri : Text) : Log.Record :=
  .info .editor (Text.ofString event ++ uri)

/-- Writes a text and publishes its diagnostics. The text is kept even when its diagnostics cannot
be told. -/
def write (editor : Editor) (uri : Text) (text : Text) (log : List Log.Record) :
    Step Editor (Except Fault Answer) :=
  let state := { editor with store := editor.store.write uri text }
  { state
    answer := (state.publication uri (editor.store.diagnose text)).map fun p => .published [p]
    log }

/-- What is shown at a position, both in the units of the editor. -/
def hoverAt (editor : Editor) (uri : Text) (line character : Int) : Except Fault Answer := do
  let position ← (Position.make line character).mapError .position
  let hover ←
    (editor.store.hover editor.encoding.measure uri position.line position.character).mapError
      .notOpen
  match hover with
  | none => return .hover none
  | some h => return .hover (some (← (HoverReply.ofHover h).mapError .position))

/-- The highlighting data of a document, in the units of the editor. -/
def highlightsOf (editor : Editor) (uri : Text) : Except Fault Answer := do
  let data ← (editor.store.highlights editor.encoding.measure uri).mapError .notOpen
  return .highlights data

/-- The records that an answer makes: one if the document was not open. -/
def faultLog {α : Type} : Except Fault α → List Log.Record
  | .error (.notOpen e) => [e.record]
  | _ => []

/-- What a command does to a session. -/
def step (editor : Editor) : Command → Step Editor (Except Fault Answer)
  | .negotiate encodings =>
    let encoding := choose encodings
    ⟨{ editor with encoding }, .ok (.capabilities { encoding }), []⟩
  | .ready => ⟨editor, .ok (.published []), [record "Server initialized" []]⟩
  | .load uri text =>
    editor.write uri text [record "Document opened: " uri, Store.loadRecord uri text]
  | .change uri changes =>
    match changes.mapM Change.checked with
    | .error e => ⟨editor, .error (.position e), []⟩
    | .ok texts =>
      let text := texts.flatten
      editor.write uri text [record "Document changed: " uri, Store.changeRecord uri text]
  | .close uri =>
    { state := { editor with store := editor.store.close uri }
      answer := .ok (.published [⟨uri, []⟩])
      log := [record "Document closed: " uri, Store.closeRecord uri] }
  | .save uri => ⟨editor, .ok (.published []), [record "Document saved: " uri]⟩
  | .hover uri line character =>
    let answer := editor.hoverAt uri line character
    ⟨editor, answer, faultLog answer⟩
  | .highlights uri =>
    let answer := editor.highlightsOf uri
    ⟨editor, answer, faultLog answer⟩
  | .measure text => ⟨editor, .ok (.size (editor.encoding.size text)), []⟩
  | .shutdown => ⟨editor, .ok (.published []), [record "Server shutting down" []]⟩

end Editor

end Crontab
