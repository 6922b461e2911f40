import Crontab.Web.Framework

/-!
# Routes

What the paths of the web service stand for, and what each of them lets a method do. A document id
in a path is one segment that is not empty.
-/

namespace Crontab.Web

/-- A part of an open document that can be asked for. -/
inductive View where
  /-- Its tokens. -/
  | tokens
  /-- Its diagnostics. -/
  | diagnostics
  /-- What is shown at a position. -/
  | hover
  /-- Its highlighting data. -/
  | highlights
  deriving DecidableEq, Repr

/-- What a path stands for. -/
inductive Resource where
  /-- A page about the service. -/
  | page (p : Page)
  /-- The state of the service. -/
  | health
  /-- Checking a text without opening it. -/
  | validate
  /-- All open documents. -/
  | documents
  /-- One document. -/
  | document (id : Text)
  /-- A part of one document. -/
  | view (id : Text) (v : View)
  deriving DecidableEq, Repr

/-- What a request asks for. -/
inductive Endpoint where
  /-- A page about the service. -/
  | page (p : Page)
  /-- The state of the service. -/
  | health
  /-- Check a text without opening it. -/
  | validate
  /-- Open a document. -/
  | load
  /-- List the open documents. -/
  | list
  /-- Replace the text of a document. -/
  | change (id : Text)
  /-- Close a document. -/
  | close (id : Text)
  /-- Show a part of a document. -/
  | view (id : Text) (v : View)
  deriving DecidableEq, Repr

/-- The part of a document that a last segment names. -/
def View.ofSegment? (segment : Text) : Option View :=
  if isWord "tokens" segment then some .tokens
  else if isWord "diagnostics" segment then some .diagnostics
  else if isWord "hover" segment then some .hover
  else if isWord "semantic-tokens" segment then some .highlights
  else none

/-- What a path of the service's own stands for. -/
def Resource.ofOwnPath? (path : Text) : Option Resource :=
  match Text.pieces '/' path with
  | [[], segment] =>
    if isWord "health" segment then some .health
    else if isWord "validate" segment then some .validate
    else if isWord "documents" segment then some .documents
    else none
  | [[], root, id] =>
    if root = .ofString "documents" && !id.isEmpty then some (.document id) else none
  | [[], root, id, segment] =>
    if root = .ofString "documents" && !id.isEmpty then (View.ofSegment? segment).map (.view id)
    else none
  | _ => none

/-- What a path stands for. The pages come first. -/
def Resource.ofPath? (path : Text) : Option Resource :=
  match Page.ofPath? path with
  | some p => some (.page p)
  | none => ofOwnPath? path

/-- The routes at a resource, in order. -/
def Resource.routes : Resource → List (Route Endpoint)
  | .page p => [⟨Page.methods, .page p⟩]
  | .health => [⟨["GET"], .health⟩]
  | .validate => [⟨["POST"], .validate⟩]
  | .documents => [⟨["POST"], .load⟩, ⟨["GET"], .list⟩]
  | .document id => [⟨["PUT"], .change id⟩, ⟨["DELETE"], .close id⟩]
  | .view id v => [⟨["GET"], .view id v⟩]

end Crontab.Web
