import Crontab.Checked
import Crontab.Store

/-!
# Responses

What the web service answers: a status and, for most of them, a JSON document. Some answers are pages
about the service itself, of which only is said which one it is. A request can also make the service
fail, and then the answer is a plain text.
-/

namespace Crontab.Web

/-- The version that the service reports. -/
def version : String := "0.1.0"

/-- What a JSON answer says. -/
inductive Payload where
  /-- The service is well. -/
  | health
  /-- A text was checked. -/
  | verdict (ds : List Diagnostic)
  /-- The diagnostics of a document. -/
  | diagnostics (id : Text) (ds : List Diagnostic)
  /-- The open documents. -/
  | listing (ss : List Summary)
  /-- The tokens of a document. -/
  | tokens (id : Text) (ts : List Token)
  /-- What is shown, if anything is. -/
  | hover (h : Option Hover)
  /-- Highlighting data. -/
  | highlights (data : List Int)
  /-- Why nothing was done. -/
  | refusal (message : Text)
  /-- What is wrong with the request. -/
  | problems (ps : List Problem)
  deriving DecidableEq, Repr

/-- Why the service fails. -/
inductive Failure where
  /-- The announced length of the body cannot be read. -/
  | contentLength
  /-- The client is gone before its body is whole. -/
  | abandoned
  /-- The document store was never set up. -/
  | noStore
  /-- A report of problems repeats a value that is nested too deep. -/
  | reportDepth
  /-- A report of problems repeats a number that no double can hold. -/
  | reportNumber
  /-- A report of problems repeats a surrogate on its own. -/
  | reportText
  /-- An answer holds a surrogate on its own. -/
  | answerText
  deriving DecidableEq, Repr

/-- A page about the service itself. -/
inductive Page where
  /-- The description of the service, for programs. -/
  | description
  /-- A page on which the service can be tried. -/
  | trial
  /-- Where a sign-in on that page comes back to. -/
  | signIn
  /-- A page on which the service can be read about. -/
  | reference
  deriving DecidableEq, Repr

/-- What an answer carries. -/
inductive Answer where
  /-- JSON. -/
  | json (p : Payload)
  /-- A page. -/
  | page (p : Page)
  /-- Nothing. -/
  | empty
  /-- A failure, told as a plain text. -/
  | failure (f : Failure)
  deriving DecidableEq, Repr

/-- An answer with its status and headers. -/
structure Response where
  /-- The status. -/
  status : Nat
  /-- What it carries. -/
  answer : Answer
  /-- The time taken is told. -/
  timed : Bool := true
  /-- The methods that would have been allowed, in no order. -/
  allow : List String := []
  /-- Where to ask instead. -/
  location : Option Text := none
  deriving DecidableEq, Repr

namespace Payload

/-- A diagnostic in JSON. -/
def ofDiagnostic (d : Diagnostic) : Json :=
  .named [("line", .int d.line), ("start_char", .int d.startChar), ("end_char", .int d.endChar),
    ("severity", .word d.severity.name), ("message", .string d.message),
    ("source", .string d.source)]

/-- Diagnostics in JSON. -/
def ofDiagnostics (ds : List Diagnostic) : Json := .array (ds.map ofDiagnostic)

/-- A summary in JSON. -/
def ofSummary (s : Summary) : Json :=
  .named [("document_id", .string s.id), ("lines", .int s.lines), ("tokens", .int s.tokens),
    ("errors", .int s.errors)]

/-- An error of a term in JSON. -/
def ofTermError (e : Term.Error) : Json :=
  .named [("start_char", .int e.start), ("end_char", .int e.stop), ("message", .string e.message)]

/-- The word for the type of a token. -/
def tokenType : Token → String
  | .comment _ _ => "comment"
  | .term _ _ _ _ _ => "term"
  | .command _ _ _ => "command"

/-- The field and the value of a term; null for other tokens, and for the value of a failed term. -/
def fieldAndValue : Token → Json × Json
  | .term _ _ field reading _ =>
    (.word field.name, (reading.value?.map fun v => Json.word v.describe).getD .null)
  | _ => (.null, .null)

/-- A token in JSON. -/
def ofToken (t : Token) : Json :=
  .named [("type", .word (tokenType t)), ("line", .int t.line), ("start_char", .int t.span.1),
    ("end_char", .int t.span.2), ("content", .string t.content),
    ("field", (fieldAndValue t).1), ("value", (fieldAndValue t).2),
    ("errors", .array (t.errors.map ofTermError))]

/-- A hover text in JSON. -/
def ofHover (h : Hover) : Json :=
  .named [("line", .int h.line), ("start_char", .int h.startChar), ("end_char", .int h.endChar),
    ("text", .string h.text)]

/-- A problem in JSON. -/
def ofProblem (p : Problem) : Json :=
  .named [("type", .word p.flaw.code), ("loc", Json.words p.place)]

/-- A payload in JSON. -/
def toJson : Payload → Json
  | .health => .named [("status", .word "ok"), ("version", .word version)]
  | .verdict ds => .named [("valid", .bool ds.isEmpty), ("diagnostics", ofDiagnostics ds)]
  | .diagnostics id ds =>
    .named [("document_id", .string id), ("diagnostics", ofDiagnostics ds)]
  | .listing ss => .named [("documents", .array (ss.map ofSummary))]
  | .tokens id ts => .named [("document_id", .string id), ("tokens", .array (ts.map ofToken))]
  | .hover h => (h.map ofHover).getD .null
  | .highlights data =>
    .named [("legend", Json.words Highlight.legend), ("data", Json.ints data)]
  | .refusal message => .named [("detail", .string message)]
  | .problems ps => .named [("detail", .array (ps.map ofProblem))]

end Payload

namespace Response

/-- A JSON answer. -/
def json (status : Nat) (p : Payload) : Response := { status, answer := .json p }

/-- The service failed. -/
def failure (f : Failure) : Response := { status := 500, answer := .failure f, timed := false }

/-- The body is too large. This is decided before the time is taken. -/
def tooLarge (limit : Nat) : Response :=
  { status := 413
    answer := .json (.refusal (.ofString s!"Request body too large (max {limit} bytes)"))
    timed := false }

/-- The document is not open. -/
def documentNotFound (id : Text) : Response :=
  json 404 (.refusal (Text.ofString "Document '" ++ id ++ Text.ofString "' not found"))

/-- It is done, and there is nothing to say. -/
def noContent : Response := { status := 204, answer := .empty }

end Response

end Crontab.Web
