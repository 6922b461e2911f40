import Crontab.Json.Bytes
import Crontab.Text.Blank
import Crontab.Web.Response

/-!
# The framework of the web service

The web service is built on a framework, which finds the route of a request, takes in its body and
writes its answer. What is decided there and not by the service is gathered here. Another release of
the framework may decide some of it otherwise; nothing else should have to change then.
-/

namespace Crontab.Web

/-! ## Routes -/

/-- What some methods do at a path. -/
structure Route (α : Type) where
  /-- The methods. -/
  methods : List String
  /-- What they do. -/
  target : α

namespace Route

variable {α : Type}

/-- What a method does, by the first of the routes at a path that has it. -/
def target? (method : String) (routes : List (Route α)) : Option α :=
  (routes.find? fun route => route.methods.contains method).map target

/-- The methods that a refusal of another method names: only those of the first route. -/
def allowed (routes : List (Route α)) : List String := (routes.head?.map methods).getD []

end Route

/-- The end of a path is a word. A line feed at the very end of a path does not count. -/
def isWord (word : String) (text : Text) : Bool :=
  text = .ofString word || text = .ofString (word ++ "\n")

/-- A path without the slashes at its end, if it has any and stands for something without them. -/
def redirect? (standsForSomething : Text → Bool) (path : Text) : Option Text :=
  let short := (path.reverse.dropWhile (· = .char '/')).reverse
  if short.length < path.length && standsForSomething short then some short else none

namespace Page

/-- The pages. They are offered for every service that does not turn them off. -/
def all : List Page := [description, trial, signIn, reference]

/-- The path of a page. -/
def path : Page → String
  | description => "/openapi.json"
  | trial => "/docs"
  | signIn => "/docs/oauth2-redirect"
  | reference => "/redoc"

/-- The page that a path stands for. -/
def ofPath? (path : Text) : Option Page := all.find? fun p => isWord p.path path

/-- The methods by which a page is asked for. -/
def methods : List String := ["GET", "HEAD"]

end Page

/-! ## Bodies -/

namespace MediaType

/-- The type in a header without its parameters, in lower case. Only the ASCII letters have a lower
case here, which is all that the names of types are made of. -/
def essence (header : Text) : Text :=
  (Text.trim Text.isSeparator (header.takeWhile (· ≠ .char ';'))).asciiLower

/-- A header announces JSON: `application/json`, or a type of that family whose name ends in
`+json`. Parameters and case do not matter. -/
def isJson (header : Text) : Bool :=
  match Text.pieces '/' (essence header) with
  | [family, type] =>
    family = .ofString "application" &&
      (type = .ofString "json" || (Text.ofString "+json").isSuffixOf type)
  | _ => false

end MediaType

/-- The body of a request, taken in but not yet checked. -/
inductive Content where
  /-- There is none. -/
  | empty
  /-- It was not announced as JSON. -/
  | other
  /-- It is JSON. -/
  | json (v : Json)

namespace Content

/-- Takes in a body, in which at most `depth` containers may be open at a time. -/
def ofBytes (depth : Nat) (contentType : Option Text) (body : List UInt8) :
    Except Json.Fault Content :=
  if body.isEmpty then .ok .empty
  else if contentType.any MediaType.isJson then (Json.ofBytes depth body).map .json
  else .ok .other

/-- The fields of a body. -/
def fields : Content → Checked (List (Text × Json))
  | .json (.object fields) => .ok fields
  | .json v => .failed [.of .notObject ["body"] v]
  | .empty => .failed [.of .missing ["body"] .null]
  | .other => .failed [.of .notObject ["body"] .null]

end Content

/-! ## Answers -/

/-- How far reports go into the values that they repeat. -/
structure Reach where
  /-- The most levels that are copied. -/
  levels : Nat
  /-- The most containers that are open at a time in writing. -/
  nesting : Nat
  deriving DecidableEq, Repr

/-- How deep the service can go into nested values before its stack is full. This depends on where
the service runs, so nothing is said about it here. -/
structure Room where
  /-- The most containers that may be open at a time in a body. -/
  depth : Nat
  /-- The reach of reports on requests that are answered at once. -/
  direct : Reach
  /-- The reach of reports on requests that wait for the store, which leaves less. -/
  stored : Reach
  deriving DecidableEq, Repr

/-- What is said when the service fails. -/
def Failure.body : String := "Internal Server Error"

namespace Response

/-- The path stands for nothing. -/
def notFound : Response := json 404 (.refusal (.ofString "Not Found"))

/-- The path is there for other methods. -/
def methodNotAllowed (allow : List String) : Response :=
  { json 405 (.refusal (.ofString "Method Not Allowed")) with allow }

/-- The path is there without the slashes at its end. -/
def redirect (location : Text) : Response :=
  { status := 307, answer := .empty, location := some location }

/-- The body could not be taken in. -/
def unreadableBody : Response :=
  json 400 (.refusal (.ofString "There was an error parsing the body"))

/-- The failure that an obstacle to a report comes to. -/
def obstructed : Json.Obstacle → Failure
  | .depth => .reportDepth
  | .number => .reportNumber
  | .text => .reportText

/-- The request is wrong. The report repeats the values at fault, if all of them can be. -/
def invalid (reach : Reach) (ps : List Problem) : Response :=
  let extent := ps.foldl (fun extent p => extent ++ p.extent) Json.Extent.empty
  match extent.obstacle? reach.levels reach.nesting with
  | some obstacle => failure (obstructed obstacle)
  | none => json 422 (.problems ps)

/-- A JSON answer to a request that was granted. A surrogate on its own keeps it from being
written. -/
def granted (status : Nat) (p : Payload) : Response :=
  if p.toJson.isSpelled then json status p else failure .answerText

/-- A page. -/
def page (p : Page) : Response := { status := 200, answer := .page p }

end Response

end Crontab.Web
