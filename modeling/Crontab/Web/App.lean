import Crontab.Store.Command
import Crontab.Web.Body
import Crontab.Web.Limit
import Crontab.Web.Query
import Crontab.Web.Route

/-!
# The web service

The service answers requests about open documents and checks texts without opening them. A request
passes the body limit, then the routes; its body is taken in, the store is looked for, and its
values are checked; only then is anything done. The store changes when a document is opened, changed
or closed, and at no other time. What was done stays done when the answer to it cannot be written.
-/

namespace Crontab.Web

/-- The state of the service. -/
structure App where
  /-- Who signs diagnostics. -/
  source : Text
  /-- How deep the service can go into nested values. -/
  room : Room
  /-- The open documents; nothing before the store is set up. -/
  store : Option Store
  /-- How many ids the service has made up. -/
  issued : Nat
  deriving DecidableEq, Repr

namespace App

/-- A service whose store is set up. -/
def start (source : Text) (room : Room) : App := ⟨source, room, some (.empty source), 0⟩

/-- A service whose store was never set up. -/
def storeless (source : Text) (room : Room) : App := ⟨source, room, none, 0⟩

/-- The `n`-th id that the service makes up. -/
def freshId (n : Nat) : Text := Text.Hex.padded 8 n

/-- A step that changes nothing and reports nothing. -/
def answer (app : App) (response : Response) : Step App Response := ⟨app, response, []⟩

/-- Goes on with a checked value, or reports what is wrong with it. -/
def checked {α : Type} (app : App) (reach : Reach) (value : Checked α)
    (next : α → Step App Response) : Step App Response :=
  match value with
  | .ok a => next a
  | .failed ps => app.answer (.invalid reach ps)

/-- Opens a document, under an id that the service makes up if the client has chosen none. -/
def load (app : App) (store : Store) (opening : Content.Opening) : Step App Response :=
  let (id, issued) := match opening.id with
    | some id => (id, app.issued)
    | none => (freshId (app.issued + 1), app.issued + 1)
  { state := { app with store := some (store.write id opening.text), issued }
    answer := .granted 201 (.diagnostics id (store.diagnose opening.text))
    log := [Store.loadRecord id opening.text] }

/-- Replaces the text of an open document. -/
def change (app : App) (store : Store) (id : Text) (text : Text) : Step App Response :=
  if store.holds id then
    { state := { app with store := some (store.write id text) }
      answer := .granted 200 (.diagnostics id (store.diagnose text))
      log := [Store.changeRecord id text] }
  else app.answer (.documentNotFound id)

/-- Closes an open document. -/
def close (app : App) (store : Store) (id : Text) : Step App Response :=
  if store.holds id then
    { state := { app with store := some (store.close id) }
      answer := .noContent
      log := [Store.closeRecord id] }
  else app.answer (.documentNotFound id)

/-- Shows what was found in an open document. -/
def look {α : Type} (app : App) (id : Text) (found : Except Store.NotOpen α)
    (payload : α → Payload) : Step App Response :=
  match found with
  | .ok a => app.answer (.granted 200 (payload a))
  | .error e => ⟨app, .documentNotFound id, [e.record]⟩

/-- Reads a number in a query that may not be negative. -/
def asCoordinate (v : Json) : Except Flaw Int := do
  let n ← v.asInteger
  if n < 0 then .error .negative else .ok n

/-- A coordinate in the query of a request. -/
def coordinate (request : Request) (name : String) : Checked Int :=
  Checked.required ["query", name] .null asCoordinate
    ((Query.get? request.query name).map Json.string)

/-- The line and character in the query of a request. -/
def position (request : Request) : Checked (Int × Int) :=
  Prod.mk <$> coordinate request "line" <*> coordinate request "character"

/-- Shows a part of an open document. Columns count code points. -/
def view (app : App) (request : Request) (store : Store) (id : Text) : View → Step App Response
  | .tokens => app.look id (store.tokensOf id) (.tokens id)
  | .diagnostics => app.look id (store.diagnostics id) (.diagnostics id)
  | .hover => app.checked app.room.stored (position request) fun (line, character) =>
      app.look id (store.hover Measure.codePoints id line character) .hover
  | .highlights => app.look id (store.highlights Measure.codePoints id) .highlights

/-- Goes on with the content of the body, or reports why it could not be taken in. -/
def withContent (app : App) (request : Request) (body : List UInt8)
    (next : Content → Step App Response) : Step App Response :=
  match Content.ofBytes app.room.depth request.contentType body with
  | .ok content => next content
  | .error .malformed => app.answer (.invalid app.room.direct [.of .notJson ["body"] .null])
  | .error .unreadable => app.answer .unreadableBody

/-- Goes on with the store, or fails if it was never set up. -/
def withStore (app : App) (next : Store → Step App Response) : Step App Response :=
  match app.store with
  | some store => next store
  | none => app.answer (.failure .noStore)

/-- Does what a request asks for. -/
def serve (app : App) (request : Request) (body : List UInt8) : Endpoint → Step App Response
  | .page p => app.answer (.page p)
  | .health => app.answer (.granted 200 .health)
  | .validate => app.withContent request body fun content =>
      app.checked app.room.direct content.text fun text =>
        app.answer (.granted 200 (.verdict (diagnose app.source (tokenize text))))
  | .load => app.withContent request body fun content =>
      app.withStore fun store => app.checked app.room.stored content.opening (app.load store)
  | .list => app.withStore fun store => app.answer (.granted 200 (.listing store.summaries))
  | .change id => app.withContent request body fun content =>
      app.withStore fun store => app.checked app.room.stored content.text (app.change store id)
  | .close id => app.withStore fun store => app.close store id
  | .view id v => app.withStore fun store => app.view request store id v

/-- The address of a path on the host of a request, with the query of the request. -/
def address (request : Request) (path : Text) : Text :=
  let query := if request.query.isEmpty then [] else .char '?' :: request.query
  Percent.escape (Text.ofString "http://" ++ request.host ++ Percent.sealPath path ++ query)

/-- Finds what a request asks for. -/
def route (app : App) (request : Request) (body : List UInt8) : Step App Response :=
  match Resource.ofPath? request.path with
  | some resource =>
    match Route.target? request.method resource.routes with
    | some endpoint => app.serve request body endpoint
    | none => app.answer (.methodNotAllowed (Route.allowed resource.routes))
  | none =>
    match redirect? (fun path => (Resource.ofPath? path).isSome) request.path with
    | some path => app.answer (.redirect (address request path))
    | none => app.answer .notFound

/-- What a request does to the service. -/
def step (app : App) (request : Request) : Step App Response :=
  match Limit.verdict request with
  | .tooLarge => app.answer (.tooLarge Limit.maxBody)
  | .unreadable => app.answer (.failure .contentLength)
  | .abandoned => app.answer (.failure .abandoned)
  | .admitted body => app.route request body

end App

end Crontab.Web
