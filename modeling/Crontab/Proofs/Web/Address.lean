import Crontab.Proofs.Text.Pieces
import Crontab.Web.App

/-!
# Addresses of the web service

What a method and a path address is said without cutting the path: each endpoint has its methods and
its path, and an id in a path is one segment. The routes find an endpoint exactly when the request
addresses it, and a request that passes the limit is then served there.
-/

namespace Crontab.Web

/-- A text that can stand in a path as one segment. -/
def IsSegment (id : Text) : Prop := id ≠ [] ∧ .char '/' ∉ id

/-- A path is a given one. A line feed at its very end does not count. -/
def IsPath (path given : Text) : Prop := path = given ∨ path = given ++ [.char '\n']

/-- The path of a document. -/
def documentPath (id : Text) : Text := Text.ofString "/documents/" ++ id

/-- The last segment of the path of a part of a document. -/
def View.word : View → String
  | .tokens => "tokens"
  | .diagnostics => "diagnostics"
  | .hover => "hover"
  | .highlights => "semantic-tokens"

/-- The path of a part of a document. -/
def View.path (id : Text) (v : View) : Text :=
  documentPath id ++ [.char '/'] ++ Text.ofString v.word

/-- The paths that stand for a resource. -/
def Resource.IsAt (path : Text) : Resource → Prop
  | .page p => IsPath path (.ofString p.path)
  | .health => IsPath path (.ofString "/health")
  | .validate => IsPath path (.ofString "/validate")
  | .documents => IsPath path (.ofString "/documents")
  | .document id => IsSegment id ∧ path = documentPath id
  | .view id v => IsSegment id ∧ IsPath path (v.path id)

/-- A request addresses an endpoint by its method and its path. -/
def Request.Addresses (request : Request) : Endpoint → Prop
  | .page p => request.method ∈ ["GET", "HEAD"] ∧ (Resource.page p).IsAt request.path
  | .health => request.method = "GET" ∧ Resource.health.IsAt request.path
  | .validate => request.method = "POST" ∧ Resource.validate.IsAt request.path
  | .load => request.method = "POST" ∧ Resource.documents.IsAt request.path
  | .list => request.method = "GET" ∧ Resource.documents.IsAt request.path
  | .change id => request.method = "PUT" ∧ (Resource.document id).IsAt request.path
  | .close id => request.method = "DELETE" ∧ (Resource.document id).IsAt request.path
  | .view id v => request.method = "GET" ∧ (Resource.view id v).IsAt request.path

/-- The end of a path is a word exactly when the path up to it is followed by that word. -/
theorem isWord_iff (word : String) (segment before : Text) :
    isWord word segment = true ↔ IsPath (before ++ segment) (before ++ Text.ofString word) := by
  have hfeed : Text.ofString (word ++ "\n") = Text.ofString word ++ [.char '\n'] :=
    Text.ofString_append word "\n"
  simp [isWord, IsPath, hfeed]

/-- A page is found at its path. -/
theorem Page.ofPath?_eq_some_iff (path : Text) (p : Page) :
    Page.ofPath? path = some p ↔ IsPath path (.ofString p.path) := by
  constructor
  · intro h
    rw [Page.ofPath?] at h
    have hword := List.find?_some h
    exact (isWord_iff p.path path []).mp hword
  · rintro (rfl | rfl) <;> cases p <;> decide

/-- No page is found where documents are. -/
theorem Page.ofPath?_documentPath (rest : Text) : Page.ofPath? (documentPath rest) = none := by
  cases hpage : Page.ofPath? (documentPath rest) with
  | none => rfl
  | some p =>
    have hstart : (documentPath rest).take 5 = Text.ofString "/docu" := rfl
    rcases (Page.ofPath?_eq_some_iff _ p).mp hpage with h | h <;> rw [h] at hstart <;> cases p <;>
      exact absurd hstart (by decide)

/-- A segment names the part of a document that its word names. -/
theorem View.ofSegment?_eq_some_iff (segment : Text) (v : View) :
    View.ofSegment? segment = some v ↔ isWord v.word segment = true := by
  constructor
  · intro h
    unfold View.ofSegment? at h
    split at h
    · next hword => exact Option.some.inj h ▸ hword
    split at h
    · next hword => exact Option.some.inj h ▸ hword
    split at h
    · next hword => exact Option.some.inj h ▸ hword
    split at h
    · next hword => exact Option.some.inj h ▸ hword
    · exact absurd h nofun
  · intro h
    have hsegment : segment = .ofString v.word ∨ segment = .ofString (v.word ++ "\n") := by
      simpa [isWord] using h
    rcases hsegment with rfl | rfl <;> cases v <;> decide

theorem joined_documentPath (id : Text) :
    Text.joined '/' [[], Text.ofString "documents", id] = documentPath id := by
  have hroot : Text.ofString "/documents/" =
      .char '/' :: (Text.ofString "documents" ++ [.char '/']) := by decide
  rw [documentPath, hroot]
  simp [Text.joined_cons]

theorem joined_segment (id segment : Text) :
    Text.joined '/' [[], Text.ofString "documents", id, segment] =
      documentPath id ++ [.char '/'] ++ segment := by
  rw [← joined_documentPath]
  simp [Text.joined_cons]

/-- The path of a document is cut into a root and the id. -/
theorem pieces_documentPath {id : Text} (h : .char '/' ∉ id) :
    Text.pieces '/' (documentPath id) = [[], Text.ofString "documents", id] := by
  have hsep : ∀ p ∈ [[], Text.ofString "documents", id], .char '/' ∉ p := by
    simpa using ⟨by decide, h⟩
  rw [← joined_documentPath]
  exact Text.pieces_joined (List.cons_ne_nil _ _) hsep

/-- The path of a part of a document is cut into a root, the id and a last segment. -/
theorem pieces_segment {id segment : Text} (hid : .char '/' ∉ id) (h : .char '/' ∉ segment) :
    Text.pieces '/' (documentPath id ++ [.char '/'] ++ segment) =
      [[], Text.ofString "documents", id, segment] := by
  have hsep : ∀ p ∈ [[], Text.ofString "documents", id, segment], .char '/' ∉ p := by
    simpa using ⟨by decide, hid, h⟩
  rw [← joined_segment]
  exact Text.pieces_joined (List.cons_ne_nil _ _) hsep

/-- A path that stands for something of the service's own is one of the paths of that. -/
theorem Resource.IsAt.of_ofOwnPath? {path : Text} {resource : Resource}
    (h : Resource.ofOwnPath? path = some resource) : resource.IsAt path := by
  have hjoined := Text.joined_pieces '/' path
  have hsegment : ∀ p ∈ Text.pieces '/' path, .char '/' ∉ p := fun p hp =>
    Text.sep_notMem_of_mem_pieces hp
  unfold Resource.ofOwnPath? at h
  split at h
  · next segment hpieces =>
    have hpath : path = [.char '/'] ++ segment := by
      rw [← hjoined, hpieces, Text.joined_cons (List.cons_ne_nil _ _), Text.joined_singleton]
      rfl
    subst hpath
    split at h
    · next hword =>
      obtain rfl := Option.some.inj h
      exact (isWord_iff "health" segment [.char '/']).mp hword
    split at h
    · next hword =>
      obtain rfl := Option.some.inj h
      exact (isWord_iff "validate" segment [.char '/']).mp hword
    split at h
    · next hword =>
      obtain rfl := Option.some.inj h
      exact (isWord_iff "documents" segment [.char '/']).mp hword
    · exact absurd h nofun
  · next root id hpieces =>
    split at h
    · next hroot =>
      obtain rfl := Option.some.inj h
      rw [hpieces] at hjoined hsegment
      simp only [Bool.and_eq_true, decide_eq_true_eq, Bool.not_eq_true', List.isEmpty_eq_false_iff]
        at hroot
      refine ⟨⟨hroot.2, hsegment id (by simp)⟩, ?_⟩
      rw [← hjoined, hroot.1, joined_documentPath]
    · exact absurd h nofun
  · next root id segment hpieces =>
    split at h
    · next hroot =>
      obtain ⟨v, hv, rfl⟩ := Option.map_eq_some_iff.mp h
      rw [hpieces] at hjoined hsegment
      simp only [Bool.and_eq_true, decide_eq_true_eq, Bool.not_eq_true', List.isEmpty_eq_false_iff]
        at hroot
      refine ⟨⟨hroot.2, hsegment id (by simp)⟩, ?_⟩
      have hpath : path = documentPath id ++ [.char '/'] ++ segment := by
        rw [← hjoined, hroot.1, joined_segment]
      rw [hpath, View.path]
      exact (isWord_iff v.word segment _).mp ((View.ofSegment?_eq_some_iff segment v).mp hv)
    · exact absurd h nofun
  · exact absurd h nofun

/-- A path that stands for a resource is one of the paths of the resource. -/
theorem Resource.IsAt.of_ofPath? {path : Text} {resource : Resource}
    (h : Resource.ofPath? path = some resource) : resource.IsAt path := by
  unfold Resource.ofPath? at h
  split at h
  · next p hpage =>
    obtain rfl := Option.some.inj h
    exact (Page.ofPath?_eq_some_iff path p).mp hpage
  · exact .of_ofOwnPath? h

/-- Where documents are, a path is looked up among those of the service's own. -/
theorem Resource.ofPath?_documentPath (rest : Text) :
    Resource.ofPath? (documentPath rest) = Resource.ofOwnPath? (documentPath rest) := by
  rw [Resource.ofPath?, Page.ofPath?_documentPath]

/-- The paths of a resource stand for it. -/
theorem Resource.IsAt.ofPath? {path : Text} {resource : Resource} (h : resource.IsAt path) :
    Resource.ofPath? path = some resource := by
  cases resource with
  | page p => rw [Resource.ofPath?, (Page.ofPath?_eq_some_iff path p).mpr h]
  | health => rcases h with rfl | rfl <;> decide
  | validate => rcases h with rfl | rfl <;> decide
  | documents => rcases h with rfl | rfl <;> decide
  | document id =>
    obtain ⟨⟨hne, hslash⟩, rfl⟩ := h
    rw [Resource.ofPath?_documentPath, Resource.ofOwnPath?, pieces_documentPath hslash]
    simp [hne]
  | view id v =>
    obtain ⟨⟨hne, hslash⟩, hpath⟩ := h
    obtain ⟨segment, hsegment, hword, rfl⟩ : ∃ segment, .char '/' ∉ segment ∧
        isWord v.word segment = true ∧ path = documentPath id ++ [.char '/'] ++ segment := by
      rcases hpath with rfl | rfl
      · refine ⟨.ofString v.word, ?_, by simp [isWord], rfl⟩
        cases v <;> decide
      · refine ⟨.ofString (v.word ++ "\n"), ?_, by simp [isWord], ?_⟩
        · cases v <;> decide
        · rw [View.path, Text.ofString_append, List.append_assoc]
          rfl
    have hview := (View.ofSegment?_eq_some_iff segment v).mpr hword
    have hown : Resource.ofPath? (documentPath id ++ [.char '/'] ++ segment) =
        Resource.ofOwnPath? (documentPath id ++ [.char '/'] ++ segment) := by
      rw [documentPath, List.append_assoc, List.append_assoc]
      exact Resource.ofPath?_documentPath _
    rw [hown, Resource.ofOwnPath?, pieces_segment hslash hsegment]
    simp [hne, hview]

/-- What a request asks for, if it asks for anything. -/
def Request.endpoint? (request : Request) : Option Endpoint :=
  (Resource.ofPath? request.path).bind fun resource =>
    Route.target? request.method resource.routes

/-- The routes find an endpoint exactly when the request addresses it. -/
theorem Request.endpoint?_eq_some_iff (request : Request) (e : Endpoint) :
    request.endpoint? = some e ↔ request.Addresses e := by
  have hresource : ∀ resource : Resource, Resource.ofPath? request.path = some resource ↔
      resource.IsAt request.path := fun _ => ⟨Resource.IsAt.of_ofPath?, Resource.IsAt.ofPath?⟩
  simp only [Request.endpoint?, Option.bind_eq_some_iff, hresource]
  constructor
  · rintro ⟨resource, hat, he⟩
    cases resource <;> simp only [Resource.routes, Route.target?, List.find?_cons] at he <;>
      grind [Request.Addresses, Page.methods]
  · intro h
    cases e <;> grind [Request.Addresses, Resource.routes, Route.target?, Page.methods]

/-- A request that sends JSON in one chunk. -/
def Request.sending (method path json : String) : Request where
  method
  host := .ofString "test"
  path := .ofString path
  query := []
  contentType := some (.ofString "application/json")
  contentLength := none
  arrival := .whole [Text.Utf8.encode (.ofString json)]

/-- Room for bodies and for all reports to go equally deep. -/
def Room.even (depth : Nat) : Room := ⟨depth, ⟨depth, depth⟩, ⟨depth, depth⟩⟩

/-- The value of a check that passed. -/
def value? {α : Type} : Checked α → Option α
  | .ok a => some a
  | .failed _ => none

theorem value?_eq_some_iff {α : Type} (c : Checked α) (a : α) :
    value? c = some a ↔ c = .ok a := by
  cases c <;> simp [value?]

/-- The body with which a request passes the limit. -/
def Request.body? (request : Request) : Option (List UInt8) :=
  match Limit.verdict request with
  | .admitted body => some body
  | _ => none

/-- The content that a request brings, with containers nested no deeper than `depth`. -/
def Request.content? (request : Request) (depth : Nat) : Option Content :=
  request.body?.bind fun body => (Content.ofBytes depth request.contentType body).toOption

/-- The text that a request brings. -/
def Request.text? (request : Request) (depth : Nat) : Option Text :=
  (request.content? depth).bind fun content => value? content.text

/-- The document to open that a request brings. -/
def Request.opening? (request : Request) (depth : Nat) : Option Content.Opening :=
  (request.content? depth).bind fun content => value? content.opening

/-- The position that a request asks about. -/
def Request.position? (request : Request) : Option (Int × Int) := value? (App.position request)

theorem Request.body?_eq_some_iff (request : Request) (body : List UInt8) :
    request.body? = some body ↔ Limit.verdict request = .admitted body := by
  unfold Request.body?
  split <;> simp_all

theorem Request.content?_eq_some_iff (request : Request) (depth : Nat) (content : Content) :
    request.content? depth = some content ↔
      ∃ body, request.body? = some body ∧
        Content.ofBytes depth request.contentType body = .ok content := by
  have hok : ∀ result : Except Json.Fault Content, result.toOption = some content ↔
      result = .ok content := by
    intro result
    cases result <;> simp [Except.toOption]
  simp only [Request.content?, Option.bind_eq_some_iff, hok]

theorem Request.text?_eq_some_iff (request : Request) (depth : Nat) (text : Text) :
    request.text? depth = some text ↔
      ∃ content, request.content? depth = some content ∧ content.text = .ok text := by
  simp only [Request.text?, Option.bind_eq_some_iff, value?_eq_some_iff]

theorem Request.opening?_eq_some_iff (request : Request) (depth : Nat)
    (opening : Content.Opening) :
    request.opening? depth = some opening ↔
      ∃ content, request.content? depth = some content ∧ content.opening = .ok opening := by
  simp only [Request.opening?, Option.bind_eq_some_iff, value?_eq_some_iff]

/-- A request that passes the limit is served at the endpoint that it addresses. -/
theorem App.step_eq_serve (app : App) {request : Request} {body : List UInt8} {e : Endpoint}
    (hbody : request.body? = some body) (he : request.Addresses e) :
    app.step request = app.serve request body e := by
  obtain ⟨resource, hresource, hendpoint⟩ :=
    Option.bind_eq_some_iff.mp ((request.endpoint?_eq_some_iff e).mpr he)
  rw [App.step, (request.body?_eq_some_iff body).mp hbody]
  simp only [App.route, hresource, hendpoint]

namespace App

variable {app : App} {store : Store} {request : Request}

/-- A request that brings a document to open has it opened. -/
theorem step_load (hstore : app.store = some store) (he : request.Addresses .load)
    {opening : Content.Opening} (hopening : request.opening? app.room.depth = some opening) :
    app.step request = app.load store opening := by
  obtain ⟨content, hcontent, hopening⟩ := (request.opening?_eq_some_iff _ opening).mp hopening
  obtain ⟨body, hbody, hcontent⟩ := (request.content?_eq_some_iff _ content).mp hcontent
  rw [app.step_eq_serve hbody he]
  simp only [serve, withContent, hcontent, withStore, hstore, checked, hopening]

/-- A request that brings a text for a document has it changed. -/
theorem step_change (hstore : app.store = some store) {id text : Text}
    (he : request.Addresses (.change id)) (htext : request.text? app.room.depth = some text) :
    app.step request = app.change store id text := by
  obtain ⟨content, hcontent, htext⟩ := (request.text?_eq_some_iff _ text).mp htext
  obtain ⟨body, hbody, hcontent⟩ := (request.content?_eq_some_iff _ content).mp hcontent
  rw [app.step_eq_serve hbody he]
  simp only [serve, withContent, hcontent, withStore, hstore, checked, htext]

theorem step_close (hstore : app.store = some store) {id : Text} {body : List UInt8}
    (he : request.Addresses (.close id)) (hbody : request.body? = some body) :
    app.step request = app.close store id := by
  rw [app.step_eq_serve hbody he]
  simp only [serve, withStore, hstore]

theorem step_list (hstore : app.store = some store) {body : List UInt8}
    (he : request.Addresses .list) (hbody : request.body? = some body) :
    app.step request = app.answer (.granted 200 (.listing store.summaries)) := by
  rw [app.step_eq_serve hbody he]
  simp only [serve, withStore, hstore]

theorem step_view (hstore : app.store = some store) {id : Text} {v : View} {body : List UInt8}
    (he : request.Addresses (.view id v)) (hbody : request.body? = some body) :
    app.step request = app.view request store id v := by
  rw [app.step_eq_serve hbody he]
  simp only [serve, withStore, hstore]

end App

end Crontab.Web
