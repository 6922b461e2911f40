import Crontab.Proofs.Store.Restriction
import Crontab.Proofs.Web.Atomic
import Crontab.Proofs.Web.Ids

/-!
# Clients that do not share documents

Clients who keep to their own documents are not disturbed by one another. Fix a class of ids. The
service as the class sees it is the service as if only documents of the class were open, and a
request about one of these does to it what it does to the service itself. Other requests are not
seen at all, so long as no id of the class is made up for them. The answers to requests about the
class are therefore those of a service that got no other requests.
-/

namespace Crontab.Web

/-- The id that a client has chosen for a document to open. -/
def Request.chosenId? (request : Request) (depth : Nat) : Option Text := do
  let content ← request.content? depth
  let fields ← value? content.fields
  let id ← value? (Content.idField fields)
  id.filter (· ≠ [])

/-- The document that a request is about, if it is about one that it names. -/
def Request.document? (request : Request) (depth : Nat) : Option Text :=
  match request.endpoint? with
  | some .load => request.chosenId? depth
  | some e => e.document?
  | none => none

/-- A request is about a document of a class. -/
def Request.isAbout (A : Text → Bool) (depth : Nat) (request : Request) : Bool :=
  (request.document? depth).any A

/-- A request opens a document and leaves it to the service to make up an id. -/
def Request.asksForId (request : Request) (depth : Nat) : Bool :=
  request.endpoint? = some .load && (request.opening? depth).any (·.id.isNone)

/-- A document is opened under the id that the client has chosen. -/
theorem Request.chosenId?_of_opening? {request : Request} {depth : Nat}
    {opening : Content.Opening} (h : request.opening? depth = some opening) :
    request.chosenId? depth = opening.id := by
  obtain ⟨content, hcontent, hopening⟩ := (request.opening?_eq_some_iff depth opening).mp h
  obtain ⟨fields, given, hfields, _, hgiven, hid⟩ := Content.opening_eq_ok hopening
  rw [Request.chosenId?, hcontent, hid]
  simp [hfields, hgiven, value?]

theorem Request.document?_of_addresses {request : Request} {e : Endpoint}
    (h : request.Addresses e) (depth : Nat) :
    request.document? depth = if e = .load then request.chosenId? depth else e.document? := by
  rw [Request.document?, (request.endpoint?_eq_some_iff e).mpr h]
  cases e <;> simp

/-- A request about a document of a class addresses an endpoint. -/
theorem Request.exists_addresses_of_isAbout {A : Text → Bool} {depth : Nat} {request : Request}
    (h : request.isAbout A depth = true) : ∃ e, request.Addresses e := by
  cases he : request.endpoint? with
  | none => simp [Request.isAbout, Request.document?, he] at h
  | some e => exact ⟨e, (request.endpoint?_eq_some_iff e).mp he⟩

namespace App

variable {A : Text → Bool}

/-- The service as if only the documents of a class were open and no id had been made up. -/
def restrict (A : Text → Bool) (app : App) : App :=
  { app with store := app.store.map (Store.restrict A), issued := 0 }

theorem room_restrict (A : Text → Bool) (app : App) : (app.restrict A).room = app.room := rfl

/-- A step as a class of documents sees it. -/
def restricted (A : Text → Bool) (taken : Step App Response) : Step App Response :=
  { taken with state := taken.state.restrict A }

section Restricted

variable (app : App)

theorem restricted_checked {α : Type} {reach : Reach} {value : Checked α}
    {next next' : α → Step App Response}
    (h : ∀ a, value = .ok a → restricted A (next a) = next' a) :
    restricted A (app.checked reach value next) = (app.restrict A).checked reach value next' := by
  cases value with
  | ok a => exact h a rfl
  | failed ps => rfl

theorem restricted_withContent {request : Request} {body : List UInt8}
    {next next' : Content → Step App Response}
    (h : ∀ content, Content.ofBytes app.room.depth request.contentType body = .ok content →
      restricted A (next content) = next' content) :
    restricted A (app.withContent request body next) =
      (app.restrict A).withContent request body next' := by
  rw [withContent, withContent, room_restrict]
  split
  · next content hcontent => exact h content hcontent
  · rfl
  · rfl

theorem restricted_withStore {next next' : Store → Step App Response}
    (h : ∀ store, restricted A (next store) = next' (store.restrict A)) :
    restricted A (app.withStore next) = (app.restrict A).withStore next' := by
  rw [withStore, withStore, restrict]
  cases hstore : app.store with
  | none => simp only [Option.map_none, restricted, answer, restrict, hstore]
  | some store => exact h store

theorem restricted_look {α : Type} (id : Text) (found : Except Store.NotOpen α)
    (payload : α → Payload) :
    restricted A (app.look id found payload) = (app.restrict A).look id found payload := by
  cases found <;> rfl

variable (store : Store)

theorem restricted_load {opening : Content.Opening} {id : Text} (hid : opening.id = some id)
    (h : A id = true) :
    restricted A (app.load store opening) =
      (app.restrict A).load (store.restrict A) opening := by
  simp only [load, hid, restricted, restrict, Option.map_some, Store.restrict_write_of_mem h]
  rfl

theorem restricted_change {id : Text} (h : A id = true) (text : Text) :
    restricted A (app.change store id text) =
      (app.restrict A).change (store.restrict A) id text := by
  rw [change, change, (Store.sameAt_restrict h store).holds]
  split
  · simp only [restricted, restrict, Option.map_some, Store.restrict_write_of_mem h]
    rfl
  · rfl

theorem restricted_close {id : Text} (h : A id = true) :
    restricted A (app.close store id) = (app.restrict A).close (store.restrict A) id := by
  rw [close, close, (Store.sameAt_restrict h store).holds]
  split
  · simp only [restricted, restrict, Option.map_some, Store.restrict_close]
  · rfl

theorem restricted_view (request : Request) {id : Text} (h : A id = true) (v : View) :
    restricted A (app.view request store id v) =
      (app.restrict A).view request (store.restrict A) id v := by
  have hsame := Store.sameAt_restrict h store
  cases v with
  | tokens =>
    rw [view, view, hsame.tokensOf]
    exact app.restricted_look id _ _
  | diagnostics =>
    rw [view, view, Store.diagnostics, Store.diagnostics, hsame.tokensOf]
    exact app.restricted_look id _ _
  | hover =>
    simp only [view, Store.hover, hsame.find]
    exact app.restricted_checked fun _ _ => app.restricted_look id _ _
  | highlights =>
    rw [view, view, Store.highlights, Store.highlights, hsame.find]
    exact app.restricted_look id _ _

/-- A request about a document of the class does the same to the service as the class sees it. -/
theorem restricted_step {request : Request} (h : request.isAbout A app.room.depth = true) :
    restricted A (app.step request) = (app.restrict A).step request := by
  obtain ⟨e, he⟩ := Request.exists_addresses_of_isAbout h
  rw [Request.isAbout, Request.document?_of_addresses he] at h
  cases hbody : request.body? with
  | none =>
    obtain ⟨response, _, hstep⟩ := step_of_body?_eq_none hbody
    rw [hstep, hstep]
    rfl
  | some body =>
    rw [app.step_eq_serve hbody he, (app.restrict A).step_eq_serve hbody he]
    cases e with
    | load =>
      refine app.restricted_withContent fun content hcontent =>
        app.restricted_withStore fun store => app.restricted_checked fun opening hopening => ?_
      have hchosen : request.chosenId? app.room.depth = opening.id :=
        Request.chosenId?_of_opening? ((request.opening?_eq_some_iff _ opening).mpr ⟨content,
          (request.content?_eq_some_iff _ content).mpr ⟨body, hbody, hcontent⟩, hopening⟩)
      rw [if_pos rfl, hchosen] at h
      cases hid : opening.id with
      | none => exact absurd (hid ▸ h) nofun
      | some id => exact app.restricted_load store hid (by rwa [hid] at h)
    | change id =>
      exact app.restricted_withContent fun content _ => app.restricted_withStore fun store =>
        app.restricted_checked fun text _ => app.restricted_change store h text
    | close id => exact app.restricted_withStore fun store => app.restricted_close store h
    | view id v => exact app.restricted_withStore fun store => app.restricted_view store request h v
    | _ => exact absurd h nofun

/-- A service is seen alike before and after another store that is seen alike takes the place of its
own. -/
theorem restrict_of_replaced {app next : App} {store other : Store}
    (hkept : next.IsSetUpAs app) (hbefore : app.store = some store)
    (hafter : next.store = some other) (h : other.restrict A = store.restrict A) :
    next.restrict A = app.restrict A := by
  rw [restrict, restrict, hkept.source_eq, hkept.room_eq, hbefore, hafter, Option.map_some,
    Option.map_some, h]

/-- A request that is not about the class is not seen by it. -/
theorem restrict_step_of_not {request : Request} (h : ¬request.isAbout A app.room.depth = true)
    (hid : request.asksForId app.room.depth = true → ∀ n, ¬A (freshId n) = true) :
    (app.step request).state.restrict A = app.restrict A := by
  have hforeign : ∀ e id, request.Addresses e →
      (if e = .load then request.chosenId? app.room.depth else e.document?) = some id →
        ¬A id = true := by
    intro e id he hdocument
    rwa [Request.isAbout, Request.document?_of_addresses he, hdocument] at h
  cases effect_step app request with
  | refused hstate _ => rw [hstate]
  | shown _ _ hstate _ => rw [hstate]
  | opened he _ _ _ _ =>
    rcases app.step_load_cases he with ⟨hstate, _⟩ | ⟨store, opening, hstore, hopening, hstep⟩
    · rw [hstate]
    · have hA : ¬A (app.idFor opening) = true := by
        rw [idFor]
        cases hchosen : opening.id with
        | some id =>
          exact hforeign _ id he
            (by rw [if_pos rfl, Request.chosenId?_of_opening? hopening, hchosen])
        | none =>
          have hasks : request.asksForId app.room.depth = true := by
            simp [Request.asksForId, (request.endpoint?_eq_some_iff _).mpr he, hopening, hchosen]
          exact hid hasks _
      rw [hstep]
      exact restrict_of_replaced (app.isSetUpAs_load store opening) hstore
        (app.load_store store opening) (Store.restrict_write_of_not hA store _)
  | changed he hbefore _ hkept hafter _ =>
    exact restrict_of_replaced hkept hbefore hafter
      (Store.restrict_write_of_not (hforeign _ _ he rfl) _ _)
  | closed he hbefore _ hkept hafter _ =>
    exact restrict_of_replaced hkept hbefore hafter
      (Store.restrict_close_of_not (hforeign _ _ he rfl) _)

end Restricted

/-- The answers to the requests about a class of documents, in order. -/
def answersAbout (A : Text → Bool) (app : App) (requests : List Request) : List Response :=
  ((requests.zip (Step.trace step app requests)).filter fun e =>
    e.1.isAbout A app.room.depth).map fun e => e.2.answer

theorem answersAbout_cons (A : Text → Bool) (app : App) (request : Request)
    (requests : List Request) :
    answersAbout A app (request :: requests) =
      if request.isAbout A app.room.depth then
        (app.step request).answer :: answersAbout A (app.step request).state requests
      else answersAbout A (app.step request).state requests := by
  rw [answersAbout, answersAbout, (isSetUpAs_step app request).room_eq, Step.trace,
    List.zip_cons_cons, List.filter_cons]
  split <;> rfl

/-- A class of documents sees a run of requests as if only those about it had come. -/
theorem restrict_run {depth : Nat} {requests : List Request}
    (hids : ∀ request ∈ requests, request.asksForId depth = true → ∀ n, ¬A (freshId n) = true)
    {app : App} (hdepth : app.room.depth = depth) :
    (Step.run step app requests).restrict A =
        Step.run step (app.restrict A) (requests.filter (Request.isAbout A depth)) ∧
      answersAbout A app requests =
        (Step.trace step (app.restrict A)
          (requests.filter (Request.isAbout A depth))).map Step.answer := by
  induction requests generalizing app with
  | nil => exact ⟨rfl, rfl⟩
  | cons request requests ih =>
    have hnext : (app.step request).state.room.depth = depth := by
      rw [(isSetUpAs_step app request).room_eq, hdepth]
    have ih := ih (fun r hr => hids r (List.mem_cons_of_mem _ hr)) hnext
    have hid := hids request List.mem_cons_self
    rw [answersAbout_cons]
    subst hdepth
    by_cases h : request.isAbout A app.room.depth = true
    · have hstep := app.restricted_step h
      have hstate : (app.step request).state.restrict A =
          ((app.restrict A).step request).state := by rw [← hstep, restricted]
      have hanswer : (app.step request).answer = ((app.restrict A).step request).answer := by
        rw [← hstep, restricted]
      rw [hstate] at ih
      rw [List.filter_cons_of_pos h, if_pos h, hanswer, ih.2]
      exact ⟨ih.1, rfl⟩
    · rw [app.restrict_step_of_not h hid] at ih
      rw [List.filter_cons_of_neg h, if_neg h]
      exact ih

/-- Two runs of requests cannot be told apart by the clients of a class of documents. -/
structure Indistinguishable (A : Text → Bool) (source : Text) (room : Room) (setUp : Bool)
    (left right : List Request) : Prop where
  /-- Requests about the class are answered alike. -/
  answers : answersAbout A (initial source room setUp) left =
    answersAbout A (initial source room setUp) right
  /-- The lists of all documents at the end agree on those of the class. -/
  listings : setUp = true → ∃ shown other : List Summary,
    (shown.filter fun s => A s.id) = (other.filter fun s => A s.id) ∧
      ∀ request body, request.body? = some body → request.Addresses .list →
        ((Step.run step (initial source room setUp) left).step request).answer =
            .granted 200 (.listing shown) ∧
          ((Step.run step (initial source room setUp) right).step request).answer =
            .granted 200 (.listing other)

/-- Runs with the same requests about a class of documents cannot be told apart by its clients, if
no document of the class may be opened under an id that the service makes up. -/
theorem indistinguishable_of_filter_eq (A : Text → Bool) (source : Text) (room : Room)
    (setUp : Bool) (left right : List Request)
    (hleft : ∀ request ∈ left, request.asksForId room.depth = true → ∀ n, ¬A (freshId n) = true)
    (hright : ∀ request ∈ right, request.asksForId room.depth = true → ∀ n, ¬A (freshId n) = true)
    (h : left.filter (Request.isAbout A room.depth) =
      right.filter (Request.isAbout A room.depth)) :
    Indistinguishable A source room setUp left right := by
  have hdepth : (initial source room setUp).room.depth = room.depth :=
    congrArg Room.depth (isSound_initial source room setUp).room_eq
  obtain ⟨hrun, hanswers⟩ := restrict_run hleft hdepth
  obtain ⟨hrun', hanswers'⟩ := restrict_run hright hdepth
  rw [h] at hrun hanswers
  constructor
  · rw [hanswers, hanswers']
  · intro hsetUp
    have hstores := congrArg App.store (hrun.trans hrun'.symm)
    have hexists : ∀ requests, ∃ store,
        (Step.run step (initial source room setUp) requests).store = some store := by
      intro requests
      have hsome := (isSound_run source room setUp requests).isSome_store.trans hsetUp
      exact Option.isSome_iff_exists.mp hsome
    obtain ⟨store, hstore⟩ := hexists left
    obtain ⟨other, hother⟩ := hexists right
    simp only [restrict, hstore, hother, Option.map_some, Option.some.injEq] at hstores
    refine ⟨store.summaries, other.summaries, ?_, fun request body hbody he => ⟨?_, ?_⟩⟩
    · rw [← Store.summaries_restrict, ← Store.summaries_restrict, hstores]
    · rw [step_list hstore he hbody, answer]
    · rw [step_list hother he hbody, answer]

/-- A client that opens a document and asks for its tokens is answered alike whether it is alone or
another client opens and closes a document of its own around it. -/
theorem indistinguishable_between_others :
    let own := [.sending "POST" "/documents" "\x7b\"document_id\": \"m\", \"text\": \"# m\"\x7d",
      .sending "GET" "/documents/m/tokens" ""]
    let others := [.sending "POST" "/documents" "\x7b\"document_id\": \"n\", \"text\": \"x\"\x7d",
      .sending "POST" "/documents" "\x7b\"text\": 1\x7d"]
    let all := others ++ own ++ [.sending "DELETE" "/documents/n" ""]
    let isOwn := Request.isAbout (· = .ofString "m") 100
    (∀ request ∈ own, ¬request.asksForId 100 = true) ∧
      (∀ request ∈ all, ¬request.asksForId 100 = true) ∧
        own.filter isOwn = own ∧ all.filter isOwn = own ∧
          Indistinguishable (· = .ofString "m") [] (.even 100) true own all := by
  intro own others all isOwn
  have hown : ∀ request ∈ own, ¬request.asksForId 100 = true := by decide +kernel
  have hall : ∀ request ∈ all, ¬request.asksForId 100 = true := by decide +kernel
  have hself : own.filter isOwn = own := by decide +kernel
  have hfilter : all.filter isOwn = own := by decide +kernel
  exact ⟨hown, hall, hself, hfilter, indistinguishable_of_filter_eq _ [] (.even 100) true own all
    (fun request hmem hasks => absurd hasks (hown request hmem))
    (fun request hmem hasks => absurd hasks (hall request hmem)) (hself.trans hfilter.symm)⟩

/-- A client that keeps to a document of its own can keep the list of all documents from being told:
it opens one under an id with a surrogate on its own. -/
theorem listing_untold_for_all :
    let own := [.sending "POST" "/documents" "\x7b\"document_id\": \"m\", \"text\": \"# m\"\x7d"]
    let other := .sending "POST" "/documents" "\x7b\"document_id\": \"\\ud800\", \"text\": \"\"\x7d"
    other.isAbout (· = .ofString "m") 100 = false ∧ other.asksForId 100 = false ∧
      ((Step.run step (initial [] (.even 100) true) own).step (.sending "GET" "/documents" "")).answer =
        .json 200 (.listing [⟨.ofString "m", 1, 1, 0⟩]) ∧
      ((Step.run step (initial [] (.even 100) true) (own ++ [other])).step
        (.sending "GET" "/documents" "")).answer = .failure .answerText := by
  decide +kernel

end App

end Crontab.Web
