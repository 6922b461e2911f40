import Crontab.Proofs.Store.Held
import Crontab.Proofs.Web.Address

/-!
# Effects of requests

A request does one of five things to the service. It is refused, or something is shown, and then
nothing changes; or it opens, changes or closes one document. All that a run of requests keeps
follows from these five: the store stays there if it was set up, signs as the service does, and
keeps the texts of the open documents.
-/

namespace Crontab

namespace Web

/-- A granted request is answered, unless the answer cannot be written. -/
theorem Response.granted_cases (status : Nat) (p : Payload) :
    Response.granted status p = .json status p ∨
      Response.granted status p = .failure .answerText := by
  unfold Response.granted
  split
  · exact Or.inl rfl
  · exact Or.inr rfl

/-- An answer that grants nothing, and that could be written. -/
structure Response.IsRefusal (response : Response) : Prop where
  /-- It is no success. -/
  status : 300 ≤ response.status
  /-- It is not there for want of another answer. -/
  told : response ≠ .failure .answerText

theorem Response.IsRefusal.of_status {response : Response} {status : Nat}
    (h : response.status = status) (hrefusal : 300 ≤ status ∧ status ≠ 500) :
    response.IsRefusal := by
  refine ⟨h ▸ hrefusal.1, ?_⟩
  rintro rfl
  exact hrefusal.2 h.symm

theorem Response.isRefusal_failure {f : Failure} (h : f ≠ .answerText) :
    (Response.failure f).IsRefusal := by
  refine ⟨(by decide : 300 ≤ 500), fun heq => h ?_⟩
  exact Answer.failure.inj (congrArg Response.answer heq)

/-- A report of problems is a refusal, even where it cannot be made. -/
theorem Response.isRefusal_invalid (reach : Reach) (ps : List Problem) :
    (Response.invalid reach ps).IsRefusal := by
  unfold Response.invalid
  dsimp only
  split
  · next obstacle _ => exact isRefusal_failure (by cases obstacle <;> decide)
  · exact .of_status (rfl : _ = 422) (by decide)

theorem Response.isRefusal_documentNotFound (id : Text) :
    (Response.documentNotFound id).IsRefusal :=
  .of_status (rfl : _ = 404) (by decide)

/-- An endpoint only shows something. -/
def Endpoint.Shows : Endpoint → Prop
  | .page _ | .health | .validate | .list | .view _ _ => True
  | .load | .change _ | .close _ => False

/-- The document that an endpoint has in its path. -/
def Endpoint.document? : Endpoint → Option Text
  | .change id | .close id | .view id _ => some id
  | .page _ | .health | .validate | .load | .list => none

/-- A request passes the limit, and what its endpoint checks of it is in order. -/
def Request.IsInOrder (request : Request) (depth : Nat) : Endpoint → Prop
  | .validate | .change _ => ∃ text, request.text? depth = some text
  | .load => ∃ opening, request.opening? depth = some opening
  | .view _ .hover => (∃ body, request.body? = some body) ∧ ∃ p, request.position? = some p
  | _ => ∃ body, request.body? = some body

/-- An answer that shows something. -/
inductive Response.IsShown : Response → Prop where
  /-- It is a page. -/
  | page (p : Page) : IsShown (.page p)
  /-- It is granted. -/
  | granted (p : Payload) : IsShown (.granted 200 p)

namespace App

/-- The service is set up as it was; its documents may have changed. -/
structure IsSetUpAs (next app : App) : Prop where
  /-- It signs alike. -/
  source_eq : next.source = app.source
  /-- It has the same room. -/
  room_eq : next.room = app.room

theorem IsSetUpAs.of_eq {next app : App} (h : next = app) : next.IsSetUpAs app :=
  ⟨congrArg source h, congrArg room h⟩

/-- What a request can do to the service, and how it is told. -/
inductive Effect (app : App) (request : Request) : Step App Response → Prop where
  /-- It is refused. -/
  | refused {taken : Step App Response} (state : taken.state = app)
    (refusal : taken.answer.IsRefusal) : Effect app request taken
  /-- Something is shown. -/
  | shown {taken : Step App Response} {e : Endpoint} (addressed : request.Addresses e)
    (shows : e.Shows) (state : taken.state = app) (answer : taken.answer.IsShown) :
    Effect app request taken
  /-- A document is opened. -/
  | opened {taken : Step App Response} {store : Store} {id text : Text}
    (addressed : request.Addresses .load) (before : app.store = some store)
    (kept : taken.state.IsSetUpAs app)
    (after : taken.state.store = some (store.write id text))
    (answer : taken.answer = .granted 201 (.diagnostics id (store.diagnose text))) :
    Effect app request taken
  /-- An open document is changed. -/
  | changed {taken : Step App Response} {store : Store} {id text : Text}
    (addressed : request.Addresses (.change id)) (before : app.store = some store)
    (held : store.holds id = true) (kept : taken.state.IsSetUpAs app)
    (after : taken.state.store = some (store.write id text))
    (answer : taken.answer = .granted 200 (.diagnostics id (store.diagnose text))) :
    Effect app request taken
  /-- An open document is closed. -/
  | closed {taken : Step App Response} {store : Store} {id : Text}
    (addressed : request.Addresses (.close id)) (before : app.store = some store)
    (held : store.holds id = true) (kept : taken.state.IsSetUpAs app)
    (after : taken.state.store = some (store.close id)) (answer : taken.answer = .noContent) :
    Effect app request taken

section Effect

variable {app : App} {request : Request}

theorem effect_answer {response : Response} (h : response.IsRefusal) :
    app.Effect request (app.answer response) :=
  .refused rfl h

theorem effect_granted {e : Endpoint} (he : request.Addresses e) (hshows : e.Shows) (p : Payload) :
    app.Effect request (app.answer (.granted 200 p)) :=
  .shown he hshows rfl (.granted p)

theorem effect_look {α : Type} {e : Endpoint} (he : request.Addresses e) (hshows : e.Shows)
    (id : Text) (found : Except Store.NotOpen α) (payload : α → Payload) :
    app.Effect request (app.look id found payload) := by
  cases found with
  | ok a => exact effect_granted he hshows (payload a)
  | error e => exact .refused rfl (Response.isRefusal_documentNotFound id)

theorem effect_checked {α : Type} {reach : Reach} {value : Checked α}
    {next : α → Step App Response} (h : ∀ a, app.Effect request (next a)) :
    app.Effect request (app.checked reach value next) := by
  cases value with
  | ok a => exact h a
  | failed ps => exact effect_answer (Response.isRefusal_invalid reach ps)

theorem effect_withContent {body : List UInt8} {next : Content → Step App Response}
    (h : ∀ content, app.Effect request (next content)) :
    app.Effect request (app.withContent request body next) := by
  unfold withContent
  split
  · exact h _
  · exact effect_answer (Response.isRefusal_invalid _ _)
  · exact effect_answer (.of_status (rfl : _ = 400) (by decide))

theorem effect_withStore {next : Store → Step App Response}
    (h : ∀ store, app.store = some store → app.Effect request (next store)) :
    app.Effect request (app.withStore next) := by
  unfold withStore
  split
  · next store hstore => exact h store hstore
  · exact effect_answer (Response.isRefusal_failure (by decide))

theorem effect_view {id : Text} {v : View} (he : request.Addresses (.view id v)) (store : Store) :
    app.Effect request (app.view request store id v) := by
  cases v with
  | tokens => exact effect_look he trivial id _ _
  | diagnostics => exact effect_look he trivial id _ _
  | hover => exact effect_checked fun _ => effect_look he trivial id _ _
  | highlights => exact effect_look he trivial id _ _

/-- Each endpoint does what it is there for, or refuses. -/
theorem effect_serve (body : List UInt8) {e : Endpoint} (he : request.Addresses e) :
    app.Effect request (app.serve request body e) := by
  cases e with
  | page p => exact .shown he trivial rfl (.page p)
  | health => exact effect_granted he trivial _
  | validate =>
    exact effect_withContent fun _ => effect_checked fun _ => effect_granted he trivial _
  | load =>
    exact effect_withContent fun _ => effect_withStore fun store hstore => effect_checked fun _ =>
      .opened he hstore ⟨rfl, rfl⟩ rfl rfl
  | list => exact effect_withStore fun store _ => effect_granted he trivial _
  | change id =>
    refine effect_withContent fun _ => effect_withStore fun store hstore =>
      effect_checked fun _ => ?_
    unfold change
    split
    · next hheld => exact .changed he hstore hheld ⟨rfl, rfl⟩ rfl rfl
    · exact effect_answer (Response.isRefusal_documentNotFound id)
  | close id =>
    refine effect_withStore fun store hstore => ?_
    unfold close
    split
    · next hheld => exact .closed he hstore hheld ⟨rfl, rfl⟩ rfl rfl
    · exact effect_answer (Response.isRefusal_documentNotFound id)
  | view id v => exact effect_withStore fun store _ => effect_view he store

/-- Every request is refused, or does what the endpoint that it addresses is there for. -/
theorem effect_step (app : App) (request : Request) : app.Effect request (app.step request) := by
  unfold step
  split
  · exact effect_answer (.of_status (rfl : _ = 413) (by decide))
  · exact effect_answer (Response.isRefusal_failure (by decide))
  · exact effect_answer (Response.isRefusal_failure (by decide))
  · next body hbody =>
    unfold route
    split
    · next resource hresource =>
      split
      · next e he =>
        refine effect_serve body ((request.endpoint?_eq_some_iff e).mp ?_)
        rw [Request.endpoint?, hresource]
        exact he
      · exact effect_answer (.of_status (rfl : _ = 405) (by decide))
    · split
      · exact effect_answer (.of_status (rfl : _ = 307) (by decide))
      · exact effect_answer (.of_status (rfl : _ = 404) (by decide))

end Effect

/-- A request leaves the service set up as it was. -/
theorem isSetUpAs_step (app : App) (request : Request) : (app.step request).state.IsSetUpAs app := by
  cases effect_step app request with
  | refused hstate _ => exact .of_eq hstate
  | shown _ _ hstate _ => exact .of_eq hstate
  | opened _ _ hkept _ _ => exact hkept
  | changed _ _ _ hkept _ _ => exact hkept
  | closed _ _ _ hkept _ _ => exact hkept

/-- A service before its first request, with its store set up or not. -/
def initial (source : Text) (room : Room) (setUp : Bool) : App :=
  if setUp then start source room else storeless source room

/-- A service whose store, if it was set up, keeps texts and signs as the service does. -/
structure IsSound (source : Text) (room : Room) (setUp : Bool) (app : App) : Prop where
  /-- The service signs as at first. -/
  source_eq : app.source = source
  /-- The service has the room that it had at first. -/
  room_eq : app.room = room
  /-- The store is there if it was set up. -/
  isSome_store : app.store.isSome = setUp
  /-- The store signs as the service does. -/
  store_source : ∀ store, app.store = some store → store.source = source
  /-- The store keeps the texts of the open documents. -/
  keeps : ∀ store, app.store = some store → ∃ texts, store.Keeps texts

/-- A sound service holds a text for every open document. -/
theorem IsSound.exists_holdsText {source : Text} {room : Room} {setUp : Bool} {app : App}
    (h : app.IsSound source room setUp) {store : Store} (hstore : app.store = some store) {id : Text}
    (hid : store.holds id = true) : ∃ text, store.HoldsText id text := by
  obtain ⟨texts, hkeeps⟩ := h.keeps store hstore
  exact hkeeps.exists_holdsText hid

theorem isSound_initial (source : Text) (room : Room) (setUp : Bool) :
    (initial source room setUp).IsSound source room setUp := by
  cases setUp with
  | false => exact ⟨rfl, rfl, rfl, nofun, nofun⟩
  | true =>
    refine ⟨rfl, rfl, rfl, ?_, ?_⟩
    · rintro store ⟨⟩
      rfl
    · rintro store ⟨⟩
      exact ⟨_, Store.keeps_empty source⟩

/-- A service stays sound when another store that signs alike and keeps texts takes the place of
its own. -/
theorem IsSound.of_replaced {source : Text} {room : Room} {setUp : Bool} {app next : App}
    {store other : Store} (h : app.IsSound source room setUp) (hbefore : app.store = some store)
    (hkept : next.IsSetUpAs app) (hafter : next.store = some other)
    (hother : other.source = store.source) (hkeeps : ∃ texts, other.Keeps texts) :
    next.IsSound source room setUp := by
  constructor
  · rw [hkept.source_eq, h.source_eq]
  · rw [hkept.room_eq, h.room_eq]
  · rw [hafter, ← h.isSome_store, hbefore]
    rfl
  · intro found hfound
    obtain rfl : other = found := Option.some.inj (hafter.symm.trans hfound)
    rw [hother, h.store_source store hbefore]
  · intro found hfound
    obtain rfl : other = found := Option.some.inj (hafter.symm.trans hfound)
    exact hkeeps

/-- A request leaves a sound service sound. -/
theorem IsSound.step {source : Text} {room : Room} {setUp : Bool} {app : App}
    (h : app.IsSound source room setUp) (request : Request) :
    (app.step request).state.IsSound source room setUp := by
  cases effect_step app request with
  | refused hstate _ => rwa [hstate]
  | shown _ _ hstate _ => rwa [hstate]
  | opened _ hbefore hkept hafter _ =>
    obtain ⟨texts, hkeeps⟩ := h.keeps _ hbefore
    exact h.of_replaced hbefore hkept hafter rfl ⟨_, hkeeps.write _ _⟩
  | changed _ hbefore _ hkept hafter _ =>
    obtain ⟨texts, hkeeps⟩ := h.keeps _ hbefore
    exact h.of_replaced hbefore hkept hafter rfl ⟨_, hkeeps.write _ _⟩
  | closed _ hbefore _ hkept hafter _ =>
    obtain ⟨texts, hkeeps⟩ := h.keeps _ hbefore
    exact h.of_replaced hbefore hkept hafter rfl ⟨_, hkeeps.close _⟩

/-- Every run of requests leaves the service sound. -/
theorem isSound_run (source : Text) (room : Room) (setUp : Bool) (requests : List Request) :
    (Step.run step (initial source room setUp) requests).IsSound source room setUp := by
  induction requests using List.reverseRecOn with
  | nil => exact isSound_initial source room setUp
  | append_singleton requests request ih =>
    rw [Step.run_concat]
    exact ih.step request

/-- Every run of requests leaves the service the room that it had. -/
theorem room_run (source : Text) (room : Room) (setUp : Bool) (requests : List Request) :
    (Step.run step (initial source room setUp) requests).room = room :=
  (isSound_run source room setUp requests).room_eq

end App

end Web

end Crontab
