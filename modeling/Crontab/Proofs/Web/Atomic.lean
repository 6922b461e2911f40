import Crontab.Proofs.Web.Effect

/-!
# Requests and the documents they change

A request is about one document at most. The documents change where the status tells of it: one was
opened, changed or closed, and all others are as they were. There is one more way. A document is
written before the answer about it is, and where that answer cannot be written the document stays
written, although the request fails. A request in order about a document in its path is told that
there is none exactly when the document is not open.
-/

namespace Crontab.Web

theorem Request.Addresses.unique {request : Request} {e other : Endpoint}
    (h : request.Addresses e) (hother : request.Addresses other) : e = other := by
  rw [← request.endpoint?_eq_some_iff] at h hother
  exact Option.some.inj (h.symm.trans hother)

namespace App

/-- An answer tells that a document was opened, changed or closed. -/
def TellsChange (request : Request) (response : Response) : Prop :=
  (request.Addresses .load ∧ response.status = 201) ∨
    (∃ id, request.Addresses (.change id) ∧ response.status = 200) ∨
      ∃ id, request.Addresses (.close id) ∧ response.status = 204

/-- The answer about a document that was to be opened or changed cannot be written. -/
def IsUntold (request : Request) (response : Response) : Prop :=
  (request.Addresses .load ∨ ∃ id, request.Addresses (.change id)) ∧
    response = .failure .answerText

/-- How far a request changes the documents, and when it is told that there is no such document. -/
structure Atomic (setUp : Bool) (app : App) (request : Request) (taken : Step App Response) :
    Prop where
  /-- The documents stay as they are unless the answer tells otherwise or cannot be written. -/
  unchanged : ¬TellsChange request taken.answer → ¬IsUntold request taken.answer →
    taken.state.store = app.store
  /-- Opening a document changes that document alone, the one that the answer names. -/
  opened : request.Addresses .load → taken.answer.status = 201 →
    ∃ store next id ds, app.store = some store ∧ taken.state.store = some next ∧
      taken.answer.answer = .json (.diagnostics id ds) ∧ Store.SameBut id store next
  /-- Changing a document changes that document alone, which was open and keeps its place. -/
  changed : ∀ id, request.Addresses (.change id) → taken.answer.status = 200 →
    ∃ store next, app.store = some store ∧ taken.state.store = some next ∧
      store.holds id = true ∧ Store.SameBut id store next ∧
        next.tokens.names = store.tokens.names ∧ next.lines.names = store.lines.names
  /-- Closing a document takes out that document, which was open, and nothing else. -/
  closed : ∀ id, request.Addresses (.close id) → taken.answer.status = 204 →
    ∃ store, app.store = some store ∧ store.holds id = true ∧
      taken.state.store = some (store.close id)
  /-- Where the answer cannot be written, the document has been written all the same, and no
  other. -/
  untold : IsUntold request taken.answer →
    ∃ store id text, app.store = some store ∧ taken.state.store = some (store.write id text) ∧
      Store.SameBut id store (store.write id text) ∧
        ∀ other, request.Addresses (.change other) → other = id ∧ store.holds id = true
  /-- A request in order about a document is told that there is none exactly if it is not open. -/
  notFound : setUp = true → ∃ store, app.store = some store ∧
    ∀ e id, e.document? = some id → request.Addresses e → request.IsInOrder app.room.depth e →
      (taken.answer.status = 404 ↔ store.holds id = false)

/-- What is granted is not missing. -/
theorem status_granted_ne (p : Payload) : (Response.granted 200 p).status ≠ 404 := by
  rcases Response.granted_cases 200 p with h | h
  · rw [h]
    exact (by decide : 200 ≠ 404)
  · rw [h]
    exact (by decide : 500 ≠ 404)

/-- What is shown of a document is missing exactly when the store finds nothing. -/
theorem status_look {α : Type} (app : App) (id : Text) (found : Except Store.NotOpen α)
    (payload : α → Payload) :
    (app.look id found payload).answer.status = 404 ↔ ∃ e, found = .error e := by
  cases found with
  | ok a => simpa [look, answer] using status_granted_ne (payload a)
  | error e => exact iff_of_true rfl ⟨e, rfl⟩

/-- A part of a document is missing exactly when the document is not open. -/
theorem status_view (app : App) {request : Request} {store : Store} {texts : Register Text}
    (hkeeps : store.Keeps texts) (id : Text) (v : View)
    (hposition : v = .hover → ∃ p, request.position? = some p) :
    (app.view request store id v).answer.status = 404 ↔ store.holds id = false := by
  cases hheld : store.holds id with
  | true =>
    obtain ⟨text, htext⟩ := hkeeps.exists_holdsText hheld
    cases v with
    | tokens => simp [view, status_look, htext.tokensOf]
    | diagnostics => simp [view, status_look, htext.diagnostics]
    | hover =>
      obtain ⟨p, hp⟩ := hposition rfl
      simp [view, checked, (value?_eq_some_iff _ p).mp hp, status_look, htext.hover]
    | highlights => simp [view, status_look, htext.highlights]
  | false =>
    obtain ⟨htokens, hlines⟩ := hkeeps.get?_eq_none hheld
    have hfind := Store.find_eq_error hlines
    have htokensOf : store.tokensOf id = .error ⟨id⟩ := by
      rw [Store.tokensOf, Store.look, htokens]
    cases v with
    | tokens => simp [view, status_look, htokensOf]
    | diagnostics => simp [view, status_look, Store.diagnostics, htokensOf, Except.map]
    | hover =>
      obtain ⟨p, hp⟩ := hposition rfl
      simp [view, checked, (value?_eq_some_iff _ p).mp hp, status_look, Store.hover, hfind,
        Except.map]
    | highlights => simp [view, status_look, Store.highlights, hfind, Except.map]

theorem status_change (app : App) (store : Store) (id text : Text) :
    (app.change store id text).answer.status = 404 ↔ store.holds id = false := by
  cases hheld : store.holds id with
  | true =>
    have hgranted := status_granted_ne (.diagnostics id (store.diagnose text))
    simpa [change, hheld] using hgranted
  | false => simp [change, hheld, answer, Response.documentNotFound, Response.json]

theorem status_close (app : App) (store : Store) (id : Text) :
    (app.close store id).answer.status = 404 ↔ store.holds id = false := by
  cases hheld : store.holds id <;>
    simp [close, hheld, answer, Response.documentNotFound, Response.json, Response.noContent]

/-- A request in order about a document is told that there is none exactly if it is not open. -/
theorem status_step {app : App} {store : Store} (hstore : app.store = some store)
    {texts : Register Text} (hkeeps : store.Keeps texts) {request : Request} {e : Endpoint}
    {id : Text} (hid : e.document? = some id) (he : request.Addresses e)
    (hin : request.IsInOrder app.room.depth e) :
    (app.step request).answer.status = 404 ↔ store.holds id = false := by
  cases e with
  | change other =>
    obtain rfl : other = id := Option.some.inj hid
    obtain ⟨text, htext⟩ := hin
    rw [step_change hstore he htext]
    exact status_change app store other text
  | close other =>
    obtain rfl : other = id := Option.some.inj hid
    obtain ⟨body, hbody⟩ := hin
    rw [step_close hstore he hbody]
    exact status_close app store other
  | view other v =>
    obtain rfl : other = id := Option.some.inj hid
    obtain ⟨body, hbody⟩ : ∃ body, request.body? = some body := by
      cases v with
      | hover => exact hin.1
      | _ => exact hin
    have hposition : v = .hover → ∃ p, request.position? = some p := by
      rintro rfl
      exact hin.2
    rw [step_view hstore he hbody]
    exact status_view app hkeeps other v hposition
  | _ => exact absurd hid nofun

/-- What is granted tells its status, or cannot be written. -/
theorem status_of_granted {response : Response} {status : Nat} {p : Payload}
    (h : response = .granted status p) :
    (response.status = status ∧ response.answer = .json p) ∨ response = .failure .answerText := by
  rcases Response.granted_cases status p with hp | hp
  · rw [hp] at h
    exact Or.inl ⟨by rw [h]; rfl, by rw [h]; rfl⟩
  · exact Or.inr (h.trans hp)

/-- The documents change only where the answer tells of it or cannot be written. -/
theorem Effect.unchanged {app : App} {request : Request} {taken : Step App Response}
    (h : app.Effect request taken) (htells : ¬TellsChange request taken.answer)
    (huntold : ¬IsUntold request taken.answer) : taken.state.store = app.store := by
  cases h with
  | refused hstate _ => rw [hstate]
  | shown _ _ hstate _ => rw [hstate]
  | opened he _ _ _ hanswer =>
    rcases status_of_granted hanswer with ⟨hstatus, _⟩ | hfailure
    · exact absurd (Or.inl ⟨he, hstatus⟩) htells
    · exact absurd ⟨Or.inl he, hfailure⟩ huntold
  | changed he _ _ _ _ hanswer =>
    rcases status_of_granted hanswer with ⟨hstatus, _⟩ | hfailure
    · exact absurd (Or.inr (Or.inl ⟨_, he, hstatus⟩)) htells
    · exact absurd ⟨Or.inr ⟨_, he⟩, hfailure⟩ huntold
  | closed he _ _ _ _ hanswer =>
    refine absurd (Or.inr (Or.inr ⟨_, he, ?_⟩)) htells
    rw [hanswer]
    rfl

/-- A document that was opened is the one that the answer names, and no other has changed. -/
theorem Effect.of_created {app : App} {request : Request} {taken : Step App Response}
    (h : app.Effect request taken) (haddressed : request.Addresses .load)
    (hstatus : taken.answer.status = 201) :
    ∃ store next id ds, app.store = some store ∧ taken.state.store = some next ∧
      taken.answer.answer = .json (.diagnostics id ds) ∧ Store.SameBut id store next := by
  cases h with
  | refused _ hrefusal => exact absurd hrefusal.status (by omega)
  | shown he hshows _ _ =>
    obtain rfl := haddressed.unique he
    exact absurd hshows nofun
  | opened _ hbefore _ hafter hanswer =>
    rcases status_of_granted hanswer with ⟨_, hjson⟩ | hfailure
    · exact ⟨_, _, _, _, hbefore, hafter, hjson, Store.sameBut_write _ _ _⟩
    · rw [hfailure] at hstatus
      exact absurd hstatus (by decide)
  | changed he _ _ _ _ _ => exact absurd (haddressed.unique he) nofun
  | closed he _ _ _ _ _ => exact absurd (haddressed.unique he) nofun

/-- A document that was changed was open and is now written, and no other has changed. -/
theorem Effect.of_changed {app : App} {request : Request} {taken : Step App Response} {id : Text}
    (h : app.Effect request taken) (haddressed : request.Addresses (.change id))
    (hstatus : taken.answer.status = 200) :
    ∃ store text, app.store = some store ∧ store.holds id = true ∧
      taken.state.store = some (store.write id text) := by
  cases h with
  | refused _ hrefusal => exact absurd hrefusal.status (by omega)
  | shown he hshows _ _ =>
    obtain rfl := haddressed.unique he
    exact absurd hshows nofun
  | opened he _ _ _ _ => exact absurd (haddressed.unique he) nofun
  | changed he hbefore hheld _ hafter _ =>
    obtain rfl := Endpoint.change.inj (haddressed.unique he)
    exact ⟨_, _, hbefore, hheld, hafter⟩
  | closed he _ _ _ _ _ => exact absurd (haddressed.unique he) nofun

/-- A document that was closed was open and is taken out. -/
theorem Effect.of_closed {app : App} {request : Request} {taken : Step App Response} {id : Text}
    (h : app.Effect request taken) (haddressed : request.Addresses (.close id))
    (hstatus : taken.answer.status = 204) :
    ∃ store, app.store = some store ∧ store.holds id = true ∧
      taken.state.store = some (store.close id) := by
  cases h with
  | refused _ hrefusal => exact absurd hrefusal.status (by omega)
  | shown he hshows _ _ =>
    obtain rfl := haddressed.unique he
    exact absurd hshows nofun
  | opened he _ _ _ _ => exact absurd (haddressed.unique he) nofun
  | changed he _ _ _ _ _ => exact absurd (haddressed.unique he) nofun
  | closed he hbefore hheld _ hafter _ =>
    obtain rfl := Endpoint.close.inj (haddressed.unique he)
    exact ⟨_, hbefore, hheld, hafter⟩

/-- A document whose answer cannot be written has been written all the same. -/
theorem Effect.of_untold {app : App} {request : Request} {taken : Step App Response}
    (h : app.Effect request taken) (huntold : IsUntold request taken.answer) :
    ∃ store id text, app.store = some store ∧ taken.state.store = some (store.write id text) ∧
      ∀ other, request.Addresses (.change other) → other = id ∧ store.holds id = true := by
  obtain ⟨haddressed, hfailure⟩ := huntold
  cases h with
  | refused _ hrefusal => exact absurd hfailure hrefusal.told
  | shown he hshows _ _ =>
    -- An endpoint that only shows something may fail in the same way, but it is another one.
    rcases haddressed with hload | ⟨id, hchange⟩
    · obtain rfl := hload.unique he
      exact absurd hshows nofun
    · obtain rfl := hchange.unique he
      exact absurd hshows nofun
  | opened he hbefore _ hafter _ =>
    exact ⟨_, _, _, hbefore, hafter, fun other hother => absurd (he.unique hother) nofun⟩
  | changed he hbefore hheld _ hafter _ =>
    refine ⟨_, _, _, hbefore, hafter, fun other hother => ?_⟩
    obtain rfl := Endpoint.change.inj (he.unique hother)
    exact ⟨rfl, hheld⟩
  | closed _ _ _ _ _ hanswer => exact absurd (hanswer.symm.trans hfailure) (by decide)

/-- Whatever requests came before, and whether or not the store was set up, a request changes the
documents only as far as its answer tells, or as far as the document whose answer cannot be
written. -/
theorem atomic_step (source : Text) (room : Room) (setUp : Bool) (requests : List Request)
    (request : Request) :
    Atomic setUp (Step.run step (initial source room setUp) requests) request
      ((Step.run step (initial source room setUp) requests).step request) := by
  have hsound := isSound_run source room setUp requests
  have heffect := effect_step (Step.run step (initial source room setUp) requests) request
  constructor
  · exact heffect.unchanged
  · exact heffect.of_created
  · intro id he hstatus
    obtain ⟨store, text, hbefore, hheld, hafter⟩ := heffect.of_changed he hstatus
    obtain ⟨texts, hkeeps⟩ := hsound.keeps store hbefore
    exact ⟨store, _, hbefore, hafter, hheld, store.sameBut_write id text,
      hkeeps.names_write hheld text⟩
  · intro id he hstatus
    exact heffect.of_closed he hstatus
  · intro huntold
    obtain ⟨store, id, text, hbefore, hafter, hchange⟩ := heffect.of_untold huntold
    exact ⟨store, id, text, hbefore, hafter, store.sameBut_write id text, hchange⟩
  · intro hsetUp
    have hsome := hsound.isSome_store.trans hsetUp
    obtain ⟨store, hstore⟩ := Option.isSome_iff_exists.mp hsome
    obtain ⟨texts, hkeeps⟩ := hsound.keeps store hstore
    exact ⟨store, hstore, fun e id hid he hin => status_step hstore hkeeps hid he hin⟩

/-- A document is changed by a request that fails: the text is written, and then the answer cannot
be, since a diagnostic of the text repeats a surrogate on its own. -/
theorem changed_although_failed :
    let app := Step.run step (start [] (.even 100))
      [.sending "POST" "/documents" "\x7b\"document_id\": \"m\", \"text\": \"# m\"\x7d"]
    let taken := app.step
      (.sending "PUT" "/documents/m" "\x7b\"text\": \"\\ud800 0 * * * x\"\x7d")
    taken.answer.status = 500 ∧ taken.state.store ≠ app.store := by
  decide +kernel

end App

end Crontab.Web
