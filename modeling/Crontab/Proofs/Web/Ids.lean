import Crontab.Proofs.Web.Effect
import Crontab.Proofs.Web.Size

/-!
# Ids of open documents

A request to open a document is refused, or opens the text that it brings under the id that it has
chosen, and under one that the service makes up if it has chosen none. An id is never empty, and no
run of requests holds one twice.
-/

namespace Crontab

/-- The ids of a store are in order: none is there twice, and none is empty. -/
structure Store.Orderly (store : Store) : Prop where
  /-- No document is held twice. -/
  nodup : store.tokens.names.Nodup
  /-- No document has the empty id. -/
  nonempty : [] ∉ store.tokens.names

namespace Store

theorem orderly_empty (source : Text) : (empty source).Orderly :=
  ⟨List.nodup_nil, List.not_mem_nil⟩

theorem Orderly.write {store : Store} (h : store.Orderly) {id : Text} (hid : id ≠ [])
    (text : Text) : (store.write id text).Orderly := by
  constructor
  · exact Register.nodup_names_put h.nodup id _
  · intro hmem
    rcases (Register.mem_names_put ..).mp hmem with hnil | hmem
    · exact hid hnil.symm
    · exact h.nonempty hmem

theorem Orderly.close {store : Store} (h : store.Orderly) (id : Text) :
    (store.close id).Orderly := by
  constructor
  · exact Register.nodup_names_erase h.nodup id
  · intro hmem
    exact h.nonempty ((Register.mem_names_erase ..).mp hmem).2

theorem Orderly.ne_nil {store : Store} (h : store.Orderly) {id : Text}
    (hheld : store.holds id = true) : id ≠ [] := by
  rintro rfl
  exact h.nonempty ((Register.holds_iff_mem_names ..).mp hheld)

end Store

namespace Web

/-- An id that a client has chosen is not empty. -/
theorem Request.id_ne_nil {request : Request} {depth : Nat} {opening : Content.Opening}
    (h : request.opening? depth = some opening) {id : Text} (hid : opening.id = some id) :
    id ≠ [] := by
  obtain ⟨content, _, hopening⟩ := (request.opening?_eq_some_iff depth opening).mp h
  obtain ⟨_, given, _, _, _, hgiven⟩ := Content.opening_eq_ok hopening
  simpa using (Option.filter_eq_some_iff.mp (hgiven.symm.trans hid)).2

namespace App

/-- An id that the service makes up has as many digits as it is padded to, so it is not empty. -/
theorem freshId_ne_nil (n : Nat) : freshId n ≠ [] := by
  apply List.ne_nil_of_length_pos
  simp only [freshId, Text.Hex.padded, List.length_map, List.length_append, List.length_replicate]
  omega

/-- The id under which a document is opened. -/
def idFor (app : App) (opening : Content.Opening) : Text :=
  opening.id.getD (freshId (app.issued + 1))

theorem isSetUpAs_load (app : App) (store : Store) (opening : Content.Opening) :
    (app.load store opening).state.IsSetUpAs app := by
  cases hid : opening.id <;> simp only [load, hid] <;> exact ⟨rfl, rfl⟩

/-- Opening a document writes its text under that id. -/
theorem load_store (app : App) (store : Store) (opening : Content.Opening) :
    (app.load store opening).state.store =
      some (store.write (app.idFor opening) opening.text) := by
  cases hid : opening.id <;> simp only [load, idFor, hid, Option.getD_some, Option.getD_none]

theorem idFor_ne_nil (app : App) {request : Request} {depth : Nat} {opening : Content.Opening}
    (h : request.opening? depth = some opening) : app.idFor opening ≠ [] := by
  cases hid : opening.id with
  | some id =>
    rw [idFor, hid]
    exact Request.id_ne_nil h hid
  | none =>
    rw [idFor, hid]
    exact freshId_ne_nil _

/-- A request that does not pass the limit is refused, whatever the state of the service. -/
theorem step_of_body?_eq_none {request : Request} (h : request.body? = none) :
    ∃ response : Response, response.IsRefusal ∧
      ∀ app : App, app.step request = app.answer response := by
  cases hverdict : Limit.verdict request with
  | tooLarge =>
    refine ⟨.tooLarge Limit.maxBody, .of_status (rfl : _ = 413) (by decide), fun app => ?_⟩
    rw [step, hverdict]
  | unreadable =>
    refine ⟨.failure .contentLength, Response.isRefusal_failure (by decide), fun app => ?_⟩
    rw [step, hverdict]
  | abandoned =>
    refine ⟨.failure .abandoned, Response.isRefusal_failure (by decide), fun app => ?_⟩
    rw [step, hverdict]
  | admitted body =>
    rw [(request.body?_eq_some_iff body).mpr hverdict] at h
    cases h

/-- A request to open a document is refused, or opens what it brings. -/
theorem step_load_cases (app : App) {request : Request} (he : request.Addresses .load) :
    ((app.step request).state = app ∧ (app.step request).answer.IsRefusal) ∨
      ∃ store opening, app.store = some store ∧
        request.opening? app.room.depth = some opening ∧
          app.step request = app.load store opening := by
  cases hbody : request.body? with
  | none =>
    obtain ⟨response, hrefusal, hstep⟩ := step_of_body?_eq_none hbody
    rw [hstep]
    exact Or.inl ⟨rfl, hrefusal⟩
  | some body =>
    rw [app.step_eq_serve hbody he, serve, withContent]
    cases hcontent : Content.ofBytes app.room.depth request.contentType body with
    | error fault =>
      cases fault with
      | malformed =>
        refine Or.inl ⟨rfl, ?_⟩
        dsimp only [answer]
        exact Response.isRefusal_invalid _ _
      | unreadable => exact Or.inl ⟨rfl, .of_status (rfl : _ = 400) (by decide)⟩
    | ok content =>
      cases hstore : app.store with
      | none =>
        refine Or.inl ?_
        simp only [withStore, hstore, answer, true_and]
        exact Response.isRefusal_failure (by decide)
      | some store =>
        cases hopening : content.opening with
        | failed ps =>
          refine Or.inl ?_
          simp only [withStore, hstore, checked, hopening, answer, true_and]
          exact Response.isRefusal_invalid _ ps
        | ok opening =>
          refine Or.inr ⟨store, opening, rfl, ?_, ?_⟩
          · exact (request.opening?_eq_some_iff _ opening).mpr ⟨content,
              (request.content?_eq_some_iff _ content).mpr ⟨body, hbody, hcontent⟩, hopening⟩
          · simp only [withStore, hstore, checked, hopening]

/-- A service whose open documents have their ids in order. -/
def IsOrderly (app : App) : Prop := ∀ store, app.store = some store → store.Orderly

theorem IsOrderly.of_store {app : App} {store : Store} (h : app.store = some store)
    (horderly : store.Orderly) : app.IsOrderly := by
  intro found hfound
  obtain rfl : store = found := Option.some.inj (h.symm.trans hfound)
  exact horderly

theorem isOrderly_initial (source : Text) (room : Room) (setUp : Bool) :
    (initial source room setUp).IsOrderly := by
  cases setUp with
  | false => exact fun _ h => absurd h nofun
  | true => exact .of_store rfl (Store.orderly_empty source)

/-- A request leaves the ids in order. -/
theorem IsOrderly.step {app : App} (h : app.IsOrderly) (request : Request) :
    (app.step request).state.IsOrderly := by
  cases effect_step app request with
  | refused hstate _ => rwa [hstate]
  | shown _ _ hstate _ => rwa [hstate]
  | opened he _ _ _ _ =>
    rcases app.step_load_cases he with ⟨hstate, _⟩ | ⟨store, opening, hstore, hopening, hstep⟩
    · rwa [hstate]
    · rw [hstep]
      exact .of_store (app.load_store store opening)
        ((h store hstore).write (app.idFor_ne_nil hopening) _)
  | changed _ hbefore hheld _ hafter _ =>
    exact .of_store hafter ((h _ hbefore).write ((h _ hbefore).ne_nil hheld) _)
  | closed _ hbefore _ _ hafter _ => exact .of_store hafter ((h _ hbefore).close _)

/-- Every run of requests leaves the ids in order. -/
theorem isOrderly_run (source : Text) (room : Room) (setUp : Bool) (requests : List Request) :
    (Step.run step (initial source room setUp) requests).IsOrderly := by
  induction requests using List.reverseRecOn with
  | nil => exact isOrderly_initial source room setUp
  | append_singleton requests request ih =>
    rw [Step.run_concat]
    exact ih.step request

end App

end Web

end Crontab
