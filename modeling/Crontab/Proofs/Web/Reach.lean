import Crontab.Proofs.Store.Restriction
import Crontab.Proofs.Web.Atomic
import Crontab.Proofs.Web.Views

/-!
# Documents within reach

A client may choose any id for a document, but in a path an id is one segment. A document whose id
has no slash can be shown and closed at its path. One whose id has a slash is out of reach: nothing
is found at the path of its tokens, closing it at its path is refused, and it stays open whatever
requests come after.
-/

namespace Crontab

namespace Store

/-- A document that is listed is open. -/
theorem holds_of_mem_summaries {store : Store} {s : Summary} (h : s ∈ store.summaries) :
    store.holds s.id = true := by
  obtain ⟨e, he, rfl⟩ := List.mem_map.mp h
  exact (Register.holds_iff_mem_names ..).mpr (List.mem_map_of_mem he)

/-- Writing a document leaves the open ones open. -/
theorem holds_write {store : Store} {id : Text} (h : store.holds id = true) (other text : Text) :
    (store.write other text).holds id = true := by
  rw [holds, Register.holds_iff_mem_names] at h ⊢
  exact (Register.mem_names_put ..).mpr (Or.inr h)

end Store

namespace Web

/-- No path of a resource has more than three slashes. -/
theorem Resource.IsAt.count_le {path : Text} {resource : Resource} (h : resource.IsAt path) :
    path.count (.char '/') ≤ 3 := by
  have hpath : ∀ given : Text, IsPath path given → path.count (.char '/') =
      given.count (.char '/') := by
    rintro given (rfl | rfl)
    · rfl
    · rw [List.count_append]
      rfl
  have hroot : (Text.ofString "/documents/").count (.char '/') = 2 := by decide
  cases resource with
  | page p => rw [hpath _ h]; cases p <;> decide
  | health => rw [hpath _ h]; decide
  | validate => rw [hpath _ h]; decide
  | documents => rw [hpath _ h]; decide
  | document id =>
    obtain ⟨⟨_, hid⟩, rfl⟩ := h
    rw [documentPath, List.count_append, List.count_eq_zero.mpr hid, hroot]
    decide
  | view id v =>
    obtain ⟨⟨_, hid⟩, h⟩ := h
    have hword : (Text.ofString v.word).count (.char '/') = 0 := by cases v <;> decide
    rw [hpath _ h, View.path, documentPath, List.count_append, List.count_append,
      List.count_append, List.count_eq_zero.mpr hid, hroot, hword]
    decide

/-- A part of a document whose id has a slash is found nowhere. -/
theorem ofPath?_path_of_slash {id : Text} (h : .char '/' ∈ id) (v : View) :
    Resource.ofPath? (v.path id) = none := by
  cases hresource : Resource.ofPath? (v.path id) with
  | none => rfl
  | some resource =>
    have hle := (Resource.IsAt.of_ofPath? hresource).count_le
    have hroot : (Text.ofString "/documents/").count (.char '/') = 2 := by decide
    have hslash : [CodePoint.char '/'].count (.char '/') = 1 := by decide
    have hid := List.count_pos_iff.mpr h
    rw [View.path, documentPath, List.count_append, List.count_append, List.count_append, hroot,
      hslash] at hle
    omega

/-- The path of a part of a document does not end in a slash, so nobody is sent elsewhere. -/
theorem redirect?_path (standsForSomething : Text → Bool) (id : Text) (v : View) :
    redirect? standsForSomething (v.path id) = none := by
  have hlast : (v.path id).reverse.dropWhile (· = .char '/') = (v.path id).reverse := by
    rw [View.path, List.reverse_append]
    cases v <;> rfl
  simp [redirect?, hlast]

namespace App

/-- A document can be shown and closed at its path. No client can send the path of an id with a
surrogate on its own, so of such an id only is said what would be answered. -/
structure Reaches (app : App) (store : Store) (id : Text) : Prop where
  /-- Its tokens are told. -/
  shown : ∃ tokens, store.tokensOf id = .ok tokens ∧
    ∀ request body, request.body? = some body → request.method = "GET" →
      request.path = View.path id .tokens →
        (app.step request).answer.Tells (Payload.tokens id tokens).toJson
  /-- It is closed, and no other document is. -/
  closed : ∀ request body, request.body? = some body → request.method = "DELETE" →
    request.path = documentPath id →
      (app.step request).answer = .noContent ∧
        (app.step request).state.store = some (store.close id) ∧
          (store.close id).summaries = store.summaries.filter fun s => s.id ≠ id

/-- A document is open, and nothing can be done about it. -/
structure Strands (app : App) (id : Text) : Prop where
  /-- No part of it is found. -/
  unseen : ∀ v request body, request.body? = some body → request.method = "GET" →
    request.path = View.path id v → (app.step request).answer = .notFound
  /-- Closing it is refused. -/
  refused : ∀ request, request.method = "DELETE" → request.path = documentPath id →
    (app.step request).state = app ∧ (app.step request).answer.IsRefusal
  /-- It stays open whatever requests come. -/
  kept : ∀ requests, ∃ store, (Step.run step app requests).store = some store ∧
    store.holds id = true

theorem reaches_of_holdsText {app : App} {store : Store} (hstore : app.store = some store)
    {id text : Text} (h : store.HoldsText id text) (hheld : store.holds id = true)
    (hid : IsSegment id) : app.Reaches store id := by
  constructor
  · refine ⟨tokenize text, h.tokensOf, fun request body hbody hmethod hpath => ?_⟩
    rw [step_view hstore ⟨hmethod, hid, Or.inl hpath⟩ hbody, view, h.tokensOf]
    exact Response.tells_granted (.tokens id (tokenize text))
  · intro request body hbody hmethod hpath
    rw [step_close hstore ⟨hmethod, hid, hpath⟩ hbody, close, if_pos hheld]
    exact ⟨rfl, rfl, store.summaries_close id⟩

/-- A request leaves a document whose id has a slash open, since none can close it. -/
theorem holds_step_of_slash {app : App} {store : Store} (hstore : app.store = some store)
    {id : Text} (hslash : .char '/' ∈ id) (hheld : store.holds id = true) (request : Request) :
    ∃ next, (app.step request).state.store = some next ∧ next.holds id = true := by
  cases effect_step app request with
  | refused hstate _ => exact ⟨store, by rw [hstate, hstore], hheld⟩
  | shown _ _ hstate _ => exact ⟨store, by rw [hstate, hstore], hheld⟩
  | opened _ hbefore _ hafter _ =>
    obtain rfl := Option.some.inj (hstore.symm.trans hbefore)
    exact ⟨_, hafter, Store.holds_write hheld _ _⟩
  | changed _ hbefore _ _ hafter _ =>
    obtain rfl := Option.some.inj (hstore.symm.trans hbefore)
    exact ⟨_, hafter, Store.holds_write hheld _ _⟩
  | closed he hbefore _ _ hafter _ =>
    obtain rfl := Option.some.inj (hstore.symm.trans hbefore)
    refine ⟨_, hafter, (Store.sameAt_close _ ?_).holds.trans hheld⟩
    rintro rfl
    exact he.2.1.2 hslash

theorem holds_run_of_slash {app : App} {store : Store} (hstore : app.store = some store)
    {id : Text} (hslash : .char '/' ∈ id) (hheld : store.holds id = true)
    (requests : List Request) :
    ∃ later, (Step.run step app requests).store = some later ∧ later.holds id = true := by
  induction requests using List.reverseRecOn with
  | nil => exact ⟨store, hstore, hheld⟩
  | append_singleton requests request ih =>
    obtain ⟨later, hlater, hheld⟩ := ih
    rw [Step.run_concat]
    exact holds_step_of_slash hlater hslash hheld request

/-- Closing a document at its path is refused if its id has a slash. -/
theorem refused_close_of_slash (app : App) {id : Text} (hslash : .char '/' ∈ id)
    {request : Request} (hmethod : request.method = "DELETE")
    (hpath : request.path = documentPath id) :
    (app.step request).state = app ∧ (app.step request).answer.IsRefusal := by
  have hnone : ∀ e, ¬request.Addresses e := by
    intro e he
    cases e with
    | close other =>
      have hpaths : documentPath other = documentPath id := he.2.2.symm.trans hpath
      obtain rfl : other = id := List.append_cancel_left hpaths
      exact he.2.1.2 hslash
    | page p =>
      have hpage := he.1
      rw [hmethod] at hpage
      exact absurd hpage (by decide)
    | _ => exact absurd (he.1.symm.trans hmethod) (by decide)
  cases effect_step app request with
  | refused hstate hrefusal => exact ⟨hstate, hrefusal⟩
  | shown he _ _ _ => exact absurd he (hnone _)
  | opened he _ _ _ _ => exact absurd he (hnone _)
  | changed he _ _ _ _ _ => exact absurd he (hnone _)
  | closed he _ _ _ _ _ => exact absurd he (hnone _)

theorem strands_of_slash {app : App} {store : Store} (hstore : app.store = some store)
    {id : Text} (hslash : .char '/' ∈ id) (hheld : store.holds id = true) : app.Strands id := by
  constructor
  · intro v request body hbody _ hpath
    rw [step, (request.body?_eq_some_iff body).mp hbody]
    simp only [route, hpath, ofPath?_path_of_slash hslash, redirect?_path, answer]
  · intro request hmethod hpath
    exact app.refused_close_of_slash hslash hmethod hpath
  · exact holds_run_of_slash hstore hslash hheld

/-- Whatever requests came before, a document that is listed can be shown and closed at its path if
its id has no slash, and is out of reach for good if it has one. -/
theorem reaches_or_strands (source : Text) (room : Room) (setUp : Bool) (requests : List Request)
    (store : Store)
    (hstore : (Step.run step (initial source room setUp) requests).store = some store) :
    (∀ request body, request.body? = some body → request.Addresses .list →
      ((Step.run step (initial source room setUp) requests).step request).answer =
        .granted 200 (.listing store.summaries)) ∧
    ∀ s ∈ store.summaries,
      (.char '/' ∉ s.id → (Step.run step (initial source room setUp) requests).Reaches store s.id) ∧
      (.char '/' ∈ s.id → (Step.run step (initial source room setUp) requests).Strands s.id) := by
  refine ⟨fun request body hbody he => by rw [step_list hstore he hbody, answer], ?_⟩
  intro s hs
  have hheld := Store.holds_of_mem_summaries hs
  refine ⟨fun hslash => ?_, fun hslash => strands_of_slash hstore hslash hheld⟩
  obtain ⟨text, htext⟩ := (isSound_run source room setUp requests).exists_holdsText hstore hheld
  have hid := (isOrderly_run source room setUp requests store hstore).ne_nil hheld
  exact reaches_of_holdsText hstore htext hheld ⟨hid, hslash⟩

/-- Of two documents that are open, the one without a slash in its id is within reach and the other is
not. -/
theorem reaches_or_strands_two_ids :
    let requests := [
      .sending "POST" "/documents" "\x7b\"document_id\": \"m\", \"text\": \"# m\"\x7d",
      .sending "POST" "/documents" "\x7b\"document_id\": \"a/b\", \"text\": \"# m\"\x7d"]
    let app := Step.run step (initial [] (.even 100) true) requests
    let store := ((Store.empty []).write (.ofString "m") (.ofString "# m")).write
      (.ofString "a/b") (.ofString "# m")
    app.store = some store ∧ app.Reaches store (.ofString "m") ∧
      app.Strands (.ofString "a/b") := by
  intro requests app store
  have hstore : app.store = some store := by decide +kernel
  have hreach := (reaches_or_strands [] (.even 100) true requests store hstore).2
  have hm := hreach ⟨.ofString "m", 1, 1, 0⟩ (by decide +kernel)
  have hab := hreach ⟨.ofString "a/b", 1, 1, 0⟩ (by decide +kernel)
  exact ⟨hstore, hm.1 (by decide +kernel), hab.2 (by decide +kernel)⟩

/-- A document under an id with a slash is listed, and at its path it is not found. -/
theorem listed_but_not_found :
    let app := Step.run step (initial [] (.even 100) true)
      [.sending "POST" "/documents" "\x7b\"document_id\": \"a/b\", \"text\": \"# m\"\x7d"]
    (app.step (.sending "GET" "/documents" "")).answer =
        .json 200 (.listing [⟨.ofString "a/b", 1, 1, 0⟩]) ∧
      (app.step (.sending "GET" "/documents/a/b/tokens" "")).answer = .notFound ∧
      (app.step (.sending "DELETE" "/documents/a/b" "")).answer = .notFound ∧
      (app.step (.sending "DELETE" "/documents/a/b" "")).state.store = app.store := by
  decide +kernel

end App

end Web

end Crontab
