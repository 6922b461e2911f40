import Crontab.Proofs.Web.Atomic
import Crontab.Proofs.Web.Ids

/-!
# Documents opened without an id

When a client has chosen no id, the service makes one up, and it does not look whether a document is
open under that id. If none is, the document is added after all that are open, and these stay as
they were. If one is, its text is replaced, as it would be had the client chosen that id.
-/

namespace Crontab

/-- A value that is put stands in the place of the entry that had its name, or else at the end. -/
theorem Register.entries_put {α : Type} (r : Register α) (name : Text) (value : α) :
    (r.put name value).entries =
      if r.holds name then r.entries.map fun e => if e.1 = name then (name, value) else e
      else r.entries ++ [(name, value)] :=
  apply_ite Register.entries _ _ _

namespace Store

variable {store : Store} {texts : Register Text} {id : Text}

/-- A document is added to a store, after all that are open. -/
structure Added (store next : Store) (id text : Text) : Prop where
  /-- Its tokens come after those of all other documents. -/
  tokens : next.tokens.entries = store.tokens.entries ++ [(id, tokenize text)]
  /-- Its lines come after those of all other documents. -/
  lines : next.lines.entries = store.lines.entries ++ [(id, (Line.split text).toArray)]
  /-- It is listed after all other documents. -/
  summaries : next.summaries = store.summaries ++ [.ofText id text]

/-- The text of an open document is replaced. -/
structure Replaced (store next : Store) (id text : Text) : Prop where
  /-- The same documents are open, in the same order. -/
  names : next.tokens.names = store.tokens.names ∧ next.lines.names = store.lines.names
  /-- The other documents are as they were. -/
  others : SameBut id store next
  /-- The new text is held under the id. -/
  holdsText : next.HoldsText id text
  /-- It is listed with the new text, in the place that it had. -/
  summaries : next.summaries = store.summaries.map fun s => if s.id = id then .ofText id text else s

theorem Keeps.holds (h : store.Keeps texts) (id : Text) : store.holds id = texts.holds id := by
  rw [Store.holds, h.tokens, Register.holds_map]

/-- A document that is written is listed in its place, or else at the end. -/
theorem Keeps.summaries_write (h : store.Keeps texts) (hnodup : store.tokens.names.Nodup)
    (id text : Text) :
    (store.write id text).summaries =
      if store.holds id then store.summaries.map fun s => if s.id = id then .ofText id text else s
      else store.summaries ++ [.ofText id text] := by
  rw [h.names_tokens] at hnodup
  rw [(h.write id text).summaries (Register.nodup_names_put hnodup id text), h.summaries hnodup,
    h.holds, Register.entries_put]
  split
  · rw [List.map_map, List.map_map]
    refine List.map_congr_left fun e _ => ?_
    by_cases he : e.1 = id <;> simp [he, Summary.ofText]
  · rw [List.map_append, List.map_singleton]

/-- A document that was not open is added when it is written. -/
theorem Keeps.added_write (h : store.Keeps texts) (hnodup : store.tokens.names.Nodup)
    (hid : store.holds id = false) (text : Text) : store.Added (store.write id text) id text := by
  have hlines : store.lines.holds id = false := by
    rw [h.lines, Register.holds_map, ← h.holds, hid]
  constructor
  · rw [Store.write, Register.entries_put, ← Store.holds, hid]
    rfl
  · rw [Store.write, Register.entries_put, hlines]
    rfl
  · rw [h.summaries_write hnodup, hid]
    rfl

/-- A document that was open has its text replaced when it is written. -/
theorem Keeps.replaced_write (h : store.Keeps texts) (hnodup : store.tokens.names.Nodup)
    (hid : store.holds id = true) (text : Text) : store.Replaced (store.write id text) id text :=
  ⟨h.names_write hid text, store.sameBut_write id text, store.holdsText_write id text,
    by rw [h.summaries_write hnodup, if_pos hid]⟩

end Store

namespace Web

/-- The fields of a body leave the id out: none is there for it, or it is null or an empty text. -/
def Content.LeaveOutId (fields : List (Text × Json)) : Prop :=
  Json.lookup? fields "document_id" = none ∨ Json.lookup? fields "document_id" = some .null ∨
    Json.lookup? fields "document_id" = some (.string [])

/-- A request brings fields that leave the id out. -/
def Request.LeavesOutId (request : Request) (depth : Nat) : Prop :=
  ∃ fields, request.content? depth = some (.json (.object fields)) ∧ Content.LeaveOutId fields

/-- Fields in order have no id chosen in them exactly when they leave it out. -/
theorem Content.leaveOutId_iff {fields : List (Text × Json)} {given : Option Text}
    (h : idField fields = .ok given) : LeaveOutId fields ↔ given.filter (· ≠ []) = none := by
  rw [idField] at h
  rw [LeaveOutId]
  cases hlookup : Json.lookup? fields "document_id" with
  | none =>
    rw [hlookup] at h
    obtain rfl := Checked.ok.inj h
    simp
  | some v =>
    rw [hlookup] at h
    cases v with
    | null =>
      obtain rfl := Checked.ok.inj h
      simp
    | string s =>
      obtain rfl : some s = given := Checked.ok.inj h
      simp
    | _ => exact absurd h nofun

/-- A request that brings a document to open has chosen no id exactly when it leaves the id out. -/
theorem Request.leavesOutId_iff {request : Request} {depth : Nat} {opening : Content.Opening}
    (h : request.opening? depth = some opening) :
    request.LeavesOutId depth ↔ opening.id = none := by
  obtain ⟨content, hcontent, hopening⟩ := (request.opening?_eq_some_iff depth opening).mp h
  obtain ⟨fields, given, hfields, _, hgiven, hid⟩ := Content.opening_eq_ok hopening
  obtain rfl := Content.eq_object_of_fields hfields
  rw [hid, ← Content.leaveOutId_iff hgiven]
  constructor
  · rintro ⟨other, hother, hleft⟩
    obtain rfl : fields = other := by simpa [hcontent] using hother
    exact hleft
  · exact fun hleft => ⟨fields, hcontent, hleft⟩

namespace App

/-- The service if it had made up `n` ids. -/
def counting (app : App) (n : Nat) : App := { app with issued := n }

/-- A request to open a document that is answered 201 opens what it brings. -/
theorem exists_load_of_created {app : App} {request : Request} (he : request.Addresses .load)
    (hstatus : (app.step request).answer.status = 201) :
    ∃ store opening, app.store = some store ∧ request.opening? app.room.depth = some opening ∧
      app.step request = app.load store opening := by
  rcases app.step_load_cases he with ⟨_, hrefusal⟩ | hload
  · exact absurd hrefusal.status (by omega)
  · exact hload

theorem answer_load (app : App) (store : Store) (opening : Content.Opening) :
    (app.load store opening).answer =
      .granted 201 (.diagnostics (app.idFor opening) (store.diagnose opening.text)) := by
  cases hid : opening.id <;> simp only [load, idFor, hid, Option.getD_some, Option.getD_none]

/-- Whatever requests came before, and however many ids have been made up, a document that is opened
without an id is written under the next id that is made up. It is added after all that are open,
unless one of these has that id, which then has its text replaced. -/
theorem adds_or_replaces (source : Text) (room : Room) (setUp : Bool) (requests : List Request)
    (n : Nat) {request : Request} (he : request.Addresses .load)
    (hid : request.LeavesOutId room.depth)
    (hstatus : (((Step.run step (initial source room setUp) requests).counting n).step
      request).answer.status = 201) :
    let app := (Step.run step (initial source room setUp) requests).counting n
    let id := freshId (n + 1)
    ∃ store next text, app.store = some store ∧ request.text? room.depth = some text ∧
      (app.step request).state.store = some next ∧
      (app.step request).answer = .json 201 (.diagnostics id (store.diagnose text)) ∧
      (store.holds id = false → store.Added next id text) ∧
      (store.holds id = true → store.Replaced next id text) := by
  intro app id
  have hsound := isSound_run source room setUp requests
  have hroom : app.room = room := room_run source room setUp requests
  obtain ⟨store, opening, hstore, hopening, hstep⟩ := exists_load_of_created he hstatus
  rw [hroom] at hopening
  have hfresh : app.idFor opening = id := by
    rw [idFor, (request.leavesOutId_iff hopening).mp hid]
    rfl
  obtain ⟨texts, hkeeps⟩ := hsound.keeps store hstore
  have hnodup := (isOrderly_run source room setUp requests store hstore).nodup
  refine ⟨store, store.write id opening.text, opening.text, hstore,
    Request.text?_of_opening? hopening, ?_, ?_, ?_, ?_⟩
  · rw [hstep, load_store, hfresh]
  · rw [hstep, answer_load, hfresh] at hstatus ⊢
    rcases Response.granted_cases 201 (.diagnostics id (store.diagnose opening.text)) with
      htold | huntold
    · exact htold
    · rw [huntold] at hstatus
      exact absurd hstatus (by decide)
  · exact fun hheld => hkeeps.added_write hnodup hheld opening.text
  · exact fun hheld => hkeeps.replaced_write hnodup hheld opening.text

/-- After a client has opened a document under the first id that is made up, a document opened
without an id takes its place if that is the id made up, and is added after it if it is the next. -/
theorem adds_or_replaces_by_count :
    let requests :=
      [.sending "POST" "/documents" "\x7b\"document_id\": \"00000001\", \"text\": \"# m\"\x7d"]
    let request := .sending "POST" "/documents" "\x7b\"text\": \"\"\x7d"
    let app := Step.run step (initial [] (.even 100) true) requests
    let taken (n : Nat) := (app.counting n).step request
    let store := (Store.empty []).write (freshId 1) (.ofString "# m")
    request.Addresses .load ∧ request.LeavesOutId 100 ∧
      (taken 0).answer.status = 201 ∧ (taken 1).answer.status = 201 ∧
      (∃ next, (taken 0).state.store = some next ∧ store.Replaced next (freshId 1) []) ∧
      ∃ next, (taken 1).state.store = some next ∧ store.Added next (freshId 2) [] := by
  intro requests request app taken store
  have he : request.Addresses .load := (request.endpoint?_eq_some_iff .load).mp (by decide +kernel)
  have hopening : request.opening? 100 = some ⟨[], none⟩ := by decide +kernel
  have hid : request.LeavesOutId 100 := (Request.leavesOutId_iff hopening).mpr rfl
  have hstore : app.store = some store := by decide +kernel
  have htext : request.text? 100 = some [] := Request.text?_of_opening? hopening
  have hfirst : (taken 0).answer.status = 201 := by decide +kernel
  have hsecond : (taken 1).answer.status = 201 := by decide +kernel
  refine ⟨he, hid, hfirst, hsecond, ?_, ?_⟩
  · obtain ⟨before, next, text, hbefore, hsent, hafter, _, _, hreplaced⟩ :=
      adds_or_replaces [] (.even 100) true requests 0 he hid hfirst
    obtain rfl : store = before := Option.some.inj (hstore.symm.trans hbefore)
    obtain rfl : [] = text := Option.some.inj (htext.symm.trans hsent)
    exact ⟨next, hafter, hreplaced (by decide +kernel)⟩
  · obtain ⟨before, next, text, hbefore, hsent, hafter, _, hadded, _⟩ :=
      adds_or_replaces [] (.even 100) true requests 1 he hid hsecond
    obtain rfl : store = before := Option.some.inj (hstore.symm.trans hbefore)
    obtain rfl : [] = text := Option.some.inj (htext.symm.trans hsent)
    exact ⟨next, hafter, hadded (by decide +kernel)⟩

/-- A client that has chosen the id that is made up next loses its document to another client that
has chosen none. -/
theorem replaced_under_made_up_id :
    let app := Step.run step (initial [] (.even 100) true)
      [.sending "POST" "/documents" "\x7b\"document_id\": \"00000001\", \"text\": \"# m\"\x7d"]
    let taken := app.step (.sending "POST" "/documents" "\x7b\"text\": \"\"\x7d")
    taken.answer = .json 201 (.diagnostics (.ofString "00000001") []) ∧
      app.store.map Store.summaries = some [⟨.ofString "00000001", 1, 1, 0⟩] ∧
      taken.state.store.map Store.summaries = some [⟨.ofString "00000001", 0, 0, 0⟩] := by
  decide +kernel

end App

end Web

end Crontab
