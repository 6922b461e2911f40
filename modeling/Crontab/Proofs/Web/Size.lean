import Crontab.Proofs.Json.Size
import Crontab.Proofs.Web.Limit

/-!
# The size of texts that are sent

A body that passes the limit has no more bytes than the limit allows, however it is cut into chunks,
and no text that it brings is longer.
-/

namespace Crontab

/-- Two checks that pass together pass each. -/
theorem Checked.map_seq_eq_ok {α β γ : Type} {f : α → β → γ} {a : Checked α}
    {b : Checked β} {c : γ} (h : f <$> a <*> b = .ok c) :
    ∃ x y, a = .ok x ∧ b = .ok y ∧ f x y = c := by
  cases a with
  | failed ps => cases b <;> exact absurd h nofun
  | ok x =>
    cases b with
    | failed ps => exact absurd h nofun
    | ok y => exact ⟨x, y, rfl, rfl, Checked.ok.inj h⟩

namespace Web

/-- A body that is counted and passes is within the limit. -/
theorem Request.length_body_le {request : Request} {body : List UInt8}
    (h : request.body? = some body) (hmethod : request.method ∈ Limit.countedMethods) :
    body.length ≤ Limit.maxBody := by
  have hverdict := (request.body?_eq_some_iff body).mp h
  rw [Limit.verdict] at hverdict
  split at hverdict
  · cases hverdict
  · split at hverdict
    · cases hverdict
    · exact Limit.length_le_of_count hmethod hverdict
  · exact Limit.length_le_of_count hmethod hverdict

/-- A body with fields is an object of JSON. -/
theorem Content.eq_object_of_fields {content : Content} {fields : List (Text × Json)}
    (h : content.fields = .ok fields) : content = .json (.object fields) := by
  unfold Content.fields at h
  split at h
  · rw [Checked.ok.inj h]
  · exact absurd h nofun
  · exact absurd h nofun
  · exact absurd h nofun

/-- No text in the fields of a body is longer than the body. -/
theorem Content.textsFit_of_fields {depth : Nat} {contentType : Option Text} {body : List UInt8}
    {content : Content} (h : ofBytes depth contentType body = .ok content)
    {fields : List (Text × Json)} (hfields : content.fields = .ok fields) :
    ∃ n ≤ body.length, (Json.object fields).TextsFit n := by
  obtain rfl := eq_object_of_fields hfields
  unfold ofBytes at h
  split at h
  · exact absurd h nofun
  split at h
  · cases hread : Json.ofBytes depth body with
    | error fault =>
      rw [hread] at h
      exact absurd h nofun
    | ok v =>
      rw [hread] at h
      obtain rfl := Content.json.inj (Except.ok.inj h)
      exact Json.textsFit_ofBytes hread
  · exact absurd h nofun

/-- The text in the fields of a body is one of the texts there. -/
theorem Content.length_textField_le {fields : List (Text × Json)} {n : Nat}
    (hfit : (Json.object fields).TextsFit n) {text : Text} (h : textField fields = .ok text) :
    text.length ≤ n := by
  rw [textField] at h
  cases hlookup : Json.lookup? fields "text" with
  | none =>
    rw [hlookup] at h
    exact absurd h nofun
  | some v =>
    rw [hlookup] at h
    have hv : v.TextsFit n := by
      obtain ⟨before, after, rfl, _⟩ := List.lookup_eq_some_iff.mp hlookup
      exact (Json.textsFit_object n _).mp hfit (Text.ofString "text", v) (by simp)
    cases v with
    | string s =>
      obtain rfl : s = text := Checked.ok.inj h
      exact (Json.textsFit_string n s).mp hv
    | _ => exact absurd h nofun

/-- No text that a request brings is longer than its body may be. -/
theorem Request.length_text_le {request : Request} {depth : Nat} {text : Text}
    (h : request.text? depth = some text) (hmethod : request.method ∈ Limit.countedMethods) :
    text.length ≤ Limit.maxBody := by
  obtain ⟨content, hcontent, htext⟩ := (request.text?_eq_some_iff depth text).mp h
  obtain ⟨body, hbody, hcontent⟩ := (request.content?_eq_some_iff depth content).mp hcontent
  have hlimit := Request.length_body_le hbody hmethod
  rw [Content.text] at htext
  cases hfields : content.fields with
  | failed ps =>
    rw [hfields] at htext
    exact absurd htext nofun
  | ok fields =>
    rw [hfields] at htext
    obtain ⟨n, hn, hfit⟩ := Content.textsFit_of_fields hcontent hfields
    have hlength := Content.length_textField_le hfit htext
    omega

/-- A body that opens a document has its text and its id among the fields; an empty id is none. -/
theorem Content.opening_eq_ok {content : Content} {opening : Content.Opening}
    (h : content.opening = .ok opening) :
    ∃ fields given, content.fields = .ok fields ∧ textField fields = .ok opening.text ∧
      idField fields = .ok given ∧ opening.id = given.filter (· ≠ []) := by
  rw [Content.opening] at h
  cases hfields : content.fields with
  | failed ps =>
    rw [hfields] at h
    exact absurd h nofun
  | ok fields =>
    rw [hfields] at h
    obtain ⟨text, given, htext, hid, rfl⟩ := Checked.map_seq_eq_ok h
    exact ⟨fields, given, rfl, htext, hid, rfl⟩

/-- A request to open a document brings its text. -/
theorem Request.text?_of_opening? {request : Request} {depth : Nat} {opening : Content.Opening}
    (h : request.opening? depth = some opening) : request.text? depth = some opening.text := by
  obtain ⟨content, hcontent, hopening⟩ := (request.opening?_eq_some_iff depth opening).mp h
  obtain ⟨fields, _, hfields, htext, _, _⟩ := Content.opening_eq_ok hopening
  refine (request.text?_eq_some_iff depth opening.text).mpr ⟨content, hcontent, ?_⟩
  rw [Content.text, hfields]
  exact htext

end Web

end Crontab
