import Crontab.Proofs.Editor.Session
import Crontab.Proofs.Place
import Crontab.Proofs.Verdict
import Crontab.Proofs.Web.Effect
import Crontab.Proofs.Web.Size

/-!
# Agreement of the front ends

The web service and an editor that counts in code points are told the same about a text: the same
diagnostics with the same columns, the same highlighting data, and the same at every position. It
does not matter what either has been asked before, nor whether the service was sent the text for
checking, for opening or for changing a document. The service has one more way to fail: an answer
that repeats a surrogate on its own cannot be written, and so a text that has one may be refused,
where the editor is told all the same.
-/

namespace Crontab

namespace Web

/-- A request sends a text, for checking, for opening or for changing a document. -/
def Request.Sends (request : Request) (depth : Nat) (text : Text) : Prop :=
  (request.Addresses .validate ∧ request.text? depth = some text) ∨
    (request.Addresses .load ∧
      ∃ opening, request.opening? depth = some opening ∧ opening.text = text) ∨
      ∃ id, request.Addresses (.change id) ∧ request.text? depth = some text

/-- A text that is sent is no longer than a body may be. -/
theorem Request.Sends.length_le {request : Request} {depth : Nat} {text : Text}
    (h : request.Sends depth text) : text.length ≤ Limit.maxBody := by
  rcases h with ⟨he, htext⟩ | ⟨he, opening, hopening, rfl⟩ | ⟨id, he, htext⟩
  · exact Request.length_text_le htext (by rw [he.1]; decide)
  · exact Request.length_text_le (Request.text?_of_opening? hopening) (by rw [he.1]; decide)
  · exact Request.length_text_le htext (by rw [he.1]; decide)

/-- What the service shows of a document with a text. -/
structure App.Shows (app : App) (source id text : Text) : Prop where
  /-- The diagnostics of the text. -/
  diagnostics : ∀ request body, request.body? = some body →
    request.Addresses (.view id .diagnostics) →
      (app.step request).answer =
        .granted 200 (.diagnostics id (diagnose source (tokenize text)))
  /-- The highlighting data of the text. -/
  highlights : ∀ request body, request.body? = some body →
    request.Addresses (.view id .highlights) →
      (app.step request).answer =
        .json 200 (.highlights ((Document.ofText text).highlights Measure.codePoints))
  /-- What the text shows at a position. -/
  hover : ∀ request body line character, request.body? = some body →
    request.Addresses (.view id .hover) → request.position? = some (line, character) →
      (app.step request).answer =
        .granted 200 (.hover ((Document.ofText text).hover? Measure.codePoints line character))

/-- Only a surrogate on its own keeps an answer from being written. -/
theorem granted_of_isSpelled {status : Nat} {p : Payload} (h : p.toJson.isSpelled = true) :
    Response.granted status p = .json status p :=
  if_pos h

theorem isSpelled_highlights (data : List Int) :
    (Payload.highlights data).toJson.isSpelled = true := by
  simp [Payload.toJson, Json.words, Json.ints]

/-- The diagnostics of a text without surrogates on their own can be written. -/
theorem isSpelled_ofDiagnostics {source text : Text} (hsource : source.isSpelled = true)
    (htext : text.isSpelled = true) :
    (Payload.ofDiagnostics (diagnose source (tokenize text))).isSpelled = true := by
  have hall : ∀ d ∈ diagnose source (tokenize text), (Payload.ofDiagnostic d).isSpelled = true := by
    intro d hd
    have hreports := reports_of_mem_diagnose hd
    simp [Payload.ofDiagnostic, hreports.isSpelled_message htext, hreports.source_eq, hsource]
  simpa [Payload.ofDiagnostics] using hall

theorem isSpelled_hover {text : Text} (htext : text.isSpelled = true) (line character : Int) :
    (Payload.hover ((Document.ofText text).hover? Measure.codePoints line
      character)).toJson.isSpelled = true := by
  cases hhover : (Document.ofText text).hover? Measure.codePoints line character with
  | none => rfl
  | some h =>
    have hspelled := (reports_of_hover? hhover).spelled htext
    simp [Payload.toJson, Payload.ofHover, hspelled]

/-- A store that holds a text is shown as the text. -/
theorem App.shows_of_holdsText {app : App} {store : Store} {source id text : Text}
    (hstore : app.store = some store) (hsource : store.source = source)
    (h : store.HoldsText id text) : app.Shows source id text := by
  subst hsource
  constructor
  · intro request body hbody he
    rw [step_view hstore he hbody, view, h.diagnostics]
    rfl
  · intro request body hbody he
    rw [step_view hstore he hbody, view, h.highlights]
    exact granted_of_isSpelled (isSpelled_highlights _)
  · intro request body line character hbody he hposition
    have hchecked := (value?_eq_some_iff _ _).mp hposition
    rw [step_view hstore he hbody, view, hchecked]
    simp only [checked, h.hover]
    rfl

end Web

namespace Editor

/-- A diagnostic as an editor is told it that counts in code points. -/
def Notice.plain (d : Diagnostic) : Notice :=
  ⟨⟨⟨d.line, d.startChar⟩, ⟨d.line, d.endChar⟩⟩, d.message, d.severity, d.source⟩

/-- Counted in code points, notices have the columns of the diagnostics. -/
theorem notices_utf32 (source text : Text) :
    notices .utf32 source text = (diagnose source (tokenize text)).map Notice.plain := by
  refine List.map_congr_left fun d hd => ?_
  have hreports := reports_of_mem_diagnose hd
  have hend := Int.le_trans hreports.start_nonneg hreports.start_le_end
  have hseverity := severity_of_mem_diagnose hd
  simp only [Notice.ofText, Notice.plain, Document.toUnits, Encoding.measure_utf32,
    Measure.toUnits_codePoints _ hreports.start_nonneg, Measure.toUnits_codePoints _ hend,
    hseverity]

/-- A text is short enough for all its columns to be told. -/
def IsShort (text : Text) : Prop := (2 * text.length : Nat) ≤ Position.limit

theorem canPublish_utf32 {text : Text} (h : IsShort text) (source : Text) :
    CanPublish .utf32 source text := by
  intro notice hnotice
  rw [notices_utf32] at hnotice
  obtain ⟨d, hd, rfl⟩ := List.mem_map.mp hnotice
  have hreports := reports_of_mem_diagnose hd
  have hline := hreports.line_nonneg
  have hlast := hreports.line_le
  have hstart := hreports.start_nonneg
  have hforward := hreports.start_le_end
  have hend := hreports.end_le
  rw [IsShort] at h
  simp only [Notice.plain, Position.Range.InRange, Position.InRange, Position.inRange_iff]
  omega

/-- What a session tells about a document with a text, counted in code points. -/
structure Tells (editor : Editor) (uri text : Text) : Prop where
  /-- The highlighting data of the text. -/
  highlights : (editor.step (.highlights uri)).answer =
    .ok (.highlights ((Document.ofText text).highlights Measure.codePoints))
  /-- What the text shows at a position. -/
  hover : ∀ line character, Position.InRange ⟨line, character⟩ →
    (editor.step (.hover uri line character)).answer =
      .ok (.hover (((Document.ofText text).hover? Measure.codePoints line character).map
        HoverReply.of))

/-- A session that holds a short text tells what the text does. -/
theorem tells_of_holdsText {editor : Editor} {uri text : Text}
    (hencoding : editor.encoding = .utf32) (hheld : editor.store.HoldsText uri text)
    (hshort : IsShort text) : editor.Tells uri text := by
  have hmeasure : editor.encoding.measure = Measure.codePoints := by
    rw [hencoding, Encoding.measure_utf32]
  constructor
  · rw [← hmeasure]
    exact highlightsOf_eq_ok hheld
  · intro line character hposition
    have hreply : reply? editor.encoding text line character =
        ((Document.ofText text).hover? Measure.codePoints line character).map HoverReply.of := by
      rw [reply?, hmeasure]
    rw [← hreply]
    refine hoverAt_eq_ok hheld hposition ?_
    intro reply hmem
    rw [hreply] at hmem
    obtain ⟨h, hhover, rfl⟩ := Option.map_eq_some_iff.mp hmem
    have hreports := reports_of_hover? hhover
    have hline := hreports.line_eq
    have hstart := hreports.start_nonneg
    have hforward := hreports.start_le_end
    have hend := hreports.end_le
    rw [IsShort] at hshort
    simp only [HoverReply.of, Position.Range.InRange, Position.InRange, Position.inRange_iff]
      at hposition ⊢
    omega

end Editor

/-- What both front ends say about a text, whatever was asked of them before. -/
structure Agree (source text : Text) : Prop where
  /-- A text that is sent for checking is answered with its diagnostics. -/
  checked : ∀ (room : Web.Room) (requests : List Web.Request) (request : Web.Request),
    request.Addresses .validate → request.text? room.depth = some text →
      ((Step.run Web.App.step (.start source room) requests).step request).answer =
        .granted 200 (.verdict (diagnose source (tokenize text)))
  /-- A text that is sent to be opened is answered with its diagnostics, under the id chosen if one
  is, and is shown from then on. -/
  opened : ∀ (room : Web.Room) (requests : List Web.Request) (request : Web.Request)
    (opening : Web.Content.Opening), request.Addresses .load →
      request.opening? room.depth = some opening → opening.text = text →
        ∃ id, (∀ chosen, opening.id = some chosen → id = chosen) ∧
          ((Step.run Web.App.step (.start source room) requests).step request).answer =
            .granted 201 (.diagnostics id (diagnose source (tokenize text))) ∧
          ((Step.run Web.App.step (.start source room) requests).step request).state.Shows source
            id text
  /-- A text that is sent for an open document is answered with its diagnostics, and is shown from
  then on. -/
  changed : ∀ (room : Web.Room) (requests : List Web.Request) (request : Web.Request) (id : Text)
    (store : Store), request.Addresses (.change id) → request.text? room.depth = some text →
      (Step.run Web.App.step (.start source room) requests).store = some store →
        store.holds id = true →
          ((Step.run Web.App.step (.start source room) requests).step request).answer =
            .granted 200 (.diagnostics id (diagnose source (tokenize text))) ∧
          ((Step.run Web.App.step (.start source room) requests).step request).state.Shows source
            id text
  /-- An editor that has agreed to count in code points and opens a text that can be sent is told
  the same diagnostics with the same columns, and is told the same about it from then on. -/
  published : ∀ (request : Web.Request) (depth : Nat) (history : List Editor.Command) (uri : Text),
    request.Sends depth text → Editor.inForce history = .utf32 →
      ((Step.run Editor.step (Editor.start source) history).step (.load uri text)).answer =
        .ok (.published [⟨uri, (diagnose source (tokenize text)).map Editor.Notice.plain⟩]) ∧
      ((Step.run Editor.step (Editor.start source) history).step (.load uri text)).state.Tells
        uri text
  /-- The service can write its answers about a text, unless there is a surrogate on its own in the
  text, in the id or in what signs the diagnostics. -/
  written : source.isSpelled = true → text.isSpelled = true →
    Web.Response.granted 200 (.verdict (diagnose source (tokenize text))) =
      .json 200 (.verdict (diagnose source (tokenize text))) ∧
    (∀ id status, Text.isSpelled id = true →
      Web.Response.granted status (.diagnostics id (diagnose source (tokenize text))) =
        .json status (.diagnostics id (diagnose source (tokenize text)))) ∧
    ∀ line character,
      Web.Response.granted 200
          (.hover ((Document.ofText text).hover? Measure.codePoints line character)) =
        .json 200 (.hover ((Document.ofText text).hover? Measure.codePoints line character))

namespace Web.App

/-- The store of a service that has its store set up, which signs as the service does. -/
theorem exists_store_run (source : Text) (room : Room) (requests : List Request) :
    ∃ store, (Step.run step (start source room) requests).store = some store ∧
      store.source = source := by
  have hsound := isSound_run source room true requests
  obtain ⟨store, hstore⟩ := Option.isSome_iff_exists.mp hsound.isSome_store
  exact ⟨store, hstore, hsound.store_source store hstore⟩

/-- A document that is opened is answered with its diagnostics, and shown from then on. -/
theorem shows_load (app : App) (store : Store) (opening : Content.Opening) :
    ∃ id, (∀ chosen, opening.id = some chosen → id = chosen) ∧
      (app.load store opening).answer =
        .granted 201 (.diagnostics id (store.diagnose opening.text)) ∧
      (app.load store opening).state.Shows store.source id opening.text := by
  have hshows : ∀ id, (app.load store opening).state.store =
      some (store.write id opening.text) →
        (app.load store opening).state.Shows store.source id opening.text :=
    fun id hstate => shows_of_holdsText hstate rfl (store.holdsText_write id opening.text)
  cases hid : opening.id with
  | some id =>
    refine ⟨id, fun chosen hchosen => Option.some.inj hchosen, ?_, hshows id ?_⟩
    · simp only [load, hid]
    · simp only [load, hid]
  | none =>
    refine ⟨freshId (app.issued + 1), nofun, ?_, hshows _ ?_⟩
    · simp only [load, hid]
    · simp only [load, hid]

/-- A document that is changed is answered with its diagnostics, and shown from then on. -/
theorem shows_change (app : App) {store : Store} {id : Text} (hheld : store.holds id = true)
    (text : Text) :
    (app.change store id text).answer = .granted 200 (.diagnostics id (store.diagnose text)) ∧
      (app.change store id text).state.Shows store.source id text := by
  have hstep : app.change store id text =
      { state := { app with store := some (store.write id text) }
        answer := .granted 200 (.diagnostics id (store.diagnose text))
        log := [Store.changeRecord id text] } := if_pos hheld
  rw [hstep]
  exact ⟨rfl, shows_of_holdsText rfl rfl (store.holdsText_write id text)⟩

end Web.App

/-- The web service and an editor that counts in code points agree on every text that can be sent:
on its diagnostics, on its highlighting data, and on what is shown at every position. -/
theorem frontEnds_agree (source text : Text) : Agree source text := by
  constructor
  · intro room requests request he htext
    rw [← Web.App.room_run source room true requests] at htext
    have hanswer := Web.App.step_validate
      (Step.run Web.App.step (.initial source room true) requests) he htext
    rw [(Web.App.isSound_run source room true requests).source_eq] at hanswer
    exact hanswer
  · rintro room requests request opening he hopening rfl
    obtain ⟨store, hstore, rfl⟩ := Web.App.exists_store_run source room requests
    rw [← Web.App.room_run store.source room true requests] at hopening
    rw [Web.App.step_load hstore he hopening]
    exact Web.App.shows_load _ store opening
  · intro room requests request id store he htext hstore hheld
    obtain ⟨found, hfound, rfl⟩ := Web.App.exists_store_run source room requests
    rw [← Web.App.room_run found.source room true requests] at htext
    obtain rfl : found = store := Option.some.inj (hfound.symm.trans hstore)
    rw [Web.App.step_change hstore he htext]
    exact Web.App.shows_change _ hheld text
  · intro request depth history uri hsends hforce
    have hshort : Editor.IsShort text := by
      -- A body has at most 2 ^ 20 bytes, and a position can be told up to 2 ^ 31 - 1.
      have hlength := hsends.length_le
      simp only [Web.Limit.maxBody, Editor.IsShort, Position.limit] at hlength ⊢
      omega
    have hencoding := (Editor.run_encoding source history).trans hforce
    have hsource := Editor.run_source source history
    constructor
    · have htell : Editor.CanPublish (Step.run Editor.step (Editor.start source) history).encoding
          (Step.run Editor.step (Editor.start source) history).store.source text := by
        rw [hencoding]
        exact Editor.canPublish_utf32 hshort _
      rw [Editor.step, Editor.answer_write htell, hencoding, hsource, Editor.notices_utf32]
    · exact Editor.tells_of_holdsText hencoding (Store.holdsText_write _ uri text) hshort
  · intro hsource htext
    have hdiagnostics := Web.isSpelled_ofDiagnostics hsource htext
    refine ⟨Web.granted_of_isSpelled ?_, fun id status hid => Web.granted_of_isSpelled ?_,
      fun line character => Web.granted_of_isSpelled (Web.isSpelled_hover htext line character)⟩
    · simp [Web.Payload.toJson, hdiagnostics]
    · simp [Web.Payload.toJson, hdiagnostics, hid]

/-- A text whose first word is a surrogate on its own, which is no minute. -/
def loneSurrogate : Text := .surrogate 0 :: Text.ofString " 0 * * * x"

/-- A request to check that text. -/
def checkLoneSurrogate : Web.Request :=
  .sending "POST" "/validate" "\x7b\"text\": \"\\ud800 0 * * * x\"\x7d"

/-- The service fails on a text of which an editor is told the diagnostic, since it cannot write a
surrogate on its own. -/
theorem validate_fails_where_editor_told :
    checkLoneSurrogate.text? 100 = some loneSurrogate ∧
      ((Web.App.start [] (.even 100)).step checkLoneSurrogate).answer = .failure .answerText ∧
      ((Step.run Editor.step (Editor.start []) [.negotiate [Text.ofString "utf-32"]]).step
        (.load [] loneSurrogate)).answer =
          .ok (.published [⟨[], [⟨⟨⟨0, 0⟩, ⟨0, 1⟩⟩,
            Text.ofString "bad minute term: '" ++ .surrogate 0 :: Text.ofString "'", .error,
            []⟩]⟩]) := by
  decide +kernel

end Crontab
