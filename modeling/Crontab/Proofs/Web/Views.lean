import Crontab.Proofs.Agreement
import Crontab.Proofs.Anchors
import Crontab.Proofs.Highlight
import Crontab.Proofs.Web.Ids

/-!
# Views of one document

The service shows an open document in four ways: as tokens, as diagnostics, as highlighting data,
and as a summary among those of all documents. A client that reads the tokens from the answer can
work out the rest: the diagnostics are the errors of the tokens, moved to where the tokens stand;
the highlighting data decodes to their places; and the summary counts them. What is said of an
answer here holds of its JSON, unless a surrogate on its own keeps it from being written.
-/

namespace Crontab

namespace Json

/-- What an object holds under a name, and null where it holds nothing. -/
def field (v : Json) (name : String) : Json :=
  match v with
  | .object fields => (lookup? fields name).getD .null
  | _ => .null

/-- The number that a value is; zero for any other. -/
def number : Json → Int
  | .int n => n
  | _ => 0

/-- The items of a list; none for any other value. -/
def items : Json → List Json
  | .array vs => vs
  | _ => []

/-- A given object holds what it was given first under a name. -/
theorem field_named (fields : List (String × Json)) (name : String) :
    (named fields).field name = (fields.lookup name).getD .null := by
  have hlookup : lookup? (fields.map fun f => (Text.ofString f.1, f.2)) name =
      fields.lookup name := by
    induction fields with
    | nil => rfl
    | cons f fields ih =>
      obtain ⟨key, v⟩ := f
      rw [lookup?, List.map_cons, List.lookup_cons, List.lookup_cons, ← ih, lookup?]
      by_cases hkey : name = key
      · simp [hkey]
      · have hbeq : (Text.ofString name == Text.ofString key) = false :=
          beq_eq_false_iff_ne.mpr (Text.ofString_inj.not.mpr hkey)
        simp [beq_eq_false_iff_ne.mpr hkey, hbeq]
  rw [named, field, hlookup]

end Json

/-- A line that is not empty is among the lines shown for a document. -/
theorem Line.lt_count {lines : List Text} {i : Nat} {line : Text} (h : lines[i]? = some line)
    (hline : line ≠ []) : i < Line.count lines.toArray := by
  have hi : i < lines.length := (List.getElem?_eq_some_iff.mp h).1
  rw [Line.count, List.back?_toArray, List.size_toArray]
  split
  · next hlast =>
    have hne : i ≠ lines.length - 1 := by
      rintro rfl
      rw [List.getLast?_eq_getElem?, h] at hlast
      exact hline (Option.some.inj hlast)
    omega
  · exact hi

/-- Every token of a document stands on one of the lines shown for it. -/
theorem line_lt_count {text : Text} {token : Token} (h : token ∈ tokenize text) :
    token.line < Line.count (Line.split text).toArray := by
  obtain ⟨i, line, hi, hmem⟩ := mem_tokenize.mp h
  have hline : line ≠ [] := by
    rintro rfl
    exact absurd hmem List.not_mem_nil
  have hlt := Line.lt_count hi hline
  rw [Line.line_of_mem_tokens hmem]
  omega

/-- Counted in code points, the marks of a document are the spans of its tokens. -/
theorem decode_highlights (text : Text) :
    (Highlight.decode ((Document.ofText text).highlights Measure.codePoints)).map
        (List.map Highlight.Mark.report) =
      .ok ((tokenize text).map fun token =>
        (token.line, token.span.1, token.span.2 - token.span.1, Highlight.labelOf token)) := by
  rw [Document.highlights, Highlight.decode_encode, Except.map, List.map_map]
  refine congrArg Except.ok (List.map_congr_left fun token htoken => ?_)
  obtain ⟨n, line, _, hmem⟩ := mem_tokenize.mp htoken
  have hstart := (Line.readsOff_of_mem_tokens hmem).start_nonneg
  have hstop : 0 ≤ token.span.2 := by
    simp only [Token.span] at hstart ⊢
    omega
  rw [Function.comp_apply, Highlight.report_ofToken]
  simp only [Document.toUnits, Measure.toUnits_codePoints _ hstart,
    Measure.toUnits_codePoints _ hstop]

/-- The one summary of a document that a store holds is that of its text. -/
theorem Store.HoldsText.filter_summaries {store : Store} {id text : Text}
    (h : store.HoldsText id text) (hnodup : store.tokens.names.Nodup) :
    (store.summaries.filter fun s => s.id = id) = [Summary.ofText id text] := by
  rw [Store.summaries, List.filter_map]
  have hentry := Register.filter_entries hnodup h.tokens
  simp only [Function.comp_def, hentry, List.map_cons, List.map_nil, h.lines, Option.getD_some]
  rfl

namespace Web

/-- An answer tells a JSON document. It fails if a surrogate on its own is in the document, and has
the document otherwise. -/
def Response.Tells (response : Response) (v : Json) : Prop :=
  if v.isSpelled then
    response.status = 200 ∧ ∃ payload, response.answer = .json payload ∧ payload.toJson = v
  else response = .failure .answerText

theorem Response.tells_granted (p : Payload) : (Response.granted 200 p).Tells p.toJson := by
  rw [Response.Tells, Response.granted]
  split
  · exact ⟨rfl, p, rfl, rfl⟩
  · rfl

/-! ## What a client makes of a token that it was told -/

namespace Told

/-- The words for types of tokens, with the labels under which they are coloured. -/
def labels : List (String × String) :=
  [("comment", "comment"), ("term", "variable"), ("command", "function")]

/-- The label under which a token is coloured. -/
def label (token : Json) : String :=
  ((labels.find? fun l => (token.field "type").text? = some (.ofString l.1)).map Prod.snd).getD ""

/-- The line, the start, the length and the label of a token. -/
def mark (token : Json) : Int × Int × Int × String :=
  ((token.field "line").number, (token.field "start_char").number,
    (token.field "end_char").number - (token.field "start_char").number, label token)

/-- The diagnostics that the errors of a token come to. -/
def diagnostics (source : Text) (token : Json) : List Json :=
  (token.field "errors").items.map fun e =>
    .named [("line", token.field "line"),
      ("start_char", .int ((token.field "start_char").number + (e.field "start_char").number)),
      ("end_char", .int ((token.field "start_char").number + (e.field "end_char").number)),
      ("severity", .word "error"), ("message", e.field "message"), ("source", .string source)]

theorem field_ofToken (token : Token) (name : String) :
    (Payload.ofToken token).field name =
      ([("type", .word (Payload.tokenType token)), ("line", .int token.line),
        ("start_char", .int token.span.1), ("end_char", .int token.span.2),
        ("content", .string token.content), ("field", (Payload.fieldAndValue token).1),
        ("value", (Payload.fieldAndValue token).2),
        ("errors", .array (token.errors.map Payload.ofTermError))].lookup name).getD .null :=
  Json.field_named _ name

theorem line_ofToken (token : Token) :
    (Payload.ofToken token).field "line" = .int token.line := by
  rw [field_ofToken]
  rfl

theorem type_ofToken (token : Token) :
    (Payload.ofToken token).field "type" = .word (Payload.tokenType token) := by
  rw [field_ofToken]
  rfl

theorem value_ofToken (token : Token) :
    (Payload.ofToken token).field "value" = (Payload.fieldAndValue token).2 := by
  rw [field_ofToken]
  rfl

theorem errors_ofToken (token : Token) :
    (Payload.ofToken token).field "errors" =
      .array (token.errors.map Payload.ofTermError) := by
  rw [field_ofToken]
  rfl

theorem span_ofToken (token : Token) :
    (Payload.ofToken token).field "start_char" = .int token.span.1 ∧
      (Payload.ofToken token).field "end_char" = .int token.span.2 := by
  rw [field_ofToken, field_ofToken]
  exact ⟨rfl, rfl⟩

theorem label_ofToken (token : Token) :
    label (Payload.ofToken token) = Highlight.labelOf token := by
  rw [label, type_ofToken, Json.word, Json.text?]
  cases token <;> simp [labels, Payload.tokenType, Highlight.labelOf, Text.ofString_inj]

theorem mark_ofToken (token : Token) :
    mark (Payload.ofToken token) =
      (token.line, token.span.1, token.span.2 - token.span.1, Highlight.labelOf token) := by
  rw [mark, line_ofToken, (span_ofToken token).1, (span_ofToken token).2, label_ofToken]
  rfl

/-- A client makes the diagnostics of a token from its errors as the service does. -/
theorem diagnostics_ofToken (source : Text) (token : Token) :
    diagnostics source (Payload.ofToken token) =
      (token.diagnostics source).map Payload.ofDiagnostic := by
  rw [diagnostics, errors_ofToken, line_ofToken, (span_ofToken token).1, Token.diagnostics,
    Json.items, List.map_map, List.map_map]
  refine List.map_congr_left fun e _ => ?_
  simp only [Function.comp_apply, Payload.ofTermError, Json.field_named]
  rfl

theorem flatMap_diagnostics (source : Text) (tokens : List Token) :
    (tokens.map Payload.ofToken).flatMap (diagnostics source) =
      (diagnose source tokens).map Payload.ofDiagnostic := by
  rw [List.flatMap_map, diagnose, List.map_flatMap]
  simp only [diagnostics_ofToken]

/-- A term is told with a value exactly when it is told without errors. -/
theorem value_ne_null_iff {text : Text} {token : Token} (h : token ∈ tokenize text)
    (hterm : Payload.tokenType token = "term") :
    (Payload.ofToken token).field "value" ≠ .null ↔
      ((Payload.ofToken token).field "errors").items = [] := by
  rw [value_ofToken, errors_ofToken, Json.items]
  cases token with
  | comment i content => exact absurd hterm (by decide : "comment" ≠ "term")
  | command i c content => exact absurd hterm (by decide : "command" ≠ "term")
  | term i c field reading content =>
    obtain rfl := reading_of_mem_tokenize h
    rcases Term.read_eq_value_or_errors_cons field content with ⟨v, hread⟩ | ⟨e, es, hread⟩
    · rw [hread]
      exact iff_of_true nofun rfl
    · rw [hread]
      exact iff_of_false (fun hvalue => hvalue rfl) (List.cons_ne_nil _ _)

/-- Comments and commands are told without a value and without errors. -/
theorem value_eq_null {token : Token} (h : Payload.tokenType token ≠ "term") :
    (Payload.ofToken token).field "value" = .null ∧
      ((Payload.ofToken token).field "errors").items = [] := by
  rw [value_ofToken, errors_ofToken]
  cases token with
  | comment i content => exact ⟨rfl, rfl⟩
  | command i c content => exact ⟨rfl, rfl⟩
  | term i c field reading content => exact absurd rfl h

end Told

/-- All views of a document are told by its tokens, as the service tells these. -/
structure App.ViewsAgree (app : App) (source id : Text) (told : List Json) : Prop where
  /-- The tokens are what is shown as such. -/
  tokens : ∀ request body, request.body? = some body → request.Addresses (.view id .tokens) →
    (app.step request).answer.Tells
      (.named [("document_id", .string id), ("tokens", .array told)])
  /-- The diagnostics are the errors of the tokens, moved to where the tokens stand. -/
  diagnostics : ∀ request body, request.body? = some body →
    request.Addresses (.view id .diagnostics) →
      (app.step request).answer.Tells
        (.named [("document_id", .string id),
          ("diagnostics", .array (told.flatMap (Told.diagnostics source)))])
  /-- The highlighting data decodes to the places and labels of the tokens. -/
  highlights : ∃ data, (Highlight.decode data).map (List.map Highlight.Mark.report) =
      .ok (told.map Told.mark) ∧
    ∀ request body, request.body? = some body → request.Addresses (.view id .highlights) →
      (app.step request).answer.Tells
        (.named [("legend", Json.words Highlight.legend), ("data", Json.ints data)])
  /-- A term has a value or an error, and not both. -/
  terms : ∀ token ∈ told, token.field "type" = .word "term" →
    (token.field "value" ≠ .null ↔ (token.field "errors").items = [])
  /-- Comments and commands have neither. -/
  others : ∀ token ∈ told, token.field "type" ≠ .word "term" →
    token.field "value" = .null ∧ (token.field "errors").items = []
  /-- In the list of all documents one entry is about this one. It counts the tokens and the
  diagnostics, and every token stands on one of its lines. -/
  listing : ∃ entries entry,
    (∀ request body, request.body? = some body → request.Addresses .list →
      (app.step request).answer.Tells (.named [("documents", .array entries)])) ∧
    (entries.filter fun e => (e.field "document_id").text? = some id) = [entry] ∧
    entry.field "tokens" = .int told.length ∧
    entry.field "errors" = .int (told.flatMap (Told.diagnostics source)).length ∧
    ∀ token ∈ told, (token.field "line").number < (entry.field "lines").number

namespace App

/-- The one entry of a document in the list of all is the summary of its text. -/
theorem filter_listing {store : Store} {id text : Text} (h : store.HoldsText id text)
    (hnodup : store.tokens.names.Nodup) :
    ((store.summaries.map Payload.ofSummary).filter fun e =>
        (e.field "document_id").text? = some id) = [Payload.ofSummary (.ofText id text)] := by
  have hid : ∀ s : Summary, ((Payload.ofSummary s).field "document_id").text? = some s.id := by
    intro s
    rw [Payload.ofSummary, Json.field_named]
    rfl
  rw [List.filter_map]
  simp only [Function.comp_def, hid, Option.some.injEq, h.filter_summaries hnodup, List.map_cons,
    List.map_nil]

/-- A service that holds a text shows it alike in all views. -/
theorem viewsAgree_of_holdsText {app : App} {store : Store} {source id text : Text}
    (hstore : app.store = some store) (hsource : store.source = source)
    (hnodup : store.tokens.names.Nodup) (h : store.HoldsText id text) :
    app.ViewsAgree source id ((tokenize text).map Payload.ofToken) := by
  have hshows := shows_of_holdsText hstore hsource h
  constructor
  · intro request body hbody he
    rw [step_view hstore he hbody, view, h.tokensOf]
    exact Response.tells_granted (.tokens id (tokenize text))
  · intro request body hbody he
    rw [hshows.diagnostics request body hbody he, Told.flatMap_diagnostics]
    exact Response.tells_granted (.diagnostics id (diagnose source (tokenize text)))
  · refine ⟨(Document.ofText text).highlights Measure.codePoints, ?_, ?_⟩
    · rw [decode_highlights, List.map_map]
      simp only [Function.comp_def, Told.mark_ofToken]
    · intro request body hbody he
      rw [hshows.highlights request body hbody he,
        ← granted_of_isSpelled (isSpelled_highlights _)]
      exact Response.tells_granted (.highlights _)
  · intro told htold htype
    obtain ⟨token, htoken, rfl⟩ := List.mem_map.mp htold
    rw [Told.type_ofToken, Json.word, Json.word, Json.string.injEq, Text.ofString_inj] at htype
    exact Told.value_ne_null_iff htoken htype
  · intro told htold htype
    obtain ⟨token, htoken, rfl⟩ := List.mem_map.mp htold
    rw [Told.type_ofToken] at htype
    exact Told.value_eq_null fun heq => htype (congrArg Json.word heq)
  · refine ⟨store.summaries.map Payload.ofSummary, Payload.ofSummary (.ofText id text), ?_,
      filter_listing h hnodup, ?_, ?_, ?_⟩
    · intro request body hbody he
      rw [step_list hstore he hbody]
      exact Response.tells_granted (.listing store.summaries)
    · rw [Payload.ofSummary, Json.field_named, List.length_map]
      rfl
    · rw [Payload.ofSummary, Json.field_named, Told.flatMap_diagnostics, List.length_map,
        length_diagnose]
      rfl
    · intro told htold
      obtain ⟨token, htoken, rfl⟩ := List.mem_map.mp htold
      rw [Told.line_ofToken, Payload.ofSummary, Json.field_named]
      exact line_lt_count htoken

/-- Whatever requests came before, all views of a document that is open agree: they are told by the
tokens that are held for it, as the service tells these. -/
theorem views_agree (source : Text) (room : Room) (setUp : Bool) (requests : List Request)
    (store : Store) (hstore : (Step.run step (initial source room setUp) requests).store = some store)
    (id : Text) (hid : store.holds id = true) :
    ∃ tokens, store.tokensOf id = .ok tokens ∧
      (Step.run step (initial source room setUp) requests).ViewsAgree source id
        (tokens.map Payload.ofToken) := by
  have hsound := isSound_run source room setUp requests
  obtain ⟨text, htext⟩ := hsound.exists_holdsText hstore hid
  exact ⟨_, htext.tokensOf, viewsAgree_of_holdsText hstore (hsound.store_source store hstore)
    (isOrderly_run source room setUp requests store hstore).nodup htext⟩

/-- All views of a document with a comment and an entry agree. The entry has an error. -/
theorem views_agree_comment_and_entry :
    let requests := [.sending "POST" "/documents"
      "\x7b\"document_id\": \"m\", \"text\": \"# m\\n60 0 * * * x\"\x7d"]
    let app := Step.run step (initial [] (.even 100) true) requests
    let store := (Store.empty []).write (.ofString "m") (.ofString "# m\n60 0 * * * x")
    app.store = some store ∧ store.holds (.ofString "m") = true ∧
      ∃ tokens, store.tokensOf (.ofString "m") = .ok tokens ∧
        app.ViewsAgree [] (.ofString "m") (tokens.map Payload.ofToken) := by
  intro requests app store
  have hstore : app.store = some store := by decide +kernel
  have hheld : store.holds (.ofString "m") = true := by decide +kernel
  exact ⟨hstore, hheld, views_agree [] (.even 100) true requests store hstore _ hheld⟩

/-- The tokens of an open document cannot be told, since a comment repeats a surrogate on its own.
The other views of the document are there all the same. -/
theorem tokens_untold_where_others_told :
    let app := Step.run step (initial [] (.even 100) true)
      [.sending "POST" "/documents" "\x7b\"document_id\": \"m\", \"text\": \"# \\ud800\"\x7d"]
    (app.step (.sending "GET" "/documents/m/tokens" "")).answer = .failure .answerText ∧
      (app.step (.sending "GET" "/documents/m/diagnostics" "")).answer =
        .json 200 (.diagnostics (.ofString "m") []) ∧
      (app.step (.sending "GET" "/documents/m/semantic-tokens" "")).answer =
        .json 200 (.highlights [0, 0, 3, 2, 0]) ∧
      (app.step (.sending "GET" "/documents" "")).answer =
        .json 200 (.listing [⟨.ofString "m", 1, 1, 0⟩]) := by
  decide +kernel

end App

end Web

end Crontab
