import Crontab.Proofs.Entry.Parts
import Crontab.Proofs.Term.Errors
import Crontab.Proofs.Web.Address

/-!
# The verdict on a document

A document has no diagnostics exactly when each of its entries keeps the grammar of terms in its
time fields. The web service says so: a text that is sent for checking is called valid exactly then.
Every diagnostic goes back to one piece of an entry that stands for a time field and is no term of
it; comments, empty lines, missing pieces and commands cause none.
-/

namespace Crontab

namespace Entry

/-- Word `i` of an entry stands for the time field at this position. -/
def StandsFor (line : Text) (i : Nat) (field : Field) (word : Text) : Prop :=
  Field.all[i]? = some field ∧ (words line)[i]? = some word

/-- Every word of an entry that stands for a time field is a term of that field. -/
def WellTimed (line : Text) : Prop :=
  ∀ i field word, StandsFor line i field word → ∃ v, Term.Denotes field word v

/-- Each piece that has a field is placed as a term of it. -/
theorem term_mem_place (line char : Int) {fields : List Field} {ps : List Text} {i : Nat}
    {field : Field} {piece : Text} (hfield : fields[i]? = some field)
    (hpiece : ps[i]? = some piece) :
    ∃ char', .term line char' field (Term.read field piece) piece ∈ place line char fields ps := by
  induction fields generalizing char ps i with
  | nil => exact absurd hfield (by simp)
  | cons f fields ih =>
    cases ps with
    | nil => exact absurd hpiece (by simp)
    | cons p ps =>
      rw [place]
      cases i with
      | zero =>
        obtain rfl : f = field := by simpa using hfield
        obtain rfl : p = piece := by simpa using hpiece
        exact ⟨char, List.mem_cons_self ..⟩
      | succ i =>
        obtain ⟨char', hmem⟩ :=
          ih (char + p.length + 1) (i := i) (by simpa using hfield) (by simpa using hpiece)
        exact ⟨char', List.mem_cons_of_mem _ hmem⟩

/-- A token placed with an error is the term of a piece that has a field. -/
theorem exists_piece_of_mem_place {line char : Int} {fields : List Field} {ps : List Text}
    {token : Token} (h : token ∈ place line char fields ps) (herrors : token.errors ≠ []) :
    ∃ (i : Nat) (field : Field) (piece : Text), fields[i]? = some field ∧ ps[i]? = some piece ∧
      token.errors = (Term.read field piece).errorList := by
  fun_induction place line char fields ps with
  | case1 char field fields piece rest ih =>
    rcases List.mem_cons.mp h with rfl | h
    · exact ⟨0, field, piece, rfl, rfl, rfl⟩
    · obtain ⟨i, f, p, hf, hp, he⟩ := ih h
      exact ⟨i + 1, f, p, by simpa using hf, by simpa using hp, he⟩
  | case2 char fields ps _ =>
    rw [List.mem_singleton.mp h] at herrors
    exact absurd rfl herrors

/-- No token of an entry has an error exactly when the entry is well timed. -/
theorem errors_tokens_iff (i : Int) (line : Text) :
    (∀ token ∈ tokens i line, token.errors = []) ↔ WellTimed line := by
  constructor
  · rintro h j field word ⟨hfield, hword⟩
    obtain ⟨char, hmem⟩ := term_mem_place i 0 hfield
      (pieces_eq line ▸ hword : (pieces line)[j]? = some word)
    exact (Term.errorList_read_eq_nil_iff field word).mp (h _ hmem)
  · intro h token htoken
    by_contra herrors
    obtain ⟨j, field, word, hfield, hword, he⟩ := exists_piece_of_mem_place htoken herrors
    rw [pieces_eq] at hword
    exact herrors (he.trans ((Term.errorList_read_eq_nil_iff field word).mpr
      (h j field word ⟨hfield, hword⟩)))

end Entry

/-- There are no diagnostics exactly when no token has an error. -/
theorem diagnose_eq_nil_iff (source : Text) (tokens : List Token) :
    diagnose source tokens = [] ↔ ∀ token ∈ tokens, token.errors = [] := by
  simp [diagnose, Token.diagnostics]

/-- A document in which every entry is well timed. -/
def WellTimed (text : Text) : Prop :=
  ∀ line ∈ Line.split text, Line.IsEntry line → Entry.WellTimed line

/-- A document has no diagnostics exactly when all its entries are well timed. -/
theorem diagnose_tokenize_eq_nil_iff (source text : Text) :
    diagnose source (tokenize text) = [] ↔ WellTimed text := by
  rw [diagnose_eq_nil_iff]
  constructor
  · intro h line hline hentry
    obtain ⟨i, hi⟩ := List.mem_iff_getElem?.mp hline
    apply (Entry.errors_tokens_iff i line).mp
    intro token htoken
    rw [← Line.tokens_entry i hentry] at htoken
    exact h token (mem_tokenize.mpr ⟨i, line, hi, htoken⟩)
  · intro h token htoken
    obtain ⟨i, line, hi, hmem⟩ := mem_tokenize.mp htoken
    by_contra herrors
    have hentry := Line.isEntry_of_errors hmem herrors
    rw [Line.tokens_entry i hentry] at hmem
    exact herrors ((Entry.errors_tokens_iff i line).mpr
      (h line (List.mem_of_getElem? hi) hentry) token hmem)

/-- A diagnostic goes back to a word of an entry that stands for a time field and is no term of
it. -/
theorem exists_word_of_mem_diagnose {source text : Text} {d : Diagnostic}
    (h : d ∈ diagnose source (tokenize text)) :
    ∃ (n : Nat) (line : Text) (i : Nat) (field : Field) (word : Text),
      d.line = n ∧ (Line.split text)[n]? = some line ∧ Line.IsEntry line ∧
        Entry.StandsFor line i field word ∧ ¬∃ v, Term.Denotes field word v := by
  obtain ⟨token, htoken, hd⟩ := List.mem_flatMap.mp h
  obtain ⟨e, he, rfl⟩ := List.mem_map.mp hd
  obtain ⟨n, line, hn, hmem⟩ := mem_tokenize.mp htoken
  have herrors : token.errors ≠ [] := List.ne_nil_of_mem he
  have hentry := Line.isEntry_of_errors hmem herrors
  have hline := Line.line_of_mem_tokens hmem
  rw [Line.tokens_entry n hentry] at hmem
  obtain ⟨i, field, word, hfield, hword, hread⟩ := Entry.exists_piece_of_mem_place hmem herrors
  rw [Entry.pieces_eq] at hword
  refine ⟨n, line, i, field, word, hline, hn, hentry, ⟨hfield, hword⟩, ?_⟩
  rw [← Term.errorList_read_eq_nil_iff, ← hread]
  exact herrors

namespace Web

/-- An answer says that a text is valid. -/
def Response.SaysValid (response : Response) : Prop :=
  response.status = 200 ∧ ∃ payload fields, response.answer = .json payload ∧
    payload.toJson = .object fields ∧ Json.lookup? fields "valid" = some (.bool true)

/-- A text that is sent for checking is answered with its diagnostics. -/
theorem App.step_validate (app : App) {request : Request} {text : Text}
    (haddress : request.Addresses .validate) (htext : request.text? app.room.depth = some text) :
    (app.step request).answer =
      .granted 200 (.verdict (diagnose app.source (tokenize text))) := by
  obtain ⟨content, hcontent, htext⟩ := (request.text?_eq_some_iff _ text).mp htext
  obtain ⟨body, hbody, hcontent⟩ := (request.content?_eq_some_iff _ content).mp hcontent
  rw [app.step_eq_serve hbody haddress]
  simp [App.serve, App.withContent, hcontent, App.checked, htext, App.answer]

/-- The verdict without diagnostics says that the text is valid, and no other does. -/
theorem saysValid_verdict_iff (ds : List Diagnostic) :
    (Response.granted 200 (.verdict ds)).SaysValid ↔ ds = [] := by
  have hvalid : Json.lookup? ([(Text.ofString "valid", Json.bool ds.isEmpty),
      (Text.ofString "diagnostics", Payload.ofDiagnostics ds)]) "valid" =
        some (.bool ds.isEmpty) := by
    simp [Json.lookup?]
  constructor
  · rintro ⟨hstatus, payload, fields, hanswer, hfields, hlookup⟩
    unfold Response.granted at hanswer
    split at hanswer
    · obtain rfl := Answer.json.inj hanswer
      obtain rfl := Json.object.inj hfields
      have htrue := hvalid.symm.trans hlookup
      simpa using htrue
    · cases hanswer
  · rintro rfl
    exact ⟨by decide, _, _, rfl, rfl, hvalid⟩

end Web

/-- A document has no diagnostics exactly when all its entries are well timed, and a text that is
sent for checking is called valid exactly then. Every diagnostic stands on an entry, one of whose
first five words is no term of the field it stands for. -/
theorem valid_iff_wellTimed :
    (∀ source text, diagnose source (tokenize text) = [] ↔ WellTimed text) ∧
    (∀ (app : Web.App) (request : Web.Request) (text : Text), request.Addresses .validate →
      request.text? app.room.depth = some text → ((app.step request).answer.SaysValid ↔ WellTimed text)) ∧
    ∀ source text, ∀ d ∈ diagnose source (tokenize text),
      ∃ (n : Nat) (line : Text) (i : Nat) (field : Field) (word : Text),
        d.line = n ∧ (Line.split text)[n]? = some line ∧ Line.IsEntry line ∧
          Entry.StandsFor line i field word ∧ ¬∃ v, Term.Denotes field word v := by
  refine ⟨diagnose_tokenize_eq_nil_iff, ?_, fun _ _ _ hd => exists_word_of_mem_diagnose hd⟩
  intro app request text haddress htext
  rw [app.step_validate haddress htext, Web.saysValid_verdict_iff, diagnose_tokenize_eq_nil_iff]

/-- A request to check one entry with a doubled space, whose empty second word is no hour. -/
def doubledSpace : Web.Request :=
  .sending "POST" "/validate" "\x7b\"text\":\"*/5  * * * run\"\x7d"

/-- A doubled space makes an entry ill timed, and the service does not call it valid. -/
theorem valid_iff_wellTimed_doubledSpace :
    doubledSpace.Addresses .validate ∧ doubledSpace.text? 100 = some (.ofString "*/5  * * * run") ∧
      ¬((Web.App.start [] (.even 100)).step doubledSpace).answer.SaysValid ∧
      ¬WellTimed (.ofString "*/5  * * * run") := by
  have haddress : doubledSpace.Addresses .validate := ⟨rfl, Or.inl rfl⟩
  have htext : doubledSpace.text? 100 = some (.ofString "*/5  * * * run") := by decide +kernel
  have hill : ¬WellTimed (.ofString "*/5  * * * run") := by
    rw [← valid_iff_wellTimed.1 []]
    decide +kernel
  refine ⟨haddress, htext, ?_, hill⟩
  rwa [valid_iff_wellTimed.2.1 _ _ _ haddress htext]

end Crontab
