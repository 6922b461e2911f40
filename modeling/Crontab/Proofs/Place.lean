import Crontab.Document
import Crontab.Proofs.Term.Errors
import Crontab.Proofs.Tokenize

/-!
# Places in a document

Lines, columns and what is said about them stay within the text. A line and its index fit into the
text together; a token that is not an empty command ends on its line; a diagnostic starts where its
term does or later, and ends no further away than twice the text. What a diagnostic or a hover
quotes is taken from the text.
-/

namespace Crontab

namespace Line

/-- One more code point in front ends an empty line, or belongs to a break that is there already, or
stands on the first line. -/
theorem split_cons_cases (c : CodePoint) (text : Text) :
    split (c :: text) = [] :: split text ∨ split (c :: text) = split text ∨
      split (c :: text) = (split text).modifyHead (c :: ·) := by
  simp only [split, List.foldr_cons, Scan.read]
  split
  · exact Or.inl rfl
  split
  · split
    · exact Or.inr (Or.inl rfl)
    · exact Or.inl rfl
  · exact Or.inr (Or.inr rfl)

/-- The index of a line and its length fit into the text. -/
theorem index_add_length_le {text line : Text} {i : Nat} (h : (split text)[i]? = some line) :
    i + line.length ≤ text.length := by
  induction text generalizing line i with
  | nil =>
    obtain ⟨rfl, rfl⟩ : i = 0 ∧ [] = line := by
      cases i with
      | zero => exact ⟨rfl, by simpa using h⟩
      | succ i => exact absurd h (by simp)
    simp
  | cons c text ih =>
    rw [List.length_cons]
    rcases split_cons_cases c text with hsplit | hsplit | hsplit
    · rw [hsplit] at h
      cases i with
      | zero =>
        obtain rfl : [] = line := by simpa using h
        simp
      | succ i =>
        have hrest := ih (by simpa using h)
        omega
    · have hrest := ih (hsplit ▸ h)
      omega
    · rw [hsplit] at h
      cases i with
      | zero =>
        obtain ⟨first, later, hlines⟩ := List.exists_cons_of_ne_nil (split_ne_nil text)
        have hfirst : 0 + first.length ≤ text.length := ih (by simp [hlines])
        obtain rfl : c :: first = line := by simpa [hlines] using h
        rw [List.length_cons]
        omega
      | succ i =>
        obtain ⟨first, later, hlines⟩ := List.exists_cons_of_ne_nil (split_ne_nil text)
        have hrest : i + 1 + line.length ≤ text.length := ih (by simpa [hlines] using h)
        omega

/-- A line holds nothing but code points of the text. -/
theorem subset_of_mem_split {text line : Text} (h : line ∈ split text) : line ⊆ text := by
  induction text generalizing line with
  | nil => simp_all
  | cons c text ih =>
    rcases split_cons_cases c text with hsplit | hsplit | hsplit
    · rw [hsplit] at h
      rcases List.mem_cons.mp h with rfl | h
      · exact List.nil_subset _
      · exact List.subset_cons_of_subset _ (ih h)
    · exact List.subset_cons_of_subset _ (ih (hsplit ▸ h))
    · obtain ⟨first, later, hlines⟩ := List.exists_cons_of_ne_nil (split_ne_nil text)
      rw [hsplit, hlines, List.modifyHead_cons] at h
      rw [hlines] at ih
      rcases List.mem_cons.mp h with rfl | h
      · exact List.cons_subset_cons _ (ih (List.mem_cons_self ..))
      · exact List.subset_cons_of_subset _ (ih (List.mem_cons_of_mem _ h))

end Line

/-- What a token says is on its line. -/
theorem Token.ReadsOff.content_subset {token : Token} {line : Text} (h : token.ReadsOff line) :
    token.content ⊆ line := by
  rw [← h.extract_eq, List.extract_eq_take_drop]
  exact List.Subset.trans (List.take_subset _ _) (List.drop_subset _ _)

/-- A token that covers a position is not empty, and it ends on its line. -/
theorem Token.ReadsOff.span_of_covers {token : Token} {line : Text} {char : Int}
    (h : token.ReadsOff line) (hcovers : token.covers char = true) :
    token.span.1 < token.span.2 ∧ token.span.2 ≤ line.length := by
  simp only [Token.covers, Bool.and_eq_true, decide_eq_true_eq] at hcovers
  refine ⟨by omega, h.stop_le ?_⟩
  -- An empty command can stand past the end of its line, but covers no position.
  rintro i column rfl
  simp only [Token.span, Token.char, Token.content, List.length_nil] at hcovers
  omega

/-- A term is placed with what reading its text against its field gives. -/
theorem Entry.reading_of_mem_place {line char : Int} {fields : List Field} {ps : List Text}
    {i c : Int} {field : Field} {reading : Term.Reading} {content : Text}
    (h : .term i c field reading content ∈ place line char fields ps) :
    reading = Term.read field content := by
  fun_induction place line char fields ps with
  | case1 char field' fields piece rest ih =>
    rcases List.mem_cons.mp h with heq | h
    · obtain ⟨_, _, rfl, rfl, rfl⟩ := Token.term.inj heq
      rfl
    · exact ih h
  | case2 char fields ps _ => cases List.mem_singleton.mp h

/-- A term of a line carries what reading its text against its field gives. -/
theorem Line.reading_of_mem_tokens {n i c : Int} {line : Text} {field : Field}
    {reading : Term.Reading} {content : Text}
    (h : .term i c field reading content ∈ Line.tokens n line) :
    reading = Term.read field content := by
  rcases Line.empty_or_comment_or_entry line with rfl | hcomment | hentry
  · exact absurd h List.not_mem_nil
  · rw [Line.tokens_comment n hcomment] at h
    exact absurd (List.mem_singleton.mp h) nofun
  · rw [Line.tokens_entry n hentry] at h
    exact Entry.reading_of_mem_place h

/-- A term of a document carries what reading its text against its field gives. -/
theorem reading_of_mem_tokenize {text : Text} {i c : Int} {field : Field}
    {reading : Term.Reading} {content : Text}
    (h : .term i c field reading content ∈ tokenize text) : reading = Term.read field content :=
  Line.reading_of_mem_tokens (mem_tokens_of_mem_tokenize h)

/-- A token placed with an error is a term, and its errors are those of its text. -/
theorem Entry.errors_of_mem_place {line char : Int} {fields : List Field} {ps : List Text}
    {token : Token} (h : token ∈ place line char fields ps) (herrors : token.errors ≠ []) :
    token.isTerm = true ∧
      ∃ field, token.errors = (Term.read field token.content).errorList := by
  fun_induction place line char fields ps with
  | case1 char field fields piece rest ih =>
    rcases List.mem_cons.mp h with rfl | h
    · exact ⟨rfl, field, rfl⟩
    · exact ih h
  | case2 char fields ps _ =>
    rw [List.mem_singleton.mp h] at herrors
    exact absurd rfl herrors

/-- A token with an error: a term of an entry, which ends on its line. -/
structure Token.Fails (token : Token) (line : Text) : Prop where
  /-- Its line is an entry. -/
  isEntry : Line.IsEntry line
  /-- It is a term. -/
  isTerm : token.isTerm = true
  /-- Its errors are those of its text. -/
  errors_eq : ∃ field, token.errors = (Term.read field token.content).errorList
  /-- It does not start before its line. -/
  start_nonneg : 0 ≤ token.span.1
  /-- It ends on its line. -/
  stop_le : token.span.2 ≤ line.length

/-- What a token with an error is on its line. -/
theorem Line.fails_of_mem_tokens {i : Int} {line : Text} {token : Token}
    (h : token ∈ Line.tokens i line) (herrors : token.errors ≠ []) : token.Fails line := by
  have hreads := Line.readsOff_of_mem_tokens h
  have hentry := Line.isEntry_of_errors h herrors
  rw [Line.tokens_entry i hentry] at h
  obtain ⟨hterm, herrorsEq⟩ := Entry.errors_of_mem_place h herrors
  refine ⟨hentry, hterm, herrorsEq, hreads.start_nonneg, hreads.stop_le ?_⟩
  rintro j char rfl
  cases hterm

/-- A diagnostic of a token stands on its line. -/
theorem Token.line_of_mem_diagnostics {source : Text} {token : Token} {d : Diagnostic}
    (h : d ∈ token.diagnostics source) : d.line = token.line := by
  obtain ⟨e, _, rfl⟩ := List.mem_map.mp h
  rfl

/-- A diagnostic of a document is about a token with an error, on a line that exists. -/
theorem exists_fails_of_mem_diagnostics {source text : Text} {token : Token} {d : Diagnostic}
    (htoken : token ∈ tokenize text) (hd : d ∈ token.diagnostics source) :
    ∃ (n : Nat) (line : Text), d.line = n ∧ (Line.split text)[n]? = some line ∧
      token ∈ Line.tokens n line ∧ token.Fails line := by
  obtain ⟨n, line, hn, hmem⟩ := mem_tokenize.mp htoken
  obtain ⟨e, he, _⟩ := List.mem_map.mp hd
  have hline := (Token.line_of_mem_diagnostics hd).trans (Line.line_of_mem_tokens hmem)
  exact ⟨n, line, hline, hn, hmem, Line.fails_of_mem_tokens hmem (List.ne_nil_of_mem he)⟩

/-- A diagnostic of a text: where it stands and what it says. -/
structure Diagnostic.Reports (d : Diagnostic) (source text : Text) : Prop where
  /-- Its line is not before the first. -/
  line_nonneg : 0 ≤ d.line
  /-- There are no more lines before it than code points. -/
  line_le : d.line ≤ text.length
  /-- It starts on its line or past its end. -/
  start_nonneg : 0 ≤ d.startChar
  /-- It does not stop before it starts. -/
  start_le_end : d.startChar ≤ d.endChar
  /-- It stops no further away than twice the text. -/
  end_le : d.endChar ≤ (2 * text.length : Nat)
  /-- It is signed. -/
  source_eq : d.source = source
  /-- Its message is that of a fault which quotes the text. -/
  message : ∃ (field : Field) (fault : Term.Fault),
    d.message = fault.message field ∧ fault.quoted ⊆ text

/-- Every diagnostic of a document reports on its text. -/
theorem reports_of_mem_diagnose {source text : Text} {d : Diagnostic}
    (h : d ∈ diagnose source (tokenize text)) : d.Reports source text := by
  obtain ⟨token, htoken, hd⟩ := List.mem_flatMap.mp h
  obtain ⟨n, line, hline, hn, hmem, hfails⟩ := exists_fails_of_mem_diagnostics htoken hd
  obtain ⟨e, he, rfl⟩ := List.mem_map.mp hd
  obtain ⟨field, herrors⟩ := hfails.errors_eq
  have hreport := Term.errorList_read_reports (herrors ▸ he)
  obtain ⟨fault, hmessage, hquoted⟩ := hreport.message
  have hfits := Line.index_add_length_le hn
  have hstart := hfails.start_nonneg
  have hstop := hfails.stop_le
  have hlow := hreport.start_nonneg
  have hforward := hreport.start_le_stop
  have hhigh := hreport.stop_le
  simp only [Token.span] at hstart hstop
  simp only at hline
  constructor
  · simp only [hline]
    omega
  · simp only [hline]
    omega
  · simp only
    omega
  · simp only
    omega
  · simp only
    omega
  · rfl
  · have hsubset := List.Subset.trans (Line.readsOff_of_mem_tokens hmem).content_subset
      (Line.subset_of_mem_split (List.mem_of_getElem? hn))
    exact ⟨field, fault, hmessage, List.Subset.trans hquoted hsubset⟩

/-- A message is spelled if what it quotes is. -/
theorem Term.Fault.isSpelled_message (field : Field) {fault : Fault}
    (h : fault.quoted.isSpelled = true) : (fault.message field).isSpelled = true := by
  cases fault <;> simp_all [message, message.cited, quoted]

/-- A diagnostic of a text without surrogates on their own has none in its message. -/
theorem Diagnostic.Reports.isSpelled_message {d : Diagnostic} {source text : Text}
    (h : d.Reports source text) (htext : text.isSpelled = true) : d.message.isSpelled = true := by
  obtain ⟨field, fault, hmessage, hquoted⟩ := h.message
  rw [hmessage]
  exact fault.isSpelled_message field (Text.isSpelled_of_subset hquoted htext)

/-- What a token of a document says is in the text. -/
theorem content_subset_of_mem_tokenize {text : Text} {token : Token} (h : token ∈ tokenize text) :
    token.content ⊆ text := by
  obtain ⟨n, line, hn, hmem⟩ := mem_tokenize.mp h
  exact List.Subset.trans (Line.readsOff_of_mem_tokens hmem).content_subset
    (Line.subset_of_mem_split (List.mem_of_getElem? hn))

/-- What is shown for a text without surrogates on their own has none. -/
theorem Hover.isSpelled_describe {text shown : Text} {tokens : List Token} {token : Token}
    (htokens : ∀ other ∈ tokens, other ∈ tokenize text) (htoken : token ∈ tokenize text)
    (h : describe tokens token = some shown) (htext : text.isSpelled = true) :
    shown.isSpelled = true := by
  have hcontent : ∀ other ∈ tokenize text, other.content.isSpelled = true := fun other hother =>
    Text.isSpelled_of_subset (content_subset_of_mem_tokenize hother) htext
  cases token with
  | comment i content => exact absurd h nofun
  | term i char field reading content =>
    obtain ⟨v, _, rfl⟩ := Option.map_eq_some_iff.mp h
    exact Text.isSpelled_ofString _
  | command i char content =>
    obtain rfl := Option.some.inj h
    have hschedule : (schedule tokens).isSpelled = true := by
      refine Text.isSpelled_joined ' ' ?_
      intro piece hpiece
      obtain ⟨other, hother, rfl⟩ := List.mem_map.mp hpiece
      exact hcontent other (htokens other (List.mem_filter.mp hother).1)
    have hcommand : content.isSpelled = true := hcontent _ htoken
    simp [ofCommand, hschedule, hcommand]

/-- A hover over a text, counted in code points: where it stands and what it shows. -/
structure Hover.Reports (hover : Hover) (text : Text) (line : Int) : Prop where
  /-- It stands on the line asked about. -/
  line_eq : hover.line = line
  /-- It starts on its line. -/
  start_nonneg : 0 ≤ hover.startChar
  /-- It does not stop before it starts. -/
  start_le_end : hover.startChar ≤ hover.endChar
  /-- It stops no further away than the text is long. -/
  end_le : hover.endChar ≤ text.length
  /-- It shows no surrogate on its own if there is none in the text. -/
  spelled : text.isSpelled = true → hover.text.isSpelled = true

/-- What is shown at a position of a text reports on the text. -/
theorem reports_of_hover? {text : Text} {line character : Int} {hover : Hover}
    (h : (Document.ofText text).hover? Measure.codePoints line character = some hover) :
    hover.Reports text line := by
  obtain ⟨token, hat, h⟩ := Option.bind_eq_some_iff.mp h
  obtain ⟨shown, hshown, h⟩ := Option.bind_eq_some_iff.mp h
  obtain rfl := Option.some.inj h
  have honLine : token ∈ Token.onLine (tokenize text) line := List.mem_of_find?_eq_some hat
  have htoken : token ∈ tokenize text := (List.mem_filter.mp honLine).1
  have hcovers := List.find?_some hat
  obtain ⟨n, found, hn, hmem⟩ := mem_tokenize.mp htoken
  have hreads := Line.readsOff_of_mem_tokens hmem
  have hfits := Line.index_add_length_le hn
  have hstart := hreads.start_nonneg
  obtain ⟨hspan, hstop⟩ := hreads.span_of_covers hcovers
  have hends := And.intro (Measure.toUnits_codePoints ((Document.ofText text).lineText line) hstart)
    (Measure.toUnits_codePoints ((Document.ofText text).lineText line)
      (show 0 ≤ token.span.2 by omega))
  constructor
  · rfl
  · simp only [Document.toUnits, hends.1]
    exact hstart
  · simp only [Document.toUnits, hends.1, hends.2]
    omega
  · simp only [Document.toUnits, hends.2]
    omega
  · refine Hover.isSpelled_describe ?_ htoken hshown
    intro other hother
    exact (List.mem_filter.mp hother).1

end Crontab
