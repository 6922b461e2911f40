import Crontab.Proofs.Layout
import Crontab.Proofs.Place
import Crontab.Proofs.Term.Geometry

/-!
# Where diagnostics stand

A diagnostic stands on the line of an entry, and there are as many of them on a line as its terms
have errors. As long as no list has an empty piece, every diagnostic lies within the one term that it
is about, and so within its line, and the diagnostics of a document are strictly ordered by line and
start.
-/

namespace Crontab

/-- A diagnostic lies within the span of a token. -/
def Diagnostic.LiesIn (d : Diagnostic) (token : Token) : Prop :=
  token.span.1 ≤ d.startChar ∧ d.endChar ≤ token.span.2

/-- No list among the terms of a document has an empty piece. -/
def ListsFilled (tokens : List Token) : Prop :=
  ∀ token ∈ tokens, token.isTerm = true → Term.Filled token.content

instance (tokens : List Token) : Decidable (ListsFilled tokens) :=
  inferInstanceAs (Decidable (∀ token ∈ tokens, _ → Term.Filled token.content))

/-- The diagnostics on a line are those of the tokens on it. -/
theorem filter_diagnose (source : Text) (tokens : List Token) (line : Int) :
    ((diagnose source tokens).filter fun d => d.line = line) =
      diagnose source (Token.onLine tokens line) := by
  induction tokens with
  | nil => rfl
  | cons token tokens ih =>
    have hline : ∀ d ∈ token.diagnostics source, d.line = token.line := fun d hd =>
      Token.line_of_mem_diagnostics hd
    have hsplit : ((diagnose source (token :: tokens)).filter fun d => d.line = line) =
        (token.diagnostics source).filter (fun d => d.line = line) ++
          diagnose source (Token.onLine tokens line) := by
      rw [← ih]
      exact List.filter_append ..
    rw [hsplit]
    by_cases heq : token.line = line
    · have honLine : Token.onLine (token :: tokens) line = token :: Token.onLine tokens line :=
        List.filter_cons_of_pos (decide_eq_true heq)
      rw [honLine, List.filter_eq_self.mpr fun d hd => decide_eq_true ((hline d hd).trans heq)]
      rfl
    · have honLine : Token.onLine (token :: tokens) line = Token.onLine tokens line :=
        List.filter_cons_of_neg (by simpa using heq)
      rw [honLine, List.filter_eq_nil_iff.mpr fun d hd => by simpa [hline d hd] using heq]
      rfl

/-- The errors of tokens are counted by their diagnostics. -/
theorem length_diagnose (source : Text) (tokens : List Token) :
    (diagnose source tokens).length = Token.errorCount tokens := by
  simp only [diagnose, Token.diagnostics, Token.errorCount, List.length_flatMap, List.length_map]

/-- Only terms count when errors are counted. -/
theorem Token.errorCount_eq_sum (tokens : List Token) :
    errorCount tokens = ((tokens.filter isTerm).map fun term => term.errors.length).sum := by
  induction tokens with
  | nil => rfl
  | cons token tokens ih =>
    rw [errorCount, List.flatMap_cons, List.length_append, ← errorCount, ih]
    cases token with
    | comment i content => exact Nat.zero_add _
    | command i char content => exact Nat.zero_add _
    | term i char field reading content => rfl

/-- A diagnostic lies in the term that it is about, if that is no list with an empty piece. -/
theorem Token.Fails.liesIn {source : Text} {token : Token} {line : Text} {d : Diagnostic}
    (h : token.Fails line) (hfilled : Term.Filled token.content)
    (hd : d ∈ token.diagnostics source) : d.LiesIn token ∧ d.startChar ≤ d.endChar := by
  obtain ⟨e, he, rfl⟩ := List.mem_map.mp hd
  obtain ⟨field, herrors⟩ := h.errors_eq
  rw [herrors] at he
  have hreports := Term.errorList_read_reports he
  have hstart := hreports.start_nonneg
  have hforward := hreports.start_le_stop
  have hstop := Term.stop_le_of_filled hfilled he
  simp only [Diagnostic.LiesIn, Token.span]
  omega

/-- The diagnostics of one term are strictly ordered by their starts. -/
theorem Token.Fails.pairwise_diagnostics {source : Text} {token : Token} {line : Text}
    (h : token.Fails line) :
    (token.diagnostics source).Pairwise fun a b => a.startChar < b.startChar := by
  obtain ⟨field, herrors⟩ := h.errors_eq
  rw [Token.diagnostics, herrors, List.pairwise_map]
  refine (Term.pairwise_errorList_read field token.content).imp ?_
  intro a b hlt
  exact Int.add_lt_add_left hlt _

/-- Where a diagnostic of a document stands. -/
structure Diagnostic.Anchored (d : Diagnostic) (source text : Text) : Prop where
  /-- It does not start before its line or stop before it starts. -/
  forward : 0 ≤ d.startChar ∧ d.startChar ≤ d.endChar
  /-- It stops on its line. -/
  on_line : ∃ (n : Nat) (line : Text), d.line = n ∧ (Line.split text)[n]? = some line ∧
    d.endChar ≤ line.length
  /-- It lies in the term of its line that it is about and in no other token of the line. -/
  in_term : ∃ term ∈ Token.onLine (tokenize text) d.line, term.isTerm = true ∧
    d ∈ term.diagnostics source ∧ d.LiesIn term ∧
    ∀ other ∈ Token.onLine (tokenize text) d.line, d.LiesIn other → other = term

section Filled

variable {source text : Text}

/-- Without an empty piece in a list every diagnostic is anchored in its term. -/
theorem anchored_of_mem_diagnose (hfilled : ListsFilled (tokenize text)) {d : Diagnostic}
    (h : d ∈ diagnose source (tokenize text)) : d.Anchored source text := by
  obtain ⟨token, htoken, hd⟩ := List.mem_flatMap.mp h
  obtain ⟨n, line, hn, hline, hmem, hfails⟩ := exists_fails_of_mem_diagnostics htoken hd
  obtain ⟨⟨hlow, hhigh⟩, hforward⟩ := hfails.liesIn (hfilled token htoken hfails.isTerm) hd
  have honLine : Token.onLine (tokenize text) d.line = Line.tokens n line := by
    rw [hn, onLine_tokenize, Line.tokensAt, List.getD_eq_getElem?_getD, hline]
    rfl
  constructor
  · exact ⟨hfails.start_nonneg.trans hlow, hforward⟩
  · exact ⟨n, line, hn, hline, hhigh.trans hfails.stop_le⟩
  · rw [honLine]
    refine ⟨token, hmem, hfails.isTerm, hd, ⟨hlow, hhigh⟩, ?_⟩
    rintro other hother ⟨hlow', hhigh'⟩
    rcases Line.eq_or_before_or_after hother hmem with heq | hbefore | hafter
    · exact heq
    · omega
    · omega

/-- Without an empty piece in a list the diagnostics of a document are strictly ordered by line and
start. -/
theorem pairwise_diagnose (hfilled : ListsFilled (tokenize text)) :
    (diagnose source (tokenize text)).Pairwise fun a b =>
      Prod.Lex (· < ·) (· < ·) (a.line, a.startChar) (b.line, b.startChar) := by
  rw [diagnose, List.pairwise_flatMap]
  constructor
  · intro token htoken
    by_cases herrors : token.errors = []
    · rw [Token.diagnostics, herrors]
      exact .nil
    · obtain ⟨n, line, _, hmem⟩ := mem_tokenize.mp htoken
      refine (Line.fails_of_mem_tokens hmem herrors).pairwise_diagnostics.imp_of_mem ?_
      intro a b ha hb hlt
      have hline := (Token.line_of_mem_diagnostics ha).trans (Token.line_of_mem_diagnostics hb).symm
      exact Prod.lex_iff.mpr (Or.inr ⟨hline, hlt⟩)
  · refine (pairwise_tokenize text).imp_of_mem ?_
    intro first second hfirst hsecond hprecedes a ha b hb
    obtain ⟨_, _, _, _, _, hfails⟩ := exists_fails_of_mem_diagnostics hfirst ha
    obtain ⟨_, _, _, _, _, hfails'⟩ := exists_fails_of_mem_diagnostics hsecond hb
    obtain ⟨⟨_, hhigh⟩, hforward⟩ := hfails.liesIn (hfilled first hfirst hfails.isTerm) ha
    obtain ⟨⟨hlow, _⟩, _⟩ := hfails'.liesIn (hfilled second hsecond hfails'.isTerm) hb
    rw [Prod.lex_iff, Token.line_of_mem_diagnostics ha, Token.line_of_mem_diagnostics hb]
    refine hprecedes.imp id fun ⟨hline, hlt⟩ => ⟨hline, ?_⟩
    simp only
    omega

end Filled

/-- Without an empty piece in a list the diagnostics of a document are strictly ordered by line and
start, and each of them is anchored in the one term that it is about. With or without one there are
as many diagnostics on a line as its terms have errors, and every diagnostic stands on an entry. -/
theorem diagnose_anchored (source text : Text) :
    (ListsFilled (tokenize text) →
      ((diagnose source (tokenize text)).Pairwise fun a b =>
        Prod.Lex (· < ·) (· < ·) (a.line, a.startChar) (b.line, b.startChar)) ∧
      ∀ d ∈ diagnose source (tokenize text), d.Anchored source text) ∧
    (∀ line : Int, ((diagnose source (tokenize text)).filter fun d => d.line = line).length =
      (((Token.onLine (tokenize text) line).filter Token.isTerm).map
        fun term => term.errors.length).sum) ∧
    ∀ d ∈ diagnose source (tokenize text), ∃ (n : Nat) (line : Text), d.line = n ∧
      (Line.split text)[n]? = some line ∧ Line.IsEntry line := by
  refine ⟨fun hfilled => ⟨pairwise_diagnose hfilled, fun d => anchored_of_mem_diagnose hfilled⟩,
    ?_, ?_⟩
  · intro line
    rw [filter_diagnose, length_diagnose, Token.errorCount_eq_sum]
  · intro d hd
    obtain ⟨token, htoken, hd⟩ := List.mem_flatMap.mp hd
    obtain ⟨n, line, hn, hline, _, hfails⟩ := exists_fails_of_mem_diagnostics htoken hd
    exact ⟨n, line, hn, hline, hfails.isEntry⟩

/-- Two lists of an entry fail at each of their pieces. The second hour is marked one column too far
to the left, but within its term. -/
theorem diagnose_anchored_two_lists :
    let text := Text.ofString "# top\n61,0-5 24,99 * * * x"
    ListsFilled (tokenize text) ∧
      (diagnose [] (tokenize text)).map (fun d => (d.line, d.startChar, d.endChar)) =
        [(1, 0, 2), (1, 2, 5), (1, 7, 9), (1, 9, 11)] ∧
      (∀ d ∈ diagnose [] (tokenize text), d.Anchored [] text) ∧
      ((diagnose [] (tokenize text)).filter fun d => d.line = 1).length = 4 := by
  intro text
  have hfilled : ListsFilled (tokenize text) := by decide
  obtain ⟨hanchored, hcount, _⟩ := diagnose_anchored [] text
  refine ⟨hfilled, by decide, (hanchored hfilled).2, ?_⟩
  rw [hcount 1]
  decide

end Crontab
