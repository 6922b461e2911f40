import Crontab.Highlight

/-!
# Highlighting data and its marks

Decoding highlighting data follows the encoder mark by mark: the place that both count from is the
mark before, whatever it is, so the marks come back for tokens in any order and for any columns.
-/

namespace Crontab.Highlight

/-- Every kind is found at its own index. -/
theorem Kind.ofIndex_index (kind : Kind) : Kind.ofIndex kind.index = .ok kind := by
  cases kind <;> rfl

/-- Every mark takes five integers. -/
theorem length_flatten (deltas : List Delta) : (flatten deltas).length = 5 * deltas.length := by
  induction deltas with
  | nil => rfl
  | cons delta deltas ih =>
    rw [flatten, List.flatMap_cons, List.length_append, List.length_cons, ← flatten, ih]
    simp only [Delta.integers, List.length_cons, List.length_nil]
    omega

/-- Counting on from a mark gives the next mark back, and goes on from there. -/
theorem decodeFrom_after (previous mark : Mark) (rest : List Int) :
    decodeFrom previous.line previous.start ((previous.after mark).integers ++ rest) =
      (decodeFrom mark.line mark.start rest).map (mark :: ·) := by
  obtain ⟨line, start, length, kind⟩ := mark
  have hline : previous.line + (line - previous.line) = line := by omega
  have hstart : (if line - previous.line = 0 then
      previous.start + (if line = previous.line then start - previous.start else start)
      else if line = previous.line then start - previous.start else start) = start := by
    by_cases hsame : line = previous.line
    · rw [if_pos (by omega), if_pos hsame]
      omega
    · rw [if_neg (by omega), if_neg hsame]
  simp only [Mark.after, Delta.integers, List.cons_append, List.nil_append, decodeFrom, hline,
    hstart, Kind.ofIndex_index]
  cases decodeFrom line start rest <;> rfl

/-- Decoding the marks of a list, each given relative to the one before, restores the list. -/
theorem decodeFrom_flatten (previous : Mark) (marks : List Mark) :
    decodeFrom previous.line previous.start
      (flatten (List.zipWith Mark.after (previous :: marks) marks)) = .ok marks := by
  induction marks generalizing previous with
  | nil => rfl
  | cons mark marks ih =>
    rw [List.zipWith_cons_cons, flatten, List.flatMap_cons, decodeFrom_after, ← flatten, ih mark]
    rfl

/-- The highlighting data of some marks. -/
def ofMarks (marks : List Mark) : List Int :=
  flatten (List.zipWith Mark.after (Mark.origin :: marks) marks)

theorem decode_ofMarks (marks : List Mark) : decode (ofMarks marks) = .ok marks := by
  rw [decode, ofMarks, if_pos (by rw [length_flatten]; omega)]
  exact decodeFrom_flatten Mark.origin marks

/-- Decoding the highlighting data of tokens gives their marks. -/
theorem decode_encode (columns : Columns) (tokens : List Token) :
    decode (flatten (encode columns tokens)) = .ok (tokens.map (Mark.ofToken columns)) :=
  decode_ofMarks (tokens.map (Mark.ofToken columns))

/-- A mark as it is reported: line, start, length and the label of its kind. -/
def Mark.report (mark : Mark) : Int × Int × Int × String :=
  (mark.line, mark.start, mark.length, mark.kind.label)

/-- The label under which a token is coloured. -/
def labelOf : Token → String
  | .comment _ _ => "comment"
  | .term _ _ _ _ _ => "variable"
  | .command _ _ _ => "function"

/-- The mark of a token reports the two ends of its span in columns, and its label. -/
theorem report_ofToken (columns : Columns) (token : Token) :
    (Mark.ofToken columns token).report =
      (token.line, columns token.line token.span.1,
        columns token.line token.span.2 - columns token.line token.span.1, labelOf token) := by
  cases token <;> rfl

/-- For all tokens, in any order and at any place, and for all columns, decoding the highlighting
data succeeds and reports for each token its line, its first column, how many columns it takes and
its label. With columns that count code points these are the offsets of its span. -/
theorem decode_flatten_encode (columns : Columns) (tokens : List Token) :
    (decode (flatten (encode columns tokens))).map (List.map Mark.report) =
        .ok (tokens.map fun token => (token.line, columns token.line token.span.1,
          columns token.line token.span.2 - columns token.line token.span.1, labelOf token)) ∧
      (decode (flatten (encode codePoints tokens))).map (List.map Mark.report) =
        .ok (tokens.map fun token => (token.line, token.span.1, token.span.2 - token.span.1,
          labelOf token)) := by
  have hreport : ∀ columns : Columns,
      (decode (flatten (encode columns tokens))).map (List.map Mark.report) =
        .ok (tokens.map fun token => (token.line, columns token.line token.span.1,
          columns token.line token.span.2 - columns token.line token.span.1, labelOf token)) := by
    intro columns
    rw [decode_encode, Except.map, List.map_map]
    exact congrArg Except.ok (List.map_congr_left fun token _ => report_ofToken columns token)
  exact ⟨hreport columns, hreport codePoints⟩

end Crontab.Highlight
