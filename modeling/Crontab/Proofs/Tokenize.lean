import Crontab.Proofs.Entry.Layout

/-!
# The tokens of a document

A document is read line by line, so the tokens on a line are those of that line alone. Every token
can be read off its line at its span, and two documents have the same tokens exactly when their
lines agree up to the spaces at the end of entries.
-/

namespace Crontab

namespace Line

/-- A line is a comment when it starts with a number sign. -/
def IsComment (line : Text) : Prop := line.head? = some (.char '#')

/-- A line is an entry when it is neither empty nor a comment. -/
def IsEntry (line : Text) : Prop := line ≠ [] ∧ ¬IsComment line

/-- Every line is empty, a comment or an entry. -/
theorem empty_or_comment_or_entry (line : Text) : line = [] ∨ IsComment line ∨ IsEntry line := by
  by_cases hempty : line = []
  · exact Or.inl hempty
  · by_cases hcomment : IsComment line
    · exact Or.inr (Or.inl hcomment)
    · exact Or.inr (Or.inr ⟨hempty, hcomment⟩)

@[simp] theorem tokens_nil (i : Int) : tokens i [] = [] := rfl

theorem tokens_comment (i : Int) {line : Text} (h : IsComment line) :
    tokens i line = [.comment i line] := by
  obtain ⟨rest, rfl⟩ := List.head?_eq_some_iff.mp h
  rfl

theorem tokens_entry (i : Int) {line : Text} (h : IsEntry line) :
    tokens i line = Entry.tokens i line := by
  unfold tokens
  split
  · exact absurd rfl h.1
  · exact absurd rfl h.2
  · rfl

/-- The tokens of a line stand on it. -/
theorem line_of_mem_tokens {i : Int} {line : Text} {token : Token} (h : token ∈ tokens i line) :
    token.line = i := by
  rcases empty_or_comment_or_entry line with rfl | hcomment | hentry
  · exact absurd h List.not_mem_nil
  · rw [tokens_comment i hcomment, List.mem_singleton] at h
    rw [h]
    rfl
  · rw [tokens_entry i hentry] at h
    exact Entry.place_line h

/-- A line has an error only if it is an entry. -/
theorem isEntry_of_errors {i : Int} {line : Text} {token : Token}
    (h : token ∈ tokens i line) (herrors : token.errors ≠ []) : IsEntry line := by
  rcases empty_or_comment_or_entry line with rfl | hcomment | hentry
  · exact absurd h List.not_mem_nil
  · rw [tokens_comment i hcomment] at h
    rw [List.mem_singleton.mp h] at herrors
    exact absurd rfl herrors
  · exact hentry

/-- Two lines that give the same tokens: both empty, the same comment, or two entries that differ at
most in the spaces at the end. -/
inductive Alike : Text → Text → Prop where
  /-- Both lines are empty. -/
  | empty : Alike [] []
  /-- Both lines are the same comment. -/
  | comment {line : Text} : IsComment line → Alike line line
  /-- Both lines are entries with the same body. -/
  | entry {a b : Text} : IsEntry a → IsEntry b → Entry.body a = Entry.body b → Alike a b

/-- Lines that are alike give the same tokens. -/
theorem Alike.tokens_eq {a b : Text} (h : Alike a b) (i : Int) : tokens i a = tokens i b := by
  cases h with
  | empty => rfl
  | comment _ => rfl
  | entry ha hb hbody =>
    rw [tokens_entry i ha, tokens_entry i hb]
    exact (Entry.tokens_eq_iff i a b).mpr hbody

/-- Lines that give the same tokens are alike. -/
theorem Alike.of_tokens_eq {a b : Text} {i : Int} (h : tokens i a = tokens i b) : Alike a b := by
  rcases empty_or_comment_or_entry a with rfl | ha | ha <;>
    rcases empty_or_comment_or_entry b with rfl | hb | hb
  · exact .empty
  · rw [tokens_comment i hb] at h
    exact absurd h nofun
  · rw [tokens_entry i hb] at h
    exact absurd h.symm (Entry.place_ne_nil _ _ _ _)
  · rw [tokens_comment i ha] at h
    exact absurd h nofun
  · rw [tokens_comment i ha, tokens_comment i hb, List.singleton_inj, Token.comment.injEq] at h
    rw [h.2]
    exact .comment hb
  · rw [tokens_comment i ha, tokens_entry i hb] at h
    exact absurd (h ▸ List.mem_singleton_self _) Entry.comment_notMem_place
  · rw [tokens_entry i ha] at h
    exact absurd h (Entry.place_ne_nil _ _ _ _)
  · rw [tokens_entry i ha, tokens_comment i hb] at h
    exact absurd (h ▸ List.mem_singleton_self _) Entry.comment_notMem_place
  · rw [tokens_entry i ha, tokens_entry i hb, Entry.tokens_eq_iff] at h
    exact .entry ha hb h

end Line

/-- A token belongs to a document when it belongs to the line that it stands on. -/
theorem mem_tokenize {text : Text} {token : Token} :
    token ∈ tokenize text ↔
      ∃ (i : Nat) (line : Text), (Line.split text)[i]? = some line ∧
        token ∈ Line.tokens i line := by
  simp only [tokenize, List.mem_flatMap, Prod.exists, List.mem_zipIdx_iff_getElem?]
  exact exists_comm

/-- The tokens of the line at an index, where a missing line counts as empty. -/
def Line.tokensAt (lines : List Text) (i : Nat) : List Token := Line.tokens i (lines.getD i [])

/-- Reading the first lines of a document, where missing lines count as empty. -/
theorem flatMap_range_tokensAt (lines : List Text) (n : Nat) :
    (List.range n).flatMap (Line.tokensAt lines) =
      (lines.take n).zipIdx.flatMap fun (line, i) => Line.tokens i line := by
  induction n with
  | zero => rfl
  | succ n ih =>
    rw [List.range_succ, List.flatMap_append, ih, List.take_add_one, List.zipIdx_append,
      List.flatMap_append, List.flatMap_singleton, Line.tokensAt, List.getD_eq_getElem?_getD]
    congr 1
    cases hline : lines[n]? with
    | none => rfl
    | some line =>
      have hn : n ≤ lines.length := Nat.le_of_lt (List.getElem?_eq_some_iff.mp hline).1
      simp [Nat.min_eq_left hn]

/-- A document is read one line after another, and lines past the end add nothing. -/
theorem tokenize_eq_flatMap_range {text : Text} {n : Nat} (h : (Line.split text).length ≤ n) :
    tokenize text = (List.range n).flatMap (Line.tokensAt (Line.split text)) := by
  rw [flatMap_range_tokensAt, List.take_of_length_le h]
  rfl

theorem Token.onLine_append (ts us : List Token) (line : Int) :
    Token.onLine (ts ++ us) line = Token.onLine ts line ++ Token.onLine us line :=
  List.filter_append ..

/-- All tokens of a line stand on it and on no other. -/
theorem onLine_tokensAt (lines : List Text) (i n : Nat) :
    Token.onLine (Line.tokensAt lines n) i = if n = i then Line.tokensAt lines i else [] := by
  have hline : ∀ token ∈ Line.tokensAt lines n, token.line = n := fun token ht =>
    Line.line_of_mem_tokens ht
  split
  · next heq =>
    subst heq
    apply List.filter_eq_self.mpr
    intro token ht
    exact decide_eq_true (hline token ht)
  · next hne =>
    apply List.filter_eq_nil_iff.mpr
    intro token ht
    rw [hline token ht, decide_eq_true_iff]
    omega

/-- Of some first lines, those tokens stand on line `i` that are its own. -/
theorem onLine_flatMap_range (lines : List Text) (i n : Nat) :
    Token.onLine ((List.range n).flatMap (Line.tokensAt lines)) i =
      if i < n then Line.tokensAt lines i else [] := by
  induction n with
  | zero => rfl
  | succ n ih =>
    rw [List.range_succ, List.flatMap_append, List.flatMap_singleton, Token.onLine_append, ih,
      onLine_tokensAt]
    rcases Nat.lt_trichotomy i n with hlt | rfl | hgt
    · rw [if_pos hlt, if_neg (by omega), if_pos (by omega), List.append_nil]
    · rw [if_neg (by omega), if_pos rfl, if_pos (by omega), List.nil_append]
    · rw [if_neg (by omega), if_neg (by omega), if_neg (by omega), List.append_nil]

/-- The tokens on a line of a document are those of that line. -/
theorem onLine_tokenize (text : Text) (i : Nat) :
    Token.onLine (tokenize text) i = Line.tokensAt (Line.split text) i := by
  have hi : i < max (Line.split text).length (i + 1) := by omega
  rw [tokenize_eq_flatMap_range (Nat.le_max_left _ (i + 1)), onLine_flatMap_range, if_pos hi]

/-- A line that does not exist counts as empty. -/
theorem Line.nth_toArray (lines : List Text) (i : Nat) :
    Line.nth lines.toArray i = lines.getD i [] := by
  simp [Line.nth]

/-- The tokens on a line of a document, whatever its number, are those of the text of that line. -/
theorem onLine_tokenize_nth (text : Text) (line : Int) :
    Token.onLine (tokenize text) line =
      Line.tokens line (Line.nth (Line.split text).toArray line) := by
  by_cases hline : 0 ≤ line
  · obtain ⟨i, rfl⟩ := Int.eq_ofNat_of_zero_le hline
    rw [Line.nth_toArray]
    exact onLine_tokenize text i
  · rw [Line.nth, if_neg hline, Line.tokens_nil, Token.onLine, List.filter_eq_nil_iff]
    intro token htoken heq
    obtain ⟨i, found, _, hmem⟩ := mem_tokenize.mp htoken
    have hi := Line.line_of_mem_tokens hmem
    rw [decide_eq_true_eq] at heq
    omega

/-- A token of a document is among those of the text of its line. -/
theorem mem_tokens_of_mem_tokenize {text : Text} {token : Token} (h : token ∈ tokenize text) :
    token ∈ Line.tokens token.line (Line.nth (Line.split text).toArray token.line) := by
  rw [← onLine_tokenize_nth]
  exact List.mem_filter.mpr ⟨h, decide_eq_true rfl⟩

/-- Two documents have the same tokens exactly when they do line by line. -/
theorem tokenize_eq_iff_tokensAt (a b : Text) :
    tokenize a = tokenize b ↔
      ∀ i, Line.tokensAt (Line.split a) i = Line.tokensAt (Line.split b) i := by
  constructor
  · intro h i
    rw [← onLine_tokenize, h, onLine_tokenize]
  · intro h
    rw [tokenize_eq_flatMap_range (Nat.le_max_left _ (Line.split b).length),
      tokenize_eq_flatMap_range (Nat.le_max_right (Line.split a).length _), funext h]

/-- A token can be read off its line: its text is what its span covers, which lies within the line
unless the token is an empty command. -/
structure Token.ReadsOff (token : Token) (line : Text) : Prop where
  /-- The span starts on the line or past its end. -/
  start_nonneg : 0 ≤ token.span.1
  /-- The span covers the text of the token. -/
  extract_eq : line.extract token.span.1.toNat token.span.2.toNat = token.content
  /-- Comments, terms and commands that are not empty end on the line. -/
  stop_le : (∀ i char, token ≠ .command i char []) → token.span.2 ≤ line.length
  /-- A command that is empty starts at the start of a line of spaces, and past the space that would
  follow the body of any other. -/
  empty_command : ∀ i char, token = .command i char [] →
    (Entry.body line = [] ∧ char = 0) ∨
      (Entry.body line ≠ [] ∧ char = (Entry.body line).length + 1)

/-- What stands in a line can be read off it. -/
theorem Entry.StandsIn.readsOff {token : Token} {line : Text} (h : Entry.StandsIn token 0 line)
    (hkind : ∀ i char, token ≠ .command i char []) : token.ReadsOff line := by
  obtain ⟨before, after, hline, hchar⟩ := h
  have hstart : token.span.1 = before.length := by rw [Token.span, hchar, Int.zero_add]
  have hstop : token.span.2 = before.length + token.content.length := by
    rw [Token.span, hchar, Int.zero_add]
  constructor
  · omega
  · have hstop' : token.span.2.toNat = before.length + token.content.length := by omega
    rw [hstart, hstop', hline, Int.toNat_natCast, List.extract_eq_take_drop, List.append_assoc,
      List.drop_left, Nat.add_sub_cancel_left, List.take_left]
  · intro _
    rw [hstop, hline, List.length_append, List.length_append]
    omega
  · intro i char heq
    exact absurd heq (hkind i char)

/-- An empty command of an entry can be read off its line. -/
theorem Entry.readsOff_empty_command (i : Int) (line : Text) :
    (Token.command i (if Entry.body line = [] then 0 else (Entry.body line).length + 1)
      []).ReadsOff line := by
  constructor
  · simp only [Token.span, Token.char]
    split <;> omega
  · simp [Token.span, Token.content, List.extract_eq_take_drop]
  · intro h
    exact absurd rfl (h _ _)
  · intro j char heq
    rw [Token.command.injEq] at heq
    rw [← heq.2.1]
    by_cases hbody : Entry.body line = []
    · exact Or.inl ⟨hbody, if_pos hbody⟩
    · exact Or.inr ⟨hbody, if_neg hbody⟩

/-- Every token of a line can be read off it. -/
theorem Line.readsOff_of_mem_tokens {i : Int} {line : Text} {token : Token}
    (h : token ∈ Line.tokens i line) : token.ReadsOff line := by
  rcases Line.empty_or_comment_or_entry line with rfl | hcomment | hentry
  · exact absurd h List.not_mem_nil
  · rw [Line.tokens_comment i hcomment, List.mem_singleton] at h
    subst h
    have hstands : Entry.StandsIn (.comment i line) 0 line :=
      ⟨[], [], by simp [Token.content], rfl⟩
    refine hstands.readsOff ?_
    intro j char hcommand
    cases hcommand
  · rw [Line.tokens_entry i hentry] at h
    rcases Entry.tokens_spec h with ⟨hstands, hkind⟩ | rfl
    · refine hstands.readsOff ?_
      rintro j char rfl
      simp [Token.isTerm, Token.content] at hkind
    · exact Entry.readsOff_empty_command i line

/-- Reading a document loses nothing but the spaces at the end of entries and the kind of its line
breaks: every token can be read off its line at its span, and two documents have the same tokens
exactly when their lines are alike one by one, where a missing line counts as empty. -/
theorem tokenize_spells_lines :
    (∀ text, ∀ token ∈ tokenize text, ∃ line,
      0 ≤ token.line ∧ (Line.split text)[token.line.toNat]? = some line ∧ token.ReadsOff line) ∧
    ∀ a b, tokenize a = tokenize b ↔
      ∀ i, Line.Alike ((Line.split a).getD i []) ((Line.split b).getD i []) := by
  constructor
  · intro text token h
    obtain ⟨i, line, hline, ht⟩ := mem_tokenize.mp h
    have hi := Line.line_of_mem_tokens ht
    refine ⟨line, by omega, ?_, Line.readsOff_of_mem_tokens ht⟩
    rw [hi, Int.toNat_natCast, hline]
  · intro a b
    rw [tokenize_eq_iff_tokensAt]
    constructor
    · intro h i
      exact .of_tokens_eq (h i)
    · intro h i
      exact (h i).tokens_eq i

/-- The empty command of a short entry starts past the space after its body, and the spaces at the
end of the entry leave no trace. -/
theorem tokenize_spells_lines_short_entry :
    (∃ line, (Line.split (.ofString "5 *  "))[0]? = some line ∧
      (Token.command 0 4 []).ReadsOff line) ∧
    ∀ i, Line.Alike ((Line.split (.ofString "5 *  ")).getD i [])
      ((Line.split (.ofString "5 *")).getD i []) := by
  constructor
  · obtain ⟨line, _, hline, hreads⟩ :=
      tokenize_spells_lines.1 (.ofString "5 *  ") (.command 0 4 []) (by decide)
    exact ⟨line, hline, hreads⟩
  · exact (tokenize_spells_lines.2 _ _).mp (by decide)

end Crontab
