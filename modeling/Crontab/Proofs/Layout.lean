import Mathlib.Data.List.Nodup
import Crontab.Proofs.Entry.Parts
import Crontab.Proofs.Entry.Spacing

/-!
# The layout of a document

The tokens of a document follow each other line by line and, on a line, gap by gap, so they stand in
strictly increasing order. A line carries tokens exactly if it is not empty: a comment carries one,
and an entry carries a term for each of its first words and then one command.
-/

namespace Crontab

/-- One token of a document ends before another: on an earlier line, or on the same line. -/
def Token.Precedes (a b : Token) : Prop :=
  a.line < b.line ∨ a.line = b.line ∧ a.span.2 < b.span.1

/-- A token does not end before it starts. -/
theorem Token.span_le (token : Token) : token.span.1 ≤ token.span.2 := by
  simp only [span]
  omega

theorem Token.Precedes.line_le {a b : Token} (h : a.Precedes b) : a.line ≤ b.line := by
  rcases h with hlt | ⟨heq, _⟩
  · exact hlt.le
  · exact heq.le

instance : IsTrans Token Token.Precedes where
  trans a b c hab hbc := by
    have hspan := b.span_le
    simp only [Token.Precedes] at hab hbc ⊢
    omega

/-- How one token of a document stands to the one right before it. -/
inductive Token.Follows (lines : Array Text) (previous token : Token) : Prop where
  /-- It stands on the same line, behind the next gap. -/
  | onSame (hline : previous.line = token.line)
    (hgap : Line.Adjoins (Line.nth lines token.line) previous token)
  /-- It starts a later line. -/
  | onLater (hline : previous.line < token.line) (hchar : token.char = 0)

/-- A token that follows another stands behind its end. -/
theorem Token.Follows.precedes {lines : Array Text} {previous token : Token}
    (h : Follows lines previous token) : previous.Precedes token := by
  cases h with
  | onSame hline hgap =>
    refine Or.inr ⟨hline, ?_⟩
    rw [Token.span.eq_def token, hgap.char_eq]
    exact Int.lt_succ _
  | onLater hline _ => exact Or.inl hline

/-- The tokens of some first lines of a document follow each other, and the first of them starts its
line. -/
theorem isChain_flatMap_range (lines : List Text) (n : Nat) :
    ((List.range n).flatMap (Line.tokensAt lines)).IsChain (Token.Follows lines.toArray) ∧
      ∀ token ∈ ((List.range n).flatMap (Line.tokensAt lines)).head?, token.char = 0 := by
  induction n with
  | zero => exact ⟨.nil, by simp⟩
  | succ n ih =>
    have hhead : ∀ token ∈ (Line.tokensAt lines n).head?, token.char = 0 := fun token htoken =>
      Line.char_of_mem_head?_tokens htoken
    have hline : ∀ token ∈ Line.tokensAt lines n, token.line = n := fun token htoken =>
      Line.line_of_mem_tokens htoken
    rw [List.range_succ, List.flatMap_append, List.flatMap_singleton]
    constructor
    · refine ih.1.append ?_ ?_
      · refine (Line.isChain_tokens n (lines.getD n [])).imp_of_mem_imp ?_
        intro previous token hprevious htoken hadjoins
        refine .onSame ((hline _ hprevious).trans (hline _ htoken).symm) ?_
        rw [hline _ htoken, Line.nth_toArray]
        exact hadjoins
      · -- Where two lines meet, the token before is on one of the first `n`.
        intro previous hprevious token htoken
        refine .onLater ?_ (hhead token htoken)
        obtain ⟨i, hi, hmem⟩ := List.mem_flatMap.mp (List.mem_of_getLast? hprevious)
        have hlt := List.mem_range.mp hi
        rw [Line.line_of_mem_tokens hmem, hline token (List.mem_of_mem_head? htoken)]
        omega
    · intro token htoken
      rw [List.head?_append, Option.mem_def, Option.or_eq_some_iff] at htoken
      rcases htoken with htoken | ⟨_, htoken⟩
      · exact ih.2 token htoken
      · exact hhead token htoken

/-- The tokens of a document follow each other, and the first of them starts its line. -/
theorem isChain_tokenize (text : Text) :
    (tokenize text).IsChain (Token.Follows (Line.split text).toArray) ∧
      ∀ token ∈ (tokenize text).head?, token.char = 0 := by
  have hchain := isChain_flatMap_range (Line.split text) (Line.split text).length
  rwa [← tokenize_eq_flatMap_range le_rfl] at hchain

/-- Every token of a document ends before the later ones. -/
theorem pairwise_tokenize (text : Text) : (tokenize text).Pairwise Token.Precedes :=
  List.isChain_iff_pairwise.mp ((isChain_tokenize text).1.imp fun _ _ => Token.Follows.precedes)

/-- A token of a document starts its line, behind all lines of the tokens before it, or stands on
the line of the token right before it, behind the next gap. -/
theorem startsLine_or_adjoins {text : Text} {before after : List Token} {token : Token}
    (h : tokenize text = before ++ token :: after) :
    ((∀ earlier ∈ before, earlier.line < token.line) ∧ token.char = 0) ∨
      ∃ previous, before.getLast? = some previous ∧ previous.line = token.line ∧
        Line.Adjoins (Line.nth (Line.split text).toArray token.line) previous token := by
  have hchain := isChain_tokenize text
  have hpairwise := pairwise_tokenize text
  rw [h] at hchain hpairwise
  obtain ⟨_, _, hseam⟩ := List.isChain_append.mp hchain.1
  cases hlast : before.getLast? with
  | none =>
    rw [List.getLast?_eq_none_iff] at hlast
    subst hlast
    exact Or.inl ⟨fun earlier hearlier => absurd hearlier List.not_mem_nil, hchain.2 token rfl⟩
  | some previous =>
    cases hseam previous hlast token rfl with
    | onSame hline hgap => exact Or.inr ⟨previous, rfl, hline, hgap⟩
    | onLater hline hchar =>
      obtain ⟨init, rfl⟩ := List.getLast?_eq_some_iff.mp hlast
      have hbefore := (List.pairwise_append.mp (List.pairwise_append.mp hpairwise).1).2.2
      refine Or.inl ⟨?_, hchar⟩
      intro earlier hearlier
      rcases List.mem_append.mp hearlier with hinit | hprevious
      · have hprecedes := hbefore earlier hinit previous (List.mem_singleton_self _)
        exact hprecedes.line_le.trans_lt hline
      · rw [List.mem_singleton.mp hprevious]
        exact hline

namespace Line

/-- How some tokens are laid out on a line. -/
structure Layout (i : Int) (line : Text) (tokens : List Token) : Prop where
  /-- There are tokens exactly if the line is not empty. -/
  ne_nil_iff : tokens ≠ [] ↔ line ≠ []
  /-- A comment is one token. -/
  comment : IsComment line → tokens = [.comment i line]
  /-- An entry has terms of the first fields, one for each of its first five words, and then one
  command. -/
  entry : IsEntry line → tokens.map Token.part =
    (Field.all.take (min 5 (Entry.words line).length)).map .term ++ [.command]
  /-- The first token starts at the first column. -/
  first : ∀ token ∈ tokens.head?, token.span.1 = 0
  /-- Each further token starts one column behind the end of the one before it. -/
  following : tokens.IsChain fun token next => next.span.1 = token.span.2 + 1

/-- The parts of an entry, in order. -/
theorem map_part_tokens (i : Int) {line : Text} (h : IsEntry line) :
    (tokens i line).map Token.part =
      (Field.all.take (Entry.words line).length).map .term ++ [.command] := by
  rw [tokens_entry i h, Entry.tokens, Entry.map_part_place, Entry.pieces_eq_words]

/-- The tokens of a line are laid out on it. -/
theorem layout_tokens (i : Int) (line : Text) : Layout i line (tokens i line) := by
  constructor
  · rcases empty_or_comment_or_entry line with rfl | hcomment | hentry
    · exact iff_of_false (fun h => h rfl) (fun h => h rfl)
    · rw [tokens_comment i hcomment]
      refine iff_of_true (List.cons_ne_nil _ _) ?_
      rintro rfl
      cases hcomment
    · rw [tokens_entry i hentry]
      exact iff_of_true (Entry.place_ne_nil _ _ _ _) hentry.1
  · exact tokens_comment i
  · intro hentry
    rw [map_part_tokens i hentry, List.take_eq_take_min, Nat.min_comm]
    rfl
  · intro token htoken
    exact char_of_mem_head?_tokens htoken
  · exact (isChain_tokens i line).imp fun _ _ hadjoins => hadjoins.char_eq

/-- No part comes twice on a line. -/
theorem nodup_map_part (i : Int) (line : Text) : ((tokens i line).map Token.part).Nodup := by
  rcases empty_or_comment_or_entry line with rfl | hcomment | hentry
  · exact List.nodup_nil
  · rw [tokens_comment i hcomment]
    exact List.nodup_singleton _
  · have hfields : (Field.all.take (Entry.words line).length).Nodup :=
      (show Field.all.Nodup by decide).sublist (List.take_sublist _ _)
    have hterms := hfields.map fun _ _ => Token.Part.term.inj
    rw [map_part_tokens i hentry, List.nodup_append]
    refine ⟨hterms, List.nodup_singleton _, ?_⟩
    intro part hpart other hother heq
    obtain ⟨field, _, rfl⟩ := List.mem_map.mp hpart
    rw [List.mem_singleton.mp hother] at heq
    cases heq

/-- A token of a line is told from the others by the part that it is. -/
theorem eq_of_part_eq {i : Int} {line : Text} {a b : Token} (ha : a ∈ tokens i line)
    (hb : b ∈ tokens i line) (h : a.part = b.part) : a = b :=
  List.inj_on_of_nodup_map (nodup_map_part i line) ha hb h

end Line

/-- The tokens of a document are strictly ordered by line and start, and on every line, whether it
exists or not, they are laid out on its text. -/
theorem tokenize_layout (text : Text) :
    ((tokenize text).Pairwise fun a b =>
      Prod.Lex (· < ·) (· < ·) (a.line, a.span.1) (b.line, b.span.1)) ∧
    ∀ i : Int, Line.Layout i (Line.nth (Line.split text).toArray i)
      (Token.onLine (tokenize text) i) := by
  constructor
  · refine (pairwise_tokenize text).imp ?_
    intro a b hprecedes
    have hspan := a.span_le
    rw [Prod.lex_iff]
    exact hprecedes.imp id fun ⟨hline, hlt⟩ => ⟨hline, hspan.trans_lt hlt⟩
  · intro i
    rw [onLine_tokenize_nth]
    exact Line.layout_tokens i _

end Crontab
