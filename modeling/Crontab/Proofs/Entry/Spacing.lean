import Mathlib.Data.List.Chain
import Crontab.Proofs.Measure
import Crontab.Proofs.Tokenize

/-!
# The spacing of tokens

The first token of a line starts at its first column. Two tokens in a row are one column apart, and
that column is a gap: a space, or a column past the end. So the tokens of a line stand in order, and
no two of them cover or touch the same column. Counted in units a gap is as wide as a space, and a
token as wide as its text.
-/

namespace Crontab

namespace Line

/-- A column of a line that holds a space or is past the end. -/
def IsGap (text : Text) (char : Int) : Prop :=
  0 ≤ char ∧ ∀ c ∈ text[char.toNat]?, c = .char ' '

/-- A text that goes on with a space or not at all has a gap at its end. -/
theorem isGap_append (before : Text) {after : Text} (h : ∀ c ∈ after.head?, c = .char ' ') :
    IsGap (before ++ after) before.length := by
  refine ⟨Int.natCast_nonneg _, ?_⟩
  rwa [Int.toNat_natCast, List.getElem?_append_right le_rfl, Nat.sub_self,
    ← List.head?_eq_getElem?]

/-- Two tokens of a line, the second one right after the gap that follows the first. -/
structure Adjoins (line : Text) (first second : Token) : Prop where
  /-- The first token is followed by a gap. -/
  isGap : IsGap line first.span.2
  /-- The second token starts behind that gap. -/
  char_eq : second.char = first.span.2 + 1

end Line

namespace Entry

/-- The first token stands where the placing starts. -/
theorem char_of_mem_head?_place {line char : Int} {fields : List Field} {ps : List Text}
    {token : Token} (h : token ∈ (place line char fields ps).head?) : token.char = char := by
  fun_induction place line char fields ps with
  | case1 char field fields piece rest _ =>
    rw [List.head?_cons, Option.mem_some_iff] at h
    exact h ▸ rfl
  | case2 char fields ps _ =>
    rw [List.head?_cons, Option.mem_some_iff] at h
    exact h ▸ rfl

/-- Tokens placed in a text that goes on with a space or not at all are one gap apart. -/
theorem isChain_place {i char : Int} {fields : List Field} {ps : List Text}
    {line before after : Text} (hline : line = before ++ (Text.joined ' ' ps ++ after))
    (hchar : char = before.length) (hafter : ∀ c ∈ after.head?, c = .char ' ') :
    (place i char fields ps).IsChain (Line.Adjoins line) := by
  -- `before` is the part of the line up to the column that the placing has reached.
  fun_induction place i char fields ps generalizing before with
  | case1 char field fields piece rest ih =>
    have hstop : char + piece.length = (before ++ piece).length := by
      rw [hchar, List.length_append, Int.natCast_add]
    have hfirst : ∀ tail, line = before ++ piece ++ tail → (∀ c ∈ tail.head?, c = .char ' ') →
        ∀ second ∈ (place i (char + piece.length + 1) fields rest).head?,
          Line.Adjoins line (.term i char field (Term.read field piece) piece) second := by
      intro tail htail hspace second hsecond
      constructor
      · rw [Token.span, Token.char, Token.content, hstop, htail]
        exact Line.isGap_append _ hspace
      · exact char_of_mem_head?_place hsecond
    rw [List.isChain_cons]
    -- Behind the last piece the gap is what the line goes on with, and else a separator.
    cases rest with
    | nil =>
      rw [Text.joined_singleton, ← List.append_assoc] at hline
      refine ⟨hfirst after hline hafter, ?_⟩
      rw [place_nil_pieces]
      exact .singleton _
    | cons q qs =>
      rw [Text.joined_cons (List.cons_ne_nil q qs)] at hline
      have htail : line = before ++ piece ++ .char ' ' :: (Text.joined ' ' (q :: qs) ++ after) := by
        simp [hline]
      refine ⟨hfirst _ htail (by simp), @ih (before ++ piece ++ [.char ' ']) ?_ ?_⟩
      · simp [hline]
      · simp only [hstop, List.length_append, List.length_singleton]
        omega
  | case2 char fields ps _ => exact .singleton _

end Entry

namespace Line

/-- Tokens of a line that follow each other are one gap apart. -/
theorem isChain_tokens (i : Int) (line : Text) : (tokens i line).IsChain (Adjoins line) := by
  rcases empty_or_comment_or_entry line with rfl | hcomment | hentry
  · exact .nil
  · rw [tokens_comment i hcomment]
    exact .singleton _
  · obtain ⟨spaces, hline, hspaces⟩ := Entry.exists_eq_body_append line
    have hplaced : line = [] ++ (Text.joined ' ' (Entry.pieces line) ++ spaces) := by
      rw [Entry.joined_pieces, List.nil_append]
      exact hline
    rw [tokens_entry i hentry]
    exact Entry.isChain_place hplaced rfl fun c hc => hspaces c (List.mem_of_mem_head? hc)

/-- The first token of a line starts at the first column. -/
theorem char_of_mem_head?_tokens {i : Int} {line : Text} {token : Token}
    (h : token ∈ (tokens i line).head?) : token.char = 0 := by
  rcases empty_or_comment_or_entry line with rfl | hcomment | hentry
  · exact absurd h (by simp)
  · rw [tokens_comment i hcomment, List.head?_cons, Option.mem_some_iff] at h
    exact h ▸ rfl
  · rw [tokens_entry i hentry] at h
    exact Entry.char_of_mem_head?_place h

/-- A token of a line starts at the first column or behind a gap. -/
theorem char_eq_zero_or_isGap {i : Int} {line : Text} {token : Token} (h : token ∈ tokens i line) :
    token.char = 0 ∨ IsGap line (token.char - 1) := by
  obtain ⟨before, after, hsplit⟩ := List.append_of_mem h
  have hchain := isChain_tokens i line
  rw [hsplit, List.isChain_append] at hchain
  cases hlast : before.getLast? with
  | none =>
    rw [List.getLast?_eq_none_iff] at hlast
    have hhead : token ∈ (tokens i line).head? := by simp [hsplit, hlast]
    exact Or.inl (char_of_mem_head?_tokens hhead)
  | some previous =>
    have hadjoins := hchain.2.2 previous hlast token rfl
    refine Or.inr ?_
    rw [hadjoins.char_eq, Int.add_sub_cancel]
    exact hadjoins.isGap

/-- The tokens of a line stand in order and do not touch. -/
theorem pairwise_tokens (i : Int) (line : Text) :
    (tokens i line).Pairwise fun first second => first.span.2 < second.span.1 := by
  have htrans : IsTrans Token fun first second => first.span.2 < second.span.1 := by
    constructor
    intro a b c hab hbc
    simp only [Token.span] at hab hbc ⊢
    omega
  rw [← List.isChain_iff_pairwise]
  refine (isChain_tokens i line).imp ?_
  intro first second h
  rw [Token.span.eq_def second, h.char_eq]
  exact Int.lt_succ _

/-- Two tokens of a line are the same, or one of them stands before the other. -/
theorem eq_or_before_or_after {i : Int} {line : Text} {a b : Token} (ha : a ∈ tokens i line)
    (hb : b ∈ tokens i line) : a = b ∨ a.span.2 < b.span.1 ∨ b.span.2 < a.span.1 := by
  have hapart : (tokens i line).Pairwise fun a b =>
      a.span.2 < b.span.1 ∨ b.span.2 < a.span.1 :=
    (pairwise_tokens i line).imp fun hlt => Or.inl hlt
  have hsymm : Std.Symm fun a b : Token => a.span.2 < b.span.1 ∨ b.span.2 < a.span.1 :=
    ⟨fun _ _ => Or.symm⟩
  by_cases heq : a = b
  · exact Or.inl heq
  · exact Or.inr (hapart.forall ha hb heq)

/-- At most one token of a line covers a column. -/
theorem eq_of_covers {i char : Int} {line : Text} {a b : Token} (ha : a ∈ tokens i line)
    (hb : b ∈ tokens i line) (hca : a.covers char = true) (hcb : b.covers char = true) :
    a = b := by
  simp only [Token.covers, Bool.and_eq_true, decide_eq_true_eq] at hca hcb
  rcases eq_or_before_or_after ha hb with heq | hlt | hlt
  · exact heq
  · omega
  · omega

/-- The token that covers a column is the one found there. -/
theorem find?_covers_eq_some {i char : Int} {line : Text} {token : Token}
    (h : token ∈ tokens i line) (hcovers : token.covers char = true) :
    (tokens i line).find? (·.covers char) = some token := by
  cases hfound : (tokens i line).find? (·.covers char) with
  | none => exact absurd hcovers (List.find?_eq_none.mp hfound token h)
  | some found =>
    have hcovered : found.covers char = true :=
      List.find?_some (p := fun other : Token => other.covers char) hfound
    rw [eq_of_covers (List.mem_of_find?_eq_some hfound) h hcovered hcovers]

/-- Nothing is found in the column where a token stops. -/
theorem find?_covers_stop_eq_none {i : Int} {line : Text} {token : Token}
    (h : token ∈ tokens i line) : (tokens i line).find? (·.covers token.span.2) = none := by
  rw [List.find?_eq_none]
  intro other hother hcovers
  simp only [Token.covers, Bool.and_eq_true, decide_eq_true_eq] at hcovers
  have hspan : token.span.1 ≤ token.span.2 := by
    simp only [Token.span]
    omega
  rcases eq_or_before_or_after h hother with rfl | hlt | hlt
  · omega
  · omega
  · omega

end Line

namespace Measure

variable {measure : Measure}

/-- A gap is as wide as a space. -/
theorem IsUnits.toUnits_gap (h : measure.IsUnits) (hspace : measure [.char ' '] = 1) {text : Text}
    {char : Int} (hgap : Line.IsGap text char) :
    measure.toUnits text (char + 1) = measure.toUnits text char + 1 := by
  obtain ⟨hchar, hspaces⟩ := hgap
  obtain ⟨n, rfl⟩ := Int.eq_ofNat_of_zero_le hchar
  rw [Int.toNat_natCast] at hspaces
  have hwidth : measure.widthAt text n = 1 := by
    rw [widthAt]
    cases hc : text[n]? with
    | none => rfl
    | some c => rw [Option.elim_some, hspaces c hc, hspace]
  have hsucc := h.toUnits_succ text n
  rwa [hwidth] at hsucc

/-- A token is as wide as its text. -/
theorem IsUnits.toUnits_stop (h : measure.IsUnits) {line : Text} {token : Token}
    (hreads : token.ReadsOff line) :
    measure.toUnits line token.span.2 =
      measure.toUnits line token.span.1 + measure token.content := by
  by_cases hempty : token.content = []
  · simp [Token.span, hempty, h.nil]
  · have hstop : token.span.2 ≤ line.length := by
      refine hreads.stop_le ?_
      rintro i char rfl
      exact hempty rfl
    have hextract := hreads.extract_eq
    obtain ⟨n, hn⟩ := Int.eq_ofNat_of_zero_le hreads.start_nonneg
    have hend : token.span.2 = (n + token.content.length : Nat) := by
      rw [Int.natCast_add, ← hn]
      rfl
    rw [hn, hend, Int.toNat_natCast, Int.toNat_natCast, List.extract_eq_take_drop,
      Nat.add_sub_cancel_left] at hextract
    rw [hn, hend, toUnits_natCast, toUnits_natCast, List.take_add, hextract, h.append]
    omega

end Measure

end Crontab
