import Crontab.Entry
import Crontab.Proofs.Text.Pieces

/-!
# The layout of an entry

The body of an entry is the line without the spaces at its end. The tokens of an entry spell its
body: every term, and a command that is not empty, stands in the body at its own place. A command
that is empty stands one column past the space that would follow the body, or at the start of a line
without a body.
-/

namespace Crontab.Entry

/-- The body of an entry: its line without the spaces at the end. -/
def body (line : Text) : Text := line.rdropWhile (· = .char ' ')

/-- The pieces of an entry joined by single spaces are its body. -/
theorem joined_pieces (line : Text) : Text.joined ' ' (pieces line) = body line := by
  have hsep : ∀ p ∈ Text.pieces ' ' line, .char ' ' ∉ p := fun p hp =>
    Text.sep_notMem_of_mem_pieces hp
  have h := Text.joined_rdropWhile_isEmpty hsep
  rwa [Text.joined_pieces] at h

/-- Spaces at the end do not belong to the body. -/
theorem body_append {line spaces : Text} (h : ∀ c ∈ spaces, c = .char ' ') :
    body (line ++ spaces) = body line := by
  induction spaces using List.reverseRecOn with
  | nil => rw [List.append_nil]
  | append_singleton spaces c ih =>
    rw [← List.append_assoc, body, List.rdropWhile_concat_pos _ _ _ (by simp [h c]), ← body]
    exact ih fun d hd => h d (List.mem_append_left _ hd)

/-- Tidy pieces joined by single spaces are their own body. -/
theorem body_joined {ps : List Text} (h : Text.Tidy ' ' ps) :
    body (Text.joined ' ' ps) = Text.joined ' ' ps := by
  have hlast : ps.rdropWhile List.isEmpty = ps := by
    rw [List.rdropWhile_eq_self_iff]
    intro hne
    rw [List.isEmpty_iff]
    exact h.getLast_ne_nil hne
  rw [body, ← Text.joined_rdropWhile_isEmpty h.sep_notMem, hlast]

theorem tidy_pieces (line : Text) : Text.Tidy ' ' (pieces line) := by
  constructor
  · intro p hp
    exact Text.sep_notMem_of_mem_pieces ((List.rdropWhile_prefix ..).subset hp)
  · intro hne
    have hlast := List.rdropWhile_last_not List.isEmpty (Text.pieces ' ' line) hne
    rwa [List.isEmpty_iff] at hlast

/-- The pieces of an entry are those of its body; there are none without a body. -/
theorem pieces_eq (line : Text) :
    pieces line = if body line = [] then [] else Text.pieces ' ' (body line) := by
  rw [← joined_pieces]
  exact (tidy_pieces line).eq_ite

/-- Two entries have the same pieces exactly when they have the same body. -/
theorem pieces_eq_iff (a b : Text) : pieces a = pieces b ↔ body a = body b := by
  constructor
  · intro h
    rw [← joined_pieces, h, joined_pieces]
  · intro h
    rw [pieces_eq, h, ← pieces_eq]

/-- Without fields left, all pieces go to the command. -/
theorem place_nil_fields (line char : Int) (ps : List Text) :
    place line char [] ps = [.command line char (Text.joined ' ' ps)] := by
  cases ps <;> rfl

/-- Without pieces left, the command is empty. -/
theorem place_nil_pieces (line char : Int) (fields : List Field) :
    place line char fields [] = [.command line char []] := by
  cases fields <;> rfl

/-- Where no piece goes to a field, no field is left or no piece. -/
theorem nil_or_nil {fields : List Field} {ps : List Text}
    (h : ∀ field later piece rest, fields = field :: later → ps = piece :: rest → False) :
    fields = [] ∨ ps = [] := by
  cases fields with
  | nil => exact Or.inl rfl
  | cons field later =>
    cases ps with
    | nil => exact Or.inr rfl
    | cons piece rest => exact absurd rfl (h field later piece rest rfl)

/-- There is always a command. -/
theorem place_ne_nil (line char : Int) (fields : List Field) (ps : List Text) :
    place line char fields ps ≠ [] := by
  fun_cases place line char fields ps <;> exact List.cons_ne_nil _ _

/-- An entry has no comment. -/
theorem comment_notMem_place {line char : Int} {fields : List Field} {ps : List Text} {i : Int}
    {content : Text} : .comment i content ∉ place line char fields ps := by
  fun_induction place line char fields ps with
  | case1 char field fields piece rest ih => simpa using ih
  | case2 char fields ps _ => simp

/-- Tokens are placed on their own line. -/
theorem place_line {line char : Int} {fields : List Field} {ps : List Text} {token : Token}
    (h : token ∈ place line char fields ps) : token.line = line := by
  fun_induction place line char fields ps with
  | case1 char field fields piece rest ih =>
    rcases List.mem_cons.mp h with rfl | h
    · rfl
    · exact ih h
  | case2 char fields ps _ =>
    rw [List.mem_singleton.mp h]
    rfl

/-- A token's text stands in a text that starts at column `char`, right at the token's place. -/
def StandsIn (token : Token) (char : Int) (text : Text) : Prop :=
  ∃ before after, text = before ++ token.content ++ after ∧ token.char = char + before.length

/-- A piece and a space in front of a text move what stands in it. -/
theorem StandsIn.cons {token : Token} {char : Int} {text : Text} (piece : Text)
    (h : StandsIn token (char + piece.length + 1) text) :
    StandsIn token char (piece ++ .char ' ' :: text) := by
  obtain ⟨before, after, htext, hchar⟩ := h
  refine ⟨piece ++ .char ' ' :: before, after, ?_, ?_⟩
  · simp [htext]
  · rw [hchar, List.length_append, List.length_cons]
    omega

/-- What stands in a text still does when the text goes on. -/
theorem StandsIn.append {token : Token} {char : Int} {text : Text} (h : StandsIn token char text)
    (rest : Text) : StandsIn token char (text ++ rest) := by
  obtain ⟨before, after, htext, hchar⟩ := h
  exact ⟨before, after ++ rest, by rw [htext, List.append_assoc], hchar⟩

/-- Where the command of pieces starting at column `char` is placed if no piece is left for it. -/
def emptyCommandAt (char : Int) (ps : List Text) : Int :=
  if ps = [] then char else char + (Text.joined ' ' ps).length + 1

/-- Every token placed stands in the joined pieces, except a command that is empty. -/
theorem place_spec {line char : Int} {fields : List Field} {ps : List Text} {token : Token}
    (htidy : Text.Tidy ' ' ps) (h : token ∈ place line char fields ps) :
    (StandsIn token char (Text.joined ' ' ps) ∧ (token.isTerm = true ∨ token.content ≠ [])) ∨
      token = .command line (emptyCommandAt char ps) [] := by
  fun_induction place line char fields ps with
  | case1 char field fields piece rest ih =>
    cases rest with
    | nil =>
      rw [place_nil_pieces, List.mem_cons, List.mem_singleton] at h
      rcases h with rfl | rfl
      · exact Or.inl ⟨⟨[], [], by simp [Token.content], by simp [Token.char]⟩, Or.inl rfl⟩
      · refine Or.inr ?_
        rw [emptyCommandAt, if_neg (List.cons_ne_nil piece []), Text.joined_singleton]
    | cons q qs =>
      have hne : q :: qs ≠ [] := List.cons_ne_nil q qs
      have hjoined : Text.joined ' ' (piece :: q :: qs) =
          piece ++ .char ' ' :: Text.joined ' ' (q :: qs) := Text.joined_cons hne piece
      rcases List.mem_cons.mp h with rfl | h
      · refine Or.inl ⟨⟨[], .char ' ' :: Text.joined ' ' (q :: qs), ?_, ?_⟩, Or.inl rfl⟩
        · simp [hjoined, Token.content]
        · simp [Token.char]
      · rw [hjoined]
        rcases ih htidy.tail h with ⟨hstands, hkind⟩ | rfl
        · exact Or.inl ⟨hstands.cons piece, hkind⟩
        · refine Or.inr ?_
          rw [emptyCommandAt, emptyCommandAt, if_neg hne, if_neg (List.cons_ne_nil piece _),
            hjoined, List.length_append, List.length_cons]
          congr 1
          omega
  | case2 char fields ps _ =>
    rw [List.mem_singleton] at h
    subst h
    by_cases hne : ps = []
    · subst hne
      exact Or.inr rfl
    · refine Or.inl ⟨⟨[], [], ?_, ?_⟩, Or.inr (htidy.joined_ne_nil hne)⟩
      · simp [Token.content]
      · simp [Token.char]

/-- A line is its body and then spaces. -/
theorem exists_eq_body_append (line : Text) :
    ∃ spaces, line = body line ++ spaces ∧ ∀ c ∈ spaces, c = .char ' ' := by
  induction line using List.reverseRecOn with
  | nil => exact ⟨[], rfl, by simp⟩
  | append_singleton line c ih =>
    rw [body, List.rdropWhile_concat]
    split
    · next hspace =>
      obtain ⟨spaces, hline, hspaces⟩ := ih
      refine ⟨spaces ++ [c], ?_, ?_⟩
      · rw [← List.append_assoc, ← body, ← hline]
      · intro d hd
        rcases List.mem_append.mp hd with hd | hd
        · exact hspaces d hd
        · rw [List.mem_singleton.mp hd]
          exact of_decide_eq_true hspace
    · exact ⟨[], (List.append_nil _).symm, by simp⟩

/-- Every token of an entry stands in its line, except a command that is empty, which stands past
the body. -/
theorem tokens_spec {i : Int} {line : Text} {token : Token} (h : token ∈ tokens i line) :
    (StandsIn token 0 line ∧ (token.isTerm = true ∨ token.content ≠ [])) ∨
      token = .command i (if body line = [] then 0 else (body line).length + 1) [] := by
  have htidy := tidy_pieces line
  rcases place_spec htidy h with ⟨hstands, hkind⟩ | rfl
  · obtain ⟨spaces, hline, _⟩ := exists_eq_body_append line
    rw [joined_pieces] at hstands
    rw [hline]
    exact Or.inl ⟨hstands.append spaces, hkind⟩
  · refine Or.inr ?_
    rw [emptyCommandAt, joined_pieces, Int.zero_add]
    by_cases hne : pieces line = []
    · rw [if_pos hne, if_pos (by rw [← joined_pieces, hne, Text.joined_nil])]
    · rw [if_neg hne, if_neg (joined_pieces line ▸ htidy.joined_ne_nil hne)]

/-- Tokens placed alike come from the same pieces. -/
theorem place_inj {line char : Int} {fields : List Field} {ps qs : List Text}
    (hp : Text.Tidy ' ' ps) (hq : Text.Tidy ' ' qs)
    (h : place line char fields ps = place line char fields qs) : ps = qs := by
  induction fields generalizing char ps qs with
  | nil =>
    rw [place_nil_fields, place_nil_fields, List.singleton_inj, Token.command.injEq] at h
    exact hp.joined_inj hq h.2.2
  | cons field fields ih =>
    cases ps with
    | nil =>
      cases qs with
      | nil => rfl
      | cons q qs => simp [place] at h
    | cons p ps =>
      cases qs with
      | nil => simp [place] at h
      | cons q qs =>
        rw [place, place, List.cons.injEq, Token.term.injEq] at h
        obtain ⟨⟨_, _, _, _, rfl⟩, hrest⟩ := h
        rw [ih hp.tail hq.tail hrest]

/-- Two entries on one line have the same tokens exactly when they have the same body. -/
theorem tokens_eq_iff (line : Int) (a b : Text) :
    tokens line a = tokens line b ↔ body a = body b := by
  rw [← pieces_eq_iff]
  constructor
  · exact place_inj (tidy_pieces a) (tidy_pieces b)
  · intro h
    rw [tokens, h, tokens]

end Crontab.Entry
