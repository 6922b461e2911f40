import Crontab.Proofs.Tokenize

/-!
# The parts of a line

Every token is one part of its line: the comment, the term of a field, or the command. An entry has
a term for each word that has a field, in the order of the fields, and then one command. Which part
a column of a line belongs to can be read off the characters: the spaces in front of the column say
which field it is in.
-/

namespace Crontab

/-- What a token is on its line. -/
inductive Token.Part where
  /-- The comment. -/
  | comment
  /-- The term of a field. -/
  | term (field : Field)
  /-- The command. -/
  | command
  deriving DecidableEq, Repr

/-- The part of its line that a token is. -/
def Token.part : Token → Token.Part
  | .comment _ _ => .comment
  | .term _ _ field _ _ => .term field
  | .command _ _ _ => .command

/-- A token covers the columns from its start on, as many as its text is long. -/
theorem Token.covers_iff (token : Token) (char : Int) :
    token.covers char = true ↔
      token.char ≤ char ∧ char < token.char + token.content.length := by
  simp only [covers, Bool.and_eq_true, decide_eq_true_eq]
  rfl

namespace Entry

/-- The words of an entry: its body, cut at every single space. There are none without a body. -/
def words (line : Text) : List Text :=
  if body line = [] then [] else Text.pieces ' ' (body line)

/-- The pieces of an entry are its words. -/
theorem pieces_eq_words (line : Text) : pieces line = words line := pieces_eq line

/-- Each piece that has a field is placed as the term of that field, and then comes the command. -/
theorem map_part_place (line char : Int) (fields : List Field) (ps : List Text) :
    (place line char fields ps).map Token.part =
      (fields.take ps.length).map .term ++ [.command] := by
  fun_induction place line char fields ps with
  | case1 char field fields piece rest ih =>
    rw [List.map_cons, ih, List.length_cons, List.take_succ_cons]
    rfl
  | case2 fields char ps hnone =>
    have hnil : fields.take ps.length = [] := by
      rcases nil_or_nil hnone with rfl | rfl
      · exact List.take_nil
      · rfl
    rw [hnil]
    rfl

/-- The part of an entry that a column belongs to, when the spaces in front of it are counted off
against the fields: none for a space between two of them. -/
def partAt? (fields : List Field) (text : Text) (n : Nat) : Option Token.Part :=
  match fields[(text.take n).count (.char ' ')]? with
  | some field => if text[n]? = some (.char ' ') then none else some (.term field)
  | none => some .command

section Columns

variable {field : Field} {fields : List Field} {piece rest : Text} {n : Nat}

/-- A column in the first word belongs to the first field. -/
theorem partAt?_of_lt (hpiece : .char ' ' ∉ piece) (h : n < piece.length) :
    partAt? (field :: fields) (piece ++ rest) n = some (.term field) := by
  have hcount : ((piece ++ rest).take n).count (.char ' ') = 0 := by
    rw [List.take_append_of_le_length h.le, List.count_eq_zero]
    exact fun hmem => hpiece (List.take_subset _ _ hmem)
  have hchar : (piece ++ rest)[n]? ≠ some (.char ' ') := by
    rw [List.getElem?_append_left h]
    exact fun heq => hpiece (List.mem_of_getElem? heq)
  rw [partAt?, hcount, List.getElem?_cons_zero]
  exact if_neg hchar

/-- The space behind the first word belongs to nothing. -/
theorem partAt?_length (hpiece : .char ' ' ∉ piece) :
    partAt? (field :: fields) (piece ++ .char ' ' :: rest) piece.length = none := by
  have hcount : ((piece ++ .char ' ' :: rest).take piece.length).count (.char ' ') = 0 := by
    rw [List.take_left, List.count_eq_zero]
    exact hpiece
  rw [partAt?, hcount, List.getElem?_cons_zero]
  exact if_pos (by simp)

/-- Behind that space the later fields are counted off against the rest. -/
theorem partAt?_add (hpiece : .char ' ' ∉ piece) :
    partAt? (field :: fields) (piece ++ .char ' ' :: rest) (piece.length + 1 + n) =
      partAt? fields rest n := by
  have hcount : ((piece ++ .char ' ' :: rest).take (piece.length + 1 + n)).count (.char ' ') =
      (rest.take n).count (.char ' ') + 1 := by
    rw [Nat.add_assoc, List.take_length_add_append, Nat.add_comm 1, List.take_succ_cons,
      List.count_append, List.count_eq_zero.mpr hpiece, List.count_cons_self, Nat.zero_add]
  have hchar : (piece ++ .char ' ' :: rest)[piece.length + 1 + n]? = rest[n]? := by
    rw [List.getElem?_append_right (by omega), Nat.add_assoc, Nat.add_sub_cancel_left,
      Nat.add_comm 1, List.getElem?_cons_succ]
  rw [partAt?, partAt?, hcount, List.getElem?_cons_succ, hchar]

/-- What follows a column changes nothing about it. -/
theorem partAt?_append (h : n < piece.length) :
    partAt? fields (piece ++ rest) n = partAt? fields piece n := by
  rw [partAt?, partAt?, List.take_append_of_le_length h.le, List.getElem?_append_left h]

end Columns

/-- A token placed from a column on covers only columns of the joined pieces. -/
theorem bounds_of_covers {line char column : Int} {fields : List Field} {ps : List Text}
    {token : Token} (htidy : Text.Tidy ' ' ps) (h : token ∈ place line char fields ps)
    (hcovers : token.covers column = true) :
    char ≤ column ∧ column < char + (Text.joined ' ' ps).length := by
  rw [Token.covers_iff] at hcovers
  rcases place_spec htidy h with ⟨⟨before, after, htext, hchar⟩, _⟩ | rfl
  · rw [htext, List.length_append, List.length_append]
    omega
  · simp only [Token.char, Token.content, List.length_nil] at hcovers
    omega

/-- Outside the columns of the joined pieces nothing is found. -/
theorem find?_place_eq_none {line char column : Int} {fields : List Field} {ps : List Text}
    (htidy : Text.Tidy ' ' ps)
    (h : column < char ∨ char + (Text.joined ' ' ps).length ≤ column) :
    (place line char fields ps).find? (·.covers column) = none := by
  rw [List.find?_eq_none]
  intro token htoken hcovers
  have hbounds := bounds_of_covers htidy htoken hcovers
  omega

/-- Among the tokens placed the one that covers a column of the joined pieces is found by counting
the spaces in front of the column. -/
theorem find?_place (line char : Int) {fields : List Field} {ps : List Text}
    (htidy : Text.Tidy ' ' ps) {n : Nat} (hn : n < (Text.joined ' ' ps).length) :
    ((place line char fields ps).find? (·.covers (char + n))).map Token.part =
      partAt? fields (Text.joined ' ' ps) n := by
  fun_induction place line char fields ps generalizing n with
  | case1 char field fields piece rest ih =>
    have hpiece : .char ' ' ∉ piece := htidy.sep_notMem piece (List.mem_cons_self ..)
    have hfirst : (Token.term line char field (Term.read field piece) piece).covers (char + n) =
        decide (n < piece.length) := by
      rw [Bool.eq_iff_iff, Token.covers_iff, decide_eq_true_iff]
      simp only [Token.char, Token.content]
      omega
    rw [List.find?_cons, hfirst]
    rcases Nat.lt_trichotomy n piece.length with hlt | rfl | hgt
    · have hfront : (piece :: rest)[0]? = some piece := rfl
      obtain ⟨after, hjoined⟩ := Text.exists_joined_eq_closed_append ' ' hfront
      rw [decide_eq_true hlt, hjoined]
      exact (partAt?_of_lt hpiece hlt).symm
    · rw [decide_eq_false (Nat.lt_irrefl _), find?_place_eq_none htidy.tail (Or.inl (by omega))]
      cases rest with
      | nil => exact absurd hn (by simp)
      | cons q qs =>
        rw [Text.joined_cons (List.cons_ne_nil q qs), partAt?_length hpiece]
        rfl
    · rw [decide_eq_false (by omega)]
      cases rest with
      | nil =>
        rw [Text.joined_singleton] at hn
        omega
      | cons q qs =>
        rw [Text.joined_cons (List.cons_ne_nil q qs), List.length_append, List.length_cons] at hn
        obtain ⟨m, rfl⟩ : ∃ m, n = piece.length + 1 + m := ⟨n - (piece.length + 1), by omega⟩
        have hcolumn : char + ((piece.length + 1 + m : Nat) : Int) =
            char + piece.length + 1 + m := by omega
        rw [Text.joined_cons (List.cons_ne_nil q qs), partAt?_add hpiece, hcolumn]
        exact ih htidy.tail (by omega)
  | case2 fields char ps hnone =>
    have hcommand : (Token.command line char (Text.joined ' ' ps)).covers (char + n) = true := by
      rw [Token.covers_iff]
      simp only [Token.char, Token.content]
      omega
    rcases nil_or_nil hnone with rfl | rfl
    · rw [List.find?_cons, hcommand]
      rfl
    · exact absurd hn (by simp)

end Entry

end Crontab
