import Crontab.Proofs.Layout
import Crontab.Proofs.Store.Held

/-!
# Looking up a column

The token in a column of an open document is found by a look at the characters of its line: what the
line starts with, the spaces in front of the column, and the column itself. No two tokens of a line
share a column, so the first one found is the only one.
-/

namespace Crontab

namespace Line

instance (line : Text) : Decidable (IsComment line) :=
  inferInstanceAs (Decidable (line.head? = some (.char '#')))

/-- The part of a line that a column belongs to, read off the characters of the line. A comment takes
up its whole line. In the body of an entry the spaces in front of the column say which field it is
in, and with more of them than there are gaps between the fields it is in the command; a space
between two fields belongs to nothing. -/
def partAt? (line : Text) (char : Int) : Option Token.Part :=
  if IsComment line then
    if 0 ≤ char ∧ char < line.length then some .comment else none
  else if 0 ≤ char ∧ char < (Entry.body line).length then
    Entry.partAt? Field.all line char.toNat
  else none

/-- The token of a line that covers a column is the part that the column belongs to. -/
theorem map_part_find?_tokens (i : Int) (line : Text) (char : Int) :
    ((tokens i line).find? (·.covers char)).map Token.part = partAt? line char := by
  rcases empty_or_comment_or_entry line with rfl | hcomment | hentry
  · have hcomment : ¬IsComment [] := nofun
    have hbounds : ¬(0 ≤ char ∧ char < (Entry.body []).length) := by
      rw [show Entry.body [] = [] from rfl, List.length_nil]
      omega
    rw [partAt?, if_neg hcomment, if_neg hbounds]
    rfl
  · have hcovers : (Token.comment i line).covers char =
        decide (0 ≤ char ∧ char < line.length) := by
      rw [Bool.eq_iff_iff, Token.covers_iff, decide_eq_true_iff]
      simp only [Token.char, Token.content, Int.zero_add]
    rw [tokens_comment i hcomment, partAt?, if_pos hcomment, List.find?_singleton, hcovers]
    by_cases hbounds : 0 ≤ char ∧ char < line.length
    · rw [decide_eq_true hbounds, if_pos hbounds]
      rfl
    · rw [decide_eq_false hbounds, if_neg hbounds]
      rfl
  · have htidy := Entry.tidy_pieces line
    have hjoined := Entry.joined_pieces line
    rw [tokens_entry i hentry, Entry.tokens, partAt?, if_neg hentry.2]
    by_cases hbounds : 0 ≤ char ∧ char < (Entry.body line).length
    · rw [if_pos hbounds]
      obtain ⟨n, rfl⟩ := Int.eq_ofNat_of_zero_le hbounds.1
      have hn : n < (Entry.body line).length := Int.ofNat_lt.mp hbounds.2
      obtain ⟨spaces, hline, _⟩ := Entry.exists_eq_body_append line
      have hfound : ((Entry.place i 0 Field.all (Entry.pieces line)).find?
          (·.covers (0 + n))).map Token.part =
            Entry.partAt? Field.all (Text.joined ' ' (Entry.pieces line)) n :=
        Entry.find?_place i 0 htidy (hjoined ▸ hn)
      rw [Int.zero_add, hjoined] at hfound
      have hbody : Entry.partAt? Field.all line n = Entry.partAt? Field.all (Entry.body line) n :=
        (congrArg (Entry.partAt? Field.all · n) hline).trans (Entry.partAt?_append hn)
      rw [hfound, Int.toNat_natCast, hbody]
    · rw [if_neg hbounds, Entry.find?_place_eq_none htidy (by rw [hjoined]; omega)]
      rfl

end Line

namespace Store

/-- The tokens on a line of a document are those of the text of that line. -/
theorem HoldsText.lineTokens {store : Store} {id text : Text} (h : store.HoldsText id text)
    (line : Int) :
    store.lineTokens id line =
      .ok (Line.tokens line (Line.nth (Line.split text).toArray line)) := by
  rw [Store.lineTokens, h.tokensOf, ← onLine_tokenize_nth]
  rfl

/-- In every column of every line of every open document, whether the line and the column exist or
not, looking for a token gives an answer, and what is found is the part of the line that the column
belongs to. It is the only token of the line that is this part, and no two tokens of the line cover
one column. -/
theorem tokenAt_reads (source : Text) {history : List Command} {id text : Text}
    (hopen : LastWrite history id text) (line char : Int) :
    let store := Step.run step (empty source) history
    let found := Line.nth (Line.split text).toArray line
    ∃ tokens answer, store.lineTokens id line = .ok tokens ∧
      store.tokenAt id line char = .ok answer ∧
      answer.map Token.part = Line.partAt? found char ∧
      (∀ token ∈ answer, token ∈ tokens ∧ token.covers char = true) ∧
      (∀ a ∈ tokens, ∀ b ∈ tokens, a.part = b.part → a = b) ∧
      ∀ a ∈ tokens, ∀ b ∈ tokens, a.covers char = true → b.covers char = true → a = b := by
  intro store found
  have hholds := hopen.holdsText source
  have hat : (Document.ofText text).tokenAt? line char =
      (Line.tokens line found).find? (·.covers char) := by
    rw [← onLine_tokenize_nth]
    rfl
  refine ⟨_, _, hholds.lineTokens line, hholds.tokenAt line char, ?_, ?_, ?_, ?_⟩
  · rw [hat]
    exact Line.map_part_find?_tokens line found char
  · intro token htoken
    rw [hat, Option.mem_def] at htoken
    exact ⟨List.mem_of_find?_eq_some htoken, by simpa using List.find?_some htoken⟩
  · exact fun a ha b hb => Line.eq_of_part_eq ha hb
  · exact fun a ha b hb => Line.eq_of_covers ha hb

/-- On the second line the column of an empty hour belongs to nothing, and the command starts with
the second of the two spaces in front of it. -/
theorem tokenAt_reads_doubled_spaces :
    let id := Text.ofString "tab"
    let history := [Command.load id (.ofString "# top\n*/5  * * *  x")]
    let store := Step.run step (empty []) history
    LastWrite history id (.ofString "# top\n*/5  * * *  x") ∧
      store.tokenAt id 1 4 = .ok none ∧
      ∃ answer, store.tokenAt id 1 11 = .ok answer ∧
        answer.map Token.part = some .command ∧
        answer = some (.command 1 11 (.ofString " x")) := by
  intro id history store
  have hopen : LastWrite history id (.ofString "# top\n*/5  * * *  x") :=
    (lastWrite_concat [] _ _ _).mpr (Or.inl rfl)
  obtain ⟨_, gap, _, hgap, hnothing, _⟩ := tokenAt_reads [] hopen 1 4
  obtain ⟨_, answer, _, hanswer, hcommand, _⟩ := tokenAt_reads [] hopen 1 11
  have hnone : gap = none := by
    rw [← Option.map_eq_none_iff (f := Token.part), hnothing]
    decide
  refine ⟨hopen, hnone ▸ hgap, answer, hanswer, hcommand.trans (by decide), ?_⟩
  exact (Except.ok.inj hanswer).symm.trans (by decide)

end Store

end Crontab
