import Crontab.Proofs.Highlight
import Crontab.Proofs.Layout
import Crontab.Proofs.Store.Held

/-!
# Highlighting data of a document

The tokens of a document follow each other line by line and, on a line, gap by gap. So the
highlighting data of an open document goes forward only: every token is told as wide as its text,
and either starts a line or starts one unit behind the token before it.
-/

namespace Crontab

namespace Highlight

/-- Each of some marks is given relative to the one before it, the first of them to a mark before
all. -/
theorem zipWith_after_append (origin : Mark) (before : List Mark) (mark : Mark)
    (after : List Mark) :
    List.zipWith Mark.after (origin :: (before ++ mark :: after)) (before ++ mark :: after) =
      List.zipWith Mark.after (origin :: before) before ++
        (before.getLast?.getD origin).after mark ::
          List.zipWith Mark.after (mark :: after) after := by
  induction before generalizing origin with
  | nil => rfl
  | cons first before ih =>
    rw [List.cons_append, List.zipWith_cons_cons, ih, List.getLast?_cons, Option.getD_some]
    rfl

/-- A token relative to the last of the tokens before it. -/
def deltaAfter (columns : Columns) (before : List Token) (token : Token) : Delta :=
  ((before.getLast?.map (Mark.ofToken columns)).getD .origin).after (Mark.ofToken columns token)

/-- The five integers of a token among those of all tokens. -/
theorem take_drop_encode (columns : Columns) (before : List Token) (token : Token)
    (after : List Token) :
    ((flatten (encode columns (before ++ token :: after))).drop (5 * before.length)).take 5 =
      (deltaAfter columns before token).integers := by
  have hlength : (flatten (encode columns before)).length = 5 * before.length := by
    simp [length_flatten, encode]
  rw [encode, List.map_append, List.map_cons, zipWith_after_append, List.getLast?_map, ← encode,
    flatten, List.flatMap_append, List.flatMap_cons, ← flatten, List.drop_left' hlength]
  exact List.take_left' rfl

/-- A token that starts its line is told by the lines since the token before it. -/
theorem deltaAfter_of_startsLine (columns : Columns) {before : List Token} {token : Token}
    (hearlier : ∀ earlier ∈ before, earlier.line < token.line) (hline : 0 ≤ token.line)
    (hstart : columns token.line token.span.1 = 0) :
    (deltaAfter columns before token).lines =
        token.line - (before.getLast?.map Token.line).getD 0 ∧
      0 ≤ (deltaAfter columns before token).lines ∧
      (deltaAfter columns before token).columns = 0 := by
  cases hlast : before.getLast? with
  | none => simp [deltaAfter, hlast, Mark.after, Mark.origin, Mark.ofToken, hstart, hline]
  | some previous =>
    have hlt := hearlier previous (List.mem_of_getLast? hlast)
    simp [deltaAfter, hlast, Mark.after, Mark.ofToken, hstart, hlt.le, hlt.ne']

/-- A token on the line of the token before it is told by the columns between their starts. -/
theorem deltaAfter_of_onLine (columns : Columns) {before : List Token} {previous token : Token}
    (hlast : before.getLast? = some previous) (hline : previous.line = token.line) :
    (deltaAfter columns before token).lines = 0 ∧
      (deltaAfter columns before token).columns =
        columns token.line token.span.1 - columns token.line previous.span.1 := by
  simp [deltaAfter, hlast, Mark.after, Mark.ofToken, hline]

/-- Five integers that tell of a token after those of the tokens `before`. -/
structure Tells (measure : Measure) (before : List Token) (token : Token)
    (lines columns length kind modifiers : Int) : Prop where
  /-- The first token of a line is told by the lines since the token before it, or by its own line
  if there is none, and starts at the first column. -/
  opening : (∀ earlier ∈ before, earlier.line ≠ token.line) →
    lines = token.line - (before.getLast?.map Token.line).getD 0 ∧ columns = 0
  /-- Any other token starts one unit behind the token right before it. -/
  following : ∀ earlier ∈ before, earlier.line = token.line →
    lines = 0 ∧ ∃ previous ∈ before.getLast?, columns = measure previous.content + 1
  /-- A token is as wide as its text. -/
  length_eq : length = measure token.content
  /-- Its kind is the index of its label in the legend. -/
  kind_eq : kind = legend.idxOf (labelOf token)
  /-- It has no modifiers. -/
  modifiers_eq : modifiers = 0
  /-- None of the integers is negative. -/
  nonneg : 0 ≤ lines ∧ 0 ≤ columns ∧ 0 ≤ length ∧ 0 ≤ kind

/-- The integers of a token of a document tell of it after the tokens before it. -/
theorem tells_deltaAfter {measure : Measure} (h : measure.IsUnits)
    (hspace : measure [.char ' '] = 1) {text : Text} {before after : List Token} {token : Token}
    (hsplit : tokenize text = before ++ token :: after) :
    let delta := deltaAfter ((Document.ofText text).toUnits measure) before token
    Tells measure before token delta.lines delta.columns delta.length delta.kind.index 0 := by
  let columns := (Document.ofText text).toUnits measure
  intro delta
  have hwidth : ∀ other ∈ tokenize text, columns other.line other.span.2 =
      columns other.line other.span.1 + measure other.content := fun other hother =>
    h.toUnits_stop (Line.readsOff_of_mem_tokens (mem_tokens_of_mem_tokenize hother))
  have htoken : token ∈ tokenize text := by simp [hsplit]
  have hlength : delta.length = measure token.content := by
    change columns token.line token.span.2 - columns token.line token.span.1 = _
    rw [hwidth token htoken]
    omega
  have hkind : (delta.kind.index : Int) = legend.idxOf (labelOf token) := by
    cases token <;> rfl
  have hcontent := h.nonneg token.content
  rcases startsLine_or_adjoins hsplit with ⟨hearlier, hchar⟩ | ⟨previous, hlast, hline, hadjoins⟩
  · obtain ⟨i, line, _, hi⟩ := mem_tokenize.mp htoken
    have hnonneg : 0 ≤ token.line := Line.line_of_mem_tokens hi ▸ Int.natCast_nonneg i
    have hstart : columns token.line token.span.1 = 0 := by
      rw [Token.span, hchar]
      exact h.toUnits_zero _
    obtain ⟨hlines, hforward, hcolumns⟩ := deltaAfter_of_startsLine columns hearlier hnonneg hstart
    constructor
    · exact fun _ => ⟨hlines, hcolumns⟩
    · intro earlier hmember hsame
      exact absurd (hearlier earlier hmember) (by omega)
    · exact hlength
    · exact hkind
    · rfl
    · exact ⟨hforward, hcolumns.ge, by omega, by omega⟩
  · have hprevious : previous ∈ before := List.mem_of_getLast? hlast
    have hgap : columns token.line token.span.1 = columns token.line previous.span.2 + 1 := by
      rw [Token.span.eq_def token, hadjoins.char_eq]
      exact h.toUnits_gap hspace hadjoins.isGap
    have hbefore := hwidth previous (by simp [hsplit, hprevious])
    obtain ⟨hlines, hcolumns⟩ := deltaAfter_of_onLine columns hlast hline
    rw [hline] at hbefore
    rw [hgap, hbefore] at hcolumns
    have hstep : delta.columns = measure previous.content + 1 := hcolumns.trans (by omega)
    have hbehind := h.nonneg previous.content
    constructor
    · intro hnone
      exact absurd hline (hnone previous hprevious)
    · exact fun _ _ _ => ⟨hlines, previous, hlast, hstep⟩
    · exact hlength
    · exact hkind
    · rfl
    · exact ⟨hlines.ge, by omega, by omega, by omega⟩

end Highlight

namespace Store

/-- For every text of an open document and every measure that counts units and in which a space
takes one, the highlighting data has five integers for each token of the text, in order, which tell
of the token after those before it. -/
theorem highlights_tell (source : Text) {history : List Command} {id text : Text}
    (hopen : LastWrite history id text) {measure : Measure} (hunits : measure.IsUnits)
    (hspace : measure [.char ' '] = 1) :
    ∃ data, (Step.run step (empty source) history).highlights measure id = .ok data ∧
      data.length = 5 * (tokenize text).length ∧
      ∀ before token after, tokenize text = before ++ token :: after →
        ∃ lines columns length kind modifiers,
          (data.drop (5 * before.length)).take 5 = [lines, columns, length, kind, modifiers] ∧
          Highlight.Tells measure before token lines columns length kind modifiers := by
  have hholds := hopen.holdsText source
  refine ⟨_, hholds.highlights measure, ?_, ?_⟩
  · simp [Document.highlights, Document.ofText, Highlight.length_flatten, Highlight.encode]
  · intro before token after hsplit
    refine ⟨_, _, _, _, _, ?_, Highlight.tells_deltaAfter hunits hspace hsplit⟩
    rw [Document.highlights, Document.ofText, hsplit]
    exact Highlight.take_drop_encode _ before token after

/-- In two-byte units the term behind one of two units starts three columns further, and the command
that an entry of two terms does not have starts two columns further and takes none. -/
theorem highlights_tell_two_units :
    let id := Text.ofString "tab"
    let text := Text.ofString "🎉 0"
    let store := Step.run step (empty []) [.load id text]
    (LastWrite [.load id text] id text ∧ Encoding.utf16.measure.IsUnits ∧
      Encoding.utf16.measure [.char ' '] = 1) ∧
    tokenize text = (tokenize text).take 2 ++ [.command 0 4 []] ∧
    ∃ data, store.highlights Encoding.utf16.measure id = .ok data ∧
      data = [0, 0, 2, 0, 0, 0, 3, 1, 0, 0, 0, 2, 0, 1, 0] ∧
      Highlight.Tells Encoding.utf16.measure ((tokenize text).take 2) (.command 0 4 []) 0 2 0 1 0 := by
  intro id text store
  have hopen : LastWrite [.load id text] id text := (lastWrite_concat [] _ _ _).mpr (Or.inl rfl)
  have hunits := Encoding.utf16.isUnits_measure
  have hspace := Encoding.utf16.measure_space
  have hsplit : tokenize text = (tokenize text).take 2 ++ [.command 0 4 []] := by decide
  obtain ⟨data, hdata, _, htells⟩ := highlights_tell [] hopen hunits hspace
  have hshown : store.highlights Encoding.utf16.measure id =
      .ok [0, 0, 2, 0, 0, 0, 3, 1, 0, 0, 0, 2, 0, 1, 0] := by decide
  obtain rfl := Except.ok.inj (hdata.symm.trans hshown)
  obtain ⟨lines, columns, length, kind, modifiers, hfive, hlast⟩ := htells _ _ _ hsplit
  have hlength : ((tokenize text).take 2).length = 2 := by decide
  rw [hlength] at hfive
  obtain ⟨rfl, rfl, rfl, rfl, rfl⟩ : 0 = lines ∧ 2 = columns ∧ 0 = length ∧ 1 = kind ∧
      0 = modifiers := by
    simpa using hfive
  exact ⟨⟨hopen, hunits, hspace⟩, hsplit, _, hdata, rfl, hlast⟩

end Store

end Crontab
