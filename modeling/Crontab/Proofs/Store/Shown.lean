import Crontab.Proofs.Entry.Parts
import Crontab.Proofs.Place
import Crontab.Proofs.Store.Hovering

/-!
# What is shown

What is shown for a token can be read off its line. A comment shows nothing. A term shows its field
and its value, or nothing if it has an error, and then the diagnostics of its document tell what is
wrong with it: reading never fails without an error, so a term is either shown or reported. A
command shows itself and its schedule, which are the two parts of the line around its fifth space,
whatever spaces the line holds.
-/

namespace Crontab

namespace Entry

/-- The terms placed are the pieces that have a field. -/
theorem contents_terms_place (line char : Int) (fields : List Field) (ps : List Text) :
    ((place line char fields ps).filter Token.isTerm).map Token.content =
      ps.take fields.length := by
  fun_induction place line char fields ps with
  | case1 char field fields piece rest ih =>
    rw [List.filter_cons_of_pos rfl, List.map_cons, ih]
    rfl
  | case2 fields char ps hnone =>
    rcases nil_or_nil hnone with rfl | rfl
    · rfl
    · exact List.take_nil.symm

/-- The command placed is what the pieces without a field spell. -/
theorem content_command_of_mem_place {line char : Int} {fields : List Field} {ps : List Text}
    {i c : Int} {content : Text} (h : .command i c content ∈ place line char fields ps) :
    content = Text.joined ' ' (ps.drop fields.length) := by
  fun_induction place line char fields ps with
  | case1 char field fields piece rest ih =>
    rcases List.mem_cons.mp h with heq | h
    · cases heq
    · exact ih h
  | case2 fields char ps hnone =>
    obtain ⟨_, _, rfl⟩ := Token.command.inj (List.mem_singleton.mp h)
    rcases nil_or_nil hnone with rfl | rfl
    · rfl
    · rw [List.drop_nil]

/-- An entry with a command is cut at its fifth space: its terms and the spaces between them stand
in front, and the command behind. -/
theorem exists_cut_of_command {line : Text} (hcommand : (pieces line).drop 5 ≠ []) :
    ∃ before after, line = before ++ .char ' ' :: after ∧ before.count (.char ' ') = 4 ∧
      Text.joined ' ' ((pieces line).take 5) = before ∧
      Text.joined ' ' ((pieces line).drop 5) = body after := by
  have htidy := tidy_pieces line
  have hlength : 5 < (pieces line).length := by
    by_contra hle
    exact hcommand (List.drop_of_length_le (by omega))
  have htake : ((pieces line).take 5).length = 5 := List.length_take_of_le hlength.le
  have hterms : (pieces line).take 5 ≠ [] := by
    intro hnil
    rw [hnil] at htake
    exact absurd htake (by decide)
  -- Five pieces have four spaces between them, and none in them.
  have hcount := Text.count_joined hterms fun p hp =>
    htidy.sep_notMem p (List.mem_of_mem_take hp)
  obtain ⟨spaces, hline, hspaces⟩ := exists_eq_body_append line
  refine ⟨_, Text.joined ' ' ((pieces line).drop 5) ++ spaces, ?_, ?_, rfl, ?_⟩
  · calc line = Text.joined ' ' ((pieces line).take 5 ++ (pieces line).drop 5) ++ spaces := by
          rw [List.take_append_drop, joined_pieces]
          exact hline
      _ = _ := by rw [Text.joined_append hterms hcommand, List.append_assoc, List.cons_append]
  · omega
  · rw [body_append hspaces, body_joined (htidy.drop 5)]

end Entry

/-- A command that is not empty, and the schedule shown with it, are the two parts of their line
around its fifth space. -/
theorem Line.exists_cut_of_command {i j c : Int} {line content : Text}
    (h : .command j c content ∈ tokens i line) (hcontent : content ≠ []) :
    ∃ before after, line = before ++ .char ' ' :: after ∧ before.count (.char ' ') = 4 ∧
      Hover.schedule (tokens i line) = before ∧ content = Entry.body after := by
  rcases empty_or_comment_or_entry line with rfl | hcomment | hentry
  · exact absurd h List.not_mem_nil
  · rw [tokens_comment i hcomment] at h
    cases List.mem_singleton.mp h
  · rw [tokens_entry i hentry] at h ⊢
    have hdrop := Entry.content_command_of_mem_place h
    have hcommand : (Entry.pieces line).drop 5 ≠ [] := by
      intro hnil
      exact hcontent (hdrop.trans (congrArg (Text.joined ' ') hnil))
    obtain ⟨before, after, hline, hcount, hbefore, hafter⟩ :=
      Entry.exists_cut_of_command hcommand
    refine ⟨before, after, hline, hcount, ?_, hdrop.trans hafter⟩
    rw [Hover.schedule, Entry.tokens, Entry.contents_terms_place]
    exact hbefore

/-- Some of the diagnostics of a document are about a token. -/
def Token.IsReportedIn (token : Token) (source : Text) (ds : List Diagnostic) : Prop :=
  ∃ d ∈ ds, d ∈ token.diagnostics source

/-- What is shown for a token of a line, beside the diagnostics of its document. -/
structure Token.ShownAs (token : Token) (source line : Text) (ds : List Diagnostic)
    (shown : Option Hover) : Prop where
  /-- Nothing is shown exactly for a comment and for a term that is reported. -/
  eq_none_iff : shown = none ↔
    token.part = .comment ∨ ∃ field, token.part = .term field ∧ token.IsReportedIn source ds
  /-- What is shown stands where the token does. -/
  stands : ∀ hover ∈ shown, hover.line = token.line ∧ hover.startChar = token.span.1 ∧
    hover.endChar = token.span.2
  /-- A term that is not reported shows its field and its value. -/
  term : ∀ field, token.part = .term field → ¬token.IsReportedIn source ds →
    ∃ v, Term.read field token.content = .value v ∧
      shown.map Hover.text = some (.ofString (field.name ++ " term: " ++ v.describe))
  /-- A command shows the part of the line behind its fifth space, without the spaces at the end,
  and then the part in front of it. -/
  command : token.part = .command →
    ∃ before after, line = before ++ .char ' ' :: after ∧ before.count (.char ' ') = 4 ∧
      shown.map Hover.text = some (.ofString "`" ++ Entry.body after ++
        .ofString "` will be executed on schedule: " ++ before)

/-- A token is reported in diagnostics that hold its own exactly when it has an error. -/
theorem Token.isReportedIn_iff {token : Token} {source : Text} {ds : List Diagnostic}
    (hds : ∀ d ∈ token.diagnostics source, d ∈ ds) :
    token.IsReportedIn source ds ↔ token.errors ≠ [] := by
  constructor
  · rintro ⟨d, _, hd⟩
    obtain ⟨e, he, _⟩ := List.mem_map.mp hd
    exact List.ne_nil_of_mem he
  · intro herrors
    obtain ⟨d, hd⟩ := List.exists_mem_of_ne_nil (token.diagnostics source)
      (mt List.map_eq_nil_iff.mp herrors)
    exact ⟨d, hds d hd, hd⟩

namespace Line

theorem map_text_shown? (measure : Measure) (i : Int) (line : Text) (token : Token) :
    (shown? measure i line token).map Hover.text = Hover.describe (tokens i line) token := by
  rw [shown?, Option.map_map]
  exact Option.map_id'

/-- What is shown for a token stands where the token does. -/
theorem stands_of_shown? {i : Int} {line : Text} {token : Token} {hover : Hover}
    (htoken : token ∈ tokens i line) (h : shown? .codePoints i line token = some hover) :
    hover.line = token.line ∧ hover.startChar = token.span.1 ∧ hover.endChar = token.span.2 := by
  rw [shown?_codePoints htoken] at h
  obtain ⟨text, _, rfl⟩ := Option.map_eq_some_iff.mp h
  exact ⟨(line_of_mem_tokens htoken).symm, rfl, rfl⟩

/-- A term of a line is shown with its value, or reported. -/
theorem shownAs_term {i j c : Int} {line source content : Text} {field : Field}
    {reading : Term.Reading} {ds : List Diagnostic}
    (htoken : .term j c field reading content ∈ tokens i line)
    (hds : ∀ d ∈ (Token.term j c field reading content).diagnostics source, d ∈ ds) :
    (Token.term j c field reading content).ShownAs source line ds
      (shown? .codePoints i line (.term j c field reading content)) := by
  have hread := reading_of_mem_tokens htoken
  have hreported := Token.isReportedIn_iff hds
  rcases Term.read_eq_value_or_errors_cons field content with ⟨v, hvalue⟩ | ⟨e, es, herrors⟩
  · obtain rfl : reading = .value v := hread.trans hvalue
    have hnot : ¬Token.IsReportedIn _ source ds := hreported.not_left.mpr rfl
    refine ⟨iff_of_false nofun ?_, fun _ => stands_of_shown? htoken, ?_, nofun⟩
    · rintro (hcomment | ⟨_, _, hreport⟩)
      · cases hcomment
      · exact hnot hreport
    · intro other hpart _
      cases hpart
      exact ⟨v, hvalue, rfl⟩
  · obtain rfl : reading = .errors (e :: es) := hread.trans herrors
    have hreport := hreported.mpr (List.cons_ne_nil e es)
    refine ⟨iff_of_true rfl (Or.inr ⟨field, rfl, hreport⟩), nofun, ?_, nofun⟩
    intro _ _ hnot
    exact absurd hreport hnot

/-- A command of a line that is not empty is shown with its schedule. -/
theorem shownAs_command {i j c : Int} {line source content : Text} {ds : List Diagnostic}
    (htoken : .command j c content ∈ tokens i line) (hcontent : content ≠ []) :
    (Token.command j c content).ShownAs source line ds
      (shown? .codePoints i line (.command j c content)) := by
  obtain ⟨before, after, hline, hcount, hbefore, hafter⟩ := exists_cut_of_command htoken hcontent
  refine ⟨iff_of_false nofun ?_, fun _ => stands_of_shown? htoken, nofun, fun _ =>
    ⟨before, after, hline, hcount, ?_⟩⟩
  · rintro (hcomment | ⟨_, hterm, _⟩)
    · cases hcomment
    · cases hterm
  · rw [map_text_shown?, ← hbefore, ← hafter]
    rfl

/-- A token of a line that covers a position is shown as its line and its diagnostics say. -/
theorem shownAs_of_mem_tokens {i char : Int} {line source : Text} {token : Token}
    {ds : List Diagnostic} (htoken : token ∈ tokens i line) (hcovers : token.covers char = true)
    (hds : ∀ d ∈ token.diagnostics source, d ∈ ds) :
    token.ShownAs source line ds (shown? .codePoints i line token) := by
  cases token with
  | comment j content => exact ⟨iff_of_true rfl (Or.inl rfl), nofun, nofun, nofun⟩
  | term j c field reading content => exact shownAs_term htoken hds
  | command j c content =>
    refine shownAs_command htoken ?_
    rintro rfl
    have hspan := ((readsOff_of_mem_tokens htoken).span_of_covers hcovers).1
    simp [Token.span, Token.content] at hspan

end Line

namespace Store

/-- At every position of every open document that a token covers: hovering gives an answer, and
what it shows is read off the token, the text of its line and the diagnostics of the document. A
comment and a term to which a diagnostic belongs show nothing, and everything else shows something.
Any other term shows its field and what reading it against the field gives, and a command shows
itself and its schedule, as the two parts of the line around its fifth space. -/
theorem hover_shows (source : Text) {history : List Command} {id text : Text}
    (hopen : LastWrite history id text) {token : Token} (htoken : token ∈ tokenize text)
    {char : Int} (hcovers : token.covers char = true) :
    let store := Step.run step (empty source) history
    let line := Line.nth (Line.split text).toArray token.line
    ∃ ds shown, store.diagnostics id = .ok ds ∧
      store.tokenAt id token.line char = .ok (some token) ∧
      store.hover .codePoints id token.line char = .ok shown ∧
      token.ShownAs source line ds shown := by
  intro store line
  have hholds := hopen.holdsText source
  have hmem : token ∈ Line.tokens token.line line := mem_tokens_of_mem_tokenize htoken
  have hfind := Line.find?_covers_eq_some hmem hcovers
  have hchar : 0 ≤ char := by
    have hstart := (Line.readsOff_of_mem_tokens hmem).start_nonneg
    simp only [Token.covers, Bool.and_eq_true, decide_eq_true_eq] at hcovers
    omega
  refine ⟨_, _, hholds.diagnostics, ?_, hholds.hover .codePoints token.line char, ?_⟩
  · rw [hholds.tokenAt, ← hfind, ← onLine_tokenize_nth]
    rfl
  · have hfound : Line.found? .codePoints token.line line char = some token := by
      rw [Line.found?, Measure.fromUnits_codePoints line hchar]
      exact hfind
    have hshown : (Document.ofText text).hover? .codePoints token.line char =
        Line.shown? .codePoints token.line line token := by
      rw [Document.hover?_ofText, Document.lineText, Document.ofText, hfound, Option.bind_some]
    rw [hshown]
    refine Line.shownAs_of_mem_tokens hmem hcovers ?_
    intro d hd
    rw [diagnose, run_source]
    exact List.mem_flatMap.mpr ⟨token, htoken, hd⟩

/-- The hour of the second line is empty, and its command starts with the second of two spaces and
is followed by two more, which are not shown. -/
theorem hover_shows_doubled_spaces :
    let id := Text.ofString "tab"
    let text := Text.ofString "# top\n0  5 9 *  a b  "
    let token := Token.command 1 9 (.ofString " a b")
    let store := Step.run step (empty []) [.load id text]
    (LastWrite [.load id text] id text ∧ token ∈ tokenize text ∧ token.covers 10 = true) ∧
    ∃ ds shown, store.diagnostics id = .ok ds ∧ store.hover .codePoints id 1 10 = .ok shown ∧
      token.ShownAs [] (.ofString "0  5 9 *  a b  ") ds shown ∧
      shown.map Hover.text =
        some (.ofString "` a b` will be executed on schedule: 0  5 9 *") := by
  intro id text token store
  have hopen : LastWrite [.load id text] id text := (lastWrite_concat [] _ _ _).mpr (Or.inl rfl)
  have htoken : token ∈ tokenize text := by decide
  have hcovers : token.covers 10 = true := by decide
  obtain ⟨ds, shown, hds, _, hhover, hshownAs⟩ := hover_shows [] hopen htoken hcovers
  have hline : Line.nth (Line.split text).toArray token.line = .ofString "0  5 9 *  a b  " := by
    decide
  have hshown : store.hover .codePoints id 1 10 = .ok (some ⟨1, 9, 13, Hover.ofCommand
      (.ofString "0  5 9 *") (.ofString " a b")⟩) := by decide +kernel
  rw [hline] at hshownAs
  obtain rfl := Except.ok.inj (hshown.symm.trans hhover)
  exact ⟨⟨hopen, htoken, hcovers⟩, ds, _, hds, hshown, hshownAs, by decide⟩

end Store

end Crontab
