import Mathlib.Data.Set.List
import Crontab.Proofs.Highlight

/-!
# Canonical highlighting data

Highlighting data is canonical if it divides into groups of five whose fourth integer is an index
of the legend and whose last is zero. Canonical data is what marks are sent as: it decodes, and no
other canonical data decodes to the same marks. What tokens are sent as is the canonical data of
marks that a token can have, and those are all marks but the ones of negative length and the
comments that do not start their line.
-/

namespace Crontab.Highlight

/-- Five integers of highlighting data. -/
structure Quintuple where
  /-- The lines since the mark before. -/
  lines : Int
  /-- The columns since its start, or since the start of the line. -/
  columns : Int
  /-- The length of the mark. -/
  length : Int
  /-- The index of its kind. -/
  kind : Int
  /-- Its modifiers. -/
  modifiers : Int
  deriving DecidableEq, Repr

/-- The quintuples of a list of integers. What is left over at the end is in none. -/
def quintuples : List Int → List Quintuple
  | lines :: columns :: length :: kind :: modifiers :: rest =>
    ⟨lines, columns, length, kind, modifiers⟩ :: quintuples rest
  | _ => []

/-- Every quintuple has an index of the legend and no modifiers, and nothing is left over. -/
def IsCanonical (data : List Int) : Prop :=
  data.length % 5 = 0 ∧
    ∀ q ∈ quintuples data, (q.kind = 0 ∨ q.kind = 1 ∨ q.kind = 2) ∧ q.modifiers = 0

instance (data : List Int) : Decidable (IsCanonical data) :=
  inferInstanceAs (Decidable (_ ∧ _))

/-- The quintuple of a mark that is given relative to the one before it. -/
def Delta.quintuple (delta : Delta) : Quintuple :=
  ⟨delta.lines, delta.columns, delta.length, delta.kind.index, 0⟩

theorem quintuples_flatten (deltas : List Delta) :
    quintuples (flatten deltas) = deltas.map Delta.quintuple := by
  induction deltas with
  | nil => rfl
  | cons delta deltas ih =>
    rw [flatten, List.flatMap_cons, Delta.integers, List.map_cons, ← ih]
    rfl

theorem isCanonical_flatten (deltas : List Delta) : IsCanonical (flatten deltas) := by
  refine ⟨by rw [length_flatten]; omega, fun q hq => ?_⟩
  rw [quintuples_flatten] at hq
  obtain ⟨delta, _, rfl⟩ := List.mem_map.mp hq
  obtain ⟨_, _, _, kind⟩ := delta
  cases kind <;> simp [Delta.quintuple, Kind.index]

/-- Canonical data is made of marks given relative to one another. -/
theorem exists_flatten_of_isCanonical {data : List Int} (h : IsCanonical data) :
    ∃ deltas, flatten deltas = data := by
  fun_induction quintuples data with
  | case1 lines columns length kind modifiers rest ih =>
    obtain ⟨hlength, hall⟩ := h
    simp only [quintuples, List.mem_cons, forall_eq_or_imp] at hall
    obtain ⟨⟨hkind, rfl⟩, hrest⟩ := hall
    obtain ⟨deltas, rfl⟩ := ih ⟨by simp only [List.length_cons] at hlength; omega, hrest⟩
    obtain ⟨kind, rfl⟩ : ∃ k : Kind, (k.index : Int) = kind := by
      rcases hkind with rfl | rfl | rfl
      · exact ⟨.term, rfl⟩
      · exact ⟨.command, rfl⟩
      · exact ⟨.comment, rfl⟩
    exact ⟨⟨lines, columns, length, kind⟩ :: deltas, rfl⟩
  | case2 data hshort =>
    -- Fewer than five integers are left, and only none of them leaves nothing over.
    obtain ⟨hlength, _⟩ := h
    rcases data with _ | ⟨a, _ | ⟨b, _ | ⟨c, _ | ⟨d, _ | ⟨e, rest⟩⟩⟩⟩⟩
    · exact ⟨[], rfl⟩
    · exact absurd hlength (by decide : ¬1 % 5 = 0)
    · exact absurd hlength (by decide : ¬2 % 5 = 0)
    · exact absurd hlength (by decide : ¬3 % 5 = 0)
    · exact absurd hlength (by decide : ¬4 % 5 = 0)
    · exact (hshort a b c d e rest rfl).elim

/-- The mark at a given place behind another one. -/
def Mark.next (previous : Mark) (delta : Delta) : Mark where
  line := previous.line + delta.lines
  start := if delta.lines = 0 then previous.start + delta.columns else delta.columns
  length := delta.length
  kind := delta.kind

theorem Mark.after_next (previous : Mark) (delta : Delta) :
    previous.after (previous.next delta) = delta := by
  obtain ⟨lines, columns, length, kind⟩ := delta
  have hlines : previous.line + lines - previous.line = lines := by omega
  have hsame : previous.line + lines = previous.line ↔ lines = 0 := by omega
  have hcolumns : previous.start + columns - previous.start = columns := by omega
  by_cases hzero : lines = 0
  · simp only [after, next, hlines, hsame, if_pos hzero, hcolumns]
  · simp only [after, next, hlines, hsame, if_neg hzero]

/-- Marks can be given relative to one another in every way. -/
theorem exists_marks (previous : Mark) (deltas : List Delta) :
    ∃ marks, List.zipWith Mark.after (previous :: marks) marks = deltas := by
  induction deltas generalizing previous with
  | nil => exact ⟨[], rfl⟩
  | cons delta deltas ih =>
    obtain ⟨marks, hmarks⟩ := ih (previous.next delta)
    exact ⟨previous.next delta :: marks,
      by rw [List.zipWith_cons_cons, Mark.after_next, hmarks]⟩

/-- Canonical data is the data of some marks. -/
theorem isCanonical_iff_exists_ofMarks (data : List Int) :
    IsCanonical data ↔ ∃ marks, ofMarks marks = data := by
  constructor
  · intro h
    obtain ⟨deltas, rfl⟩ := exists_flatten_of_isCanonical h
    obtain ⟨marks, hmarks⟩ := exists_marks .origin deltas
    exact ⟨marks, congrArg flatten hmarks⟩
  · rintro ⟨marks, rfl⟩
    exact isCanonical_flatten _

/-- Different marks have different data. -/
theorem ofMarks_inj {marks other : List Mark} (h : ofMarks marks = ofMarks other) :
    marks = other := by
  have hdecoded := congrArg decode h
  rw [decode_ofMarks, decode_ofMarks] at hdecoded
  exact Except.ok.inj hdecoded

theorem Mark.report_inj {mark other : Mark} (h : mark.report = other.report) : mark = other := by
  obtain ⟨line, start, length, kind⟩ := mark
  obtain ⟨line', start', length', kind'⟩ := other
  simp only [Mark.report, Prod.mk.injEq] at h
  obtain ⟨rfl, rfl, rfl, hlabel⟩ := h
  obtain rfl : kind = kind' := by
    cases kind <;> cases kind' <;> first | rfl | exact absurd hlabel (by decide)
  rfl

/-- A mark given relative to another one keeps its length. -/
theorem map_length_after (previous : Mark) (marks : List Mark) :
    (List.zipWith Mark.after (previous :: marks) marks).map Delta.length =
      marks.map Mark.length := by
  induction marks generalizing previous with
  | nil => rfl
  | cons mark marks ih =>
    rw [List.zipWith_cons_cons, List.map_cons, ih mark]
    rfl

/-- The data of some marks has no negative length exactly when the marks have none. -/
theorem nonneg_quintuples_iff (marks : List Mark) :
    (∀ q ∈ quintuples (ofMarks marks), 0 ≤ q.length) ↔ ∀ mark ∈ marks, 0 ≤ mark.length := by
  have hmap : (quintuples (ofMarks marks)).map Quintuple.length = marks.map Mark.length := by
    rw [ofMarks, quintuples_flatten, List.map_map]
    exact map_length_after .origin marks
  have hall : (∀ n ∈ (quintuples (ofMarks marks)).map Quintuple.length, 0 ≤ n) ↔
      ∀ n ∈ marks.map Mark.length, 0 ≤ n := by
    rw [hmap]
  simpa only [List.forall_mem_map] using hall

/-- The mark of a token whose columns count code points. -/
theorem ofToken_codePoints (token : Token) :
    Mark.ofToken codePoints token =
      ⟨token.line, token.char, token.content.length, .ofToken token⟩ := by
  have hlength : token.char + (token.content.length : Int) - token.char = token.content.length := by
    omega
  simp only [Mark.ofToken, codePoints, Token.span, hlength]

/-- Some token has a mark exactly if the mark has no negative length and, as a comment, starts its
line. -/
theorem exists_ofToken_iff (mark : Mark) :
    (∃ token, Mark.ofToken codePoints token = mark) ↔
      0 ≤ mark.length ∧ (mark.kind = .comment → mark.start = 0) := by
  constructor
  · rintro ⟨token, rfl⟩
    rw [ofToken_codePoints]
    refine ⟨Int.natCast_nonneg _, fun hkind => ?_⟩
    cases token with
    | comment line content => rfl
    | term line char field reading content => exact absurd hkind nofun
    | command line char content => exact absurd hkind nofun
  · obtain ⟨line, start, length, kind⟩ := mark
    rintro ⟨hlength, hstart⟩
    obtain ⟨n, rfl⟩ := Int.eq_ofNat_of_zero_le hlength
    -- Any text of that length will do.
    obtain ⟨content, rfl⟩ : ∃ content : Text, content.length = n :=
      ⟨List.replicate n (.char ' '), List.length_replicate⟩
    cases kind with
    | comment =>
      obtain rfl : start = 0 := hstart rfl
      exact ⟨.comment line content, ofToken_codePoints _⟩
    | term => exact ⟨.term line start .minute (.errors []) content, ofToken_codePoints _⟩
    | command => exact ⟨.command line start content, ofToken_codePoints _⟩

/-- Some tokens have the data of some marks exactly if each of these is the mark of a token. -/
theorem exists_encode_iff (marks : List Mark) :
    (∃ tokens, flatten (encode codePoints tokens) = ofMarks marks) ↔
      ∀ mark ∈ marks, ∃ token, Mark.ofToken codePoints token = mark := by
  constructor
  · rintro ⟨tokens, htokens⟩ mark hmark
    obtain rfl : tokens.map (Mark.ofToken codePoints) = marks := ofMarks_inj htokens
    obtain ⟨token, _, htoken⟩ := List.mem_map.mp hmark
    exact ⟨token, htoken⟩
  · intro hall
    have hrange : marks ∈ Set.range (List.map (Mark.ofToken codePoints)) := by
      rw [Set.range_list_map]
      exact hall
    obtain ⟨tokens, rfl⟩ := hrange
    exact ⟨tokens, rfl⟩

/-- Comments are reported in column zero only exactly when the comments among the marks start
there. -/
theorem comments_report_iff (marks : List Mark) :
    (∀ line start length, (line, start, length, "comment") ∈ marks.map Mark.report → start = 0) ↔
      ∀ mark ∈ marks, mark.kind = .comment → mark.start = 0 := by
  constructor
  · intro h mark hmark hkind
    refine h mark.line mark.start mark.length (List.mem_map.mpr ⟨mark, hmark, ?_⟩)
    rw [Mark.report, hkind]
    rfl
  · intro h line start length hmem
    obtain ⟨mark, hmark, hreport⟩ := List.mem_map.mp hmem
    have hkind : mark.kind = .comment := by
      have hlabel : mark.kind.label = "comment" := congrArg (fun entry => entry.2.2.2) hreport
      cases hk : mark.kind with
      | comment => rfl
      | term => exact absurd (hk ▸ hlabel) (by decide)
      | command => exact absurd (hk ▸ hlabel) (by decide)
    rw [← h mark hmark hkind]
    exact congrArg (fun entry => entry.2.1) hreport.symm

/-- Canonical data decodes, and different canonical data decodes differently. What tokens are sent
as, at whatever lines and characters they stand, is the canonical data that has no negative length
and decodes to comments in column zero only. -/
theorem isCanonical_determined :
    (∀ data, IsCanonical data → ∃ marks, decode data = .ok marks) ∧
    (∀ data other, IsCanonical data → IsCanonical other →
      (decode data).map (List.map Mark.report) = (decode other).map (List.map Mark.report) →
        data = other) ∧
    ∀ data, (∃ tokens, flatten (encode codePoints tokens) = data) ↔
      IsCanonical data ∧ (∀ q ∈ quintuples data, 0 ≤ q.length) ∧
        ∃ entries, (decode data).map (List.map Mark.report) = .ok entries ∧
          ∀ line start length, (line, start, length, "comment") ∈ entries → start = 0 := by
  refine ⟨?_, ?_, ?_⟩
  · intro data h
    obtain ⟨marks, rfl⟩ := (isCanonical_iff_exists_ofMarks data).mp h
    exact ⟨marks, decode_ofMarks marks⟩
  · intro data other h hother heq
    obtain ⟨marks, rfl⟩ := (isCanonical_iff_exists_ofMarks data).mp h
    obtain ⟨marks', rfl⟩ := (isCanonical_iff_exists_ofMarks other).mp hother
    rw [decode_ofMarks, decode_ofMarks] at heq
    have hreports : marks.map Mark.report = marks'.map Mark.report := Except.ok.inj heq
    rw [(List.map_inj_right fun _ _ => Mark.report_inj).mp hreports]
  · intro data
    constructor
    · rintro ⟨tokens, rfl⟩
      have hall := (exists_encode_iff (tokens.map (Mark.ofToken codePoints))).mp ⟨tokens, rfl⟩
      simp only [exists_ofToken_iff] at hall
      refine ⟨isCanonical_flatten _, ?_, _, congrArg _ (decode_encode codePoints tokens), ?_⟩
      · exact (nonneg_quintuples_iff _).mpr fun mark hmark => (hall mark hmark).1
      · exact (comments_report_iff _).mpr fun mark hmark => (hall mark hmark).2
    · rintro ⟨hcanonical, hlengths, entries, hentries, hcomments⟩
      obtain ⟨marks, rfl⟩ := (isCanonical_iff_exists_ofMarks data).mp hcanonical
      rw [decode_ofMarks] at hentries
      obtain rfl := Except.ok.inj hentries
      rw [nonneg_quintuples_iff] at hlengths
      rw [comments_report_iff] at hcomments
      refine (exists_encode_iff marks).mpr fun mark hmark => ?_
      exact (exists_ofToken_iff mark).mpr ⟨hlengths mark hmark, hcomments mark hmark⟩

/-- Marks may go backwards and start left of the line, and each such list is sent in one way; but
nothing is sent as a comment behind the start of its line. -/
theorem isCanonical_determined_backwards :
    let data := [1, -4, 0, 1, 0, -1, 0, 3, 2, 0]
    let sent := flatten (encode codePoints [.command 1 (-4) [], .comment 0 (.ofString "# m")])
    (IsCanonical data ∧ IsCanonical sent ∧
      (decode data).map (List.map Mark.report) = (decode sent).map (List.map Mark.report)) ∧
    (∃ marks, decode data = .ok marks) ∧ data = sent ∧
      IsCanonical [0, 1, 3, 2, 0] ∧
        ¬∃ tokens, flatten (encode codePoints tokens) = [0, 1, 3, 2, 0] := by
  intro data sent
  have hdata : IsCanonical data := by decide
  have hsent : IsCanonical sent := by decide
  have hreports : (decode data).map (List.map Mark.report) =
      (decode sent).map (List.map Mark.report) := rfl
  obtain ⟨hdecodes, hunique, himage⟩ := isCanonical_determined
  refine ⟨⟨hdata, hsent, hreports⟩, hdecodes data hdata, hunique data sent hdata hsent hreports,
    by decide, fun htokens => ?_⟩
  obtain ⟨_, _, entries, hentries, hcomments⟩ := (himage _).mp htokens
  obtain rfl := Except.ok.inj hentries
  exact absurd (hcomments 0 1 3 (List.mem_singleton_self _)) (by decide)

end Crontab.Highlight
