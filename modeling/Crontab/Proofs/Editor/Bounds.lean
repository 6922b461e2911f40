import Crontab.Proofs.Editor.Session
import Crontab.Proofs.Place
import Crontab.Proofs.Store.Hovering

/-!
# Numbers that an editor can be told

A code point takes at most four units, and a diagnostic ends no further away than twice the text, so
the columns told about a text are bounded by its length alone. For texts of at most `2 ^ 28` code
points they stay below the largest number of a position, in every encoding, and no stretch is turned
around by the conversion. Opening or changing such a document therefore always publishes, and a
hover over it is always answered.
-/

namespace Crontab

namespace Encoding

theorem width_le_four (encoding : Encoding) (c : CodePoint) : encoding.width c ≤ 4 := by
  cases encoding with
  | utf8 =>
    cases c with
    | char c => exact c.utf8Size_le_four
    | surrogate n => exact (by decide : 3 ≤ 4)
  | utf16 =>
    simp only [width]
    split <;> omega
  | utf32 => exact (by decide : 1 ≤ 4)

theorem size_le (encoding : Encoding) (text : Text) : encoding.size text ≤ 4 * text.length := by
  induction text with
  | nil => exact le_rfl
  | cons c text ih =>
    have hwidth := encoding.width_le_four c
    rw [size_cons, List.length_cons]
    omega

/-- An offset takes no more units than four for each code point of the line and one for each
column. -/
theorem toUnits_le (encoding : Encoding) (line : Text) {char : Int} (hchar : 0 ≤ char) :
    encoding.measure.toUnits line char ≤ (4 * line.length : Nat) + char := by
  obtain ⟨n, rfl⟩ := Int.eq_ofNat_of_zero_le hchar
  have hsize := encoding.size_le (line.take n)
  rw [List.length_take] at hsize
  rw [Measure.toUnits_natCast, measure]
  omega

end Encoding

namespace Line

/-- A line of a text that is not empty has an index, and both fit into the text. -/
theorem fits_of_nth_ne_nil {text : Text} {i : Int} (h : nth (split text).toArray i ≠ []) :
    0 ≤ i ∧ i + (nth (split text).toArray i).length ≤ text.length := by
  rw [nth] at h ⊢
  split at h
  · next hi =>
    rw [if_pos hi, List.getElem?_toArray]
    rw [List.getElem?_toArray] at h
    cases hline : (split text)[i.toNat]? with
    | none => exact absurd (by rw [hline]; rfl) h
    | some line =>
      have hfits := index_add_length_le hline
      rw [Option.getD_some]
      omega
  · exact absurd rfl h

theorem length_nth_le (text : Text) (i : Int) :
    (nth (split text).toArray i).length ≤ text.length := by
  by_cases hempty : nth (split text).toArray i = []
  · rw [hempty]
    exact Nat.zero_le _
  · have hfits := fits_of_nth_ne_nil hempty
    omega

end Line

namespace Position

/-- A stretch as an editor expects it. -/
structure Range.IsSound (r : Range) : Prop where
  /-- Its four numbers can be told. -/
  inRange : r.InRange
  /-- It stays on one line. -/
  line_eq : r.start.line = r.stop.line
  /-- It does not stop before it starts. -/
  start_le_stop : r.start.character ≤ r.stop.character

/-- A stretch of a line of a text with at most `2 ^ 28` code points, which ends no further away than
twice the text, is sound in every encoding. -/
theorem isSound_toUnits (encoding : Encoding) {text : Text} (hshort : text.length ≤ 2 ^ 28)
    {i start stop : Int} (hnonneg : 0 ≤ i) (hle : i ≤ text.length) (hstart : 0 ≤ start)
    (hforward : start ≤ stop) (hstop : stop ≤ (2 * text.length : Nat)) :
    let column := (Document.ofText text).toUnits encoding.measure i
    Range.IsSound ⟨⟨i, column start⟩, ⟨i, column stop⟩⟩ := by
  intro column
  let line := Line.nth (Line.split text).toArray i
  have hlength : line.length ≤ text.length := Line.length_nth_le text i
  have hcolumns : 0 ≤ column start ∧ column start ≤ column stop := by
    have hunits := encoding.isUnits_measure
    exact ⟨hunits.toUnits_nonneg line hstart,
      (hunits.toUnits_le_iff line hstart (hstart.trans hforward)).mpr hforward⟩
  have hbound : column stop ≤ (4 * line.length : Nat) + stop :=
    encoding.toUnits_le line (hstart.trans hforward)
  -- The line adds at most four times the text and the columns twice, which stays below the limit.
  have htold : ∀ n, 0 ≤ n → n ≤ column stop → inRange n = true := by
    intro n hn hcolumn
    rw [inRange_iff, limit]
    omega
  have hline : inRange i = true := by
    rw [inRange_iff, limit]
    omega
  have hstarts := htold (column start) hcolumns.1 hcolumns.2
  have hstops := htold (column stop) (hcolumns.1.trans hcolumns.2) le_rfl
  exact ⟨⟨⟨hline, hstarts⟩, ⟨hline, hstops⟩⟩, rfl, hcolumns.2⟩

end Position

namespace Editor

/-- Every stretch in the notices for a short text is sound. -/
theorem isSound_of_mem_notices {encoding : Encoding} {source text : Text} {notice : Notice}
    (hshort : text.length ≤ 2 ^ 28) (h : notice ∈ notices encoding source text) :
    notice.range.IsSound := by
  obtain ⟨d, hd, rfl⟩ := List.mem_map.mp h
  have hreports := reports_of_mem_diagnose hd
  exact Position.isSound_toUnits encoding hshort hreports.line_nonneg hreports.line_le
    hreports.start_nonneg hreports.start_le_end hreports.end_le

/-- The stretch of every reply to a hover over a short text is sound. -/
theorem isSound_of_mem_reply? {encoding : Encoding} {text : Text} {line character : Int}
    {reply : HoverReply} (hshort : text.length ≤ 2 ^ 28)
    (h : reply ∈ reply? encoding text line character) : reply.range.IsSound := by
  obtain ⟨hover, hhover, rfl⟩ := Option.map_eq_some_iff.mp h
  rw [Document.hover?_ofText] at hhover
  obtain ⟨token, hfound, hshown⟩ := Option.bind_eq_some_iff.mp hhover
  obtain ⟨_, _, rfl⟩ := Option.map_eq_some_iff.mp hshown
  obtain ⟨htoken, hcovers⟩ := Line.covers_of_found? hfound
  have hreads := Line.readsOff_of_mem_tokens htoken
  obtain ⟨hspan, hstop⟩ := hreads.span_of_covers hcovers
  have hline : Line.nth (Line.split text).toArray line ≠ [] := by
    intro hempty
    rw [Document.lineText, Document.ofText, hempty] at htoken
    exact absurd htoken List.not_mem_nil
  have hfits := Line.fits_of_nth_ne_nil hline
  have hlength : token.span.2 ≤ (Line.nth (Line.split text).toArray line).length := hstop
  have hindex : line ≤ text.length := by omega
  have hend : token.span.2 ≤ (2 * text.length : Nat) := by omega
  exact Position.isSound_toUnits encoding hshort hfits.1 hindex hreads.start_nonneg hspan.le hend

/-- An answer publishes the diagnostics of one document, with stretches that are sound. -/
def PublishesSound (uri : Text) (answer : Except Fault Answer) : Prop :=
  ∃ notices, answer = .ok (.published [⟨uri, notices⟩]) ∧
    ∀ notice ∈ notices, notice.range.IsSound

/-- Writing a short text publishes, in every encoding. -/
theorem publishesSound_of_written (editor : Editor) {command : Command} {uri text : Text}
    (hwritten : command.written? = some (uri, text)) (hshort : text.length ≤ 2 ^ 28) :
    PublishesSound uri (editor.step command).answer := by
  have htell : CanPublish editor.encoding editor.store.source text := fun notice hnotice =>
    (isSound_of_mem_notices hshort hnotice).inRange
  obtain ⟨log, hstep⟩ := step_of_written hwritten editor
  rw [hstep, answer_write htell]
  exact ⟨_, rfl, fun notice hnotice => isSound_of_mem_notices hshort hnotice⟩

/-- In every run of a session, whatever encoding is in force, and for every text of at most `2 ^ 28`
code points: opening a document with the text publishes, and so does changing a document to it,
unless the stretch of a change cannot be told itself. A hover over a document that is open with the
text is answered at every position that can be told. All stretches that are published or answered
are sound: their numbers can be told, and each stays on one line and does not stop before it
starts. -/
theorem tells_sound (source : Text) (history : List Command) (uri text : Text)
    (hshort : text.length ≤ 2 ^ 28) :
    let editor := Step.run step (start source) history
    PublishesSound uri (editor.step (.load uri text)).answer ∧
    (∀ changes : List Change, changes.flatMap Change.text = text →
      (∀ change ∈ changes, change.IsPlaced) →
        PublishesSound uri (editor.step (.change uri changes)).answer) ∧
    (LeavesOpen history uri text → ∀ line character, Position.InRange ⟨line, character⟩ →
      ∃ reply, (editor.step (.hover uri line character)).answer = .ok (.hover reply) ∧
        ∀ shown ∈ reply, shown.range.IsSound) := by
  intro editor
  refine ⟨publishesSound_of_written editor rfl hshort, ?_, ?_⟩
  · rintro changes rfl hplaced
    exact publishesSound_of_written editor (written?_of_placed uri hplaced) hshort
  · intro hopen line character hposition
    have hsound : ∀ shown ∈ reply? editor.encoding text line character, shown.range.IsSound :=
      fun shown hshown => isSound_of_mem_reply? hshort hshown
    refine ⟨_, ?_, hsound⟩
    exact hoverAt_eq_ok (hopen.holdsText source) hposition fun shown hshown =>
      (hsound shown hshown).inRange

/-- In bytes the last of the three errors of a list stands past the end of its line, which has six
units, and is published; a change of the document publishes as well, and a hover over the minute in
front of the list is answered. -/
theorem tells_sound_past_end :
    let uri := Text.ofString "tab"
    let text := Text.ofString "7 ,,é"
    let history := [Command.negotiate [.ofString "utf-8"], .load uri text]
    let change : Change := ⟨text, some ⟨0, 0, 0, 9⟩⟩
    let editor := Step.run step (start []) history
    (text.length ≤ 2 ^ 28 ∧ [change].flatMap Change.text = text ∧ change.IsPlaced ∧
      LeavesOpen history uri text ∧ Position.InRange ⟨0, 0⟩) ∧
    (∃ notices, (editor.step (.load uri text)).answer = .ok (.published [⟨uri, notices⟩]) ∧
      (∀ notice ∈ notices, notice.range.IsSound) ∧
      notices.map Notice.range =
        [⟨⟨0, 2⟩, ⟨0, 2⟩⟩, ⟨⟨0, 4⟩, ⟨0, 4⟩⟩, ⟨⟨0, 7⟩, ⟨0, 8⟩⟩]) ∧
    PublishesSound uri (editor.step (.change uri [change])).answer ∧
    ∃ reply, (editor.step (.hover uri 0 0)).answer = .ok (.hover (some reply)) ∧
      reply.range.IsSound := by
  intro uri text history change editor
  have hshort : text.length ≤ 2 ^ 28 := by decide
  have hplaced : change.IsPlaced := by decide
  have hopen : LeavesOpen history uri text :=
    (Store.lastWrite_concat [] _ _ _).mpr (Or.inl rfl)
  have hposition : Position.InRange ⟨0, 0⟩ := by decide
  obtain ⟨⟨published, hload, hpublished⟩, hchange, hhover⟩ :=
    tells_sound [] history uri text hshort
  have hnotices : (editor.step (.load uri text)).answer =
      .ok (.published [⟨uri, notices .utf8 [] text⟩]) := by decide
  obtain rfl : notices .utf8 [] text = published := by
    cases hnotices.symm.trans hload
    rfl
  obtain ⟨answered, hanswered, hsound⟩ := hhover hopen 0 0 hposition
  have hreply : (editor.step (.hover uri 0 0)).answer =
      .ok (.hover (some ⟨Hover.ofTerm .minute (.exactly 7), ⟨⟨0, 0⟩, ⟨0, 1⟩⟩⟩)) := by decide
  refine ⟨⟨hshort, rfl, hplaced, hopen, hposition⟩, ⟨_, hload, hpublished, by decide⟩, ?_,
    _, hreply, ?_⟩
  · exact hchange [change] rfl (by simpa using hplaced)
  · cases hanswered.symm.trans hreply
    exact hsound _ rfl

end Editor

end Crontab
