import Crontab.Editor
import Crontab.Proofs.Store.Held

/-!
# What an editor is told about a text

The notices for a text are its diagnostics with their columns in the units of the editor, and the
reply to a hover is what the text alone shows, in the same units. A session whose store holds the
text tells exactly these, as long as every number can be told; a document that is not open makes a
question fail.
-/

namespace Crontab

namespace Position

theorem inRange_iff (n : Int) : inRange n = true ↔ 0 ≤ n ∧ n ≤ limit := by
  simp [inRange]

/-- Both numbers of a place can be told. -/
def InRange (p : Position) : Prop := inRange p.line = true ∧ inRange p.character = true

instance (p : Position) : Decidable p.InRange := inferInstanceAs (Decidable (_ ∧ _))

/-- All four numbers of a stretch can be told. -/
def Range.InRange (r : Range) : Prop := r.start.InRange ∧ r.stop.InRange

instance (r : Range) : Decidable r.InRange := inferInstanceAs (Decidable (_ ∧ _))

/-- The stretch between the numbers of some bounds. -/
def Bounds.toRange (b : Bounds) : Range := ⟨⟨b.startLine, b.startChar⟩, ⟨b.endLine, b.endChar⟩⟩

theorem make_eq_ok {line character : Int} (h : InRange ⟨line, character⟩) :
    make line character = .ok ⟨line, character⟩ := by
  simp [make, h.1, h.2]

/-- Numbers that cannot be told make no position. -/
theorem make_eq_error {line character : Int} (h : ¬InRange ⟨line, character⟩) :
    ∃ fault, make line character = .error fault := by
  rw [InRange, Classical.not_and_iff_not_or_not] at h
  rw [make]
  split
  · exact ⟨_, rfl⟩
  split
  · exact ⟨_, rfl⟩
  · simp_all

/-- Bounds in range give the stretch between them. -/
theorem Bounds.range_eq_ok {b : Bounds} (h : b.toRange.InRange) : b.range = .ok b.toRange := by
  rw [Bounds.range, make_eq_ok h.1, make_eq_ok h.2]
  rfl

theorem onLine_eq_ok {line startChar endChar : Int}
    (h : Range.InRange ⟨⟨line, startChar⟩, ⟨line, endChar⟩⟩) :
    onLine line startChar endChar = .ok ⟨⟨line, startChar⟩, ⟨line, endChar⟩⟩ :=
  Bounds.range_eq_ok h

/-- Bounds out of range give no stretch. -/
theorem Bounds.range_eq_error {b : Bounds} (h : ¬b.toRange.InRange) :
    ∃ fault, b.range = .error fault := by
  rw [Bounds.range]
  by_cases hstart : InRange ⟨b.startLine, b.startChar⟩
  · obtain ⟨fault, hfault⟩ := make_eq_error fun hstop => h ⟨hstart, hstop⟩
    rw [make_eq_ok hstart, hfault]
    exact ⟨fault, rfl⟩
  · obtain ⟨fault, hfault⟩ := make_eq_error hstart
    rw [hfault]
    exact ⟨fault, rfl⟩

end Position

/-- A map that fails nowhere gives the list of its values. -/
theorem mapM_eq_ok_map {α β ε : Type} {f : α → Except ε β} {g : α → β} {xs : List α}
    (h : ∀ x ∈ xs, f x = .ok (g x)) : xs.mapM f = .ok (xs.map g) := by
  induction xs with
  | nil => rfl
  | cons x xs ih =>
    rw [List.mapM_cons, h x (List.mem_cons_self ..),
      ih fun y hy => h y (List.mem_cons_of_mem _ hy)]
    rfl

/-- A map that fails somewhere fails. -/
theorem mapM_eq_error {α β ε : Type} {f : α → Except ε β} {xs : List α}
    (h : ∃ x ∈ xs, ∃ e, f x = .error e) : ∃ e, xs.mapM f = .error e := by
  induction xs with
  | nil => simp at h
  | cons x xs ih =>
    rw [List.mapM_cons]
    cases hx : f x with
    | error e => exact ⟨e, rfl⟩
    | ok y =>
      have hrest : ∃ z ∈ xs, ∃ e, f z = .error e := by simpa [hx] using h
      obtain ⟨e, he⟩ := ih hrest
      rw [he]
      exact ⟨e, rfl⟩

namespace Editor

/-- A diagnostic of a text as an editor is told it that counts in an encoding. -/
def Notice.ofText (encoding : Encoding) (text : Text) (d : Diagnostic) : Notice :=
  let column := (Document.ofText text).toUnits encoding.measure d.line
  { range := ⟨⟨d.line, column d.startChar⟩, ⟨d.line, column d.endChar⟩⟩
    message := d.message
    severity := .error
    source := d.source }

/-- What an editor is told about a text. -/
def notices (encoding : Encoding) (source text : Text) : List Notice :=
  (diagnose source (tokenize text)).map (Notice.ofText encoding text)

/-- A hover text as an editor is told it. -/
def HoverReply.of (h : Hover) : HoverReply :=
  ⟨h.text, ⟨⟨h.line, h.startChar⟩, ⟨h.line, h.endChar⟩⟩⟩

/-- What an editor is told for a position of a text. -/
def reply? (encoding : Encoding) (text : Text) (line character : Int) : Option HoverReply :=
  ((Document.ofText text).hover? encoding.measure line character).map HoverReply.of

/-- Every number in the notices for a text can be told. -/
def CanPublish (encoding : Encoding) (source text : Text) : Prop :=
  ∀ notice ∈ notices encoding source text, notice.range.InRange

/-- Every diagnostic of a document is an error of the source that signs it. -/
theorem severity_of_mem_diagnose {source : Text} {tokens : List Token} {d : Diagnostic}
    (h : d ∈ diagnose source tokens) : d.severity = .error := by
  obtain ⟨token, _, hd⟩ := List.mem_flatMap.mp h
  obtain ⟨e, _, rfl⟩ := List.mem_map.mp hd
  rfl

/-- A session that holds a text publishes its notices. -/
theorem publication_eq_ok {editor : Editor} {uri text : Text}
    (hheld : editor.store.HoldsText uri text) {source : Text}
    (htell : CanPublish editor.encoding source text) :
    editor.publication uri (diagnose source (tokenize text)) =
      .ok ⟨uri, notices editor.encoding source text⟩ := by
  have hnotice : ∀ d ∈ diagnose source (tokenize text), (do
      let d ← (editor.inUnits uri d).mapError Fault.notOpen
      (Notice.ofDiagnostic d).mapError Fault.position) =
        .ok (Notice.ofText editor.encoding text d) := by
    intro d hd
    have hrange := htell _ (List.mem_map_of_mem hd)
    have hunits : editor.inUnits uri d = .ok { d with
        startChar := (Document.ofText text).toUnits editor.encoding.measure d.line d.startChar
        endChar := (Document.ofText text).toUnits editor.encoding.measure d.line d.endChar } := by
      rw [inUnits, hheld.toUnits, hheld.toUnits]
      rfl
    rw [hunits]
    change (Notice.ofDiagnostic _).mapError Fault.position = _
    rw [Notice.ofDiagnostic, Position.onLine_eq_ok hrange, Notice.ofText,
      ← severity_of_mem_diagnose hd]
    rfl
  rw [publication, mapM_eq_ok_map hnotice]
  rfl

/-- Writing a text publishes its notices. -/
theorem answer_write {editor : Editor} {text : Text}
    (htell : CanPublish editor.encoding editor.store.source text) (uri : Text)
    (log : List Log.Record) :
    (editor.write uri text log).answer =
      .ok (.published [⟨uri, notices editor.encoding editor.store.source text⟩]) := by
  -- What is published is read back from the store that has just been written.
  let state : Editor := { editor with store := editor.store.write uri text }
  have hheld : state.store.HoldsText uri text := Store.holdsText_write editor.store uri text
  have hpublication : state.publication uri (diagnose editor.store.source (tokenize text)) =
      .ok ⟨uri, notices editor.encoding editor.store.source text⟩ := publication_eq_ok hheld htell
  rw [write, Store.diagnose, hpublication]
  rfl

/-- At a position that can be told, a hover fails or is answered as the store fails or answers. -/
theorem hoverAt_eq (editor : Editor) (uri : Text) {line character : Int}
    (hposition : Position.InRange ⟨line, character⟩) :
    editor.hoverAt uri line character =
      match editor.store.hover editor.encoding.measure uri line character with
      | .error e => .error (.notOpen e)
      | .ok none => .ok (.hover none)
      | .ok (some h) =>
        ((HoverReply.ofHover h).mapError .position).map fun reply => .hover (some reply) := by
  rw [hoverAt, Position.make_eq_ok hposition]
  cases hhover : editor.store.hover editor.encoding.measure uri line character with
  | error e =>
    simp only [Except.mapError, bind, Except.bind, hhover]
  | ok hover =>
    simp only [Except.mapError, bind, Except.bind, hhover]
    cases hover with
    | none => rfl
    | some h => cases HoverReply.ofHover h <;> rfl

/-- A session that holds a text answers a hover as the text does. -/
theorem hoverAt_eq_ok {editor : Editor} {uri text : Text}
    (hheld : editor.store.HoldsText uri text) {line character : Int}
    (hposition : Position.InRange ⟨line, character⟩)
    (hreply : ∀ reply ∈ reply? editor.encoding text line character, reply.range.InRange) :
    editor.hoverAt uri line character =
      .ok (.hover (reply? editor.encoding text line character)) := by
  rw [editor.hoverAt_eq uri hposition, hheld.hover]
  rw [reply?] at hreply ⊢
  cases hhover : (Document.ofText text).hover? editor.encoding.measure line character with
  | none => rfl
  | some h =>
    rw [hhover] at hreply
    have hrange := hreply _ rfl
    simp only [HoverReply.ofHover, Position.onLine_eq_ok hrange]
    rfl

/-- A session that holds a text answers with its highlighting data. -/
theorem highlightsOf_eq_ok {editor : Editor} {uri text : Text}
    (hheld : editor.store.HoldsText uri text) :
    editor.highlightsOf uri =
      .ok (.highlights ((Document.ofText text).highlights editor.encoding.measure)) := by
  rw [highlightsOf, hheld.highlights]
  rfl

/-- A question about a document that is not open fails. -/
theorem highlightsOf_eq_error {editor : Editor} {uri : Text}
    (hclosed : editor.store.lines.get? uri = none) :
    editor.highlightsOf uri = .error (.notOpen ⟨uri⟩) := by
  rw [highlightsOf, Store.highlights, Store.find_eq_error hclosed]
  rfl

theorem hoverAt_eq_error {editor : Editor} {uri : Text}
    (hclosed : editor.store.lines.get? uri = none) {line character : Int}
    (hposition : Position.InRange ⟨line, character⟩) :
    editor.hoverAt uri line character = .error (.notOpen ⟨uri⟩) := by
  rw [editor.hoverAt_eq uri hposition, Store.hover, Store.find_eq_error hclosed]
  rfl

end Editor

end Crontab
