import Crontab.Proofs.Editor.Publication

/-!
# Sessions with an editor

What a session does at a command is read off the commands before it: the encoding in force is what
the last negotiation chose, and the text of a document is what its last opening or change brought,
unless it was closed since. Whatever the order of the commands, opening or changing a document
publishes the notices for its new text once, closing it publishes none once, and nothing else
publishes. Questions are answered from the text of the document alone.
-/

namespace Crontab

namespace Editor

/-- The encodings that a command offers. -/
def Command.offered? : Command → Option (List Text)
  | .negotiate encodings => some encodings
  | _ => none

/-- The encoding in force after a history: what the last negotiation chose, and UTF-16 before
any. -/
def inForce (history : List Command) : Encoding :=
  ((history.filterMap Command.offered?).getLast?.map choose).getD .utf16

/-- A change names no stretch, or one whose numbers can be told. -/
def Change.IsPlaced (change : Change) : Prop := ∀ b ∈ change.bounds, b.toRange.InRange

instance (change : Change) : Decidable change.IsPlaced :=
  inferInstanceAs (Decidable (∀ b ∈ change.bounds, b.toRange.InRange))

/-- The document that a command writes and its new text, which is that of an opening, or those of
all changes one after the other. -/
def Command.written? : Command → Option (Text × Text)
  | .load uri text => some (uri, text)
  | .change uri changes =>
    if ∀ change ∈ changes, change.IsPlaced then some (uri, changes.flatMap Change.text) else none
  | _ => none

/-- A command opens, changes or closes a document. -/
def Command.Touches (uri : Text) : Command → Prop
  | .load other _ => other = uri
  | .change other _ => other = uri
  | .close other => other = uri
  | _ => False

/-- What a command asks of the store. -/
def Command.onStore? : Command → Option Store.Command
  | .load uri text => some (.load uri text)
  | .change uri changes =>
    (Command.change uri changes).written?.map fun (uri, text) => .change uri text
  | .close uri => some (.close uri)
  | _ => none

/-- What a history asks of the store. -/
def onStore (history : List Command) : List Store.Command := history.filterMap Command.onStore?

/-- A history leaves a document open with a text: that of its last write since its last close. -/
def LeavesOpen (history : List Command) (uri text : Text) : Prop :=
  Store.LastWrite (onStore history) uri text

/-- What an answer publishes. -/
def published : Except Fault Answer → List Publication
  | .ok (.published ps) => ps
  | _ => []

/-- A hover publishes nothing. -/
theorem published_hoverAt (editor : Editor) (uri : Text) (line character : Int) :
    published (editor.hoverAt uri line character) = [] := by
  rw [hoverAt]
  cases Position.make line character with
  | error fault => rfl
  | ok position =>
    simp only [Except.mapError, bind, Except.bind]
    cases editor.store.hover editor.encoding.measure uri position.line position.character with
    | error e => rfl
    | ok hover =>
      cases hover with
      | none => rfl
      | some h =>
        dsimp only
        cases HoverReply.ofHover h <;> rfl

theorem checked_eq_ok {change : Change} (h : change.IsPlaced) :
    change.checked = .ok change.text := by
  rw [Change.checked]
  cases hbounds : change.bounds with
  | none => rfl
  | some b =>
    have hrange := Position.Bounds.range_eq_ok (h b hbounds)
    simp only [hrange]
    rfl

theorem checked_eq_error {change : Change} (h : ¬change.IsPlaced) :
    ∃ fault, change.checked = .error fault := by
  rw [Change.checked]
  cases hbounds : change.bounds with
  | none => exact absurd (fun b hb => absurd (hbounds ▸ hb) nofun) h
  | some b =>
    have hrange : ¬b.toRange.InRange := by
      intro hrange
      refine h fun other hother => ?_
      obtain rfl : b = other := Option.some.inj (hbounds.symm.trans hother)
      exact hrange
    obtain ⟨fault, hfault⟩ := Position.Bounds.range_eq_error hrange
    simp only [hfault]
    exact ⟨fault, rfl⟩

/-- A command that writes a text does nothing else. -/
theorem step_of_written {command : Command} {uri text : Text}
    (h : command.written? = some (uri, text)) (editor : Editor) :
    ∃ log, editor.step command = editor.write uri text log := by
  cases command with
  | load other brought =>
    obtain ⟨rfl, rfl⟩ := Prod.mk.inj (Option.some.inj h)
    exact ⟨_, rfl⟩
  | change other changes =>
    rw [Command.written?] at h
    split at h
    · next hplaced =>
      obtain ⟨rfl, rfl⟩ := Prod.mk.inj (Option.some.inj h)
      have htexts : changes.mapM Change.checked = .ok (changes.map Change.text) :=
        mapM_eq_ok_map fun change hchange => checked_eq_ok (hplaced change hchange)
      rw [step, htexts, List.flatMap_def]
      exact ⟨_, rfl⟩
    · exact absurd h nofun
  | _ => exact absurd h nofun

/-- A change whose stretch cannot be told is refused, and nothing happens. -/
theorem step_of_unplaced (uri : Text) {changes : List Change}
    (h : ∃ change ∈ changes, ¬change.IsPlaced) (editor : Editor) :
    ∃ fault, editor.step (.change uri changes) = ⟨editor, .error (.position fault), []⟩ := by
  obtain ⟨change, hchange, hplaced⟩ := h
  obtain ⟨fault, hfault⟩ := mapM_eq_error ⟨change, hchange, checked_eq_error hplaced⟩
  rw [step, hfault]
  exact ⟨fault, rfl⟩

/-- A change of which every stretch can be told, or one of which some cannot. -/
theorem placed_or_unplaced (changes : List Change) :
    (∀ change ∈ changes, change.IsPlaced) ∨ ∃ change ∈ changes, ¬change.IsPlaced := by
  by_cases h : ∀ change ∈ changes, change.IsPlaced
  · exact Or.inl h
  · exact Or.inr (by simpa using h)

theorem written?_of_placed (uri : Text) {changes : List Change}
    (h : ∀ change ∈ changes, change.IsPlaced) :
    (Command.change uri changes).written? = some (uri, changes.flatMap Change.text) :=
  if_pos h

theorem written?_of_unplaced (uri : Text) {changes : List Change}
    (h : ∃ change ∈ changes, ¬change.IsPlaced) : (Command.change uri changes).written? = none := by
  obtain ⟨change, hchange, hplaced⟩ := h
  exact if_neg fun hall => hplaced (hall change hchange)

/-- A command does to the documents what it asks of the store. -/
theorem step_store (editor : Editor) (command : Command) :
    (editor.step command).state.store =
      match command.onStore? with
      | some asked => (editor.store.step asked).state
      | none => editor.store := by
  cases command with
  | change uri changes =>
    rcases placed_or_unplaced changes with hplaced | hplaced
    · have hwritten := written?_of_placed uri hplaced
      obtain ⟨log, hstep⟩ := step_of_written hwritten editor
      rw [hstep, Command.onStore?, hwritten]
      rfl
    · obtain ⟨fault, hstep⟩ := step_of_unplaced uri hplaced editor
      rw [hstep, Command.onStore?, written?_of_unplaced uri hplaced]
      rfl
  | _ => rfl

/-- Only a negotiation sets the encoding. -/
theorem step_encoding (editor : Editor) (command : Command) :
    (editor.step command).state.encoding =
      match command.offered? with
      | some encodings => choose encodings
      | none => editor.encoding := by
  cases command with
  | change uri changes =>
    rcases placed_or_unplaced changes with hplaced | hplaced
    · obtain ⟨log, hstep⟩ := step_of_written (written?_of_placed uri hplaced) editor
      rw [hstep]
      rfl
    · obtain ⟨fault, hstep⟩ := step_of_unplaced uri hplaced editor
      rw [hstep]
      rfl
  | _ => rfl

/-- The documents of a session are those of a store that is asked the same. -/
theorem run_store (source : Text) (history : List Command) :
    (Step.run step (start source) history).store =
      Step.run Store.step (Store.empty source) (onStore history) := by
  induction history using List.reverseRecOn with
  | nil => rfl
  | append_singleton history command ih =>
    have honStore : onStore (history ++ [command]) =
        onStore history ++ command.onStore?.toList := by
      rw [onStore, List.filterMap_append]
      cases hasked : command.onStore? <;> simp [hasked, onStore]
    rw [Step.run_concat, step_store, ih, honStore]
    cases command.onStore? with
    | none => simp
    | some asked => exact (Step.run_concat _ _ _ asked).symm

/-- The encoding of a session is the one in force. -/
theorem run_encoding (source : Text) (history : List Command) :
    (Step.run step (start source) history).encoding = inForce history := by
  induction history using List.reverseRecOn with
  | nil => rfl
  | append_singleton history command ih =>
    rw [Step.run_concat, step_encoding, ih, inForce, inForce, List.filterMap_append]
    cases hoffered : command.offered? with
    | none => simp [hoffered]
    | some encodings => simp [hoffered]

theorem run_source (source : Text) (history : List Command) :
    (Step.run step (start source) history).store.source = source := by
  rw [run_store, Store.run_source]
  rfl

/-- A session holds the text of each document that its history leaves open. -/
theorem LeavesOpen.holdsText {history : List Command} {uri text : Text}
    (h : LeavesOpen history uri text) (source : Text) :
    (Step.run step (start source) history).store.HoldsText uri text := by
  have hkeeps := Store.keeps_run source (onStore history)
  have htext := ((Store.agrees_replay (onStore history)).get?_iff uri text).mpr h
  rw [run_store]
  constructor
  · rw [hkeeps.tokens, Register.get?_map, htext]
    rfl
  · rw [hkeeps.lines, Register.get?_map, htext]
    rfl

/-- A session holds nothing for a document that its history does not leave open. -/
theorem get?_of_not_leavesOpen {history : List Command} {uri : Text}
    (h : ∀ text, ¬LeavesOpen history uri text) (source : Text) :
    (Step.run step (start source) history).store.lines.get? uri = none := by
  have hkeeps := Store.keeps_run source (onStore history)
  have hagrees := Store.agrees_replay (onStore history)
  have hnone : (Store.replay (onStore history)).get? uri = none := by
    by_contra hsome
    obtain ⟨text, htext⟩ := Option.ne_none_iff_exists'.mp hsome
    exact h text ((hagrees.get?_iff uri text).mp htext)
  rw [run_store, hkeeps.lines, Register.get?_map, hnone]
  rfl

/-- A command that does not touch a document leaves what is held for it. -/
theorem step_frame (editor : Editor) {command : Command} {uri : Text}
    (h : ¬command.Touches uri) :
    (editor.step command).state.store.SameAt uri editor.store := by
  rw [step_store]
  cases command with
  | load other text => exact Store.sameAt_write _ (fun heq => h heq.symm) text
  | change other changes =>
    rcases placed_or_unplaced changes with hplaced | hplaced
    · rw [Command.onStore?, written?_of_placed other hplaced]
      exact Store.sameAt_write _ (fun heq => h heq.symm) _
    · rw [Command.onStore?, written?_of_unplaced other hplaced]
      exact .refl _ _
  | close other => exact Store.sameAt_close _ (fun heq => h heq.symm)
  | _ => exact .refl _ _

/-- A command that touches no document publishes nothing. -/
theorem published_of_not_touches (editor : Editor) {command : Command}
    (h : ∀ uri, ¬command.Touches uri) : published (editor.step command).answer = [] := by
  cases command with
  | load uri text => exact absurd rfl (h uri)
  | change uri changes => exact absurd rfl (h uri)
  | close uri => exact absurd rfl (h uri)
  | hover uri line character => exact published_hoverAt editor uri line character
  | highlights uri =>
    rw [step, highlightsOf]
    cases editor.store.highlights editor.encoding.measure uri <;> rfl
  | _ => rfl

/-- What a session does at a command after a history. -/
structure Serves (source : Text) (history : List Command) (command : Command)
    (before : Editor) (taken : Step Editor (Except Fault Answer)) : Prop where
  /-- The encoding is the one in force. -/
  encoding : before.encoding = inForce history
  /-- Only a negotiation changes the encoding. -/
  encoding_kept : command.offered? = none → taken.state.encoding = before.encoding
  /-- What is held for a document that the history leaves open is the analysis of its text. -/
  held : ∀ uri text, LeavesOpen history uri text → before.store.HoldsText uri text
  /-- Only opening, changing or closing a document changes what is held for it. -/
  held_kept : ∀ uri, ¬command.Touches uri → taken.state.store.SameAt uri before.store
  /-- Opening or changing a document publishes the notices for its new text, once. -/
  write : ∀ uri text, command.written? = some (uri, text) →
    CanPublish (inForce history) source text →
      taken.answer = .ok (.published [⟨uri, notices (inForce history) source text⟩])
  /-- A change that names a stretch whose numbers cannot be told is refused. -/
  refuse : ∀ uri changes, command = .change uri changes → command.written? = none →
    taken.state = before ∧ ∃ fault, taken.answer = .error (.position fault)
  /-- Closing a document publishes that it has no diagnostics, once, whether or not it was open. -/
  close : ∀ uri, command = .close uri → taken.answer = .ok (.published [⟨uri, []⟩])
  /-- Nothing else publishes. -/
  silent : (∀ uri, ¬command.Touches uri) → published taken.answer = []
  /-- A hover over a document that is open is answered from its text. -/
  hover : ∀ uri text line character, command = .hover uri line character →
    LeavesOpen history uri text → Position.InRange ⟨line, character⟩ →
      (∀ reply ∈ reply? (inForce history) text line character, reply.range.InRange) →
        taken.answer = .ok (.hover (reply? (inForce history) text line character))
  /-- The highlighting data of a document that is open is that of its text. -/
  highlights : ∀ uri text, command = .highlights uri → LeavesOpen history uri text →
    taken.answer =
      .ok (.highlights ((Document.ofText text).highlights (inForce history).measure))
  /-- A question about a document that is not open fails. -/
  notOpen : ∀ uri, (∀ text, ¬LeavesOpen history uri text) →
    (command = .highlights uri → taken.answer = .error (.notOpen ⟨uri⟩)) ∧
      ∀ line character, command = .hover uri line character →
        Position.InRange ⟨line, character⟩ → taken.answer = .error (.notOpen ⟨uri⟩)

/-- A session serves every command as its history asks. -/
theorem serves_run (source : Text) (history : List Command) (command : Command) :
    Serves source history command (Step.run step (start source) history)
      ((Step.run step (start source) history).step command) := by
  have hencoding := run_encoding source history
  have hsource := run_source source history
  constructor
  · exact hencoding
  · intro hoffered
    rw [step_encoding, hoffered]
  · intro uri text hopen
    exact hopen.holdsText source
  · intro uri htouches
    exact step_frame _ htouches
  · intro uri text hwritten htell
    obtain ⟨log, hstep⟩ := step_of_written hwritten (Step.run step (start source) history)
    have htell' : CanPublish (Step.run step (start source) history).encoding
        (Step.run step (start source) history).store.source text := by
      rw [hencoding, hsource]
      exact htell
    rw [hstep, answer_write htell', hencoding, hsource]
  · rintro uri changes rfl hwritten
    rcases placed_or_unplaced changes with hplaced | hplaced
    · rw [written?_of_placed uri hplaced] at hwritten
      exact absurd hwritten nofun
    · obtain ⟨fault, hstep⟩ := step_of_unplaced uri hplaced (Step.run step (start source) history)
      rw [hstep]
      exact ⟨rfl, fault, rfl⟩
  · rintro uri rfl
    rfl
  · intro htouches
    exact published_of_not_touches _ htouches
  · rintro uri text line character rfl hopen hposition hreply
    rw [← hencoding] at hreply ⊢
    exact hoverAt_eq_ok (hopen.holdsText source) hposition hreply
  · rintro uri text rfl hopen
    rw [← hencoding]
    exact highlightsOf_eq_ok (hopen.holdsText source)
  · intro uri hclosed
    have hnone := get?_of_not_leavesOpen hclosed source
    constructor
    · rintro rfl
      exact highlightsOf_eq_error hnone
    · rintro line character rfl hposition
      exact hoverAt_eq_error hnone hposition

/-- In every run of a session, whatever commands come before and after, the step at a command is the
one that the commands before it ask for. -/
theorem trace_serves (source : Text) (before : List Command) (command : Command)
    (after : List Command) :
    ∃ taken, (Step.trace step (start source) (before ++ command :: after))[before.length]? =
        some taken ∧
      Serves source before command (Step.run step (start source) before) taken := by
  refine ⟨_, ?_, serves_run source before command⟩
  rw [Step.getElem?_trace, List.getElem?_append_right (Nat.le_refl _), Nat.sub_self,
    List.take_left]
  rfl

end Editor

end Crontab
