import Crontab.Proofs.Store.Refinement

/-!
# What a store holds for a document

A store answers every question about a document from the text that was written last under its id.
Writing or closing a document leaves all others, with what is held for them and with their order.
-/

namespace Crontab

namespace Register

variable {α : Type}

/-- What is put under a name is gone once the name is erased, and the rest is as it was. -/
theorem erase_put (r : Register α) (name : Text) (value : α) :
    (r.put name value).erase name = r.erase name := by
  unfold put
  split
  · simp only [erase, mk.injEq, List.filter_map, Function.comp_def]
    have hfilter : ∀ e : Text × α, ((if e.1 = name then (name, value) else e).1 ≠ name) ↔
        e.1 ≠ name := by
      intro e
      by_cases h : e.1 = name <;> simp [h]
    simp only [hfilter]
    refine (List.map_congr_left fun e he => ?_).trans (List.map_id _)
    have hne : e.1 ≠ name := by simpa using (List.mem_filter.mp he).2
    simp [hne]
  · simp [erase]

end Register

namespace Store

/-- Both registers of a store hold the analysis of a text under an id. -/
structure HoldsText (store : Store) (id text : Text) : Prop where
  /-- The tokens of the text. -/
  tokens : store.tokens.get? id = some (tokenize text)
  /-- The lines of the text. -/
  lines : store.lines.get? id = some (Line.split text).toArray

/-- A text that was written is held under its id. -/
theorem holdsText_write (store : Store) (id text : Text) :
    (store.write id text).HoldsText id text :=
  ⟨by simp [write, Register.get?_put], by simp [write, Register.get?_put]⟩

theorem HoldsText.tokensOf {store : Store} {id text : Text} (h : store.HoldsText id text) :
    store.tokensOf id = .ok (tokenize text) := by
  rw [Store.tokensOf, look, h.tokens]

/-- The document of a text that is held. -/
theorem HoldsText.find {store : Store} {id text : Text} (h : store.HoldsText id text) :
    store.find id = .ok (.ofText text) := by
  rw [Store.find, linesOf, h.tokensOf, look, h.lines]
  rfl

theorem HoldsText.lineText {store : Store} {id text : Text} (h : store.HoldsText id text)
    (line : Int) : store.lineText id line = .ok ((Document.ofText text).lineText line) := by
  rw [Store.lineText, linesOf, look, h.lines]
  rfl

theorem HoldsText.tokenAt {store : Store} {id text : Text} (h : store.HoldsText id text)
    (line char : Int) :
    store.tokenAt id line char = .ok ((Document.ofText text).tokenAt? line char) := by
  rw [Store.tokenAt, h.tokensOf]
  rfl

theorem HoldsText.toUnits {store : Store} {id text : Text} (h : store.HoldsText id text)
    (measure : Measure) (line char : Int) :
    store.toUnits measure id line char =
      .ok ((Document.ofText text).toUnits measure line char) := by
  rw [Store.toUnits, h.lineText]
  rfl

theorem HoldsText.fromUnits {store : Store} {id text : Text} (h : store.HoldsText id text)
    (measure : Measure) (line units : Int) :
    store.fromUnits measure id line units =
      .ok ((Document.ofText text).fromUnits measure line units) := by
  rw [Store.fromUnits, h.lineText]
  rfl

theorem HoldsText.hover {store : Store} {id text : Text} (h : store.HoldsText id text)
    (measure : Measure) (line units : Int) :
    store.hover measure id line units = .ok ((Document.ofText text).hover? measure line units) := by
  rw [Store.hover, h.find]
  rfl

theorem HoldsText.highlights {store : Store} {id text : Text} (h : store.HoldsText id text)
    (measure : Measure) :
    store.highlights measure id = .ok ((Document.ofText text).highlights measure) := by
  rw [Store.highlights, h.find]
  rfl

theorem HoldsText.diagnostics {store : Store} {id text : Text} (h : store.HoldsText id text) :
    store.diagnostics id = .ok (store.diagnose text) := by
  rw [Store.diagnostics, h.tokensOf]
  rfl

/-- After a history a store holds for a document the text that was written last. -/
theorem LastWrite.holdsText (source : Text) {history : List Command} {id text : Text}
    (h : LastWrite history id text) :
    (Step.run step (empty source) history).HoldsText id text := by
  have hkeeps := keeps_run source history
  have htext := ((agrees_replay history).get?_iff id text).mpr h
  constructor
  · rw [hkeeps.tokens, Register.get?_map, htext]
    rfl
  · rw [hkeeps.lines, Register.get?_map, htext]
    rfl

/-- Two stores hold the same for a document. -/
structure SameAt (id : Text) (store other : Store) : Prop where
  /-- The same tokens. -/
  tokens : store.tokens.get? id = other.tokens.get? id
  /-- The same lines. -/
  lines : store.lines.get? id = other.lines.get? id

theorem SameAt.refl (id : Text) (store : Store) : SameAt id store store := ⟨rfl, rfl⟩

/-- Writing one document leaves the others. -/
theorem sameAt_write (store : Store) {id other : Text} (h : id ≠ other) (text : Text) :
    SameAt id (store.write other text) store :=
  ⟨by simp [write, Register.get?_put, h], by simp [write, Register.get?_put, h]⟩

/-- Closing one document leaves the others. -/
theorem sameAt_close (store : Store) {id other : Text} (h : id ≠ other) :
    SameAt id (store.close other) store :=
  ⟨by simp [close, Register.get?_erase, h], by simp [close, Register.get?_erase, h]⟩

/-- A document without lines is not open. -/
theorem find_eq_error {store : Store} {id : Text} (h : store.lines.get? id = none) :
    store.find id = .error ⟨id⟩ := by
  rw [Store.find, linesOf, look, h]
  rfl

/-- Two stores are the same but for what they hold for one document. -/
def SameBut (id : Text) (store other : Store) : Prop := store.close id = other.close id

instance (id : Text) (store other : Store) : Decidable (SameBut id store other) :=
  inferInstanceAs (Decidable (store.close id = other.close id))

/-- Writing a document leaves the others, and their order. -/
theorem sameBut_write (store : Store) (id text : Text) :
    SameBut id store (store.write id text) := by
  simp only [SameBut, close, write, Register.erase_put]

/-- A document that is written while it is open keeps its place. -/
theorem Keeps.names_write {store : Store} {texts : Register Text} (h : store.Keeps texts)
    {id : Text} (hid : store.holds id = true) (text : Text) :
    (store.write id text).tokens.names = store.tokens.names ∧
      (store.write id text).lines.names = store.lines.names := by
  have hlines : store.lines.holds id = true := by
    rw [Register.holds_iff_mem_names, h.names_lines, ← h.names_tokens,
      ← Register.holds_iff_mem_names]
    exact hid
  rw [Store.write, Register.names_put, Register.names_put]
  exact ⟨if_pos hid, if_pos hlines⟩

/-- A document that is open is held with some text. -/
theorem Keeps.exists_holdsText {store : Store} {texts : Register Text} (h : store.Keeps texts)
    {id : Text} (hid : store.holds id = true) : ∃ text, store.HoldsText id text := by
  have hmem : id ∈ texts.names := by
    rw [← h.names_tokens, ← Register.holds_iff_mem_names]
    exact hid
  obtain ⟨text, htext⟩ := Register.exists_get?_of_mem hmem
  refine ⟨text, ?_, ?_⟩
  · rw [h.tokens, Register.get?_map, htext]
    rfl
  · rw [h.lines, Register.get?_map, htext]
    rfl

/-- Nothing is held for a document that is not open. -/
theorem Keeps.get?_eq_none {store : Store} {texts : Register Text} (h : store.Keeps texts)
    {id : Text} (hid : store.holds id = false) :
    store.tokens.get? id = none ∧ store.lines.get? id = none := by
  have hnot : id ∉ texts.names := by
    rw [← h.names_tokens, ← Register.holds_iff_mem_names]
    exact fun hheld => absurd hheld (by rw [← holds, hid]; decide)
  rw [Register.get?_eq_none_iff, Register.get?_eq_none_iff, h.names_tokens, h.names_lines]
  exact ⟨hnot, hnot⟩

end Store

end Crontab
