import Mathlib.Data.List.Forall2
import Crontab.Proofs.Store.History

/-!
# A store as an insertion-ordered map of texts

A store keeps tokens and lines in two registers. After every history both are what one register of
texts gives, text by text, so they hold the same documents in the same order, and every question is
answered as the text alone would answer it. The register of texts is what the history leaves open.
-/

namespace Crontab

/-- The summary that a text alone gives. -/
def Summary.ofText (id text : Text) : Summary :=
  let doc := Document.ofText text
  { id, lines := doc.lineCount, tokens := doc.tokens.length, errors := doc.errorCount }

namespace Store

/-- The answer that one document gives to a question. -/
def Query.ofDocument (source : Text) (doc : Document) : Query → Answer
  | .tokens => .tokens doc.tokens
  | .lineTokens line => .tokens (doc.lineTokens line)
  | .lineText line => .text (doc.lineText line)
  | .toUnits measure line char => .offset (doc.toUnits measure line char)
  | .fromUnits measure line units => .offset (doc.fromUnits measure line units)
  | .tokenAt line char => .token (doc.tokenAt? line char)
  | .hover measure line units => .hover (doc.hover? measure line units)
  | .diagnostics => .diagnostics (doc.diagnostics source)
  | .highlights measure => .highlights (doc.highlights measure)

/-- The answer that a text alone gives to a question. -/
def Query.ofText (source text : Text) (query : Query) : Answer :=
  query.ofDocument source (.ofText text)

/-- Both registers of a store are the analyses of the same texts. -/
structure Keeps (store : Store) (texts : Register Text) : Prop where
  /-- The tokens of each text. -/
  tokens : store.tokens = texts.map tokenize
  /-- The lines of each text. -/
  lines : store.lines = texts.map fun text => (Line.split text).toArray

/-- A fresh store keeps no text. -/
theorem keeps_empty (source : Text) : (empty source).Keeps .empty := ⟨rfl, rfl⟩

/-- Writing a text writes it to both registers. -/
theorem Keeps.write {store : Store} {texts : Register Text} (h : store.Keeps texts)
    (id text : Text) : (store.write id text).Keeps (texts.put id text) := by
  constructor
  · rw [Register.map_put, ← h.tokens]
    rfl
  · rw [Register.map_put, ← h.lines]
    rfl

/-- Closing a document takes it out of both registers. -/
theorem Keeps.close {store : Store} {texts : Register Text} (h : store.Keeps texts)
    (id : Text) : (store.close id).Keeps (texts.erase id) := by
  constructor
  · rw [Register.map_erase, ← h.tokens]
    rfl
  · rw [Register.map_erase, ← h.lines]
    rfl

/-- Every command does to the store what it does to the texts. -/
theorem Keeps.step {store : Store} {texts : Register Text} (h : store.Keeps texts)
    (command : Command) : (store.step command).state.Keeps (command.onTexts texts) := by
  cases command with
  | load id text => exact h.write id text
  | change id text => exact h.write id text
  | close id => exact h.close id
  | holds id => exact h
  | ask id query => exact h
  | list => exact h

/-- No command changes who signs the diagnostics. -/
theorem step_source (store : Store) (command : Command) :
    (store.step command).state.source = store.source := by
  cases command <;> rfl

theorem run_source (store : Store) (history : List Command) :
    (Step.run step store history).source = store.source := by
  induction history using List.reverseRecOn with
  | nil => rfl
  | append_singleton history command ih => rw [Step.run_concat, step_source, ih]

/-- After every history a store keeps the texts that the history leaves open. -/
theorem keeps_run (source : Text) (history : List Command) :
    (Step.run step (empty source) history).Keeps (replay history) := by
  induction history using List.reverseRecOn with
  | nil => exact keeps_empty source
  | append_singleton history command ih =>
    rw [Step.run_concat, replay_concat]
    exact ih.step command

theorem Keeps.names_tokens {store : Store} {texts : Register Text} (h : store.Keeps texts) :
    store.tokens.names = texts.names := by
  rw [h.tokens, Register.names_map]

theorem Keeps.names_lines {store : Store} {texts : Register Text} (h : store.Keeps texts) :
    store.lines.names = texts.names := by
  rw [h.lines, Register.names_map]

/-- Where both registers give the parts of one document, or fail alike, every question is answered
by that document or fails with them, whichever register it reads. -/
theorem answer_eq {store : Store} {id : Text} (found : Except NotOpen Document)
    (htokens : store.tokensOf id = found.map Document.tokens)
    (hlines : store.linesOf id = found.map Document.lines) (query : Query) :
    store.answer id query = found.map (query.ofDocument store.source) := by
  have hdoc : store.find id = found := by
    rw [find, htokens, hlines]
    cases found <;> rfl
  cases query with
  | tokens => rw [answer, htokens]; cases found <;> rfl
  | lineTokens line => rw [answer, lineTokens, htokens]; cases found <;> rfl
  | lineText line => rw [answer, lineText, hlines]; cases found <;> rfl
  | toUnits measure line char => rw [answer, toUnits, lineText, hlines]; cases found <;> rfl
  | fromUnits measure line units => rw [answer, fromUnits, lineText, hlines]; cases found <;> rfl
  | tokenAt line char => rw [answer, tokenAt, htokens]; cases found <;> rfl
  | hover measure line units => rw [answer, hover, hdoc]; cases found <;> rfl
  | diagnostics => rw [answer, diagnostics, htokens]; cases found <;> rfl
  | highlights measure => rw [answer, highlights, hdoc]; cases found <;> rfl

/-- Every question about an open document is answered as its text alone answers it. -/
theorem Keeps.answer {store : Store} {texts : Register Text} (h : store.Keeps texts)
    {id text : Text} (hid : texts.get? id = some text) (query : Query) :
    store.answer id query = .ok (query.ofText store.source text) := by
  apply answer_eq (.ok (.ofText text))
  · rw [tokensOf, look, h.tokens, Register.get?_map, hid]
    rfl
  · rw [linesOf, look, h.lines, Register.get?_map, hid]
    rfl

/-- Every question about a document that is not open fails. -/
theorem Keeps.answer_error {store : Store} {texts : Register Text} (h : store.Keeps texts)
    {id : Text} (hid : texts.get? id = none) (query : Query) :
    store.answer id query = .error ⟨id⟩ := by
  apply answer_eq (.error ⟨id⟩)
  · rw [tokensOf, look, h.tokens, Register.get?_map, hid]
    rfl
  · rw [linesOf, look, h.lines, Register.get?_map, hid]
    rfl

/-- The summaries of the open documents are those of their texts, in order of opening. -/
theorem Keeps.summaries {store : Store} {texts : Register Text} (h : store.Keeps texts)
    (hnodup : texts.names.Nodup) :
    store.summaries = texts.entries.map fun (id, text) => Summary.ofText id text := by
  rw [Store.summaries, h.tokens, h.lines, Register.entries_map, List.map_map]
  apply List.map_congr_left
  rintro ⟨id, text⟩ he
  simp only [Function.comp_apply, Register.get?_map, Register.get?_of_mem_entries hnodup he]
  rfl

/-- A store is an insertion-ordered map of the texts that a history leaves open, seen through the
analysis of each text. -/
structure Refines (source : Text) (history : List Command) (store : Store) : Prop where
  /-- Both registers hold the same documents in the same order. -/
  names_eq : store.lines.names = store.tokens.names
  /-- No document is held twice. -/
  nodup : store.tokens.names.Nodup
  /-- The documents held are those written since their last close. -/
  mem_iff : ∀ id, id ∈ store.tokens.names ↔ ∃ i text, WrittenAt history id i text
  /-- They stand in the order of the first write since that close. -/
  ordered : store.tokens.names.Pairwise fun a b =>
    ∃ i j, i < j ∧ FirstWrite history a i ∧ FirstWrite history b j
  /-- Each document held has been written last with some text. -/
  written : ∀ id ∈ store.tokens.names, ∃ text, LastWrite history id text
  /-- Held for it are the tokens of that text. -/
  tokens : ∀ id text, LastWrite history id text → store.tokens.get? id = some (tokenize text)
  /-- Held for it are the lines of that text. -/
  lines : ∀ id text, LastWrite history id text →
    store.lines.get? id = some (Line.split text).toArray
  /-- Every question about it is answered as that text alone answers it. -/
  answer : ∀ id text, LastWrite history id text → ∀ query,
    (store.step (.ask id query)).answer = .ok (query.ofText source text)
  /-- A question about a document fails exactly when the document is not held. -/
  fails_iff : ∀ id query, (store.step (.ask id query)).answer = .error ⟨id⟩ ↔
    id ∉ store.tokens.names
  /-- A document is said to be open exactly when it is held. -/
  holds : ∀ id, (store.step (.holds id)).answer = .ok (.flag (decide (id ∈ store.tokens.names)))
  /-- The list has one summary for each document held, in order, which its text alone gives. -/
  list : ∃ summaries, (store.step .list).answer = .ok (.summaries summaries) ∧
    List.Forall₂ (fun id summary => ∃ text, LastWrite history id text ∧
      summary = Summary.ofText id text) store.tokens.names summaries
  /-- No question changes the store. -/
  unchanged : (∀ id query, (store.step (.ask id query)).state = store) ∧
    (∀ id, (store.step (.holds id)).state = store) ∧ (store.step .list).state = store

/-- Every run of commands from a fresh store refines the insertion-ordered map of texts that the
same commands leave open. -/
theorem run_refines (source : Text) (history : List Command) :
    Refines source history (Step.run step (empty source) history) := by
  have hkeeps := keeps_run source history
  have hagrees := agrees_replay history
  have hsource : (Step.run step (empty source) history).source = source :=
    run_source (empty source) history
  have hnames := hkeeps.names_tokens
  constructor
  · rw [hkeeps.names_lines, hnames]
  · rw [hnames]
    exact hagrees.nodup
  · intro id
    rw [hnames]
    exact hagrees.mem_iff id
  · rw [hnames]
    exact hagrees.ordered
  · intro id hid
    rw [hnames] at hid
    obtain ⟨text, htext⟩ := Register.exists_get?_of_mem hid
    exact ⟨text, (hagrees.get?_iff id text).mp htext⟩
  · intro id text hlast
    rw [hkeeps.tokens, Register.get?_map, (hagrees.get?_iff id text).mpr hlast]
    rfl
  · intro id text hlast
    rw [hkeeps.lines, Register.get?_map, (hagrees.get?_iff id text).mpr hlast]
    rfl
  · intro id text hlast query
    have hanswer := hkeeps.answer ((hagrees.get?_iff id text).mpr hlast) query
    rwa [hsource] at hanswer
  · intro id query
    rw [hnames, ← Register.get?_eq_none_iff]
    constructor
    · intro herror
      by_contra hsome
      obtain ⟨text, htext⟩ := Option.ne_none_iff_exists'.mp hsome
      have hanswer := hkeeps.answer htext query
      cases herror.symm.trans hanswer
    · intro hnone
      exact hkeeps.answer_error hnone query
  · intro id
    change Except.ok (Answer.flag (Register.holds _ id)) = _
    rw [Register.holds_eq_decide]
  · refine ⟨_, rfl, ?_⟩
    rw [hkeeps.summaries hagrees.nodup, hnames, Register.names, List.forall₂_map_left_iff,
      List.forall₂_map_right_iff, List.forall₂_same]
    rintro ⟨id, text⟩ he
    exact ⟨text, (hagrees.get?_iff id text).mp (Register.get?_of_mem_entries hagrees.nodup he), rfl⟩
  · exact ⟨fun _ _ => rfl, fun _ => rfl, rfl⟩

end Store

end Crontab
