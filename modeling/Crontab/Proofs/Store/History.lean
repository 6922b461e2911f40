import Mathlib.Data.List.Induction
import Crontab.Proofs.Register
import Crontab.Store.Command

/-!
# Histories of a store

What a history of commands leaves open is read off the history itself: a document is open when some
write of it has not been followed by its close. Its text is that of the last such write, and its
place among the open documents is that of the first such write. Replaying the history on a register
of texts gives exactly these documents, with these texts, in this order.
-/

namespace Crontab.Store

/-- The id and the text that a command writes. -/
def Command.written? : Command → Option (Text × Text)
  | .load id text => some (id, text)
  | .change id text => some (id, text)
  | _ => none

/-- Command `i` of a history writes a text to a document, and no later command closes it. -/
def WrittenAt (history : List Command) (id : Text) (i : Nat) (text : Text) : Prop :=
  history[i]?.bind Command.written? = some (id, text) ∧ ∀ j > i, history[j]? ≠ some (.close id)

/-- The first write of a document since its last close is command `i`. -/
def FirstWrite (history : List Command) (id : Text) (i : Nat) : Prop :=
  (∃ text, WrittenAt history id i text) ∧ ∀ j text, WrittenAt history id j text → i ≤ j

/-- The last write of a document since its last close brought this text. -/
def LastWrite (history : List Command) (id text : Text) : Prop :=
  ∃ i, WrittenAt history id i text ∧ ∀ j text', WrittenAt history id j text' → j ≤ i

/-- A write stands inside its history. -/
theorem WrittenAt.lt_length {history : List Command} {id text : Text} {i : Nat}
    (h : WrittenAt history id i text) : i < history.length := by
  by_contra hi
  have hnone : history[i]? = none := List.getElem?_eq_none (Nat.le_of_not_lt hi)
  rw [WrittenAt, hnone] at h
  exact absurd h.1 (by simp)

private theorem getElem?_past_concat {history : List Command} {command : Command} {i : Nat}
    (h : history.length < i) : (history ++ [command])[i]? = none := by
  apply List.getElem?_eq_none
  rw [List.length_append, List.length_singleton]
  omega

/-- One more command keeps the writes that it does not close and may add one at the end. -/
theorem writtenAt_concat (history : List Command) (command : Command) (id text : Text) (i : Nat) :
    WrittenAt (history ++ [command]) id i text ↔
      (WrittenAt history id i text ∧ command ≠ .close id) ∨
        (i = history.length ∧ command.written? = some (id, text)) := by
  constructor
  · rintro ⟨hwrite, hopen⟩
    rcases Nat.lt_trichotomy i history.length with hi | hi | hi
    · rw [List.getElem?_append_left hi] at hwrite
      refine Or.inl ⟨⟨hwrite, ?_⟩, ?_⟩
      · intro j hj hclose
        have hjl : j < history.length := (List.getElem?_eq_some_iff.mp hclose).1
        exact hopen j hj (by rw [List.getElem?_append_left hjl, hclose])
      · rintro rfl
        exact hopen history.length hi (by simp)
    · subst hi
      exact Or.inr ⟨rfl, by simpa using hwrite⟩
    · rw [getElem?_past_concat hi] at hwrite
      exact absurd hwrite (by simp)
  · rintro (⟨⟨hwrite, hopen⟩, hcommand⟩ | ⟨rfl, hwrite⟩)
    · have hi := WrittenAt.lt_length ⟨hwrite, hopen⟩
      refine ⟨by rw [List.getElem?_append_left hi, hwrite], ?_⟩
      intro j hj hclose
      rcases Nat.lt_trichotomy j history.length with hjl | rfl | hjl
      · exact hopen j hj (by rwa [List.getElem?_append_left hjl] at hclose)
      · exact hcommand (by simpa using hclose)
      · rw [getElem?_past_concat hjl] at hclose
        exact absurd hclose (by simp)
    · refine ⟨by simpa using hwrite, ?_⟩
      intro j hj hclose
      rw [getElem?_past_concat hj] at hclose
      exact absurd hclose (by simp)

/-- A document is open after one more command if that writes it, or if it was open before and is not
closed. -/
theorem exists_writtenAt_concat (history : List Command) (command : Command) (id : Text) :
    (∃ i text, WrittenAt (history ++ [command]) id i text) ↔
      (∃ text, command.written? = some (id, text)) ∨
        ((∃ i text, WrittenAt history id i text) ∧ command ≠ .close id) := by
  simp only [writtenAt_concat]
  constructor
  · rintro ⟨i, text, ⟨hold, hc⟩ | ⟨_, hw⟩⟩
    · exact Or.inr ⟨⟨i, text, hold⟩, hc⟩
    · exact Or.inl ⟨text, hw⟩
  · rintro (⟨text, hw⟩ | ⟨⟨i, text, hold⟩, hc⟩)
    · exact ⟨history.length, text, Or.inr ⟨rfl, hw⟩⟩
    · exact ⟨i, text, Or.inl ⟨hold, hc⟩⟩

/-- The first write keeps its place until the document is closed. -/
theorem FirstWrite.concat {history : List Command} {id : Text} {i : Nat}
    (h : FirstWrite history id i) {command : Command} (hc : command ≠ .close id) :
    FirstWrite (history ++ [command]) id i := by
  obtain ⟨⟨text, hwrite⟩, hfirst⟩ := h
  refine ⟨⟨text, (writtenAt_concat ..).mpr (Or.inl ⟨hwrite, hc⟩)⟩, ?_⟩
  intro j text' hj
  rcases (writtenAt_concat ..).mp hj with ⟨hold, _⟩ | ⟨rfl, _⟩
  · exact hfirst j text' hold
  · exact Nat.le_of_lt hwrite.lt_length

/-- A write of a document that is not open is its first write, at the end of the history. -/
theorem firstWrite_concat {history : List Command} {id text : Text} {command : Command}
    (hnew : ∀ i text, ¬WrittenAt history id i text) (hc : command.written? = some (id, text)) :
    FirstWrite (history ++ [command]) id history.length := by
  refine ⟨⟨text, (writtenAt_concat ..).mpr (Or.inr ⟨rfl, hc⟩)⟩, ?_⟩
  intro j text' hj
  rcases (writtenAt_concat ..).mp hj with ⟨hold, _⟩ | ⟨rfl, _⟩
  · exact absurd hold (hnew j text')
  · exact Nat.le_refl _

/-- What a command does to the last write of a document: a write of it replaces the text, its close
ends it, and every other command leaves it. -/
theorem lastWrite_concat (history : List Command) (command : Command) (id text : Text) :
    LastWrite (history ++ [command]) id text ↔
      command.written? = some (id, text) ∨
        (LastWrite history id text ∧ command ≠ .close id ∧
          ∀ text', command.written? ≠ some (id, text')) := by
  constructor
  · rintro ⟨i, hwrite, hlast⟩
    rcases (writtenAt_concat ..).mp hwrite with ⟨hold, hc⟩ | ⟨_, hc⟩
    · refine Or.inr ⟨⟨i, hold, ?_⟩, hc, ?_⟩
      · intro j text' hj
        exact hlast j text' ((writtenAt_concat ..).mpr (Or.inl ⟨hj, hc⟩))
      · intro text' hw
        have hle := hlast history.length text' ((writtenAt_concat ..).mpr (Or.inr ⟨rfl, hw⟩))
        exact absurd hold.lt_length (Nat.not_lt.mpr hle)
    · exact Or.inl hc
  · rintro (hw | ⟨⟨i, hold, hlast⟩, hc, hnone⟩)
    · refine ⟨history.length, (writtenAt_concat ..).mpr (Or.inr ⟨rfl, hw⟩), ?_⟩
      intro j text' hj
      have := hj.lt_length
      rw [List.length_append, List.length_singleton] at this
      omega
    · refine ⟨i, (writtenAt_concat ..).mpr (Or.inl ⟨hold, hc⟩), ?_⟩
      intro j text' hj
      rcases (writtenAt_concat ..).mp hj with ⟨hj, _⟩ | ⟨_, hw⟩
      · exact hlast j text' hj
      · exact absurd hw (hnone text')

/-- What a command does to the texts of the open documents. -/
def Command.onTexts (texts : Register Text) : Command → Register Text
  | .load id text => texts.put id text
  | .change id text => texts.put id text
  | .close id => texts.erase id
  | _ => texts

/-- The texts of the documents that a history leaves open, in order of opening. -/
def replay (history : List Command) : Register Text := history.foldl Command.onTexts .empty

@[simp] theorem replay_concat (history : List Command) (command : Command) :
    replay (history ++ [command]) = command.onTexts (replay history) := by
  rw [replay, List.foldl_append]
  rfl

/-- A command writes one document, closes one, or leaves all texts alone. -/
theorem Command.onTexts_cases (command : Command) :
    (∃ id text, command.written? = some (id, text) ∧ (∀ other, command ≠ .close other) ∧
        ∀ texts, command.onTexts texts = texts.put id text) ∨
      (∃ id, command = .close id) ∨
      (command.written? = none ∧ (∀ other, command ≠ .close other) ∧
        ∀ texts, command.onTexts texts = texts) := by
  cases command with
  | load id text => exact Or.inl ⟨id, text, rfl, nofun, fun _ => rfl⟩
  | change id text => exact Or.inl ⟨id, text, rfl, nofun, fun _ => rfl⟩
  | close id => exact Or.inr (Or.inl ⟨id, rfl⟩)
  | holds id => exact Or.inr (Or.inr ⟨rfl, nofun, fun _ => rfl⟩)
  | ask id query => exact Or.inr (Or.inr ⟨rfl, nofun, fun _ => rfl⟩)
  | list => exact Or.inr (Or.inr ⟨rfl, nofun, fun _ => rfl⟩)

/-- A register of texts holds what a history leaves open. -/
structure Agrees (history : List Command) (texts : Register Text) : Prop where
  /-- No document is held twice. -/
  nodup : texts.names.Nodup
  /-- The documents held are those written since their last close. -/
  mem_iff : ∀ id, id ∈ texts.names ↔ ∃ i text, WrittenAt history id i text
  /-- Every document held has a first write since its last close. -/
  first : ∀ id ∈ texts.names, ∃ i, FirstWrite history id i
  /-- The documents stand in the order of these first writes. -/
  ordered : texts.names.Pairwise fun a b =>
    ∃ i j, i < j ∧ FirstWrite history a i ∧ FirstWrite history b j
  /-- Each document is held with the text of its last write. -/
  get?_iff : ∀ id text, texts.get? id = some text ↔ LastWrite history id text

/-- An empty history leaves nothing open. -/
theorem agrees_nil : Agrees [] .empty := by
  have hnone : ∀ id i text, ¬WrittenAt [] id i text := fun id i text h =>
    absurd h.lt_length (Nat.not_lt_zero i)
  refine ⟨List.nodup_nil, ?_, ?_, List.Pairwise.nil, ?_⟩
  · intro id
    simp [hnone]
  · intro id h
    exact absurd h List.not_mem_nil
  · intro id text
    simp [LastWrite, hnone]

/-- First writes that stand in order still do after a command that closes none of them. -/
theorem ordered_concat {history : List Command} {command : Command} {names : List Text}
    (h : names.Pairwise fun a b => ∃ i j, i < j ∧ FirstWrite history a i ∧ FirstWrite history b j)
    (hc : ∀ id ∈ names, command ≠ .close id) :
    names.Pairwise fun a b => ∃ i j, i < j ∧ FirstWrite (history ++ [command]) a i ∧
      FirstWrite (history ++ [command]) b j := by
  refine h.imp_of_mem fun {a b} ha hb => ?_
  rintro ⟨i, j, hij, hi, hj⟩
  exact ⟨i, j, hij, hi.concat (hc a ha), hj.concat (hc b hb)⟩

/-- A write puts a new document last and leaves an open one in its place. -/
theorem Agrees.put {history : List Command} {texts : Register Text} (h : Agrees history texts)
    {command : Command} {id text : Text} (hw : command.written? = some (id, text))
    (hc : ∀ other, command ≠ .close other) :
    Agrees (history ++ [command]) (texts.put id text) := by
  have hold : ∀ other ∈ texts.names, ∃ i, i < history.length ∧
      FirstWrite (history ++ [command]) other i := by
    intro other ho
    obtain ⟨i, hi⟩ := h.first other ho
    obtain ⟨_, hwritten⟩ := hi.1
    exact ⟨i, hwritten.lt_length, hi.concat (hc other)⟩
  have hnew : id ∉ texts.names → FirstWrite (history ++ [command]) id history.length :=
    fun hid => firstWrite_concat (fun i t ht => hid ((h.mem_iff id).mpr ⟨i, t, ht⟩)) hw
  constructor
  · exact Register.nodup_names_put h.nodup id text
  · intro other
    rw [Register.mem_names_put, exists_writtenAt_concat, hw, h.mem_iff]
    constructor
    · rintro (rfl | ho)
      · exact Or.inl ⟨text, rfl⟩
      · exact Or.inr ⟨ho, hc other⟩
    · rintro (⟨t, ht⟩ | ⟨ho, _⟩)
      · exact Or.inl (congrArg Prod.fst (Option.some.inj ht)).symm
      · exact Or.inr ho
  · intro other ho
    by_cases hmem : other ∈ texts.names
    · obtain ⟨i, _, hi⟩ := hold other hmem
      exact ⟨i, hi⟩
    · rcases (Register.mem_names_put ..).mp ho with rfl | ho
      · exact ⟨_, hnew hmem⟩
      · exact absurd ho hmem
  · have hkept := ordered_concat h.ordered fun other _ => hc other
    rw [Register.names_put]
    split
    · exact hkept
    · next hid =>
      rw [Register.holds_iff_mem_names] at hid
      refine List.pairwise_append.mpr ⟨hkept, List.pairwise_singleton .., ?_⟩
      intro a ha b hb
      obtain rfl := List.mem_singleton.mp hb
      obtain ⟨i, hi, hfirst⟩ := hold a ha
      exact ⟨i, history.length, hi, hfirst, hnew hid⟩
  · intro other t
    rw [Register.get?_put, lastWrite_concat, hw, ← h.get?_iff]
    by_cases ho : other = id
    · subst ho
      simp
    · simp [ho, Ne.symm ho, hc other]

/-- A close takes its document away and keeps the others in order. -/
theorem Agrees.erase {history : List Command} {texts : Register Text} (h : Agrees history texts)
    (id : Text) : Agrees (history ++ [.close id]) (texts.erase id) := by
  have hne : ∀ {other}, other ≠ id → Command.close id ≠ .close other := by
    rintro other ho he
    exact ho (Command.close.inj he).symm
  constructor
  · exact Register.nodup_names_erase h.nodup id
  · intro other
    rw [Register.mem_names_erase, exists_writtenAt_concat, h.mem_iff]
    constructor
    · rintro ⟨ho, hwritten⟩
      exact Or.inr ⟨hwritten, hne ho⟩
    · rintro (⟨t, ht⟩ | ⟨hwritten, hc⟩)
      · exact absurd ht nofun
      · exact ⟨fun he => hc (he ▸ rfl), hwritten⟩
  · intro other ho
    rw [Register.mem_names_erase] at ho
    obtain ⟨i, hi⟩ := h.first other ho.2
    exact ⟨i, hi.concat (hne ho.1)⟩
  · rw [Register.names_erase]
    refine ordered_concat (h.ordered.filter _) fun other ho => hne ?_
    simpa using (List.mem_filter.mp ho).2
  · intro other t
    rw [Register.get?_erase, lastWrite_concat, ← h.get?_iff]
    by_cases ho : other = id
    · subst ho
      simp [Command.written?]
    · simp [ho, Ne.symm ho, Command.written?]

/-- A command that neither writes nor closes changes nothing that a history leaves open. -/
theorem Agrees.skip {history : List Command} {texts : Register Text} (h : Agrees history texts)
    {command : Command} (hw : command.written? = none) (hc : ∀ other, command ≠ .close other) :
    Agrees (history ++ [command]) texts := by
  constructor
  · exact h.nodup
  · intro id
    rw [exists_writtenAt_concat, h.mem_iff, hw]
    simp [hc id]
  · intro id hid
    obtain ⟨i, hi⟩ := h.first id hid
    exact ⟨i, hi.concat (hc id)⟩
  · exact ordered_concat h.ordered fun id _ => hc id
  · intro id t
    rw [lastWrite_concat, hw, ← h.get?_iff]
    simp [hc id]

/-- One more command is followed by the texts. -/
theorem Agrees.concat {history : List Command} {texts : Register Text} (h : Agrees history texts)
    (command : Command) : Agrees (history ++ [command]) (command.onTexts texts) := by
  rcases command.onTexts_cases with ⟨id, text, hw, hc, he⟩ | ⟨id, rfl⟩ | ⟨hw, hc, he⟩
  · rw [he]
    exact h.put hw hc
  · exact h.erase id
  · rw [he]
    exact h.skip hw hc

/-- Replaying a history gives the documents that it leaves open. -/
theorem agrees_replay (history : List Command) : Agrees history (replay history) := by
  induction history using List.reverseRecOn with
  | nil => exact agrees_nil
  | append_singleton history command ih =>
    rw [replay_concat]
    exact ih.concat command

/-- A change keeps a document in its place; a close followed by an opening moves it to the end. -/
example (x y z : Text) : (replay [.load (.ofString "a") x, .load (.ofString "b") y,
    .change (.ofString "a") z, .list]).names = [.ofString "a", .ofString "b"] ∧
      (replay [.load (.ofString "a") x, .load (.ofString "b") y, .close (.ofString "a"),
        .load (.ofString "a") z]).names = [.ofString "b", .ofString "a"] :=
  ⟨rfl, rfl⟩

end Crontab.Store
