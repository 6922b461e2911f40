import Crontab.Proofs.Line.Breaks
import Crontab.Proofs.Store.Held

/-!
# The spelling of a text

A text has one spelling by lines and breaks that stay apart. Cutting the text gives the lines, and
the text behind a line tells the break there: a carriage return is a break of its own exactly if no
line feed comes right behind it. The lines shown for a document are counted by its breaks.
-/

namespace Crontab.Line

/-- A break is told by the text behind a line that it parts from that text. -/
theorem Break.eq_of_append {sep sep' : Break} {a b b' : Text} (h : sep.Parts a b)
    (h' : sep'.Parts a b') (heq : sep.text ++ b = sep'.text ++ b') : sep = sep' := by
  have hne : CodePoint.char '\n' ≠ .char '\r' := by decide
  cases sep with
  | feed =>
    cases sep' with
    | feed => rfl
    | carriage => exact absurd (List.cons.inj heq).1 hne
    | pair => exact absurd (List.cons.inj heq).1 hne
  | carriage =>
    cases sep' with
    | feed => exact absurd (List.cons.inj heq).1.symm hne
    | carriage => rfl
    | pair =>
      have hb : b = .char '\n' :: b' := (List.cons.inj heq).2
      exact absurd (congrArg List.head? hb) h
  | pair =>
    cases sep' with
    | feed => exact absurd (List.cons.inj heq).1.symm hne
    | carriage =>
      have hb : .char '\n' :: b = b' := (List.cons.inj heq).2
      exact absurd (congrArg List.head? hb.symm) h'
    | pair => rfl

/-- What comes behind the first break of a spelling is spelled by the rest of it. -/
theorem Spells.tail {text first line : Text} {sep : Break} {rest : List (Break × Text)}
    (h : Spells text first ((sep, line) :: rest)) :
    sep.Parts first (spell line rest) ∧ Spells (spell line rest) line rest := by
  have hline : IsLine line := h.later_isLine (sep, line) (List.mem_cons_self ..)
  exact ⟨parts_spell h.first_isLine hline h.apart, rfl, hline,
    fun x hx => h.later_isLine x (List.mem_cons_of_mem _ hx), h.apart.tail⟩

theorem Spells.lines_unique {text first first' : Text} {rest rest' : List (Break × Text)}
    (h : Spells text first rest) (h' : Spells text first' rest') :
    first = first' ∧ rest.map Prod.snd = rest'.map Prod.snd :=
  List.cons.inj (h.split_eq.symm.trans h'.split_eq)

/-- A text has no second spelling. -/
theorem Spells.unique {text first first' : Text} {rest rest' : List (Break × Text)}
    (h : Spells text first rest) (h' : Spells text first' rest') :
    first = first' ∧ rest = rest' := by
  obtain ⟨rfl, hlater⟩ := h.lines_unique h'
  refine ⟨rfl, ?_⟩
  induction rest generalizing text first rest' with
  | nil => exact (List.map_eq_nil_iff.mp hlater.symm).symm
  | cons x rest ih =>
    obtain ⟨sep, line⟩ := x
    obtain ⟨⟨sep', line'⟩, rest', rfl, hline, hbehind⟩ := List.map_eq_cons_iff.mp hlater.symm
    obtain rfl : line' = line := hline
    obtain ⟨hparts, htail⟩ := h.tail
    obtain ⟨hparts', htail'⟩ := h'.tail
    have hspell : first ++ sep.text ++ spell line' rest = first ++ sep'.text ++ spell line' rest' :=
      h.text_eq.symm.trans h'.text_eq
    rw [List.append_assoc, List.append_assoc, List.append_cancel_left_eq] at hspell
    obtain rfl := Break.eq_of_append hparts hparts' hspell
    rw [← List.append_cancel_left hspell] at htail'
    rw [ih htail hbehind.symm htail']

/-- The lines shown for a document are as many as its breaks, and one more if text comes behind the
last of them. -/
theorem Spells.count_eq {text first : Text} {rest : List (Break × Text)}
    (h : Spells text first rest) :
    count (split text).toArray =
      if (first :: rest.map Prod.snd).getLast? = some [] then rest.length
      else rest.length + 1 := by
  rw [count, List.back?_toArray, List.size_toArray, h.split_eq, List.length_cons, List.length_map,
    Nat.add_sub_cancel]

/-- Every text is spelled in one way by lines and breaks that stay apart, and cut into these lines;
lines that are spelled with such breaks come back when the text is cut; and the lines shown for an
open document are as many as the breaks of its text, with one more if the last line is not empty. -/
theorem split_spelling :
    (∀ text, ∃ first rest, Spells text first rest ∧ split text = first :: rest.map Prod.snd ∧
      ∀ first' rest', Spells text first' rest' → first' = first ∧ rest' = rest) ∧
    (∀ first rest, IsLine first → (∀ x ∈ rest, IsLine x.2) → Apart rest →
      split (spell first rest) = first :: rest.map Prod.snd) ∧
    ∀ source history, ∀ s ∈ (Step.run Store.step (.empty source) history).summaries,
      ∃ text first rest, Store.LastWrite history s.id text ∧ Spells text first rest ∧
        s.lines = if (first :: rest.map Prod.snd).getLast? = some [] then rest.length
          else rest.length + 1 := by
  refine ⟨?_, ?_, ?_⟩
  · intro text
    obtain ⟨first, rest, h⟩ := exists_spells text
    exact ⟨first, rest, h, h.split_eq, fun _ _ h' => h'.unique h⟩
  · intro first rest hfirst hlater hapart
    exact Spells.split_eq ⟨rfl, hfirst, hlater, hapart⟩
  · intro source history s hs
    have hkeeps := Store.keeps_run source history
    have hagrees := Store.agrees_replay history
    rw [hkeeps.summaries hagrees.nodup] at hs
    obtain ⟨⟨id, text⟩, he, rfl⟩ := List.mem_map.mp hs
    have htext := Register.get?_of_mem_entries hagrees.nodup he
    obtain ⟨first, rest, h⟩ := exists_spells text
    exact ⟨text, first, rest, (hagrees.get?_iff id text).mp htext, h, h.count_eq⟩

/-- Three kinds of breaks around empty lines. The last break ends the last line shown. -/
theorem split_spelling_mixed :
    let rest : List (Break × Text) := [(.carriage, []), (.pair, Text.ofString "b"), (.feed, [])]
    let text := Text.ofString "a\r\r\nb\n"
    (IsLine (Text.ofString "a") ∧ (∀ x ∈ rest, IsLine x.2) ∧ Apart rest) ∧
      spell (Text.ofString "a") rest = text ∧
      split text = [Text.ofString "a", [], Text.ofString "b", []] ∧
      ((Step.run Store.step (.empty []) [.load (.ofString "m") text]).summaries.map
        Summary.lines) = [3] := by
  intro rest text
  have hfirst : IsLine (Text.ofString "a") := ⟨by decide, by decide⟩
  have hlater : ∀ x ∈ rest, IsLine x.2 := by
    simpa [rest, IsLine] using ⟨by decide, by decide⟩
  have hapart : Apart rest := .cons_cons (by decide) (.cons_cons (by decide) (.singleton _))
  have hsplit := split_spelling.2.1 _ rest hfirst hlater hapart
  exact ⟨⟨hfirst, hlater, hapart⟩, by decide, hsplit, by decide⟩

end Crontab.Line
