import Mathlib.Data.List.Chain
import Crontab.Line

/-!
# Line breaks

A text is spelled by its lines and the breaks between them. Cutting at a break gives the lines of
both sides, one after the other, provided that the break does not melt with its neighbours: a line
feed after a carriage return would belong to the break that is there already. Every text has a
spelling, and lines that are spelled with breaks that stay apart come back when the text is cut.
-/

namespace Crontab.Line

/-- A line break. -/
inductive Break where
  /-- A line feed. -/
  | feed
  /-- A carriage return. -/
  | carriage
  /-- A carriage return and a line feed. -/
  | pair
  deriving DecidableEq, Repr

/-- A break as it stands in a text. -/
def Break.text : Break → Text
  | .feed => ['\n']
  | .carriage => ['\r']
  | .pair => ['\r', '\n']

/-- A break between two texts that melts with neither. -/
def Break.Parts (a b : Text) : Break → Prop
  | .feed => a.getLast? ≠ some (.char '\r')
  | .carriage => b.head? ≠ some (.char '\n')
  | .pair => True

namespace Scan

/-- A scan of a text that more lines follow. -/
def followedBy (scan : Scan) (lines : List Text) : Scan :=
  { scan with later := scan.later ++ lines }

/-- Reading in front does not touch the lines that follow. -/
theorem read_followedBy (c : CodePoint) (scan : Scan) (lines : List Text) :
    (scan.followedBy lines).read c = (scan.read c).followedBy lines := by
  obtain ⟨feed, first, later⟩ := scan
  unfold read followedBy
  by_cases hf : c = '\n'
  · simp [hf]
  by_cases hr : c = '\r'
  · cases feed <;> simp [hr]
  · simp [hf, hr]

theorem foldr_followedBy (text : Text) (scan : Scan) (lines : List Text) :
    text.foldr read (scan.followedBy lines) = (text.foldr read scan).followedBy lines := by
  induction text with
  | nil => rfl
  | cons c text ih => rw [List.foldr_cons, ih, read_followedBy, List.foldr_cons]

/-- A scan has just read a line feed exactly when its text starts with one. -/
theorem feed_foldr_iff (text : Text) :
    (text.foldr read start).feed = true ↔ text.head? = some (.char '\n') := by
  cases text with
  | nil => exact iff_of_false Bool.false_ne_true (by decide)
  | cons c text =>
    rw [List.foldr_cons, read, List.head?_cons, Option.some.injEq]
    by_cases hf : c = '\n'
    · simp [hf]
    by_cases hr : c = '\r'
    · rw [if_neg hf, if_pos hr]
      split <;> exact iff_of_false Bool.false_ne_true hf
    · rw [if_neg hf, if_neg hr]
      exact iff_of_false Bool.false_ne_true hf

end Scan

/-- The scan of a text that is cut right behind itself. -/
theorem lines_foldr (a : Text) (lines : List Text) :
    (a.foldr Scan.read (Scan.start.followedBy lines)).first ::
      (a.foldr Scan.read (Scan.start.followedBy lines)).later = split a ++ lines := by
  rw [Scan.foldr_followedBy]
  rfl

/-- Behind a code point that is no carriage return, a line feed only ends the line. -/
theorem read_after_feed {c : CodePoint} (h : c ≠ '\r') (lines : List Text) :
    Scan.read c ⟨true, [], lines⟩ = Scan.read c (Scan.start.followedBy lines) := by
  by_cases hf : c = '\n'
  · simp [Scan.read, Scan.followedBy, Scan.start, hf]
  · simp [Scan.read, Scan.followedBy, Scan.start, hf, h]

/-- A text with a break in it that melts with neither side has the lines of both. -/
theorem split_append_break {a b : Text} {sep : Break} (h : sep.Parts a b) :
    split (a ++ sep.text ++ b) = split a ++ split b := by
  rw [← lines_foldr a (split b), split, List.foldr_append, List.foldr_append]
  cases sep with
  | pair => rfl
  | carriage =>
    have hfeed : (b.foldr Scan.read Scan.start).feed = false := by
      rw [← Bool.not_eq_true, Scan.feed_foldr_iff]
      exact h
    have hscan : Break.carriage.text.foldr Scan.read (b.foldr Scan.read Scan.start) =
        Scan.start.followedBy (split b) := by
      rw [Break.text, List.foldr_cons, List.foldr_nil, Scan.read, if_neg (by decide), if_pos rfl,
        hfeed]
      rfl
    rw [hscan]
  | feed =>
    have hscan : Break.feed.text.foldr Scan.read (b.foldr Scan.read Scan.start) =
        ⟨true, [], split b⟩ := rfl
    rw [hscan]
    rcases List.eq_nil_or_concat a with rfl | ⟨a, c, rfl⟩
    · rfl
    · have hc : c ≠ '\r' := by simpa [Break.Parts] using h
      rw [List.concat_eq_append, List.foldr_append, List.foldr_append, List.foldr_cons,
        List.foldr_cons, List.foldr_nil, List.foldr_nil, read_after_feed hc]

/-- A line holds no break. -/
def IsLine (line : Text) : Prop := .char '\n' ∉ line ∧ .char '\r' ∉ line

/-- The text spelled by a first line and the later ones, each behind the break in front of it. -/
def spell (first : Text) : List (Break × Text) → Text
  | [] => first
  | (sep, line) :: rest => first ++ sep.text ++ spell line rest

/-- No carriage return has only an empty line between itself and a line feed. -/
def Apart (rest : List (Break × Text)) : Prop :=
  rest.IsChain fun x y => ¬(x = (.carriage, []) ∧ y.1 = .feed)

/-- A text is spelled by its lines and the breaks between them. -/
structure Spells (text first : Text) (rest : List (Break × Text)) : Prop where
  /-- The lines and breaks in order are the text. -/
  text_eq : text = spell first rest
  /-- The first line is a line. -/
  first_isLine : IsLine first
  /-- The later ones are lines. -/
  later_isLine : ∀ x ∈ rest, IsLine x.2
  /-- The breaks stay apart. -/
  apart : Apart rest

/-- A line is its own and only line. -/
theorem split_of_isLine {line : Text} (h : IsLine line) : split line = [line] := by
  induction line with
  | nil => rfl
  | cons c line ih =>
    have hc : c ≠ '\n' ∧ c ≠ '\r' :=
      ⟨fun he => h.1 (he ▸ List.mem_cons_self ..), fun he => h.2 (he ▸ List.mem_cons_self ..)⟩
    have hline : IsLine line :=
      ⟨fun hm => h.1 (List.mem_cons_of_mem _ hm), fun hm => h.2 (List.mem_cons_of_mem _ hm)⟩
    rw [split_cons hc.1 hc.2, ih hline, List.modifyHead_cons]

/-- What is spelled starts with a line feed only if its first line is empty and its first break is
a line feed. -/
theorem head?_spell {first : Text} {rest : List (Break × Text)} (h : IsLine first) :
    (spell first rest).head? = some (.char '\n') ↔
      first = [] ∧ ∃ line later, rest = (.feed, line) :: later := by
  cases first with
  | cons c first =>
    have hc : c ≠ .char '\n' := fun he => h.1 (he ▸ List.mem_cons_self ..)
    have hhead : (spell (c :: first) rest).head? = some c := by
      cases rest <;> rfl
    rw [hhead, Option.some.injEq]
    exact iff_of_false hc nofun
  | nil =>
    cases rest with
    | nil => exact iff_of_false nofun nofun
    | cons x later =>
      obtain ⟨sep, line⟩ := x
      cases sep with
      | feed => exact iff_of_true rfl ⟨rfl, line, later, rfl⟩
      | carriage => exact iff_of_false nofun nofun
      | pair => exact iff_of_false nofun nofun

/-- A break in a spelling parts the line in front of it from the rest. -/
theorem parts_spell {first line : Text} {sep : Break} {rest : List (Break × Text)}
    (hfirst : IsLine first) (hline : IsLine line) (hapart : Apart ((sep, line) :: rest)) :
    sep.Parts first (spell line rest) := by
  cases sep with
  | pair => trivial
  | feed =>
    intro hlast
    exact hfirst.2 (List.mem_of_getLast? hlast)
  | carriage =>
    intro hhead
    obtain ⟨rfl, next, later, rfl⟩ := (head?_spell hline).mp hhead
    exact (List.isChain_cons_cons.mp hapart).1 ⟨rfl, rfl⟩

/-- Cutting what is spelled gives the lines back. -/
theorem Spells.split_eq {text first : Text} {rest : List (Break × Text)}
    (h : Spells text first rest) : split text = first :: rest.map Prod.snd := by
  obtain ⟨rfl, hfirst, hlater, hapart⟩ := h
  induction rest generalizing first with
  | nil => exact split_of_isLine hfirst
  | cons x rest ih =>
    obtain ⟨sep, line⟩ := x
    have hline : IsLine line := hlater (sep, line) (List.mem_cons_self ..)
    have hrest := ih hline (fun x hx => hlater x (List.mem_cons_of_mem _ hx)) hapart.tail
    rw [spell, split_append_break (parts_spell hfirst hline hapart), split_of_isLine hfirst, hrest]
    rfl

/-- Another code point in front of a text that is spelled belongs to the first line, or is a break
of its own, or makes a line feed in front of the text a pair. -/
theorem Spells.cons {text first : Text} {rest : List (Break × Text)} (h : Spells text first rest)
    (c : CodePoint) : ∃ first' rest', Spells (c :: text) first' rest' := by
  obtain ⟨rfl, hfirst, hlater, hapart⟩ := h
  have hnil : IsLine [] := ⟨List.not_mem_nil, List.not_mem_nil⟩
  have hall : ∀ sep, ∀ x ∈ (sep, first) :: rest, IsLine x.2 := by
    intro sep x hx
    rcases List.mem_cons.mp hx with rfl | hx
    · exact hfirst
    · exact hlater x hx
  by_cases hf : c = '\n'
  · subst hf
    refine ⟨[], (.feed, first) :: rest, rfl, hnil, hall .feed, ?_⟩
    exact hapart.cons fun _ _ => by simp
  by_cases hr : c = '\r'
  · subst hr
    by_cases hmelts : first = [] ∧ ∃ line later, rest = (.feed, line) :: later
    · obtain ⟨rfl, line, later, rfl⟩ := hmelts
      refine ⟨[], (.pair, line) :: later, rfl, hnil, ?_, ?_⟩
      · intro x hx
        rcases List.mem_cons.mp hx with rfl | hx
        · exact hlater (.feed, line) (List.mem_cons_self ..)
        · exact hlater x (List.mem_cons_of_mem _ hx)
      · exact hapart.tail.cons fun _ _ => by simp
    · refine ⟨[], (.carriage, first) :: rest, rfl, hnil, hall .carriage, ?_⟩
      refine hapart.cons ?_
      rintro ⟨sep, line⟩ hhead ⟨hcarriage, hfeed⟩
      obtain ⟨later, rfl⟩ := List.head?_eq_some_iff.mp hhead
      obtain rfl : sep = .feed := hfeed
      exact hmelts ⟨congrArg Prod.snd hcarriage, line, later, rfl⟩
  · refine ⟨c :: first, rest, ?_, ?_, hlater, hapart⟩
    · cases rest <;> rfl
    · exact ⟨fun hm => (List.mem_cons.mp hm).elim (fun he => hf he.symm) hfirst.1,
        fun hm => (List.mem_cons.mp hm).elim (fun he => hr he.symm) hfirst.2⟩

/-- Every text has a spelling. -/
theorem exists_spells (text : Text) : ∃ first rest, Spells text first rest := by
  induction text with
  | nil => exact ⟨[], [], rfl, ⟨List.not_mem_nil, List.not_mem_nil⟩, nofun, List.isChain_nil⟩
  | cons c text ih =>
    obtain ⟨first, rest, h⟩ := ih
    exact h.cons c

end Crontab.Line
