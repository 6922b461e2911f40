import Crontab.Diagnostic
import Crontab.Proofs.Entry.Layout
import Crontab.Proofs.Line.Breaks

/-!
# Lines are read on their own

What a line says does not depend on the lines around it, nor on the breaks between them. Two texts
with a break between them have the tokens and the diagnostics of the first, and then those of the
second moved down past its lines. So the kind of each break is free, as long as the breaks stay
apart.
-/

namespace Crontab

/-- A token moved down by some lines. -/
def Token.movedDown (n : Nat) : Token → Token
  | .comment line content => .comment (line + n) content
  | .term line char field reading content => .term (line + n) char field reading content
  | .command line char content => .command (line + n) char content

/-- A diagnostic moved down by some lines. -/
def Diagnostic.movedDown (n : Nat) (d : Diagnostic) : Diagnostic := { d with line := d.line + n }

/-- Placing pieces on a later line moves their tokens down. -/
theorem Entry.place_movedDown (line : Int) (n : Nat) (char : Int) (fields : List Field)
    (ps : List Text) :
    place (line + n) char fields ps = (place line char fields ps).map (Token.movedDown n) := by
  fun_induction place line char fields ps with
  | case1 char field fields piece rest ih =>
    rw [place, ih]
    rfl
  | case2 char fields ps hnone =>
    rw [place]
    · rfl
    · exact hnone

/-- Reading a line further down moves its tokens down. -/
theorem Line.tokens_movedDown (i : Int) (n : Nat) (line : Text) :
    tokens (i + n) line = (tokens i line).map (Token.movedDown n) := by
  unfold tokens
  split
  · rfl
  · rfl
  · exact Entry.place_movedDown i n 0 _ _

/-- A token that is moved down takes its diagnostics along. -/
theorem Token.diagnostics_movedDown (source : Text) (n : Nat) (token : Token) :
    (token.movedDown n).diagnostics source =
      (token.diagnostics source).map (Diagnostic.movedDown n) := by
  rw [diagnostics, diagnostics, List.map_map]
  cases token <;> rfl

theorem diagnose_movedDown (source : Text) (n : Nat) (tokens : List Token) :
    diagnose source (tokens.map (Token.movedDown n)) =
      (diagnose source tokens).map (Diagnostic.movedDown n) := by
  simp only [diagnose, List.flatMap_map, List.map_flatMap, Token.diagnostics_movedDown]

/-- Two texts with a break between them have the tokens of both. -/
theorem tokenize_append_break {a b : Text} {sep : Line.Break} (h : sep.Parts a b) :
    tokenize (a ++ sep.text ++ b) =
      tokenize a ++ (tokenize b).map (Token.movedDown (Line.split a).length) := by
  have hmoved : ((Line.split b).zipIdx (Line.split a).length).flatMap
      (fun e => Line.tokens e.2 e.1) =
        (tokenize b).map (Token.movedDown (Line.split a).length) := by
    rw [List.zipIdx_eq_map_add, List.flatMap_map, tokenize, List.map_flatMap]
    refine congrArg (List.flatMap · _) (funext fun e => ?_)
    change Line.tokens ((Line.split a).length + e.2 : Nat) e.1 = _
    rw [Nat.add_comm, Int.natCast_add, Line.tokens_movedDown]
  rw [tokenize, Line.split_append_break h, List.zipIdx_append, List.flatMap_append, Nat.zero_add,
    hmoved]
  rfl

/-- Two texts with a break between them have the diagnostics of both. -/
theorem diagnose_append_break {a b : Text} {sep : Line.Break} (h : sep.Parts a b) (source : Text) :
    diagnose source (tokenize (a ++ sep.text ++ b)) =
      diagnose source (tokenize a) ++
        (diagnose source (tokenize b)).map (Diagnostic.movedDown (Line.split a).length) := by
  rw [tokenize_append_break h, ← diagnose_movedDown, diagnose, List.flatMap_append]
  rfl

/-- Other breaks between the same lines, if they stay apart, leave the lines as they are. -/
theorem Line.Spells.split_respelled {text first : Text} {rest other : List (Line.Break × Text)}
    (h : Line.Spells text first rest) (hlines : other.map Prod.snd = rest.map Prod.snd)
    (hapart : Line.Apart other) : Line.split (Line.spell first other) = Line.split text := by
  have hother : Line.Spells (Line.spell first other) first other := by
    refine ⟨rfl, h.first_isLine, ?_, hapart⟩
    intro x hx
    have hmem : x.2 ∈ rest.map Prod.snd := hlines ▸ List.mem_map_of_mem hx
    obtain ⟨y, hy, hxy⟩ := List.mem_map.mp hmem
    exact hxy ▸ h.later_isLine y hy
  rw [hother.split_eq, h.split_eq, hlines]

/-- Documents are read line by line. A break between two texts that melts with neither gives the
tokens and the diagnostics of the first followed by those of the second, moved down past the lines
of the first. Every text is spelled by its lines and breaks, and other breaks that stay apart change
neither its tokens nor its diagnostics. -/
theorem tokenize_lineByLine :
    (∀ (a b : Text) (sep : Line.Break), sep.Parts a b →
      tokenize (a ++ sep.text ++ b) =
        tokenize a ++ (tokenize b).map (Token.movedDown (Line.split a).length) ∧
      ∀ source, diagnose source (tokenize (a ++ sep.text ++ b)) =
        diagnose source (tokenize a) ++
          (diagnose source (tokenize b)).map (Diagnostic.movedDown (Line.split a).length)) ∧
    (∀ text, ∃ first rest, Line.Spells text first rest) ∧
    ∀ (text first : Text) (rest other : List (Line.Break × Text)), Line.Spells text first rest →
      other.map Prod.snd = rest.map Prod.snd → Line.Apart other →
        tokenize (Line.spell first other) = tokenize text ∧
          ∀ source, diagnose source (tokenize (Line.spell first other)) =
            diagnose source (tokenize text) := by
  refine ⟨fun a b sep h => ⟨tokenize_append_break h, diagnose_append_break h⟩,
    Line.exists_spells, ?_⟩
  intro text first rest other h hlines hapart
  have htokens : tokenize (Line.spell first other) = tokenize text := by
    rw [tokenize, h.split_respelled hlines hapart, tokenize]
  exact ⟨htokens, fun source => by rw [htokens]⟩

/-- A line feed in front of an empty line moves the comment behind it to the third line, and pairs
may be replaced by a line feed and then a carriage return. -/
theorem tokenize_lineByLine_crossed :
    tokenize (.ofString "60" ++ Line.Break.feed.text ++ .ofString "\n# x") =
        tokenize (.ofString "60") ++ [.comment 2 (.ofString "# x")] ∧
      tokenize (.ofString "60\n\r# x") = tokenize (.ofString "60\r\n\r\n# x") := by
  have hparts : Line.Break.feed.Parts (.ofString "60") (.ofString "\n# x") :=
    (by decide : (Text.ofString "60").getLast? ≠ some (.char '\r'))
  have hspells : Line.Spells (.ofString "60\r\n\r\n# x") (.ofString "60")
      [(.pair, []), (.pair, .ofString "# x")] := by
    refine ⟨by decide, ⟨by decide, by decide⟩, ?_, ?_⟩
    · simpa [Line.IsLine] using ⟨by decide, by decide⟩
    · exact .cons_cons (by decide) (.singleton _)
  refine ⟨(tokenize_lineByLine.1 _ _ _ hparts).1.trans (by decide), ?_⟩
  exact (tokenize_lineByLine.2.2 _ _ _ [(.feed, []), (.carriage, .ofString "# x")] hspells rfl
    (.cons_cons (by decide) (.singleton _))).1

end Crontab
