import Crontab.CodePoint

/-!
# Text

Text from outside is a list of code points, and every position in it counts them. A text is cut at
each occurrence of a separator, and its pieces joined by that separator spell it again.
-/

namespace Crontab

/-- Text from outside. Positions in it count code points. -/
abbrev Text := List CodePoint

namespace Text

/-- The text that a string spells. -/
def ofString (s : String) : Text := s.toList.map CodePoint.char

/-- A text has no surrogate on its own, so that a string can spell it. -/
def isSpelled (text : Text) : Bool := text.all fun c => c.char?.isSome

/-- A text as it can be shown, with a replacement character for each surrogate. -/
def shown (text : Text) : String := String.ofList (text.map fun c => c.char?.getD '\ufffd')

/-- A text with its ASCII letters in lower case. -/
def asciiLower (text : Text) : Text := text.map CodePoint.asciiLower

/-- Reads `c` in front of a text that is already cut into a first piece and the later ones. -/
def cut (sep c : CodePoint) : Text × List Text → Text × List Text
  | (first, later) => if c = sep then ([], first :: later) else (c :: first, later)

/-- The pieces of a text between the occurrences of `sep`. There is always at least one. -/
def pieces (sep : CodePoint) (text : Text) : List Text :=
  let (first, later) := text.foldr (cut sep) ([], [])
  first :: later

/-- The pieces in order, with one `sep` between neighbours. -/
def joined (sep : CodePoint) (ps : List Text) : Text := [sep].intercalate ps

/-- A text without the code points of a class at its two ends. -/
def trim (isBlank : CodePoint → Bool) (text : Text) : Text :=
  ((text.dropWhile isBlank).reverse.dropWhile isBlank).reverse

@[simp] theorem isSpelled_ofString (s : String) : (ofString s).isSpelled = true := by
  simp [isSpelled, ofString, CodePoint.char?]

@[simp] theorem isSpelled_append (a b : Text) :
    (a ++ b).isSpelled = (a.isSpelled && b.isSpelled) := by
  simp [isSpelled]

/-- A text is spelled if its code points are among those of one that is. -/
theorem isSpelled_of_subset {a b : Text} (h : a ⊆ b) (hb : b.isSpelled = true) :
    a.isSpelled = true := by
  rw [isSpelled, List.all_eq_true] at hb ⊢
  exact fun c hc => hb c (h hc)

/-- Different strings spell different texts. -/
@[simp] theorem ofString_inj {s t : String} : ofString s = ofString t ↔ s = t := by
  rw [ofString, ofString, List.map_inj_right fun _ _ => CodePoint.char.inj, String.toList_inj]

theorem ofString_append (s t : String) : ofString (s ++ t) = ofString s ++ ofString t := by
  simp [ofString]

@[simp] theorem pieces_nil (sep : CodePoint) : pieces sep [] = [[]] := rfl

/-- A separator closes an empty first piece. -/
@[simp] theorem pieces_cons_self (sep : CodePoint) (text : Text) :
    pieces sep (sep :: text) = [] :: pieces sep text := by
  simp [pieces, cut]

/-- Any other code point belongs to the first piece. -/
theorem pieces_cons_of_ne {sep c : CodePoint} (h : c ≠ sep) (text : Text) :
    pieces sep (c :: text) = (pieces sep text).modifyHead (c :: ·) := by
  simp [pieces, cut, h]

theorem pieces_ne_nil (sep : CodePoint) (text : Text) : pieces sep text ≠ [] := by
  simp [pieces]

/-- Joining the pieces of a text spells the text. -/
theorem joined_pieces (sep : CodePoint) (text : Text) : joined sep (pieces sep text) = text := by
  induction text with
  | nil => rfl
  | cons c text ih =>
    obtain ⟨p, ps, h⟩ := List.exists_cons_of_ne_nil (pieces_ne_nil sep text)
    rw [h] at ih
    by_cases hc : c = sep
    · subst hc
      rw [pieces_cons_self, h, joined, List.intercalate_cons_cons]
      simpa [joined] using ih
    · rw [pieces_cons_of_ne hc, h]
      cases ps with
      | nil => simpa [joined] using ih
      | cons q qs =>
        simp only [joined, List.modifyHead_cons, List.intercalate_cons_cons] at ih ⊢
        simpa using ih

end Text

end Crontab
