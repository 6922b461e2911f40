import Crontab.Text
import Crontab.Text.Prepared.Changed
import Crontab.Text.Prepared.Combining
import Crontab.Text.Prepared.Composites
import Crontab.Text.Prepared.Direction

/-!
# Prepared labels

A label of an international name is prepared before it is compared: letters lose their case, some
characters are dropped or replaced, marks are put in order and joined to their letters, and some
texts are refused. A label is prepared when none of this changes it.
-/

namespace Crontab.Text.Prepared

/-- A number is in one of some ranges. -/
def inRanges (ranges : List (Nat × Nat)) (n : Nat) : Bool :=
  ranges.any fun (first, last) => first ≤ n && n ≤ last

/-- A character is kept when a label is prepared. -/
def isKept (c : Char) : Bool :=
  !(inRanges changed c.toNat || c.isUpper ||
    changedInTurn.any fun (first, last) =>
      first ≤ c.toNat && c.toNat ≤ last && (c.toNat - first) % 2 = 0)

/-- The class of a mark. A character that is no mark has class zero. -/
def markClass (c : Char) : Nat :=
  ((classes.find? fun (_, ranges) => inRanges ranges c.toNat).map Prod.fst).getD 0

/-- What a letter and a mark are written as. -/
def composed? (letter mark : Char) : Option Char := do
  let (_, letters, wholes) ← composites.find? fun (m, _, _) => m = mark.toNat
  wholes.toList[← letters.toList.idxOf? letter]?

/-- The letter and the mark of a composite letter. -/
def parts? (whole : Char) : Option (Char × Char) :=
  composites.findSome? fun (mark, letters, wholes) => do
    return (← letters.toList[← wholes.toList.idxOf? whole]?, Char.ofNat mark)

/-- How many marks a character can be made with. -/
def maxMarks : Nat := 4

/-- A character as a letter with its marks, up to a number of these. -/
def taken (c : Char) : Nat → List Char
  | 0 => [c]
  | fuel + 1 =>
    match parts? c with
    | some (letter, mark) => taken letter fuel ++ [mark]
    | none => [c]

/-- Puts a mark in front of those of a greater class. The text is kept latest first. -/
def place (c : Char) : List Char → List Char
  | [] => [c]
  | d :: done =>
    if 0 < markClass c ∧ markClass c < markClass d then d :: place c done else c :: d :: done

/-- A text in which marks are being joined to a letter. Everything is kept latest first. -/
structure Scan where
  /-- What stands before the letter. -/
  done : List Char := []
  /-- The letter. -/
  letter : Option Char := none
  /-- The marks that could not be joined to it. -/
  marks : List Char := []

/-- What has been read, latest first. -/
def Scan.read (scan : Scan) : List Char := scan.marks ++ (scan.letter.toList ++ scan.done)

/-- Reads a character. A mark is joined to the letter unless one of its class or a greater one comes
in between. -/
def Scan.push (scan : Scan) (c : Char) : Scan :=
  let isFree := match scan.marks with
    | [] => true
    | m :: _ => markClass m < markClass c
  match if isFree then scan.letter.bind (composed? · c) else none with
  | some whole => { scan with letter := some whole }
  | none =>
    if markClass c = 0 then ⟨scan.read, some c, []⟩
    else if scan.letter.isNone then { scan with done := c :: scan.done }
    else { scan with marks := c :: scan.marks }

/-- A text with its marks in order and joined to their letters. -/
def composed (text : List Char) : List Char :=
  let marks := text.flatMap (taken · maxMarks)
  let ordered := (marks.foldl (fun done c => place c done) []).reverse
  (ordered.foldl Scan.push {}).read.reverse

/-- Two neighbours would be written as one Korean syllable: an initial and a vowel, or a syllable
without a final and a final. -/
def areSyllable (c d : Char) : Bool :=
  let (m, n) := (c.toNat, d.toNat)
  (0x1100 ≤ m && m ≤ 0x1112 && (0x1161 ≤ n && n ≤ 0x1175)) ||
    (0xAC00 ≤ m && m ≤ 0xD7A3 && (m - 0xAC00) % 28 = 0 && (0x11A8 ≤ n && n ≤ 0x11C2))

/-- A character of a script that is written from the right. -/
def isFromRight (c : Char) : Bool := inRanges fromRight c.toNat

/-- A character of a script that is written from the left. -/
def isFromLeft (c : Char) : Bool := c.isAlpha || inRanges fromLeft c.toNat

/-- A text with characters from the right has some at its ends, and none from the left. -/
def isDirected (text : List Char) : Bool :=
  !text.any isFromRight ||
    (!text.any isFromLeft && text.head?.any isFromRight && text.getLast?.any isFromRight)

/-- A text stays as it is when it is prepared. -/
def isPrepared (text : List Char) : Bool :=
  text.all isKept && composed text = text && isDirected text &&
    !(text.zip text.tail).any fun (c, d) => areSyllable c d

end Crontab.Text.Prepared
