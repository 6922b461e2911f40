import Crontab.Text

/-!
# Lines

A line ends at a carriage return, at a line feed, or at the two together, which make one break. The
text is read from its end, so that a carriage return sees whether a line feed follows it.
-/

namespace Crontab.Line

/-- The lines of the part of a text that has been read, which is read from the end. -/
structure Scan where
  /-- Whether the part read starts with a line feed. -/
  feed : Bool
  /-- The first line of the part read. -/
  first : Text
  /-- The lines after the first. -/
  later : List Text
  deriving DecidableEq, Repr

namespace Scan

/-- Nothing has been read. -/
def start : Scan := ⟨false, [], []⟩

/-- Reads one more character in front. A carriage return in front of a line feed belongs to the
break that the line feed has already made. -/
def read (c : CodePoint) (scan : Scan) : Scan :=
  if c = '\n' then ⟨true, [], scan.first :: scan.later⟩
  else if c = '\r' then
    if scan.feed then ⟨false, scan.first, scan.later⟩
    else ⟨false, [], scan.first :: scan.later⟩
  else ⟨false, c :: scan.first, scan.later⟩

end Scan

/-- The lines of a text, without their breaks. There is always at least one. -/
def split (text : Text) : List Text :=
  let scan := text.foldr Scan.read Scan.start
  scan.first :: scan.later

/-- The line at an index. A line that does not exist is empty. -/
def nth (lines : Array Text) (line : Int) : Text :=
  if 0 ≤ line then lines[line.toNat]?.getD [] else []

/-- The number of lines shown for a document: a break at the very end closes the last line and opens
none. -/
def count (lines : Array Text) : Nat :=
  if lines.back? = some [] then lines.size - 1 else lines.size

@[simp] theorem split_nil : split [] = [[]] := rfl

/-- A line feed ends an empty first line. -/
@[simp] theorem split_feed (text : Text) : split ('\n' :: text) = [] :: split text := by
  simp [split, Scan.read]

/-- A carriage return and a line feed are one break. -/
@[simp] theorem split_return_feed (text : Text) :
    split ('\r' :: '\n' :: text) = [] :: split text := by
  simp [split, Scan.read]

/-- A character that is no break belongs to the first line. -/
theorem split_cons {c : CodePoint} (hf : c ≠ '\n') (hr : c ≠ '\r') (text : Text) :
    split (c :: text) = (split text).modifyHead (c :: ·) := by
  simp [split, Scan.read, hf, hr]

theorem split_ne_nil (text : Text) : split text ≠ [] := by
  simp [split]

end Crontab.Line
