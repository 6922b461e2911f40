import Crontab.SignedPosition
import Crontab.Text.Utf8

/-!
# Measures

Editors count columns in units of an encoding, and the analysis counts code points. A measure gives
the units of a text, and with it a column on a line is converted both ways. Past the end of a line
every column is one unit wide.
-/

namespace Crontab

/-- The units that a text takes. -/
abbrev Measure := Text → Int

namespace Measure

/-- One unit for each code point. -/
def codePoints : Measure := fun text => text.length

/-- A code point offset on a line in units. A negative offset counts back from the end of the
line. -/
def toUnits (measure : Measure) (line : Text) (char : Int) : Int :=
  measure (SignedPosition.before line char) + max 0 (char - line.length)

/-- The code point offset of a number of units, when `index` code points have taken `consumed` units
and `rest` is what is left of the line. -/
def seek (measure : Measure) (units : Int) (index : Nat) (consumed : Int) : (rest : Text) → Int
  | [] => index + max 0 (units - consumed)
  | c :: rest =>
    if units ≤ consumed then index
    else measure.seek units (index + 1) (consumed + measure [c]) rest

/-- An offset in units on a line as a code point offset. An offset inside a code point counts as
the one after it. -/
def fromUnits (measure : Measure) (line : Text) (units : Int) : Int := measure.seek units 0 0 line

/-- A code point offset that is not negative counts itself. -/
theorem toUnits_codePoints (line : Text) {char : Int} (h : 0 ≤ char) :
    codePoints.toUnits line char = char := by
  simp only [toUnits, codePoints, SignedPosition.before, h, if_true, List.length_take]
  omega

end Measure

/-- The encodings in which an editor may count. -/
inductive Encoding where
  /-- Bytes. -/
  | utf8
  /-- Two-byte units. -/
  | utf16
  /-- Code points. -/
  | utf32
  deriving DecidableEq, Repr

namespace Encoding

/-- All encodings. -/
def all : List Encoding := [.utf8, .utf16, .utf32]

/-- The name of an encoding. -/
def name : Encoding → String
  | .utf8 => "utf-8"
  | .utf16 => "utf-16"
  | .utf32 => "utf-32"

/-- The encoding of a given name. -/
def ofName? (s : Text) : Option Encoding :=
  all.find? fun encoding => .ofString encoding.name = s

/-- The units that each code point takes in an encoding. -/
def width : Encoding → CodePoint → Nat
  | .utf8 => Text.Utf8.width
  | .utf16 => fun c => if c.code ≤ 0xFFFF then 1 else 2
  | .utf32 => fun _ => 1

/-- The units that a text takes in an encoding. -/
def size (encoding : Encoding) (text : Text) : Nat :=
  text.foldl (fun n c => n + encoding.width c) 0

/-- Columns counted in the units of an encoding. -/
def measure (encoding : Encoding) : Measure := fun text => encoding.size text

@[simp] theorem size_nil (encoding : Encoding) : encoding.size [] = 0 := rfl

/-- Counting on from a number adds the units of the rest to it. -/
theorem foldl_add (encoding : Encoding) (text : Text) (n : Nat) :
    text.foldl (fun n c => n + encoding.width c) n = n + encoding.size text := by
  induction text generalizing n with
  | nil => rfl
  | cons c text ih =>
    simp only [size, List.foldl_cons, Nat.zero_add]
    rw [ih, ih (encoding.width c)]
    omega

/-- A code point in front adds its own units. -/
@[simp] theorem size_cons (encoding : Encoding) (c : CodePoint) (text : Text) :
    encoding.size (c :: text) = encoding.width c + encoding.size text := by
  rw [size, List.foldl_cons, foldl_add, Nat.zero_add]

/-- The units of two texts in a row are those of both. -/
@[simp] theorem size_append (encoding : Encoding) (a b : Text) :
    encoding.size (a ++ b) = encoding.size a + encoding.size b := by
  induction a with
  | nil => simp
  | cons c a ih => simp [ih, Nat.add_assoc]

/-- Columns in four-byte units are code point offsets. -/
theorem measure_utf32 : utf32.measure = Measure.codePoints := by
  funext text
  have hsize : utf32.size text = text.length := by
    induction text with
    | nil => rfl
    | cons c text ih =>
      rw [size_cons, ih, List.length_cons, Nat.add_comm]
      rfl
  rw [measure, hsize]
  rfl

end Encoding

end Crontab
