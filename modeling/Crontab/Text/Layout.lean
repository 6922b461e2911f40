import Crontab.Text.Units
import Crontab.Text.Utf8

/-!
# Layouts of Unicode text

How the characters of a text are laid out in bytes: as UTF-8, or in units of two or four bytes, of
which either end can come first.
-/

namespace Crontab.Text

/-- The order of the bytes within a unit. -/
inductive ByteOrder where
  /-- The most significant byte is first. -/
  | big
  /-- The least significant byte is first. -/
  | little
  deriving DecidableEq, Repr

/-- How the characters of a text are laid out in bytes. -/
inductive Layout where
  /-- Bytes of UTF-8. -/
  | bytes
  /-- Units of `size` bytes each. -/
  | units (size : Nat) (order : ByteOrder)
  deriving DecidableEq, Repr

namespace Layout

/-- Units being put together from bytes. -/
structure Scan where
  /-- How many bytes of the unit under way have been read. -/
  count : Nat
  /-- The value of these bytes. -/
  value : Nat
  /-- The complete units, latest first. -/
  done : List Nat

/-- Reads one more byte of a unit. -/
def Scan.read (size : Nat) (order : ByteOrder) (scan : Scan) (byte : UInt8) : Scan :=
  let value := match order with
    | .big => scan.value * 256 + byte.toNat
    | .little => scan.value + byte.toNat * Nat.pow 256 scan.count
  if scan.count + 1 < size then ⟨scan.count + 1, value, scan.done⟩
  else ⟨0, 0, value :: scan.done⟩

/-- The units that some bytes make up, if none is left over. -/
def units? (size : Nat) (order : ByteOrder) (bytes : List UInt8) : Option (List Nat) :=
  let scan := bytes.foldl (Scan.read size order) ⟨0, 0, []⟩
  if scan.count = 0 then some scan.done.reverse else none

/-- The mark that may stand in front of a text to tell its layout. -/
def mark : Layout → List UInt8
  | .bytes => [0xEF, 0xBB, 0xBF]
  | .units size .big => List.replicate (size - 2) 0 ++ [0xFE, 0xFF]
  | .units size .little => [0xFF, 0xFE] ++ List.replicate (size - 2) 0

/-- The text that some bytes spell in a layout. There may be surrogates on their own in it. -/
def decode? (bytes : List UInt8) : Layout → Option Text
  | .bytes => Utf8.decode? true bytes
  | .units size order => do
    let units ← units? size order bytes
    if size = 2 then some (Units.toText units)
    else if units.all (· ≤ 0x10FFFF) then some (units.map CodePoint.ofCode)
    else none

end Layout

/-- Bytes without a mark in front. -/
def withoutMark (mark bytes : List UInt8) : List UInt8 :=
  if mark.isPrefixOf bytes then bytes.drop mark.length else bytes

theorem withoutMark_append (mark bytes : List UInt8) : withoutMark mark (mark ++ bytes) = bytes := by
  have hfront : mark.isPrefixOf (mark ++ bytes) = true :=
    List.isPrefixOf_iff_prefix.mpr (List.prefix_append mark bytes)
  rw [withoutMark, if_pos hfront, List.drop_left]

end Crontab.Text
