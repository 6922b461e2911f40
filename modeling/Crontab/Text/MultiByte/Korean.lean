import Std.Data.TreeSet
import Crontab.Text.MultiByte
import Crontab.Text.Plane.Ks

/-!
# Korean charsets

A plane holds the common syllables. One extension gives codes to the remaining ones, in their order;
in another charset the bits of a code name the letters of which a syllable is made.
-/

namespace Crontab.Text

/-- The character in a cell of the Korean plane. One cell introduces a syllable that is made up of
letters; no file in UTF-8 has the bytes of one, and it is left out. -/
def ks? (row cell : Nat) : Option Char :=
  if (row, cell) = (3, 51) then none else ks.char? row cell

/-- The character in a cell of the Korean plane that is named by two bytes of the upper half. -/
def ksUpper? (a b : Nat) : Option Char :=
  if a < upperFirst || b < upperFirst then none else ks? (a - upperFirst) (b - upperFirst)

/-- The syllables that the plane lacks, in order. -/
def otherSyllables : Array Char :=
  let present := Std.TreeSet.ofList ((ks.rows.flatMap String.toList).map Char.toNat)
  let block := (List.range' 0xAC00 0x2BA4).filter fun code => !present.contains code
  (block.map Char.ofNat).toArray

/-- The place of a second byte among those that letters and the upper half give. -/
def hangulTrail? (b : Nat) : Option Nat :=
  if 0x41 ≤ b ∧ b ≤ 0x5A then some (b - 0x41)
  else if 0x61 ≤ b ∧ b ≤ 0x7A then some (b - 0x47)
  else if 0x81 ≤ b ∧ b ≤ 0xFE then some (b - 0x4D) else none

/-- The character of two bytes where every syllable has a code. -/
def unified? (a b : Nat) : Option Char :=
  let place := (hangulTrail? b).bind fun trail =>
    if 0x81 ≤ a ∧ a ≤ 0xA0 then some ((a - 0x81) * 178 + trail)
    else if 0xA1 ≤ a ∧ trail < 84 then some (32 * 178 + (a - 0xA1) * 84 + trail)
    else none
  (ks.upper? a b).or (place.bind fun place => otherSyllables[place]?)

/-- The letters that begin a syllable. -/
def initials : List Char := "ㄱㄲㄴㄷㄸㄹㅁㅂㅃㅅㅆㅇㅈㅉㅊㅋㅌㅍㅎ".toList

/-- The vowels. -/
def vowels : List Char := "ㅏㅐㅑㅒㅓㅔㅕㅖㅗㅘㅙㅚㅛㅜㅝㅞㅟㅠㅡㅢㅣ".toList

/-- The letters that end a syllable. -/
def finals : List Char := "ㄱㄲㄳㄴㄵㄶㄷㄹㄺㄻㄼㄽㄾㄿㅀㅁㅂㅄㅅㅆㅇㅈㅊㅋㅌㅍㅎ".toList

/-- The values of five bits that name vowels. -/
def vowelBits : List Nat :=
  List.range' 3 5 ++ (List.range' 10 6 ++ (List.range' 18 6 ++ List.range' 26 4))

/-- The values of five bits that name letters at the end. -/
def finalBits : List Nat := List.range' 2 16 ++ List.range' 19 11

/-- A letter that is named by five bits: a number, or nothing for a place that is left empty. -/
def jamo? (filler : Nat) (named : List Nat) (bits : Nat) : Option (Option Nat) :=
  if bits = filler then some none else (named.idxOf? bits).map some

/-- The character that an initial, a vowel and a final make. A letter on its own is that letter. -/
def composed? : Option Nat → Option Nat → Option Nat → Option Char
  | some i, some v, f =>
    let last := match f with
      | some f => f + 1
      | none => 0
    some (Char.ofNat (0xAC00 + (i * 21 + v) * 28 + last))
  | some i, none, none => initials[i]?
  | none, some v, none => vowels[v]?
  | none, none, some f => finals[f]?
  | none, none, none => some '\u3000'
  | _, _, _ => none

/-- The syllable or letter of two bytes whose bits name letters. -/
def lettered? (a b : Nat) : Option Char := do
  let code := a * 256 + b
  let i ← jamo? 1 (List.range' 2 19) (code / 1024 % 32)
  let v ← jamo? 2 vowelBits (code / 32 % 32)
  let f ← jamo? 1 finalBits (code % 32)
  composed? i v f

/-- The cell of the plane that two bytes name where syllables are spelled by letters. Letters are
not among them. -/
def letterlessCell? (a b : Nat) : Option (Nat × Nat) := do
  let trail ← if 0x31 ≤ b ∧ b ≤ 0x7E then some (b - 0x31)
    else if 0x91 ≤ b ∧ b ≤ 0xFE then some (b - 0x43) else none
  let row ← if 0xD9 ≤ a ∧ a ≤ 0xDE then some (2 * (a - 0xD9))
    else if 0xE0 ≤ a ∧ a ≤ 0xF9 then some (2 * (a - 0xE0) + 41) else none
  if a = 0xDA ∧ 0xA1 ≤ b ∧ b ≤ 0xD3 then none else return (row + trail / 94, trail % 94)

/-- The character of two bytes where the bits of a code name letters. -/
def johab? (a b : Nat) : Option Char :=
  if a < 0x80 then none
  else if a < 0xD8 then lettered? a b
  else (letterlessCell? a b).bind fun (row, cell) => ks.char? row cell

/-- The Korean charsets. -/
def korean : List MultiByte :=
  [.overAscii ["euc_kr", "euckr", "korean", "ks_c_5601", "ks_c_5601_1987", "ks_x_1001", "ksc5601",
      "ksx1001", "x_mac_korean"] ksUpper?,
    .overAscii ["cp949", "949", "ms949", "uhc"] unified?,
    .overAscii ["johab", "cp1361", "ms1361"] johab?]

end Crontab.Text
