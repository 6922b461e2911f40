import Crontab.Text.MultiByte
import Crontab.Text.Plane.Jis
import Crontab.Text.Plane.JisMore
import Crontab.Text.Plane.JisSecond
import Crontab.Text.Plane.Makers

/-!
# Japanese charsets

Two families name the cells of the Japanese planes. In one of them the bytes of the upper half count
rows and cells; in the other two rows share a lead byte, and the bytes between leave room for kana
that take one byte each.
-/

namespace Crontab.Text

/-- The standard by which the cells of the planes are filled. -/
inductive JisEdition where
  /-- JIS X 0208 and JIS X 0212. -/
  | plain
  /-- JIS X 0213 as it was first. -/
  | extended
  /-- JIS X 0213 as it was revised. -/
  | revised
  deriving DecidableEq, Repr

namespace JisEdition

/-- What stands in a cell of the first plane. -/
def first? (edition : JisEdition) (row cell : Nat) : Option Text :=
  let added := (jisMore.char? row cell).filter fun _ =>
    !(edition = .extended && jisLatest.contains (row, cell))
  let pair := (jisPairs.lookup (row, cell)).map Text.ofString
  match edition with
  | .plain => MultiByte.one (jis.char? row cell)
  | _ => (MultiByte.one ((jis.char? row cell).or added)).or pair

/-- What stands in a cell of the second plane. -/
def second? (edition : JisEdition) (row cell : Nat) : Option Char :=
  match edition with
  | .plain => if isSupplement row then jisSecond.char? row cell else none
  | .extended => if (row, cell) = (92, 26) then some '鬝' else jisSecond.char? row cell
  | .revised => jisSecond.char? row cell

end JisEdition

/-- The kana of a byte that stands alone. -/
def halfKana? (byte : Nat) : Option Char :=
  if 0xA1 ≤ byte ∧ byte ≤ 0xDF then some (Char.ofNat (0xFF61 + (byte - 0xA1))) else none

/-- A charset of the first family. One byte leads to the kana, and another to the second plane. -/
def eucJapanese (names : List String) (edition : JisEdition) : MultiByte where
  names
  single := MultiByte.ascii?
  pair a b :=
    if a = 0x8E then MultiByte.one (halfKana? b)
    else if a < upperFirst || b < upperFirst then none
    else edition.first? (a - upperFirst) (b - upperFirst)
  triple a b c :=
    if a ≠ 0x8F || b < upperFirst || c < upperFirst then none
    else MultiByte.one (edition.second? (b - upperFirst) (c - upperFirst))

/-- The row and the cell that two bytes name in the second family. -/
def shiftedCell? (a b : Nat) : Option (Nat × Nat) := do
  let lead ← if 0x81 ≤ a ∧ a ≤ 0x9F then some (a - 0x81)
    else if 0xE0 ≤ a ∧ a ≤ 0xFC then some (a - 0xC1) else none
  let trail ← if 0x40 ≤ b ∧ b ≤ 0x7E then some (b - 0x40)
    else if 0x80 ≤ b ∧ b ≤ 0xFC then some (b - 0x41) else none
  return (2 * lead + trail / 94, trail % 94)

/-- A charset of the second family. -/
def shifted (names : List String) (single : Nat → Option Char)
    (text : Nat → Nat → Option Text) : MultiByte where
  names
  single byte := (single byte).or (halfKana? byte)
  pair a b := (shiftedCell? a b).bind fun (row, cell) => text row cell

/-- The rows of the second plane that stand behind the first one in the second family. -/
def rowsBehind : List Nat := [0, 7, 2, 3, 4, 11, 12, 13, 14] ++ List.range' 77 17

/-- What stands in a cell of the second family when it follows JIS X 0213. The two characters that
are lacking among the single bytes are here. -/
def shiftedText? (edition : JisEdition) (row cell : Nat) : Option Text :=
  if (row, cell) = (0, 31) then some ['\\']
  else if (row, cell) = (1, 17) then some ['~']
  else if row < 94 then edition.first? row cell
  else (rowsBehind[row - 94]?).bind fun row => MultiByte.one (edition.second? row cell)

/-- The character of a byte where a yen sign and an overline replace two characters of ASCII. -/
def roman? (byte : Nat) : Option Char :=
  if byte = 0x5C then some '¥' else if byte = 0x7E then some '‾' else MultiByte.ascii? byte

/-- The character of a byte that stands alone where makers have added some. -/
def makersSingle? (byte : Nat) : Option Char :=
  if byte ≤ 0x80 then some (Char.ofNat byte)
  else if byte = 0xA0 then some '\uf8f0'
  else if 0xFD ≤ byte then some (Char.ofNat (0xF8F1 + (byte - 0xFD)))
  else none

/-- What stands in a cell where makers have added some. Behind the first plane there are rows of
private characters. -/
def makersText? (row cell : Nat) : Option Text :=
  if 94 ≤ row ∧ row < 114 then some [.ofCode (0xE000 + (row - 94) * 94 + cell)]
  else MultiByte.one ((makers.char? row cell).or (jis.char? row cell))

/-- The Japanese charsets. -/
def japanese : List MultiByte :=
  [eucJapanese ["euc_jp", "eucjp", "u_jis", "ujis"] .plain,
    eucJapanese ["euc_jis_2004", "euc_jis2004", "eucjis2004", "jisx0213"] .revised,
    eucJapanese ["euc_jisx0213", "eucjisx0213"] .extended,
    shifted ["shift_jis", "csshiftjis", "s_jis", "shiftjis", "sjis", "x_mac_japanese"]
      MultiByte.ascii? JisEdition.plain.first?,
    shifted ["shift_jis_2004", "s_jis_2004", "shiftjis2004", "sjis_2004"]
      roman? (shiftedText? .revised),
    shifted ["shift_jisx0213", "s_jisx0213", "shiftjisx0213", "sjisx0213"]
      roman? (shiftedText? .extended),
    shifted ["cp932", "932", "ms932", "ms_kanji", "mskanji"] makersSingle? makersText?]

end Crontab.Text
