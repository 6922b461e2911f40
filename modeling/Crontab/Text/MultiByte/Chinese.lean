import Std.Data.TreeSet
import Crontab.Text.MultiByte
import Crontab.Text.Plane.Big
import Crontab.Text.Plane.Gb
import Crontab.Text.Plane.Hong

/-!
# Chinese charsets

The charsets of the mainland extend a plane of simplified ideographs: the cells around it hold the
remaining ideographs of Unicode's first block, in its order. Those of Taiwan and Hong Kong have rows
of 157 cells.
-/

namespace Crontab.Text

/-- Symbols that stand outside the plane or replace one of it. -/
def gbkSymbols : List Stretch :=
  [⟨0xA1A4, "·"⟩, ⟨0xA1AA, "—"⟩, ⟨0xA2A1, "ⅰⅱⅲⅳⅴⅵⅶⅷⅸⅹ"⟩, ⟨0xA6E0, "︵︶︹︺︿﹀︽︾﹁﹂﹃﹄"⟩,
    ⟨0xA6EE, "︻︼︷︸︱"⟩, ⟨0xA6F4, "︳︴"⟩,
    ⟨0xA840, "ˊˋ˙–―‥‵℅℉↖↗↘↙∕∟∣≒≦≧⊿═║╒╓╔╕╖╗╘╙╚╛╜╝╞╟╠╡╢╣╤╥╦╧╨╩╪╫╬╭╮╯╰╱╲╳▁▂▃▄▅▆▇"⟩,
    ⟨0xA880, "█▉▊▋▌▍▎▏▓▔▕▼▽◢◣◤◥☉⊕〒〝〞"⟩, ⟨0xA8BB, "ɑ"⟩, ⟨0xA8BD, "ńň"⟩, ⟨0xA8C0, "ɡ"⟩,
    ⟨0xA940, "〡〢〣〤〥〦〧〨〩㊣㎎㎏㎜㎝㎞㎡㏄㏎㏑㏒㏕︰￢￤"⟩, ⟨0xA959, "℡㈱"⟩, ⟨0xA95C, "‐"⟩,
    ⟨0xA960, "ー゛゜ヽヾ〆ゝゞ﹉﹊﹋﹌﹍﹎﹏﹐﹑﹒﹔﹕﹖﹗﹙﹚﹛﹜﹝﹞﹟﹠﹡"⟩, ⟨0xA980, "﹢﹣﹤﹥﹦﹨﹩﹪﹫"⟩, ⟨0xA996, "〇"⟩]

/-- The ideographs that the plane lacks: those of the first block in order, and some of the
compatibility block. -/
def otherIdeographs : Array Char :=
  let present := Std.TreeSet.ofList ((gb.rows.flatMap String.toList).map Char.toNat)
  let block := (List.range' 0x4E00 0x51A6).filter fun code => !present.contains code
  let compatible :=
    [0xF92C, 0xF979, 0xF995, 0xF9E7, 0xF9F1, 0xFA0C, 0xFA0D, 0xFA0E, 0xFA0F, 0xFA11, 0xFA13,
      0xFA14, 0xFA18, 0xFA1F, 0xFA20, 0xFA21, 0xFA23, 0xFA24, 0xFA27, 0xFA28, 0xFA29]
  ((block ++ compatible).map Char.ofNat).toArray

/-- The place of a second byte that may also be of the lower half. -/
def gbkTrail? (b : Nat) : Option Nat :=
  if 0x40 ≤ b ∧ b ≤ 0x7E then some (b - 0x40)
  else if 0x80 ≤ b ∧ b ≤ 0xFE then some (b - 0x41) else none

/-- The character of two bytes in GBK. -/
def gbk? (a b : Nat) : Option Char :=
  let place := (gbkTrail? b).bind fun trail =>
    if 0x81 ≤ a ∧ a ≤ 0xA0 then some ((a - 0x81) * 190 + trail)
    else if 0xAA ≤ a ∧ a ≤ 0xFE ∧ trail < 96 then some (32 * 190 + (a - 0xAA) * 96 + trail)
    else none
  (Stretch.char? gbkSymbols (a * 256 + b)).or
    ((gb.upper? a b).or (place.bind fun place => otherIdeographs[place]?))

/-- Characters that were added to GBK later. -/
def laterSymbols : List Stretch :=
  [⟨0xA2E3, "€"⟩, ⟨0xA8BF, "ǹ"⟩, ⟨0xA989, "〾⿰⿱⿲⿳⿴⿵⿶⿷⿸⿹⿺⿻"⟩, ⟨0xFE50, "⺁"⟩, ⟨0xFE54, "⺄㑳㑇⺈⺋"⟩,
    ⟨0xFE5A, "㖞㘚㘎⺌⺗㥮㤘"⟩, ⟨0xFE62, "㧏㧟㩳㧐"⟩, ⟨0xFE68, "㭎㱮㳠⺧"⟩, ⟨0xFE6E, "⺪䁖䅟⺮䌷⺳⺶⺷"⟩,
    ⟨0xFE77, "䎱䎬⺻䏝䓖䙡䙌"⟩, ⟨0xFE80, "䜣䜩䝼䞍⻊䥇䥺䥽䦂䦃䦅䦆䦟䦛䦷䦶"⟩, ⟨0xFE92, "䲣䲟䲠䲡䱷䲢䴓䴔䴕䴖䴗䴘䴙䶮"⟩]

/-- The codes among the characters of GBK that have none, in order. -/
def gbkHoles : List Nat :=
  let row (a first last : Nat) := (List.range' first (last + 1 - first)).map (a, ·)
  let codes := (List.range' 0xA2 6).flatMap (row · 0xA1 0xFE) ++
    (row 0xA8 0x40 0xFE ++ row 0xA9 0x40 0xFE ++ row 0xD7 0xFA 0xFE ++ row 0xFE 0x50 0xA0)
  (codes.filter fun (a, b) => b ≠ 0x7F && (gbk? a b).isNone).map fun (a, b) => a * 256 + b

/-- The private character of two bytes in GB 18030: whole rows come first, then the half rows in
front of the plane, then the codes in between. -/
def gbPrivate? (a b : Nat) : Option Char :=
  let number :=
    if 0xAA ≤ a ∧ a ≤ 0xAF ∧ 0xA1 ≤ b ∧ b ≤ 0xFE then some ((a - 0xAA) * 94 + (b - 0xA1))
    else if 0xF8 ≤ a ∧ a ≤ 0xFE ∧ 0xA1 ≤ b ∧ b ≤ 0xFE then some ((a - 0xF2) * 94 + (b - 0xA1))
    else if 0xA1 ≤ a ∧ a ≤ 0xA7 ∧ b < 0xA1 then
      (gbkTrail? b).map fun trail => 13 * 94 + (a - 0xA1) * 96 + trail
    else (gbkHoles.idxOf? (a * 256 + b)).map (13 * 94 + 7 * 96 + ·)
  number.map fun number => Char.ofNat (0xE000 + number)

/-- The character of two bytes in GB 18030. Codes of four bytes have a digit of ASCII on both sides
of the third; no file in UTF-8 has a byte of the upper half there, and they are left out. -/
def gb18030? (a b : Nat) : Option Char :=
  (gbk? a b).or ((Stretch.char? laterSymbols (a * 256 + b)).or (gbPrivate? a b))

/-- The cell of a second byte in rows of 157 cells. -/
def bigTrail? (b : Nat) : Option Nat :=
  if 0x40 ≤ b ∧ b ≤ 0x7E then some (b - 0x40)
  else if 0xA1 ≤ b ∧ b ≤ 0xFE then some (b - 0x62) else none

/-- The character of two bytes in a plane whose rows have 157 cells and begin with `lead`. -/
def bigCell? (plane : Plane) (lead a b : Nat) : Option Char :=
  if a < lead then none else (bigTrail? b).bind (plane.char? (a - lead))

/-- The character of two bytes in Big5. -/
def big5? : Nat → Nat → Option Char := bigCell? big 0xA1

/-- Changes and additions to Big5 on machines of Windows. -/
def windowsSymbols : List Stretch :=
  [⟨0xA145, "‧"⟩, ⟨0xA14E, "﹑"⟩, ⟨0xA1C2, "¯"⟩, ⟨0xA1E3, "～"⟩, ⟨0xA1F2, "⊕⊙"⟩, ⟨0xA241, "∕﹨"⟩,
    ⟨0xA244, "￥"⟩, ⟨0xA246, "￠￡"⟩, ⟨0xA3E1, "€"⟩,
    ⟨0xF9D6, "碁銹裏墻恒粧嫺╔╦╗╠╬╣╚╩╝╒╤╕╞╪╡╘╧╛╓╥╖╟╫╢╙╨╜║═╭╮╰╯▓"⟩]

/-- The codes of Hong Kong that stand for a letter with an accent after it. -/
def hongPairs : List (Nat × String) :=
  [(0x8862, "Ê\u0304"), (0x8864, "Ê\u030c"), (0x88A3, "ê\u0304"), (0x88A5, "ê\u030c")]

/-- The codes of Big5 that mean nothing in Hong Kong. -/
def hongHoles : List Nat := [0xC6CF, 0xC6D3, 0xC6D5, 0xC6D7, 0xC6DE, 0xC6DF]

/-- What two bytes stand for in Hong Kong. -/
def hong? (a b : Nat) : Option Text :=
  let code := a * 256 + b
  if hongHoles.contains code then none
  else ((hongPairs.lookup code).map Text.ofString).or
    (MultiByte.one ((bigCell? hong 0x87 a b).or (big5? a b)))

/-- The Chinese charsets. -/
def chinese : List MultiByte :=
  [.overAscii ["gb2312", "chinese", "csiso58gb231280", "euc_cn", "euccn", "eucgb2312_cn",
      "gb2312_1980", "gb2312_80", "iso_ir_58", "x_mac_simp_chinese"] gb.upper?,
    .overAscii ["gbk", "936", "cp936", "ms936"] gbk?,
    .overAscii ["gb18030", "gb18030_2000"] gb18030?,
    .overAscii ["big5", "big5_tw", "csbig5", "x_mac_trad_chinese"] big5?,
    .overAscii ["cp950", "950", "ms950"] fun a b =>
      (Stretch.char? windowsSymbols (a * 256 + b)).or (big5? a b),
    ⟨["big5hkscs", "big5_hkscs", "hkscs"], MultiByte.ascii?, hong?, fun _ _ _ => none⟩]

end Crontab.Text
