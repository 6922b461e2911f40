import Crontab.Text.Prepared
import Crontab.Text.Punycode

/-!
# International names

A text in ASCII alone, of labels with points between them. A label with a mark in front is spelled
in Punycode. It has to be what its text is spelled as once that text is prepared.
-/

namespace Crontab.Text.Idna

/-- What stands in front of a label in Punycode. -/
def mark : List Nat := "xn--".toList.map Char.toNat

/-- The longest label. -/
def maxLabel : Nat := 63

/-- A label in Punycode is what its text is spelled as, apart from case. A text in ASCII is spelled
as itself, and a hyphen does not stand in front of a label. -/
def isSpelling (label : List Nat) (text : Text) : Bool :=
  let lower := text.asciiLower
  let (base, extended) := Punycode.parts (label.drop mark.length)
  !extended.isEmpty && (!base.isEmpty || !(label.drop mark.length).contains '-'.toNat) &&
    label.length ≤ maxLabel && lower.isSpelled && Prepared.isPrepared (lower.filterMap (·.char?)) &&
    !(mark.map CodePoint.ofCode).isPrefixOf lower

/-- The text of a label in ASCII. -/
def label? (label : List Nat) : Option Text :=
  if mark.isPrefixOf label then
    (Punycode.ofAscii? (label.drop mark.length)).filter (isSpelling label)
  else some (label.map .ofCode)

/-- The text that some bytes spell. -/
def decode (bytes : List UInt8) : Except ReadFault Text :=
  let bytes := bytes.map UInt8.toNat
  if bytes.any (0x80 ≤ ·) then .error .bytes
  else
    match ((Text.pieces '.' (bytes.map .ofCode)).map fun p => p.map CodePoint.code).mapM label? with
    | some labels => .ok (Text.joined '.' labels)
    | none => .error .whole

end Crontab.Text.Idna
