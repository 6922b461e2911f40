import Crontab.Text.Hex
import Crontab.Text.Utf8

/-!
# Percent escapes

In an address a byte may be written as a percent sign and two hexadecimal digits. Undoing the
escapes leaves alone what is no escape.
-/

namespace Crontab.Web.Percent

/-- The byte that starts an escape. -/
def mark : UInt8 := 0x25

/-- Undoes the escapes in some bytes. -/
def unescape : List UInt8 → List UInt8
  | c :: a :: b :: rest =>
    match Text.Hex.digit? a.toNat, Text.Hex.digit? b.toNat with
    | some high, some low =>
      if c = mark then UInt8.ofNat (16 * high + low) :: unescape rest
      else c :: unescape (a :: b :: rest)
    | _, _ => c :: unescape (a :: b :: rest)
  | rest => rest

/-- The marks that an address may hold as they are. -/
def marks : List Char := "_.-~:/%#?=@[]!$&'()*+,;".toList

/-- A code point may stand in an address as it is. -/
def isPlain : CodePoint → Bool := CodePoint.isIn fun c => c.isAlphanum || marks.contains c

/-- The escape of a byte. -/
def escapeByte (b : UInt8) : Text :=
  .char '%' :: (Text.Hex.padded 2 b.toNat).map (CodePoint.map Char.toUpper)

/-- The escapes of the bytes of a code point. -/
def escapePoint (c : CodePoint) : Text := (Text.Utf8.encodePoint c).flatMap escapeByte

/-- A text as it is written in an address. -/
def escape (text : Text) : Text := text.flatMap fun c => if isPlain c then [c] else escapePoint c

/-- A path as it is written in an address, before anything else in it is escaped: the marks that
would end it are given by their bytes. -/
def sealPath (path : Text) : Text :=
  path.flatMap fun (c : CodePoint) => if c = '?' || c = '#' then escapePoint c else [c]

end Crontab.Web.Percent
