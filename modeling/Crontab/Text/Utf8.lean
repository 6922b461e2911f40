import Crontab.Text

/-!
# Bytes of a text

A text is sent as UTF-8. Reading takes one byte at a time and keeps what the code point under way
still needs. Only the shortest form of each code point is accepted. A surrogate has to be sent as
the three bytes that its number asks for; most readers refuse these, and some take them.
-/

namespace Crontab.Text.Utf8

/-- The bytes of a code point. -/
def encodePoint : CodePoint → List UInt8
  | .char c => String.utf8EncodeChar c
  | .surrogate n => [0xED, UInt8.ofNat (0xA0 + n / 64), UInt8.ofNat (0x80 + n % 64)]

/-- The bytes of a text. -/
def encode (text : Text) : List UInt8 := text.flatMap encodePoint

/-- How many bytes a code point takes. -/
def width : CodePoint → Nat
  | .char c => c.utf8Size
  | .surrogate _ => 3

/-- What is known between two bytes. -/
structure Scan where
  /-- How many more bytes the code point under way needs. -/
  owed : Nat
  /-- The least that the next of these bytes may be. -/
  least : Nat
  /-- The greatest that the next of these bytes may be. -/
  greatest : Nat
  /-- The bits read of the code point under way. -/
  bits : Nat
  /-- The code points read, the latest first. -/
  text : Text

/-- Between two code points. -/
def Scan.between (text : Text) : Scan := ⟨0, 0x80, 0xBF, 0, text⟩

/-- What the first byte of a code point tells: the bytes owed, the bounds of the next one, and the
first bits. With the greater bound after the first byte of a surrogate, `surrogates` are taken. -/
def lead? (surrogates : Bool) (b : Nat) : Option (Nat × Nat × Nat × Nat) :=
  if 0xC2 ≤ b ∧ b ≤ 0xDF then some (1, 0x80, 0xBF, b - 0xC0)
  else if b = 0xE0 then some (2, 0xA0, 0xBF, 0)
  else if b = 0xED then some (2, 0x80, if surrogates then 0xBF else 0x9F, 0xD)
  else if 0xE1 ≤ b ∧ b ≤ 0xEF then some (2, 0x80, 0xBF, b - 0xE0)
  else if b = 0xF0 then some (3, 0x90, 0xBF, 0)
  else if 0xF1 ≤ b ∧ b ≤ 0xF3 then some (3, 0x80, 0xBF, b - 0xF0)
  else if b = 0xF4 then some (3, 0x80, 0x8F, 4)
  else none

/-- Reads one byte. Surrogates are taken or refused. -/
def Scan.read (surrogates : Bool) (scan : Scan) (byte : UInt8) : Option Scan :=
  let b := byte.toNat
  match scan.owed with
  | 0 =>
    if b ≤ 0x7F then some (.between (.char (Char.ofNat b) :: scan.text))
    else (lead? surrogates b).map fun (owed, least, greatest, bits) =>
      ⟨owed, least, greatest, bits, scan.text⟩
  | owed + 1 =>
    if scan.least ≤ b ∧ b ≤ scan.greatest then
      let bits := scan.bits * 64 + (b - 0x80)
      if owed = 0 then some (.between (.ofCode bits :: scan.text))
      else some ⟨owed, 0x80, 0xBF, bits, scan.text⟩
    else none

/-- The text that some bytes spell, if they spell one. Surrogates are taken or refused. -/
def decode? (surrogates : Bool) (bytes : List UInt8) : Option Text := do
  let scan ← bytes.foldlM (Scan.read surrogates) (.between [])
  if scan.owed = 0 then some scan.text.reverse else none

/-- What stands for bytes that spell nothing. -/
def replacement : CodePoint := '\ufffd'

/-- Gives up on the code point under way, if there is one. -/
def Scan.abandoned (scan : Scan) : Scan :=
  if scan.owed = 0 then scan else .between (replacement :: scan.text)

/-- Reads one byte, and reads on where bytes spell nothing, as those of a surrogate do. A byte that is
no part of the code point under way may still start another one. -/
def Scan.readAny (scan : Scan) (byte : UInt8) : Scan :=
  match scan.read false byte with
  | some next => next
  | none =>
    let scan := scan.abandoned
    (scan.read false byte).getD (.between (replacement :: scan.text))

/-- The text that some bytes spell, with a replacement wherever they spell nothing. -/
def decode (bytes : List UInt8) : Text :=
  (bytes.foldl Scan.readAny (.between [])).abandoned.text.reverse

end Crontab.Text.Utf8
