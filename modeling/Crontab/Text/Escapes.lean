import Crontab.Text.Names
import Crontab.Text.Reading

/-!
# Escapes

Charsets in which a byte stands for the character of the same number, and a backslash introduces an
escape. One of them knows only escapes that give a character by its number.
-/

namespace Crontab.Text.Escapes

/-- What a single letter or sign after a backslash stands for. -/
def simple : List (Char × Text) :=
  [('\n', []), ('\\', ['\\']), ('\x27', ['\x27']), ('\x22', ['\x22']), ('b', ['\x08']),
    ('t', ['\t']), ('n', ['\n']), ('r', ['\r']), ('f', ['\x0c']), ('v', ['\x0b']), ('a', ['\x07'])]

/-- The number of hexadecimal digits after a letter. -/
def widths : List (Char × Nat) := [('x', 2), ('u', 4), ('U', 8)]

/-- The code point that a fixed number of hexadecimal digits in front gives. -/
def ofHex? (width : Nat) (bytes : List Nat) : Option CodePoint := do
  let digits := bytes.take width
  let value ← digits.foldlM (fun value b => (Hex.digit? b).map (value * 16 + ·)) 0
  if digits.length = width ∧ value ≤ 0x10FFFF then some (.ofCode value) else none

/-- A byte is an octal digit. -/
def isOctal (byte : Nat) : Bool := 0x30 ≤ byte && byte ≤ 0x37

/-- Reads a name in braces: the code point, and the number of bytes. -/
def named? (bytes : List Nat) : Option (CodePoint × Nat) :=
  match bytes.map Char.ofNat with
  | '\x7b' :: rest => do
    let name := rest.takeWhile (· ≠ '\x7d')
    if name.length = rest.length then none
    else (Names.find? name).map fun code => (.ofCode code, name.length + 2)
  | _ => none

/-- Reads an escape of the richer charset: the text, and the number of bytes after the backslash.
A backslash in front of anything else stays. -/
def escape? : List Nat → Option (Text × Nat)
  | [] => none
  | byte :: rest =>
    let c := Char.ofNat byte
    if let some text := simple.lookup c then some (text, 1)
    else if let some width := widths.lookup c then
      (ofHex? width rest).map fun point => ([point], width + 1)
    else if isOctal byte then
      let digits := ((byte :: rest).take 3).takeWhile isOctal
      some ([.ofCode (digits.foldl (fun value b => value * 8 + (b - 0x30)) 0)], digits.length)
    else if c = 'N' then (named? rest).map fun (point, used) => ([point], used + 1)
    else some (['\\', .ofCode byte], 1)

/-- Reads an escape of the plainer charset. A backslash at the end stays. -/
def plainEscape? : List Nat → Option (Text × Nat)
  | [] => some (['\\'], 0)
  | byte :: rest =>
    if byte = 'u'.toNat then (ofHex? 4 rest).map fun point => ([point], 5)
    else if byte = 'U'.toNat then (ofHex? 8 rest).map fun point => ([point], 9)
    else some (['\\', .ofCode byte], 1)

/-- Reads a byte. -/
def next (isPlain : Bool) (_ : Unit) (byte : Nat) (rest : List Nat) :
    Except ReadFault (Step Unit) :=
  if byte ≠ '\\'.toNat then .ok ⟨(), [.ofCode byte], 0⟩
  else
    match if isPlain then plainEscape? rest else escape? rest with
    | some (text, used) => .ok ⟨(), text, used⟩
    | none => .error .bytes

/-- The text that some bytes spell. -/
def decode (isPlain : Bool) (bytes : List UInt8) : Except ReadFault Text :=
  readBytes (next isPlain) () [] (bytes.map UInt8.toNat)

end Crontab.Text.Escapes
