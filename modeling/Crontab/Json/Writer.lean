import Crontab.Json
import Crontab.Text.Hex

/-!
# Writing JSON

A value is written on one line in ASCII and without blanks. Every other character of a text is given
by its number, in sixteen-bit units, so that every value can be written.
-/

namespace Crontab.Json

/-- Appends a unit by its number. -/
def writeUnit (out : String) (n : Nat) : String := out ++ "\\u" ++ (Text.Hex.padded 4 n).shown

/-- The letter that a character is written with after a backslash. -/
def letter? (n : Nat) : Option Char :=
  [(0x22, '\x22'), (0x5C, '\\'), (0x0A, 'n'), (0x0D, 'r'), (0x09, 't'), (0x0C, 'f'),
    (0x08, 'b')].lookup n

/-- A character stands in a text as it is. -/
def isPlain (n : Nat) : Bool := 0x20 ≤ n && n < 0x7F && n ≠ 0x22 && n ≠ 0x5C

/-- Appends a code point of a text. -/
def writePoint (out : String) (c : CodePoint) : String :=
  let n := c.code
  if isPlain n then out.push (Char.ofNat n)
  else
    match letter? n with
    | some letter => (out.push '\\').push letter
    | none =>
      if n < 0x10000 then writeUnit out n
      else
        let rest := n - 0x10000
        writeUnit (writeUnit out (0xD800 + rest / 0x400)) (0xDC00 + rest % 0x400)

/-- Appends a text between quotes. -/
def writeText (out : String) (text : Text) : String :=
  (text.foldl writePoint (out.push '\x22')).push '\x22'

mutual

/-- Appends a value. -/
def write (out : String) : Json → String
  | .null => out ++ "null"
  | .bool b => out ++ (if b then "true" else "false")
  | .int n => out ++ toString n
  | .real d => out ++ d.text.shown
  | .infinity negative => out ++ (if negative then "-Infinity" else "Infinity")
  | .nan => out ++ "NaN"
  | .string s => writeText out s
  | .array items => (writeItems (out.push '[') "" items).push ']'
  | .object fields => (writeFields (out.push '\x7b') "" fields).push '\x7d'

/-- Appends the items of a list, with `mark` in front of the first one. -/
def writeItems (out mark : String) : List Json → String
  | [] => out
  | v :: rest => writeItems (write (out ++ mark) v) "," rest

/-- Appends the fields of an object, with `mark` in front of the first one. -/
def writeFields (out mark : String) : List (Text × Json) → String
  | [] => out
  | (name, v) :: rest =>
    writeFields (write (writeText (out ++ mark) name ++ ":") v) "," rest

end

/-- A value as a line of text. -/
def toLine (v : Json) : String := write "" v

end Crontab.Json
