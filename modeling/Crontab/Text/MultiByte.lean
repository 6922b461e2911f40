import Crontab.Text.Plane
import Crontab.Text.Reading

/-!
# Several bytes to a character

Charsets in which a character takes one, two or three bytes. The first byte tells whether it stands
alone.
-/

namespace Crontab.Text

/-- A charset with several bytes to a character. -/
structure MultiByte where
  /-- Its names. The first is its proper name. -/
  names : List String
  /-- The character of a byte that stands alone. -/
  single : Nat → Option Char
  /-- What two bytes stand for. -/
  pair : Nat → Nat → Option Text
  /-- What three bytes stand for. -/
  triple : Nat → Nat → Nat → Option Text := fun _ _ _ => none

namespace MultiByte

/-- The character of a byte in ASCII. -/
def ascii? (byte : Nat) : Option Char := if byte < 0x80 then some (Char.ofNat byte) else none

/-- A character as the text that two bytes stand for. -/
def one (c : Option Char) : Option Text := c.map fun c => [c]

/-- A charset in which one byte is a character of ASCII. -/
def overAscii (names : List String) (pair : Nat → Nat → Option Char) : MultiByte where
  names
  single := ascii?
  pair a b := one (pair a b)

/-- Reads the next character: the text, and how many bytes after the first it takes. -/
def next? (charset : MultiByte) (byte : Nat) (rest : List Nat) : Option (Text × Nat) :=
  let one := (charset.single byte).map fun c => ([(c : CodePoint)], 0)
  let two := rest.head?.bind fun b => (charset.pair byte b).map (·, 1)
  let three := match rest with
    | b :: c :: _ => (charset.triple byte b c).map (·, 2)
    | _ => none
  one.or (two.or three)

/-- The text that some bytes spell. -/
def decode (charset : MultiByte) (bytes : List UInt8) : Except ReadFault Text :=
  let next (_ : Unit) (byte : Nat) (rest : List Nat) : Except ReadFault (Step Unit) :=
    match charset.next? byte rest with
    | some (text, used) => .ok ⟨(), text, used⟩
    | none => .error .bytes
  readBytes next () [] (bytes.map UInt8.toNat)

end MultiByte

end Crontab.Text
