import Crontab.Text.Plane.Gb
import Crontab.Text.Reading

/-!
# HZ

A charset of seven bits for Chinese. A tilde and a brace open and close a passage of two bytes to a
character. Elsewhere a doubled tilde stands for one, and a tilde at the end of a line joins it to
the next.
-/

namespace Crontab.Text.Hz

/-- Reads a byte, in a passage of two bytes to a character if `isOpen`. -/
def next (isOpen : Bool) (byte : Nat) (rest : List Nat) : Except ReadFault (Step Bool) :=
  if 0x80 ≤ byte then .error .bytes
  else if byte = '~'.toNat then
    match rest.head?.map Char.ofNat, isOpen with
    | some '~', false => .ok ⟨false, ['~'], 1⟩
    | some '\x7b', false => .ok ⟨true, [], 1⟩
    | some '\n', false => .ok ⟨false, [], 1⟩
    | some '\x7d', true => .ok ⟨false, [], 1⟩
    | _, _ => .error .bytes
  else if isOpen then
    match rest.head?.bind fun second => gb.upper? (byte + 0x80) (second + 0x80) with
    | some c => .ok ⟨true, [c], 1⟩
    | none => .error .bytes
  else .ok ⟨false, [.ofCode byte], 0⟩

/-- The text that some bytes spell. -/
def decode (bytes : List UInt8) : Except ReadFault Text :=
  readBytes next false [] (bytes.map UInt8.toNat)

end Crontab.Text.Hz
