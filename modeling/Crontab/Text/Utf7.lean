import Crontab.Text.Units

/-!
# UTF-7

A text in ASCII alone. A plus sign opens a run of base 64 digits, which hold sixteen-bit units; any
other character ends the run, and a minus sign that does so is dropped. A plus sign and a minus sign
together stand for the plus sign.
-/

namespace Crontab.Text.Utf7

/-- The value of a base 64 digit. -/
def digit? (byte : Nat) : Option Nat :=
  if 0x41 ≤ byte ∧ byte ≤ 0x5A then some (byte - 0x41)
  else if 0x61 ≤ byte ∧ byte ≤ 0x7A then some (byte - 0x61 + 26)
  else if 0x30 ≤ byte ∧ byte ≤ 0x39 then some (byte - 0x30 + 52)
  else if byte = 0x2B then some 62
  else if byte = 0x2F then some 63
  else none

/-- Where reading stands. -/
inductive Place where
  /-- Among characters that stand for themselves. -/
  | direct
  /-- Right after a plus sign. -/
  | opened
  /-- In a run, with `count` bits left over from its digits. -/
  | shifted (bits count : Nat)
  deriving DecidableEq, Repr

/-- A text being put together. -/
structure Scan where
  /-- What has been read. -/
  units : Units.Scan
  /-- Where reading stands. -/
  place : Place

namespace Scan

/-- Reads a byte among characters that stand for themselves. -/
def direct (units : Units.Scan) (byte : Nat) : Option Scan :=
  if byte = 0x2B then some ⟨units, .opened⟩
  else if byte ≤ 0x7F then some ⟨units.point (.ofCode byte), .direct⟩
  else none

/-- Reads a digit of a run. -/
def shift (units : Units.Scan) (bits count digit : Nat) : Scan :=
  let bits := bits * 64 + digit
  let count := count + 6
  if count < 16 then ⟨units, .shifted bits count⟩
  else ⟨units.unit (bits / Nat.pow 2 (count - 16)),
    .shifted (bits % Nat.pow 2 (count - 16)) (count - 16)⟩

/-- The bits left over from a run say nothing: they are too few for a digit, and all zero. -/
def isSpent (bits count : Nat) : Bool := count < 6 && bits = 0

/-- Reads one byte. -/
def read (scan : Scan) (byte : UInt8) : Option Scan :=
  let b := byte.toNat
  match scan.place with
  | .direct => direct scan.units b
  | .opened =>
    if b = 0x2D then some ⟨scan.units.point '+', .direct⟩
    else (digit? b).map (shift scan.units 0 0)
  | .shifted bits count =>
    match digit? b with
    | some digit => some (shift scan.units bits count digit)
    | none =>
      if !isSpent bits count then none
      else if b = 0x2D then some ⟨⟨scan.units.settled, none⟩, .direct⟩
      else direct scan.units b

/-- Nothing is left unfinished. -/
def isDone (scan : Scan) : Bool :=
  match scan.place with
  | .shifted bits count => scan.units.high.isNone && isSpent bits count
  | _ => true

end Scan

/-- The text that some bytes spell. -/
def decode? (bytes : List UInt8) : Option Text := do
  let scan ← bytes.foldlM Scan.read ⟨.start, .direct⟩
  if scan.isDone then some scan.units.text else none

end Crontab.Text.Utf7
