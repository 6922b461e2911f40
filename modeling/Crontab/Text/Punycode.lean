import Crontab.Text.Reading

/-!
# Punycode

A text in ASCII alone. Its characters of ASCII stand in front of the last hyphen; the letters and
digits after it tell where the other characters are inserted, in order of their numbers. Each of
these is given by a number to base 36 whose digits weigh more or less as the text goes on.
-/

namespace Crontab.Text.Punycode

/-- The value of a digit. Case does not matter. -/
def digit? (byte : Nat) : Option Nat :=
  if 0x41 ≤ byte ∧ byte ≤ 0x5A then some (byte - 0x41)
  else if 0x61 ≤ byte ∧ byte ≤ 0x7A then some (byte - 0x61)
  else if 0x30 ≤ byte ∧ byte ≤ 0x39 then some (byte - 0x30 + 26)
  else none

/-- A digit below this is the last one of its number. -/
def threshold (bias place : Nat) : Nat := min 26 (max 1 (36 * (place + 1) - bias))

/-- Reads a number and gives the bytes after it. -/
def number? (bias place weight value : Nat) : List Nat → Option (Nat × List Nat)
  | [] => none
  | byte :: rest =>
    match digit? byte with
    | none => none
    | some digit =>
      let limit := threshold bias place
      let value := value + digit * weight
      if digit < limit then some (value, rest)
      else number? bias (place + 1) (weight * (36 - limit)) value rest

/-- A number takes at least one byte. -/
theorem number?_shortens {bias place weight value number : Nat} {bytes rest : List Nat}
    (h : number? bias place weight value bytes = some (number, rest)) :
    rest.length < bytes.length := by
  induction bytes generalizing place weight value with
  | nil => simp [number?] at h
  | cons byte tail ih =>
    rw [number?] at h
    split at h
    · cases h
    · dsimp only at h
      split at h
      · cases h
        exact Nat.lt_succ_self _
      · exact Nat.lt_succ_of_lt (ih h)

/-- Divides a distance by 35 until it is small, and counts 36 for each time. -/
def settle (distance count : Nat) : Nat × Nat :=
  if 455 < distance then settle (distance / 35) (count + 36) else (distance, count)
termination_by distance

/-- The bias after a number, for a text that has grown to `length`. -/
def adapt (number length : Nat) (isFirst : Bool) : Nat :=
  let distance := number / (if isFirst then 700 else 2)
  let (distance, count) := settle (distance + distance / length) 0
  count + 36 * distance / (distance + 38)

/-- A text into which characters are being inserted. -/
structure Scan where
  /-- The text. -/
  text : Text
  /-- The number of the last character. -/
  code : Nat := 0x80
  /-- The place behind the last character. -/
  place : Nat := 0
  /-- The bias of the next number. -/
  bias : Nat := 72
  /-- No character has been inserted. -/
  isFirst : Bool := true

/-- Inserts the character that a number gives. It counts the places that are passed over, and a new
round over the text stands for the next character. -/
def Scan.insert (scan : Scan) (number : Nat) : Option Scan :=
  let size := scan.text.length + 1
  let place := scan.place + number
  let code := scan.code + place / size
  if 0x10FFFF < code then none
  else
    let text := scan.text.take (place % size) ++ .ofCode code :: scan.text.drop (place % size)
    some ⟨text, code, place % size + 1, adapt number size scan.isFirst, false⟩

/-- Inserts characters until the bytes are used up. -/
def insertAll (scan : Scan) (bytes : List Nat) : Option Text :=
  match bytes with
  | [] => some scan.text
  | byte :: rest =>
    match h : number? scan.bias 0 1 0 (byte :: rest) with
    | none => none
    | some (number, rest') =>
      have : rest'.length < (byte :: rest).length := number?_shortens h
      match scan.insert number with
      | none => none
      | some scan => insertAll scan rest'
termination_by bytes.length
decreasing_by assumption

/-- The bytes in front of the last hyphen and those after it. -/
def parts (bytes : List Nat) : List Nat × List Nat :=
  let after := (bytes.reverse.takeWhile (· ≠ '-'.toNat)).reverse
  (bytes.take (bytes.length - after.length - 1), after)

/-- The text that bytes of ASCII spell. -/
def ofAscii? (bytes : List Nat) : Option Text :=
  let (base, extended) := parts bytes
  insertAll { text := base.map .ofCode } extended

/-- The text that some bytes spell. -/
def decode (bytes : List UInt8) : Except ReadFault Text :=
  let bytes := bytes.map UInt8.toNat
  if bytes.any (0x80 ≤ ·) then .error .bytes
  else
    match ofAscii? bytes with
    | some text => .ok text
    | none => .error .whole

end Crontab.Text.Punycode
