import Crontab.Json
import Crontab.Text.Hex
import Crontab.Text.Units
import Std.Data.TreeMap
import Std.Data.TreeSet

/-!
# Reading JSON

A JSON text is read one code point at a time. The containers that are not yet closed are kept in a
list of frames, and only so many of them may be open at a time. Besides the standard the words
`NaN`, `Infinity` and `-Infinity` are numbers.
-/

namespace Crontab.Json

/-- Why a text gives no value. -/
inductive Fault where
  /-- The text is not JSON. -/
  | malformed
  /-- The text cannot be taken in: its bytes spell no text, a number is too long, or containers are
  nested too deep. -/
  | unreadable
  deriving DecidableEq, Repr

/-- The most digits that a number without a fraction may have. -/
def maxDigits : Nat := 4300

/-- A container that is not yet closed. Contents are kept latest first. -/
inductive Frame where
  /-- A list with the items read so far. -/
  | items (done : List Json)
  /-- An object with the fields read so far, and the name that was read last. -/
  | fields (done : List (Text × Json)) (name : Text)

/-- Where in an escape the reading of a string stands. -/
inductive Escape where
  /-- In none. -/
  | none
  /-- After a backslash. -/
  | begun
  /-- In a character given by number, with the digits still owed and the number so far. -/
  | code (owed : Nat) (n : Nat)

/-- What the next character may be. -/
inductive Mode where
  /-- A value. -/
  | value
  /-- A value, or the end of an empty list. -/
  | firstItem
  /-- A name, or the end of an empty object. -/
  | firstName
  /-- A name. -/
  | name
  /-- The colon after a name. -/
  | colon
  /-- What may follow an item of a list. -/
  | afterItem
  /-- What may follow a field of an object. -/
  | afterField
  /-- Nothing: the whole value is read. -/
  | finished (v : Json)
  /-- More of a string, which may be a name. -/
  | inString (isName : Bool) (scan : Text.Units.Scan) (escape : Escape)
  /-- More of a number. What is read of it is kept latest first. -/
  | inNumber (literal : Text)
  /-- The rest of a word that stands for a value. -/
  | inWord (rest : Text) (v : Json)

/-- A text being read. -/
structure Reader where
  /-- How many more containers may be opened inside the innermost one. -/
  room : Nat
  /-- The containers that are not yet closed, the innermost first. -/
  frames : List Frame
  /-- What may come next. -/
  mode : Mode

namespace Reader

/-- Nothing has been read, and containers may be nested up to a depth. -/
def start (depth : Nat) : Reader := ⟨depth, [], .value⟩

/-- What is expected next, with everything else as it is. -/
def expecting (reader : Reader) (mode : Mode) : Reader := { reader with mode }

/-- The code points between values that mean nothing. -/
def isSpace (c : CodePoint) : Bool := c = ' ' || c = '\t' || c = '\n' || c = '\r'

/-- A value is complete and goes to the innermost container. -/
def complete (reader : Reader) (v : Json) : Reader :=
  match reader.frames with
  | [] => reader.expecting (.finished v)
  | .items done :: outer => ⟨reader.room, .items (v :: done) :: outer, .afterItem⟩
  | .fields done name :: outer =>
    ⟨reader.room, .fields ((name, v) :: done) name :: outer, .afterField⟩

/-- A container opens, if there is room for it. -/
def enter (reader : Reader) (frame : Frame) (mode : Mode) : Except Fault Reader :=
  match reader.room with
  | 0 => .error .unreadable
  | room + 1 => .ok ⟨room, frame :: reader.frames, mode⟩

/-- A value starts. -/
def begin (reader : Reader) (c : CodePoint) : Except Fault Reader :=
  match c with
  | '[' => reader.enter (.items []) .firstItem
  | '\x7b' => reader.enter (.fields [] []) .firstName
  | '\x22' => .ok (reader.expecting (.inString false .start .none))
  | 'n' => .ok (reader.expecting (.inWord (.ofString "ull") .null))
  | 't' => .ok (reader.expecting (.inWord (.ofString "rue") (.bool true)))
  | 'f' => .ok (reader.expecting (.inWord (.ofString "alse") (.bool false)))
  | 'N' => .ok (reader.expecting (.inWord (.ofString "aN") .nan))
  | 'I' => .ok (reader.expecting (.inWord (.ofString "nfinity") (.infinity false)))
  | _ =>
    if c = '-' || c.isDigit then .ok (reader.expecting (.inNumber [c])) else .error .malformed

/-- The fields kept so far, latest first, with the names that they have. -/
abbrev Kept := Std.TreeSet Text × List (Text × Json)

/-- Keeps a field with its latest value, unless one of its name is there. -/
def Kept.add (latest : Std.TreeMap Text Json) (kept : Kept) (field : Text × Json) : Kept :=
  if kept.1.contains field.1 then kept
  else (kept.1.insert field.1, (field.1, latest.getD field.1 field.2) :: kept.2)

/-- The fields of an object, with one of each name: it stands where the name was written first, and
has the value that was written last. They are given latest first. -/
def distinct (done : List (Text × Json)) : List (Text × Json) :=
  let latest := done.foldl (fun values field => values.insertIfNew field.1 field.2)
    (∅ : Std.TreeMap Text Json)
  (done.reverse.foldl (Kept.add latest) (∅, [])).2.reverse

/-- The innermost container closes. -/
def close (reader : Reader) : Except Fault Reader :=
  match reader.frames with
  | .items done :: outer =>
    .ok (complete ⟨reader.room + 1, outer, .value⟩ (.array done.reverse))
  | .fields done _ :: outer =>
    .ok (complete ⟨reader.room + 1, outer, .value⟩ (.object (distinct done)))
  | [] => .error .malformed

/-- A code point that a number may contain. -/
def inNumberClass (c : CodePoint) : Bool :=
  c.isDigit || c = '+' || c = '-' || c = '.' || c = 'e' || c = 'E'

/-- The value of a number. It reaches as far as it can, and nothing may be left over; but a number
without a fraction that is too long is refused before that is looked at. -/
def number (literal : Text) : Except Fault Json :=
  match Decimal.read? literal with
  | none => .error .malformed
  | some (d, rest) =>
    if d.isWhole && maxDigits < d.whole.length then .error .unreadable
    else if !rest.isEmpty then .error .malformed
    else if d.isWhole then .ok (.int d.toInt)
    else .ok (.real d)

/-- The character that a one-letter escape stands for. -/
def escaped? : CodePoint → Option Char
  | '\x22' => some '\x22'
  | '\\' => some '\\'
  | '/' => some '/'
  | 'b' => some '\x08'
  | 'f' => some '\x0c'
  | 'n' => some '\n'
  | 'r' => some '\r'
  | 't' => some '\t'
  | _ => none

/-- A string is complete: it is a name, or a value like any other. -/
def completeString (reader : Reader) (isName : Bool) (s : Text) : Reader :=
  match isName, reader.frames with
  | true, .fields done _ :: outer => ⟨reader.room, .fields done s :: outer, .colon⟩
  | _, _ => reader.complete (.string s)

/-- Reads one more code point of a string. -/
def readString (reader : Reader) (isName : Bool) (scan : Text.Units.Scan) (escape : Escape)
    (c : CodePoint) : Except Fault Reader :=
  let goOn scan escape := .ok (reader.expecting (.inString isName scan escape))
  match escape with
  | .none =>
    if c = '\x22' then .ok (reader.completeString isName scan.text)
    else if c = '\\' then goOn scan .begun
    else if c.code < 0x20 then .error .malformed
    else goOn (scan.point c) .none
  | .begun =>
    if c = 'u' then goOn scan (.code 4 0)
    else
      match escaped? c with
      | some d => goOn (scan.point d) .none
      | none => .error .malformed
  | .code owed n =>
    match Text.Hex.digit? c.code with
    | some d =>
      let n := 16 * n + d
      if owed ≤ 1 then goOn (scan.unit n) .none else goOn scan (.code (owed - 1) n)
    | none => .error .malformed

/-- Reads one more code point between values. -/
def readBetween (reader : Reader) (c : CodePoint) : Except Fault Reader :=
  if isSpace c then .ok reader
  else
    match reader.mode, c with
    | .value, c => reader.begin c
    | .firstItem, ']' => reader.close
    | .firstItem, c => reader.begin c
    | .firstName, '\x7d' => reader.close
    | .firstName, '\x22' => .ok (reader.expecting (.inString true .start .none))
    | .name, '\x22' => .ok (reader.expecting (.inString true .start .none))
    | .colon, ':' => .ok (reader.expecting .value)
    | .afterItem, ',' => .ok (reader.expecting .value)
    | .afterItem, ']' => reader.close
    | .afterField, ',' => .ok (reader.expecting .name)
    | .afterField, '\x7d' => reader.close
    | _, _ => .error .malformed

/-- Reads one more code point. A number ends at the first one that cannot be part of it, which is
then read after the number. -/
def read (reader : Reader) (c : CodePoint) : Except Fault Reader :=
  match reader.mode with
  | .inString isName scan escape => reader.readString isName scan escape c
  | .inNumber literal =>
    if inNumberClass c then .ok (reader.expecting (.inNumber (c :: literal)))
    else if literal = [.char '-'] && c = 'I' then
      .ok (reader.expecting (.inWord (.ofString "nfinity") (.infinity true)))
    else do (reader.complete (← number literal.reverse)).readBetween c
  | .inWord (d :: rest) v =>
    if c = d then
      .ok (if rest.isEmpty then reader.complete v else reader.expecting (.inWord rest v))
    else .error .malformed
  | .inWord [] _ => .error .malformed
  | _ => reader.readBetween c

/-- The value, when the text ends here. -/
def finish (reader : Reader) : Except Fault Json :=
  match reader.mode with
  | .finished v => .ok v
  | .inNumber literal => do
    let v ← number literal.reverse
    if reader.frames.isEmpty then .ok v else .error .malformed
  | _ => .error .malformed

end Reader

/-- The value that a text spells, with containers nested no deeper than `depth`. -/
def ofText (depth : Nat) (text : Text) : Except Fault Json := do
  let reader ← text.foldlM Reader.read (.start depth)
  reader.finish

end Crontab.Json
