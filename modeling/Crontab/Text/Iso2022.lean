import Crontab.Text.MultiByte.Japanese
import Crontab.Text.MultiByte.Korean
import Crontab.Text.Plane.Gb

/-!
# Sets called by escape sequences

Charsets of seven bits, in which an escape sequence calls a set of characters into a place. The
bytes that follow stand for characters of the set in the first place, or of the one in the second
place after a byte that shifts. The set in the third place serves for a single character after a
sequence of its own.
-/

namespace Crontab.Text

/-- A set of characters that can be called. -/
inductive CodeSet where
  /-- ASCII. -/
  | ascii
  /-- ASCII with a yen sign and an overline. -/
  | roman
  /-- Kana. -/
  | kana
  /-- The upper half of the first page of ISO 8859. -/
  | latin
  /-- The upper half of the Greek page of ISO 8859. -/
  | greek
  /-- The first Japanese plane in some edition. `isOld` tells it from the one that is the same. -/
  | first (edition : JisEdition) (isOld : Bool)
  /-- JIS X 0212. -/
  | supplement
  /-- The second plane of JIS X 0213. -/
  | second
  /-- The Chinese plane. -/
  | chinese
  /-- The Korean plane. -/
  | korean
  deriving DecidableEq, Repr

namespace CodeSet

/-- Two bytes stand for a character of the set. -/
def isWide : CodeSet → Bool
  | .ascii | .roman | .kana | .latin | .greek => false
  | _ => true

/-- The byte by which an escape sequence names the set among those of its width. -/
def mark : CodeSet → Char
  | .ascii => 'B'
  | .roman => 'J'
  | .kana => 'I'
  | .latin => 'A'
  | .greek => 'F'
  | .first .plain isOld => if isOld then '@' else 'B'
  | .first .extended _ => 'O'
  | .first .revised _ => 'Q'
  | .supplement => 'D'
  | .second => 'P'
  | .chinese => 'A'
  | .korean => 'C'

/-- What stands in a cell of a set in which two bytes stand for a character. -/
def cell? (row cell : Nat) : CodeSet → Option Text
  | .first .plain _ => JisEdition.plain.first? row cell
  | .first edition _ => if (row, cell) = (1, 17) then some ['~'] else edition.first? row cell
  | .supplement => MultiByte.one (JisEdition.plain.second? row cell)
  | .second => if isSupplement row then none else MultiByte.one (jisSecond.char? row cell)
  | .chinese => MultiByte.one (gb.char? row cell)
  | .korean => MultiByte.one (ks.char? row cell)
  | _ => none

/-- The character of a byte in a set where one byte stands for a character. The upper halves of
pages serve in the third place only. -/
def single? (byte : Nat) : CodeSet → Option Char
  | .ascii => MultiByte.ascii? byte
  | .roman => roman? byte
  | .kana => if byte < 0x80 then halfKana? (byte + 0x80) else none
  | _ => none

/-- Reads a character of the set: the text, and how many bytes after the first it takes. -/
def read? (set : CodeSet) (byte : Nat) (rest : List Nat) : Option (Text × Nat) :=
  if set.isWide then
    match rest with
    | next :: _ =>
      if byte < 0x21 || next < 0x21 then none
      else (set.cell? (byte - 0x21) (next - 0x21)).map (·, 1)
    | [] => none
  else (set.single? byte).map fun c => ([(c : CodePoint)], 0)

end CodeSet

/-- The character of a byte in the Greek page of ISO 8859, as it was first. -/
def greek? (byte : Nat) : Option Char :=
  let own := [0xA0, 0xA3, 0xA6, 0xA7, 0xA8, 0xA9, 0xAB, 0xAC, 0xAD, 0xB0, 0xB1, 0xB2, 0xB3, 0xB7,
    0xBB, 0xBD]
  if byte < 0xA0 || own.contains byte then some (Char.ofNat byte)
  else if byte = 0xA1 then some '‘'
  else if byte = 0xA2 then some '’'
  else if byte = 0xAF then some '―'
  else if 0xB4 ≤ byte ∧ byte ≤ 0xFE ∧ byte ≠ 0xD2 then some (Char.ofNat (0x2D0 + byte))
  else none

/-- A charset whose sets are called by escape sequences. -/
structure Iso2022 where
  /-- Its names. The first is its proper name. -/
  names : List String
  /-- The sets beside ASCII. -/
  sets : List CodeSet
  /-- It is one of the Japanese charsets. These have no bytes that shift, and a longer sequence for
  the first plane. -/
  isJapanese : Bool := true
  /-- It has a third place. -/
  hasThird : Bool := false

namespace Iso2022

/-- What has been called. -/
structure State where
  /-- The set in the first place. -/
  first : CodeSet := .ascii
  /-- The set in the second place. -/
  second : CodeSet := .ascii
  /-- The set in the third place. -/
  third : CodeSet := .ascii
  /-- Bytes stand for characters of the second set. -/
  isShifted : Bool := false
  /-- Bytes are kept as they are, up to the end of a sequence that calls nothing. -/
  isThrough : Bool := false

/-- The escape byte. -/
def escape : Nat := 0x1B

/-- A byte ends an escape sequence. -/
def isFinal (byte : Nat) : Bool := 0x40 ≤ byte && byte ≤ 0x5A

/-- The set that a sequence names. -/
def set? (charset : Iso2022) (isWide : Bool) (mark : Nat) : Option CodeSet :=
  (CodeSet.ascii :: charset.sets).find? fun set =>
    set.isWide = isWide && set.mark.toNat = mark

/-- Follows an escape sequence that calls a set: the state after it, and the number of its bytes
after the first. -/
def call? (charset : Iso2022) (state : State) (rest : List Nat) : Option (State × Nat) :=
  let seen := (rest.take 5).map Char.ofNat
  let set (isWide : Bool) (mark : Char) := charset.set? isWide mark.toNat
  match seen with
  | '$' :: '(' :: mark :: _ => (set true mark).map fun s => ({ state with first := s }, 3)
  | '$' :: ')' :: mark :: _ => (set true mark).map fun s => ({ state with second := s }, 3)
  | '$' :: mark :: _ => (set true mark).map fun s => ({ state with first := s }, 2)
  | '(' :: mark :: _ => (set false mark).map fun s => ({ state with first := s }, 2)
  | ')' :: mark :: _ => (set false mark).map fun s => ({ state with second := s }, 2)
  | '.' :: mark :: _ =>
    if charset.hasThird then (set false mark).map fun s => ({ state with third := s }, 2) else none
  | ['&', '@', '\x1b', '$', 'B'] =>
    if charset.isJapanese then (set true 'B').map fun s => ({ state with first := s }, 5) else none
  | _ => none

/-- Reads a single character of the set in the third place. -/
def third (set : CodeSet) (byte : Nat) : Except ReadFault Text :=
  let char? := match set with
    | .latin => if byte < 0x80 then some (Char.ofNat (byte + 0x80)) else none
    | .greek => greek? (if byte < 0x80 then byte + 0x80 else byte - 0x80)
    | _ => MultiByte.ascii? byte
  if set = .roman then .error .set
  else match char? with
    | some c => .ok [c]
    | none => .error .bytes

/-- Reads an escape byte. -/
def escaped (charset : Iso2022) (state : State) (rest : List Nat) :
    Except ReadFault (Step State) :=
  match rest with
  | [] => .error .bytes
  | next :: rest' =>
    if "().$&".toList.contains (Char.ofNat next) then
      match charset.call? state rest with
      | some (state, used) => .ok ⟨state, [], used⟩
      | none => .error .bytes
    else if charset.hasThird && next = 0x4E then
      match rest' with
      | byte :: _ => (third state.third byte).map fun text => ⟨state, text, 2⟩
      | [] => .error .bytes
    else .ok ⟨{ state with isThrough := true }, [.ofCode escape], 0⟩

/-- Reads the next byte. A line feed ends a shift. -/
def next (charset : Iso2022) (state : State) (byte : Nat) (rest : List Nat) :
    Except ReadFault (Step State) :=
  let kept : Text := [.ofCode byte]
  if state.isThrough then .ok ⟨{ state with isThrough := !isFinal byte }, kept, 0⟩
  else if byte = escape then charset.escaped state rest
  else if !charset.isJapanese && (byte = 0x0E || byte = 0x0F) then
    .ok ⟨{ state with isShifted := byte = 0x0E }, [], 0⟩
  else if byte = 0x0A then .ok ⟨{ state with isShifted := false }, kept, 0⟩
  else if byte < 0x20 then .ok ⟨state, kept, 0⟩
  else if 0x80 ≤ byte then .error .bytes
  else
    match (if state.isShifted then state.second else state.first).read? byte rest with
    | some (text, used) => .ok ⟨state, text, used⟩
    | none => .error .bytes

/-- The text that some bytes spell. -/
def decode (charset : Iso2022) (bytes : List UInt8) : Except ReadFault Text :=
  readBytes charset.next {} [] (bytes.map UInt8.toNat)

/-- The sets of the oldest charset. -/
def oldSets : List CodeSet := [.roman, .first .plain true, .first .plain false]

/-- The charsets whose sets are called by escape sequences. -/
def all : List Iso2022 :=
  [{ names := ["iso2022_jp", "csiso2022jp", "iso2022jp", "iso_2022_jp"], sets := oldSets },
    { names := ["iso2022_jp_1", "iso2022jp_1", "iso_2022_jp_1"], sets := .supplement :: oldSets },
    { names := ["iso2022_jp_2", "iso2022jp_2", "iso_2022_jp_2"]
      sets := [.supplement, .chinese, .korean, .latin, .greek] ++ oldSets
      hasThird := true },
    { names := ["iso2022_jp_2004", "iso2022jp_2004", "iso_2022_jp_2004"]
      sets := [.first .plain false, .first .revised false, .second] },
    { names := ["iso2022_jp_3", "iso2022jp_3", "iso_2022_jp_3"]
      sets := [.first .plain false, .first .extended false, .second] },
    { names := ["iso2022_jp_ext", "iso2022jp_ext", "iso_2022_jp_ext"]
      sets := [.supplement, .kana] ++ oldSets },
    { names := ["iso2022_kr", "csiso2022kr", "iso2022kr", "iso_2022_kr"]
      sets := [.korean]
      isJapanese := false }]

end Iso2022

end Crontab.Text
