import Crontab.Text.Hex
import Crontab.Text.Names.Aliases
import Crontab.Text.Names.Ancient
import Crontab.Text.Names.Eastern
import Crontab.Text.Names.Letters
import Crontab.Text.Names.Marks
import Crontab.Text.Names.Pictures
import Crontab.Text.Names.Scripts
import Crontab.Text.Names.Symbols

/-!
# Names of characters

The names that Unicode gives to characters. Most of them are listed in the order of their
characters: an entry gives the number of words that a name shares with the one before it, and its
other words. Ideographs are named by their number, and Korean syllables by their letters.
-/

namespace Crontab.Text.Names

/-- The lines of the list. An entry that starts with an at sign gives the number of the character
whose name comes next. -/
def lines : List String :=
  letters ++ (scripts ++ (symbols ++ (eastern ++ (ancient ++ (marks ++ pictures)))))

/-- The value of hexadecimal digits in upper case. -/
def hex? (digits : List Char) : Option Nat :=
  digits.foldlM (fun value c =>
    if c.isLower then none else (Hex.digit? c.toNat).map (value * 16 + ·)) 0

/-- Where reading the list stands. -/
structure Scan where
  /-- The number of the next character. -/
  code : Nat := 0
  /-- The words of the last name. -/
  words : List String := []
  /-- The number of the character that is looked for. -/
  found : Option Nat := none

/-- Reads one entry of the list, looking for a name. -/
def Scan.read (name : List String) (scan : Scan) (entry : String) : Scan :=
  match entry.toList with
  | '@' :: digits => { scan with code := (hex? digits).getD 0 }
  | shared :: rest =>
    let words := scan.words.take (shared.toNat - '0'.toNat) ++
      (if rest.isEmpty then [] else (String.ofList rest).splitOn " ")
    ⟨scan.code + 1, words, if words = name then some scan.code else scan.found⟩
  | [] => scan

/-- The number of the character that has a name in the list. -/
def listed? (name : String) : Option Nat :=
  let words := name.splitOn " "
  let read (scan : Scan) (line : String) := (line.splitOn "/").foldl (Scan.read words) scan
  (lines.foldl read {}).found

/-- The number that a further name stands for. -/
def alias? (name : String) : Option Nat :=
  let entries := (aliases.flatMap fun line => line.splitOn "/").map String.toList
  (entries.find? fun entry => entry.dropWhile (· ≠ ' ') = ' ' :: name.toList).bind fun entry =>
    hex? (entry.takeWhile (· ≠ ' '))

/-- The number of a variation selector by its short name. -/
def selector? (name : List Char) : Option Nat := do
  let digits ← if "VS".toList.isPrefixOf name then some (name.drop 2) else none
  let n ← if digits.head? = some '0' || !digits.all Char.isDigit then none
    else (String.ofList digits).toNat?
  if n ≤ 16 then some (0xFE00 + (n - 1))
  else if n ≤ 256 then some (0xE0100 + (n - 17)) else none

/-- The characters that are named by their number, each with what stands in front of it. -/
def numbered : List (String × Nat × Nat) :=
  [("CJK COMPATIBILITY IDEOGRAPH-", 0xF900, 0xFA6D),
    ("CJK COMPATIBILITY IDEOGRAPH-", 0xFA70, 0xFAD9),
    ("CJK COMPATIBILITY IDEOGRAPH-", 0x2F800, 0x2FA1D), ("NUSHU CHARACTER-", 0x1B170, 0x1B2FB),
    ("KHITAN SMALL SCRIPT CHARACTER-", 0x18B00, 0x18CD5)]

/-- The ideographs that are named by their number. -/
def ideographs : List (Nat × Nat) :=
  [(0x3400, 0x4DBF), (0x4E00, 0x9FFF), (0x20000, 0x2A6DF), (0x2A700, 0x2B738), (0x2B740, 0x2B81D),
    (0x2B820, 0x2CEA1), (0x2CEB0, 0x2EBE0), (0x30000, 0x3134A)]

/-- What is left of a text behind another one. -/
def behind? (stem : String) (name : List Char) : Option (List Char) :=
  if stem.toList.isPrefixOf name then some (name.drop stem.length) else none

/-- The number of a character that is named by it. Numbers have four digits, or five if needed. -/
def numbered? (name : List Char) : Option Nat :=
  numbered.findSome? fun (stem, first, last) => do
    let digits ← behind? stem name
    let code ← hex? digits
    if digits.length = (if code < 0x10000 then 4 else 5) ∧ first ≤ code ∧ code ≤ last then
      some code
    else none

/-- The number of an ideograph by the digits in its name. There may be a zero in front. -/
def ideograph? (digits : List Char) : Option Nat := do
  let code ← hex? digits
  if (digits.length = 4 ∨ digits.length = 5) ∧
      ideographs.any (fun (first, last) => first ≤ code && code ≤ last) then some code
  else none

/-- How the letters that begin a syllable are written in names. -/
def initialNames : List String :=
  ["G", "GG", "N", "D", "DD", "R", "M", "B", "BB", "S", "SS", "", "J", "JJ", "C", "K", "T", "P",
    "H"]

/-- How the vowels of a syllable are written in names. -/
def vowelNames : List String :=
  ["A", "AE", "YA", "YAE", "EO", "E", "YEO", "YE", "O", "WA", "WAE", "OE", "YO", "U", "WEO", "WE",
    "WI", "YU", "EU", "YI", "I"]

/-- How the letters that end a syllable are written in names. -/
def finalNames : List String :=
  ["", "G", "GG", "GS", "N", "NJ", "NH", "D", "L", "LG", "LM", "LB", "LS", "LT", "LP", "LH", "M",
    "B", "BS", "S", "SS", "NG", "J", "C", "K", "T", "P", "H"]

/-- The place of the longest entry of a list that stands in front, and what comes after it. -/
def longest? (entries : List String) (name : List Char) : Option (Nat × List Char) :=
  let fits := entries.zipIdx.filter fun (entry, _) => entry.toList.isPrefixOf name
  let best := fits.foldl (fun (best : Option (String × Nat)) fit =>
    match best with
    | some b => if b.1.length < fit.1.length then some fit else best
    | none => some fit) none
  best.map fun (entry, place) => (place, name.drop entry.length)

/-- The number of a Korean syllable by its letters. -/
def syllable? (name : List Char) : Option Nat := do
  let (i, rest) ← longest? initialNames name
  let (v, rest) ← longest? vowelNames rest
  let (f, rest) ← longest? finalNames rest
  if rest.isEmpty then some (0xAC00 + (i * 21 + v) * 28 + f) else none

/-- The number of the character that has a name. Case matters only in the names of ideographs and
of Korean syllables. -/
def find? (name : List Char) : Option Nat :=
  match behind? "HANGUL SYLLABLE " name, behind? "CJK UNIFIED IDEOGRAPH-" name with
  | some rest, _ => syllable? rest
  | none, some rest => ideograph? rest
  | none, none =>
    let upper := name.map Char.toUpper
    (listed? (String.ofList upper)).or
      ((numbered? upper).or ((alias? (String.ofList upper)).or (selector? upper)))

end Crontab.Text.Names
