import Crontab.Text.CodePage.Dos
import Crontab.Text.CodePage.Iso
import Crontab.Text.CodePage.Mac
import Crontab.Text.CodePage.Mainframe
import Crontab.Text.CodePage.Regional
import Crontab.Text.CodePage.Windows
import Crontab.Text.Escapes
import Crontab.Text.Hz
import Crontab.Text.Idna
import Crontab.Text.Iso2022
import Crontab.Text.Layout
import Crontab.Text.MultiByte.Chinese
import Crontab.Text.MultiByte.Japanese
import Crontab.Text.MultiByte.Korean
import Crontab.Text.Utf7

/-!
# Charsets

How the bytes of a file are read as text. A charset is chosen by one of its names, in which case and
punctuation do not matter.
-/

namespace Crontab.Text

/-- A way to read bytes as text. -/
inductive Charset where
  /-- UTF-8, without a byte order mark in front if `marked`. -/
  | utf8 (marked : Bool)
  /-- UTF-7. -/
  | utf7
  /-- Units of `size` bytes. Without an order of bytes, a mark in front tells it. -/
  | units (size : Nat) (order : Option ByteOrder)
  /-- A code page. -/
  | page (p : CodePage)
  /-- Several bytes to a character. -/
  | multiByte (m : MultiByte)
  /-- Sets that are called by escape sequences. -/
  | iso2022 (i : Iso2022)
  /-- HZ. -/
  | hz
  /-- Escapes by a backslash; if `isPlain`, only those that give a number. -/
  | escapes (isPlain : Bool)
  /-- Punycode. -/
  | punycode
  /-- International names. -/
  | idna
  /-- A charset in which nothing can be read. -/
  | undefined

namespace Charset

/-- ASCII. -/
def ascii : CodePage where
  names :=
    ["ascii", "646", "ansi_x3.4_1968", "ansi_x3.4_1986", "ansi_x3_4_1968", "cp367", "csascii",
      "ibm367", "iso646_us", "iso_646.irv_1991", "iso_ir_6", "us", "us_ascii"]
  first := 0x80
  rest := ""

/-- The first page of ISO 8859, in which every byte stands for the character of the same number. -/
def latin1 : CodePage where
  names :=
    ["latin_1", "8859", "cp819", "csisolatin1", "ibm819", "iso8859", "iso8859_1", "iso_8859_1",
      "iso_8859_1_1987", "iso_ir_100", "l1", "latin", "latin1"]
  first := 0x100
  rest := ""

/-- The code pages. -/
def pages : List CodePage :=
  [ascii, latin1, { latin1 with names := ["charmap"] }] ++ isoPages ++ windowsPages ++ dosPages ++
    macPages ++ mainframePages ++ regionalPages

/-- The charsets of Unicode, with their names. The first is the proper name. -/
def unicode : List (List String × Charset) :=
  [(["utf_8", "cp65001", "u8", "utf", "utf8", "utf8_ucs2", "utf8_ucs4"], .utf8 false),
    (["utf_8_sig"], .utf8 true),
    (["utf_7", "u7", "unicode_1_1_utf_7", "utf7"], .utf7),
    (["utf_16", "u16", "utf16"], .units 2 none),
    (["utf_16_be", "unicodebigunmarked", "utf_16be"], .units 2 (some .big)),
    (["utf_16_le", "unicodelittleunmarked", "utf_16le"], .units 2 (some .little)),
    (["utf_32", "u32", "utf32"], .units 4 none),
    (["utf_32_be", "utf_32be"], .units 4 (some .big)),
    (["utf_32_le", "utf_32le"], .units 4 (some .little))]

/-- The charsets that stay within ASCII or spell a whole text at once. -/
def special : List (List String × Charset) :=
  [(["hz", "hz_gb", "hz_gb_2312", "hzgb"], .hz), (["unicode_escape"], .escapes false),
    (["raw_unicode_escape"], .escapes true), (["punycode"], .punycode), (["idna"], .idna),
    (["undefined"], .undefined)]

/-- The charsets with their names. -/
def all : List (List String × Charset) :=
  unicode ++ special ++ (pages.map fun p => (p.names, .page p)) ++
    ((japanese ++ chinese ++ korean).map fun m => (m.names, .multiByte m)) ++
    Iso2022.all.map fun i => (i.names, .iso2022 i)

/-- A character that counts in a name. -/
def countsInName (c : CodePoint) : Bool := c.isIn fun c => c.isAlphanum || c = '.'

/-- A name as it is compared: the words of it in lower case, with one low line between them. -/
def key (name : Text) : Text :=
  let separated := name.map fun (c : CodePoint) =>
    if countsInName c then c.asciiLower else .char '_'
  Text.joined '_' ((Text.pieces '_' separated).filter (· ≠ []))

/-- A name is one of those of a charset. In a name that is not the proper one, a point can stand for
a low line. -/
def isNamed (name : Text) (names : List String) : Bool :=
  let key := key name
  let dotless := key.map fun (c : CodePoint) => if c = '.' then .char '_' else c
  names.any (fun n => Text.ofString n = key) ||
    names.tail.any fun n => Text.ofString n = dotless

/-- The name of the charset that the system uses. It is compared as it is. -/
def systemName : String := "locale"

/-- The charset of a name. -/
def ofName? (name : Text) : Option Charset :=
  if name = .ofString systemName then some (.utf8 false)
  else (all.find? fun entry => isNamed name entry.1).map Prod.snd

/-- A text that was found in bytes, if one was. -/
def found : Option Text → Except ReadFault Text
  | some text => .ok text
  | none => .error .bytes

/-- The text that units of `size` bytes spell. -/
def ofUnits (size : Nat) (order : ByteOrder) (bytes : List UInt8) : Except ReadFault Text :=
  found ((Layout.decode? bytes (.units size order)).filter Text.isSpelled)

/-- The text that some bytes spell. Units without an order have to start with a mark that tells it,
unless there are none. -/
def decode (bytes : List UInt8) : Charset → Except ReadFault Text
  | .utf8 marked =>
    found (Utf8.decode? false (if marked then withoutMark (Layout.mark .bytes) bytes else bytes))
  | .utf7 => found (Utf7.decode? bytes)
  | .units size (some order) => ofUnits size order bytes
  | .units size none =>
    match [.big, .little].find? fun order => (Layout.mark (.units size order)).isPrefixOf bytes with
    | some order => ofUnits size order (bytes.drop size)
    | none => do
      let text ← ofUnits size .little bytes
      if text.isEmpty then .ok [] else .error .whole
  | .page p => found (p.decode? bytes)
  | .multiByte m => m.decode bytes
  | .iso2022 i => i.decode bytes
  | .hz => Hz.decode bytes
  | .escapes isPlain => Escapes.decode isPlain bytes
  | .punycode => Punycode.decode bytes
  | .idna => Idna.decode bytes
  | .undefined => .error .whole

end Charset

end Crontab.Text
