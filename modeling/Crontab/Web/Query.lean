import Crontab.Web.Percent

/-!
# Queries

A query is a list of parameters: `name=value` with an ampersand between neighbours. A plus sign
stands for a space, and other characters may be given by their bytes.
-/

namespace Crontab.Web.Query

/-- A byte is an ASCII character. -/
def isAscii (b : UInt8) : Bool := b < 128

/-- The text of bytes that are all ASCII or all not. Escapes are undone in ASCII, and what they give
is UTF-8; any other byte stands for the character of its number. -/
def plainRun (run : List UInt8) : Text :=
  if run.all isAscii then Text.Utf8.decode (Percent.unescape run)
  else run.map fun b => .ofCode b.toNat

/-- The text of a name or value. A plus sign stands for a space. -/
def plain (text : Text) : Text :=
  let bytes := (Text.Utf8.encode text).map fun b => if b = 0x2B then 0x20 else b
  (bytes.splitBy fun a b => isAscii a = isAscii b).flatMap plainRun

/-- The name and value of one parameter. The value of a parameter without a sign is empty. -/
def parameter (text : Text) : Text × Text :=
  let name := text.takeWhile (· ≠ .char '=')
  (plain name, plain (text.drop (name.length + 1)))

/-- The parameters of a query. -/
def parameters (query : Text) : List (Text × Text) :=
  ((Text.pieces '&' query).filter fun piece => !piece.isEmpty).map parameter

/-- The value of a parameter. The last of several parameters of one name counts. -/
def get? (query : Text) (name : String) : Option Text :=
  (parameters query).reverse.lookup (.ofString name)

end Crontab.Web.Query
