import Crontab.Text.Hex
import Crontab.Text.Printable

/-!
# Quoted text

Messages quote a text that came from outside. It stands between single quotes, or between double
quotes if it has single quotes and no double ones, and everything that cannot be shown is escaped.
-/

namespace Crontab.Text.Quoted

/-- The quote that a text is put between. -/
def quoteFor (text : Text) : CodePoint :=
  if text.contains '\x27' && !text.contains '\x22' then '\x22' else '\x27'

/-- The escape of a code point by its number, no longer than it has to be. -/
def byNumber (c : CodePoint) : Text :=
  let n := c.code
  if n < 0x100 then .char '\\' :: .char 'x' :: Hex.padded 2 n
  else if n < 0x10000 then .char '\\' :: .char 'u' :: Hex.padded 4 n
  else .char '\\' :: .char 'U' :: Hex.padded 8 n

/-- A code point as it stands between quotes. -/
def escape (quote c : CodePoint) : Text :=
  if c = quote || c = '\\' then ['\\', c]
  else if c = '\t' then ['\\', 't']
  else if c = '\n' then ['\\', 'n']
  else if c = '\r' then ['\\', 'r']
  else if isPrintable c then [c]
  else byNumber c

/-- A text between quotes. -/
def quote (text : Text) : Text :=
  let q := quoteFor text
  q :: text.flatMap (escape q) ++ [q]

end Crontab.Text.Quoted
