import Crontab.Line
import Crontab.Token

/-!
# Entries

A line that is neither empty nor a comment is an entry: up to five terms and then a command, each
one space after the one before. Reading every line of a document in this way gives its tokens in
order.
-/

namespace Crontab

namespace Entry

/-- The pieces of an entry between its single spaces, without the empty ones at the end. -/
def pieces (line : Text) : List Text :=
  ((Text.pieces ' ' line).reverse.dropWhile List.isEmpty).reverse

/-- The tokens of the pieces that stand from column `char` on. The pieces go to the fields in order,
and what is left over, possibly nothing, is the command. -/
def place (line char : Int) : List Field → List Text → List Token
  | field :: fields, piece :: rest =>
    .term line char field (Term.read field piece) piece ::
      place line (char + piece.length + 1) fields rest
  | _, rest => [.command line char (Text.joined ' ' rest)]

/-- The tokens of an entry. -/
def tokens (line : Int) (text : Text) : List Token := place line 0 Field.all (pieces text)

end Entry

/-- The tokens of one line. -/
def Line.tokens (line : Int) : Text → List Token
  | [] => []
  | '#' :: text => [.comment line ('#' :: text)]
  | text => Entry.tokens line text

/-- The tokens of a document, in the order in which they stand there. -/
def tokenize (text : Text) : List Token :=
  (Line.split text).zipIdx.flatMap fun (line, i) => Line.tokens i line

end Crontab
