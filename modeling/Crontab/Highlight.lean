import Crontab.Token

/-!
# Highlighting

An editor colours a document from marks: a line, a column, a length and a kind for each token. They
are sent as one list of integers, five to a mark, in which each mark is given relative to the one
before it. Decoding that list restores the marks.
-/

namespace Crontab.Highlight

/-- What an editor colours alike. -/
inductive Kind where
  /-- Time fields. -/
  | term
  /-- Commands. -/
  | command
  /-- Comments. -/
  | comment
  deriving DecidableEq, Repr

/-- The kinds in the order of their indices. -/
def Kind.all : List Kind := [.term, .command, .comment]

/-- The label of a kind, one that editors have a colour for. -/
def Kind.label : Kind → String
  | .term => "variable"
  | .command => "function"
  | .comment => "comment"

/-- The index of a kind in the legend. -/
def Kind.index : Kind → Nat
  | .term => 0
  | .command => 1
  | .comment => 2

/-- The kind of a token. -/
def Kind.ofToken : Token → Kind
  | .comment _ _ => .comment
  | .term _ _ _ _ _ => .term
  | .command _ _ _ => .command

/-- The labels of the kinds, each at its index. -/
def legend : List String := Kind.all.map Kind.label

/-- The labels of the modifiers. None is ever used. -/
def modifiers : List String := []

/-- Why highlighting data cannot be written or read. -/
inductive Fault where
  /-- No kind has this label. -/
  | unsupported (label : Text)
  /-- The data does not divide into marks. -/
  | ragged (size : Nat)
  /-- No kind has the index that is given. -/
  | noKind (fault : SignedPosition.Fault)
  deriving DecidableEq, Repr

/-- The message that reports a fault. -/
def Fault.message : Fault → Text
  | .unsupported label =>
    Text.ofString "semantic token " ++ label ++ Text.ofString " is not supported"
  | .ragged size => .ofString s!"semantic token data length {size} is not a multiple of 5"
  | .noKind fault => .ofString fault.message

/-- The kind of a given label. -/
def Kind.ofLabel (label : Text) : Except Fault Kind :=
  match all.find? fun kind => .ofString kind.label = label with
  | some kind => .ok kind
  | none => .error (.unsupported label)

/-- The kind at a signed index of the legend. -/
def Kind.ofIndex (index : Int) : Except Fault Kind :=
  (SignedPosition.nth all index).mapError .noKind

/-- A coloured stretch of a document. -/
structure Mark where
  /-- The line it stands on. -/
  line : Int
  /-- Where it starts on the line. -/
  start : Int
  /-- How long it is. -/
  length : Int
  /-- How it is coloured. -/
  kind : Kind
  deriving DecidableEq, Repr

/-- A mark given relative to the one before it. -/
structure Delta where
  /-- The lines between the two. -/
  lines : Int
  /-- The columns between their starts on one line, or the start itself on a new line. -/
  columns : Int
  /-- How long the mark is. -/
  length : Int
  /-- How it is coloured. -/
  kind : Kind
  deriving DecidableEq, Repr

/-- Columns as an editor counts them, for a line and a code point offset on it. -/
abbrev Columns := Int → Int → Int

/-- Columns that count code points. -/
def codePoints : Columns := fun _ char => char

/-- The mark of a token. -/
def Mark.ofToken (columns : Columns) (token : Token) : Mark :=
  let start := columns token.line token.span.1
  let stop := columns token.line token.span.2
  { line := token.line, start, length := stop - start, kind := .ofToken token }

/-- Where the first mark counts from. -/
def Mark.origin : Mark := ⟨0, 0, 0, .term⟩

/-- A mark relative to the one before it. -/
def Mark.after (previous mark : Mark) : Delta :=
  { lines := mark.line - previous.line
    columns := if mark.line = previous.line then mark.start - previous.start else mark.start
    length := mark.length
    kind := mark.kind }

/-- The marks of some tokens, each relative to the one before it. -/
def encode (columns : Columns) (tokens : List Token) : List Delta :=
  let marks := tokens.map (Mark.ofToken columns)
  List.zipWith Mark.after (Mark.origin :: marks) marks

/-- The five integers of a mark. The last one stands for its modifiers. -/
def Delta.integers (delta : Delta) : List Int :=
  [delta.lines, delta.columns, delta.length, delta.kind.index, 0]

/-- The integers of all marks in one list. -/
def flatten (deltas : List Delta) : List Int := deltas.flatMap Delta.integers

/-- Reads marks from groups of five integers, counting on from a place. -/
def decodeFrom (line start : Int) : List Int → Except Fault (List Mark)
  | lines :: columns :: length :: index :: _ :: rest => do
    let start := if lines = 0 then start + columns else columns
    let line := line + lines
    let kind ← Kind.ofIndex index
    let marks ← decodeFrom line start rest
    return ⟨line, start, length, kind⟩ :: marks
  | _ => .ok []

/-- Restores the marks from their integers. -/
def decode (data : List Int) : Except Fault (List Mark) :=
  if data.length % 5 = 0 then decodeFrom 0 0 data else .error (.ragged data.length)

end Crontab.Highlight
