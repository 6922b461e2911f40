import Crontab.Token

/-!
# Hovering

What an editor shows for the token under the pointer. Comments say nothing, and a failed term is
already explained by its diagnostics.
-/

namespace Crontab

/-- A text shown for a stretch of a line. -/
structure Hover where
  /-- The line. -/
  line : Int
  /-- Where the stretch starts. -/
  startChar : Int
  /-- Where the stretch stops; the character there is not part of it. -/
  endChar : Int
  /-- What is shown. -/
  text : Text
  deriving DecidableEq, Repr

namespace Hover

/-- The terms among the tokens of a line, with a space between neighbours. -/
def schedule (tokens : List Token) : Text :=
  Text.joined ' ' ((tokens.filter Token.isTerm).map Token.content)

/-- What is shown for a well-formed term. -/
def ofTerm (field : Field) (value : Value) : Text :=
  .ofString s!"{field.name} term: {value.describe}"

/-- What is shown for a command with its schedule. -/
def ofCommand (schedule content : Text) : Text :=
  Text.ofString "`" ++ content ++ Text.ofString "` will be executed on schedule: " ++ schedule

/-- What is shown for a token among the tokens of its line. -/
def describe (tokens : List Token) : Token → Option Text
  | .comment _ _ => none
  | .term _ _ field reading _ => reading.value?.map (ofTerm field)
  | .command _ _ content => some (ofCommand (schedule tokens) content)

end Hover

end Crontab
