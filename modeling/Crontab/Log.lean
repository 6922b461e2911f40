import Crontab.Text

/-!
# Log records

What the services report while they work: a level, the channel that reports, and a message. A
threshold hides the records below it.
-/

namespace Crontab.Log

/-- How important a record is. -/
inductive Level where
  /-- Below every other level. -/
  | notSet
  /-- Details. -/
  | debug
  /-- Normal events. -/
  | info
  /-- Something unexpected. -/
  | warning
  /-- Something failed. -/
  | error
  /-- Everything failed. -/
  | critical
  deriving DecidableEq, Repr

namespace Level

/-- Levels are compared by rank. -/
def rank : Level → Nat
  | .notSet => 0
  | .debug => 10
  | .info => 20
  | .warning => 30
  | .error => 40
  | .critical => 50

/-- The name of a level in a record. -/
def name : Level → String
  | .notSet => "NOTSET"
  | .debug => "DEBUG"
  | .info => "INFO"
  | .warning => "WARNING"
  | .error => "ERROR"
  | .critical => "CRITICAL"

/-- The names under which a level can be chosen. Two levels have two names. -/
def names : List (String × Level) :=
  [("CRITICAL", .critical), ("FATAL", .critical), ("ERROR", .error), ("WARN", .warning),
    ("WARNING", .warning), ("INFO", .info), ("DEBUG", .debug), ("NOTSET", .notSet)]

/-- The level that is chosen by a name. -/
def ofName? (s : Text) : Option Level :=
  (names.find? fun entry => .ofString entry.1 = s).map Prod.snd

end Level

/-- Who reports. -/
inductive Channel where
  /-- The document store. -/
  | store
  /-- The language server. -/
  | editor
  /-- The web service. -/
  | web
  deriving DecidableEq, Repr

/-- The name of a channel in a record. -/
def Channel.name : Channel → String
  | .store => "crontabls.store"
  | .editor => "crontabls.lsp"
  | .web => "crontabls.api"

/-- One report. -/
structure Record where
  /-- How important it is. -/
  level : Level
  /-- Who reports. -/
  channel : Channel
  /-- What happened. -/
  message : Text
  deriving DecidableEq, Repr

namespace Record

/-- A record of a normal event. -/
def info (channel : Channel) (message : Text) : Record := ⟨.info, channel, message⟩

/-- A record as a line of text. -/
def line (record : Record) : Text :=
  Text.ofString s!"{record.level.name}:{record.channel.name}:" ++ record.message

/-- A record is shown at every threshold that its level reaches. -/
def shownAt (threshold : Level) (record : Record) : Bool :=
  threshold.rank ≤ record.level.rank

end Record

end Crontab.Log
