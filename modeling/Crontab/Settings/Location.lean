import Crontab.Settings.Misuse
import Crontab.Text.Utf8

/-!
# Locations

Where paths lead. A service works in a directory of its own, in which only the environment file
matters. Around it there is a plain system, whose directories and files say nothing about settings.
-/

namespace Crontab.Settings.Location

/-- What a path leads to. -/
inductive Goal where
  /-- Nothing. -/
  | nothing
  /-- A directory. -/
  | directory
  /-- The place of the environment file, which may be there or not. -/
  | environmentFile
  /-- Some other file, with a text of its own or without. -/
  | file (hasText : Bool)
  deriving DecidableEq, Repr

/-- The name of the environment file. -/
def fileName : String := ".env"

/-- A part of a path that leads on from where it stands. -/
def isStep (part : Text) : Bool := part ≠ [] && part ≠ Text.ofString "."

/-- The parts of a path that lead on. -/
def steps (path : Text) : List Text := (Text.pieces '/' path).filter isStep

/-- A path does not start in the working directory. -/
def isAbsolute (path : Text) : Bool := path.head? = some (.char '/')

/-- The accounts of a plain system. -/
def accounts : List String :=
  ["root", "daemon", "bin", "sys", "sync", "games", "man", "lp", "mail", "news", "uucp", "proxy",
    "www-data", "backup", "list", "irc", "_apt", "nobody"]

/-- Where homes are, apart from one that the environment gives. Nothing that matters is there. -/
def systemHome : Text := .ofString "/home"

/-- The home of an account, or of the service if no account is named. -/
def home? (environment : List (Text × Text)) (account : Text) : Option Text :=
  if account = [] then
    match environment.lookup (.ofString "HOME") with
    | some home =>
      let trimmed := (home.reverse.dropWhile (· = .char '/')).reverse
      some (if trimmed = [] then .ofString "/" else trimmed)
    | none => some systemHome
  else if accounts.any fun name => .ofString name = account then some systemHome
  else none

/-- A path with a home in place of the tilde that it may start with. -/
def fromHome (environment : List (Text × Text)) (path : Text) : Except Misuse Text :=
  match isAbsolute path, steps path with
  | false, ('~' :: account) :: rest =>
    match home? environment account with
    | some ('~' :: _) | none => .error .home
    | some home => .ok (Text.joined '/' (home :: rest))
  | _, _ => .ok path

/-- The working directory, by the names that lead to it from the root. Its own name is nobody's
business, and no path spells it. -/
def workingDirectory : List Text := [.ofString "tmp", []]

/-- The directories of a plain system. -/
def directories : List String :=
  ["bin", "boot", "dev", "dev/pts", "dev/shm", "etc", "home", "lib", "media", "mnt", "opt", "proc",
    "proc/self", "root", "run", "sbin", "srv", "sys", "tmp", "usr", "usr/bin", "usr/lib",
    "usr/local", "usr/local/bin", "usr/local/lib", "usr/sbin", "usr/share", "var", "var/cache",
    "var/lib", "var/log", "var/tmp"]

/-- The files of a plain system, with whether they have texts. -/
def files : List (String × Bool) :=
  [("dev/full", false), ("dev/null", false), ("dev/random", false), ("dev/tty", false),
    ("dev/urandom", false), ("dev/zero", false), ("etc/group", true), ("etc/hostname", true),
    ("etc/hosts", true), ("etc/passwd", true), ("etc/resolv.conf", true)]

/-- What some names lead to from the root. -/
def goal (names : List Text) : Goal :=
  let path := Text.joined '/' names
  if names = workingDirectory || names = [] then .directory
  else if names = workingDirectory ++ [Text.ofString fileName] then .environmentFile
  else if directories.any fun name => .ofString name = path then .directory
  else
    match files.find? fun file => .ofString file.1 = path with
    | some file => .file file.2
    | none => .nothing

/-- The most bytes in a path. -/
def maxPath : Nat := 4095

/-- The most bytes in a part of a path. -/
def maxPart : Nat := 255

/-- How many bytes a text takes. -/
def size (text : Text) : Nat := (Text.Utf8.encode text).length

/-- Follows the steps of a path from a directory. The first of them that leads to no directory
decides. -/
def walk (names : List Text) : List Text → Except Misuse Goal
  | [] => .ok .directory
  | step :: rest =>
    if maxPart < size step then .error .longPath
    else if step = Text.ofString ".." then walk names.dropLast rest
    else
      match goal (names ++ [step]) with
      | .directory => walk (names ++ [step]) rest
      | goal => .ok (if rest = [] then goal else .nothing)

/-- Follows a path. One with a NUL in it leads nowhere. -/
def follow (environment : List (Text × Text)) (path : Text) : Except Misuse Goal := do
  let path ← fromHome environment path
  let whole := size (Text.joined '/' (steps path)) + (isAbsolute path).toNat
  if path.contains '\x00' then return .nothing
  else if maxPath < whole then .error .longPath
  else walk (if isAbsolute path then [] else workingDirectory) (steps path)

end Crontab.Settings.Location
