import LanguageHost.Fault
import LanguageHost.Journal.Instant

/-!
# Loggers

A logger has tags, and remembers when it last wrote. A line has a level, the time, the milliseconds
since the logger's last line, the tags and the message. Tags given with a message stand beside the
logger's own; a tag that both have keeps its place and takes the value given with the message.

Loggers with a service tag are shared: asking for a service again gives the logger that was made
for it first, with that one's tags. `LoggerTable` keeps every logger ever made, by number.
-/

namespace LanguageHost

/-- How much a line matters. -/
inductive Level where
  | debug
  | info
  | warn
  | error
  deriving DecidableEq, Repr, Inhabited

namespace Level

/-- The rank of a level; more serious is higher. -/
def rank : Level → Nat
  | debug => 0
  | info => 1
  | warn => 2
  | error => 3

/-- The name of a level. -/
def name : Level → String
  | debug => "DEBUG"
  | info => "INFO"
  | warn => "WARN"
  | error => "ERROR"

/-- The name padded to the width of a line's first column. -/
def column : Level → String
  | debug => "DEBUG"
  | info => "INFO "
  | warn => "WARN "
  | error => "ERROR"

/-- The level with a name; the case of the letters counts. -/
def ofName? (s : String) : Option Level :=
  [debug, info, warn, error].find? fun level => level.name = s

end Level

/-- Tags in order; a value of null hides its tag. -/
abbrev Tags := List (Text × Json)

/-- A logger: its tags and the time of its last line, or of its making. -/
structure Logger where
  tags : Tags
  last : Instant
  deriving Inhabited

namespace Logger

/-- The tags of a line: the logger's own, with those given beside the message put over them. -/
def lineTags (logger : Logger) (extra : Tags) : Tags :=
  extra.foldl (fun tags tag => putMember tag.1 tag.2 tags) logger.tags

/-- The visible tags as text. -/
def tagText (tags : Tags) : Text :=
  Text.join " " <| tags.filterMap fun tag =>
    match tag.2 with
    | .null => none
    | value => some (tag.1 ++ Text.ofString "=" ++ value.shown)

/-- The line that a logger writes at a time; empty parts leave no gap. -/
def line (logger : Logger) (now : Instant) (level : Level) (message : Json) (extra : Tags) :
    Text :=
  let elapsed := "+" ++ toString (Instant.millisecondsSince logger.last now) ++ "ms"
  let parts : List Text :=
    [now.format ":", elapsed, tagText (logger.lineTags extra), message.shown]
  Text.ofString (level.column ++ " ") ++ Text.join " " (parts.filter fun part => !part.isEmpty)

end Logger

/-- All loggers by number, and the numbers of those that are shared, by service. -/
structure LoggerTable where
  loggers : List Logger
  services : List (Text × Nat)
  deriving Inhabited

namespace LoggerTable

/-- The service that a logger with these tags is shared under. -/
def serviceOf? (tags : Tags) : Option Text :=
  match findMember? (Text.ofString "service") tags with
  | some (.str []) => none
  | some (.str service) => some service
  | _ => none

/-- The logger with a number. -/
def get (table : LoggerTable) (n : Nat) : Logger :=
  table.loggers.getD n default

/-- Replaces the logger with a number. -/
def set (table : LoggerTable) (n : Nat) (logger : Logger) : LoggerTable :=
  { table with loggers := table.loggers.set n logger }

/-- Adds a logger that is not shared. -/
def add (table : LoggerTable) (logger : Logger) : Nat × LoggerTable :=
  (table.loggers.length, { table with loggers := table.loggers ++ [logger] })

/-- The number of the logger for these tags: the shared one of their service if there is one, and
a new one otherwise. -/
def create (table : LoggerTable) (now : Instant) (tags : Tags) : Nat × LoggerTable :=
  match serviceOf? tags with
  | none => table.add ⟨tags, now⟩
  | some service =>
    match findMember? service table.services with
    | some n => (n, table)
    | none =>
      let (n, table) := table.add ⟨tags, now⟩
      (n, { table with services := table.services ++ [(service, n)] })

/-- The table with a logger for each of these lists of tags. -/
def ofTags (now : Instant) (all : List Tags) : LoggerTable :=
  all.foldl (fun table tags => (table.create now tags).2) ⟨[], []⟩

end LoggerTable

end LanguageHost
