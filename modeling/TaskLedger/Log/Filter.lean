/-
**Log filters.** Which messages are written, by where they come from.

* `LogLevel` — from nothing to everything, with their names and digits.
* `LogFilter.parse?` — a filter from its text: items separated by commas, each a level for all targets,
  a target with a level, or a target alone.
* `LogFilter.level` — the level for a target: that of the longest item that is a prefix of it.
* `Logging.start` — the filter in force once logging is set up.
-/
import TaskLedger.Decimal.Digits
import TaskLedger.Text.Blank
import TaskLedger.Text.Letter

namespace TaskLedger

/-- How much is written. -/
inductive LogLevel where
  | off
  | error
  | warn
  | info
  | debug
  | trace
deriving DecidableEq, Repr, Inhabited

namespace LogLevel

/-- All levels, from least to most. -/
def all : List LogLevel :=
  [.off, .error, .warn, .info, .debug, .trace]

/-- The name of a level. -/
def name : LogLevel → String
  | .off => "OFF"
  | .error => "ERROR"
  | .warn => "WARN"
  | .info => "INFO"
  | .debug => "DEBUG"
  | .trace => "TRACE"

/-- The place of a level among all. -/
def rank : LogLevel → Nat
  | .off => 0
  | .error => 1
  | .warn => 2
  | .info => 3
  | .debug => 4
  | .trace => 5

/-- Messages of the second level are written at the first. -/
def admits (level message : LogLevel) : Bool :=
  message.rank ≤ level.rank

/-- The digits of a level's number, after a plus sign if there is one. -/
def digits (word : List Char) : List Char :=
  match word with
  | '+' :: digits => digits
  | digits => digits

/-- The level with a number or a name; case does not count, and an empty name is that of errors. -/
def parse? (word : List Char) : Option LogLevel :=
  if word.isEmpty then some .error
  else if !(digits word).isEmpty && (digits word).all Char.isDigit then
    all[Decimal.number (digits word)]?
  else all.find? fun level => level.name.toList == word.map Char.toUpper

end LogLevel

/-- One item of a filter: the level of the targets that begin with a text. -/
structure LogRule where
  target : List Char
  level : LogLevel
deriving DecidableEq

/-- The items of a filter. -/
abbrev LogFilter := List LogRule

namespace LogFilter

/-- A character that an item may begin with: a letter or digit of any script, or one of three signs. -/
def startsItem (c : Char) : Bool :=
  Text.isWordChar c || c == '-' || c == ':' || c == '_'

/-- An item: a target with its level after an equals sign, a level, or a target at every level. Blanks
before an item without an equals sign belong to the target. -/
def parseItem? (item : List Char) : Option LogRule :=
  match item.dropWhile (· != '=') with
  | _ :: level =>
    if item.head?.any startsItem then
      (LogLevel.parse? level).map fun level => ⟨item.takeWhile (· != '='), level⟩
    else none
  | [] =>
    if (Text.skipBlanks item).head?.any startsItem then
      match LogLevel.parse? item with
      | some level => some ⟨[], level⟩
      | none => some ⟨item, .trace⟩
    else none

/-- The filter that a text describes; empty items do not count. -/
def parse? (text : String) : Option LogFilter :=
  ((text.toList.splitOn ',').filter fun item => !item.isEmpty).mapM parseItem?

/-- The better of a rule found so far and the next one that applies: the longer, or else the later. -/
def better (best : Option LogRule) (rule : LogRule) : Option LogRule :=
  match best with
  | some earlier => if rule.target.length < earlier.target.length then best else some rule
  | none => some rule

/-- The level for messages of a target. -/
def level (filter : LogFilter) (target : String) : LogLevel :=
  match (filter.filter fun rule => rule.target.isPrefixOf target.toList).foldl better none with
  | some rule => rule.level
  | none => .off

/-- The filter that holds where none is given. -/
def standard : LogFilter :=
  [⟨[], .info⟩]

/-- The first filter that is given and makes sense, or the standard one. -/
def ofSources (sources : List (Option String)) : LogFilter :=
  (sources.findSome? fun source => source.bind parse?).getD standard

end LogFilter

/-- What logging does once it was set up. -/
structure Logging where
  /-- The filter of this process was installed; otherwise another was there before. -/
  installed : Bool
  /-- The level for messages of a target. -/
  level : String → LogLevel
  /-- The setup itself was written to the log. -/
  announced : Bool

/-- Sets logging up, given the texts of filters in order of preference, whether something else is
installed already (which writes nothing), and the target of the message about the setup. -/
def Logging.start (sources : List (Option String)) (taken : Bool) (ownTarget : String) : Logging :=
  if taken then ⟨false, fun _ => .off, false⟩
  else
    let filter := LogFilter.ofSources sources
    ⟨true, filter.level, (filter.level ownTarget).admits .debug⟩

end TaskLedger
