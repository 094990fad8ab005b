-- The log. A record says what it reports, how much it matters, which part of the
-- program it comes from, and its words. A level says how much of the log is shown,
-- from nothing at all to every step. The names of the levels are read by the
-- documented rules of log, and the lines of the records look as env_logger has them.
import ScriptBalance.Characters

namespace ScriptBalance.Log

/-! ## Levels -/

/-- How much the log shows. Each level shows all that the level before it
shows. -/
inductive Level where
  | off
  | error
  | warn
  | info
  | debug
  | trace
  deriving Repr, DecidableEq

namespace Level

/-- All levels, from the least to the most. -/
def all : List Level := [.off, .error, .warn, .info, .debug, .trace]

/-- The place of a level in the order. -/
def rank : Level → Nat
  | .off => 0
  | .error => 1
  | .warn => 2
  | .info => 3
  | .debug => 4
  | .trace => 5

/-- The name of a level in small letters. -/
def name : Level → String
  | .off => "off"
  | .error => "error"
  | .warn => "warn"
  | .info => "info"
  | .debug => "debug"
  | .trace => "trace"

/-- The name of a level in capital letters, as the log shows it. -/
def label (level : Level) : String := level.name.toUpper

/-- The level that a name stands for. Letters from A to Z count as small ones,
and nothing else about the name may differ. -/
def ofName? (name : String) : Option Level :=
  all.find? fun level => level.name = name.toLower

end Level

/-! ## Records -/

/-- One thing that the log reports. -/
inductive Record where
  /-- A script was read and has this many lines. -/
  | loaded (path : String) (lines : Nat)
  | bracketPassStarted
  /-- A string starts at a quote. -/
  | entered (pos : Position)
  /-- A string ends at a quote. -/
  | left (pos : Position)
  /-- The bracket pass is at the end of the script, with so many open brackets
  of each family. -/
  | endOfScript (braces parentheses : Nat) (inString : Bool)
  | patternPassStarted
  /-- A check is over and found so much. -/
  | counted (structural patterns : Nat)
  deriving Repr, DecidableEq

namespace Record

/-- The least level that shows a record. -/
def level : Record → Level
  | .loaded .. | .counted .. => .info
  | .bracketPassStarted | .endOfScript .. | .patternPassStarted => .debug
  | .entered _ | .left _ => .trace

/-- The part of the program that a record comes from. -/
def target : Record → String
  | .loaded .. | .counted .. => "psbalance::validation::engine"
  | .bracketPassStarted | .endOfScript .. | .entered _ | .left _ => "psbalance::scanner"
  | .patternPassStarted => "psbalance::validation::patterns"

/-- A position as the log writes it. -/
def place (pos : Position) : String :=
  "line " ++ toString pos.line ++ ":" ++ toString pos.column

/-- The words of a record. -/
def message : Record → String
  | .loaded path lines => "loaded " ++ path ++ " (" ++ toString lines ++ " lines)"
  | .bracketPassStarted => "starting bracket scan"
  | .entered pos => place pos ++ ": entering string"
  | .left pos => place pos ++ ": leaving string"
  | .endOfScript braces parentheses inString =>
    "end of file: " ++ toString braces ++ " open braces, " ++ toString parentheses
      ++ " open parentheses, in string: " ++ (if inString then "true" else "false")
  | .patternPassStarted => "starting pattern scan"
  | .counted structural patterns =>
    toString structural ++ " bracket findings, " ++ toString patterns ++ " pattern findings"

/-- A record as a line of text. The level takes five columns. -/
def line (r : Record) : String :=
  "[" ++ String.ofList (r.level.label.toList.rightpad 5 ' ') ++ " " ++ r.target ++ "] " ++ r.message

end Record

end ScriptBalance.Log
