-- Filters choose which records of the log are shown. A filter is written as
-- directives with commas between them, and a pattern for the words of a record
-- may stand behind a slash.
--
-- These are the documented rules of env_logger for the text of a filter. Only what
-- the log says on standard error depends on them.
import ScriptBalance.Log
import ScriptBalance.Regex
import ScriptBalance.Text

namespace ScriptBalance.Log

/-- The most that is shown of the parts of the program whose name starts with
`target`, or of all parts. -/
structure Directive where
  target : Option String := none
  level : Level
  deriving Repr, DecidableEq

/-- Whether a directive is about a part of the program. -/
def Directive.covers (d : Directive) (target : String) : Bool :=
  d.target.all fun start => start.toList.isPrefixOf target.toList

/-- How closely a directive names a part: by the bytes of its target. -/
def Directive.precision (d : Directive) : Nat := (d.target.map String.utf8ByteSize).getD 0

/-- Which records are shown. -/
structure Filter where
  directives : List Directive
  pattern : Option Regex := none
  deriving Repr, DecidableEq

/-- Why a part of a filter is left out. -/
inductive FilterFault where
  /-- A text that is no level, or no directive. -/
  | invalidPart (text : String)
  /-- A filter with more than one slash. -/
  | slashes (text : String)
  /-- A pattern that is no regular expression, and why. -/
  | invalidPattern (text : String) (refusal : Regex.Refusal)
  deriving Repr, DecidableEq

/-- What the program says about a part of a filter that is left out. -/
def FilterFault.warning : FilterFault → String
  | .invalidPart text => "warning: invalid logging spec '" ++ text ++ "', ignoring it"
  | .slashes text =>
    "warning: invalid logging spec '" ++ text ++ "' (too many '/'s), ignoring it"
  | .invalidPattern text refusal =>
    "warning: invalid regex filter - " ++ refusal.text text ++ ", ignoring it"

namespace Filter

/-- The filter that shows all records up to a level. -/
def upTo (level : Level) : Filter := { directives := [{ level }] }

/-- The directive that decides about a part of the program: of those that are
about it the closest, and of two that are as close the later one. -/
def deciding? (filter : Filter) (target : String) : Option Directive :=
  (filter.directives.filter (·.covers target)).foldl
    (fun best d =>
      match best with
      | some b => if b.precision ≤ d.precision then some d else some b
      | none => some d)
    none

/-- Whether a filter shows a record. -/
def shows (filter : Filter) (r : Record) : Bool :=
  (filter.deciding? r.target).any (fun d => r.level.rank ≤ d.level.rank)
    && filter.pattern.all (·.occursIn r.message)

/-- The records that a filter shows, in order. -/
def apply (filter : Filter) (log : Array Record) : Array Record := log.filter filter.shows

/-! ## Reading a filter -/

/-- The directives with one more. It takes the place of one with the same
target. -/
def insert (ds : List Directive) (d : Directive) : List Directive :=
  if ds.any (·.target = d.target) then ds.map fun e => if e.target = d.target then d else e
  else ds ++ [d]

/-- The directive that a text is: a level, a target, which shows all of its
records, or a target and a level with an equals sign between them. -/
def readDirective (text : String) : Except FilterFault Directive :=
  match text.splitOn "=" with
  | [name] =>
    match Level.ofName? name with
    | some level => .ok { level }
    | none => .ok { target := some name, level := .trace }
  | [name, level] =>
    if trim level = "" then .ok { target := some name, level := .trace }
    else
      match Level.ofName? (trim level) with
      | some level => .ok { target := some name, level }
      | none => .error (.invalidPart (trim level))
  | _ => .error (.invalidPart text)

/-- The directives of a text, without the faulty ones, and the faults. -/
def readDirectives (text : String) : List Directive × List FilterFault :=
  ((text.splitOn ",").map trim).foldl
    (fun (ds, faults) part =>
      if part = "" then (ds, faults)
      else
        match readDirective part with
        | .ok d => (insert ds d, faults)
        | .error fault => (ds, faults ++ [fault]))
    ([], [])

/-- The filter with some directives. A filter with none shows errors only. -/
def ofDirectives (ds : List Directive) (pattern : Option Regex) : Filter :=
  { directives := if ds.isEmpty then [{ level := .error }] else ds, pattern }

/-- The filter that a text asks for, and what is wrong with the text. -/
def ofString (text : String) : Filter × List FilterFault :=
  match text.splitOn "/" with
  | [directives] =>
    let (ds, faults) := readDirectives directives
    (ofDirectives ds none, faults)
  | [directives, pattern] =>
    let (ds, faults) := readDirectives directives
    match Regex.ofString pattern with
    | .ok r => (ofDirectives ds (some r), faults)
    | .error refusal => (ofDirectives ds none, faults ++ [.invalidPattern pattern refusal])
  | _ => (ofDirectives [] none, [.slashes text])

end Filter

end ScriptBalance.Log
