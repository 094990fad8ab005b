-- Findings. A finding says what is wrong with a script and where, and it has one
-- text form. A report has an entry for each finding, and one for the start of the
-- section that holds the findings about patterns.
import ScriptBalance.Characters
import ScriptBalance.Text

namespace ScriptBalance

/-! ## Findings -/

/-- What a finding reports. -/
inductive Finding.Kind where
  /-- A closing bracket with no open bracket of its family. -/
  | unexpectedClose (family : Family)
  /-- An opening bracket that is still open at the end of the script. -/
  | unclosed (family : Family)
  /-- A line with a backtick. -/
  | backtick
  /-- A line with a quote, a dot and two backslashes in a row. -/
  | backslash
  deriving Repr, DecidableEq

/-- A finding about a bracket, and not about a pattern. -/
def Finding.Kind.isStructural : Finding.Kind → Bool
  | .unexpectedClose _ | .unclosed _ => true
  | .backtick | .backslash => false

/-- One thing that is wrong with a script. -/
structure Finding where
  kind : Finding.Kind
  /-- The number of the line, from 1. -/
  line : Nat
  /-- The column on the line, from 0, for a finding about a bracket. -/
  column : Option Nat := none
  /-- The whole line, for a finding that shows it. -/
  text : Option String := none
  deriving Repr, DecidableEq

namespace Finding

/-- A closing bracket at a cell that closes nothing. -/
def unexpectedClose (family : Family) (cell : Cell) : Finding :=
  { kind := .unexpectedClose family, line := cell.pos.line, column := some cell.pos.column,
    text := some cell.line }

/-- An opening bracket at a position that nothing closes. -/
def unclosed (family : Family) (pos : Position) : Finding :=
  { kind := .unclosed family, line := pos.line, column := some pos.column }

/-- A backtick on line number `num`. -/
def backtick (num : Nat) (line : String) : Finding :=
  { kind := .backtick, line := num, text := some line }

/-- A doubled backslash in a string on line number `num`. -/
def backslash (num : Nat) (line : String) : Finding :=
  { kind := .backslash, line := num, text := some line }

def isStructural (f : Finding) : Bool := f.kind.isStructural

/-- The column that the text form gives. A finding with no column gives 0. -/
def shownColumn (f : Finding) : Nat := f.column.getD 0

/-- The script line that the text form gives, without the blanks at its end.
A finding with no line gives an empty one. -/
def shownText (f : Finding) : String := trimEnd (f.text.getD "")

/-- What a finding says after the number of its line. -/
def detail (f : Finding) : String :=
  match f.kind with
  | .unexpectedClose family =>
    "Unexpected closing " ++ family.name ++ " at position " ++ toString f.shownColumn
  | .unclosed family =>
    "Unclosed opening " ++ family.name ++ " at position " ++ toString f.shownColumn
  | .backtick => "Contains backtick: " ++ f.shownText
  | .backslash => "Contains backslash in string: " ++ f.shownText

/-- The first line of the text form. -/
def headline (f : Finding) : String := "Line " ++ toString f.line ++ ": " ++ f.detail

/-- A caret under the column of a finding, behind an indent of two. -/
def caretLine (f : Finding) : String :=
  String.ofList (List.replicate (2 + f.shownColumn) ' ') ++ "^"

/-- The lines of the text form. A closing brace that closes nothing also shows
its script line with a caret under the brace. -/
def lines (f : Finding) : List String :=
  if f.kind = .unexpectedClose .brace then
    [f.headline, "  " ++ f.shownText, f.caretLine]
  else
    [f.headline]

end Finding

/-! ## The entries of a report -/

/-- One entry of a report. -/
inductive Entry where
  | finding (finding : Finding)
  /-- What follows are the findings about patterns. -/
  | patternSection
  deriving Repr, DecidableEq

/-- The headline of the section for patterns. -/
def patternHeadline : String := "Checking for problematic patterns..."

namespace Entry

/-- The lines of an entry. An empty line sets the section for patterns off. -/
def lines : Entry → List String
  | .finding f => f.lines
  | .patternSection => ["", patternHeadline]

/-- The text of an entry: its lines, each ended by a line feed. -/
def text (e : Entry) : String := String.join (e.lines.map (· ++ "\n"))

/-- The finding of an entry, if it is one. -/
def finding? : Entry → Option Finding
  | .finding f => some f
  | .patternSection => none

/-! ## The laws -/

/-- An empty line and the headline start the section for patterns. -/
theorem text_patternSection :
    patternSection.text = "\n" ++ patternHeadline ++ "\n" := by
  decide

end Entry

end ScriptBalance
