-- What a script is searched for. The bracket scan reads the cells of a script one
-- after the other and keeps the quote of the open string and the open brackets of
-- each family. Characters inside a string are plain text to it. The patterns that
-- are known to cause trouble are looked for on each line on its own, whatever
-- strings or brackets are open.
import ScriptBalance.Finding
import ScriptBalance.Log

namespace ScriptBalance

/-! ## The scan -/

/-- What a scan knows after the cells that it has read. -/
structure Scan where
  /-- The quote of the open string. A line end never closes a string. -/
  quote : Option Quote := none
  braces : OpenStack := {}
  parentheses : OpenStack := {}
  deriving Repr, DecidableEq

namespace Scan

def inString (s : Scan) : Bool := s.quote.isSome

/-- The open brackets of a family. -/
def stack (s : Scan) : Family → OpenStack
  | .brace => s.braces
  | .parenthesis => s.parentheses

def setStack (s : Scan) (stack : OpenStack) : Family → Scan
  | .brace => { s with braces := stack }
  | .parenthesis => { s with parentheses := stack }

/-! ## One cell -/

/-- The quote of the open string after a cell. -/
def quoteAfter (s : Scan) (cell : Cell) : Option Quote := Quote.after s.quote cell.prev cell.char

/-- The bracket at a cell, if there is one outside strings. A quote that
closes a string stands outside it. -/
def bracket? (s : Scan) (cell : Cell) : Option Bracket :=
  if (s.quoteAfter cell).isSome then none else Bracket.ofChar? cell.char

/-- What a bracket at a position does to the open brackets of its family. -/
def meet (s : Scan) (pos : Position) : Option Bracket → Scan
  | none => s
  | some (.opener f) => s.setStack ((s.stack f).push pos) f
  | some (.closer f) => s.setStack (s.stack f).pop f

/-- The scan after one more cell. -/
def next (s : Scan) (cell : Cell) : Scan :=
  { s with quote := s.quoteAfter cell }.meet cell.pos (s.bracket? cell)

/-- The finding at a cell: a closing bracket with nothing to close. -/
def finding? (s : Scan) (cell : Cell) : Option Finding :=
  match s.bracket? cell with
  | some (.closer f) => if (s.stack f).isEmpty then some (.unexpectedClose f cell) else none
  | _ => none

/-- What the log says at a cell: a string starts or ends there. -/
def record? (s : Scan) (cell : Cell) : Option Log.Record :=
  match s.inString, (s.quoteAfter cell).isSome with
  | false, true => some (.entered cell.pos)
  | true, false => some (.left cell.pos)
  | _, _ => none

/-! ## Many cells -/

/-- The scan after more cells. -/
def after (s : Scan) (cells : List Cell) : Scan := cells.foldl next s

/-- The findings at the cells of a list, in order. -/
def findings (s : Scan) : List Cell → List Finding
  | [] => []
  | cell :: rest => (s.finding? cell).toList ++ (s.next cell).findings rest

/-! ## The end of the script -/

/-- The findings at the end of the script: each bracket that is still open,
the braces before the parentheses, and those of a family in script order. -/
def unclosed (s : Scan) : List Finding :=
  Family.all.flatMap fun f => (s.stack f).toList.map (Finding.unclosed f)

/-- What the log says at the end of the script. -/
def closingRecord (s : Scan) : Log.Record :=
  .endOfScript s.braces.size s.parentheses.size s.inString

end Scan

/-- The findings about the brackets of a script, in order. -/
def bracketFindings (lines : List String) : List Finding :=
  Scan.findings {} (cells lines) ++ (Scan.after {} (cells lines)).unclosed

/-! ## Patterns -/

/-- The characters of a doubled backslash at the start of a string: a quote, a
dot and two backslashes. -/
def backslashMarker (q : Quote) : List Char := [q.char, '.', '\\', '\\']

/-- The line has a backtick. -/
def hasBacktick (line : String) : Bool := line.toList.contains escapeChar

/-- A marker of either quote stands at the start of the characters. -/
def startsWithMarker (chars : List Char) : Bool :=
  (backslashMarker .double).isPrefixOf chars || (backslashMarker .single).isPrefixOf chars

/-- A marker stands somewhere in the characters. -/
def containsMarker : List Char → Bool
  | [] => false
  | c :: rest => startsWithMarker (c :: rest) || containsMarker rest

/-- The line has a doubled backslash at the start of a string. -/
def hasBackslash (line : String) : Bool := containsMarker line.toList

/-- The findings about the patterns of line number `num`, the backtick
first. -/
def linePatterns (num : Nat) (line : String) : List Finding :=
  (if hasBacktick line then [Finding.backtick num line] else [])
    ++ (if hasBackslash line then [Finding.backslash num line] else [])

/-- The findings about the patterns of a script, in order. -/
def patternFindings (lines : List String) : List Finding :=
  (lines.zipIdx 1).flatMap fun (line, num) => linePatterns num line

/-! ## Sources -/

/-- A script, split into lines. -/
structure Source where
  path : Option String := none
  lines : List String
  deriving Repr, DecidableEq

namespace Source

/-- The script with a given text. -/
def ofText (text : String) : Source := { lines := splitLines text }

/-- The number of lines. -/
def size (s : Source) : Nat := s.lines.length

def isEmpty (s : Source) : Bool := s.lines.isEmpty

/-- The line with a number, counted from 1. -/
def line? (s : Source) : Nat → Option String
  | 0 => none
  | n + 1 => s.lines[n]?

/-- The entries of the report on a script: the findings about brackets, then
the section for patterns. -/
def entries (s : Source) : List Entry :=
  (bracketFindings s.lines).map .finding ++ .patternSection
    :: (patternFindings s.lines).map .finding

end Source

/-! ## The laws -/

namespace Scan

@[simp]
theorem after_nil (s : Scan) : s.after [] = s := rfl

@[simp]
theorem after_append (s : Scan) (a b : List Cell) : s.after (a ++ b) = (s.after a).after b := by
  simp [after]

/-- The findings of two lists of cells in a row: the second list is read from
the state that the first one leaves. -/
theorem findings_append (s : Scan) (a b : List Cell) :
    s.findings (a ++ b) = s.findings a ++ (s.after a).findings b := by
  induction a generalizing s with
  | nil => rfl
  | cons cell rest ih => simp [findings, ih, after]

end Scan

end ScriptBalance
