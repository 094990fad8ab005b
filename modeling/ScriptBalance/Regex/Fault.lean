-- What can be wrong with the text of a regular expression, and how it is said:
-- the text is shown with marks under the faulty part.
--
-- The flaws, their words and the marks are those of regex, the library of the
-- patterns of env_logger. Only the warnings on standard error depend on them.
import ScriptBalance.Text

namespace ScriptBalance.Regex

/-! ## Parts of a text -/

/-- A place before a character of a text, or at its end. Lines and columns
count from one. -/
structure Place where
  offset : Nat := 0
  line : Nat := 1
  column : Nat := 1
  deriving Repr, DecidableEq

/-- The place right behind a character that stands at a place. -/
def Place.after (p : Place) (c : Char) : Place :=
  if c = '\n' then { offset := p.offset + 1, line := p.line + 1, column := 1 }
  else { p with offset := p.offset + 1, column := p.column + 1 }

/-- The part of a text from one place up to another. -/
structure Span where
  start : Place
  stop : Place
  deriving Repr, DecidableEq

namespace Span

/-- The empty part at a place. -/
def point (p : Place) : Span := ⟨p, p⟩

/-- Whether a part ends on the line that it starts on. -/
def onOneLine (s : Span) : Bool := s.start.line = s.stop.line

/-- How many marks a part takes under its line. An empty part takes one too. -/
def width (s : Span) : Nat := max 1 (s.stop.column - s.start.column)

end Span

/-! ## Faults -/

/-- What is wrong with an expression. -/
inductive Flaw where
  -- Groups
  | groupUnclosed
  | groupUnopened
  | nameEmpty
  | nameInvalid
  | nameUnfinished
  | nameRepeated
  | lookAround
  -- Flags
  | flagUnknown
  | flagRepeated
  | flagsUnfinished
  | negationRepeated
  | negationDangling
  -- Repetition
  | nothingToRepeat
  | countUnclosed
  | countEmpty
  | countTooLarge
  | countOrder
  -- Escapes
  | escapeUnfinished
  | escapeUnknown
  | backreference
  | hexEmpty
  | hexDigit
  | hexInvalid
  | propertyInvalid
  | edgeUnfinished
  | edgeUnclosed
  | edgeUnknown
  -- Classes in brackets
  | classUnclosed
  | classEscape
  | rangeBound
  | rangeOrder
  -- Depth and meaning
  | tooDeep
  | unicodeNotAllowed
  | invalidEncoding
  | propertyUnknown
  | propertyValueUnknown
  | shorthandUnavailable
  | caseUnavailable
  deriving Repr, DecidableEq

/-- The greatest number of parts of an expression that stand in each other. -/
def depthLimit : Nat := 250

/-- How a flaw is said. -/
def Flaw.message : Flaw → String
  | .groupUnclosed => "unclosed group"
  | .groupUnopened => "unopened group"
  | .nameEmpty => "empty capture group name"
  | .nameInvalid => "invalid capture group character"
  | .nameUnfinished => "unclosed capture group name"
  | .nameRepeated => "duplicate capture group name"
  | .lookAround => "look-around, including look-ahead and look-behind, is not supported"
  | .flagUnknown => "unrecognized flag"
  | .flagRepeated => "duplicate flag"
  | .flagsUnfinished => "expected flag but got end of regex"
  | .negationRepeated => "flag negation operator repeated"
  | .negationDangling => "dangling flag negation operator"
  | .nothingToRepeat => "repetition operator missing expression"
  | .countUnclosed => "unclosed counted repetition"
  | .countEmpty => "repetition quantifier expects a valid decimal"
  | .countTooLarge => "decimal literal invalid"
  | .countOrder => "invalid repetition count range, the start must be <= the end"
  | .escapeUnfinished => "incomplete escape sequence, reached end of pattern prematurely"
  | .escapeUnknown => "unrecognized escape sequence"
  | .backreference => "backreferences are not supported"
  | .hexEmpty => "hexadecimal literal empty"
  | .hexDigit => "invalid hexadecimal digit"
  | .hexInvalid => "hexadecimal literal is not a Unicode scalar value"
  | .propertyInvalid => "invalid Unicode character class"
  | .edgeUnfinished =>
    "found either the beginning of a special word boundary or a bounded repetition on a "
      ++ "\\b with an opening brace, but no closing brace"
  | .edgeUnclosed =>
    "special word boundary assertion is either unclosed or contains an invalid character"
  | .edgeUnknown =>
    "unrecognized special word boundary assertion, valid choices are: start, end, "
      ++ "start-half or end-half"
  | .classUnclosed => "unclosed character class"
  | .classEscape => "invalid escape sequence found in character class"
  | .rangeBound => "invalid range boundary, must be a literal"
  | .rangeOrder => "invalid character class range, the start must be <= the end"
  | .tooDeep =>
    "exceed the maximum number of nested parentheses/brackets (" ++ toString depthLimit ++ ")"
  | .unicodeNotAllowed => "Unicode not allowed here"
  | .invalidEncoding => "pattern can match invalid UTF-8"
  | .propertyUnknown => "Unicode property not found"
  | .propertyValueUnknown => "Unicode property value not found"
  | .shorthandUnavailable =>
    "Unicode-aware Perl class not found (make sure the unicode-perl feature is enabled)"
  | .caseUnavailable =>
    "Unicode-aware case insensitivity matching is not available "
      ++ "(make sure the unicode-case feature is enabled)"

/-- A flaw and where it is. -/
structure Fault where
  flaw : Flaw
  span : Span
  /-- The part before it that a repeated part repeats. -/
  earlier : Option Span := none
  deriving Repr, DecidableEq

namespace Fault

/-- The parts that are marked, in order. -/
def spans (fault : Fault) : List Span := fault.earlier.toList ++ [fault.span]

/-- A character some times in a row. -/
def row (n : Nat) (c : Char) : String := String.ofList (List.replicate n c)

/-- The marks under a line for the parts on it. -/
def marks (spans : List Span) : String :=
  spans.foldl
    (fun line s => line ++ row (s.start.column - 1 - line.length) ' ' ++ row s.width '^')
    ""

/-- The lines of an expression, each with its number if there are more than
one, and below a line the marks for the parts on it. `width` is the width of
the greatest number. -/
def marked (width : Nat) (spans : List Span) (lines : List String) : List String :=
  lines.zipIdx.flatMap fun (line, i) =>
    let number := toString (i + 1)
    let before :=
      if width = 0 then row 4 ' ' else row (width - number.length) ' ' ++ number ++ ": "
    let here := spans.filter fun s => s.onOneLine && s.start.line = i + 1
    (before ++ line)
      :: if here.isEmpty then [] else [row (if width = 0 then 4 else width + 2) ' ' ++ marks here]

/-- A note about a part that goes over more than one line. -/
def note (s : Span) : String :=
  "on line " ++ toString s.start.line ++ " (column " ++ toString s.start.column
    ++ ") through line " ++ toString s.stop.line ++ " (column " ++ toString (s.stop.column - 1)
    ++ ")"

/-- A fault as it is said of an expression: the expression with its marks, and
below it the flaw. An expression of more than one line stands between rules. -/
def text (fault : Fault) (pattern : String) : String :=
  let lines := outputLines pattern
  let count := if pattern.toList.getLast? = some '\n' then lines.length + 1 else lines.length
  let width := if count ≤ 1 then 0 else (toString count).length
  let rule := if pattern.toList.contains '\n' then [row 79 '~'] else []
  "\n".intercalate
    (["regex parse error:"] ++ rule ++ marked width fault.spans lines ++ rule
      ++ (fault.spans.filter (!·.onOneLine)).map note ++ ["error: " ++ fault.flaw.message])

end Fault

end ScriptBalance.Regex
