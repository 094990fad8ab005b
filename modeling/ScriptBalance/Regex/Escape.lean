-- Escapes: what a backslash and the characters behind it stand for. The escapes
-- are those of regex, the library of the patterns of env_logger, and only what the
-- log says on standard error depends on them.
import ScriptBalance.Regex.Cursor
import ScriptBalance.Regex.Tree

namespace ScriptBalance.Regex

open Reader

/-! ## Hexadecimal numbers -/

def isHexDigit (c : Char) : Bool := CharSet.contains NamedClass.xdigit.chars c

/-- The value of a hexadecimal digit. -/
def hexDigit (c : Char) : Nat :=
  if c.isDigit then c.toNat - '0'.toNat else c.toLower.toNat - 'a'.toNat + 10

/-- The character whose code point some digits write. -/
def hexChar? (digits : List Char) : Option Char :=
  let n := digits.foldl (fun n c => 16 * n + hexDigit c) 0
  if n.isValidChar then some (Char.ofNat n) else none

/-- A fixed number of digits. -/
def readHexDigits : Nat → Reader (List Char)
  | 0 => return []
  | n + 1 => do
    match ← current? with
    | none => failHere .escapeUnfinished
    | some c =>
      if isHexDigit c then
        step
        return c :: (← readHexDigits n)
      else failChar .hexDigit

/-- Digits between braces. -/
def readHexBraces (start : Place) : Reader Tree := do
  let brace := (← get).charSpan
  step
  let digits ← takeWhile isHexDigit
  match ← current? with
  | none => failFrom .escapeUnfinished brace.start
  | some '}' =>
    let stop ← here
    step
    if digits.isEmpty then failFrom .hexEmpty brace.start
    else
      match hexChar? digits with
      | some char => return .literal { span := ← spanFrom start, char }
      | none => fail .hexInvalid ⟨brace.stop, stop⟩
  | some _ => failChar .hexDigit

/-- A character by its code point, in braces or with `count` digits. -/
def readHex (start : Place) (count : Nat) : Reader Tree := do
  step
  match ← current? with
  | none => failHere .escapeUnfinished
  | some '{' => readHexBraces start
  | some _ =>
    let first ← here
    let digits ← readHexDigits count
    match hexChar? digits with
    | some char => return .literal { span := ← spanFrom start, char, isByte := count = 2 }
    | none => failFrom .hexInvalid first

/-! ## Properties of Unicode -/

/-- The property that a text between braces asks for. A value stands behind
the first of its signs. -/
def Property.ofText (text : String) : Property :=
  let valued? (sign : String) : Option Property :=
    match text.splitOn sign with
    | name :: value :: rest => some (.valued name (sign.intercalate (value :: rest)))
    | _ => none
  ((valued? "!=").or ((valued? ":").or (valued? "="))).getD (.named text)

/-- A property, of one letter or in braces. -/
def readProperty (start : Place) (negated : Bool) : Reader Tree := do
  step
  match ← current? with
  | none => failHere .escapeUnfinished
  | some '{' =>
    step
    let name ← takeWhile (· ≠ '}')
    if (← current?).isNone then failHere .escapeUnfinished
    bump
    return .oneOf (.property (← spanFrom start) negated (.ofText (String.ofList name)))
  | some '\\' => failChar .propertyInvalid
  | some c =>
    step
    return .oneOf (.property (← spanFrom start) negated (.named (String.singleton c)))

/-! ## Edges of words -/

/-- The characters of the names of edges. -/
def isEdgeChar (c : Char) : Bool := c.isAlpha || c = '-'

def WordEdge.ofName? : String → Option WordEdge
  | "start" => some .start
  | "end" => some .stop
  | "start-half" => some .startHalf
  | "end-half" => some .stopHalf
  | _ => none

/-- The name of an edge between braces. What cannot be a name is left for a
repetition to read. -/
def readEdge (start : Place) : Reader WordEdge := do
  let before ← get
  step
  match ← current? with
  | none => failFrom .edgeUnfinished start
  | some c =>
    if isEdgeChar c then
      let first ← here
      let name ← takeWhile isEdgeChar
      if (← current?) ≠ some '}' then failFrom .edgeUnclosed before.place
      let stop ← here
      bump
      match WordEdge.ofName? (String.ofList name) with
      | some e => return e
      | none => fail .edgeUnknown ⟨first, stop⟩
    else
      set before
      return .anyEdge

/-! ## All escapes -/

/-- The character that a backslash and a character stand for. A sign stands for
itself, and so does a blank. -/
def escapedChar? : Char → Option Char
  | 'a' => some '\x07'
  | 'f' => some '\x0c'
  | 't' => some '\t'
  | 'n' => some '\n'
  | 'r' => some '\r'
  | 'v' => some '\x0b'
  | c => if c.toNat < 0x80 && !c.isAlphanum && c ≠ '<' && c ≠ '>' then some c else none

/-- The class that a backslash and a letter stand for. -/
def shorthand? : Char → Option Shorthand
  | 'd' => some .digit
  | 's' => some .space
  | 'w' => some .word
  | _ => none

/-- What a backslash and a character ask of a place. -/
def escapedAssertion? : Char → Option Assertion
  | 'A' => some .textStart
  | 'z' => some .textStop
  | 'B' => some (.word .noEdge)
  | '<' => some (.word .start)
  | '>' => some (.word .stop)
  | _ => none

/-- An escape of one character, which is read. -/
def simpleEscape (start : Place) (c : Char) : Reader Tree := do
  let span ← spanFrom start
  match escapedChar? c, shorthand? c.toLower, escapedAssertion? c with
  | some char, _, _ => return .literal { span, char }
  | _, some shorthand, _ => return .oneOf (.shorthand span c.isUpper shorthand)
  | _, _, some assertion => return .assertion span assertion
  | _, _, _ => fail .escapeUnknown span

/-- An escape, from its backslash on. -/
def readEscape : Reader Tree := do
  let start ← here
  bump
  match ← current? with
  | none => failFrom .escapeUnfinished start
  | some 'x' => readHex start 2
  | some 'u' => readHex start 4
  | some 'U' => readHex start 8
  | some 'p' => readProperty start false
  | some 'P' => readProperty start true
  | some 'b' =>
    bump
    let edge ← if (← current?) = some '{' then readEdge start else pure .anyEdge
    return .assertion (← spanFrom start) (.word edge)
  | some c =>
    bump
    if c.isDigit then failFrom .backreference start
    simpleEscape start c

end ScriptBalance.Regex
