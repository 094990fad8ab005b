-- The parts of a regular expression as they are written, each with its place in
-- the text, and how deep they stand in each other. An expression that is too deep
-- is refused at the first part below the limit.
--
-- The parts and the limit are those of regex, the library of the patterns of
-- env_logger. Only what the log says on standard error depends on them.
import ScriptBalance.Regex.CharSet
import ScriptBalance.Regex.Fault

namespace ScriptBalance.Regex

/-- A character that stands for itself, or an escape for one. -/
structure Literal where
  span : Span
  char : Char
  /-- Whether it is an escape with two hexadecimal digits, which names a byte
  where an expression is about bytes. -/
  isByte : Bool := false
  deriving Repr, DecidableEq

/-! ## Flags -/

/-- What can be switched on and off in an expression. -/
inductive Flag where
  /-- Letters match in either case. -/
  | caseless
  /-- The anchors match at each line. -/
  | eachLine
  /-- The dot matches line ends too. -/
  | dotAll
  /-- Repetitions are short unless they ask for long. -/
  | swapGreed
  /-- The expression is about Unicode characters. -/
  | unicode
  /-- A carriage return ends a line too. -/
  | returns
  /-- Blanks and comments in the expression mean nothing. -/
  | verbose
  deriving Repr, DecidableEq

/-- The flag that a letter stands for. -/
def Flag.ofChar? : Char → Option Flag
  | 'i' => some .caseless
  | 'm' => some .eachLine
  | 's' => some .dotAll
  | 'U' => some .swapGreed
  | 'u' => some .unicode
  | 'R' => some .returns
  | 'x' => some .verbose
  | _ => none

/-- A flag and whether it is switched on. -/
structure Switch where
  flag : Flag
  on : Bool
  deriving Repr, DecidableEq

/-- What some switches say about a flag. -/
def Switch.find? (switches : List Switch) (flag : Flag) : Option Bool :=
  (switches.find? (·.flag = flag)).map (·.on)

/-! ## Character classes -/

/-- The classes with a name between colons. -/
inductive NamedClass where
  | alnum | alpha | ascii | blank | cntrl | digit | graph
  | lower | print | punct | space | upper | word | xdigit
  deriving Repr, DecidableEq

namespace NamedClass

def ofName? : String → Option NamedClass
  | "alnum" => some .alnum
  | "alpha" => some .alpha
  | "ascii" => some .ascii
  | "blank" => some .blank
  | "cntrl" => some .cntrl
  | "digit" => some .digit
  | "graph" => some .graph
  | "lower" => some .lower
  | "print" => some .print
  | "punct" => some .punct
  | "space" => some .space
  | "upper" => some .upper
  | "word" => some .word
  | "xdigit" => some .xdigit
  | _ => none

/-- The characters of a class. All are ASCII. -/
def chars : NamedClass → CharSet
  | .alnum => .union .digit .letter
  | .alpha => .letter
  | .ascii => .range '\x00' '\x7f'
  | .blank => .union (.single '\t') (.single ' ')
  | .cntrl => .union (.range '\x00' '\x1f') (.single '\x7f')
  | .digit => .digit
  | .graph => .range '!' '~'
  | .lower => .lower
  | .print => .range ' ' '~'
  | .punct => .all [.range '!' '/', .range ':' '@', .range '[' '\x60', .range '{' '~']
  | .space => .space
  | .upper => .upper
  | .word => .word
  | .xdigit => .all [.digit, .range 'A' 'F', .range 'a' 'f']

end NamedClass

/-- The classes that a backslash and a letter stand for. -/
inductive Shorthand where
  | digit
  | space
  | word
  deriving Repr, DecidableEq

/-- The ASCII characters of such a class. -/
def Shorthand.chars : Shorthand → CharSet
  | .digit => .digit
  | .space => .space
  | .word => .word

/-- A property of Unicode that a class asks for. -/
inductive Property where
  | named (name : String)
  | valued (name value : String)
  deriving Repr, DecidableEq

/-- The operators between the sets of a class. -/
inductive SetOperator where
  | inter
  | diff
  | symmDiff
  deriving Repr, DecidableEq

def SetOperator.apply : SetOperator → CharSet → CharSet → CharSet
  | .inter => .inter
  | .diff => .diff
  | .symmDiff => .symmDiff

/-- A class of characters, or a part of one. -/
inductive ClassTree where
  | nothing (span : Span)
  | literal (literal : Literal)
  | range (span : Span) (first last : Literal)
  | named (span : Span) (negated : Bool) (name : NamedClass)
  | shorthand (span : Span) (negated : Bool) (shorthand : Shorthand)
  | property (span : Span) (negated : Bool) (property : Property)
  | brackets (span : Span) (negated : Bool) (body : ClassTree)
  | union (span : Span) (items : List ClassTree)
  | operation (span : Span) (operator : SetOperator) (left right : ClassTree)
  deriving Repr

def ClassTree.span : ClassTree → Span
  | .literal l => l.span
  | .nothing s | .range s _ _ | .named s _ _ | .shorthand s _ _ | .property s _ _
  | .brackets s _ _ | .union s _ | .operation s _ _ _ => s

/-! ## Expressions -/

/-- The edges of words, and what is between them. -/
inductive WordEdge where
  /-- Between a word character and another. -/
  | anyEdge
  /-- Anywhere else. -/
  | noEdge
  | start
  | stop
  /-- With no word character before. -/
  | startHalf
  /-- With no word character behind. -/
  | stopHalf
  deriving Repr, DecidableEq

/-- What an expression asks of a place. -/
inductive Assertion where
  | lineStart
  | lineStop
  | textStart
  | textStop
  | word (edge : WordEdge)
  deriving Repr, DecidableEq

/-- An expression as it is written. -/
inductive Tree where
  | switches (span : Span) (switches : List Switch)
  | literal (literal : Literal)
  | dot (span : Span)
  | assertion (span : Span) (assertion : Assertion)
  | oneOf (body : ClassTree)
  /-- A number of matches in a row, which may have no bound. -/
  | counted (span : Span) (least : Nat) (most : Option Nat) (body : Tree)
  | group (span : Span) (captures : Bool) (switches : List Switch) (body : Tree)
  | either (span : Span) (branches : List Tree)
  /-- Parts in a row, of which there may be none. -/
  | row (span : Span) (parts : List Tree)
  deriving Repr

def Tree.span : Tree → Span
  | .literal l => l.span
  | .oneOf body => body.span
  | .switches s _ | .dot s | .assertion s _ | .counted s _ _ _ | .group s _ _ _ | .either s _
  | .row s _ => s

/-! ## Depth -/

/-- The depth of what stands in a part, if the part itself is not too deep. -/
def deeper (depth : Nat) (span : Span) : Except Fault Nat :=
  if depth < depthLimit then .ok (depth + 1) else .error { flaw := .tooDeep, span }

mutual

/-- Whether a class that stands at a depth is nowhere too deep. -/
def ClassTree.checkDepth (depth : Nat) : ClassTree → Except Fault Unit
  | .brackets span _ body => do body.checkDepth (← deeper depth span)
  | .union span items => do checkDepths (← deeper depth span) items
  | .operation span _ left right => do
    let depth ← deeper depth span
    left.checkDepth depth
    right.checkDepth depth
  | .nothing _ | .literal _ | .range _ _ _ | .named _ _ _ | .shorthand _ _ _ | .property _ _ _ =>
    .ok ()

def ClassTree.checkDepths (depth : Nat) : List ClassTree → Except Fault Unit
  | [] => .ok ()
  | item :: rest => do
    item.checkDepth depth
    checkDepths depth rest

end

mutual

/-- Whether an expression that stands at a depth is nowhere too deep. -/
def Tree.checkDepth (depth : Nat) : Tree → Except Fault Unit
  | .oneOf body => body.checkDepth depth
  | .counted span _ _ body | .group span _ _ body => do body.checkDepth (← deeper depth span)
  | .either span parts => do checkDepths (← deeper depth span) parts
  | .row _ [] => .ok ()
  | .row span (part :: parts) => do
    let depth ← deeper depth span
    part.checkDepth depth
    checkDepths depth parts
  | .switches _ _ | .literal _ | .dot _ | .assertion _ _ => .ok ()

def Tree.checkDepths (depth : Nat) : List Tree → Except Fault Unit
  | [] => .ok ()
  | part :: rest => do
    part.checkDepth depth
    checkDepths depth rest

end

end ScriptBalance.Regex
