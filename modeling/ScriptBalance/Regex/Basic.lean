-- Regular expressions, and which texts hold a match of one. A match is found by
-- following all ways through an expression at once, as the places of a text that
-- it can be at. The size of an expression is that of a machine that reads a text
-- byte by byte, forwards or backwards, and too large an expression is refused
-- before anything is read with it.
--
-- What matches and what is too large follows the documented rules of regex, the
-- library that env_logger has its patterns from. Only what the log says on standard
-- error depends on it.
import ScriptBalance.Regex.CharSet
import ScriptBalance.Regex.Tree

namespace ScriptBalance

/-- What an expression asks of a place in a text. -/
inductive Look where
  | textStart
  | textStop
  /-- The start of a line. `returns` says whether a carriage return ends one. -/
  | lineStart (returns : Bool)
  | lineStop (returns : Bool)
  /-- The edge of a word, by the word characters of Unicode or of ASCII. -/
  | word (edge : Regex.WordEdge) (unicode : Bool)
  deriving Repr, DecidableEq

/-- A regular expression. -/
inductive Regex where
  | empty
  | oneOf (chars : CharSet)
  | look (look : Look)
  /-- A group, whose match is kept apart. -/
  | group (body : Regex)
  | seq (a b : Regex)
  | either (a b : Regex)
  /-- A number of matches in a row, which may have no bound. -/
  | counted (body : Regex) (least : Nat) (most : Option Nat)
  deriving Repr, DecidableEq

/-! ## Places -/

namespace Look

/-- The character right before a place. -/
def before? (text : Array Char) (i : Nat) : Option Char :=
  if i = 0 then none else text[i - 1]?

/-- Whether an edge of a word is at a place, from whether word characters are
right before it and right behind it. -/
def edgeHolds (before behind : Bool) : Regex.WordEdge → Bool
  | .anyEdge => before != behind
  | .noEdge => before == behind
  | .start => !before && behind
  | .stop => before && !behind
  | .startHalf => !before
  | .stopHalf => !behind

/-- Whether a place is as a look asks. Between a carriage return and its line
feed no line starts or ends. -/
def holds (text : Array Char) (look : Look) (i : Nat) : Bool :=
  match look with
  | .textStart => i = 0
  | .textStop => i = text.size
  | .lineStart false => i = 0 || before? text i = some '\n'
  | .lineStop false => i = text.size || text[i]? = some '\n'
  | .lineStart true =>
    i = 0 || before? text i = some '\n'
      || before? text i = some '\r' && text[i]? != some '\n'
  | .lineStop true =>
    i = text.size || text[i]? = some '\r'
      || text[i]? = some '\n' && before? text i != some '\r'
  | .word edge _ =>
    edgeHolds ((before? text i).any CharSet.word.contains)
      ((text[i]?).any CharSet.word.contains) edge

end Look

namespace Regex

/-- The places in either of two lists. Those that are new in the second come
last. -/
def join (a b : List Nat) : List Nat := a ++ b.filter (!a.contains ·)

/-- The places after `n` steps. If a step changes nothing, no later one does. -/
def steps (step : List Nat → List Nat) : Nat → List Nat → List Nat
  | 0, places => places
  | n + 1, places =>
    let next := step places
    if next = places then places else steps step n next

/-- The places after at most `n` steps. -/
def reach (step : List Nat → List Nat) : Nat → List Nat → List Nat
  | 0, places => places
  | n + 1, places =>
    let next := join places (step places)
    if next = places then places else reach step n next

/-! ## Matching -/

/-- The places where the matches that start at some places can end. Matches in
a row that are more than the places of the text repeat a match of nothing, and
more of them reach the same places. -/
def ends (text : Array Char) : Regex → List Nat → List Nat
  | .empty, places => places
  | .oneOf chars, places => (places.filter fun i => (text[i]?).any chars.contains).map (· + 1)
  | .look l, places => places.filter (l.holds text)
  | .group body, places => body.ends text places
  | .seq a b, places => b.ends text (a.ends text places)
  | .either a b, places => join (a.ends text places) (b.ends text places)
  | .counted body least most, places =>
    let bound := text.size + 1
    let more := (most.map fun n => min (n - least) bound).getD bound
    reach (body.ends text) more (steps (body.ends text) (min least bound) places)

/-- Whether a match starts somewhere in a text. -/
def occursIn (r : Regex) (text : String) : Bool :=
  let chars := text.toList.toArray
  !(r.ends chars (List.range (chars.size + 1))).isEmpty

/-! ## Building -/

/-- Expressions in a row. -/
def row (parts : List Regex) : Regex := parts.foldr .seq .empty

/-- Any of some expressions. -/
def anyOf : List Regex → Regex
  | [] => .empty
  | [r] => r
  | r :: rest => .either r (anyOf rest)

/-- Whether all matches of an expression are empty. -/
def neverMoves : Regex → Bool
  | .empty | .look _ => true
  | .oneOf _ => false
  | .group body | .counted body _ _ => body.neverMoves
  | .seq a b | .either a b => a.neverMoves && b.neverMoves

/-- A number of matches in a row. An empty match need not be repeated. -/
def repeated (body : Regex) (least : Nat) (most : Option Nat) : Regex :=
  let (least, most) :=
    if body.neverMoves then (min least 1, some ((most.map (min · 1)).getD 1)) else (least, most)
  match least, most with
  | 0, some 0 => .empty
  | 1, some 1 => body
  | _, _ => .counted body least most

/-! ## Size -/

/-- The bytes of a state, without what it points to. -/
def stateSize : Nat := 32

/-- The bytes of a way out of a state that reads a byte. -/
def stepSize : Nat := 8

/-- The bytes of a way out of a state that reads nothing. -/
def branchSize : Nat := 4

/-- The most bytes that an expression may take. -/
def sizeLimit : Nat := 10 * 1024 * 1024

/-- The characters whose UTF-8 form has a number of bytes, and what reading all
of them takes. -/
structure Band where
  first : Nat
  stop : Nat
  /-- How many sequences of byte ranges the characters make. -/
  sequences : Nat
  /-- The states that read the bytes behind the first one, shared where they can
  be. -/
  shared : Nat
  /-- The states that read the sequences one by one. -/
  apart : Nat

def bands : List Band :=
  [⟨0, 0x80, 1, 0, 1⟩, ⟨0x80, 0x800, 1, 1, 2⟩, ⟨0x800, 0x10000, 4, 3, 12⟩,
   ⟨0x10000, 0x110000, 3, 3, 12⟩]

/-- The number of bytes of the UTF-8 form of a code point. -/
def encodedLength (n : Nat) : Nat := (bands.filter (·.first ≤ n)).length

/-- The bands that a run of characters reaches into. Each counts as a whole. -/
def bandsOf (run : Nat × Nat) : List Band :=
  bands.filter fun b => run.1 < b.stop && b.first < run.2

/-- What some bands have of a thing together. -/
def total (part : Band → Nat) (parts : List Band) : Nat :=
  parts.foldl (fun n b => n + part b) 0

/-- The bytes of the states that read a character of some bands. All of ASCII is
read by one state. -/
def bandsSize (backward : Bool) (parts : List Band) : Nat :=
  let sequences := total (·.sequences) parts
  let shared := total (·.shared) parts
  if parts.all (·.stop = 0x80) then 2 * stateSize + sequences * stepSize
  else if backward then (2 + total (·.apart) parts) * stateSize + sequences * branchSize
  else (2 + shared) * stateSize + (shared + sequences) * stepSize

/-- The bytes of the states that read a character of some runs. A single
character is read byte by byte. -/
def runsSize (backward : Bool) : List (Nat × Nat) → Nat
  | [] => stateSize
  | runs@([(first, stop)]) =>
    if first + 1 = stop then encodedLength first * stateSize
    else bandsSize backward (runs.flatMap bandsOf)
  | runs => bandsSize backward (runs.flatMap bandsOf)

/-- The bytes of an expression. A group is kept apart only when it is read
forwards. -/
def size (backward : Bool) : Regex → Nat
  | .empty => 0
  | .oneOf chars => runsSize backward chars.runs
  | .look _ => stateSize
  | .group body => body.size backward + if backward then 0 else 2 * stateSize
  | .seq a b => a.size backward + b.size backward
  | .either a b => a.size backward + b.size backward + 2 * (stateSize + branchSize)
  | .counted body least most =>
    let once := body.size backward
    let branch := stateSize + 2 * branchSize
    match most with
    | none => max least 1 * once + branch
    | some most =>
      if most ≤ least then least * once
      else
        least * once + (most - least) * (once + branch) + stateSize
          + if least = 0 && most ≠ 1 then stateSize else 0

/-- The bytes of a whole machine: beside those of the expression it has states
to start anywhere, to keep the match apart and to end. -/
def machineSize (backward : Bool) (r : Regex) : Nat :=
  r.size backward + 4 * stateSize + stepSize + 2 * branchSize
    + if backward then 0 else 2 * stateSize

/-- Whether an expression asks for the edge of a word by Unicode's rules. -/
def asksUnicodeWord : Regex → Bool
  | .empty | .oneOf _ => false
  | .look (.word _ unicode) => unicode
  | .look _ => false
  | .group body | .counted body _ _ => body.asksUnicodeWord
  | .seq a b | .either a b => a.asksUnicodeWord || b.asksUnicodeWord

end Regex

end ScriptBalance
