-- Sets of characters. A set is made of ranges by the operations on sets, and
-- it has the same members all along between two of its edges. The named sets are
-- those of regex, the library of the patterns of env_logger, and only what the log
-- says on standard error depends on them.

namespace ScriptBalance

/-- A set of characters. -/
inductive CharSet where
  | none
  | range (first last : Char)
  | union (a b : CharSet)
  | inter (a b : CharSet)
  | outside (set : CharSet)
  /-- The members of a set and the ASCII letters that differ from one of them
  in case only. -/
  | caseless (set : CharSet)
  deriving Repr, DecidableEq

/-- An ASCII letter in its other case, and any other character as it is. -/
def otherCase (c : Char) : Char := if c.isUpper then c.toLower else c.toUpper

namespace CharSet

def contains : CharSet → Char → Bool
  | .none, _ => false
  | .range first last, c => first ≤ c && c ≤ last
  | .union a b, c => a.contains c || b.contains c
  | .inter a b, c => a.contains c && b.contains c
  | .outside set, c => !set.contains c
  | .caseless set, c => set.contains c || set.contains (otherCase c)

def single (c : Char) : CharSet := .range c c

/-- The members of `a` that are not in `b`. -/
def diff (a b : CharSet) : CharSet := .inter a (.outside b)

/-- The characters that are in one of two sets only. -/
def symmDiff (a b : CharSet) : CharSet := .union (a.diff b) (b.diff a)

/-- All members of some sets. -/
def all (sets : List CharSet) : CharSet := sets.foldr .union .none

/-! ## Named sets -/

def digit : CharSet := .range '0' '9'

def lower : CharSet := .range 'a' 'z'

def upper : CharSet := .range 'A' 'Z'

def letter : CharSet := .union upper lower

/-- ASCII letters, digits and the underscore. -/
def word : CharSet := all [digit, letter, single '_']

/-- Tab, line feed, vertical tab, form feed, carriage return and space. -/
def space : CharSet := .union (.range '\t' '\r') (single ' ')

/-! ## Runs -/

/-- The code points at which members and other characters may change over. -/
def edges : CharSet → List Nat
  | .none => []
  | .range first last => [first.toNat, last.toNat + 1]
  | .union a b | .inter a b => a.edges ++ b.edges
  | .outside set => set.edges
  | .caseless set =>
    -- An edge may move with the letters behind it by 32, and stops at their ends.
    ['A', '[', 'a', '{'].map Char.toNat
      ++ set.edges ++ set.edges.map (· + 32) ++ set.edges.map (· - 32)

/-- The first character from a code point on. There is none among the
surrogates. -/
def charFrom? (n : Nat) : Option Char :=
  let n := if 0xd800 ≤ n && n < 0xe000 then 0xe000 else n
  if n.isValidChar then some (Char.ofNat n) else Option.none

/-- Runs of code points in order, with those joined that touch. A run goes up
to, and does not hold, its second code point. -/
def joinRuns (runs : List (Nat × Nat)) : List (Nat × Nat) :=
  runs.foldr
    (fun run joined =>
      match joined with
      | next :: rest => if run.2 = next.1 then (run.1, next.2) :: rest else run :: next :: rest
      | [] => [run])
    []

/-- The longest runs of members of a set, in order. -/
def runs (set : CharSet) : List (Nat × Nat) :=
  let starts := ((0 :: set.edges).mergeSort (· ≤ ·)).eraseDups
  joinRuns ((starts.zip (starts.drop 1 ++ [0x110000])).filter fun (first, stop) =>
    (charFrom? first).any fun c => c.toNat < stop && set.contains c)

/-- Whether a set has no members. -/
def isEmpty (set : CharSet) : Bool := set.runs.isEmpty

end CharSet

end ScriptBalance
