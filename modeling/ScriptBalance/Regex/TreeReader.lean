-- Reading a whole expression. Its text is read from its start to its end once, and
-- the groups that are open are kept in a list, the innermost first. The grammar is
-- that of regex, the library of the patterns of env_logger, and only what the log
-- says on standard error depends on it.
import ScriptBalance.Regex.ClassReader
import ScriptBalance.Regex.GroupReader

namespace ScriptBalance.Regex

open Reader

/-- The branches of a group, or of the whole expression, as far as they are
read. -/
structure Branches where
  /-- Where the first branch starts. -/
  start : Place
  /-- The branches that are read to their end, the newest first. -/
  done : List Tree := []
  /-- Where the current branch starts. -/
  place : Place
  /-- The parts of the current branch, the newest first. -/
  parts : List Tree := []
  deriving Repr

namespace Branches

/-- The branches that start at a place, with nothing read of them. -/
def startingAt (place : Place) : Branches := { start := place, place }

def push (b : Branches) (part : Tree) : Branches := { b with parts := part :: b.parts }

/-- The current branch, if it ends at a place. -/
def branch (b : Branches) (stop : Place) : Tree :=
  match b.parts with
  | [part] => part
  | parts => .row ⟨b.place, stop⟩ parts.reverse

/-- All branches, if the last one ends at a place. -/
def tree (b : Branches) (stop : Place) : Tree :=
  match b.done with
  | [] => b.branch stop
  | done => .either ⟨b.start, stop⟩ (b.branch stop :: done).reverse

end Branches

/-- A group whose closing parenthesis is not yet read. -/
structure OpenGroup where
  /-- The opening parenthesis. -/
  span : Span
  captures : Bool
  switches : List Switch
  /-- Whether the expression around the group is verbose. -/
  verbose : Bool
  /-- What is read of the expression around the group. -/
  outer : Branches
  deriving Repr

/-- How much of an expression is read. -/
structure Progress where
  branches : Branches
  /-- The open groups, the innermost first. -/
  groups : List OpenGroup := []
  /-- The names of groups, and where they are. -/
  names : List (String × Span) := []
  deriving Repr

namespace Progress

def push (p : Progress) (part : Tree) : Progress := { p with branches := p.branches.push part }

/-- Past an opening parenthesis and what belongs to it. -/
def openGroup (p : Progress) : Reader Progress := do
  match ← readGroupOpening p.names with
  | .switches span switches =>
    modify fun c => { c with verbose := (Switch.find? switches .verbose).getD c.verbose }
    return p.push (.switches span switches)
  | .group span captures name switches =>
    let verbose := (← get).verbose
    modify fun c => { c with verbose := (Switch.find? switches .verbose).getD verbose }
    return {
      branches := .startingAt (← here)
      groups := { span, captures, switches, verbose, outer := p.branches } :: p.groups
      names := p.names ++ name.toList }

/-- Past a closing parenthesis. -/
def closeGroup (p : Progress) : Reader Progress := do
  match p.groups with
  | [] => failChar .groupUnopened
  | g :: groups =>
    let body := p.branches.tree (← here)
    modify fun c => { c with verbose := g.verbose }
    bump
    let group := Tree.group ⟨g.span.start, ← here⟩ g.captures g.switches body
    return { p with branches := g.outer.push group, groups }

/-- Past a bar. -/
def nextBranch (p : Progress) : Reader Progress := do
  let branch := p.branches.branch (← here)
  bump
  return { p with branches :=
    { p.branches with done := branch :: p.branches.done, place := ← here, parts := [] } }

/-- Past a repetition of the last part. -/
def repeatLast (p : Progress) : Reader Progress := do
  match p.branches.parts with
  | [] | .switches _ _ :: _ => failHere .nothingToRepeat
  | part :: parts =>
    let (least, most) ← readRepetition
    let span : Span := ⟨part.span.start, ← here⟩
    return { p with branches :=
      { p.branches with parts := .counted span least most part :: parts } }

/-- Past one part that starts with a character. -/
def next (p : Progress) (c : Char) : Reader Progress := do
  let span := (← get).charSpan
  match c with
  | '(' => p.openGroup
  | ')' => p.closeGroup
  | '|' => p.nextBranch
  | '?' | '*' | '+' | '{' => p.repeatLast
  | '[' => return p.push (.oneOf (← readClass))
  | '\\' => return p.push (← readEscape)
  | _ =>
    bump
    return p.push <|
      match c with
      | '.' => .dot span
      | '^' => .assertion span .lineStart
      | '$' => .assertion span .lineStop
      | char => .literal { span, char }

/-- All that is read at the end of a text. -/
def finish (p : Progress) : Reader Tree := do
  match p.groups with
  | [] => return p.branches.tree (← here)
  | g :: _ => fail .groupUnclosed g.span

end Progress

/-- The rest of an expression. `n` bounds the number of its parts. -/
def readTree : Nat → Progress → Reader Tree
  | 0, p => p.finish
  | n + 1, p => do
    skip
    match ← current? with
    | none => p.finish
    | some c => readTree n (← p.next c)

/-- The expression that a text writes. Each part takes a character at least. -/
def Tree.ofString (text : String) : Except Fault Tree :=
  let chars := text.toList
  (readTree (chars.length + 1) { branches := .startingAt {} }).run' { rest := chars }

end ScriptBalance.Regex
