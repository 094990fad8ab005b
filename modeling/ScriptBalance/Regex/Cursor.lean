-- Reading the text of a regular expression from its start to its end. In a
-- verbose expression blanks and comments between its parts are passed over. This
-- is how regex reads, the library of the patterns of env_logger, and only what the
-- log says on standard error depends on it.
import ScriptBalance.Regex.Fault
import ScriptBalance.Text

namespace ScriptBalance.Regex

/-- How far a text is read. -/
structure Cursor where
  /-- The characters that are left. -/
  rest : List Char
  place : Place := {}
  verbose : Bool := false
  deriving Repr, DecidableEq

namespace Cursor

/-- Past one character. -/
def bump (c : Cursor) : Cursor :=
  match c.rest with
  | [] => c
  | x :: rest => { c with rest, place := c.place.after x }

/-- Past some characters. -/
def advance : Nat → Cursor → Cursor
  | 0, c => c
  | n + 1, c => advance n c.bump

/-- Past the blanks and comments at the front of some characters. A comment
goes from a number sign to the end of the line. -/
def skipFrom (inComment : Bool) (place : Place) : List Char → List Char × Place
  | [] => ([], place)
  | x :: rest =>
    if inComment then skipFrom (x != '\n') (place.after x) rest
    else if isBlank x then skipFrom false (place.after x) rest
    else if x = '#' then skipFrom true (place.after x) rest
    else (x :: rest, place)

/-- Past the blanks and comments of a verbose expression. -/
def skip (c : Cursor) : Cursor :=
  if c.verbose then
    let (rest, place) := skipFrom false c.place c.rest
    { c with rest, place }
  else c

/-- Past one character and the blanks and comments behind it. -/
def step (c : Cursor) : Cursor := c.bump.skip

/-- The part of the text that is the current character. -/
def charSpan (c : Cursor) : Span := ⟨c.place, c.bump.place⟩

/-- The first character that is no blank, and no number sign unless that is
the second one. -/
def solid? (inComment : Bool) : List Char → Option Char
  | [] => none
  | x :: rest =>
    if isBlank x then solid? inComment rest
    else if x = '#' && !inComment then solid? true rest
    else some x

/-- The character behind the current one. A verbose expression is searched for
one that is no blank, if there is such a one. -/
def behind? (c : Cursor) : Option Char :=
  let rest := c.rest.drop 1
  if c.verbose then (solid? false rest).or rest.head? else rest.head?

/-- At most `n` characters of a kind from the front, with a step past each. -/
def takeFrom (kind : Char → Bool) : Nat → Cursor → List Char × Cursor
  | 0, c => ([], c)
  | n + 1, c =>
    match c.rest with
    | [] => ([], c)
    | x :: _ =>
      if kind x then
        let (taken, after) := takeFrom kind n c.step
        (x :: taken, after)
      else ([], c)

/-- The characters of a kind at the front, with a step past each. -/
def takeWhile (kind : Char → Bool) (c : Cursor) : List Char × Cursor :=
  takeFrom kind c.rest.length c

end Cursor

/-! ## Readers -/

/-- What is read from a text, unless there is a fault. -/
abbrev Reader := StateT Cursor (Except Fault)

namespace Reader

def here : Reader Place := return (← get).place

/-- The current character. There is none at the end. -/
def current? : Reader (Option Char) := return (← get).rest.head?

def bump : Reader Unit := modify Cursor.bump

def advance (n : Nat) : Reader Unit := modify (Cursor.advance n)

def skip : Reader Unit := modify Cursor.skip

def step : Reader Unit := modify Cursor.step

def takeWhile (kind : Char → Bool) : Reader (List Char) := modifyGet (Cursor.takeWhile kind)

/-- Past the first of some texts that is at the front, if there is one. -/
def acceptAny (texts : List (List Char)) : Reader Bool := do
  let rest := (← get).rest
  match texts.find? (·.isPrefixOf rest) with
  | some text =>
    advance text.length
    return true
  | none => return false

def spanFrom (start : Place) : Reader Span := return ⟨start, ← here⟩

def fail {α : Type} (flaw : Flaw) (span : Span) : Reader α := throw { flaw, span }

/-- A fault of what is read from a place on. -/
def failFrom {α : Type} (flaw : Flaw) (start : Place) : Reader α := do
  fail flaw (← spanFrom start)

/-- A fault between two characters. -/
def failHere {α : Type} (flaw : Flaw) : Reader α := do fail flaw (.point (← here))

/-- A fault of the current character. -/
def failChar {α : Type} (flaw : Flaw) : Reader α := do fail flaw (← get).charSpan

end Reader

end ScriptBalance.Regex
