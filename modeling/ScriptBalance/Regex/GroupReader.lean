-- Reading what opens a group, and what stands behind a repeated part: names,
-- flags and counts. They are those of regex, the library of the patterns of
-- env_logger, and only what the log says on standard error depends on them.
import ScriptBalance.Regex.Cursor
import ScriptBalance.Regex.Tree
import ScriptBalance.Text.Letter

namespace ScriptBalance.Regex

open Reader

/-! ## Names -/

/-- The characters that a name can start with. -/
def isNameStart (c : Char) : Bool := c = '_' || isLetter c

/-- The characters that a name can go on with. -/
def isNameChar (c : Char) : Bool :=
  c = '_' || c = '.' || c = '[' || c = ']' || isLetter c || isNumber c

/-- The length of the longest name at the front of a text. -/
def nameLength : List Char → Nat
  | [] => 0
  | c :: rest => if isNameStart c then 1 + (rest.takeWhile isNameChar).length else 0

/-- The name of a group, behind its opening bracket, and its place. `names` are
those of the groups before it. -/
def readName (names : List (String × Span)) : Reader (String × Span) := do
  let start ← here
  let chars := (← get).rest
  let length := nameLength chars
  advance length
  let span ← spanFrom start
  match ← current? with
  | none => failHere .nameUnfinished
  | some '>' =>
    bump
    if length = 0 then fail .nameEmpty span
    let name := String.ofList (chars.take length)
    match names.find? (·.1 = name) with
    | some (_, earlier) => throw { flaw := .nameRepeated, span, earlier }
    | none => return (name, span)
  | some _ => failChar .nameInvalid

/-! ## Flags -/

/-- A sign among the flags of a group: a flag, or the dash that negates those
behind it. -/
structure FlagSign where
  flag : Option Flag
  span : Span
  deriving Repr, DecidableEq

/-- What some signs switch. -/
def FlagSign.switches : Bool → List FlagSign → List Switch
  | _, [] => []
  | on, ⟨some flag, _⟩ :: rest => { flag, on } :: switches on rest
  | _, ⟨none, _⟩ :: rest => switches false rest

/-- The flags of a group up to the colon or the bracket behind them. `signs`
are those already read, the newest first, and `n` bounds their number. -/
def readFlags : Nat → List FlagSign → Reader (List Switch)
  | 0, _ => failHere .flagsUnfinished
  | n + 1, signs => do
    match ← current? with
    | none => failHere .flagsUnfinished
    | some c =>
      if c = ':' || c = ')' then
        match signs with
        | ⟨none, span⟩ :: _ => fail .negationDangling span
        | _ => return FlagSign.switches true signs.reverse
      else
        let span := (← get).charSpan
        let flag ← if c = '-' then pure none else
          match Flag.ofChar? c with
          | some flag => pure (some flag)
          | none => fail .flagUnknown span
        match signs.find? (·.flag = flag) with
        | some sign =>
          throw {
            flaw := if flag.isNone then .negationRepeated else .flagRepeated
            span, earlier := sign.span }
        | none =>
          bump
          readFlags n ({ flag, span } :: signs)

/-! ## Openings -/

/-- What opens a group that looks ahead or behind. -/
def lookAroundSigns : List (List Char) :=
  [['?', '='], ['?', '!'], ['?', '<', '='], ['?', '<', '!']]

/-- What opens a group with a name. -/
def nameSigns : List (List Char) := [['?', 'P', '<'], ['?', '<']]

/-- What an opening parenthesis starts. -/
inductive Opening where
  /-- Flags for what follows, with nothing inside. -/
  | switches (span : Span) (switches : List Switch)
  | group (span : Span) (captures : Bool) (name : Option (String × Span))
    (switches : List Switch)
  deriving Repr

/-- An opening parenthesis and what belongs to it. -/
def readGroupOpening (names : List (String × Span)) : Reader Opening := do
  let span := (← get).charSpan
  step
  let inner ← here
  if ← acceptAny lookAroundSigns then failFrom .lookAround span.start
  if ← acceptAny nameSigns then return .group span true (← readName names) []
  if ← acceptAny [['?']] then
    if (← current?).isNone then fail .groupUnclosed span
    let switches ← readFlags ((← get).rest.length + 1) []
    let closes := (← current?) = some ')'
    bump
    if closes then
      if switches.isEmpty then fail .nothingToRepeat (.point inner)
      return .switches (← spanFrom span.start) switches
    return .group span false none switches
  return .group span true none []

/-! ## Counts -/

/-- The greatest count. -/
def countLimit : Nat := 0xffffffff

/-- A number with blanks around it, or what is wrong with it. -/
def readNumber : Reader (Except Fault Nat) := do
  let _ ← takeWhile isBlank
  let start ← here
  let digits ← takeWhile Char.isDigit
  let span ← spanFrom start
  let _ ← takeWhile isBlank
  let n := digits.foldl (fun n c => 10 * n + (c.toNat - '0'.toNat)) 0
  if digits.isEmpty then return .error { flaw := .countEmpty, span }
  else if n > countLimit then return .error { flaw := .countTooLarge, span }
  else return .ok n

/-- A fault if nothing is left of the count that starts at a place. -/
def needMore (start : Place) : Reader Unit := do
  if (← current?).isNone then failFrom .countUnclosed start

/-- The bounds in braces, and a question mark behind them. -/
def readBounds : Reader (Nat × Option Nat) := do
  let start ← here
  step
  needMore start
  let least ← readNumber
  needMore start
  let bounds ←
    if (← current?) = some ',' then do
      step
      needMore start
      if (← current?) = some '}' then do
        let least ← least
        pure (least, none)
      else do
        let least ← least
        let most ← (← readNumber)
        pure (least, some most)
    else do
      let least ← least
      pure (least, some least)
  if (← current?) ≠ some '}' then failFrom .countUnclosed start
  step
  let _ ← acceptAny [['?']]
  if bounds.2.any (· < bounds.1) then failFrom .countOrder start
  return bounds

/-- The bounds of a repetition, from its sign on. A question mark behind it asks
for the shortest match, which makes no difference to whether there is one. -/
def readRepetition : Reader (Nat × Option Nat) := do
  let sign ← current?
  if sign = some '{' then readBounds
  else
    bump
    let _ ← acceptAny [['?']]
    return match sign with
      | some '?' => (0, some 1)
      | some '+' => (1, none)
      | _ => (0, none)

end ScriptBalance.Regex
