-- Reading character classes in brackets. A class holds characters, ranges,
-- classes with a name and other classes in brackets, and operators on sets may
-- stand between them. The classes are those of regex, the library of the patterns
-- of env_logger, and only what the log says on standard error depends on them.
import ScriptBalance.Regex.Escape

namespace ScriptBalance.Regex

open Reader

/-! ## Open classes -/

/-- A class whose closing bracket is not yet read. -/
structure OpenClass where
  /-- The opening bracket and what belongs to it. -/
  span : Span
  negated : Bool
  /-- An operator whose right side is being read, and its left side. -/
  pending : Option (SetOperator × ClassTree) := none
  /-- The place of the items behind that operator. -/
  place : Place
  /-- The items behind that operator, the newest first. -/
  items : List ClassTree := []
  deriving Repr

namespace OpenClass

def push (c : OpenClass) (item : ClassTree) : OpenClass := { c with items := item :: c.items }

/-- The items behind the last operator as one class. -/
def side (c : OpenClass) : ClassTree :=
  match c.items.reverse with
  | [] => .nothing (.point c.place)
  | [item] => item
  | first :: rest =>
    .union ⟨first.span.start, (c.items.headD first).span.stop⟩ (first :: rest)

/-- All that is read of a class. Operators bind from left to right. -/
def body (c : OpenClass) : ClassTree :=
  match c.pending with
  | none => c.side
  | some (operator, left) =>
    .operation ⟨left.span.start, c.side.span.stop⟩ operator left c.side

/-- A class with an operator behind all that is read of it. -/
def operate (c : OpenClass) (operator : SetOperator) (place : Place) : OpenClass :=
  { c with pending := some (operator, c.body), place, items := [] }

/-- A class whose closing bracket ends at a place. -/
def close (c : OpenClass) (stop : Place) : ClassTree :=
  .brackets ⟨c.span.start, stop⟩ c.negated c.body

end OpenClass

/-! ## Items -/

/-- A class with a name at the front of a text, whether it is negated, and its
length. -/
def namedClass? (chars : List Char) : Option (NamedClass × Bool × Nat) := do
  let ('[' :: ':' :: rest) := chars | none
  let negated := rest.head? = some '^'
  let name := (if negated then rest.drop 1 else rest).takeWhile (· ≠ ':')
  let length := (if negated then 3 else 2) + name.length
  let (':' :: ']' :: _) := chars.drop length | none
  return (← NamedClass.ofName? (String.ofList name), negated, length + 2)

/-- The operator at the front of a text. -/
def setOperator? : List Char → Option SetOperator
  | '&' :: '&' :: _ => some .inter
  | '-' :: '-' :: _ => some .diff
  | '~' :: '~' :: _ => some .symmDiff
  | _ => none

/-- A character or an escape. -/
def readItem : Reader Tree := do
  match ← current? with
  | some '\\' => readEscape
  | some c =>
    let span := (← get).charSpan
    bump
    return .literal { span, char := c }
  | none => failHere .classUnclosed

/-- An expression as an item of a class. -/
def Tree.item : Tree → Reader ClassTree
  | .literal l => return .literal l
  | .oneOf body => return body
  | other => fail .classEscape other.span

/-- An expression as a bound of a range. -/
def Tree.bound : Tree → Reader Literal
  | .literal l => return l
  | other => fail .rangeBound other.span

/-- An item or a range of a class. A dash that is the last of a class, or the
first sign of an operator, makes no range. -/
def readRange (c : OpenClass) : Reader ClassTree := do
  let first ← readItem
  skip
  let cursor ← get
  match cursor.rest with
  | [] => fail .classUnclosed c.span
  | '-' :: _ =>
    if cursor.behind? = some ']' || cursor.behind? = some '-' then first.item
    else
      step
      if (← current?).isNone then fail .classUnclosed c.span
      let last ← readItem
      let span : Span := ⟨first.span.start, last.span.stop⟩
      let low ← first.bound
      let high ← last.bound
      if high.char < low.char then fail .rangeOrder span
      return .range span low high
  | _ => first.item

/-! ## Classes -/

/-- The dashes at the start of a class, which are characters, put into it. -/
def readDashes : Nat → OpenClass → Reader OpenClass
  | 0, c => return c
  | n + 1, c => do
    if (← current?) = some '-' then
      let span := (← get).charSpan
      step
      if (← current?).isNone then fail .classUnclosed (.point c.span.start)
      readDashes n (c.push (.literal { span, char := '-' }))
    else return c

/-- The start of a class: its bracket, its negation, and the dashes or the
closing bracket that are characters because they come first. -/
def readOpening : Reader OpenClass := do
  let start ← here
  step
  if (← current?).isNone then failFrom .classUnclosed start
  let negated := (← current?) = some '^'
  if negated then
    step
    if (← current?).isNone then failFrom .classUnclosed start
  let c : OpenClass := { span := .point start, negated, place := ← here }
  let c ← readDashes (← get).rest.length c
  if c.items.isEmpty && (← current?) = some ']' then
    let span := (← get).charSpan
    step
    if (← current?).isNone then failFrom .classUnclosed start
    return { c.push (.literal { span, char := ']' }) with span := ← spanFrom start }
  else return { c with span := ← spanFrom start }

/-- The rest of a class. `outer` are the classes that it stands in, the nearest
first, and `n` bounds the number of items. -/
def readItems : Nat → OpenClass → List OpenClass → Reader ClassTree
  | 0, c, _ => fail .classUnclosed c.span
  | n + 1, c, outer => do
    skip
    let rest := (← get).rest
    match rest, namedClass? rest, setOperator? rest with
    | [], _, _ => fail .classUnclosed c.span
    | _, some (name, negated, length), _ =>
      let start ← here
      advance length
      readItems n (c.push (.named (← spanFrom start) negated name)) outer
    | _, _, some operator =>
      advance 2
      readItems n (c.operate operator (← here)) outer
    | '[' :: _, _, _ =>
      let inner ← readOpening
      readItems n inner (c :: outer)
    | ']' :: _, _, _ =>
      bump
      let closed := c.close (← here)
      match outer with
      | [] => return closed
      | around :: outer => readItems n (around.push closed) outer
    | _, _, _ =>
      let item ← readRange c
      readItems n (c.push item) outer

/-- A class, from its opening bracket on. -/
def readClass : Reader ClassTree := do
  let c ← readOpening
  readItems ((← get).rest.length + 1) c []

end ScriptBalance.Regex
