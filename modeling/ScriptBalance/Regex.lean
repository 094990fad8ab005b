-- What a regular expression means, from its text. A text is refused if a part of
-- it is faulty or stands too deep, and if its meaning is too large. Flags hold from
-- where they are switched to the end of their group. Without Unicode a class holds
-- ASCII characters only, as what it is outside of could be half of a character;
-- with Unicode there is no table of cases, so a change of case is refused.
--
-- These are the documented rules of regex, the library of the patterns of
-- env_logger, which is built with no tables there. Only what the log says on
-- standard error depends on them.
import ScriptBalance.Regex.Basic
import ScriptBalance.Regex.TreeReader

namespace ScriptBalance.Regex

/-- What is switched on in a part of an expression. -/
structure Flags where
  caseless : Bool := false
  eachLine : Bool := false
  dotAll : Bool := false
  unicode : Bool := true
  returns : Bool := false
  deriving Repr, DecidableEq

/-- The flags behind a switch. -/
def Flags.switch (flags : Flags) (s : Switch) : Flags :=
  match s.flag with
  | .caseless => { flags with caseless := s.on }
  | .eachLine => { flags with eachLine := s.on }
  | .dotAll => { flags with dotAll := s.on }
  | .unicode => { flags with unicode := s.on }
  | .returns => { flags with returns := s.on }
  | .swapGreed | .verbose => flags

def fault {α : Type} (flaw : Flaw) (span : Span) : Except Fault α := .error { flaw, span }

/-! ## Characters -/

/-- The character that a literal stands for. A byte that is no character by
itself stands for none. -/
def Literal.meaning (flags : Flags) (l : Literal) : Except Fault Char :=
  if !flags.unicode && l.isByte && l.char.toNat ≥ 0x80 then fault .invalidEncoding l.span
  else .ok l.char

/-- The character that a literal of a class stands for. -/
def Literal.member (flags : Flags) (l : Literal) : Except Fault Char := do
  let char ← l.meaning flags
  if !flags.unicode && char.toNat ≥ 0x80 then fault .unicodeNotAllowed l.span else .ok char

/-- The characters that a literal matches. -/
def Literal.chars (flags : Flags) (l : Literal) : Except Fault CharSet := do
  let char ← l.meaning flags
  if !flags.caseless then .ok (.single char)
  else if flags.unicode then fault .caseUnavailable l.span
  else if char.isAlpha then .ok (.caseless (.single char))
  else .ok (.single char)

/-! ## Classes -/

/-- A set with the other cases of its members, if the flags ask for them. -/
def foldCase (flags : Flags) (span : Span) (set : CharSet) : Except Fault CharSet :=
  if !flags.caseless then .ok set
  else if !flags.unicode then .ok (.caseless set)
  else if set.isEmpty then .ok set
  else fault .caseUnavailable span

/-- What is outside a set, if it is negated. -/
def negate (flags : Flags) (span : Span) (negated : Bool) (set : CharSet) :
    Except Fault CharSet :=
  if !negated then .ok set
  else if flags.unicode then .ok (.outside set)
  else fault .invalidEncoding span

/-- The name of a property as it is looked up: without the blanks, dashes and
underscores in it, and without the word "is" at its start. -/
def Property.lookupName (name : String) : String :=
  let chars := name.toList
  let chars := if (chars.take 2).map Char.toLower = ['i', 's'] then chars.drop 2 else chars
  String.ofList ((chars.filter fun c =>
    c ≠ ' ' && c ≠ '_' && c ≠ '-' && c.toNat < 0x80).map Char.toLower)

/-- Why a property is refused: there are no tables of properties. The names of
three general categories are not taken for names of properties. -/
def Property.flaw : Property → Flaw
  | .named name =>
    if ["cf", "sc", "lc"].contains (lookupName name) then .propertyValueUnknown
    else .propertyUnknown
  | .valued _ _ => .propertyUnknown

mutual

/-- The characters of a class. -/
def ClassTree.chars (flags : Flags) : ClassTree → Except Fault CharSet
  | .nothing _ => .ok .none
  | .literal l => return .single (← l.member flags)
  | .range _ first last => return .range (← first.member flags) (← last.member flags)
  | .named span negated name => do negate flags span negated (← foldCase flags span name.chars)
  | .shorthand span negated kind =>
    if flags.unicode then fault .shorthandUnavailable span
    else negate flags span negated kind.chars
  | .property span _ asked =>
    fault (if flags.unicode then asked.flaw else .unicodeNotAllowed) span
  | .brackets span negated body => do
    negate flags span negated (← foldCase flags span (← body.chars flags))
  | .union _ items => return .all (← charsOfAll flags items)
  | .operation _ op left right => do
    let a ← left.chars flags
    let b ← right.chars flags
    let b ← foldCase flags right.span b
    let a ← foldCase flags left.span a
    return op.apply a b

def ClassTree.charsOfAll (flags : Flags) : List ClassTree → Except Fault (List CharSet)
  | [] => .ok []
  | item :: rest => return (← item.chars flags) :: (← charsOfAll flags rest)

end

/-- The characters that a dot matches. -/
def dotChars (flags : Flags) (span : Span) : Except Fault CharSet :=
  if !flags.unicode then fault .invalidEncoding span
  else if flags.dotAll then .ok (.outside .none)
  else if flags.returns then .ok (.outside (.union (.single '\n') (.single '\r')))
  else .ok (.outside (.single '\n'))

/-! ## Expressions -/

/-- What an assertion asks of a place. -/
def Assertion.look (flags : Flags) : Assertion → Look
  | .lineStart => if flags.eachLine then .lineStart flags.returns else .textStart
  | .lineStop => if flags.eachLine then .lineStop flags.returns else .textStop
  | .textStart => .textStart
  | .textStop => .textStop
  | .word edge => .word edge flags.unicode

mutual

/-- What an expression means, and the flags behind it. -/
def Tree.meaning : Tree → StateT Flags (Except Fault) Regex
  | .switches _ signs => do
    modify fun flags => signs.foldl Flags.switch flags
    return .empty
  | .literal l => do return .oneOf (← l.chars (← get))
  | .dot span => do return .oneOf (← dotChars (← get) span)
  | .assertion _ asked => return .look (asked.look (← get))
  | .oneOf body => do return .oneOf (← body.chars (← get))
  | .counted _ least most body => return .repeated (← body.meaning) least most
  | .group _ captures signs body => do
    let before ← get
    set (signs.foldl Flags.switch before)
    let r ← body.meaning
    set before
    return if captures then .group r else r
  | .either _ branches => return .anyOf (← meaningOfAll branches)
  | .row _ parts => return .row (← meaningOfAll parts)

def Tree.meaningOfAll : List Tree → StateT Flags (Except Fault) (List Regex)
  | [] => return []
  | part :: rest => return (← part.meaning) :: (← meaningOfAll rest)

end

/-! ## From text to meaning -/

/-- Why a text is not taken as an expression. -/
inductive Refusal where
  | fault (fault : Fault)
  /-- The edges of words of Unicode, of which there is no table. -/
  | unicodeWord
  | tooLarge
  deriving Repr, DecidableEq

/-- What is said of a text that is refused. -/
def Refusal.text (pattern : String) : Refusal → String
  | .fault f => f.text pattern
  | .unicodeWord => "error building NFA"
  | .tooLarge => "Compiled regex exceeds size limit of " ++ toString sizeLimit ++ " bytes."

/-- What the parts of a text mean, if none of them is faulty and none too deep. -/
def meaning (pattern : String) : Except Fault Regex := do
  let tree ← Tree.ofString pattern
  tree.checkDepth 0
  tree.meaning.run' {}

/-- An expression that can be built. -/
def build (r : Regex) : Except Refusal Regex :=
  if sizeLimit < r.machineSize false then .error .tooLarge
  else if r.asksUnicodeWord then .error .unicodeWord
  else if sizeLimit < r.machineSize true then .error .tooLarge
  else .ok r

/-- The expression that a text writes, or why it writes none. -/
def ofString (pattern : String) : Except Refusal Regex :=
  match meaning pattern with
  | .ok r => r.build
  | .error f => .error (.fault f)

end ScriptBalance.Regex
