-- The characters of a script. Each of them stands in a place, as a cell. Some are
-- quotes, which open and close strings, and some are brackets of one of two
-- families. What is open of a family is kept as a stack of places.

namespace ScriptBalance

/-! ## Cells -/

/-- A place in a script: lines count from 1 and columns from 0. A column
counts characters, not bytes. -/
structure Position where
  line : Nat
  column : Nat
  deriving Repr, DecidableEq

/-- One character of a script in its place. -/
structure Cell where
  pos : Position
  /-- The character before it on the same line. -/
  prev : Option Char
  char : Char
  /-- The line that it stands on. -/
  line : String
  deriving Repr, DecidableEq

/-- The cells of the rest of a line, from column `column` on. -/
def cellsFrom (num : Nat) (line : String) (prev : Option Char) (column : Nat) :
    List Char → List Cell
  | [] => []
  | c :: rest => ⟨⟨num, column⟩, prev, c, line⟩ :: cellsFrom num line (some c) (column + 1) rest

/-- The cells of line number `num`. -/
def lineCells (num : Nat) (line : String) : List Cell :=
  cellsFrom num line none 0 line.toList

/-- All cells of a script, line after line. -/
def cells (lines : List String) : List Cell :=
  (lines.zipIdx 1).flatMap fun (line, num) => lineCells num line

theorem map_char_cellsFrom (num : Nat) (line : String) (prev : Option Char) (column : Nat)
    (chars : List Char) : (cellsFrom num line prev column chars).map Cell.char = chars := by
  induction chars generalizing prev column with
  | nil => rfl
  | cons c rest ih => simp [cellsFrom, ih]

/-- The characters of the cells of a line are the characters of the line. -/
@[simp]
theorem map_char_lineCells (num : Nat) (line : String) :
    (lineCells num line).map Cell.char = line.toList :=
  map_char_cellsFrom num line none 0 line.toList

/-! ## Quotes -/

/-- The two sorts of quotes. -/
inductive Quote where
  | single
  | double
  deriving Repr, DecidableEq

/-- The backtick. A quote right after it does not count. -/
def escapeChar : Char := '\x60'

namespace Quote

/-- The character of a quote. -/
def char : Quote → Char
  | .single => '\''
  | .double => '"'

/-- The quote that a character is, if it is one. -/
def ofChar? : Char → Option Quote
  | '\'' => some .single
  | '"' => some .double
  | _ => none

/-- The quote that counts at a character, given the character before it on
its line. The first character of a line has no character before it. Only one
character is looked at, so a quote after two backticks does not count. -/
def effective? (prev : Option Char) (c : Char) : Option Quote :=
  if prev = some escapeChar then none else ofChar? c

/-- What a quote that counts does to the string that is open: it opens a
string, closes one of its own sort, and is plain text in one of the other. -/
def toggle : Option Quote → Quote → Option Quote
  | none, q => some q
  | some a, q => if a = q then none else some a

/-- The quote of the open string after a character. -/
def after (active : Option Quote) (prev : Option Char) (c : Char) : Option Quote :=
  match effective? prev c with
  | none => active
  | some q => toggle active q

theorem ofChar?_char (q : Quote) : ofChar? q.char = some q := by
  cases q <;> rfl

end Quote

/-! ## Brackets -/

/-- The two families of brackets. They never match each other. -/
inductive Family where
  | brace
  | parenthesis
  deriving Repr, DecidableEq

namespace Family

/-- Both families, in the order in which a report takes them. -/
def all : List Family := [.brace, .parenthesis]

/-- The word for a family in a report. -/
def name : Family → String
  | .brace => "brace"
  | .parenthesis => "parenthesis"

/-- The character that opens a family. -/
def opener : Family → Char
  | .brace => '{'
  | .parenthesis => '('

/-- The character that closes a family. -/
def closer : Family → Char
  | .brace => '}'
  | .parenthesis => ')'

end Family

/-- A bracket opens or closes its family. -/
inductive Bracket where
  | opener (family : Family)
  | closer (family : Family)
  deriving Repr, DecidableEq

namespace Bracket

def family : Bracket → Family
  | .opener f => f
  | .closer f => f

/-- The character of a bracket. -/
def char : Bracket → Char
  | .opener f => f.opener
  | .closer f => f.closer

/-- The bracket that a character is, if it is one. -/
def ofChar? : Char → Option Bracket
  | '{' => some (.opener .brace)
  | '}' => some (.closer .brace)
  | '(' => some (.opener .parenthesis)
  | ')' => some (.closer .parenthesis)
  | _ => none

theorem ofChar?_char (b : Bracket) : ofChar? b.char = some b := by
  rcases b with f | f <;> cases f <;> rfl

theorem char_injective {a b : Bracket} (h : a.char = b.char) : a = b := by
  have hsome := ofChar?_char a
  rw [h, ofChar?_char] at hsome
  exact (Option.some.inj hsome).symm

end Bracket

/-! ## Open brackets -/

/-- The positions of the brackets that are still open, the innermost first. -/
structure OpenStack where
  innermostFirst : List Position := []
  deriving Repr, DecidableEq

namespace OpenStack

def push (s : OpenStack) (p : Position) : OpenStack := ⟨p :: s.innermostFirst⟩

/-- The position of the innermost open bracket, if there is one. -/
def top? (s : OpenStack) : Option Position := s.innermostFirst.head?

/-- The stack without the innermost open bracket. An empty stack stays empty. -/
def pop (s : OpenStack) : OpenStack := ⟨s.innermostFirst.tail⟩

def size (s : OpenStack) : Nat := s.innermostFirst.length

def isEmpty (s : OpenStack) : Bool := s.innermostFirst.isEmpty

/-- The open positions in the order in which they were pushed. -/
def toList (s : OpenStack) : List Position := s.innermostFirst.reverse

@[simp]
theorem toList_empty : ({} : OpenStack).toList = [] := rfl

@[simp]
theorem toList_push (s : OpenStack) (p : Position) : (s.push p).toList = s.toList ++ [p] := by
  simp [push, toList]

@[simp]
theorem toList_pop (s : OpenStack) : s.pop.toList = s.toList.dropLast := by
  simp [pop, toList, List.dropLast_reverse]

@[simp]
theorem top?_push (s : OpenStack) (p : Position) : (s.push p).top? = some p := rfl

@[simp]
theorem pop_push (s : OpenStack) (p : Position) : (s.push p).pop = s := rfl

@[simp]
theorem length_toList (s : OpenStack) : s.toList.length = s.size := by
  simp [toList, size]

end OpenStack

end ScriptBalance
