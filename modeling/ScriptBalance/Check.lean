-- The check of a script: the bracket pass over all lines, what is still open at the
-- end, and then the pattern pass over all lines. Each entry goes into a sink the
-- moment it is found, and the check stops at the first entry that the sink refuses.
--
-- A check counts findings and lines by an addition that is a parameter of each of
-- its steps. The check itself has the addition of numbers, which have no bound.
import ScriptBalance.Scan

namespace ScriptBalance

/-! ## Sessions -/

/-- A receiver of entries with a state of type `σ`. It may refuse an entry
with an error of type `ε`, and the state then stays as the refusal left it. -/
abbrev Sink (σ ε : Type) := Entry → EStateM ε σ Unit

/-- What a check has done so far. -/
structure Session (σ : Type) where
  scan : Scan := {}
  /-- The records of the log, oldest first. -/
  log : Array Log.Record := #[]
  /-- The state of the sink. -/
  sink : σ

/-- A step of a check. A step that fails keeps the session that it reached. -/
abbrev CheckM (σ ε : Type) := EStateM ε (Session σ)

/-- An addition. It may fail, or return anything, where the sum does not fit. -/
abbrev Addition (σ ε : Type) := Nat → Nat → EStateM ε σ Nat

variable {σ ε : Type}

/-- The addition of numbers, which have no bound. -/
def unbounded : Addition σ ε := fun a b => pure (a + b)

namespace CheckM

/-- Writes a record to the log. -/
def note (r : Log.Record) : CheckM σ ε Unit :=
  modify fun ⟨scan, log, sink⟩ => ⟨scan, log.push r, sink⟩

/-- Puts a scan in place of the one that the session holds. -/
def setScan (scan : Scan) : CheckM σ ε Unit :=
  modify fun ⟨_, log, sink⟩ => ⟨scan, log, sink⟩

/-- Hands an entry to the sink. -/
def send (sink : Sink σ ε) (e : Entry) : CheckM σ ε Unit := fun ⟨scan, log, state⟩ =>
  match sink e state with
  | .ok _ state => .ok () ⟨scan, log, state⟩
  | .error err state => .error err ⟨scan, log, state⟩

/-- Hands a finding to the sink and counts it. -/
def report (sink : Sink σ ε) (f : Finding) : CheckM σ ε Nat := do
  send sink (.finding f)
  return 1

/-- Takes a step for each element of a list, in order, and adds up what the
steps count. -/
@[specialize]
def totalBy {α : Type} (add : Addition (Session σ) ε) (step : α → CheckM σ ε Nat)
    (list : List α) : CheckM σ ε Nat :=
  list.foldlM (fun n a => do add n (← step a)) 0

@[specialize, inherit_doc totalBy]
def total {α : Type} (step : α → CheckM σ ε Nat) (list : List α) : CheckM σ ε Nat :=
  totalBy unbounded step list

end CheckM

open CheckM

/-! ## Summaries -/

/-- The counts of one check. -/
structure Summary where
  /-- The lines of the script. -/
  lines : Nat
  /-- The findings about brackets. -/
  structural : Nat
  /-- The findings about patterns. -/
  patterns : Nat
  deriving Repr, DecidableEq

/-- All findings, added up by an addition. -/
def Summary.totalBy (add : Addition σ ε) (s : Summary) : EStateM ε σ Nat :=
  add s.structural s.patterns

/-- All findings. -/
def Summary.total (s : Summary) : Nat := s.structural + s.patterns

/-- Nothing was found. -/
def Summary.isClean (s : Summary) : Bool := s.total = 0

/-! ## The passes by any addition -/

section

variable (add : Addition (Session σ) ε) (sink : Sink σ ε)

/-- Reads one cell and counts the findings at it. The scan has read the cell
even if the sink refuses its finding. -/
def scanCellBy (cell : Cell) : CheckM σ ε Nat := do
  let scan := (← get).scan
  setScan (scan.next cell)
  (scan.record? cell).forM note
  totalBy add (report sink) (scan.finding? cell).toList

/-- Reads line number `num` and counts the findings on it. -/
def scanLineBy (num : Nat) (line : String) : CheckM σ ε Nat :=
  totalBy add (scanCellBy add sink) (lineCells num line)

/-- Ends a scan: reports and counts the brackets that are still open. The
session is then ready for a new scan. -/
def finishScanBy : CheckM σ ε Nat := do
  let scan := (← get).scan
  note scan.closingRecord
  setScan {}
  totalBy add (report sink) scan.unclosed

/-- Reads all lines and counts the findings about brackets. The number of a
line is one more than its index. -/
def bracketPassBy (lines : List String) : CheckM σ ε Nat := do
  note .bracketPassStarted
  setScan {}
  let early ← totalBy add (fun (line, idx) => do scanLineBy add sink (← add idx 1) line)
    lines.zipIdx
  let late ← finishScanBy add sink
  add early late

/-- Looks at line number `num` and counts the findings about its patterns. -/
def checkPatternsBy (num : Nat) (line : String) : CheckM σ ε Nat :=
  totalBy add (report sink) (linePatterns num line)

/-- Looks at all lines and counts the findings about patterns. -/
def patternPassBy (lines : List String) : CheckM σ ε Nat := do
  note .patternPassStarted
  totalBy add (fun (line, idx) => do checkPatternsBy add sink (← add idx 1) line) lines.zipIdx

/-- Checks a script and hands every entry of its report to the sink. -/
def checkBy (source : Source) : CheckM σ ε Summary := do
  let structural ← bracketPassBy add sink source.lines
  send sink .patternSection
  let patterns ← patternPassBy add sink source.lines
  return { lines := source.size, structural, patterns }

end

/-! ## The check -/

@[inherit_doc scanCellBy]
def scanCell (sink : Sink σ ε) : Cell → CheckM σ ε Nat := scanCellBy unbounded sink

@[inherit_doc scanLineBy]
def scanLine (sink : Sink σ ε) : Nat → String → CheckM σ ε Nat := scanLineBy unbounded sink

@[inherit_doc finishScanBy]
def finishScan (sink : Sink σ ε) : CheckM σ ε Nat := finishScanBy unbounded sink

@[inherit_doc bracketPassBy]
def bracketPass (sink : Sink σ ε) : List String → CheckM σ ε Nat := bracketPassBy unbounded sink

@[inherit_doc checkPatternsBy]
def checkPatterns (sink : Sink σ ε) : Nat → String → CheckM σ ε Nat :=
  checkPatternsBy unbounded sink

@[inherit_doc patternPassBy]
def patternPass (sink : Sink σ ε) : List String → CheckM σ ε Nat := patternPassBy unbounded sink

@[inherit_doc checkBy]
def check (sink : Sink σ ε) : Source → CheckM σ ε Summary := checkBy unbounded sink

/-! ## The laws -/

namespace CheckM

variable {α : Type}

/-- A count that starts at `n` is `n` more than one that starts at 0. -/
theorem foldlM_count (step : α → CheckM σ ε Nat) (list : List α) (n : Nat) :
    list.foldlM (fun n a => do unbounded n (← step a)) n
      = (do return n + (← total step list)) := by
  induction list generalizing n with
  | nil => rfl
  | cons a rest ih =>
    simp only [total, totalBy, unbounded, List.foldlM_cons, bind_assoc, pure_bind,
      Nat.zero_add] at ih ⊢
    refine bind_congr fun k => ?_
    rw [ih (n + k), ih k]
    simp only [bind_assoc, pure_bind, Nat.add_assoc]

@[simp]
theorem total_nil (step : α → CheckM σ ε Nat) : total step [] = pure 0 := rfl

/-- Two lists in a row: the second one is counted only if no step of the first
one fails. -/
theorem total_append (step : α → CheckM σ ε Nat) (l₁ l₂ : List α) :
    total step (l₁ ++ l₂) = (do return (← total step l₁) + (← total step l₂)) := by
  rw [total, totalBy, List.foldlM_append]
  exact bind_congr fun n => foldlM_count step l₂ n

theorem total_cons (step : α → CheckM σ ε Nat) (a : α) (rest : List α) :
    total step (a :: rest) = (do return (← step a) + (← total step rest)) := by
  rw [← List.singleton_append, total_append]
  simp [total, totalBy, unbounded]

end CheckM

end ScriptBalance
