-- A script with blanks in place of some of its brackets. Such blanks change no
-- string, no other bracket and no pattern: each word of brackets loses the
-- brackets that are erased, and nothing else happens to it.
import Mathlib.Data.Finset.Basic
import Mathlib.Data.List.Forall2
import ScriptBalance.Scan
import ScriptBalance.Proofs.Outside

namespace ScriptBalance

/-! ## A script with blanks -/

variable (erased : Finset Position)

/-- A character, or a blank if its position is erased. -/
def blankChar (p : Position) (c : Char) : Char := if p ∈ erased then ' ' else c

/-- The rest of a line, from column `column` on, with its blanks. -/
def blankFrom (num column : Nat) : List Char → List Char
  | [] => []
  | c :: rest => blankChar erased ⟨num, column⟩ c :: blankFrom num (column + 1) rest

/-- Line number `num` with its blanks. -/
def blankLine (num : Nat) (line : String) : String :=
  String.ofList (blankFrom erased num 0 line.toList)

/-- The rest of a script, from line number `num` on, with its blanks. -/
def blankLines (num : Nat) : List String → List String
  | [] => []
  | line :: rest => blankLine erased num line :: blankLines (num + 1) rest

/-- A script with a blank at each erased position. -/
def blank (lines : List String) : List String := blankLines erased 1 lines

/-- A cell of a script as it stands in the script with blanks. -/
def Cell.blank (cell : Cell) : Cell where
  pos := cell.pos
  prev := cell.prev.map (blankChar erased ⟨cell.pos.line, cell.pos.column - 1⟩)
  char := blankChar erased cell.pos cell.char
  line := blankLine erased cell.pos.line cell.line

theorem cellsFrom_blank (num : Nat) (line : String) (prev : Option Char) (column : Nat)
    (chars : List Char) :
    cellsFrom num (blankLine erased num line) (prev.map (blankChar erased ⟨num, column - 1⟩))
        column (blankFrom erased num column chars)
      = (cellsFrom num line prev column chars).map (Cell.blank erased) := by
  induction chars generalizing prev column with
  | nil => rfl
  | cons c rest ih =>
    rw [blankFrom, cellsFrom, cellsFrom, List.map_cons, ← ih (some c) (column + 1)]
    rfl

theorem lineCells_blank (num : Nat) (line : String) :
    lineCells num (blankLine erased num line) = (lineCells num line).map (Cell.blank erased) := by
  have h := cellsFrom_blank erased num line none 0 line.toList
  rwa [Option.map_none, ← String.toList_ofList (l := blankFrom erased num 0 line.toList)] at h

theorem zipIdx_blankLines (num : Nat) (lines : List String) :
    (blankLines erased num lines).zipIdx num
      = (lines.zipIdx num).map fun (line, n) => (blankLine erased n line, n) := by
  induction lines generalizing num with
  | nil => rfl
  | cons line rest ih => simp [blankLines, ih]

/-- The script with blanks has the cells of the script, each with its blanks. -/
theorem cells_blank (lines : List String) :
    cells (blank erased lines) = (cells lines).map (Cell.blank erased) := by
  unfold cells blank
  rw [zipIdx_blankLines, List.flatMap_map, List.map_flatMap]
  simp only [lineCells_blank]

/-! ## Blanks where brackets stood -/

variable {erased}

/-- A character, or a blank where a bracket stood. -/
def Blanked (c c' : Char) : Prop := c' = c ∨ (Bracket.ofChar? c).isSome ∧ c' = ' '

/-- Such a blank makes and takes away no character but brackets and blanks. -/
theorem Blanked.eq_iff {c c' x : Char} (h : Blanked c c')
    (hx : Bracket.ofChar? x = none ∧ x ≠ ' ') : c' = x ↔ c = x := by
  rcases h with rfl | ⟨hc, rfl⟩
  · exact Iff.rfl
  · constructor
    · intro hblank
      exact absurd hblank.symm hx.2
    · rintro rfl
      rw [hx.1] at hc
      cases hc

theorem Quote.ofChar?_eq_some_iff (c : Char) (q : Quote) :
    Quote.ofChar? c = some q ↔ c = q.char := by
  constructor
  · intro h
    unfold Quote.ofChar? at h
    split at h <;> cases h <;> rfl
  · rintro rfl
    exact Quote.ofChar?_char q

theorem Blanked.quote {c c' : Char} (h : Blanked c c') : Quote.ofChar? c' = Quote.ofChar? c := by
  ext q
  rw [Quote.ofChar?_eq_some_iff, Quote.ofChar?_eq_some_iff]
  cases q with
  | single => exact h.eq_iff (by decide)
  | double => exact h.eq_iff (by decide)

theorem Blanked.escape {c c' : Char} (h : Blanked c c') : c' = escapeChar ↔ c = escapeChar :=
  h.eq_iff (by decide)

/-- Each erased position that has a character has a bracket. -/
def AtBrackets (erased : Finset Position) (lines : List String) : Prop :=
  ∀ cell ∈ cells lines, cell.pos ∈ erased → (Bracket.ofChar? cell.char).isSome

namespace AtBrackets

variable {lines : List String} {cell : Cell}

theorem char (h : AtBrackets erased lines) (hcell : cell ∈ cells lines) :
    Blanked cell.char (cell.blank erased).char := by
  by_cases hp : cell.pos ∈ erased
  · exact Or.inr ⟨h cell hcell hp, if_pos hp⟩
  · exact Or.inl (if_neg hp)

theorem prev (h : AtBrackets erased lines) (hcell : cell ∈ cells lines) {c : Char}
    (hprev : cell.prev = some c) :
    Blanked c (blankChar erased ⟨cell.pos.line, cell.pos.column - 1⟩ c) := by
  obtain ⟨before, hbefore, hpos, rfl⟩ := exists_cell_before hcell hprev
  rw [← hpos]
  exact h.char hbefore

/-- Blanks where brackets stood open and close no string. -/
theorem after (h : AtBrackets erased lines) (hcell : cell ∈ cells lines) (active : Option Quote) :
    Quote.after active (cell.blank erased).prev (cell.blank erased).char
      = Quote.after active cell.prev cell.char := by
  have hescaped : (cell.blank erased).prev = some escapeChar ↔ cell.prev = some escapeChar := by
    unfold Cell.blank
    cases hprev : cell.prev with
    | none => rfl
    | some c => simpa using (h.prev hcell hprev).escape
  unfold Quote.after Quote.effective?
  simp only [hescaped, (h.char hcell).quote]

theorem forall₂_line (h : AtBrackets erased lines) {line : String} {num : Nat}
    (hline : (line, num) ∈ lines.zipIdx 1) :
    List.Forall₂ Blanked line.toList (blankLine erased num line).toList := by
  rw [← map_char_lineCells num, ← map_char_lineCells num (blankLine erased num line),
    lineCells_blank, List.forall₂_map_left_iff, List.forall₂_map_right_iff,
    List.forall₂_map_right_iff, List.forall₂_same]
  intro cell hcell
  exact h.char (List.mem_flatMap.mpr ⟨_, hline, hcell⟩)

end AtBrackets

/-! ## The brackets that are left -/

/-- Other cells stand outside strings in the same places if each of them does to
the strings what the one in its place does. -/
theorem outside_map {φ : Cell → Cell} {l : List Cell}
    (h : ∀ cell ∈ l, ∀ active,
      Quote.after active (φ cell).prev (φ cell).char = Quote.after active cell.prev cell.char)
    (active : Option Quote) : outside active (l.map φ) = (outside active l).map φ := by
  induction l generalizing active with
  | nil => rfl
  | cons cell rest ih =>
    have ih := ih fun c hc => h c (List.mem_cons_of_mem _ hc)
    rw [List.map_cons, outside, outside, h cell List.mem_cons_self]
    cases Quote.after active cell.prev cell.char with
    | none => exact congrArg (φ cell :: ·) (ih none)
    | some q => exact ih (some q)

/-- A bracket whose position is erased is none in the script with blanks. -/
theorem mark?_blank (f : Family) (cell : Cell) :
    (cell.blank erased).mark? f
      = if cell.pos ∈ erased then none else (cell.mark? f).map (Mark.map (Cell.blank erased)) := by
  have hblank : f.side? ' ' = none := by
    cases f <;> rfl
  unfold Cell.mark?
  by_cases h : cell.pos ∈ erased
  · simp [Cell.blank, blankChar, h, hblank]
  · have hchar : (cell.blank erased).char = cell.char := if_neg h
    rw [if_neg h, hchar, Option.map_map]
    rfl

/-- The words of the script with blanks are those of the script, without the
brackets that are erased. -/
theorem marks_blank {lines : List String} (h : AtBrackets erased lines) (f : Family) :
    marks f (blank erased lines)
      = ((marks f lines).filter fun m => m.item.pos ∉ erased).map
          (Mark.map (Cell.blank erased)) := by
  unfold marks marksFrom
  rw [cells_blank, outside_map fun _ hcell => h.after hcell, List.filterMap_map,
    List.filter_filterMap, List.map_filterMap]
  refine List.filterMap_congr fun cell _ => ?_
  rw [Function.comp_apply, mark?_blank]
  unfold Cell.mark?
  cases f.side? cell.char with
  | none => simp
  | some side => by_cases hp : cell.pos ∈ erased <;> simp [hp]

/-! ## The patterns -/

theorem contains_blanked {x : Char} (hx : Bracket.ofChar? x = none ∧ x ≠ ' ') {a b : List Char}
    (h : List.Forall₂ Blanked a b) : b.contains x = a.contains x := by
  induction h with
  | nil => rfl
  | cons hc _ ih =>
    rw [List.contains_cons, List.contains_cons, ih]
    congr 1
    simpa [eq_comm] using (hc.eq_iff hx).symm

theorem isPrefixOf_blanked {marker : List Char}
    (hmarker : ∀ x ∈ marker, Bracket.ofChar? x = none ∧ x ≠ ' ') {a b : List Char}
    (h : List.Forall₂ Blanked a b) : marker.isPrefixOf b = marker.isPrefixOf a := by
  induction marker generalizing a b with
  | nil => simp
  | cons x rest ih =>
    obtain ⟨hx, hrest⟩ := List.forall_mem_cons.mp hmarker
    cases h with
    | nil => rfl
    | cons hc htail =>
      rw [List.isPrefixOf, List.isPrefixOf, ih hrest htail]
      congr 1
      simpa [eq_comm] using (hc.eq_iff hx).symm

theorem containsMarker_blanked {a b : List Char} (h : List.Forall₂ Blanked a b) :
    containsMarker b = containsMarker a := by
  have hmarker : ∀ q, ∀ x ∈ backslashMarker q, Bracket.ofChar? x = none ∧ x ≠ ' ' := by
    intro q
    cases q <;> simp [backslashMarker, Quote.char, Bracket.ofChar?]
  induction h with
  | nil => rfl
  | cons hc htail ih =>
    have hall := List.Forall₂.cons hc htail
    rw [containsMarker, containsMarker, ih, startsWithMarker, startsWithMarker,
      isPrefixOf_blanked (hmarker _) hall, isPrefixOf_blanked (hmarker _) hall]

/-- Blanks where brackets stood change no finding about patterns but the line
that it shows. -/
theorem patternFindings_blank {lines : List String} (h : AtBrackets erased lines) :
    (patternFindings (blank erased lines)).map (fun d => (d.kind, d.line))
      = (patternFindings lines).map fun d => (d.kind, d.line) := by
  unfold patternFindings blank
  rw [zipIdx_blankLines, List.flatMap_map, List.map_flatMap, List.map_flatMap]
  refine List.flatMap_congr fun ⟨line, num⟩ hline => ?_
  have hchars := h.forall₂_line hline
  have hbacktick : hasBacktick (blankLine erased num line) = hasBacktick line :=
    contains_blanked (by decide) hchars
  have hbackslash : hasBackslash (blankLine erased num line) = hasBackslash line :=
    containsMarker_blanked hchars
  dsimp only
  rw [linePatterns, linePatterns, hbacktick, hbackslash]
  cases hasBacktick line <;> cases hasBackslash line <;> rfl

end ScriptBalance
