-- Where the cells of a script stand. Each character of the script has one
-- cell, each cell has one character, and the cells come in the order of their
-- positions.
import ScriptBalance.Characters

namespace ScriptBalance

/-! ## The order of positions -/

/-- A position is before another one if its line is, or, on the same line, its
column. -/
instance : LT Position := ⟨fun p q => p.line < q.line ∨ p.line = q.line ∧ p.column < q.column⟩

theorem Position.lt_iff (p q : Position) :
    p < q ↔ p.line < q.line ∨ p.line = q.line ∧ p.column < q.column := Iff.rfl

instance (p q : Position) : Decidable (p < q) :=
  inferInstanceAs (Decidable (p.line < q.line ∨ p.line = q.line ∧ p.column < q.column))

theorem Position.lt_irrefl (p : Position) : ¬ p < p := by
  rw [Position.lt_iff]
  omega

theorem Position.lt_asymm {p q : Position} (h : p < q) : ¬ q < p := by
  rw [Position.lt_iff] at h ⊢
  omega

/-! ## A cell and its character -/

/-- A cell is the cell of a character of the script: its line is the line with
its number, its character stands on that line at its column, and it knows the
character before it, which the first character of a line does not have. -/
structure Cell.StandsIn (cell : Cell) (lines : List String) : Prop where
  line_pos : 0 < cell.pos.line
  line : lines[cell.pos.line - 1]? = some cell.line
  char : cell.line.toList[cell.pos.column]? = some cell.char
  prev : cell.prev =
    if cell.pos.column = 0 then none else cell.line.toList[cell.pos.column - 1]?

theorem getElem?_cellsFrom (num : Nat) (line : String) (prev : Option Char) (column : Nat)
    (chars : List Char) (i : Nat) :
    (cellsFrom num line prev column chars)[i]? = chars[i]?.map fun c =>
      ⟨⟨num, column + i⟩, if i = 0 then prev else chars[i - 1]?, c, line⟩ := by
  induction chars generalizing prev column i with
  | nil => simp [cellsFrom]
  | cons c rest ih =>
    cases i with
    | zero => simp [cellsFrom]
    | succ i =>
      simp only [cellsFrom, List.getElem?_cons_succ]
      rw [ih]
      cases i with
      | zero => simp
      | succ i => simp [Nat.add_comm, Nat.add_left_comm]

theorem mem_lineCells (num : Nat) (line : String) (cell : Cell) :
    cell ∈ lineCells num line ↔ cell.pos.line = num ∧ cell.line = line ∧
      line.toList[cell.pos.column]? = some cell.char ∧
      cell.prev = if cell.pos.column = 0 then none else line.toList[cell.pos.column - 1]? := by
  unfold lineCells
  rw [List.mem_iff_getElem?]
  constructor
  · rintro ⟨i, hi⟩
    rw [getElem?_cellsFrom, Option.map_eq_some_iff] at hi
    obtain ⟨c, hc, rfl⟩ := hi
    simp [hc]
  · rintro ⟨rfl, rfl, hchar, hprev⟩
    refine ⟨cell.pos.column, ?_⟩
    rw [getElem?_cellsFrom, hchar, Option.map_some, Nat.zero_add, ← hprev]

/-- The cells of a script are the cells of its characters, no more and no
less. -/
theorem mem_cells (lines : List String) (cell : Cell) :
    cell ∈ cells lines ↔ cell.StandsIn lines := by
  unfold cells
  simp only [List.mem_flatMap, mem_lineCells, Prod.exists]
  constructor
  · rintro ⟨line, num, hmem, hnum, rfl, hchar, hprev⟩
    rw [List.mk_mem_zipIdx_iff_le_and_getElem?_sub] at hmem
    subst hnum
    exact ⟨hmem.1, hmem.2, hchar, hprev⟩
  · rintro ⟨hpos, hline, hchar, hprev⟩
    refine ⟨cell.line, cell.pos.line, ?_, rfl, rfl, hchar, hprev⟩
    rw [List.mk_mem_zipIdx_iff_le_and_getElem?_sub]
    exact ⟨hpos, hline⟩

/-- No two characters of a script have one position. -/
theorem eq_of_mem_cells {lines : List String} {a b : Cell} (ha : a ∈ cells lines)
    (hb : b ∈ cells lines) (h : a.pos = b.pos) : a = b := by
  rw [mem_cells] at ha hb
  obtain ⟨pos, prev, char, line⟩ := a
  obtain ⟨pos', prev', char', line'⟩ := b
  cases h
  have hline := ha.line.symm.trans hb.line
  cases hline
  have hchar := ha.char.symm.trans hb.char
  cases hchar
  have hprev := ha.prev.trans hb.prev.symm
  cases hprev
  rfl

/-- The character before a cell has a cell of its own. -/
theorem exists_cell_before {lines : List String} {cell : Cell} (h : cell ∈ cells lines) {c : Char}
    (hprev : cell.prev = some c) :
    ∃ before ∈ cells lines,
      before.pos = ⟨cell.pos.line, cell.pos.column - 1⟩ ∧ before.char = c := by
  rw [mem_cells] at h
  have hchar := h.prev
  rw [hprev] at hchar
  split at hchar
  · cases hchar
  · let before : Cell := ⟨⟨cell.pos.line, cell.pos.column - 1⟩,
      if cell.pos.column - 1 = 0 then none else cell.line.toList[cell.pos.column - 1 - 1]?, c,
      cell.line⟩
    exact ⟨before, (mem_cells _ _).mpr ⟨h.line_pos, h.line, hchar.symm, rfl⟩, rfl, rfl⟩

/-- The positions of the characters of a script, in order. -/
def positions (lines : List String) : List Position :=
  (lines.zipIdx 1).flatMap fun (line, num) => (List.range line.toList.length).map (⟨num, ·⟩)

theorem map_pos_cellsFrom (num : Nat) (line : String) (prev : Option Char) (column : Nat)
    (chars : List Char) :
    (cellsFrom num line prev column chars).map Cell.pos
      = (List.range' column chars.length).map (⟨num, ·⟩) := by
  induction chars generalizing prev column with
  | nil => rfl
  | cons c rest ih => simp [cellsFrom, ih, List.range'_succ]

theorem map_pos_cells (lines : List String) : (cells lines).map Cell.pos = positions lines := by
  unfold cells positions lineCells
  rw [List.map_flatMap]
  simp only [map_pos_cellsFrom, List.range_eq_range']

/-! ## The order of cells -/

theorem cellsFrom_sorted (num : Nat) (line : String) (prev : Option Char) (column : Nat)
    (chars : List Char) :
    (cellsFrom num line prev column chars).Pairwise (fun a b => a.pos < b.pos) := by
  induction chars generalizing prev column with
  | nil => exact List.Pairwise.nil
  | cons c rest ih =>
    refine List.Pairwise.cons ?_ (ih _ _)
    intro cell hcell
    obtain ⟨i, hi⟩ := List.getElem?_of_mem hcell
    rw [getElem?_cellsFrom, Option.map_eq_some_iff] at hi
    obtain ⟨_, _, rfl⟩ := hi
    rw [Position.lt_iff]
    dsimp only
    omega

theorem zipIdx_sorted {α : Type} (l : List α) (k : Nat) :
    (l.zipIdx k).Pairwise (fun a b => a.2 < b.2) := by
  rw [← List.pairwise_map (f := Prod.snd) (R := (· < ·)), List.zipIdx_map_snd]
  exact List.pairwise_lt_range'

/-- The cells of a script come in the order of their positions. -/
theorem cells_sorted (lines : List String) :
    (cells lines).Pairwise (fun a b => a.pos < b.pos) := by
  unfold cells
  rw [List.pairwise_flatMap]
  refine ⟨fun _ _ => cellsFrom_sorted _ _ _ _ _, (zipIdx_sorted lines 1).imp ?_⟩
  intro a b hab x hx y hy
  rw [mem_lineCells] at hx hy
  rw [Position.lt_iff, hx.1, hy.1]
  exact Or.inl hab

/-- The cells up to one cell are not after it, and the others are. -/
theorem cells_around {lines : List String} {read rest : List Cell} {cell : Cell}
    (h : cells lines = read ++ cell :: rest) :
    (∀ c ∈ read, c.pos < cell.pos) ∧ (∀ c ∈ read ++ [cell], ¬ cell.pos < c.pos) ∧
      ∀ c ∈ rest, cell.pos < c.pos := by
  have hsorted := cells_sorted lines
  rw [h, List.pairwise_append, List.pairwise_cons] at hsorted
  obtain ⟨-, ⟨hrest, -⟩, hread⟩ := hsorted
  have hbefore : ∀ c ∈ read, c.pos < cell.pos := fun c hc => hread c hc cell List.mem_cons_self
  refine ⟨hbefore, ?_, hrest⟩
  intro c hc
  rcases List.mem_append.mp hc with hc | hc
  · have hlt := hbefore c hc
    rw [Position.lt_iff] at hlt ⊢
    omega
  · rw [List.mem_singleton.mp hc]
    exact Position.lt_irrefl _

/-- The cells up to one cell stand at the positions that are not after it. -/
theorem filter_positions {lines : List String} {read rest : List Cell} {cell : Cell}
    (h : cells lines = read ++ cell :: rest) :
    (positions lines).filter (fun p => ¬ cell.pos < p) = (read ++ [cell]).map Cell.pos := by
  obtain ⟨-, hkept, hrest⟩ := cells_around h
  rw [← map_pos_cells, h, List.append_cons, List.map_append, List.filter_append,
    List.filter_map, List.filter_map, List.filter_eq_self.mpr, List.filter_eq_nil_iff.mpr]
  · simp
  · intro c hc
    simpa using hrest c hc
  · intro c hc
    simpa using hkept c hc

end ScriptBalance
