-- Lines put into a script. What a scan does on some lines it does on top of the
-- brackets that are open before them, and with any line numbers. So lines that
-- find nothing and leave nothing open only move the findings behind them.
import Mathlib.Data.List.Basic
import ScriptBalance.Proofs.Outside
import ScriptBalance.Proofs.Writing

namespace ScriptBalance

/-! ## Other line numbers -/

section

variable (φ : Nat → Nat)

def Position.renumber (p : Position) : Position := { p with line := φ p.line }

def Cell.renumber (cell : Cell) : Cell := { cell with pos := cell.pos.renumber φ }

def Finding.renumber (d : Finding) : Finding := { d with line := φ d.line }

def OpenStack.renumber (t : OpenStack) : OpenStack :=
  ⟨t.innermostFirst.map (Position.renumber φ)⟩

def Scan.renumber (s : Scan) : Scan where
  quote := s.quote
  braces := s.braces.renumber φ
  parentheses := s.parentheses.renumber φ

theorem map_renumber_cellsFrom (num : Nat) (line : String) (prev : Option Char) (column : Nat)
    (chars : List Char) :
    (cellsFrom num line prev column chars).map (Cell.renumber φ)
      = cellsFrom (φ num) line prev column chars := by
  induction chars generalizing prev column with
  | nil => rfl
  | cons c rest ih =>
    rw [cellsFrom, cellsFrom, List.map_cons, ih]
    rfl

/-- The cells of a script behind another one count on from the last line of it. -/
theorem cells_append (a b : List String) :
    cells (a ++ b) = cells a ++ (cells b).map (Cell.renumber (a.length + ·)) := by
  have hshift : ∀ (l : List String) (n k : Nat),
      l.zipIdx (n + k) = (l.zipIdx k).map fun p => (p.1, n + p.2) := by
    intro l n
    induction l with
    | nil => intro k; rfl
    | cons line rest ih => intro k; simp [← ih, Nat.add_assoc]
  unfold cells
  rw [List.zipIdx_append, List.flatMap_append, Nat.add_comm 1, hshift, List.flatMap_map,
    List.map_flatMap]
  simp only [lineCells, map_renumber_cellsFrom]

theorem line_of_mem_cells {lines : List String} {cell : Cell} (h : cell ∈ cells lines) :
    0 < cell.pos.line ∧ cell.pos.line ≤ lines.length := by
  rw [mem_cells] at h
  have hpos := h.line_pos
  have hlt := (List.getElem?_eq_some_iff.mp h.line).1
  omega

end

namespace Scan

variable (φ : Nat → Nat)

@[simp] theorem stack_renumber (s : Scan) (f : Family) :
    (s.renumber φ).stack f = (s.stack f).renumber φ := by
  cases f <;> rfl

theorem setStack_renumber (s : Scan) (t : OpenStack) (f : Family) :
    (s.renumber φ).setStack (t.renumber φ) f = (s.setStack t f).renumber φ := by
  cases f <;> rfl

theorem bracket?_renumber (s : Scan) (cell : Cell) :
    (s.renumber φ).bracket? (cell.renumber φ) = s.bracket? cell := rfl

theorem meet_renumber (s : Scan) (p : Position) (b : Option Bracket) :
    (s.renumber φ).meet (p.renumber φ) b = (s.meet p b).renumber φ := by
  rcases b with _ | f | f
  · rfl
  · rw [meet, meet, ← setStack_renumber, stack_renumber]
    rfl
  · have hpop : ((s.stack f).renumber φ).pop = (s.stack f).pop.renumber φ := by
      simp [OpenStack.pop, OpenStack.renumber]
    rw [meet, meet, ← setStack_renumber, stack_renumber, hpop]

theorem next_renumber (s : Scan) (cell : Cell) :
    (s.renumber φ).next (cell.renumber φ) = (s.next cell).renumber φ := by
  rw [next, next, bracket?_renumber, ← meet_renumber]
  rfl

theorem finding?_renumber (s : Scan) (cell : Cell) :
    (s.renumber φ).finding? (cell.renumber φ) = (s.finding? cell).map (Finding.renumber φ) := by
  unfold finding?
  rw [bracket?_renumber]
  rcases s.bracket? cell with _ | f | f
  · rfl
  · rfl
  · simp only [stack_renumber, OpenStack.isEmpty, OpenStack.renumber, List.isEmpty_map]
    by_cases h : (s.stack f).innermostFirst.isEmpty
    · simp only [h, if_true]
      rfl
    · simp [h]

/-- A scan does the same with other line numbers. -/
theorem after_renumber (s : Scan) (cells : List Cell) :
    (s.renumber φ).after (cells.map (Cell.renumber φ)) = (s.after cells).renumber φ := by
  induction cells generalizing s with
  | nil => rfl
  | cons cell rest ih =>
    show ((s.renumber φ).next (cell.renumber φ)).after _ = _
    rw [next_renumber, ih]
    rfl

theorem findings_renumber (s : Scan) (cells : List Cell) :
    (s.renumber φ).findings (cells.map (Cell.renumber φ))
      = (s.findings cells).map (Finding.renumber φ) := by
  induction cells generalizing s with
  | nil => rfl
  | cons cell rest ih =>
    rw [List.map_cons, findings, findings, next_renumber, ih, finding?_renumber, List.map_append]
    cases s.finding? cell <;> rfl

theorem unclosed_renumber (s : Scan) :
    (s.renumber φ).unclosed = s.unclosed.map (Finding.renumber φ) := by
  unfold unclosed
  rw [List.map_flatMap]
  refine List.flatMap_congr fun f _ => ?_
  simp only [stack_renumber, OpenStack.toList, OpenStack.renumber, List.map_map,
    ← List.map_reverse]
  rfl

end Scan

/-! ## On top of open brackets -/

/-- The open brackets of `t` inside those of `base`. -/
def OpenStack.onTop (t base : OpenStack) : OpenStack := ⟨t.innermostFirst ++ base.innermostFirst⟩

theorem OpenStack.isEmpty_onTop {t : OpenStack} (base : OpenStack) (h : t.isEmpty = false) :
    (t.onTop base).isEmpty = false := by
  unfold isEmpty onTop at *
  rw [List.isEmpty_eq_false_iff] at *
  exact List.append_ne_nil_of_left_ne_nil h _

theorem OpenStack.pop_onTop {t : OpenStack} (base : OpenStack) (h : t.isEmpty = false) :
    (t.onTop base).pop = t.pop.onTop base := by
  unfold isEmpty at h
  unfold pop onTop
  rw [List.tail_append_of_ne_nil (List.isEmpty_eq_false_iff.mp h)]

namespace Scan

/-- The scan `s` with the open brackets of `base` around its own. -/
def onTop (s base : Scan) : Scan where
  quote := s.quote
  braces := s.braces.onTop base.braces
  parentheses := s.parentheses.onTop base.parentheses

theorem stack_onTop (s base : Scan) (f : Family) :
    (s.onTop base).stack f = (s.stack f).onTop (base.stack f) := by
  cases f <;> rfl

theorem setStack_onTop (s base : Scan) (t : OpenStack) (f : Family) :
    (s.onTop base).setStack (t.onTop (base.stack f)) f = (s.setStack t f).onTop base := by
  cases f <;> rfl

theorem bracket?_onTop (s base : Scan) (cell : Cell) :
    (s.onTop base).bracket? cell = s.bracket? cell := rfl

/-- A cell that finds nothing does not reach the brackets around. -/
theorem next_onTop {s : Scan} {cell : Cell} (base : Scan) (h : s.finding? cell = none) :
    (s.onTop base).next cell = (s.next cell).onTop base ∧
      (s.onTop base).finding? cell = none := by
  rw [next, next, finding?, bracket?_onTop]
  rw [finding?] at h
  rcases hb : s.bracket? cell with _ | f | f
  · exact ⟨rfl, rfl⟩
  · refine ⟨?_, rfl⟩
    rw [meet, meet, ← setStack_onTop, stack_quote, stack_quote, stack_onTop]
    rfl
  · have hopen : (s.stack f).isEmpty = false := by
      rw [hb] at h
      simpa using h
    refine ⟨?_, ?_⟩
    · rw [meet, meet, ← setStack_onTop, stack_quote, stack_quote, stack_onTop,
        OpenStack.pop_onTop _ hopen]
      rfl
    · simp [stack_onTop, OpenStack.isEmpty_onTop _ hopen]

theorem after_onTop {s : Scan} {cells : List Cell} (base : Scan) (h : s.findings cells = []) :
    (s.onTop base).after cells = (s.after cells).onTop base ∧
      (s.onTop base).findings cells = [] := by
  induction cells generalizing s with
  | nil => exact ⟨rfl, rfl⟩
  | cons cell rest ih =>
    rw [findings, List.append_eq_nil_iff, Option.toList_eq_nil_iff] at h
    obtain ⟨hnext, hnone⟩ := next_onTop base h.1
    obtain ⟨hafter, hrest⟩ := ih h.2
    rw [findings, hnone, hnext]
    refine ⟨?_, hrest⟩
    show ((s.onTop base).next cell).after rest = _
    rw [hnext]
    exact hafter

end Scan

/-! ## Lines that are clean -/

/-- The scan that has read some lines, one after the other, from a new scan. -/
def scanned (lines : List String) : Scan :=
  (stateOf (CheckM.total (fun (line, num) => scanLine Recorder.take num line) (lines.zipIdx 1)
    { sink := {} })).scan

theorem scanned_eq (lines : List String) : scanned lines = Scan.after {} (cells lines) := by
  obtain ⟨last, hrun, -, hscan⟩ := (streams_scanLines Recorder.take lines).take
  unfold scanned
  rw [hrun, stateOf, hscan]
  exact scanAfterAll_chain_cells {} (cells lines)

section

variable {part : List String}

/-- Lines that find nothing and end outside strings leave a new scan as it was. -/
theorem after_clean (hclean : bracketFindings part = [])
    (hout : (Scan.after {} (cells part)).inString = false) : Scan.after {} (cells part) = {} := by
  unfold bracketFindings at hclean
  rw [List.append_eq_nil_iff] at hclean
  generalize Scan.after {} (cells part) = s at *
  obtain ⟨quote, ⟨braces⟩, ⟨parentheses⟩⟩ := s
  have hunclosed := hclean.2
  simp only [Scan.unclosed, Family.all, List.flatMap_cons, List.flatMap_nil, List.append_nil,
    List.append_eq_nil_iff, List.map_eq_nil_iff, Scan.stack, OpenStack.toList,
    List.reverse_eq_nil_iff] at hunclosed
  have hquote : quote = none := by simpa [Scan.inString] using hout
  rw [hquote, hunclosed.1, hunclosed.2]

/-- Nor do they change a scan that has read other lines before them. -/
theorem read_clean (hclean : bracketFindings part = [])
    (hout : (Scan.after {} (cells part)).inString = false) {s : Scan} (hs : s.inString = false)
    (φ : Nat → Nat) :
    s.after ((cells part).map (Cell.renumber φ)) = s ∧
      s.findings ((cells part).map (Cell.renumber φ)) = [] := by
  have hbase : ({} : Scan).onTop s = s := by
    obtain ⟨quote, braces, parentheses⟩ := s
    have hquote : quote = none := by simpa [Scan.inString] using hs
    rw [hquote]
    rfl
  have hstart : ({} : Scan) = Scan.renumber φ {} := rfl
  have hfindings : Scan.findings {} ((cells part).map (Cell.renumber φ)) = [] := by
    rw [hstart, Scan.findings_renumber, (List.append_eq_nil_iff.mp hclean).1]
    rfl
  have hafter : Scan.after {} ((cells part).map (Cell.renumber φ)) = {} := by
    rw [hstart, Scan.after_renumber, after_clean hclean hout]
  obtain ⟨h1, h2⟩ := Scan.after_onTop s hfindings
  rw [hbase, hafter] at h1
  rw [hbase] at h2
  exact ⟨h1.trans hbase, h2⟩

end

/-- The number of a line once `added` lines stand behind line number `start`. -/
def moved (start added line : Nat) : Nat := if start < line then line + added else line

theorem cells_moved (before after : List String) (added : Nat) :
    (cells (before ++ after)).map (Cell.renumber (moved before.length added))
      = cells before ++ (cells after).map (Cell.renumber (before.length + added + ·)) := by
  rw [cells_append, List.map_append, List.map_map]
  congr 1
  · conv_rhs => rw [← List.map_id (cells before)]
    refine List.map_congr_left fun cell hcell => ?_
    have hline := line_of_mem_cells hcell
    have hstay : moved before.length added cell.pos.line = cell.pos.line := if_neg (by omega)
    simp [Cell.renumber, Position.renumber, hstay]
  · refine List.map_congr_left fun cell hcell => ?_
    have hline := line_of_mem_cells hcell
    have hmove : moved before.length added (before.length + cell.pos.line)
        = before.length + added + cell.pos.line := by
      unfold moved
      rw [if_pos (by omega)]
      omega
    simp [Cell.renumber, Position.renumber, hmove]

theorem bracketFindings_insert {before part : List String} (after : List String)
    (hbefore : (Scan.after {} (cells before)).inString = false)
    (hclean : bracketFindings part = [])
    (hout : (Scan.after {} (cells part)).inString = false) :
    bracketFindings (before ++ part ++ after)
      = (bracketFindings (before ++ after)).map
          (Finding.renumber (moved before.length part.length)) := by
  have hstart : ({} : Scan) = Scan.renumber (moved before.length part.length) {} := rfl
  obtain ⟨hafter, hfindings⟩ := read_clean hclean hout hbefore (before.length + ·)
  have hread : ∀ rest, Scan.findings {} (cells before
        ++ (cells part).map (Cell.renumber (before.length + ·)) ++ rest)
        = Scan.findings {} (cells before ++ rest) ∧
      Scan.after {} (cells before
        ++ (cells part).map (Cell.renumber (before.length + ·)) ++ rest)
        = Scan.after {} (cells before ++ rest) := by
    intro rest
    simp [Scan.findings_append, hafter, hfindings]
  unfold bracketFindings
  rw [cells_append, cells_append before part, List.length_append, (hread _).1, (hread _).2,
    ← cells_moved, List.map_append, ← Scan.findings_renumber, ← Scan.unclosed_renumber,
    ← Scan.after_renumber, ← hstart]

/-! ## The laws -/

/-- Lines that find nothing and end outside strings may stand anywhere outside
strings. The findings behind them move down by their number, and nothing else
changes. -/
theorem clean_lines_only_move_what_comes_after_them (before part after : List String)
    (hbefore : (scanned before).inString = false)
    (hclean : collect (bracketPass Recorder.take part) = .ok (0, []))
    (hout : (scanned part).inString = false) :
    ∃ found, collect (bracketPass Recorder.take (before ++ after)) = .ok (found.length, found) ∧
      collect (bracketPass Recorder.take (before ++ part ++ after))
        = .ok (found.length,
            found.map fun d =>
              { d with line := if before.length < d.line then d.line + part.length else d.line })
      := by
  rw [scanned_eq] at hbefore hout
  rw [collect_bracketPass] at hclean
  have hnone : bracketFindings part = [] := by
    injection hclean with h
    exact (Prod.mk.inj h).2
  refine ⟨bracketFindings (before ++ after), collect_bracketPass _, ?_⟩
  rw [collect_bracketPass, bracketFindings_insert after hbefore hnone hout, List.length_map]
  rfl

/-- Two lines with a string over both of them stand inside a brace that is open
before them. -/
theorem a_string_over_two_lines_moves_a_brace :
    (scanned ["\x7b"]).inString = false ∧
      collect (bracketPass Recorder.take ["( \"\x7d", "\" )"]) = .ok (0, []) ∧
      (scanned ["( \"\x7d", "\" )"]).inString = false ∧
      collect (bracketPass Recorder.take (["\x7b"] ++ ["( \"\x7d", "\" )"] ++ ["\x7d", " \x7d("]))
        = .ok (2, [⟨.unexpectedClose .brace, 5, some 1, some " \x7d("⟩,
                   ⟨.unclosed .parenthesis, 5, some 2, none⟩]) := by
  have hbefore : (scanned ["\x7b"]).inString = false := by
    rw [scanned_eq]
    decide
  have hout : (scanned ["( \"\x7d", "\" )"]).inString = false := by
    rw [scanned_eq]
    decide
  have hclean : collect (bracketPass Recorder.take ["( \"\x7d", "\" )"]) = .ok (0, []) := by
    have hnone : bracketFindings ["( \"\x7d", "\" )"] = [] := by decide
    rw [collect_bracketPass, hnone]
    rfl
  have hwithout : bracketFindings (["\x7b"] ++ ["\x7d", " \x7d("])
      = [⟨.unexpectedClose .brace, 3, some 1, some " \x7d("⟩,
         ⟨.unclosed .parenthesis, 3, some 2, none⟩] := by decide
  obtain ⟨found, hfound, hmoved⟩ :=
    clean_lines_only_move_what_comes_after_them _ _ ["\x7d", " \x7d("] hbefore hclean hout
  rw [collect_bracketPass, hwithout] at hfound
  injection hfound with h
  refine ⟨hbefore, hclean, hout, hmoved.trans ?_⟩
  rw [← (Prod.mk.inj h).2]
  rfl

end ScriptBalance
