-- The laws of the findings about brackets. The brackets of each family outside
-- strings are a word, whatever the other family does, and the findings are the
-- brackets of the two words that have no partner.
import Mathlib.Data.List.Nodup
import Mathlib.Data.List.Sort
import ScriptBalance.Proofs.Outside
import ScriptBalance.Proofs.Segments
import ScriptBalance.Proofs.Strings

namespace ScriptBalance

/-! ## What the words hold -/

/-- A word holds the brackets of a family that stand outside strings, all of them, and
nothing else. It is told by the scan of the cells of the script, which are all of its
characters, and also by the quotes that count, with no scan at all. -/
structure HoldsBrackets (f : Family) (lines : List String) (w : List (Mark Cell)) : Prop where
  sorted : w.Pairwise fun a b => a.item.pos < b.item.pos
  stands : ∀ m ∈ w, m.item.StandsIn lines
  cells_iff : ∀ cell, cell ∈ cells lines ↔ cell.StandsIn lines
  mem_iff_scan : ∀ side cell, ⟨side, cell⟩ ∈ w ↔
    f.side? cell.char = some side ∧
      ∃ read rest, cells lines = read ++ cell :: rest ∧
        (Scan.after {} (read ++ [cell])).inString = false
  mem_iff_quotes : ∀ side cell, ⟨side, cell⟩ ∈ w ↔
    cell.char = (side.bracket f).char ∧ cell.StandsIn lines ∧
      ∃ strings : Strings, strings.word = quotesUpTo lines cell.pos ∧ strings.current = none

/-- A scan is outside strings after a cell if all strings up to it are closed. -/
theorem inString_after_iff {lines : List String} {read rest : List Cell} {cell : Cell}
    (h : cells lines = read ++ cell :: rest) :
    (Scan.after {} (read ++ [cell])).inString = false ↔
      ∃ strings : Strings, strings.word = quotesUpTo lines cell.pos ∧ strings.current = none := by
  have hquote : (Scan.after {} (read ++ [cell])).quote
      = (Strings.ofQuotes (quotesUpTo lines cell.pos)).active := by
    rw [quotesUpTo_eq h, ← Scan.quoteAfter_eq_active, ← Scan.quote_next, Scan.after_append]
    rfl
  rw [Scan.inString, hquote, Strings.active, Option.isSome_map, Option.isSome_eq_false_iff,
    Option.isNone_iff_eq_none]
  constructor
  · intro hnone
    exact ⟨_, Strings.word_ofQuotes _, hnone⟩
  · rintro ⟨strings, hword, hnone⟩
    rw [← hword, Strings.ofQuotes_word]
    exact hnone

theorem holdsBrackets_marks (f : Family) (lines : List String) :
    HoldsBrackets f lines (marks f lines) where
  sorted := marks_sorted f lines
  stands m hm := (mem_cells lines m.item).mp (mem_cells_of_mem_marks hm)
  cells_iff := mem_cells lines
  mem_iff_scan := mem_marks f lines
  mem_iff_quotes side cell := by
    rw [mem_marks, f.side?_eq_some_iff]
    refine and_congr_right fun _ => ?_
    constructor
    · rintro ⟨read, rest, hsplit, hout⟩
      refine ⟨(mem_cells lines cell).mp ?_, (inString_after_iff hsplit).mp hout⟩
      simp [hsplit]
    · rintro ⟨hstands, hclosed⟩
      obtain ⟨read, rest, hsplit⟩ := List.append_of_mem ((mem_cells lines cell).mpr hstands)
      exact ⟨read, rest, hsplit, (inString_after_iff hsplit).mpr hclosed⟩

/-- There is one word that holds the brackets, since they stand in order. -/
theorem holdsBrackets_iff (f : Family) (lines : List String) (w : List (Mark Cell)) :
    HoldsBrackets f lines w ↔ w = marks f lines := by
  constructor
  · intro h
    let Before (a b : Mark Cell) : Prop := a.item.pos < b.item.pos
    have hirrefl : Std.Irrefl Before := ⟨fun _ => Position.lt_irrefl _⟩
    have hantisymm : Std.Antisymm Before := ⟨fun _ _ hab hba => absurd hba (Position.lt_asymm hab)⟩
    refine List.Pairwise.eq_of_mem_iff (r := Before) h.sorted (marks_sorted f lines) fun m => ?_
    rw [h.mem_iff_scan, mem_marks]
  · rintro rfl
    exact holdsBrackets_marks f lines

/-! ## Every finding once -/

theorem mem_bracketFindings (lines : List String) (d : Finding) :
    d ∈ bracketFindings lines ↔
      ∃ f, d ∈ ofKind (.unexpectedClose f) (bracketFindings lines) ∨
        d ∈ ofKind (.unclosed f) (bracketFindings lines) := by
  simp only [mem_ofKind]
  constructor
  · intro h
    obtain ⟨f, hf⟩ := kind_of_mem_bracketFindings h
    exact ⟨f, hf.imp (⟨h, ·⟩) (⟨h, ·⟩)⟩
  · rintro ⟨f, h | h⟩
    · exact h.1
    · exact h.1

theorem mem_unexpectedClose (f : Family) (lines : List String) (d : Finding) :
    d ∈ ofKind (.unexpectedClose f) (bracketFindings lines) ↔
      ∃ i cell, (marks f lines)[i]? = some ⟨.closing, cell⟩ ∧ ClosesNothing (marks f lines) i ∧
        d = .unexpectedClose f cell := by
  rw [ofKind_unexpectedClose, List.mem_map]
  constructor
  · rintro ⟨cell, hcell, rfl⟩
    rw [List.mem_reverse, Factorisation.mem_unopened] at hcell
    obtain ⟨i, hi, hc⟩ := hcell
    exact ⟨i, cell, hi, hc, rfl⟩
  · rintro ⟨i, cell, hi, hc, rfl⟩
    refine ⟨cell, ?_, rfl⟩
    rw [List.mem_reverse, Factorisation.mem_unopened]
    exact ⟨i, hi, hc⟩

theorem mem_unclosed (f : Family) (lines : List String) (d : Finding) :
    d ∈ ofKind (.unclosed f) (bracketFindings lines) ↔
      ∃ i cell, (marks f lines)[i]? = some ⟨.opening, cell⟩ ∧ NeverClosed (marks f lines) i ∧
        d = .unclosed f cell.pos := by
  rw [ofKind_unclosed_bracketFindings, List.mem_map]
  constructor
  · rintro ⟨cell, hcell, rfl⟩
    rw [List.mem_reverse, Factorisation.mem_unclosed] at hcell
    obtain ⟨i, hi, ho⟩ := hcell
    exact ⟨i, cell, hi, ho, rfl⟩
  · rintro ⟨i, cell, hi, ho, rfl⟩
    refine ⟨cell, ?_, rfl⟩
    rw [List.mem_reverse, Factorisation.mem_unclosed]
    exact ⟨i, hi, ho⟩

/-- Findings at the positions of different cells are different. -/
theorem nodup_map {finding : Cell → Finding} (hline : ∀ c, (finding c).line = c.pos.line)
    (hcolumn : ∀ c, (finding c).column = some c.pos.column) {l : List Cell}
    (h : l.Pairwise fun a b => a.pos < b.pos) : (l.map finding).Nodup := by
  rw [List.nodup_iff_pairwise_ne, List.pairwise_map]
  refine h.imp fun {a b} hlt heq => ?_
  have hl : a.pos.line = b.pos.line := by rw [← hline, ← hline, heq]
  have hc : some a.pos.column = some b.pos.column := by rw [← hcolumn, ← hcolumn, heq]
  injection hc with hc
  rw [Position.lt_iff] at hlt
  omega

theorem nodup_unexpectedClose (f : Family) (lines : List String) :
    (ofKind (.unexpectedClose f) (bracketFindings lines)).Nodup := by
  rw [ofKind_unexpectedClose]
  exact nodup_map (fun _ => rfl) (fun _ => rfl) (unopened_sorted f lines)

theorem nodup_unclosed (f : Family) (lines : List String) :
    (ofKind (.unclosed f) (bracketFindings lines)).Nodup := by
  rw [ofKind_unclosed_bracketFindings]
  exact nodup_map (fun _ => rfl) (fun _ => rfl) (unclosed_sorted f lines)

/-- No finding about brackets comes twice. -/
theorem nodup_bracketFindings (lines : List String) : (bracketFindings lines).Nodup := by
  rw [List.nodup_iff_count_eq_one]
  intro d hd
  have hcount : (ofKind d.kind (bracketFindings lines)).count d
      = (bracketFindings lines).count d := by
    unfold ofKind
    rw [List.count_filter (by simp)]
  have hmem : d ∈ ofKind d.kind (bracketFindings lines) := by simp [hd]
  rw [← hcount]
  obtain ⟨f, hf | hf⟩ := kind_of_mem_bracketFindings hd
  · rw [hf] at hmem ⊢
    exact List.nodup_iff_count_eq_one.mp (nodup_unexpectedClose f lines) d hmem
  · rw [hf] at hmem ⊢
    exact List.nodup_iff_count_eq_one.mp (nodup_unclosed f lines) d hmem

/-! ## The laws -/

/-- The bracket pass finds each closing bracket for which all segments that end
with it close more than they open, each opening bracket for which all segments
that start with it open more than they close, and nothing else. A segment is
one of the word of its family, and this is the only word that holds all brackets
of the family outside strings in the order of their positions. -/
theorem the_findings_are_told_by_the_segments (lines : List String) :
    ∃ found, collect (bracketPass Recorder.take lines) = .ok (found.length, found) ∧
      found.Nodup ∧
      (∀ d, d ∈ found ↔ ∃ f i cell,
        ((marks f lines)[i]? = some ⟨.closing, cell⟩ ∧ ClosesNothing (marks f lines) i ∧
          d = .unexpectedClose f cell) ∨
        ((marks f lines)[i]? = some ⟨.opening, cell⟩ ∧ NeverClosed (marks f lines) i ∧
          d = .unclosed f cell.pos)) ∧
      ∀ f w, HoldsBrackets f lines w ↔ w = marks f lines := by
  refine ⟨bracketFindings lines, collect_bracketPass lines, nodup_bracketFindings lines, ?_,
    fun f w => holdsBrackets_iff f lines w⟩
  intro d
  rw [mem_bracketFindings]
  constructor
  · rintro ⟨f, h | h⟩
    · obtain ⟨i, cell, hd⟩ := (mem_unexpectedClose f lines d).mp h
      exact ⟨f, i, cell, Or.inl hd⟩
    · obtain ⟨i, cell, hd⟩ := (mem_unclosed f lines d).mp h
      exact ⟨f, i, cell, Or.inr hd⟩
  · rintro ⟨f, i, cell, hd | hd⟩
    · exact ⟨f, Or.inl ((mem_unexpectedClose f lines d).mpr ⟨i, cell, hd⟩)⟩
    · exact ⟨f, Or.inr ((mem_unclosed f lines d).mpr ⟨i, cell, hd⟩)⟩

/-- The word of each family is the one that holds its brackets outside strings. It
factors in one way into balanced words, closing brackets that close nothing, and
opening brackets that nothing closes. These are the findings about the family, in
the same order. So there are no findings if and only if both words are balanced. -/
theorem the_findings_are_what_one_factorisation_leaves (lines : List String) :
    ∃ found, collect (bracketPass Recorder.take lines) = .ok (found.length, found) ∧
      (∀ f w, HoldsBrackets f lines w ↔ w = marks f lines) ∧
      (∀ f, ∃ factors : Factorisation Cell, factors.word = marks f lines ∧
        (∀ other : Factorisation Cell, other.word = marks f lines → other = factors) ∧
        ofKind (.unexpectedClose f) found
          = factors.unopened.reverse.map (Finding.unexpectedClose f) ∧
        ofKind (.unclosed f) found
          = factors.unclosed.reverse.map fun cell => Finding.unclosed f cell.pos) ∧
      (found = [] ↔ ∀ f, Balanced (marks f lines)) := by
  refine ⟨bracketFindings lines, collect_bracketPass lines,
    fun f w => holdsBrackets_iff f lines w, fun f => ?_, ?_⟩
  · refine ⟨.ofWord (marks f lines), Factorisation.word_ofWord _, fun other h => ?_,
      ofKind_unexpectedClose f lines, ofKind_unclosed_bracketFindings f lines⟩
    exact Factorisation.word_injective (h.trans (Factorisation.word_ofWord _).symm)
  · simp only [Factorisation.balanced_iff]
    constructor
    · intro h f
      have h1 := ofKind_unexpectedClose f lines
      have h2 := ofKind_unclosed_bracketFindings f lines
      rw [h] at h1 h2
      have hc := List.map_eq_nil_iff.mp h1.symm
      have ho := List.map_eq_nil_iff.mp h2.symm
      exact ⟨List.reverse_eq_nil_iff.mp hc, List.reverse_eq_nil_iff.mp ho⟩
    · intro h
      rw [List.eq_nil_iff_forall_not_mem]
      intro d hd
      rw [mem_bracketFindings] at hd
      obtain ⟨f, hd | hd⟩ := hd
      · rw [ofKind_unexpectedClose, (h f).1] at hd
        cases hd
      · rw [ofKind_unclosed_bracketFindings, (h f).2] at hd
        cases hd

end ScriptBalance
