-- How much a check can find. Each finding is charged to a character of its own: a
-- bracket, a backtick or a quote. Each line is charged to its end, or to the
-- characters of a last line that has no end. So a text has no more findings and no
-- more lines than characters.
import ScriptBalance.Proofs.Counting
import ScriptBalance.Proofs.Extension

namespace ScriptBalance

/-! ## The lines of a text -/

theorem length_linesFrom (line chars : List Char) :
    (linesFrom line chars).length ≤ line.length + chars.length ∧
      (linesFrom line chars).flatten.length ≤ line.length + chars.length := by
  fun_induction linesFrom line chars with
  | case1 line h => simp
  | case2 line h =>
    have hpos := List.length_pos_iff.mpr (mt List.isEmpty_iff.mpr h)
    simp
    omega
  | case3 line rest ih =>
    simp at ih ⊢
    omega
  | case4 line rest ih =>
    simp at ih ⊢
    omega
  | case5 line rest hrest ih =>
    simp at ih ⊢
    omega
  | case6 line c rest hn hrn hr ih =>
    simp at ih ⊢
    omega

/-- The characters of all lines. -/
def characters (lines : List String) : List Char := lines.flatMap String.toList

theorem length_splitLines_le (text : String) : (splitLines text).length ≤ text.length := by
  have h := (length_linesFrom [] text.toList).1
  simpa [splitLines, String.length_toList] using h

theorem length_characters_le (text : String) :
    (characters (splitLines text)).length ≤ text.length := by
  have h := (length_linesFrom [] text.toList).2
  simpa [characters, splitLines, List.flatMap_map, List.flatMap_def, String.length_toList] using h

theorem length_le_characters {lines : List String} {line : String} (h : line ∈ lines) :
    line.length ≤ (characters lines).length := by
  rw [← String.length_toList]
  exact (List.sublist_flatten_of_mem (List.mem_map_of_mem h)).length_le

/-! ## The characters that findings are charged to -/

def chargesBracket (c : Char) : Bool := (Bracket.ofChar? c).isSome

def chargesBacktick (c : Char) : Bool := c = escapeChar

def chargesMarker (c : Char) : Bool := (Quote.ofChar? c).isSome

/-- No character is charged twice. -/
theorem charges_apart (c : Char) :
    (if chargesBracket c then 1 else 0) + (if chargesBacktick c then 1 else 0)
      + (if chargesMarker c then 1 else 0) ≤ 1 := by
  cases hbracket : Bracket.ofChar? c with
  | some b =>
    rw [Bracket.ofChar?_eq_some_iff] at hbracket
    subst hbracket
    rcases b with f | f <;> cases f <;> decide
  | none =>
    by_cases hescape : c = escapeChar
    · subst hescape
      decide
    · have hone : (if chargesMarker c then 1 else 0) ≤ 1 := by split <;> omega
      simpa [chargesBracket, hbracket, chargesBacktick, hescape] using hone

theorem countP_charges (chars : List Char) :
    chars.countP chargesBracket + chars.countP chargesBacktick + chars.countP chargesMarker
      ≤ chars.length := by
  induction chars with
  | nil => exact Nat.le_refl 0
  | cons c rest ih =>
    have hapart := charges_apart c
    simp only [List.countP_cons, List.length_cons]
    omega

/-! ## The findings about brackets -/

namespace Scan

theorem charges_of_bracket? {s : Scan} {cell : Cell} {b : Bracket} (h : s.bracket? cell = some b) :
    chargesBracket cell.char = true := by
  unfold bracket? at h
  split at h
  · cases h
  · rw [chargesBracket, h]
    rfl

theorem length_unclosed_setStack (s : Scan) (t : OpenStack) (f : Family) :
    (s.setStack t f).unclosed.length + (s.stack f).size = s.unclosed.length + t.size := by
  rw [length_unclosed, length_unclosed]
  cases f <;> simp [setStack, stack] <;> omega

theorem length_finding?_le (s : Scan) (cell : Cell) : (s.finding? cell).toList.length ≤ 1 := by
  cases s.finding? cell <;> simp

/-- An opener is charged when it is read, and a closer when it closes nothing. A closer
that closes an opener sets a charge free. -/
theorem length_next_le (s : Scan) (cell : Cell) :
    (s.finding? cell).toList.length + (s.next cell).unclosed.length
      ≤ s.unclosed.length + if chargesBracket cell.char then 1 else 0 := by
  have hfinding := s.length_finding?_le cell
  have hquote : ({ s with quote := s.quoteAfter cell } : Scan).unclosed = s.unclosed := rfl
  unfold next
  rcases hbracket : s.bracket? cell with _ | f | f
  · simp [finding?, hbracket, meet, hquote]
  · have hset := length_unclosed_setStack { s with quote := s.quoteAfter cell }
      ((s.stack f).push cell.pos) f
    rw [charges_of_bracket? hbracket]
    simp [finding?, hbracket, meet, hquote, OpenStack.size, OpenStack.push] at hset ⊢
    omega
  · have hset := length_unclosed_setStack { s with quote := s.quoteAfter cell } (s.stack f).pop f
    rw [charges_of_bracket? hbracket]
    simp [meet, hquote, OpenStack.size, OpenStack.pop] at hset ⊢
    omega

theorem length_findings_le (s : Scan) (l : List Cell) :
    (s.findings l).length + (s.after l).unclosed.length
      ≤ s.unclosed.length + l.countP (chargesBracket ·.char) := by
  induction l generalizing s with
  | nil => simp [findings]
  | cons cell rest ih =>
    have hcell := s.length_next_le cell
    have hrest := ih (s.next cell)
    have hafter : s.after (cell :: rest) = (s.next cell).after rest := rfl
    simp only [findings, List.length_append, hafter, List.countP_cons]
    omega

end Scan

theorem map_char_cells (lines : List String) : (cells lines).map Cell.char = characters lines := by
  unfold cells characters
  rw [List.map_flatMap]
  simp only [map_char_lineCells]
  rw [← List.flatMap_map, List.zipIdx_map_fst]

theorem length_bracketFindings_le (lines : List String) :
    (bracketFindings lines).length ≤ (characters lines).countP chargesBracket := by
  have h := Scan.length_findings_le {} (cells lines)
  have hempty : ({} : Scan).unclosed.length = 0 := rfl
  unfold bracketFindings
  rw [List.length_append, ← map_char_cells, List.countP_map]
  rw [hempty, Nat.zero_add] at h
  exact h

/-! ## The findings about patterns -/

theorem exists_quote_of_containsMarker {chars : List Char} (h : containsMarker chars = true) :
    ∃ c ∈ chars, chargesMarker c = true := by
  induction chars with
  | nil => cases h
  | cons c rest ih =>
    rw [containsMarker, Bool.or_eq_true] at h
    rcases h with h | h
    · have hquote : c = Quote.double.char ∨ c = Quote.single.char := by
        simp [startsWithMarker, backslashMarker, List.isPrefixOf] at h
        rcases h with h | h
        · exact Or.inl h.1.symm
        · exact Or.inr h.1.symm
      refine ⟨c, List.mem_cons_self, ?_⟩
      rcases hquote with rfl | rfl <;> decide
    · obtain ⟨d, hd, hcharges⟩ := ih h
      exact ⟨d, List.mem_cons_of_mem c hd, hcharges⟩

theorem length_linePatterns_le (num : Nat) (line : String) :
    (linePatterns num line).length
      ≤ line.toList.countP chargesBacktick + line.toList.countP chargesMarker := by
  unfold linePatterns
  rw [List.length_append]
  apply Nat.add_le_add
  · split
    · rename_i h
      apply List.countP_pos_iff.mpr
      exact ⟨escapeChar, by simpa [hasBacktick] using h, by decide⟩
    · exact Nat.zero_le _
  · split
    · rename_i h
      exact List.countP_pos_iff.mpr (exists_quote_of_containsMarker h)
    · exact Nat.zero_le _

theorem length_patternFindings_le (lines : List String) :
    (patternFindings lines).length
      ≤ (characters lines).countP chargesBacktick + (characters lines).countP chargesMarker := by
  unfold patternFindings
  generalize 1 = num
  induction lines generalizing num with
  | nil => simp
  | cons line rest ih =>
    have hline := length_linePatterns_le num line
    have hrest := ih (num + 1)
    simp only [List.zipIdx_cons, List.flatMap_cons, List.length_append, characters,
      List.countP_append] at hrest ⊢
    omega

/-! ## The bounds -/

/-- A text has no more findings than characters. -/
theorem length_allFindings_le (text : String) :
    (bracketFindings (splitLines text)).length + (patternFindings (splitLines text)).length
      ≤ text.length := by
  have hbracket := length_bracketFindings_le (splitLines text)
  have hpattern := length_patternFindings_le (splitLines text)
  have hcharges := countP_charges (characters (splitLines text))
  have hlength := length_characters_le text
  omega

theorem exists_standsAt {lines : List String} {d : Finding} (h : d ∈ bracketFindings lines) :
    ∃ c, d.StandsAt lines c := by
  rw [bracketFindings_eq, List.mem_append, List.mem_append] at h
  rcases h with (h | h) | h
  · obtain ⟨f, -, hstands⟩ := unopenedFindings_standAt h
    exact ⟨_, hstands⟩
  · exact ⟨_, (unclosedFindings_standAt h).2⟩
  · exact ⟨_, (unclosedFindings_standAt h).2⟩

theorem Finding.StandsAt.column {lines : List String} {c : Char} {d : Finding}
    (h : d.StandsAt lines c) : ∀ column ∈ d.column, column < (characters lines).length := by
  obtain ⟨cell, hcell, hpos, -⟩ := h
  intro column hcolumn
  unfold Finding.pos? at hpos
  rw [hcolumn] at hpos
  injection hpos with hpos
  have hsame : column = cell.pos.column := congrArg Position.column hpos
  rw [mem_cells] at hcell
  have hline := length_le_characters (List.mem_of_getElem? hcell.line)
  have hlt := (List.getElem?_eq_some_iff.mp hcell.char).1
  rw [String.length_toList, ← hsame] at hlt
  exact Nat.lt_of_lt_of_le hlt hline

theorem place_of_mem_patternFindings {lines : List String} {d : Finding}
    (h : d ∈ patternFindings lines) : (0 < d.line ∧ d.line ≤ lines.length) ∧ d.column = none := by
  unfold patternFindings at h
  obtain ⟨⟨line, num⟩, hline, h⟩ := List.mem_flatMap.mp h
  rw [List.mk_mem_zipIdx_iff_le_and_getElem?_sub] at hline
  have hlt := (List.getElem?_eq_some_iff.mp hline.2).1
  have hnum : 0 < num ∧ num ≤ lines.length := by omega
  rcases of_mem_linePatterns h with rfl | rfl
  · exact ⟨hnum, rfl⟩
  · exact ⟨hnum, rfl⟩

/-- A finding is on one of the lines, and its column, if it has one, is smaller than the
number of characters of the text. -/
theorem place_of_mem_findings {text : String} {d : Finding}
    (h : d ∈ bracketFindings (splitLines text) ++ patternFindings (splitLines text)) :
    (0 < d.line ∧ d.line ≤ (splitLines text).length) ∧
      ∀ column ∈ d.column, column < text.length := by
  rcases List.mem_append.mp h with h | h
  · obtain ⟨c, hstands⟩ := exists_standsAt h
    refine ⟨hstands.line, ?_⟩
    intro column hcolumn
    exact Nat.lt_of_lt_of_le (hstands.column column hcolumn) (length_characters_le text)
  · obtain ⟨hline, hnone⟩ := place_of_mem_patternFindings h
    refine ⟨hline, ?_⟩
    rw [hnone]
    exact nofun

end ScriptBalance
