-- Lines behind a script. More lines add findings and take openers away, but they
-- retract none of the findings about closing brackets. What is still open at the
-- end of the script gets closed from the inside out, so the openers of the script
-- that stay open are the outer ones.
import ScriptBalance.Proofs.Insertion
import ScriptBalance.Proofs.Order

namespace ScriptBalance

/-! ## The line of a finding -/

theorem Finding.StandsAt.line {lines : List String} {c : Char} {d : Finding}
    (h : d.StandsAt lines c) : 0 < d.line ∧ d.line ≤ lines.length := by
  obtain ⟨cell, hcell, hpos, -⟩ := h
  unfold Finding.pos? at hpos
  obtain ⟨column, -, hpos⟩ := Option.map_eq_some_iff.mp hpos
  have hline : d.line = cell.pos.line := congrArg Position.line hpos
  rw [hline]
  exact line_of_mem_cells hcell

/-! ## The words of a longer script -/

/-- The cells of the lines `b` behind the lines `a`. -/
def cellsBehind (a b : List String) : List Cell := (cells b).map (Cell.renumber (a.length + ·))

theorem line_of_mem_cellsBehind {a b : List String} {cell : Cell} (h : cell ∈ cellsBehind a b) :
    a.length < cell.pos.line := by
  unfold cellsBehind at h
  obtain ⟨c, hc, rfl⟩ := List.mem_map.mp h
  have hline := (line_of_mem_cells hc).1
  show a.length < a.length + c.pos.line
  omega

/-- The brackets of a family at more cells stand behind those at the first ones. -/
theorem marksFrom_append (s : Scan) (f : Family) (l m : List Cell) :
    marksFrom f s.quote (l ++ m) = marksFrom f s.quote l ++ marksFrom f (s.after l).quote m := by
  induction l generalizing s with
  | nil => rfl
  | cons cell rest ih =>
    rw [List.cons_append, Scan.marksFrom_cons, Scan.marksFrom_cons, ih, List.append_assoc]
    rfl

theorem mem_of_mem_marksFrom {f : Family} {s : Scan} {l : List Cell} {m : Mark Cell}
    (h : m ∈ marksFrom f s.quote l) : m.item ∈ l := by
  unfold marksFrom at h
  obtain ⟨cell, hcell, hmark⟩ := List.mem_filterMap.mp h
  unfold Cell.mark? at hmark
  obtain ⟨side, -, rfl⟩ := Option.map_eq_some_iff.mp hmark
  exact (Scan.outside_sublist s l).subset hcell

theorem marks_append (f : Family) (a b : List String) :
    ∃ w, marks f (a ++ b) = marks f a ++ w ∧ ∀ m ∈ w, a.length < m.item.pos.line := by
  refine ⟨marksFrom f (Scan.after {} (cells a)).quote (cellsBehind a b), ?_, ?_⟩
  · unfold marks
    rw [cells_append]
    exact marksFrom_append {} f (cells a) (cellsBehind a b)
  · intro m hm
    exact line_of_mem_cellsBehind (mem_of_mem_marksFrom hm)

/-! ## The findings about a longer script -/

/-- More lines only add findings about closing brackets. -/
theorem unopenedFindings_append (a b : List String) :
    ∃ new, unopenedFindings (a ++ b) = unopenedFindings a ++ new ∧
      ∀ d ∈ new, a.length < d.line := by
  refine ⟨(Scan.after {} (cells a)).findings (cellsBehind a b), ?_, ?_⟩
  · unfold unopenedFindings
    rw [cells_append]
    exact Scan.findings_append {} (cells a) (cellsBehind a b)
  · intro d hd
    obtain ⟨f, cell, hcell, rfl, -⟩ := Scan.of_mem_findings hd
    exact line_of_mem_cellsBehind hcell

/-- More lines close openers from the inside out, and leave some of their own. -/
theorem unclosedFindings_append (f : Family) (a b : List String) :
    ∃ old new, unclosedFindings f (a ++ b) = old ++ new ∧ old <+: unclosedFindings f a ∧
      ∀ d ∈ new, a.length < d.line := by
  obtain ⟨w, hw, hline⟩ := marks_append f a b
  let closed := (Factorisation.ofWord w).unopened.length
  let outer := (Factorisation.ofWord (marks f a)).unclosed.drop closed
  refine ⟨outer.reverse.map fun cell => .unclosed f cell.pos,
    (Factorisation.ofWord w).unclosed.reverse.map fun cell => .unclosed f cell.pos, ?_, ?_, ?_⟩
  · have hword : Factorisation.ofWord (marks f (a ++ b))
        = (Factorisation.ofWord (marks f a)).readAll w := by
      rw [hw]
      exact Factorisation.readAll_append {} (marks f a) w
    unfold unclosedFindings
    rw [hword, Factorisation.unclosed_readAll, List.reverse_append, List.map_append]
  · have hsuffix : outer <:+ (Factorisation.ofWord (marks f a)).unclosed := List.drop_suffix _ _
    exact (List.reverse_prefix.mpr hsuffix).map _
  · intro d hd
    obtain ⟨cell, hcell, rfl⟩ := List.mem_map.mp hd
    have hmem := (Factorisation.unclosed_sublist w).subset hcell
    obtain ⟨m, hm, rfl⟩ := List.mem_map.mp hmem
    exact hline m hm

/-! ## The laws -/

/-- The findings about closing brackets that close nothing, of both families. -/
def unexpectedCloses (found : List Finding) : List Finding :=
  found.filter fun d => d.kind matches .unexpectedClose _

theorem unexpectedCloses_bracketFindings (lines : List String) :
    unexpectedCloses (bracketFindings lines) = unopenedFindings lines := by
  have hkeep : ∀ d ∈ unopenedFindings lines, d.kind matches .unexpectedClose _ := by
    intro d hd
    obtain ⟨f, hf, -⟩ := unopenedFindings_standAt hd
    simp [hf]
  have hdrop : ∀ f, ∀ d ∈ unclosedFindings f lines, ¬ d.kind matches .unexpectedClose _ := by
    intro f d hd
    simp [(unclosedFindings_standAt hd).1]
  unfold unexpectedCloses
  rw [bracketFindings_eq, List.filter_append, List.filter_append, List.filter_eq_self.mpr hkeep,
    List.filter_eq_nil_iff.mpr (hdrop .brace), List.filter_eq_nil_iff.mpr (hdrop .parenthesis),
    List.append_nil, List.append_nil]

theorem ofKind_unclosed_eq (f : Family) (lines : List String) :
    ofKind (.unclosed f) (bracketFindings lines) = unclosedFindings f lines :=
  ofKind_unclosed_bracketFindings f lines

/-- The findings on the first lines are the first findings, if the others come later. -/
theorem filter_line_append {old new : List Finding} {n : Nat} (hold : ∀ d ∈ old, d.line ≤ n)
    (hnew : ∀ d ∈ new, n < d.line) : (old ++ new).filter (·.line ≤ n) = old := by
  rw [List.filter_append, List.filter_eq_self.mpr, List.filter_eq_nil_iff.mpr, List.append_nil]
  · intro d hd
    simpa using hnew d hd
  · intro d hd
    simpa using hold d hd

/-- Later lines retract nothing. The closing brackets that a script leaves without a
partner are found first of those of the longer script, and they are all that it has
on the lines of the script. Of the opening brackets that the script leaves open, the
longer script leaves the outer ones open, and no others on these lines. -/
theorem later_lines_retract_no_finding (a b : List String) :
    ∃ found all, collect (bracketPass Recorder.take a) = .ok (found.length, found) ∧
      collect (bracketPass Recorder.take (a ++ b)) = .ok (all.length, all) ∧
      unexpectedCloses found <+: unexpectedCloses all ∧
      (unexpectedCloses all).filter (·.line ≤ a.length) = unexpectedCloses found ∧
      ∀ f, (ofKind (.unclosed f) all).filter (·.line ≤ a.length)
        <+: ofKind (.unclosed f) found := by
  refine ⟨bracketFindings a, bracketFindings (a ++ b), collect_bracketPass a,
    collect_bracketPass (a ++ b), ?_, ?_, ?_⟩
  · obtain ⟨new, happend, -⟩ := unopenedFindings_append a b
    rw [unexpectedCloses_bracketFindings, unexpectedCloses_bracketFindings, happend]
    exact List.prefix_append _ _
  · obtain ⟨new, happend, hnew⟩ := unopenedFindings_append a b
    rw [unexpectedCloses_bracketFindings, unexpectedCloses_bracketFindings, happend]
    apply filter_line_append _ hnew
    intro d hd
    obtain ⟨f, -, hstands⟩ := unopenedFindings_standAt hd
    exact hstands.line.2
  · intro f
    obtain ⟨old, new, happend, hold, hnew⟩ := unclosedFindings_append f a b
    rw [ofKind_unclosed_eq, ofKind_unclosed_eq, happend]
    rw [filter_line_append _ hnew]
    · exact hold
    · intro d hd
      exact (unclosedFindings_standAt (hold.subset hd)).2.line.2

-- the second line closes the inner brace, and the outer one stays open
example : (bracketFindings ["\x7b\x7b", "\x7d("]).map (·.kind)
    = [.unclosed .brace, .unclosed .parenthesis] := by decide

end ScriptBalance
