-- The order in which a check hands over its findings: the closing brackets that
-- close nothing, then the braces and then the parentheses that nothing closes,
-- each group in the order of the positions, and then the patterns line by line.
-- No bracket and no pattern of a line is found twice.
import ScriptBalance.Proofs.Segments
import ScriptBalance.Proofs.Outside
import ScriptBalance.Proofs.Streaming

namespace ScriptBalance

/-! ## Where a finding about a bracket stands -/

namespace Finding

/-- The position of a finding that has a column. -/
def pos? (d : Finding) : Option Position := d.column.map fun column => ⟨d.line, column⟩

/-- Two findings about brackets, the first of which stands before the second. -/
def Before (a b : Finding) : Prop := ∃ p q, a.pos? = some p ∧ b.pos? = some q ∧ p < q

theorem Before.pos?_ne {a b : Finding} (h : a.Before b) : a.pos? ≠ b.pos? := by
  obtain ⟨p, q, ha, hb, hlt⟩ := h
  intro heq
  rw [ha, hb] at heq
  cases heq
  exact Position.lt_irrefl p hlt

/-- A finding stands at a character of a script. -/
def StandsAt (lines : List String) (c : Char) (d : Finding) : Prop :=
  ∃ cell ∈ cells lines, d.pos? = some cell.pos ∧ cell.char = c

/-- Findings of different characters stand at different positions. -/
theorem StandsAt.pos?_ne {lines : List String} {c c' : Char} {a b : Finding}
    (ha : a.StandsAt lines c) (hb : b.StandsAt lines c') (h : c ≠ c') : a.pos? ≠ b.pos? := by
  obtain ⟨x, hx, hxa, rfl⟩ := ha
  obtain ⟨y, hy, hyb, rfl⟩ := hb
  intro heq
  rw [hxa, hyb] at heq
  injection heq with hpos
  exact h (congrArg Cell.char (eq_of_mem_cells hx hy hpos))

end Finding

/-! ## The groups of findings about brackets -/

/-- The findings of a scan stand at some of its cells, in order. -/
theorem Scan.positions_findings (s : Scan) (cells : List Cell) :
    ((s.findings cells).map Finding.pos?).Sublist (cells.map fun cell => some cell.pos) := by
  induction cells generalizing s with
  | nil => exact List.Sublist.slnil
  | cons cell rest ih =>
    rw [findings, List.map_append, List.map_cons]
    cases h : s.finding? cell with
    | none => exact (ih _).cons _
    | some d =>
      obtain ⟨f, rfl, -⟩ := of_finding? h
      exact (ih _).cons_cons _

/-- The closing brackets that close nothing. -/
def unopenedFindings (lines : List String) : List Finding := Scan.findings {} (cells lines)

/-- The opening brackets of a family that nothing closes. -/
def unclosedFindings (f : Family) (lines : List String) : List Finding :=
  (Factorisation.ofWord (marks f lines)).unclosed.reverse.map fun cell => .unclosed f cell.pos

theorem bracketFindings_eq (lines : List String) :
    bracketFindings lines = unopenedFindings lines ++ unclosedFindings .brace lines
      ++ unclosedFindings .parenthesis lines := by
  unfold bracketFindings Scan.unclosed unclosedFindings unopenedFindings
  rw [Family.all, List.flatMap_cons, List.flatMap_singleton, Scan.stack_after_cells,
    Scan.stack_after_cells, List.map_map, List.map_map, List.append_assoc]
  rfl

theorem unopenedFindings_sorted (lines : List String) :
    (unopenedFindings lines).Pairwise Finding.Before := by
  have hcells : ((cells lines).map fun cell => some cell.pos).Pairwise
      fun a b => ∃ p q, a = some p ∧ b = some q ∧ p < q := by
    rw [List.pairwise_map]
    exact (cells_sorted lines).imp fun h => ⟨_, _, rfl, rfl, h⟩
  have h := hcells.sublist (Scan.positions_findings {} (cells lines))
  rwa [List.pairwise_map] at h

theorem unclosedFindings_sorted (f : Family) (lines : List String) :
    (unclosedFindings f lines).Pairwise Finding.Before := by
  unfold unclosedFindings
  rw [List.pairwise_map]
  exact (unclosed_sorted f lines).imp fun h => ⟨_, _, rfl, rfl, h⟩

theorem unopenedFindings_standAt {lines : List String} {d : Finding}
    (h : d ∈ unopenedFindings lines) :
    ∃ f : Family, d.kind = .unexpectedClose f ∧ d.StandsAt lines f.closer := by
  obtain ⟨f, cell, hcell, rfl, hchar⟩ := Scan.of_mem_findings h
  exact ⟨f, rfl, cell, hcell, rfl, hchar⟩

theorem unclosedFindings_standAt {f : Family} {lines : List String} {d : Finding}
    (h : d ∈ unclosedFindings f lines) : d.kind = .unclosed f ∧ d.StandsAt lines f.opener := by
  unfold unclosedFindings at h
  rw [List.mem_map] at h
  obtain ⟨cell, hcell, rfl⟩ := h
  rw [List.mem_reverse, Factorisation.mem_unclosed] at hcell
  obtain ⟨i, hi, -⟩ := hcell
  have hmark := List.mem_of_getElem? hi
  exact ⟨rfl, cell, mem_cells_of_mem_marks hmark, rfl, char_of_mem_marks hmark⟩

/-- No two findings about brackets have one position. -/
theorem bracketFindings_apart (lines : List String) :
    (bracketFindings lines).Pairwise fun a b => a.pos? ≠ b.pos? := by
  have hchars : ∀ f g : Family, f.closer ≠ g.opener := by
    intro f g
    cases f <;> cases g <;> decide
  rw [bracketFindings_eq, List.pairwise_append, List.pairwise_append]
  refine ⟨⟨(unopenedFindings_sorted lines).imp Finding.Before.pos?_ne,
    (unclosedFindings_sorted .brace lines).imp Finding.Before.pos?_ne, ?_⟩,
    (unclosedFindings_sorted .parenthesis lines).imp Finding.Before.pos?_ne, ?_⟩
  · intro a ha b hb
    obtain ⟨f, -, hf⟩ := unopenedFindings_standAt ha
    exact hf.pos?_ne (unclosedFindings_standAt hb).2 (hchars f .brace)
  · intro a ha b hb
    have hb := (unclosedFindings_standAt hb).2
    rcases List.mem_append.mp ha with ha | ha
    · obtain ⟨f, -, hf⟩ := unopenedFindings_standAt ha
      exact hf.pos?_ne hb (hchars f .parenthesis)
    · exact (unclosedFindings_standAt ha).2.pos?_ne hb (by decide)

/-! ## The findings about patterns -/

/-- Two findings about patterns in their order: by lines, and on one line the
backtick first. -/
def Finding.PatternBefore (a b : Finding) : Prop :=
  a.line < b.line ∨ a.line = b.line ∧ a.kind = .backtick ∧ b.kind = .backslash

theorem Finding.PatternBefore.ne {a b : Finding} (h : a.PatternBefore b) :
    (a.kind, a.line) ≠ (b.kind, b.line) := by
  intro heq
  injection heq with hkind hline
  rcases h with h | ⟨-, ha, hb⟩
  · omega
  · rw [ha, hb] at hkind
    cases hkind

theorem of_mem_linePatterns {num : Nat} {line : String} {d : Finding}
    (h : d ∈ linePatterns num line) : d = .backtick num line ∨ d = .backslash num line := by
  unfold linePatterns at h
  rcases List.mem_append.mp h with h | h
  · split at h
    · exact Or.inl (List.mem_singleton.mp h)
    · cases h
  · split at h
    · exact Or.inr (List.mem_singleton.mp h)
    · cases h

/-- A finding about a pattern is one of a line of the script. -/
theorem of_mem_patternFindings {lines : List String} {d : Finding} (h : d ∈ patternFindings lines) :
    ∃ num, ∃ line ∈ lines, d = .backtick num line ∨ d = .backslash num line := by
  unfold patternFindings at h
  obtain ⟨⟨line, num⟩, hline, h⟩ := List.mem_flatMap.mp h
  exact ⟨num, line, List.fst_mem_of_mem_zipIdx hline, of_mem_linePatterns h⟩

theorem linePatterns_sorted (num : Nat) (line : String) :
    (linePatterns num line).Pairwise Finding.PatternBefore := by
  have hpair : (Finding.backtick num line).PatternBefore (.backslash num line) :=
    Or.inr ⟨rfl, rfl, rfl⟩
  unfold linePatterns
  cases hasBacktick line <;> cases hasBackslash line <;> simp [hpair]

theorem patternFindings_sorted (lines : List String) :
    (patternFindings lines).Pairwise Finding.PatternBefore := by
  unfold patternFindings
  rw [List.pairwise_flatMap]
  refine ⟨fun _ _ => linePatterns_sorted _ _, (zipIdx_sorted lines 1).imp ?_⟩
  intro a b hab x hx y hy
  rcases of_mem_linePatterns hx with rfl | rfl <;> rcases of_mem_linePatterns hy with rfl | rfl
  all_goals exact Or.inl hab

/-! ## The laws -/

/-- A check hands over four groups of findings, one after the other: closing
brackets of both families that close nothing, opening braces that nothing
closes, opening parentheses that nothing closes, and patterns. Each group is in
strict order. No two findings about brackets have one position, and no two
findings about patterns have one kind and one line. -/
theorem a_check_hands_over_four_groups_in_order (source : Source) :
    ∃ early braces parentheses patterns summary last,
      check Recorder.take source { sink := {} } = .ok summary last ∧
      last.sink.entries.toList = entriesWith (early ++ braces ++ parentheses) patterns ∧
      (∀ d ∈ early, ∃ f, d.kind = .unexpectedClose f) ∧
      (∀ d ∈ braces, d.kind = .unclosed .brace) ∧
      (∀ d ∈ parentheses, d.kind = .unclosed .parenthesis) ∧
      (∀ d ∈ patterns, d.kind = .backtick ∨ d.kind = .backslash) ∧
      early.Pairwise Finding.Before ∧ braces.Pairwise Finding.Before ∧
      parentheses.Pairwise Finding.Before ∧ patterns.Pairwise Finding.PatternBefore ∧
      (∀ d ∈ early ++ braces ++ parentheses, d.pos?.isSome) ∧
      (early ++ braces ++ parentheses).Pairwise (fun a b => a.pos? ≠ b.pos?) ∧
      patterns.Pairwise fun a b => (a.kind, a.line) ≠ (b.kind, b.line) := by
  obtain ⟨last, hcheck, hlast⟩ := check_take source
  have hgroups := bracketFindings_eq source.lines
  refine ⟨unopenedFindings source.lines, unclosedFindings .brace source.lines,
    unclosedFindings .parenthesis source.lines, patternFindings source.lines, _, last, hcheck,
    ?_, ?_, fun _ h => (unclosedFindings_standAt h).1, fun _ h => (unclosedFindings_standAt h).1,
    ?_, unopenedFindings_sorted _, unclosedFindings_sorted _ _, unclosedFindings_sorted _ _,
    patternFindings_sorted _, ?_, ?_,
    (patternFindings_sorted _).imp Finding.PatternBefore.ne⟩
  · rw [hlast, Source.entries, hgroups]
    rfl
  · intro d hd
    obtain ⟨f, hf, -⟩ := unopenedFindings_standAt hd
    exact ⟨f, hf⟩
  · intro d hd
    obtain ⟨num, line, -, rfl | rfl⟩ := of_mem_patternFindings hd
    · exact Or.inl rfl
    · exact Or.inr rfl
  · have hplace : ∀ {c : Char} {d : Finding}, d.StandsAt source.lines c → d.pos?.isSome := by
      rintro c d ⟨cell, -, hd, -⟩
      rw [hd]
      rfl
    intro d hd
    rcases List.mem_append.mp hd with hd | hd
    · rcases List.mem_append.mp hd with hd | hd
      · obtain ⟨f, -, hf⟩ := unopenedFindings_standAt hd
        exact hplace hf
      · exact hplace (unclosedFindings_standAt hd).2
    · exact hplace (unclosedFindings_standAt hd).2
  · rw [← hgroups]
    exact bracketFindings_apart source.lines

end ScriptBalance
