-- The patterns of a script. The search for a marker finds it wherever it stands on
-- a line, and the findings are told by the lines alone: which of them hold a
-- backtick and which of them hold a marker. The bracket pass has no say in it.
import ScriptBalance.Proofs.Order

namespace ScriptBalance

/-! ## Markers on a line -/

/-- A quote, a dot and two backslashes stand in a row somewhere on the line. -/
def HasMarker (line : String) : Prop :=
  ∃ (q : Quote) (before behind : List Char),
    line.toList = before ++ [q.char, '.', '\\', '\\'] ++ behind

theorem startsWithMarker_iff (chars : List Char) :
    startsWithMarker chars = true ↔ ∃ q, backslashMarker q <+: chars := by
  unfold startsWithMarker
  rw [Bool.or_eq_true, List.isPrefixOf_iff_prefix, List.isPrefixOf_iff_prefix]
  constructor
  · rintro (h | h)
    · exact ⟨.double, h⟩
    · exact ⟨.single, h⟩
  · rintro ⟨q, h⟩
    cases q with
    | single => exact Or.inr h
    | double => exact Or.inl h

/-- The search tries each place, so it misses no marker, and it finds nothing else. -/
theorem containsMarker_iff (chars : List Char) :
    containsMarker chars = true ↔ ∃ q, backslashMarker q <:+: chars := by
  induction chars with
  | nil => simp [containsMarker, backslashMarker]
  | cons c rest ih =>
    rw [containsMarker, Bool.or_eq_true, startsWithMarker_iff, ih, ← exists_or]
    simp only [List.infix_cons_iff]

theorem hasBackslash_iff (line : String) : hasBackslash line = true ↔ HasMarker line := by
  unfold hasBackslash HasMarker
  rw [containsMarker_iff]
  constructor
  · rintro ⟨q, before, behind, h⟩
    exact ⟨q, before, behind, h.symm⟩
  · rintro ⟨q, before, behind, h⟩
    exact ⟨q, before, behind, h.symm⟩

instance (line : String) : Decidable (HasMarker line) :=
  decidable_of_iff _ (hasBackslash_iff line)

theorem hasBacktick_iff (line : String) : hasBacktick line = true ↔ escapeChar ∈ line.toList := by
  unfold hasBacktick
  exact List.contains_iff_mem

-- a marker behind the start of another one, with nothing behind it
example : HasMarker "é\".\\\x27.\\\\" ∧ ¬ HasMarker "\"..\\\\ \".\\" := by decide

/-! ## The findings of the lines -/

theorem mem_linePatterns (num : Nat) (line : String) (d : Finding) :
    d ∈ linePatterns num line ↔
      escapeChar ∈ line.toList ∧ d = .backtick num line ∨
        HasMarker line ∧ d = .backslash num line := by
  unfold linePatterns
  rw [List.mem_append, ← hasBacktick_iff, ← hasBackslash_iff]
  by_cases h1 : hasBacktick line = true <;> by_cases h2 : hasBackslash line = true <;>
    simp [h1, h2]

/-- A finding about a pattern tells of a line what stands on it. -/
theorem mem_patternFindings (lines : List String) (d : Finding) :
    d ∈ patternFindings lines ↔ ∃ i line, lines[i]? = some line ∧
      (escapeChar ∈ line.toList ∧ d = .backtick (i + 1) line ∨
        HasMarker line ∧ d = .backslash (i + 1) line) := by
  unfold patternFindings
  rw [List.mem_flatMap]
  constructor
  · rintro ⟨⟨line, num⟩, hline, hd⟩
    rw [List.mk_mem_zipIdx_iff_le_and_getElem?_sub] at hline
    rw [mem_linePatterns] at hd
    refine ⟨num - 1, line, hline.2, ?_⟩
    rwa [Nat.sub_add_cancel hline.1]
  · rintro ⟨i, line, hline, hd⟩
    refine ⟨(line, i + 1), ?_, (mem_linePatterns _ _ _).mpr hd⟩
    rw [List.mk_mem_zipIdx_iff_le_and_getElem?_sub]
    exact ⟨Nat.le_add_left 1 i, hline⟩

/-! ## The laws -/

/-- The pattern pass finds a backtick on each line that has one and a marker on each
line that has one, and nothing else, line by line and the backtick first. That does
not depend on the strings and brackets that are open, nor on the sink, which gets
these findings in this order and in a check gets them behind the start of their
section. -/
theorem the_patterns_are_told_by_each_line_alone (lines : List String) :
    ∃ found : List Finding,
      (∀ d, d ∈ found ↔ ∃ i line, lines[i]? = some line ∧
        (escapeChar ∈ line.toList ∧ d = .backtick (i + 1) line ∨
          HasMarker line ∧ d = .backslash (i + 1) line)) ∧
      found.Pairwise Finding.PatternBefore ∧
      ∃ brackets, collect (bracketPass Recorder.take lines) = .ok (brackets.length, brackets) ∧
        ∀ {σ ε : Type} (sink : Sink σ ε) (session : Session σ) (path : Option String),
          onSink (patternPass sink lines session)
              = (do
                  (found.map .finding).forM sink
                  return found.length : EStateM ε σ Nat)
                session.sink ∧
            onSink (check sink { path, lines } session)
              = (do
                  (entriesWith brackets found).forM sink
                  return ⟨lines.length, brackets.length, found.length⟩ : EStateM ε σ Summary)
                session.sink := by
  refine ⟨patternFindings lines, mem_patternFindings lines, patternFindings_sorted lines,
    bracketFindings lines, collect_bracketPass lines, ?_⟩
  intro σ ε sink session path
  have hpatterns := (streams_patternPass sink session.scan lines).onSink_eq
  have hcheck := (performs_check sink session.scan { path, lines }).onSink_eq
  rw [entriesOf_patternActions, List.length_map] at hpatterns
  rw [entriesOf_checkActions] at hcheck
  exact ⟨hpatterns, hcheck⟩

end ScriptBalance
