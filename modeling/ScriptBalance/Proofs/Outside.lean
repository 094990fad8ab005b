-- The brackets outside strings, as one word for each family. The scan of a
-- script reads these words: its open brackets and its early findings about a
-- family are the brackets of the word that have no partner.
import ScriptBalance.Proofs.Factorisation
import ScriptBalance.Proofs.Places
import ScriptBalance.Scan

namespace ScriptBalance

/-! ## The words of a script -/

/-- The cells outside strings, if the string of `active` is open before them.
The quote that closes a string stands outside it. -/
def outside (active : Option Quote) : List Cell → List Cell
  | [] => []
  | cell :: rest =>
    match Quote.after active cell.prev cell.char with
    | none => cell :: outside none rest
    | some q => outside (some q) rest

/-- The side of a character in the pairs of a family. -/
def Family.side? (f : Family) (c : Char) : Option Side :=
  if c = f.opener then some .opening else if c = f.closer then some .closing else none

/-- A cell as a bracket of a family. -/
def Cell.mark? (f : Family) (cell : Cell) : Option (Mark Cell) :=
  (f.side? cell.char).map fun side => ⟨side, cell⟩

/-- The brackets of a family outside strings, in order. -/
def marksFrom (f : Family) (active : Option Quote) (cells : List Cell) : List (Mark Cell) :=
  (outside active cells).filterMap (Cell.mark? f)

/-- The brackets of a family outside strings in a script, in order. -/
def marks (f : Family) (lines : List String) : List (Mark Cell) := marksFrom f none (cells lines)

theorem Bracket.ofChar?_eq_some_iff (c : Char) (b : Bracket) :
    Bracket.ofChar? c = some b ↔ c = b.char := by
  constructor
  · intro h
    unfold Bracket.ofChar? at h
    split at h <;> cases h <;> rfl
  · rintro rfl
    exact Bracket.ofChar?_char b

/-- A bracket at a cell as a bracket of a family. -/
def Bracket.mark? (f : Family) (cell : Cell) : Bracket → Option (Mark Cell)
  | .opener g => if g = f then some ⟨.opening, cell⟩ else none
  | .closer g => if g = f then some ⟨.closing, cell⟩ else none

theorem mark?_eq (f : Family) (cell : Cell) :
    cell.mark? f = (Bracket.ofChar? cell.char).bind (Bracket.mark? f cell) := by
  unfold Cell.mark? Family.side?
  cases h : Bracket.ofChar? cell.char with
  | none =>
    have hne : ∀ b : Bracket, cell.char ≠ b.char := by
      intro b hb
      rw [(Bracket.ofChar?_eq_some_iff _ b).mpr hb] at h
      cases h
    have h1 : cell.char ≠ f.opener := hne (.opener f)
    have h2 : cell.char ≠ f.closer := hne (.closer f)
    simp [h1, h2]
  | some b =>
    rw [(Bracket.ofChar?_eq_some_iff _ b).mp h]
    rcases b with g | g <;> cases f <;> cases g <;> rfl

/-- The bracket of a family that stands on a side. -/
def Side.bracket (f : Family) : Side → Bracket
  | .opening => .opener f
  | .closing => .closer f

theorem Side.family_bracket (f : Family) (side : Side) : (side.bracket f).family = f := by
  cases side <;> rfl

theorem Family.side?_eq_some_iff (f : Family) (c : Char) (side : Side) :
    f.side? c = some side ↔ c = (side.bracket f).char := by
  have hne : f.opener ≠ f.closer := by
    cases f <;> decide
  unfold Family.side?
  by_cases ho : c = f.opener
  · cases side <;> simp [Side.bracket, Bracket.char, ho, hne]
  · cases side <;> simp [Side.bracket, Bracket.char, ho]

/-! ## Findings of one kind -/

/-- The findings of one kind. -/
def ofKind (kind : Finding.Kind) (found : List Finding) : List Finding :=
  found.filter fun d => d.kind = kind

@[simp] theorem ofKind_append (kind : Finding.Kind) (a b : List Finding) :
    ofKind kind (a ++ b) = ofKind kind a ++ ofKind kind b := by
  simp [ofKind]

@[simp] theorem mem_ofKind (kind : Finding.Kind) (found : List Finding) (d : Finding) :
    d ∈ ofKind kind found ↔ d ∈ found ∧ d.kind = kind := by
  simp [ofKind]

theorem ofKind_eq_nil {kind : Finding.Kind} {found : List Finding}
    (h : ∀ d ∈ found, d.kind ≠ kind) : ofKind kind found = [] := by
  unfold ofKind
  rw [List.filter_eq_nil_iff]
  intro d hd
  simpa using h d hd

theorem ofKind_map_unclosed (f g : Family) (l : List Position) :
    ofKind (.unclosed f) (l.map (Finding.unclosed g))
      = if g = f then l.map (Finding.unclosed f) else [] := by
  unfold ofKind
  rw [List.filter_map]
  split
  · rename_i h
    subst h
    congr 1
    exact List.filter_eq_self.mpr fun _ _ => by simp [Finding.unclosed]
  · rename_i h
    rw [List.map_eq_nil_iff, List.filter_eq_nil_iff]
    intro p _
    simpa [Finding.unclosed] using h

/-! ## What one cell does -/

namespace Scan

@[simp] theorem stack_setStack (s : Scan) (t : OpenStack) (f g : Family) :
    (s.setStack t g).stack f = if g = f then t else s.stack f := by
  cases f <;> cases g <;> rfl

@[simp] theorem quote_setStack (s : Scan) (t : OpenStack) (g : Family) :
    (s.setStack t g).quote = s.quote := by
  cases g <;> rfl

@[simp] theorem quote_next (s : Scan) (cell : Cell) : (s.next cell).quote = s.quoteAfter cell := by
  unfold next meet
  split <;> simp

@[simp] theorem stack_quote (s : Scan) (q : Option Quote) (f : Family) :
    ({ s with quote := q } : Scan).stack f = s.stack f := by
  cases f <;> rfl

theorem outside_cons (s : Scan) (cell : Cell) (rest : List Cell) :
    outside s.quote (cell :: rest)
      = (if (s.next cell).inString then [] else [cell]) ++ outside (s.next cell).quote rest := by
  rw [outside, inString, quote_next]
  unfold quoteAfter
  split
  · rename_i h
    rw [h]
    rfl
  · rename_i q h
    rw [h]
    rfl

/-- The first cell gives a mark if its bracket does, and the others give theirs
with the string that is open after it. -/
theorem marksFrom_cons (s : Scan) (f : Family) (cell : Cell) (rest : List Cell) :
    marksFrom f s.quote (cell :: rest)
      = ((s.bracket? cell).bind (Bracket.mark? f cell)).toList
        ++ marksFrom f (s.next cell).quote rest := by
  unfold marksFrom bracket?
  rw [outside_cons, List.filterMap_append, inString, quote_next]
  congr 1
  split
  · rfl
  · rw [← mark?_eq, List.filterMap_cons]
    cases cell.mark? f <;> rfl

/-- The open brackets of a family are those of some factors that nothing
closes. -/
def Tracks (s : Scan) (f : Family) (factors : Factorisation Cell) : Prop :=
  (s.stack f).innermostFirst = factors.unclosed.map Cell.pos

theorem Tracks.next {s : Scan} {f : Family} {factors : Factorisation Cell}
    (h : s.Tracks f factors) (cell : Cell) :
    (s.next cell).Tracks f
      (factors.readAll ((s.bracket? cell).bind (Bracket.mark? f cell)).toList) := by
  unfold Tracks at h ⊢
  unfold Scan.next meet
  rcases s.bracket? cell with _ | g | g
  · simpa using h
  · by_cases hg : g = f
    · simp [Bracket.mark?, hg, OpenStack.push, h]
    · simp [Bracket.mark?, hg, h]
  · by_cases hg : g = f
    · simp [Bracket.mark?, hg, OpenStack.pop, h]
    · simp [Bracket.mark?, hg, h]

theorem Tracks.isEmpty_iff {s : Scan} {f : Family} {factors : Factorisation Cell}
    (h : s.Tracks f factors) : (s.stack f).isEmpty = true ↔ factors.unclosed = [] := by
  unfold OpenStack.isEmpty
  rw [h, List.isEmpty_iff, List.map_eq_nil_iff]

theorem Tracks.finding? {s : Scan} {f : Family} {factors : Factorisation Cell}
    (h : s.Tracks f factors) (cell : Cell) :
    factors.unopened.reverse.map (Finding.unexpectedClose f)
        ++ ofKind (.unexpectedClose f) (s.finding? cell).toList
      = (factors.readAll
          ((s.bracket? cell).bind (Bracket.mark? f cell)).toList).unopened.reverse.map
          (Finding.unexpectedClose f) := by
  unfold Scan.finding? ofKind
  rcases s.bracket? cell with _ | g | g
  · simp
  · by_cases hg : g = f
    · simp [Bracket.mark?, hg]
    · simp [Bracket.mark?, hg]
  · by_cases hg : g = f
    · subst hg
      simp only [h.isEmpty_iff, Bracket.mark?, if_true, Option.bind_some, Option.toList_some,
        Factorisation.readAll_cons, Factorisation.readAll_nil,
        Factorisation.unopened_read_closing]
      split <;> simp [Finding.unexpectedClose]
    · dsimp only
      split <;> simp [Bracket.mark?, hg, Finding.unexpectedClose]

/-! ## Many cells -/

/-- A scan reads the words of the families: after more cells, its open brackets
and its findings about a family are the brackets with no partner. -/
theorem Tracks.after {s : Scan} {f : Family} {factors : Factorisation Cell}
    (h : s.Tracks f factors) (cells : List Cell) :
    (s.after cells).Tracks f (factors.readAll (marksFrom f s.quote cells)) ∧
      factors.unopened.reverse.map (Finding.unexpectedClose f)
          ++ ofKind (.unexpectedClose f) (s.findings cells)
        = (factors.readAll (marksFrom f s.quote cells)).unopened.reverse.map
            (Finding.unexpectedClose f) := by
  induction cells generalizing s factors with
  | nil => exact ⟨h, List.append_nil _⟩
  | cons cell rest ih =>
    obtain ⟨hstack, hfound⟩ := ih (h.next cell)
    rw [marksFrom_cons, Factorisation.readAll_append, ← hfound, ← h.finding? cell]
    refine ⟨hstack, ?_⟩
    rw [Scan.findings, ofKind_append, List.append_assoc]

theorem tracks_empty (f : Family) : ({} : Scan).Tracks f {} := by
  cases f <;> rfl

/-- The brackets of a family that are open at the end of a script. -/
theorem stack_after_cells (f : Family) (lines : List String) :
    ((Scan.after {} (cells lines)).stack f).toList
      = (Factorisation.ofWord (marks f lines)).unclosed.reverse.map Cell.pos := by
  unfold OpenStack.toList
  rw [((tracks_empty f).after (cells lines)).1, List.map_reverse]
  rfl

/-- The early findings about a family in a script. -/
theorem ofKind_findings_cells (f : Family) (lines : List String) :
    ofKind (.unexpectedClose f) (Scan.findings {} (cells lines))
      = (Factorisation.ofWord (marks f lines)).unopened.reverse.map
          (Finding.unexpectedClose f) := by
  have h := ((tracks_empty f).after (cells lines)).2
  rwa [Factorisation.unopened_empty, List.reverse_nil, List.map_nil, List.nil_append] at h

theorem of_finding? {s : Scan} {cell : Cell} {d : Finding} (h : s.finding? cell = some d) :
    ∃ f, d = .unexpectedClose f cell ∧ cell.char = f.closer := by
  unfold Scan.finding? at h
  split at h
  · rename_i f hb
    split at h
    · cases h
      refine ⟨f, rfl, ?_⟩
      unfold bracket? at hb
      split at hb
      · cases hb
      · exact (Bracket.ofChar?_eq_some_iff _ _).mp hb
    · cases h
  · cases h

/-- The findings of a scan are about closing brackets among its cells. -/
theorem of_mem_findings {s : Scan} {cells : List Cell} {d : Finding} (h : d ∈ s.findings cells) :
    ∃ f, ∃ cell ∈ cells, d = .unexpectedClose f cell ∧ cell.char = f.closer := by
  induction cells generalizing s with
  | nil => cases h
  | cons cell rest ih =>
    rw [Scan.findings, List.mem_append, Option.mem_toList] at h
    rcases h with h | h
    · obtain ⟨f, hd, hchar⟩ := of_finding? h
      exact ⟨f, cell, List.mem_cons_self, hd, hchar⟩
    · obtain ⟨f, c, hc, hd⟩ := ih h
      exact ⟨f, c, List.mem_cons_of_mem _ hc, hd⟩

theorem kind_of_mem_findings {s : Scan} {cells : List Cell} {d : Finding}
    (h : d ∈ s.findings cells) : ∃ f, d.kind = .unexpectedClose f := by
  obtain ⟨f, cell, -, rfl, -⟩ := of_mem_findings h
  exact ⟨f, rfl⟩

theorem kind_of_mem_unclosed {s : Scan} {d : Finding} (h : d ∈ s.unclosed) :
    ∃ f, d.kind = .unclosed f := by
  unfold Scan.unclosed at h
  simp only [List.mem_flatMap, List.mem_map] at h
  obtain ⟨f, _, pos, _, rfl⟩ := h
  exact ⟨f, rfl⟩

theorem ofKind_unclosed (s : Scan) (f : Family) :
    ofKind (.unclosed f) s.unclosed = (s.stack f).toList.map (Finding.unclosed f) := by
  simp only [Scan.unclosed, Family.all, List.flatMap_cons, List.flatMap_nil, ofKind_append,
    ofKind_map_unclosed]
  cases f <;> simp [ofKind]

end Scan

/-! ## Which cells stand outside strings -/

namespace Scan

/-- A cell stands outside strings if no string is open after it. -/
theorem mem_outside (s : Scan) (cells : List Cell) (cell : Cell) :
    cell ∈ outside s.quote cells ↔
      ∃ read rest, cells = read ++ cell :: rest ∧ (s.after (read ++ [cell])).inString = false := by
  induction cells generalizing s with
  | nil => simp [outside]
  | cons first rest ih =>
    rw [outside_cons, List.mem_append, ih]
    constructor
    · rintro (h | ⟨read, more, rfl, h⟩)
      · split at h
        · cases h
        · rename_i hout
          rw [List.mem_singleton] at h
          subst h
          exact ⟨[], rest, rfl, by simpa [Scan.after] using hout⟩
      · exact ⟨first :: read, more, rfl, h⟩
    · rintro ⟨read, more, hcells, h⟩
      cases read with
      | nil =>
        injection hcells with h1 h2
        subst h1
        have hout : (s.next first).inString = false := h
        exact Or.inl (by simp [hout])
      | cons c read =>
        injection hcells with h1 h2
        subst h1
        exact Or.inr ⟨read, more, h2, h⟩

theorem outside_sublist (s : Scan) (cells : List Cell) :
    (outside s.quote cells).Sublist cells := by
  induction cells generalizing s with
  | nil => exact List.Sublist.slnil
  | cons cell rest ih =>
    rw [outside_cons]
    split
    · exact (ih _).cons cell
    · exact (ih _).cons_cons cell

end Scan

open Scan

/-- The word of a family holds the characters of the script that open or close
the family and after which no string is open. -/
theorem mem_marks (f : Family) (lines : List String) (side : Side) (cell : Cell) :
    ⟨side, cell⟩ ∈ marks f lines ↔
      f.side? cell.char = some side ∧
        ∃ read rest, cells lines = read ++ cell :: rest ∧
          (Scan.after {} (read ++ [cell])).inString = false := by
  rw [← mem_outside]
  unfold marks marksFrom
  rw [List.mem_filterMap]
  constructor
  · rintro ⟨c, hc, hmark⟩
    unfold Cell.mark? at hmark
    rw [Option.map_eq_some_iff] at hmark
    obtain ⟨_, hside, hmark⟩ := hmark
    cases hmark
    exact ⟨hside, hc⟩
  · rintro ⟨hside, hcell⟩
    exact ⟨cell, hcell, by simp [Cell.mark?, hside]⟩

theorem map_item_marks_sublist (f : Family) (lines : List String) :
    ((marks f lines).map Mark.item).Sublist (cells lines) := by
  refine List.Sublist.trans ?_ (outside_sublist {} (cells lines))
  unfold marks marksFrom
  generalize outside none (cells lines) = l
  show ((l.filterMap (Cell.mark? f)).map Mark.item).Sublist l
  induction l with
  | nil => exact List.Sublist.slnil
  | cons cell rest ih =>
    rw [List.filterMap_cons]
    unfold Cell.mark?
    cases f.side? cell.char with
    | none => exact ih.cons cell
    | some side => exact ih.cons_cons cell

theorem mem_cells_of_mem_marks {f : Family} {lines : List String} {m : Mark Cell}
    (h : m ∈ marks f lines) : m.item ∈ cells lines :=
  (map_item_marks_sublist f lines).subset (List.mem_map_of_mem h)

theorem char_of_mem_marks {f : Family} {lines : List String} {m : Mark Cell}
    (h : m ∈ marks f lines) : m.item.char = (m.side.bracket f).char :=
  (f.side?_eq_some_iff _ _).mp ((mem_marks f lines m.side m.item).mp h).1

/-- The brackets of a word come in the order of their positions. -/
theorem marks_sorted (f : Family) (lines : List String) :
    (marks f lines).Pairwise (fun a b => a.item.pos < b.item.pos) := by
  have h := (cells_sorted lines).sublist (map_item_marks_sublist f lines)
  rwa [List.pairwise_map] at h

theorem unopened_sorted (f : Family) (lines : List String) :
    (Factorisation.ofWord (marks f lines)).unopened.reverse.Pairwise
      (fun a b => a.pos < b.pos) :=
  (cells_sorted lines).sublist
    ((Factorisation.unopened_sublist _).trans (map_item_marks_sublist f lines))

theorem unclosed_sorted (f : Family) (lines : List String) :
    (Factorisation.ofWord (marks f lines)).unclosed.reverse.Pairwise
      (fun a b => a.pos < b.pos) :=
  (cells_sorted lines).sublist
    ((Factorisation.unclosed_sublist _).trans (map_item_marks_sublist f lines))

/-! ## The findings of a script -/

/-- The findings about closing brackets of a family are the closing brackets of
its word that close nothing, in order. -/
theorem ofKind_unexpectedClose (f : Family) (lines : List String) :
    ofKind (.unexpectedClose f) (bracketFindings lines)
      = (Factorisation.ofWord (marks f lines)).unopened.reverse.map
          (Finding.unexpectedClose f) := by
  have hlate : ofKind (.unexpectedClose f) (Scan.after {} (cells lines)).unclosed = [] := by
    refine ofKind_eq_nil fun d hd => ?_
    obtain ⟨g, hg⟩ := kind_of_mem_unclosed hd
    simp [hg]
  rw [bracketFindings, ofKind_append, ofKind_findings_cells, hlate, List.append_nil]

/-- The findings about opening brackets of a family are the opening brackets of
its word that nothing closes, in order. -/
theorem ofKind_unclosed_bracketFindings (f : Family) (lines : List String) :
    ofKind (.unclosed f) (bracketFindings lines)
      = (Factorisation.ofWord (marks f lines)).unclosed.reverse.map
          fun cell => Finding.unclosed f cell.pos := by
  have hearly : ofKind (.unclosed f) (Scan.findings {} (cells lines)) = [] := by
    refine ofKind_eq_nil fun d hd => ?_
    obtain ⟨g, hg⟩ := kind_of_mem_findings hd
    simp [hg]
  rw [bracketFindings, ofKind_append, hearly, ofKind_unclosed, stack_after_cells, List.map_map]
  rfl

/-- Every finding about brackets is of one of these two sorts. -/
theorem kind_of_mem_bracketFindings {lines : List String} {d : Finding}
    (h : d ∈ bracketFindings lines) :
    ∃ f, d.kind = .unexpectedClose f ∨ d.kind = .unclosed f := by
  unfold bracketFindings at h
  rcases List.mem_append.mp h with h | h
  · obtain ⟨f, hf⟩ := kind_of_mem_findings h
    exact ⟨f, Or.inl hf⟩
  · obtain ⟨f, hf⟩ := kind_of_mem_unclosed h
    exact ⟨f, Or.inr hf⟩

end ScriptBalance
