-- The findings about a family of brackets are a least repair. With blanks in
-- place of the brackets that they report, the script has no finding about the
-- family, and all else is found as before. No smaller set of brackets does.
import Mathlib.Data.Finset.Card
import Mathlib.Data.List.Perm.Basic
import ScriptBalance.Proofs.Blanking
import ScriptBalance.Proofs.Order

namespace ScriptBalance

variable {α : Type}

/-! ## The brackets that have a partner -/

/-- The balanced words of some blocks. -/
def blocksMatched : List (Block α) → List (Mark α)
  | [] => []
  | b :: earlier => blocksMatched earlier ++ b.after.word

theorem balanced_blocksMatched (bs : List (Block α)) : Balanced (blocksMatched bs) := by
  induction bs with
  | nil => exact .empty
  | cons b earlier ih => exact ih.append b.after.balanced

/-- A word of blocks holds their brackets with no partner and their balanced
words. -/
theorem perm_blocksWord (side : Side) (bs : List (Block α)) :
    ((blocksWord side bs).map Mark.item).Perm
      (bs.map Block.item ++ (blocksMatched bs).map Mark.item) := by
  induction bs with
  | nil => exact List.Perm.nil
  | cons b earlier ih =>
    rw [blocksWord, blocksMatched, List.map_append, List.map_append, List.map_cons, List.map_cons,
      List.cons_append, ← List.append_assoc]
    exact List.perm_middle.trans ((ih.append_right _).cons _)

theorem filter_blocksWord {keep : α → Bool} (side : Side) {bs : List (Block α)}
    (hgone : ∀ b ∈ bs, keep b.item = false) (hkept : ∀ m ∈ blocksMatched bs, keep m.item = true) :
    (blocksWord side bs).filter (fun m => keep m.item) = blocksMatched bs := by
  induction bs with
  | nil => rfl
  | cons b earlier ih =>
    obtain ⟨hb, hgone⟩ := List.forall_mem_cons.mp hgone
    obtain ⟨hkept, hafter⟩ := List.forall_mem_append.mp hkept
    rw [blocksWord, List.filter_append, List.filter_cons_of_neg (by simp [hb]), ih hgone hkept,
      List.filter_eq_self.mpr hafter]
    rfl

namespace Factorisation

/-- The brackets of a word that have a partner. -/
def matched (f : Factorisation α) : List (Mark α) :=
  f.start.word ++ blocksMatched f.closers ++ blocksMatched f.openers

theorem balanced_matched (f : Factorisation α) : Balanced f.matched :=
  (f.start.balanced.append (balanced_blocksMatched _)).append (balanced_blocksMatched _)

/-- The brackets of a word with no partner. -/
def unmatched (f : Factorisation α) : List α := f.unopened ++ f.unclosed

/-- Each bracket of a word has a partner or has none. -/
theorem perm_word (f : Factorisation α) :
    (f.word.map Mark.item).Perm (f.unmatched ++ f.matched.map Mark.item) := by
  classical
  rw [List.perm_iff_count]
  intro a
  have hclosers := (perm_blocksWord .closing f.closers).count_eq a
  have hopeners := (perm_blocksWord .opening f.openers).count_eq a
  unfold word matched unmatched unopened unclosed
  simp only [List.map_append, List.count_append] at hclosers hopeners ⊢
  omega

theorem filter_word {f : Factorisation α} {keep : α → Bool}
    (hgone : ∀ a ∈ f.unmatched, keep a = false) (hkept : ∀ m ∈ f.matched, keep m.item = true) :
    f.word.filter (fun m => keep m.item) = f.matched := by
  obtain ⟨hclosers, hopeners⟩ := List.forall_mem_append.mp hgone
  obtain ⟨hkept, hopened⟩ := List.forall_mem_append.mp hkept
  obtain ⟨hstart, hclosed⟩ := List.forall_mem_append.mp hkept
  rw [word, List.filter_append, List.filter_append, List.filter_eq_self.mpr hstart,
    filter_blocksWord .closing (List.forall_mem_map.mp hclosers) hclosed,
    filter_blocksWord .opening (List.forall_mem_map.mp hopeners) hopened]
  rfl

theorem perm_ofWord (w : List (Mark α)) :
    (w.map Mark.item).Perm ((ofWord w).unmatched ++ (ofWord w).matched.map Mark.item) := by
  have h := (ofWord w).perm_word
  rwa [word_ofWord] at h

/-- A word without its brackets that have no partner is balanced. -/
theorem balanced_filter {w : List (Mark α)} (hw : (w.map Mark.item).Nodup) (keep : α → Bool)
    (hkeep : ∀ a ∈ w.map Mark.item, keep a = false ↔ a ∈ (ofWord w).unmatched) :
    Balanced (w.filter fun m => keep m.item) := by
  have hperm := perm_ofWord w
  have happart := (List.nodup_append.mp (hperm.nodup_iff.mp hw)).2.2
  have hgone : ∀ a ∈ (ofWord w).unmatched, keep a = false := by
    intro a ha
    exact (hkeep a (hperm.mem_iff.mpr (List.mem_append_left _ ha))).mpr ha
  have hkept : ∀ m ∈ (ofWord w).matched, keep m.item = true := by
    intro m hm
    have hitem := List.mem_map_of_mem (f := Mark.item) hm
    rw [← Bool.not_eq_false, hkeep _ (hperm.mem_iff.mpr (List.mem_append_right _ hitem))]
    exact fun hun => happart _ hun _ hitem rfl
  have hfilter := filter_word hgone hkept
  rw [word_ofWord] at hfilter
  rw [hfilter]
  exact balanced_matched _

/-! ## No balanced word with fewer brackets removed -/

theorem count_blocksWord (side : Side) (bs : List (Block α)) :
    side.count (blocksWord side bs) = side.other.count (blocksWord side bs) + bs.length := by
  induction bs with
  | nil => rfl
  | cons b earlier ih =>
    have hafter := b.after.balanced.count_eq_other side
    rw [blocksWord, Side.count_append, Side.count_append, Side.count_cons, Side.count_cons,
      if_pos rfl, if_neg side.ne_other, List.length_cons]
    omega

/-- A balanced word that is left of a word lacks at least as many brackets as
have no partner. Before the first bracket that nothing closes, it lacks a closing
bracket for each that closes nothing. From there on, it lacks an opening bracket
for each that nothing closes. -/
theorem length_unmatched_le {w left : List (Mark α)} (hleft : left.Sublist w)
    (hbalanced : Balanced left) : (ofWord w).unmatched.length + left.length ≤ w.length := by
  -- the word is cut before the first bracket that nothing closes
  have hcut := word_ofWord w
  unfold word at hcut
  rw [← hcut] at hleft
  obtain ⟨early, late, rfl, hearly, hlate⟩ := List.sublist_append_iff.mp hleft
  have hopens := hbalanced.opensFirst early.length
  have hcloses := hbalanced.closesLast early.length
  rw [List.take_left] at hopens
  rw [List.drop_left] at hcloses
  have hfirst := Side.closing.count_add_length_le hearly hopens
  have hlast := Side.opening.count_add_length_le hlate hcloses
  rw [Side.count_append, Side.count_append, count_blocksWord,
    (ofWord w).start.balanced.count_eq_other .closing] at hfirst
  rw [count_blocksWord] at hlast
  have hlength := congrArg List.length hcut
  unfold unmatched unopened unclosed
  simp only [List.length_append, List.length_map] at hlength hfirst ⊢
  omega

end Factorisation

/-! ## The findings about a family -/

/-- The family of brackets that a finding is about. -/
def Finding.Kind.family? : Finding.Kind → Option Family
  | .unexpectedClose f | .unclosed f => some f
  | .backtick | .backslash => none

/-- The findings about a family of brackets. -/
def about (f : Family) (found : List Finding) : List Finding :=
  found.filter fun d => d.kind.family? = some f

/-- The kind of a finding, its line and its column. -/
def Finding.place (d : Finding) : Finding.Kind × Nat × Option Nat := (d.kind, d.line, d.column)

theorem about_eq_ofKind {kind : Family → Finding.Kind} (hkind : ∀ g, (kind g).family? = some g)
    {found : List Finding} (h : ∀ d ∈ found, ∃ g, d.kind = kind g) (f : Family) :
    about f found = ofKind (kind f) found := by
  unfold about ofKind
  refine List.filter_congr fun d hd => ?_
  obtain ⟨g, hg⟩ := h d hd
  rw [decide_eq_decide, hg, hkind]
  constructor
  · intro heq
    rw [Option.some.inj heq]
  · intro heq
    rw [← hkind, heq, hkind]

theorem about_bracketFindings (f : Family) (lines : List String) :
    about f (bracketFindings lines)
      = (Factorisation.ofWord (marks f lines)).unopened.reverse.map (Finding.unexpectedClose f)
        ++ unclosedFindings f lines := by
  have hearly : about f (Scan.findings {} (cells lines)) = ofKind (.unexpectedClose f) _ :=
    about_eq_ofKind (fun _ => rfl) (fun _ hd => Scan.kind_of_mem_findings hd) f
  have hlate : about f (Scan.after {} (cells lines)).unclosed = ofKind (.unclosed f) _ :=
    about_eq_ofKind (fun _ => rfl) (fun _ hd => Scan.kind_of_mem_unclosed hd) f
  have happend : about f (bracketFindings lines) = about f _ ++ about f _ := List.filter_append _ _
  rw [happend, hearly, hlate, Scan.ofKind_findings_cells, Scan.ofKind_unclosed,
    Scan.stack_after_cells, List.map_map]
  rfl

theorem about_eq_nil_iff (f : Family) (lines : List String) :
    about f (bracketFindings lines) = [] ↔ Balanced (marks f lines) := by
  rw [about_bracketFindings, unclosedFindings, List.append_eq_nil_iff, List.map_eq_nil_iff,
    List.map_eq_nil_iff, List.reverse_eq_nil_iff, List.reverse_eq_nil_iff,
    Factorisation.balanced_iff]

/-! ## The positions that findings report -/

/-- The positions of the brackets of a family outside strings. -/
def bracketPositions (f : Family) (lines : List String) : Finset Position :=
  ((marks f lines).map fun m => m.item.pos).toFinset

/-- The positions that the findings about a family report. -/
def reportedPositions (f : Family) (found : List Finding) : Finset Position :=
  ((about f found).filterMap Finding.pos?).toFinset

theorem mem_bracketPositions {f : Family} {lines : List String} {p : Position} :
    p ∈ bracketPositions f lines ↔ ∃ m ∈ marks f lines, m.item.pos = p := by
  unfold bracketPositions
  rw [List.mem_toFinset, List.mem_map]

theorem nodup_pos_marks (f : Family) (lines : List String) :
    ((marks f lines).map fun m => m.item.pos).Nodup := by
  rw [List.nodup_iff_pairwise_ne, List.pairwise_map]
  refine (marks_sorted f lines).imp fun {a b} hlt heq => ?_
  rw [heq] at hlt
  exact Position.lt_irrefl _ hlt

/-- What the findings about a family report are the brackets with no partner. -/
theorem filterMap_pos?_about (f : Family) (lines : List String) :
    ((about f (bracketFindings lines)).filterMap Finding.pos?).Perm
      ((Factorisation.ofWord (marks f lines)).unmatched.map Cell.pos) := by
  rw [about_bracketFindings, unclosedFindings, List.filterMap_append, List.filterMap_map,
    List.filterMap_map, Factorisation.unmatched, List.map_append, ← List.filterMap_eq_map]
  exact ((List.reverse_perm _).filterMap _).append ((List.reverse_perm _).filterMap _)

theorem mem_reportedPositions {f : Family} {lines : List String} {p : Position} :
    p ∈ reportedPositions f (bracketFindings lines) ↔
      ∃ cell ∈ (Factorisation.ofWord (marks f lines)).unmatched, cell.pos = p := by
  unfold reportedPositions
  rw [List.mem_toFinset, (filterMap_pos?_about f lines).mem_iff, List.mem_map]

theorem length_about (f : Family) (lines : List String) :
    (about f (bracketFindings lines)).length
      = (Factorisation.ofWord (marks f lines)).unmatched.length := by
  rw [about_bracketFindings, unclosedFindings, Factorisation.unmatched]
  simp

theorem reportedPositions_subset (f : Family) (lines : List String) :
    reportedPositions f (bracketFindings lines) ⊆ bracketPositions f lines := by
  intro p hp
  obtain ⟨cell, hcell, rfl⟩ := mem_reportedPositions.mp hp
  have hmem := (Factorisation.perm_ofWord (marks f lines)).mem_iff.mpr
    (List.mem_append_left _ hcell)
  obtain ⟨m, hm, rfl⟩ := List.mem_map.mp hmem
  exact mem_bracketPositions.mpr ⟨m, hm, rfl⟩

theorem card_reportedPositions (f : Family) (lines : List String) :
    (reportedPositions f (bracketFindings lines)).card
      = (about f (bracketFindings lines)).length := by
  have hperm := (Factorisation.perm_ofWord (marks f lines)).map Cell.pos
  have hnodup := nodup_pos_marks f lines
  rw [← Function.comp_def, ← List.map_map, hperm.nodup_iff, List.map_append,
    List.nodup_append] at hnodup
  unfold reportedPositions
  rw [List.toFinset_card_of_nodup ((filterMap_pos?_about f lines).nodup_iff.mpr hnodup.1),
    (filterMap_pos?_about f lines).length_eq, List.length_map, length_about]

/-! ## Brackets of one family erased -/

section

variable {f : Family} {lines : List String} {erased : Finset Position}

theorem char_of_mem_erased (h : erased ⊆ bracketPositions f lines) {cell : Cell}
    (hcell : cell ∈ cells lines) (hp : cell.pos ∈ erased) :
    ∃ side : Side, cell.char = (side.bracket f).char := by
  obtain ⟨m, hm, hpos⟩ := mem_bracketPositions.mp (h hp)
  rw [← eq_of_mem_cells (mem_cells_of_mem_marks hm) hcell hpos]
  exact ⟨m.side, char_of_mem_marks hm⟩

theorem atBrackets_of_subset (h : erased ⊆ bracketPositions f lines) : AtBrackets erased lines := by
  intro cell hcell hp
  obtain ⟨side, hchar⟩ := char_of_mem_erased h hcell hp
  rw [hchar, Bracket.ofChar?_char]
  rfl

/-- The word of another family keeps all its brackets. -/
theorem marks_blank_of_ne (h : erased ⊆ bracketPositions f lines) {g : Family} (hg : g ≠ f) :
    marks g (blank erased lines) = (marks g lines).map (Mark.map (Cell.blank erased)) := by
  rw [marks_blank (atBrackets_of_subset h), List.filter_eq_self.mpr]
  intro m hm
  rw [decide_eq_true_eq]
  intro hp
  obtain ⟨side, hchar⟩ := char_of_mem_erased h (mem_cells_of_mem_marks hm) hp
  rw [char_of_mem_marks hm] at hchar
  have hfamily := congrArg Bracket.family (Bracket.char_injective hchar)
  rw [Side.family_bracket, Side.family_bracket] at hfamily
  exact hg hfamily

theorem about_blank_of_ne (h : erased ⊆ bracketPositions f lines) {g : Family} (hg : g ≠ f) :
    (about g (bracketFindings (blank erased lines))).map Finding.place
      = (about g (bracketFindings lines)).map Finding.place := by
  obtain ⟨hunopened, hunclosed⟩ := Factorisation.ofWord_map (Cell.blank erased) (marks g lines)
  rw [about_bracketFindings, about_bracketFindings, unclosedFindings, unclosedFindings,
    marks_blank_of_ne h hg, hunopened, hunclosed]
  simp only [← List.map_reverse, List.map_append, List.map_map]
  rfl

/-- The family has no finding if its brackets that are left are balanced. -/
theorem about_blank_eq_nil_iff (h : erased ⊆ bracketPositions f lines) :
    about f (bracketFindings (blank erased lines)) = [] ↔
      Balanced ((marks f lines).filter fun m => m.item.pos ∉ erased) := by
  rw [about_eq_nil_iff, marks_blank (atBrackets_of_subset h), Factorisation.balanced_map_iff]

/-- No more brackets are erased than there are erased positions. -/
theorem length_marks_le (f : Family) (lines : List String) (erased : Finset Position) :
    (marks f lines).length
      ≤ ((marks f lines).filter fun m => m.item.pos ∉ erased).length + erased.card := by
  have hgone : ((marks f lines).filter fun m => m.item.pos ∈ erased).length ≤ erased.card := by
    have hsub : ((marks f lines).filter fun m => m.item.pos ∈ erased).Sublist (marks f lines) :=
      List.filter_sublist
    have hnodup := (hsub.map fun m => m.item.pos).nodup (nodup_pos_marks f lines)
    rw [← List.length_map (f := fun m : Mark Cell => m.item.pos),
      ← List.toFinset_card_of_nodup hnodup]
    refine Finset.card_le_card fun p hp => ?_
    rw [List.mem_toFinset, List.mem_map] at hp
    obtain ⟨m, hm, rfl⟩ := hp
    simpa using (List.mem_filter.mp hm).2
  have hsplit := List.length_eq_length_filter_add (l := marks f lines) fun m => m.item.pos ∈ erased
  simp only [← decide_not] at hsplit
  omega

/-- If the brackets that are left are balanced, at least as many are erased as
have no partner. -/
theorem length_about_le (h : erased ⊆ bracketPositions f lines)
    (hclean : about f (bracketFindings (blank erased lines)) = []) :
    (about f (bracketFindings lines)).length ≤ erased.card := by
  have hleft := Factorisation.length_unmatched_le List.filter_sublist
    ((about_blank_eq_nil_iff h).mp hclean)
  have hall := length_marks_le f lines erased
  rw [length_about]
  omega

end

/-- With blanks at the reported positions, the family has no finding. -/
theorem about_blank_reported (f : Family) (lines : List String) :
    about f (bracketFindings (blank (reportedPositions f (bracketFindings lines)) lines)) = [] := by
  have hnodup : ((marks f lines).map Mark.item).Nodup := by
    refine List.Nodup.of_map Cell.pos ?_
    rw [List.map_map]
    exact nodup_pos_marks f lines
  rw [about_blank_eq_nil_iff (reportedPositions_subset f lines)]
  refine Factorisation.balanced_filter hnodup
    (fun cell => decide (cell.pos ∉ reportedPositions f (bracketFindings lines)))
    fun cell hcell => ?_
  rw [decide_eq_false_iff_not, not_not, mem_reportedPositions]
  constructor
  · rintro ⟨other, hother, hpos⟩
    have hmem := (Factorisation.perm_ofWord (marks f lines)).mem_iff.mpr
      (List.mem_append_left _ hother)
    have hcells := (map_item_marks_sublist f lines).subset
    rwa [eq_of_mem_cells (hcells hcell) (hcells hmem) hpos.symm]
  · intro hmem
    exact ⟨cell, hmem, rfl⟩

/-! ## The laws -/

/-- The brackets that the findings about a family report are a least repair of
the script. With blanks in their place, the family has no finding, the findings
about the other family stand where they stood, and each line has the patterns
that it had. Blanks in place of fewer brackets of the family leave a finding. -/
theorem the_findings_are_a_least_repair (f : Family) (lines : List String) :
    ∃ found patterns,
      collect (bracketPass Recorder.take lines) = .ok (found.length, found) ∧
      collect (patternPass Recorder.take lines) = .ok (patterns.length, patterns) ∧
      reportedPositions f found ⊆ bracketPositions f lines ∧
      (reportedPositions f found).card = (about f found).length ∧
      (∃ left leftPatterns,
        collect (bracketPass Recorder.take (blank (reportedPositions f found) lines))
          = .ok (left.length, left) ∧
        collect (patternPass Recorder.take (blank (reportedPositions f found) lines))
          = .ok (leftPatterns.length, leftPatterns) ∧
        about f left = [] ∧
        (∀ g ≠ f, (about g left).map Finding.place = (about g found).map Finding.place) ∧
        leftPatterns.map (fun d => (d.kind, d.line)) = patterns.map fun d => (d.kind, d.line)) ∧
      ∀ erased ⊆ bracketPositions f lines, ∃ left,
        collect (bracketPass Recorder.take (blank erased lines)) = .ok (left.length, left) ∧
        (about f left = [] → (about f found).length ≤ erased.card) := by
  have hsubset := reportedPositions_subset f lines
  refine ⟨bracketFindings lines, patternFindings lines, collect_bracketPass lines,
    collect_patternPass lines, hsubset, card_reportedPositions f lines, ?_,
    fun erased herased => ?_⟩
  · exact ⟨_, _, collect_bracketPass _, collect_patternPass _, about_blank_reported f lines,
      fun g hg => about_blank_of_ne hsubset hg,
      patternFindings_blank (atBrackets_of_subset hsubset)⟩
  · exact ⟨_, collect_bracketPass _, length_about_le herased⟩

end ScriptBalance
