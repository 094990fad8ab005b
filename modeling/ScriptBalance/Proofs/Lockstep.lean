-- Two scans that read in step. Two scripts of one shape have characters at the
-- same places. If the characters that differ are plain text in a string, or are
-- of no account to a family of brackets, then what the scans know of the family
-- stays the same cell by cell, and so do the findings about it.
import ScriptBalance.Proofs.Insertion
import ScriptBalance.Proofs.Repair
import ScriptBalance.Proofs.Strings

namespace ScriptBalance

/-! ## Cells in step -/

/-- Two rows of cells, each cell like the one in its place. What makes two cells
alike may depend on the scan that has read the first row up to them. -/
inductive InStep (alike : Scan → Cell → Cell → Prop) : Scan → List Cell → List Cell → Prop
  | nil {s : Scan} : InStep alike s [] []
  | cons {s : Scan} {c d : Cell} {l m : List Cell} :
      alike s c d → InStep alike (s.next c) l m → InStep alike s (c :: l) (d :: m)

namespace InStep

variable {alike : Scan → Cell → Cell → Prop} {s t : Scan} {l m : List Cell}

theorem bind_toList {α β : Type} (o : Option α) (view : α → Option β) :
    o.toList.filterMap view = (o.bind view).toList := by
  rcases o with _ | a
  · rfl
  · cases h : view a <;> simp [h]

/-- If one step keeps what two scans have in common, and both find there what
looks the same, then so do all steps. -/
theorem simulates {β : Type} (related : Scan → Scan → Prop) {left right : Finding → Option β}
    (hstep : ∀ {s t c d}, related s t → alike s c d →
      related (s.next c) (t.next d) ∧ (s.finding? c).bind left = (t.finding? d).bind right)
    (h : InStep alike s l m) (hst : related s t) :
    related (s.after l) (t.after m) ∧
      (s.findings l).filterMap left = (t.findings m).filterMap right := by
  induction h generalizing t with
  | nil => exact ⟨hst, rfl⟩
  | cons hcell _ ih =>
    obtain ⟨hnext, hfound⟩ := hstep hst hcell
    obtain ⟨hafter, hrest⟩ := ih hnext
    refine ⟨hafter, ?_⟩
    unfold Scan.findings
    rw [List.filterMap_append, List.filterMap_append, hrest, bind_toList, bind_toList, hfound]

/-- Rows in step may end at the same position. -/
theorem takeWhile (hpos : ∀ {s c d}, alike s c d → d.pos = c.pos) (h : InStep alike s l m)
    (reached : Position → Bool) :
    InStep alike s (l.takeWhile (reached ·.pos)) (m.takeWhile (reached ·.pos)) := by
  induction h with
  | nil => exact .nil
  | @cons s c d l m hcell _ ih =>
    rw [List.takeWhile_cons, List.takeWhile_cons, hpos hcell]
    by_cases hc : reached c.pos
    · simp only [hc, if_true]
      exact .cons hcell ih
    · simp only [hc]
      exact .nil

theorem of_split (hpos : m.map Cell.pos = l.map Cell.pos)
    (h : ∀ read c rest, l = read ++ c :: rest → ∀ d ∈ m, d.pos = c.pos → alike (s.after read) c d) :
    InStep alike s l m := by
  induction l generalizing s m with
  | nil =>
    rw [List.map_nil, List.map_eq_nil_iff] at hpos
    subst hpos
    exact .nil
  | cons c l ih =>
    rcases m with _ | ⟨d, m⟩
    · cases hpos
    · rw [List.map_cons, List.map_cons, List.cons_eq_cons] at hpos
      refine .cons (h [] c l rfl d List.mem_cons_self hpos.1) (ih hpos.2 ?_)
      intro read c' rest hsplit d' hd' hd
      exact h (c :: read) c' rest (by rw [hsplit]; rfl) d' (List.mem_cons_of_mem _ hd') hd

end InStep

/-! ## Scripts of one shape -/

/-- The scripts have as many lines, and their lines have as many characters. -/
def SameShape (a b : List String) : Prop := b.map String.length = a.map String.length

instance (a b : List String) : Decidable (SameShape a b) :=
  inferInstanceAs (Decidable (b.map String.length = a.map String.length))

theorem positions_eq_of_lengths (lines : List String) :
    positions lines = ((lines.map String.length).zipIdx 1).flatMap fun (length, num) =>
      (List.range length).map (⟨num, ·⟩) := by
  unfold positions
  rw [List.zipIdx_map, List.flatMap_map]
  rfl

theorem SameShape.map_pos_cells {a b : List String} (h : SameShape a b) :
    (cells b).map Cell.pos = (cells a).map Cell.pos := by
  rw [ScriptBalance.map_pos_cells, ScriptBalance.map_pos_cells, positions_eq_of_lengths,
    positions_eq_of_lengths, h]

theorem charAt?_pos {lines : List String} {cell : Cell} (h : cell ∈ cells lines) :
    charAt? lines cell.pos = some cell.char := by
  have hcell := (mem_cells lines cell).mp h
  exact (charAt?_eq hcell cell.pos.column).trans hcell.char

theorem prev_eq_charAt? {lines : List String} {cell : Cell} (h : cell ∈ cells lines) :
    cell.prev = if cell.pos.column = 0 then none
      else charAt? lines ⟨cell.pos.line, cell.pos.column - 1⟩ := by
  have hcell := (mem_cells lines cell).mp h
  rw [charAt?_eq hcell, hcell.prev]

theorem mem_positions {lines : List String} {p : Position} {c : Char}
    (h : charAt? lines p = some c) : p ∈ positions lines := by
  obtain ⟨read, cell, rest, hsplit, rfl, -⟩ := exists_cell h
  rw [← map_pos_cells, hsplit]
  simp

/-- Backticks stand at the same places of both scripts. -/
def SameEscapes (a b : List String) : Prop :=
  ∀ p, charAt? b p = some escapeChar ↔ charAt? a p = some escapeChar

/-- Where the characters differ, neither is a backtick. -/
theorem SameShape.sameEscapes {a b : List String} (hshape : SameShape a b)
    (h : ∀ p ∈ positions a, charAt? a p ≠ charAt? b p →
      charAt? a p ≠ some escapeChar ∧ charAt? b p ≠ some escapeChar) : SameEscapes a b := by
  have hpositions : positions b = positions a := by
    rw [← ScriptBalance.map_pos_cells, ← ScriptBalance.map_pos_cells, hshape.map_pos_cells]
  intro p
  by_cases hp : charAt? a p = charAt? b p
  · rw [hp]
  · constructor
    · intro hb
      exact absurd hb (h p (hpositions ▸ mem_positions hb) hp).2
    · intro ha
      exact absurd ha (h p (mem_positions ha) hp).1

/-- A cell stands behind a backtick if the other one does. -/
def Cell.SameEscape (c d : Cell) : Prop := d.prev = some escapeChar ↔ c.prev = some escapeChar

theorem SameEscapes.sameEscape {a b : List String} (h : SameEscapes a b) {c d : Cell}
    (hc : c ∈ cells a) (hd : d ∈ cells b) (hpos : d.pos = c.pos) : c.SameEscape d := by
  unfold Cell.SameEscape
  rw [prev_eq_charAt? hc, prev_eq_charAt? hd, hpos]
  split
  · rfl
  · exact h _

/-- Scripts of one shape are read in step if the cells at each position are
alike. -/
theorem SameShape.inStep {alike : Scan → Cell → Cell → Prop} {a b : List String}
    (hshape : SameShape a b) (hescapes : SameEscapes a b)
    (h : ∀ read c rest d, cells a = read ++ c :: rest → d.pos = c.pos → c.SameEscape d →
      charAt? a c.pos = some c.char → charAt? b c.pos = some d.char →
      (d.char = c.char ∨ c.pos ∈ positions a ∧ charAt? a c.pos ≠ charAt? b c.pos) →
      alike (Scan.after {} read) c d) :
    InStep alike {} (cells a) (cells b) := by
  apply InStep.of_split hshape.map_pos_cells
  intro read c rest hsplit d hd hpos
  have hc : c ∈ cells a := by simp [hsplit]
  have hchar := charAt?_pos hc
  have hchar' := charAt?_pos hd
  rw [hpos] at hchar'
  apply h read c rest d hsplit hpos (hescapes.sameEscape hc hd hpos) hchar hchar'
  by_cases hsame : d.char = c.char
  · exact Or.inl hsame
  · refine Or.inr ⟨mem_positions hchar, ?_⟩
    rw [hchar, hchar']
    intro heq
    exact hsame (Option.some.inj heq).symm

/-! ## What two cells do -/

theorem Cell.SameEscape.effective? {c d : Cell} (h : c.SameEscape d) (x : Char) :
    Quote.effective? d.prev x = Quote.effective? c.prev x := by
  unfold Quote.effective?
  by_cases hc : c.prev = some escapeChar
  · rw [if_pos hc, if_pos (h.mpr hc)]
  · rw [if_neg hc, if_neg (mt h.mp hc)]

namespace Scan

variable {s t : Scan} {c d : Cell}

theorem quoteAfter_congr (hquote : t.quote = s.quote) (hescape : c.SameEscape d)
    (hchar : d.char = c.char) : t.quoteAfter d = s.quoteAfter c := by
  unfold quoteAfter Quote.after
  rw [hquote, hchar, hescape.effective?]

theorem bracket?_congr (hquote : t.quoteAfter d = s.quoteAfter c) (hchar : d.char = c.char) :
    t.bracket? d = s.bracket? c := by
  unfold bracket?
  rw [hquote, hchar]

/-- Only its own quote ends a string. -/
theorem quoteAfter_of_ne {q : Quote} (hquote : s.quote = some q) (hchar : d.char ≠ q.char) :
    s.quoteAfter d = some q := by
  unfold quoteAfter Quote.after
  rw [hquote]
  cases h : Quote.effective? d.prev d.char with
  | none => rfl
  | some r =>
    unfold Quote.effective? at h
    split at h
    · cases h
    · have hr := (Quote.ofChar?_eq_some_iff _ _).mp h
      have hne : q ≠ r := by
        rintro rfl
        exact hchar hr
      simp [Quote.toggle, hne]

theorem next_congr (hpos : d.pos = c.pos) (hquote : s.quoteAfter d = s.quoteAfter c)
    (hbracket : s.bracket? d = s.bracket? c) :
    s.next d = s.next c ∧ (s.finding? d).map Finding.place = (s.finding? c).map Finding.place := by
  constructor
  · unfold next
    rw [hpos, hquote, hbracket]
  · unfold finding?
    rw [hbracket]
    rcases s.bracket? c with _ | f | f
    · rfl
    · rfl
    · by_cases h : (s.stack f).isEmpty
      · simp [h, Finding.place, Finding.unexpectedClose, hpos]
      · simp [h]

end Scan

/-! ## A scan part of the way -/

/-- The scan that has read some cells, one after the other, from a new scan. -/
def scannedCells (read : List Cell) : Scan :=
  (stateOf (CheckM.total (scanCell Recorder.take) read { sink := {} })).scan

theorem scannedCells_eq (read : List Cell) : scannedCells read = Scan.after {} read := by
  have hread := Streams.total (streams_scanCell Recorder.take) {} read
  obtain ⟨last, hrun, -, hscan⟩ := hread.take
  unfold scannedCells
  rw [hrun, stateOf, hscan]
  exact scanAfterAll_chain_cells {} read

/-- The scan that has read a script up to a position. -/
def scannedBefore (lines : List String) (p : Position) : Scan :=
  scannedCells ((cells lines).takeWhile (·.pos < p))

/-- The scan that has read a script up to a position and the character at it. -/
def scannedThrough (lines : List String) (p : Position) : Scan :=
  scannedCells ((cells lines).takeWhile (¬ p < ·.pos))

theorem takeWhile_cells {lines : List String} {read rest : List Cell} {cell : Cell}
    (h : cells lines = read ++ cell :: rest) :
    (cells lines).takeWhile (·.pos < cell.pos) = read ∧
      (cells lines).takeWhile (¬ cell.pos < ·.pos) = read ++ [cell] := by
  obtain ⟨hbefore, hkept, hrest⟩ := cells_around h
  constructor
  · rw [h, List.takeWhile_append_of_pos (by simpa using hbefore), List.takeWhile_cons_of_neg,
      List.append_nil]
    simpa using Position.lt_irrefl _
  · rw [h, List.append_cons, List.takeWhile_append_of_pos (by simpa using hkept)]
    rcases rest with _ | ⟨next, rest⟩
    · simp
    · rw [List.takeWhile_cons_of_neg, List.append_nil]
      simpa using hrest next List.mem_cons_self

theorem scannedBefore_pos {lines : List String} {read rest : List Cell} {cell : Cell}
    (h : cells lines = read ++ cell :: rest) :
    scannedBefore lines cell.pos = Scan.after {} read := by
  unfold scannedBefore
  rw [scannedCells_eq, (takeWhile_cells h).1]

theorem scannedThrough_pos {lines : List String} {read rest : List Cell} {cell : Cell}
    (h : cells lines = read ++ cell :: rest) :
    scannedThrough lines cell.pos = (Scan.after {} read).next cell := by
  unfold scannedThrough
  rw [scannedCells_eq, (takeWhile_cells h).2, Scan.after_append]
  rfl

/-! ## Characters in strings -/

/-- A position lies in a string of the first script, before and after its
character. Neither character there is a backtick, and that of the second script
is not the quote of the string. -/
def PlainTextAt (a b : List String) (p : Position) : Prop :=
  ∃ q : Quote, (scannedBefore a p).quote = some q ∧ (scannedThrough a p).quote = some q ∧
    (charAt? a p ≠ some escapeChar ∧ charAt? b p ≠ some escapeChar) ∧
    charAt? b p ≠ some q.char

namespace Scan

/-- The second cell is like the first, or both are plain text. -/
structure AlikeInStrings (s : Scan) (c d : Cell) : Prop where
  pos : d.pos = c.pos
  escape : c.SameEscape d
  char : d.char = c.char ∨
    ∃ q : Quote, s.quote = some q ∧ s.quoteAfter c = some q ∧ d.char ≠ q.char

theorem AlikeInStrings.next {s : Scan} {c d : Cell} (h : s.AlikeInStrings c d) :
    s.next d = s.next c ∧ (s.finding? d).map Finding.place = (s.finding? c).map Finding.place := by
  rcases h.char with hchar | ⟨q, hquote, hafter, hne⟩
  · have hquote := quoteAfter_congr (rfl : s.quote = s.quote) h.escape hchar
    exact next_congr h.pos hquote (bracket?_congr hquote hchar)
  · have hafter' := quoteAfter_of_ne hquote hne
    apply next_congr h.pos (hafter'.trans hafter.symm)
    unfold bracket?
    rw [hafter, hafter']
    rfl

end Scan

section

variable {a b : List String}

theorem inStep_strings (hshape : SameShape a b)
    (hinside : ∀ p ∈ positions a, charAt? a p ≠ charAt? b p → PlainTextAt a b p) :
    InStep Scan.AlikeInStrings {} (cells a) (cells b) := by
  have hescapes : SameEscapes a b := by
    apply hshape.sameEscapes
    intro p hp hne
    obtain ⟨q, -, -, hescape, -⟩ := hinside p hp hne
    exact hescape
  apply hshape.inStep hescapes
  intro read c rest d hsplit hpos hescape hc hd hdiffer
  refine ⟨hpos, hescape, ?_⟩
  rcases hdiffer with hchar | ⟨hp, hne⟩
  · exact Or.inl hchar
  · obtain ⟨q, hbefore, hthrough, -, hquote⟩ := hinside c.pos hp hne
    rw [scannedBefore_pos hsplit] at hbefore
    rw [scannedThrough_pos hsplit, Scan.quote_next] at hthrough
    rw [hd] at hquote
    exact Or.inr ⟨q, hbefore, hthrough, fun heq => hquote (by rw [heq])⟩

/-- Rows of such cells leave the same scan and have their findings in the same
places. -/
theorem InStep.strings {s : Scan} {l m : List Cell} (h : InStep Scan.AlikeInStrings s l m) :
    s.after m = s.after l ∧ (s.findings m).map Finding.place = (s.findings l).map Finding.place := by
  have hstep : ∀ {s t : Scan} {c d : Cell}, t = s → s.AlikeInStrings c d → t.next d = s.next c ∧
      (s.finding? c).bind (some ∘ Finding.place) = (t.finding? d).bind (some ∘ Finding.place) := by
    intro s t c d hst hcell
    subst hst
    obtain ⟨hnext, hfound⟩ := hcell.next
    rw [← Option.map_eq_bind, ← Option.map_eq_bind, hfound]
    exact ⟨hnext, rfl⟩
  obtain ⟨hafter, hfound⟩ := h.simulates (fun s t => t = s) hstep rfl
  rw [List.filterMap_eq_map] at hfound
  exact ⟨hafter, hfound.symm⟩

theorem scannedThrough_strings (h : InStep Scan.AlikeInStrings {} (cells a) (cells b))
    (p : Position) : scannedThrough b p = scannedThrough a p := by
  unfold scannedThrough
  rw [scannedCells_eq, scannedCells_eq]
  exact (h.takeWhile Scan.AlikeInStrings.pos (¬ p < ·)).strings.1

theorem bracketFindings_strings (h : InStep Scan.AlikeInStrings {} (cells a) (cells b)) :
    (bracketFindings b).map Finding.place = (bracketFindings a).map Finding.place := by
  obtain ⟨hafter, hfound⟩ := h.strings
  unfold bracketFindings
  rw [List.map_append, List.map_append, hafter, hfound]

end

/-! ## Characters of no account to a family -/

/-- The character at a position is no quote, no backtick and no bracket of the
family. -/
def ForeignAt (f : Family) (lines : List String) (p : Position) : Prop :=
  ∀ c ∈ charAt? lines p, Quote.ofChar? c = none ∧ c ≠ escapeChar ∧ f.side? c = none

instance (f : Family) (lines : List String) (p : Position) : Decidable (ForeignAt f lines p) :=
  Option.decidableForallMem (charAt? lines p)

namespace Scan

/-- The side of a family that stands at a cell, outside strings. -/
def side? (s : Scan) (f : Family) (cell : Cell) : Option Side :=
  if (s.quoteAfter cell).isSome then none else f.side? cell.char

theorem side?_eq (s : Scan) (f : Family) (cell : Cell) :
    s.side? f cell = ((s.bracket? cell).bind (Bracket.mark? f cell)).map Mark.side := by
  unfold side? bracket?
  split
  · rfl
  · rw [← mark?_eq, Cell.mark?, Option.map_map]
    cases f.side? cell.char <;> rfl

theorem side?_congr {s t : Scan} {f : Family} {c d : Cell} (hquote : t.quoteAfter d = s.quoteAfter c)
    (hside : f.side? d.char = f.side? c.char) : t.side? f d = s.side? f c := by
  unfold side?
  rw [hquote, hside]

/-- A family only knows its own brackets. -/
theorem stack_next (s : Scan) (f : Family) (cell : Cell) :
    (s.next cell).stack f = match s.side? f cell with
      | none => s.stack f
      | some .opening => (s.stack f).push cell.pos
      | some .closing => (s.stack f).pop := by
  rw [side?_eq]
  unfold next meet
  rcases s.bracket? cell with _ | g | g
  · simp
  · by_cases hg : g = f
    · simp [Bracket.mark?, hg]
    · simp [Bracket.mark?, hg]
  · by_cases hg : g = f
    · simp [Bracket.mark?, hg]
    · simp [Bracket.mark?, hg]

/-- Where the finding of a cell is, if it is about the family. -/
theorem place_finding? (s : Scan) (f : Family) (cell : Cell) :
    (s.finding? cell).bind (fun d => if d.kind.family? = some f then some d.place else none)
      = match s.side? f cell with
        | some .closing =>
          if (s.stack f).isEmpty then
            some (.unexpectedClose f, cell.pos.line, some cell.pos.column)
          else none
        | _ => none := by
  rw [side?_eq]
  unfold finding?
  rcases s.bracket? cell with _ | g | g
  · simp
  · by_cases hg : g = f
    · simp [Bracket.mark?, hg]
    · simp [Bracket.mark?, hg]
  · by_cases hg : g = f
    · subst hg
      by_cases h : (s.stack g).isEmpty
      · simp [Bracket.mark?, h, Finding.unexpectedClose, Finding.Kind.family?, Finding.place]
      · simp [Bracket.mark?, h]
    · by_cases h : (s.stack g).isEmpty
      · simp [Bracket.mark?, hg, h, Finding.unexpectedClose, Finding.Kind.family?]
      · simp [Bracket.mark?, hg, h]

/-- The second cell is like the first, or neither is of account to the family. -/
structure AlikeTo (f : Family) (c d : Cell) : Prop where
  pos : d.pos = c.pos
  escape : c.SameEscape d
  char : d.char = c.char ∨ (Quote.ofChar? c.char = none ∧ f.side? c.char = none) ∧
    Quote.ofChar? d.char = none ∧ f.side? d.char = none

/-- Two scans know the same string and the same open brackets of a family. -/
structure AgreeOn (f : Family) (s t : Scan) : Prop where
  quote : t.quote = s.quote
  stack : t.stack f = s.stack f

theorem quoteAfter_of_not_quote (s : Scan) {cell : Cell} (h : Quote.ofChar? cell.char = none) :
    s.quoteAfter cell = s.quote := by
  unfold quoteAfter Quote.after Quote.effective?
  rw [h]
  simp

theorem AlikeTo.quoteAfter {f : Family} {c d : Cell} (h : AlikeTo f c d) {s t : Scan}
    (hquote : t.quote = s.quote) : t.quoteAfter d = s.quoteAfter c := by
  rcases h.char with hchar | ⟨⟨hc, -⟩, hd, -⟩
  · exact quoteAfter_congr hquote h.escape hchar
  · rw [quoteAfter_of_not_quote s hc, quoteAfter_of_not_quote t hd, hquote]

theorem AlikeTo.side? {f : Family} {c d : Cell} (h : AlikeTo f c d) {s t : Scan}
    (hquote : t.quote = s.quote) : t.side? f d = s.side? f c := by
  apply side?_congr (h.quoteAfter hquote)
  rcases h.char with hchar | ⟨⟨-, hc⟩, -, hd⟩
  · rw [hchar]
  · rw [hc, hd]

theorem AgreeOn.next {f : Family} {s t : Scan} {c d : Cell} (h : AgreeOn f s t)
    (hcell : AlikeTo f c d) : AgreeOn f (s.next c) (t.next d) where
  quote := by rw [quote_next, quote_next, hcell.quoteAfter h.quote]
  stack := by rw [stack_next, stack_next, hcell.side? h.quote, hcell.pos, h.stack]

end Scan

section

variable {f : Family} {a b : List String}

theorem inStep_foreign (hshape : SameShape a b)
    (hforeign : ∀ p ∈ positions a, charAt? a p ≠ charAt? b p → ForeignAt f a p ∧ ForeignAt f b p) :
    InStep (fun _ => Scan.AlikeTo f) {} (cells a) (cells b) := by
  have hescapes : SameEscapes a b := by
    apply hshape.sameEscapes
    intro p hp hne
    obtain ⟨ha, hb⟩ := hforeign p hp hne
    exact ⟨fun h => (ha _ h).2.1 rfl, fun h => (hb _ h).2.1 rfl⟩
  apply hshape.inStep hescapes
  intro read c rest d hsplit hpos hescape hc hd hdiffer
  refine ⟨hpos, hescape, ?_⟩
  rcases hdiffer with hchar | ⟨hp, hne⟩
  · exact Or.inl hchar
  · obtain ⟨ha, hb⟩ := hforeign c.pos hp hne
    obtain ⟨hquote, -, hside⟩ := ha _ hc
    obtain ⟨hquote', -, hside'⟩ := hb _ hd
    exact Or.inr ⟨⟨hquote, hside⟩, hquote', hside'⟩

theorem map_place_about (f : Family) (found : List Finding) :
    (about f found).map Finding.place
      = found.filterMap fun d => if d.kind.family? = some f then some d.place else none := by
  unfold about
  rw [← List.filterMap_eq_map, List.filterMap_filter]
  simp

/-- Rows of such cells leave the family as it is, and the findings about it in
their places. -/
theorem InStep.foreign {s t : Scan} {l m : List Cell} (h : InStep (fun _ => Scan.AlikeTo f) s l m)
    (hst : Scan.AgreeOn f s t) :
    Scan.AgreeOn f (s.after l) (t.after m) ∧
      (about f (t.findings m)).map Finding.place = (about f (s.findings l)).map Finding.place := by
  rw [map_place_about, map_place_about]
  have hstep : ∀ {s t : Scan} {c d : Cell}, Scan.AgreeOn f s t → Scan.AlikeTo f c d →
      Scan.AgreeOn f (s.next c) (t.next d) ∧
        (s.finding? c).bind (fun d => if d.kind.family? = some f then some d.place else none)
          = (t.finding? d).bind fun d => if d.kind.family? = some f then some d.place else none := by
    intro s t c d hst hcell
    refine ⟨hst.next hcell, ?_⟩
    rw [Scan.place_finding?, Scan.place_finding?, hcell.side? hst.quote, hcell.pos, hst.stack]
  obtain ⟨hafter, hfound⟩ := h.simulates (Scan.AgreeOn f) hstep hst
  exact ⟨hafter, hfound.symm⟩

theorem bracketFindings_foreign (h : InStep (fun _ => Scan.AlikeTo f) {} (cells a) (cells b)) :
    (about f (bracketFindings b)).map Finding.place
      = (about f (bracketFindings a)).map Finding.place := by
  obtain ⟨hafter, hfound⟩ := h.foreign ⟨rfl, rfl⟩
  have hsplit : ∀ lines, about f (bracketFindings lines) = about f (Scan.findings {} (cells lines))
      ++ ofKind (.unclosed f) (Scan.after {} (cells lines)).unclosed := by
    intro lines
    rw [← about_eq_ofKind (fun _ => rfl) (fun _ hd => Scan.kind_of_mem_unclosed hd)]
    exact List.filter_append _ _
  rw [hsplit, hsplit, List.map_append, List.map_append, hfound, Scan.ofKind_unclosed,
    Scan.ofKind_unclosed, hafter.stack]

end

/-! ## The laws -/

/-- What a string holds is plain text. Let two scripts of one shape differ in
characters inside the strings of the first one, with no backtick among them, and
let none of these characters of the second one be the quote of its string. Then
both are in the same string, with the same brackets open, after each character,
and the findings about brackets stand in the same places. -/
theorem what_strings_hold_changes_no_finding (a b : List String) (hshape : SameShape a b)
    (hinside : ∀ p ∈ positions a, charAt? a p ≠ charAt? b p → PlainTextAt a b p) :
    (∀ p, scannedThrough b p = scannedThrough a p) ∧ scanned b = scanned a ∧
      ∃ found found', collect (bracketPass Recorder.take a) = .ok (found.length, found) ∧
        collect (bracketPass Recorder.take b) = .ok (found'.length, found') ∧
        found'.map Finding.place = found.map Finding.place := by
  have hcells := inStep_strings hshape hinside
  refine ⟨scannedThrough_strings hcells, ?_, bracketFindings a, bracketFindings b,
    collect_bracketPass a, collect_bracketPass b, bracketFindings_strings hcells⟩
  rw [scanned_eq, scanned_eq]
  exact hcells.strings.1

/-- In strings over two lines, brackets come and go, also an escaped quote and
quotes of the other sort. -/
theorem a_string_may_hold_any_brackets :
    SameShape ["\"\x60\"\x7b", "\x27\" \x7d"] ["\"\x60((", ")\" \x7d"] ∧
      (∀ p ∈ positions ["\"\x60\"\x7b", "\x27\" \x7d"],
        charAt? ["\"\x60\"\x7b", "\x27\" \x7d"] p ≠ charAt? ["\"\x60((", ")\" \x7d"] p →
          PlainTextAt ["\"\x60\"\x7b", "\x27\" \x7d"] ["\"\x60((", ")\" \x7d"] p) ∧
      ∃ found, collect (bracketPass Recorder.take ["\"\x60((", ")\" \x7d"])
          = .ok (found.length, found) ∧
        found.map Finding.place = [(.unexpectedClose .brace, 2, some 3)] := by
  have hshape : SameShape ["\"\x60\"\x7b", "\x27\" \x7d"] ["\"\x60((", ")\" \x7d"] := by decide
  have hinside : ∀ p ∈ positions ["\"\x60\"\x7b", "\x27\" \x7d"],
      charAt? ["\"\x60\"\x7b", "\x27\" \x7d"] p ≠ charAt? ["\"\x60((", ")\" \x7d"] p →
        PlainTextAt ["\"\x60\"\x7b", "\x27\" \x7d"] ["\"\x60((", ")\" \x7d"] p := by
    intro p hp hne
    refine ⟨.double, ?_⟩
    unfold scannedBefore scannedThrough
    rw [scannedCells_eq, scannedCells_eq]
    revert p
    decide +kernel
  obtain ⟨-, -, found, found', hfound, hfound', hplace⟩ :=
    what_strings_hold_changes_no_finding _ _ hshape hinside
  refine ⟨hshape, hinside, found', hfound', hplace.trans ?_⟩
  rw [eq_of_collect_bracketPass hfound]
  decide

/-- The families do not know of each other. Let two scripts of one shape differ in
characters that are no quotes, no backticks and no brackets of a family. Then the
findings about the family stand in the same places, and at the end the same
string and the same brackets of the family are open. -/
theorem other_characters_change_no_finding_about_a_family (f : Family) (a b : List String)
    (hshape : SameShape a b)
    (hforeign : ∀ p ∈ positions a, charAt? a p ≠ charAt? b p → ForeignAt f a p ∧ ForeignAt f b p) :
    (scanned b).quote = (scanned a).quote ∧ (scanned b).stack f = (scanned a).stack f ∧
      ∃ found found', collect (bracketPass Recorder.take a) = .ok (found.length, found) ∧
        collect (bracketPass Recorder.take b) = .ok (found'.length, found') ∧
        (about f found').map Finding.place = (about f found).map Finding.place := by
  have hcells := inStep_foreign hshape hforeign
  obtain ⟨hafter, -⟩ := hcells.foreign ⟨rfl, rfl⟩
  rw [scanned_eq, scanned_eq]
  exact ⟨hafter.quote, hafter.stack, bracketFindings a, bracketFindings b,
    collect_bracketPass a, collect_bracketPass b, bracketFindings_foreign hcells⟩

/-- Parentheses come and go around a brace that nothing closes. -/
theorem parentheses_change_no_finding_about_braces :
    SameShape ["( \x7b )", "\"\x7d\" x"] [")(\x7b ,", "\"\x7d\" )"] ∧
      (∀ p ∈ positions ["( \x7b )", "\"\x7d\" x"],
        charAt? ["( \x7b )", "\"\x7d\" x"] p ≠ charAt? [")(\x7b ,", "\"\x7d\" )"] p →
          ForeignAt .brace ["( \x7b )", "\"\x7d\" x"] p ∧
            ForeignAt .brace [")(\x7b ,", "\"\x7d\" )"] p) ∧
      (scanned [")(\x7b ,", "\"\x7d\" )"]).stack .brace = ⟨[⟨1, 2⟩]⟩ ∧
      ∃ found, collect (bracketPass Recorder.take [")(\x7b ,", "\"\x7d\" )"])
          = .ok (found.length, found) ∧
        (about .brace found).map Finding.place = [(.unclosed .brace, 1, some 2)] := by
  have hshape : SameShape ["( \x7b )", "\"\x7d\" x"] [")(\x7b ,", "\"\x7d\" )"] := by decide
  have hforeign : ∀ p ∈ positions ["( \x7b )", "\"\x7d\" x"],
      charAt? ["( \x7b )", "\"\x7d\" x"] p ≠ charAt? [")(\x7b ,", "\"\x7d\" )"] p →
        ForeignAt .brace ["( \x7b )", "\"\x7d\" x"] p ∧
          ForeignAt .brace [")(\x7b ,", "\"\x7d\" )"] p := by
    decide +kernel
  obtain ⟨-, hstack, found, found', hfound, hfound', hplace⟩ :=
    other_characters_change_no_finding_about_a_family .brace _ _ hshape hforeign
  refine ⟨hshape, hforeign, hstack.trans ?_, found', hfound', hplace.trans ?_⟩
  · rw [scanned_eq]
    decide
  · rw [eq_of_collect_bracketPass hfound]
    decide

end ScriptBalance
