-- Lines read one by one and lines read as one. A line feed is no quote, no
-- bracket and no backtick, so a scan reads the lines joined by line feeds as it
-- reads the lines, and only the places in the line differ.
import Mathlib.Algebra.GroupWithZero.Nat
import Mathlib.Data.List.Forall2
import ScriptBalance.Proofs.Lockstep

namespace ScriptBalance

/-! ## Places in the joined line -/

/-- Where the `i`-th of some lines starts once line feeds join them. -/
def joinedStart (lines : List String) (i : Nat) : Nat :=
  ((lines.take i).map (·.length + 1)).sum

theorem joinedStart_succ {lines : List String} {i : Nat} {line : String}
    (h : lines[i]? = some line) :
    joinedStart lines (i + 1) = joinedStart lines i + line.length + 1 := by
  unfold joinedStart
  rw [List.take_add_one, h, List.map_append, List.sum_append]
  simp [Nat.add_assoc]

/-- The place in the joined line of a position of lines that count from `num`. The
joined line has this number too. -/
def Position.joined (num : Nat) (lines : List String) (p : Position) : Position :=
  ⟨num, joinedStart lines (p.line - num) + p.column⟩

/-- A character of lines that count from `num` stands at the position. -/
def Position.Within (num : Nat) (lines : List String) (p : Position) : Prop :=
  num ≤ p.line ∧ ∃ line, lines[p.line - num]? = some line ∧ p.column < line.length

section

variable (num : Nat) (lines : List String)

/-- A finding on one of the lines and its like in the joined line. -/
def Finding.Joined (d e : Finding) : Prop :=
  e.kind = d.kind ∧
    ∃ p, p.Within num lines ∧ d.pos? = some p ∧ e.pos? = some (p.joined num lines)

/-- Two stacks that hold the same brackets of a stack `base`. Inside these, one holds
brackets on the lines, and the other holds brackets at their places in the joined
line. -/
def OpenStack.Joined (base t u : OpenStack) : Prop :=
  ∃ own kept, kept <:+ base.innermostFirst ∧ (∀ p ∈ own, p.Within num lines) ∧
    t.innermostFirst = own ++ kept ∧
    u.innermostFirst = own.map (Position.joined num lines) ++ kept

/-- A cell of one of the lines and its like in the joined line. -/
structure Cell.Joined (c d : Cell) : Prop where
  char : d.char = c.char
  escape : c.SameEscape d
  within : c.pos.Within num lines
  pos : d.pos = c.pos.joined num lines

/-- Two scans, of the lines and of the joined line, that started with the brackets of
`base`. -/
structure Scan.Joined (base s t : Scan) : Prop where
  quote : t.quote = s.quote
  stack : ∀ f, OpenStack.Joined num lines (base.stack f) (s.stack f) (t.stack f)

end

/-! ## One cell -/

section

variable {num : Nat} {lines : List String}

namespace OpenStack.Joined

variable {base t u : OpenStack}

theorem refl (base : OpenStack) : OpenStack.Joined num lines base base base :=
  ⟨[], base.innermostFirst, List.suffix_rfl, by simp, rfl, rfl⟩

theorem size (h : OpenStack.Joined num lines base t u) : u.size = t.size := by
  obtain ⟨own, kept, -, -, ht, hu⟩ := h
  unfold OpenStack.size
  rw [ht, hu, List.length_append, List.length_append, List.length_map]

theorem isEmpty (h : OpenStack.Joined num lines base t u) : u.isEmpty = t.isEmpty := by
  obtain ⟨own, kept, -, -, ht, hu⟩ := h
  unfold OpenStack.isEmpty
  rw [ht, hu]
  cases own <;> rfl

theorem push (h : OpenStack.Joined num lines base t u) {p : Position} (hp : p.Within num lines) :
    OpenStack.Joined num lines base (t.push p) (u.push (p.joined num lines)) := by
  obtain ⟨own, kept, hkept, hown, ht, hu⟩ := h
  refine ⟨p :: own, kept, hkept, List.forall_mem_cons.mpr ⟨hp, hown⟩, ?_, ?_⟩
  · rw [OpenStack.push, ht]
    rfl
  · rw [OpenStack.push, hu]
    rfl

/-- With no bracket of its own left, a scan closes the brackets of the base. -/
theorem pop (h : OpenStack.Joined num lines base t u) :
    OpenStack.Joined num lines base t.pop u.pop := by
  obtain ⟨own, kept, hkept, hown, ht, hu⟩ := h
  unfold OpenStack.pop
  rw [ht, hu]
  rcases own with _ | ⟨p, own⟩
  · exact ⟨[], kept.tail, (List.tail_suffix kept).trans hkept, hown, rfl, rfl⟩
  · exact ⟨own, kept, hkept, (List.forall_mem_cons.mp hown).2, rfl, rfl⟩

end OpenStack.Joined

namespace Scan

variable {base s t : Scan} {c d : Cell}

theorem Joined.next (h : Scan.Joined num lines base s t) (hcell : Cell.Joined num lines c d) :
    Scan.Joined num lines base (s.next c) (t.next d) := by
  have hquote := quoteAfter_congr h.quote hcell.escape hcell.char
  constructor
  · rw [quote_next, quote_next, hquote]
  · intro f
    rw [stack_next, stack_next, side?_congr hquote (by rw [hcell.char])]
    rcases s.side? f c with _ | _ | _
    · exact h.stack f
    · rw [hcell.pos]
      exact (h.stack f).push hcell.within
    · exact (h.stack f).pop

theorem Joined.finding? (h : Scan.Joined num lines base s t) (hcell : Cell.Joined num lines c d) :
    List.Forall₂ (Finding.Joined num lines) (s.finding? c).toList (t.finding? d).toList := by
  have hbracket := bracket?_congr (quoteAfter_congr h.quote hcell.escape hcell.char) hcell.char
  unfold Scan.finding?
  rw [hbracket]
  rcases s.bracket? c with _ | f | f
  · exact .nil
  · exact .nil
  · simp only [(h.stack f).isEmpty]
    by_cases hopen : (s.stack f).isEmpty
    · simp only [hopen, if_true]
      refine .cons ⟨rfl, c.pos, hcell.within, rfl, ?_⟩ .nil
      rw [← hcell.pos]
      rfl
    · simp only [hopen]
      exact .nil

/-- A character that is no quote and no bracket changes nothing. -/
theorem next_of_plain (s : Scan) {cell : Cell} (hquote : Quote.ofChar? cell.char = none)
    (hbracket : Bracket.ofChar? cell.char = none) :
    s.next cell = s ∧ s.finding? cell = none := by
  have hnone : s.bracket? cell = none := by
    unfold bracket?
    rw [hbracket, ite_self]
  constructor
  · rw [next, hnone, quoteAfter_of_not_quote s hquote]
    rfl
  · rw [finding?, hnone]

end Scan

/-! ## Rows of cells -/

/-- Two rows of cells that keep scans alike and let them find the same. -/
def ReadAlike (num : Nat) (lines : List String) (l m : List Cell) : Prop :=
  ∀ base s t, Scan.Joined num lines base s t →
    Scan.Joined num lines base (s.after l) (t.after m) ∧
      List.Forall₂ (Finding.Joined num lines) (s.findings l) (t.findings m)

namespace ReadAlike

theorem nil : ReadAlike num lines [] [] := fun _ _ _ h => ⟨h, .nil⟩

theorem append {l m l' m' : List Cell} (h : ReadAlike num lines l m)
    (h' : ReadAlike num lines l' m') : ReadAlike num lines (l ++ l') (m ++ m') := by
  intro base s t hst
  obtain ⟨hafter, hfound⟩ := h base s t hst
  obtain ⟨hafter', hfound'⟩ := h' base _ _ hafter
  rw [Scan.after_append, Scan.after_append, Scan.findings_append, Scan.findings_append]
  exact ⟨hafter', List.rel_append hfound hfound'⟩

theorem cell {c d : Cell} (h : Cell.Joined num lines c d) : ReadAlike num lines [c] [d] := by
  intro base s t hst
  rw [Scan.findings, Scan.findings, Scan.findings, Scan.findings, List.append_nil, List.append_nil]
  exact ⟨hst.next h, hst.finding? h⟩

/-- Only the joined line has the line feed. -/
theorem lineFeed {d : Cell} (h : d.char = '\n') : ReadAlike num lines [] [d] := by
  intro base s t hst
  obtain ⟨hnext, hfinding⟩ := t.next_of_plain (by rw [h]; rfl) (by rw [h]; rfl)
  rw [Scan.findings, Scan.findings, Scan.findings, hfinding]
  refine ⟨?_, .nil⟩
  show Scan.Joined num lines base s (t.next d)
  rw [hnext]
  exact hst

variable {i : Nat} {line text : String}

/-- The rest of a line is read like its place in the joined line. -/
theorem lineFrom (hline : lines[i]? = some line) {chars : List Char} {prev prev' : Option Char}
    {column : Nat} (hprev : prev' = some escapeChar ↔ prev = some escapeChar)
    (hlength : column + chars.length = line.length) :
    ReadAlike num lines (cellsFrom (num + i) line prev column chars)
      (cellsFrom num text prev' (joinedStart lines i + column) chars) := by
  induction chars generalizing prev prev' column with
  | nil => exact nil
  | cons c rest ih =>
    rw [List.length_cons] at hlength
    have hoffset : num + i - num = i := Nat.add_sub_cancel_left num i
    have hfirst : Cell.Joined num lines ⟨⟨num + i, column⟩, prev, c, line⟩
        ⟨⟨num, joinedStart lines i + column⟩, prev', c, text⟩ := by
      refine ⟨rfl, hprev, ⟨Nat.le_add_right num i, line, ?_, ?_⟩, ?_⟩
      · rw [hoffset]
        exact hline
      · show column < line.length
        omega
      · unfold Position.joined
        rw [hoffset]
    exact (cell hfirst).append (ih Iff.rfl (by omega))

end ReadAlike

theorem cellsFrom_append (num : Nat) (line : String) (prev : Option Char) (column : Nat)
    (a b : List Char) :
    ∃ last, cellsFrom num line prev column (a ++ b)
      = cellsFrom num line prev column a ++ cellsFrom num line last (column + a.length) b := by
  induction a generalizing prev column with
  | nil => exact ⟨prev, rfl⟩
  | cons c rest ih =>
    obtain ⟨last, hrest⟩ := ih (some c) (column + 1)
    refine ⟨last, ?_⟩
    rw [List.cons_append, cellsFrom, cellsFrom, hrest, List.length_cons, List.cons_append,
      Nat.add_assoc column, Nat.add_comm 1]

/-- From one line on, lines are read like their place in the joined line. What stands
before that place may be a line feed, but no backtick. -/
theorem readAlike_lines {rest : List String} {i : Nat} (hrest : lines.drop i = rest) (text : String)
    {prev : Option Char} (hprev : prev ≠ some escapeChar) :
    ReadAlike num lines ((rest.zipIdx (num + i)).flatMap fun p => lineCells p.2 p.1)
      (cellsFrom num text prev (joinedStart lines i) ("\n".intercalate rest).toList) := by
  induction rest generalizing i prev with
  | nil =>
    rw [String.intercalate_nil]
    exact ReadAlike.nil
  | cons line rest ih =>
    have hline : lines[i]? = some line := by
      rw [← List.head?_drop, hrest]
      rfl
    have htail : lines.drop (i + 1) = rest := by
      rw [← List.tail_drop, hrest]
      rfl
    have hread : ReadAlike num lines (lineCells (num + i) line)
        (cellsFrom num text prev (joinedStart lines i) line.toList) :=
      ReadAlike.lineFrom hline (iff_of_false hprev nofun) (Nat.zero_add _)
    rw [List.zipIdx_cons, List.flatMap_cons]
    -- a line feed follows every line but the last
    rcases rest with _ | ⟨next, rest⟩
    · rw [String.intercalate_singleton]
      simpa using hread
    · obtain ⟨last, hjoint⟩ := cellsFrom_append num text prev (joinedStart lines i) line.toList
        ('\n' :: ("\n".intercalate (next :: rest)).toList)
      have hchars : ("\n".intercalate (line :: next :: rest)).toList
          = line.toList ++ '\n' :: ("\n".intercalate (next :: rest)).toList := by
        rw [String.intercalate_cons_cons]
        simp
      have hfeed : some '\n' ≠ some escapeChar := by decide
      have hafter := ih htail hfeed
      rw [joinedStart_succ hline] at hafter
      rw [hchars, hjoint, cellsFrom]
      exact hread.append ((ReadAlike.lineFeed rfl).append hafter)

end

/-! ## The laws -/

/-- Lines may be joined. From any scan, a scan of lines one by one and a scan of the
lines joined by line feeds as one line end in the same string and count as many
findings, of the same kinds, at the places that belong to each other. They leave as
many brackets open: the same of those that were open before, and inside them
brackets at places that belong to each other. -/
theorem joined_lines_are_read_as_the_lines_are (s : Scan) (num : Nat) (lines : List String) :
    ∃ n apart whole,
      CheckM.total (fun (line, num) => scanLine Recorder.take num line) (lines.zipIdx num)
          { scan := s, sink := {} } = .ok n apart ∧
        scanLine Recorder.take num ("\n".intercalate lines) { scan := s, sink := {} }
          = .ok n whole ∧
        whole.scan.quote = apart.scan.quote ∧
        apart.sink.findings.length = n ∧
        List.Forall₂ (Finding.Joined num lines) apart.sink.findings whole.sink.findings ∧
        ∀ f, (whole.scan.stack f).size = (apart.scan.stack f).size ∧
          OpenStack.Joined num lines (s.stack f) (apart.scan.stack f) (whole.scan.stack f) := by
  have hread : ReadAlike num lines ((lines.zipIdx num).flatMap fun p => lineCells p.2 p.1)
      (lineCells num ("\n".intercalate lines)) :=
    readAlike_lines (i := 0) rfl _ nofun
  obtain ⟨hscan, hfound⟩ := hread s s s ⟨rfl, fun f => .refl (s.stack f)⟩
  obtain ⟨apart, hapart, hfindings, hafter⟩ :=
    (streams_scanLinesFrom Recorder.take s num lines).take
  obtain ⟨whole, hwhole, hfindings', hafter'⟩ :=
    (streams_scanLine Recorder.take s num ("\n".intercalate lines)).take
  rw [entriesOf_chain_cells, List.length_map] at hapart hwhole
  rw [entriesOf_chain_cells, filterMap_finding?] at hfindings hfindings'
  rw [scanAfterAll_chain_cells] at hafter hafter'
  rw [← hfound.length_eq] at hwhole
  refine ⟨_, apart, whole, hapart, hwhole, ?_, ?_, ?_, ?_⟩
  · rw [hafter, hafter', hscan.quote]
  · rw [hfindings]
  · rw [hfindings, hfindings']
    exact hfound
  · intro f
    rw [hafter, hafter']
    exact ⟨(hscan.stack f).size, hscan.stack f⟩

-- a backtick that ends a line does not reach the quote that starts the next one
example : (Scan.after {} (lineCells 1 "\x60\n\"")).quote = some .double := by decide

end ScriptBalance
