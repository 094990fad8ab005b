-- A sink that refuses a finding in the middle of a line. The scan stops at once,
-- and it has then read the line up to the closing bracket that the finding is
-- about, that bracket included. What is left of the line can be read on from
-- there as a line of its own: no bracket is lost and none counts twice.
import ScriptBalance.Proofs.Lockstep

namespace ScriptBalance

variable {σ ε : Type}

/-! ## A sink that refuses one finding -/

/-- From a state, a sink takes this many findings, whatever they are, and refuses
the next one. -/
def TakesOnly (sink : Sink σ ε) : Nat → σ → Prop
  | 0, state => ∀ d, ∃ err after, sink (.finding d) state = .error err after
  | k + 1, state => ∀ d, ∃ after, sink (.finding d) state = .ok () after ∧ TakesOnly sink k after

namespace TakesOnly

variable {sink : Sink σ ε} {state : σ}

/-- What the sink can take, it takes, and it can then take so much less. -/
theorem run {found : List Finding} {k : Nat} (h : TakesOnly sink (found.length + k) state) :
    ∃ after, (found.map .finding).forM sink state = .ok () after ∧ TakesOnly sink k after := by
  induction found generalizing state with
  | nil =>
    rw [List.length_nil, Nat.zero_add] at h
    exact ⟨state, rfl, h⟩
  | cons d rest ih =>
    rw [List.length_cons, Nat.add_right_comm] at h
    obtain ⟨next, htaken, hnext⟩ := h d
    obtain ⟨after, hrun, hafter⟩ := ih hnext
    refine ⟨after, ?_, hafter⟩
    rw [List.map_cons, List.forM_eq_forM, List.forM_cons, bind_apply, htaken]
    exact hrun

/-- A recorder that is told which finding to refuse takes those before it. -/
theorem recorder (k : Nat) (r : Recorder) (h : r.refusedFinding = some (r.offered + k + 1)) :
    TakesOnly Recorder.take k r := by
  induction k generalizing r with
  | zero =>
    intro d
    refine ⟨.finding, { r with offered := r.offered + 1 }, ?_⟩
    simp [Recorder.take, h]
  | succ k ih =>
    intro d
    refine ⟨{ r with offered := r.offered + 1, entries := r.entries.push (.finding d) }, ?_, ?_⟩
    · simp [Recorder.take, h]
    · apply ih
      rw [h, Nat.add_right_comm r.offered 1 k]
      rfl

end TakesOnly

theorem Recorder.eq_finding_of_take {d : Finding} {r after : Recorder} {err : Refusal}
    (h : Recorder.take (.finding d) r = .error err after) : err = .finding := by
  unfold take at h
  dsimp only at h
  split at h
  · cases h
    rfl
  · cases h

/-! ## A run that is refused an entry -/

/-- Actions stop at the entry that the sink refuses. The session then holds the scan
that the actions before it leave. -/
theorem performAll_refused {sink : Sink σ ε} {taken : List Action} {e : Entry} {x : Session σ}
    {before after : σ} {err : ε} (more : List Action)
    (htaken : (entriesOf taken).forM sink x.sink = .ok () before)
    (hrefused : sink e before = .error err after) :
    ∃ last, performAll sink (taken ++ .send e :: more) x = .error err last ∧
      last.sink = after ∧ last.scan = scanAfterAll x.scan taken := by
  rw [performAll_append, bind_apply]
  rw [← onSink_performAll] at htaken
  cases hrun : performAll sink taken x with
  | error err' y =>
    rw [hrun] at htaken
    cases htaken
  | ok u y =>
    rw [hrun] at htaken
    injection htaken with _ hsink
    have hscan := scan_of_performAll sink taken x y hrun
    refine ⟨{ y with sink := after }, ?_, rfl, hscan⟩
    dsimp only
    rw [performAll_cons, bind_apply, Action.perform, send_apply, hsink, hrefused]

/-- A computation whose actions stop stops with them. -/
theorem Performs.error_eq {α : Type} {sink : Sink σ ε} {act : CheckM σ ε α}
    {actions : List Action} {a : α} {x last : Session σ} {err : ε}
    (h : Performs sink act x.scan actions a) (hrun : performAll sink actions x = .error err last) :
    act x = .error err last := by
  obtain ⟨scan, log, state⟩ := x
  rw [h log state, bind_apply, hrun]

namespace Scan

/-- The cell of a finding, and the findings on both sides of it. -/
theorem exists_of_getElem?_findings {s : Scan} {l : List Cell} {k : Nat} {d : Finding}
    (h : (s.findings l)[k]? = some d) :
    ∃ read cell rest, l = read ++ cell :: rest ∧ (s.after read).finding? cell = some d ∧
      s.findings read = (s.findings l).take k ∧
      ((s.after read).next cell).findings rest = (s.findings l).drop (k + 1) := by
  induction l generalizing s k with
  | nil => cases h
  | cons c rest ih =>
    rw [findings] at h ⊢
    cases hfinding : s.finding? c with
    | none =>
      rw [hfinding] at h
      obtain ⟨read, cell, rest', rfl, hd, hread, hrest⟩ := ih h
      refine ⟨c :: read, cell, rest', rfl, hd, ?_, hrest⟩
      rw [findings, hfinding]
      exact hread
    | some first =>
      rw [hfinding] at h
      cases k with
      | zero =>
        cases h
        exact ⟨[], c, rest, rfl, hfinding, rfl, rfl⟩
      | succ k =>
        obtain ⟨read, cell, rest', rfl, hd, hread, hrest⟩ := ih h
        refine ⟨c :: read, cell, rest', rfl, hd, ?_, hrest⟩
        rw [findings, hfinding, hread]
        rfl

/-- A closing bracket that closes nothing stands outside strings, and no bracket of its
family is open after it. -/
theorem next_of_finding? {s : Scan} {cell : Cell} {d : Finding} (h : s.finding? cell = some d) :
    (s.next cell).inString = false ∧
      ∃ f, d = .unexpectedClose f cell ∧ ((s.next cell).stack f).isEmpty = true := by
  unfold finding? at h
  split at h
  · rename_i f hbracket
    split at h
    · rename_i hempty
      cases h
      constructor
      · unfold bracket? at hbracket
        split at hbracket
        · cases hbracket
        · rename_i hquote
          rw [inString, quote_next]
          simpa using hquote
      · refine ⟨f, rfl, ?_⟩
        rw [stack_next, side?_eq, hbracket]
        simp only [Option.bind_some, Bracket.mark?, if_true, Option.map_some]
        unfold OpenStack.isEmpty at hempty ⊢
        rw [List.isEmpty_iff] at hempty
        simp [OpenStack.pop, hempty]
    · cases h
  · cases h

/-! ## What is left of a line -/

/-- Two scans are in the same string and have as many brackets of each family open. -/
structure SameDepths (s t : Scan) : Prop where
  quote : t.quote = s.quote
  size : ∀ f, (t.stack f).size = (s.stack f).size

theorem SameDepths.isEmpty {s t : Scan} (h : SameDepths s t) (f : Family) :
    (t.stack f).isEmpty = (s.stack f).isEmpty := by
  unfold OpenStack.isEmpty
  rw [Bool.eq_iff_iff, List.isEmpty_iff_length_eq_zero, List.isEmpty_iff_length_eq_zero]
  exact Eq.congr_left (h.size f)

/-- The second cell has the character of the first, and both or neither of them stand
behind a backtick. -/
structure ReadAs (c d : Cell) : Prop where
  escape : c.SameEscape d
  char : d.char = c.char

theorem SameDepths.next {s t : Scan} {c d : Cell} (h : SameDepths s t) (hcell : ReadAs c d) :
    SameDepths (s.next c) (t.next d) ∧
      (s.finding? c).bind (some ∘ Finding.kind) = (t.finding? d).bind (some ∘ Finding.kind) := by
  have hquote := quoteAfter_congr h.quote hcell.escape hcell.char
  refine ⟨⟨?_, ?_⟩, ?_⟩
  · rw [quote_next, quote_next, hquote]
  · intro f
    have hsize := h.size f
    rw [stack_next, stack_next, side?_congr hquote (by rw [hcell.char])]
    rcases s.side? f c with _ | _ | _
    · exact hsize
    · simpa [OpenStack.size, OpenStack.push] using hsize
    · unfold OpenStack.size at hsize
      simp [OpenStack.size, OpenStack.pop, hsize]
  · unfold finding?
    rw [bracket?_congr hquote hcell.char]
    rcases s.bracket? c with _ | f | f
    · rfl
    · rfl
    · simp only [h.isEmpty f]
      by_cases hempty : (s.stack f).isEmpty
      · simp [hempty, Finding.unexpectedClose]
      · simp [hempty]

end Scan

/-- The rest of a line is read as a line of its own, if no backtick stands before
it. -/
theorem inStep_rest (s : Scan) (num num' : Nat) (line line' : String) {prev prev' : Option Char}
    (hprev : prev' = some escapeChar ↔ prev = some escapeChar) (column column' : Nat)
    (chars : List Char) :
    InStep (fun _ => Scan.ReadAs) s (cellsFrom num line prev column chars)
      (cellsFrom num' line' prev' column' chars) := by
  induction chars generalizing s prev prev' column column' with
  | nil => exact .nil
  | cons c rest ih => exact .cons ⟨hprev, rfl⟩ (ih _ Iff.rfl _ _)

theorem InStep.sameDepths {s t : Scan} {l m : List Cell}
    (h : InStep (fun _ => Scan.ReadAs) s l m) (hst : Scan.SameDepths s t) :
    Scan.SameDepths (s.after l) (t.after m) ∧
      (t.findings m).map Finding.kind = (s.findings l).map Finding.kind := by
  obtain ⟨hafter, hkinds⟩ := h.simulates Scan.SameDepths (fun hst hcell => hst.next hcell) hst
  rw [List.filterMap_eq_map] at hkinds
  exact ⟨hafter, hkinds.symm⟩

/-- A line up to a column, the character there included. -/
def lineThrough (line : String) (column : Nat) : String :=
  String.ofList (line.toList.take (column + 1))

/-- A line behind a column. -/
def lineBehind (line : String) (column : Nat) : String :=
  String.ofList (line.toList.drop (column + 1))

theorem cellsFrom_onLine (num : Nat) (line line' : String) (prev : Option Char) (column : Nat)
    (chars : List Char) :
    cellsFrom num line' prev column chars
      = (cellsFrom num line prev column chars).map ({ · with line := line' }) := by
  induction chars generalizing prev column with
  | nil => rfl
  | cons c rest ih => rw [cellsFrom, cellsFrom, ih, List.map_cons]

/-- A scan does not look at the lines of its cells. -/
theorem Scan.after_onLine (s : Scan) (cells : List Cell) (line : String) :
    s.after (cells.map ({ · with line := line })) = s.after cells := by
  unfold after
  rw [List.foldl_map]
  rfl

theorem take_cellsFrom (num : Nat) (line : String) (prev : Option Char) (column : Nat)
    (chars : List Char) (n : Nat) :
    (cellsFrom num line prev column chars).take n
      = cellsFrom num line prev column (chars.take n) := by
  induction chars generalizing prev column n with
  | nil => simp [cellsFrom]
  | cons c rest ih =>
    cases n with
    | zero => rfl
    | succ n => rw [cellsFrom, List.take_succ_cons, ih, List.take_succ_cons, cellsFrom]

theorem drop_cellsFrom (num : Nat) (line : String) (prev : Option Char) (column : Nat)
    (chars : List Char) (n : Nat) :
    (cellsFrom num line prev column chars).drop (n + 1)
      = cellsFrom num line chars[n]? (column + n + 1) (chars.drop (n + 1)) := by
  induction chars generalizing prev column n with
  | nil => simp [cellsFrom]
  | cons c rest ih =>
    cases n with
    | zero => rfl
    | succ n =>
      rw [cellsFrom, List.drop_succ_cons, ih, List.drop_succ_cons, List.getElem?_cons_succ,
        Nat.add_right_comm column 1 n]
      rfl

/-- A cell parts the cells of its line where it parts the line. -/
theorem lineCells_around {num : Nat} {line : String} {read rest : List Cell} {cell : Cell}
    (h : lineCells num line = read ++ cell :: rest) :
    read ++ [cell] = cellsFrom num line none 0 (lineThrough line cell.pos.column).toList ∧
      rest = cellsFrom num line (some cell.char) (cell.pos.column + 1)
        (lineBehind line cell.pos.column).toList := by
  have hcell : (lineCells num line)[read.length]? = some cell := by simp [h]
  unfold lineCells at hcell h
  rw [getElem?_cellsFrom, Option.map_eq_some_iff] at hcell
  obtain ⟨c, hchar, hcell⟩ := hcell
  have hcolumn : cell.pos.column = read.length := by rw [← hcell, Nat.zero_add]
  have hsame : cell.char = c := by rw [← hcell]
  rw [lineThrough, lineBehind, String.toList_ofList, String.toList_ofList, hcolumn, hsame]
  constructor
  · rw [← take_cellsFrom, h, List.take_length_add_append]
    rfl
  · have hdrop := drop_cellsFrom num line none 0 line.toList read.length
    rw [h, hchar, Nat.zero_add, List.drop_length_add_append] at hdrop
    exact hdrop

/-! ## Scans of one line -/

/-- With a sink that takes everything, a scan of a line returns, it counts what it has
found, and this is the session that it leaves. -/
def Reads (s : Scan) (num : Nat) (line : String) (last : Session Recorder) : Prop :=
  scanLine Recorder.take num line { scan := s, sink := {} } = .ok last.sink.findings.length last

theorem exists_reads (s : Scan) (num : Nat) (line : String) :
    ∃ last, Reads s num line last ∧ last.scan = s.after (lineCells num line) ∧
      last.sink.findings = s.findings (lineCells num line) := by
  obtain ⟨last, hrun, hfindings, hscan⟩ := (streams_scanLine Recorder.take s num line).take
  rw [entriesOf_chain_cells, List.length_map] at hrun
  rw [entriesOf_chain_cells, filterMap_finding?] at hfindings
  rw [scanAfterAll_chain_cells] at hscan
  refine ⟨last, ?_, hscan, hfindings⟩
  unfold Reads
  rw [hrun, hfindings]

/-- There is only one such session. -/
theorem Reads.unique {s : Scan} {num : Nat} {line : String} {last last' : Session Recorder}
    (h : Reads s num line last) (h' : Reads s num line last') : last = last' := by
  unfold Reads at h h'
  rw [h] at h'
  injection h'

/-- The columns of the findings of a line go up. -/
theorem exists_columns (s : Scan) (num : Nat) (line : String) :
    ∃ columns : List Nat, columns.Pairwise (· < ·) ∧
      (s.findings (lineCells num line)).map Finding.column = columns.map some := by
  have hfound := (s.positions_findings (lineCells num line)).map (Option.map Position.column)
  have hcells : ((lineCells num line).map fun cell => some cell.pos).map
      (Option.map Position.column) = (List.range' 0 line.toList.length).map some := by
    have hpositions := congrArg (List.map fun p => some p.column)
      (map_pos_cellsFrom num line none 0 line.toList)
    rw [List.map_map, List.map_map] at hpositions
    rw [List.map_map]
    exact hpositions
  rw [hcells, List.map_map] at hfound
  obtain ⟨columns, hsublist, hcolumns⟩ := List.sublist_map_iff.mp hfound
  refine ⟨columns, List.Pairwise.sublist hsublist List.pairwise_lt_range', ?_⟩
  rw [← hcolumns]
  apply List.map_congr_left
  intro d _
  simp [Finding.pos?, Function.comp_def]

/-- A scan has read a cell when it hands over the finding there. -/
theorem cellActions_of_finding? {s : Scan} {cell : Cell} {d : Finding}
    (h : s.finding? cell = some d) :
    ∃ reading, cellActions s cell = reading ++ [.send (.finding d)] ∧ entriesOf reading = [] ∧
      ∀ t, scanAfterAll t reading = s.next cell := by
  refine ⟨.setScan (s.next cell) :: (s.record? cell).toList.map .note, ?_, ?_, ?_⟩
  · rw [cellActions, h]
    rfl
  · cases s.record? cell <;> rfl
  · intro t
    cases s.record? cell <;> rfl

/-- What a scan does up to the finding of a cell. -/
theorem exists_chain_cells {s : Scan} {read : List Cell} {cell : Cell} {d : Finding}
    (rest : List Cell) (h : (s.after read).finding? cell = some d) :
    ∃ taken more, chain cellActions s (read ++ cell :: rest)
        = taken ++ .send (.finding d) :: more ∧
      entriesOf taken = (s.findings read).map .finding ∧
      scanAfterAll s taken = (s.after read).next cell := by
  obtain ⟨reading, hactions, hentries, hscan⟩ := cellActions_of_finding? h
  refine ⟨chain cellActions s read ++ reading,
    chain cellActions ((s.after read).next cell) rest, ?_, ?_, ?_⟩
  · rw [chain_append, scanAfterAll_chain_cells, chain, scanAfterAll_cellActions, hactions]
    simp
  · rw [entriesOf_append, entriesOf_chain_cells, hentries, List.append_nil]
  · rw [scanAfterAll_append, hscan]

/-- A scan of a line that the sink takes all findings of. -/
theorem scanLine_taken {sink : Sink σ ε} {x : Session σ} {num : Nat} {line : String} {after : σ}
    (h : ((x.scan.findings (lineCells num line)).map .finding).forM sink x.sink = .ok () after) :
    ∃ last, scanLine sink num line x
        = .ok (x.scan.findings (lineCells num line)).length last ∧ last.sink = after ∧
      last.scan = x.scan.after (lineCells num line) := by
  rw [← entriesOf_chain_cells] at h
  obtain ⟨last, hrun, hsink, hlast⟩ := (streams_scanLine sink x.scan num line).ok_of_forM h
  rw [entriesOf_chain_cells, List.length_map] at hrun
  rw [scanAfterAll_chain_cells] at hlast
  exact ⟨last, hrun, hsink, hlast⟩

/-- A scan of a line that the sink refuses a finding on. -/
theorem scanLine_refused {sink : Sink σ ε} {x : Session σ} {num : Nat} {line : String}
    {read rest : List Cell} {cell : Cell} {d : Finding} {before after : σ} {err : ε}
    (hcells : lineCells num line = read ++ cell :: rest)
    (hfinding : (x.scan.after read).finding? cell = some d)
    (htaken : ((x.scan.findings read).map .finding).forM sink x.sink = .ok () before)
    (hrefused : sink (.finding d) before = .error err after) :
    ∃ last, scanLine sink num line x = .error err last ∧ last.sink = after ∧
      last.scan = (x.scan.after read).next cell := by
  obtain ⟨taken, more, hactions, hentries, hscan⟩ := exists_chain_cells rest hfinding
  rw [← hentries] at htaken
  obtain ⟨last, hrun, hlast⟩ := performAll_refused more htaken hrefused
  have hperforms := streams_scanLine sink x.scan num line
  rw [← hactions, ← hcells] at hrun
  rw [hscan] at hlast
  exact ⟨last, hperforms.error_eq hrun, hlast⟩

/-- What is left of a line behind a finding is read from the scan at the finding as it
is read without a stop. -/
theorem sameDepths_behind {s : Scan} {num : Nat} {line : String} {read rest : List Cell}
    {cell : Cell} {d : Finding} (hcells : lineCells num line = read ++ cell :: rest)
    (hfinding : (s.after read).finding? cell = some d) (num' : Nat) :
    Scan.SameDepths (s.after (lineCells num line))
        (((s.after read).next cell).after
          (lineCells num' (lineBehind line cell.pos.column))) ∧
      (((s.after read).next cell).findings
          (lineCells num' (lineBehind line cell.pos.column))).map Finding.kind
        = (((s.after read).next cell).findings rest).map Finding.kind := by
  obtain ⟨-, hrest⟩ := lineCells_around hcells
  -- the bracket that is dropped from in front of the rest is no backtick
  have hprev : (none : Option Char) = some escapeChar ↔ some cell.char = some escapeChar := by
    obtain ⟨f, -, hchar⟩ := Scan.of_finding? hfinding
    rw [hchar]
    cases f <;> decide
  have hstep := inStep_rest ((s.after read).next cell) num num' line
    (lineBehind line cell.pos.column) hprev (cell.pos.column + 1) 0
    (lineBehind line cell.pos.column).toList
  rw [← hrest] at hstep
  have hafter : s.after (lineCells num line) = ((s.after read).next cell).after rest := by
    rw [hcells, Scan.after_append]
    rfl
  rw [hafter]
  exact hstep.sameDepths ⟨rfl, fun _ => rfl⟩

/-- The line up to a finding is read as far as the scan at the finding. -/
theorem after_lineThrough {s : Scan} {num : Nat} {line : String} {read rest : List Cell}
    {cell : Cell} (hcells : lineCells num line = read ++ cell :: rest) :
    s.after (lineCells num (lineThrough line cell.pos.column)) = (s.after read).next cell := by
  obtain ⟨hread, -⟩ := lineCells_around hcells
  rw [lineCells, cellsFrom_onLine num line, Scan.after_onLine, ← hread, Scan.after_append]
  rfl

/-- A scan that has stopped at a finding in a column of a line. It has read the line up
to that column and stands outside strings, and no bracket of the family that the
finding is about is open. -/
structure StoppedAt (s : Scan) (num : Nat) (line : String) (column : Nat) (refused : Finding)
    (stopped : Scan) : Prop where
  read : ∃ last, Reads s num (lineThrough line column) last ∧ last.scan = stopped
  outside : stopped.inString = false
  empty : ∃ f, refused.kind = .unexpectedClose f ∧ (stopped.stack f).isEmpty = true

/-- Read as a line of its own, under any number, a text leads a scan to the same string
and to as many open brackets as another scan has, with findings of the same kinds. -/
def LeadsTo (s : Scan) (text : String) (other : Scan) (found : List Finding) : Prop :=
  ∀ num, ∃ last, Reads s num text last ∧ Scan.SameDepths other last.scan ∧
    last.sink.findings.map Finding.kind = found.map Finding.kind

theorem stoppedAt_finding {s : Scan} {num : Nat} {line : String} {read rest : List Cell}
    {cell : Cell} {d : Finding} (hcells : lineCells num line = read ++ cell :: rest)
    (hfinding : (s.after read).finding? cell = some d) :
    StoppedAt s num line cell.pos.column d ((s.after read).next cell) := by
  obtain ⟨last, hlast, hscan, -⟩ := exists_reads s num (lineThrough line cell.pos.column)
  rw [after_lineThrough hcells] at hscan
  obtain ⟨houtside, f, rfl, hempty⟩ := Scan.next_of_finding? hfinding
  exact ⟨⟨last, hlast, hscan⟩, houtside, f, rfl, hempty⟩

theorem leadsTo_behind {s : Scan} {num : Nat} {line : String} {read rest : List Cell}
    {cell : Cell} {d : Finding} (hcells : lineCells num line = read ++ cell :: rest)
    (hfinding : (s.after read).finding? cell = some d) :
    LeadsTo ((s.after read).next cell) (lineBehind line cell.pos.column)
      (s.after (lineCells num line)) (((s.after read).next cell).findings rest) := by
  intro num'
  obtain ⟨last, hlast, hscan, hfindings⟩ :=
    exists_reads ((s.after read).next cell) num' (lineBehind line cell.pos.column)
  obtain ⟨hdepths, hkinds⟩ := sameDepths_behind hcells hfinding num'
  rw [← hscan] at hdepths
  rw [← hfindings] at hkinds
  exact ⟨last, hlast, hdepths, hkinds⟩

/-! ## The laws -/

/-- A line can be read on behind a refused finding. Let a sink take `k` findings and
refuse the next. If the line has no more, the scan of the line ends as it does with a
sink that takes everything. If it has more, it fails with the error of the sink at the
first finding behind these `k`, after the sink was given them and nothing else. It has
then read the line up to the column of that finding, and what is left of the line, read
as a line of its own, leads from there to where the whole line leads. -/
theorem a_line_can_be_read_on_behind_a_refusal (sink : Sink σ ε) (k : Nat) (x : Session σ)
    (h : TakesOnly sink k x.sink) (num : Nat) (line : String) :
    ∃ (whole : Session Recorder) (columns : List Nat), Reads x.scan num line whole ∧
      columns.Pairwise (· < ·) ∧ whole.sink.findings.map Finding.column = columns.map some ∧
      match columns[k]? with
      | none =>
        ∃ last, scanLine sink num line x = .ok whole.sink.findings.length last ∧
          (whole.sink.findings.map .finding).forM sink x.sink = .ok () last.sink ∧
          last.scan = whole.scan
      | some column =>
        ∃ refused before err last, whole.sink.findings[k]? = some refused ∧
          scanLine sink num line x = .error err last ∧
          ((whole.sink.findings.take k).map .finding).forM sink x.sink = .ok () before ∧
          sink (.finding refused) before = .error err last.sink ∧
          StoppedAt x.scan num line column refused last.scan ∧
          LeadsTo last.scan (lineBehind line column) whole.scan
            (whole.sink.findings.drop (k + 1)) := by
  obtain ⟨whole, hwhole, hscan, hfindings⟩ := exists_reads x.scan num line
  obtain ⟨columns, hsorted, hcolumns⟩ := exists_columns x.scan num line
  refine ⟨whole, columns, hwhole, hsorted, by rw [hfindings]; exact hcolumns, ?_⟩
  rw [hscan, hfindings]
  cases hcolumn : columns[k]? with
  | none =>
    have hk : (x.scan.findings (lineCells num line)).length ≤ k := by
      rw [← List.length_map Finding.column, hcolumns, List.length_map]
      exact List.getElem?_eq_none_iff.mp hcolumn
    rw [← Nat.add_sub_of_le hk] at h
    obtain ⟨after, htaken, -⟩ := h.run
    obtain ⟨last, hrun, rfl, hlast⟩ := scanLine_taken htaken
    exact ⟨last, hrun, htaken, hlast⟩
  | some column =>
    have hd : ((x.scan.findings (lineCells num line)).map Finding.column)[k]?
        = some (some column) := by
      rw [hcolumns, List.getElem?_map, hcolumn]
      rfl
    rw [List.getElem?_map, Option.map_eq_some_iff] at hd
    obtain ⟨d, hd, hdcolumn⟩ := hd
    obtain ⟨read, cell, rest, hcells, hfinding, hread, hrest⟩ :=
      Scan.exists_of_getElem?_findings hd
    obtain ⟨f, hkind, -⟩ := Scan.of_finding? hfinding
    rw [hkind] at hdcolumn
    cases hdcolumn
    have hlength : (x.scan.findings read).length = k := by
      rw [hread]
      exact List.length_take_of_le (List.getElem?_eq_some_iff.mp hd).1.le
    rw [← hlength] at h
    obtain ⟨before, htaken, hrefuses⟩ := TakesOnly.run (k := 0) h
    obtain ⟨err, after, hrefused⟩ := hrefuses d
    obtain ⟨last, hrun, rfl, hlast⟩ := scanLine_refused hcells hfinding htaken hrefused
    rw [hread] at htaken
    refine ⟨d, before, err, last, hd, hrun, htaken, hrefused, ?_, ?_⟩
    · rw [hlast]
      exact stoppedAt_finding hcells hfinding
    · rw [hlast, ← hrest]
      exact leadsTo_behind hcells hfinding

/-- The first parenthesis of the line closes the one that is open, and the second one is
refused. Behind it stand a parenthesis in a string and a brace. -/
theorem a_refused_parenthesis_is_read_past :
    TakesOnly Recorder.take 1 { refusedFinding := some 2 } ∧
      ∃ last, scanLine Recorder.take 2 "\"\x7d))')'\x7d\x7b\""
          { scan := ⟨some .double, {}, ⟨[⟨1, 0⟩]⟩⟩, sink := { refusedFinding := some 2 } }
            = .error .finding last ∧
        last.scan = {} ∧
        LeadsTo last.scan (lineBehind "\"\x7d))')'\x7d\x7b\"" 3) ⟨some .double, ⟨[⟨2, 8⟩]⟩, {}⟩
          [⟨.unexpectedClose .brace, 2, some 7, some "\"\x7d))')'\x7d\x7b\""⟩] := by
  have htakes : TakesOnly Recorder.take 1 { refusedFinding := some 2 } :=
    TakesOnly.recorder 1 { refusedFinding := some 2 } rfl
  obtain ⟨whole, columns, hwhole, -, hcolumns, hstop⟩ :=
    a_line_can_be_read_on_behind_a_refusal Recorder.take 1
      { scan := ⟨some .double, {}, ⟨[⟨1, 0⟩]⟩⟩, sink := { refusedFinding := some 2 } } htakes 2
      "\"\x7d))')'\x7d\x7b\""
  obtain ⟨whole', hwhole', hscan, hfindings⟩ :=
    exists_reads ⟨some .double, {}, ⟨[⟨1, 0⟩]⟩⟩ 2 "\"\x7d))')'\x7d\x7b\""
  cases hwhole.unique hwhole'
  have hvalues : columns = [1, 3, 7] := by
    rw [hfindings] at hcolumns
    apply List.map_injective_iff.mpr (Option.some_injective Nat)
    rw [← hcolumns]
    decide
  subst hvalues
  obtain ⟨refused, before, err, last, hrefused, hrun, htaken, herr, hstopped, hleads⟩ := hstop
  refine ⟨htakes, last, ?_, ?_, ?_⟩
  · rw [hrun, Recorder.eq_finding_of_take herr]
  · obtain ⟨through, hthrough, hscan'⟩ := hstopped.read
    obtain ⟨through', hthrough', hafter, -⟩ := exists_reads ⟨some .double, {}, ⟨[⟨1, 0⟩]⟩⟩ 2
      (lineThrough "\"\x7d))')'\x7d\x7b\"" 3)
    cases hthrough.unique hthrough'
    rw [← hscan', hafter]
    decide
  · rw [hscan, hfindings] at hleads
    exact hleads

end ScriptBalance
