-- What a check does does not depend on its sink: it takes a fixed list of
-- actions, one after the other, and stops at the first entry that the sink
-- refuses. So a check is the run of its sink over a list of entries that is
-- known without any sink. The passes count by an addition, and all that is said
-- of them here holds as long as it is exact for the sums that they come to.
import ScriptBalance.Proofs.Actions
import ScriptBalance.Recorder

namespace ScriptBalance

variable {σ ε β : Type}

/-! ## The actions of a check -/

def sends (found : List Finding) : List Action := found.map fun f => .send (.finding f)

@[simp] theorem entriesOf_sends (found : List Finding) :
    entriesOf (sends found) = found.map .finding := by
  simp [entriesOf, sends, List.filterMap_map, Function.comp_def, Action.entry?]

@[simp] theorem scanAfterAll_sends (s : Scan) (found : List Finding) :
    scanAfterAll s (sends found) = s := by
  induction found with
  | nil => rfl
  | cons f rest ih => exact ih

theorem chain_sends (found : β → List Finding) (s : Scan) (list : List β) :
    chain (fun _ b => sends (found b)) s list = sends (list.flatMap found) := by
  induction list generalizing s with
  | nil => rfl
  | cons b rest ih =>
    rw [chain, ih, List.flatMap_cons]
    simp [sends]

/-- What a scan does at a cell. -/
def cellActions (s : Scan) (cell : Cell) : List Action :=
  .setScan (s.next cell)
    :: ((s.record? cell).toList.map .note ++ sends (s.finding? cell).toList)

@[simp] theorem scanAfterAll_cellActions (s t : Scan) (cell : Cell) :
    scanAfterAll t (cellActions s cell) = s.next cell := by
  unfold cellActions
  cases s.record? cell with
  | none => exact scanAfterAll_sends _ _
  | some r => exact scanAfterAll_sends _ _

theorem entriesOf_cellActions (s : Scan) (cell : Cell) :
    entriesOf (cellActions s cell) = (s.finding? cell).toList.map .finding := by
  rw [← entriesOf_sends]
  unfold cellActions
  cases s.record? cell <;> rfl

theorem scanAfterAll_chain_cells (s : Scan) (cells : List Cell) :
    scanAfterAll s (chain cellActions s cells) = s.after cells := by
  induction cells generalizing s with
  | nil => rfl
  | cons cell rest ih => simp [chain, ih, Scan.after]

theorem entriesOf_chain_cells (s : Scan) (cells : List Cell) :
    entriesOf (chain cellActions s cells) = (s.findings cells).map .finding := by
  induction cells generalizing s with
  | nil => rfl
  | cons cell rest ih => simp [chain, ih, entriesOf_cellActions, Scan.findings]

def finishActions (s : Scan) : List Action :=
  .note s.closingRecord :: .setScan {} :: sends s.unclosed

def bracketActions (lines : List String) : List Action :=
  .note .bracketPassStarted :: .setScan {}
    :: (chain cellActions {} (cells lines) ++ finishActions (Scan.after {} (cells lines)))

theorem entriesOf_bracketActions (lines : List String) :
    entriesOf (bracketActions lines) = (bracketFindings lines).map .finding := by
  simp [bracketActions, finishActions, bracketFindings, entriesOf_chain_cells]

def patternActions (lines : List String) : List Action :=
  .note .patternPassStarted :: sends (patternFindings lines)

theorem entriesOf_patternActions (lines : List String) :
    entriesOf (patternActions lines) = (patternFindings lines).map .finding := by
  simp [patternActions]

def checkActions (source : Source) : List Action :=
  bracketActions source.lines ++ (.send .patternSection :: patternActions source.lines)

theorem entriesOf_checkActions (source : Source) :
    entriesOf (checkActions source) = source.entries := by
  simp [checkActions, entriesOf_bracketActions, entriesOf_patternActions, Source.entries]

/-! ## The passes by an exact addition -/

section

variable {limit : Nat} {add : Addition (Session σ) ε} {sink : Sink σ ε}

theorem streams_reportBy (hadd : ExactBelow limit add) (s : Scan) {found : List Finding}
    (hlimit : found.length < limit) :
    Streams sink (CheckM.totalBy add (CheckM.report sink) found) s (sends found) := by
  have hstep : ∀ d ∈ found, ∀ s, (entriesOf (sends [d])).length < limit →
      Streams sink (CheckM.report sink d) s (sends [d]) := by
    intro d _ s _
    exact (Performs.action (.send (.finding d))).map fun _ => 1
  have htotal := streams_totalBy hadd hstep s
  rw [chain_sends, List.flatMap_singleton', entriesOf_sends, List.length_map] at htotal
  exact htotal hlimit

theorem streams_scanCellBy (hadd : ExactBelow limit add) (s : Scan) (cell : Cell)
    (hlimit : (entriesOf (cellActions s cell)).length < limit) :
    Streams sink (scanCellBy add sink cell) s (cellActions s cell) := by
  rw [entriesOf_cellActions, List.length_map] at hlimit
  have hreport : Streams sink _ _ _ := streams_reportBy hadd (s.next cell) hlimit
  refine Performs.get fun log state => Streams.setScan (s.next cell) ?_
  show Streams sink (do (s.record? cell).forM CheckM.note; _) _ _
  cases s.record? cell with
  | none => exact hreport
  | some r => exact hreport.note r

theorem streams_scanLineBy (hadd : ExactBelow limit add) (s : Scan) (num : Nat) (line : String)
    (hlimit : (entriesOf (chain cellActions s (lineCells num line))).length < limit) :
    Streams sink (scanLineBy add sink num line) s (chain cellActions s (lineCells num line)) :=
  streams_totalBy hadd (fun cell _ s => streams_scanCellBy hadd s cell) s hlimit

theorem streams_finishScanBy (hadd : ExactBelow limit add) (s : Scan)
    (hlimit : s.unclosed.length < limit) :
    Streams sink (finishScanBy add sink) s (finishActions s) := by
  have hreport : Streams sink _ _ _ := streams_reportBy hadd {} hlimit
  exact Performs.get fun log state => (hreport.setScan {}).note s.closingRecord

/-- The lines may be numbered by an addition. -/
theorem streams_numbered (hadd : ExactBelow limit add) {step : Nat → String → CheckM σ ε Nat}
    {lines : List String} (actions : Scan → String × Nat → List Action)
    (hlines : lines.length < limit)
    (hstep : ∀ s num line, (entriesOf (actions s (line, num))).length < limit →
      Streams sink (step num line) s (actions s (line, num))) (s : Scan)
    (hlimit : (entriesOf (chain actions s (lines.zipIdx 1))).length < limit) :
    Streams sink (CheckM.totalBy add (fun (line, idx) => do step (← add idx 1) line) lines.zipIdx) s
      (chain actions s (lines.zipIdx 1)) := by
  have hzip : lines.zipIdx 1 = lines.zipIdx.map fun p => (p.1, p.2 + 1) := List.zipIdx_succ
  rw [hzip, chain_map] at hlimit ⊢
  apply streams_totalBy hadd _ s hlimit
  rintro ⟨line, idx⟩ hmem s hlength
  have hidx := (List.mem_zipIdx' hmem).1
  dsimp only at hlength ⊢
  rw [hadd idx 1 (by omega), pure_bind]
  exact hstep s (idx + 1) line hlength

theorem streams_scanLinesBy (hadd : ExactBelow limit add) (s : Scan) {lines : List String}
    (hlines : lines.length < limit)
    (hlimit : (entriesOf (chain cellActions s (cells lines))).length < limit) :
    Streams sink
      (CheckM.totalBy add (fun (line, idx) => do scanLineBy add sink (← add idx 1) line)
        lines.zipIdx)
      s (chain cellActions s (cells lines)) := by
  have hstep : ∀ s num line, (entriesOf (chain cellActions s (lineCells num line))).length < limit →
      Streams sink (scanLineBy add sink num line) s (chain cellActions s (lineCells num line)) :=
    fun s num line => streams_scanLineBy hadd s num line
  have hscan := streams_numbered hadd (fun s p => chain cellActions s (lineCells p.2 p.1)) hlines
    hstep s
  rw [chain_flatMap] at hscan
  exact hscan hlimit

theorem streams_bracketPassBy (hadd : ExactBelow limit add) (s : Scan) {lines : List String}
    (hlines : lines.length < limit) (hlimit : (bracketFindings lines).length < limit) :
    Streams sink (bracketPassBy add sink lines) s (bracketActions lines) := by
  have hlength : (entriesOf (chain cellActions {} (cells lines)
      ++ finishActions (Scan.after {} (cells lines)))).length < limit := by
    have hentries := entriesOf_bracketActions lines
    simp only [bracketActions, entriesOf_note, entriesOf_setScan] at hentries
    rw [hentries, List.length_map]
    exact hlimit
  unfold bracketFindings at hlimit
  rw [List.length_append] at hlimit
  have hread : (entriesOf (chain cellActions {} (cells lines))).length < limit := by
    rw [entriesOf_chain_cells, List.length_map]
    omega
  have hscan : Streams sink _ _ _ := streams_scanLinesBy hadd {} hlines hread
  have hfinish : Streams sink _ _ _ :=
    streams_finishScanBy hadd (Scan.after {} (cells lines)) (by omega)
  rw [← scanAfterAll_chain_cells] at hfinish hlength
  have hboth := streams_addBy hadd hscan hfinish hlength
  rw [scanAfterAll_chain_cells] at hboth
  exact (hboth.setScan {}).note .bracketPassStarted

theorem streams_patternPassBy (hadd : ExactBelow limit add) (s : Scan) {lines : List String}
    (hlines : lines.length < limit) (hlimit : (patternFindings lines).length < limit) :
    Streams sink (patternPassBy add sink lines) s (patternActions lines) := by
  have hstep : ∀ s num line, (entriesOf (sends (linePatterns num line))).length < limit →
      Streams sink (checkPatternsBy add sink num line) s (sends (linePatterns num line)) := by
    intro s num line hlength
    rw [entriesOf_sends, List.length_map] at hlength
    exact streams_reportBy hadd s hlength
  have hpass := streams_numbered hadd (fun _ p => sends (linePatterns p.2 p.1)) hlines hstep s
  rw [chain_sends, entriesOf_sends, List.length_map] at hpass
  exact (hpass hlimit).note .patternPassStarted

theorem performs_checkBy (hadd : ExactBelow limit add) (s : Scan) {source : Source}
    (hlines : source.lines.length < limit)
    (hbrackets : (bracketFindings source.lines).length < limit)
    (hpatterns : (patternFindings source.lines).length < limit) :
    Performs sink (checkBy add sink source) s (checkActions source)
      ⟨source.size, (bracketFindings source.lines).length,
        (patternFindings source.lines).length⟩ := by
  have hstructural : Streams sink _ _ _ := streams_bracketPassBy hadd s hlines hbrackets
  have hpass : Streams sink _ _ _ :=
    streams_patternPassBy hadd (scanAfterAll s (bracketActions source.lines)) hlines hpatterns
  unfold Streams at hstructural hpass
  rw [entriesOf_bracketActions, List.length_map] at hstructural
  rw [entriesOf_patternActions, List.length_map] at hpass
  exact hstructural.bind (Performs.bind (a := [_]) (Performs.action (.send .patternSection))
    (hpass.map _))

end

/-! ## The check -/

section

variable (sink : Sink σ ε) (s : Scan)

theorem streams_scanCell (cell : Cell) :
    Streams sink (scanCell sink cell) s (cellActions s cell) :=
  streams_scanCellBy (exactBelow_unbounded _) s cell (Nat.lt_succ_self _)

/-- What a scan does on a line, it does at the cells of the line. -/
theorem streams_scanLine (num : Nat) (line : String) :
    Streams sink (scanLine sink num line) s (chain cellActions s (lineCells num line)) :=
  streams_scanLineBy (exactBelow_unbounded _) s num line (Nat.lt_succ_self _)

theorem streams_finishScan : Streams sink (finishScan sink) s (finishActions s) :=
  streams_finishScanBy (exactBelow_unbounded _) s (Nat.lt_succ_self _)

/-- What a scan does on lines, it does at their cells, one after the other. -/
theorem streams_scanLinesFrom (num : Nat) (lines : List String) :
    Streams sink (CheckM.total (fun (line, num) => scanLine sink num line) (lines.zipIdx num)) s
      (chain cellActions s ((lines.zipIdx num).flatMap fun p => lineCells p.2 p.1)) := by
  rw [← chain_flatMap cellActions s (lines.zipIdx num) fun p => lineCells p.2 p.1]
  exact Streams.total (fun s (p : String × Nat) => streams_scanLine sink s p.2 p.1) s _

theorem streams_scanLines (lines : List String) :
    Streams sink (CheckM.total (fun (line, num) => scanLine sink num line) (lines.zipIdx 1)) {}
      (chain cellActions {} (cells lines)) :=
  streams_scanLinesFrom sink {} 1 lines

theorem streams_scanScript (lines : List String) :
    Streams sink
      (do return (← CheckM.total (fun (line, num) => scanLine sink num line) (lines.zipIdx 1))
        + (← finishScan sink))
      {} (chain cellActions {} (cells lines) ++ finishActions (Scan.after {} (cells lines))) := by
  have hfinish := streams_finishScan sink (Scan.after {} (cells lines))
  rw [← scanAfterAll_chain_cells] at hfinish
  have hboth := (streams_scanLines sink lines).add hfinish
  rwa [scanAfterAll_chain_cells] at hboth

theorem streams_bracketPass (lines : List String) :
    Streams sink (bracketPass sink lines) s (bracketActions lines) := by
  let limit := lines.length + (bracketFindings lines).length + 1
  apply streams_bracketPassBy (exactBelow_unbounded limit)
  · omega
  · omega

theorem streams_patternPass (lines : List String) :
    Streams sink (patternPass sink lines) s (patternActions lines) := by
  let limit := lines.length + (patternFindings lines).length + 1
  apply streams_patternPassBy (exactBelow_unbounded limit)
  · omega
  · omega

theorem performs_check (source : Source) :
    Performs sink (check sink source) s (checkActions source)
      ⟨source.size, (bracketFindings source.lines).length,
        (patternFindings source.lines).length⟩ := by
  let limit := source.lines.length + (bracketFindings source.lines).length
    + (patternFindings source.lines).length + 1
  apply performs_checkBy (exactBelow_unbounded limit)
  · omega
  · omega
  · omega

end

/-! ## A sink that takes everything -/

/-- What a computation counts, and the findings that it hands to a sink that
takes everything. -/
def collect (act : CheckM Recorder Refusal Nat) : Except Refusal (Nat × List Finding) :=
  match act { sink := {} } with
  | .ok n session => .ok (n, session.sink.findings)
  | .error err _ => .error err

/-- A recorder that is told to refuse nothing takes every entry. -/
theorem forM_take (entries : List Entry) (r : Recorder) (hfinding : r.refusedFinding = none)
    (hsection : r.refusesSection = false) :
    ∃ after, entries.forM Recorder.take r = .ok () after ∧
      after.entries.toList = r.entries.toList ++ entries := by
  induction entries generalizing r with
  | nil => exact ⟨r, rfl, by simp⟩
  | cons e rest ih =>
    rw [List.forM_eq_forM, List.forM_cons, bind_apply]
    cases e with
    | finding f =>
      obtain ⟨after, hrun, htaken⟩ := ih
        { r with offered := r.offered + 1, entries := r.entries.push (.finding f) }
        hfinding hsection
      refine ⟨after, ?_, by simpa using htaken⟩
      simpa [Recorder.take, hfinding] using hrun
    | patternSection =>
      obtain ⟨after, hrun, htaken⟩ := ih { r with entries := r.entries.push .patternSection }
        hfinding hsection
      refine ⟨after, ?_, by simpa using htaken⟩
      simpa [Recorder.take, hsection] using hrun

/-- A recorder takes what a computation hands over, in order, and the session then
holds the scan that the actions leave. -/
theorem Streams.take {act : CheckM Recorder Refusal Nat} {s : Scan} {actions : List Action}
    (h : Streams Recorder.take act s actions) :
    ∃ after, act { scan := s, sink := {} } = .ok (entriesOf actions).length after ∧
      after.sink.findings = (entriesOf actions).filterMap Entry.finding? ∧
      after.scan = scanAfterAll s actions := by
  obtain ⟨taken, htake, htaken⟩ := forM_take (entriesOf actions) {} rfl rfl
  obtain ⟨after, hrun, hsink, hscan⟩ :=
    Performs.ok_of_forM (x := { scan := s, sink := {} }) h htake
  refine ⟨after, hrun, ?_, hscan⟩
  rw [Recorder.findings, hsink, htaken]
  rfl

theorem filterMap_finding? (found : List Finding) :
    (found.map Entry.finding).filterMap Entry.finding? = found := by
  simp [List.filterMap_map, Function.comp_def, Entry.finding?]

theorem collect_eq {act : CheckM Recorder Refusal Nat} {actions : List Action}
    {found : List Finding} (h : Streams Recorder.take act {} actions)
    (hfound : entriesOf actions = found.map .finding) :
    collect act = .ok (found.length, found) := by
  obtain ⟨after, hrun, hafter, -⟩ := h.take
  unfold collect
  rw [hrun]
  dsimp only
  rw [hafter, hfound, List.length_map, filterMap_finding?]

theorem collect_bracketPass (lines : List String) :
    collect (bracketPass Recorder.take lines)
      = .ok ((bracketFindings lines).length, bracketFindings lines) :=
  collect_eq (streams_bracketPass Recorder.take {} lines) (entriesOf_bracketActions lines)

theorem eq_of_collect_bracketPass {lines : List String} {n : Nat} {found : List Finding}
    (h : collect (bracketPass Recorder.take lines) = .ok (n, found)) :
    found = bracketFindings lines := by
  rw [collect_bracketPass] at h
  injection h with h
  exact (Prod.mk.inj h).2.symm

theorem collect_patternPass (lines : List String) :
    collect (patternPass Recorder.take lines)
      = .ok ((patternFindings lines).length, patternFindings lines) :=
  collect_eq (streams_patternPass Recorder.take {} lines) (entriesOf_patternActions lines)

/-- A check whose sink takes every entry returns the counts, and its sink is
then as the run over the entries leaves it. -/
theorem check_of_forM {sink : Sink σ ε} {source : Source} (session : Session σ) {after : σ}
    (h : source.entries.forM sink session.sink = .ok () after) :
    ∃ last, check sink source session
        = .ok ⟨source.size, (bracketFindings source.lines).length,
            (patternFindings source.lines).length⟩ last ∧
      last.sink = after := by
  rw [← entriesOf_checkActions] at h
  obtain ⟨last, hcheck, hlast, -⟩ := (performs_check sink session.scan source).ok_of_forM h
  exact ⟨last, hcheck, hlast⟩

theorem check_of_forM_error {sink : Sink σ ε} {source : Source} (session : Session σ) {err : ε}
    {after : σ} (h : source.entries.forM sink session.sink = .error err after) :
    ∃ last, check sink source session = .error err last ∧ last.sink = after := by
  have hrun := (performs_check sink session.scan source).onSink_eq
  rw [entriesOf_checkActions, bind_apply, h] at hrun
  cases hcheck : check sink source session with
  | ok summary last =>
    rw [hcheck] at hrun
    cases hrun
  | error err' last =>
    rw [hcheck] at hrun
    injection hrun with herr hstate
    exact ⟨last, by rw [herr], hstate⟩

/-- A recorder takes every entry of a check. -/
theorem check_take (source : Source) :
    ∃ last, check Recorder.take source { sink := {} }
        = .ok ⟨source.size, (bracketFindings source.lines).length,
            (patternFindings source.lines).length⟩ last ∧
      last.sink.entries.toList = source.entries := by
  obtain ⟨after, htake, htaken⟩ := forM_take source.entries {} rfl rfl
  obtain ⟨last, hcheck, hlast⟩ := check_of_forM ({ sink := {} } : Session Recorder) htake
  exact ⟨last, hcheck, by rw [hlast, htaken]; rfl⟩

/-! ## The laws -/

/-- The entries of a report with these findings. -/
def entriesWith (brackets patterns : List Finding) : List Entry :=
  brackets.map .finding ++ .patternSection :: patterns.map .finding

/-- A check with any sink is the run of the sink over the entries that the two
passes find without it. It returns the counts if the sink takes every entry.
If not, it fails with the error of the first entry that the sink refuses, the
sink stays as that refusal left it, and what it took is a start of the
entries. -/
theorem a_check_runs_its_sink_over_the_entries (sink : Sink σ ε) (source : Source)
    (session : Session σ) :
    ∃ brackets patterns,
      collect (bracketPass Recorder.take source.lines) = .ok (brackets.length, brackets) ∧
      collect (patternPass Recorder.take source.lines) = .ok (patterns.length, patterns) ∧
      onSink (check sink source session)
        = (do
            (entriesWith brackets patterns).forM sink
            return ⟨source.size, brackets.length, patterns.length⟩ : EStateM ε σ Summary)
          session.sink ∧
      match check sink source session with
      | .ok summary after =>
        summary = ⟨source.size, brackets.length, patterns.length⟩ ∧
          (entriesWith brackets patterns).forM sink session.sink = .ok () after.sink
      | .error err after =>
        ∃ accepted refused rest before,
          entriesWith brackets patterns = accepted ++ refused :: rest ∧
            accepted.forM sink session.sink = .ok () before ∧
            sink refused before = .error err after.sink := by
  refine ⟨bracketFindings source.lines, patternFindings source.lines,
    collect_bracketPass source.lines, collect_patternPass source.lines, ?_⟩
  have hrun := (performs_check sink session.scan source).onSink_eq
  rw [entriesOf_checkActions] at hrun
  refine ⟨hrun, ?_⟩
  rw [bind_apply] at hrun
  cases hcheck : check sink source session with
  | ok summary after =>
    rw [hcheck] at hrun
    dsimp only
    cases hsink : source.entries.forM sink session.sink with
    | ok u t =>
      rw [hsink] at hrun
      injection hrun with hsummary hstate
      exact ⟨hsummary, by rw [hstate]; exact hsink⟩
    | error err t =>
      rw [hsink] at hrun
      cases hrun
  | error err after =>
    rw [hcheck] at hrun
    cases hsink : source.entries.forM sink session.sink with
    | ok u t =>
      rw [hsink] at hrun
      cases hrun
    | error err' t =>
      rw [hsink] at hrun
      cases hrun
      exact forM_error sink source.entries session.sink after.sink err hsink

end ScriptBalance
