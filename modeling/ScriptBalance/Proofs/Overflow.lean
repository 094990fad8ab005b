-- The additions of a check. A check adds where it counts findings and where it
-- numbers lines, and a report adds where it counts what it has written. With any
-- addition that is exact as long as the sum fits into a machine word, all of them
-- come out the same, for every text with fewer characters than a word can count.
import ScriptBalance.Proofs.Charging

namespace ScriptBalance

variable {σ ε : Type}

/-! ## A check with any addition -/

section

variable {limit : Nat} {add : Addition (Session σ) ε} {sink : Sink σ ε}

/-- Computations that take the same actions and return the same are the same. -/
theorem eq_of_performs {α : Type} {act act' : CheckM σ ε α} {actions : Scan → List Action} {a : α}
    (h : ∀ s, Performs sink act s (actions s) a) (h' : ∀ s, Performs sink act' s (actions s) a) :
    act = act' := by
  funext x
  obtain ⟨scan, log, state⟩ := x
  rw [h scan log state, h' scan log state]

theorem checkBy_eq (hadd : ExactBelow limit add) {source : Source}
    (hlines : source.lines.length < limit)
    (hbrackets : (bracketFindings source.lines).length < limit)
    (hpatterns : (patternFindings source.lines).length < limit) :
    checkBy add sink source = check sink source :=
  eq_of_performs (fun s => performs_checkBy hadd s hlines hbrackets hpatterns)
    fun s => performs_check sink s source

end

/-! ## The count of a report -/

namespace Report

def writeOut (e : Entry) : EStateM WriteError Channel Unit := do
  Channel.put e.text.toUTF8
  Channel.flush

theorem takeBy_eq_writeOut (add : Addition Report WriteError) (e : Entry) :
    takeBy add e = (do onChannel (writeOut e); countBy add e) := by
  rw [takeBy_eq, writeOut, onChannel_bind, bind_assoc]

theorem take_eq_writeOut (e : Entry) : take e = (do onChannel (writeOut e); count e) :=
  takeBy_eq_writeOut unbounded e

variable {limit : Nat} {add : Addition Report WriteError}

/-- The findings among entries. -/
def findingsIn (entries : List Entry) : Nat := (entries.filterMap Entry.finding?).length

theorem findingsIn_cons (e : Entry) (rest : List Entry) :
    findingsIn (e :: rest) = findingsIn [e] + findingsIn rest := by
  rw [findingsIn, ← List.singleton_append, List.filterMap_append, List.length_append]
  rfl

theorem takeBy_of_exact (hadd : ExactBelow limit add) {e : Entry} {r : Report}
    (hlimit : r.reported + findingsIn [e] < limit) : takeBy add e r = take e r := by
  obtain ⟨channel, reported⟩ := r
  rw [takeBy_eq_writeOut, take_eq_writeOut, bind_apply, bind_apply, onChannel_apply]
  cases writeOut e channel with
  | error err channel => rfl
  | ok u channel =>
    cases e with
    | patternSection => rfl
    | finding d =>
      have hone : add reported 1 = pure (reported + 1) := hadd reported 1 hlimit
      show (add reported 1 >>= fun n => modify fun r => { r with reported := n } :
        EStateM WriteError Report Unit) ⟨channel, reported⟩ = _
      rw [hone]
      rfl

theorem reported_of_take {e : Entry} {r after : Report} (h : take e r = .ok () after) :
    after.reported = r.reported + findingsIn [e] := by
  obtain ⟨channel, reported⟩ := r
  rw [take_eq_writeOut, bind_apply, onChannel_apply] at h
  cases hwrite : writeOut e channel with
  | error err channel =>
    rw [hwrite] at h
    cases h
  | ok u channel =>
    rw [hwrite] at h
    cases e with
    | patternSection =>
      cases h
      rfl
    | finding d =>
      cases h
      rfl

end Report

/-- A report that starts with a small count does not notice how it counts. -/
theorem performAll_takeBy {limit : Nat} {add : Addition Report WriteError}
    (hadd : ExactBelow limit add) (actions : List Action) (x : Session Report)
    (hlimit : x.sink.reported + Report.findingsIn (entriesOf actions) < limit) :
    performAll (Report.takeBy add) actions x = performAll Report.take actions x := by
  induction actions generalizing x with
  | nil => rfl
  | cons a rest ih =>
    rw [performAll_cons, performAll_cons, bind_apply, bind_apply]
    cases a with
    | note r => exact ih _ hlimit
    | setScan s => exact ih _ hlimit
    | send e =>
      rw [entriesOf_send, Report.findingsIn_cons, ← Nat.add_assoc] at hlimit
      rw [Action.perform, Action.perform, send_apply, send_apply,
        Report.takeBy_of_exact hadd (by omega)]
      cases htake : Report.take e x.sink with
      | error err after => rfl
      | ok u after =>
        apply ih
        rw [← Report.reported_of_take htake] at hlimit
        exact hlimit

theorem check_takeBy {limit : Nat} {add : Addition Report WriteError}
    (hadd : ExactBelow limit add) (source : Source) (x : Session Report)
    (hlimit : x.sink.reported + ((bracketFindings source.lines).length
      + (patternFindings source.lines).length) < limit) :
    check (Report.takeBy add) source x = check Report.take source x := by
  have hentries : Report.findingsIn (entriesOf (checkActions source))
      = (bracketFindings source.lines).length + (patternFindings source.lines).length := by
    rw [entriesOf_checkActions, Report.findingsIn, findings_entries, List.length_append]
  rw [← hentries] at hlimit
  have hrun := performAll_takeBy hadd (checkActions source) x hlimit
  obtain ⟨scan, log, state⟩ := x
  rw [performs_check _ scan source log state, performs_check _ scan source log state, bind_apply,
    bind_apply, hrun]

/-! ## The laws -/

/-- All sums in a check of a script are below a limit. With any addition that is exact
below it, the check does what it does and its summary has the same total. A new report
may count by such an addition too, and is left with the same bytes and the same count. -/
structure FitsBelow (limit : Nat) (source : Source) (summary : Summary) : Prop where
  checks : ∀ {σ ε : Type} (sink : Sink σ ε) (add : Addition (Session σ) ε),
    ExactBelow limit add → checkBy add sink source = check sink source
  totals : ∀ {σ ε : Type} (add : Addition σ ε),
    ExactBelow limit add → summary.totalBy add = pure summary.total
  reports : ∀ (add : Addition (Session Report) WriteError) (count : Addition Report WriteError),
    ExactBelow limit add → ExactBelow limit count → ∀ x : Session Report, x.sink.reported = 0 →
      checkBy add (Report.takeBy count) source x = check Report.take source x

theorem fitsBelow {limit : Nat} {text : String} (h : text.length < limit) :
    FitsBelow limit (.ofText text)
      ⟨(Source.ofText text).size, (bracketFindings (splitLines text)).length,
        (patternFindings (splitLines text)).length⟩ := by
  have hlines := length_splitLines_le text
  have hfindings := length_allFindings_le text
  have hchecks : ∀ {σ ε : Type} (sink : Sink σ ε) (add : Addition (Session σ) ε),
      ExactBelow limit add → checkBy add sink (.ofText text) = check sink (.ofText text) := by
    intro σ ε sink add hadd
    apply checkBy_eq hadd
    · exact Nat.lt_of_le_of_lt hlines h
    · exact Nat.lt_of_le_of_lt (Nat.le_of_add_right_le hfindings) h
    · exact Nat.lt_of_le_of_lt (Nat.le_of_add_left_le hfindings) h
  refine ⟨hchecks, ?_, ?_⟩
  · intro σ ε add hadd
    exact hadd _ _ (Nat.lt_of_le_of_lt hfindings h)
  · intro add count hadd hcount x hreported
    rw [hchecks _ add hadd]
    apply check_takeBy hcount
    rw [hreported, Nat.zero_add]
    exact Nat.lt_of_le_of_lt hfindings h

/-- A text with `n` characters has at most `n` findings and at most `n` lines. Each finding
is on one of the lines, and its column, if it has one, is smaller than `n`. So no counter
of a check overflows as long as `n` fits into 64 bits. -/
theorem no_counter_of_a_check_overflows (text : String) :
    ∃ summary last, check Recorder.take (.ofText text) { sink := {} } = .ok summary last ∧
      summary.total ≤ text.length ∧ summary.lines ≤ text.length ∧
      (∀ d ∈ last.sink.findings, (1 ≤ d.line ∧ d.line ≤ summary.lines) ∧
        ∀ column ∈ d.column, column < text.length) ∧
      (text.length < 2 ^ 64 → FitsBelow (2 ^ 64) (.ofText text) summary) := by
  obtain ⟨last, hcheck, hentries⟩ := check_take (.ofText text)
  have hfindings : last.sink.findings
      = bracketFindings (splitLines text) ++ patternFindings (splitLines text) := by
    rw [Recorder.findings, hentries, findings_entries]
    rfl
  refine ⟨_, last, hcheck, length_allFindings_le text, length_splitLines_le text, ?_, fitsBelow⟩
  intro d hd
  rw [hfindings] at hd
  exact place_of_mem_findings hd

/-- The addition of words with 64 bits. -/
def wrapping : Addition σ ε := fun a b => pure (UInt64.ofNat a + UInt64.ofNat b).toNat

theorem exactBelow_wrapping : ExactBelow (2 ^ 64) (wrapping : Addition σ ε) := by
  intro a b h
  have hsize : UInt64.size = 2 ^ 64 := rfl
  unfold wrapping
  rw [UInt64.toNat_add, UInt64.toNat_ofNat_of_lt' (by omega), UInt64.toNat_ofNat_of_lt' (by omega),
    Nat.mod_eq_of_lt h]

/-- A brace that stays open, and a line with three findings. -/
theorem words_count_two_findings_of_each_sort :
    "\x7b\r\n)'.\\\\\x60".length < 2 ^ 64 ∧
      ∃ last, checkBy wrapping Recorder.take (.ofText "\x7b\r\n)'.\\\\\x60") { sink := {} }
        = .ok ⟨2, 2, 2⟩ last := by
  have hlength : "\x7b\r\n)'.\\\\\x60".length < 2 ^ 64 := by decide
  obtain ⟨summary, last, hcheck, -, -, -, hfits⟩ :=
    no_counter_of_a_check_overflows "\x7b\r\n)'.\\\\\x60"
  obtain ⟨last', hcheck', -⟩ := check_take (.ofText "\x7b\r\n)'.\\\\\x60")
  rw [hcheck'] at hcheck
  injection hcheck with hsummary hlast
  have hvalues : summary = ⟨2, 2, 2⟩ := by
    rw [← hsummary]
    decide
  have hsame := (hfits hlength).checks Recorder.take wrapping exactBelow_wrapping
  rw [hvalues] at hsummary
  rw [hsummary] at hcheck'
  refine ⟨hlength, last', ?_⟩
  rw [hsame]
  exact hcheck'

end ScriptBalance
