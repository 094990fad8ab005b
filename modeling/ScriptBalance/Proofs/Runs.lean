-- How a run ends. A run reads the script in full before it writes anything. If
-- it cannot, it leaves no trace. If it can, it either writes the whole report
-- and says so in the log, or it stops at the first failure of its channel with
-- a start of the report written.
import ScriptBalance.Log.Filter
import ScriptBalance.Proofs.Decoding
import ScriptBalance.Run

namespace ScriptBalance

variable {σ ε α β : Type}

/-! ## The log of a check -/

/-- The record that an action adds to the log. -/
def Action.record? : Action → Option Log.Record
  | note r => some r
  | _ => none

/-- The records that actions add to the log, in order. -/
def recordsOf (actions : List Action) : List Log.Record := actions.filterMap Action.record?

theorem mem_recordsOf {actions : List Action} {r : Log.Record} :
    r ∈ recordsOf actions ↔ .note r ∈ actions := by
  unfold recordsOf
  rw [List.mem_filterMap]
  constructor
  · rintro ⟨a, ha, hr⟩
    cases a with
    | note r' => cases hr; exact ha
    | setScan s => cases hr
    | send e => cases hr
  · intro h
    exact ⟨_, h, rfl⟩

/-- Actions add the first of their records to the log: all of them, or those in
front of the first entry that the sink refuses. -/
theorem log_performAll (sink : Sink σ ε) (actions : List Action) (x : Session σ) :
    ∃ noted, noted <+: recordsOf actions ∧
      (stateOf (performAll sink actions x)).log.toList = x.log.toList ++ noted := by
  induction actions generalizing x with
  | nil => exact ⟨[], List.nil_prefix, (List.append_nil _).symm⟩
  | cons a rest ih =>
    rw [performAll_cons, bind_apply]
    cases a with
    | note r =>
      obtain ⟨noted, hnoted, hlog⟩ := ih { x with log := x.log.push r }
      refine ⟨r :: noted, (List.prefix_cons_inj r).mpr hnoted, hlog.trans ?_⟩
      simp
    | setScan s => exact ih { x with scan := s }
    | send e =>
      rw [Action.perform, send_apply]
      cases sink e x.sink with
      | ok u t => exact ih { x with sink := t }
      | error err t =>
        -- the rest is not reached, and an entry has no record of its own
        exact ⟨[], List.nil_prefix, (List.append_nil _).symm⟩

theorem Performs.log_eq {sink : Sink σ ε} {act : CheckM σ ε α} {actions : List Action} {a : α}
    {x : Session σ} (h : Performs sink act x.scan actions a) :
    ∃ noted, noted <+: recordsOf actions ∧
      (stateOf (act x)).log.toList = x.log.toList ++ noted := by
  obtain ⟨noted, hnoted, hlog⟩ := log_performAll sink actions x
  refine ⟨noted, hnoted, ?_⟩
  rw [← hlog, h x.log x.sink, bind_apply]
  cases performAll sink actions x <;> rfl

/-- A record that the level info does not show. -/
def Log.Record.IsFine (r : Log.Record) : Prop := r.level = .debug ∨ r.level = .trace

theorem mem_chain {actions : Scan → β → List Action} {s : Scan} {list : List β} {a : Action}
    (h : a ∈ chain actions s list) : ∃ t b, a ∈ actions t b := by
  induction list generalizing s with
  | nil => cases h
  | cons b rest ih =>
    rcases List.mem_append.mp h with h | h
    · exact ⟨s, b, h⟩
    · exact ih h

theorem note_not_mem_sends (r : Log.Record) (found : List Finding) : .note r ∉ sends found := by
  simp [sends]

theorem isFine_of_record? {s : Scan} {cell : Cell} {r : Log.Record} (h : s.record? cell = some r) :
    r.IsFine := by
  unfold Scan.record? at h
  split at h
  · cases h; exact Or.inr rfl
  · cases h; exact Or.inr rfl
  · cases h

theorem isFine_of_mem_checkActions {source : Source} {r : Log.Record}
    (h : .note r ∈ checkActions source) : r.IsFine := by
  simp only [checkActions, bracketActions, finishActions, patternActions, List.mem_append,
    List.mem_cons, note_not_mem_sends, reduceCtorEq, false_or, or_false, Action.note.injEq] at h
  rcases h with (rfl | h | rfl) | rfl
  · exact Or.inl rfl
  · obtain ⟨s, cell, h⟩ := mem_chain h
    simp only [cellActions, List.mem_cons, List.mem_append, note_not_mem_sends, reduceCtorEq,
      false_or, or_false, List.mem_map, Option.mem_toList, Action.note.injEq] at h
    obtain ⟨r', hr, rfl⟩ := h
    exact isFine_of_record? hr
  · exact Or.inl rfl
  · exact Or.inl rfl

/-- A check adds nothing to the log that the level info shows. -/
theorem log_check (sink : Sink σ ε) (source : Source) (x : Session σ) :
    ∃ noted : List Log.Record, (∀ r ∈ noted, r.IsFine) ∧
      (stateOf (check sink source x)).log.toList = x.log.toList ++ noted := by
  obtain ⟨noted, hnoted, hlog⟩ := (performs_check sink x.scan source).log_eq
  exact ⟨noted, fun r hr => isFine_of_mem_checkActions (mem_recordsOf.mp (hnoted.subset hr)), hlog⟩

/-- A session with one more record in its log. -/
def Session.noted (r : Log.Record) (x : Session σ) : Session σ := { x with log := x.log.push r }

@[simp] theorem Session.sink_noted (r : Log.Record) (x : Session σ) :
    (x.noted r).sink = x.sink := rfl

@[simp] theorem Session.toList_log_noted (r : Log.Record) (x : Session σ) :
    (x.noted r).log.toList = x.log.toList ++ [r] := Array.toList_push

/-- The records of a session that a level shows. -/
def shownLog (level : Log.Level) (session : Session σ) : List Log.Record :=
  ((Log.Filter.upTo level).apply session.log).toList

theorem upTo_shows (level : Log.Level) (r : Log.Record) :
    (Log.Filter.upTo level).shows r = decide (r.level.rank ≤ level.rank) := by
  simp [Log.Filter.shows, Log.Filter.upTo, Log.Filter.deciding?, Log.Directive.covers]

theorem shows_of_info {level : Log.Level} (h : Log.Level.info.rank ≤ level.rank) {r : Log.Record}
    (hr : r.level = .info) : (Log.Filter.upTo level).shows r = true := by
  rw [upTo_shows, hr]
  exact decide_eq_true h

theorem shownLog_eq (level : Log.Level) (session : Session σ) :
    shownLog level session = session.log.toList.filter (Log.Filter.upTo level).shows :=
  Array.toList_filter

/-! ## The channel of a run -/

theorem exists_kept_append (limit : Option Limit) (bytes : ByteArray) :
    ∃ missing, kept limit bytes ++ missing = bytes := by
  cases limit with
  | none => exact ⟨.empty, ByteArray.append_empty⟩
  | some l =>
    refine ⟨bytes.extract (min l.bytes bytes.size) bytes.size, ?_⟩
    rw [kept, ByteArray.extract_append_extract]
    simp

theorem Report.forM_take_error {limit : Option Limit} {refused : Option Nat}
    {entries : List Entry} {after : Report} {err : WriteError}
    (h : entries.forM Report.take { channel := { limit, refusedFlush := refused } }
      = .error err after) :
    ∃ missing, after.channel.written ++ missing = bytesOf entries := by
  -- the entry that fails is the last one that anything is written of
  obtain ⟨accepted, e, rest, before, rfl, hrun, htake⟩ := forM_error _ _ _ _ _ h
  obtain ⟨-, rfl⟩ := Report.forM_take_ok_iff.mp hrun
  have hafter := stateOf_take_expected limit refused accepted e
  rw [htake, stateOf] at hafter
  obtain ⟨missing, hmissing⟩ := exists_kept_append limit (bytesOf (accepted ++ [e]))
  have hbytes : bytesOf (accepted ++ e :: rest) = bytesOf (accepted ++ [e]) ++ bytesOf rest := by
    rw [← bytesOf_append, List.append_assoc, List.singleton_append]
  refine ⟨missing ++ bytesOf rest, ?_⟩
  rw [hafter, hbytes, ← ByteArray.append_assoc]
  exact congrArg (· ++ bytesOf rest) hmissing

/-! ## Reading a script -/

theorem fromUTF8?_eq_some_iff {bytes : ByteArray} {text : String} :
    String.fromUTF8? bytes = some text ↔ bytes = text.toUTF8 := by
  unfold String.fromUTF8?
  constructor
  · intro h
    split at h
    · cases h
      rfl
    · cases h
  · rintro rfl
    rw [String.toUTF8_eq_toByteArray, dif_pos text.isValidUTF8]
    rfl

/-! ## A run -/

/-- A run starts with an empty log and a new report on a channel. -/
def runStart (limit : Option Limit) (refused : Option Nat) : Session Report :=
  { sink := { channel := { limit, refusedFlush := refused } } }

/-- The session of a run that has read a text and says so in the log. -/
def runLoaded (path text : String) (limit : Option Limit) (refused : Option Nat) :
    Session Report :=
  (runStart limit refused).noted (.loaded path (Source.ofText text).size)

theorem run_of_error {read : Reader} {path : String} {cause : ReadError}
    (h : readText read path = .error cause) (x : Session Report) :
    run read path x = .error (.read path cause) x := by
  unfold run loadSource
  rw [h]
  rfl

/-- A run that has read its script checks it, with a record before the check
and one after it. -/
theorem run_of_ok {read : Reader} {path text : String} (h : readText read path = .ok text)
    (limit : Option Limit) (refused : Option Nat) :
    run read path (runStart limit refused) =
      match check Report.take (.ofText text) (runLoaded path text limit refused) with
      | .ok summary last => .ok summary (last.noted (.counted summary.structural summary.patterns))
      | .error cause last => .error (.write cause) last := by
  unfold run loadSource
  rw [h]
  show (EStateM.adaptExcept RunError.write (check Report.take (.ofText text)) >>= _)
    (runLoaded path text limit refused) = _
  rw [bind_apply, EStateM.adaptExcept]
  cases check Report.take (.ofText text) (runLoaded path text limit refused) <;> rfl

/-- After the check, the log has what the check added behind the record of the
run. -/
theorem log_runLoaded (path text : String) (limit : Option Limit) (refused : Option Nat) :
    ∃ noted : List Log.Record, (∀ r ∈ noted, r.IsFine) ∧
      (stateOf (check Report.take (.ofText text) (runLoaded path text limit refused))).log.toList
        = .loaded path (Source.ofText text).size :: noted :=
  log_check Report.take (.ofText text) (runLoaded path text limit refused)

/-! ## Three ways to end -/

section

variable (read : Reader) (path : String) (limit : Option Limit) (refused : Option Nat)

/-- A run that cannot read its script: nothing is written, flushed or logged. -/
structure StopsUnread (cause : ReadError) : Prop where
  result : run read path (runStart limit refused)
    = .error (.read path cause) (runStart limit refused)
  message : (RunError.read path cause).message
    = "failed to read " ++ path ++ ": " ++ cause.message

/-- A run whose channel fails at an entry of the report on a text. -/
structure StopsWriting (text : String) (cause : WriteError) (last : Session Report) : Prop where
  result : run read path (runStart limit refused) = .error (.write cause) last
  message : (RunError.write cause).message = "failed to write report: " ++ cause.message
  /-- The cause is the first failure of the channel. -/
  first : ∃ accepted e rest before, (Source.ofText text).entries = accepted ++ e :: rest ∧
    accepted.forM Report.take (runStart limit refused).sink = .ok () before ∧
    Report.take e before = .error cause last.sink
  written : ∃ missing, last.sink.channel.written ++ missing = reportOn (.ofText text)
  log : ∀ level : Log.Level, Log.Level.info.rank ≤ level.rank → ∃ rest : List Log.Record,
    shownLog level last = .loaded path (Source.ofText text).size :: rest ∧
      ∀ r ∈ rest, r.IsFine ∧ ∀ structural patterns, r ≠ .counted structural patterns

/-- A run that writes the whole report on a text. -/
structure Completes (text : String) (summary : Summary) (last : Session Report) : Prop where
  result : run read path (runStart limit refused) = .ok summary last
  /-- The counts are those of a check of the text. -/
  counts : ∃ checked, check Recorder.take (.ofText text) { sink := {} } = .ok summary checked
  written : last.sink.channel.written = reportOn (.ofText text)
  log : ∀ level : Log.Level, Log.Level.info.rank ≤ level.rank → ∃ middle : List Log.Record,
    shownLog level last = .loaded path (Source.ofText text).size ::
        (middle ++ [.counted summary.structural summary.patterns]) ∧
      ∀ r ∈ middle, r.IsFine

variable {read path}

theorem stopsUnread {cause : ReadError} (h : readText read path = .error cause) :
    StopsUnread read path limit refused cause where
  result := run_of_error h _
  message := rfl

variable {limit refused} {text : String}

theorem Log.Record.IsFine.ne_counted {r : Log.Record} (h : r.IsFine) (structural patterns : Nat) :
    r ≠ .counted structural patterns := by
  rintro rfl
  rcases h with h | h
  · cases h
  · cases h

theorem stopsWriting (h : readText read path = .ok text)
    (hall : ¬ TakesAll limit refused (Source.ofText text).entries) :
    ∃ cause last, StopsWriting read path limit refused text cause last := by
  have hrun := run_of_ok h limit refused
  obtain ⟨noted, hfine, hlog⟩ := log_runLoaded path text limit refused
  cases hentries : (Source.ofText text).entries.forM Report.take (runStart limit refused).sink with
  | ok u after => exact absurd (Report.forM_take_ok_iff.mp hentries).1 hall
  | error cause after =>
    obtain ⟨last, hcheck, rfl⟩ :=
      check_of_forM_error (runLoaded path text limit refused) hentries
    obtain ⟨missing, hwritten⟩ := Report.forM_take_error hentries
    rw [hcheck] at hrun hlog
    rw [stateOf] at hlog
    refine ⟨cause, last, hrun, rfl, forM_error _ _ _ _ _ hentries,
      ⟨missing, by rw [hwritten, reportOn_eq]⟩, fun level hlevel => ?_⟩
    refine ⟨noted.filter (Log.Filter.upTo level).shows, ?_, fun r hr => ?_⟩
    · rw [shownLog_eq, hlog]
      exact List.filter_cons_of_pos (shows_of_info hlevel rfl)
    · have hr := hfine r (List.mem_filter.mp hr).1
      exact ⟨hr, hr.ne_counted⟩

theorem completes (h : readText read path = .ok text)
    (hall : TakesAll limit refused (Source.ofText text).entries) :
    ∃ summary last, Completes read path limit refused text summary last := by
  have hrun := run_of_ok h limit refused
  obtain ⟨noted, hfine, hlog⟩ := log_runLoaded path text limit refused
  obtain ⟨checked, hcounts, -⟩ := check_take (.ofText text)
  obtain ⟨last, hcheck, hlast⟩ := check_of_forM (runLoaded path text limit refused)
    (Report.forM_take_ok_iff.mpr ⟨hall, rfl⟩)
  rw [hcheck] at hrun hlog
  rw [stateOf] at hlog
  refine ⟨_, _, hrun, ⟨checked, hcounts⟩, ?_, fun level hlevel => ?_⟩
  · rw [Session.sink_noted, hlast, reportOn_eq]
    exact kept_of_fits hall.1
  · refine ⟨noted.filter (Log.Filter.upTo level).shows, ?_,
      fun r hr => hfine r (List.mem_filter.mp hr).1⟩
    rw [shownLog_eq, Session.toList_log_noted, hlog, List.cons_append,
      List.filter_cons_of_pos (shows_of_info hlevel rfl), List.filter_append,
      List.filter_cons_of_pos (shows_of_info hlevel rfl), List.filter_nil]

end

/-! ## The laws -/

/-- A run ends in one of three ways. If its script cannot be read, or is no
UTF-8 text, it stops with nothing done. If it can, the bytes are those of one
text. If the channel takes all of the report on the text, the run writes it and
returns the counts. If not, it stops at the first failure of the channel, with a
start of the report written. The log says in both cases that the script was
read, and only in the first one what was found. -/
theorem a_run_ends_in_one_of_three_ways (read : Reader) (path : String) (limit : Option Limit)
    (refused : Option Nat) :
    match read path with
    | .error cause => StopsUnread read path limit refused cause
    | .ok bytes =>
      ((∀ text : String, bytes ≠ text.toUTF8) ∧
          StopsUnread read path limit refused .invalidText) ∨
        ∃ text : String, bytes = text.toUTF8 ∧
          (∀ other : String, bytes = other.toUTF8 → other = text) ∧
          if TakesAll limit refused (Source.ofText text).entries then
            ∃ summary last, Completes read path limit refused text summary last
          else
            ∃ cause last, StopsWriting read path limit refused text cause last := by
  cases hread : read path with
  | error cause => exact stopsUnread limit refused (by rw [readText, hread])
  | ok bytes =>
    dsimp only
    cases htext : String.fromUTF8? bytes with
    | none =>
      have hdecode : readText read path = .error .invalidText := by
        simp only [readText, hread, htext]
      refine Or.inl ⟨fun text h => ?_, stopsUnread limit refused hdecode⟩
      rw [fromUTF8?_eq_some_iff.mpr h] at htext
      cases htext
    | some text =>
      have hdecode : readText read path = .ok text := by simp only [readText, hread, htext]
      refine Or.inr ⟨text, fromUTF8?_eq_some_iff.mp htext, fun other hother => ?_, ?_⟩
      · rw [fromUTF8?_eq_some_iff.mpr hother] at htext
        exact Option.some.inj htext
      · by_cases hall : TakesAll limit refused (Source.ofText text).entries
        · rw [if_pos hall]
          exact completes hdecode hall
        · rw [if_neg hall]
          exact stopsWriting hdecode hall

/-- A channel with room for three bytes. -/
example :
    let last := stateOf (run (fun _ => .ok "\x7d".toUTF8) "a.ps1"
      (runStart (some { bytes := 3 }) none))
    last.sink.channel.written = "Lin".toUTF8 ∧ shownLog .info last = [.loaded "a.ps1" 1] := by
  decide

end ScriptBalance
