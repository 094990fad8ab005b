-- The counters of a check. The scan of a line, the end of a scan, both passes
-- and the report count in loops of their own, and all of them count the same
-- entries. A report with no finding is the section for patterns alone.
import Mathlib.Algebra.GroupWithZero.Nat
import ScriptBalance.Proofs.Decoding

namespace ScriptBalance

/-! ## One count for each line -/

theorem CheckM.total_eq_sum {σ ε α : Type} (step : α → CheckM σ ε Nat) (list : List α) :
    CheckM.total step list = (do return (← list.mapM step).sum) := by
  induction list with
  | nil => rfl
  | cons a rest ih =>
    rw [CheckM.total_cons, ih, List.mapM_cons]
    simp only [bind_assoc, pure_bind, List.sum_cons]

/-- Reads all lines, which count from 1, and keeps the count of each of them. -/
def scanLines {σ ε : Type} (sink : Sink σ ε) (lines : List String) : CheckM σ ε (List Nat) :=
  (lines.zipIdx 1).mapM fun (line, num) => scanLine sink num line

theorem scanScript_take (lines : List String) :
    ∃ counts read late ended,
      scanLines Recorder.take lines { sink := {} } = .ok counts read ∧
        finishScan Recorder.take read = .ok late ended ∧
        counts.sum + late = (bracketFindings lines).length := by
  obtain ⟨ended, hrun, -⟩ := (streams_scanScript Recorder.take lines).take
  obtain ⟨early, read, hlines, hend⟩ := bind_eq_ok_iff.mp hrun
  obtain ⟨late, ended', hfinish, hsum⟩ := bind_eq_ok_iff.mp hend
  rw [CheckM.total_eq_sum] at hlines
  obtain ⟨counts, read', hcounts, hread⟩ := bind_eq_ok_iff.mp hlines
  injection hread with hearly hread
  injection hsum with hsum
  subst hread hearly
  have hentries := entriesOf_bracketActions lines
  simp only [bracketActions, entriesOf_note, entriesOf_setScan] at hentries
  refine ⟨counts, read', late, ended', hcounts, hfinish, ?_⟩
  rw [hsum, hentries, List.length_map]

theorem Scan.length_unclosed (s : Scan) :
    s.unclosed.length = (s.stack .brace).size + (s.stack .parenthesis).size := by
  simp [Scan.unclosed, Family.all]

theorem finishScan_count {σ ε : Type} {sink : Sink σ ε} {read ended : Session σ} {late : Nat}
    (h : finishScan sink read = .ok late ended) :
    late = (read.scan.stack .brace).size + (read.scan.stack .parenthesis).size := by
  have hrun := Performs.onSink_eq (streams_finishScan sink read.scan)
  rw [h] at hrun
  obtain ⟨_, _, -, hlate⟩ := bind_eq_ok_iff.mp hrun.symm
  injection hlate with hlate
  rw [← hlate, ← Scan.length_unclosed]
  simp [finishActions]

/-! ## The sorts of findings -/

theorem findings_entries (source : Source) :
    source.entries.filterMap Entry.finding?
      = bracketFindings source.lines ++ patternFindings source.lines := by
  rw [Source.entries, List.filterMap_append, List.filterMap_cons_none rfl, filterMap_finding?,
    filterMap_finding?]

/-- The passes find findings of different sorts. -/
theorem countP_isStructural (lines : List String) :
    (bracketFindings lines ++ patternFindings lines).countP (·.isStructural)
        = (bracketFindings lines).length ∧
      (bracketFindings lines ++ patternFindings lines).countP (!·.isStructural)
        = (patternFindings lines).length := by
  have hbracket : ∀ d ∈ bracketFindings lines, d.isStructural = true := by
    intro d hd
    obtain ⟨f, hf | hf⟩ := kind_of_mem_bracketFindings hd
    · rw [Finding.isStructural, hf]; rfl
    · rw [Finding.isStructural, hf]; rfl
  have hpattern : ∀ d ∈ patternFindings lines, d.isStructural = false := by
    intro d hd
    obtain ⟨num, line, -, rfl | rfl⟩ := of_mem_patternFindings hd
    · rfl
    · rfl
  rw [List.countP_append, List.countP_append]
  constructor
  · rw [List.countP_eq_length.mpr hbracket,
      List.countP_eq_zero.mpr fun d hd => by simp [hpattern d hd], Nat.add_zero]
  · rw [List.countP_eq_zero.mpr fun d hd => by simp [hbracket d hd],
      List.countP_eq_length.mpr fun d hd => by simp [hpattern d hd], Nat.zero_add]

/-! ## The count of a report -/

theorem length_flushed (entries : List Entry) :
    (flushed none none entries).length = (entries.filterMap Entry.finding?).length := by
  induction entries using List.reverseRecOn with
  | nil => rfl
  | append_singleton entries e ih =>
    have hfits : Fits none (bytesOf (entries ++ [e])).size := trivial
    rw [flushed_concat, ih, List.filterMap_append, List.length_append]
    simp only [hfits, true_and]
    cases e <;> rfl

/-- Each entry has at least one byte. -/
theorem length_le_size_bytesOf (entries : List Entry) :
    entries.length ≤ (bytesOf entries).size := by
  induction entries with
  | nil => exact Nat.zero_le _
  | cons e rest ih =>
    have htext := size_text_pos e
    have hsplit : bytesOf (e :: rest) = bytesOf [e] ++ bytesOf rest := bytesOf_append [e] rest
    rw [hsplit, bytesOf_singleton, ByteArray.size_append, List.length_cons]
    omega

/-- A report has nothing but the section for patterns only if it has no
findings. -/
theorem bytesOf_entriesWith_iff (brackets patterns : List Finding) :
    bytesOf (entriesWith brackets patterns) = Entry.patternSection.text.toUTF8 ↔
      brackets = [] ∧ patterns = [] := by
  have hsplit : bytesOf (entriesWith brackets patterns)
      = bytesOf (brackets.map .finding) ++ Entry.patternSection.text.toUTF8
        ++ bytesOf (patterns.map .finding) := by
    rw [entriesWith, List.append_cons, bytesOf_append, bytesOf_append, bytesOf_singleton]
  constructor
  · intro h
    have hsize := congrArg ByteArray.size (hsplit.symm.trans h)
    have hbrackets := length_le_size_bytesOf (brackets.map .finding)
    have hpatterns := length_le_size_bytesOf (patterns.map .finding)
    rw [ByteArray.size_append, ByteArray.size_append] at hsize
    rw [List.length_map] at hbrackets hpatterns
    exact ⟨List.eq_nil_of_length_eq_zero (by omega), List.eq_nil_of_length_eq_zero (by omega)⟩
  · rintro ⟨rfl, rfl⟩
    exact bytesOf_singleton .patternSection

/-! ## The laws -/

/-- The counts of a check agree. Its summary counts the lines, the findings
about brackets and those about patterns that it hands over, and in all as many
as there are and as a report counts. The first of these counts is the sum of
what the scan returns line by line and at the end, where it returns the number
of brackets that are open after the last line. The check is clean if the report
is an empty line and the headline of the section for patterns, and only then. -/
theorem the_counts_of_a_check_agree (source : Source) :
    ∃ summary last report counts read late ended,
      check Recorder.take source { sink := {} } = .ok summary last ∧
      check Report.take source { sink := {} } = .ok summary report ∧
      scanLines Recorder.take source.lines { sink := {} } = .ok counts read ∧
      finishScan Recorder.take read = .ok late ended ∧
      summary.lines = source.size ∧
      summary.structural = last.sink.findings.countP (·.isStructural) ∧
      summary.patterns = last.sink.findings.countP (!·.isStructural) ∧
      summary.total = last.sink.findings.length ∧
      summary.total = report.sink.reported ∧
      summary.structural = counts.sum + late ∧
      late = (read.scan.stack .brace).size + (read.scan.stack .parenthesis).size ∧
      (summary.isClean ↔
        report.sink.channel.written = ("\n" ++ patternHeadline ++ "\n").toUTF8) := by
  obtain ⟨last, hcheck, hlast⟩ := check_take source
  obtain ⟨report, hreport, hwritten⟩ := check_report source
  obtain ⟨counts, read, late, ended, hcounts, hfinish, hsum⟩ := scanScript_take source.lines
  have hfindings : last.sink.findings
      = bracketFindings source.lines ++ patternFindings source.lines := by
    rw [Recorder.findings, hlast, findings_entries]
  obtain ⟨hstructural, hpatterns⟩ := countP_isStructural source.lines
  refine ⟨_, last, report, counts, read, late, ended, hcheck, hreport, hcounts, hfinish, rfl, ?_,
    ?_, ?_, ?_, hsum.symm, finishScan_count hfinish, ?_⟩
  · rw [hfindings, hstructural]
  · rw [hfindings, hpatterns]
  · rw [hfindings, List.length_append]
    rfl
  · rw [hwritten]
    show _ = (flushed none none source.entries).length
    rw [length_flushed, findings_entries, List.length_append]
    rfl
  · have hbytes : report.sink.channel.written
        = bytesOf (entriesWith (bracketFindings source.lines) (patternFindings source.lines)) := by
      rw [hwritten]
      rfl
    rw [hbytes, ← Entry.text_patternSection, bytesOf_entriesWith_iff]
    simp [Summary.isClean, Summary.total]

end ScriptBalance
