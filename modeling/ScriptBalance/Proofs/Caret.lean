-- The caret of a closing brace that closes nothing. The report shows the line of
-- the brace without the blanks at its end, and a caret under it. The brace is no
-- blank, so it is never cut off, and the caret stands right under it.
import ScriptBalance.Proofs.Counting
import ScriptBalance.Proofs.Layout

namespace ScriptBalance

/-! ## What is left of a line -/

/-- A text is what is left of it, and blanks. -/
theorem exists_trimEnd_append (text : String) :
    ∃ blanks, text.toList = (trimEnd text).toList ++ blanks ∧ ∀ c ∈ blanks, isBlank c = true := by
  refine ⟨(text.toList.reverse.takeWhile isBlank).reverse, ?_, ?_⟩
  · unfold trimEnd
    rw [String.toList_ofList, ← List.reverse_append, List.takeWhile_append_dropWhile,
      List.reverse_reverse]
  · intro c hc
    rw [List.mem_reverse] at hc
    exact List.all_eq_true.mp List.all_takeWhile c hc

/-- A character that is no blank stays where it is. -/
theorem getElem?_trimEnd {text : String} {i : Nat} {c : Char} (h : text.toList[i]? = some c)
    (hc : isBlank c = false) : (trimEnd text).toList[i]? = some c := by
  obtain ⟨blanks, htext, hblanks⟩ := exists_trimEnd_append text
  rw [htext] at h
  by_cases hi : i < (trimEnd text).toList.length
  · rw [List.getElem?_append_left hi] at h
    exact h
  · rw [List.getElem?_append_right (by omega)] at h
    have hblank := hblanks c (List.mem_of_getElem? h)
    rw [hc] at hblank
    cases hblank

/-! ## Lines with no line end in them -/

theorem unbroken_append {a b : List Char} (ha : Unbroken a) (hb : Unbroken b) :
    Unbroken (a ++ b) := by
  intro c hc
  rcases List.mem_append.mp hc with hc | hc
  · exact ha c hc
  · exact hb c hc

theorem unbroken_toString (n : Nat) : Unbroken (toString n).toList := by
  intro c hc
  constructor
  · rintro rfl
    exact Finding.not_mem_toString rfl n hc
  · rintro rfl
    exact Finding.not_mem_toString rfl n hc

theorem unbroken_shownText {d : Finding} (h : Unbroken (d.text.getD "").toList) :
    Unbroken d.shownText.toList := by
  intro c hc
  exact h c ((isPrefix_trimEnd _).subset hc)

theorem unbroken_label (k : Finding.Kind) : Unbroken k.label.toList := by
  rcases k with (_ | _) | (_ | _) | _ | _ <;> decide

theorem unbroken_headline {d : Finding} (h : Unbroken (d.text.getD "").toList) :
    Unbroken d.headline.toList := by
  have hline : Unbroken "Line ".toList := by decide
  have hcolon : Unbroken ": ".toList := by decide
  have hvalue : Unbroken d.value.toList := by
    unfold Finding.value
    split
    · exact unbroken_toString _
    · exact unbroken_shownText h
  rw [Finding.headline, Finding.detail_eq]
  simp only [String.toList_append]
  exact unbroken_append (unbroken_append (unbroken_append hline (unbroken_toString _)) hcolon)
    (unbroken_append (unbroken_label _) hvalue)

theorem unbroken_caretLine (d : Finding) : Unbroken d.caretLine.toList := by
  intro c hc
  simp [Finding.caretLine] at hc
  rcases hc with rfl | rfl
  · decide
  · decide

/-- A finding is written as lines with no line end in them. -/
theorem unbroken_lines {d : Finding} (h : Unbroken (d.text.getD "").toList) :
    ∀ line ∈ d.lines, Unbroken line.toList := by
  have hindent : Unbroken "  ".toList := by decide
  intro line hline
  unfold Finding.lines at hline
  split at hline
  · simp only [List.mem_cons, List.not_mem_nil, or_false] at hline
    rcases hline with rfl | rfl | rfl
    · exact unbroken_headline h
    · rw [String.toList_append]
      exact unbroken_append hindent (unbroken_shownText h)
    · exact unbroken_caretLine d
  · rw [List.mem_singleton] at hline
    subst hline
    exact unbroken_headline h

/-! ## What is written for a finding -/

/-- A new report writes the lines of a finding and ends each of them. -/
theorem take_new (e : Entry) :
    ∃ r, Report.take e {} = .ok () r ∧ r.channel.written = (Entry.text e).toUTF8 := by
  have hfits : Fits none (ByteArray.empty ++ e.text.toUTF8).size := trivial
  have htake : Report.take e ⟨⟨none, none, kept none .empty, 0⟩, 0⟩ = _ :=
    Report.take_of_fits hfits
  refine ⟨_, htake, ?_⟩
  simp [kept]

/-- The finding about a closing bracket that closes nothing comes from its cell. -/
theorem exists_cell_of_unexpectedClose {source : Source} {d : Finding} {f : Family}
    (h : d ∈ findingsOn source) (hkind : d.kind = .unexpectedClose f) :
    ∃ cell ∈ cells source.lines, d = .unexpectedClose f cell ∧ cell.char = f.closer := by
  rw [findingsOn_eq, findings_entries, bracketFindings_eq] at h
  simp only [List.mem_append] at h
  rcases h with ((h | h) | h) | h
  · obtain ⟨g, cell, hcell, rfl, hchar⟩ := Scan.of_mem_findings h
    cases hkind
    exact ⟨cell, hcell, rfl, hchar⟩
  · rw [(unclosedFindings_standAt h).1] at hkind
    cases hkind
  · rw [(unclosedFindings_standAt h).1] at hkind
    cases hkind
  · obtain ⟨num, line, -, rfl | rfl⟩ := of_mem_patternFindings h
    · cases hkind
    · cases hkind

/-! ## The laws -/

/-- For a closing brace that closes nothing, a report writes three lines, each ended
by a line feed and with no line end in it. The column of the brace lies in what is
left of its line without the blanks at its end. The second line has the brace two
characters behind that column, and the third line has a caret there, with nothing
but spaces before it and nothing behind it. -/
theorem the_caret_stands_under_the_brace (text : String) (d : Finding)
    (h : d ∈ findingsOn (.ofText text)) (hkind : d.kind = .unexpectedClose .brace) :
    ∃ first second third column report,
      Report.take (.finding d) {} = .ok () report ∧
      report.channel.written = (first ++ "\n" ++ second ++ "\n" ++ third ++ "\n").toUTF8 ∧
      (∀ line ∈ [first, second, third], Unbroken line.toList) ∧
      d.column = some column ∧ column < d.shownText.length ∧
      second.toList[2 + column]? = some '}' ∧
      third.toList = List.replicate (2 + column) ' ' ++ ['^'] := by
  obtain ⟨cell, hcell, rfl, hchar⟩ := exists_cell_of_unexpectedClose h hkind
  have hstands := (mem_cells _ cell).mp hcell
  have hline : cell.line ∈ splitLines text := List.mem_of_getElem? hstands.line
  have hunbroken := unbroken_lines (d := .unexpectedClose .brace cell) (splitLines_unbroken hline)
  have hbrace : (trimEnd cell.line).toList[cell.pos.column]? = some '}' := by
    apply getElem?_trimEnd _ (by decide)
    rw [hstands.char, hchar]
    rfl
  obtain ⟨report, htake, hwritten⟩ := take_new (.finding (.unexpectedClose .brace cell))
  refine ⟨_, _, _, cell.pos.column, report, htake, ?_, hunbroken, rfl, ?_, ?_, ?_⟩
  · rw [hwritten]
    simp [Entry.text, Entry.lines, Finding.lines, Finding.unexpectedClose, String.join,
      String.append_assoc]
  · have hlt := (List.getElem?_eq_some_iff.mp hbrace).1
    rwa [String.length_toList] at hlt
  · have hindent : ("  " ++ trimEnd cell.line).toList
        = ' ' :: ' ' :: (trimEnd cell.line).toList := by
      simp
    show ("  " ++ trimEnd cell.line).toList[2 + cell.pos.column]? = _
    rw [hindent, Nat.add_comm, List.getElem?_cons_succ, List.getElem?_cons_succ]
    exact hbrace
  · simp [Finding.caretLine, Finding.shownColumn, Finding.unexpectedClose]

/-- The second of two braces, behind an accent and before blanks of two sorts. -/
theorem a_caret_stands_behind_an_accent :
    ∃ d ∈ findingsOn (.ofText "\u00e9\x7d \x7d\u00a0\u3000\r\n"),
      d.kind = .unexpectedClose .brace ∧ d.line = 1 ∧
        ∃ first second report, Report.take (.finding d) {} = .ok () report ∧
          report.channel.written = (first ++ "\n" ++ second ++ "\n" ++ "     ^" ++ "\n").toUTF8 ∧
          second.toList[5]? = some '}' := by
  have hmem : ⟨.unexpectedClose .brace, 1, some 3, some "\u00e9\x7d \x7d\u00a0\u3000"⟩
      ∈ findingsOn (.ofText "\u00e9\x7d \x7d\u00a0\u3000\r\n") := by
    rw [findingsOn_eq]
    decide +kernel
  obtain ⟨first, second, third, column, report, htake, hwritten, -, hcolumn, -, hbrace, hcaret⟩ :=
    the_caret_stands_under_the_brace _ _ hmem rfl
  cases hcolumn
  have hthird : third = "     ^" := by
    rw [← String.toList_inj, hcaret]
    rfl
  subst hthird
  exact ⟨_, hmem, rfl, rfl, first, second, report, htake, hwritten, hbrace⟩

end ScriptBalance
