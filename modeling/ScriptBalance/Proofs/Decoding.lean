-- A report can be read back. Its lines are told from its bytes, since no line
-- of a script has a line end in it. The first line of an entry tells how many
-- lines the entry has and what it says. So two scripts with the same report have
-- findings that show the same.
import Mathlib.Data.List.Forall2
import ScriptBalance.Proofs.Order
import ScriptBalance.Proofs.Writing

namespace ScriptBalance

/-! ## The lines of a report -/

/-- A text is told up to the first place of a character that is in neither of
two starts. -/
theorem split_injective {α : Type} {a : α} {x y u v : List α} (hx : a ∉ x) (hy : a ∉ y)
    (h : x ++ a :: u = y ++ a :: v) : x = y ∧ u = v := by
  induction x generalizing y with
  | nil =>
    cases y with
    | nil => exact ⟨rfl, (List.cons.inj h).2⟩
    | cons c y =>
      have hc : a = c := (List.cons.inj h).1
      exact absurd (hc ▸ List.mem_cons_self) hy
  | cons b x ih =>
    cases y with
    | nil =>
      have hb : b = a := (List.cons.inj h).1
      exact absurd (hb ▸ List.mem_cons_self) hx
    | cons c y =>
      obtain ⟨hbc, hrest⟩ := List.cons.inj h
      obtain ⟨hxy, huv⟩ := ih (List.not_mem_of_not_mem_cons hx) (List.not_mem_of_not_mem_cons hy)
        hrest
      exact ⟨by rw [hbc, hxy], huv⟩

/-- The characters of lines, each with its end. -/
def lineChars (lines : List String) : List Char := lines.flatMap fun l => l.toList ++ ['\n']

theorem lineChars_injective {a b : List String} (ha : ∀ l ∈ a, '\n' ∉ l.toList)
    (hb : ∀ l ∈ b, '\n' ∉ l.toList) (h : lineChars a = lineChars b) : a = b := by
  induction a generalizing b with
  | nil =>
    cases b with
    | nil => rfl
    | cons l b => simp [lineChars] at h
  | cons k a ih =>
    cases b with
    | nil => simp [lineChars] at h
    | cons l b =>
      simp only [lineChars, List.flatMap_cons, List.append_assoc, List.singleton_append] at h
      obtain ⟨hkl, hrest⟩ := split_injective (ha k List.mem_cons_self) (hb l List.mem_cons_self) h
      rw [String.toList_inj.mp hkl, ih (fun l hl => ha l (List.mem_cons_of_mem _ hl))
        (fun l hl => hb l (List.mem_cons_of_mem _ hl)) hrest]

theorem toList_text (entries : List Entry) :
    (String.join (entries.map Entry.text)).toList = lineChars (entries.flatMap Entry.lines) := by
  unfold lineChars
  rw [String.toList_join, List.flatMap_map, List.flatMap_assoc]
  refine List.flatMap_congr fun e _ => ?_
  rw [Entry.text, String.toList_join, List.flatMap_map]
  simp

/-! ## What a finding shows -/

namespace Finding

/-- What the text form of a finding says in front of its value. -/
def Kind.label : Kind → String
  | .unexpectedClose family => "Unexpected closing " ++ family.name ++ " at position "
  | .unclosed family => "Unclosed opening " ++ family.name ++ " at position "
  | .backtick => "Contains backtick: "
  | .backslash => "Contains backslash in string: "

/-- No label is a start of another one. -/
theorem Kind.label_prefix_free {a b : Kind} (h : a.label.toList <+: b.label.toList) : a = b := by
  revert h
  rcases a with (_ | _) | (_ | _) | _ | _ <;> rcases b with (_ | _) | (_ | _) | _ | _ <;> decide

/-- The column of a finding about a bracket, the line of one about a pattern. -/
def value (d : Finding) : String :=
  if d.isStructural then toString d.shownColumn else d.shownText

theorem detail_eq (d : Finding) : d.detail = d.kind.label ++ d.value := by
  obtain ⟨kind, line, column, text⟩ := d
  cases kind <;> rfl

theorem detail_injective {a b : Finding} (h : a.detail = b.detail) :
    a.kind = b.kind ∧ a.value = b.value := by
  rw [detail_eq, detail_eq, ← String.toList_inj, String.toList_append, String.toList_append] at h
  have hkind : a.kind = b.kind := by
    rcases List.prefix_or_prefix_of_prefix (List.prefix_append _ _)
      (h ▸ List.prefix_append b.kind.label.toList b.value.toList) with hab | hba
    · exact Kind.label_prefix_free hab
    · exact (Kind.label_prefix_free hba).symm
  rw [hkind, List.append_cancel_left_eq, String.toList_inj] at h
  exact ⟨hkind, h⟩

theorem not_mem_toString {c : Char} (hc : c.isDigit = false) (n : Nat) : c ∉ (toString n).toList := by
  rw [Nat.toString_eq_repr, Nat.toList_repr]
  intro hmem
  rw [Nat.isDigit_of_mem_toDigits (by decide) (by decide) hmem] at hc
  cases hc

theorem toString_injective {m n : Nat} (h : toString m = toString n) : m = n := by
  rw [Nat.toString_eq_repr, Nat.toString_eq_repr, ← String.toList_inj, Nat.toList_repr,
    Nat.toList_repr] at h
  rw [← Nat.ofDigitChars_ten_toDigits (n := m), h, Nat.ofDigitChars_ten_toDigits]

theorem headline_injective {a b : Finding} (h : a.headline = b.headline) :
    a.line = b.line ∧ a.detail = b.detail := by
  unfold headline at h
  simp only [← String.toList_inj, String.toList_append, List.append_assoc] at h
  have hcolon : ": ".toList = [':', ' '] := rfl
  rw [List.append_cancel_left_eq, hcolon] at h
  obtain ⟨hline, hdetail⟩ := split_injective (not_mem_toString rfl _) (not_mem_toString rfl _) h
  exact ⟨toString_injective (String.toList_inj.mp hline),
    String.toList_inj.mp (List.cons.inj hdetail).2⟩

/-- The kinds of findings whose text form has a line of the script in it. -/
def Kind.showsText (k : Kind) : Prop :=
  k = .unexpectedClose .brace ∨ k = .backtick ∨ k = .backslash

/-- Two findings that show the same. -/
structure ShowsAs (a b : Finding) : Prop where
  kind : a.kind = b.kind
  line : a.line = b.line
  column : a.column = b.column
  text : a.kind.showsText → a.shownText = b.shownText

/-- A finding as a check makes it: it has a column if it is about a bracket, and
the line of the script has no line end in it. -/
structure Regular (d : Finding) : Prop where
  column : d.column.isSome = d.isStructural
  text : '\n' ∉ (d.text.getD "").toList

theorem Regular.unbroken {d : Finding} (h : d.Regular) : ∀ l ∈ d.lines, '\n' ∉ l.toList := by
  have hshown : '\n' ∉ d.shownText.toList := fun hmem =>
    h.text ((isPrefix_trimEnd _).subset hmem)
  have hvalue : '\n' ∉ d.value.toList := by
    unfold value
    split
    · exact not_mem_toString rfl _
    · exact hshown
  have hlabel : ∀ k : Kind, '\n' ∉ k.label.toList := by
    rintro ((_ | _) | (_ | _) | _ | _) <;> decide
  have hhead : '\n' ∉ d.headline.toList := by
    rw [headline, detail_eq]
    simp only [String.toList_append, List.mem_append, not_or]
    exact ⟨⟨⟨by decide, not_mem_toString rfl _⟩, by decide⟩, hlabel _, hvalue⟩
  have hcaret : '\n' ∉ d.caretLine.toList := by
    simp [caretLine]
  unfold lines
  split
  · simp [hhead, hcaret, hshown]
  · simp [hhead]

/-- The column is told from the value, if there is one at all. -/
theorem Regular.column_eq {a b : Finding} (ha : a.Regular) (hb : b.Regular)
    (hkind : a.kind = b.kind) (hvalue : a.value = b.value) : a.column = b.column := by
  have hstructural : a.isStructural = b.isStructural := by rw [isStructural, hkind, isStructural]
  have hsome := ha.column
  have hsome' := hb.column
  rw [← hstructural] at hsome'
  cases h : a.isStructural with
  | false =>
    rw [h, Option.isSome_eq_false_iff, Option.isNone_iff_eq_none] at hsome hsome'
    rw [hsome, hsome']
  | true =>
    rw [h, Option.isSome_iff_exists] at hsome hsome'
    obtain ⟨m, hm⟩ := hsome
    obtain ⟨n, hn⟩ := hsome'
    rw [value, value, ← hstructural, h, if_pos rfl, if_pos rfl, shownColumn, shownColumn, hm,
      hn] at hvalue
    have hmn : m = n := toString_injective hvalue
    rw [hm, hn, hmn]

/-- The lines of a finding after the first one. -/
def echo (d : Finding) : List String :=
  if d.kind = .unexpectedClose .brace then ["  " ++ d.shownText, d.caretLine] else []

theorem lines_eq (d : Finding) : d.lines = d.headline :: d.echo := by
  unfold lines echo
  split
  · rfl
  · rfl

/-- The first line of a finding tells how many more there are. So the lines of a
finding end at one place, whatever comes after them. -/
theorem showsAs_of_lines {a b : Finding} (ha : a.Regular) (hb : b.Regular) {u v : List String}
    (h : a.lines ++ u = b.lines ++ v) : a.ShowsAs b ∧ u = v := by
  rw [lines_eq, lines_eq, List.cons_append, List.cons_append] at h
  obtain ⟨hhead, hrest⟩ := List.cons.inj h
  obtain ⟨hline, hdetail⟩ := headline_injective hhead
  obtain ⟨hkind, hvalue⟩ := detail_injective hdetail
  have hcolumn := ha.column_eq hb hkind hvalue
  by_cases hbrace : a.kind = .unexpectedClose .brace
  · rw [echo, echo, if_pos hbrace, if_pos (hkind ▸ hbrace)] at hrest
    obtain ⟨htext, hrest⟩ := List.cons.inj hrest
    rw [String.append_right_inj] at htext
    exact ⟨⟨hkind, hline, hcolumn, fun _ => htext⟩, (List.cons.inj hrest).2⟩
  · rw [echo, echo, if_neg hbrace, if_neg (hkind ▸ hbrace)] at hrest
    refine ⟨⟨hkind, hline, hcolumn, fun hshows => ?_⟩, hrest⟩
    have hpattern : a.isStructural = false := by
      rcases hshows with hk | hk | hk
      · exact absurd hk hbrace
      · rw [isStructural, hk]; rfl
      · rw [isStructural, hk]; rfl
    have hpattern' : b.isStructural = false := by rw [isStructural, ← hkind]; exact hpattern
    rw [value, value, hpattern, hpattern'] at hvalue
    exact hvalue

end Finding

/-! ## The entries of a report -/

namespace Entry

/-- Two entries that show the same. -/
def ShowsAs (a b : Entry) : Prop := Option.Rel Finding.ShowsAs a.finding? b.finding?

/-- An entry as a check makes it. -/
def Regular (e : Entry) : Prop := ∀ d, e.finding? = some d → d.Regular

theorem headline_ne_empty (d : Finding) : "" ≠ d.headline := by
  intro h
  have hlength := congrArg String.toList h
  simp [Finding.headline] at hlength

theorem showsAs_of_lines {a b : Entry} (ha : a.Regular) (hb : b.Regular) {u v : List String}
    (h : a.lines ++ u = b.lines ++ v) : a.ShowsAs b ∧ u = v := by
  cases a with
  | patternSection =>
    cases b with
    | patternSection =>
      exact ⟨.none, List.append_cancel_left h⟩
    | finding d =>
      rw [lines, lines, Finding.lines_eq] at h
      exact absurd (List.cons.inj h).1 (headline_ne_empty d)
  | finding d =>
    cases b with
    | patternSection =>
      rw [lines, lines, Finding.lines_eq] at h
      exact absurd (List.cons.inj h).1.symm (headline_ne_empty d)
    | finding d' =>
      obtain ⟨hshows, hrest⟩ := Finding.showsAs_of_lines (ha d rfl) (hb d' rfl) h
      exact ⟨.some hshows, hrest⟩

/-- Entries with the same lines, one after the other, show the same one by
one. -/
theorem forall₂_of_lines {a b : List Entry} (ha : ∀ e ∈ a, e.Regular) (hb : ∀ e ∈ b, e.Regular)
    (h : a.flatMap lines = b.flatMap lines) : List.Forall₂ ShowsAs a b := by
  induction a generalizing b with
  | nil =>
    cases b with
    | nil => exact .nil
    | cons e b =>
      obtain ⟨first, rest, he⟩ := exists_lines e
      simp [he] at h
  | cons e a ih =>
    cases b with
    | nil =>
      obtain ⟨first, rest, he⟩ := exists_lines e
      simp [he] at h
    | cons e' b =>
      rw [List.flatMap_cons, List.flatMap_cons] at h
      obtain ⟨hshows, hrest⟩ :=
        showsAs_of_lines (ha e List.mem_cons_self) (hb e' List.mem_cons_self) h
      exact .cons hshows (ih (fun e he => ha e (List.mem_cons_of_mem _ he))
        (fun e he => hb e (List.mem_cons_of_mem _ he)) hrest)

theorem Regular.unbroken {e : Entry} (h : e.Regular) : ∀ l ∈ e.lines, '\n' ∉ l.toList := by
  cases e with
  | patternSection => simp [lines]; decide
  | finding d => exact (h d rfl).unbroken

end Entry

/-- Entries with the same bytes show the same one by one. -/
theorem forall₂_of_bytesOf {a b : List Entry} (ha : ∀ e ∈ a, e.Regular) (hb : ∀ e ∈ b, e.Regular)
    (h : bytesOf a = bytesOf b) : List.Forall₂ Entry.ShowsAs a b := by
  have hunbroken : ∀ {c : List Entry}, (∀ e ∈ c, e.Regular) →
      ∀ l ∈ c.flatMap Entry.lines, '\n' ∉ l.toList := by
    intro c hc l hl
    obtain ⟨e, he, hl⟩ := List.mem_flatMap.mp hl
    exact (hc e he).unbroken l hl
  have hbytes : ∀ c : List Entry, bytesOf c = (String.join (c.map Entry.text)).toUTF8 := by
    intro c
    rw [← joined_toUTF8, List.map_map]
    rfl
  rw [hbytes, hbytes, String.toUTF8_eq_toByteArray, String.toUTF8_eq_toByteArray,
    String.toByteArray_inj, ← String.toList_inj, toList_text, toList_text] at h
  exact Entry.forall₂_of_lines ha hb (lineChars_injective (hunbroken ha) (hunbroken hb) h)

/-! ## The entries of a check -/

theorem regular_of_mem_bracketFindings {lines : List String}
    (hlines : ∀ line ∈ lines, '\n' ∉ line.toList) {d : Finding} (h : d ∈ bracketFindings lines) :
    d.Regular := by
  rcases List.mem_append.mp h with h | h
  · obtain ⟨f, cell, hcell, rfl, -⟩ := Scan.of_mem_findings h
    exact ⟨rfl, hlines _ (List.mem_of_getElem? ((mem_cells _ _).mp hcell).line)⟩
  · obtain ⟨f, -, h⟩ := List.mem_flatMap.mp h
    obtain ⟨p, -, rfl⟩ := List.mem_map.mp h
    exact ⟨rfl, List.not_mem_nil⟩

theorem regular_of_mem_patternFindings {lines : List String}
    (hlines : ∀ line ∈ lines, '\n' ∉ line.toList) {d : Finding} (h : d ∈ patternFindings lines) :
    d.Regular := by
  obtain ⟨num, line, hline, rfl | rfl⟩ := of_mem_patternFindings h
  · exact ⟨rfl, hlines line hline⟩
  · exact ⟨rfl, hlines line hline⟩

theorem regular_of_mem_entries (text : String) : ∀ e ∈ (Source.ofText text).entries, e.Regular := by
  have hlines : ∀ line ∈ splitLines text, '\n' ∉ line.toList := fun _ hline hmem =>
    (splitLines_unbroken hline _ hmem).1 rfl
  intro e he d hd
  rcases List.mem_append.mp he with he | he
  · obtain ⟨d', hd', rfl⟩ := List.mem_map.mp he
    cases hd
    exact regular_of_mem_bracketFindings hlines hd'
  · rcases List.mem_cons.mp he with rfl | he
    · cases hd
    · obtain ⟨d', hd', rfl⟩ := List.mem_map.mp he
      cases hd
      exact regular_of_mem_patternFindings hlines hd'

/-- The bytes of the report on a script, on a channel that takes them all. -/
def reportOn (source : Source) : ByteArray :=
  (stateOf (check Report.take source { sink := {} })).sink.channel.written

/-- The findings that a check hands over, to a sink that takes them all. -/
def findingsOn (source : Source) : List Finding :=
  (stateOf (check Recorder.take source { sink := {} })).sink.findings

theorem reportOn_eq (source : Source) : reportOn source = bytesOf source.entries := by
  obtain ⟨last, hcheck, hlast⟩ := check_report source
  rw [reportOn, hcheck, stateOf, hlast]
  rfl

theorem findingsOn_eq (source : Source) :
    findingsOn source = source.entries.filterMap Entry.finding? := by
  obtain ⟨last, hcheck, hlast⟩ := check_take source
  rw [findingsOn, hcheck, stateOf, Recorder.findings, hlast]

/-! ## The laws -/

/-- Two scripts with the same report have the same number of findings, and these
show the same one by one: their kind, line and column, and the line of the
script without the blanks at its end if the report has it. -/
theorem a_report_can_be_read_back (text text' : String)
    (h : reportOn (.ofText text) = reportOn (.ofText text')) :
    List.Forall₂ Finding.ShowsAs (findingsOn (.ofText text)) (findingsOn (.ofText text')) := by
  rw [reportOn_eq, reportOn_eq] at h
  have hentries := forall₂_of_bytesOf (regular_of_mem_entries text) (regular_of_mem_entries text') h
  rw [findingsOn_eq, findingsOn_eq]
  exact List.rel_filterMap (fun _ _ h => h) hentries

/-- Blanks at the end of a line and the sort of its end change nothing in a
report. -/
theorem blanks_and_line_ends_leave_the_report_alone :
    reportOn (.ofText "x \x7d  \r\n\x60y") = reportOn (.ofText "x \x7d\n\x60y \n") ∧
      List.Forall₂ Finding.ShowsAs (findingsOn (.ofText "x \x7d  \r\n\x60y"))
        (findingsOn (.ofText "x \x7d\n\x60y \n")) := by
  have h : reportOn (.ofText "x \x7d  \r\n\x60y") = reportOn (.ofText "x \x7d\n\x60y \n") := by
    rw [reportOn_eq, reportOn_eq]
    decide +kernel
  exact ⟨h, a_report_can_be_read_back _ _ h⟩

end ScriptBalance
