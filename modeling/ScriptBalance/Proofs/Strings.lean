-- Which string is open. The quotes that count, over all lines, factor in one way
-- into closed strings and at most one open string, and a scan keeps the quote of
-- the open one.
import Mathlib.Data.List.Basic
import ScriptBalance.Proofs.Outside
import ScriptBalance.Proofs.Streaming

namespace ScriptBalance

/-! ## The strings of a row of quotes -/

/-- A string: its quote, and the quotes inside it, which are plain text. -/
@[ext]
structure Quoted where
  quote : Quote
  inside : List Quote
  not_mem_inside : quote ∉ inside

namespace Quoted

/-- The string with more quotes inside it. -/
def push (b : Quoted) (w : List Quote) (h : b.quote ∉ w) : Quoted :=
  ⟨b.quote, b.inside ++ w, by simp [b.not_mem_inside, h]⟩

/-- The quotes of the string while it is open. -/
def openWord (b : Quoted) : List Quote := b.quote :: b.inside

/-- The quotes of the string once it is closed. -/
def closedWord (b : Quoted) : List Quote := b.openWord ++ [b.quote]

end Quoted

/-- The strings of a row of quotes, in order. -/
@[ext]
structure Strings where
  closed : List Quoted := []
  /-- The string that no quote closes. -/
  current : Option Quoted := none

namespace Strings

/-- The row of quotes that has these strings. -/
def word (f : Strings) : List Quote :=
  f.closed.flatMap Quoted.closedWord ++ (f.current.map Quoted.openWord).getD []

/-- The quote of the open string. -/
def active (f : Strings) : Option Quote := f.current.map Quoted.quote

/-- The strings with one more quote behind them. -/
def read (f : Strings) (q : Quote) : Strings :=
  match f.current with
  | none => { f with current := some ⟨q, [], List.not_mem_nil⟩ }
  | some b =>
    if h : b.quote = q then { closed := f.closed ++ [b] }
    else { f with current := some (b.push [q] (by simpa using h)) }

def readAll (f : Strings) (w : List Quote) : Strings := w.foldl read f

def ofQuotes (w : List Quote) : Strings := readAll {} w

@[simp] theorem readAll_nil (f : Strings) : f.readAll [] = f := rfl

@[simp] theorem readAll_cons (f : Strings) (q : Quote) (w : List Quote) :
    f.readAll (q :: w) = (f.read q).readAll w := rfl

@[simp] theorem readAll_append (f : Strings) (u v : List Quote) :
    f.readAll (u ++ v) = (f.readAll u).readAll v := by
  simp [readAll]

/-! ## Every row of quotes has strings -/

theorem word_read (f : Strings) (q : Quote) : (f.read q).word = f.word ++ [q] := by
  unfold read
  split
  · rename_i h
    simp [word, h, Quoted.openWord]
  · rename_i b h
    split
    · rename_i hq
      simp [word, h, hq, Quoted.closedWord]
    · simp [word, h, Quoted.openWord, Quoted.push]

theorem word_readAll (f : Strings) (w : List Quote) : (f.readAll w).word = f.word ++ w := by
  induction w generalizing f with
  | nil => simp
  | cons q rest ih => rw [readAll_cons, ih, word_read, List.append_assoc, List.singleton_append]

theorem word_ofQuotes (w : List Quote) : (ofQuotes w).word = w := by
  rw [ofQuotes, word_readAll]
  rfl

/-! ## No row of quotes has two rows of strings -/

theorem readAll_inside {f : Strings} {b : Quoted} (hb : f.current = some b) {w : List Quote}
    (h : b.quote ∉ w) : f.readAll w = { f with current := some (b.push w h) } := by
  induction w generalizing f b with
  | nil =>
    rw [readAll_nil]
    ext1
    · rfl
    · simp [hb, Quoted.push]
  | cons q rest ih =>
    obtain ⟨hq, hrest⟩ := not_or.mp (List.mem_cons.not.mp h)
    have hread : f.read q = { f with current := some (b.push [q] (by simpa using hq)) } := by
      unfold read
      rw [hb]
      simp [hq]
    rw [readAll_cons, hread, ih (b := b.push [q] (by simpa using hq)) rfl hrest]
    simp [Quoted.push]

theorem readAll_openWord {f : Strings} (hf : f.current = none) (b : Quoted) :
    f.readAll b.openWord = { f with current := some b } := by
  have hread : f.read b.quote = { f with current := some ⟨b.quote, [], List.not_mem_nil⟩ } := by
    unfold read
    rw [hf]
  rw [Quoted.openWord, readAll_cons, hread,
    readAll_inside (b := ⟨b.quote, [], List.not_mem_nil⟩) rfl b.not_mem_inside]
  simp [Quoted.push]

theorem readAll_closedWord {f : Strings} (hf : f.current = none) (b : Quoted) :
    f.readAll b.closedWord = { f with closed := f.closed ++ [b] } := by
  rw [Quoted.closedWord, readAll_append, readAll_openWord hf, readAll_cons, readAll_nil]
  simp [read, hf]

theorem readAll_closed {f : Strings} (hf : f.current = none) (bs : List Quoted) :
    f.readAll (bs.flatMap Quoted.closedWord) = { f with closed := f.closed ++ bs } := by
  induction bs generalizing f with
  | nil => simp
  | cons b rest ih =>
    rw [List.flatMap_cons, readAll_append, readAll_closedWord hf,
      ih (f := { f with closed := f.closed ++ [b] }) hf]
    simp

/-- Reading the quotes of some strings gives these strings back. -/
theorem ofQuotes_word (f : Strings) : ofQuotes f.word = f := by
  obtain ⟨closed, current⟩ := f
  unfold ofQuotes word
  rw [readAll_append, readAll_closed rfl]
  cases current with
  | none => rfl
  | some b => exact readAll_openWord rfl b

/-- A row of quotes factors into strings in one way only. -/
theorem word_injective {f g : Strings} (h : f.word = g.word) : f = g := by
  rw [← ofQuotes_word f, ← ofQuotes_word g, h]

/-! ## The quote of the open string -/

theorem active_read (f : Strings) (q : Quote) : (f.read q).active = Quote.toggle f.active q := by
  unfold read active
  split
  · rename_i h
    simp [h, Quote.toggle]
  · rename_i b h
    rw [h]
    unfold Quote.toggle
    simp only [Option.map_some]
    split
    · rfl
    · rfl

theorem active_readAll (f : Strings) (w : List Quote) :
    (f.readAll w).active = w.foldl Quote.toggle f.active := by
  induction w generalizing f with
  | nil => rfl
  | cons q rest ih => rw [readAll_cons, ih, active_read, List.foldl_cons]

end Strings

/-! ## The quotes of a script -/

/-- The character at a position of a script. -/
def charAt? (lines : List String) (p : Position) : Option Char :=
  if p.line = 0 then none else lines[p.line - 1]?.bind fun line => line.toList[p.column]?

/-- The quote that counts at a position of a script: one with no backtick right
before it on its line. -/
def quoteAt? (lines : List String) (p : Position) : Option Quote :=
  if p.column ≠ 0 ∧ charAt? lines ⟨p.line, p.column - 1⟩ = some escapeChar then none
  else (charAt? lines p).bind Quote.ofChar?

/-- The quotes that count up to a position of a script, that one included, in
order. -/
def quotesUpTo (lines : List String) (p : Position) : List Quote :=
  ((positions lines).filter fun q => ¬ p < q).filterMap (quoteAt? lines)

theorem charAt?_eq {lines : List String} {cell : Cell} (h : cell.StandsIn lines) (column : Nat) :
    charAt? lines ⟨cell.pos.line, column⟩ = cell.line.toList[column]? := by
  unfold charAt?
  rw [if_neg (Nat.ne_of_gt h.line_pos), h.line]
  rfl

/-- Each character of a script has a cell. -/
theorem exists_cell {lines : List String} {p : Position} {c : Char} (h : charAt? lines p = some c) :
    ∃ read cell rest, cells lines = read ++ cell :: rest ∧ cell.pos = p ∧ cell.char = c := by
  unfold charAt? at h
  split at h
  · cases h
  · rename_i hp
    obtain ⟨line, hline, hchar⟩ := Option.bind_eq_some_iff.mp h
    let cell : Cell := ⟨p, if p.column = 0 then none else line.toList[p.column - 1]?, c, line⟩
    have hcell : cell ∈ cells lines :=
      (mem_cells lines cell).mpr ⟨Nat.pos_of_ne_zero hp, hline, hchar, rfl⟩
    obtain ⟨read, rest, hsplit⟩ := List.append_of_mem hcell
    exact ⟨read, cell, rest, hsplit, rfl, rfl⟩

theorem quoteAt?_eq {lines : List String} {cell : Cell} (h : cell.StandsIn lines) :
    quoteAt? lines cell.pos = Quote.effective? cell.prev cell.char := by
  unfold quoteAt? Quote.effective?
  rw [charAt?_eq h, h.prev, (charAt?_eq h cell.pos.column).trans h.char]
  by_cases hcol : cell.pos.column = 0
  · simp [hcol]
  · simp [hcol]

/-- The quotes that count up to a cell are told by the cells alone. -/
theorem quotesUpTo_eq {lines : List String} {read rest : List Cell} {cell : Cell}
    (h : cells lines = read ++ cell :: rest) :
    quotesUpTo lines cell.pos
      = (read ++ [cell]).filterMap fun c => Quote.effective? c.prev c.char := by
  unfold quotesUpTo
  rw [filter_positions h, List.filterMap_map]
  refine List.filterMap_congr fun c hc => quoteAt?_eq ((mem_cells lines c).mp ?_)
  rw [h, List.append_cons]
  exact List.mem_append_left _ hc

/-! ## The scan of a script -/

namespace Scan

/-- A scan toggles its quote at each quote that counts. -/
theorem quote_after (s : Scan) (cells : List Cell) :
    (s.after cells).quote
      = (cells.filterMap fun c => Quote.effective? c.prev c.char).foldl Quote.toggle s.quote := by
  induction cells generalizing s with
  | nil => rfl
  | cons cell rest ih =>
    show ((s.next cell).after rest).quote = _
    rw [ih, quote_next, quoteAfter, Quote.after, List.filterMap_cons]
    cases Quote.effective? cell.prev cell.char <;> rfl

/-- A scan holds the quote of the string that the quotes so far leave open. -/
theorem quoteAfter_eq_active (read : List Cell) (cell : Cell) :
    (Scan.after {} read).quoteAfter cell
      = (Strings.ofQuotes
          ((read ++ [cell]).filterMap fun c => Quote.effective? c.prev c.char)).active := by
  have hquote := quote_after {} (read ++ [cell])
  rw [after_append] at hquote
  rw [← quote_next, Strings.ofQuotes, Strings.active_readAll]
  exact hquote

/-- In a string, a cell changes nothing but the quote, and it has no finding. -/
theorem next_of_quoteAfter {s : Scan} {cell : Cell} {q : Quote} (h : s.quoteAfter cell = some q) :
    s.next cell = { s with quote := some q } ∧ s.finding? cell = none := by
  have hb : s.bracket? cell = none := by
    unfold bracket?
    rw [h]
    rfl
  refine ⟨?_, ?_⟩
  · rw [next, hb, h]
    rfl
  · rw [finding?, hb]

theorem next_of_quoteAfter_none {s : Scan} {cell : Cell} (h : s.quoteAfter cell = none) :
    s.next cell = { s with quote := none }.meet cell.pos (Bracket.ofChar? cell.char) := by
  unfold next bracket?
  rw [h]
  rfl

end Scan

/-- A scan of the cells of lines, one line after the other, is one scan of all
cells. -/
theorem total_scanLine {σ ε : Type} (sink : Sink σ ε) (lines : List String) :
    CheckM.total (fun (line, num) => scanLine sink num line) (lines.zipIdx 1)
      = CheckM.total (scanCell sink) (cells lines) := by
  unfold cells
  induction lines.zipIdx 1 with
  | nil => rfl
  | cons first rest ih =>
    rw [CheckM.total_cons, ih, List.flatMap_cons, CheckM.total_append]
    rfl

/-- If the steps for a list return, those before the last one do, and then the
last one does. -/
theorem total_concat_ok {σ ε α : Type} {step : α → CheckM σ ε Nat} {list : List α} {last : α}
    {x y : Session σ} {n : Nat} (h : CheckM.total step (list ++ [last]) x = .ok n y) :
    ∃ k z m, CheckM.total step list x = .ok k z ∧ step last z = .ok m y := by
  rw [CheckM.total_append, CheckM.total_cons, CheckM.total_nil] at h
  obtain ⟨k, z, hlist, hrest⟩ := bind_eq_ok_iff.mp h
  obtain ⟨m', z', hlast, hend⟩ := bind_eq_ok_iff.mp hrest
  obtain ⟨m, z'', hstep, hlast⟩ := bind_eq_ok_iff.mp hlast
  cases hlast
  cases hend
  exact ⟨k, z, m, hlist, hstep⟩

/-- A recorder takes what a scan of cells hands to it, and the scan gets to the
last cell. -/
theorem total_scanCell_concat (read : List Cell) (cell : Cell) :
    ∃ k before n after,
      CheckM.total (scanCell Recorder.take) read { sink := {} } = .ok k before ∧
        scanCell Recorder.take cell before = .ok n after ∧
        before.scan = Scan.after {} read ∧ after.scan = before.scan.next cell ∧
        (before.scan.finding? cell = none → n = 0 ∧ after.sink = before.sink) := by
  have hall := Streams.total (streams_scanCell Recorder.take) {} (read ++ [cell])
  obtain ⟨after, hrun, -⟩ := hall.take
  obtain ⟨k, before, n, hread, hcell⟩ := total_concat_ok hrun
  refine ⟨k, before, n, after, hread, hcell, ?_, ?_, ?_⟩
  · rw [← scanAfterAll_chain_cells]
    exact Performs.scan_eq (x := { sink := {} })
      (Streams.total (streams_scanCell Recorder.take) {} read) hread
  · rw [← scanAfterAll_cellActions before.scan before.scan cell]
    exact Performs.scan_eq (streams_scanCell Recorder.take before.scan cell) hcell
  · intro hnone
    have hsink := Performs.onSink_eq (streams_scanCell Recorder.take before.scan cell)
    rw [hcell, entriesOf_cellActions, hnone] at hsink
    injection hsink with hn hs
    exact ⟨hn, hs⟩

/-! ## The laws -/

/-- The quotes that count up to a position of a script factor in one way into
closed strings and at most one open string. A scan that has read the character
at the position holds the quote of the open string. If there is none, it has
then met the bracket that the character is. If there is one, the character does
nothing else. A scan of lines is a scan of their cells, so line ends do nothing
at all. -/
theorem the_quotes_so_far_tell_which_string_is_open (lines : List String) (p : Position) (c : Char)
    (h : charAt? lines p = some c) :
    CheckM.total (fun (line, num) => scanLine Recorder.take num line) (lines.zipIdx 1)
        = CheckM.total (scanCell Recorder.take) (cells lines) ∧
      ∃ strings : Strings, strings.word = quotesUpTo lines p ∧
        (∀ other : Strings, other.word = quotesUpTo lines p → other = strings) ∧
        ∃ read cell rest, cells lines = read ++ cell :: rest ∧ cell.pos = p ∧ cell.char = c ∧
          ∃ k before n after,
            CheckM.total (scanCell Recorder.take) read { sink := {} } = .ok k before ∧
              scanCell Recorder.take cell before = .ok n after ∧
              match strings.current with
              | none =>
                after.scan.quote = none ∧
                  after.scan = { before.scan with quote := none }.meet p (Bracket.ofChar? c)
              | some b =>
                after.scan = { before.scan with quote := some b.quote } ∧ n = 0 ∧
                  after.sink = before.sink := by
  refine ⟨total_scanLine Recorder.take lines, .ofQuotes _, Strings.word_ofQuotes _,
    fun other hother => ?_, ?_⟩
  · exact Strings.word_injective (hother.trans (Strings.word_ofQuotes _).symm)
  · obtain ⟨read, cell, rest, hsplit, rfl, rfl⟩ := exists_cell h
    obtain ⟨k, before, n, after, hread, hcell, hbefore, hafter, hnone⟩ :=
      total_scanCell_concat read cell
    refine ⟨read, cell, rest, hsplit, rfl, rfl, k, before, n, after, hread, hcell, ?_⟩
    have hactive := Scan.quoteAfter_eq_active read cell
    rw [← hbefore, ← quotesUpTo_eq hsplit] at hactive
    unfold Strings.active at hactive
    split
    · rename_i hcurrent
      rw [hcurrent] at hactive
      rw [hafter]
      exact ⟨by rw [Scan.quote_next, hactive]; rfl, Scan.next_of_quoteAfter_none hactive⟩
    · rename_i b hcurrent
      rw [hcurrent] at hactive
      obtain ⟨hnext, hfinding⟩ := Scan.next_of_quoteAfter hactive
      exact ⟨hafter.trans hnext, hnone hfinding⟩

/-- The string of the first line is open over the line end, past a quote of the
other sort and past an escaped quote. -/
theorem an_escaped_quote_closes_no_string :
    ∃ read cell rest k before n after,
      cells ["a\"(", "\x27\x60\")"] = read ++ cell :: rest ∧ cell.pos = ⟨2, 3⟩ ∧
        CheckM.total (scanCell Recorder.take) read { sink := {} } = .ok k before ∧
        scanCell Recorder.take cell before = .ok n after ∧
        after.scan = { before.scan with quote := some .double } ∧ n = 0 := by
  obtain ⟨-, strings, -, hunique, read, cell, rest, hsplit, hpos, -, k, before, n, after, hread,
    hcell, hopen⟩ := the_quotes_so_far_tell_which_string_is_open ["a\"(", "\x27\x60\")"] ⟨2, 3⟩
      ')' (by decide)
  have hstrings := hunique ⟨[], some ⟨.double, [.single], by decide⟩⟩ (by decide)
  subst hstrings
  exact ⟨read, cell, rest, k, before, n, after, hsplit, hpos, hread, hcell, hopen.1, hopen.2.1⟩

end ScriptBalance
