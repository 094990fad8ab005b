-- What the log tells about strings. The quotes of a script that count say where its
-- strings start and end, and the bracket pass writes a record for each of these
-- places, in order. Its last record says what is open at the end of the script.
import ScriptBalance.Proofs.Runs
import ScriptBalance.Proofs.Strings

namespace ScriptBalance

/-- A quote that counts is a character of the script. -/
theorem exists_charAt?_of_quoteAt? {lines : List String} {p : Position} {q : Quote}
    (h : quoteAt? lines p = some q) : ∃ c, charAt? lines p = some c := by
  unfold quoteAt? at h
  split at h
  · cases h
  · obtain ⟨c, hc, -⟩ := Option.bind_eq_some_iff.mp h
    exact ⟨c, hc⟩

/-! ## Where strings stand -/

/-- Where a closed string stands: its first quote and its last one. -/
structure Extent where
  start : Position
  stop : Position

/-- Where some strings stand, in order. -/
structure Extents where
  closed : List Extent := []
  /-- Where the string starts that no quote closes, and its quote. -/
  current : Option (Position × Quote) := none

namespace Extents

/-- The places at which strings start and end. -/
def places (t : Extents) : List Position :=
  t.closed.flatMap (fun e => [e.start, e.stop]) ++ t.current.toList.map Prod.fst

/-- What the log says at these places: in turn, that a string starts and that it
ends. -/
def records (t : Extents) : List Log.Record :=
  t.closed.flatMap (fun e => [.entered e.start, .left e.stop])
    ++ t.current.toList.map fun x => .entered x.1

/-- The strings are those of some quotes with their positions. -/
structure Delimits (t : Extents) (quoteAt : Position → Quote → Prop) : Prop where
  /-- A closed string ends at the first quote of its sort behind its start. -/
  closed : ∀ e ∈ t.closed, ∃ q, quoteAt e.start q ∧ quoteAt e.stop q ∧
    ∀ p, e.start < p → p < e.stop → ¬ quoteAt p q
  /-- An open string has no quote of its sort behind its start. -/
  current : ∀ x ∈ t.current, quoteAt x.1 x.2 ∧ ∀ p, x.1 < p → ¬ quoteAt p x.2
  sorted : t.places.Pairwise (· < ·)
  /-- No quote stands outside of the strings. -/
  covered : ∀ p q, quoteAt p q →
    (∃ e ∈ t.closed, ¬ p < e.start ∧ ¬ e.stop < p) ∨ ∃ x ∈ t.current, ¬ p < x.1

/-! ## One more quote -/

/-- The strings with one more quote behind them. -/
def read (t : Extents) (p : Position) (q : Quote) : Extents :=
  match t.current with
  | none => { t with current := some (p, q) }
  | some (start, a) => if a = q then { closed := t.closed ++ [⟨start, p⟩] } else t

variable {t : Extents} {quoteAt : Position → Quote → Prop} {p : Position} {q : Quote}

/-- A place of a string has a quote. -/
theorem Delimits.exists_quote (h : t.Delimits quoteAt) {r : Position} (hr : r ∈ t.places) :
    ∃ s, quoteAt r s := by
  unfold places at hr
  rcases List.mem_append.mp hr with hr | hr
  · obtain ⟨e, he, hr⟩ := List.mem_flatMap.mp hr
    obtain ⟨s, hstart, hstop, -⟩ := h.closed e he
    simp only [List.mem_cons, List.not_mem_nil, or_false] at hr
    rcases hr with rfl | rfl
    · exact ⟨s, hstart⟩
    · exact ⟨s, hstop⟩
  · obtain ⟨x, hx, rfl⟩ := List.mem_map.mp hr
    exact ⟨x.2, (h.current x (Option.mem_toList.mp hx)).1⟩

/-- The quotes so far, and one more. -/
def more (quoteAt : Position → Quote → Prop) (p : Position) (q : Quote) :
    Position → Quote → Prop :=
  fun r s => quoteAt r s ∨ r = p ∧ s = q

section

variable (h : t.Delimits quoteAt) (hlast : ∀ r s, quoteAt r s → r < p)

include h hlast

theorem Delimits.sorted_more {u : Extents} (hplaces : u.places = t.places ++ [p]) :
    u.places.Pairwise (· < ·) := by
  rw [hplaces, List.pairwise_append]
  refine ⟨h.sorted, List.pairwise_singleton _ _, ?_⟩
  intro r hr x hx
  obtain ⟨s, hs⟩ := h.exists_quote hr
  rw [List.mem_singleton.mp hx]
  exact hlast r s hs

/-- A later quote does not change a closed string. -/
theorem Delimits.closed_more : ∀ e ∈ t.closed, ∃ s,
    more quoteAt p q e.start s ∧ more quoteAt p q e.stop s ∧
      ∀ r, e.start < r → r < e.stop → ¬ more quoteAt p q r s := by
  intro e he
  obtain ⟨s, hstart, hstop, hbetween⟩ := h.closed e he
  refine ⟨s, Or.inl hstart, Or.inl hstop, ?_⟩
  rintro r hr hr' (hold | ⟨rfl, -⟩)
  · exact hbetween r hr hr' hold
  · exact Position.lt_asymm hr' (hlast _ _ hstop)

/-- Outside strings, a quote opens one. -/
theorem Delimits.opened (hcurrent : t.current = none) :
    ({ t with current := some (p, q) } : Extents).Delimits (more quoteAt p q) where
  closed := h.closed_more hlast
  current := by
    intro x hx
    cases hx
    refine ⟨Or.inr ⟨rfl, rfl⟩, ?_⟩
    rintro r hr (hold | ⟨rfl, -⟩)
    · exact Position.lt_asymm hr (hlast _ _ hold)
    · exact Position.lt_irrefl _ hr
  sorted := by
    apply h.sorted_more hlast
    simp [places, hcurrent]
  covered := by
    rintro r s (hold | ⟨rfl, rfl⟩)
    · rcases h.covered r s hold with hclosed | ⟨x, hx, -⟩
      · exact Or.inl hclosed
      · rw [hcurrent] at hx
        cases hx
    · exact Or.inr ⟨_, rfl, Position.lt_irrefl _⟩

/-- In a string, its quote closes it. -/
theorem Delimits.ended {start : Position} (hcurrent : t.current = some (start, q)) :
    ({ closed := t.closed ++ [⟨start, p⟩] } : Extents).Delimits (more quoteAt p q) := by
  obtain ⟨hquote, hnone⟩ := h.current _ hcurrent
  refine ⟨?_, nofun, ?_, ?_⟩
  · intro e he
    rcases List.mem_append.mp he with he | he
    · exact h.closed_more hlast e he
    · cases List.mem_singleton.mp he
      refine ⟨q, Or.inl hquote, Or.inr ⟨rfl, rfl⟩, ?_⟩
      rintro r hr hr' (hold | ⟨rfl, -⟩)
      · exact hnone r hr hold
      · exact Position.lt_irrefl _ hr'
  · apply h.sorted_more hlast
    simp [places, hcurrent]
  · rintro r s (hold | ⟨rfl, rfl⟩)
    · rcases h.covered r s hold with ⟨e, he, hin⟩ | ⟨x, hx, hin⟩
      · exact Or.inl ⟨e, List.mem_append_left _ he, hin⟩
      · rw [hcurrent] at hx
        cases hx
        exact Or.inl ⟨_, List.mem_append_right _ List.mem_cons_self, hin,
          Position.lt_asymm (hlast _ _ hold)⟩
    · exact Or.inl ⟨_, List.mem_append_right _ List.mem_cons_self,
        Position.lt_asymm (hlast _ _ hquote), Position.lt_irrefl _⟩

/-- In a string, a quote of the other sort is plain text. -/
theorem Delimits.passed {start : Position} {a : Quote} (hcurrent : t.current = some (start, a))
    (hne : a ≠ q) : t.Delimits (more quoteAt p q) := by
  obtain ⟨hquote, hnone⟩ := h.current _ hcurrent
  refine ⟨h.closed_more hlast, ?_, h.sorted, ?_⟩
  · intro x hx
    rw [hcurrent] at hx
    cases hx
    refine ⟨Or.inl hquote, ?_⟩
    rintro r hr (hold | ⟨-, rfl⟩)
    · exact hnone r hr hold
    · exact hne rfl
  · rintro r s (hold | ⟨rfl, rfl⟩)
    · exact h.covered r s hold
    · exact Or.inr ⟨_, hcurrent, Position.lt_asymm (hlast _ _ hquote)⟩

theorem Delimits.read : (t.read p q).Delimits (more quoteAt p q) := by
  unfold Extents.read
  split
  · rename_i hcurrent
    exact h.opened hlast hcurrent
  · rename_i start a hcurrent
    by_cases ha : a = q
    · subst ha
      rw [if_pos rfl]
      exact h.ended hlast hcurrent
    · rw [if_neg ha]
      exact h.passed hlast hcurrent ha

end

/-! ## The quotes of cells -/

/-- The strings with the quote of one more cell behind them, if it has one that
counts. -/
def readCell (t : Extents) (cell : Cell) : Extents :=
  match Quote.effective? cell.prev cell.char with
  | none => t
  | some q => t.read cell.pos q

/-- The strings of the quotes at some cells. -/
def ofCells (cells : List Cell) : Extents := cells.foldl readCell {}

/-- A cell at the position has a quote that counts. -/
def QuotedIn (cells : List Cell) (p : Position) (q : Quote) : Prop :=
  ∃ cell ∈ cells, cell.pos = p ∧ Quote.effective? cell.prev cell.char = some q

theorem quotedIn_concat (read : List Cell) (cell : Cell) :
    QuotedIn (read ++ [cell]) = match Quote.effective? cell.prev cell.char with
      | none => QuotedIn read
      | some q => more (QuotedIn read) cell.pos q := by
  funext p q
  unfold QuotedIn
  cases h : Quote.effective? cell.prev cell.char with
  | none => simp [or_and_right, exists_or, h]
  | some s => simp [or_and_right, exists_or, h, more, eq_comm]

theorem delimits_ofCells {cells : List Cell} (h : cells.Pairwise fun a b => a.pos < b.pos) :
    (ofCells cells).Delimits (QuotedIn cells) := by
  -- one cell more at the end, so the quotes before it are those of the strings so far
  induction cells using List.reverseRecOn with
  | nil => exact ⟨nofun, nofun, List.Pairwise.nil, by rintro p q ⟨cell, hcell, -⟩; cases hcell⟩
  | append_singleton read cell ih =>
    rw [List.pairwise_append] at h
    obtain ⟨hread, -, hlast⟩ := h
    have ih := ih hread
    rw [quotedIn_concat, ofCells, List.foldl_append, List.foldl_cons, List.foldl_nil, readCell]
    split
    · exact ih
    · apply ih.read
      rintro r s ⟨c, hc, rfl, -⟩
      exact hlast c hc cell List.mem_cons_self

/-- The strings of a script are told by its quotes that count. -/
theorem delimits_cells (lines : List String) :
    (ofCells (cells lines)).Delimits fun p q => quoteAt? lines p = some q := by
  have hquotes : QuotedIn (cells lines) = fun p q => quoteAt? lines p = some q := by
    funext p q
    apply propext
    constructor
    · rintro ⟨cell, hcell, rfl, hq⟩
      rw [quoteAt?_eq ((mem_cells lines cell).mp hcell), hq]
    · intro hq
      obtain ⟨c, hchar⟩ := exists_charAt?_of_quoteAt? hq
      obtain ⟨read, cell, rest, hsplit, rfl, -⟩ := exists_cell hchar
      have hcell : cell ∈ cells lines := by simp [hsplit]
      rw [quoteAt?_eq ((mem_cells lines cell).mp hcell)] at hq
      exact ⟨cell, hcell, rfl, hq⟩
  rw [← hquotes]
  exact delimits_ofCells (cells_sorted lines)

/-! ## The records of a scan -/

theorem records_read (t : Extents) (p : Position) (q : Quote) :
    (t.read p q).records = t.records ++
      match t.current with
      | none => [.entered p]
      | some (_, a) => if a = q then [.left p] else [] := by
  unfold read
  rcases hcurrent : t.current with _ | ⟨start, a⟩
  · simp [records, hcurrent]
  · by_cases ha : a = q
    · simp [records, hcurrent, ha]
    · simp [ha]

theorem active_read (t : Extents) (p : Position) (q : Quote) :
    (t.read p q).current.map Prod.snd = Quote.toggle (t.current.map Prod.snd) q := by
  unfold read
  rcases hcurrent : t.current with _ | ⟨start, a⟩
  · rfl
  · by_cases ha : a = q
    · simp [Quote.toggle, ha]
    · simp [Quote.toggle, ha, hcurrent]

end Extents

namespace Scan

/-- The records that the cells of a list add to the log, in order. -/
def records (s : Scan) : List Cell → List Log.Record
  | [] => []
  | cell :: rest => (s.record? cell).toList ++ (s.next cell).records rest

/-- At each cell, the log says what the quote of the cell does to the strings. -/
theorem record?_readCell {s : Scan} {t : Extents} (h : s.quote = t.current.map Prod.snd)
    (cell : Cell) :
    t.records ++ (s.record? cell).toList = (t.readCell cell).records ∧
      (s.next cell).quote = (t.readCell cell).current.map Prod.snd := by
  unfold Extents.readCell
  rw [quote_next]
  unfold record? inString quoteAfter Quote.after
  cases hq : Quote.effective? cell.prev cell.char with
  | none =>
    cases hs : s.quote <;> simp [← h, hs]
  | some q =>
    refine ⟨?_, ?_⟩
    · rw [Extents.records_read, h]
      rcases t.current with _ | ⟨start, a⟩
      · rfl
      · by_cases ha : a = q
        · simp [Quote.toggle, ha]
        · simp [Quote.toggle, ha]
    · rw [Extents.active_read, h]

theorem records_cells {s : Scan} {t : Extents} (h : s.quote = t.current.map Prod.snd)
    (cells : List Cell) :
    t.records ++ s.records cells = (cells.foldl Extents.readCell t).records ∧
      (s.after cells).quote = (cells.foldl Extents.readCell t).current.map Prod.snd := by
  induction cells generalizing s t with
  | nil => exact ⟨List.append_nil _, h⟩
  | cons cell rest ih =>
    obtain ⟨hrecord, hquote⟩ := record?_readCell h cell
    obtain ⟨hrecords, hafter⟩ := ih hquote
    rw [records, ← List.append_assoc, hrecord]
    exact ⟨hrecords, hafter⟩

end Scan

/-! ## The log of the bracket pass -/

theorem recordsOf_append (a b : List Action) : recordsOf (a ++ b) = recordsOf a ++ recordsOf b := by
  simp [recordsOf]

theorem recordsOf_sends (found : List Finding) : recordsOf (sends found) = [] := by
  rw [List.eq_nil_iff_forall_not_mem]
  intro r hr
  exact note_not_mem_sends r found (mem_recordsOf.mp hr)

theorem recordsOf_cellActions (s : Scan) (cell : Cell) :
    recordsOf (cellActions s cell) = (s.record? cell).toList := by
  have hsends := recordsOf_sends (s.finding? cell).toList
  unfold cellActions
  cases s.record? cell with
  | none => exact hsends
  | some r => exact congrArg (r :: ·) hsends

theorem recordsOf_chain_cells (s : Scan) (cells : List Cell) :
    recordsOf (chain cellActions s cells) = s.records cells := by
  induction cells generalizing s with
  | nil => rfl
  | cons cell rest ih =>
    rw [chain, recordsOf_append, recordsOf_cellActions, scanAfterAll_cellActions, ih, Scan.records]

theorem recordsOf_bracketActions (lines : List String) :
    recordsOf (bracketActions lines) = .bracketPassStarted ::
      (Scan.records {} (cells lines) ++ [(Scan.after {} (cells lines)).closingRecord]) := by
  have hfinish : ∀ s : Scan, recordsOf (finishActions s) = [s.closingRecord] := by
    intro s
    exact congrArg (s.closingRecord :: ·) (recordsOf_sends s.unclosed)
  rw [← recordsOf_chain_cells, ← hfinish, ← recordsOf_append]
  rfl

variable {σ ε α : Type}

/-- Actions that the sink takes add all of their records to the log. -/
theorem log_of_performAll {sink : Sink σ ε} {actions : List Action} {x y : Session σ}
    (h : performAll sink actions x = .ok () y) :
    y.log.toList = x.log.toList ++ recordsOf actions := by
  induction actions generalizing x with
  | nil =>
    cases h
    exact (List.append_nil _).symm
  | cons a rest ih =>
    rw [performAll_cons] at h
    obtain ⟨u, z, hz, hrest⟩ := bind_eq_ok_iff.mp h
    rw [ih hrest]
    cases a with
    | note r =>
      cases hz
      simp [recordsOf, Action.record?]
    | setScan s =>
      cases hz
      rfl
    | send e =>
      rw [Action.perform, send_apply] at hz
      split at hz
      · cases hz
        rfl
      · cases hz

theorem Performs.log_of_ok {sink : Sink σ ε} {act : CheckM σ ε α} {actions : List Action} {a b : α}
    {x y : Session σ} (h : Performs sink act x.scan actions a) (hok : act x = .ok b y) :
    y.log.toList = x.log.toList ++ recordsOf actions := by
  rw [h x.log x.sink] at hok
  obtain ⟨u, z, hz, hend⟩ := bind_eq_ok_iff.mp hok
  cases hend
  exact log_of_performAll hz

/-- The level trace shows the whole log. -/
theorem shownLog_trace (session : Session σ) : shownLog .trace session = session.log.toList := by
  rw [shownLog_eq, List.filter_eq_self]
  intro r _
  rw [upTo_shows]
  cases r <;> rfl

/-! ## The end of the script -/

/-- As many brackets are open at the end as the pass then reports. -/
theorem closingRecord_eq (lines : List String) :
    (Scan.after {} (cells lines)).closingRecord
      = .endOfScript (ofKind (.unclosed .brace) (bracketFindings lines)).length
          (ofKind (.unclosed .parenthesis) (bracketFindings lines)).length
          (Extents.ofCells (cells lines)).current.isSome := by
  have hopen : ∀ f, ((Scan.after {} (cells lines)).stack f).size
      = (ofKind (.unclosed f) (bracketFindings lines)).length := by
    intro f
    rw [ofKind_unclosed_bracketFindings, ← OpenStack.length_toList, Scan.stack_after_cells,
      List.length_map, List.length_map]
  have hquote := (Scan.records_cells (s := {}) (t := {}) rfl (cells lines)).2
  have hstring : (Scan.after {} (cells lines)).inString
      = (Extents.ofCells (cells lines)).current.isSome := by
    rw [Scan.inString, hquote, Option.isSome_map]
    rfl
  rw [← hopen, ← hopen, ← hstring]
  rfl

/-- Each closed string has two records, and an open one has one. -/
theorem Extents.isSome_current (t : Extents) :
    t.current.isSome = true ↔ t.records.length % 2 = 1 := by
  have hclosed : (t.closed.flatMap fun e => [Log.Record.entered e.start, .left e.stop]).length
      = 2 * t.closed.length := by
    induction t.closed with
    | nil => rfl
    | cons e rest ih =>
      rw [List.flatMap_cons, List.length_append, ih, List.length_cons]
      simp only [List.length_cons, List.length_nil]
      omega
  unfold records
  rw [List.length_append, hclosed]
  cases t.current with
  | none => simp
  | some x => simp

/-! ## The laws -/

/-- A sink that refuses no entry. -/
def Accepts (sink : Sink σ ε) : Prop := ∀ e state, ∃ after, sink e state = .ok () after

theorem Accepts.forM {sink : Sink σ ε} (h : Accepts sink) (entries : List Entry) (state : σ) :
    ∃ after, entries.forM sink state = .ok () after := by
  induction entries generalizing state with
  | nil => exact ⟨state, rfl⟩
  | cons e rest ih =>
    obtain ⟨next, hnext⟩ := h e state
    obtain ⟨after, hafter⟩ := ih next
    refine ⟨after, ?_⟩
    rw [List.forM_eq_forM, List.forM_cons, bind_apply, hnext]
    exact hafter

/-- The bracket pass logs that it starts, then where each string starts and ends, and
then what is open at the end. The strings are those of the quotes that count: each
ends at the next quote of its own sort, none of them stands in another one, and no
quote is left over. The last record says whether a string is open, which is so if
an odd number of records is about strings, and counts the brackets that the pass
then reports as unclosed. -/
theorem the_log_tells_where_strings_start_and_end (sink : Sink σ ε) (hsink : Accepts sink)
    (lines : List String) (session : Session σ) :
    ∃ (found : List Finding) (last : Session σ) (strings : Extents) (inString : Bool),
      collect (bracketPass Recorder.take lines) = .ok (found.length, found) ∧
      bracketPass sink lines session = .ok found.length last ∧
      (found.map .finding).forM sink session.sink = .ok () last.sink ∧
      shownLog .trace last = shownLog .trace session ++ .bracketPassStarted ::
        (strings.records ++ [.endOfScript (ofKind (.unclosed .brace) found).length
          (ofKind (.unclosed .parenthesis) found).length inString]) ∧
      strings.Delimits (fun p q => quoteAt? lines p = some q) ∧
      (inString = true ↔ strings.records.length % 2 = 1) := by
  obtain ⟨after, htaken⟩ := hsink.forM ((bracketFindings lines).map .finding) session.sink
  have hpass := streams_bracketPass sink session.scan lines
  have hentries := htaken
  rw [← entriesOf_bracketActions] at hentries
  obtain ⟨last, hrun, rfl, -⟩ := hpass.ok_of_forM hentries
  rw [entriesOf_bracketActions, List.length_map] at hrun
  refine ⟨bracketFindings lines, last, .ofCells (cells lines), _, collect_bracketPass lines, hrun,
    htaken, ?_, Extents.delimits_cells lines, Extents.isSome_current _⟩
  have hrecords := (Scan.records_cells (s := {}) (t := {}) rfl (cells lines)).1
  rw [shownLog_trace, shownLog_trace, hpass.log_of_ok hrun, recordsOf_bracketActions,
    closingRecord_eq]
  exact congrArg (fun records => _ ++ _ :: (records ++ _)) hrecords

/-- A sink that keeps every entry. -/
def keepAll : Sink (List Entry) Refusal := fun e kept => .ok () (kept ++ [e])

/-- A string over two lines, past an escaped quote and a quote of the other sort. -/
theorem a_string_over_two_lines_has_two_records :
    Accepts keepAll ∧ ∃ last strings,
      bracketPass keepAll ["a\"\x27(", "\x60\"\" \x7b"] { sink := [] } = .ok 1 last ∧
        last.sink = [.finding (.unclosed .brace ⟨2, 4⟩)] ∧
        shownLog .trace last
          = .bracketPassStarted :: (Extents.records strings ++ [.endOfScript 1 0 false]) ∧
        strings.records = [.entered ⟨1, 1⟩, .left ⟨2, 2⟩] := by
  have haccepts : Accepts keepAll := fun e kept => ⟨kept ++ [e], rfl⟩
  obtain ⟨found, last, strings, inString, hfound, hrun, hsink, hlog, -⟩ :=
    the_log_tells_where_strings_start_and_end keepAll haccepts ["a\"\x27(", "\x60\"\" \x7b"]
      { sink := [] }
  have hfindings : found = [.unclosed .brace ⟨2, 4⟩] := by
    rw [eq_of_collect_bracketPass hfound]
    decide
  have hshown : shownLog .trace
      (stateOf (bracketPass keepAll ["a\"\x27(", "\x60\"\" \x7b"] { sink := [] }))
        = .bracketPassStarted ::
          ([.entered ⟨1, 1⟩, .left ⟨2, 2⟩] ++ [.endOfScript 1 0 false]) := by
    decide +kernel
  subst hfindings
  rw [hrun, stateOf] at hshown
  injection hsink with hunit hstate
  obtain ⟨hrecords, -⟩ := List.append_inj' (List.tail_eq_of_cons_eq (hlog.symm.trans hshown)) rfl
  refine ⟨haccepts, last, strings, hrun, hstate.symm, ?_, hrecords⟩
  rw [hrecords]
  exact hshown

end ScriptBalance
