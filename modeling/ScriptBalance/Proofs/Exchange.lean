-- Characters in each other's place. With single and double quotes exchanged, or with
-- braces and parentheses exchanged, a script is read in step with the script as it
-- was. So no sort of quote and no family of brackets is treated in a way of its own.
import ScriptBalance.Proofs.Extension
import ScriptBalance.Proofs.Patterns
import ScriptBalance.Proofs.Repair

namespace ScriptBalance

/-! ## Exchanges -/

/-- The bracket of another family on the same side. -/
def Bracket.mapFamily (g : Family → Family) : Bracket → Bracket
  | .opener f => .opener (g f)
  | .closer f => .closer (g f)

/-- Characters that take each other's places. Quotes go to quotes and families of
brackets to families of brackets, and what else a scan or a pattern looks for stays. -/
structure Exchange where
  char : Char → Char
  quote : Quote → Quote
  family : Family → Family
  char_char : ∀ c, char (char c) = c
  char_quote : ∀ q : Quote, char q.char = (quote q).char
  char_bracket : ∀ b : Bracket, char b.char = (b.mapFamily family).char
  char_plain : ∀ c ∈ [escapeChar, '.', '\\'], char c = c

theorem Quote.char_injective {a b : Quote} (h : a.char = b.char) : a = b := by
  have hsome := Quote.ofChar?_char a
  rw [h, Quote.ofChar?_char] at hsome
  exact (Option.some.inj hsome).symm

/-- A scan is its quote and its open brackets of each family. -/
theorem Scan.ext_stack {s t : Scan} (hquote : s.quote = t.quote)
    (hstack : ∀ f, s.stack f = t.stack f) : s = t := by
  obtain ⟨quote, braces, parentheses⟩ := s
  obtain ⟨quote', braces', parentheses'⟩ := t
  have hbraces : braces = braces' := hstack .brace
  have hparentheses : parentheses = parentheses' := hstack .parenthesis
  have hquote : quote = quote' := hquote
  rw [hquote, hbraces, hparentheses]

namespace Exchange

variable (e : Exchange)

theorem char_eq_iff (c d : Char) : e.char c = d ↔ c = e.char d := by
  constructor
  · rintro rfl
    exact (e.char_char c).symm
  · rintro rfl
    exact e.char_char d

theorem char_escape : e.char escapeChar = escapeChar := e.char_plain _ (by simp)

theorem quote_quote (q : Quote) : e.quote (e.quote q) = q := by
  apply Quote.char_injective
  rw [← e.char_quote, ← e.char_quote, e.char_char]

theorem family_family (f : Family) : e.family (e.family f) = f := by
  have h : (Bracket.opener (e.family (e.family f))).char = (Bracket.opener f).char :=
    calc (Bracket.opener (e.family (e.family f))).char
      _ = e.char (Bracket.opener (e.family f)).char := (e.char_bracket (.opener (e.family f))).symm
      _ = e.char (e.char (Bracket.opener f).char) := by
        rw [e.char_bracket (.opener f)]
        rfl
      _ = (Bracket.opener f).char := e.char_char _
  injection Bracket.char_injective h

theorem ofChar?_quote (c : Char) : Quote.ofChar? (e.char c) = (Quote.ofChar? c).map e.quote := by
  ext q
  rw [Quote.ofChar?_eq_some_iff, Option.map_eq_some_iff, char_eq_iff, e.char_quote]
  constructor
  · rintro rfl
    exact ⟨e.quote q, Quote.ofChar?_char _, e.quote_quote q⟩
  · rintro ⟨r, hr, rfl⟩
    rw [e.quote_quote]
    exact (Quote.ofChar?_eq_some_iff _ _).mp hr

theorem mapFamily_mapFamily (b : Bracket) : (b.mapFamily e.family).mapFamily e.family = b := by
  cases b <;> simp [Bracket.mapFamily, e.family_family]

theorem ofChar?_bracket (c : Char) :
    Bracket.ofChar? (e.char c) = (Bracket.ofChar? c).map (Bracket.mapFamily e.family) := by
  ext b
  rw [Bracket.ofChar?_eq_some_iff, Option.map_eq_some_iff, char_eq_iff, e.char_bracket]
  constructor
  · rintro rfl
    exact ⟨b.mapFamily e.family, Bracket.ofChar?_char _, e.mapFamily_mapFamily b⟩
  · rintro ⟨r, hr, rfl⟩
    rw [e.mapFamily_mapFamily]
    exact (Bracket.ofChar?_eq_some_iff _ _).mp hr

/-! ## A script with its characters exchanged -/

def line (line : String) : String := line.map e.char

def cell (cell : Cell) : Cell where
  pos := cell.pos
  prev := cell.prev.map e.char
  char := e.char cell.char
  line := e.line cell.line

theorem cellsFrom_line (num : Nat) (line : String) (prev : Option Char) (column : Nat)
    (chars : List Char) :
    cellsFrom num (e.line line) (prev.map e.char) column (chars.map e.char)
      = (cellsFrom num line prev column chars).map e.cell := by
  induction chars generalizing prev column with
  | nil => rfl
  | cons c rest ih =>
    rw [List.map_cons, cellsFrom, cellsFrom, List.map_cons, ← ih (some c) (column + 1)]
    rfl

theorem cells_lines (lines : List String) : cells (lines.map e.line) = (cells lines).map e.cell := by
  unfold cells lineCells
  rw [List.zipIdx_map, List.flatMap_map, List.map_flatMap]
  refine List.flatMap_congr fun p _ => ?_
  rw [← cellsFrom_line]
  simp [line]

/-! ## The scan of such a script -/

/-- What a scan knows, with its quotes and families exchanged. -/
def scan (s : Scan) : Scan where
  quote := s.quote.map e.quote
  braces := s.stack (e.family .brace)
  parentheses := s.stack (e.family .parenthesis)

def kind : Finding.Kind → Finding.Kind
  | .unexpectedClose f => .unexpectedClose (e.family f)
  | .unclosed f => .unclosed (e.family f)
  | .backtick => .backtick
  | .backslash => .backslash

def finding (d : Finding) : Finding :=
  { d with kind := e.kind d.kind, text := d.text.map e.line }

@[simp] theorem stack_scan (s : Scan) (f : Family) : (e.scan s).stack f = s.stack (e.family f) := by
  cases f <;> rfl

theorem effective?_cell (cell : Cell) :
    Quote.effective? (e.cell cell).prev (e.cell cell).char
      = (Quote.effective? cell.prev cell.char).map e.quote := by
  have hescape : (e.cell cell).prev = some escapeChar ↔ cell.prev = some escapeChar := by
    unfold Exchange.cell
    rw [Option.map_eq_some_iff]
    simp only [char_eq_iff, char_escape]
    simp
  unfold Quote.effective?
  by_cases h : cell.prev = some escapeChar
  · rw [if_pos h, if_pos (hescape.mpr h)]
    rfl
  · rw [if_neg h, if_neg (mt hescape.mp h)]
    exact e.ofChar?_quote cell.char

theorem toggle_quote (active : Option Quote) (q : Quote) :
    Quote.toggle (active.map e.quote) (e.quote q) = (Quote.toggle active q).map e.quote := by
  rcases active with _ | a
  · rfl
  · by_cases h : a = q
    · simp [Quote.toggle, h]
    · have hne : e.quote a ≠ e.quote q := by
        intro heq
        apply h
        rw [← e.quote_quote a, heq, e.quote_quote]
      simp [Quote.toggle, h, hne]

theorem quoteAfter_scan (s : Scan) (cell : Cell) :
    (e.scan s).quoteAfter (e.cell cell) = (s.quoteAfter cell).map e.quote := by
  unfold Scan.quoteAfter Quote.after
  rw [effective?_cell]
  cases Quote.effective? cell.prev cell.char with
  | none => rfl
  | some q => exact e.toggle_quote s.quote q

theorem bracket?_scan (s : Scan) (cell : Cell) :
    (e.scan s).bracket? (e.cell cell) = (s.bracket? cell).map (Bracket.mapFamily e.family) := by
  unfold Scan.bracket?
  rw [quoteAfter_scan, Option.isSome_map]
  split
  · rfl
  · exact e.ofChar?_bracket cell.char

theorem setStack_scan (s : Scan) (t : OpenStack) (f : Family) :
    (e.scan s).setStack t (e.family f) = e.scan (s.setStack t f) := by
  have hfamily : ∀ g, e.family f = g ↔ f = e.family g := by
    intro g
    constructor
    · rintro rfl
      exact (e.family_family f).symm
    · rintro rfl
      exact e.family_family g
  apply Scan.ext_stack
  · simp [scan]
  · intro g
    simp [hfamily]

/-- An exchanged bracket does to an exchanged scan what the bracket does to the scan. -/
theorem meet_scan (s : Scan) (p : Position) (b : Option Bracket) :
    (e.scan s).meet p (b.map (Bracket.mapFamily e.family)) = e.scan (s.meet p b) := by
  rcases b with _ | f | f
  · rfl
  · simp [Bracket.mapFamily, Scan.meet, setStack_scan, e.family_family]
  · simp [Bracket.mapFamily, Scan.meet, setStack_scan, e.family_family]

theorem next_scan (s : Scan) (cell : Cell) :
    (e.scan s).next (e.cell cell) = e.scan (s.next cell) := by
  unfold Scan.next
  rw [bracket?_scan, quoteAfter_scan, ← meet_scan]
  rfl

theorem finding?_scan (s : Scan) (cell : Cell) :
    (e.scan s).finding? (e.cell cell) = (s.finding? cell).map e.finding := by
  unfold Scan.finding?
  rw [bracket?_scan]
  rcases s.bracket? cell with _ | f | f
  · rfl
  · rfl
  · simp only [Option.map_some, Bracket.mapFamily, stack_scan, e.family_family]
    split
    · rfl
    · rfl

theorem after_scan (s : Scan) (cells : List Cell) :
    (e.scan s).after (cells.map e.cell) = e.scan (s.after cells) := by
  induction cells generalizing s with
  | nil => rfl
  | cons cell rest ih =>
    show ((e.scan s).next (e.cell cell)).after _ = _
    rw [next_scan, ih]
    rfl

theorem findings_scan (s : Scan) (cells : List Cell) :
    (e.scan s).findings (cells.map e.cell) = (s.findings cells).map e.finding := by
  induction cells generalizing s with
  | nil => rfl
  | cons cell rest ih =>
    rw [List.map_cons, Scan.findings, Scan.findings, next_scan, ih, finding?_scan, List.map_append]
    cases s.finding? cell <;> rfl

/-- The exchanged scan of an empty scan is empty. -/
theorem scan_empty : e.scan {} = {} := by
  apply Scan.ext_stack
  · rfl
  · intro f
    rw [stack_scan]
    cases f <;> cases e.family _ <;> rfl

theorem unopenedFindings_lines (lines : List String) :
    unopenedFindings (lines.map e.line) = (unopenedFindings lines).map e.finding := by
  unfold unopenedFindings
  rw [cells_lines, ← findings_scan, scan_empty]

theorem ofKind_unclosed_lines (f : Family) (lines : List String) :
    ofKind (.unclosed (e.family f)) (bracketFindings (lines.map e.line))
      = (ofKind (.unclosed f) (bracketFindings lines)).map e.finding := by
  have hopen : ∀ f lines, ofKind (.unclosed f) (bracketFindings lines)
      = ((Scan.after {} (cells lines)).stack f).toList.map (Finding.unclosed f) := by
    intro f lines
    rw [ofKind_unclosed_bracketFindings, Scan.stack_after_cells, List.map_map]
    rfl
  have hafter := e.after_scan {} (cells lines)
  rw [scan_empty] at hafter
  rw [hopen, hopen, cells_lines, hafter, stack_scan, e.family_family, List.map_map]
  rfl

/-- If no family changes its place, then all findings stay in theirs. -/
theorem bracketFindings_lines (h : ∀ f, e.family f = f) (lines : List String) :
    bracketFindings (lines.map e.line) = (bracketFindings lines).map e.finding := by
  have hunclosed : ∀ f, unclosedFindings f (lines.map e.line)
      = (unclosedFindings f lines).map e.finding := by
    intro f
    have hf := e.ofKind_unclosed_lines f lines
    rwa [h, ofKind_unclosed_eq, ofKind_unclosed_eq] at hf
  rw [bracketFindings_eq, bracketFindings_eq, unopenedFindings_lines, hunclosed, hunclosed,
    List.map_append, List.map_append]

theorem map_place_finding (h : ∀ f, e.family f = f) (found : List Finding) :
    (found.map e.finding).map Finding.place = found.map Finding.place := by
  have hkind : ∀ k, e.kind k = k := by
    intro k
    cases k <;> simp [kind, h]
  rw [List.map_map]
  apply List.map_congr_left
  intro d _
  simp [Finding.place, finding, hkind]

/-! ## The patterns of such a script -/

theorem line_line (line : String) : e.line (e.line line) = line := by
  unfold Exchange.line
  rw [← String.toList_inj]
  simp [Function.comp_def, e.char_char]

theorem hasMarker_of_hasMarker {line : String} (h : HasMarker line) : HasMarker (e.line line) := by
  obtain ⟨q, before, behind, h⟩ := h
  refine ⟨e.quote q, before.map e.char, behind.map e.char, ?_⟩
  unfold Exchange.line
  rw [String.toList_map, h]
  simp [e.char_quote, e.char_plain]

theorem linePatterns_line (num : Nat) (line : String) :
    linePatterns num (e.line line) = (linePatterns num line).map e.finding := by
  have hbacktick : hasBacktick (e.line line) = hasBacktick line := by
    rw [Bool.eq_iff_iff, hasBacktick_iff, hasBacktick_iff]
    unfold Exchange.line
    rw [String.toList_map, List.mem_map]
    simp [char_eq_iff, char_escape]
  have hbackslash : hasBackslash (e.line line) = hasBackslash line := by
    rw [Bool.eq_iff_iff, hasBackslash_iff, hasBackslash_iff]
    constructor
    · intro h
      rw [← e.line_line line]
      exact e.hasMarker_of_hasMarker h
    · exact e.hasMarker_of_hasMarker
  unfold linePatterns
  rw [hbacktick, hbackslash]
  cases hasBacktick line <;> cases hasBackslash line <;> rfl

/-- A finding about a pattern stays what it is, but for the line that it shows. -/
theorem patternFindings_lines (lines : List String) :
    patternFindings (lines.map e.line) = (patternFindings lines).map e.finding := by
  unfold patternFindings
  rw [List.zipIdx_map, List.flatMap_map, List.map_flatMap]
  exact List.flatMap_congr fun p _ => e.linePatterns_line p.2 p.1

end Exchange

/-! ## Two exchanges -/

/-- The quote of the other sort. -/
def Quote.other : Quote → Quote
  | .single => .double
  | .double => .single

/-- The other family. -/
def Family.other : Family → Family
  | .brace => .parenthesis
  | .parenthesis => .brace

/-- Single and double quotes in each other's place. -/
def swapQuotes : Char → Char
  | '"' => '\''
  | '\'' => '"'
  | c => c

/-- Braces and parentheses in each other's place. -/
def swapFamilies : Char → Char
  | '{' => '('
  | '(' => '{'
  | '}' => ')'
  | ')' => '}'
  | c => c

def Exchange.quotes : Exchange where
  char := swapQuotes
  quote := Quote.other
  family := id
  char_char := by
    intro c
    fun_cases swapQuotes c with
    | case1 => rfl
    | case2 => rfl
    | case3 h1 h2 => simp [swapQuotes]
  char_quote := by
    intro q
    cases q <;> rfl
  char_bracket := by
    rintro (f | f) <;> cases f <;> rfl
  char_plain := by simp [escapeChar, swapQuotes]

def Exchange.families : Exchange where
  char := swapFamilies
  quote := id
  family := Family.other
  char_char := by
    intro c
    fun_cases swapFamilies c with
    | case1 => rfl
    | case2 => rfl
    | case3 => rfl
    | case4 => rfl
    | case5 h1 h2 h3 h4 => simp [swapFamilies]
  char_quote := by
    intro q
    cases q <;> rfl
  char_bracket := by
    rintro (f | f) <;> cases f <;> rfl
  char_plain := by simp [escapeChar, swapFamilies]

/-! ## The laws -/

/-- What the two passes find on some lines. -/
def PassesFind (lines : List String) (brackets patterns : List Finding) : Prop :=
  collect (bracketPass Recorder.take lines) = .ok (brackets.length, brackets) ∧
    collect (patternPass Recorder.take lines) = .ok (patterns.length, patterns)

theorem passesFind (lines : List String) :
    PassesFind lines (bracketFindings lines) (patternFindings lines) :=
  ⟨collect_bracketPass lines, collect_patternPass lines⟩

/-- No sort of quote and no family of brackets has a way of its own. With single and
double quotes exchanged, the findings are of the same kinds and stand in the same
places. With braces and parentheses exchanged, the findings about closing brackets
stand in the same places and have their families exchanged, the findings about the
opening brackets of one family stand where those of the other one stood, and those
about patterns are of the same kinds and on the same lines. -/
theorem exchanged_characters_exchange_the_findings (lines : List String) :
    ∃ brackets patterns, PassesFind lines brackets patterns ∧
      (∃ brackets' patterns', PassesFind (lines.map (·.map swapQuotes)) brackets' patterns' ∧
        brackets'.map Finding.place = brackets.map Finding.place ∧
        patterns'.map Finding.place = patterns.map Finding.place) ∧
      ∃ brackets' patterns', PassesFind (lines.map (·.map swapFamilies)) brackets' patterns' ∧
        (unexpectedCloses brackets').map Finding.place
          = (unexpectedCloses brackets).map
            (fun d => (Exchange.families.kind d.kind, d.line, d.column)) ∧
        (∀ f : Family, (ofKind (.unclosed f.other) brackets').map Finding.pos?
          = (ofKind (.unclosed f) brackets).map Finding.pos?) ∧
        patterns'.map (fun d => (d.kind, d.line)) = patterns.map fun d => (d.kind, d.line) := by
  refine ⟨_, _, passesFind lines, ⟨_, _, passesFind _, ?_, ?_⟩, _, _, passesFind _, ?_, ?_, ?_⟩
  · show (bracketFindings (lines.map Exchange.quotes.line)).map Finding.place = _
    rw [Exchange.bracketFindings_lines _ (fun f => rfl), Exchange.map_place_finding _ (fun f => rfl)]
  · show (patternFindings (lines.map Exchange.quotes.line)).map Finding.place = _
    rw [Exchange.patternFindings_lines, Exchange.map_place_finding _ (fun f => rfl)]
  · show (unexpectedCloses (bracketFindings (lines.map Exchange.families.line))).map _ = _
    rw [unexpectedCloses_bracketFindings, unexpectedCloses_bracketFindings,
      Exchange.unopenedFindings_lines, List.map_map]
    rfl
  · intro f
    show (ofKind (.unclosed (Exchange.families.family f))
      (bracketFindings (lines.map Exchange.families.line))).map Finding.pos? = _
    rw [Exchange.ofKind_unclosed_lines, List.map_map]
    rfl
  · show (patternFindings (lines.map Exchange.families.line)).map _ = _
    rw [Exchange.patternFindings_lines, List.map_map]
    apply List.map_congr_left
    intro d hd
    obtain ⟨i, line, -, ⟨-, rfl⟩ | ⟨-, rfl⟩⟩ := (mem_patternFindings lines d).mp hd
    · rfl
    · rfl

end ScriptBalance
