-- How a text falls into lines. A text is lines, each with one of three ends, and
-- maybe a last line with no end. There is one such layout for each text, and
-- the lines of the text are the lines of its layout. So a check does not see
-- which ends the lines have.
import Mathlib.Data.List.Chain
import ScriptBalance.Check

namespace ScriptBalance

/-! ## Layouts -/

/-- What ends a line: a line feed, a carriage return with a line feed, or a
carriage return alone. -/
inductive LineEnd where
  | feed
  | returnFeed
  | loneReturn
  deriving Repr, DecidableEq

def LineEnd.chars : LineEnd → List Char
  | .feed => ['\n']
  | .returnFeed => ['\r', '\n']
  | .loneReturn => ['\r']

/-- A line with no line end in it. -/
def Unbroken (line : List Char) : Prop := ∀ c ∈ line, c ≠ '\n' ∧ c ≠ '\r'

instance (line : List Char) : Decidable (Unbroken line) := List.decidableBAll _ line

theorem unbroken_nil : Unbroken [] := nofun

/-- A line and its end. -/
@[ext]
structure EndedLine where
  line : List Char
  lineEnd : LineEnd
  unbroken : Unbroken line

def EndedLine.chars (l : EndedLine) : List Char := l.line ++ l.lineEnd.chars

/-- A return alone may not stand right before a line feed, for the two would be
one end. -/
def EndedLine.Apart (a b : EndedLine) : Prop :=
  ¬ (a.lineEnd = .loneReturn ∧ b.line = [] ∧ b.lineEnd = .feed)

/-- A last line that no end follows. It has characters. -/
@[ext]
structure OpenLine where
  line : List Char
  unbroken : Unbroken line
  ne_nil : line ≠ []

/-- How a text falls into lines. -/
@[ext]
structure Layout where
  ended : List EndedLine := []
  last : Option OpenLine := none
  apart : ended.IsChain EndedLine.Apart := by exact .nil

namespace Layout

def chars (f : Layout) : List Char :=
  f.ended.flatMap EndedLine.chars ++ (f.last.map OpenLine.line).getD []

/-- The text with this layout. -/
def text (f : Layout) : String := String.ofList f.chars

def lines (f : Layout) : List String :=
  (f.ended.map EndedLine.line ++ (f.last.map OpenLine.line).toList).map String.ofList

/-- A layout with one more line before it. -/
def cons (l : EndedLine) (f : Layout) (h : ∀ b ∈ f.ended.head?, l.Apart b) : Layout where
  ended := l :: f.ended
  last := f.last
  apart := f.apart.cons h

theorem chars_cons (l : EndedLine) (f : Layout) (h : ∀ b ∈ f.ended.head?, l.Apart b) :
    (f.cons l h).chars = l.line ++ (l.lineEnd.chars ++ f.chars) := by
  simp [cons, chars, EndedLine.chars]

/-- A layout starts with a line feed only if its first line is empty and ends
with one. -/
theorem head_of_chars_feed {f : Layout} {rest : List Char} (h : f.chars = '\n' :: rest) :
    ∃ b ∈ f.ended.head?, b.line = [] ∧ b.lineEnd = .feed := by
  obtain ⟨ended, last, apart⟩ := f
  unfold chars at h
  cases ended with
  | nil =>
    cases last with
    | none => cases h
    | some l =>
      have hmem : '\n' ∈ l.line := by
        have hline : l.line = '\n' :: rest := h
        simp [hline]
      exact absurd rfl (l.unbroken _ hmem).1
  | cons b more =>
    refine ⟨b, rfl, ?_⟩
    obtain ⟨line, lineEnd, hline⟩ := b
    cases line with
    | nil =>
      refine ⟨rfl, ?_⟩
      cases lineEnd with
      | feed => rfl
      | returnFeed => simp [EndedLine.chars, LineEnd.chars] at h
      | loneReturn => simp [EndedLine.chars, LineEnd.chars] at h
    | cons c line =>
      have hc : c = '\n' := by
        simp only [List.flatMap_cons, EndedLine.chars, List.cons_append] at h
        exact (List.cons.inj h).1
      exact absurd hc (hline c List.mem_cons_self).1

/-! ## Every text has a layout -/

theorem exists_cons {line rest : List Char} {lines : List String} (e : LineEnd)
    (hline : Unbroken line) (hrest : e = .loneReturn → ∀ more, rest ≠ '\n' :: more)
    (h : ∃ f : Layout, f.chars = rest ∧ f.lines = lines) :
    ∃ f : Layout, f.chars = line ++ (e.chars ++ rest) ∧ f.lines = String.ofList line :: lines := by
  obtain ⟨f, rfl, rfl⟩ := h
  have hapart : ∀ b ∈ f.ended.head?, EndedLine.Apart ⟨line, e, hline⟩ b := by
    rintro ⟨l, lineEnd, hl⟩ hb ⟨he, rfl, rfl⟩
    obtain ⟨more, hmore⟩ := List.head?_eq_some_iff.mp hb
    refine hrest he (more.flatMap EndedLine.chars ++ (f.last.map OpenLine.line).getD []) ?_
    rw [chars, hmore]
    rfl
  exact ⟨f.cons ⟨line, e, hline⟩ hapart, chars_cons _ _ _, rfl⟩

/-- Reading a text line by line finds a layout of it. -/
theorem exists_of_linesFrom {line chars : List Char} (hline : Unbroken line) :
    ∃ f : Layout, f.chars = line.reverse ++ chars ∧
      f.lines = (linesFrom line chars).map String.ofList := by
  have hreverse : ∀ {line : List Char}, Unbroken line → Unbroken line.reverse :=
    fun h c hc => h c (List.mem_reverse.mp hc)
  fun_induction linesFrom line chars with
  | case1 line h =>
    rw [List.isEmpty_iff] at h
    exact ⟨{}, by simp [Layout.chars, h], rfl⟩
  | case2 line h =>
    have hne : line.reverse ≠ [] := by simpa using h
    exact ⟨{ last := some ⟨line.reverse, hreverse hline, hne⟩ }, by simp [Layout.chars], rfl⟩
  | case3 line rest ih =>
    exact exists_cons .feed (hreverse hline) (fun h => by cases h) (ih unbroken_nil)
  | case4 line rest ih =>
    exact exists_cons .returnFeed (hreverse hline) (fun h => by cases h) (ih unbroken_nil)
  | case5 line rest hrest ih =>
    -- a feed at the start of the rest would have been read with the return
    exact exists_cons .loneReturn (hreverse hline) (fun _ => hrest) (ih unbroken_nil)
  | case6 line c rest hn hrn hr ih =>
    obtain ⟨f, hchars, hlines⟩ := ih (List.forall_mem_cons.mpr ⟨⟨hn, hr⟩, hline⟩)
    exact ⟨f, by simpa using hchars, hlines⟩

theorem exists_of_chars (chars : List Char) :
    ∃ f : Layout, f.chars = chars ∧ f.lines = (linesFrom [] chars).map String.ofList :=
  exists_of_linesFrom unbroken_nil

/-! ## No text has two layouts -/

/-- A line ends at the first line end of what follows. -/
theorem line_injective {x y u v : List Char} (hx : Unbroken x) (hy : Unbroken y)
    (hu : ∀ c ∈ u.head?, c = '\n' ∨ c = '\r') (hv : ∀ c ∈ v.head?, c = '\n' ∨ c = '\r')
    (h : x ++ u = y ++ v) : x = y ∧ u = v := by
  induction x generalizing y with
  | nil =>
    cases y with
    | nil => exact ⟨rfl, h⟩
    | cons c y =>
      have hc := hy c List.mem_cons_self
      rw [List.nil_append] at h
      rw [h] at hu
      rcases hu c rfl with rfl | rfl
      · exact absurd rfl hc.1
      · exact absurd rfl hc.2
  | cons b x ih =>
    obtain ⟨hb, hx⟩ := List.forall_mem_cons.mp hx
    cases y with
    | nil =>
      rw [List.nil_append] at h
      rw [← h] at hv
      rcases hv b rfl with rfl | rfl
      · exact absurd rfl hb.1
      · exact absurd rfl hb.2
    | cons c y =>
      obtain ⟨hbc, hrest⟩ := List.cons.inj h
      obtain ⟨hxy, huv⟩ := ih hx (List.forall_mem_cons.mp hy).2 hrest
      exact ⟨by rw [hbc, hxy], huv⟩

theorem head?_lineEnd (e : LineEnd) (rest : List Char) :
    ∀ c ∈ (e.chars ++ rest).head?, c = '\n' ∨ c = '\r' := by
  cases e <;> simp [LineEnd.chars]

/-- Two line ends are told apart if no feed comes right after a return alone. -/
theorem lineEnd_injective {a b : LineEnd} {u v : List Char}
    (ha : a = .loneReturn → u.head? ≠ some '\n') (hb : b = .loneReturn → v.head? ≠ some '\n')
    (h : a.chars ++ u = b.chars ++ v) : a = b ∧ u = v := by
  cases a <;> cases b <;> grind [LineEnd.chars]

theorem head?_tail_ne_feed {l : EndedLine} {f : Layout} {h : ∀ b ∈ f.ended.head?, l.Apart b}
    (hend : l.lineEnd = .loneReturn) : f.chars.head? ≠ some '\n' := by
  intro hfeed
  obtain ⟨rest, hrest⟩ := List.head?_eq_some_iff.mp hfeed
  obtain ⟨b, hb, hline⟩ := head_of_chars_feed hrest
  exact h b hb ⟨hend, hline⟩

/-- A layout has no line with an end, or it is a layout with one more such line
before it. -/
theorem eq_last_or_cons (f : Layout) :
    (∃ last, f = { last }) ∨ ∃ l rest h, f = cons l rest h := by
  obtain ⟨ended, last, apart⟩ := f
  cases ended with
  | nil => exact Or.inl ⟨last, rfl⟩
  | cons l ended =>
    rw [List.isChain_cons] at apart
    exact Or.inr ⟨l, ⟨ended, last, apart.2⟩, apart.1, rfl⟩

theorem unbroken_last (last : Option OpenLine) : Unbroken ((last.map OpenLine.line).getD []) := by
  cases last with
  | none => exact nofun
  | some l => exact l.unbroken

theorem last_injective {a b : Option OpenLine}
    (h : (a.map OpenLine.line).getD [] = (b.map OpenLine.line).getD []) : a = b := by
  cases a with
  | none =>
    cases b with
    | none => rfl
    | some m => exact absurd h.symm m.ne_nil
  | some l =>
    cases b with
    | none => exact absurd h l.ne_nil
    | some m => exact congrArg some (OpenLine.ext h)

/-- The characters after a last line without an end are not those of a line
with one. -/
theorem chars_last_ne_cons {last : Option OpenLine} {l : EndedLine} {f : Layout}
    {h : ∀ b ∈ f.ended.head?, l.Apart b} : ({ last } : Layout).chars ≠ (f.cons l h).chars := by
  intro hchars
  have hlast : ({ last } : Layout).chars = (last.map OpenLine.line).getD [] ++ [] := by
    simp [chars]
  rw [hlast, chars_cons] at hchars
  have hend := (line_injective (unbroken_last last) l.unbroken (by simp) (head?_lineEnd _ _)
    hchars).2
  cases hl : l.lineEnd <;> simp [hl, LineEnd.chars] at hend

/-- A text has one layout only. -/
theorem chars_injective {f g : Layout} (h : f.chars = g.chars) : f = g := by
  obtain ⟨ended, last, apart⟩ := f
  induction ended generalizing g with
  | nil =>
    obtain ⟨last', rfl⟩ | ⟨m, rest, hm, rfl⟩ := g.eq_last_or_cons
    · obtain rfl : last = last' := last_injective (by simpa [chars] using h)
      rfl
    · exact absurd h chars_last_ne_cons
  | cons l ended ih =>
    obtain ⟨hl, hended⟩ := List.isChain_cons.mp apart
    have hf : (⟨l :: ended, last, apart⟩ : Layout) = cons l ⟨ended, last, hended⟩ hl := rfl
    rw [hf] at h ⊢
    obtain ⟨last', rfl⟩ | ⟨m, rest, hm, rfl⟩ := g.eq_last_or_cons
    · exact absurd h.symm chars_last_ne_cons
    · rw [chars_cons, chars_cons] at h
      obtain ⟨hline, hrest⟩ := line_injective l.unbroken m.unbroken (head?_lineEnd _ _)
        (head?_lineEnd _ _) h
      obtain ⟨hend, hchars⟩ := lineEnd_injective (head?_tail_ne_feed (h := hl))
        (head?_tail_ne_feed (h := hm)) hrest
      have hlm : l = m := EndedLine.ext hline hend
      have hfrest := ih hended hchars
      subst hlm hfrest
      rfl

theorem text_injective {f g : Layout} (h : f.text = g.text) : f = g := by
  unfold text at h
  rw [← String.toList_inj, String.toList_ofList, String.toList_ofList] at h
  exact chars_injective h

/-- The lines of a text are the lines of its layout. -/
theorem splitLines_text (f : Layout) : splitLines f.text = f.lines := by
  obtain ⟨g, hchars, hlines⟩ := exists_of_chars f.chars
  rw [chars_injective hchars] at hlines
  rw [splitLines, text, String.toList_ofList, ← hlines]

end Layout

/-! ## Every line end as a line feed -/

/-- Characters with a line feed in place of each carriage return that a line
feed follows. -/
def joinReturns : List Char → List Char
  | '\r' :: '\n' :: rest => '\n' :: joinReturns rest
  | c :: rest => c :: joinReturns rest
  | [] => []

/-- A text with a line feed in place of each line end. -/
def feedsOnly (text : String) : String :=
  String.ofList ((joinReturns text.toList).map fun c => if c = '\r' then '\n' else c)

theorem dropReturn_of_unbroken {line : List Char} (h : Unbroken line) : dropReturn line = line := by
  cases line with
  | nil => rfl
  | cons c line =>
    have hc := (h c List.mem_cons_self).2
    unfold dropReturn
    split
    · rename_i heq
      exact absurd (List.cons.inj heq).1 hc
    · rfl

theorem linesFrom_eq_outputLinesFrom {line chars : List Char} (hline : Unbroken line) :
    linesFrom line chars
      = outputLinesFrom line ((joinReturns chars).map fun c => if c = '\r' then '\n' else c) := by
  fun_induction linesFrom line chars with
  | case1 line h => simp [joinReturns, outputLinesFrom, h]
  | case2 line h => simp [joinReturns, outputLinesFrom, h]
  | case3 line rest ih =>
    simp [joinReturns, outputLinesFrom, dropReturn_of_unbroken hline, ih unbroken_nil]
  | case4 line rest ih =>
    simp [joinReturns, outputLinesFrom, dropReturn_of_unbroken hline, ih unbroken_nil]
  | case5 line rest hrest ih =>
    rw [joinReturns]
    · simp [outputLinesFrom, dropReturn_of_unbroken hline, ih unbroken_nil]
    · exact fun more _ h => hrest more h
  | case6 line c rest hn hrn hr ih =>
    rw [joinReturns, List.map_cons, if_neg hr, outputLinesFrom]
    · exact ih (List.forall_mem_cons.mpr ⟨⟨hn, hr⟩, hline⟩)
    · exact hn
    · exact fun more h _ => hr h

/-! ## The laws -/

/-- A text has one layout, and its lines are the lines of that layout. They are
also the lines that it has with a line feed in place of each line end. A check
of any text whose layout has the same lines does the same, whatever its sink. -/
theorem a_text_falls_into_lines_in_one_way (text : String) :
    ∃ layout : Layout, layout.text = text ∧
      (∀ other : Layout, other.text = text → other = layout) ∧
      (Source.ofText text).lines = layout.lines ∧
      (Source.ofText text).lines = outputLines (feedsOnly text) ∧
      ∀ other : Layout, other.lines = layout.lines →
        ∀ (σ ε : Type) (sink : Sink σ ε) (session : Session σ),
          check sink (.ofText other.text) session = check sink (.ofText text) session := by
  obtain ⟨layout, hchars, -⟩ := Layout.exists_of_chars text.toList
  have htext : layout.text = text := by
    rw [Layout.text, hchars]
    exact String.ofList_toList
  have hlines : (Source.ofText text).lines = layout.lines := by
    rw [← htext]
    exact layout.splitLines_text
  refine ⟨layout, htext, fun other hother => Layout.text_injective (hother.trans htext.symm),
    hlines, ?_, fun other hother σ ε sink session => ?_⟩
  · rw [outputLines, feedsOnly, String.toList_ofList, ← linesFrom_eq_outputLinesFrom unbroken_nil]
    rfl
  · have hsource : Source.ofText other.text = Source.ofText text := by
      rw [Source.ofText, Source.ofText, other.splitLines_text, hother, ← hlines]
      rfl
    rw [hsource]

/-- All three ends, one of them before an empty line, and a last line with none. -/
example : splitLines "a\r\n\rb\nc" = ["a", "", "b", "c"] := by decide

end ScriptBalance
