-- Texts. A report shows a script line without the blanks at its end, and a log
-- filter is read without those around its parts. A line of a script ends at a line
-- feed, at a carriage return with a line feed after it, or at a carriage return
-- alone, and its end is not part of it. A line of output ends at a line feed only.

namespace ScriptBalance

/-! ## Blanks -/

/-- The first and the last code point of each run of blank characters. -/
def blankRanges : List (Nat × Nat) :=
  [(0x09, 0x0d), (0x20, 0x20), (0x85, 0x85), (0xa0, 0xa0), (0x1680, 0x1680),
   (0x2000, 0x200a), (0x2028, 0x2029), (0x202f, 0x202f), (0x205f, 0x205f),
   (0x3000, 0x3000)]

/-- A character with the Unicode property White_Space. -/
def isBlank (c : Char) : Bool :=
  blankRanges.any fun (first, last) => first ≤ c.toNat && c.toNat ≤ last

/-- A text without the blanks at its end. -/
def trimEnd (text : String) : String :=
  String.ofList (text.toList.reverse.dropWhile isBlank).reverse

/-- A text without the blanks at its start and at its end. -/
def trim (text : String) : String :=
  trimEnd (String.ofList (text.toList.dropWhile isBlank))

/-! ## Lines -/

/-- The lines of the rest of a text. `line` holds the characters of the
current line that are already read, the newest first. A last line with no
end counts only if it has characters. -/
def linesFrom (line : List Char) : List Char → List (List Char)
  | [] => if line.isEmpty then [] else [line.reverse]
  | '\n' :: rest => line.reverse :: linesFrom [] rest
  | '\r' :: '\n' :: rest => line.reverse :: linesFrom [] rest
  | '\r' :: rest => line.reverse :: linesFrom [] rest
  | c :: rest => linesFrom (c :: line) rest

/-- The lines of a script, in order. -/
def splitLines (text : String) : List String :=
  (linesFrom [] text.toList).map String.ofList

/-! ## Output -/

/-- The characters of a line of output, the newest first, without the carriage
return that stands right before its line feed. -/
def dropReturn : List Char → List Char
  | '\r' :: line => line
  | line => line

/-- The lines of the rest of some output. `line` holds the characters of the
current line that are already read, the newest first. A carriage return with
no line feed after it is a character like others. -/
def outputLinesFrom (line : List Char) : List Char → List (List Char)
  | [] => if line.isEmpty then [] else [line.reverse]
  | '\n' :: rest => (dropReturn line).reverse :: outputLinesFrom [] rest
  | c :: rest => outputLinesFrom (c :: line) rest

/-- The lines of the output of a program, in order. -/
def outputLines (text : String) : List String :=
  (outputLinesFrom [] text.toList).map String.ofList

/-- The first line of some output, which is empty if there is none. -/
def firstLine (text : String) : String := (outputLines text).headD ""

/-! ## The laws -/

/-- Only characters at the end are taken away. -/
theorem isPrefix_trimEnd (text : String) : (trimEnd text).toList <+: text.toList := by
  unfold trimEnd
  rw [String.toList_ofList, ← List.reverse_suffix, List.reverse_reverse]
  exact List.dropWhile_suffix _

theorem linesFrom_unbroken {line chars : List Char} (hline : ∀ c ∈ line, c ≠ '\n' ∧ c ≠ '\r') :
    ∀ l ∈ linesFrom line chars, ∀ c ∈ l, c ≠ '\n' ∧ c ≠ '\r' := by
  have hreverse : ∀ line : List Char, (∀ c ∈ line, c ≠ '\n' ∧ c ≠ '\r') →
      ∀ c ∈ line.reverse, c ≠ '\n' ∧ c ≠ '\r' := fun _ h c hc => h c (List.mem_reverse.mp hc)
  fun_induction linesFrom line chars with
  | case1 line h => exact fun _ hl => nomatch hl
  | case2 line h => exact List.forall_mem_singleton.mpr (hreverse line hline)
  | case3 line rest ih => exact List.forall_mem_cons.mpr ⟨hreverse line hline, ih nofun⟩
  | case4 line rest ih => exact List.forall_mem_cons.mpr ⟨hreverse line hline, ih nofun⟩
  | case5 line rest hrest ih => exact List.forall_mem_cons.mpr ⟨hreverse line hline, ih nofun⟩
  | case6 line c rest hn hrn hr ih => exact ih (List.forall_mem_cons.mpr ⟨⟨hn, hr⟩, hline⟩)

/-- No line of a script has a line end in it. -/
theorem splitLines_unbroken {text line : String} (h : line ∈ splitLines text) :
    ∀ c ∈ line.toList, c ≠ '\n' ∧ c ≠ '\r' := by
  unfold splitLines at h
  obtain ⟨l, hl, rfl⟩ := List.mem_map.mp h
  rw [String.toList_ofList]
  exact linesFrom_unbroken (by simp) l hl

-- a line end of each sort, and a last line with no end
example : splitLines "a\r\n\rb\nc" = ["a", "", "b", "c"] := by decide

end ScriptBalance
