-- What a report leaves on its channel. A channel keeps the first bytes of all
-- that is written to it, however the writes are cut into pieces. So after any
-- steps of a report, failed ones among them, the channel holds a start of the
-- texts of the entries, and the two counters tell which entries got through.
import Mathlib.Data.List.Induction
import ScriptBalance.Proofs.Streaming
import ScriptBalance.Recorder

namespace ScriptBalance

/-! ## The first bytes -/

theorem extract_of_size_le {a : ByteArray} {n : Nat} (h : a.size ≤ n) : a.extract 0 n = a := by
  rw [← Nat.max_eq_left h, ByteArray.extract_zero_max_size]

theorem extract_append_of_le {a : ByteArray} (b : ByteArray) {n : Nat} (h : n ≤ a.size) :
    (a ++ b).extract 0 n = a.extract 0 n := by
  rw [ByteArray.extract_append, Nat.sub_eq_zero_of_le h, Nat.zero_sub, ByteArray.extract_same,
    ByteArray.append_empty]

theorem extract_append_of_ge {a : ByteArray} (b : ByteArray) {n : Nat} (h : a.size ≤ n) :
    (a ++ b).extract 0 n = a ++ b.extract 0 (n - a.size) := by
  rw [ByteArray.extract_append, extract_of_size_le h, Nat.zero_sub]

/-- A channel with this limit takes so many bytes. -/
def Fits : Option Limit → Nat → Prop
  | none, _ => True
  | some l, size => size ≤ l.bytes

instance : (limit : Option Limit) → (size : Nat) → Decidable (Fits limit size)
  | none, _ => isTrue trivial
  | some l, size => inferInstanceAs (Decidable (size ≤ l.bytes))

theorem Fits.mono {limit : Option Limit} {m n : Nat} (h : Fits limit n) (hmn : m ≤ n) :
    Fits limit m := by
  cases limit with
  | none => trivial
  | some l => exact Nat.le_trans hmn h

/-- What a channel with this limit keeps of the bytes that are written to it:
the first ones, as far as the limit goes. -/
def kept : Option Limit → ByteArray → ByteArray
  | none, bytes => bytes
  | some l, bytes => bytes.extract 0 (min l.bytes bytes.size)

theorem kept_of_fits {limit : Option Limit} {bytes : ByteArray} (h : Fits limit bytes.size) :
    kept limit bytes = bytes := by
  cases limit with
  | none => rfl
  | some l => rw [kept, Nat.min_eq_right h, ByteArray.extract_zero_size]

theorem kept_of_full {l : Limit} {bytes : ByteArray} (h : l.bytes ≤ bytes.size) :
    kept (some l) bytes = bytes.extract 0 l.bytes := by
  rw [kept, Nat.min_eq_left h]

/-! ## Writing in pieces -/

namespace Channel

@[simp] theorem put_empty : put .empty = pure () := by
  funext c
  obtain ⟨limit, refused, written, flushes⟩ := c
  cases limit with
  | none => simp [put, pure, EStateM.pure]
  | some l => simp [put, pure, EStateM.pure]

/-- Two writes in a row are one write of both. -/
theorem put_append (a b : ByteArray) : (do put a; put b) = put (a ++ b) := by
  funext c
  obtain ⟨limit, refused, written, flushes⟩ := c
  rw [bind_apply]
  cases limit with
  | none => simp [put, ByteArray.append_assoc]
  | some l =>
    simp only [put, ByteArray.size_append]
    by_cases ha : a.size ≤ l.bytes - written.size
    · have hroom : l.bytes - written.size - a.size = l.bytes - (written.size + a.size) := by omega
      rw [if_pos ha]
      dsimp only
      rw [ByteArray.size_append, ByteArray.append_assoc, extract_append_of_ge b ha, hroom]
      by_cases hb : b.size ≤ l.bytes - (written.size + a.size)
      · rw [if_pos hb, if_pos (by omega)]
      · rw [if_neg hb, if_neg (by omega), ByteArray.append_assoc]
    · rw [if_neg ha, if_neg (by omega), extract_append_of_le b (by omega)]

variable {refused : Option Nat} {a b : ByteArray} {flushes : Nat}

theorem put_of_fits {limit : Option Limit} (h : Fits limit (a ++ b).size) :
    put b ⟨limit, refused, kept limit a, flushes⟩
      = .ok () ⟨limit, refused, kept limit (a ++ b), flushes⟩ := by
  have ha : Fits limit a.size := h.mono (by rw [ByteArray.size_append]; omega)
  rw [kept_of_fits h, kept_of_fits ha]
  cases limit with
  | none => rfl
  | some l =>
    have hsum : a.size + b.size ≤ l.bytes := ByteArray.size_append ▸ h
    have hroom : b.size ≤ l.bytes - a.size := by omega
    simp [put, hroom]

/-- A channel that cannot take all of some bytes keeps those that fit. -/
theorem put_of_full {l : Limit} (h : l.bytes < (a ++ b).size) (hb : 0 < b.size) :
    put b ⟨some l, refused, kept (some l) a, flushes⟩
      = .error l.error ⟨some l, refused, kept (some l) (a ++ b), flushes⟩ := by
  rw [kept_of_full (Nat.le_of_lt h)]
  rw [ByteArray.size_append] at h
  by_cases ha : a.size ≤ l.bytes
  · have hroom : ¬ b.size ≤ l.bytes - a.size := by omega
    rw [kept_of_fits (show Fits (some l) a.size from ha), extract_append_of_ge b ha]
    simp [put, hroom]
  · -- the channel was full before
    have hfull : l.bytes - min l.bytes a.size = 0 := by omega
    have hroom : ¬ b.size ≤ 0 := by omega
    rw [kept_of_full (by omega), extract_append_of_le b (by omega)]
    simp [put, hfull, hroom]

end Channel

/-! ## The bytes of entries -/

/-- Pieces of bytes, one after the other. -/
def joined : List ByteArray → ByteArray
  | [] => .empty
  | b :: rest => b ++ joined rest

@[simp] theorem joined_append (a b : List ByteArray) : joined (a ++ b) = joined a ++ joined b := by
  induction a with
  | nil => simp [joined]
  | cons first rest ih => simp [joined, ih, ByteArray.append_assoc]

theorem joined_toUTF8 (texts : List String) :
    joined (texts.map String.toUTF8) = (String.join texts).toUTF8 := by
  induction texts with
  | nil => rfl
  | cons text rest ih =>
    rw [List.map_cons, joined, ih, String.join_cons]
    exact String.toByteArray_append.symm

/-- The bytes of entries in a report, one entry after the other. -/
def bytesOf (entries : List Entry) : ByteArray := joined (entries.map fun e => e.text.toUTF8)

@[simp] theorem bytesOf_append (a b : List Entry) : bytesOf (a ++ b) = bytesOf a ++ bytesOf b := by
  simp [bytesOf]

@[simp] theorem bytesOf_singleton (e : Entry) : bytesOf [e] = e.text.toUTF8 := by
  simp [bytesOf, joined]

/-- The first entries have no more bytes than all entries. -/
theorem size_bytesOf_take (entries : List Entry) (n : Nat) :
    (bytesOf (entries.take n)).size ≤ (bytesOf entries).size := by
  have h := congrArg (fun l => (bytesOf l).size) (List.take_append_drop n entries)
  simp only [bytesOf_append, ByteArray.size_append] at h
  omega

theorem exists_lines (e : Entry) : ∃ first rest, e.lines = first :: rest := by
  cases e with
  | patternSection => exact ⟨_, _, rfl⟩
  | finding f =>
    unfold Entry.lines Finding.lines
    dsimp only
    split
    · exact ⟨_, _, rfl⟩
    · exact ⟨_, _, rfl⟩

/-- Every entry has a line, and a line has at least its end. -/
theorem size_text_pos (e : Entry) : 0 < e.text.toUTF8.size := by
  obtain ⟨first, rest, h⟩ := exists_lines e
  have hend : "\n".toUTF8.size = 1 := rfl
  rw [Entry.text, h, List.map_cons, String.join_cons]
  simp only [String.toUTF8_eq_toByteArray, String.toByteArray_append, ByteArray.size_append] at hend ⊢
  omega

/-! ## One step of a report -/

namespace Report

theorem onChannel_apply (act : EStateM WriteError Channel Unit) (channel : Channel)
    (reported : Nat) :
    onChannel act ⟨channel, reported⟩ = match act channel with
      | .ok _ channel => .ok () ⟨channel, reported⟩
      | .error err channel => .error err ⟨channel, reported⟩ := rfl

theorem onChannel_bind (x y : EStateM WriteError Channel Unit) :
    onChannel (do x; y) = (do onChannel x; onChannel y) := by
  funext r
  obtain ⟨channel, reported⟩ := r
  rw [bind_apply, onChannel_apply, onChannel_apply, bind_apply]
  cases x channel <;> rfl

/-- Pieces that are written one after the other are written like one piece. -/
theorem forM_put (pieces : List ByteArray) :
    (pieces.forM fun piece => onChannel (Channel.put piece))
      = onChannel (Channel.put (joined pieces)) := by
  induction pieces with
  | nil =>
    rw [joined, Channel.put_empty]
    rfl
  | cons piece rest ih =>
    rw [List.forM_eq_forM] at ih ⊢
    rw [List.forM_cons, ih, ← onChannel_bind, Channel.put_append, joined]

/-- A step that writes an entry in these pieces. -/
def takePieces (pieces : List ByteArray) (e : Entry) : EStateM WriteError Report Unit := do
  pieces.forM fun piece => onChannel (Channel.put piece)
  onChannel Channel.flush
  count e

/-- The lines of an entry are written like its text. -/
theorem forM_put_lines (e : Entry) :
    (e.lines.forM fun line => onChannel (Channel.put (line ++ "\n").toUTF8))
      = onChannel (Channel.put e.text.toUTF8) := by
  have hpieces := forM_put ((e.lines.map (· ++ "\n")).map String.toUTF8)
  rw [joined_toUTF8, List.forM_eq_forM, List.forM_map, List.forM_map] at hpieces
  exact hpieces

theorem takeBy_eq (add : Addition Report WriteError) (e : Entry) :
    takeBy add e
      = (do onChannel (Channel.put e.text.toUTF8); onChannel Channel.flush; countBy add e) := by
  rw [takeBy, forM_put_lines]

theorem take_eq (e : Entry) :
    take e = (do onChannel (Channel.put e.text.toUTF8); onChannel Channel.flush; count e) :=
  takeBy_eq unbounded e

/-- It does not matter how the text of an entry is cut for its writes. -/
theorem takePieces_eq {pieces : List ByteArray} {e : Entry} (h : joined pieces = e.text.toUTF8) :
    takePieces pieces e = take e := by
  rw [takePieces, forM_put, h, take_eq]

variable {refused : Option Nat} {a : ByteArray} {flushes reported : Nat}

/-- An entry that does not fit is cut, and nothing is flushed or counted. -/
theorem take_of_full {l : Limit} {e : Entry} (h : l.bytes < (a ++ e.text.toUTF8).size) :
    take e ⟨⟨some l, refused, kept (some l) a, flushes⟩, reported⟩ =
      .error l.error
        ⟨⟨some l, refused, kept (some l) (a ++ e.text.toUTF8), flushes⟩, reported⟩ := by
  rw [take_eq, bind_apply, onChannel_apply, Channel.put_of_full h (size_text_pos e)]

/-- An entry that fits is written in full and then flushed. It counts if it is
a finding and the flush is not refused. -/
theorem take_of_fits {limit : Option Limit} {e : Entry}
    (h : Fits limit (a ++ e.text.toUTF8).size) :
    take e ⟨⟨limit, refused, kept limit a, flushes⟩, reported⟩ =
      if refused = some (flushes + 1) then
        .error .flushRefused
          ⟨⟨limit, refused, kept limit (a ++ e.text.toUTF8), flushes + 1⟩, reported⟩
      else
        .ok () ⟨⟨limit, refused, kept limit (a ++ e.text.toUTF8), flushes + 1⟩,
          reported + if e.finding?.isSome then 1 else 0⟩ := by
  rw [take_eq, bind_apply, onChannel_apply, Channel.put_of_fits h]
  dsimp only
  rw [bind_apply, onChannel_apply, Channel.flush]
  dsimp only
  by_cases hr : refused = some (flushes + 1)
  · rw [if_pos hr, if_pos hr]
  · rw [if_neg hr, if_neg hr]
    cases e <;> rfl

end Report

/-! ## Many steps of a report -/

/-- The state that a step leaves, even if it fails. -/
def stateOf {ε σ α : Type} : EStateM.Result ε σ α → σ
  | .ok _ s => s
  | .error _ s => s

/-- The error of a step that fails. -/
def errorOf? {ε σ α : Type} : EStateM.Result ε σ α → Option ε
  | .ok _ _ => none
  | .error err _ => some err

/-- A new report on a channel after steps that go on after failures. -/
def reportAfter (limit : Option Limit) (refused : Option Nat) (entries : List Entry) : Report :=
  entries.foldl (fun r e => stateOf (Report.take e r))
    { channel := { limit, refusedFlush := refused } }

/-- The entries that are written in full, with the numbers of their steps: an
entry is, if it fits together with all entries before it. -/
def inFull (limit : Option Limit) (entries : List Entry) : List (Entry × Nat) :=
  (entries.zipIdx 1).filter fun (_, i) => Fits limit (bytesOf (entries.take i)).size

/-- The findings that are written in full and flushed. -/
def flushed (limit : Option Limit) (refused : Option Nat) (entries : List Entry) :
    List (Entry × Nat) :=
  (inFull limit entries).filter fun (e, i) => e.finding?.isSome ∧ refused ≠ some i

theorem inFull_concat (limit : Option Limit) (entries : List Entry) (e : Entry) :
    inFull limit (entries ++ [e]) = inFull limit entries ++
      if Fits limit (bytesOf (entries ++ [e])).size then [(e, entries.length + 1)] else [] := by
  unfold inFull
  rw [List.zipIdx_append, List.filter_append, Nat.add_comm 1]
  congr 1
  · refine List.filter_congr fun p hp => ?_
    have hi := List.snd_lt_of_mem_zipIdx hp
    dsimp only
    rw [List.take_append_of_le_length (by omega)]
  · have htake : (entries ++ [e]).take (entries.length + 1) = entries ++ [e] :=
      List.take_of_length_le (by simp)
    rw [List.zipIdx_singleton, List.filter_cons, List.filter_nil]
    simp only [htake, decide_eq_true_eq]

/-- If all entries fit, all are written in full. -/
theorem length_inFull {limit : Option Limit} {entries : List Entry}
    (h : Fits limit (bytesOf entries).size) : (inFull limit entries).length = entries.length := by
  unfold inFull
  rw [List.filter_eq_self.mpr, List.length_zipIdx]
  intro p _
  simpa using h.mono (size_bytesOf_take entries p.2)

theorem flushed_concat (limit : Option Limit) (refused : Option Nat) (entries : List Entry)
    (e : Entry) :
    (flushed limit refused (entries ++ [e])).length = (flushed limit refused entries).length +
      if Fits limit (bytesOf (entries ++ [e])).size ∧ e.finding?.isSome ∧
        refused ≠ some (entries.length + 1) then 1 else 0 := by
  unfold flushed
  rw [inFull_concat, List.filter_append, List.length_append]
  congr 1
  by_cases hfits : Fits limit (bytesOf (entries ++ [e])).size
  · simp only [hfits, if_true, true_and, List.filter_cons, List.filter_nil, decide_eq_true_eq]
    split
    · rfl
    · rfl
  · simp only [hfits, if_false, false_and, List.filter_nil, List.length_nil]

/-- A report after steps, told by their entries alone. -/
def expected (limit : Option Limit) (refused : Option Nat) (entries : List Entry) : Report where
  channel := ⟨limit, refused, kept limit (bytesOf entries), (inFull limit entries).length⟩
  reported := (flushed limit refused entries).length

section

variable {limit : Option Limit} {entries : List Entry} {e : Entry}

theorem take_expected_of_fits (refused : Option Nat)
    (h : Fits limit (bytesOf (entries ++ [e])).size) :
    Report.take e (expected limit refused entries) =
      if refused = some (entries.length + 1) then
        .error .flushRefused (expected limit refused (entries ++ [e]))
      else
        .ok () (expected limit refused (entries ++ [e])) := by
  have hlast := length_inFull h
  have hbefore : (inFull limit entries).length = entries.length := by
    rw [inFull_concat, if_pos h, List.length_append, List.length_append] at hlast
    exact Nat.add_right_cancel hlast
  unfold expected
  rw [hlast, hbefore, flushed_concat, List.length_append, List.length_singleton]
  rw [bytesOf_append, bytesOf_singleton] at h ⊢
  rw [Report.take_of_fits h]
  by_cases hr : refused = some (entries.length + 1)
  · simp [hr]
  · simp only [hr, h, if_false, ne_eq, not_false_eq_true, true_and, and_true]

theorem take_expected_of_full (refused : Option Nat)
    (h : ¬ Fits limit (bytesOf (entries ++ [e])).size) :
    ∃ l, limit = some l ∧ Report.take e (expected limit refused entries)
      = .error l.error (expected limit refused (entries ++ [e])) := by
  cases limit with
  | none => exact absurd trivial h
  | some l =>
    refine ⟨l, rfl, ?_⟩
    unfold expected
    rw [inFull_concat, flushed_concat, if_neg h, if_neg (fun hfits => h hfits.1), List.append_nil,
      Nat.add_zero, bytesOf_append, bytesOf_singleton]
    rw [bytesOf_append, bytesOf_singleton] at h
    exact Report.take_of_full (Nat.lt_of_not_le h)

end

theorem stateOf_take_expected (limit : Option Limit) (refused : Option Nat) (entries : List Entry)
    (e : Entry) :
    stateOf (Report.take e (expected limit refused entries))
      = expected limit refused (entries ++ [e]) := by
  by_cases h : Fits limit (bytesOf (entries ++ [e])).size
  · rw [take_expected_of_fits refused h]
    split
    · rfl
    · rfl
  · obtain ⟨l, -, htake⟩ := take_expected_of_full refused h
    rw [htake, stateOf]

/-- One more step succeeds if its text fits and its flush is not refused. -/
theorem take_expected_ok_iff {limit : Option Limit} {refused : Option Nat} {entries : List Entry}
    {e : Entry} {after : Report} :
    Report.take e (expected limit refused entries) = .ok () after ↔
      Fits limit (bytesOf (entries ++ [e])).size ∧ refused ≠ some (entries.length + 1) ∧
        after = expected limit refused (entries ++ [e]) := by
  by_cases h : Fits limit (bytesOf (entries ++ [e])).size
  · rw [take_expected_of_fits refused h]
    by_cases hr : refused = some (entries.length + 1)
    · simp [hr]
    · simp only [hr, if_false, h, true_and, ne_eq, not_false_eq_true, EStateM.Result.ok.injEq]
      exact eq_comm
  · obtain ⟨l, -, htake⟩ := take_expected_of_full refused h
    simp only [htake, h, false_and, reduceCtorEq]

theorem expected_nil (limit : Option Limit) (refused : Option Nat) :
    expected limit refused [] = { channel := { limit, refusedFlush := refused } } := by
  cases limit with
  | none => rfl
  | some l => simp [expected, kept, bytesOf, joined, inFull, flushed]

/-- What a report holds after steps is what their entries tell. -/
theorem reportAfter_eq (limit : Option Limit) (refused : Option Nat) (entries : List Entry) :
    reportAfter limit refused entries = expected limit refused entries := by
  induction entries using List.reverseRecOn with
  | nil => exact (expected_nil limit refused).symm
  | append_singleton entries e ih =>
    have hlast : reportAfter limit refused (entries ++ [e])
        = stateOf (Report.take e (reportAfter limit refused entries)) := by
      simp [reportAfter]
    rw [hlast, ih, stateOf_take_expected]

/-! ## A run over entries -/

/-- A channel with this limit and this refusal takes all entries of a report,
one flush for each of them. -/
def TakesAll (limit : Option Limit) (refused : Option Nat) (entries : List Entry) : Prop :=
  Fits limit (bytesOf entries).size ∧ ∀ k ∈ refused, k = 0 ∨ entries.length < k

instance (limit : Option Limit) (refused : Option Nat) (entries : List Entry) :
    Decidable (TakesAll limit refused entries) :=
  inferInstanceAs (Decidable (_ ∧ _))

theorem takesAll_concat (limit : Option Limit) (refused : Option Nat) (entries : List Entry)
    (e : Entry) :
    TakesAll limit refused (entries ++ [e]) ↔
      TakesAll limit refused entries ∧ Fits limit (bytesOf (entries ++ [e])).size ∧
        refused ≠ some (entries.length + 1) := by
  unfold TakesAll
  rw [List.length_append, List.length_singleton]
  constructor
  · rintro ⟨hfits, hflush⟩
    have hbefore : (bytesOf entries).size ≤ (bytesOf (entries ++ [e])).size := by
      rw [bytesOf_append, ByteArray.size_append]
      omega
    refine ⟨⟨hfits.mono hbefore, fun k hk => ?_⟩, hfits, fun hr => ?_⟩
    · have hk := hflush k hk
      omega
    · have hk := hflush _ hr
      omega
  · rintro ⟨⟨-, hflush⟩, hfits, hr⟩
    refine ⟨hfits, fun k hk => ?_⟩
    have hne : k ≠ entries.length + 1 := fun h => hr (h ▸ hk)
    have hk := hflush k hk
    omega

/-- A run over entries returns if the channel takes them all, and the report
then holds what they tell. -/
theorem Report.forM_take_ok_iff {limit : Option Limit} {refused : Option Nat}
    {entries : List Entry} {after : Report} :
    entries.forM Report.take { channel := { limit, refusedFlush := refused } } = .ok () after ↔
      TakesAll limit refused entries ∧ after = expected limit refused entries := by
  rw [← expected_nil]
  -- from the last entry, since what a step does is told by the entries before it
  induction entries using List.reverseRecOn generalizing after with
  | nil =>
    have hnone : TakesAll limit refused [] := by
      refine ⟨?_, fun k _ => by simp; omega⟩
      cases limit with
      | none => trivial
      | some l => exact Nat.zero_le _
    constructor
    · intro h
      cases h
      exact ⟨hnone, rfl⟩
    · rintro ⟨-, rfl⟩
      rfl
  | append_singleton entries e ih =>
    rw [List.forM_eq_forM] at ih ⊢
    rw [List.forM_append, List.forM_cons, List.forM_nil, bind_pure, bind_eq_ok_iff, takesAll_concat]
    constructor
    · rintro ⟨_, before, hbefore, hlast⟩
      obtain ⟨hall, rfl⟩ := ih.mp hbefore
      obtain ⟨hfits, hr, hafter⟩ := take_expected_ok_iff.mp hlast
      exact ⟨⟨hall, hfits, hr⟩, hafter⟩
    · rintro ⟨⟨hall, hfits, hr⟩, hafter⟩
      exact ⟨(), _, ih.mpr ⟨hall, rfl⟩, take_expected_ok_iff.mpr ⟨hfits, hr, hafter⟩⟩

/-- A report on a channel without a limit takes every entry of a check. -/
theorem check_report (source : Source) :
    ∃ last, check Report.take source { sink := {} }
        = .ok ⟨source.size, (bracketFindings source.lines).length,
            (patternFindings source.lines).length⟩ last ∧
      last.sink = expected none none source.entries := by
  have hall : TakesAll none none source.entries := ⟨trivial, nofun⟩
  exact check_of_forM ({ sink := {} } : Session Report) (Report.forM_take_ok_iff.mpr ⟨hall, rfl⟩)

/-! ## The laws -/

/-- After any steps, a report has kept the first bytes of the texts of their
entries, as many as its channel takes. It has flushed once for each entry that
is written in full, and it counts the findings among them whose flush was not
refused. One more step fails with the error of its writes if its text does not
fit behind the others. If it fits, the step flushes once, and it fails if this
is the flush that is refused. All this holds for writes in any pieces. The text
that starts the section for patterns is an empty line and its headline. -/
theorem a_report_keeps_the_first_bytes_of_its_entries (limit : Option Limit)
    (refused : Option Nat) (entries : List Entry) (e : Entry) :
    let before := reportAfter limit refused entries
    let after := reportAfter limit refused (entries ++ [e])
    let failure := errorOf? (Report.take e before)
    before.channel.written = kept limit (bytesOf entries) ∧
      before.channel.flushes = (inFull limit entries).length ∧
      before.reported = (flushed limit refused entries).length ∧
      (if Fits limit (bytesOf (entries ++ [e])).size then
        after.channel.flushes = before.channel.flushes + 1 ∧
          failure = if refused = some (entries.length + 1) then some .flushRefused else none
      else
        after.channel.flushes = before.channel.flushes ∧
          ∃ l, limit = some l ∧ failure = some l.error) ∧
      (∀ pieces, joined pieces = e.text.toUTF8 → Report.takePieces pieces e = Report.take e) ∧
      Entry.patternSection.text = "\n" ++ patternHeadline ++ "\n" := by
  simp only [reportAfter_eq]
  refine ⟨rfl, rfl, rfl, ?_, fun pieces hpieces => Report.takePieces_eq hpieces,
    Entry.text_patternSection⟩
  have hflushes := congrArg List.length (inFull_concat limit entries e)
  by_cases h : Fits limit (bytesOf (entries ++ [e])).size
  · rw [if_pos h] at hflushes ⊢
    refine ⟨hflushes.trans List.length_append, ?_⟩
    rw [take_expected_of_fits refused h]
    split
    · rfl
    · rfl
  · rw [if_neg h] at hflushes ⊢
    obtain ⟨l, hl, htake⟩ := take_expected_of_full refused h
    refine ⟨by rw [List.append_nil] at hflushes; exact hflushes, l, hl, ?_⟩
    rw [htake, errorOf?]

end ScriptBalance
