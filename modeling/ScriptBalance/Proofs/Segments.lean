-- The brackets with no partner, told from the segments of their word alone. A
-- closing bracket closes nothing if each segment that ends with it closes more
-- than it opens. An opening bracket is never closed if each segment that
-- starts with it opens more than it closes.
import ScriptBalance.Proofs.Factorisation

namespace ScriptBalance

variable {α : Type}

/-! ## Segments -/

/-- The brackets of a word from number `i` to number `j`, both included. -/
def segment (w : List (Mark α)) (i j : Nat) : List (Mark α) := (w.take (j + 1)).drop i

/-- Each segment that ends with bracket number `i` closes more than it opens. -/
def ClosesNothing (w : List (Mark α)) (i : Nat) : Prop :=
  ∀ j ≤ i, Side.opening.count (segment w j i) < Side.closing.count (segment w j i)

/-- Each segment that starts with bracket number `i` opens more than it
closes. -/
def NeverClosed (w : List (Mark α)) (i : Nat) : Prop :=
  ∀ k, i ≤ k → k < w.length →
    Side.closing.count (segment w i k) < Side.opening.count (segment w i k)

theorem segment_concat (w : List (Mark α)) (m : Mark α) {i : Nat} (hi : i < w.length) (j : Nat) :
    segment (w ++ [m]) j i = segment w j i := by
  unfold segment
  rw [List.take_append_of_le_length (by omega)]

theorem segment_concat_self (w : List (Mark α)) (m : Mark α) {j : Nat} (hj : j ≤ w.length) :
    segment (w ++ [m]) j w.length = w.drop j ++ [m] := by
  unfold segment
  rw [List.take_of_length_le (by simp), List.drop_append_of_le_length hj]

theorem closesNothing_concat (w : List (Mark α)) (m : Mark α) {i : Nat} (hi : i < w.length) :
    ClosesNothing (w ++ [m]) i ↔ ClosesNothing w i := by
  unfold ClosesNothing
  simp only [segment_concat w m hi]

theorem closesNothing_concat_self (w : List (Mark α)) (c : α) :
    ClosesNothing (w ++ [⟨.closing, c⟩]) w.length ↔ ClosesLast w := by
  constructor
  · intro h n
    by_cases hn : n ≤ w.length
    · have := h n hn
      rw [segment_concat_self w _ hn] at this
      simp only [Side.count_append, Side.count_cons, Side.count_nil, reduceCtorEq,
        reduceIte] at this
      omega
    · rw [List.drop_of_length_le (by omega)]
      simp
  · intro h j hj
    have := h j
    rw [segment_concat_self w _ hj]
    simp only [Side.count_append, Side.count_cons, Side.count_nil, reduceCtorEq, reduceIte]
    omega

theorem neverClosed_cons (m : Mark α) (w : List (Mark α)) (i : Nat) :
    NeverClosed (m :: w) (i + 1) ↔ NeverClosed w i := by
  constructor
  · intro h k hik hk
    exact h (k + 1) (by omega) (by simpa using hk)
  · intro h k hik hk
    obtain ⟨k, rfl⟩ : ∃ k', k = k' + 1 := ⟨k - 1, by omega⟩
    exact h k (by omega) (by simpa using hk)

theorem neverClosed_cons_zero (o : α) (w : List (Mark α)) :
    NeverClosed (⟨.opening, o⟩ :: w) 0 ↔ OpensFirst w := by
  unfold NeverClosed segment
  simp only [List.take_succ_cons, List.drop_zero, Side.count_cons, List.length_cons, reduceCtorEq,
    reduceIte]
  constructor
  · intro h n
    by_cases hn : n ≤ w.length
    · have := h n (by omega) (by omega)
      omega
    · have := h w.length (by omega) (by omega)
      rw [List.take_length] at this
      rw [List.take_of_length_le (by omega)]
      omega
  · intro h k _ _
    have := h k
    omega

/-! ## When a word leaves no bracket without a partner -/

namespace Factorisation

theorem closesLast_blocksWord (bs : List (Block α)) : ClosesLast (blocksWord .closing bs) := by
  induction bs with
  | nil => intro n; simp [blocksWord]
  | cons b earlier ih => exact ih.append (b.after.balanced.closesLast.closing b.item)

theorem opensFirst_blocksWord (bs : List (Block α)) : OpensFirst (blocksWord .opening bs) := by
  induction bs with
  | nil => intro n; simp [blocksWord]
  | cons b earlier ih => exact ih.append (b.after.balanced.opensFirst.opening b.item)

theorem blocksWord_append (side : Side) (late early : List (Block α)) :
    blocksWord side (late ++ early) = blocksWord side early ++ blocksWord side late := by
  induction late with
  | nil => simp [blocksWord]
  | cons b late ih => simp [blocksWord, ih]

/-- A word leaves nothing open if each end of it closes at least what it
opens. -/
theorem unclosed_eq_nil_iff (w : List (Mark α)) : (ofWord w).unclosed = [] ↔ ClosesLast w := by
  have hw := word_ofWord w
  unfold unclosed
  rw [List.map_eq_nil_iff]
  constructor
  · intro h
    rw [← hw, word, h]
    simp only [blocksWord, List.append_nil]
    exact (ofWord w).start.balanced.closesLast.append (closesLast_blocksWord _)
  · intro h
    cases hb : (ofWord w).openers with
    | nil => rfl
    | cons b earlier =>
      -- the latest open bracket starts an end of the word that opens one more
      rw [← hw, word, hb, blocksWord, ← List.append_assoc] at h
      have hend := h ((ofWord w).start.word ++ blocksWord .closing (ofWord w).closers
        ++ blocksWord .opening earlier).length
      rw [List.drop_left] at hend
      have := b.after.balanced.count_eq
      simp only [Side.count_cons, reduceCtorEq, reduceIte] at hend
      omega

/-- A word closes nothing of what comes before it if each start of it opens at
least what it closes. -/
theorem unopened_eq_nil_iff (w : List (Mark α)) : (ofWord w).unopened = [] ↔ OpensFirst w := by
  have hw := word_ofWord w
  unfold unopened
  rw [List.map_eq_nil_iff]
  constructor
  · intro h
    rw [← hw, word, h]
    simp only [blocksWord, List.append_nil]
    exact (ofWord w).start.balanced.opensFirst.append (opensFirst_blocksWord _)
  · intro h
    rcases List.eq_nil_or_concat (ofWord w).closers with hb | ⟨late, b, hb⟩
    · exact hb
    · rw [List.concat_eq_append] at hb
      -- the earliest bracket that closes nothing ends a start that closes one more
      rw [← hw, word, hb, blocksWord_append, blocksWord, blocksWord, List.nil_append,
        List.append_assoc, List.append_assoc, List.cons_append] at h
      have hstart := h ((ofWord w).start.word.length + 1)
      rw [List.take_length_add_append, List.take_succ_cons, List.take_zero] at hstart
      have := (ofWord w).start.balanced.count_eq
      simp only [Side.count_append, Side.count_cons, Side.count_nil, reduceCtorEq,
        reduceIte] at hstart
      omega

/-! ## Which brackets have no partner -/

/-- A closing bracket that closes nothing is one of the word before the last
bracket, or it is that bracket. -/
theorem exists_closesNothing_concat (w : List (Mark α)) (m : Mark α) (c : α) :
    (∃ i, (w ++ [m])[i]? = some ⟨.closing, c⟩ ∧ ClosesNothing (w ++ [m]) i) ↔
      (∃ i, w[i]? = some ⟨.closing, c⟩ ∧ ClosesNothing w i) ∨
        m = ⟨.closing, c⟩ ∧ ClosesLast w := by
  constructor
  · rintro ⟨i, hi, hc⟩
    have hlen := (List.getElem?_eq_some_iff.mp hi).1
    rw [List.length_append, List.length_singleton] at hlen
    by_cases hlt : i < w.length
    · rw [List.getElem?_append_left hlt] at hi
      exact Or.inl ⟨i, hi, (closesNothing_concat w m hlt).mp hc⟩
    · have hend : i = w.length := by omega
      subst hend
      have hm : m = ⟨.closing, c⟩ := by simpa using hi
      subst hm
      exact Or.inr ⟨rfl, (closesNothing_concat_self w c).mp hc⟩
  · rintro (⟨i, hi, hc⟩ | ⟨rfl, hw⟩)
    · have hlt := (List.getElem?_eq_some_iff.mp hi).1
      refine ⟨i, ?_, (closesNothing_concat w m hlt).mpr hc⟩
      rw [List.getElem?_append_left hlt, hi]
    · exact ⟨w.length, by simp, (closesNothing_concat_self w c).mpr hw⟩

/-- An opening bracket that nothing closes is the first bracket, or it is one
of the word after it. -/
theorem exists_neverClosed_cons (m : Mark α) (w : List (Mark α)) (o : α) :
    (∃ i, (m :: w)[i]? = some ⟨.opening, o⟩ ∧ NeverClosed (m :: w) i) ↔
      (m = ⟨.opening, o⟩ ∧ OpensFirst w) ∨
        ∃ i, w[i]? = some ⟨.opening, o⟩ ∧ NeverClosed w i := by
  constructor
  · rintro ⟨i, hi, ho⟩
    cases i with
    | zero =>
      have hm : m = ⟨.opening, o⟩ := by simpa using hi
      subst hm
      exact Or.inl ⟨rfl, (neverClosed_cons_zero o w).mp ho⟩
    | succ i => exact Or.inr ⟨i, hi, (neverClosed_cons m w i).mp ho⟩
  · rintro (⟨rfl, hw⟩ | ⟨i, hi, ho⟩)
    · exact ⟨0, rfl, (neverClosed_cons_zero o w).mpr hw⟩
    · exact ⟨i + 1, hi, (neverClosed_cons m w i).mpr ho⟩

/-- The closing brackets that close nothing are told by the segments that end
with them. -/
theorem mem_unopened (w : List (Mark α)) (c : α) :
    c ∈ (ofWord w).unopened ↔ ∃ i, w[i]? = some ⟨.closing, c⟩ ∧ ClosesNothing w i := by
  induction w using List.reverseRecOn with
  | nil => simp [ofWord]
  | append_singleton w m ih =>
    rw [exists_closesNothing_concat, ofWord_concat, ← ih, ← unclosed_eq_nil_iff]
    obtain ⟨side, a⟩ := m
    cases side with
    | opening => simp
    | closing =>
      rw [unopened_read_closing]
      by_cases h : (ofWord w).unclosed = []
      · simp [h, eq_comm, or_comm]
      · simp [h]

/-- The opening brackets that nothing closes are told by the segments that
start with them. -/
theorem mem_unclosed (w : List (Mark α)) (o : α) :
    o ∈ (ofWord w).unclosed ↔ ∃ i, w[i]? = some ⟨.opening, o⟩ ∧ NeverClosed w i := by
  induction w with
  | nil => simp [ofWord]
  | cons m w ih =>
    rw [exists_neverClosed_cons, ← ih, ← unopened_eq_nil_iff, ofWord, readAll_cons,
      unclosed_readAll, List.mem_append, or_comm]
    refine or_congr_left ?_
    obtain ⟨side, a⟩ := m
    cases side with
    | closing => simp
    | opening =>
      rw [unclosed_read_opening, ← List.length_eq_zero_iff]
      cases (ofWord w).unopened.length <;> simp [eq_comm]

end Factorisation

end ScriptBalance
