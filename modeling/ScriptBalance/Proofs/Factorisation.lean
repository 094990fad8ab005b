-- The one factorisation of a word of brackets: a balanced word, then closing
-- brackets that close nothing, each with a balanced word after it, and then
-- opening brackets that nothing closes, each with a balanced word after it.
-- Reading a word from left to right builds it.
import Mathlib.Data.List.Induction
import ScriptBalance.Proofs.Words

namespace ScriptBalance

variable {α : Type}

/-! ## The factors -/

/-- A bracket with no partner, and the balanced word right after it. -/
@[ext]
structure Block (α : Type) where
  item : α
  after : BalancedWord α

/-- The word of some blocks, the latest of which comes first in the list. -/
def blocksWord (side : Side) : List (Block α) → List (Mark α)
  | [] => []
  | b :: earlier => blocksWord side earlier ++ ⟨side, b.item⟩ :: b.after.word

/-- The factors of a word. -/
@[ext]
structure Factorisation (α : Type) where
  /-- What comes before the first bracket with no partner. -/
  start : BalancedWord α := .empty
  /-- The closing brackets that close nothing, the latest first. -/
  closers : List (Block α) := []
  /-- The opening brackets that nothing closes, the latest first. -/
  openers : List (Block α) := []

namespace Factorisation

/-- The word that has these factors. -/
def word (f : Factorisation α) : List (Mark α) :=
  f.start.word ++ blocksWord .closing f.closers ++ blocksWord .opening f.openers

def unopened (f : Factorisation α) : List α := f.closers.map Block.item

def unclosed (f : Factorisation α) : List α := f.openers.map Block.item

/-! ## Reading a word -/

/-- The factors with a balanced word behind the last one. -/
def extend (f : Factorisation α) (d : BalancedWord α) : Factorisation α :=
  match f.openers, f.closers with
  | b :: earlier, _ => { f with openers := ⟨b.item, b.after.append d⟩ :: earlier }
  | [], b :: earlier => { f with closers := ⟨b.item, b.after.append d⟩ :: earlier }
  | [], [] => { f with start := f.start.append d }

/-- The factors with one more bracket behind them. A closing bracket closes
the latest opening bracket that is still open. -/
def read (f : Factorisation α) : Mark α → Factorisation α
  | ⟨.opening, a⟩ => { f with openers := ⟨a, .empty⟩ :: f.openers }
  | ⟨.closing, b⟩ =>
    match f.openers with
    | [] => { f with closers := ⟨b, .empty⟩ :: f.closers }
    | a :: earlier => { f with openers := earlier }.extend (.pair a.item a.after b)

def readAll (f : Factorisation α) (w : List (Mark α)) : Factorisation α := w.foldl read f

def ofWord (w : List (Mark α)) : Factorisation α := readAll {} w

@[simp] theorem readAll_nil (f : Factorisation α) : f.readAll [] = f := rfl

@[simp] theorem readAll_cons (f : Factorisation α) (m : Mark α) (w : List (Mark α)) :
    f.readAll (m :: w) = (f.read m).readAll w := rfl

@[simp] theorem readAll_append (f : Factorisation α) (u v : List (Mark α)) :
    f.readAll (u ++ v) = (f.readAll u).readAll v := by
  simp [readAll]

theorem ofWord_concat (w : List (Mark α)) (m : Mark α) :
    ofWord (w ++ [m]) = (ofWord w).read m := by
  simp [ofWord]

/-! ## The factors have the word that was read -/

theorem word_extend (f : Factorisation α) (d : BalancedWord α) :
    (f.extend d).word = f.word ++ d.word := by
  unfold extend word
  split <;> simp_all [blocksWord]

theorem word_read (f : Factorisation α) (m : Mark α) : (f.read m).word = f.word ++ [m] := by
  obtain ⟨side, a⟩ := m
  cases side with
  | opening => simp [read, word, blocksWord]
  | closing =>
    unfold read
    dsimp only
    split
    · rename_i h
      simp [word, blocksWord, h]
    · rename_i h
      rw [word_extend]
      simp [word, blocksWord, h]

/-- Every word has factors. -/
theorem word_ofWord (w : List (Mark α)) : (ofWord w).word = w := by
  induction w using List.reverseRecOn with
  | nil => rfl
  | append_singleton w m ih => rw [ofWord_concat, word_read, ih]

/-! ## No word has two factorisations -/

@[simp] theorem extend_empty (f : Factorisation α) : f.extend .empty = f := by
  obtain ⟨start, closers, openers⟩ := f
  unfold extend
  cases openers <;> cases closers <;> simp

theorem extend_extend (f : Factorisation α) (d e : BalancedWord α) :
    (f.extend d).extend e = f.extend (d.append e) := by
  obtain ⟨start, closers, openers⟩ := f
  cases openers <;> cases closers <;> simp [extend, BalancedWord.append_assoc]

/-- A balanced word adds no bracket with no partner. -/
theorem readAll_balanced (f : Factorisation α) {w : List (Mark α)} (h : Balanced w) :
    f.readAll w = f.extend ⟨w, h⟩ := by
  induction h generalizing f with
  | empty => exact f.extend_empty.symm
  | @pair inner rest a b hinner hrest ih1 ih2 =>
    have hpair : ((f.read ⟨.opening, a⟩).readAll inner).read ⟨.closing, b⟩
        = f.extend (.pair a ⟨inner, hinner⟩ b) := by
      rw [ih1]
      simp [read, extend]
    rw [readAll_cons, readAll_append, readAll_cons, hpair, ih2, extend_extend]
    congr 1
    ext1
    simp

theorem readAll_closers (f : Factorisation α) (bs : List (Block α)) (h : f.openers = []) :
    f.readAll (blocksWord .closing bs) = { f with closers := bs ++ f.closers } := by
  induction bs with
  | nil => rfl
  | cons b earlier ih =>
    rw [blocksWord, readAll_append, ih, readAll_cons, readAll_balanced _ b.after.balanced]
    simp [read, extend, h]

theorem readAll_openers (f : Factorisation α) (bs : List (Block α)) :
    f.readAll (blocksWord .opening bs) = { f with openers := bs ++ f.openers } := by
  induction bs with
  | nil => rfl
  | cons b earlier ih =>
    rw [blocksWord, readAll_append, ih, readAll_cons, readAll_balanced _ b.after.balanced]
    simp [read, extend]

/-- Reading the word of some factors gives these factors back. -/
theorem ofWord_word (f : Factorisation α) : ofWord f.word = f := by
  unfold ofWord word
  rw [readAll_append, readAll_append, readAll_balanced _ f.start.balanced,
    readAll_closers _ _ rfl, readAll_openers]
  simp [extend]

/-- A word factors in one way only. -/
theorem word_injective {f g : Factorisation α} (h : f.word = g.word) : f = g := by
  rw [← ofWord_word f, ← ofWord_word g, h]

/-! ## The brackets with no partner -/

@[simp] theorem unclosed_empty : ({} : Factorisation α).unclosed = [] := rfl

@[simp] theorem unopened_empty : ({} : Factorisation α).unopened = [] := rfl

@[simp] theorem unclosed_extend (f : Factorisation α) (d : BalancedWord α) :
    (f.extend d).unclosed = f.unclosed := by
  obtain ⟨start, closers, openers⟩ := f
  cases openers <;> cases closers <;> simp [extend, unclosed]

@[simp] theorem unopened_extend (f : Factorisation α) (d : BalancedWord α) :
    (f.extend d).unopened = f.unopened := by
  obtain ⟨start, closers, openers⟩ := f
  cases openers <;> cases closers <;> simp [extend, unopened]

@[simp] theorem unclosed_read_opening (f : Factorisation α) (a : α) :
    (f.read ⟨.opening, a⟩).unclosed = a :: f.unclosed := rfl

@[simp] theorem unopened_read_opening (f : Factorisation α) (a : α) :
    (f.read ⟨.opening, a⟩).unopened = f.unopened := rfl

@[simp] theorem unclosed_read_closing (f : Factorisation α) (b : α) :
    (f.read ⟨.closing, b⟩).unclosed = f.unclosed.tail := by
  unfold read
  dsimp only
  split
  · rename_i h
    simp [unclosed, h]
  · rename_i h
    rw [unclosed_extend]
    simp [unclosed, h]

theorem unopened_read_closing (f : Factorisation α) (b : α) :
    (f.read ⟨.closing, b⟩).unopened = if f.unclosed = [] then b :: f.unopened else f.unopened := by
  unfold read
  dsimp only
  split
  · rename_i h
    simp [unopened, unclosed, h]
  · rename_i h
    rw [unopened_extend]
    simp [unopened, unclosed, h]

/-- A word is balanced if each of its brackets has a partner. -/
theorem balanced_iff (w : List (Mark α)) :
    Balanced w ↔ (ofWord w).unopened = [] ∧ (ofWord w).unclosed = [] := by
  constructor
  · intro h
    rw [ofWord, readAll_balanced _ h]
    simp
  · rintro ⟨hc, ho⟩
    unfold unopened at hc
    unfold unclosed at ho
    rw [List.map_eq_nil_iff] at hc ho
    have hw := word_ofWord w
    unfold word at hw
    rw [hc, ho] at hw
    simp only [blocksWord, List.append_nil] at hw
    exact hw ▸ (ofWord w).start.balanced

/-! ## Two words in a row -/

/-- The closing brackets of the second word first close what it opens itself,
and then what the first word left open, the latest first. -/
theorem unclosed_readAll (f : Factorisation α) (w : List (Mark α)) :
    (f.readAll w).unclosed
      = (ofWord w).unclosed ++ f.unclosed.drop (ofWord w).unopened.length := by
  induction w using List.reverseRecOn with
  | nil => rfl
  | append_singleton w m ih =>
    obtain ⟨side, a⟩ := m
    rw [ofWord_concat, readAll_append, readAll_cons, readAll_nil]
    cases side with
    | opening => simp [ih]
    | closing =>
      rw [unclosed_read_closing, unclosed_read_closing, unopened_read_closing, ih]
      split
      · rename_i h
        rw [h]
        simp
      · rename_i h
        rw [List.tail_append_of_ne_nil h]

/-! ## Where the brackets with no partner come from -/

/-- The brackets that nothing closes stand in the word in their order. -/
theorem unclosed_sublist (w : List (Mark α)) :
    (ofWord w).unclosed.reverse.Sublist (w.map Mark.item) := by
  induction w using List.reverseRecOn with
  | nil => exact List.Sublist.slnil
  | append_singleton w m ih =>
    obtain ⟨side, a⟩ := m
    rw [ofWord_concat, List.map_append]
    cases side with
    | opening =>
      rw [unclosed_read_opening, List.reverse_cons]
      exact ih.append (List.Sublist.refl _)
    | closing =>
      rw [unclosed_read_closing, ← List.dropLast_reverse]
      exact ((List.dropLast_sublist _).trans ih).trans (List.sublist_append_left _ _)

/-- The brackets that close nothing stand in the word in their order. -/
theorem unopened_sublist (w : List (Mark α)) :
    (ofWord w).unopened.reverse.Sublist (w.map Mark.item) := by
  induction w using List.reverseRecOn with
  | nil => exact List.Sublist.slnil
  | append_singleton w m ih =>
    obtain ⟨side, a⟩ := m
    rw [ofWord_concat, List.map_append]
    cases side with
    | opening =>
      rw [unopened_read_opening]
      exact ih.trans (List.sublist_append_left _ _)
    | closing =>
      rw [unopened_read_closing]
      split
      · rw [List.reverse_cons]
        exact ih.append (List.Sublist.refl _)
      · exact ih.trans (List.sublist_append_left _ _)

/-! ## Words with other items -/

/-- Which brackets have no partner does not depend on their items. -/
theorem ofWord_map {β : Type} (φ : α → β) (w : List (Mark α)) :
    (ofWord (w.map (Mark.map φ))).unopened = (ofWord w).unopened.map φ ∧
      (ofWord (w.map (Mark.map φ))).unclosed = (ofWord w).unclosed.map φ := by
  induction w using List.reverseRecOn with
  | nil => exact ⟨rfl, rfl⟩
  | append_singleton w m ih =>
    obtain ⟨hunopened, hunclosed⟩ := ih
    obtain ⟨side, a⟩ := m
    rw [List.map_append, List.map_singleton, Mark.map, ofWord_concat, ofWord_concat]
    cases side with
    | opening => simp [hunopened, hunclosed]
    | closing =>
      rw [unopened_read_closing, unopened_read_closing, unclosed_read_closing,
        unclosed_read_closing, hunopened, hunclosed, List.map_tail]
      simp only [List.map_eq_nil_iff, and_true]
      split
      · rfl
      · rfl

theorem balanced_map_iff {β : Type} (φ : α → β) (w : List (Mark α)) :
    Balanced (w.map (Mark.map φ)) ↔ Balanced w := by
  obtain ⟨hunopened, hunclosed⟩ := ofWord_map φ w
  rw [balanced_iff, balanced_iff, hunopened, hunclosed, List.map_eq_nil_iff, List.map_eq_nil_iff]

end Factorisation

end ScriptBalance
