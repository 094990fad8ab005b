-- Words of brackets of one family. A word is balanced if each of its brackets
-- has a partner. Each start of a balanced word opens at least as much as it
-- closes, and each end of it closes at least as much as it opens.

namespace ScriptBalance

/-- The side of a pair on which a bracket stands. -/
inductive Side where
  | opening
  | closing
  deriving Repr, DecidableEq

/-- One bracket of a word: its side, and the thing that is marked so. -/
structure Mark (α : Type) where
  side : Side
  item : α
  deriving Repr, DecidableEq

variable {α : Type}

/-- The same bracket with another item. -/
def Mark.map {β : Type} (φ : α → β) (m : Mark α) : Mark β := ⟨m.side, φ m.item⟩

/-! ## How much a word opens and closes -/

namespace Side

/-- The other side of a pair. -/
def other : Side → Side
  | opening => closing
  | closing => opening

theorem ne_other (side : Side) : side ≠ side.other := by
  cases side <;> decide

/-- The number of brackets of a word that stand on a side. -/
def count (side : Side) (w : List (Mark α)) : Nat := w.countP (·.side = side)

@[simp] theorem count_nil (side : Side) : side.count ([] : List (Mark α)) = 0 := rfl

@[simp] theorem count_cons (side : Side) (m : Mark α) (w : List (Mark α)) :
    side.count (m :: w) = side.count w + if m.side = side then 1 else 0 := by
  simp [count, List.countP_cons]

@[simp] theorem count_append (side : Side) (u v : List (Mark α)) :
    side.count (u ++ v) = side.count u + side.count v := by
  simp [count]

theorem count_add_count_other (side : Side) (w : List (Mark α)) :
    side.count w + side.other.count w = w.length := by
  induction w with
  | nil => rfl
  | cons m w ih =>
    have hone : (if m.side = side then 1 else 0) + (if m.side = side.other then 1 else 0) = 1 := by
      cases side <;> cases m.side <;> rfl
    rw [count_cons, count_cons, List.length_cons]
    omega

/-- What is left of a word lacks at least as many brackets as the word has too many on
a side, if it does not have too many there itself. -/
theorem count_add_length_le (side : Side) {left w : List (Mark α)} (h : left.Sublist w)
    (hleft : side.count left ≤ side.other.count left) :
    side.count w + left.length ≤ side.other.count w + w.length := by
  have hother : side.other.count left ≤ side.other.count w := h.countP_le
  rw [← count_add_count_other side left, ← count_add_count_other side w]
  omega

end Side

/-- No start of the word closes more than it opens. -/
def OpensFirst (w : List (Mark α)) : Prop :=
  ∀ n, Side.closing.count (w.take n) ≤ Side.opening.count (w.take n)

/-- No end of the word opens more than it closes. -/
def ClosesLast (w : List (Mark α)) : Prop :=
  ∀ n, Side.opening.count (w.drop n) ≤ Side.closing.count (w.drop n)

theorem OpensFirst.append {u v : List (Mark α)} (hu : OpensFirst u) (hv : OpensFirst v) :
    OpensFirst (u ++ v) := by
  intro n
  have h1 := hu n
  have h2 := hv (n - u.length)
  simp only [List.take_append, Side.count_append]
  omega

theorem ClosesLast.append {u v : List (Mark α)} (hu : ClosesLast u) (hv : ClosesLast v) :
    ClosesLast (u ++ v) := by
  intro n
  have h1 := hu n
  have h2 := hv (n - u.length)
  simp only [List.drop_append, Side.count_append]
  omega

theorem OpensFirst.opening {w : List (Mark α)} (a : α) (h : OpensFirst w) :
    OpensFirst (⟨.opening, a⟩ :: w) := by
  intro n
  cases n with
  | zero => simp
  | succ n =>
    have := h n
    simp only [List.take_succ_cons, Side.count_cons, reduceCtorEq, reduceIte]
    omega

theorem ClosesLast.closing {w : List (Mark α)} (a : α) (h : ClosesLast w) :
    ClosesLast (⟨.closing, a⟩ :: w) := by
  intro n
  cases n with
  | zero =>
    have := h 0
    simp only [List.drop_zero, Side.count_cons, reduceCtorEq, reduceIte] at this ⊢
    omega
  | succ n => exact h n

/-! ## Balanced words -/

/-- The words of the grammar D ::= empty | open D close D. -/
inductive Balanced : List (Mark α) → Prop
  | empty : Balanced []
  | pair {inner rest : List (Mark α)} (a b : α) : Balanced inner → Balanced rest →
      Balanced (⟨.opening, a⟩ :: (inner ++ ⟨.closing, b⟩ :: rest))

theorem Balanced.append {u v : List (Mark α)} (hu : Balanced u) (hv : Balanced v) :
    Balanced (u ++ v) := by
  induction hu with
  | empty => exact hv
  | pair a b hinner _ _ ih =>
    rw [List.cons_append, List.append_assoc, List.cons_append]
    exact .pair a b hinner ih

theorem Balanced.opensFirst {w : List (Mark α)} (h : Balanced w) : OpensFirst w := by
  induction h with
  | empty => intro n; simp
  | @pair inner rest a b _ _ ih1 ih2 =>
    intro n
    cases n with
    | zero => simp
    | succ n =>
      have h1 := ih1 n
      -- the start ends in the inner word, or it ends behind the closing bracket
      cases hk : n - inner.length with
      | zero => simpa [List.take_append, hk] using Nat.le_succ_of_le h1
      | succ k =>
        have h2 := ih2 k
        simp only [List.take_succ_cons, List.take_append, hk, Side.count_cons, Side.count_append,
          reduceCtorEq, reduceIte]
        omega

theorem Balanced.closesLast {w : List (Mark α)} (h : Balanced w) : ClosesLast w := by
  induction h with
  | empty => intro n; simp
  | @pair inner rest a b _ _ ih1 ih2 =>
    have hend : ClosesLast (inner ++ ⟨.closing, b⟩ :: rest) := ih1.append (ih2.closing b)
    intro n
    cases n with
    | zero =>
      have h1 := ih1 0
      have h2 := ih2 0
      simp only [List.drop_zero, Side.count_cons, Side.count_append, reduceCtorEq,
        reduceIte] at h1 h2 ⊢
      omega
    | succ n => exact hend n

/-- A balanced word opens as much as it closes. -/
theorem Balanced.count_eq {w : List (Mark α)} (h : Balanced w) :
    Side.opening.count w = Side.closing.count w := by
  have h1 := h.opensFirst w.length
  have h2 := h.closesLast 0
  rw [List.take_length] at h1
  rw [List.drop_zero] at h2
  omega

theorem Balanced.count_eq_other {w : List (Mark α)} (h : Balanced w) (side : Side) :
    side.count w = side.other.count w := by
  cases side with
  | opening => exact h.count_eq
  | closing => exact h.count_eq.symm

/-- A word that is known to be balanced. -/
@[ext]
structure BalancedWord (α : Type) where
  word : List (Mark α)
  balanced : Balanced word

namespace BalancedWord

def empty : BalancedWord α := ⟨[], .empty⟩

def append (u v : BalancedWord α) : BalancedWord α :=
  ⟨u.word ++ v.word, u.balanced.append v.balanced⟩

/-- A balanced word inside a pair of brackets. -/
def pair (a : α) (inner : BalancedWord α) (b : α) : BalancedWord α :=
  ⟨⟨.opening, a⟩ :: (inner.word ++ [⟨.closing, b⟩]), .pair a b inner.balanced .empty⟩

@[simp] theorem word_empty : (empty : BalancedWord α).word = [] := rfl

@[simp] theorem word_append (u v : BalancedWord α) : (u.append v).word = u.word ++ v.word := rfl

@[simp] theorem word_pair (a : α) (inner : BalancedWord α) (b : α) :
    (pair a inner b).word = ⟨.opening, a⟩ :: (inner.word ++ [⟨.closing, b⟩]) := rfl

@[simp] theorem append_empty (u : BalancedWord α) : u.append empty = u := by
  ext1
  simp

@[simp] theorem empty_append (u : BalancedWord α) : empty.append u = u := rfl

theorem append_assoc (u v w : BalancedWord α) :
    (u.append v).append w = u.append (v.append w) := by
  ext1
  simp

end BalancedWord

end ScriptBalance
