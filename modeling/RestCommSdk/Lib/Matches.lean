import Mathlib.Data.List.Infix

/-!
# `RestCommSdk.Lib.Matches`: the matches of a pattern in a text

A pattern is given by what it matches at the front of a text: what it captures there and how long
the match is, which is at least one character. `Pattern.all` are the captures of all matches from
the left, none of which overlaps another; `Pattern.remove` is the text without them.

Where nothing matches inside of a word, both run over it (`Silent`, `all_silent_append`,
`remove_silent_append`). So a text is taken apart word by word.
-/

set_option autoImplicit false

namespace RestCommSdk.Lib

/-- What a pattern matches at the front of a text. -/
structure Pattern (α β : Type) where
  /-- What is captured, and the length of the match. -/
  front : List α → Option (β × Nat)
  pos : ∀ {s b n}, front s = some (b, n) → 0 < n

namespace Pattern
variable {α β : Type} (p : Pattern α β)

/-- The captures of the matches behind the first `k` characters, which belong to a match. -/
def allFrom : Nat → List α → List β
  | _, [] => []
  | k + 1, _ :: s => allFrom k s
  | 0, c :: s =>
    match p.front (c :: s) with
    | some (b, n) => b :: allFrom (n - 1) s
    | none => allFrom 0 s

/-- The captures of all matches. -/
def all (s : List α) : List β := p.allFrom 0 s

/-- The text behind the first `k` characters, which belong to a match, without the matches. -/
def removeFrom : Nat → List α → List α
  | _, [] => []
  | k + 1, _ :: s => removeFrom k s
  | 0, c :: s =>
    match p.front (c :: s) with
    | some (_, n) => removeFrom (n - 1) s
    | none => c :: removeFrom 0 s

/-- The text without the matches. -/
def remove (s : List α) : List α := p.removeFrom 0 s

/-- Searching from a place on. -/
theorem allFrom_eq (k : Nat) (s : List α) : p.allFrom k s = p.all (s.drop k) := by
  induction s generalizing k with
  | nil => cases k <;> rfl
  | cons c s ih =>
    cases k with
    | zero => rfl
    | succ k => exact ih k

/-- Removing from a place on. -/
theorem removeFrom_eq (k : Nat) (s : List α) : p.removeFrom k s = p.remove (s.drop k) := by
  induction s generalizing k with
  | nil => cases k <;> rfl
  | cons c s ih =>
    cases k with
    | zero => rfl
    | succ k => exact ih k

/-! ### One step -/

section Step
variable {p} {c : α} {s : List α} {b : β} {n : Nat}

/-- A match in front. -/
theorem all_cons_of_some (h : p.front (c :: s) = some (b, n)) :
    p.all (c :: s) = b :: p.all ((c :: s).drop n) := by
  obtain ⟨m, rfl⟩ := Nat.exists_eq_succ_of_ne_zero (Nat.ne_of_gt (p.pos h))
  show p.allFrom 0 (c :: s) = b :: p.all (s.drop m)
  rw [allFrom, h, ← allFrom_eq]
  rfl

/-- No match in front. -/
theorem all_cons_of_none (h : p.front (c :: s) = none) : p.all (c :: s) = p.all s := by
  show p.allFrom 0 (c :: s) = p.all s
  rw [allFrom, h]
  rfl

/-- A match in front is removed. -/
theorem remove_cons_of_some (h : p.front (c :: s) = some (b, n)) :
    p.remove (c :: s) = p.remove ((c :: s).drop n) := by
  obtain ⟨m, rfl⟩ := Nat.exists_eq_succ_of_ne_zero (Nat.ne_of_gt (p.pos h))
  show p.removeFrom 0 (c :: s) = p.remove (s.drop m)
  rw [removeFrom, h, ← removeFrom_eq]
  rfl

/-- A character in front of which nothing matches stays. -/
theorem remove_cons_of_none (h : p.front (c :: s) = none) :
    p.remove (c :: s) = c :: p.remove s := by
  show p.removeFrom 0 (c :: s) = c :: p.remove s
  rw [removeFrom, h]
  rfl

end Step

/-! ### Words -/

/-- A match of a whole word at the front. -/
theorem all_append_of_front {x : List α} {b : β} (s : List α)
    (h : p.front (x ++ s) = some (b, x.length)) : p.all (x ++ s) = b :: p.all s := by
  have hpos := p.pos h
  cases x with
  | nil => exact absurd hpos (Nat.lt_irrefl 0)
  | cons c x =>
    have hstep := all_cons_of_some (s := x ++ s) h
    rw [← List.cons_append, List.drop_left] at hstep
    exact hstep

/-- A word that matches is removed. -/
theorem remove_append_of_front {x : List α} {b : β} (s : List α)
    (h : p.front (x ++ s) = some (b, x.length)) : p.remove (x ++ s) = p.remove s := by
  have hpos := p.pos h
  cases x with
  | nil => exact absurd hpos (Nat.lt_irrefl 0)
  | cons c x =>
    have hstep := remove_cons_of_some (s := x ++ s) h
    rw [← List.cons_append, List.drop_left] at hstep
    exact hstep

/-- No match begins inside of the word, in front of the text. -/
def Silent (x s : List α) : Prop := ∀ v, v ≠ [] → v <:+ x → p.front (v ++ s) = none

/-- The end of a silent word is silent. -/
theorem Silent.of_suffix {x v s : List α} (h : p.Silent x s) (hv : v <:+ x) : p.Silent v s :=
  fun u hu huv => h u hu (huv.trans hv)

/-- One more character, at which nothing matches. -/
theorem Silent.cons {c : α} {x s : List α} (hfront : p.front (c :: x ++ s) = none)
    (h : p.Silent x s) : p.Silent (c :: x) s := by
  intro v hv hsuffix
  obtain rfl | hsuffix := List.suffix_cons_iff.mp hsuffix
  · exact hfront
  · exact h v hv hsuffix

/-- Two words, one after the other. -/
theorem Silent.append {x y s : List α} (hx : p.Silent x (y ++ s)) (hy : p.Silent y s) :
    p.Silent (x ++ y) s := by
  induction x with
  | nil => exact hy
  | cons c x ih =>
    have hfront := hx (c :: x) (List.cons_ne_nil c x) List.suffix_rfl
    rw [← List.append_assoc] at hfront
    exact Silent.cons p hfront (ih (Silent.of_suffix p hx (List.suffix_cons c x)))

/-- A search runs over a silent word. -/
theorem all_silent_append {x s : List α} (h : p.Silent x s) : p.all (x ++ s) = p.all s := by
  induction x with
  | nil => rfl
  | cons c x ih =>
    have hfront := h (c :: x) (List.cons_ne_nil c x) List.suffix_rfl
    rw [List.cons_append] at hfront ⊢
    rw [all_cons_of_none hfront, ih (Silent.of_suffix p h (List.suffix_cons c x))]

/-- A silent word stays. -/
theorem remove_silent_append {x s : List α} (h : p.Silent x s) :
    p.remove (x ++ s) = x ++ p.remove s := by
  induction x with
  | nil => rfl
  | cons c x ih =>
    have hfront := h (c :: x) (List.cons_ne_nil c x) List.suffix_rfl
    rw [List.cons_append] at hfront ⊢
    rw [remove_cons_of_none hfront, ih (Silent.of_suffix p h (List.suffix_cons c x))]
    rfl

end Pattern

end RestCommSdk.Lib
