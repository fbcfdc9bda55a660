import Mathlib.Algebra.GroupWithZero.Nat
import Mathlib.Data.List.Perm.Basic
import Mathlib.Data.List.Count

/-!
# `RestCommSdk.Lib.Fields`: fields with a delimiter between them

A text is cut at each `d` into its fields (`List.splitOn`), and fields are joined with `d` between
them (`List.intercalate`). What a field holds, how many fields there are, and what becomes of the
last one when something is put behind the text.

`cons_filter_perm` is about a field moved to the front.
-/

set_option autoImplicit false

namespace RestCommSdk.Lib

section Join
variable {α : Type} {d : α}

/-- One field, a separator, and the others. -/
theorem intercalate_cons {x : List α} {xs : List (List α)} (h : xs ≠ []) :
    [d].intercalate (x :: xs) = x ++ d :: [d].intercalate xs := by
  rw [List.intercalate_cons_of_ne_nil h, List.append_assoc, List.singleton_append]

/-- What stands in a text is a delimiter or stands in a field. -/
theorem mem_of_mem_intercalate {c : α} {xs : List (List α)} (h : c ∈ [d].intercalate xs) :
    c = d ∨ ∃ x ∈ xs, c ∈ x := by
  induction xs with
  | nil => simp at h
  | cons x xs ih =>
    by_cases hxs : xs = []
    · subst hxs
      rw [List.intercalate_singleton] at h
      exact Or.inr ⟨x, List.mem_cons_self, h⟩
    · rw [intercalate_cons hxs, List.mem_append, List.mem_cons] at h
      obtain h | h | h := h
      · exact Or.inr ⟨x, List.mem_cons_self, h⟩
      · exact Or.inl h
      · exact (ih h).imp_right fun ⟨y, hy, hc⟩ => ⟨y, List.mem_cons_of_mem x hy, hc⟩

/-- Something behind the last field is behind the text. -/
theorem intercalate_append_singleton (xs : List (List α)) (x e : List α) :
    [d].intercalate (xs ++ [x ++ e]) = [d].intercalate (xs ++ [x]) ++ e := by
  induction xs with
  | nil => simp
  | cons y ys ih =>
    rw [List.cons_append, List.cons_append, intercalate_cons (by simp), intercalate_cons (by simp),
      ih, List.append_assoc, List.cons_append]

/-- Other characters than the separator are those of the fields. -/
theorem count_intercalate [DecidableEq α] {c : α} (hc : c ≠ d) (xs : List (List α)) :
    ([d].intercalate xs).count c = (xs.map (·.count c)).sum := by
  induction xs with
  | nil => simp
  | cons x xs ih =>
    by_cases hxs : xs = []
    · subst hxs
      simp
    · rw [intercalate_cons hxs, List.count_append, List.count_cons_of_ne hc.symm, ih, List.map_cons,
        List.sum_cons]

end Join

section Cut
variable {α : Type} [DecidableEq α] {d : α}

/-- What stands in a field stands in the text, and is no delimiter. -/
theorem mem_of_mem_splitOn {c : α} {x s : List α} (hx : x ∈ s.splitOn d) (hc : c ∈ x) :
    c ∈ s ∧ c ≠ d := by
  induction s generalizing x with
  | nil =>
    rw [List.splitOn_nil, List.mem_singleton] at hx
    exact absurd (hx ▸ hc) List.not_mem_nil
  | cons a s ih =>
    rw [List.splitOn_cons_eq_if_modifyHead] at hx
    split at hx
    · obtain rfl | hx := List.mem_cons.mp hx
      · exact absurd hc List.not_mem_nil
      · exact ⟨List.mem_cons_of_mem a (ih hx hc).1, (ih hx hc).2⟩
    · rename_i ha
      obtain ⟨y, ys, hy⟩ := List.exists_cons_of_ne_nil (List.splitOn_ne_nil d s)
      rw [hy, List.modifyHead_cons] at hx
      obtain rfl | hx := List.mem_cons.mp hx
      · obtain rfl | hc := List.mem_cons.mp hc
        · exact ⟨List.mem_cons_self, by simpa using ha⟩
        · have hin := ih (hy ▸ List.mem_cons_self) hc
          exact ⟨List.mem_cons_of_mem a hin.1, hin.2⟩
      · have hin := ih (hy ▸ List.mem_cons_of_mem y hx) hc
        exact ⟨List.mem_cons_of_mem a hin.1, hin.2⟩

/-- One field more than separators. -/
theorem length_splitOn (s : List α) : (s.splitOn d).length = s.count d + 1 := by
  induction s with
  | nil => rfl
  | cons a s ih =>
    rw [List.splitOn_cons_eq_if_modifyHead]
    split
    · rename_i ha
      rw [List.length_cons, ih, beq_iff_eq.mp ha, List.count_cons_self]
    · rename_i ha
      rw [List.length_modifyHead, ih, List.count_cons_of_ne (by simpa using ha)]

/-- Something behind the text is behind the last field. -/
theorem splitOn_append_singleton {xs : List (List α)} {s x : List α} {c : α} (hc : c ≠ d)
    (h : s.splitOn d = xs ++ [x]) : (s ++ [c]).splitOn d = xs ++ [x ++ [c]] := by
  have hs : s ++ [c] = [d].intercalate (xs ++ [x ++ [c]]) := by
    rw [intercalate_append_singleton, ← h, List.intercalate_splitOn]
  rw [hs, List.splitOn_intercalate d _ (by simp)]
  intro y hy hmem
  obtain hy | hy := List.mem_append.mp hy
  · exact (mem_of_mem_splitOn (h ▸ List.mem_append_left [x] hy) hmem).2 rfl
  · rw [List.mem_singleton] at hy
    subst hy
    obtain hmem | hmem := List.mem_append.mp hmem
    · exact (mem_of_mem_splitOn (h ▸ List.mem_append_right xs List.mem_cons_self) hmem).2 rfl
    · exact hc (List.mem_singleton.mp hmem).symm

end Cut

section Move
variable {α : Type} [BEq α] [LawfulBEq α] [DecidableEq α] {a : α} {xs : List α}

/-- An element is filtered out as often as it is there. -/
theorem length_filter_add_count : (xs.filter (· ≠ a)).length + xs.count a = xs.length := by
  induction xs with
  | nil => rfl
  | cons b xs ih =>
    by_cases hb : b = a
    · subst hb
      rw [List.filter_cons_of_neg (by simp), List.count_cons_self, List.length_cons]
      omega
    · rw [List.filter_cons_of_pos (by simpa using hb), List.count_cons_of_ne hb, List.length_cons,
        List.length_cons]
      omega

/-- A field that is there once is moved to the front. -/
theorem cons_filter_perm (h : xs.count a = 1) : (a :: xs.filter (· ≠ a)).Perm xs := by
  rw [List.perm_iff_count]
  intro b
  by_cases hb : b = a
  · subst hb
    rw [List.count_cons_self, h, List.count_eq_zero_of_not_mem]
    simp
  · rw [List.count_cons_of_ne (Ne.symm hb), List.count_filter (by simpa using hb)]

end Move

end RestCommSdk.Lib
