import Mathlib.Data.List.Infix

/-!
# `RestCommSdk.Lib.Substitution`: replacing every occurrence of a word in a text

`substitute target replacement 0 s` goes through `s` from the left and replaces what it meets,
without looking into what it has written. Whether a word of the result was there before depends
on whether the word can share letters with the replacement. `Apart` says that it cannot: no end
of the one is compatible with the beginning of the other. Over words that are apart,

* `infix_substitute_of_apart` says that the substitution keeps a word;
* `not_infix_substitute` says that it leaves no occurrence of its target;
* `substitute_substitute` says that it does not matter for the way back that one has been there.
-/

set_option autoImplicit false

namespace RestCommSdk.Lib

variable {α : Type} [DecidableEq α] {t r u w s : List α}

/-- Every occurrence of the target, scanning from the left. The counter is the rest of an
occurrence that has been replaced already. -/
def substitute (target replacement : List α) : Nat → List α → List α
  | _, [] => []
  | skip + 1, _ :: s => substitute target replacement skip s
  | 0, c :: s =>
    if target.isPrefixOf (c :: s) then
      replacement ++ substitute target replacement (target.length - 1) s
    else
      c :: substitute target replacement 0 s

/-! ### What one step of the scan does -/

/-- Skipping `k` characters first. -/
theorem substitute_eq_drop (k : Nat) (s : List α) :
    substitute t r k s = substitute t r 0 (s.drop k) := by
  induction k generalizing s with
  | zero => rfl
  | succ k ih =>
    cases s with
    | nil => rfl
    | cons c s =>
      rw [List.drop_succ_cons, ← ih s]
      rfl

/-- An occurrence at the front. -/
theorem substitute_append (ht : t ≠ []) (s : List α) :
    substitute t r 0 (t ++ s) = r ++ substitute t r 0 s := by
  obtain ⟨c, t', rfl⟩ := List.exists_cons_of_ne_nil ht
  have hprefix : (c :: t').isPrefixOf (c :: (t' ++ s)) = true := by
    rw [List.isPrefixOf_iff_prefix]
    exact List.prefix_append (c :: t') s
  show substitute (c :: t') r 0 (c :: (t' ++ s)) = _
  rw [substitute, if_pos hprefix, substitute_eq_drop]
  simp

/-- No occurrence at the front. -/
theorem substitute_cons {c : α} (h : ¬ t <+: c :: s) :
    substitute t r 0 (c :: s) = c :: substitute t r 0 s := by
  have hprefix : ¬ t.isPrefixOf (c :: s) = true := by rwa [List.isPrefixOf_iff_prefix]
  rw [substitute, if_neg hprefix]

/-- Induction along the scan. -/
theorem occurrence_induction {P : List α → Prop} (ht : t ≠ []) (hnil : P [])
    (hoccurrence : ∀ s, P s → P (t ++ s))
    (hcons : ∀ c s, ¬ t <+: c :: s → P s → P (c :: s)) (s : List α) : P s := by
  induction hn : s.length using Nat.strong_induction_on generalizing s with
  | _ n ih =>
    subst hn
    by_cases hprefix : t <+: s
    · obtain ⟨rest, rfl⟩ := hprefix
      have hpos : 0 < t.length := List.length_pos_iff.mpr ht
      have hlt : rest.length < (t ++ rest).length := by
        rw [List.length_append]
        omega
      exact hoccurrence rest (ih rest.length hlt rest rfl)
    · cases s with
      | nil => exact hnil
      | cons c s => exact hcons c s hprefix (ih s.length (Nat.lt_succ_self _) s rfl)

/-! ### Words that are apart -/

/-- No end of `w` is a beginning of `u`, or the other way round. -/
def Apart (w u : List α) : Prop := ∀ v ∈ w.tails, v ≠ [] → ¬ v <+: u ∧ ¬ u <+: v

instance (w u : List α) : Decidable (Apart w u) :=
  inferInstanceAs (Decidable (∀ v ∈ w.tails, v ≠ [] → ¬ v <+: u ∧ ¬ u <+: v))

omit [DecidableEq α] in
/-- An end of a word is apart from what the word is apart from. -/
theorem Apart.of_suffix (h : Apart w u) {v : List α} (hv : v <:+ w) : Apart v u := by
  intro x hx
  rw [List.mem_tails] at hx
  exact h x ((List.mem_tails x w).mpr (hx.trans hv))

omit [DecidableEq α] in
/-- The word is not at the front of a text that begins with the other one, nor the other way
round. -/
theorem Apart.not_prefix_append (h : Apart w u) (hw : w ≠ []) (s : List α) :
    ¬ w <+: u ++ s ∧ ¬ u <+: w ++ s := by
  obtain ⟨hwu, huw⟩ := h w ((List.mem_tails w w).mpr List.suffix_rfl) hw
  constructor
  · intro hprefix
    rcases List.prefix_or_prefix_of_prefix hprefix (List.prefix_append u s) with h | h
    · exact hwu h
    · exact huw h
  · intro hprefix
    rcases List.prefix_or_prefix_of_prefix hprefix (List.prefix_append w s) with h | h
    · exact huw h
    · exact hwu h

omit [DecidableEq α] in
/-- An occurrence does not begin inside a word that is apart from it. -/
theorem Apart.infix_append_iff (h : Apart u w) (s : List α) : w <:+: u ++ s ↔ w <:+: s := by
  induction u with
  | nil => rfl
  | cons c u ih =>
    have hfront : ¬ w <+: c :: u ++ s := (h.not_prefix_append (List.cons_ne_nil c u) s).2
    rw [List.cons_append] at hfront ⊢
    rw [List.infix_cons_iff, ih (h.of_suffix (List.suffix_cons c u))]
    exact or_iff_right hfront

/-- The scan runs over a word that is apart from its target. -/
theorem Apart.substitute_append (h : Apart u t) (s : List α) :
    substitute t r 0 (u ++ s) = u ++ substitute t r 0 s := by
  induction u with
  | nil => rfl
  | cons c u ih =>
    have hfront : ¬ t <+: c :: u ++ s := (h.not_prefix_append (List.cons_ne_nil c u) s).2
    rw [List.cons_append] at hfront ⊢
    rw [substitute_cons hfront, ih (h.of_suffix (List.suffix_cons c u))]
    rfl

/-- The scan runs over a text without one of the characters of its target, up to a character that
the target does not have. -/
theorem substitute_append_cons {x : List α} {a b : α} (ha : a ∈ t) (hb : b ∉ t) (hx : a ∉ x)
    (s : List α) : substitute t r 0 (x ++ b :: s) = x ++ b :: substitute t r 0 s := by
  have hfront : ∀ y, a ∉ y → ¬ t <+: y ++ b :: s := by
    intro y hy hprefix
    rcases List.prefix_or_prefix_of_prefix hprefix (List.prefix_append y _) with h | ⟨v, rfl⟩
    · exact hy (h.subset ha)
    · rw [List.prefix_append_right_inj] at hprefix
      cases v with
      | nil => exact hy (by simpa using ha)
      | cons c v =>
        obtain ⟨rfl, -⟩ := List.cons_prefix_cons.mp hprefix
        exact hb (by simp)
  induction x with
  | nil => exact substitute_cons (hfront [] List.not_mem_nil)
  | cons c x ih =>
    have hnot := hfront (c :: x) hx
    rw [List.cons_append] at hnot ⊢
    rw [substitute_cons hnot, ih fun h => hx (List.mem_cons_of_mem _ h)]
    rfl

/-- A word at the front of the result was there before, when it is apart from the
replacement. -/
theorem prefix_of_prefix_substitute (ht : t ≠ []) (hr : Apart w r)
    (h : w <+: substitute t r 0 s) : w <+: s := by
  induction w generalizing s with
  | nil => exact List.nil_prefix
  | cons c w ih =>
    by_cases hprefix : t <+: s
    · obtain ⟨rest, rfl⟩ := hprefix
      rw [substitute_append ht] at h
      exact absurd h (hr.not_prefix_append (List.cons_ne_nil c w) _).1
    · cases s with
      | nil => exact absurd h (by simp [substitute])
      | cons d s =>
        rw [substitute_cons hprefix, List.cons_prefix_cons] at h
        obtain ⟨rfl, h⟩ := h
        exact List.cons_prefix_cons.mpr
          ⟨rfl, ih (hr.of_suffix (List.suffix_cons c w)) h⟩

/-- A word at the front stays there, when it is apart from the target. -/
theorem prefix_substitute (hw : Apart w t) (h : w <+: s) : w <+: substitute t r 0 s := by
  obtain ⟨rest, rfl⟩ := h
  rw [hw.substitute_append]
  exact List.prefix_append w _

/-! ### The words of the result -/

/-- Without an occurrence there is nothing to do. -/
theorem substitute_eq_self (h : ¬ t <:+: s) : substitute t r 0 s = s := by
  induction s with
  | nil => rfl
  | cons c s ih =>
    rw [List.infix_cons_iff, not_or] at h
    rw [substitute_cons h.1, ih h.2]

/-- The result has no occurrence of the target, when the replacement makes none. -/
theorem not_infix_substitute (ht : t ≠ []) (hrt : Apart r t) (htr : Apart t.tail r)
    (s : List α) : ¬ t <:+: substitute t r 0 s := by
  induction s using occurrence_induction ht with
  | hnil =>
    rw [substitute, List.infix_nil]
    exact ht
  | hoccurrence s ih => rwa [substitute_append ht, hrt.infix_append_iff]
  | hcons c s hprefix ih =>
    rw [substitute_cons hprefix, List.infix_cons_iff, not_or]
    refine ⟨?_, ih⟩
    intro hfront
    obtain ⟨d, t', rfl⟩ := List.exists_cons_of_ne_nil ht
    rw [List.cons_prefix_cons] at hfront
    obtain ⟨rfl, hfront⟩ := hfront
    exact hprefix (List.cons_prefix_cons.mpr
      ⟨rfl, prefix_of_prefix_substitute ht htr hfront⟩)

/-- Where there was an occurrence, there is the replacement. -/
theorem infix_substitute (ht : t ≠ []) (h : t <:+: s) : r <:+: substitute t r 0 s := by
  induction s using occurrence_induction ht with
  | hnil => exact absurd (List.infix_nil.mp h) ht
  | hoccurrence s ih =>
    rw [substitute_append ht]
    exact (List.prefix_append r _).isInfix
  | hcons c s hprefix ih =>
    rw [substitute_cons hprefix]
    rcases List.infix_cons_iff.mp h with hfront | h
    · exact absurd hfront hprefix
    · exact (ih h).trans (List.suffix_cons c _).isInfix

/-- A word that is apart from the target stays. -/
theorem infix_substitute_of_apart (ht : t ≠ []) (hwt : Apart w t) (htw : Apart t w)
    (h : w <:+: s) : w <:+: substitute t r 0 s := by
  induction s using occurrence_induction ht with
  | hnil => exact h
  | hoccurrence s ih =>
    rw [htw.infix_append_iff] at h
    rw [substitute_append ht]
    exact (ih h).trans (List.suffix_append r _).isInfix
  | hcons c s hprefix ih =>
    rcases List.infix_cons_iff.mp h with hfront | h
    · exact (prefix_substitute hwt hfront).isInfix
    · rw [substitute_cons hprefix]
      exact (ih h).trans (List.suffix_cons c _).isInfix

/-! ### There and back -/

/-- Between two words that are apart: the way back from the result of the way there is the way
back from the text itself. -/
theorem substitute_substitute (hr : r ≠ []) (ht : t ≠ []) (htr : Apart t r) (hrt : Apart r t)
    (hrr : Apart r.tail r) (s : List α) :
    substitute r t 0 (substitute t r 0 s) = substitute r t 0 s := by
  induction hn : s.length using Nat.strong_induction_on generalizing s with
  | _ n ih =>
    subst hn
    have hshorter : ∀ (x : List α) {rest : List α}, x ≠ [] →
        rest.length < (x ++ rest).length := by
      intro x rest hx
      have hpos : 0 < x.length := List.length_pos_iff.mpr hx
      rw [List.length_append]
      omega
    by_cases hprefix : t <+: s
    · obtain ⟨rest, rfl⟩ := hprefix
      rw [substitute_append ht, substitute_append hr, htr.substitute_append,
        ih rest.length (hshorter t ht) rest rfl]
    · by_cases hprefix' : r <+: s
      · obtain ⟨rest, rfl⟩ := hprefix'
        rw [hrt.substitute_append, substitute_append hr, substitute_append hr,
          ih rest.length (hshorter r hr) rest rfl]
      · cases s with
        | nil => rfl
        | cons c s =>
          -- No word begins here, before or after.
          have hfront : ¬ r <+: c :: substitute t r 0 s := by
            intro hfront
            obtain ⟨d, r', rfl⟩ := List.exists_cons_of_ne_nil hr
            rw [List.cons_prefix_cons] at hfront
            obtain ⟨rfl, hfront⟩ := hfront
            exact hprefix' (List.cons_prefix_cons.mpr
              ⟨rfl, prefix_of_prefix_substitute ht hrr hfront⟩)
          rw [substitute_cons hprefix, substitute_cons hfront, substitute_cons hprefix',
            ih s.length (Nat.lt_succ_self _) s rfl]

end RestCommSdk.Lib
