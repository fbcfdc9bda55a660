import Mathlib.Data.List.Basic

/-!
# `RestCommSdk.Lib.Utf8`: texts that decode as UTF-8

`decodes` runs over the bytes of a text once and keeps, between two bytes, the ranges that the
next ones have to lie in: none between characters, and after a lead byte one range for each byte
that it announces. The ranges after `E0`, `ED`, `F0` and `F4` are the narrow ones that leave out
overlong forms, surrogates and everything beyond `10FFFF`.

Three facts are enough to follow a text through a program that copies it. ASCII decodes
(`decodes_of_ascii`), so do two texts one after the other (`decodes_append`), and so does a text
whose ASCII characters are escaped by ASCII (`decodes_flatMap`).

A byte is a `Char` below 256. No other one is in any of the ranges.
-/

set_option autoImplicit false

namespace RestCommSdk.Lib

/-- The bytes that continue a character. -/
def utf8Tail : Nat × Nat := (0x80, 0xBF)

/-- What has to follow a lead byte, or `none` for a byte that leads nothing. -/
def continuations (lead : Nat) : Option (List (Nat × Nat)) :=
  if lead < 0x80 then some []
  else if lead < 0xC2 then none
  else if lead < 0xE0 then some [utf8Tail]
  else if lead = 0xE0 then some [(0xA0, 0xBF), utf8Tail]
  else if lead = 0xED then some [(0x80, 0x9F), utf8Tail]
  else if lead < 0xF0 then some [utf8Tail, utf8Tail]
  else if lead = 0xF0 then some [(0x90, 0xBF), utf8Tail, utf8Tail]
  else if lead < 0xF4 then some [utf8Tail, utf8Tail, utf8Tail]
  else if lead = 0xF4 then some [(0x80, 0x8F), utf8Tail, utf8Tail]
  else none

/-- The text decodes when the next bytes have to lie in `owed`. -/
def decodesFrom : List (Nat × Nat) → List Char → Bool
  | [], [] => true
  | _ :: _, [] => false
  | [], c :: s => (continuations c.toNat).any fun owed => decodesFrom owed s
  | (lo, hi) :: owed, c :: s => decide (lo ≤ c.toNat ∧ c.toNat ≤ hi) && decodesFrom owed s

/-- The bytes are the UTF-8 form of some text. -/
def decodes (s : List Char) : Bool := decodesFrom [] s

/-- No ASCII character lies in one of the ranges. -/
def NoAscii (owed : List (Nat × Nat)) : Prop := ∀ range ∈ owed, 0x80 ≤ range.1

@[simp] theorem noAscii_nil : NoAscii [] := fun _ h => absurd h List.not_mem_nil

/-- An ASCII character stands for itself. -/
theorem continuations_of_ascii {c : Char} (hascii : c.toNat < 0x80) :
    continuations c.toNat = some [] := if_pos hascii

/-- No lead byte announces ASCII. -/
theorem noAscii_continuations {lead : Nat} {owed : List (Nat × Nat)}
    (h : continuations lead = some owed) : NoAscii owed := by
  unfold continuations at h
  intro range hrange
  split_ifs at h <;> cases h <;> revert range <;> decide

/-- Bytes that decode on their own leave the ranges as they were at the start. -/
theorem decodesFrom_append {s : List Char} (t : List Char) :
    ∀ {owed : List (Nat × Nat)}, decodesFrom owed s = true →
      decodesFrom owed (s ++ t) = decodesFrom [] t := by
  induction s with
  | nil =>
    intro owed hs
    cases owed with
    | nil => rfl
    | cons range owed => cases hs
  | cons c s ih =>
    intro owed hs
    cases owed with
    | nil =>
      obtain ⟨owed, hlead, hs⟩ := Option.any_eq_true _ _ |>.mp hs
      simp only [List.cons_append, decodesFrom, hlead, Option.any_some]
      exact ih hs
    | cons range owed =>
      obtain ⟨lo, hi⟩ := range
      simp only [decodesFrom, Bool.and_eq_true] at hs
      simp only [List.cons_append, decodesFrom, hs.1, Bool.true_and]
      exact ih hs.2

/-- Two texts one after the other. -/
theorem decodes_append {s t : List Char} (hs : decodes s = true) :
    decodes (s ++ t) = decodes t := decodesFrom_append t hs

/-- A text in ASCII. -/
theorem decodes_of_ascii {s : List Char} (hascii : ∀ c ∈ s, c.toNat < 0x80) :
    decodes s = true := by
  induction s with
  | nil => rfl
  | cons c s ih =>
    obtain ⟨hc, hs⟩ := List.forall_mem_cons.mp hascii
    rw [decodes, decodesFrom, continuations_of_ascii hc, Option.any_some]
    exact ih hs

/-- Escapes in ASCII for characters in ASCII keep a text readable. The induction is on the text,
and what is owed at a place is the same in both texts, since no byte of a longer character is
escaped. -/
theorem decodesFrom_flatMap {f : Char → List Char}
    (hascii : ∀ c : Char, c.toNat < 0x80 → ∀ x ∈ f c, x.toNat < 0x80)
    (hother : ∀ c : Char, 0x80 ≤ c.toNat → f c = [c]) {s : List Char} :
    ∀ {owed : List (Nat × Nat)}, NoAscii owed → decodesFrom owed s = true →
      decodesFrom owed (s.flatMap f) = true := by
  induction s with
  | nil => exact fun _ hs => hs
  | cons c s ih =>
    intro owed howed hs
    rw [List.flatMap_cons]
    cases owed with
    | nil =>
      by_cases hc : c.toNat < 0x80
      · -- The escape decodes by itself, and the rest goes on between characters.
        rw [decodesFrom_append _ (decodes_of_ascii (hascii c hc))]
        rw [decodesFrom, continuations_of_ascii hc, Option.any_some] at hs
        exact ih noAscii_nil hs
      · obtain ⟨owed, hlead, hs⟩ := Option.any_eq_true _ _ |>.mp hs
        rw [hother c (Nat.le_of_not_lt hc), List.singleton_append, decodesFrom, hlead,
          Option.any_some]
        exact ih (noAscii_continuations hlead) hs
    | cons range owed =>
      obtain ⟨lo, hi⟩ := range
      obtain ⟨hlo, howed⟩ := List.forall_mem_cons.mp howed
      simp only [decodesFrom, Bool.and_eq_true, decide_eq_true_eq] at hs
      rw [hother c (Nat.le_trans hlo hs.1.1), List.singleton_append]
      simp only [decodesFrom, Bool.and_eq_true, decide_eq_true_eq]
      exact ⟨hs.1, ih howed hs.2⟩

/-- Escaping keeps a text readable. -/
theorem decodes_flatMap {f : Char → List Char}
    (hascii : ∀ c : Char, c.toNat < 0x80 → ∀ x ∈ f c, x.toNat < 0x80)
    (hother : ∀ c : Char, 0x80 ≤ c.toNat → f c = [c]) {s : List Char} (hs : decodes s = true) :
    decodes (s.flatMap f) = true :=
  decodesFrom_flatMap hascii hother noAscii_nil hs

/-- Two bytes for one character decode, and the first of them alone does not. -/
example : decodes ['\xc3', '\xa9'] = true ∧ decodes ['\xc3'] = false := by decide

end RestCommSdk.Lib
