import Mathlib.Data.List.TakeWhile
import Mathlib.Data.Int.Basic

/-!
# `RestCommSdk.Lib.Decimal`: signed decimal text

`printInt` is the decimal text of an integer, with a leading `-` when it is negative.
`scanInt` reads an optional sign and the longest run of digits off the front of a text; a
text without digits there reads as `0`, the way C++ number extraction stores `0` when it
finds no digits. `scanInt_printInt` is the round trip in front of any text that does not
start with a digit.
-/

set_option autoImplicit false

namespace RestCommSdk.Lib

/-- The decimal text of `i`. -/
def printInt : Int → List Char
  | .ofNat n => Nat.toDigits 10 n
  | .negSucc n => '-' :: Nat.toDigits 10 (n + 1)

/-- The value of the longest run of digits at the front of `s`. -/
def scanNat (s : List Char) : Nat :=
  Nat.ofDigitChars 10 (s.takeWhile Char.isDigit) 0

/-- The value of the optional sign and the digits at the front of `s`. -/
def scanInt : List Char → Int
  | '-' :: s => -(scanNat s : Int)
  | '+' :: s => scanNat s
  | s => scanNat s

/-- Decimal digits are digits. -/
theorem isDigit_of_mem_toDigits {n : Nat} {c : Char} (h : c ∈ Nat.toDigits 10 n) :
    c.isDigit :=
  Nat.isDigit_of_mem_toDigits (by decide) (by decide) h

/-- A number is read back. -/
theorem scanNat_toDigits (n : Nat) {rest : List Char} (h : ∀ c ∈ rest.head?, ¬ c.isDigit) :
    scanNat (Nat.toDigits 10 n ++ rest) = n := by
  have htake : (Nat.toDigits 10 n ++ rest).takeWhile Char.isDigit = Nat.toDigits 10 n := by
    rw [List.takeWhile_append_of_pos fun c hc => isDigit_of_mem_toDigits hc]
    cases rest with
    | nil => simp
    | cons c rest => simp [List.takeWhile_cons_of_neg (h c (by simp))]
  rw [scanNat, htake, Nat.ofDigitChars_ten_toDigits]

/-- Reading the decimal text of `i` back gives `i`, in front of any text that does not
continue the digits. -/
theorem scanInt_printInt (i : Int) {rest : List Char} (h : ∀ c ∈ rest.head?, ¬ c.isDigit) :
    scanInt (printInt i ++ rest) = i := by
  cases i with
  | ofNat n =>
    -- The first character is a digit, so neither sign branch applies.
    obtain ⟨c, cs, hcs⟩ := List.exists_cons_of_ne_nil (Nat.toDigits_ne_nil (n := n) (b := 10))
    have hc : c.isDigit := isDigit_of_mem_toDigits (hcs ▸ List.mem_cons_self)
    have hscan := scanNat_toDigits n h
    simp only [printInt, hcs, List.cons_append] at hscan ⊢
    unfold scanInt
    split
    · rename_i heq; cases heq; exact absurd hc (by decide)
    · rename_i heq; cases heq; exact absurd hc (by decide)
    · exact congrArg _ hscan
  | negSucc n =>
    simp only [printInt, List.cons_append, scanInt, scanNat_toDigits (n + 1) h]
    omega

/-- A number has a digit at least. -/
theorem printInt_ne_nil (i : Int) : printInt i ≠ [] := by
  cases i with
  | ofNat n => exact Nat.toDigits_ne_nil
  | negSucc n => simp [printInt]

/-- The decimal text of an integer is digits and `-`. -/
theorem mem_printInt {i : Int} {c : Char} (h : c ∈ printInt i) : c.isDigit ∨ c = '-' := by
  cases i with
  | ofNat n => exact Or.inl (isDigit_of_mem_toDigits h)
  | negSucc n =>
    rcases List.mem_cons.mp h with rfl | h
    · exact Or.inr rfl
    · exact Or.inl (isDigit_of_mem_toDigits h)

end RestCommSdk.Lib
