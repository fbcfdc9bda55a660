import RestCommSdk.Lib.Framing
import Mathlib.Data.List.TakeWhile

/-!
# `RestCommSdk.Lib.CStrings`: strings in memory, and cutting them in place

A memory is a list of cells, a string in it starts at a position and ends before the next
`nul`. `strsep` cuts the string at its pointer at the first delimiter, by writing a `nul` over
it, and moves the pointer behind it.

`strsep_cut` and `strsep_last` say what a call does to a memory `before ++ s ++ nul :: after`
whose pointer is at `s`: with a delimiter in `s`, and without. `strsep_lt` is why a loop over
`strsep` ends.

`scanWhile` and `blankWhile` are loops that move a pointer over the cells of one kind, and that
fail when the pointer leaves the memory. `scanWhile_append` and `blankWhile_append` say where they
stop.
-/

set_option autoImplicit false

namespace RestCommSdk.Lib

variable {α : Type} [DecidableEq α] {nul d : α}

/-- The string at a position of the memory. -/
def cstr (nul : α) (mem : List α) (p : Nat) : List α := (mem.drop p).takeWhile (· ≠ nul)

/-- A memory, and the pointer that `strsep` moves. -/
structure Cutting (α : Type) where
  mem : List α
  /-- `none` is `NULL`. -/
  ptr : Option Nat

/-- `strsep` with the delimiter `d`: where the token starts, and what it leaves. -/
def strsep (nul d : α) (s : Cutting α) : Option Nat × Cutting α :=
  match s.ptr with
  | none => (none, s)
  | some p =>
    match (cstr nul s.mem p).idxOf? d with
    | some k => (some p, { mem := s.mem.set (p + k) nul, ptr := some (p + k + 1) })
    | none => (some p, { s with ptr := none })

/-- The cells that the pointer has not passed yet. -/
def Cutting.left (s : Cutting α) : Nat :=
  match s.ptr with
  | none => 0
  | some p => s.mem.length - p + 1

/-- A string ends within the memory. -/
theorem length_cstr_le (mem : List α) (p : Nat) : (cstr nul mem p).length ≤ mem.length - p := by
  have h := (List.takeWhile_sublist (p := fun c => decide (c ≠ nul)) (l := mem.drop p)).length_le
  simpa [cstr] using h

/-- Every call that yields a token passes a cell, or is the last one to do so. -/
theorem strsep_lt {s s' : Cutting α} {token : Nat} (h : strsep nul d s = (some token, s')) :
    s'.left < s.left := by
  obtain ⟨mem, ptr⟩ := s
  cases ptr with
  | none => simp [strsep] at h
  | some p =>
    simp only [strsep] at h
    split at h
    · rename_i k hk
      cases h
      obtain ⟨hlt, -⟩ := List.idxOf?_eq_some_iff.mp hk
      have hle : (cstr nul mem token).length ≤ mem.length - token := length_cstr_le mem token
      show (mem.set (token + k) nul).length - (token + k + 1) + 1 < mem.length - token + 1
      rw [List.length_set]
      omega
    · cases h
      exact Nat.succ_pos _

/-- The string that starts behind `before` and ends at the first `nul`. -/
theorem cstr_append (before : List α) {s : List α} (after : List α) (hs : nul ∉ s) :
    cstr nul (before ++ s ++ nul :: after) before.length = s := by
  have hpos : ∀ c ∈ s, decide (c ≠ nul) = true := by
    intro c hc
    have hne : c ≠ nul := fun heq => hs (heq ▸ hc)
    simpa using hne
  rw [cstr, List.append_assoc, List.drop_left, List.takeWhile_append_of_pos hpos]
  simp

/-- A string with a delimiter: the token is what stands before the first one, and the rest of
the string stays. -/
theorem strsep_cut {before x rest after : List α} (hx : d ∉ x) (hnul : nul ∉ x ++ d :: rest) :
    strsep nul d ⟨before ++ (x ++ d :: rest) ++ nul :: after, some before.length⟩ =
      (some before.length,
        ⟨(before ++ x ++ [nul]) ++ rest ++ nul :: after, some (before ++ x ++ [nul]).length⟩) := by
  simp only [strsep, cstr_append before after hnul, idxOf?_frame rest hx]
  have hset : (before ++ (x ++ d :: rest) ++ nul :: after).set (before.length + x.length) nul
      = (before ++ x ++ [nul]) ++ rest ++ nul :: after := by
    simp [List.append_assoc, List.set_append_right]
  rw [hset]
  simp [Nat.add_assoc]

/-- A string without a delimiter is the last token. -/
theorem strsep_last {before s after : List α} (hs : d ∉ s) (hnul : nul ∉ s) :
    strsep nul d ⟨before ++ s ++ nul :: after, some before.length⟩ =
      (some before.length, ⟨before ++ s ++ nul :: after, none⟩) := by
  have hidx : s.idxOf? d = none := List.idxOf?_eq_none_iff.mpr hs
  simp only [strsep, cstr_append before after hnul, hidx]

/-! ### Loops over the cells -/

/-- `while (p(*i)) i++;`. `none` is a read outside the memory. -/
def scanWhile (p : α → Bool) (mem : List α) (i : Nat) : Option Nat :=
  match _h : mem[i]? with
  | none => none
  | some c => if p c then scanWhile p mem (i + 1) else some i
termination_by mem.length - i
decreasing_by
  obtain ⟨hlt, -⟩ := List.getElem?_eq_some_iff.mp _h
  omega

/-- `while (i < stop && p(*i)) { *i = nul; i += 1; }`, with the memory that it leaves. -/
def blankWhile (nul : α) (p : α → Bool) (stop : Nat) (mem : List α) (i : Nat) :
    Option (List α × Nat) :=
  if i < stop then
    match _h : mem[i]? with
    | none => none
    | some c => if p c then blankWhile nul p stop (mem.set i nul) (i + 1) else some (mem, i)
  else some (mem, i)
termination_by mem.length - i
decreasing_by
  obtain ⟨hlt, -⟩ := List.getElem?_eq_some_iff.mp _h
  rw [List.length_set]
  omega

section Loops
variable {p : α → Bool}

omit [DecidableEq α] in
/-- What stands behind a beginning. -/
theorem getElem?_append_length (before : List α) (c : α) (after : List α) :
    (before ++ c :: after)[before.length]? = some c := by
  simp

omit [DecidableEq α] in
/-- The loop stops at the first cell of the other kind. -/
theorem scanWhile_append (before : List α) {x : List α} {c : α} (after : List α)
    (hx : ∀ d ∈ x, p d = true) (hc : p c = false) :
    scanWhile p (before ++ (x ++ c :: after)) before.length = some (before.length + x.length) := by
  induction x generalizing before with
  | nil =>
    rw [scanWhile]
    -- The walk stops at `c`.
    split
    · rename_i h
      rw [List.nil_append, getElem?_append_length] at h
      cases h
    · rename_i d h
      rw [List.nil_append, getElem?_append_length] at h
      obtain rfl : c = d := Option.some.inj h
      simp [hc]
  | cons d x ih =>
    have hstep := ih (before ++ [d]) fun e he => hx e (List.mem_cons_of_mem d he)
    rw [List.length_append, List.append_assoc] at hstep
    rw [scanWhile]
    split
    · rename_i h
      rw [List.cons_append, getElem?_append_length] at h
      cases h
    · rename_i e h
      rw [List.cons_append, getElem?_append_length] at h
      obtain rfl : d = e := Option.some.inj h
      -- One more cell is passed.
      rw [if_pos (hx d List.mem_cons_self)]
      simpa [Nat.add_assoc, Nat.add_comm 1] using hstep

omit [DecidableEq α] in
/-- The cells that the loop passes are blank. It stops where `scanWhile` does, when the end mark
is not before. -/
theorem blankWhile_append (nul : α) {stop : Nat} (before : List α) {x : List α} {c : α}
    (after : List α) (hx : ∀ d ∈ x, p d = true) (hc : p c = false)
    (hstop : before.length + x.length ≤ stop) :
    blankWhile nul p stop (before ++ (x ++ c :: after)) before.length =
      some (before ++ (List.replicate x.length nul ++ c :: after),
        before.length + x.length) := by
  induction x generalizing before with
  | nil =>
    rw [blankWhile]
    split
    · -- The walk stops at `c`, or at the end of the range.
      split
      · rename_i h
        rw [List.nil_append, getElem?_append_length] at h
        cases h
      · rename_i d h
        rw [List.nil_append, getElem?_append_length] at h
        obtain rfl : c = d := Option.some.inj h
        simp [hc]
    · rfl
  | cons d x ih =>
    rw [List.length_cons] at hstop
    have hrest : (before ++ [nul]).length + x.length ≤ stop := by
      rw [List.length_append, List.length_singleton]
      omega
    have hstep := ih (before ++ [nul]) (fun e he => hx e (List.mem_cons_of_mem d he)) hrest
    -- The cell is set to NUL, and the walk goes on behind it.
    have hset : (before ++ (d :: x ++ c :: after)).set before.length nul =
        before ++ [nul] ++ (x ++ c :: after) := by
      rw [List.set_append_right _ _ (Nat.le_refl _)]
      simp
    rw [blankWhile, if_pos (by omega)]
    split
    · rename_i h
      rw [List.cons_append, getElem?_append_length] at h
      cases h
    · rename_i e h
      rw [List.cons_append, getElem?_append_length] at h
      obtain rfl : d = e := Option.some.inj h
      rw [if_pos (hx d List.mem_cons_self), hset]
      rw [List.length_append, List.length_singleton] at hstep
      rw [hstep]
      simp [List.replicate_succ, Nat.add_assoc, Nat.add_comm 1]

omit [DecidableEq α] in
/-- The cells of one kind at the front of a text, and what stops a loop over them. -/
theorem exists_stop (s : List α) {c : α} (after : List α) (hc : p c = false) :
    ∃ d after', s ++ c :: after = s.takeWhile p ++ d :: after' ∧
      s.dropWhile p ++ c :: after = d :: after' ∧ p d = false := by
  have hsplit : s ++ c :: after = s.takeWhile p ++ (s.dropWhile p ++ c :: after) := by
    rw [← List.append_assoc, List.takeWhile_append_dropWhile]
  cases hrest : s.dropWhile p with
  | nil =>
    rw [hrest] at hsplit
    exact ⟨c, after, hsplit, rfl, hc⟩
  | cons d rest =>
    rw [hrest] at hsplit
    have hd : p ((s.dropWhile p).head (by simp [hrest])) = false :=
      List.head_dropWhile_not p _
    refine ⟨d, rest ++ c :: after, hsplit, rfl, ?_⟩
    simpa [hrest] using hd

omit [DecidableEq α] in
/-- The scan stops behind what it runs over. -/
theorem scanWhile_takeWhile (before s : List α) {c : α} (after : List α) (hc : p c = false) :
    scanWhile p (before ++ (s ++ c :: after)) before.length =
      some (before.length + (s.takeWhile p).length) := by
  obtain ⟨d, after', hmem, -, hd⟩ := exists_stop s after hc
  rw [hmem]
  exact scanWhile_append before after' (fun _ hx => List.mem_takeWhile_imp hx) hd

omit [DecidableEq α] in
/-- The blanks that are run over become NULs. -/
theorem blankWhile_takeWhile (nul : α) {stop : Nat} (before s : List α) {c : α} (after : List α)
    (hc : p c = false) (hstop : before.length + (s.takeWhile p).length ≤ stop) :
    blankWhile nul p stop (before ++ (s ++ c :: after)) before.length =
      some (before ++ (List.replicate (s.takeWhile p).length nul ++
          (s.dropWhile p ++ c :: after)),
        before.length + (s.takeWhile p).length) := by
  obtain ⟨d, after', hmem, hrest, hd⟩ := exists_stop s after hc
  rw [hmem, hrest]
  exact blankWhile_append nul before after' (fun _ hx => List.mem_takeWhile_imp hx) hd hstop

end Loops

end RestCommSdk.Lib
