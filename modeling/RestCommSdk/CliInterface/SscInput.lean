import RestCommSdk.CliInterface.SofiaReply
import RestCommSdk.Lib.CStrings
import Mathlib.Data.List.TakeWhile

/-!
# `RestCommSdk.CliInterface.SscInput`: the commands on the App-to-Sofia pipe

`ssc_input_read_char` of `ssc_input.cpp`, the reader at the Sofia end of the pipe. It cuts
the bytes of one read at every `$` and hands the parts to the handler, up to the first empty
one. A read without a `$` ends the process.

The function does so in place: `strsep` writes over the `$` in its array, and the handler gets
a copy that it may write over too. `sscInputReadCharInPlace` is the function on memory,
`sscInputReadChar` says which texts the handler is given.
-/

set_option autoImplicit false

namespace RestCommSdk.CliInterface

open RestCommSdk.Lib

/-- `ssc_input_read_char` on the bytes of one read: the arguments of the handler calls, in
order, or `none` for `exit(1)`. Successive calls of `strsep` return the parts between
delimiters, the one after the last delimiter included. -/
def sscInputReadChar (buf : CString) : Option (List CString) :=
  if '$' ∈ buf then
    some ((buf.splitOn '$').takeWhile fun token => !token.isEmpty)
  else
    none

/-- The arguments of all handler calls of successive reads, or `none` when the process ended
at one of them. -/
def sscInputReads : List CString → Option (List CString)
  | [] => some []
  | buf :: reads => do
    let tokens ← sscInputReadChar buf
    let later ← sscInputReads reads
    return tokens ++ later

/-- Every read ends a line, and the lines are those of its reads. -/
theorem sscInputReads_eq_some {reads : List CString} {tokens : List CString} :
    sscInputReads reads = some tokens ↔
      (∀ b ∈ reads, '$' ∈ b) ∧
      tokens = reads.flatMap fun b => (b.splitOn '$').takeWhile fun token => !token.isEmpty := by
  induction reads generalizing tokens with
  | nil => simp [sscInputReads, eq_comm]
  | cons b reads ih =>
    by_cases hb : '$' ∈ b
    · simp only [sscInputReads, sscInputReadChar, hb, if_true, Option.bind_eq_bind,
        Option.bind_some, List.mem_cons, forall_eq_or_imp, true_and, List.flatMap_cons,
        Option.bind_eq_some_iff, Option.pure_def, Option.some.injEq]
      constructor
      · rintro ⟨later, hlater, rfl⟩
        obtain ⟨hall, rfl⟩ := ih.mp hlater
        exact ⟨hall, rfl⟩
      · rintro ⟨hall, rfl⟩
        exact ⟨_, ih.mpr ⟨hall, rfl⟩, rfl⟩
    · simp [sscInputReads, sscInputReadChar, hb]

/-! ### On memory -/

/-- What the handler does to the block that its `i`-th call is given. -/
abbrev InputHandler := Nat → List Char → List Char

/-- What `ssc_input_read_char` works on. -/
structure InputReader where
  /-- The array `buf`, and the pointer `ptr` into it. -/
  buf : Cutting Char
  /-- The texts that the handler was called with. -/
  handled : List CString := []
  /-- The blocks that `strdup` made, as the handler left them. -/
  copies : List (List Char) := []

/-- The while loop of `ssc_input_read_char`, for a read of `n` bytes. -/
def sscInputLoop (handler : Option InputHandler) (n : Nat) (r : InputReader) : InputReader :=
  match _h : strsep '\x00' '$' r.buf with
  | (none, buf) => { r with buf := buf }
  | (some token, buf) =>
    if 0 < n then
      let text := cstr '\x00' buf.mem token
      -- The test for the empty token comes before the copy.
      if text = [] then { r with buf := buf }
      else
        let tmpbuf := text ++ ['\x00']
        match handler with
        | some f =>
          sscInputLoop handler n
            { buf := buf
              handled := r.handled ++ [text]
              copies := r.copies ++ [f r.copies.length tmpbuf] }
        | none => sscInputLoop handler n { r with buf := buf, copies := r.copies ++ [tmpbuf] }
    else sscInputLoop handler n { r with buf := buf }
termination_by r.buf.left
decreasing_by all_goals exact strsep_lt _h

/-- `ssc_input_read_char` when the read returns `bytes`, for what the array `buf` held before,
or `none` for `exit(1)`. -/
def sscInputReadCharInPlace (handler : Option InputHandler) (buf : List Char)
    (bytes : CString) : Option InputReader :=
  let mem := (bytes ++ buf.drop bytes.length).set bytes.length '\x00'
  if '$' ∈ cstr '\x00' mem 0 then
    some (sscInputLoop handler bytes.length { buf := { mem := mem, ptr := some 0 } })
  else
    none

end RestCommSdk.CliInterface
