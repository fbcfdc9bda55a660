import RestCommSdk.CliInterface.SofsipCli

/-!
# `RestCommSdk.CliInterface.SofsipScan`: how a command line is scanned in place

The scanning part of `sofsip_handle_input_cb`, on the memory that holds the line. It works with
two pointers and a length of type `int`: it puts an end behind the line without its trailing white
space, moves `command` over the leading white space, and writes over the white space between the
word and the rest. `scanCommand` of `RestCommSdk.CliInterface.SofsipCli` says which texts the
pointers are at afterwards.

Addresses are positions of the buffer. A result `none` is a read or a write outside of it.
-/

set_option autoImplicit false

namespace RestCommSdk.CliInterface

open RestCommSdk.Lib

/-- `command[n] = c`, for an `int`. -/
def storeAt (mem : List Char) (n : Int) (c : Char) : Option (List Char) :=
  if 0 ≤ n ∧ n.toNat < mem.length then some (mem.set n.toNat c) else none

/-- `while (n > 0 && is_ws(command[n - 1])) n--;` -/
def trimEnd (mem : List Char) (n : Int) : Option Int :=
  if 0 < n then do
    let c ← mem[(n - 1).toNat]?
    if isWs c then trimEnd mem (n - 1) else some n
  else some n
termination_by n.toNat

/-- The pointers after the scan, and the buffer. -/
structure Scanned where
  mem : List Char
  command : Nat
  /-- `none` is `NULL`. -/
  rest : Option Nat
  deriving DecidableEq, Repr

/-- `int n = (int)strlen(command)` -/
def intLength (line : CString) : Int := (Int32.ofNat line.length).toInt

/-- The scan of a line of `n` characters that its trailing white space was taken from. -/
def scanTrimmed (n : Nat) (mem : List Char) : Option Scanned := do
  let command ← scanWhile isWs mem 0
  let rest ← scanWhile (fun c => c ≠ '\x00' && !isWs c) mem command
  -- The end mark is `command + n`, although `n` counts from the start of the buffer.
  let stop := command + n
  let (mem, rest) ← blankWhile '\x00' isWs stop mem rest
  if stop ≤ rest then return { mem := mem, command := command, rest := none }
  else
    let c ← mem[rest]?
    return { mem := mem, command := command, rest := if c = '\x00' then none else some rest }

/-- The scanning part of `sofsip_handle_input_cb`, for a buffer whose line starts at its
beginning. -/
def scanInPlace (mem : List Char) : Option Scanned := do
  let strlen ← mem.idxOf? '\x00'
  let n ← trimEnd mem (intLength (mem.take strlen))
  let mem ← storeAt mem n '\x00'
  scanTrimmed n.toNat mem

end RestCommSdk.CliInterface
