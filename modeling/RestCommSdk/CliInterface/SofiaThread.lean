import RestCommSdk.CliInterface.SofsipLoop

/-!
# `RestCommSdk.CliInterface.SofiaThread`: command lines and events in turn

The loop of the Sofia thread takes a line of the command pipe or an event of the stack at a
time. A line goes through `sofsip_handle_input_cb` to the `ssc_*` function it calls, an event
to `priv_callback`. `SofiaThread.create` is where the loop starts, `sofiaStep` is one turn.
-/

set_option autoImplicit false

namespace RestCommSdk.CliInterface

open RestCommSdk.SipManager (NSDictionary objectForKey)

/-- The globals of `sofsip_cli.mm`, and the SIP client. -/
structure SofiaThread where
  cli : Cli := {}
  ssc : Ssc := {}
  deriving DecidableEq

/-- The thread once `ssc_create` has made a client from `conf`. -/
def SofiaThread.create (env : SscEnv) (alloc : Alloc) (cli : Cli) : SofiaThread :=
  { cli := (sscCreate env alloc cli).cli
    ssc := (sscCreate env alloc cli).ssc }

/-- What a turn of the loop is about. -/
inductive SofiaInput where
  /-- A line of the command pipe, and what would be typed at a prompt. -/
  | line (input : CString) (prompt : CString := [])
  | event (nh : Nat) (e : NuaEvent)
  deriving DecidableEq

/-- The value of a key in the arguments of a command line. -/
def lineArgument (jsonObject : CString → Option NSDictionary) (line : CString) (key : String) :
    Option CString :=
  (scanCommand line).2.bind fun rest => objectForKey (jsonObject rest) key

/-- One turn, with its own outputs only. -/
def sofiaStep (env : SscEnv) (jsonObject : CString → Option NSDictionary) (s : SofiaThread)
    (input : Alloc × SofiaInput) : Option SofiaThread :=
  let ssc := { s.ssc with nua := [], sent := [] }
  if input.1.Fresh ssc then
    match input.2 with
    | .line line prompt => do
      let handled := sofsipHandleInput jsonObject s.cli line
      let ssc ← handled.2.foldlM (fun ssc call => sscCall env input.1 prompt ssc call) ssc
      return { cli := handled.1, ssc := ssc }
    | .event nh e => do
      let ssc ← privCallback env input.1 nh ssc e
      return { s with ssc := ssc }
  else none

end RestCommSdk.CliInterface
