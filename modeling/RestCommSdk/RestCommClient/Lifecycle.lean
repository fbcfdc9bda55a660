import RestCommSdk.RestCommClient.RCDevice
import RestCommSdk.CliInterface.SofsipLoop

/-!
# `RestCommSdk.RestCommClient.Lifecycle`: starting and stopping the Sofia thread

The lifecycle calls of the App and the Sofia thread as one machine: `eventLoop` and
`shutdown:` of `SipManager.mm` on one side, the while loop of `sofsip_loop` on the other.
They share `signallingInstances` and the pipe. `restartSignalling` and `stackIsShuttingDown`
are used by the Sofia thread alone.

A call of `eventLoop` is two steps: the part under the lock (`.listen`), and what follows it
(`.finish`). The other side may step in between. The App makes one call at a time.

`loops` counts the calls of `sofsip_loop` from the outside. `phase` is where the latest one
is, and `waiting` is in the pipe that was made for it.
-/

set_option autoImplicit false

namespace RestCommSdk

open RestCommSdk.CliInterface
open RestCommSdk.SipManager (NSDictionary Params Command)

/-- Where `sofsip_loop` is. -/
inductive LoopPhase where
  /-- Not called, or counted down. -/
  | absent
  /-- Scheduled, or before `ssc_create`. -/
  | creating
  /-- In `su_root_run`. -/
  | running
  /-- Behind it, before the test of `restartSignalling`. -/
  | leaving
  /-- It has returned. -/
  | left
  deriving DecidableEq, Repr

/-- Where the App is in a call of `eventLoop`. -/
inductive EventLoopCall where
  | idle
  /-- Before `markForRestartIfShuttingDown`. -/
  | marking
  /-- Before the tests of the parameters. -/
  | starting
  deriving DecidableEq, Repr

/-- The state of both sides. -/
structure Lifecycle where
  app : App
  call : EventLoopCall := .idle
  cli : Cli := {}
  phase : LoopPhase := .absent
  waiting : List Command := []
  /-- The `nua_shutdown`s that have not been answered. -/
  shutdowns : Nat := 0
  loops : Nat := 0
  /-- What `eventLoop` has returned, when this step was the end of a call. -/
  returned : Option Bool := none
  /-- History: `signallingInstances` as the call in progress found it, less what has been
  counted down since. -/
  found : Nat := 0
  /-- History: the last of the calls of `listen` and `unlisten` was `listen`. -/
  listening : Bool := false

/-! ### The App -/

/-- The parameters with which `eventLoop` calls `sofsip_loop`: secure signalling needs a
directory of certificates. -/
def SipManager.startable (params : Params) : Bool :=
  !(params.secure && params.certificateDir.getD [] = [])

/-- `eventLoop` under the lock. -/
def SipManager.enterEventLoop (app : App) : App × EventLoopCall :=
  if 0 < app.signallingInstances then (app, .marking)
  else ({ app with signallingInstances := app.signallingInstances + 1 }, .starting)

/-- `eventLoop` after the lock, and what it returns. -/
def SipManager.finishEventLoop (app : App) : EventLoopCall → App × Bool
  | .idle => (app, false)
  | .marking => (app.pipe none .markForRestart, false)
  | .starting =>
    if startable app.params then (app, true)
    else (RCDevice.offlineOnError .secureSignalling app, false)

/-- The block that `eventLoop` leaves to another thread, with what `sofsip_loop` makes of its
arguments. None of the tests of `convert2FullURI:andDomain:` finds anything in a missing `aor`,
and it is formatted. -/
def SipManager.startSofsipLoop (params : Params) : Option SofiaConf :=
  sofsipLoopConf (some (convert2FullURI params (format params.aor) params.registrar))
    params.password (some (convert2FullDomain params params.registrar))

/-- The two parts make up `eventLoop`. -/
theorem SipManager.eventLoop_eq (app : App) :
    SipManager.eventLoop app =
      (finishEventLoop (enterEventLoop app).1 (enterEventLoop app).2).1 := by
  by_cases hcount : 0 < app.signallingInstances
  · simp only [eventLoop, enterEventLoop, if_pos hcount, finishEventLoop]
  · simp only [eventLoop, enterEventLoop, if_neg hcount, finishEventLoop, startable]
    cases app.params.secure && decide (app.params.certificateDir.getD [] = []) <;> rfl

/-- `shutdown:` -/
def SipManager.shutdown (restart : Bool) (app : App) : App := app.pipe none (.shutdown restart)

namespace Lifecycle

/-- The start of the App. -/
def initial (app : App) : Lifecycle := { app := { app with signallingInstances := 0 } }

/-- What the App has piped waits behind what waits already. -/
def write (s : Lifecycle) (app : App) : Lifecycle :=
  { s with app := app, waiting := s.waiting ++ app.piped.map (·.command) }

/-- A call of `eventLoop` begins, with these parameters. -/
def listen (params : Params) (s : Lifecycle) : Option Lifecycle :=
  if s.call = .idle then
    let entered := SipManager.enterEventLoop { s.app with params := params }
    some { s with
      app := entered.1
      call := entered.2
      found := s.app.signallingInstances
      listening := true }
  else none

/-- It ends. A loop that is started gets new pipes. -/
def finish (s : Lifecycle) : Option Lifecycle :=
  if s.call = .idle then none
  else
    let finished := SipManager.finishEventLoop s.app.silent s.call
    let s := { s.write finished.1 with call := .idle, returned := some finished.2 }
    -- What was piped before stays in the old pipe, which nobody reads any more.
    some (if finished.2 then { s with phase := .creating, waiting := [], loops := s.loops + 1 }
      else s)

/-- `shutdown:NO`, for `unlisten`. -/
def unlisten (s : Lifecycle) : Option Lifecycle :=
  if s.call = .idle then
    some { s.write (SipManager.shutdown false s.app.silent) with listening := false }
  else none

/-- `shutdown:YES`, for a switch of the network. -/
def networkSwitch (s : Lifecycle) : Option Lifecycle :=
  if s.call = .idle then some (s.write (SipManager.shutdown true s.app.silent)) else none

/-! ### The Sofia thread -/

/-- `ssc_create`. `bound` says that there is an interface to bind to; the run loop is passed
over otherwise. -/
def create (bound : Bool) (s : Lifecycle) : Option Lifecycle :=
  if s.phase = .creating then
    some { s with
      cli := { s.cli with stackIsShuttingDown := false }
      shutdowns := 0
      phase := if bound then .running else .leaving }
  else none

/-- The next command is handled. `ssc_shutdown` calls `nua_shutdown`. -/
def read (jsonObject : CString → Option NSDictionary) (s : Lifecycle) : Option Lifecycle :=
  match s.waiting with
  | [] => none
  | command :: waiting =>
    if s.phase = .running then
      let handled := sofsipHandleInput jsonObject s.cli command.text
      let shutdowns := handled.2.count .shutdown
      some { s with
        waiting := waiting
        cli := { handled.1 with
          stackIsShuttingDown := handled.1.stackIsShuttingDown || decide (0 < shutdowns) }
        shutdowns := s.shutdowns + shutdowns }
    else none

/-- `ssc_r_shutdown` with 100. No command is read between the break and the end of the run
loop. -/
def shutdownResponse (s : Lifecycle) : Option Lifecycle :=
  if s.phase = .running ∧ 0 < s.shutdowns then
    some { s with phase := .leaving, shutdowns := s.shutdowns - 1 }
  else none

/-- The test of `restartSignalling`. -/
def leave (s : Lifecycle) : Option Lifecycle :=
  if s.phase = .leaving then
    some (if s.cli.restartSignalling then
      { s with phase := .creating, cli := { s.cli with restartSignalling := false } }
    else { s with phase := .left })
  else none

/-- `signallingInstances` is counted down. -/
def ended (s : Lifecycle) : Option Lifecycle :=
  if s.phase = .left then
    some { s with
      app := { s.app with signallingInstances := s.app.signallingInstances - 1 }
      phase := .absent
      loops := s.loops - 1
      found := s.found - 1 }
  else none

end Lifecycle

/-! ### Steps -/

/-- What happens next. -/
inductive LifecycleInput where
  | listen (params : Params)
  | finish
  | unlisten
  | networkSwitch
  | create (bound : Bool)
  | read
  | shutdownResponse
  | leave
  | ended
  deriving DecidableEq, Repr

/-- One step of either side. -/
def lifecycleStep (jsonObject : CString → Option NSDictionary) (s : Lifecycle)
    (input : LifecycleInput) : Option Lifecycle :=
  let s := { s with returned := none }
  match input with
  | .listen params => s.listen params
  | .finish => s.finish
  | .unlisten => s.unlisten
  | .networkSwitch => s.networkSwitch
  | .create bound => s.create bound
  | .read => s.read jsonObject
  | .shutdownResponse => s.shutdownResponse
  | .leave => s.leave
  | .ended => s.ended

end RestCommSdk
