import RestCommSdk.CliInterface.SofiaThread
import RestCommSdk.RestCommClient.RCDevice

/-!
# `RestCommSdk.RestCommClient.TwoThreads`: the two threads and the pipes between them

The main thread of the App and the Sofia thread share nothing but two pipes. The App writes
command lines to one of them, the SIP client its replies to the other. `Wired` is the whole
system, with the bytes that are in the pipes. A read takes any part of them, and what is cut out of
it is handled at once: `ssc_input_read_char` calls the handler for every line of a read,
`inputCallback` hands every reply of a read to `handleSofiaInput`.

`Queued` is what the pipes are for: two queues, of lines and of replies, that are handled one at a
time. It takes the turns of the two threads from the same functions.

A run is about one call of `sofsip_loop`, which makes its SIP client anew after a `qr`. The App does
not start another one meanwhile (`AppInput.isLocal`).
-/

set_option autoImplicit false

namespace RestCommSdk

open RestCommSdk.CliInterface
open RestCommSdk.SipManager (NSDictionary Command pipeToSofia)

/-- A line that the App writes. -/
inductive Line where
  | command (c : Command)
  /-- The answer to `REPLY_AUTH`. -/
  | credentials (password : CString)
  deriving DecidableEq

/-- The line as it is written. -/
def Line.text : Line → CString
  | command c => c.text
  | credentials password => 'k' :: ' ' :: password

/-- What a step of the App has written. Credentials are all that a step writes which has any. -/
def App.written (app : App) : List Line :=
  app.piped.map (fun piped => .command piped.command) ++ app.credentials.map .credentials

/-- What happens at the borders of the threads. -/
inductive Occurrence where
  /-- A call of the application, or a callback of a framework. -/
  | input (input : AppInput)
  | told (c : Nat) (event : ConnectionEvent)
  | notified (event : DeviceEvent)
  | wrote (line : Line)
  /-- The handler of the commands was called. -/
  | handled (line : CString)
  /-- An event of the stack. -/
  | event (nh : Nat) (e : NuaEvent)
  | asked (call : NuaCall)
  | replied (reply : SofiaReply)
  /-- `handleSofiaInput` was called. -/
  | dispatched (reply : SofiaReply)

/-- The threads, and what has happened so far. -/
structure Threads where
  app : App
  sofia : SofiaThread
  history : List Occurrence := []

/-- What the application and the frameworks can do: all but the reply and the end of the loop. -/
def AppInput.isLocal : AppInput → Bool
  | .reply .. | .loopStopped => false
  | _ => true

/-! ### Turns -/

/-- What the App did on a step, and what it has written. -/
def App.occurrences (app : App) : List Occurrence :=
  app.written.map .wrote ++ (app.told.map fun t => .told t.1 t.2) ++ app.notified.map .notified

/-- What the Sofia thread did on a turn. -/
def CliInterface.SofiaThread.occurrences (sofia : SofiaThread) : List Occurrence :=
  sofia.ssc.nua.map .asked ++ sofia.ssc.sent.map .replied

/-- `stackIsShuttingDown` is one global: what the SIP client has set is what `mr` looks at. -/
def CliInterface.SofiaThread.share (sofia : SofiaThread) : SofiaThread :=
  { cli := { sofia.cli with
      stackIsShuttingDown := sofia.cli.stackIsShuttingDown || sofia.ssc.stackIsShuttingDown }
    ssc := { sofia.ssc with stackIsShuttingDown := false } }

namespace Threads

variable (env : SscEnv) (jsonObject : CString → Option NSDictionary)

/-- The main thread takes a step on `input`. -/
def appTurn (t : Threads) (what : Occurrence) (input : AppInput) : Option Threads := do
  let app ← appStep jsonObject t.app input
  return { t with app := app, history := t.history ++ what :: app.occurrences }

/-- The loop of the Sofia thread takes a turn, unless it was broken. No command breaks it, so the
lines of a read are all handled or none. -/
def sofiaTurn (t : Threads) (what : Occurrence) (input : Alloc × SofiaInput) : Option Threads :=
  if t.sofia.ssc.rootBroken then none
  else do
    let sofia := (← sofiaStep env jsonObject t.sofia input).share
    return { t with sofia := sofia, history := t.history ++ what :: sofia.occurrences }

/-- The next pass of the while loop of `sofsip_loop`. -/
def nextPass (t : Threads) (alloc : Alloc) : Option Threads :=
  if t.sofia.ssc.rootBroken && t.sofia.cli.restartSignalling then
    let sofia :=
      SofiaThread.create env alloc { t.sofia.cli with restartSignalling := false }
    some { t with sofia := sofia, history := t.history ++ sofia.occurrences }
  else none

/-- A line is handled. What the turn takes from outside is what is allocated and what would be
typed at a prompt. -/
def handle (t : Threads) (turn : Alloc × CString) (line : CString) : Option Threads :=
  t.sofiaTurn env jsonObject (.handled line) (turn.1, .line line turn.2)

/-- A reply is handled. -/
def dispatch (t : Threads) (active : Bool) (reply : SofiaReply) : Option Threads :=
  t.appTurn jsonObject (.dispatched reply) (.reply reply active)

end Threads

/-! ### Bytes in the pipes -/

/-- The system, with the bytes that were written and not read. -/
structure Wired where
  threads : Threads
  toSofia : CString := []
  toApp : CString := []

/-- What makes the system take a step. -/
inductive WiredInput where
  | app (input : AppInput)
  /-- `ssc_input_read_char` reads so many bytes. -/
  | readLines (n : Nat) (turns : Nat → Alloc × CString)
  | stack (alloc : Alloc) (nh : Nat) (e : NuaEvent)
  | nextPass (alloc : Alloc)
  /-- `inputCallback` reads so many bytes. -/
  | readReplies (n : Nat) (active : Nat → Bool)

section Wired
variable (env : SscEnv) (jsonObject : CString → Option NSDictionary)

/-- The lines of a read, one after the other, and the replies to all of them. -/
def Threads.handleAll (turns : Nat → Alloc × CString) (t : Threads) :
    List CString → Option (Threads × List SofiaReply)
  | [] => some (t, [])
  | line :: lines => do
    let t ← t.handle env jsonObject (turns 0) line
    let later ← handleAll (fun i => turns (i + 1)) t lines
    return (later.1, t.sofia.ssc.sent ++ later.2)

/-- The replies of a read, one after the other, and the lines that are written on them. -/
def Threads.dispatchAll (active : Nat → Bool) (t : Threads) :
    List SofiaReply → Option (Threads × List Line)
  | [] => some (t, [])
  | reply :: replies => do
    let t ← t.dispatch jsonObject (active 0) reply
    let later ← dispatchAll (fun i => active (i + 1)) t replies
    return (later.1, t.app.written ++ later.2)

/-- The bytes of lines. -/
def lineBytes (lines : List Line) : CString := lines.flatMap fun line => pipeToSofia line.text

/-- One step of the system. -/
def wiredStep (s : Wired) : WiredInput → Option Wired
  | .app input =>
    if input.isLocal then do
      let t ← s.threads.appTurn jsonObject (.input input) input
      return { s with threads := t, toSofia := s.toSofia ++ lineBytes t.app.written }
    else none
  | .readLines n turns =>
    -- `char buf[65535]`, with a place for the closing NUL.
    if 0 < n ∧ n ≤ 65534 ∧ n ≤ s.toSofia.length then do
      let lines ← sscInputReadChar (s.toSofia.take n)
      let (t, replies) ← s.threads.handleAll env jsonObject turns lines
      return {
        threads := t
        toSofia := s.toSofia.drop n
        toApp := s.toApp ++ replies.flatMap SofiaReply.serialize }
    else none
  | .stack alloc nh e => do
    let t ← s.threads.sofiaTurn env jsonObject (.event nh e) (alloc, .event nh e)
    return { s with
      threads := t, toApp := s.toApp ++ t.sofia.ssc.sent.flatMap SofiaReply.serialize }
  | .nextPass alloc => do
    let t ← s.threads.nextPass env alloc
    return { s with
      threads := t, toApp := s.toApp ++ t.sofia.ssc.sent.flatMap SofiaReply.serialize }
  | .readReplies n active =>
    -- `char buf[65536]`
    if 0 < n ∧ n ≤ 65536 ∧ n ≤ s.toApp.length then do
      let (t, lines) ←
        s.threads.dispatchAll jsonObject active (inputCallback (s.toApp.take n))
      return { threads := t, toSofia := s.toSofia ++ lineBytes lines, toApp := s.toApp.drop n }
    else none

end Wired

/-! ### Queues -/

/-- The system, with the lines and the replies that were not handled. -/
structure Queued where
  threads : Threads
  lines : List Line := []
  replies : List SofiaReply := []

/-- What makes the queues take a step. -/
inductive QueuedInput where
  | app (input : AppInput)
  /-- The first line is handled. -/
  | handle (turn : Alloc × CString)
  | stack (alloc : Alloc) (nh : Nat) (e : NuaEvent)
  | nextPass (alloc : Alloc)
  /-- The first reply is handled. -/
  | dispatch (active : Bool)

/-- One step of the system with queues. -/
def queuedStep (env : SscEnv) (jsonObject : CString → Option NSDictionary) (s : Queued) :
    QueuedInput → Option Queued
  | .app input =>
    if input.isLocal then do
      let t ← s.threads.appTurn jsonObject (.input input) input
      return { s with threads := t, lines := s.lines ++ t.app.written }
    else none
  | .handle turn =>
    match s.lines with
    | [] => none
    | line :: lines => do
      let t ← s.threads.handle env jsonObject turn line.text
      return { threads := t, lines := lines, replies := s.replies ++ t.sofia.ssc.sent }
  | .stack alloc nh e => do
    let t ← s.threads.sofiaTurn env jsonObject (.event nh e) (alloc, .event nh e)
    return { s with threads := t, replies := s.replies ++ t.sofia.ssc.sent }
  | .nextPass alloc => do
    let t ← s.threads.nextPass env alloc
    return { s with threads := t, replies := s.replies ++ t.sofia.ssc.sent }
  | .dispatch active =>
    match s.replies with
    | [] => none
    | reply :: replies => do
      let t ← s.threads.dispatch jsonObject active reply
      return { threads := t, lines := s.lines ++ t.app.written, replies := replies }

/-! ### The start -/

/-- The threads once `sofsip_loop` has made its first SIP client. -/
def Threads.start (env : SscEnv) (alloc : Alloc) (app : App) (cli : Cli) : Threads :=
  let sofia := SofiaThread.create env alloc cli
  { app := app, sofia := sofia, history := sofia.occurrences }

/-- What the new client has sent is in the pipe. -/
def Wired.start (env : SscEnv) (alloc : Alloc) (app : App) (cli : Cli) : Wired :=
  let threads := Threads.start env alloc app cli
  { threads := threads, toApp := threads.sofia.ssc.sent.flatMap SofiaReply.serialize }

/-- What the new client has sent is in the queue. -/
def Queued.start (env : SscEnv) (alloc : Alloc) (app : App) (cli : Cli) : Queued :=
  let threads := Threads.start env alloc app cli
  { threads := threads, replies := threads.sofia.ssc.sent }

end RestCommSdk
