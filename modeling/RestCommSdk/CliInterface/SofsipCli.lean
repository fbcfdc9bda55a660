import RestCommSdk.CliInterface.SscInput
import RestCommSdk.SipManager.Commands
import Mathlib.Data.List.DropRight

/-!
# `RestCommSdk.CliInterface.SofsipCli`: from a command line to the calls of the SIP client

`sofsip_handle_input_cb` of `sofsip_cli.mm`. `scanCommand` is its scanning part: it strips
the line and splits it into the command word and the rest. `sofsipHandleCommand` is the chain
of `match` tests; it calls at most one `ssc_*` function and keeps the global dictionary
`conf`, from which the stack is created anew after a restart.

The JSON reader is a parameter: the framework's own on the device. It answers `none` for
what does not read as an object.
-/

set_option autoImplicit false

namespace RestCommSdk.CliInterface

open RestCommSdk.SipManager

/-- The call of an `ssc_*` function, with its arguments. A `NULL` string is `none`. -/
inductive SscCall where
  | answer (sdp : Option CString) (status : Nat) (phrase : CString)
  | setPublicAddress (aor : Option CString)
  | bye
  | cancel
  | invite (destination password sdp headers : Option CString)
  | info (msg : Option CString)
  | hold (destination : Option CString) (hold : Bool)
  | auth (data : Option CString)
  | list
  | message (destination password msg headers : Option CString)
  | printSettings
  | subscribe (destination : Option CString)
  | watch (event : Option CString)
  | options (destination : Option CString)
  | publish (note : Option CString)
  | unpublish
  | update (aor password registrar : Option CString) (unregister : Bool)
  /-- The address to refer to is asked for at the prompt. -/
  | refer (destination : Option CString)
  | unsubscribe (destination : Option CString)
  | zap (which : Option CString)
  | shutdown
  | param (name value : CString)
  deriving DecidableEq, Repr

/-- The keys of the global dictionary `conf` that commands write. -/
structure SofiaConf where
  aor : Option CString := none
  password : Option CString := none
  registrar : Option CString := none
  proxy : Option CString := none
  register : Option Bool := none
  deriving DecidableEq, Repr

/-- The globals of `sofsip_cli.mm` that commands read or write. -/
structure Cli where
  conf : SofiaConf := {}
  restartSignalling : Bool := false
  stackIsShuttingDown : Bool := false
  deriving DecidableEq, Repr

/-- The macro `is_ws`. -/
def isWs (c : Char) : Bool :=
  c = ' ' || c = '\t' || c = '\r' || c = '\n'

/-- The scanning part of `sofsip_handle_input_cb`: the command word, and what follows it and
the white space after it, or `none` for nothing. -/
def scanCommand (input : CString) : CString × Option CString :=
  let line := (input.rdropWhile isWs).dropWhile isWs
  let rest := (line.dropWhile (!isWs ·)).dropWhile isWs
  (line.takeWhile (!isWs ·), if rest = [] then none else some rest)

/-- The macro `match`: equality up to case. -/
def sameWord (command : CString) (word : String) : Bool :=
  command.map Char.toLower = word.toList

/-- `r` and `u` with a dictionary: what is given goes to `conf`, and to `ssc_update`. -/
def updateFrom (cli : Cli) (args : Option NSDictionary) (unregister : Bool) :
    Cli × List SscCall :=
  let aor := objectForKey args "aor"
  let password := objectForKey args "password"
  let registrar := objectForKey args "registrar"
  let conf :=
    { aor := aor.or cli.conf.aor
      password := password.or cli.conf.password
      registrar := registrar.or cli.conf.registrar
      proxy := registrar.or cli.conf.proxy
      register := some registrar.isSome }
  ({ cli with conf := conf }, [.update aor password registrar unregister])

/-- `r` and `u` alone: the keys leave `conf`. -/
def updateBare (cli : Cli) (unregister : Bool) : Cli × List SscCall :=
  ({ cli with conf := { register := some false } }, [.update none none none unregister])

/-- The chain of tests of `sofsip_handle_input_cb`. -/
def sofsipHandleCommand (jsonObject : CString → Option NSDictionary) (cli : Cli)
    (command : CString) (rest : Option CString) : Cli × List SscCall :=
  -- `NSJSONSerialization JSONObjectWithData:`, for the commands that do nothing without a rest.
  let withArgs (f : Option NSDictionary → Cli × List SscCall) : Cli × List SscCall :=
    match rest with
    | none => (cli, [])
    | some r => f (jsonObject r)
  if sameWord command "a" || sameWord command "answer" then
    withArgs fun args => (cli, [.answer (objectForKey args "sdp") 200 "OK".toList])
  else if sameWord command "addr" then
    withArgs fun args =>
      let aor := objectForKey args "aor"
      ({ cli with conf := { cli.conf with aor := aor.or cli.conf.aor } },
        [.setPublicAddress aor])
  else if sameWord command "b" || sameWord command "bye" then
    (cli, [.bye])
  else if sameWord command "c" || sameWord command "cancel" then
    (cli, [.cancel])
  else if command = "d".toList then
    (cli, [.answer none 480 "Temporarily Unavailable".toList])
  else if command = "D".toList then
    (cli, [.answer none 603 "Decline".toList])
  else if sameWord command "h" || sameWord command "help" then
    (cli, [])
  else if sameWord command "i" || sameWord command "invite" then
    withArgs fun args =>
      (cli, [.invite (objectForKey args "destination") (objectForKey args "password")
        (objectForKey args "sdp") (objectForKey args "sip-headers")])
  else if sameWord command "info" then
    (cli, [.info rest])
  else if sameWord command "hold" then
    (cli, [.hold rest true])
  else if sameWord command "unhold" then
    (cli, [.hold rest false])
  else if sameWord command "k" || sameWord command "key" then
    (cli, [.auth rest])
  else if sameWord command "l" || sameWord command "list" then
    (cli, [.list])
  else if sameWord command "m" || sameWord command "message" then
    withArgs fun args =>
      (cli, [.message (objectForKey args "destination") (objectForKey args "password")
        (objectForKey args "message") (objectForKey args "sip-headers")])
  else if sameWord command "set" then
    (cli, [.printSettings])
  else if sameWord command "s" || sameWord command "subscribe" then
    (cli, [.subscribe rest])
  else if sameWord command "w" || sameWord command "watch" then
    (cli, [.watch rest])
  else if sameWord command "o" || sameWord command "options" then
    (cli, [.options rest])
  else if sameWord command "p" || sameWord command "publish" then
    (cli, [.publish rest])
  else if sameWord command "up" || sameWord command "unpublish" then
    (cli, [.unpublish])
  else if sameWord command "r" || sameWord command "register" then
    match rest with
    | some r => updateFrom cli (jsonObject r) false
    | none => updateBare cli false
  else if command = "u".toList || sameWord command "unregister" then
    match rest with
    | some r => updateFrom cli (jsonObject r) true
    | none => updateBare cli true
  else if sameWord command "ref" || sameWord command "refer" then
    (cli, [.refer rest])
  else if command = "U".toList || sameWord command "us" || sameWord command "unsubscribe" then
    (cli, [.unsubscribe rest])
  else if sameWord command "z" || sameWord command "zap" then
    (cli, [.zap rest])
  else if sameWord command "q" || sameWord command "x" || sameWord command "exit" then
    (cli, [.shutdown])
  else if sameWord command "qr" then
    ({ cli with restartSignalling := true }, [.shutdown])
  else if sameWord command "mr" then
    if cli.stackIsShuttingDown then
      ({ cli with restartSignalling := true, stackIsShuttingDown := false }, [])
    else
      (cli, [])
  else if '=' ∈ command then
    (cli, [.param (command.takeWhile (· ≠ '=')) ((command.dropWhile (· ≠ '=')).drop 1)])
  else
    (cli, [])

/-- `sofsip_handle_input_cb`. -/
def sofsipHandleInput (jsonObject : CString → Option NSDictionary) (cli : Cli)
    (input : CString) : Cli × List SscCall :=
  sofsipHandleCommand jsonObject cli (scanCommand input).1 (scanCommand input).2

/-- The handler on successive lines. -/
def sofsipHandleInputs (jsonObject : CString → Option NSDictionary) (cli : Cli) :
    List CString → Cli × List SscCall
  | [] => (cli, [])
  | input :: inputs =>
    let handled := sofsipHandleInput jsonObject cli input
    let later := sofsipHandleInputs jsonObject handled.1 inputs
    (later.1, handled.2 ++ later.2)

/-- The calls that the Sofia side makes for successive reads of the pipe, or `none` when the
process ended at one of them. -/
def sofiaCalls (jsonObject : CString → Option NSDictionary) (cli : Cli)
    (reads : List CString) : Option (List SscCall) :=
  (sscInputReads reads).map fun inputs => (sofsipHandleInputs jsonObject cli inputs).2

end RestCommSdk.CliInterface
