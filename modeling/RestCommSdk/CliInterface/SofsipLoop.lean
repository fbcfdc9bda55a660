import RestCommSdk.CliInterface.SscSip

/-!
# `RestCommSdk.CliInterface.SofsipLoop`: the configuration that the stack is created with

`sofsip_loop` of `sofsip_cli.mm` keeps its arguments in the dictionary `conf`, and each pass
of its while loop creates the stack from what `conf` then holds (`sscCreate`). In between, the
commands write both `conf` and the stack (`Client.handle`).

What nua keeps of a `nua_set_params` is followed here: the proxy and the registrar of the
whole stack.
-/

set_option autoImplicit false

namespace RestCommSdk.CliInterface

open RestCommSdk.SipManager (NSDictionary)

/-- What a stack works with. -/
structure Configuration where
  /-- `ssc_address` -/
  address : Option CString
  /-- `NUTAG_PROXY` -/
  proxy : Option CString
  /-- `NUTAG_REGISTRAR` -/
  registrar : Option CString
  /-- It was last asked to register, and with a registrar. -/
  register : Bool
  deriving DecidableEq, Repr

/-- The Sofia thread inside a pass of the while loop. -/
structure Client where
  cli : Cli
  ssc : Ssc
  proxy : Option CString
  registrar : Option CString
  /-- History: what was last asked for, a registration with a registrar or not. -/
  register : Bool

/-- The dictionary that `sofsip_loop` makes of its arguments: every key is given anew.
`stringWithUTF8String:` raises an exception for `NULL`. -/
def sofsipLoopConf (aor password registrar : Option CString) : Option SofiaConf := do
  return {
    aor := some (← aor)
    password := some (← password)
    registrar := some (← registrar)
    proxy := some (← registrar)
    register := some registrar.isSome }

namespace Client

/-- What `nua_set_params` changes. -/
def setParams (client : Client) : NuaCall → Client
  | .setRegistrar registrar => { client with proxy := registrar, registrar := registrar }
  | _ => client

/-- The client after a call that ended in `ssc`. -/
def after (client : Client) (ssc : Ssc) : Client :=
  ssc.nua.foldl setParams { client with ssc := ssc }

/-- The configuration at work. -/
def configuration (client : Client) : Configuration :=
  { address := client.ssc.address
    proxy := client.proxy
    registrar := client.registrar
    register := client.register }

/-- `r` and `u` ask for a registration, or for the end of it. -/
def asksToRegister : SscCall → Option Bool
  | .update _ _ registrar unregister => some (!unregister && (givenRegistrar registrar).isSome)
  | _ => none

/-- A command is handled. -/
def handle (env : SscEnv) (jsonObject : CString → Option NSDictionary) (client : Client)
    (alloc : Alloc) (command : CString) (rest : Option CString) : Option Client :=
  let handled := sofsipHandleCommand jsonObject client.cli command rest
  let client := { client with cli := handled.1 }
  handled.2.foldlM
    (fun client call => do
      let ssc ← sscCall env alloc [] { client.ssc with nua := [], sent := [] } call
      return { client with register := (asksToRegister call).getD client.register }.after ssc)
    client

end Client

/-- `ssc_create`, for `conf` as it is. -/
def sscCreate (env : SscEnv) (alloc : Alloc) (cli : Cli) : Client :=
  let conf := cli.conf
  let client : Client :=
    { cli := { cli with stackIsShuttingDown := false }
      ssc := { address := conf.aor }
      proxy := givenRegistrar conf.proxy
      registrar := givenRegistrar conf.registrar
      register := false }
  let client :=
    if conf.register.getD false then
      { client with register := (givenRegistrar conf.registrar).isSome }.after
        (sscRegister env alloc conf.registrar conf.password client.ssc)
    else client
  { client with ssc := client.ssc.send SipMsgEnum.signallingInitialized.reply }

/-- A `qr`, and the next pass of the while loop. -/
def restart (env : SscEnv) (jsonObject : CString → Option NSDictionary) (alloc : Alloc)
    (client : Client) : Client :=
  let cli := (sofsipHandleCommand jsonObject client.cli "qr".toList none).1
  sscCreate env alloc { cli with restartSignalling := false }

/-! ### The commands that configure -/

/-- The words of the commands that write `conf`. -/
inductive ConfWord where
  | addr
  | r
  | u
  deriving DecidableEq, Repr

/-- The word as it is typed. -/
def ConfWord.text : ConfWord → CString
  | addr => "addr".toList
  | r => "r".toList
  | u => "u".toList

/-- A command that writes `conf`. -/
structure ConfCommand where
  word : ConfWord
  rest : Option CString
  deriving DecidableEq, Repr

/-- One such command. -/
def confStep (env : SscEnv) (jsonObject : CString → Option NSDictionary) (client : Client)
    (input : Alloc × ConfCommand) : Option Client :=
  client.handle env jsonObject input.1 input.2.word.text input.2.rest

end RestCommSdk.CliInterface
