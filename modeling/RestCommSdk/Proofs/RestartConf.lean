import RestCommSdk.CliInterface.SofsipLoop
import RestCommSdk.Lib.History
import RestCommSdk.Lib.Json
import RestCommSdk.Lib.Run
import RestCommSdk.Proofs.SscReplies

/-!
# `RestCommSdk.Proofs.RestartConf`: what a restart makes of the configuration

A command that configures is applied twice: to the dictionary `conf`, from which a restart
creates the stack, and to the stack that runs. The two do not follow the same rules. `conf`
keeps a value when the command gives none, and loses all of them to a `r` or a `u` without a
dictionary; the stack keeps its address in any case, and drops its registrar whenever the
command is a `u` or gives none.

`restart_reproduces_iff` says for which histories of commands the restarted stack works with
the configuration of the one before it.
-/

set_option autoImplicit false

namespace RestCommSdk.Proofs

open RestCommSdk.Lib
open RestCommSdk.CliInterface
open RestCommSdk.SipManager (NSDictionary objectForKey stringifyDictionary)

/-! ### The property -/

/-- Two stacks work with the same. `NULL` counts as empty. -/
structure SameConfiguration (a b : Configuration) : Prop where
  address : a.address.getD [] = b.address.getD []
  proxy : a.proxy.getD [] = b.proxy.getD []
  registrar : a.registrar.getD [] = b.registrar.getD []
  register : a.register = b.register

/-! ### The condition -/

section Condition
variable (jsonObject : CString → Option NSDictionary)

/-- What the rest of a command reads as. -/
def ConfCommand.args (c : ConfCommand) : Option NSDictionary := c.rest.bind jsonObject

/-- The AOR that is given. -/
def ConfCommand.aor (c : ConfCommand) : Option CString :=
  objectForKey (ConfCommand.args jsonObject c) "aor"

/-- The registrar that is given. An `addr` is not asked for one. -/
def ConfCommand.registrar (c : ConfCommand) : Option CString :=
  if c.word = .addr then none else objectForKey (ConfCommand.args jsonObject c) "registrar"

/-- A `r` or a `u` without a dictionary. -/
def ConfCommand.bare (c : ConfCommand) : Bool := c.word ≠ .addr && c.rest = none

/-- A `r` or a `u`. -/
def ConfCommand.update? (c : ConfCommand) : Option ConfCommand :=
  if c.word = .addr then none else some c

/-- The AOR is given again after it was dropped, or there was none to lose. -/
def KeepsAor (aor : CString) (commands : List ConfCommand) : Prop :=
  commands.any ConfCommand.bare →
    lastGiven (ConfCommand.aor jsonObject) (since ConfCommand.bare commands) = none →
    (lastGiven (ConfCommand.aor jsonObject) commands).getD aor = []

/-- The registrar that was given last since everything was dropped. -/
def rememberedRegistrar (registrar : CString) (commands : List ConfCommand) : CString :=
  (lastGiven (ConfCommand.registrar jsonObject) (since ConfCommand.bare commands)).getD
    (if commands.any ConfCommand.bare then [] else registrar)

/-- The last `r` or `u`, if any, is a `r` that gives a registrar, or comes without a
dictionary, or there is no registrar to remember. -/
def KeepsRegistrar (registrar : CString) (commands : List ConfCommand) : Prop :=
  ∀ c ∈ lastGiven ConfCommand.update? commands,
    c.word = .r ∧ (ConfCommand.registrar jsonObject c).isSome ∨ c.rest = none ∨
      rememberedRegistrar jsonObject registrar commands = []

end Condition

/-! ### One command -/

/-- A call that sets the registrar of the stack. -/
def isSetRegistrar : NuaCall → Bool
  | .setRegistrar _ => true
  | _ => false

/-- What of the client a configuration depends on. -/
def confView (ssc : Ssc) : Option CString × List NuaCall :=
  (ssc.address, ssc.nua.filter isSetRegistrar)

/-- The configuration does not look at the operations. -/
theorem blind_confView : BlindToOperations confView where
  operations _ _ := rfl
  media _ _ := rfl
  handle ssc _ _ := by simp [confView, Ssc.emit, isSetRegistrar]
  handleDestroy ssc _ := by simp [confView, Ssc.emit, isSetRegistrar]

/-- Another call of the stack. -/
theorem confView_emit (ssc : Ssc) {c : NuaCall} (h : isSetRegistrar c = false) :
    confView (ssc.emit c) = confView ssc := by
  simp [confView, Ssc.emit, h]

/-- The registrar is set once more. -/
theorem confView_setRegistrar (ssc : Ssc) (registrar : Option CString) :
    confView (ssc.emit (.setRegistrar registrar)) =
      ((confView ssc).1, (confView ssc).2 ++ [.setRegistrar registrar]) := by
  simp [confView, Ssc.emit, isSetRegistrar]

section Calls
variable (env : SscEnv) (alloc : Alloc)

/-- A request on the operation that was just made. -/
theorem confView_requestOn (method : SipMethod) (address password : Option CString) (ssc : Ssc)
    (request : Nat → NuaCall) (hrequest : ∀ nh, isSetRegistrar (request nh) = false) :
    confView
        (let created := sscOperCreateWithPassword env alloc method address password ssc
        match created.2.bind created.1.oper? with
        | some op => created.1.emit (request op.opHandle)
        | none => created.1) = confView ssc := by
  have hcreate := blind_confView.sscOperCreateWithPassword env alloc method address password ssc
  dsimp only
  split
  · exact (confView_emit _ (hrequest _)).trans hcreate
  · exact hcreate

/-- A registration sets the registrar that it was given. -/
theorem confView_sscRegister (registrar password : Option CString) (ssc : Ssc) :
    confView (sscRegister env alloc registrar password ssc) =
      ((confView ssc).1, (confView ssc).2 ++ [.setRegistrar (givenRegistrar registrar)]) := by
  rw [← confView_setRegistrar]
  unfold sscRegister
  dsimp only
  split
  · rfl
  · exact confView_requestOn env alloc _ _ _ _ (fun nh => .register nh registrar) fun _ => rfl

/-- An unregistration takes the registrar away. -/
theorem confView_sscUnregister (registrar password : Option CString) (ssc : Ssc) :
    confView (sscUnregister env alloc registrar password ssc) =
      ((confView ssc).1, (confView ssc).2 ++ [.setRegistrar none]) := by
  rw [← confView_setRegistrar]
  unfold sscUnregister
  dsimp only
  split
  · exact confView_emit _ rfl
  · exact confView_requestOn env alloc _ _ _ _ (fun nh => .unregister nh _) fun _ => rfl

/-- The address is the one that was given, if one was. -/
theorem confView_sscSetPublicAddress (aor : Option CString) (ssc : Ssc) :
    confView (sscSetPublicAddress aor ssc) = (aor.or (confView ssc).1, (confView ssc).2) := by
  cases aor with
  | none => rfl
  | some aor => exact confView_emit _ rfl

/-- The registrar that `r` and `u` set. -/
def registrarSet (registrar : Option CString) (unregister : Bool) : Option CString :=
  if unregister then none else givenRegistrar registrar

/-- An update does the two in a row. -/
theorem confView_sscUpdate (aor password registrar : Option CString) (unregister : Bool)
    (ssc : Ssc) :
    confView (sscUpdate env alloc aor password registrar unregister ssc) =
      (aor.or (confView ssc).1,
        (confView ssc).2 ++ [.setRegistrar (registrarSet registrar unregister)]) := by
  unfold sscUpdate registrarSet
  cases unregister with
  | true => exact (confView_sscUnregister ..).trans (by rw [confView_sscSetPublicAddress]; rfl)
  | false => exact (confView_sscRegister ..).trans (by rw [confView_sscSetPublicAddress]; rfl)

end Calls

/-- Only the calls that set the registrar count. -/
theorem foldl_setParams (calls : List NuaCall) (client : Client) :
    calls.foldl Client.setParams client =
      (calls.filter isSetRegistrar).foldl Client.setParams client := by
  induction calls generalizing client with
  | nil => rfl
  | cons c calls ih =>
    cases c with
    | setRegistrar registrar => exact ih _
    | _ => exact ih client

/-- What the stack has for proxy and registrar after one setting. -/
theorem after_of_set {client : Client} {ssc : Ssc} {registrar : Option CString}
    (h : (confView ssc).2 = [.setRegistrar registrar]) :
    client.after ssc = { client with ssc := ssc, proxy := registrar, registrar := registrar } := by
  rw [Client.after, foldl_setParams]
  exact congrArg (List.foldl Client.setParams { client with ssc := ssc }) h

/-- Without a setting the stack has what it had. -/
theorem after_of_unset {client : Client} {ssc : Ssc} (h : (confView ssc).2 = []) :
    client.after ssc = { client with ssc := ssc } := by
  rw [Client.after, foldl_setParams]
  exact congrArg (List.foldl Client.setParams { client with ssc := ssc }) h

section Commands
variable {jsonObject : CString → Option NSDictionary}

/-- What one command does to `conf` and to the stack. -/
structure Configures (jsonObject : CString → Option NSDictionary) (c : ConfCommand)
    (client client' : Client) : Prop where
  confAor : client'.cli.conf.aor =
    if ConfCommand.bare c then none else (ConfCommand.aor jsonObject c).or client.cli.conf.aor
  confRegistrar : client'.cli.conf.registrar =
    if ConfCommand.bare c then none
    else (ConfCommand.registrar jsonObject c).or client.cli.conf.registrar
  confProxy : client'.cli.conf.proxy =
    if ConfCommand.bare c then none
    else (ConfCommand.registrar jsonObject c).or client.cli.conf.proxy
  confRegister : client'.cli.conf.register =
    if c.word = .addr then client.cli.conf.register
    else some (ConfCommand.registrar jsonObject c).isSome
  address : client'.ssc.address = (ConfCommand.aor jsonObject c).or client.ssc.address
  proxy : client'.proxy =
    if c.word = .addr then client.proxy
    else registrarSet (ConfCommand.registrar jsonObject c) (c.word = .u)
  registrar : client'.registrar =
    if c.word = .addr then client.registrar
    else registrarSet (ConfCommand.registrar jsonObject c) (c.word = .u)
  register : client'.register =
    if c.word = .addr then client.register
    else (registrarSet (ConfCommand.registrar jsonObject c) (c.word = .u)).isSome

/-- A registrar is set when one is given, and none to unregister. -/
theorem registrarSet_isSome (registrar : Option CString) (unregister : Bool) :
    (registrarSet registrar unregister).isSome =
      (!unregister && (givenRegistrar registrar).isSome) := by
  cases unregister <;> rfl

/-- The calls of `r` and `u`. -/
theorem handle_update (env : SscEnv) (alloc : Alloc) {client : Client} {word : CString}
    {rest : Option CString} {conf : SofiaConf} {aor password registrar : Option CString}
    {unregister : Bool}
    (h : sofsipHandleCommand jsonObject client.cli word rest =
      ({ client.cli with conf := conf }, [.update aor password registrar unregister])) :
    ∃ ssc, ssc.address = aor.or client.ssc.address ∧
      client.handle env jsonObject alloc word rest =
        some { client with
          cli := { client.cli with conf := conf }
          ssc := ssc
          proxy := registrarSet registrar unregister
          registrar := registrarSet registrar unregister
          register := (registrarSet registrar unregister).isSome } := by
  have hview := confView_sscUpdate env alloc aor password registrar unregister
    { client.ssc with nua := [], sent := [] }
  refine ⟨_, congrArg Prod.fst hview, ?_⟩
  rw [Client.handle, h, registrarSet_isSome]
  exact congrArg some (after_of_set (congrArg Prod.snd hview))

/-- The call of `addr`. -/
theorem handle_addr (env : SscEnv) (alloc : Alloc) (client : Client) (text : CString) :
    ∃ ssc, ssc.address = (objectForKey (jsonObject text) "aor").or client.ssc.address ∧
      client.handle env jsonObject alloc "addr".toList (some text) =
        some { client with
          cli := { client.cli with conf := { client.cli.conf with
            aor := (objectForKey (jsonObject text) "aor").or client.cli.conf.aor } }
          ssc := ssc } := by
  have hview := confView_sscSetPublicAddress (objectForKey (jsonObject text) "aor")
    { client.ssc with nua := [], sent := [] }
  refine ⟨_, congrArg Prod.fst hview, ?_⟩
  exact congrArg some (after_of_unset (congrArg Prod.snd hview))

/-- A command does to the client what it does to the configuration. -/
theorem confStep_spec (env : SscEnv) (alloc : Alloc) (client : Client) (c : ConfCommand) :
    ∃ client', confStep env jsonObject client (alloc, c) = some client' ∧
      Configures jsonObject c client client' := by
  obtain ⟨word, rest⟩ := c
  cases word with
  | addr =>
    cases rest with
    -- An `addr` without a dictionary is ignored.
    | none => exact ⟨client, rfl, rfl, rfl, rfl, rfl, rfl, rfl, rfl, rfl⟩
    | some text =>
      obtain ⟨ssc, haddress, hhandle⟩ := handle_addr env alloc client text
      exact ⟨_, hhandle, rfl, rfl, rfl, rfl, haddress, rfl, rfl, rfl⟩
  | r =>
    cases rest with
    | none =>
      obtain ⟨ssc, haddress, hhandle⟩ := handle_update env alloc
        (show sofsipHandleCommand jsonObject client.cli "r".toList none = _ from rfl)
      exact ⟨_, hhandle, rfl, rfl, rfl, rfl, haddress, rfl, rfl, rfl⟩
    | some text =>
      obtain ⟨ssc, haddress, hhandle⟩ := handle_update env alloc
        (show sofsipHandleCommand jsonObject client.cli "r".toList (some text) = _ from rfl)
      exact ⟨_, hhandle, rfl, rfl, rfl, rfl, haddress, rfl, rfl, rfl⟩
  | u =>
    cases rest with
    | none =>
      obtain ⟨ssc, haddress, hhandle⟩ := handle_update env alloc
        (show sofsipHandleCommand jsonObject client.cli "u".toList none = _ from rfl)
      exact ⟨_, hhandle, rfl, rfl, rfl, rfl, haddress, rfl, rfl, rfl⟩
    | some text =>
      obtain ⟨ssc, haddress, hhandle⟩ := handle_update env alloc
        (show sofsipHandleCommand jsonObject client.cli "u".toList (some text) = _ from rfl)
      exact ⟨_, hhandle, rfl, rfl, rfl, rfl, haddress, rfl, rfl, rfl⟩

end Commands

/-! ### Histories -/

/-- The client after a registration. -/
theorem after_sscRegister (env : SscEnv) (alloc : Alloc) (client : Client)
    (registrar password : Option CString) (ssc : Ssc) (hview : (confView ssc).2 = []) :
    ∃ ssc', ssc'.address = ssc.address ∧
      client.after (sscRegister env alloc registrar password ssc) =
        { client with
          ssc := ssc'
          proxy := givenRegistrar registrar
          registrar := givenRegistrar registrar } := by
  have hregister := confView_sscRegister env alloc registrar password ssc
  rw [hview] at hregister
  exact ⟨_, congrArg Prod.fst hregister, after_of_set (congrArg Prod.snd hregister)⟩

/-- The stack that `ssc_create` makes of a `conf` whose proxy is its registrar. -/
theorem sscCreate_configuration (env : SscEnv) (alloc : Alloc) (cli : Cli)
    (hproxy : cli.conf.proxy = cli.conf.registrar) :
    (sscCreate env alloc cli).cli.conf = cli.conf ∧
      (sscCreate env alloc cli).configuration =
        { address := cli.conf.aor
          proxy := givenRegistrar cli.conf.registrar
          registrar := givenRegistrar cli.conf.registrar
          register :=
            cli.conf.register.getD false && (givenRegistrar cli.conf.registrar).isSome } := by
  unfold sscCreate
  dsimp only
  cases hregister : cli.conf.register.getD false with
  | false =>
    rw [hproxy]
    exact ⟨rfl, rfl⟩
  -- The new stack registers at once, with what it was just created with.
  | true =>
    obtain ⟨ssc, haddress, hafter⟩ := after_sscRegister env alloc
      { cli := { cli with stackIsShuttingDown := false }
        ssc := { address := cli.conf.aor }
        proxy := givenRegistrar cli.conf.proxy
        registrar := givenRegistrar cli.conf.registrar
        register := (givenRegistrar cli.conf.registrar).isSome }
      cli.conf.registrar cli.conf.password { address := cli.conf.aor } rfl
    rw [if_pos rfl, hafter]
    refine ⟨rfl, ?_⟩
    rw [Bool.true_and, Client.configuration]
    dsimp only [Ssc.send]
    rw [haddress]

/-- `conf` and the stack after a history of commands. -/
structure Remembers (jsonObject : CString → Option NSDictionary) (aor registrar : CString)
    (commands : List ConfCommand) (client : Client) : Prop where
  confAor : client.cli.conf.aor =
    (lastGiven (ConfCommand.aor jsonObject) (since ConfCommand.bare commands)).or
      (if commands.any ConfCommand.bare then none else some aor)
  confRegistrar : client.cli.conf.registrar =
    (lastGiven (ConfCommand.registrar jsonObject) (since ConfCommand.bare commands)).or
      (if commands.any ConfCommand.bare then none else some registrar)
  confProxy : client.cli.conf.proxy = client.cli.conf.registrar
  confRegister : client.cli.conf.register =
    some (((lastGiven ConfCommand.update? commands).map fun c =>
      (ConfCommand.registrar jsonObject c).isSome).getD true)
  address : client.ssc.address =
    (lastGiven (ConfCommand.aor jsonObject) commands).or (some aor)
  registrar : client.registrar =
    ((lastGiven ConfCommand.update? commands).map fun c =>
      registrarSet (ConfCommand.registrar jsonObject c) (c.word = .u)).getD
        (givenRegistrar (some registrar))
  proxy : client.proxy = client.registrar
  register : client.register = client.registrar.isSome

section Histories
variable {jsonObject : CString → Option NSDictionary} {aor registrar : CString}

/-- A client that is made remembers what it was made with. -/
theorem remembers_start (env : SscEnv) (alloc : Alloc)
    (jsonObject : CString → Option NSDictionary) (aor password registrar : CString) :
    ∃ conf, sofsipLoopConf (some aor) (some password) (some registrar) = some conf ∧
      Remembers jsonObject aor registrar [] (sscCreate env alloc { conf := conf }) := by
  -- `sofsip_loop` fills the configuration with these, and the proxy is the registrar.
  let conf : SofiaConf :=
    { aor := some aor
      password := some password
      registrar := some registrar
      proxy := some registrar
      register := some true }
  obtain ⟨hconf, hconfiguration⟩ := sscCreate_configuration env alloc { conf := conf } rfl
  refine ⟨conf, rfl, ?_⟩
  exact {
    confAor := congrArg SofiaConf.aor hconf
    confRegistrar := congrArg SofiaConf.registrar hconf
    confProxy := by rw [hconf]
    confRegister := congrArg SofiaConf.register hconf
    address := congrArg Configuration.address hconfiguration
    registrar := congrArg Configuration.registrar hconfiguration
    proxy := (congrArg Configuration.proxy hconfiguration).trans
      (congrArg Configuration.registrar hconfiguration).symm
    register := (congrArg Configuration.register hconfiguration).trans
      (congrArg Option.isSome (congrArg Configuration.registrar hconfiguration)).symm }

/-- An address alone is no update. -/
theorem lastGiven_update? (commands : List ConfCommand) (c : ConfCommand) :
    lastGiven ConfCommand.update? (commands ++ [c]) =
      if c.word = .addr then lastGiven ConfCommand.update? commands else some c := by
  rw [lastGiven_concat, ConfCommand.update?]
  split <;> rfl

/-- What a command gives comes before what was given since everything was dropped. -/
theorem remembered_concat {f : ConfCommand → Option CString} {commands : List ConfCommand}
    {c : ConfCommand} {start value : Option CString}
    (h : value = (lastGiven f (since ConfCommand.bare commands)).or
      (if commands.any ConfCommand.bare then none else start)) :
    (if ConfCommand.bare c then none else (f c).or value) =
      (lastGiven f (since ConfCommand.bare (commands ++ [c]))).or
        (if (commands ++ [c]).any ConfCommand.bare then none else start) := by
  rw [List.any_append, List.any_cons, List.any_nil, Bool.or_false]
  cases hbare : ConfCommand.bare c with
  | true =>
    rw [since_concat_of hbare, Bool.or_true]
    rfl
  | false =>
    rw [since_concat_of_not hbare, lastGiven_concat, Bool.or_false, Option.or_assoc, h]
    rfl

/-- A command is remembered. -/
theorem Remembers.step {commands : List ConfCommand} {c : ConfCommand} {client client' : Client}
    (h : Remembers jsonObject aor registrar commands client)
    (hc : Configures jsonObject c client client') :
    Remembers jsonObject aor registrar (commands ++ [c]) client' where
  confAor := hc.confAor.trans (remembered_concat h.confAor)
  confRegistrar := hc.confRegistrar.trans (remembered_concat h.confRegistrar)
  confProxy := by rw [hc.confProxy, hc.confRegistrar, h.confProxy]
  confRegister := by
    rw [hc.confRegister, h.confRegister, lastGiven_update?]
    split <;> rfl
  address := by rw [hc.address, h.address, lastGiven_concat, Option.or_assoc]
  registrar := by
    rw [hc.registrar, h.registrar, lastGiven_update?]
    split <;> rfl
  proxy := by rw [hc.proxy, hc.registrar, h.proxy]
  register := by
    rw [hc.register, hc.registrar, h.register]
    split <;> rfl

/-- Every history of commands runs through. -/
theorem remembers_run (env : SscEnv) {start : Client}
    (hstart : Remembers jsonObject aor registrar [] start)
    (commands : List (Alloc × ConfCommand)) :
    ∃ client, run (confStep env jsonObject) start commands = some client ∧
      Remembers jsonObject aor registrar (commands.map (·.2)) client := by
  induction commands using List.reverseRecOn with
  | nil => exact ⟨start, rfl, hstart⟩
  | append_singleton commands c ih =>
    obtain ⟨client, hrun, h⟩ := ih
    obtain ⟨client', hstep, hc⟩ := confStep_spec env c.1 client c.2
    refine ⟨client', ?_, ?_⟩
    · -- The run of the commands before, and one more step.
      rw [run_append, hrun]
      show (confStep env jsonObject client c).bind _ = _
      rw [hstep]
      rfl
    · rw [List.map_append]
      exact h.step hc

/-! ### The two configurations -/

/-- An empty registrar and none are the same text. -/
theorem getD_givenRegistrar (registrar : Option CString) :
    (givenRegistrar registrar).getD [] = registrar.getD [] := by
  cases registrar with
  | none => rfl
  | some registrar =>
    by_cases hempty : registrar = [] <;> simp [givenRegistrar, Option.filter, hempty]

/-- The restart keeps the address exactly when the AOR is kept. -/
theorem address_iff {commands : List ConfCommand} {client : Client}
    (h : Remembers jsonObject aor registrar commands client) :
    client.cli.conf.aor.getD [] = client.ssc.address.getD [] ↔
      KeepsAor jsonObject aor commands := by
  rw [h.confAor, h.address, KeepsAor]
  cases hsince : lastGiven (ConfCommand.aor jsonObject) (since ConfCommand.bare commands) with
  -- The AOR was given after the last loss, so both sides have it.
  | some last =>
    rw [lastGiven_of_since hsince]
    exact iff_of_true rfl fun _ => nofun
  | none =>
    cases hbare : commands.any ConfCommand.bare with
    | false =>
      rw [since_eq_self hbare] at hsince
      rw [hsince]
      exact iff_of_true rfl nofun
    | true =>
      -- `conf` has lost the AOR, and the stack still has the last one.
      simp only [if_true, Option.or_none, Option.getD_none, forall_const]
      rw [eq_comm]
      cases lastGiven (ConfCommand.aor jsonObject) commands <;> rfl

/-- The registrar that is remembered after one more command. -/
theorem rememberedRegistrar_concat (commands : List ConfCommand) (c : ConfCommand) :
    rememberedRegistrar jsonObject registrar (commands ++ [c]) =
      if ConfCommand.bare c then []
      else (ConfCommand.registrar jsonObject c).getD
        (rememberedRegistrar jsonObject registrar commands) := by
  unfold rememberedRegistrar
  rw [List.any_append, List.any_cons, List.any_nil, Bool.or_false]
  cases hbare : ConfCommand.bare c with
  | true =>
    rw [since_concat_of hbare, Bool.or_true]
    rfl
  | false =>
    rw [since_concat_of_not hbare, lastGiven_concat, Bool.or_false]
    cases ConfCommand.registrar jsonObject c <;> rfl

/-- What is remembered after the last `r` or `u`. The commands after it are all `addr`. -/
theorem remembered_lastUpdate (jsonObject : CString → Option NSDictionary) (registrar : CString)
    (commands : List ConfCommand) :
    (lastGiven ConfCommand.update? commands = none →
      rememberedRegistrar jsonObject registrar commands = registrar) ∧
    ∀ c ∈ lastGiven ConfCommand.update? commands, c.word ≠ .addr ∧
      (c.rest = none → rememberedRegistrar jsonObject registrar commands = []) ∧
      ∀ given ∈ ConfCommand.registrar jsonObject c,
        rememberedRegistrar jsonObject registrar commands = given := by
  induction commands using List.reverseRecOn with
  | nil => exact ⟨fun _ => rfl, nofun⟩
  | append_singleton commands c ih =>
    rw [rememberedRegistrar_concat, lastGiven_update?]
    -- An `addr` gives no registrar and drops none.
    by_cases hword : c.word = .addr
    · have hbare : ConfCommand.bare c = false := by simp [ConfCommand.bare, hword]
      have hnone : ConfCommand.registrar jsonObject c = none := if_pos hword
      rw [if_pos hword, hbare, hnone]
      exact ih
    · rw [if_neg hword]
      refine ⟨nofun, fun d hd => ?_⟩
      cases hd
      refine ⟨hword, fun hrest => ?_, fun given hgiven => ?_⟩
      · have hbare : ConfCommand.bare c = true := by simp [ConfCommand.bare, hword, hrest]
        rw [if_pos hbare]
      · have hrest : c.rest ≠ none := fun hrest => by
          rw [ConfCommand.registrar, if_neg hword, ConfCommand.args, hrest] at hgiven
          cases hgiven
        have hbare : ConfCommand.bare c = false := by simp [ConfCommand.bare, hrest]
        have hgiven : ConfCommand.registrar jsonObject c = some given := hgiven
        rw [hbare, hgiven]
        rfl

/-- The configuration has the registrar that is remembered. -/
theorem getD_confRegistrar {commands : List ConfCommand} {client : Client}
    (h : Remembers jsonObject aor registrar commands client) :
    client.cli.conf.registrar.getD [] = rememberedRegistrar jsonObject registrar commands := by
  rw [h.confRegistrar, rememberedRegistrar]
  cases lastGiven (ConfCommand.registrar jsonObject) (since ConfCommand.bare commands) with
  | some given => rfl
  | none => cases commands.any ConfCommand.bare <;> rfl

/-- The restart keeps the registrar exactly under the condition on it. -/
theorem registrar_iff {commands : List ConfCommand} {client : Client}
    (h : Remembers jsonObject aor registrar commands client) :
    client.cli.conf.registrar.getD [] = client.registrar.getD [] ↔
      KeepsRegistrar jsonObject registrar commands := by
  obtain ⟨hstart, hlast⟩ := remembered_lastUpdate jsonObject registrar commands
  rw [getD_confRegistrar h, h.registrar, KeepsRegistrar]
  cases hupdate : lastGiven ConfCommand.update? commands with
  | none =>
    rw [hstart hupdate]
    exact iff_of_true (getD_givenRegistrar (some registrar)).symm nofun
  | some c =>
    obtain ⟨hword, hbare, hgiven⟩ := hlast c hupdate
    have hdrops : (c.rest = none ∨ rememberedRegistrar jsonObject registrar commands = []) ↔
        rememberedRegistrar jsonObject registrar commands = [] :=
      or_iff_right_of_imp hbare
    simp only [Option.mem_def, Option.some.injEq, forall_eq', hdrops, Option.map_some,
      Option.getD_some]
    cases hkind : c.word with
    | addr => exact absurd hkind hword
    -- The stack has no registrar after a `u`, whatever is remembered.
    | u => simp [registrarSet]
    | r =>
      have hset : registrarSet (ConfCommand.registrar jsonObject c) false =
        givenRegistrar (ConfCommand.registrar jsonObject c) := rfl
      simp only [reduceCtorEq, decide_false, hset, getD_givenRegistrar, true_and]
      cases hregistrar : ConfCommand.registrar jsonObject c with
      | none => simp
      | some given => exact iff_of_true (hgiven given hregistrar) (.inl rfl)

/-- A registrar that is given is not empty. -/
theorem isSome_givenRegistrar (registrar : Option CString) :
    (givenRegistrar registrar).isSome = decide (registrar.getD [] ≠ []) := by
  cases registrar with
  | none => rfl
  | some registrar =>
    by_cases hempty : registrar = [] <;> simp [givenRegistrar, Option.filter, hempty]

/-- The stack has a registrar unless it is empty. -/
theorem isSome_registrar {commands : List ConfCommand} {client : Client}
    (h : Remembers jsonObject aor registrar commands client) :
    client.registrar.isSome = decide (client.registrar.getD [] ≠ []) := by
  rw [h.registrar]
  cases lastGiven ConfCommand.update? commands with
  | none => exact (isSome_givenRegistrar _).trans (by rw [← getD_givenRegistrar]; rfl)
  | some c =>
    rw [Option.map_some, Option.getD_some, registrarSet]
    split
    · rfl
    · rw [isSome_givenRegistrar, getD_givenRegistrar]

/-- While the registrar is kept, a restart registers exactly when the stack was last asked to
register. -/
theorem register_of_keepsRegistrar {commands : List ConfCommand} {client : Client}
    (h : Remembers jsonObject aor registrar commands client)
    (hkeeps : KeepsRegistrar jsonObject registrar commands) :
    (client.cli.conf.register.getD false && (givenRegistrar client.cli.conf.registrar).isSome) =
      client.register := by
  rw [h.register, isSome_registrar h, ← (registrar_iff h).mpr hkeeps, isSome_givenRegistrar,
    h.confRegister, getD_confRegistrar h, Option.getD_some]
  by_cases hempty : rememberedRegistrar jsonObject registrar commands = []
  · simp [hempty]
  · -- There is a registrar to remember, so the last `r` or `u`, if any, is a `r` that gives it.
    have hasked : ((lastGiven ConfCommand.update? commands).map fun c =>
        (ConfCommand.registrar jsonObject c).isSome).getD true = true := by
      cases hupdate : lastGiven ConfCommand.update? commands with
      | none => rfl
      | some c =>
        have hbare := ((remembered_lastUpdate jsonObject registrar commands).2 c hupdate).2.1
        rcases hkeeps c hupdate with ⟨-, hgiven⟩ | hrest | hnone
        · exact hgiven
        · exact absurd (hbare hrest) hempty
        · exact absurd hnone hempty
    rw [hasked, Bool.true_and]

/-! ### Runs -/

/-- Let the loop be called with any texts, and let any `addr`, `r` and `u` follow. The stack
that a `qr` then makes works with the configuration of the stack before it exactly when the
AOR and the registrar are kept. -/
theorem restart_reproduces_iff (env : SscEnv) (jsonObject : CString → Option NSDictionary)
    (alloc alloc' : Alloc) (aor password registrar : CString)
    (commands : List (Alloc × ConfCommand)) :
    ∃ conf client,
      sofsipLoopConf (some aor) (some password) (some registrar) = some conf ∧
      run (confStep env jsonObject) (sscCreate env alloc { conf := conf }) commands =
        some client ∧
      (SameConfiguration (restart env jsonObject alloc' client).configuration
          client.configuration ↔
        KeepsAor jsonObject aor (commands.map (·.2)) ∧
          KeepsRegistrar jsonObject registrar (commands.map (·.2))) := by
  obtain ⟨conf, hconf, hstart⟩ := remembers_start env alloc jsonObject aor password registrar
  obtain ⟨client, hrun, h⟩ := remembers_run env hstart commands
  refine ⟨conf, client, hconf, hrun, ?_⟩
  -- The restarted client reads the configuration that is kept beside the stack.
  have hrestart : (restart env jsonObject alloc' client).configuration =
      { address := client.cli.conf.aor
        proxy := givenRegistrar client.cli.conf.registrar
        registrar := givenRegistrar client.cli.conf.registrar
        register := client.cli.conf.register.getD false &&
          (givenRegistrar client.cli.conf.registrar).isSome } :=
    (sscCreate_configuration env alloc' { client.cli with restartSignalling := false }
      h.confProxy).2
  rw [hrestart]
  constructor
  · -- The address and the registrar are set apart, so both have to be kept.
    rintro ⟨haddress, -, hregistrar, -⟩
    refine ⟨(address_iff h).mp haddress, (registrar_iff h).mp ?_⟩
    exact (getD_givenRegistrar _).symm.trans hregistrar
  · -- The proxy follows the registrar, before and after.
    rintro ⟨haor, hregistrar⟩
    have hsame := (getD_givenRegistrar _).trans ((registrar_iff h).mpr hregistrar)
    refine ⟨(address_iff h).mpr haor, ?_, hsame, register_of_keepsRegistrar h hregistrar⟩
    exact hsame.trans (congrArg (Option.getD · []) h.proxy.symm)

end Histories

/-- What the App pipes to unregister: the old password and nothing else. -/
def unregisterLine : ConfCommand :=
  ⟨.u, some (stringifyDictionary [("password".toList, "x".toList)])⟩

/-- The stack was told to work without a registrar. A restart gives it back the one that it
was created with, and it works through it again. -/
theorem restart_forgets_unregister :
    ∃ conf client, sofsipLoopConf (some "sip:a@h".toList) (some "x".toList)
        (some "sip:h".toList) = some conf ∧
      run (confStep plainEnv Json.read) (sscCreate plainEnv ⟨1, 1⟩ { conf := conf })
        [(⟨2, 2⟩, unregisterLine)] = some client ∧
      client.configuration.proxy = none ∧
      (restart plainEnv Json.read ⟨3, 3⟩ client).configuration.proxy = some "sip:h".toList ∧
      ¬ SameConfiguration (restart plainEnv Json.read ⟨3, 3⟩ client).configuration
          client.configuration := by
  refine ⟨_, _, rfl, rfl, rfl, rfl, fun hsame => ?_⟩
  have hproxy := hsame.proxy
  exact absurd hproxy (by decide)

end RestCommSdk.Proofs
