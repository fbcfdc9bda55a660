import RestCommSdk.Lib.Resources
import RestCommSdk.Proofs.UpdateCalls

/-!
# `RestCommSdk.Proofs.UpdateReports`: which registrations an update reports

`callsReport_iff` of `UpdateCalls.lean` says when the returned state of `updateParams:` tells the
truth, if the commands get through the pipe. A `$` in a text of theirs cuts them: a register command
that is cut registers nothing (`sendsRegister_outputs`), and an update that says so all the same is
false, while one that does not is true. `reports_iff` puts the two together.
-/

set_option autoImplicit false

namespace RestCommSdk.Proofs

open RestCommSdk.Lib
open RestCommSdk.CliInterface
open RestCommSdk.SipManager

/-- The update returns, and whatever batches the bytes of its commands are read in, and whatever the
allocator decides for the calls that they lead to, it is truthful. -/
def Reports (jsonObject : CString → Option NSDictionary) (env : SscEnv) (ssc : Ssc)
    (stored : Params) (params : Option Params) (deviceIsOnline networkIsOnline : Bool) : Prop :=
  ∃ commands state after,
    updateParams stored params deviceIsOnline networkIsOnline = some (commands, state, after) ∧
      ∀ cli (batches : List (List Command)) calls inputs, batches.flatten = commands →
        (∀ b ∈ batches, b ≠ []) →
        sofiaCalls jsonObject cli (batches.map commandBytes) = some calls →
        inputs.map (·.2) = calls.map (SscInput.call · []) →
        Guarded (sscMachine env) (fun ssc input => input.1.Fresh ssc) ssc inputs →
        Truthful stored params deviceIsOnline networkIsOnline state
          (outputs (sscMachine env) (·.nua) ssc inputs)

/-- The condition on an update. Without new parameters, the stored registrar has to be empty, the
address of the stack invalid, or the command cut. Otherwise it depends on the registrar that is
given, and nothing that a registration needs is cut. -/
def Reportable (env : SscEnv) (ssc : Ssc) (stored : Params) (params : Option Params)
    (deviceIsOnline networkIsOnline : Bool) : Prop :=
  match params with
  | none => stored.password.isSome ∧
      ¬ (stored.registrar ≠ some [] ∧ creates env ssc ssc.address ∧
        ∀ text ∈ convert2FullDomain stored stored.registrar :: stored.password.toList,
          '$' ∉ text)
  | some params =>
    (unregisters stored params deviceIsOnline → stored.password.isSome) ∧
      match params.registrar with
      | none => secureChanged stored params = false
      | some [] =>
        secureChanged stored params →
          stored.registrar ≠ some [] ∧ deviceIsOnline = false ∧ networkIsOnline = true
      | some registrar =>
        let settings := overridden stored params
        let aor := convert2FullURI settings (params.aor.getD []) (some registrar)
        (params.aor.isSome ∨ stored.aor = some []) ∧ env.validAddress aor ∧
          (∀ text ∈ [aor, convert2FullDomain settings (some registrar), params.password.getD []],
            '$' ∉ text) ∧
          (unregisters stored params deviceIsOnline → ∀ password ∈ stored.password,
            '$' ∉ password)

/-! ### Runs of calls -/

section Runs
variable {env : SscEnv} {ssc ssc' : Ssc}

/-- A step had room for an operation. -/
theorem fresh_of_sscMachine {input : Alloc × SscInput} (h : sscMachine env ssc input = some ssc') :
    input.1.Fresh ssc := by
  unfold sscMachine sscStep at h
  dsimp only at h
  split at h
  · assumption
  · cases h

/-- The inputs of a run had room for an operation. -/
theorem guarded_of_run {inputs : List (Alloc × SscInput)}
    (h : run (sscMachine env) ssc inputs = some ssc') :
    Guarded (sscMachine env) (fun ssc input => input.1.Fresh ssc) ssc inputs := by
  induction inputs generalizing ssc with
  | nil => trivial
  | cons input inputs ih =>
    obtain ⟨ssc₁, hstep, hrest⟩ := Option.bind_eq_some_iff.mp h
    refine ⟨fresh_of_sscMachine hstep, fun ssc₂ hstep' => ?_⟩
    rw [Option.some.inj (hstep'.symm.trans hstep)]
    exact ih hrest

/-- What an input of successive calls is. -/
theorem exists_call_of_mem {calls : List SscCall} {inputs : List (Alloc × SscInput)}
    (hinputs : inputs.map (·.2) = calls.map (SscInput.call · [])) {input : Alloc × SscInput}
    (h : input ∈ inputs) : ∃ call ∈ calls, input.2 = .call call [] := by
  have hmem := List.mem_map_of_mem (f := (·.2)) h
  rw [hinputs] at hmem
  obtain ⟨call, hcall, heq⟩ := List.mem_map.mp hmem
  exact ⟨call, hcall, heq.symm⟩

/-- The calls that read nothing that is missing go through. -/
theorem run_of_guarded {calls : List SscCall} {inputs : List (Alloc × SscInput)}
    (hinputs : inputs.map (·.2) = calls.map (SscInput.call · []))
    (hcalls : ∀ call ∈ calls, ∀ alloc ssc, (sscCall env alloc [] ssc call).isSome)
    (h : Guarded (sscMachine env) (fun ssc input => input.1.Fresh ssc) ssc inputs) :
    ∃ ssc', run (sscMachine env) ssc inputs = some ssc' := by
  induction inputs generalizing ssc calls with
  | nil => exact ⟨ssc, rfl⟩
  | cons input inputs ih =>
    -- There is a call for each input.
    obtain ⟨call, calls, rfl⟩ : ∃ call rest, calls = call :: rest := by
      cases calls with
      | nil => cases hinputs
      | cons call calls => exact ⟨call, calls, rfl⟩
    obtain ⟨hinput, hinputs⟩ := List.cons.inj hinputs
    obtain ⟨hcall, hcalls⟩ := List.forall_mem_cons.mp hcalls
    obtain ⟨ssc₁, hssc₁⟩ := Option.isSome_iff_exists.mp
      -- A complete call steps from any state, with a fresh handle.
      (hcall input.1 { ssc with nua := [], sent := [] })
    have hfresh : input.1.Fresh { ssc with nua := [], sent := [] } := h.1
    have hinput : input.2 = .call call [] := hinput
    have hstep : sscMachine env ssc input = some ssc₁ := by
      simp only [sscMachine, hinput, sscStep, if_pos hfresh, hssc₁]
    obtain ⟨ssc', hrun⟩ := ih hinputs hcalls (h.2 ssc₁ hstep)
    exact ⟨ssc', by rw [run, hstep, Option.bind_some, hrun]⟩

/-- There is always room for the calls. -/
theorem exists_guarded (env : SscEnv) (calls : List SscCall) (ssc : Ssc) :
    ∃ inputs, inputs.map (·.2) = calls.map (SscInput.call · []) ∧
      Guarded (sscMachine env) (fun ssc input => input.1.Fresh ssc) ssc inputs := by
  induction calls generalizing ssc with
  | nil => exact ⟨[], rfl, trivial⟩
  | cons call calls ih =>
    obtain ⟨alloc, hfresh⟩ := exists_fresh ssc
    -- If the client ends in the call, there is no state for the others to start from.
    obtain ⟨inputs, hinputs, hguarded⟩ :=
      ih ((sscMachine env ssc (alloc, .call call [])).getD ssc)
    refine ⟨(alloc, .call call []) :: inputs, by simp [hinputs], hfresh, fun ssc' hstep => ?_⟩
    rwa [hstep] at hguarded

/-- Calls that do not ask for a REGISTER send none. -/
theorem not_sendsRegister_outputs {inputs : List (Alloc × SscInput)}
    (h : ∀ input ∈ inputs, ∃ call, input.2 = .call call [] ∧ asksRegister call = false) :
    ¬ SendsRegister (outputs (sscMachine env) (·.nua) ssc inputs) := by
  induction inputs generalizing ssc with
  | nil => simp [SendsRegister, outputs]
  | cons input inputs ih =>
    obtain ⟨⟨call, hcall, hasks⟩, hrest⟩ := List.forall_mem_cons.mp h
    rw [outputs]
    cases hstep : sscMachine env ssc input with
    -- The machine stops here, and nothing more is sent.
    | none => simp [SendsRegister]
    | some ssc₁ =>
      dsimp only
      rw [sendsRegister_append, not_or]
      refine ⟨?_, ih hrest⟩
      -- One step of another kind sends no registration.
      have hfresh : input.1.Fresh { ssc with nua := [], sent := [] } := fresh_of_sscMachine hstep
      rw [sscMachine, hcall] at hstep
      have hcalled : sscCall env input.1 [] { ssc with nua := [], sent := [] } call = some ssc₁ :=
        sscCall_of_step hstep
      rw [sendsRegister_of_not_asks hfresh hasks hcalled]
      simp [SendsRegister]

end Runs

/-! ### Commands that get through, and commands that are cut -/

/-- What an update sends: an unregister, a register or an address command. -/
def isUpdateCommand : Command → Bool
  | .unregister _ | .register .. | .address _ => true
  | _ => false

/-- The text of the command holds no `$`. -/
def Whole (c : Command) : Prop := ∀ f ∈ fields c, '$' ∉ f

/-- A command arrives whole if its line has no `$`. -/
theorem whole_iff (c : Command) : Whole c ↔ '$' ∉ c.text := by
  rw [dollar_mem_text, Whole]
  simp

section Commands
variable {stored : Params} {deviceIsOnline networkIsOnline : Bool}

/-- An update pipes commands of updates. -/
theorem isUpdateCommand_of_mem {params : Option Params} {commands : List Command}
    {state : UpdateParamsState} {after : Params}
    (hupdate : updateParams stored params deviceIsOnline networkIsOnline
      = some (commands, state, after)) : ∀ c ∈ commands, isUpdateCommand c = true := by
  cases params with
  -- The nil branch writes one `r` line.
  | none =>
    obtain ⟨password, -, hupdate⟩ := Option.bind_eq_some_iff.mp hupdate
    cases hupdate
    simp [isUpdateCommand]
  | some params =>
    rw [updateParams_eq] at hupdate
    obtain ⟨unregister, hunregister, hupdate⟩ := Option.map_eq_some_iff.mp hupdate
    cases hupdate
    intro c hc
    simp only [List.mem_append, Option.mem_toList] at hc
    -- `u`, `r` and `addr`, in the order they are written.
    rcases hc with (hc | hc) | hc
    · obtain ⟨password, rfl⟩ := eq_unregister_of_mem hunregister c hc
      rfl
    · rcases registerCommand_cases stored params with ⟨-, hnone⟩ | ⟨-, s, hsome⟩
      · rw [hnone] at hc
        cases hc
      · rw [hsome] at hc
        cases hc
        rfl
    · obtain ⟨aor, rfl⟩ := eq_address_of_mem c hc
      rfl

/-- These have arguments. -/
theorem isSome_args {c : Command} (h : isUpdateCommand c = true) : c.args.isSome := by
  cases c with
  | unregister | register | address => rfl
  | _ => cases h

/-- The calls of an update read nothing that may be missing. -/
theorem sscCall_isSome_of_isUpdateCommand {env : SscEnv} {c : Command}
    (h : isUpdateCommand c = true) : ∀ call ∈ sscCalls c, ∀ alloc ssc,
      (sscCall env alloc [] ssc call).isSome := by
  intro call hcall alloc ssc
  cases c with
  | unregister | register | address =>
    obtain rfl := List.mem_singleton.mp hcall
    rfl
  | _ => cases h

end Commands

section Pipe
variable {jsonObject : CString → Option NSDictionary} {env : SscEnv} {ssc : Ssc}
  {stored : Params} {params : Option Params} {deviceIsOnline networkIsOnline : Bool}
  {commands : List Command} {state : UpdateParamsState} {after : Params}
  (hread : ∀ d, jsonObject (stringifyDictionary d) = some d)
  (htruncated : ∀ d p q, p ++ q = stringifyDictionary d → q ≠ [] → jsonObject p = none)
  (hmember : ∀ text d, jsonObject text = some d → d ≠ [] → Json.OpensMember text)
  (hupdate : updateParams stored params deviceIsOnline networkIsOnline
    = some (commands, state, after))

/-- Commands one by one are batches of their own. -/
theorem singletons_flatten (commands : List Command) :
    (commands.map fun c => [c]).flatten = commands ∧ ∀ b ∈ commands.map fun c => [c], b ≠ [] := by
  constructor
  · induction commands with
    | nil => rfl
    | cons c commands ih => rw [List.map_cons, List.flatten_cons, ih, List.singleton_append]
  · simp

section Through
include hread htruncated hupdate

/-- Without a `$` the client gets the calls that the commands ask for. -/
theorem reports_of_whole (hwhole : ∀ c ∈ commands, Whole c) :
    Reports jsonObject env ssc stored params deviceIsOnline networkIsOnline ↔
      CallsReport env ssc stored params deviceIsOnline networkIsOnline := by
  have hkind := isUpdateCommand_of_mem hupdate
  -- Lines without `$` come out of the pipe as they went in, however they were read.
  have hthrough : ∀ (cli : Cli) (batches : List (List Command)), batches.flatten = commands →
      (∀ b ∈ batches, b ≠ []) → sofiaCalls jsonObject cli (batches.map commandBytes)
        = some (commands.flatMap sscCalls) := fun cli batches hflat hne => by
    rw [← hflat]
    refine (sofiaCalls_iff hread htruncated cli hne).mpr fun c hc => hwhole c ?_
    rwa [← hflat]
  constructor
  · rintro ⟨commands', state', after', heq, htruthful⟩
    rw [hupdate] at heq
    cases heq
    refine ⟨_, _, _, hupdate, fun inputs ssc' hinputs hrun => ?_⟩
    -- One batch for each line is a way to read them.
    obtain ⟨hflat, hne⟩ := singletons_flatten commands
    exact htruthful {} _ _ inputs hflat hne (hthrough {} _ hflat hne) hinputs (guarded_of_run hrun)
  · rintro ⟨commands', state', after', heq, htruthful⟩
    rw [hupdate] at heq
    cases heq
    -- Any other way reads the same calls.
    refine ⟨_, _, _, hupdate, fun cli batches calls inputs hflat hne hcalls hinputs hguarded => ?_⟩
    rw [hthrough cli batches hflat hne, Option.some.injEq] at hcalls
    subst hcalls
    obtain ⟨ssc', hrun⟩ := run_of_guarded hinputs (fun call hcall => by
      obtain ⟨c, hc, hcall⟩ := List.mem_flatMap.mp hcall
      exact sscCall_isSome_of_isUpdateCommand (hkind c hc) call hcall) hguarded
    exact htruthful inputs ssc' hinputs hrun

end Through

section Cut
variable (hsilent : ∀ c ∈ commands, Whole c → ∀ call ∈ sscCalls c, asksRegister call = false)
include hread htruncated hmember hupdate hsilent

/-- When no whole command asks for a registration, nothing is registered. -/
theorem not_sendsRegister_of_silent {cli : Cli} {batches : List (List Command)}
    {calls : List SscCall} {inputs : List (Alloc × SscInput)} (hflat : batches.flatten = commands)
    (hcalls : sofiaCalls jsonObject cli (batches.map commandBytes) = some calls)
    (hinputs : inputs.map (·.2) = calls.map (SscInput.call · [])) :
    ¬ SendsRegister (outputs (sscMachine env) (·.nua) ssc inputs) := by
  have hkind := isUpdateCommand_of_mem hupdate
  refine not_sendsRegister_outputs fun input hinput => ?_
  obtain ⟨call, hcall, heq⟩ := exists_call_of_mem hinputs hinput
  refine ⟨call, heq, ?_⟩
  by_contra hasks
  have hargs : ∀ c ∈ batches.flatten, c.args.isSome := fun c hc =>
    isSome_args (hkind c (hflat ▸ hc))
  obtain ⟨c, hc, hdollar, hmem⟩ := mem_sscCalls_of_asksRegister hread htruncated hmember hargs
    hcalls hcall (by simpa using hasks)
  exact hasks (hsilent c (hflat ▸ hc) ((whole_iff c).mpr hdollar) call hmem)

/-- An update that does not say that it has registered is right about it. -/
theorem reports_of_silent (hstate : state ≠ .sentRegister) :
    Reports jsonObject env ssc stored params deviceIsOnline networkIsOnline := by
  refine ⟨_, _, _, hupdate, fun cli batches calls inputs hflat _ hcalls hinputs _ => ?_⟩
  have hnone : ¬ SendsRegister (outputs (sscMachine env) (·.nua) ssc inputs) :=
    not_sendsRegister_of_silent hread htruncated hmember hupdate hsilent hflat hcalls hinputs
  exact truthful_of_reported hupdate (by simp [hstate, hnone]) fun nh r hmem =>
    absurd ⟨nh, r, hmem⟩ hnone

/-- An update that says that it has registered is wrong. -/
theorem not_reports_of_silent (hstate : state = .sentRegister) :
    ¬ Reports jsonObject env ssc stored params deviceIsOnline networkIsOnline := by
  rintro ⟨commands', state', after', heq, htruthful⟩
  rw [hupdate] at heq
  cases heq
  obtain ⟨hflat, hne⟩ := singletons_flatten commands
  have hreads : ∀ bytes ∈ (commands.map fun c => [c]).map commandBytes, '$' ∈ bytes := by
    simp [commandBytes_cons]
  have hcalls : sofiaCalls jsonObject {} ((commands.map fun c => [c]).map commandBytes) = some _ :=
    congrArg _ (sscInputReads_eq_some.mpr ⟨hreads, rfl⟩)
  obtain ⟨inputs, hinputs, hguarded⟩ := exists_guarded env _ ssc
  exact not_sendsRegister_of_silent hread htruncated hmember hupdate hsilent hflat hcalls hinputs
    ((htruthful {} _ _ inputs hflat hne hcalls hinputs hguarded).reported.mp hstate)

end Cut

end Pipe

/-! ### The condition -/

section Condition
variable {env : SscEnv} {ssc : Ssc} {stored params : Params}
  {deviceIsOnline networkIsOnline : Bool}

/-- The register command at a registrar that is named. -/
theorem registerCommand_of_some {registrar : CString}
    (hregistrar : params.registrar = some registrar) (hne : registrar ≠ []) :
    registerCommand stored params = some (.register
      (some (convert2FullURI (overridden stored params) (params.aor.getD []) (some registrar)))
      (convert2FullDomain (overridden stored params) (some registrar))
      (params.password.getD [])) := by
  have hnames : params.registrar.any (· ≠ []) = true := by simp [hregistrar, hne]
  have huri :
      convert2FullURI (secured stored params) = convert2FullURI (overridden stored params) :=
    convert2FullURI_secure (secure_secured stored params)
  rw [registerCommand, if_pos hnames]
  simp only [registerWith, hregistrar, huri, convert2FullDomain, withScheme, secure_secured]

/-- The condition at a registrar that is named is that on the calls, and that nothing is cut. -/
theorem reportable_of_some {registrar : CString} (hregistrar : params.registrar = some registrar)
    (hne : registrar ≠ []) :
    Reportable env ssc stored (some params) deviceIsOnline networkIsOnline ↔
      CallsReportable env ssc stored (some params) deviceIsOnline networkIsOnline ∧
        (∀ c ∈ registerCommand stored params, Whole c) ∧
        (unregisters stored params deviceIsOnline → ∀ password ∈ stored.password,
          '$' ∉ password) := by
  have hwhole : (∀ c ∈ registerCommand stored params, Whole c) ↔
      ∀ text ∈ [convert2FullURI (overridden stored params) (params.aor.getD []) (some registrar),
        convert2FullDomain (overridden stored params) (some registrar),
        params.password.getD []], '$' ∉ text := by
    rw [registerCommand_of_some hregistrar hne]
    simp only [Option.mem_def, Option.some.injEq, forall_eq', Whole, fields, Option.toList_some,
      List.forall_mem_cons, List.not_mem_nil, false_implies, implies_true, and_true]
    tauto
  rw [hwhole]
  obtain ⟨c, cs, rfl⟩ := List.exists_cons_of_ne_nil hne
  simp only [Reportable, CallsReportable, hregistrar, and_assoc]

/-- An update that says that it has registered, and may: none of its commands is cut. -/
theorem whole_of_reportable
    (hstate : updateState stored params deviceIsOnline networkIsOnline = .sentRegister)
    (h : Reportable env ssc stored (some params) deviceIsOnline networkIsOnline)
    {unregister : Option Command}
    (hcommand : unregisterCommand stored params deviceIsOnline = some unregister) :
    ∀ c ∈ unregister.toList ++ (registerCommand stored params).toList ++
      (addressCommand stored params).toList, Whole c := by
  have hreportable := h
  obtain ⟨-, h⟩ := h
  have hregisters : registers stored params = true := by
    unfold updateState at hstate
    split_ifs at hstate
    assumption
  have haddress : addressCommand stored params = none := by rw [addressCommand, if_pos hregisters]
  cases hregistrar : params.registrar with
  | none =>
    -- Only a change of the security registers then, and the condition forbids it.
    simp only [hregistrar] at h
    simp [registers, hregistrar, h] at hregisters
  | some registrar =>
    by_cases hempty : registrar = []
    · subst hempty
      simp only [hregistrar] at h
      have hchanged : secureChanged stored params = true := by
        simpa [registers, hregistrar] using hregisters
      obtain ⟨hstored, hdevice, hnetwork⟩ := h hchanged
      have hre := (updateState_eq_reestablished stored params deviceIsOnline networkIsOnline).mpr
        ⟨hregistrar, hstored, hdevice, hnetwork⟩
      rw [hstate] at hre
      cases hre
    · obtain ⟨-, hregister, hpassword⟩ := (reportable_of_some hregistrar hempty).mp hreportable
      intro c hc
      rw [haddress] at hc
      simp only [List.mem_append, Option.mem_toList] at hc
      rcases hc with (hc | hc) | hc
      · unfold unregisterCommand at hcommand
        split at hcommand
        · obtain ⟨password, hstored, rfl⟩ := Option.map_eq_some_iff.mp hcommand
          cases hc
          intro f hf
          obtain rfl := List.mem_singleton.mp hf
          exact hpassword ‹_› _ hstored
        · cases hcommand
          cases hc
      · exact hregister c hc
      · cases hc

/-- An update that does not say that it has registered is under no condition but that about the
stored password. -/
theorem reportable_of_not_sent
    (hstate : updateState stored params deviceIsOnline networkIsOnline ≠ .sentRegister)
    (hreturns : unregisters stored params deviceIsOnline → stored.password.isSome) :
    Reportable env ssc stored (some params) deviceIsOnline networkIsOnline := by
  refine ⟨hreturns, ?_⟩
  -- A registration that is not reported as sent is one without a registrar.
  have hsent : registers stored params = true →
      updateState stored params deviceIsOnline networkIsOnline = .reestablishedRegistrarless := by
    intro hregisters
    unfold updateState at hstate ⊢
    split_ifs at hstate ⊢ with hre
    · rfl
    · exact absurd rfl hstate
  split
  · -- The registrar is neither given nor stored, so only securing it could register.
    rename_i hregistrar
    by_contra hchanged
    have hchanged : secureChanged stored params = true := by simpa using hchanged
    have hre := hsent (by simpa [registers] using .inl hchanged)
    rw [updateState_eq_reestablished, hregistrar] at hre
    cases hre.1
  · intro hchanged
    exact ((updateState_eq_reestablished _ _ _ _).mp (hsent (by simp [registers, hchanged]))).2
  · -- A registrar was given, and it is not empty: it would have been reported as sent.
    rename_i registrar hempty hregistrar
    have hre := hsent (by simpa [registers, hregistrar] using .inr hempty)
    rw [updateState_eq_reestablished, hregistrar] at hre
    exact absurd hre.1 (by simpa using hempty)

/-- Without a cut the condition is that on the calls. -/
theorem reportable_iff_of_whole {unregister : Option Command}
    (hcommand : unregisterCommand stored params deviceIsOnline = some unregister)
    (hwhole : ∀ c ∈ unregister.toList ++ (registerCommand stored params).toList ++
      (addressCommand stored params).toList, Whole c) :
    Reportable env ssc stored (some params) deviceIsOnline networkIsOnline ↔
      CallsReportable env ssc stored (some params) deviceIsOnline networkIsOnline := by
  cases hregistrar : params.registrar with
  | none => simp only [Reportable, CallsReportable, hregistrar]
  -- Only a registrar that is given and not empty asks for whole lines.
  | some registrar =>
    by_cases hempty : registrar = []
    · subst hempty
      simp only [Reportable, CallsReportable, hregistrar]
    · rw [reportable_of_some hregistrar hempty]
      refine and_iff_left ⟨fun c hc => hwhole c (List.mem_append_left _
        (List.mem_append_right _ (Option.mem_toList.mpr hc))), fun hunregisters password hp => ?_⟩
      -- The `u` line carries the stored password.
      rw [unregisterCommand, if_pos hunregisters] at hcommand
      obtain ⟨password', hp', rfl⟩ := Option.map_eq_some_iff.mp hcommand
      rw [Option.mem_def.mp hp, Option.some.injEq] at hp'
      subst hp'
      exact hwhole (.unregister password) (by simp) password List.mem_cons_self

/-- An update that does not say that it has registered asks for no registration. -/
theorem silent_of_not_sent
    (hstate : updateState stored params deviceIsOnline networkIsOnline ≠ .sentRegister)
    {unregister : Option Command}
    (hcommand : unregisterCommand stored params deviceIsOnline = some unregister) :
    ∀ c ∈ unregister.toList ++ (registerCommand stored params).toList ++
      (addressCommand stored params).toList, ∀ call ∈ sscCalls c, asksRegister call = false := by
  intro c hc call hcall
  simp only [List.mem_append, Option.mem_toList] at hc
  rcases hc with (hc | hc) | hc
  · obtain ⟨password, rfl⟩ := eq_unregister_of_mem hcommand c hc
    rw [List.mem_singleton.mp hcall]
    rfl
  · rcases registerCommand_cases stored params with ⟨-, hnone⟩ | ⟨hregisters, s, hsome⟩
    · rw [hnone] at hc
      cases hc
    · -- It takes up the work without a registrar.
      rw [hsome] at hc
      cases hc
      have hregistrar : params.registrar = some [] := by
        have hre : updateState stored params deviceIsOnline networkIsOnline =
            .reestablishedRegistrarless := by
          unfold updateState at hstate ⊢
          split_ifs at hstate ⊢
          · rfl
          · exact absurd rfl hstate
        exact ((updateState_eq_reestablished _ _ _ _).mp hre).1
      have hdomain : convert2FullDomain s params.registrar = [] := by
        rw [convert2FullDomain_eq_nil_iff, hregistrar]
      rw [List.mem_singleton.mp hcall]
      simp [asksRegister, hdomain]
  · obtain ⟨aor, rfl⟩ := eq_address_of_mem c hc
    rw [List.mem_singleton.mp hcall]
    rfl

end Condition

/-! ### The theorem -/

section Theorem
variable {jsonObject : CString → Option NSDictionary} {env : SscEnv} {ssc : Ssc}
  {stored : Params} {deviceIsOnline networkIsOnline : Bool}
  (hread : ∀ d, jsonObject (stringifyDictionary d) = some d)
  (htruncated : ∀ d p q, p ++ q = stringifyDictionary d → q ≠ [] → jsonObject p = none)
  (hmember : ∀ text d, jsonObject text = some d → d ≠ [] → Json.OpensMember text)
include hread htruncated hmember

/-- Without new parameters the stored registrar is registered at, unless the command is cut, and the
state says that nothing was sent. -/
theorem reports_none_iff :
    Reports jsonObject env ssc stored none deviceIsOnline networkIsOnline ↔
      Reportable env ssc stored none deviceIsOnline networkIsOnline := by
  cases hpassword : stored.password with
  -- Without a stored password the call raises, and the condition asks for one.
  | none =>
    refine iff_of_false ?_ fun h => by simp [Reportable, hpassword] at h
    rintro ⟨_, _, _, hupdate, -⟩
    simp [updateParams, hpassword] at hupdate
  | some password =>
    have hupdate : updateParams stored none deviceIsOnline networkIsOnline = some
        ([.register none (convert2FullDomain stored stored.registrar) password], .unassigned,
          stored) := by simp [updateParams, hpassword]
    -- The line is whole when neither the registrar nor the password has a `$`.
    have htexts : Whole (.register none (convert2FullDomain stored stored.registrar) password) ↔
        ∀ text ∈ convert2FullDomain stored stored.registrar :: stored.password.toList,
          '$' ∉ text := by
      rw [hpassword]
      exact Iff.rfl
    by_cases hwhole : Whole (.register none (convert2FullDomain stored stored.registrar) password)
    · rw [reports_of_whole hread htruncated hupdate (by simpa using hwhole), callsReport_none_iff]
      simp only [CallsReportable, Reportable]
      rw [← htexts, and_iff_left hwhole]
    · -- Cut, it registers nowhere, as the method reports.
      refine iff_of_true (reports_of_silent hread htruncated hmember hupdate ?_ (by simp)) ?_
      · intro c hc hc'
        rw [List.mem_singleton.mp hc] at hc'
        exact absurd hc' hwhole
      · exact ⟨by simp [hpassword], fun h => hwhole (htexts.mpr h.2.2)⟩

section Update
variable {params : Params} {unregister : Option Command}
  (hcommand : unregisterCommand stored params deviceIsOnline = some unregister)
include hcommand

/-- With new parameters the condition is enough. -/
theorem reports_some_of_reportable
    (h : Reportable env ssc stored (some params) deviceIsOnline networkIsOnline) :
    Reports jsonObject env ssc stored (some params) deviceIsOnline networkIsOnline := by
  have hupdate := updateParams_of_unregisterCommand hcommand networkIsOnline
  by_cases hstate : updateState stored params deviceIsOnline networkIsOnline = .sentRegister
  · have hwhole := whole_of_reportable hstate h hcommand
    rw [reports_of_whole hread htruncated hupdate hwhole, callsReport_some_iff]
    exact (reportable_iff_of_whole hcommand hwhole).mp h
  · exact reports_of_silent hread htruncated hmember hupdate
      (fun c hc _ => silent_of_not_sent hstate hcommand c hc) hstate

/-- It is necessary, when the command that unregisters is not cut. -/
theorem reportable_of_reports_some
    (hpassword : unregisters stored params deviceIsOnline → ∀ password ∈ stored.password,
      '$' ∉ password)
    (h : Reports jsonObject env ssc stored (some params) deviceIsOnline networkIsOnline) :
    Reportable env ssc stored (some params) deviceIsOnline networkIsOnline := by
  have hupdate := updateParams_of_unregisterCommand hcommand networkIsOnline
  by_cases hwhole : ∀ c ∈ unregister.toList ++ (registerCommand stored params).toList ++
      (addressCommand stored params).toList, Whole c
  · rw [reportable_iff_of_whole hcommand hwhole, ← callsReport_some_iff]
    exact (reports_of_whole hread htruncated hupdate hwhole).mp h
  · by_cases hstate : updateState stored params deviceIsOnline networkIsOnline = .sentRegister
    · -- It is the register command that is cut, and then nothing registers.
      have hregisters : registers stored params = true := by
        unfold updateState at hstate
        split_ifs at hstate
        assumption
      have haddress : addressCommand stored params = none := by
        rw [addressCommand, if_pos hregisters]
      have hunregister : ∀ c ∈ unregister, Whole c := by
        intro c hc
        unfold unregisterCommand at hcommand
        split at hcommand
        · obtain ⟨password, hstored, rfl⟩ := Option.map_eq_some_iff.mp hcommand
          cases hc
          intro f hf
          rw [List.mem_singleton.mp hf]
          exact hpassword ‹_› _ hstored
        · cases hcommand
          cases hc
      refine absurd h (not_reports_of_silent hread htruncated hmember hupdate ?_ hstate)
      intro c hc hc'
      simp only [List.mem_append, Option.mem_toList] at hc
      rcases hc with (hc | hc) | hc
      · obtain ⟨password, rfl⟩ := eq_unregister_of_mem hcommand c hc
        intro call hcall
        rw [List.mem_singleton.mp hcall]
        rfl
      · refine absurd (fun c' hc'' => ?_) hwhole
        simp only [haddress, List.mem_append, Option.mem_toList] at hc''
        rcases hc'' with (hc'' | hc'') | hc''
        · exact hunregister c' hc''
        · rwa [Option.mem_unique hc'' hc]
        · cases hc''
      · rw [haddress] at hc
        cases hc
    · exact reportable_of_not_sent hstate (isSome_unregisterCommand.mp (by rw [hcommand]; rfl))

end Update

end Theorem

end RestCommSdk.Proofs
