import Mathlib.Data.Fintype.EquivFin
import RestCommSdk.Proofs.CallEffects
import RestCommSdk.Proofs.CutCommands
import RestCommSdk.Proofs.SchemeConversion
import RestCommSdk.Proofs.SscTransactions
import RestCommSdk.Proofs.UpdateParams

/-!
# `RestCommSdk.Proofs.UpdateCalls`: which registrations the calls of an update send

`updateParams:` returns whether a REGISTER was sent, and the device goes Offline to wait for
its answer. The REGISTER itself is sent by `ssc_register`, on the other side of the pipe.
`callsReport_iff` states for which updates the two agree, and the REGISTER has the effective
address of record and registrar, when the SIP client gets the calls that the commands ask for.

The wrong scheme of a registrar is told apart by its prefix: what `withScheme` returns does not
start with it (`not_prefix_withScheme`).
-/

set_option autoImplicit false

namespace RestCommSdk.Proofs

open RestCommSdk.Lib
open RestCommSdk.CliInterface
open RestCommSdk.SipManager

/-! ### Schemes -/

/-- The scheme that the parameters do not ask for. -/
def otherScheme (params : Params) : CString :=
  if params.secure then "sip:".toList else "sips:".toList

/-- The other scheme is not in front any more. -/
theorem not_prefix_withScheme (params : Params) (uri : CString) :
    ¬ otherScheme params <+: withScheme params uri := by
  intro hprefix
  rw [withScheme_eq] at hprefix
  unfold otherScheme at hprefix
  split at hprefix
  · exact not_infix_substitute (by decide) apart_sips_sip apart_sip_tail_sips uri hprefix.isInfix
  · exact not_infix_substitute (by decide) apart_sip_sips apart_sips_tail_sip uri hprefix.isInfix

/-- Replacing makes nothing empty. -/
theorem replaceOccurrences_ne_nil {target replacement s : CString} (hne : replacement ≠ [])
    (hs : s ≠ []) : replaceOccurrences target replacement 0 s ≠ [] := by
  obtain ⟨c, s, rfl⟩ := List.exists_cons_of_ne_nil hs
  rw [replaceOccurrences]
  split <;> simp [hne]

/-- Nor does setting the scheme. -/
theorem withScheme_ne_nil (params : Params) {uri : CString} (h : uri ≠ []) :
    withScheme params uri ≠ [] := by
  unfold withScheme
  split <;> exact replaceOccurrences_ne_nil (by decide) h

/-- Only the empty text has the empty text for its full URI. -/
theorem convert2FullURI_eq_nil_iff (params : Params) (original : CString)
    (domain : Option CString) : convert2FullURI params original domain = [] ↔ original = [] := by
  unfold convert2FullURI
  split_ifs with h₁ h₂ h₃ h₄
  · simp [h₁]
  all_goals simp [h₁, withScheme_ne_nil]

/-- Only the empty registrar stays empty. -/
theorem convert2FullDomain_eq_nil_iff (params : Params) (original : Option CString) :
    convert2FullDomain params original = [] ↔ original = some [] := by
  unfold convert2FullDomain
  split_ifs with h₁ h₂
  · simp [h₁]
  · have hne : format original ≠ [] := by
      cases original with
      | none => decide
      | some s => simpa [format] using h₁
    simp [h₁, withScheme_ne_nil params hne]
  · simp [h₁, withScheme_ne_nil]

/-- The domain of a missing registrar has the own scheme in front, and no domain has the other
one. -/
theorem convert2FullDomain_none_ne {p q : Params} (h : p.secure ≠ q.secure)
    (original : Option CString) : convert2FullDomain p none ≠ convert2FullDomain q original := by
  -- `p` and `q` ask for different schemes, so the own one of `p` is the other one of `q`.
  have hnone : otherScheme q <+: convert2FullDomain p none := by
    unfold otherScheme convert2FullDomain withScheme
    cases hq : q.secure with
    | false =>
      have hp : p.secure = true := by simpa [hq] using h
      rw [hp]
      decide
    | true =>
      have hp : p.secure = false := by simpa [hq] using h
      rw [hp]
      decide
  intro heq
  rw [heq] at hnone
  unfold convert2FullDomain at hnone
  split_ifs at hnone with h₁ h₂
  · rw [List.prefix_nil] at hnone
    revert hnone
    unfold otherScheme
    split <;> decide
  · exact not_prefix_withScheme q _ hnone
  · exact not_prefix_withScheme q _ hnone

/-! ### The calls of an update -/

/-- The empty registrar is no registrar. -/
@[simp] theorem givenRegistrar_nil : givenRegistrar (some []) = none := rfl

/-- Any other text is one. -/
theorem givenRegistrar_of_ne_nil {registrar : CString} (h : registrar ≠ []) :
    givenRegistrar (some registrar) = some registrar := by
  simp [givenRegistrar, h]

section Calls
variable (env : SscEnv) (alloc : Alloc) (ssc : Ssc)

/-- What a request on a new operation asks of the stack. -/
theorem nua_requestOn_register (address : CString) (password : Option CString)
    (request : Nat → NuaCall) :
    (match
        (sscOperCreateWithPassword env alloc .register (some address) password ssc).2.bind
          (sscOperCreateWithPassword env alloc .register (some address) password ssc).1.oper? with
      | some op =>
        (sscOperCreateWithPassword env alloc .register (some address) password ssc).1.emit
          (request op.opHandle)
      | none => (sscOperCreateWithPassword env alloc .register (some address) password ssc).1).nua =
      ssc.nua ++
        if env.validAddress address then [.handle alloc.handle address, request alloc.handle]
        else [] := by
  cases hvalid : env.validAddress address <;>
    simp [sscOperCreateWithPassword, sscOperCreate, hvalid, sscOperAssign, SipMethod.persistent,
      Ssc.setOper, Ssc.oper?, Ssc.emit]

/-- What a registration at a given registrar asks of the stack. -/
theorem nua_sscRegister (address registrar : CString) (password : Option CString)
    (haddress : ssc.address = some address) :
    (sscRegister env alloc (some registrar) password ssc).nua =
      ssc.nua ++ .setRegistrar (givenRegistrar (some registrar)) ::
        if registrar ≠ [] ∧ env.validAddress address then
          [.handle alloc.handle address, .register alloc.handle (some registrar)]
        else [] := by
  unfold sscRegister
  by_cases hempty : registrar = []
  · subst hempty
    rfl
  · simp only [givenRegistrar_of_ne_nil hempty]
    have haddress' : (ssc.emit (.setRegistrar (some registrar))).address = some address := haddress
    rw [haddress']
    refine (nua_requestOn_register env alloc _ address password
      fun nh => .register nh (some registrar)).trans ?_
    simp [hempty, Ssc.emit]

/-- An old operation that is taken for a new request. -/
theorem sscOperCreateWithPassword_old {old : SscOper} (hold : sscOperOld ssc = some old)
    (password : Option CString) :
    ∃ ssc' op, sscOperCreateWithPassword env alloc .register none password ssc
        = (ssc', some old.addr) ∧ ssc'.nua = ssc.nua ∧ ssc'.oper? old.addr = some op := by
  have hmem : (ssc.oper? old.addr).isSome := by
    simp only [Ssc.oper?, List.find?_isSome, decide_eq_true_eq]
    exact ⟨old, List.mem_of_find?_eq_some hold, rfl⟩
  have hkept : ∀ (ssc : Ssc) (f : SscOper → SscOper), (∀ op, (f op).addr = op.addr) →
      (ssc.oper? old.addr).isSome → ((ssc.setOper old.addr f).oper? old.addr).isSome :=
    fun ssc f hf h => by rwa [oper?_setOper hf, Option.isSome_map]
  have hoper := hkept _ (fun op => { op with password := password }) (fun _ => rfl)
    (hkept ssc (sscOperAssign .register) (fun _ => rfl) hmem)
  obtain ⟨op, hop⟩ := Option.isSome_iff_exists.mp hoper
  refine ⟨_, op, ?_, ?_, hop⟩
  · simp only [sscOperCreateWithPassword, sscOperCreate, hold]
  · rfl

/-- When a registration at a given registrar sends a REGISTER. -/
theorem sendsRegister_sscRegister (registrar : CString) (password : Option CString)
    (hsilent : ssc.nua = []) :
    SendsRegister (sscRegister env alloc (some registrar) password ssc).nua ↔
      registrar ≠ [] ∧ creates env ssc ssc.address := by
  cases haddress : ssc.address with
  | some address =>
    rw [nua_sscRegister env alloc ssc address registrar password haddress, hsilent]
    simp only [creates]
    split
    · simp [SendsRegister, *]
    · simp [SendsRegister, *]
  | none =>
    by_cases hempty : registrar = []
    · subst hempty
      simp [sscRegister, SendsRegister, hsilent, Ssc.emit]
    · unfold sscRegister
      simp only [givenRegistrar_of_ne_nil hempty]
      have hnua : (ssc.emit (.setRegistrar (some registrar))).nua =
          [.setRegistrar (some registrar)] := by
        simp [Ssc.emit, hsilent]
      have hkept : (ssc.emit (.setRegistrar (some registrar))).address = none := haddress
      have hsame : sscOperOld (ssc.emit (.setRegistrar (some registrar))) = sscOperOld ssc := rfl
      generalize ssc.emit (.setRegistrar (some registrar)) = ssc₁ at hnua hkept hsame ⊢
      rw [hkept]
      cases hold : sscOperOld ssc with
      | none =>
        simp [creates, hold, sscOperCreateWithPassword, sscOperCreate, hsame, SendsRegister, hnua]
      | some old =>
        -- Without an address of record the REGISTER goes out on an old operation.
        obtain ⟨ssc', op, hcreated, hnua', hop⟩ :=
          sscOperCreateWithPassword_old env alloc ssc₁ (hsame.trans hold) password
        simp [hcreated, hop, creates, hold, SendsRegister, Ssc.emit, hnua', hnua, hempty]

/-- Making the operation of a registration sends no REGISTER. -/
theorem sendsRegister_create (address password : Option CString) :
    SendsRegister (sscOperCreateWithPassword env alloc .register address password ssc).1.nua ↔
      SendsRegister ssc.nua := by
  cases address with
  | some address =>
    cases hvalid : env.validAddress address <;>
      simp [sscOperCreateWithPassword, sscOperCreate, hvalid, sscOperAssign, SipMethod.persistent,
        Ssc.setOper, Ssc.emit, SendsRegister]
  | none =>
    cases hold : sscOperOld ssc <;>
      simp [sscOperCreateWithPassword, sscOperCreate, hold, Ssc.setOper]

/-- The handle of a new operation is in the list. -/
theorem handle_create {address password : Option CString} {nh : Nat} {a : CString}
    (h : .handle nh a ∈
      (sscOperCreateWithPassword env alloc .register address password ssc).1.nua) :
    .handle nh a ∈ ssc.nua ∨
      ∃ op ∈ (sscOperCreateWithPassword env alloc .register address password ssc).1.operations,
        op.opHandle = nh := by
  cases address with
  | some address =>
    cases hvalid : env.validAddress address with
    | false =>
      left
      simpa [sscOperCreateWithPassword, sscOperCreate, hvalid] using h
    | true =>
      have hmem : .handle nh a ∈ ssc.nua ++ [.handle alloc.handle address] := by
        simpa [sscOperCreateWithPassword, sscOperCreate, hvalid, sscOperAssign,
          SipMethod.persistent, Ssc.setOper, Ssc.emit] using h
      rcases List.mem_append.mp hmem with hmem | hmem
      · exact .inl hmem
      · right
        obtain ⟨rfl, -⟩ : nh = alloc.handle ∧ a = address := by simpa using hmem
        simp [sscOperCreateWithPassword, sscOperCreate, hvalid, sscOperAssign,
          SipMethod.persistent, Ssc.setOper, Ssc.emit]
  | none =>
    left
    cases hold : sscOperOld ssc <;>
      simpa [sscOperCreateWithPassword, sscOperCreate, hold, Ssc.setOper] using h

/-- An unregistration sends no `REGISTER` of its own. -/
theorem sendsRegister_sscUnregister (registrar password : Option CString) :
    SendsRegister (sscUnregister env alloc registrar password ssc).nua ↔ SendsRegister ssc.nua := by
  have hemit : ∀ (ssc : Ssc) (call : NuaCall), (∀ nh r, call ≠ .register nh r) →
      (SendsRegister (ssc.emit call).nua ↔ SendsRegister ssc.nua) := fun ssc call h => by
    have hne : ∀ nh r, NuaCall.register nh r ≠ call := fun nh r => (h nh r).symm
    simp [SendsRegister, Ssc.emit, hne]
  have hset := hemit ssc (.setRegistrar none) fun _ _ h => by cases h
  unfold sscUnregister
  simp only
  split
  · refine (hemit _ _ fun _ _ h => ?_).trans hset
    cases h
  · split
    · refine (hemit _ _ fun _ _ h => ?_).trans ((sendsRegister_create env alloc _ _ _).trans hset)
      cases h
    · exact (sendsRegister_create env alloc _ _ _).trans hset

/-- A handle that an unregistration has made is that of a listed operation. -/
theorem handle_sscUnregister (password : Option CString) {nh : Nat} {a : CString}
    (hsilent : .handle nh a ∉ ssc.nua)
    (h : .handle nh a ∈ (sscUnregister env alloc none password ssc).nua) :
    ∃ op ∈ (sscUnregister env alloc none password ssc).operations, op.opHandle = nh := by
  have hset : .handle nh a ∉ (ssc.emit (.setRegistrar none)).nua := by
    simpa [Ssc.emit] using hsilent
  -- Whatever `ssc_oper_create` does, the request after it sets no handle.
  have hrequest : ∀ created : Ssc × Option Nat,
      (match created.2.bind created.1.oper? with
        | some op => created.1.emit (.unregister op.opHandle none)
        | none => created.1).operations = created.1.operations ∧
      (.handle nh a ∈ (match created.2.bind created.1.oper? with
        | some op => created.1.emit (.unregister op.opHandle none)
        | none => created.1).nua → .handle nh a ∈ created.1.nua) := fun created => by
    split
    · exact ⟨rfl, by simp [Ssc.emit]⟩
    · exact ⟨rfl, id⟩
  unfold sscUnregister at h ⊢
  simp only at h ⊢
  cases hfind : sscOperFindByMethod (ssc.emit (.setRegistrar none)) .register with
  | some op =>
    simp only [hfind] at h
    -- The registration is found, and no operation is made for the request.
    exact absurd (by simpa [Ssc.emit] using h) hset
  | none =>
    simp only [hfind] at h ⊢
    obtain ⟨hoperations, hnua⟩ := hrequest
      (sscOperCreateWithPassword env alloc .register (ssc.emit (.setRegistrar none)).address
        -- None is found: the operation made here is the only one with a handle set.
        password (ssc.emit (.setRegistrar none)))
    obtain ⟨op, hop, hnh⟩ := (handle_create env alloc _ (hnua h)).resolve_left hset
    exact ⟨op, (congrArg (op ∈ ·) hoperations).mpr hop, hnh⟩

end Calls

/-! ### What an update reports -/

/-- What is said of the returned state and of what the commands ask of the stack. -/
structure Truthful (stored : Params) (params : Option Params)
    (deviceIsOnline networkIsOnline : Bool) (state : UpdateParamsState) (nua : List NuaCall) :
    Prop where
  reported : state = .sentRegister ↔ SendsRegister nua
  effective : ∀ nh registrar, .register nh registrar ∈ nua →
    let settings := overridden stored (params.getD {})
    registrar = some (convert2FullDomain settings settings.registrar) ∧
      ∀ address, .handle nh address ∈ nua →
        ∃ aor ∈ settings.aor, address = convert2FullURI settings aor settings.registrar
  waits : ∀ app app' : App, app.params = stored →
    deviceIsOnline = decide (app.state ≠ .offline) →
    networkIsOnline = decide (app.reachabilityStatus ≠ .notReachable) →
    RCDevice.updateParams params app = some app' → app.state ≠ .offline →
    app'.state = .offline → SendsRegister nua

/-- The update returns, and whatever the allocator decides for its calls, it is truthful. -/
def CallsReport (env : SscEnv) (ssc : Ssc) (stored : Params) (params : Option Params)
    (deviceIsOnline networkIsOnline : Bool) : Prop :=
  ∃ commands state after,
    updateParams stored params deviceIsOnline networkIsOnline = some (commands, state, after) ∧
      ∀ inputs ssc',
        inputs.map (·.2) = (commands.flatMap sscCalls).map (SscInput.call · []) →
        run (sscMachine env) ssc inputs = some ssc' →
        Truthful stored params deviceIsOnline networkIsOnline state
          (outputs (sscMachine env) (·.nua) ssc inputs)

/-- The condition on an update. Without new parameters, the stored registrar has to be empty or
the address of the stack invalid. Otherwise it depends on the registrar that is given. -/
def CallsReportable (env : SscEnv) (ssc : Ssc) (stored : Params) (params : Option Params)
    (deviceIsOnline networkIsOnline : Bool) : Prop :=
  match params with
  | none => stored.password.isSome ∧ ¬ (stored.registrar ≠ some [] ∧ creates env ssc ssc.address)
  | some params =>
    (unregisters stored params deviceIsOnline → stored.password.isSome) ∧
      match params.registrar with
      | none => secureChanged stored params = false
      | some [] =>
        secureChanged stored params →
          stored.registrar ≠ some [] ∧ deviceIsOnline = false ∧ networkIsOnline = true
      | some registrar =>
        (params.aor.isSome ∨ stored.aor = some []) ∧
          env.validAddress (convert2FullURI (overridden stored params) (params.aor.getD [])
            (some registrar))

/-! ### Steps -/

/-- There is room for another operation. -/
theorem exists_fresh (ssc : Ssc) : ∃ alloc : Alloc, alloc.Fresh ssc := by
  obtain ⟨addr, haddr⟩ := Infinite.exists_notMem_finset (ssc.operations.map (·.addr)).toFinset
  obtain ⟨handle, hhandle⟩ :=
    Infinite.exists_notMem_finset (ssc.operations.map (·.opHandle)).toFinset
  simp only [List.mem_toFinset, List.mem_map, not_exists, not_and] at haddr hhandle
  exact ⟨⟨addr, handle⟩, haddr, hhandle⟩

/-- A `REGISTER` is among the calls of the one or of the other. -/
theorem sendsRegister_append (xs ys : List NuaCall) :
    SendsRegister (xs ++ ys) ↔ SendsRegister xs ∨ SendsRegister ys := by
  simp only [SendsRegister, List.mem_append, exists_or]

section Machine
variable {env : SscEnv} {ssc ssc' : Ssc}

/-- A call of the machine that the allocator allows. -/
theorem sscCall_of_step {alloc : Alloc} {call : SscCall}
    (h : sscMachine env ssc (alloc, .call call []) = some ssc') :
    sscCall env alloc [] { ssc with nua := [], sent := [] } call = some ssc' := by
  unfold sscMachine sscStep at h
  dsimp only at h
  split at h
  · exact h
  · cases h

/-- The calls of an update are always handled. -/
theorem exists_run (env : SscEnv) (commands : List Command)
    (h : ∀ command ∈ commands, ∀ call ∈ sscCalls command, ∀ alloc ssc,
      (sscCall env alloc [] ssc call).isSome) (ssc : Ssc) :
    ∃ inputs ssc', inputs.map (·.2) = (commands.flatMap sscCalls).map (SscInput.call · []) ∧
      run (sscMachine env) ssc inputs = some ssc' := by
  have hcalls : ∀ call ∈ commands.flatMap sscCalls, ∀ alloc ssc,
      (sscCall env alloc [] ssc call).isSome := fun call hcall => by
    obtain ⟨command, hmem, hcall⟩ := List.mem_flatMap.mp hcall
    exact h command hmem call hcall
  -- Whatever the calls are: by induction on them, the machine in any state.
  generalize commands.flatMap sscCalls = calls at hcalls ⊢
  induction calls generalizing ssc with
  | nil => exact ⟨[], ssc, rfl, rfl⟩
  | cons call calls ih =>
    obtain ⟨alloc, hfresh⟩ := exists_fresh ssc
    obtain ⟨ssc₁, hssc₁⟩ := Option.isSome_iff_exists.mp
      (hcalls call List.mem_cons_self alloc { ssc with nua := [], sent := [] })
    obtain ⟨inputs, ssc', hinputs, hrun⟩ :=
      ih ssc₁ fun call hcall => hcalls call (List.mem_cons_of_mem _ hcall)
    refine ⟨(alloc, .call call []) :: inputs, ssc', by simp [hinputs], ?_⟩
    have hfresh : alloc.Fresh { ssc with nua := [], sent := [] } := hfresh
    have hstep : sscMachine env ssc (alloc, .call call []) = some ssc₁ := by
      simp only [sscMachine, sscStep, if_pos hfresh, hssc₁]
    simp [run, hstep, hrun]

/-- The first command of an update sends no `REGISTER`. -/
theorem step_unregister {alloc : Alloc} {password : Option CString}
    (h : sscMachine env ssc (alloc, .call (.update none password none true) []) = some ssc') :
    ¬ SendsRegister ssc'.nua := by
  cases sscCall_of_step h
  rw [show sscUpdate env alloc none password none true { ssc with nua := [], sent := [] } =
    sscUnregister env alloc none password { ssc with nua := [], sent := [] } from rfl,
    sendsRegister_sscUnregister]
  simp [SendsRegister]

/-- The address is set, and nothing else is asked for. -/
theorem step_address {alloc : Alloc} {aor : CString}
    (h : sscMachine env ssc (alloc, .call (.setPublicAddress (some aor)) []) = some ssc') :
    ssc'.nua = [.setFrom aor] := by
  cases sscCall_of_step h
  rfl

/-- The handles that an un-REGISTER makes are in the list of operations. -/
theorem handle_unregister {alloc : Alloc} {password : Option CString}
    (h : sscMachine env ssc (alloc, .call (.update none password none true) []) = some ssc')
    {nh : Nat} {address : CString} (hmem : .handle nh address ∈ ssc'.nua) :
    ∃ op ∈ ssc'.operations, op.opHandle = nh := by
  cases sscCall_of_step h
  exact handle_sscUnregister env alloc _ password (by rintro ⟨⟩) hmem

/-- A registration with an address of record. -/
theorem nua_step_register {alloc : Alloc} {aor registrar : CString} {password : Option CString}
    (h : sscMachine env ssc
      (alloc, .call (.update (some aor) password (some registrar) false) []) = some ssc') :
    ssc'.nua = .setFrom aor :: .setRegistrar (givenRegistrar (some registrar)) ::
      if registrar ≠ [] ∧ env.validAddress aor then
        [.handle alloc.handle aor, .register alloc.handle (some registrar)]
      else [] := by
  cases sscCall_of_step h
  exact nua_sscRegister env alloc
    (sscSetPublicAddress (some aor) { ssc with nua := [], sent := [] }) aor registrar password rfl

/-- A registration is sent where the registrar is given and the address is valid. -/
theorem step_register {alloc : Alloc} {aor registrar : CString} {password : Option CString}
    (h : sscMachine env ssc
      (alloc, .call (.update (some aor) password (some registrar) false) []) = some ssc') :
    (SendsRegister ssc'.nua ↔ registrar ≠ [] ∧ env.validAddress aor) ∧
      ∀ nh r, .register nh r ∈ ssc'.nua → r = some registrar ∧
        (∀ op ∈ ssc.operations, op.opHandle ≠ nh) ∧
        ∀ address, .handle nh address ∈ ssc'.nua ↔ address = aor := by
  -- A step that was taken had a fresh handle.
  have hfresh : alloc.Fresh { ssc with nua := [], sent := [] } := by
    by_contra hnot
    simp [sscMachine, sscStep, hnot] at h
  rw [nua_step_register h]
  split
  · rename_i hsent
    -- One register is sent, on the handle the step took.
    refine ⟨?_, fun nh r hmem => ?_⟩
    · simp [SendsRegister, hsent]
    · obtain ⟨rfl, rfl⟩ : nh = alloc.handle ∧ r = some registrar := by simpa using hmem
      exact ⟨rfl, hfresh.2, by simp⟩
  · rename_i hsent
    simp [SendsRegister, hsent]

/-- No command asks for nothing. -/
theorem outputs_none {inputs : List (Alloc × SscInput)}
    (hinputs : inputs.map (·.2) =
      ((none : Option Command).toList.flatMap sscCalls).map (SscInput.call · [])) :
    outputs (sscMachine env) (·.nua) ssc inputs = [] := by
  rw [Option.toList_none, List.flatMap_nil, List.map_nil, List.map_eq_nil_iff] at hinputs
  subst hinputs
  rfl

/-- The input for a command with one call. -/
theorem outputs_some {command : Command} {call : SscCall} {inputs : List (Alloc × SscInput)}
    (hcall : sscCalls command = [call])
    (hinputs : inputs.map (·.2) =
      ((some command).toList.flatMap sscCalls).map (SscInput.call · []))
    (hrun : run (sscMachine env) ssc inputs = some ssc') :
    ∃ alloc, sscMachine env ssc (alloc, .call call []) = some ssc' ∧
      outputs (sscMachine env) (·.nua) ssc inputs = ssc'.nua := by
  rw [Option.toList_some, List.flatMap_singleton, hcall, List.map_singleton,
    List.map_eq_singleton_iff] at hinputs
  obtain ⟨⟨alloc, input⟩, rfl, rfl⟩ := hinputs
  obtain ⟨ssc₁, hstep, hrest⟩ := Option.bind_eq_some_iff.mp hrun
  cases hrest
  exact ⟨alloc, hstep, by simp [outputs, hstep]⟩

/-- An unregister command sends no REGISTER, and its handle is in the list of operations. -/
theorem outputs_unregister {unregister : Option Command} {inputs : List (Alloc × SscInput)}
    (hunregister : ∀ c ∈ unregister, ∃ password, c = .unregister password)
    (hinputs : inputs.map (·.2) = (unregister.toList.flatMap sscCalls).map (SscInput.call · []))
    (hrun : run (sscMachine env) ssc inputs = some ssc') :
    ¬ SendsRegister (outputs (sscMachine env) (·.nua) ssc inputs) ∧
      ∀ nh address, .handle nh address ∈ outputs (sscMachine env) (·.nua) ssc inputs →
        ∃ op ∈ ssc'.operations, op.opHandle = nh := by
  cases unregister with
  | none =>
    rw [outputs_none hinputs]
    exact ⟨by simp [SendsRegister], fun _ _ => nofun⟩
  | some command =>
    obtain ⟨password, rfl⟩ := hunregister command rfl
    obtain ⟨alloc, hstep, houtputs⟩ := outputs_some rfl hinputs hrun
    rw [houtputs]
    exact ⟨step_unregister hstep, fun nh address => handle_unregister hstep⟩

/-- An address command sends no REGISTER, and makes no handle. -/
theorem outputs_address {address : Option Command} {inputs : List (Alloc × SscInput)}
    (haddress : ∀ c ∈ address, ∃ aor, c = .address aor)
    (hinputs : inputs.map (·.2) = (address.toList.flatMap sscCalls).map (SscInput.call · []))
    (hrun : run (sscMachine env) ssc inputs = some ssc') :
    ¬ SendsRegister (outputs (sscMachine env) (·.nua) ssc inputs) ∧
      ∀ nh a, .handle nh a ∉ outputs (sscMachine env) (·.nua) ssc inputs := by
  cases address with
  | none =>
    rw [outputs_none hinputs]
    exact ⟨by simp [SendsRegister], fun _ _ => nofun⟩
  | some command =>
    obtain ⟨aor, rfl⟩ := haddress command rfl
    obtain ⟨alloc, hstep, houtputs⟩ := outputs_some rfl hinputs hrun
    rw [houtputs, step_address hstep]
    simp [SendsRegister]

/-- What the commands of an update ask of the stack: a REGISTER for the register command. -/
theorem outputs_update {unregister register address : Option Command}
    {inputs : List (Alloc × SscInput)}
    (hunregister : ∀ c ∈ unregister, ∃ password, c = .unregister password)
    (haddress : ∀ c ∈ address, ∃ aor, c = .address aor)
    (hinputs : inputs.map (·.2) =
      ((unregister.toList ++ register.toList ++ address.toList).flatMap sscCalls).map
        (SscInput.call · []))
    (hrun : run (sscMachine env) ssc inputs = some ssc') :
    (register = none → ¬ SendsRegister (outputs (sscMachine env) (·.nua) ssc inputs)) ∧
    ∀ aor registrar password, register = some (.register (some aor) registrar password) →
      (SendsRegister (outputs (sscMachine env) (·.nua) ssc inputs) ↔
        registrar ≠ [] ∧ env.validAddress aor) ∧
      ∀ nh r, .register nh r ∈ outputs (sscMachine env) (·.nua) ssc inputs →
        r = some registrar ∧ ∀ a,
          .handle nh a ∈ outputs (sscMachine env) (·.nua) ssc inputs ↔ a = aor := by
  rw [List.flatMap_append, List.flatMap_append, List.map_append, List.map_append] at hinputs
  -- The calls of the three commands, one after the other.
  obtain ⟨inputs, zs, rfl, hinputs, hzs⟩ := List.map_eq_append_iff.mp hinputs
  obtain ⟨xs, ys, rfl, hxs, hys⟩ := List.map_eq_append_iff.mp hinputs
  rw [run_append, run_append] at hrun
  obtain ⟨ssc₂, hrun, hrunz⟩ := Option.bind_eq_some_iff.mp hrun
  obtain ⟨ssc₁, hrunx, hruny⟩ := Option.bind_eq_some_iff.mp hrun
  obtain ⟨hx, hhandlex⟩ := outputs_unregister hunregister hxs hrunx
  obtain ⟨hz, hhandlez⟩ := outputs_address haddress hzs hrunz
  have houtputs : outputs (sscMachine env) (·.nua) ssc (xs ++ ys ++ zs) =
      outputs (sscMachine env) (·.nua) ssc xs ++ outputs (sscMachine env) (·.nua) ssc₁ ys ++
        outputs (sscMachine env) (·.nua) ssc₂ zs := by
    rw [outputs_append, outputs_append, run_append, hrunx, Option.bind_some, hruny]
    rfl
  rw [houtputs]
  rw [sendsRegister_append, sendsRegister_append]
  refine ⟨fun hnone => ?_, fun aor registrar password hsome => ?_⟩
  · subst hnone
    rw [outputs_none hys]
    have hnothing : ¬ SendsRegister [] := by simp [SendsRegister]
    simp [hx, hz, hnothing]
  · subst hsome
    obtain ⟨alloc, hstep, houtputs⟩ := outputs_some rfl hys hruny
    obtain ⟨hsends, hsent⟩ := step_register hstep
    rw [houtputs]
    refine ⟨by simpa [hx, hz] using hsends, fun nh r hmem => ?_⟩
    have hmem : .register nh r ∈ ssc₂.nua := by
      simp only [List.mem_append] at hmem
      rcases hmem with (hmem | hmem) | hmem
      · exact absurd ⟨nh, r, hmem⟩ hx
      · exact hmem
      · exact absurd ⟨nh, r, hmem⟩ hz
    obtain ⟨hr, hfresh, hhandle⟩ := hsent nh r hmem
    refine ⟨hr, fun a => ?_⟩
    -- The un-REGISTER has its own handle, which is in use when the REGISTER gets one.
    have hx : .handle nh a ∉ outputs (sscMachine env) (·.nua) ssc xs := fun hmem => by
      obtain ⟨op, hop, hnh⟩ := hhandlex nh a hmem
      exact hfresh op hop hnh
    simpa [hx, hhandlez nh a] using hhandle a

end Machine

/-! ### The theorem -/

/-- The parameters that are stored first have the new security. -/
theorem secure_secured (stored params : Params) :
    (secured stored params).secure = (overridden stored params).secure := by
  unfold secured overridden secureChanged Params.secure
  cases hgiven : params.signalingSecure with
  | none => simp
  | some secure =>
    by_cases hsame : secure = stored.signalingSecure.getD false <;> simp [hsame]

/-- A change of the security is one of its value. -/
theorem secure_ne_of_secureChanged {stored params : Params}
    (h : secureChanged stored params = true) :
    stored.secure ≠ (overridden stored params).secure := by
  unfold secureChanged at h
  cases hgiven : params.signalingSecure with
  | none => simp [hgiven] at h
  | some secure =>
    rw [hgiven] at h
    have hne : secure ≠ stored.secure := by simpa using h
    rw [show (overridden stored params).secure = secure by simp [overridden, Params.secure, hgiven]]
    exact hne.symm

/-- `RCDevice` waits for an answer when the returned state says so. -/
theorem state_of_waits {params : Option Params} {app app' : App} {commands : List Command}
    {state : UpdateParamsState} {after : Params}
    (hupdate : updateParams app.params params (app.state ≠ .offline)
      (app.reachabilityStatus ≠ .notReachable) = some (commands, state, after))
    (h : RCDevice.updateParams params app = some app') (honline : app.state ≠ .offline)
    (hwaits : app'.state = .offline) : state = .sentRegister := by
  unfold RCDevice.updateParams at h
  split at h
  · rename_i hreachable
    have htrue : decide (app.reachabilityStatus ≠ .notReachable) = true := decide_eq_true hreachable
    -- Reached: the App goes offline exactly when a register was reported as sent.
    rw [htrue] at hupdate
    simp only [RCDevice.sipManagerUpdateParams, hupdate, Option.bind_eq_bind, Option.bind_some] at h
    cases state with
    | sentRegister => rfl
    | reestablishedRegistrarless =>
      cases h
      cases hwaits
    | unassigned =>
      cases h
      rw [App.pipeAll_eq] at hwaits
      exact absurd hwaits honline
  · -- Not reached: the device keeps its state.
    cases h
    exact absurd hwaits honline

section Theorem
variable {env : SscEnv} {ssc ssc' : Ssc} {stored : Params} {deviceIsOnline networkIsOnline : Bool}

/-- What makes a result truthful. -/
theorem truthful_of_reported {params : Option Params} {commands : List Command}
    {state : UpdateParamsState} {after : Params} {nua : List NuaCall}
    (hupdate : updateParams stored params deviceIsOnline networkIsOnline
      = some (commands, state, after))
    (hreported : state = .sentRegister ↔ SendsRegister nua)
    (heffective : ∀ nh registrar, .register nh registrar ∈ nua →
      let settings := overridden stored (params.getD {})
      registrar = some (convert2FullDomain settings settings.registrar) ∧
        ∀ address, .handle nh address ∈ nua →
          ∃ aor ∈ settings.aor, address = convert2FullURI settings aor settings.registrar) :
    Truthful stored params deviceIsOnline networkIsOnline state nua := by
  refine ⟨hreported, heffective, ?_⟩
  rintro app app' rfl rfl rfl h honline hwaits
  exact hreported.mp (state_of_waits hupdate h honline hwaits)

/-- Without new parameters, the state says that nothing was sent. -/
theorem callsReport_none_iff :
    CallsReport env ssc stored none deviceIsOnline networkIsOnline ↔
      CallsReportable env ssc stored none deviceIsOnline networkIsOnline := by
  unfold CallsReport CallsReportable
  cases hpassword : stored.password with
  -- Without a stored password the dictionary would hold nil, and the call raises.
  | none => simp [updateParams, hpassword]
  | some password =>
    -- With one, `r` is written and the method reports nothing.
    have hupdate : updateParams stored none deviceIsOnline networkIsOnline = some
        ([.register none (convert2FullDomain stored stored.registrar) password], .unassigned,
          stored) := by simp [updateParams, hpassword]
    have hsends : ∀ inputs ssc',
        inputs.map (·.2) = ([Command.register none (convert2FullDomain stored stored.registrar)
          password].flatMap sscCalls).map (SscInput.call · []) →
        run (sscMachine env) ssc inputs = some ssc' →
        (SendsRegister (outputs (sscMachine env) (·.nua) ssc inputs) ↔
          stored.registrar ≠ some [] ∧ creates env ssc ssc.address) := by
      intro inputs ssc' hinputs hrun
      obtain ⟨alloc, hstep, houtputs⟩ := outputs_some rfl hinputs hrun
      rw [houtputs]
      cases sscCall_of_step hstep
      refine (sendsRegister_sscRegister env alloc _ _ _ rfl).trans (and_congr ?_ Iff.rfl)
      rw [Ne, convert2FullDomain_eq_nil_iff]
    simp only [hupdate, Option.some.injEq, Prod.mk.injEq, Option.isSome_some, true_and]
    constructor
    · -- A registration is sent, so a report of none would be false.
      rintro ⟨commands, state, after, ⟨rfl, rfl, rfl⟩, htruthful⟩
      obtain ⟨inputs, ssc', hinputs, hrun⟩ := exists_run env
        [.register none (convert2FullDomain stored stored.registrar) password]
        (by simp [sscCalls, sscCall]) ssc
      rw [← hsends inputs ssc' hinputs hrun, ← (htruthful inputs ssc' hinputs hrun).reported]
      intro hstate
      cases hstate
    · -- None is sent, and the report says so.
      intro hnot
      refine ⟨_, _, _, ⟨rfl, rfl, rfl⟩, fun inputs ssc' hinputs hrun => ?_⟩
      have hnone := (hsends inputs ssc' hinputs hrun).not.mpr hnot
      exact truthful_of_reported hupdate (by simp [hnone]) fun nh r hmem =>
        absurd ⟨nh, r, hmem⟩ hnone

/-- The commands of an update are the unregister, register and address commands. -/
theorem sscCall_isSome_of_update {unregister register address : Option Command}
    (hunregister : ∀ c ∈ unregister, ∃ password, c = .unregister password)
    (hregister : ∀ c ∈ register, ∃ aor registrar password, c = .register aor registrar password)
    (haddress : ∀ c ∈ address, ∃ aor, c = .address aor) :
    ∀ command ∈ unregister.toList ++ register.toList ++ address.toList,
      ∀ call ∈ sscCalls command, ∀ alloc ssc, (sscCall env alloc [] ssc call).isSome := by
  intro command hcommand call hcall alloc ssc
  -- The three lines are `u`, `r` and `addr`, and each of them is a complete call.
  simp only [List.mem_append, Option.mem_toList] at hcommand
  rcases hcommand with (hcommand | hcommand) | hcommand
  · obtain ⟨password, rfl⟩ := hunregister command hcommand
    obtain rfl : call = _ := List.mem_singleton.mp hcall
    rfl
  · obtain ⟨aor, registrar, password, rfl⟩ := hregister command hcommand
    obtain rfl : call = _ := List.mem_singleton.mp hcall
    rfl
  · obtain ⟨aor, rfl⟩ := haddress command hcommand
    obtain rfl : call = _ := List.mem_singleton.mp hcall
    rfl

section Blocks
variable {params after : Params} {unregister address : Option Command} {state : UpdateParamsState}
  (hunregister : ∀ c ∈ unregister, ∃ password, c = .unregister password)
  (haddress : ∀ c ∈ address, ∃ aor, c = .address aor)
include hunregister haddress

/-- An update without a register command. -/
theorem callsReport_of_no_register
    (hupdate : updateParams stored (some params) deviceIsOnline networkIsOnline
      = some (unregister.toList ++ (none : Option Command).toList ++ address.toList, state,
        after)) :
    CallsReport env ssc stored (some params) deviceIsOnline networkIsOnline ↔
      state ≠ .sentRegister := by
  -- Without an `r` line no registration is sent, whatever the others do.
  have hnothing : ∀ inputs ssc',
      inputs.map (·.2) = ((unregister.toList ++ (none : Option Command).toList
        ++ address.toList).flatMap sscCalls).map (SscInput.call · []) →
      run (sscMachine env) ssc inputs = some ssc' →
      ¬ SendsRegister (outputs (sscMachine env) (·.nua) ssc inputs) :=
    fun inputs ssc' hinputs hrun => (outputs_update hunregister haddress hinputs hrun).1 rfl
  constructor
  · rintro ⟨commands, state', after', heq, htruthful⟩ hsent
    rw [hupdate] at heq
    cases heq
    obtain ⟨inputs, ssc', hinputs, hrun⟩ := exists_run env
      (unregister.toList ++ (none : Option Command).toList ++ address.toList)
      (sscCall_isSome_of_update hunregister nofun haddress) ssc
    exact hnothing inputs ssc' hinputs hrun
      ((htruthful inputs ssc' hinputs hrun).reported.mp hsent)
  · intro hstate
    refine ⟨_, _, _, hupdate, fun inputs ssc' hinputs hrun => ?_⟩
    have hnothing := hnothing inputs ssc' hinputs hrun
    exact truthful_of_reported hupdate (by simp [hstate, hnothing]) fun nh r hmem =>
      absurd ⟨nh, r, hmem⟩ hnothing

/-- An update with a register command. -/
theorem callsReport_of_register {aor registrar password : CString}
    (hupdate : updateParams stored (some params) deviceIsOnline networkIsOnline
      = some (unregister.toList ++
          (some (Command.register (some aor) registrar password)).toList ++ address.toList,
        state, after)) :
    CallsReport env ssc stored (some params) deviceIsOnline networkIsOnline ↔
      (state = .sentRegister ↔ registrar ≠ [] ∧ env.validAddress aor) ∧
      (registrar ≠ [] ∧ env.validAddress aor →
        let settings := overridden stored params
        registrar = convert2FullDomain settings settings.registrar ∧
          ∃ a ∈ settings.aor, aor = convert2FullURI settings a settings.registrar) := by
  -- The `r` line is the one that may send, and it is in front of `addr`.
  have houtputs : ∀ inputs ssc',
      inputs.map (·.2) = ((unregister.toList ++
        (some (Command.register (some aor) registrar password)).toList
        ++ address.toList).flatMap sscCalls).map (SscInput.call · []) →
      run (sscMachine env) ssc inputs = some ssc' → _ :=
    fun inputs ssc' hinputs hrun =>
      (outputs_update hunregister haddress hinputs hrun).2 aor registrar password rfl
  constructor
  · -- Some run of the calls exists, and its report is the true one.
    rintro ⟨commands, state', after', heq, htruthful⟩
    rw [hupdate] at heq
    cases heq
    obtain ⟨inputs, ssc', hinputs, hrun⟩ := exists_run env
      (unregister.toList ++ (some (Command.register (some aor) registrar password)).toList
        ++ address.toList)
      (sscCall_isSome_of_update hunregister
        (fun c hc => ⟨some aor, registrar, password, (Option.mem_some_iff.mp hc).symm⟩)
        haddress) ssc
    obtain ⟨hsends, hsent⟩ := houtputs inputs ssc' hinputs hrun
    obtain ⟨hreported, heffective, -⟩ := htruthful inputs ssc' hinputs hrun
    refine ⟨hreported.trans hsends, fun hregisters => ?_⟩
    obtain ⟨nh, r, hmem⟩ := hsends.mpr hregisters
    obtain ⟨rfl, hhandle⟩ := hsent nh r hmem
    obtain ⟨hr, haor⟩ := heffective nh _ hmem
    exact ⟨Option.some.inj hr, haor aor ((hhandle aor).mpr rfl)⟩
  · rintro ⟨hreported, heffective⟩
    -- The run sends when the registrar and the address allow it, and reports that.
    refine ⟨_, _, _, hupdate, fun inputs ssc' hinputs hrun => ?_⟩
    obtain ⟨hsends, hsent⟩ := houtputs inputs ssc' hinputs hrun
    refine truthful_of_reported hupdate (hreported.trans hsends.symm) fun nh r hmem => ?_
    obtain ⟨rfl, hhandle⟩ := hsent nh r hmem
    obtain ⟨hr, haor⟩ := heffective (hsends.mp ⟨nh, _, hmem⟩)
    refine ⟨congrArg some hr, fun a ha => ?_⟩
    obtain rfl := (hhandle a).mp ha
    exact haor

end Blocks

section Registrar
variable {params : Params} {unregister : Option Command}
  (hcommand : unregisterCommand stored params deviceIsOnline = some unregister)
include hcommand

/-- An update with the parts of it named. -/
theorem updateParams_of_unregisterCommand (networkIsOnline : Bool) :
    updateParams stored (some params) deviceIsOnline networkIsOnline = some
      (unregister.toList ++ (registerCommand stored params).toList ++
          (addressCommand stored params).toList,
        updateState stored params deviceIsOnline networkIsOnline, storedAfter stored params) := by
  rw [updateParams_eq, hcommand, Option.map_some]

/-- The first part is an unregistration. -/
theorem eq_unregister_of_mem : ∀ c ∈ unregister, ∃ password, c = .unregister password := by
  intro c hc
  unfold unregisterCommand at hcommand
  split at hcommand
  · obtain ⟨password, -, rfl⟩ := Option.map_eq_some_iff.mp hcommand
    exact ⟨password, (Option.mem_some_iff.mp hc).symm⟩
  · cases hcommand
    cases hc

omit hcommand in
/-- The last part sets the address. -/
theorem eq_address_of_mem : ∀ c ∈ addressCommand stored params, ∃ aor, c = .address aor := by
  intro c hc
  unfold addressCommand at hc
  split at hc
  · cases hc
  · obtain ⟨aor, -, rfl⟩ := Option.map_eq_some_iff.mp hc
    exact ⟨_, rfl⟩

/-- Nothing is registered. -/
theorem callsReport_iff_of_unregistered (hregister : registerCommand stored params = none) :
    CallsReport env ssc stored (some params) deviceIsOnline networkIsOnline ↔
      updateState stored params deviceIsOnline networkIsOnline ≠ .sentRegister := by
  have hupdate := updateParams_of_unregisterCommand hcommand networkIsOnline
  rw [hregister] at hupdate
  exact callsReport_of_no_register (eq_unregister_of_mem hcommand) eq_address_of_mem hupdate

/-- Something is registered, made with the parameters `s`. -/
theorem callsReport_iff_of_registered {s : Params}
    (hregister : registerCommand stored params = some (registerWith params s)) :
    CallsReport env ssc stored (some params) deviceIsOnline networkIsOnline ↔
      (updateState stored params deviceIsOnline networkIsOnline = .sentRegister ↔
        convert2FullDomain s params.registrar ≠ [] ∧
          env.validAddress (convert2FullURI s (params.aor.getD []) params.registrar)) ∧
      (convert2FullDomain s params.registrar ≠ [] ∧
          env.validAddress (convert2FullURI s (params.aor.getD []) params.registrar) →
        let settings := overridden stored params
        convert2FullDomain s params.registrar = convert2FullDomain settings settings.registrar ∧
          ∃ a ∈ settings.aor, convert2FullURI s (params.aor.getD []) params.registrar =
            convert2FullURI settings a settings.registrar) := by
  have hupdate := updateParams_of_unregisterCommand hcommand networkIsOnline
  rw [hregister] at hupdate
  exact callsReport_of_register (eq_unregister_of_mem hcommand) eq_address_of_mem hupdate

/-- The registrar stays. -/
theorem callsReport_of_registrar_none (hregistrar : params.registrar = none) :
    CallsReport env ssc stored (some params) deviceIsOnline networkIsOnline ↔
      secureChanged stored params = false := by
  cases hchanged : secureChanged stored params with
  | false =>
    rw [callsReport_iff_of_unregistered hcommand (by simp [registerCommand, hregistrar, hchanged])]
    simp [updateState, hregistrar, registers, hchanged]
  | true =>
    have hregister : registerCommand stored params = some (registerWith params stored) := by
      simp [registerCommand, hregistrar, hchanged]
    rw [callsReport_iff_of_registered hcommand hregister]
    -- The registrar of such a REGISTER has the old scheme.
    refine iff_of_false ?_ fun h => by cases h
    rintro ⟨hreported, heffective⟩
    have hstate : updateState stored params deviceIsOnline networkIsOnline = .sentRegister := by
      simp [updateState, hregistrar, registers, hchanged]
    have hdomain := (heffective (hreported.mp hstate)).1
    rw [hregistrar] at hdomain
    exact convert2FullDomain_none_ne (secure_ne_of_secureChanged hchanged) _ hdomain

/-- The application wants no registrar. -/
theorem callsReport_of_registrar_empty (hregistrar : params.registrar = some []) :
    CallsReport env ssc stored (some params) deviceIsOnline networkIsOnline ↔
      (secureChanged stored params →
        stored.registrar ≠ some [] ∧ deviceIsOnline = false ∧ networkIsOnline = true) := by
  cases hchanged : secureChanged stored params with
  | false =>
    rw [callsReport_iff_of_unregistered hcommand (by simp [registerCommand, hregistrar, hchanged])]
    simp only [updateState, hregistrar, registers, hchanged]
    split <;> simp
  | true =>
    have hregister : registerCommand stored params = some (registerWith params stored) := by
      simp [registerCommand, hregistrar, hchanged]
    rw [callsReport_iff_of_registered hcommand hregister]
    -- A REGISTER without a registrar is not sent.
    have hdomain : convert2FullDomain stored (some []) = [] := by
      rw [convert2FullDomain_eq_nil_iff]
    simp only [hregistrar, hdomain, ne_eq, not_true_eq_false, false_and, iff_false, false_implies,
      and_true, true_implies, updateState, registers, hchanged]
    cases deviceIsOnline <;> cases networkIsOnline <;> simp

/-- The application names a registrar. -/
theorem callsReport_of_registrar_some {registrar : CString} (hempty : registrar ≠ [])
    (hregistrar : params.registrar = some registrar) :
    CallsReport env ssc stored (some params) deviceIsOnline networkIsOnline ↔
      (params.aor.isSome ∨ stored.aor = some []) ∧
        env.validAddress
          (convert2FullURI (overridden stored params) (params.aor.getD []) (some registrar)) := by
  have hnames : params.registrar.any (· ≠ []) = true := by simp [hregistrar, hempty]
  have hregister : registerCommand stored params =
      some (registerWith params (secured stored params)) := by
    rw [registerCommand, if_pos hnames]
  rw [callsReport_iff_of_registered hcommand hregister]
  -- A registrar that is given and not empty is reported as sent.
  have hstate : updateState stored params deviceIsOnline networkIsOnline = .sentRegister := by
    simp [updateState, hregistrar, hempty, registers]
  -- Securing the parameters changes neither the URI nor the domain.
  have huri :
      convert2FullURI (secured stored params) = convert2FullURI (overridden stored params) :=
    convert2FullURI_secure (secure_secured stored params)
  have hdomain : convert2FullDomain (secured stored params) (some registrar) =
      convert2FullDomain (overridden stored params) (some registrar) := by
    simp only [convert2FullDomain, withScheme, secure_secured]
  have hnonempty : convert2FullDomain (secured stored params) (some registrar) ≠ [] := by
    rw [Ne, convert2FullDomain_eq_nil_iff]
    simpa using hempty
  have hchosen : (overridden stored params).registrar = some registrar := by
    simp [overridden, hregistrar]
  have haors : (overridden stored params).aor = params.aor.or stored.aor := rfl
  simp only [hstate, hnonempty, huri, hchosen, haors, ← hdomain, hregistrar, ne_eq,
    not_false_eq_true, true_and, true_iff]
  cases haor : params.aor with
  | none =>
    -- Without an address the URI is empty, and only an empty stored one matches it.
    have hnil : convert2FullURI (overridden stored params) [] (some registrar) = [] :=
      (convert2FullURI_eq_nil_iff _ _ _).mpr rfl
    have hstored : (∃ a ∈ stored.aor,
        [] = convert2FullURI (overridden stored params) a (some registrar)) ↔
          stored.aor = some [] := by
      simp [@eq_comm _ ([] : CString), convert2FullURI_eq_nil_iff]
    simp only [Option.getD_none, Option.none_or, hnil, hstored, Option.isSome_none,
      Bool.false_eq_true, false_or]
    rw [and_comm, and_congr_left_iff]
    exact fun hvalid => forall_prop_of_true hvalid
  | some aor => simp

end Registrar

/-- With new parameters, the state and the requests agree under the condition on the registrar
that is given. -/
theorem callsReport_some_iff (params : Params) :
    CallsReport env ssc stored (some params) deviceIsOnline networkIsOnline ↔
      CallsReportable env ssc stored (some params) deviceIsOnline networkIsOnline := by
  have hreturns := @isSome_unregisterCommand stored params deviceIsOnline
  unfold CallsReportable
  dsimp only
  rw [← hreturns]
  cases hcommand : unregisterCommand stored params deviceIsOnline with
  | none =>
    -- The dictionary is refused before anything is written.
    have hraises : updateParams stored (some params) deviceIsOnline networkIsOnline = none := by
      rw [updateParams_eq, hcommand, Option.map_none]
    exact iff_of_false (fun ⟨_, _, _, heq, _⟩ => nomatch hraises.symm.trans heq)
      fun h => nomatch h.1
  | some unregister =>
    rw [and_iff_right Option.isSome_some]
    -- Given, empty and absent registrars are the three ways the method goes.
    cases hregistrar : params.registrar with
    | none => exact callsReport_of_registrar_none hcommand hregistrar
    | some registrar =>
      by_cases hempty : registrar = []
      · subst hempty
        exact callsReport_of_registrar_empty hcommand hregistrar
      · rw [callsReport_of_registrar_some hcommand hempty hregistrar]
        split
        · contradiction
        · cases ‹some _ = some []›
          contradiction
        · cases ‹some _ = some _›
          rfl

/-- An update reports its registration truthfully exactly under the condition. -/
theorem callsReport_iff (env : SscEnv) (ssc : Ssc) (stored : Params) (params : Option Params)
    (deviceIsOnline networkIsOnline : Bool) :
    CallsReport env ssc stored params deviceIsOnline networkIsOnline ↔
      CallsReportable env ssc stored params deviceIsOnline networkIsOnline := by
  cases params with
  | none => exact callsReport_none_iff
  | some params => exact callsReport_some_iff params

end Theorem

end RestCommSdk.Proofs
