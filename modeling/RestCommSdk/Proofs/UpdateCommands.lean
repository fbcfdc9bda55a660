import RestCommSdk.SipManager.Commands

/-!
# `RestCommSdk.Proofs.UpdateCommands`: the result of `updateParams:`

`updateParams:` collects its actions block by block, and a later block may overwrite what an
earlier one collected. `updateParams_eq` writes the result at once: the unregister command, the
register command, the address command, the returned state and the stored parameters, each by
its own definition. What an update sends, reports and stores is read off it.
-/

set_option autoImplicit false

namespace RestCommSdk.Proofs

open RestCommSdk.CliInterface (CString)
open RestCommSdk.SipManager

/-! ### When an update unregisters and registers -/

/-- The update turns secure signalling on or off. -/
def secureChanged (stored params : Params) : Bool :=
  params.signalingSecure.any (· ≠ stored.secure)

/-- The update unregisters: it changes the security, or leaves a registrar while online. -/
def unregisters (stored params : Params) (deviceIsOnline : Bool) : Bool :=
  secureChanged stored params ||
    (params.registrar.isSome && stored.registrar ≠ some [] &&
      stored.registrar ≠ params.registrar && deviceIsOnline)

/-- The update registers: it changes the security, or names a registrar. -/
def registers (stored params : Params) : Bool :=
  secureChanged stored params || params.registrar.any (· ≠ [])

/-! ### The parts of the result -/

section Update
variable (stored params : Params)

/-- The stored parameters once the block about `signaling-secure` is through. -/
def secured : Params :=
  { stored with signalingSecure :=
      if secureChanged stored params then params.signalingSecure else stored.signalingSecure }

/-- The unregister command. It needs the stored password. -/
def unregisterCommand (deviceIsOnline : Bool) : Option (Option Command) :=
  if unregisters stored params deviceIsOnline then
    stored.password.map fun password => some (.unregister password)
  else some none

/-- The register command, when `s` are the parameters that it is made with. -/
def registerWith (s : Params) : Command :=
  .register (some (convert2FullURI s (params.aor.getD []) params.registrar))
    (convert2FullDomain s params.registrar) (params.password.getD [])

/-- The register command. The block about `signaling-secure` makes it before the new value is
stored, and the block about `registrar` makes it anew. -/
def registerCommand : Option Command :=
  if params.registrar.any (· ≠ []) then some (registerWith params (secured stored params))
  else if secureChanged stored params then some (registerWith params stored)
  else none

/-- The address command. -/
def addressCommand : Option Command :=
  if registers stored params then none
  else
    params.aor.map fun aor =>
      .address (convert2FullURI (secured stored params) aor
        (params.registrar.or stored.registrar))

/-- The returned state. -/
def updateState (deviceIsOnline networkIsOnline : Bool) : UpdateParamsState :=
  if params.registrar = some [] && stored.registrar ≠ some [] && !deviceIsOnline &&
      networkIsOnline then
    .reestablishedRegistrarless
  else if registers stored params then .sentRegister
  else .unassigned

/-- The stored parameters after an update that goes to the stack. -/
def storedAfter : Params :=
  { secured stored params with
    aor := params.aor.or stored.aor
    password := params.password.or stored.password
    registrar := params.registrar.or stored.registrar
    turnUrl := params.turnUrl.or stored.turnUrl
    turnEnabled := params.turnEnabled.or stored.turnEnabled
    turnUsername := params.turnUsername.or stored.turnUsername
    turnPassword := params.turnPassword.or stored.turnPassword
    turnCandidateTimeout := params.turnCandidateTimeout.or stored.turnCandidateTimeout
    iceConfigType := params.iceConfigType.or stored.iceConfigType }

/-- A register command is made with some parameters, exactly when the update registers. -/
theorem registerCommand_cases :
    registers stored params = false ∧ registerCommand stored params = none ∨
      registers stored params = true ∧
        ∃ s, registerCommand stored params = some (registerWith params s) := by
  unfold registerCommand registers
  cases hnames : params.registrar.any (· ≠ []) with
  | true => exact .inr ⟨Bool.or_true _, _, rfl⟩
  | false =>
    cases hchanged : secureChanged stored params with
    | true => exact .inr ⟨rfl, _, rfl⟩
    | false => exact .inl ⟨rfl, rfl⟩

/-- When the device works without a registrar again. -/
theorem updateState_eq_reestablished (deviceIsOnline networkIsOnline : Bool) :
    updateState stored params deviceIsOnline networkIsOnline = .reestablishedRegistrarless ↔
      params.registrar = some [] ∧ stored.registrar ≠ some [] ∧ deviceIsOnline = false ∧
        networkIsOnline = true := by
  unfold updateState
  split
  · rename_i hreestablished
    simpa [and_assoc] using hreestablished
  · rename_i hreestablished
    refine iff_of_false (by split <;> nofun) fun h => hreestablished ?_
    simpa [and_assoc] using h

variable {stored params}

/-! ### The blocks -/

/-- The block about `signaling-secure`. -/
theorem signalingSecure_eq :
    Update.signalingSecure { stored := stored } params =
      if secureChanged stored params then
        stored.password.map fun password =>
          { unregister := some (.unregister password), register := some (registerWith params stored)
            state := .sentRegister, aorUpdated := true, stored := secured stored params }
      else some { stored := stored } := by
  unfold Update.signalingSecure
  cases hsecure : params.signalingSecure with
  | none => simp [secureChanged, hsecure]
  | some secure =>
    by_cases hsame : secure = stored.secure
    · simp [secureChanged, hsecure, hsame]
    · -- It was changed, so the registration is given up and made again.
      have hchanged : secureChanged stored params = true := by
        simp [secureChanged, hsecure, hsame]
      rw [if_pos hchanged]
      cases hpassword : stored.password with
      -- Without a stored password the dictionary would hold nil.
      | none => simp [hsame, Update.setUnregister, hpassword]
      | some password =>
        simp [hsame, Update.setUnregister, hpassword, Update.setRegister, registerWith, secured,
          hchanged, hsecure]

/-- Of the parameters, the conversion of a URI reads `signaling-secure` only. -/
theorem convert2FullURI_secure {p q : Params} (h : p.secure = q.secure) :
    convert2FullURI p = convert2FullURI q := by
  funext original domain
  simp only [convert2FullURI, withScheme, h]

/-- The update returns when it has the password that it needs. -/
theorem isSome_unregisterCommand {deviceIsOnline : Bool} :
    (unregisterCommand stored params deviceIsOnline).isSome ↔
      (unregisters stored params deviceIsOnline → stored.password.isSome) := by
  unfold unregisterCommand
  split <;> simp [*]

/-- The update leaves a registrar while online. -/
def leaves (stored params : Params) (deviceIsOnline : Bool) : Bool :=
  params.registrar.isSome && stored.registrar ≠ some [] && stored.registrar ≠ params.registrar &&
    deviceIsOnline

/-- An unregistration needs the stored password. -/
theorem setUnregister_eq {u : Update} (hpassword : u.stored.password = stored.password) :
    u.setUnregister =
      stored.password.map fun password => { u with unregister := some (.unregister password) } := by
  rw [Update.setUnregister, hpassword]
  cases stored.password <;> rfl

/-- The block about `registrar`. -/
theorem registrar_eq (stored : Params) {u : Update}
    (hregistrar : u.stored.registrar = stored.registrar)
    (hpassword : u.stored.password = stored.password)
    (deviceIsOnline networkIsOnline : Bool) :
    u.registrar params deviceIsOnline networkIsOnline =
      (if leaves stored params deviceIsOnline then
          stored.password.map fun password => some (.unregister password)
        else some u.unregister).map fun unregister =>
      let names := params.registrar.any (· ≠ [])
      { unregister := unregister
        register := if names then some (registerWith params u.stored) else u.register
        address := u.address
        state :=
          if params.registrar = some [] && stored.registrar ≠ some [] && !deviceIsOnline &&
              networkIsOnline then
            .reestablishedRegistrarless
          else if names then .sentRegister
          else u.state
        aorUpdated := names || u.aorUpdated
        stored := { u.stored with registrar := params.registrar.or stored.registrar } } := by
  unfold Update.registrar
  cases hgiven : params.registrar with
  -- The registrar is not given, and nothing is done about it.
  | none => simp [leaves, hgiven, hregistrar.symm]
  | some registrar =>
    dsimp only
    unfold Update.registrarActions
    rw [hregistrar]
    by_cases hempty : registrar = []
    · -- An empty one: the device goes registrarless.
      subst hempty
      by_cases hwas : stored.registrar = some []
      · simp [leaves, hgiven, hwas]
      · cases deviceIsOnline <;> cases networkIsOnline <;>
          simp [leaves, hgiven, hwas, setUnregister_eq hpassword, Function.comp_def]
    · by_cases hleaves : stored.registrar ≠ some [] ∧ stored.registrar ≠ some registrar ∧
          deviceIsOnline
      · -- Another registrar is given, while the device is registered with the old one.
        simp [leaves, hgiven, hempty, hleaves, setUnregister_eq hpassword, Function.comp_def,
          Update.setRegister, registerWith]
      · -- The registrar is the one of before, or there is nothing to give up.
        have hstays : leaves stored params deviceIsOnline = false := by
          simpa [leaves, hgiven] using hleaves
        simp [hgiven, hempty, hleaves, hstays, Update.setRegister, registerWith]

/-- The two blocks that may unregister and register, together. -/
theorem signalingSecure_registrar_eq (deviceIsOnline networkIsOnline : Bool) :
    ((Update.signalingSecure { stored := stored } params).bind fun u =>
        u.registrar params deviceIsOnline networkIsOnline) =
      (unregisterCommand stored params deviceIsOnline).map fun unregister =>
        { unregister := unregister
          register := registerCommand stored params
          state := updateState stored params deviceIsOnline networkIsOnline
          aorUpdated := registers stored params
          stored := { secured stored params with
            registrar := params.registrar.or stored.registrar } } := by
  have hunregisters : unregisters stored params deviceIsOnline =
    (secureChanged stored params || leaves stored params deviceIsOnline) := rfl
  rw [signalingSecure_eq, unregisterCommand, hunregisters]
  cases hchanged : secureChanged stored params with
  | false =>
    -- Nothing was secured, so the registrar is looked at with the stored parameters.
    have hsecured : secured stored params = stored := by simp [secured, hchanged]
    rw [if_neg Bool.false_ne_true, Option.bind_some, registrar_eq stored rfl rfl]
    simp [hsecured, registerCommand, updateState, registers, hchanged, Bool.or_comm]
  | true =>
    cases hpassword : stored.password with
    | none => rfl
    | some password =>
      rw [if_pos rfl, Option.map_some, Option.bind_some]
      -- The `u` line is there already, and giving up the registrar writes no other.
      refine (registrar_eq stored ?_ ?_ deviceIsOnline networkIsOnline).trans ?_
      · rfl
      · rfl
      · simp [hpassword, registerCommand, updateState, registers, hchanged]

/-- An update with the parts of it named. -/
theorem updateParams_eq (deviceIsOnline networkIsOnline : Bool) :
    updateParams stored (some params) deviceIsOnline networkIsOnline =
      (unregisterCommand stored params deviceIsOnline).map fun unregister =>
        (unregister.toList ++ (registerCommand stored params).toList ++
            (addressCommand stored params).toList,
          updateState stored params deviceIsOnline networkIsOnline,
          storedAfter stored params) := by
  -- The first two blocks together, and then the address.
  have hblocks := @signalingSecure_registrar_eq stored params deviceIsOnline networkIsOnline
  unfold updateParams
  dsimp only
  simp only [Option.bind_eq_bind]
  rw [← Option.bind_assoc, hblocks]
  cases unregisterCommand stored params deviceIsOnline with
  | none => rfl
  | some unregister =>
    rw [Option.map_some, Option.map_some, Option.bind_some]
    unfold Update.aor
    cases haor : params.aor with
    | none => simp [Update.commands, addressCommand, Update.storeOthers, storedAfter, haor, secured]
    | some aor =>
      -- The address is read without `aor` and `registrar` of its own.
      have huri : ∀ r,
          convert2FullURI { secured stored params with aor := some aor, registrar := r }
            = convert2FullURI (secured stored params) := fun _ => convert2FullURI_secure rfl
      cases hregisters : registers stored params with
      | false =>
        simp [Update.commands, addressCommand, Update.storeOthers, storedAfter, haor, hregisters,
          huri]
        simp [secured]
      | true =>
        simp [Update.commands, addressCommand, Update.storeOthers, storedAfter, haor, hregisters,
          secured]

end Update

end RestCommSdk.Proofs
