import RestCommSdk.Proofs.UpdateCommands
import RestCommSdk.RestCommClient.RCDevice

/-!
# `RestCommSdk.Proofs.UpdateParams`: what an update stores

`updateParams:` of `SipManager` stores the keys that it knows, one by one, and
`updateParams:` of `RCDevice` stores all of them when there is no network. `stores_iff` states
when an update stores what it was given, online and offline alike.
-/

set_option autoImplicit false

namespace RestCommSdk.Proofs

open RestCommSdk.Lib
open RestCommSdk.CliInterface
open RestCommSdk.SipManager

/-! ### What is stored -/

/-- The stored parameters with those of the update in place of theirs. -/
def overridden (stored params : Params) : Params where
  aor := params.aor.or stored.aor
  password := params.password.or stored.password
  registrar := params.registrar.or stored.registrar
  signalingSecure := params.signalingSecure.or stored.signalingSecure
  turnUrl := params.turnUrl.or stored.turnUrl
  turnEnabled := params.turnEnabled.or stored.turnEnabled
  turnUsername := params.turnUsername.or stored.turnUsername
  turnPassword := params.turnPassword.or stored.turnPassword
  turnCandidateTimeout := params.turnCandidateTimeout.or stored.turnCandidateTimeout
  iceConfigType := params.iceConfigType.or stored.iceConfigType
  iceDomain := params.iceDomain.or stored.iceDomain
  iceServers := params.iceServers.or stored.iceServers
  certificateDir := params.certificateDir.or stored.certificateDir

/-- The update returns and has stored what it was given. -/
def Stores (params : Params) (app : App) : Prop :=
  ∃ app', RCDevice.updateParams (some params) app = some app' ∧
    app'.params = overridden app.params params

/-- The condition: the keys that the stack is not told of bring nothing new, a
`signaling-secure` that changes nothing is stored already, and there is a password to
unregister with. -/
structure Storable (app : App) (params : Params) : Prop where
  certificateDir : ∀ dir ∈ params.certificateDir, app.params.certificateDir = some dir
  iceDomain : ∀ domain ∈ params.iceDomain, app.params.iceDomain = some domain
  iceServers : ∀ servers ∈ params.iceServers, app.params.iceServers = some servers
  signalingSecure : ∀ secure ∈ params.signalingSecure,
    secure = app.params.secure → app.params.signalingSecure = some secure
  password : unregisters app.params params (app.state ≠ .offline) → app.params.password.isSome

/-- The first value does not show if it is the second, or none. -/
theorem or_eq_right_iff {α : Type} (a b : Option α) : a.or b = b ↔ ∀ x ∈ a, b = some x := by
  cases a <;> simp [eq_comm]

/-- Without a network everything is stored. -/
theorem stores_of_notReachable {app : App} (params : Params)
    (h : app.reachabilityStatus = .notReachable) : Stores params app := by
  refine ⟨{ app with params := RCDevice.keepParams app.params params }, ?_, rfl⟩
  simp [RCDevice.updateParams, h]

/-- What an update with a network stores. -/
theorem params_updateParams (app : App) (params : Params)
    (h : app.reachabilityStatus ≠ .notReachable) :
    (RCDevice.updateParams (some params) app).map (·.params) =
      (unregisterCommand app.params params (app.state ≠ .offline)).map fun _ =>
        storedAfter app.params params := by
  unfold RCDevice.updateParams RCDevice.sipManagerUpdateParams
  rw [if_pos h, updateParams_eq]
  cases unregisterCommand app.params params (app.state ≠ .offline) with
  | none => rfl
  | some unregister =>
    cases updateState app.params params (app.state ≠ .offline) true <;>
      simp [App.notify, RCDevice.offlineOnError]

/-- Everything is stored, if it is none of the three keys or was there already. -/
theorem storedAfter_eq_overridden_iff (stored params : Params) :
    storedAfter stored params = overridden stored params ↔
      (∀ dir ∈ params.certificateDir, stored.certificateDir = some dir) ∧
      (∀ domain ∈ params.iceDomain, stored.iceDomain = some domain) ∧
      (∀ servers ∈ params.iceServers, stored.iceServers = some servers) ∧
      ∀ secure ∈ params.signalingSecure,
        secure = stored.secure → stored.signalingSecure = some secure := by
  -- `signaling-secure` is stored when it changes the meaning of what is stored.
  have hsecure : (if secureChanged stored params then params.signalingSecure
        else stored.signalingSecure) = params.signalingSecure.or stored.signalingSecure ↔
      ∀ secure ∈ params.signalingSecure,
        secure = stored.secure → stored.signalingSecure = some secure := by
    cases hgiven : params.signalingSecure with
    | none => simp [secureChanged, hgiven]
    | some secure =>
      by_cases hsame : secure = stored.secure
      · simp [secureChanged, hgiven, hsame]
      · simp [secureChanged, hgiven, hsame]
  -- The keys that are not copied must have been stored before.
  rw [← hsecure, ← or_eq_right_iff, ← or_eq_right_iff, ← or_eq_right_iff]
  simp only [storedAfter, overridden, secured, Params.mk.injEq, true_and]
  constructor
  · rintro ⟨h₁, h₂, h₃, h₄⟩
    exact ⟨h₄.symm, h₂.symm, h₃.symm, h₁⟩
  · rintro ⟨h₁, h₂, h₃, h₄⟩
    exact ⟨h₄, h₂.symm, h₃.symm, h₁.symm⟩

/-- An update stores what it was given, with a network and without, exactly under the
condition. -/
theorem stores_iff (app : App) (params : Params) :
    (∀ status, Stores params { app with reachabilityStatus := status }) ↔
      Storable app params := by
  -- With a network, all is stored unless the dictionary for `u` cannot be made.
  have honline : ∀ status, status ≠ NetworkStatus.notReachable →
      (Stores params { app with reachabilityStatus := status } ↔
        (unregisterCommand app.params params (app.state ≠ .offline)).isSome ∧
          storedAfter app.params params = overridden app.params params) := fun status h => by
    have hparams := params_updateParams { app with reachabilityStatus := status } params h
    simp only [Stores, ← Option.map_eq_some_iff, hparams]
    cases unregisterCommand app.params params (app.state ≠ .offline) <;> simp
  have hall : (∀ status, Stores params { app with reachabilityStatus := status }) ↔
      (unregisterCommand app.params params (app.state ≠ .offline)).isSome ∧
        storedAfter app.params params = overridden app.params params := by
    -- Without a network nothing is stored, so the statement is about all states of it.
    refine ⟨fun h => (honline .reachableViaWiFi nofun).mp (h _), fun h status => ?_⟩
    by_cases hstatus : status = .notReachable
    · exact stores_of_notReachable params hstatus
    · exact (honline status hstatus).mpr h
  rw [hall, isSome_unregisterCommand, storedAfter_eq_overridden_iff]
  constructor
  · rintro ⟨hpassword, hdir, hdomain, hservers, hsecure⟩
    exact ⟨hdir, hdomain, hservers, hsecure, hpassword⟩
  · rintro ⟨hdir, hdomain, hservers, hsecure, hpassword⟩
    exact ⟨hpassword, hdir, hdomain, hservers, hsecure⟩

/-- A certificate directory that is given while there is a network is not stored. -/
theorem certificateDir_not_stored :
    ∃ app', RCDevice.updateParams (some { certificateDir := some "/certs".toList })
        { state := .ready } = some app' ∧
      app'.params.certificateDir = none ∧
      (overridden {} { certificateDir := some "/certs".toList }).certificateDir
        = some "/certs".toList :=
  ⟨_, rfl, rfl, rfl⟩

end RestCommSdk.Proofs
