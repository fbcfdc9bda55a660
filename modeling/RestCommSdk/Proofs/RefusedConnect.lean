import RestCommSdk.Proofs.OneEnd
import RestCommSdk.Proofs.StrayMedia

/-!
# `RestCommSdk.Proofs.RefusedConnect`: a call that is refused

`connect:delegate:` returns `nil` at once unless the device is Ready. A Ready device first makes
the connection, and `nil` can still come of two things: `invite:withVideo:customHeaders:` refuses
the call, because there is still a media session, or a permission is refused without a prompt, and
the error clears the current connection, which is what `connect:delegate:` returns. Then what was
written stays written.

`refused_of_leftOver` and `refused_of_denied` are the two, `returned_connect` is the call that is
not refused, and `refusedCleanly_iff` is about every run.
-/

set_option autoImplicit false

namespace RestCommSdk.Proofs

open RestCommSdk.Lib
open RestCommSdk.CliInterface (CString SipMsgEnum)
open RestCommSdk.SipManager (NSDictionary)

/-- What a refused call has to leave as it was. -/
structure SameDevice (app app' : App) : Prop where
  state : app'.state = app.state
  currentConnection : app'.currentConnection = app.currentConnection
  connectionDelegate : app'.connectionDelegate = app.connectionDelegate
  activeCallParams : app'.activeCallParams = app.activeCallParams
  videoAllowed : app'.videoAllowed = app.videoAllowed

/-- If `connect:delegate:` returns `nil` in this step, it has changed nothing. -/
def RefusedCleanly (s : MainThread) (input : MainInput) (s' : MainThread) : Prop :=
  match input with
  | .app (.connect auth recipient video headers) =>
    (RCDevice.connect auth recipient video headers s.app.silent).map (·.2) = some none →
      SameDevice s.app s'.app
  | _ => True

/-- When a call is placed, a Ready device has no media session left over, and neither the
microphone nor, for a video call, the camera is refused without a prompt. -/
def NothingRefuses (s : MainThread) (input : MainInput) : Prop :=
  match input with
  | .app (.connect auth _ video _) =>
    s.app.state = .ready → s.app.media = none ∧ requestDenies auth video = false
  | _ => True

section Connect
variable {auth : AVMediaType → AVAuthorizationStatus} {app app' : App} {recipient : CString}
  {video : Bool} {headers : Option NSDictionary} {returned : Option Nat}

/-- Nothing was done to the device. -/
theorem SameDevice.refl (app : App) : SameDevice app app := ⟨rfl, rfl, rfl, rfl, rfl⟩

/-- What was sent and notified before the step does not count. -/
theorem sameDevice_silent : SameDevice app.silent app' ↔ SameDevice app app' :=
  ⟨fun h => ⟨h.state, h.currentConnection, h.connectionDelegate, h.activeCallParams,
      h.videoAllowed⟩,
    fun h => ⟨h.state, h.currentConnection, h.connectionDelegate, h.activeCallParams,
      h.videoAllowed⟩⟩

/-- A device that is not Ready returns before it writes anything. -/
theorem connect_of_not_ready (hready : app.state ≠ .ready) :
    RCDevice.connect auth recipient video headers app = some (app, none) := if_pos hready

/-- A Ready device with a session left over refuses, and is Busy. -/
theorem refused_of_leftOver (hready : app.state = .ready) (hmedia : app.media ≠ none)
    (h : RCDevice.connect auth recipient video headers app = some (app', returned)) :
    returned = none ∧ app'.state = .busy := by
  obtain ⟨app₂, invited, hinvite, rfl, rfl⟩ := connect_made hready h
  obtain ⟨-, rfl, rfl⟩ := (invite_cases hinvite).resolve_right fun hnone => hmedia hnone.1
  -- The connection was made before `invite:` has refused, and is not handed out.
  exact ⟨rfl, rfl⟩

/-- The chain that a call without a session left over starts, and what is returned after it. -/
theorem chain_connect (hready : app.state = .ready) (hmedia : app.media = none)
    (h : RCDevice.connect auth recipient video headers app = some (app', returned)) :
    ∃ app₂, ChainEnd app.connections.length (requestDenies auth video) (requestGrants auth video)
        (dial app.connections.length recipient video headers
          (RCDevice.makeConnection { incoming := false, state := .pending } app)) app₂ ∧
      app' = app₂.setConnection app.connections.length
        (fun connection => { connection with held := true }) ∧
      returned = app₂.currentConnection := by
  obtain ⟨app₂, invited, hinvite, rfl, rfl⟩ := connect_made hready h
  obtain ⟨-, rfl, hchain⟩ := (invite_cases hinvite).resolve_left fun hleft => hleft.1 hmedia
  exact ⟨app₂, chainEnd_dial hchain, rfl, rfl⟩

/-- The connection that is dialled has been made. -/
theorem delegateMade_dial : DelegateMade (dial app.connections.length recipient video headers
    (RCDevice.makeConnection { incoming := false, state := .pending } app)) := by
  refine (sameCalls_dial _ recipient video headers _).delegateMade ?_
  simp [DelegateMade, RCDevice.makeConnection]

/-- A permission that is refused without a prompt ends the call before `connect:delegate:`
returns: it returns `nil`, and the new connection stays the delegate of `SipManager`. -/
theorem refused_of_denied (hready : app.state = .ready) (hmedia : app.media = none)
    (hdenies : requestDenies auth video = true)
    (h : RCDevice.connect auth recipient video headers app = some (app', returned)) :
    returned = none ∧ app'.connectionDelegate = some app.connections.length := by
  obtain ⟨app₂, hchain, rfl, rfl⟩ := chain_connect hready hmedia h
  have heffect := chainEffect_chainEnd delegateMade_dial hchain
  rw [ChainEffect, if_pos hdenies, EndsDelegate, connectionDelegate_dial] at heffect
  refine ⟨heffect.current, Option.filter_eq_some_iff.mpr ⟨heffect.delegate, ?_⟩⟩
  -- The application was given the connection with the error.
  have hlt : app.connections.length < app₂.connections.length := by
    rw [heffect.length]
    simp [dial, App.setConnection, RCDevice.makeConnection]
  obtain ⟨connection, hc⟩ := Option.isSome_iff_exists.mp (App.isSome_connection?.mpr hlt)
  refine decide_eq_true (.inr ⟨{ connection with held := true }, ?_, rfl⟩)
  rw [App.connection?_setConnection, if_pos rfl, hc]
  rfl

/-- The connection of a call that is not refused is returned. -/
theorem returned_connect (hready : app.state = .ready) (hmedia : app.media = none)
    (hdenies : requestDenies auth video = false)
    (h : RCDevice.connect auth recipient video headers app = some (app', returned)) :
    returned = some app.connections.length := by
  obtain ⟨app₂, hchain, rfl, rfl⟩ := chain_connect hready hmedia h
  have heffect := chainEffect_chainEnd delegateMade_dial hchain
  rw [ChainEffect, if_neg (by simp [hdenies])] at heffect
  exact heffect.current

/-- A refusal changes nothing exactly when the device is not Ready, or has no session left over
and no permission is refused. -/
theorem refusedCleanly_connect (hmade : DelegateMade app)
    (h : RCDevice.connect auth recipient video headers app = some (app', returned)) :
    (returned = none → SameDevice app app') ↔
      (app.state = .ready → app.media = none ∧ requestDenies auth video = false) := by
  by_cases hready : app.state = .ready
  · by_cases hmedia : app.media = none
    · cases hdenies : requestDenies auth video with
      | false =>
        have hreturned := returned_connect hready hmedia hdenies h
        exact ⟨fun _ _ => ⟨hmedia, rfl⟩, fun _ hnil => by simp [hreturned] at hnil⟩
      | true =>
        obtain ⟨hnil, hdelegate⟩ := refused_of_denied hready hmedia hdenies h
        refine ⟨fun hclean _ => ?_, fun hrefuses => by simpa using hrefuses hready⟩
        -- The delegate of before is a connection that had been made then.
        have hsame := (hclean hnil).connectionDelegate
        have hlt := hmade _ (App.mem_delegate (hsame.symm.trans hdelegate))
        exact absurd hlt (lt_irrefl _)
    · obtain ⟨hnil, hbusy⟩ := refused_of_leftOver hready hmedia h
      refine ⟨fun hclean _ => ?_, fun hrefuses => absurd (hrefuses hready).1 hmedia⟩
      have hstate := (hclean hnil).state
      rw [hbusy, hready] at hstate
      cases hstate
  · rw [connect_of_not_ready hready] at h
    cases h
    exact ⟨fun _ hstate => absurd hstate hready, fun _ _ => SameDevice.refl _⟩

end Connect

/-- In every run, the calls that are refused change nothing exactly when no call is placed on a
Ready device with a media session left over or a permission that is refused without a prompt. -/
theorem refusedCleanly_iff (jsonObject : CString → Option NSDictionary)
    (params : SipManager.Params) (status : NetworkStatus) (inputs : List MainInput) :
    AllSteps (mainStep jsonObject) RefusedCleanly
        { app := RCDevice.initWithParams params status } inputs ↔
      AllSteps (mainStep jsonObject) (fun s input _ => NothingRefuses s input)
        { app := RCDevice.initWithParams params status } inputs := by
  refine AllSteps.iff_of_inv (fun s => DelegateMade s.app) ?_
    (delegateMade_initWithParams params status) inputs
  intro s input s' hmade hstep
  refine ⟨?_, fun _ => (told_mainStep hmade hstep).1.delegate⟩
  cases input with
  -- Only `connect:delegate:` is asked for a connection.
  | resume => exact Iff.rfl
  | app input =>
    cases input with
    | connect auth recipient video headers =>
      obtain ⟨⟨app', rests⟩, henter, hs'⟩ := Option.bind_eq_some_iff.mp hstep
      obtain ⟨app₁, happ, hpair⟩ := Option.map_eq_some_iff.mp henter
      obtain ⟨⟨app₂, returned⟩, hconnect, rfl⟩ := Option.map_eq_some_iff.mp happ
      cases hpair
      cases hs'
      have hsilent : DelegateMade s.app.silent := hmade
      have hiff := refusedCleanly_connect hsilent hconnect
      rw [sameDevice_silent] at hiff
      simp only [RefusedCleanly, NothingRefuses, hconnect, Option.map_some, Option.some.injEq]
      exact hiff
    | _ => exact Iff.rfl

/-- The caller cancels after the call was accepted, and the application places a call. -/
def callAfterCancel : List MainInput :=
  [.app (.reply announcedCall true), .resume,
    .app (.accept 0 (fun _ => .authorized) false), .resume,
    .app (.reply (SipMsgEnum.incomingCancelled.replyWith []) true), .resume]

/-- The call is refused, and the device is Busy with a connection that nobody has. -/
theorem refused_call_leaves_device_busy :
    ∃ s s', run (mainStep Json.read) { app := RCDevice.initWithParams {} .reachableViaWiFi }
        callAfterCancel = some s ∧
      mainStep Json.read s
        (.app (.connect (fun _ => .authorized) "sip:c@h".toList true none)) = some s' ∧
      (RCDevice.connect (fun _ => .authorized) "sip:c@h".toList true none s.app.silent).map (·.2)
        = some none ∧
      s.app.state = .ready ∧ s'.app.state = .busy ∧
      s'.app.currentConnection = some 1 ∧ s'.app.videoAllowed ≠ s.app.videoAllowed ∧
      ¬ RefusedCleanly s (.app (.connect (fun _ => .authorized) "sip:c@h".toList true none))
        s' := by
  refine ⟨_, _, rfl, rfl, rfl, rfl, rfl, rfl, by decide, fun hclean => ?_⟩
  cases (hclean rfl).state

end RestCommSdk.Proofs
