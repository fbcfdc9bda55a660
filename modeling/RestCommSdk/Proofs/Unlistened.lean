import RestCommSdk.Lib.Json
import RestCommSdk.Proofs.DeviceStates

/-!
# `RestCommSdk.Proofs.Unlistened`: what brings a device back after `unlisten`

The signalling stack shuts down on its own thread, and the application keeps its connections,
so a good deal may still happen after `unlisten`. Only the callback for a BYE looks whether
the device is Offline before it makes it Ready. `staysOffline_iff`: until the application
listens or updates its parameters, the device stays Offline exactly when no other callback
that writes the state comes.
-/

set_option autoImplicit false

namespace RestCommSdk.Proofs

open RestCommSdk.Lib
open RestCommSdk.CliInterface (CString SofiaReply SipMsgEnum)
open RestCommSdk.SipManager (NSDictionary Params)

/-- The application does not ask the device to come back. -/
def Late : AppInput → Prop
  | .listen _ | .updateParams _ => False
  | _ => True

instance : DecidablePred Late := fun input => by
  unfold Late
  split <;> infer_instance

/-! ### The condition -/

/-- The reply comes too late to be told to anybody, or does not touch the device. -/
def LateReply (app : App) (reply : SofiaReply) : Prop :=
  match SipMsgEnum.ofCode reply.rc with
  | some .incomingCall | some .registerSuccess => False
  | some .incomingCancelled | some .outgoingCancelled | some .outgoingDeclined
  | some .errorSipInviteGeneric | some .errorSipInviteAuthentication
  | some .errorSipInviteTimeout | some .errorSipInviteNotFound
  | some .errorSipInviteSipUriInvalid => app.connectionDelegate = none
  | _ => True

/-- The condition on a step, of its input and the state before it. -/
def StaysOffline (app : App) : AppInput → Prop
  | .accept c auth video => Rings app c → requestDenies auth video → app.connectionDelegate = none
  | .reject c => ¬ Rings app c
  | .disconnect _ => False
  | .permissionAnswered auth n granted =>
    ∀ request ∈ app.permissionRequests[n]?,
      responseDenies auth request.mediaType app.videoAllowed granted →
        app.connectionDelegate = none
  | .turnAnswered _ success => success = false → app.connectionDelegate = none
  | .didCreateSessionDescription _ sdp => sdp = none → app.connectionDelegate = none
  | .didSetSessionDescriptionWithError _ => app.connectionDelegate = none
  | .iceFailed _ => app.connectionDelegate = none
  | .iceGatheringComplete m =>
    ∀ media ∈ app.media? m, media.iceCandidates = 0 → app.connectionDelegate = none
  | .reply reply _ => LateReply app reply
  | _ => True

/-! ### What effects do to the state -/

/-- What is to be shown of a step: a device that was Offline stays so exactly under the
condition. The delegate pointer names a connection that was made. -/
structure Stays (q : Prop) (app app' : App) : Prop where
  made : DelegateMade app'
  offline : app.state = .offline → (app'.state = .offline ↔ q)

section Effects
variable {q : Prop} {app app' : App}

/-- The state of the device is as it was. -/
theorem stays_of_state (hmade : DelegateMade app') (hstate : app'.state = app.state)
    (hq : app.state = .offline → q) : Stays q app app' :=
  ⟨hmade, fun hoffline => iff_of_true (hstate.trans hoffline) (hq hoffline)⟩

/-- Nothing happened to the calls. -/
theorem stays_same (hmade : DelegateMade app) (h : SameCalls app app')
    (hq : app.state = .offline → q) : Stays q app app' :=
  stays_of_state (h.delegateMade hmade) h.state hq

/-- The device is Offline afterwards. -/
theorem stays_of_offline (hmade : DelegateMade app') (hstate : app'.state = .offline) (hq : q) :
    Stays q app app' :=
  ⟨hmade, fun _ => iff_of_true hstate hq⟩

/-- The device is not Offline afterwards, so it must not have been before. -/
theorem stays_of_online (hmade : DelegateMade app') (hstate : app'.state ≠ .offline)
    (hq : app.state = .offline → ¬ q) : Stays q app app' :=
  ⟨hmade, fun hoffline => iff_of_false hstate (hq hoffline)⟩

/-- The end of a call makes the device Ready, so there must be no delegate. -/
theorem stays_endsDelegate (hmade : DelegateMade app) (h : EndsDelegate app app') :
    Stays (app.connectionDelegate = none) app app' := by
  unfold EndsDelegate at h
  cases hd : app.connectionDelegate with
  | none =>
    simp only [hd] at h
    exact stays_same hmade h fun _ => rfl
  | some d =>
    simp only [hd] at h
    exact stays_of_online (Effect.delegateMade h hmade) (by simp [h.state]) fun _ => nofun

/-- A chain that is refused ends the call of the delegate. -/
theorem stays_chain {denied : Bool} (hmade : DelegateMade app) (h : ChainEffect denied app app') :
    Stays (denied → app.connectionDelegate = none) app app' := by
  unfold ChainEffect at h
  cases denied with
  | false => exact stays_same hmade (by simpa using h) fun _ => nofun
  | true => simpa using stays_endsDelegate hmade (by simpa using h)

/-- What follows a step that did nothing to the calls. -/
theorem Stays.of_same {app₁ : App} (h : Stays q app₁ app') (hsame : SameCalls app app₁) :
    Stays q app app' :=
  ⟨h.made, fun hoffline => h.offline (hsame.state.trans hoffline)⟩

end Effects

/-! ### Calls of the application -/

section Methods
variable {app app' : App}

/-- A state is set, and no connection made. -/
theorem delegateMade_setState {c : Nat} {state : RCConnectionState} (h : DelegateMade app) :
    DelegateMade (RCConnection.setState state c app) := by
  simpa [DelegateMade, RCConnection.setState, App.setConnection] using h

/-- Accepting a call that rings runs the chain. -/
theorem stays_accept {auth : AVMediaType → AVAuthorizationStatus} {video : Bool} {c : Nat}
    (hmade : DelegateMade app) (h : RCConnection.accept auth video c app = some app') :
    Stays (Rings app c → requestDenies auth video → app.connectionDelegate = none) app app' := by
  obtain ⟨connection, hc, ⟨hrings, app₂, hchain, rfl⟩ | ⟨hrings, rfl⟩⟩ := accept_cases h
  · unfold SipManager.answerWithVideo at hchain
    have hrings : Rings app c := ⟨connection, hc, hrings⟩
    have hchain := chainEffect_permissionFsmRequest (by exact hmade) hchain
    have hchain : ChainEffect (requestDenies auth video) app app₂ :=
      hchain.of_same (.of_eq rfl rfl rfl rfl) rfl
    -- That the connection gets Connected does not touch the device.
    obtain ⟨hmade₂, hoffline⟩ := stays_chain hmade hchain
    simp only [hrings, forall_const]
    exact ⟨delegateMade_setState hmade₂, hoffline⟩
  · refine stays_same hmade (.refl app') fun _ hr => ?_
    obtain ⟨connection', hc', hr⟩ := hr
    cases hc.symm.trans hc'
    rw [hrings] at hr
    cases hr

/-- Rejecting a call that rings makes the device Ready. -/
theorem stays_reject {c : Nat} (hmade : DelegateMade app) :
    Stays (¬ Rings app c) app (RCConnection.reject c app) := by
  unfold RCConnection.reject
  split
  · rename_i hnone
    exact stays_same hmade (.refl app) fun _ hrings => by simp [Rings, hnone] at hrings
  · rename_i connection hc
    split
    · rename_i hrings
      exact stays_of_online hmade (fun hoffline => by cases hoffline) fun _ hnot =>
        hnot ⟨connection, hc, hrings⟩
    · rename_i hrings
      refine stays_same hmade (.refl app) fun _ hr => hrings ?_
      obtain ⟨connection', hc', hr⟩ := hr
      cases hc.symm.trans hc'
      exact hr

/-- Hanging up makes no connection. -/
theorem delegateMade_disconnectAll (h : DelegateMade app) :
    DelegateMade (RCDevice.disconnectAll app) := by
  obtain ⟨hdelegate, hlength⟩ := names_disconnectAll app
  simpa only [DelegateMade, hdelegate, hlength] using h

/-- A device that stops to listen is Offline, also when it was so before. -/
theorem state_unlisten (app : App) : (RCDevice.unlisten app).state = .offline := by
  unfold RCDevice.unlisten
  split
  · rfl
  · rename_i hoffline
    exact not_not.mp hoffline

/-- `unlisten` leaves the device Offline. -/
theorem stays_unlisten (hmade : DelegateMade app) : Stays True app (RCDevice.unlisten app) := by
  refine stays_of_offline ?_ (state_unlisten app) trivial
  unfold RCDevice.unlisten
  split
  · exact delegateMade_disconnectAll hmade
  · exact hmade

/-- A change of the network leaves an Offline device Offline. -/
theorem stays_checkNetworkStatus {newStatus : NetworkStatus} (hmade : DelegateMade app) :
    Stays True app (RCDevice.checkNetworkStatus newStatus app) := by
  unfold RCDevice.checkNetworkStatus
  split
  · exact (stays_unlisten (by exact hmade)).of_same (.of_eq rfl rfl rfl rfl)
  · split
    · exact stays_same hmade (.of_eq rfl rfl rfl rfl) fun _ => trivial
    · exact stays_same hmade (.of_eq rfl rfl rfl rfl) fun _ => trivial

/-- An Offline device refuses to connect. -/
theorem stays_connect {auth : AVMediaType → AVAuthorizationStatus} {recipient : CString}
    {video : Bool} {headers : Option NSDictionary} (hmade : DelegateMade app)
    (h : (RCDevice.connect auth recipient video headers app).map (·.1) = some app') :
    Stays True app app' := by
  rcases connect_cases h with ⟨-, rfl⟩ | ⟨hready, app₂, invited, hinvite, rfl⟩
  · exact stays_same hmade (.refl app') fun _ => trivial
  · refine ⟨?_, fun hoffline => absurd hoffline (by simp [hready])⟩
    have hmade₁ : DelegateMade
        (RCDevice.makeConnection { incoming := false, state := .pending } app) := by
      simp [DelegateMade, RCDevice.makeConnection]
    have hmade₂ : DelegateMade app₂ := by
      rcases invite_cases hinvite with ⟨-, -, rfl⟩ | ⟨-, -, hchain⟩
      · exact hmade₁
      · have hsame := sameCalls_dial app.connections.length recipient video headers
          (RCDevice.makeConnection { incoming := false, state := .pending } app)
        have hmade₃ := hsame.delegateMade hmade₁
        exact (stays_chain hmade₃ (chainEffect_permissionFsmRequest hmade₃ hchain)).made
    simpa [DelegateMade, App.setConnection] using hmade₂

/-- An update makes no connection. -/
theorem delegateMade_updateParams {params : Option Params} (hmade : DelegateMade app)
    (h : RCDevice.updateParams params app = some app') : DelegateMade app' := by
  unfold RCDevice.updateParams at h
  split at h
  · obtain ⟨⟨app₁, state⟩, hupdate, h⟩ := Option.bind_eq_some_iff.mp h
    have hmade₁ := (sameCalls_updateParams hupdate).delegateMade hmade
    cases state <;> cases h <;> exact hmade₁
  · cases h
    exact hmade

/-- `listen` makes no connection. -/
theorem delegateMade_listen {status : NetworkStatus} (hmade : DelegateMade app)
    (h : RCDevice.listen status app = some app') : DelegateMade app' := by
  unfold RCDevice.listen at h
  split at h
  · split at h
    · obtain ⟨hconnections, -, hdelegate, -, -⟩ := eventLoop_eq app
      -- Starting the loop keeps the connections and the delegate.
      have hmade : DelegateMade (SipManager.eventLoop app) := by
        simpa only [DelegateMade, hconnections, hdelegate] using hmade
      simp only at h
      split_ifs at h <;> cases h <;> exact hmade
    · cases h
      exact hmade
  · split at h
    · cases h
      exact hmade
    · obtain ⟨⟨app₂, state⟩, hupdate, h⟩ := Option.map_eq_some_iff.mp h
      cases h
      -- So does refreshing the registration.
      exact (sameCalls_updateParams hupdate).delegateMade hmade
  · cases h
    exact hmade

end Methods

/-! ### Callbacks of the framework -/

section Callbacks
variable {app app' : App} {m : Nat}

/-- A prompt that is refused ends the call of the delegate. -/
theorem stays_permissionAnswered {auth : AVMediaType → AVAuthorizationStatus} {n : Nat}
    {granted : Bool} (hmade : DelegateMade app)
    (h : SipManager.permissionAnswered auth n granted app = some app') :
    Stays (∀ request ∈ app.permissionRequests[n]?,
      responseDenies auth request.mediaType app.videoAllowed granted →
        app.connectionDelegate = none) app app' := by
  obtain ⟨request, hrequest, h⟩ := permissionAnswered_cases h
  have hchain := chainEffect_permissionFsm (by exact hmade) h
  have hchain : ChainEffect (responseDenies auth request.mediaType app.videoAllowed granted)
      app app' := hchain.of_same (.of_eq rfl rfl rfl rfl) rfl
  simpa only [hrequest, Option.mem_some_iff, forall_eq'] using stays_chain hmade hchain

/-- A call of the session's delegate about an error. -/
theorem stays_mediaDidError (error : CallError) {app₁ : App} (hmade : DelegateMade app)
    (hsame : SameCalls app app₁)
    (hdelegate : app₁.connectionDelegate = app.connectionDelegate) :
    Stays (app.connectionDelegate = none) app (SipManager.mediaDidError error app₁) :=
  stays_endsDelegate hmade
    ((endsDelegate_didError error (hsame.delegateMade hmade)).of_same hsame hdelegate)

/-- An error of the TURN request ends the call of the delegate. -/
theorem stays_turnAnswered {success : Bool} (hmade : DelegateMade app)
    (h : SipManager.turnAnswered m success app = some app') :
    Stays (success = false → app.connectionDelegate = none) app app' := by
  obtain ⟨media, -, ⟨rfl, media', -, rfl⟩ | ⟨rfl, rfl⟩⟩ := turnAnswered_cases h
  · refine stays_same hmade ?_ fun _ => nofun
    exact (SameCalls.setMedia app m _).same (sameCalls_reportLocalVideo _ _)
  · simpa using stays_mediaDidError .turn hmade (.setMedia app m _) rfl

/-- An error ends the call of the delegate. -/
theorem stays_didCreateSessionDescription {sdp : Option CString} (hmade : DelegateMade app)
    (h : SipManager.didCreateSessionDescription m sdp app = some app') :
    Stays (sdp = none → app.connectionDelegate = none) app app' := by
  rcases didCreateSessionDescription_cases h with ⟨rfl, rfl⟩ | ⟨text, rfl, rfl⟩
  · simpa using stays_mediaDidError .sdp hmade (.setMedia app m _) rfl
  · exact stays_same hmade (.setMedia app m _) fun _ => nofun

/-- An error ends the call of the delegate. -/
theorem stays_didSetSessionDescriptionWithError (hmade : DelegateMade app)
    (h : SipManager.didSetSessionDescriptionWithError m app = some app') :
    Stays (app.connectionDelegate = none) app app' := by
  rw [didSetSessionDescriptionWithError_eq h]
  exact stays_mediaDidError .sdp hmade (.setMedia app m _) rfl

/-- Without candidates there is an error. -/
theorem stays_iceGatheringComplete (hmade : DelegateMade app)
    (h : SipManager.iceGatheringComplete m app = some app') :
    Stays (∀ media ∈ app.media? m, media.iceCandidates = 0 → app.connectionDelegate = none)
      app app' := by
  obtain ⟨media, hm, -, hcase⟩ := iceGatheringComplete_cases h
  simp only [hm, Option.mem_some_iff, forall_eq']
  rcases hcase with ⟨hcandidates, h⟩ | ⟨hnone, rfl⟩
  · exact stays_same hmade (sameCalls_candidateGatheringComplete h)
      fun _ hnone => absurd hnone hcandidates.ne'
  · simpa [hnone] using stays_mediaDidError .ice hmade (.refl app) rfl

/-- A message to the delegate that does not touch the device. -/
theorem stays_toDelegate {method : Nat → App → App} (hmade : DelegateMade app)
    (hstate : ∀ c, (method c app).state = app.state)
    (hmethod : ∀ c, DelegateMade (method c app)) : Stays True app (app.toDelegate method) := by
  unfold App.toDelegate
  split
  · exact stays_of_state (hmethod _) (hstate _) fun _ => trivial
  · exact stays_same hmade (.refl app) fun _ => trivial

/-- Ringing leaves the state of the device. -/
theorem stays_outgoingRinging (hmade : DelegateMade app) :
    Stays True app (app.toDelegate RCConnection.didReceiveOutgoingRinging) := by
  refine stays_toDelegate hmade (fun c => ?_) fun c => ?_
  · unfold RCConnection.didReceiveOutgoingRinging
    split
    · rfl
    · split <;> rfl
  · unfold RCConnection.didReceiveOutgoingRinging
    split
    · exact hmade
    · split
      · exact hmade
      · exact delegateMade_setState hmade

/-- An answer leaves the state of the device. -/
theorem stays_outgoingEstablished (hmade : DelegateMade app) :
    Stays True app (app.toDelegate RCConnection.didReceiveOutgoingEstablished) := by
  refine stays_toDelegate hmade (fun c => ?_) fun c => ?_
  · unfold RCConnection.didReceiveOutgoingEstablished
    split
    · rfl
    · split <;> rfl
  · unfold RCConnection.didReceiveOutgoingEstablished
    split
    · exact hmade
    · split
      · simpa [DelegateMade, App.setConnection, App.pipe] using hmade
      · exact delegateMade_setState hmade

/-- The state of the device is left. -/
theorem stays_iceConnected (hmade : DelegateMade app)
    (h : SipManager.iceConnected m app = some app') : Stays True app app' := by
  obtain ⟨media, -, ⟨-, rfl⟩ | ⟨-, rfl⟩⟩ := iceConnected_cases h
  · exact stays_outgoingEstablished hmade
  · exact stays_same hmade (.toDelegate app fun _ _ => .tell _ _ _) fun _ => trivial

/-- A failure ends the call of the delegate. -/
theorem stays_iceFailed (hmade : DelegateMade app)
    (h : SipManager.iceFailed m app = some app') :
    Stays (app.connectionDelegate = none) app app' := by
  rw [iceFailed_eq h]
  exact stays_mediaDidError .ice hmade (.refl app) rfl

end Callbacks

/-! ### Replies of Sofia -/

section Replies
variable {app app' : App}

/-- The other side ended the call of the delegate. -/
theorem stays_ended (event : ConnectionEvent) {app₁ : App} (hmade : DelegateMade app)
    (hsame : SameCalls app app₁)
    (hdelegate : app₁.connectionDelegate = app.connectionDelegate) :
    Stays (app.connectionDelegate = none) app (app₁.toDelegate (RCConnection.ended event)) :=
  stays_endsDelegate hmade
    ((endsDelegate_toDelegate fun d _ => endsCall_ended event d app₁).of_same hsame hdelegate)

/-- A BYE leaves an Offline device alone. -/
theorem stays_didReceiveBye {active : Bool} (hmade : DelegateMade app) :
    Stays True app
      ((SipManager.disconnectMedia app).toDelegate (RCConnection.didReceiveBye active)) := by
  have hsame := sameCalls_disconnectMedia app
  refine Stays.of_same ?_ hsame
  replace hmade := hsame.delegateMade hmade
  generalize SipManager.disconnectMedia app = app at hmade
  unfold App.toDelegate
  cases app.connectionDelegate with
  | none => exact stays_same hmade (.refl app) fun _ => trivial
  | some d =>
    have hbye := effect_didReceiveBye d app
    have hmade₁ := hbye.delegateMade hmade
    cases active with
    | true =>
      -- The callback for a BYE looks at the state first.
      refine ⟨hmade₁, fun hoffline => iff_of_true ?_ trivial⟩
      rw [hbye.state, if_pos hoffline]
    | false =>
      -- The application is in the background: in the end the device is Offline.
      exact stays_of_offline (stays_unlisten hmade₁).made (state_unlisten _) trivial

/-- One reply of Sofia. -/
theorem stays_reply {jsonObject : CString → Option NSDictionary} {active : Bool}
    {reply : SofiaReply} (hmade : DelegateMade app)
    (h : SipManager.handleSofiaInput jsonObject active reply app = some app') :
    Stays (LateReply app reply) app app' := by
  have hmedia := sameCalls_disconnectMedia app
  have hdelegate := connectionDelegate_disconnectMedia app
  unfold LateReply
  cases replyHandled h with
  | aside hcode haside =>
    refine stays_same hmade haside.untouched.sameCalls fun _ => ?_
    split <;> first
      | trivial
      | rename_i htouches; exact (hcode _ htouches trivial).elim
  | incomingCall hcode hcall =>
    -- An INVITE makes the device busy, whatever it was.
    rw [hcode]
    obtain ⟨_, -, hcall⟩ := Option.bind_eq_some_iff.mp hcall
    cases hcall
    refine stays_of_online ?_ (fun hoffline => by cases hoffline) fun _ => id
    simp [DelegateMade, RCDevice.makeConnection, App.notify]
  | outgoingRinging hcode =>
    rw [hcode]
    exact stays_outgoingRinging hmade
  | incomingCancelled hcode =>
    rw [hcode]
    exact stays_ended .didCancel hmade (.refl app) rfl
  | outgoingCancelled hcode =>
    rw [hcode]
    exact stays_ended .didDisconnect hmade hmedia hdelegate
  | outgoingDeclined hcode =>
    rw [hcode]
    exact stays_ended .didGetDeclined hmade hmedia hdelegate
  | bye hcode hbye =>
    -- A BYE sets the device ready, unless it is offline.
    rw [hcode]
    rcases hbye with rfl | rfl <;> exact stays_didReceiveBye hmade
  | @callError e hcode hfails =>
    rw [hcode]
    cases e <;> first
      | exact hfails.elim
      | exact stays_mediaDidError (.signalling reply) hmade hmedia hdelegate
  | registerSuccess hcode =>
    -- A registration that succeeds late takes the device online again.
    rw [hcode]
    refine ⟨?_, fun hoffline => iff_of_false ?_ id⟩
    · unfold RCDevice.didRegisterSuccessfully
      split <;> exact hmade
    · rw [RCDevice.didRegisterSuccessfully, if_pos hoffline]
      intro hstate
      cases hstate
  | @registerError e hcode hfails =>
    rw [hcode]
    cases e <;> first
      | exact hfails.elim
      | exact stays_of_offline hmade rfl trivial

end Replies

/-! ### Steps and runs -/

/-- What a step does to the device, unless the application asks it to come back. -/
theorem stays_appHandle {jsonObject : CString → Option NSDictionary} {app app' : App}
    {input : AppInput} (hmade : DelegateMade app)
    (h : appHandle jsonObject app input = some app') :
    DelegateMade app' ∧ (Late input → Stays (StaysOffline app input) app app') := by
  have htrue : app.state = .offline → True := fun _ => trivial
  have hstays : ∀ {q : Prop}, Stays q app app' →
      DelegateMade app' ∧ (Late input → Stays q app app') := fun h => ⟨h.made, fun _ => h⟩
  unfold appHandle at h
  cases input with
  | listen status => exact ⟨delegateMade_listen hmade h, nofun⟩
  | updateParams params => exact ⟨delegateMade_updateParams hmade h, nofun⟩
  | connect auth recipient video headers => exact hstays (stays_connect hmade h)
  | disconnectAll =>
    cases h
    -- `disconnectAll` acts on a Busy device only.
    refine hstays ⟨delegateMade_disconnectAll hmade, fun hoffline => iff_of_true ?_ trivial⟩
    rw [RCDevice.disconnectAll, if_neg (by simp [hoffline])]
    exact hoffline
  | unlisten =>
    cases h
    exact hstays (stays_unlisten hmade)
  | sendMessage message recipient headers =>
    cases h
    exact hstays (stays_same hmade (Untouched.sendMessage _ _ _ _).sameCalls htrue)
  | accept c auth video => exact hstays (stays_accept hmade (ofHeld_eq_some h).2)
  | reject c =>
    obtain ⟨-, h⟩ := ofHeld_eq_some h
    cases h
    exact hstays (stays_reject hmade)
  | disconnect c =>
    obtain ⟨hlt, h⟩ := ofHeld_eq_some h
    cases h
    have hends := endsCall_disconnect hlt
    exact hstays (stays_of_online (hends.delegateMade hmade) (by simp [hends.state]) fun _ => id)
  | sendDigits c digits =>
    obtain ⟨-, h⟩ := ofHeld_eq_some h
    cases h
    exact hstays (stays_same hmade (Untouched.sendDigits _ _ _).sameCalls htrue)
  | release c =>
    obtain ⟨-, h⟩ := ofHeld_eq_some h
    cases h
    exact hstays (stays_same hmade (.setConnection _ _ fun _ => rfl) htrue)
  | permissionAnswered auth n granted => exact hstays (stays_permissionAnswered hmade h)
  | turnAnswered m success => exact hstays (stays_turnAnswered hmade h)
  | didCreateSessionDescription m sdp => exact hstays (stays_didCreateSessionDescription hmade h)
  | didSetSessionDescriptionWithError m =>
    exact hstays (stays_didSetSessionDescriptionWithError hmade h)
  | didGenerateIceCandidate m localDescription =>
    exact hstays (stays_same hmade (sameCalls_didGenerateIceCandidate h) htrue)
  | iceGatheringComplete m => exact hstays (stays_iceGatheringComplete hmade h)
  | iceConnected m => exact hstays (stays_iceConnected hmade h)
  | iceFailed m => exact hstays (stays_iceFailed hmade h)
  | didAddStream m => exact hstays (stays_same hmade (sameCalls_didAddStream h) htrue)
  | reply reply active => exact hstays (stays_reply hmade h)
  | checkNetworkStatus newStatus =>
    cases h
    exact hstays (stays_checkNetworkStatus hmade)
  | loopStopped =>
    cases h
    exact hstays (stays_same hmade (.of_eq rfl rfl rfl rfl) htrue)

/-- The delegate pointer names a connection that was made, in every state of a run. -/
theorem delegateMade_of_reachable {jsonObject : CString → Option NSDictionary} {params : Params}
    {status : NetworkStatus} {app : App}
    (h : Reachable (appStep jsonObject) (RCDevice.initWithParams params status) app) :
    DelegateMade app := by
  refine h.induction DelegateMade ?_ fun app input app' hmade hstep => ?_
  · simp [DelegateMade, (unused_initWithParams params status).delegate]
  · exact (stays_appHandle (show DelegateMade app.silent from hmade) hstep).1

/-- A device that was told to stop to listen is Offline, and it is so after every step of a run
in which the application does not ask it to come back exactly when all steps leave it there. -/
theorem staysOffline_iff (jsonObject : CString → Option NSDictionary) (params : Params)
    (status : NetworkStatus) (app : App)
    (happ : Reachable (appStep jsonObject) (RCDevice.initWithParams params status) app)
    (inputs : List AppInput) (hlate : ∀ input ∈ inputs, Late input) :
    (RCDevice.unlisten app.silent).state = .offline ∧
      (AllSteps (appStep jsonObject) (fun _ _ app' => app'.state = .offline)
          (RCDevice.unlisten app.silent) inputs ↔
        AllSteps (appStep jsonObject) (fun app input _ => StaysOffline app input)
          (RCDevice.unlisten app.silent) inputs) := by
  have hmade : DelegateMade app := delegateMade_of_reachable happ
  have hmade : DelegateMade app.silent := hmade
  -- The invariant of the run is that the device is Offline so far.
  refine ⟨state_unlisten _, AllSteps.iff_of_inv_of_inputs
    (fun app => DelegateMade app ∧ app.state = .offline) ?_
    ⟨(stays_unlisten hmade).made, state_unlisten _⟩ inputs hlate⟩
  intro app input app' hlate ⟨hmade, hoffline⟩ hstep
  obtain ⟨hmade', hstays⟩ := stays_appHandle (show DelegateMade app.silent from hmade) hstep
  have hiff : app'.state = .offline ↔ StaysOffline app.silent input :=
    (hstays hlate).offline hoffline
  have hsilent : StaysOffline app.silent input ↔ StaysOffline app input := by
    cases input <;> exact Iff.rfl
  exact ⟨hiff.trans hsilent, fun h => ⟨hmade', hiff.mpr (hsilent.mpr h)⟩⟩

/-- A device that is registered with the registrar of `h`. -/
def registered : App :=
  { RCDevice.initWithParams { registrar := some "h".toList } .reachableViaWiFi with
    state := .ready, notified := [.didStartListening] }

/-- A device that registers can be reached. -/
theorem reachable_registered : Reachable (appStep Json.read)
    (RCDevice.initWithParams { registrar := some "h".toList } .reachableViaWiFi) registered :=
  .step .start (show appStep Json.read _
    (.reply (SipMsgEnum.registerSuccess.replyWith []) true) = _ from rfl)

/-- A late BYE leaves the device Offline. -/
theorem staysOffline_iff_bye :
    (RCDevice.unlisten registered.silent).state = .offline ∧
      (AllSteps (appStep Json.read) (fun _ _ app' => app'.state = .offline)
          (RCDevice.unlisten registered.silent) [.reply SipMsgEnum.incomingBye.reply true] ↔
        AllSteps (appStep Json.read) (fun app input _ => StaysOffline app input)
          (RCDevice.unlisten registered.silent) [.reply SipMsgEnum.incomingBye.reply true]) :=
  staysOffline_iff Json.read _ _ registered reachable_registered _ (by simp [Late])

/-- The answer to a refresh arrives after `unlisten`: the device is Ready again. -/
theorem late_register_success_revives :
    ∃ app', appStep Json.read (RCDevice.unlisten registered.silent)
        (.reply (SipMsgEnum.registerSuccess.replyWith []) true) = some app' ∧
      (RCDevice.unlisten registered.silent).state = .offline ∧ app'.state = .ready :=
  ⟨_, rfl, rfl, rfl⟩

end RestCommSdk.Proofs
