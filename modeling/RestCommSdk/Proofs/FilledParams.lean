import RestCommSdk.Proofs.AppInvariants

/-!
# `RestCommSdk.Proofs.FilledParams`: parameters with keys filled in

`Params.filled` gives the empty text to the keys among `aor`, `password` and `registrar` that
are absent, as far as they are asked for. A method that reads none of the three does the same
before and after: it commutes with `App.filled`. There is one lemma for each such method, and
`handleSofiaInput_filled` for the replies.
-/

set_option autoImplicit false

namespace RestCommSdk

open RestCommSdk.CliInterface (CString SofiaReply SipMsgEnum)
open RestCommSdk.SipManager (NSDictionary Params)

/-- The keys of the parameters that are texts for Sofia. -/
inductive StringKey where
  | aor
  | password
  | registrar
  deriving DecidableEq, Repr

/-- An absent value is the empty text, if its key is one of `keys`. -/
def filledIn (keys : List StringKey) (key : StringKey) (value : Option CString) :
    Option CString :=
  if key ∈ keys then some (value.getD []) else value

/-- The parameters with the keys of `keys` that are absent filled in. -/
def SipManager.Params.filled (keys : List StringKey) (params : Params) : Params :=
  { params with
    aor := filledIn keys .aor params.aor
    password := filledIn keys .password params.password
    registrar := filledIn keys .registrar params.registrar }

/-- The App with these parameters. -/
def App.filled (keys : List StringKey) (app : App) : App :=
  { app with params := app.params.filled keys }

namespace Proofs

/-! ### What does not change -/

section Fields
variable (keys : List StringKey) (app : App)

@[simp] theorem secure_filled (params : Params) : (params.filled keys).secure = params.secure :=
  rfl

@[simp] theorem params_filled : (app.filled keys).params = app.params.filled keys := rfl
@[simp] theorem state_filled : (app.filled keys).state = app.state := rfl
@[simp] theorem media_filled : (app.filled keys).media = app.media := rfl
@[simp] theorem media?_filled (m : Nat) : (app.filled keys).media? m = app.media? m := rfl
@[simp] theorem videoAllowed_filled : (app.filled keys).videoAllowed = app.videoAllowed := rfl

@[simp] theorem currentConnection_filled :
    (app.filled keys).currentConnection = app.currentConnection := rfl

@[simp] theorem reachabilityStatus_filled :
    (app.filled keys).reachabilityStatus = app.reachabilityStatus := rfl

@[simp] theorem signallingInstances_filled :
    (app.filled keys).signallingInstances = app.signallingInstances := rfl

@[simp] theorem activeCallParams_filled :
    (app.filled keys).activeCallParams = app.activeCallParams := rfl

@[simp] theorem connections_filled : (app.filled keys).connections = app.connections := rfl

@[simp] theorem connection?_filled (c : Nat) :
    (app.filled keys).connection? c = app.connection? c := rfl

@[simp] theorem connectionState_filled (c : Nat) :
    (app.filled keys).connectionState c = app.connectionState c := rfl

@[simp] theorem connectionDelegate_filled :
    (app.filled keys).connectionDelegate = app.connectionDelegate := rfl

/-- A missing registrar and an empty one are the same to `registrarless`. -/
@[simp] theorem registrarless_filled : (app.filled keys).registrarless = app.registrarless := by
  simp only [App.registrarless, params_filled, Params.filled, filledIn]
  split <;> rfl

end Fields

/-! ### Hanging up -/

section Methods
variable (keys : List StringKey) (app : App)

/-- Hanging up asks for the state of the connection. -/
theorem hangUp_filled (c : Nat) (connection : RCConnection) :
    RCConnection.hangUp c connection (app.filled keys) =
      (RCConnection.hangUp c connection app).filled keys := by
  unfold RCConnection.hangUp
  cases connection.state with
  | pending => cases connection.incoming <;> rfl
  | connecting | connected | disconnected => rfl

/-- The session is disconnected. -/
theorem disconnectMedia_filled :
    SipManager.disconnectMedia (app.filled keys) =
      (SipManager.disconnectMedia app).filled keys := by
  simp only [SipManager.disconnectMedia, media_filled]
  cases app.media <;> rfl

/-- A connection is disconnected as its state says. -/
theorem disconnect_filled (c : Nat) :
    RCConnection.disconnect c (app.filled keys) = (RCConnection.disconnect c app).filled keys := by
  simp only [RCConnection.disconnect, connection?_filled]
  cases app.connection? c with
  | none => rfl
  | some connection =>
    dsimp only
    rw [hangUp_filled, disconnectMedia_filled]
    rfl

/-- The current connection is disconnected. -/
theorem disconnectAll_filled :
    RCDevice.disconnectAll (app.filled keys) = (RCDevice.disconnectAll app).filled keys := by
  unfold RCDevice.disconnectAll
  rw [state_filled, currentConnection_filled]
  by_cases hbusy : app.state = .busy
  · rw [if_pos hbusy, if_pos hbusy]
    cases app.currentConnection with
    | none => rfl
    | some c =>
      dsimp only
      rw [disconnect_filled]
      rfl
  · rw [if_neg hbusy, if_neg hbusy]

/-- `unlisten` hangs up and shuts down. -/
theorem unlisten_filled :
    RCDevice.unlisten (app.filled keys) = (RCDevice.unlisten app).filled keys := by
  simp only [RCDevice.unlisten, state_filled, disconnectAll_filled]
  split <;> rfl

/-! ### The delegate -/

/-- A method reads none of the keys. -/
def IgnoresKeys (method : Nat → App → App) : Prop :=
  ∀ c app, method c (app.filled keys) = (method c app).filled keys

variable {keys} in
/-- A method of the connection that is the delegate. -/
theorem toDelegate_filled {method : Nat → App → App} (hmethod : IgnoresKeys keys method) :
    (app.filled keys).toDelegate method = (app.toDelegate method).filled keys := by
  simp only [App.toDelegate, connectionDelegate_filled]
  cases app.connectionDelegate with
  | none => rfl
  | some c => exact hmethod c app

/-- Telling something reads no parameter. -/
theorem ignoresKeys_tell (event : ConnectionEvent) :
    IgnoresKeys keys fun c app => app.tell c event := fun _ _ => rfl

/-- The end of a call reads no parameter. -/
theorem ignoresKeys_ended (event : ConnectionEvent) :
    IgnoresKeys keys (RCConnection.ended event) := fun _ _ => rfl

/-- An error clears the connection and tells it. -/
theorem ignoresKeys_didError (error : CallError) :
    IgnoresKeys keys (RCConnection.didError error) := by
  intro c app
  rw [RCConnection.didError, disconnect_filled]
  rfl

/-- The other side rings. -/
theorem ignoresKeys_ringing : IgnoresKeys keys RCConnection.didReceiveOutgoingRinging := by
  intro c app
  simp only [RCConnection.didReceiveOutgoingRinging, connection?_filled]
  cases app.connection? c with
  | none => rfl
  | some connection =>
    dsimp only
    split <;> rfl

/-- The other side has answered. -/
theorem ignoresKeys_established : IgnoresKeys keys RCConnection.didReceiveOutgoingEstablished := by
  intro c app
  simp only [RCConnection.didReceiveOutgoingEstablished, connection?_filled]
  cases app.connection? c with
  | none => rfl
  | some connection =>
    dsimp only
    split <;> rfl

/-- The other side hangs up. -/
theorem ignoresKeys_bye (active : Bool) :
    IgnoresKeys keys (RCConnection.didReceiveBye active) := by
  intro c app
  -- Ending the call and setting the device ready read no parameter.
  have hended : (RCConnection.setState .disconnected c (app.filled keys)).tell c .didDisconnect =
      ((RCConnection.setState .disconnected c app).tell c .didDisconnect).filled keys := rfl
  have hready : ∀ app : App,
      (if (app.filled keys).state ≠ .offline then { app.filled keys with state := .ready }
        else app.filled keys) =
      (if app.state ≠ .offline then { app with state := .ready } else app).filled keys := by
    intro app
    rw [state_filled]
    split <;> rfl
  unfold RCConnection.didReceiveBye
  dsimp only
  rw [hended, hready]
  cases active with
  | true => rfl
  | false =>
    rw [if_neg Bool.false_ne_true, if_neg Bool.false_ne_true]
    -- Unlistening writes a line without one.
    exact unlisten_filled keys (RCConnection.handleDisconnected _)

/-! ### Setting up the media -/

/-- Each of the tracks is told to the delegate. -/
theorem reportLocalVideo_filled (media : MediaWebRTC) :
    SipManager.reportLocalVideo media (app.filled keys) =
      (SipManager.reportLocalVideo media app).filled keys := by
  unfold SipManager.reportLocalVideo
  induction media.localVideoTracks generalizing app with
  | zero => rfl
  | succ tracks ih =>
    rw [List.replicate_succ, List.foldl_cons, List.foldl_cons,
      toDelegate_filled app (ignoresKeys_tell keys _)]
    exact ih _

/-- The TURN and ICE parameters are read, and no key. -/
theorem handleCall_filled (owner : Nat) :
    SipManager.handleCall owner (app.filled keys) =
      (SipManager.handleCall owner app).map (App.filled keys) := by
  unfold SipManager.handleCall
  rw [media_filled]
  cases app.media with
  | some m => rfl
  | none =>
    -- The session reads the TURN parameters, which are not filled in.
    have hconnect : ∀ sdp initiator video media,
        MediaWebRTC.connect (app.params.filled keys) sdp initiator video media =
          MediaWebRTC.connect app.params sdp initiator video media := fun _ _ _ _ => rfl
    dsimp only
    rw [params_filled, hconnect, activeCallParams_filled, videoAllowed_filled]
    cases MediaWebRTC.connect app.params app.activeCallParams.sdp
        (app.activeCallParams.initiator.getD false) app.videoAllowed { owner := owner } with
    | none => rfl
    | some media =>
      exact congrArg some (reportLocalVideo_filled keys
        { app with media := some app.medias.length, medias := app.medias ++ [media] } media)

/-- A permission that is refused is an error of the call. -/
theorem permissionDenied_filled (mediaType : AVMediaType) :
    SipManager.permissionDenied mediaType (app.filled keys) =
      (SipManager.permissionDenied mediaType app).filled keys :=
  toDelegate_filled app (ignoresKeys_didError keys _)

section Chain
variable (auth : AVMediaType → AVAuthorizationStatus) (owner : Nat)

/-- A prompt is put up, or the rest goes on as it would without. -/
theorem requestPermission_filled (mediaType : AVMediaType) {response : Bool → App → Option App}
    (hresponse : ∀ status app, response status (app.filled keys) =
      (response status app).map (App.filled keys)) :
    SipManager.requestPermission auth owner mediaType response (app.filled keys) =
      (SipManager.requestPermission auth owner mediaType response app).map (App.filled keys) := by
  unfold SipManager.requestPermission
  cases auth mediaType with
  | notDetermined => rfl
  | authorized => exact hresponse true app
  | restricted | denied => exact hresponse false app

/-- Behind the permission for video comes the call. -/
theorem videoResponse_filled (status : Bool) :
    SipManager.videoResponse owner status (app.filled keys) =
      (SipManager.videoResponse owner status app).map (App.filled keys) := by
  cases status with
  | true => exact handleCall_filled keys app owner
  | false => exact congrArg some (permissionDenied_filled keys app .video)

/-- Behind the permission for audio comes the one for video. -/
theorem audioResponse_filled (status : Bool) :
    SipManager.audioResponse auth owner status (app.filled keys) =
      (SipManager.audioResponse auth owner status app).map (App.filled keys) := by
  cases status with
  | false => exact congrArg some (permissionDenied_filled keys app .audio)
  | true =>
    unfold SipManager.audioResponse
    rw [videoAllowed_filled]
    -- With video the camera is asked for next.
    cases app.videoAllowed with
    | true =>
      exact requestPermission_filled keys app auth owner .video fun status app =>
        videoResponse_filled keys app owner status
    | false => exact handleCall_filled keys app owner

/-- The permissions are asked for one after the other. -/
theorem permissionFsm_filled (mediaType : AVMediaType) (status : Bool) :
    SipManager.permissionFsm auth owner mediaType status (app.filled keys) =
      (SipManager.permissionFsm auth owner mediaType status app).map (App.filled keys) := by
  cases mediaType with
  | audio => exact audioResponse_filled keys app auth owner status
  | video => exact videoResponse_filled keys app owner status

/-- The first permission is that for audio. -/
theorem permissionFsmRequest_filled :
    SipManager.permissionFsmRequest auth owner (app.filled keys) =
      (SipManager.permissionFsmRequest auth owner app).map (App.filled keys) :=
  requestPermission_filled keys app auth owner .audio fun status app =>
    permissionFsm_filled keys app auth owner .audio status

/-- A prompt is answered. -/
theorem permissionAnswered_filled (n : Nat) (granted : Bool) :
    SipManager.permissionAnswered auth n granted (app.filled keys) =
      (SipManager.permissionAnswered auth n granted app).map (App.filled keys) := by
  show (app.permissionRequests[n]?).bind _ = ((app.permissionRequests[n]?).bind _).map _
  cases app.permissionRequests[n]? with
  | none => rfl
  | some request =>
    exact permissionFsm_filled keys
      { app with permissionRequests := app.permissionRequests.eraseIdx n } auth request.owner
      request.mediaType granted

/-- A call is accepted, which is the chain of permissions. -/
theorem accept_filled (video : Bool) (c : Nat) :
    RCConnection.accept auth video c (app.filled keys) =
      (RCConnection.accept auth video c app).map (App.filled keys) := by
  show (app.connection? c).bind _ = ((app.connection? c).bind _).map _
  cases app.connection? c with
  | none => rfl
  | some connection =>
    rw [Option.bind_some, Option.bind_some]
    -- A connection that does not ring is left as it is.
    cases connection.ringing with
    | false => rfl
    | true =>
      have hchain := permissionFsmRequest_filled keys (accepting video app) auth c
      show (SipManager.permissionFsmRequest auth c ((accepting video app).filled keys)).bind _ =
        ((SipManager.permissionFsmRequest auth c (accepting video app)).bind _).map _
      rw [hchain]
      cases SipManager.permissionFsmRequest auth c (accepting video app) <;> rfl

end Chain

/-! ### The media session -/

/-- An error of the media goes to the delegate. -/
theorem mediaDidError_filled (error : CallError) :
    SipManager.mediaDidError error (app.filled keys) =
      (SipManager.mediaDidError error app).filled keys :=
  toDelegate_filled app (ignoresKeys_didError keys error)

/-- A callback of a session looks the session up first. -/
theorem ofMedia_filled (m : Nat) {before after : MediaWebRTC → Option App}
    (hcallback : ∀ media, after media = (before media).map (App.filled keys)) :
    ((app.filled keys).media? m).bind after =
      ((app.media? m).bind before).map (App.filled keys) := by
  rw [media?_filled]
  cases app.media? m with
  | none => rfl
  | some media => exact hcallback media

/-- The TURN server has answered. -/
theorem turnAnswered_filled (m : Nat) (success : Bool) :
    SipManager.turnAnswered m success (app.filled keys) =
      (SipManager.turnAnswered m success app).map (App.filled keys) := by
  refine ofMedia_filled keys app m fun media => ?_
  dsimp only
  cases media.turnRequested with
  | false => rfl
  | true =>
    cases success with
    | false => exact congrArg some (mediaDidError_filled keys (app.setMedia m _) .turn)
    | true =>
      -- To start, the session reads its own fields only.
      simp only [Bool.not_true, Bool.false_eq_true, if_false, if_true, Option.bind_eq_bind]
      cases MediaWebRTC.startSignalingIfReady media.offer
          { media with turnRequested := false, isTurnComplete := true } with
      | none => rfl
      | some started =>
        exact congrArg some
          (reportLocalVideo_filled keys (app.setMedia m fun _ => started) started)

/-- WebRTC has made a description. -/
theorem didCreateSessionDescription_filled (m : Nat) (sdp : Option CString) :
    SipManager.didCreateSessionDescription m sdp (app.filled keys) =
      (SipManager.didCreateSessionDescription m sdp app).map (App.filled keys) := by
  refine ofMedia_filled keys app m fun media => ?_
  cases media.isTurnComplete with
  | false => rfl
  | true =>
    cases sdp with
    | none => exact congrArg some (mediaDidError_filled keys (app.setMedia m _) .sdp)
    | some sdp => rfl

/-- WebRTC has taken a description. -/
theorem didSetSessionDescriptionWithError_filled (m : Nat) :
    SipManager.didSetSessionDescriptionWithError m (app.filled keys) =
      (SipManager.didSetSessionDescriptionWithError m app).map (App.filled keys) := by
  refine ofMedia_filled keys app m fun media => ?_
  cases media.isTurnComplete with
  | false => rfl
  | true => exact congrArg some (mediaDidError_filled keys (app.setMedia m _) .sdp)

/-- WebRTC has found a candidate. -/
theorem didGenerateIceCandidate_filled (m : Nat) (localDescription : CString) :
    SipManager.didGenerateIceCandidate m localDescription (app.filled keys) =
      (SipManager.didGenerateIceCandidate m localDescription app).map (App.filled keys) := by
  refine ofMedia_filled keys app m fun media => ?_
  cases media.gathers <;> rfl

/-- The media are connected. -/
theorem iceConnected_filled (m : Nat) :
    SipManager.iceConnected m (app.filled keys) =
      (SipManager.iceConnected m app).map (App.filled keys) := by
  refine ofMedia_filled keys app m fun media => ?_
  cases media.isTurnComplete with
  | false => rfl
  | true =>
    cases media.isInitiator with
    | true => exact congrArg some (toDelegate_filled app (ignoresKeys_established keys))
    | false => exact congrArg some (toDelegate_filled app (ignoresKeys_tell keys .didConnect))

/-- The media are not connected. -/
theorem iceFailed_filled (m : Nat) :
    SipManager.iceFailed m (app.filled keys) =
      (SipManager.iceFailed m app).map (App.filled keys) := by
  refine ofMedia_filled keys app m fun media => ?_
  cases media.isTurnComplete with
  | false => rfl
  | true => exact congrArg some (mediaDidError_filled keys app .ice)

/-- A stream of the other side has come. -/
theorem didAddStream_filled (m : Nat) :
    SipManager.didAddStream m (app.filled keys) =
      (SipManager.didAddStream m app).map (App.filled keys) := by
  refine ofMedia_filled keys app m fun media => ?_
  cases media.isTurnComplete with
  | false => rfl
  | true => exact congrArg some (toDelegate_filled app (ignoresKeys_tell keys _))

/-! ### The device -/

/-- Whether the thread is started depends on the certificates. -/
theorem eventLoop_filled :
    SipManager.eventLoop (app.filled keys) = (SipManager.eventLoop app).filled keys := by
  unfold SipManager.eventLoop
  rw [signallingInstances_filled]
  by_cases hcount : 0 < app.signallingInstances
  · rw [if_pos hcount, if_pos hcount]
    rfl
  · rw [if_neg hcount, if_neg hcount]
    dsimp only
    -- The two tests read the same values.
    split_ifs with hfilled hmissing hmissing
    · rfl
    · exact absurd hfilled hmissing
    · exact absurd hmissing hfilled
    · rfl

/-- Without a registrar the device is told to be ready; an empty one is none. -/
theorem didInitializedSignalling_filled :
    RCDevice.didInitializedSignalling (app.filled keys) =
      (RCDevice.didInitializedSignalling app).filled keys := by
  simp only [RCDevice.didInitializedSignalling, registrarless_filled]
  split <;> rfl

/-- The device is registered. -/
theorem didRegisterSuccessfully_filled :
    RCDevice.didRegisterSuccessfully (app.filled keys) =
      (RCDevice.didRegisterSuccessfully app).filled keys := by
  unfold RCDevice.didRegisterSuccessfully
  rw [state_filled]
  split_ifs <;> rfl

/-- The network changes. -/
theorem checkNetworkStatus_filled (newStatus : NetworkStatus) :
    RCDevice.checkNetworkStatus newStatus (app.filled keys) =
      (RCDevice.checkNetworkStatus newStatus app).filled keys := by
  unfold RCDevice.checkNetworkStatus
  rw [state_filled, reachabilityStatus_filled]
  split_ifs
  · exact unlisten_filled keys { app with reachabilityStatus := newStatus }
  · rfl
  · rfl

/-- A call is rejected. -/
theorem reject_filled (c : Nat) :
    RCConnection.reject c (app.filled keys) = (RCConnection.reject c app).filled keys := by
  simp only [RCConnection.reject, connection?_filled]
  cases app.connection? c with
  | none => rfl
  | some connection =>
    dsimp only
    split_ifs <;> rfl

/-- Digits are sent. -/
theorem sendDigits_filled (digits : CString) (c : Nat) :
    RCConnection.sendDigits digits c (app.filled keys) =
      (RCConnection.sendDigits digits c app).filled keys := by
  unfold RCConnection.sendDigits
  rw [connectionState_filled]
  split_ifs <;> rfl

/-- A method of a connection that the application holds. -/
theorem ofHeld_filled (c : Nat) {method : App → Option App}
    (hmethod : method (app.filled keys) = (method app).map (App.filled keys)) :
    ofHeld c method (app.filled keys) = (ofHeld c method app).map (App.filled keys) := by
  show (app.connection? c).bind _ = ((app.connection? c).bind _).map _
  cases app.connection? c with
  | none => rfl
  | some connection =>
    rw [Option.bind_some, Option.bind_some]
    cases connection.held with
    | false => rfl
    | true => exact hmethod

/-! ### Replies -/

variable (jsonObject : CString → Option NSDictionary) (active : Bool) (reply : SofiaReply)

/-- Of the replies, only a challenge makes the App read a key. -/
theorem handleSofiaInput_filled (hreply : SipMsgEnum.ofCode reply.rc ≠ some .replyAuth) :
    SipManager.handleSofiaInput jsonObject active reply (app.filled keys) =
      (SipManager.handleSofiaInput jsonObject active reply app).map (App.filled keys) := by
  -- What ends a call disconnects the media, and tells the delegate.
  have hend : ∀ {method : Nat → App → App}, IgnoresKeys keys method →
      (SipManager.disconnectMedia (app.filled keys)).toDelegate method =
        ((SipManager.disconnectMedia app).toDelegate method).filled keys := by
    intro method hmethod
    rw [disconnectMedia_filled]
    exact toDelegate_filled _ hmethod
  unfold SipManager.handleSofiaInput
  cases hrc : SipMsgEnum.ofCode reply.rc with
  | none => rfl
  | some code =>
    cases code with
    | replyAuth => exact absurd hrc hreply
    | incomingCall =>
      dsimp only
      cases CliInterface.stringWithUTF8String reply.text with
      | none => rfl
      | some text =>
        simp only [Option.bind_eq_bind, Option.bind_some]
        cases usernameFromUri (SipManager.objectForKey (jsonObject text) "sip-uri") with
        | none => rfl
        | some caller => cases SipManager.objectForKey (jsonObject text) "sdp" <;> rfl
    | outgoingRinging => exact congrArg some (toDelegate_filled app (ignoresKeys_ringing keys))
    | outgoingEstablished =>
      -- The answer goes to the session, which writes itself.
      dsimp only
      rw [media_filled]
      cases app.media with
      | none => rfl
      | some m =>
        refine ofMedia_filled keys app m fun media => ?_
        cases media.processSignalingMessage (CliInterface.stringWithUTF8String reply.text) <;> rfl
    | incomingMsg =>
      dsimp only
      cases CliInterface.stringWithUTF8String reply.text with
      | none => rfl
      | some text =>
        simp only [Option.bind_eq_bind, Option.bind_some]
        -- A text without a bar ends in an exception.
        split
        · cases usernameFromUri (some (text.takeWhile (· ≠ '|'))) <;> rfl
        · rfl
    | incomingCancelled | outgoingCancelled | outgoingDeclined =>
      first
        | exact congrArg some (toDelegate_filled app (ignoresKeys_ended keys _))
        | exact congrArg some (hend (ignoresKeys_ended keys _))
    | registerSuccess => exact congrArg some (didRegisterSuccessfully_filled keys app)
    | errorSipInviteGeneric | errorSipInviteAuthentication | errorSipInviteTimeout
    | errorSipInviteNotFound | errorSipInviteSipUriInvalid =>
      cases CliInterface.stringWithUTF8String reply.text with
      | none => rfl
      | some text => exact congrArg some (hend (ignoresKeys_didError keys _))
    | errorSipInitializingSignaling | errorSipRegisterGeneric | errorSipRegisterAuthentication
    | errorSipRegisterTimeout | errorSipRegisterServiceUnavailable | errorSipRegisterUriInvalid
    | errorSipMessageGeneric | errorSipMessageAuthentication | errorSipMessageTimeout
    | errorSipMessageNotFound | errorSipMessageUriInvalid =>
      cases CliInterface.stringWithUTF8String reply.text <;> rfl
    | outgoingByeResponse | incomingBye => exact congrArg some (hend (ignoresKeys_bye keys active))
    | signallingInitialized => exact congrArg some (didInitializedSignalling_filled keys app)
    | _ => rfl

end Methods

end Proofs

end RestCommSdk
