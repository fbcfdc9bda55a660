import RestCommSdk.RestCommClient.RCDevice

/-!
# `RestCommSdk.Proofs.CallbackSteps`: what the steps of a call do

One lemma for each method that places or accepts a call, for the answer to a permission
prompt, and for each callback of the media session: the tests that it has passed, and the
state of the App after it. `ChainEnd` says how the permission chain of a call ends: it is
refused, it comes to `handleCall`, or it waits for a prompt.
-/

set_option autoImplicit false

namespace RestCommSdk.Proofs

open RestCommSdk.CliInterface (CString)

variable {app app' : App} {m : Nat}

/-! ### Calls of the application -/

section Methods
variable {auth : AVMediaType → AVAuthorizationStatus} {video : Bool}

/-- Only a connection that rings is accepted. -/
theorem accept_cases {c : Nat} (h : RCConnection.accept auth video c app = some app') :
    ∃ connection, app.connection? c = some connection ∧
      (connection.ringing = true ∧ (∃ app₂,
          SipManager.answerWithVideo auth c video app = some app₂ ∧
            app' = RCConnection.setState .connected c app₂) ∨
        connection.ringing = false ∧ app' = app) := by
  obtain ⟨connection, hc, h⟩ := Option.bind_eq_some_iff.mp h
  refine ⟨connection, hc, ?_⟩
  split at h
  · obtain ⟨app₂, hchain, h⟩ := Option.bind_eq_some_iff.mp h
    exact .inl ⟨‹_›, app₂, hchain, (Option.some.inj h).symm⟩
  · exact .inr ⟨Bool.eq_false_iff.mpr ‹_›, (Option.some.inj h).symm⟩

/-- Only a Ready device makes a connection, which is held unless the call is refused. -/
theorem connect_cases {recipient : CString} {headers : Option SipManager.NSDictionary}
    (h : (RCDevice.connect auth recipient video headers app).map (·.1) = some app') :
    app.state ≠ .ready ∧ app' = app ∨
      app.state = .ready ∧ ∃ app₂ invited,
        SipManager.invite auth app.connections.length recipient video headers
            (RCDevice.makeConnection { incoming := false, state := .pending } app) =
              some (app₂, invited) ∧
          app' = app₂.setConnection app.connections.length fun connection =>
            { connection with held := invited } := by
  obtain ⟨⟨_, returned⟩, hconnect, rfl⟩ := Option.map_eq_some_iff.mp h
  unfold RCDevice.connect at hconnect
  split at hconnect
  · cases hconnect
    exact .inl ⟨‹_›, rfl⟩
  · obtain ⟨⟨app₂, invited⟩, hinvite, hpair⟩ := Option.bind_eq_some_iff.mp hconnect
    cases hpair
    exact .inr ⟨not_not.mp ‹_›, app₂, invited, hinvite, rfl⟩

/-- A Ready device makes a connection. What is returned is read from the device after
`invite:withVideo:customHeaders:`. -/
theorem connect_made {recipient : CString} {headers : Option SipManager.NSDictionary}
    {returned : Option Nat} (hready : app.state = .ready)
    (h : RCDevice.connect auth recipient video headers app = some (app', returned)) :
    ∃ app₂ invited,
      SipManager.invite auth app.connections.length recipient video headers
          (RCDevice.makeConnection { incoming := false, state := .pending } app) =
            some (app₂, invited) ∧
        app' = app₂.setConnection app.connections.length (fun connection =>
          { connection with held := invited }) ∧
        returned = if invited then app₂.currentConnection else none := by
  rw [RCDevice.connect, if_neg (not_not.mpr hready)] at h
  obtain ⟨⟨app₂, invited⟩, hinvite, hpair⟩ := Option.bind_eq_some_iff.mp h
  cases hpair
  exact ⟨app₂, invited, hinvite, rfl, rfl⟩

/-- What `invite:withVideo:customHeaders:` writes before it asks for the permissions. -/
def dial (owner : Nat) (recipient : CString) (video : Bool)
    (headers : Option SipManager.NSDictionary) (app : App) : App :=
  let destination := SipManager.convert2FullURI app.params recipient app.params.registrar
  { app with
    videoAllowed := video
    activeCallParams :=
      { destination := some destination, initiator := some true, sipHeaders := headers }
    dialled := some owner }.setConnection owner fun connection =>
      { connection with destination := destination, headers := headers }

/-- A session that is left over stops the call. -/
theorem invite_cases {owner : Nat} {recipient : CString}
    {headers : Option SipManager.NSDictionary} {invited : Bool}
    (h : SipManager.invite auth owner recipient video headers app = some (app', invited)) :
    app.media ≠ none ∧ invited = false ∧ app' = { app with videoAllowed := video } ∨
      app.media = none ∧ invited = true ∧
        SipManager.permissionFsmRequest auth owner (dial owner recipient video headers app) =
          some app' := by
  unfold SipManager.invite at h
  dsimp only at h
  split at h
  · -- The device has a media, and refuses.
    rename_i m hmedia
    cases h
    refine .inl ⟨?_, rfl, rfl⟩
    rw [show app.media = some m from hmedia]
    nofun
  · -- It has none, so it dials and asks for the permissions.
    rename_i hmedia
    obtain ⟨app₂, hchain, h⟩ := Option.bind_eq_some_iff.mp h
    cases h
    exact .inr ⟨hmedia, rfl, hchain⟩

end Methods

/-! ### The permission chain -/

/-- The permission is refused without a prompt. -/
def AVAuthorizationStatus.refuses (status : AVAuthorizationStatus) : Bool :=
  status = .restricted || status = .denied

/-- The answer about the microphone refuses the call, or that about the camera does at once. -/
def audioDenies (auth : AVMediaType → AVAuthorizationStatus) (video status : Bool) : Bool :=
  !status || video && AVAuthorizationStatus.refuses (auth .video)

/-- The answer refuses the call. -/
def responseDenies (auth : AVMediaType → AVAuthorizationStatus) (mediaType : AVMediaType)
    (video status : Bool) : Bool :=
  match mediaType with
  | .audio => audioDenies auth video status
  | .video => !status

/-- The answer is the last one that the call needed. -/
def responseGrants (auth : AVMediaType → AVAuthorizationStatus) (mediaType : AVMediaType)
    (video granted : Bool) : Bool :=
  match mediaType with
  | .audio => granted && (!video || auth .video = .authorized)
  | .video => granted

/-- The call is refused without a prompt. -/
def requestDenies (auth : AVMediaType → AVAuthorizationStatus) (video : Bool) : Bool :=
  AVAuthorizationStatus.refuses (auth .audio) ||
    auth .audio = .authorized && audioDenies auth video true

/-- The call needs no prompt. -/
def requestGrants (auth : AVMediaType → AVAuthorizationStatus) (video : Bool) : Bool :=
  auth .audio = .authorized && responseGrants auth .audio video true

/-- What has come of a chain that is refused if `denies`, and needs no more answers if
`grants`. -/
inductive ChainEnd (owner : Nat) (denies grants : Bool) (app app' : App) : Prop where
  | denied (mediaType : AVMediaType) (hdenies : denies = true) (hgrants : grants = false)
    (heq : app' = SipManager.permissionDenied mediaType app)
  | granted (hdenies : denies = false) (hgrants : grants = true)
    (hcall : SipManager.handleCall owner app = some app')
  | asked (mediaType : AVMediaType) (hdenies : denies = false) (hgrants : grants = false)
    (heq : app' =
      { app with permissionRequests := app.permissionRequests ++ [⟨mediaType, owner⟩] })

section Chain
variable {auth : AVMediaType → AVAuthorizationStatus} {owner : Nat} {app app' : App}

/-- The camera was the last to be asked for. -/
theorem chainEnd_videoResponse {status : Bool}
    (h : SipManager.videoResponse owner status app = some app') :
    ChainEnd owner (!status) status app app' := by
  cases status with
  | true => exact .granted rfl rfl h
  | false => exact .denied .video rfl rfl (Option.some.inj h).symm

/-- Behind the microphone may come the camera. -/
theorem chainEnd_audioResponse {status : Bool}
    (h : SipManager.audioResponse auth owner status app = some app') :
    ChainEnd owner (audioDenies auth app.videoAllowed status)
      (responseGrants auth .audio app.videoAllowed status) app app' := by
  unfold SipManager.audioResponse at h
  cases status with
  -- The microphone is refused.
  | false => exact .denied .audio rfl rfl (Option.some.inj h).symm
  | true =>
    rw [if_neg (by simp)] at h
    by_cases hvideo : app.videoAllowed = true
    · rw [if_pos hvideo, SipManager.requestPermission] at h
      cases hauth : auth .video with
      | notDetermined =>
        -- The user is asked for the camera.
        rw [hauth] at h
        exact .asked .video (by simp [audioDenies, hauth, AVAuthorizationStatus.refuses])
          (by simp [responseGrants, hvideo, hauth]) (Option.some.inj h).symm
      | authorized =>
        rw [hauth] at h
        -- The camera was allowed or refused before.
        simpa [audioDenies, responseGrants, hvideo, hauth, AVAuthorizationStatus.refuses]
          using chainEnd_videoResponse h
      | restricted | denied =>
        rw [hauth] at h
        simpa [audioDenies, responseGrants, hvideo, hauth, AVAuthorizationStatus.refuses]
          using chainEnd_videoResponse h
    · rw [if_neg hvideo] at h
      -- No camera is needed.
      exact .granted (by simp [audioDenies, hvideo]) (by simp [responseGrants, hvideo]) h

/-- The rest of a chain, behind an answer. -/
theorem chainEnd_permissionFsm {mediaType : AVMediaType} {status : Bool}
    (h : SipManager.permissionFsm auth owner mediaType status app = some app') :
    ChainEnd owner (responseDenies auth mediaType app.videoAllowed status)
      (responseGrants auth mediaType app.videoAllowed status) app app' := by
  cases mediaType with
  | audio => exact chainEnd_audioResponse h
  | video => exact chainEnd_videoResponse h

/-- A chain from its beginning. -/
theorem chainEnd_permissionFsmRequest
    (h : SipManager.permissionFsmRequest auth owner app = some app') :
    ChainEnd owner (requestDenies auth app.videoAllowed) (requestGrants auth app.videoAllowed)
      app app' := by
  unfold SipManager.permissionFsmRequest SipManager.requestPermission at h
  cases hauth : auth .audio with
  | notDetermined =>
    simp only [hauth] at h
    simp only [requestDenies, requestGrants, hauth, AVAuthorizationStatus.refuses]
    exact .asked .audio rfl rfl (Option.some.inj h).symm
  | authorized =>
    simp only [hauth] at h
    simpa [requestDenies, requestGrants, hauth, AVAuthorizationStatus.refuses, responseDenies]
      using chainEnd_permissionFsm h
  | restricted | denied =>
    simp only [hauth] at h
    simpa [requestDenies, requestGrants, hauth, AVAuthorizationStatus.refuses, responseDenies,
      responseGrants, audioDenies] using chainEnd_permissionFsm h

/-- The chain of a connection that is dialled. -/
theorem chainEnd_dial {recipient : CString} {video : Bool}
    {headers : Option SipManager.NSDictionary}
    (h : SipManager.permissionFsmRequest auth owner (dial owner recipient video headers app) =
      some app') :
    ChainEnd owner (requestDenies auth video) (requestGrants auth video)
      (dial owner recipient video headers app) app' :=
  chainEnd_permissionFsmRequest h

/-- The request that is answered is taken off the list before the chain goes on. -/
theorem permissionAnswered_cases {n : Nat} {granted : Bool}
    (h : SipManager.permissionAnswered auth n granted app = some app') :
    ∃ request, app.permissionRequests[n]? = some request ∧
      SipManager.permissionFsm auth request.owner request.mediaType granted
        { app with permissionRequests := app.permissionRequests.eraseIdx n } = some app' :=
  Option.bind_eq_some_iff.mp h

/-- The chain goes on with the answer to a prompt, which is taken off the list. -/
theorem chainEnd_permissionAnswered {n : Nat} {granted : Bool}
    (h : SipManager.permissionAnswered auth n granted app = some app') :
    ∃ request, app.permissionRequests[n]? = some request ∧
      ChainEnd request.owner (responseDenies auth request.mediaType app.videoAllowed granted)
        (responseGrants auth request.mediaType app.videoAllowed granted)
        { app with permissionRequests := app.permissionRequests.eraseIdx n } app' := by
  obtain ⟨request, hrequest, hchain⟩ := permissionAnswered_cases h
  exact ⟨request, hrequest, chainEnd_permissionFsm hchain⟩

/-- A media session is made only when there is none. -/
theorem handleCall_cases (h : SipManager.handleCall owner app = some app') :
    app.media ≠ none ∧ app' = app ∨
      app.media = none ∧ ∃ media,
        MediaWebRTC.connect app.params app.activeCallParams.sdp
            (app.activeCallParams.initiator.getD false) app.videoAllowed { owner := owner } =
          some media ∧
        app' = SipManager.reportLocalVideo media
          { app with media := some app.medias.length, medias := app.medias ++ [media] } := by
  unfold SipManager.handleCall at h
  split at h
  · rename_i m hmedia
    exact .inl ⟨by simp [hmedia], (Option.some.inj h).symm⟩
  · rename_i hmedia
    obtain ⟨media, hconnect, h⟩ := Option.bind_eq_some_iff.mp h
    exact .inr ⟨hmedia, media, hconnect, (Option.some.inj h).symm⟩

end Chain

/-! ### Callbacks -/

/-- The session is started, or the delegate hears of the error. -/
theorem turnAnswered_cases {success : Bool}
    (h : SipManager.turnAnswered m success app = some app') :
    ∃ media, app.media? m = some media ∧
      (success = true ∧ (∃ media',
          { media with turnRequested := false, isTurnComplete := true }.startSignalingIfReady
              media.offer = some media' ∧
            app' = SipManager.reportLocalVideo media' (app.setMedia m fun _ => media')) ∨
        success = false ∧
          app' = SipManager.mediaDidError .turn
            (app.setMedia m fun _ => { media with turnRequested := false })) := by
  obtain ⟨media, hm, h⟩ := Option.bind_eq_some_iff.mp h
  refine ⟨media, hm, ?_⟩
  split at h
  · -- Nothing was requested, so there is nothing to answer.
    cases h
  · cases success with
    | true =>
      obtain ⟨media', hstart, h⟩ := Option.bind_eq_some_iff.mp h
      exact .inl ⟨rfl, media', hstart, (Option.some.inj h).symm⟩
    | false => exact .inr ⟨rfl, (Option.some.inj h).symm⟩

/-- The peer connection takes the description, or the session is taken away. -/
theorem didCreateSessionDescription_cases {sdp : Option CString}
    (h : SipManager.didCreateSessionDescription m sdp app = some app') :
    sdp = none ∧
        app' = SipManager.mediaDidError .sdp (app.setMedia m MediaWebRTC.disconnect) ∨
      ∃ text, sdp = some text ∧ app' = app.setMedia m fun media =>
        { media with peerConnection := media.peerConnection.map fun peerConnection =>
            { peerConnection with localDescription := some text } } := by
  obtain ⟨media, -, h⟩ := Option.bind_eq_some_iff.mp h
  split at h
  · cases h
  · cases sdp with
    | none => exact .inl ⟨rfl, (Option.some.inj h).symm⟩
    | some text => exact .inr ⟨text, rfl, (Option.some.inj h).symm⟩

/-- An error takes the session away. -/
theorem didSetSessionDescriptionWithError_eq
    (h : SipManager.didSetSessionDescriptionWithError m app = some app') :
    app' = SipManager.mediaDidError .sdp (app.setMedia m MediaWebRTC.disconnect) := by
  obtain ⟨media, -, h⟩ := Option.bind_eq_some_iff.mp h
  split at h
  · cases h
  · exact (Option.some.inj h).symm

/-- A candidate is counted, and is in the description from then on. -/
theorem didGenerateIceCandidate_eq {localDescription : CString}
    (h : SipManager.didGenerateIceCandidate m localDescription app = some app') :
    app' = app.setMedia m fun media =>
      { media with
        iceCandidates := media.iceCandidates + 1
        peerConnection := media.peerConnection.map fun peerConnection =>
          { peerConnection with localDescription := some localDescription } } := by
  obtain ⟨media, -, h⟩ := Option.bind_eq_some_iff.mp h
  split at h
  · cases h
  · exact (Option.some.inj h).symm

/-- The description goes out once. -/
theorem candidateGatheringComplete_cases {media : MediaWebRTC}
    (h : SipManager.candidateGatheringComplete m media app = some app') :
    media.candidatesGathered = true ∧ app' = app ∨
      media.candidatesGathered = false ∧
        SipManager.mediaDidCreateSdp media.owner
          (media.peerConnection.bind (·.localDescription)) media.isInitiator
          (app.setMedia m fun media => { media with candidatesGathered := true }) =
            some app' := by
  unfold SipManager.candidateGatheringComplete at h
  split at h
  · exact .inl ⟨‹_›, (Option.some.inj h).symm⟩
  · exact .inr ⟨Bool.eq_false_iff.mpr ‹_›, h⟩

/-- Without a candidate the end of the gathering is an error. -/
theorem iceGatheringComplete_cases (h : SipManager.iceGatheringComplete m app = some app') :
    ∃ media, app.media? m = some media ∧ media.gathers = true ∧
      (0 < media.iceCandidates ∧
          SipManager.candidateGatheringComplete m media app = some app' ∨
        media.iceCandidates = 0 ∧ app' = SipManager.mediaDidError .ice app) := by
  obtain ⟨media, hm, h⟩ := Option.bind_eq_some_iff.mp h
  refine ⟨media, hm, ?_⟩
  split at h
  · cases h
  · rename_i hgathers
    refine ⟨by simpa using hgathers, ?_⟩
    split at h
    · exact .inl ⟨‹_›, h⟩
    · exact .inr ⟨by omega, (Option.some.inj h).symm⟩

/-- The connection of the delegate hears of it, by the direction of the session. -/
theorem iceConnected_cases (h : SipManager.iceConnected m app = some app') :
    ∃ media, app.media? m = some media ∧
      (media.isInitiator = true ∧
          app' = app.toDelegate RCConnection.didReceiveOutgoingEstablished ∨
        media.isInitiator = false ∧
          app' = app.toDelegate RCConnection.didReceiveIncomingEstablished) := by
  obtain ⟨media, hm, h⟩ := Option.bind_eq_some_iff.mp h
  refine ⟨media, hm, ?_⟩
  split at h
  · cases h
  · split at h
    · exact .inl ⟨‹_›, (Option.some.inj h).symm⟩
    · exact .inr ⟨Bool.eq_false_iff.mpr ‹_›, (Option.some.inj h).symm⟩

/-- The delegate hears of the error. -/
theorem iceFailed_eq (h : SipManager.iceFailed m app = some app') :
    app' = SipManager.mediaDidError .ice app := by
  obtain ⟨media, -, h⟩ := Option.bind_eq_some_iff.mp h
  split at h
  · cases h
  · exact (Option.some.inj h).symm

/-- The application hears of the remote track. -/
theorem didAddStream_eq (h : SipManager.didAddStream m app = some app') :
    app' = app.toDelegate fun c app => app.tell c .didReceiveRemoteVideo := by
  obtain ⟨media, -, h⟩ := Option.bind_eq_some_iff.mp h
  split at h
  · cases h
  · exact (Option.some.inj h).symm

end RestCommSdk.Proofs
