import RestCommSdk.RestCommClient.RCConnection

/-!
# `RestCommSdk.SipManager.Calls`: setting up the media of a call

The chain of continuations from a dialled or accepted call to its SDP: the permission prompts
(`permissionFsm`), `handleCall`, which makes the media session, and the callbacks of the
session. Each of them reads `activeCallParams`, `videoAllowed`, `media` and
`connectionDelegate` as they are when it runs. The argument `owner` is history: the connection
for which the chain was started.

The answer to a permission prompt and the completion of the TURN request come on threads of the
frameworks, and the other callbacks on the main thread. Each of them is taken as one step.

`auth` is what `authorizationStatusForMediaType:` answers.
-/

set_option autoImplicit false

namespace RestCommSdk.SipManager

open RestCommSdk.CliInterface (CString)

/-! ### Permissions -/

section Permissions
variable (auth : AVMediaType → AVAuthorizationStatus) (owner : Nat)

/-- A media session that has started to signal reports its local video track. -/
def reportLocalVideo (media : MediaWebRTC) (app : App) : App :=
  (List.replicate media.localVideoTracks ConnectionEvent.didReceiveLocalVideo).foldl
    (fun app event => app.toDelegate fun c app => app.tell c event) app

/-- `handleCall` -/
def handleCall (app : App) : Option App :=
  match app.media with
  | some _ => some app
  | none => do
    let media ← MediaWebRTC.connect app.params app.activeCallParams.sdp
      (app.activeCallParams.initiator.getD false) app.videoAllowed { owner := owner }
    return reportLocalVideo media
      { app with media := some app.medias.length, medias := app.medias ++ [media] }

/-- The answer no. -/
def permissionDenied (mediaType : AVMediaType) (app : App) : App :=
  app.toDelegate (RCConnection.didError (.permissionDenied mediaType))

/-- `requestPermission:`, with what follows the answer. -/
def requestPermission (mediaType : AVMediaType) (response : Bool → App → Option App)
    (app : App) : Option App :=
  match auth mediaType with
  | .authorized => response true app
  | .notDetermined =>
    some { app with permissionRequests := app.permissionRequests ++ [⟨mediaType, owner⟩] }
  | .restricted | .denied => response false app

/-- `permissionFsm:type:status:` for the response about the camera. -/
def videoResponse (status : Bool) (app : App) : Option App :=
  if status then handleCall owner app else some (permissionDenied .video app)

/-- `permissionFsm:type:status:` for the response about the microphone. -/
def audioResponse (status : Bool) (app : App) : Option App :=
  if !status then some (permissionDenied .audio app)
  else if app.videoAllowed then requestPermission auth owner .video (videoResponse owner) app
  else handleCall owner app

/-- `permissionFsm:type:status:` for a response. -/
def permissionFsm (mediaType : AVMediaType) (status : Bool) (app : App) : Option App :=
  match mediaType with
  | .audio => audioResponse auth owner status app
  | .video => videoResponse owner status app

/-- `permissionFsm:type:status:` for the request that starts the chain. -/
def permissionFsmRequest (app : App) : Option App :=
  requestPermission auth owner .audio (permissionFsm auth owner .audio) app

/-- `invite:withVideo:customHeaders:`, and what it returns. -/
def invite (recipient : CString) (video : Bool) (headers : Option NSDictionary) (app : App) :
    Option (App × Bool) :=
  let app := { app with videoAllowed := video }
  match app.media with
  | some _ => some (app, false)
  | none => do
    let destination := convert2FullURI app.params recipient app.params.registrar
    let app := { app with
      activeCallParams :=
        { destination := some destination, initiator := some true, sipHeaders := headers }
      dialled := some owner }
    let app := app.setConnection owner fun connection =>
      { connection with destination := destination, headers := headers }
    let app ← permissionFsmRequest auth owner app
    return (app, true)

/-- `answerWithVideo:` -/
def answerWithVideo (video : Bool) (app : App) : Option App :=
  permissionFsmRequest auth owner { app with
    videoAllowed := video
    activeCallParams := { app.activeCallParams with initiator := some false } }

end Permissions

/-- The pending request with this number is answered. -/
def permissionAnswered (auth : AVMediaType → AVAuthorizationStatus) (n : Nat) (granted : Bool)
    (app : App) : Option App := do
  let request ← app.permissionRequests[n]?
  permissionFsm auth request.owner request.mediaType granted
    { app with permissionRequests := app.permissionRequests.eraseIdx n }

/-! ### The media session -/

section Media
variable (m : Nat)

/-- `mediaController:didError:` -/
def mediaDidError (error : CallError) (app : App) : App :=
  app.toDelegate (RCConnection.didError error)

/-- `mediaController:didCreateSdp:isInitiator:`, for the session `m` of the connection
`owner`. -/
def mediaDidCreateSdp (owner : Nat) (sdp : Option CString) (initiator : Bool) (app : App) :
    Option App := do
  let commands ← didCreateSdp app.mediaState app.activeCallParams app.params sdp initiator
  let app := commands.foldl (fun app command => app.pipe (some owner) command) app
  return app.setConnection owner fun connection =>
    { connection with invited := connection.invited || initiator && commands ≠ [] }

/-- The TURN request is answered. It keeps the session, so it finds it. Without `success` there is
an error, which a connection that hears of it can write as JSON; an error of the transport, which it
cannot, raises an exception and is no step. -/
def turnAnswered (success : Bool) (app : App) : Option App := do
  let media ← app.media? m
  if !media.turnRequested then none
  else
    let media := { media with turnRequested := false }
    if success then
      -- The session may have been released in the meantime: it is started all the same.
      let media ← { media with isTurnComplete := true }.startSignalingIfReady media.offer
      return reportLocalVideo media (app.setMedia m fun _ => media)
    else
      return mediaDidError .turn (app.setMedia m fun _ => media)

/-- `peerConnection:didCreateSessionDescription:error:`. Without an SDP there was an error.
The peer connection takes the SDP for its local description. -/
def didCreateSessionDescription (sdp : Option CString) (app : App) : Option App := do
  let media ← app.media? m
  if !media.isTurnComplete then none
  else
    match sdp with
    | none => return mediaDidError .sdp (app.setMedia m MediaWebRTC.disconnect)
    | some sdp =>
      return app.setMedia m fun media =>
        { media with peerConnection := media.peerConnection.map fun peerConnection =>
            { peerConnection with localDescription := some sdp } }

/-- `peerConnection:didSetSessionDescriptionWithError:`, when there was an error. -/
def didSetSessionDescriptionWithError (app : App) : Option App := do
  let media ← app.media? m
  if !media.isTurnComplete then none
  else return mediaDidError .sdp (app.setMedia m MediaWebRTC.disconnect)

/-- `peerConnection:didGenerateIceCandidate:`. The local description has the candidate from
then on. -/
def didGenerateIceCandidate (localDescription : CString) (app : App) : Option App := do
  let media ← app.media? m
  if !media.gathers then none
  else
    return app.setMedia m fun media => { media with
      iceCandidates := media.iceCandidates + 1
      peerConnection := media.peerConnection.map fun peerConnection =>
        { peerConnection with localDescription := some localDescription } }

/-- `candidateGatheringComplete` -/
def candidateGatheringComplete (media : MediaWebRTC) (app : App) : Option App :=
  if media.candidatesGathered then some app
  else
    mediaDidCreateSdp media.owner (media.peerConnection.bind (·.localDescription))
      media.isInitiator
      (app.setMedia m fun media => { media with candidatesGathered := true })

/-- `peerConnection:didChangeIceGatheringState:` to Complete. -/
def iceGatheringComplete (app : App) : Option App := do
  let media ← app.media? m
  if !media.gathers then none
  -- A session without a single candidate cannot be offered.
  else if 0 < media.iceCandidates then candidateGatheringComplete m media app
  else return mediaDidError .ice app

/-- `peerConnection:didChangeIceConnectionState:` to Connected, and what `SipManager` makes of
it. -/
def iceConnected (app : App) : Option App := do
  let media ← app.media? m
  if !media.isTurnComplete then none
  else if media.isInitiator then
    return app.toDelegate RCConnection.didReceiveOutgoingEstablished
  else
    return app.toDelegate RCConnection.didReceiveIncomingEstablished

/-- `peerConnection:didChangeIceConnectionState:` to Failed. -/
def iceFailed (app : App) : Option App := do
  let media ← app.media? m
  if !media.isTurnComplete then none else return mediaDidError .ice app

/-- `peerConnection:didAddStream:` with a video track. -/
def didAddStream (app : App) : Option App := do
  let media ← app.media? m
  if !media.isTurnComplete then none
  else return app.toDelegate fun c app => app.tell c .didReceiveRemoteVideo

end Media

end RestCommSdk.SipManager
