import RestCommSdk.Media.MediaWebRTC

/-!
# `RestCommSdk.Media.MediaSession`: a media session over time

What happens to one `MediaWebRTC`: it is connected and disconnected, its TURN request is
answered, and WebRTC calls back. What WebRTC says is queued on the main thread, and the TURN request
is completed on a thread of `NSURLSession`. Either may come after `disconnect`; the queued block and
the completion keep the object. Each of them is taken as one step, with nothing in between.

`MediaWebRTC.handle` is one of these for the object alone: the object after it, and in order what
it has made and told its delegate. `mediaStep` is the session as a machine. How `SipManager`
carries out what it is told is in `RestCommSdk.SipManager.Calls`.
-/

set_option autoImplicit false

namespace RestCommSdk

open RestCommSdk.CliInterface (CString)
open RestCommSdk.SipManager (MediaState Params)

/-- The errors that `mediaController:didError:` is called with. -/
inductive MediaError where
  /-- The error of the TURN request. -/
  | turn
  /-- `ERROR_WEBRTC_SDP` -/
  | sdp
  /-- `ERROR_WEBRTC_ICE` -/
  | ice
  deriving DecidableEq, Repr

/-- The calls of `MediaDelegate`. -/
inductive MediaCall where
  | didError (error : MediaError)
  | didCreateSdp (sdp : Option CString) (initiator : Bool)
  | didReceiveLocalVideoTrack
  | didReceiveRemoteVideoTrack
  | didIceConnectAsInitiator (initiator : Bool)
  deriving DecidableEq, Repr

/-- What a session does that is seen outside of it. -/
inductive MediaEffect where
  /-- `peerConnectionWithConfiguration:constraints:delegate:` -/
  | makesPeerConnection
  /-- `audioTrackWithSource:trackId:` -/
  | makesAudioTrack
  /-- `videoTrackWithSource:trackId:` -/
  | makesVideoTrack
  | tells (call : MediaCall)
  deriving DecidableEq, Repr

/-- What happens to a session. -/
inductive MediaInput where
  | connect (params : Params) (sdp : Option CString) (initiator videoAllowed : Bool)
  /-- The completion of the TURN request. -/
  | turnAnswered (success : Bool)
  /-- The answer of the peer. -/
  | processSignalingMessage (message : CString)
  /-- Without an SDP there was an error. -/
  | didCreateSessionDescription (sdp : Option CString)
  | didSetSessionDescriptionWithError (failed : Bool)
  | didGenerateIceCandidate (localDescription : CString)
  /-- `didChangeIceGatheringState:` to Complete. -/
  | iceGatheringComplete
  /-- `didChangeIceConnectionState:` to Connected. -/
  | iceConnected
  /-- `didChangeIceConnectionState:` to Failed. -/
  | iceFailed
  /-- `didAddStream:` with a video track. -/
  | didAddStream
  | disconnect
  deriving DecidableEq, Repr

namespace MediaWebRTC

/-- `connect:` calls `startSignalingIfReady:` itself, and not the completion of a request. -/
def startsAtOnce (params : Params) : Bool :=
  !params.turnEnabled.getD false || iceConfigType params = .custom

/-- What `startSignalingIfReady:` makes and tells, seen from the session it leaves behind. -/
def signalingEffects (media : MediaWebRTC) : List MediaEffect :=
  if media.isTurnComplete then
    [.makesPeerConnection, .makesAudioTrack] ++
      (if media.videoAllowed then [.makesVideoTrack] else []) ++
      List.replicate media.localVideoTracks (.tells .didReceiveLocalVideoTrack)
  else []

/-- The completion block of the TURN request. -/
def turnAnswered (success : Bool) (media : MediaWebRTC) :
    Option (MediaWebRTC × List MediaEffect) :=
  if !media.turnRequested then none
  else
    let media := { media with turnRequested := false }
    if success then do
      let media ← { media with isTurnComplete := true }.startSignalingIfReady media.offer
      return (media, media.signalingEffects)
    else some (media, [.tells (.didError .turn)])

/-- `candidateGatheringComplete` -/
def candidateGatheringComplete (media : MediaWebRTC) : MediaWebRTC × List MediaEffect :=
  if media.candidatesGathered then (media, [])
  else
    ({ media with candidatesGathered := true },
      [.tells (.didCreateSdp (media.peerConnection.bind (·.localDescription)) media.isInitiator)])

/-- One thing that happens to the session. A callback comes from a peer connection, so there
has to have been one. -/
def handle (media : MediaWebRTC) : MediaInput → Option (MediaWebRTC × List MediaEffect)
  | .connect params sdp initiator videoAllowed => do
    let media ← media.connect params sdp initiator videoAllowed
    return (media, if startsAtOnce params then media.signalingEffects else [])
  | .turnAnswered success => media.turnAnswered success
  | .processSignalingMessage message => do
    let media ← media.processSignalingMessage (some message)
    return (media, [])
  | .didCreateSessionDescription sdp =>
    if !media.isTurnComplete then none
    else
      match sdp with
      | none => some (media.disconnect, [.tells (.didError .sdp)])
      | some sdp =>
        some ({ media with peerConnection := media.peerConnection.map fun peerConnection =>
          { peerConnection with localDescription := some sdp } }, [])
  | .didSetSessionDescriptionWithError failed =>
    if !media.isTurnComplete then none
    else if failed then some (media.disconnect, [.tells (.didError .sdp)])
    -- The answer that may be asked for now comes with `didCreateSessionDescription`.
    else some (media, [])
  | .didGenerateIceCandidate localDescription =>
    if !media.gathers then none
    else
      some ({ media with
        iceCandidates := media.iceCandidates + 1
        peerConnection := media.peerConnection.map fun peerConnection =>
          { peerConnection with localDescription := some localDescription } }, [])
  | .iceGatheringComplete =>
    if !media.gathers then none
    else if 0 < media.iceCandidates then some media.candidateGatheringComplete
    else some (media, [.tells (.didError .ice)])
  | .iceConnected =>
    if !media.isTurnComplete then none
    else some (media, [.tells (.didIceConnectAsInitiator media.isInitiator)])
  | .iceFailed =>
    if !media.isTurnComplete then none else some (media, [.tells (.didError .ice)])
  | .didAddStream =>
    if !media.isTurnComplete then none
    else some (media, [.tells .didReceiveRemoteVideoTrack])
  | .disconnect => some (media.disconnect, [])

end MediaWebRTC

namespace MediaInput

/-- The session is connected. -/
def isConnect : MediaInput → Bool
  | connect .. => true
  | _ => false

/-- The method `disconnect` is called, by its owner or by a callback that brings an error. -/
def callsDisconnect : MediaInput → Bool
  | disconnect | didCreateSessionDescription none | didSetSessionDescriptionWithError true => true
  | _ => false

end MediaInput

/-- A session, with its history. -/
structure MediaSession where
  media : MediaWebRTC
  /-- History: `connect:` has been called. -/
  connectCalled : Bool := false
  /-- History: `disconnect` has been called. -/
  released : Bool := false
  /-- What the last step has made and told. -/
  effects : List MediaEffect := []
  deriving DecidableEq, Repr

/-- The session after `initWithDelegate:parameters:`. -/
def MediaSession.init (owner : Nat) : MediaSession := { media := { owner := owner } }

/-- One step of a session. It is connected once: nothing calls `connect:` but the two places
that have just made the session. -/
def mediaStep (s : MediaSession) (input : MediaInput) : Option MediaSession :=
  if input.isConnect && s.connectCalled then none
  else do
    let (media, effects) ← s.media.handle input
    return {
      media := media
      connectCalled := s.connectCalled || input.isConnect
      released := s.released || input.callsDisconnect
      effects := effects }

end RestCommSdk
