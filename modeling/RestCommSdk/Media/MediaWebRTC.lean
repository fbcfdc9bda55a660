import RestCommSdk.SipManager.Commands

/-!
# `RestCommSdk.Media.MediaWebRTC`: the media session

The object `MediaWebRTC` with the functions of `MediaWebRTC.m` that only touch the object
itself: `connect:`, `startSignalingIfReady:`, `processSignalingMessage:` and `disconnect`.
What the session tells its delegate is in `RestCommSdk.SipManager.Calls`.

A result `none` is an exception: a failed assertion, a string made of `NULL`, or a search in `nil`.
-/

set_option autoImplicit false

namespace RestCommSdk

open RestCommSdk.CliInterface (CString)
open RestCommSdk.SipManager (MediaState Params)

/-- `RTCPeerConnection`, as far as the session reads and writes it. -/
structure PeerConnection where
  /-- `localDescription.sdp` -/
  localDescription : Option CString := none
  /-- The last remote description that was set. -/
  remoteDescription : Option CString := none
  deriving DecidableEq, Repr

/-- The object `MediaWebRTC`. -/
structure MediaWebRTC where
  /-- History: the connection that the session was made for. -/
  owner : Nat
  state : MediaState := .disconnected
  isInitiator : Bool := true
  videoAllowed : Bool := false
  /-- The `sdp` that `connect:` was given. -/
  offer : Option CString := none
  /-- A TURN request is in progress. -/
  turnRequested : Bool := false
  isTurnComplete : Bool := false
  peerConnection : Option PeerConnection := none
  /-- How many candidates `iceCandidates` holds. -/
  iceCandidates : Nat := 0
  candidatesGathered : Bool := false
  deriving DecidableEq, Repr

/-- `ICEConfigType` -/
inductive ICEConfigType where
  | xirsysV2
  | xirsysV3
  | custom
  deriving DecidableEq, Repr

/-- The `ice-config-type` of the parameters. A missing or unknown one reads as the first. -/
def iceConfigType (params : Params) : ICEConfigType :=
  match params.iceConfigType with
  | some 1 => .xirsysV3
  | some 2 => .custom
  | _ => .xirsysV2

namespace MediaWebRTC

/-- `processSignalingMessage:type:`, for an offer or an answer. Without a text there is nothing that
`workaroundTruncation:` could search in. -/
def processSignalingMessage (message : Option CString) (media : MediaWebRTC) :
    Option MediaWebRTC := do
  let peerConnection ← media.peerConnection
  let message ← message
  return { media with
    peerConnection := some { peerConnection with remoteDescription := some message } }

/-- `startSignalingIfReady:`. The initiator asks for an offer, which comes later. -/
def startSignalingIfReady (sdp : Option CString) (media : MediaWebRTC) : Option MediaWebRTC :=
  if !media.isTurnComplete then
    some media
  else
    let media := { media with state := .connected, peerConnection := some {} }
    if media.isInitiator then some media else media.processSignalingMessage sdp

/-- How often `startSignalingIfReady:` reports a local video track: where it makes the track,
and where it makes the sender. -/
def localVideoTracks (media : MediaWebRTC) : Nat :=
  if media.isTurnComplete && media.videoAllowed then 2 else 0

/-- `connect:sdp:isInitiator:withVideo:`. -/
def connect (params : Params) (sdp : Option CString) (initiator videoAllowed : Bool)
    (media : MediaWebRTC) : Option MediaWebRTC :=
  let media := { media with
    isInitiator := initiator, videoAllowed := videoAllowed, offer := sdp, iceCandidates := 0 }
  if params.turnEnabled.getD false then
    match iceConfigType params with
    | .xirsysV2 => some { media with turnRequested := true }
    | .xirsysV3 =>
      -- Without a URL nothing is requested, and nothing ever happens.
      if params.turnUrl.getD [] ≠ [] then some { media with turnRequested := true }
      else some media
    | .custom => { media with isTurnComplete := true }.startSignalingIfReady sdp
  else
    { media with isTurnComplete := true }.startSignalingIfReady sdp

/-- Candidates are gathered once there is a local description, unless the connection was
closed since. -/
def gathers (media : MediaWebRTC) : Bool :=
  media.isTurnComplete &&
    media.peerConnection.all fun peerConnection => peerConnection.localDescription.isSome

/-- `disconnect`. A session that waits for TURN is disconnected already, and is left alone. -/
def disconnect (media : MediaWebRTC) : MediaWebRTC :=
  if media.state = .disconnected then
    media
  else
    { media with
      state := .disconnected
      isInitiator := false
      peerConnection := none
      candidatesGathered := false }

end MediaWebRTC

end RestCommSdk
