import RestCommSdk.Logging
import RestCommSdk.Media.XirsysTURNClient

/-!
# `RestCommSdk.Media.MediaSetUp`: how the media of a call is set up

`connect:sdp:isInitiator:withVideo:` of `MediaWebRTC.m` with the completion block that it hands
to the TURN client, for the keys of the parameters that it reads. `setUp` is the call and, when
it makes a request, the completion of that request: what they conclude, in order, with what the
delegates do about an error before they return. `none` is an exception, or a read of an argument
that was not passed.
-/

set_option autoImplicit false

namespace RestCommSdk

open RestCommSdk.CliInterface (CString format)

/-- The parameters that the set-up reads. -/
structure SetUpParams where
  turnEnabled : Option Bool := none
  /-- The `intValue` of `ice-config-type`. -/
  iceConfigType : Option Int := none
  turnUrl : Option CString := none
  turnUsername : Option CString := none
  turnPassword : Option CString := none
  iceDomain : Option CString := none
  iceServers : Option NSObject := none

/-- The arguments of `connect:` that the set-up uses, and who is there to be told. -/
structure SetUpCall where
  sdp : Option CString
  initiator : Bool
  /-- `SipManager` has a `connectionDelegate`. -/
  hasDelegate : Bool
  deriving DecidableEq, Repr

/-- What the set-up comes to. -/
inductive Conclusion where
  /-- `startSignalingIfReady:` has gone past its guard. -/
  | signaling
  /-- `mediaController:didError:` -/
  | didError
  deriving DecidableEq, Repr

namespace SetUpParams

/-- The `ice-config-type`. A missing or unknown one reads as the first. -/
def configType (params : SetUpParams) : ICEConfigType :=
  match params.iceConfigType with
  | some 1 => .xirsysV3
  | some 2 => .custom
  | _ => .xirsysV2

/-- The `ice-domain`, or the default one. -/
def domain (params : SetUpParams) : CString :=
  let iceDomain := params.iceDomain.getD []
  if iceDomain = [] then "cloud.restcomm.com".toList else iceDomain

/-- The URL of a request to version 2 of the service. -/
def turnRequestURLv2 (params : SetUpParams) : CString :=
  format params.turnUrl ++ "?ident=".toList ++ format params.turnUsername ++
    "&secret=".toList ++ format params.turnPassword ++ "&domain=".toList ++ params.domain ++
    "&application=default&room=default&secure=1".toList

/-- The URL of a request to version 3. -/
def turnRequestURLv3 (params : SetUpParams) (turnUrl : CString) : CString :=
  turnUrl ++ '/' :: params.domain

end SetUpParams

/-- `kARDDefaultSTUNServerUrl`, which `configure` puts into the list. -/
def defaultSTUNServer : RTCIceServer := ("stun:stun.l.google.com:19302".toList, [], .string [])

section SetUp
variable (env : MediaEnv) (params : SetUpParams) (call : SetUpCall)

/-- `startSignalingIfReady:` once TURN is complete. A callee processes the offer, for which it
needs a peer connection and a text. -/
def startSignaling (iceServers : List RTCIceServer) : Option (List Conclusion) := do
  let made ← env.peerConnection iceServers
  if call.initiator then return [.signaling]
  else if made && call.sdp.isSome then return [.signaling]
  else none

/-- `mediaController:didError:`, which goes to the connection as `sipManager:didMediaError:`. The
log line there writes the `userInfo` of the error as JSON, and that raises an exception for objects
that JSON has not. -/
def didError (error : TurnError) : Option (List Conclusion) :=
  if call.hasDelegate && !error.userInfoIsJSON then none else some [.didError]

/-- The block that the TURN client calls. -/
def responseBlock (servers : TurnServers) : Option (List Conclusion) :=
  match servers with
  | .error error =>
    -- The text of the error is the format of the log line.
    if readsArguments error.localizedDescription then none else didError call error
  -- The STUN server is dropped: the service lists one itself.
  | .ok turnServers => startSignaling env call turnServers

/-- `initWithURL:`, the request and its completion. -/
def request (iceConfigType : ICEConfigType) (url : CString) (response : TurnResponse) :
    Option (List Conclusion) :=
  if env.validURL url then do
    let servers ← requestServers env iceConfigType response
    responseBlock env call servers
  else none

/-- `connect:sdp:isInitiator:withVideo:`, and the completion of its request when it makes one. -/
def setUp (response : TurnResponse) : Option (List Conclusion) :=
  if params.turnEnabled.getD false then
    match params.configType with
    | .xirsysV2 => request env call .xirsysV2 params.turnRequestURLv2 response
    | .xirsysV3 =>
      match params.turnUrl.filter (· ≠ []) with
      | some turnUrl => request env call .xirsysV3 (params.turnRequestURLv3 turnUrl) response
      | none => some []
    | .custom => do
      let turnServers ← serverFromXirsysArray params.iceServers
      startSignaling env call (defaultSTUNServer :: turnServers)
  else startSignaling env call [defaultSTUNServer]

end SetUp

end RestCommSdk
