import RestCommSdk.CliInterface.SipMsg
import RestCommSdk.Media.MediaWebRTC

/-!
# `RestCommSdk.RestCommClient.App`: the objects of the App

`App` is the state of the App: the `RCDevice`, the `RCConnection`s that were made, the
`SipManager` and the `MediaWebRTC` sessions that were made. A connection and a session are
named by their number in the order in which they were made.

What a step has piped to Sofia and told the application is kept with the state. `source` of a
piped command is the connection whose method piped it, or for which the media session that
piped it was made. Fields marked as history are written and never read by the code.

A weak reference reads as `nil` once its object is gone: a connection is kept by the
application (`held`) and by `currentConnection`.
-/

set_option autoImplicit false

namespace RestCommSdk

open RestCommSdk.CliInterface (CString SofiaReply)
open RestCommSdk.SipManager (NSDictionary Params ActiveCallParams Command MediaState)

/-- `RCDeviceState` -/
inductive RCDeviceState where
  | offline
  | ready
  | busy
  deriving DecidableEq, Repr

/-- `RCConnectionState` -/
inductive RCConnectionState where
  | pending
  | connecting
  | connected
  | disconnected
  deriving DecidableEq, Repr

/-- `NetworkStatus` -/
inductive NetworkStatus where
  | notReachable
  | reachableViaWiFi
  | reachableViaWWAN
  deriving DecidableEq, Repr

/-- The two media types that a permission is asked for. -/
inductive AVMediaType where
  | audio
  | video
  deriving DecidableEq, Repr

/-- `AVAuthorizationStatus` -/
inductive AVAuthorizationStatus where
  | notDetermined
  | restricted
  | denied
  | authorized
  deriving DecidableEq, Repr

/-- The object `RCConnection`. -/
structure RCConnection where
  incoming : Bool
  state : RCConnectionState
  cancelPending : Bool := false
  /-- The application has a reference to the connection. -/
  held : Bool := true
  /-- History: the destination that the connection was dialled with. -/
  destination : CString := []
  /-- History: the headers that the connection was dialled with. -/
  headers : Option NSDictionary := none
  /-- History: an `i` command was piped for the connection. -/
  invited : Bool := false
  deriving DecidableEq, Repr

/-- The errors that `connection:didFailWithError:` is called with. -/
inductive CallError where
  /-- `ERROR_MEDIA_PERMISSION_DENIED` -/
  | permissionDenied (mediaType : AVMediaType)
  /-- The error of the TURN request. -/
  | turn
  /-- `ERROR_WEBRTC_SDP` -/
  | sdp
  /-- `ERROR_WEBRTC_ICE` -/
  | ice
  /-- The error that Sofia reported. -/
  | signalling (reply : SofiaReply)
  /-- `ERROR_SENDING_DIGITS` -/
  | sendingDigits
  deriving DecidableEq, Repr

/-- The calls of a connection's delegate. -/
inductive ConnectionEvent where
  | didStartConnecting
  | didConnect
  | didDisconnect
  | didCancel
  | didGetDeclined
  | didFailWithError (error : CallError)
  | didReceiveLocalVideo
  | didReceiveRemoteVideo
  deriving DecidableEq, Repr

/-- Why the device does not listen. -/
inductive ListeningError where
  /-- `ERROR_LOST_CONNECTIVITY` -/
  | lostConnectivity
  /-- `RESTCOMM_CLIENT_SUCCESS`: a registration was sent. -/
  | registering
  /-- `ERROR_SECURE_SIGNALLING` -/
  | secureSignalling
  /-- The error that Sofia reported. -/
  | signalling (reply : SofiaReply)
  deriving DecidableEq, Repr

/-- The calls of the device's delegate, made at once or scheduled. -/
inductive DeviceEvent where
  | didStartListening
  | didStopListening (error : ListeningError)
  | didReceiveIncomingConnection (c : Nat)
  | didReceiveIncomingMessage (message caller : CString)
  deriving DecidableEq, Repr

/-- The test of `asyncDeviceDidStopListeningForIncomingConnections:`. `background` says that the
application is in the background when the call is due. -/
def DeviceEvent.delivered (background : Bool) : DeviceEvent → Bool
  | didStopListening _ => !background
  | _ => true

/-- A permission that the user has been asked for. -/
structure PermissionRequest where
  mediaType : AVMediaType
  /-- History: the connection that it was asked for. -/
  owner : Nat
  deriving DecidableEq, Repr

/-- A command that was written to the pipe. -/
structure Piped where
  source : Option Nat
  command : Command
  deriving DecidableEq, Repr

/-- The state of the App. -/
structure App where
  /-- `RCDevice.state` -/
  state : RCDeviceState
  /-- `RCDevice.currentConnection` -/
  currentConnection : Option Nat := none
  /-- `RCDevice.reachabilityStatus` -/
  reachabilityStatus : NetworkStatus := .reachableViaWiFi
  connections : List RCConnection := []
  /-- `SipManager.params` -/
  params : Params := {}
  /-- `SipManager.activeCallParams` -/
  activeCallParams : ActiveCallParams := {}
  /-- `SipManager.videoAllowed` -/
  videoAllowed : Bool := false
  /-- `SipManager.connectionDelegate`, as it was set last. -/
  delegate : Option Nat := none
  /-- `SipManager.media` -/
  media : Option Nat := none
  /-- `SipManager.signallingInstances` -/
  signallingInstances : Nat := 0
  medias : List MediaWebRTC := []
  /-- The permission prompts that wait for an answer. -/
  permissionRequests : List PermissionRequest := []
  /-- History: the connection whose parameters `activeCallParams` holds. -/
  dialled : Option Nat := none
  /-- What this step has piped. -/
  piped : List Piped := []
  /-- The passwords that this step has piped with a `k`. -/
  credentials : List CString := []
  /-- What this step has told the delegates of the connections. -/
  told : List (Nat × ConnectionEvent) := []
  /-- What this step has told the delegate of the device. -/
  notified : List DeviceEvent := []
  deriving DecidableEq, Repr

namespace App

/-- The connection with this number. -/
def connection? (app : App) (c : Nat) : Option RCConnection := app.connections[c]?

/-- A write to a connection. -/
def setConnection (app : App) (c : Nat) (f : RCConnection → RCConnection) : App :=
  { app with connections := app.connections.modify c f }

/-- The state of a connection. -/
def connectionState (app : App) (c : Nat) : Option RCConnectionState :=
  (app.connection? c).map (·.state)

/-- The connection was made and is not Disconnected. -/
def Live (app : App) (c : Nat) : Prop :=
  ∃ connection ∈ app.connection? c, connection.state ≠ .disconnected

instance (app : App) (c : Nat) : Decidable (app.Live c) :=
  inferInstanceAs (Decidable (∃ connection ∈ app.connection? c, _))

/-- The connection has not been freed. -/
def Retained (app : App) (c : Nat) : Prop :=
  app.currentConnection = some c ∨ ∃ connection ∈ app.connection? c, connection.held

instance (app : App) (c : Nat) : Decidable (app.Retained c) :=
  inferInstanceAs (Decidable (_ ∨ ∃ connection ∈ app.connection? c, _))

/-- What `SipManager.connectionDelegate` reads as. -/
def connectionDelegate (app : App) : Option Nat :=
  app.delegate.filter fun c => app.Retained c

/-- A message to `connectionDelegate`, which may be `nil`. -/
def toDelegate (app : App) (method : Nat → App → App) : App :=
  match app.connectionDelegate with
  | some c => method c app
  | none => app

/-- The media session with this number. -/
def media? (app : App) (m : Nat) : Option MediaWebRTC := app.medias[m]?

/-- A write to a media session. -/
def setMedia (app : App) (m : Nat) (f : MediaWebRTC → MediaWebRTC) : App :=
  { app with medias := app.medias.modify m f }

/-- `self.media.state`, unless `self.media` is `nil`. -/
def mediaState (app : App) : Option MediaState :=
  (app.media.bind app.media?).map (·.state)

/-- `pipeToSofia:` -/
def pipe (app : App) (source : Option Nat) (command : Command) : App :=
  { app with piped := app.piped ++ [⟨source, command⟩] }

/-- A call of the delegate of a connection. -/
def tell (app : App) (c : Nat) (event : ConnectionEvent) : App :=
  { app with told := app.told ++ [(c, event)] }

/-- A call of the delegate of the device. -/
def notify (app : App) (event : DeviceEvent) : App :=
  { app with notified := app.notified ++ [event] }

/-- The registrar is missing or empty. -/
def registrarless (app : App) : Bool := app.params.registrar.getD [] = []

end App

end RestCommSdk
