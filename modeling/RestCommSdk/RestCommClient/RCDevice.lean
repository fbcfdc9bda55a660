import RestCommSdk.SipManager.SofiaInput

/-!
# `RestCommSdk.RestCommClient.RCDevice`: the calls of the application, and the App as a machine

The methods of `RCDevice.m` and `RCConnection.m` that the application calls, `eventLoop`, and
`appStep`: one call of the application, one callback of the framework or one reply of Sofia.
-/

set_option autoImplicit false

namespace RestCommSdk

open RestCommSdk.CliInterface (CString SofiaReply)
open RestCommSdk.SipManager (NSDictionary Params)

/-- `eventLoop`, as far as the App sees it: the Sofia thread is started, unless there is one. -/
def SipManager.eventLoop (app : App) : App :=
  if 0 < app.signallingInstances then
    app.pipe none .markForRestart
  else
    let app := { app with signallingInstances := app.signallingInstances + 1 }
    -- Without certificates nothing is started, but the instance stays counted.
    if app.params.secure && app.params.certificateDir.getD [] = [] then
      RCDevice.offlineOnError .secureSignalling app
    else app

namespace RCConnection

/-- The connection waits for the application to answer it. -/
def ringing (connection : RCConnection) : Bool :=
  connection.incoming && connection.state = .connecting

/-- `accept:` -/
def accept (auth : AVMediaType → AVAuthorizationStatus) (video : Bool) (c : Nat) (app : App) :
    Option App := do
  let connection ← app.connection? c
  if connection.ringing then
    let app ← SipManager.answerWithVideo auth c video app
    return setState .connected c app
  else return app

/-- `reject` -/
def reject (c : Nat) (app : App) : App :=
  match app.connection? c with
  | none => app
  | some connection =>
    -- Neither the state of the connection nor `currentConnection` is written.
    if connection.ringing then { app.pipe (some c) .decline with state := .ready } else app

/-- `sendDigits:` -/
def sendDigits (digits : CString) (c : Nat) (app : App) : App :=
  if app.connectionState c = some .connected then app.pipe (some c) (.info digits)
  else app.tell c (.didFailWithError .sendingDigits)

end RCConnection

namespace RCDevice

/-- `initWithParams:delegate:` -/
def initWithParams (params : Params) (status : NetworkStatus) : App :=
  let app : App :=
    { state := .offline, reachabilityStatus := status, params := params }
  if status ≠ .notReachable then
    SipManager.eventLoop (if app.registrarless then { app with state := .ready } else app)
  else app

/-- `connect:delegate:`, and the connection that it returns. The application keeps the connection,
unless the call is refused with a session left over: if nothing is returned because a permission was
refused at once, its delegate was given the connection with the error. -/
def connect (auth : AVMediaType → AVAuthorizationStatus) (recipient : CString) (video : Bool)
    (headers : Option NSDictionary) (app : App) : Option (App × Option Nat) :=
  if app.state ≠ .ready then some (app, none)
  else do
    let c := app.connections.length
    let (app, invited) ← SipManager.invite auth c recipient video headers
      (makeConnection { incoming := false, state := .pending } app)
    -- The device has the connection for its current one by now, refused or not.
    let app := app.setConnection c fun connection => { connection with held := invited }
    -- What is returned is read from the device, where an error has cleared it.
    return (app, if invited then app.currentConnection else none)

/-- `sendMessage:` -/
def sendMessage (message recipient : CString) (headers : Option NSDictionary) (app : App) : App :=
  if app.state = .offline then app
  else (SipManager.message app.params message recipient headers).foldl
    (fun app command => app.pipe none command) app

/-- `updateParams:` of `SipManager`, and its result. -/
def sipManagerUpdateParams (params : Option Params) (deviceIsOnline networkIsOnline : Bool)
    (app : App) : Option (App × SipManager.UpdateParamsState) := do
  let (commands, state, stored) ←
    SipManager.updateParams app.params params deviceIsOnline networkIsOnline
  let app := commands.foldl (fun app command => app.pipe none command) app
  return ({ app with params := stored }, state)

/-- The parameters that are kept while there is no network: all the given ones. -/
def keepParams (stored params : Params) : Params :=
  { aor := params.aor.or stored.aor
    password := params.password.or stored.password
    registrar := params.registrar.or stored.registrar
    signalingSecure := params.signalingSecure.or stored.signalingSecure
    turnUrl := params.turnUrl.or stored.turnUrl
    turnEnabled := params.turnEnabled.or stored.turnEnabled
    turnUsername := params.turnUsername.or stored.turnUsername
    turnPassword := params.turnPassword.or stored.turnPassword
    turnCandidateTimeout := params.turnCandidateTimeout.or stored.turnCandidateTimeout
    iceConfigType := params.iceConfigType.or stored.iceConfigType
    iceDomain := params.iceDomain.or stored.iceDomain
    iceServers := params.iceServers.or stored.iceServers
    certificateDir := params.certificateDir.or stored.certificateDir }

/-- `updateParams:` -/
def updateParams (params : Option Params) (app : App) : Option App :=
  if app.reachabilityStatus ≠ .notReachable then do
    let (app, state) ← sipManagerUpdateParams params (app.state ≠ .offline) true app
    match state with
    | .sentRegister => return offlineOnError .registering app
    | .reestablishedRegistrarless =>
      return { app with state := .ready }.notify .didStartListening
    | .unassigned => return app
  else
    some { app with params := params.elim app.params (keepParams app.params) }

/-- `listen`. `status` is what `currentReachabilityStatus` answers. -/
def listen (status : NetworkStatus) (app : App) : Option App :=
  match app.state with
  | .offline =>
    if app.reachabilityStatus ≠ .notReachable then
      let app := SipManager.eventLoop app
      let notifyApp := app.registrarless || status ≠ app.reachabilityStatus
      let app := if app.registrarless then { app with state := .ready } else app
      let app := { app with reachabilityStatus := status }
      -- A device with a registrar is told later, when the registration has succeeded.
      if notifyApp then
        some (app.notify
          (if status ≠ .notReachable then .didStartListening
           else .didStopListening .lostConnectivity))
      else some app
    else some (app.notify (.didStopListening .lostConnectivity))
  -- The registration is refreshed.
  | .ready =>
    if app.registrarless then some (app.notify .didStartListening)
    else (sipManagerUpdateParams none true true app).map (·.1)
  | .busy => some app

/-- `checkNetworkStatus:` -/
def checkNetworkStatus (newStatus : NetworkStatus) (app : App) : App :=
  if newStatus = .notReachable &&
      (app.state ≠ .offline || app.reachabilityStatus ≠ .notReachable) then
    -- The network is gone.
    unlisten { app with reachabilityStatus := newStatus }
  else if app.reachabilityStatus ≠ .notReachable && newStatus ≠ .notReachable &&
      app.reachabilityStatus ≠ newStatus then
    -- From one network to another, whatever the state of the device.
    { app.pipe none (.shutdown true) with reachabilityStatus := newStatus }.notify
      .didStartListening
  else { app with reachabilityStatus := newStatus }

end RCDevice

/-! ### Steps -/

/-- What makes the App take a step. -/
inductive AppInput where
  | connect (auth : AVMediaType → AVAuthorizationStatus) (recipient : CString) (video : Bool)
    (headers : Option NSDictionary)
  | disconnectAll
  | listen (status : NetworkStatus)
  | unlisten
  | updateParams (params : Option Params)
  | sendMessage (message recipient : CString) (headers : Option NSDictionary)
  | accept (c : Nat) (auth : AVMediaType → AVAuthorizationStatus) (video : Bool)
  | reject (c : Nat)
  | disconnect (c : Nat)
  | sendDigits (c : Nat) (digits : CString)
  /-- The application gives up its reference to a connection. -/
  | release (c : Nat)
  | permissionAnswered (auth : AVMediaType → AVAuthorizationStatus) (n : Nat) (granted : Bool)
  | turnAnswered (m : Nat) (success : Bool)
  | didCreateSessionDescription (m : Nat) (sdp : Option CString)
  | didSetSessionDescriptionWithError (m : Nat)
  | didGenerateIceCandidate (m : Nat) (localDescription : CString)
  | iceGatheringComplete (m : Nat)
  | iceConnected (m : Nat)
  | iceFailed (m : Nat)
  | didAddStream (m : Nat)
  | reply (reply : SofiaReply) (active : Bool)
  | checkNetworkStatus (newStatus : NetworkStatus)
  /-- `sofsip_loop` has returned. -/
  | loopStopped

/-- A method of a connection that the application has a reference to. -/
def ofHeld (c : Nat) (method : App → Option App) (app : App) : Option App := do
  let connection ← app.connection? c
  if connection.held then method app else none

/-- What happens on an input. -/
def appHandle (jsonObject : CString → Option NSDictionary) (app : App) (input : AppInput) :
    Option App :=
  match input with
  | .connect auth recipient video headers =>
    (RCDevice.connect auth recipient video headers app).map (·.1)
  | .disconnectAll => some (RCDevice.disconnectAll app)
  | .listen status => RCDevice.listen status app
  | .unlisten => some (RCDevice.unlisten app)
  | .updateParams params => RCDevice.updateParams params app
  | .sendMessage message recipient headers =>
    some (RCDevice.sendMessage message recipient headers app)
  | .accept c auth video => ofHeld c (RCConnection.accept auth video c) app
  | .reject c => ofHeld c (fun app => some (RCConnection.reject c app)) app
  | .disconnect c => ofHeld c (fun app => some (RCConnection.disconnect c app)) app
  | .sendDigits c digits =>
    ofHeld c (fun app => some (RCConnection.sendDigits digits c app)) app
  | .release c =>
    ofHeld c (fun app => some (app.setConnection c fun connection =>
      { connection with held := false })) app
  | .permissionAnswered auth n granted => SipManager.permissionAnswered auth n granted app
  | .turnAnswered m success => SipManager.turnAnswered m success app
  | .didCreateSessionDescription m sdp => SipManager.didCreateSessionDescription m sdp app
  | .didSetSessionDescriptionWithError m => SipManager.didSetSessionDescriptionWithError m app
  | .didGenerateIceCandidate m localDescription =>
    SipManager.didGenerateIceCandidate m localDescription app
  | .iceGatheringComplete m => SipManager.iceGatheringComplete m app
  | .iceConnected m => SipManager.iceConnected m app
  | .iceFailed m => SipManager.iceFailed m app
  | .didAddStream m => SipManager.didAddStream m app
  | .reply reply active => SipManager.handleSofiaInput jsonObject active reply app
  | .checkNetworkStatus newStatus => some (RCDevice.checkNetworkStatus newStatus app)
  | .loopStopped => some { app with signallingInstances := app.signallingInstances - 1 }

/-- Nothing has been piped or told yet. -/
def App.silent (app : App) : App :=
  { app with piped := [], credentials := [], told := [], notified := [] }

/-- One step of the App, with what it pipes and tells only. -/
def appStep (jsonObject : CString → Option NSDictionary) (app : App) (input : AppInput) :
    Option App :=
  appHandle jsonObject app.silent input

end RestCommSdk
