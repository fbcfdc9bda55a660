import RestCommSdk.RestCommClient.App

/-!
# `RestCommSdk.RestCommClient.RCConnection`: hanging up, and the delegate of `SipManager`

The methods of `RCConnection.m` that end a call or that `SipManager` calls, with the methods of
`RCDevice.m` and `SipManager.mm` that these use. A method takes the number of its connection
and the state of the App.
-/

set_option autoImplicit false

namespace RestCommSdk

open RestCommSdk.CliInterface (CString SofiaReply)

/-- `disconnectMedia` -/
def SipManager.disconnectMedia (app : App) : App :=
  match app.media with
  | some m => { app.setMedia m MediaWebRTC.disconnect with media := none }
  | none => app

namespace RCConnection

/-- What `disconnect` pipes or marks, by the state of the connection. -/
def hangUp (c : Nat) (connection : RCConnection) (app : App) : App :=
  match connection.state with
  | .connecting =>
    app.pipe (some c) (if connection.incoming then .decline else .cancel)
  | .connected => app.pipe (some c) .bye
  | .pending =>
    -- SIP cannot cancel before a provisional response.
    if connection.incoming then app
    else app.setConnection c fun connection => { connection with cancelPending := true }
  | .disconnected => app

/-- The assignment of `self.state`. -/
def setState (state : RCConnectionState) (c : Nat) (app : App) : App :=
  app.setConnection c fun connection => { connection with state := state }

/-- `handleDisconnected`, with `clearCurrentConnection`. -/
def handleDisconnected (app : App) : App := { app with currentConnection := none }

/-- `disconnect` -/
def disconnect (c : Nat) (app : App) : App :=
  match app.connection? c with
  | none => app
  | some connection =>
    let app := SipManager.disconnectMedia (hangUp c connection app)
    handleDisconnected { setState .disconnected c app with state := .ready }

end RCConnection

namespace RCDevice

/-- `disconnectAll` -/
def disconnectAll (app : App) : App :=
  if app.state = .busy then
    let app := match app.currentConnection with
      | some c => RCConnection.disconnect c app
      | none => app
    { app with state := .ready }
  else app

/-- `unlisten`. The command goes out also when the device is Offline already. -/
def unlisten (app : App) : App :=
  let app :=
    if app.state ≠ .offline then
      { disconnectAll app with state := .offline }.notify (.didStopListening .lostConnectivity)
    else app
  app.pipe none (.shutdown false)

end RCDevice

namespace RCConnection

/-- `sipManagerDidReceiveOutgoingRinging:` -/
def didReceiveOutgoingRinging (c : Nat) (app : App) : App :=
  match app.connection? c with
  | none => app
  | some connection =>
    if connection.cancelPending then app.pipe (some c) .cancel
    else (setState .connecting c app).tell c .didStartConnecting

/-- `sipManagerDidReceiveOutgoingEstablished:` -/
def didReceiveOutgoingEstablished (c : Nat) (app : App) : App :=
  match app.connection? c with
  | none => app
  | some connection =>
    if connection.cancelPending then
      (app.pipe (some c) .bye).setConnection c fun connection =>
        { connection with cancelPending := false }
    else (setState .connected c app).tell c .didConnect

/-- `sipManagerDidReceiveIncomingEstablished:` -/
def didReceiveIncomingEstablished (c : Nat) (app : App) : App := app.tell c .didConnect

/-- The end of a call that the other side ended, with what the delegate is told. -/
def ended (event : ConnectionEvent) (c : Nat) (app : App) : App :=
  handleDisconnected { (setState .disconnected c app).tell c event with state := .ready }

/-- `sipManagerDidReceiveOutgoingCancelled:` -/
def didReceiveOutgoingCancelled : Nat → App → App := ended .didDisconnect

/-- `sipManagerDidReceiveOutgoingDeclined:` -/
def didReceiveOutgoingDeclined : Nat → App → App := ended .didGetDeclined

/-- `sipManagerDidReceiveIncomingCancelled:` -/
def didReceiveIncomingCancelled : Nat → App → App := ended .didCancel

/-- `sipManagerDidReceiveBye:`. `active` says that the application is in the foreground. Of the
methods that end a call this one alone leaves an Offline device Offline. -/
def didReceiveBye (active : Bool) (c : Nat) (app : App) : App :=
  let app := (setState .disconnected c app).tell c .didDisconnect
  let app := if app.state ≠ .offline then { app with state := .ready } else app
  let app := handleDisconnected app
  if active then app else RCDevice.unlisten app

/-- `sipManager:didMediaError:` and `sipManager:didSignallingError:`. -/
def didError (error : CallError) (c : Nat) (app : App) : App :=
  (disconnect c app).tell c (.didFailWithError error)

end RCConnection

end RestCommSdk
