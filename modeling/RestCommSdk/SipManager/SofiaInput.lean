import RestCommSdk.SipManager.Calls

/-!
# `RestCommSdk.SipManager.SofiaInput`: the replies of Sofia

`handleSofiaInput:fd:` of `SipManager.mm`, with the methods of `RCDevice.m` that it calls. The
reader of the framework for JSON is the parameter `jsonObject`. A reply with a text that the
branch cannot work with ends in an exception, `none`: a text that does not decode makes `nil`, and
every branch that takes a string of the text puts it somewhere where `nil` may not stand.
-/

set_option autoImplicit false

namespace RestCommSdk

open RestCommSdk.CliInterface (CString SofiaReply SipMsgEnum format stringWithUTF8String)
open RestCommSdk.SipManager (NSDictionary objectForKey)

/-- `[RCUtilities usernameFromUri:]`: what stands between the first colon and the at sign, or
the next colon. A text without an at sign is taken as it is. -/
def usernameFromUri (uri : Option CString) : Option CString := do
  let uri ← uri
  let schemaUsername := uri.takeWhile (· ≠ '@')
  if '@' ∉ uri then some uri
  else if ':' ∈ schemaUsername then
    some (((schemaUsername.dropWhile (· ≠ ':')).drop 1).takeWhile (· ≠ ':'))
  else none

namespace RCDevice

/-- A new connection becomes the current one and the delegate, and the device Busy. -/
def makeConnection (connection : RCConnection) (app : App) : App :=
  { app with
    connections := app.connections ++ [connection]
    currentConnection := some app.connections.length
    delegate := some app.connections.length
    state := .busy }

/-- `sipManagerDidReceiveCall:from:` -/
def didReceiveCall (caller : Option CString) (app : App) : Option App := do
  let _ ← caller
  return (makeConnection { incoming := true, state := .connecting } app).notify
    (.didReceiveIncomingConnection app.connections.length)

/-- `sipManager:didReceiveMessageWithData:from:` -/
def didReceiveMessage (message : CString) (caller : Option CString) (app : App) :
    Option App := do
  let caller ← caller
  return app.notify (.didReceiveIncomingMessage message caller)

/-- `sipManagerDidInitializedSignalling:` -/
def didInitializedSignalling (app : App) : App :=
  if app.registrarless then app.notify .didStartListening else app

/-- `sipManagerDidRegisterSuccessfully:` -/
def didRegisterSuccessfully (app : App) : App :=
  if app.state = .offline then { app with state := .ready }.notify .didStartListening else app

/-- `sipManager:didSignallingError:` for the errors that make the device Offline. -/
def offlineOnError (error : ListeningError) (app : App) : App :=
  { app with state := .offline }.notify (.didStopListening error)

end RCDevice

namespace SipManager

/-- `handleSofiaInput:fd:`. `active` says that the application is in the foreground. -/
def handleSofiaInput (jsonObject : CString → Option NSDictionary) (active : Bool)
    (reply : SofiaReply) (app : App) : Option App :=
  match SipMsgEnum.ofCode reply.rc with
  | some .replyAuth =>
    some { app with credentials := app.credentials ++ [format app.params.password] }
  | some .incomingCall => do
    -- `JSONObjectWithData:` raises on the data of `nil`.
    let args := jsonObject (← stringWithUTF8String reply.text)
    let app ← RCDevice.didReceiveCall (usernameFromUri (objectForKey args "sip-uri"))
      { app with activeCallParams := {}, dialled := none }
    let sdp ← objectForKey args "sdp"
    return { app with activeCallParams := { app.activeCallParams with sdp := some sdp } }
  | some .outgoingRinging => some (app.toDelegate RCConnection.didReceiveOutgoingRinging)
  | some .outgoingEstablished =>
    -- Only the media session learns of the answer; the connection waits for ICE.
    match app.media with
    | none => some app
    | some m => do
      let answer := stringWithUTF8String reply.text
      let media ← (← app.media? m).processSignalingMessage answer
      return app.setMedia m fun _ => media
  | some .incomingMsg => do
    -- Of `nil` there are no parts, and the dictionary of the message is given `nil`.
    let whole ← stringWithUTF8String reply.text
    if '|' ∈ whole then
      RCDevice.didReceiveMessage (((whole.dropWhile (· ≠ '|')).drop 1).takeWhile (· ≠ '|'))
        (usernameFromUri (some (whole.takeWhile (· ≠ '|')))) app
    else none
  | some .incomingCancelled => some (app.toDelegate RCConnection.didReceiveIncomingCancelled)
  | some .outgoingCancelled =>
    some ((disconnectMedia app).toDelegate RCConnection.didReceiveOutgoingCancelled)
  | some .outgoingDeclined =>
    some ((disconnectMedia app).toDelegate RCConnection.didReceiveOutgoingDeclined)
  | some .registerSuccess => some (RCDevice.didRegisterSuccessfully app)
  | some .errorSipInitializingSignaling | some .errorSipRegisterGeneric
  | some .errorSipRegisterAuthentication | some .errorSipRegisterTimeout
  | some .errorSipRegisterServiceUnavailable => do
    let _ ← stringWithUTF8String reply.text
    return RCDevice.offlineOnError (.signalling reply) app
  | some .errorSipInviteGeneric | some .errorSipInviteAuthentication
  | some .errorSipInviteTimeout | some .errorSipInviteNotFound
  | some .errorSipInviteSipUriInvalid => do
    let _ ← stringWithUTF8String reply.text
    return (disconnectMedia app).toDelegate (RCConnection.didError (.signalling reply))
  | some .outgoingByeResponse | some .incomingBye =>
    some ((disconnectMedia app).toDelegate (RCConnection.didReceiveBye active))
  | some .signallingInitialized => some (RCDevice.didInitializedSignalling app)
  | some .errorSipRegisterUriInvalid | some .errorSipMessageGeneric
  | some .errorSipMessageAuthentication | some .errorSipMessageTimeout
  | some .errorSipMessageNotFound | some .errorSipMessageUriInvalid => do
    -- The error is made, and the device does nothing about it.
    let _ ← stringWithUTF8String reply.text
    return app
  -- No branch is for the rest.
  | _ => some app

end SipManager

end RestCommSdk
