import RestCommSdk.RestCommClient.RCDevice

/-!
# `RestCommSdk.RestCommClient.MainThread`: methods that the delegates interrupt

A delegate may call the App again before it returns, so a method that has more to do after a
call of a delegate is cut there: `enter` is what an input does up to the call, and what is left
of the method is a `Rest` on the stack. `MainThread.resume` is the return of the innermost call
of a delegate.

`enter_complete`: when the delegates do nothing but return, this is `appHandle`.

Methods whose last action is the call of a delegate are not cut, and neither is the set-up of a
media session, which reports its local video tracks on the way. `accept:` is cut whether or not
its call came to a delegate.
-/

set_option autoImplicit false

namespace RestCommSdk

open RestCommSdk.CliInterface (CString SofiaReply SipMsgEnum stringWithUTF8String)
open RestCommSdk.SipManager (NSDictionary objectForKey)

/-- What a method has left to do after a call of a delegate. -/
inductive Rest where
  /-- A connection that the other side ended: the device is made Ready. -/
  | ended
  /-- `sipManagerDidReceiveBye:` -/
  | bye (active : Bool)
  /-- `accept:`, whose call may have failed for want of a permission. -/
  | accept (c : Nat)
  /-- The branch of `handleSofiaInput:fd:` for INCOMING_CALL, with the `sdp` of the reply.
  History: the connection that was made for it. -/
  | incomingCall (c : Nat) (sdp : Option CString)
  /-- `unlisten` -/
  | unlisten
  deriving DecidableEq, Repr

/-! ### Methods up to the call of a delegate -/

namespace RCDevice

/-- `unlisten` -/
def enterUnlisten (app : App) : App × List Rest :=
  if app.state ≠ .offline then
    ({ disconnectAll app with state := .offline }.notify (.didStopListening .lostConnectivity),
      [.unlisten])
  else (app.pipe none (.shutdown false), [])

/-- `checkNetworkStatus:` -/
def enterCheckNetworkStatus (newStatus : NetworkStatus) (app : App) : App × List Rest :=
  if newStatus = .notReachable &&
      (app.state ≠ .offline || app.reachabilityStatus ≠ .notReachable) then
    enterUnlisten { app with reachabilityStatus := newStatus }
  else (checkNetworkStatus newStatus app, [])

end RCDevice

namespace RCConnection

/-- `accept:` -/
def enterAccept (auth : AVMediaType → AVAuthorizationStatus) (video : Bool) (c : Nat)
    (app : App) : Option (App × List Rest) := do
  let connection ← app.connection? c
  if connection.ringing then
    let app ← SipManager.answerWithVideo auth c video app
    return (app, [.accept c])
  else return (app, [])

/-- A connection that the other side ended, with what the delegate is told. -/
def enterEnded (event : ConnectionEvent) (c : Nat) (app : App) : App :=
  (setState .disconnected c app).tell c event

end RCConnection

/-- A message to `connectionDelegate`, which may be `nil`: then there is nothing left to do. -/
def App.enterDelegate (app : App) (method : Nat → App → App) (rest : Rest) :
    App × List Rest :=
  match app.connectionDelegate with
  | some c => (method c app, [rest])
  | none => (app, [])

/-- `handleSofiaInput:fd:` -/
def SipManager.enterSofiaInput (jsonObject : CString → Option NSDictionary) (active : Bool)
    (reply : SofiaReply) (app : App) : Option (App × List Rest) :=
  match SipMsgEnum.ofCode reply.rc with
  | some .incomingCall => do
    let args := jsonObject (← stringWithUTF8String reply.text)
    let c := app.connections.length
    let app ← RCDevice.didReceiveCall (usernameFromUri (objectForKey args "sip-uri"))
      { app with activeCallParams := {}, dialled := none }
    return (app, [.incomingCall c (objectForKey args "sdp")])
  | some .incomingCancelled =>
    some (app.enterDelegate (RCConnection.enterEnded .didCancel) .ended)
  | some .outgoingCancelled =>
    some ((disconnectMedia app).enterDelegate (RCConnection.enterEnded .didDisconnect) .ended)
  | some .outgoingDeclined =>
    some ((disconnectMedia app).enterDelegate (RCConnection.enterEnded .didGetDeclined) .ended)
  | some .outgoingByeResponse | some .incomingBye =>
    some ((disconnectMedia app).enterDelegate (RCConnection.enterEnded .didDisconnect)
      (.bye active))
  | _ => (handleSofiaInput jsonObject active reply app).map fun app => (app, [])

/-- What happens on an input, up to the call of a delegate that the method goes on after. -/
def enter (jsonObject : CString → Option NSDictionary) (app : App) (input : AppInput) :
    Option (App × List Rest) :=
  match input with
  | .unlisten => some (RCDevice.enterUnlisten app)
  | .accept c auth video => do
    let connection ← app.connection? c
    if connection.held then RCConnection.enterAccept auth video c app else none
  | .reply reply active => SipManager.enterSofiaInput jsonObject active reply app
  | .checkNetworkStatus newStatus => some (RCDevice.enterCheckNetworkStatus newStatus app)
  | input => (appHandle jsonObject app input).map fun app => (app, [])

/-- What is left of a method, up to the next call of a delegate. -/
def Rest.resume (rest : Rest) (app : App) : Option (App × List Rest) :=
  match rest with
  | ended => some (RCConnection.handleDisconnected { app with state := .ready }, [])
  | bye active =>
    let app := if app.state ≠ .offline then { app with state := .ready } else app
    let app := RCConnection.handleDisconnected app
    some (if active then (app, []) else RCDevice.enterUnlisten app)
  | accept c => some (RCConnection.setState .connected c app, [])
  | incomingCall _ sdp => do
    let sdp ← sdp
    return ({ app with activeCallParams := { app.activeCallParams with sdp := some sdp } }, [])
  | unlisten => some (app.pipe none (.shutdown false), [])

/-! ### The machine -/

/-- The App, and what the methods that are interrupted have left to do. -/
structure MainThread where
  app : App
  rests : List Rest := []

/-- What makes the main thread take a step. -/
inductive MainInput where
  | app (input : AppInput)
  /-- The innermost call of a delegate that a method waits for returns. -/
  | resume

/-- One step, with what it pipes and tells only. -/
def mainStep (jsonObject : CString → Option NSDictionary) (s : MainThread)
    (input : MainInput) : Option MainThread :=
  match input with
  | .app input => do
    let (app, rests) ← enter jsonObject s.app.silent input
    return { app := app, rests := rests ++ s.rests }
  | .resume =>
    match s.rests with
    | [] => none
    | rest :: rests => do
      let (app, more) ← rest.resume s.app.silent
      return { app := app, rests := more ++ rests }

/-! ### Delegates that only return -/

/-- A method goes on to its end. The rest of a rest makes no further call. -/
def Rest.complete (rest : Rest) (app : App) : Option App := do
  let (app, more) ← rest.resume app
  more.foldlM (fun app rest => (rest.resume app).map (·.1)) app

/-- The methods go on to their ends, the innermost first. -/
def completeAll (entered : App × List Rest) : Option App :=
  entered.2.foldlM (fun app rest => rest.complete app) entered.1

section Complete
variable {jsonObject : CString → Option NSDictionary} {app : App}

/-- One method is left. -/
theorem completeAll_singleton (rest : Rest) : completeAll (app, [rest]) = rest.complete app := by
  simp [completeAll]

/-- `unlisten`, completed. -/
theorem completeAll_enterUnlisten :
    completeAll (RCDevice.enterUnlisten app) = some (RCDevice.unlisten app) := by
  unfold RCDevice.enterUnlisten RCDevice.unlisten
  split <;> rfl

/-- The same, resumed one by one. -/
theorem foldlM_resume_enterUnlisten :
    (RCDevice.enterUnlisten app).2.foldlM (fun app rest => (rest.resume app).map (·.1))
      (RCDevice.enterUnlisten app).1 = some (RCDevice.unlisten app) := by
  unfold RCDevice.enterUnlisten RCDevice.unlisten
  split <;> rfl

/-- `checkNetworkStatus:`, completed. -/
theorem completeAll_enterCheckNetworkStatus (newStatus : NetworkStatus) :
    completeAll (RCDevice.enterCheckNetworkStatus newStatus app)
      = some (RCDevice.checkNetworkStatus newStatus app) := by
  unfold RCDevice.enterCheckNetworkStatus
  split
  · rename_i hgone
    rw [completeAll_enterUnlisten, RCDevice.checkNetworkStatus, if_pos hgone]
  · rfl

/-- `accept:`, completed. -/
theorem bind_completeAll_enterAccept (auth : AVMediaType → AVAuthorizationStatus) (video : Bool)
    (c : Nat) :
    (RCConnection.enterAccept auth video c app).bind completeAll
      = RCConnection.accept auth video c app := by
  unfold RCConnection.enterAccept RCConnection.accept
  cases app.connection? c with
  | none => rfl
  | some connection =>
    simp only [Option.bind_eq_bind, Option.bind_some]
    split
    · cases SipManager.answerWithVideo auth c video app <;> rfl
    · rfl

/-- A method of the delegate, completed. -/
theorem completeAll_enterDelegate {method whole : Nat → App → App} {rest : Rest}
    (h : ∀ c app, rest.complete (method c app) = some (whole c app)) :
    completeAll (app.enterDelegate method rest) = some (app.toDelegate whole) := by
  unfold App.enterDelegate App.toDelegate
  cases app.connectionDelegate with
  | none => rfl
  | some c => exact (completeAll_singleton rest).trans (h c app)

/-- The end of a call, completed. -/
theorem complete_ended (event : ConnectionEvent) (c : Nat) (app : App) :
    Rest.ended.complete (RCConnection.enterEnded event c app)
      = some (RCConnection.ended event c app) := rfl

/-- The end of a call by a `BYE`, completed. -/
theorem complete_bye (active : Bool) (c : Nat) (app : App) :
    (Rest.bye active).complete (RCConnection.enterEnded .didDisconnect c app)
      = some (RCConnection.didReceiveBye active c app) := by
  cases active with
  | true => rfl
  | false =>
    -- A bye in the background goes on with `unlisten`.
    show (RCDevice.enterUnlisten _).2.foldlM (fun app rest => (rest.resume app).map (·.1))
      (RCDevice.enterUnlisten _).1 = _
    exact foldlM_resume_enterUnlisten

/-- `handleSofiaInput:fd:`, completed. -/
theorem bind_completeAll_enterSofiaInput (active : Bool) (reply : SofiaReply) :
    (SipManager.enterSofiaInput jsonObject active reply app).bind completeAll
      = SipManager.handleSofiaInput jsonObject active reply app := by
  unfold SipManager.enterSofiaInput
  split
  · rename_i hcode
    simp only [SipManager.handleSofiaInput, hcode, Option.bind_eq_bind, Option.bind_assoc]
    -- The delegate is asked first, and the offer is stored when it is done.
    refine Option.bind_congr fun text _ => Option.bind_congr fun app _ => ?_
    cases objectForKey (jsonObject text) "sdp" <;> rfl
  · rename_i hcode
    simp only [SipManager.handleSofiaInput, hcode]
    -- A call that ends tells the delegate, and goes on with its rest.
    exact completeAll_enterDelegate (complete_ended _)
  · rename_i hcode
    simp only [SipManager.handleSofiaInput, hcode]
    exact completeAll_enterDelegate (complete_ended _)
  · rename_i hcode
    simp only [SipManager.handleSofiaInput, hcode]
    exact completeAll_enterDelegate (complete_ended _)
  · rename_i hcode
    simp only [SipManager.handleSofiaInput, hcode]
    -- A BYE does the same, and may unlisten.
    exact completeAll_enterDelegate (complete_bye active)
  · rename_i hcode
    simp only [SipManager.handleSofiaInput, hcode]
    exact completeAll_enterDelegate (complete_bye active)
  · -- The other replies leave no rest.
    cases SipManager.handleSofiaInput jsonObject active reply app <;> rfl

/-- What an input does when no delegate calls the App. -/
theorem enter_complete (input : AppInput) :
    (enter jsonObject app input).bind completeAll = appHandle jsonObject app input := by
  cases input with
  | unlisten => exact completeAll_enterUnlisten
  | checkNetworkStatus newStatus => exact completeAll_enterCheckNetworkStatus newStatus
  | reply reply active => exact bind_completeAll_enterSofiaInput active reply
  | accept c auth video =>
    simp only [enter, appHandle, ofHeld]
    cases app.connection? c with
    | none => rfl
    | some connection =>
      simp only [Option.bind_eq_bind, Option.bind_some]
      split
      · exact bind_completeAll_enterAccept auth video c
      · rfl
  | _ =>
    simp only [enter]
    cases appHandle jsonObject app _ <;> rfl

end Complete

end RestCommSdk
