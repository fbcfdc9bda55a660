import RestCommSdk.Proofs.CallbackSteps

/-!
# `RestCommSdk.Proofs.CallEffects`: what the methods of the App do to the calls

`Effect` says what a method did to the state of the device, the current connection and the
set of live connections. Most methods leave all three alone (`SameCalls`); those that end the
call of a connection have the effect `EndsCall`. There is one lemma for each method.
-/

set_option autoImplicit false

namespace RestCommSdk

open RestCommSdk.Lib (decodes)
open RestCommSdk.CliInterface (CString SofiaReply SipMsgEnum stringWithUTF8String_eq_some_iff)

/-! ### Reading after writing -/

namespace App

variable (app : App)

/-- A write to one connection leaves the others. -/
theorem connection?_setConnection (c x : Nat) (f : RCConnection → RCConnection) :
    (app.setConnection c f).connection? x
      = if c = x then (app.connection? x).map f else app.connection? x := by
  simp only [connection?, setConnection, List.getElem?_modify]
  split <;> simp

/-- A write to one session leaves the others. -/
theorem media?_setMedia (m x : Nat) (f : MediaWebRTC → MediaWebRTC) :
    (app.setMedia m f).media? x = if m = x then (app.media? x).map f else app.media? x := by
  simp only [media?, setMedia, List.getElem?_modify]
  split <;> simp

/-- Commands are piped one behind the other. -/
theorem pipeAll_eq (source : Option Nat) (commands : List SipManager.Command) :
    commands.foldl (fun app command => app.pipe source command) app =
      { app with piped := app.piped ++ commands.map fun command => ⟨source, command⟩ } := by
  induction commands generalizing app with
  | nil => simp
  | cons command commands ih =>
    rw [List.foldl_cons, ih]
    simp [App.pipe]

/-- A write to a session that leaves its state. -/
theorem mediaState_setMedia (m : Nat) {f : MediaWebRTC → MediaWebRTC}
    (hf : ∀ media, (f media).state = media.state) :
    (app.setMedia m f).mediaState = app.mediaState := by
  unfold App.mediaState
  show (app.media.bind (app.setMedia m f).media?).map (·.state) = _
  cases app.media with
  | none => rfl
  | some x =>
    rw [Option.bind_some, Option.bind_some, App.media?_setMedia]
    split
    · simp [hf, Function.comp_def]
    · rfl

/-- A new connection has the next number. -/
theorem connection?_makeConnection (connection : RCConnection) (app : App) (c : Nat) :
    (RCDevice.makeConnection connection app).connection? c
      = if c = app.connections.length then some connection else app.connection? c := by
  simp only [connection?, RCDevice.makeConnection, List.getElem?_append]
  split_ifs with hlt heq heq
  · exact absurd heq hlt.ne
  · rfl
  · simp [heq]
  · have hsub : ¬ c - app.connections.length < 1 := by omega
    rw [List.getElem?_eq_none (Nat.le_of_not_lt hsub), List.getElem?_eq_none (Nat.le_of_not_lt hlt)]

/-- A live connection is one with a state other than Disconnected. -/
theorem live_iff {app : App} {c : Nat} :
    app.Live c ↔ ∃ state ∈ app.connectionState c, state ≠ .disconnected := by
  simp [Live, connectionState]

/-- Connections are numbered in the order in which they were made. -/
theorem isSome_connection? {app : App} {c : Nat} :
    (app.connection? c).isSome ↔ c < app.connections.length := by
  simp [connection?]

/-- A connection that rings is live. -/
theorem live_of_ringing {app : App} {c : Nat} {connection : RCConnection}
    (hc : app.connection? c = some connection) (hrings : connection.ringing = true) :
    app.Live c :=
  ⟨connection, hc, fun hstate => by simp [RCConnection.ringing, hstate] at hrings⟩

/-- A live connection has been made. -/
theorem Live.lt {app : App} {c : Nat} (h : app.Live c) : c < app.connections.length := by
  obtain ⟨connection, hc, -⟩ := h
  exact isSome_connection?.mp (by rw [hc]; rfl)

/-- The delegate that is alive is the one that is pointed to. -/
theorem mem_delegate {app : App} {c : Nat} (h : app.connectionDelegate = some c) :
    app.delegate = some c :=
  (Option.filter_eq_some_iff.mp h).1

end App

namespace Proofs

/-- A method of the application is called on a connection that was made. -/
theorem ofHeld_eq_some {c : Nat} {method : App → Option App} {app app' : App}
    (h : ofHeld c method app = some app') :
    c < app.connections.length ∧ method app = some app' := by
  obtain ⟨connection, hc, h⟩ := Option.bind_eq_some_iff.mp h
  split at h
  · exact ⟨App.isSome_connection?.mp (Option.isSome_iff_exists.mpr ⟨_, hc⟩), h⟩
  · cases h

/-! ### Effects -/

/-- What happened to the device and the calls between two states. The connections that the
delegate pointer may name are there in both. -/
structure Effect (app app' : App) (state : RCDeviceState) (current : Option Nat)
    (live : Nat → Prop) : Prop where
  state : app'.state = state
  current : app'.currentConnection = current
  live : ∀ c, app'.Live c ↔ live c
  delegate : app'.delegate = app.delegate
  length : app'.connections.length = app.connections.length

/-- Nothing happened. -/
def SameCalls (app app' : App) : Prop :=
  Effect app app' app.state app.currentConnection app.Live

/-- The call of the connection ended, and the device is Ready. -/
def EndsCall (d : Nat) (app app' : App) : Prop :=
  Effect app app' .ready none fun c => app.Live c ∧ c ≠ d

/-- The call of the delegate ended, if there is a delegate. -/
def EndsDelegate (app app' : App) : Prop :=
  match app.connectionDelegate with
  | some d => EndsCall d app app'
  | none => SameCalls app app'

namespace SameCalls

variable {app app₁ app₂ : App}

/-- Nothing happened. -/
theorem refl (app : App) : SameCalls app app := ⟨rfl, rfl, fun _ => Iff.rfl, rfl, rfl⟩

/-- What follows a method that did nothing to the calls. -/
theorem trans {state : RCDeviceState} {current : Option Nat} {live : Nat → Prop}
    (h₁ : SameCalls app app₁) (h₂ : Effect app₁ app₂ state current live) :
    Effect app app₂ state current live :=
  ⟨h₂.state, h₂.current, h₂.live, h₂.delegate.trans h₁.delegate, h₂.length.trans h₁.length⟩

/-- Nothing happened twice. -/
theorem same (h₁ : SameCalls app app₁) (h₂ : SameCalls app₁ app₂) : SameCalls app app₂ :=
  ⟨h₂.state.trans h₁.state, h₂.current.trans h₁.current, fun c => (h₂.live c).trans (h₁.live c),
    h₂.delegate.trans h₁.delegate, h₂.length.trans h₁.length⟩

/-- A method that writes no connection and neither device field. -/
theorem of_eq {app' : App} (hconnections : app'.connections = app.connections)
    (hstate : app'.state = app.state) (hcurrent : app'.currentConnection = app.currentConnection)
    (hdelegate : app'.delegate = app.delegate) : SameCalls app app' :=
  ⟨hstate, hcurrent, fun c => by simp [App.Live, App.connection?, hconnections], hdelegate,
    by rw [hconnections]⟩

/-- A write that leaves the state of a connection. -/
theorem setConnection (app : App) (c : Nat) {f : RCConnection → RCConnection}
    (hf : ∀ connection, (f connection).state = connection.state) :
    SameCalls app (app.setConnection c f) := by
  refine ⟨rfl, rfl, fun x => ?_, rfl, by simp [App.setConnection]⟩
  rw [App.live_iff, App.live_iff, App.connectionState, App.connectionState,
    App.connection?_setConnection]
  split
  · simp [hf, Function.comp_def]
  · rfl

/-- The application is told something of a call. -/
theorem tell (app : App) (c : Nat) (event : ConnectionEvent) : SameCalls app (app.tell c event) :=
  of_eq rfl rfl rfl rfl

/-- A command is piped. -/
theorem pipe (app : App) (source : Option Nat) (command : SipManager.Command) :
    SameCalls app (app.pipe source command) := of_eq rfl rfl rfl rfl

/-- The application is told something of the device. -/
theorem notify (app : App) (event : DeviceEvent) : SameCalls app (app.notify event) :=
  of_eq rfl rfl rfl rfl

/-- A write to a session. -/
theorem setMedia (app : App) (m : Nat) (f : MediaWebRTC → MediaWebRTC) :
    SameCalls app (app.setMedia m f) := of_eq rfl rfl rfl rfl

/-- A message to the delegate that does nothing to the calls. -/
theorem toDelegate {method : Nat → App → App} (app : App)
    (h : ∀ c app, SameCalls app (method c app)) : SameCalls app (app.toDelegate method) := by
  unfold App.toDelegate
  split
  · exact h _ app
  · exact refl app

/-- Nothing happened, for every element of a list. -/
theorem foldl {α : Type} {f : App → α → App} (h : ∀ app a, SameCalls app (f app a))
    (as : List α) (app : App) : SameCalls app (as.foldl f app) := by
  induction as generalizing app with
  | nil => exact refl app
  | cons a as ih => exact (h app a).same (ih (f app a))

end SameCalls

/-- The call that is dialled is as it was. -/
theorem sameCalls_dial (owner : Nat) (recipient : CString) (video : Bool)
    (headers : Option SipManager.NSDictionary) (app : App) :
    SameCalls app (dial owner recipient video headers app) := by
  refine SameCalls.same ?_ (.setConnection _ owner fun _ => rfl)
  exact .of_eq rfl rfl rfl rfl

/-! ### Methods that touch no call -/

/-- The device, the connections and the session in use are as they were. -/
structure Untouched (app app' : App) : Prop where
  state : app'.state = app.state
  connections : app'.connections = app.connections
  current : app'.currentConnection = app.currentConnection
  delegate : app'.delegate = app.delegate
  media : app'.media = app.media

namespace Untouched

variable {app app₁ app₂ : App}

/-- Nothing was touched. -/
theorem refl (app : App) : Untouched app app := ⟨rfl, rfl, rfl, rfl, rfl⟩

/-- Where nothing was touched nothing happened to the calls. -/
theorem sameCalls (h : Untouched app app₁) : SameCalls app app₁ :=
  .of_eq h.connections h.state h.current h.delegate

/-- Commands are piped. -/
theorem pipeAll (commands : List SipManager.Command) (app : App) :
    Untouched app (commands.foldl (fun app command => app.pipe none command) app) := by
  rw [App.pipeAll_eq]
  exact ⟨rfl, rfl, rfl, rfl, rfl⟩

/-- A message is a command, or is refused. -/
theorem sendMessage (message recipient : CString) (headers : Option SipManager.NSDictionary)
    (app : App) : Untouched app (RCDevice.sendMessage message recipient headers app) := by
  unfold RCDevice.sendMessage
  split
  · exact refl app
  · exact pipeAll _ app

/-- Digits are a command, if the call is Connected. -/
theorem sendDigits (digits : CString) (c : Nat) (app : App) :
    Untouched app (RCConnection.sendDigits digits c app) := by
  unfold RCConnection.sendDigits
  split <;> exact ⟨rfl, rfl, rfl, rfl, rfl⟩

end Untouched

/-- What becomes of the reply of a call that comes in: a connection that rings, of which the
application is told, and the offer of the other side. -/
theorem incomingCall_handled {jsonObject : CString → Option SipManager.NSDictionary}
    {active : Bool} {reply : SofiaReply} {app app' : App}
    (hcode : SipMsgEnum.ofCode reply.rc = some .incomingCall)
    (h : SipManager.handleSofiaInput jsonObject active reply app = some app') :
    ∃ sdp, app' = { (RCDevice.makeConnection { incoming := true, state := .connecting }
        { app with activeCallParams := {}, dialled := none }).notify
          (.didReceiveIncomingConnection app.connections.length) with
        activeCallParams := { sdp := some sdp } } := by
  simp only [SipManager.handleSofiaInput, hcode] at h
  obtain ⟨text, -, h⟩ := Option.bind_eq_some_iff.mp h
  obtain ⟨app₁, hcall, h⟩ := Option.bind_eq_some_iff.mp h
  obtain ⟨sdp, -, h⟩ := Option.bind_eq_some_iff.mp h
  obtain ⟨caller, -, hcall⟩ := Option.bind_eq_some_iff.mp hcall
  cases hcall
  cases h
  exact ⟨sdp, rfl⟩

/-- What becomes of the reply of a message: its text decodes, a bar is in it, and the application is
told what stands behind the bar and who stands in front of it. -/
theorem incomingMsg_handled {jsonObject : CString → Option SipManager.NSDictionary}
    {active : Bool} {reply : SofiaReply} {app app' : App}
    (hcode : SipMsgEnum.ofCode reply.rc = some .incomingMsg)
    (h : SipManager.handleSofiaInput jsonObject active reply app = some app') :
    decodes reply.text ∧ '|' ∈ reply.text ∧ ∃ caller,
      usernameFromUri (some (reply.text.takeWhile (· ≠ '|'))) = some caller ∧
      app' = app.notify (.didReceiveIncomingMessage
        (((reply.text.dropWhile (· ≠ '|')).drop 1).takeWhile (· ≠ '|')) caller) := by
  simp only [SipManager.handleSofiaInput, hcode] at h
  obtain ⟨text, htext, h⟩ := Option.bind_eq_some_iff.mp h
  obtain ⟨hdecodes, rfl⟩ := stringWithUTF8String_eq_some_iff.mp htext
  split at h
  · rename_i hbar
    obtain ⟨caller, hcaller, h⟩ := Option.bind_eq_some_iff.mp h
    cases h
    exact ⟨hdecodes, hbar, caller, hcaller, rfl⟩
  · cases h

/-- The replies that tell something of a call, or of the device's registration. -/
def TouchesCalls : SipMsgEnum → Prop
  | .incomingCall | .outgoingRinging | .incomingCancelled | .outgoingCancelled
  | .outgoingDeclined | .registerSuccess | .errorSipInitializingSignaling
  | .errorSipRegisterGeneric | .errorSipRegisterAuthentication | .errorSipRegisterTimeout
  | .errorSipRegisterServiceUnavailable | .errorSipInviteGeneric
  | .errorSipInviteAuthentication | .errorSipInviteTimeout | .errorSipInviteNotFound
  | .errorSipInviteSipUriInvalid | .outgoingByeResponse | .incomingBye => True
  | _ => False

/-- The errors of a call, of which its connection is told. -/
def FailsCall : SipMsgEnum → Prop
  | .errorSipInviteGeneric | .errorSipInviteAuthentication | .errorSipInviteTimeout
  | .errorSipInviteNotFound | .errorSipInviteSipUriInvalid => True
  | _ => False

/-- The errors that take the device offline. -/
def FailsRegistration : SipMsgEnum → Prop
  | .errorSipInitializingSignaling | .errorSipRegisterGeneric | .errorSipRegisterAuthentication
  | .errorSipRegisterTimeout | .errorSipRegisterServiceUnavailable => True
  | _ => False

/-- What becomes of a reply that is for the session or for the application alone. -/
inductive ReplyAside (reply : SofiaReply) (app : App) : App → Prop where
  /-- There is no branch for it, no session, or nothing is done about its error. -/
  | nothing : ReplyAside reply app app
  | replyAuth (hcode : SipMsgEnum.ofCode reply.rc = some .replyAuth) :
    ReplyAside reply app
      { app with credentials := app.credentials ++ [CliInterface.format app.params.password] }
  | outgoingEstablished {m : Nat} {media media' : MediaWebRTC}
    (hcode : SipMsgEnum.ofCode reply.rc = some .outgoingEstablished)
    (hm : app.media? m = some media)
    (hanswer : media.processSignalingMessage (CliInterface.stringWithUTF8String reply.text) =
      some media') :
    ReplyAside reply app (app.setMedia m fun _ => media')
  | incomingMsg {text caller : CString}
    (hcode : SipMsgEnum.ofCode reply.rc = some .incomingMsg) :
    ReplyAside reply app (app.notify (.didReceiveIncomingMessage text caller))
  | signallingInitialized (hcode : SipMsgEnum.ofCode reply.rc = some .signallingInitialized) :
    ReplyAside reply app (RCDevice.didInitializedSignalling app)

/-- What becomes of a reply, in one case for each thing that is done about a call or about the
registration. -/
inductive ReplyHandled (active : Bool) (reply : SofiaReply) (app : App) : App → Prop where
  | aside {app' : App} (hcode : ∀ e, SipMsgEnum.ofCode reply.rc = some e → ¬ TouchesCalls e)
    (haside : ReplyAside reply app app') : ReplyHandled active reply app app'
  | incomingCall {caller : Option CString} {sdp : CString} {app₁ : App}
    (hcode : SipMsgEnum.ofCode reply.rc = some .incomingCall)
    (hcall : RCDevice.didReceiveCall caller { app with activeCallParams := {}, dialled := none } =
      some app₁) :
    ReplyHandled active reply app
      { app₁ with activeCallParams := { app₁.activeCallParams with sdp := some sdp } }
  | outgoingRinging (hcode : SipMsgEnum.ofCode reply.rc = some .outgoingRinging) :
    ReplyHandled active reply app (app.toDelegate RCConnection.didReceiveOutgoingRinging)
  | incomingCancelled (hcode : SipMsgEnum.ofCode reply.rc = some .incomingCancelled) :
    ReplyHandled active reply app (app.toDelegate (RCConnection.ended .didCancel))
  | outgoingCancelled (hcode : SipMsgEnum.ofCode reply.rc = some .outgoingCancelled) :
    ReplyHandled active reply app
      ((SipManager.disconnectMedia app).toDelegate (RCConnection.ended .didDisconnect))
  | outgoingDeclined (hcode : SipMsgEnum.ofCode reply.rc = some .outgoingDeclined) :
    ReplyHandled active reply app
      ((SipManager.disconnectMedia app).toDelegate (RCConnection.ended .didGetDeclined))
  | bye {e : SipMsgEnum} (hcode : SipMsgEnum.ofCode reply.rc = some e)
    (hbye : e = .outgoingByeResponse ∨ e = .incomingBye) :
    ReplyHandled active reply app
      ((SipManager.disconnectMedia app).toDelegate (RCConnection.didReceiveBye active))
  | callError {e : SipMsgEnum} (hcode : SipMsgEnum.ofCode reply.rc = some e)
    (hfails : FailsCall e) :
    ReplyHandled active reply app
      ((SipManager.disconnectMedia app).toDelegate (RCConnection.didError (.signalling reply)))
  | registerSuccess (hcode : SipMsgEnum.ofCode reply.rc = some .registerSuccess) :
    ReplyHandled active reply app (RCDevice.didRegisterSuccessfully app)
  | registerError {e : SipMsgEnum} (hcode : SipMsgEnum.ofCode reply.rc = some e)
    (hfails : FailsRegistration e) :
    ReplyHandled active reply app (RCDevice.offlineOnError (.signalling reply) app)

/-- What is done aside touches no call. -/
theorem ReplyAside.untouched {reply : SofiaReply} {app app' : App}
    (h : ReplyAside reply app app') : Untouched app app' := by
  cases h with
  | nothing => exact .refl app
  | replyAuth | outgoingEstablished | incomingMsg => exact ⟨rfl, rfl, rfl, rfl, rfl⟩
  | signallingInitialized =>
    unfold RCDevice.didInitializedSignalling
    split <;> exact ⟨rfl, rfl, rfl, rfl, rfl⟩

/-- Every reply is handled in one of these ways. -/
theorem replyHandled {jsonObject : CString → Option SipManager.NSDictionary} {active : Bool}
    {reply : SofiaReply} {app app' : App}
    (h : SipManager.handleSofiaInput jsonObject active reply app = some app') :
    ReplyHandled active reply app app' := by
  have hreply := h
  unfold SipManager.handleSofiaInput at h
  cases hcode : SipMsgEnum.ofCode reply.rc with
  | none =>
    simp only [hcode] at h
    cases h
    exact .aside (by simp [hcode]) .nothing
  | some e =>
    simp only [hcode] at h
    -- For the replies that are no business of a call.
    have haside {app' : App} (htouches : ¬ TouchesCalls e) (haside : ReplyAside reply app app') :
        ReplyHandled active reply app app' := by
      refine .aside (fun e' he' => ?_) haside
      cases hcode.symm.trans he'
      exact htouches
    cases e with
    | incomingCall =>
      obtain ⟨text, -, h⟩ := Option.bind_eq_some_iff.mp h
      obtain ⟨app₁, hcall, h⟩ := Option.bind_eq_some_iff.mp h
      obtain ⟨sdp, -, h⟩ := Option.bind_eq_some_iff.mp h
      cases h
      exact .incomingCall hcode hcall
    | outgoingRinging =>
      cases h
      exact .outgoingRinging hcode
    | incomingCancelled =>
      cases h
      exact .incomingCancelled hcode
    | outgoingCancelled =>
      cases h
      exact .outgoingCancelled hcode
    | outgoingDeclined =>
      cases h
      exact .outgoingDeclined hcode
    | outgoingByeResponse =>
      cases h
      exact .bye hcode (.inl rfl)
    | incomingBye =>
      cases h
      exact .bye hcode (.inr rfl)
    | errorSipInviteGeneric | errorSipInviteAuthentication | errorSipInviteTimeout
    | errorSipInviteNotFound | errorSipInviteSipUriInvalid =>
      obtain ⟨text, -, h⟩ := Option.bind_eq_some_iff.mp h
      cases h
      exact .callError hcode trivial
    | registerSuccess =>
      cases h
      exact .registerSuccess hcode
    | errorSipInitializingSignaling | errorSipRegisterGeneric | errorSipRegisterAuthentication
    | errorSipRegisterTimeout | errorSipRegisterServiceUnavailable =>
      obtain ⟨text, -, h⟩ := Option.bind_eq_some_iff.mp h
      cases h
      exact .registerError hcode trivial
    | outgoingEstablished =>
      dsimp only at h
      split at h
      · cases h
        exact haside id .nothing
      · obtain ⟨media, hm, h⟩ := Option.bind_eq_some_iff.mp h
        obtain ⟨media', hanswer, h⟩ := Option.bind_eq_some_iff.mp h
        cases h
        exact haside id (.outgoingEstablished hcode hm hanswer)
    | incomingMsg =>
      obtain ⟨-, -, caller, -, rfl⟩ := incomingMsg_handled hcode hreply
      exact haside id (.incomingMsg hcode)
    | signallingInitialized =>
      cases h
      exact haside id (.signallingInitialized hcode)
    | replyAuth =>
      cases h
      exact haside id (.replyAuth hcode)
    | errorSipRegisterUriInvalid | errorSipMessageGeneric | errorSipMessageAuthentication
    | errorSipMessageTimeout | errorSipMessageNotFound | errorSipMessageUriInvalid =>
      -- An error that is made of the text and then dropped.
      obtain ⟨text, -, h⟩ := Option.bind_eq_some_iff.mp h
      cases h
      exact haside id .nothing
    | _ =>
      cases h
      exact haside id .nothing

/-! ### Ending a call -/

/-- Without the session the calls are the same. -/
theorem sameCalls_disconnectMedia (app : App) :
    SameCalls app (SipManager.disconnectMedia app) := by
  unfold SipManager.disconnectMedia
  split
  · exact .of_eq rfl rfl rfl rfl
  · exact .refl app

/-- Afterwards there is no session in use. -/
theorem media_disconnectMedia (app : App) : (SipManager.disconnectMedia app).media = none := by
  unfold SipManager.disconnectMedia
  split
  · rfl
  · assumption

/-- Hanging up pipes a command; the state comes later. -/
theorem sameCalls_hangUp (c : Nat) (connection : RCConnection) (app : App) :
    SameCalls app (RCConnection.hangUp c connection app) := by
  unfold RCConnection.hangUp
  split
  · exact .pipe _ _ _
  · exact .pipe _ _ _
  · split
    · exact .refl app
    · exact .setConnection app c fun _ => rfl
  · exact .refl app

/-- The state of a connection was set. -/
theorem live_setState (state : RCConnectionState) (d : Nat) (app : App) (c : Nat) :
    (RCConnection.setState state d app).Live c ↔
      if d = c then c < app.connections.length ∧ state ≠ .disconnected else app.Live c := by
  rw [RCConnection.setState, App.live_iff, App.connectionState, App.connection?_setConnection]
  split
  · rw [← App.isSome_connection?, Option.isSome_iff_exists]
    simp [Function.comp_def]
  · rw [App.live_iff, App.connectionState]

/-- The connection was made Disconnected. -/
theorem live_setState_disconnected (d : Nat) (app : App) (c : Nat) :
    (RCConnection.setState .disconnected d app).Live c ↔ app.Live c ∧ c ≠ d := by
  rw [live_setState]
  split
  · simp_all
  · rename_i hne
    exact (and_iff_left fun h => hne h.symm).symm

/-- Whatever the state was, the call is over and the device is Ready. -/
theorem endsCall_disconnect {d : Nat} {app : App} (h : d < app.connections.length) :
    EndsCall d app (RCConnection.disconnect d app) := by
  unfold RCConnection.disconnect
  split
  · rename_i hnone
    simp [← App.isSome_connection?, hnone] at h
  · rename_i connection _
    have hsame := (sameCalls_hangUp d connection app).same (sameCalls_disconnectMedia _)
    refine ⟨rfl, rfl, fun c => ?_, hsame.delegate, ?_⟩
    · exact (live_setState_disconnected d _ c).trans (and_congr_left' (hsame.live c))
    · simpa [RCConnection.handleDisconnected, RCConnection.setState, App.setConnection]
        using hsame.length

/-- The other side has ended the call. -/
theorem endsCall_ended (event : ConnectionEvent) (d : Nat) (app : App) :
    EndsCall d app (RCConnection.ended event d app) :=
  ⟨rfl, rfl, live_setState_disconnected d app, rfl, by
    simp [RCConnection.ended, RCConnection.handleDisconnected, RCConnection.setState,
      App.setConnection, App.tell]⟩

/-- An error has ended the call. -/
theorem endsCall_didError (error : CallError) {d : Nat} {app : App}
    (h : d < app.connections.length) : EndsCall d app (RCConnection.didError error d app) :=
  ⟨(endsCall_disconnect h).state, (endsCall_disconnect h).current, (endsCall_disconnect h).live,
    (endsCall_disconnect h).delegate, (endsCall_disconnect h).length⟩

/-- The delegate pointer was given a connection that had been made. -/
def DelegateMade (app : App) : Prop := ∀ d ∈ app.delegate, d < app.connections.length

/-- The delegate pointer stays within the connections. -/
theorem Effect.delegateMade {app app' : App} {state : RCDeviceState} {current : Option Nat}
    {live : Nat → Prop} (h : Effect app app' state current live) (hmade : DelegateMade app) :
    DelegateMade app' := by
  simpa only [DelegateMade, h.delegate, h.length] using hmade

/-- A method that did nothing to the calls comes before one that ends the delegate's. -/
theorem EndsDelegate.of_same {app app₁ app₂ : App} (h : EndsDelegate app₁ app₂)
    (hsame : SameCalls app app₁)
    (hdelegate : app₁.connectionDelegate = app.connectionDelegate) : EndsDelegate app app₂ := by
  simp only [EndsDelegate, ← hdelegate] at h ⊢
  cases hd : app₁.connectionDelegate with
  | none =>
    simp only [hd] at h
    exact hsame.same h
  | some d =>
    simp only [hd] at h
    have hends := hsame.trans h
    exact ⟨hends.state, hends.current, fun c => (hends.live c).trans
      (and_congr_left' (hsame.live c)), hends.delegate, hends.length⟩

/-- A message to the delegate that ends its call. -/
theorem endsDelegate_toDelegate {app : App} {method : Nat → App → App}
    (h : ∀ d, app.connectionDelegate = some d → EndsCall d app (method d app)) :
    EndsDelegate app (app.toDelegate method) := by
  simp only [EndsDelegate, App.toDelegate]
  cases hd : app.connectionDelegate with
  | none => exact .refl app
  | some d => exact h d hd

/-- The session is not what keeps a delegate alive. -/
theorem connectionDelegate_disconnectMedia (app : App) :
    (SipManager.disconnectMedia app).connectionDelegate = app.connectionDelegate := by
  unfold SipManager.disconnectMedia
  split <;> rfl

/-- A message to the delegate about an error ends its call. -/
theorem endsDelegate_didError (error : CallError) {app : App} (hmade : DelegateMade app) :
    EndsDelegate app (app.toDelegate (RCConnection.didError error)) :=
  endsDelegate_toDelegate fun d hd => endsCall_didError error (hmade d (App.mem_delegate hd))

/-! ### The set-up of the media -/

/-- Starting signaling leaves the owner, and gives a peer connection. -/
theorem state_startSignalingIfReady {sdp : Option CString} {media media' : MediaWebRTC}
    (h : media.startSignalingIfReady sdp = some media') :
    media'.owner = media.owner ∧ media'.isInitiator = media.isInitiator ∧
      media'.candidatesGathered = media.candidatesGathered ∧
      ((media.state ≠ .disconnected → media.peerConnection.isSome) →
        media'.state ≠ .disconnected → media'.peerConnection.isSome) := by
  unfold MediaWebRTC.startSignalingIfReady at h
  split at h
  · cases h
    exact ⟨rfl, rfl, rfl, id⟩
  · dsimp only at h
    split at h
    · cases h
      exact ⟨rfl, rfl, rfl, fun _ _ => rfl⟩
    · obtain ⟨message, -, h⟩ := Option.bind_eq_some_iff.mp h
      cases h
      exact ⟨rfl, rfl, rfl, fun _ _ => rfl⟩

/-- A session that connects has its peer connection, or waits for TURN. -/
theorem state_connect {params : SipManager.Params} {sdp : Option CString} {initiator video : Bool}
    {media media' : MediaWebRTC} (hstate : media.state = .disconnected)
    (h : media.connect params sdp initiator video = some media') :
    media'.owner = media.owner ∧
      (media'.state ≠ .disconnected → media'.peerConnection.isSome) := by
  unfold MediaWebRTC.connect at h
  dsimp only at h
  split at h
  · split at h
    · cases h
      exact ⟨rfl, fun hne => absurd hstate hne⟩
    · split at h <;> cases h <;> exact ⟨rfl, fun hne => absurd hstate hne⟩
    · obtain ⟨howner, -, -, hpeer⟩ := state_startSignalingIfReady h
      exact ⟨howner, hpeer fun hne => absurd hstate hne⟩
  · obtain ⟨howner, -, -, hpeer⟩ := state_startSignalingIfReady h
    exact ⟨howner, hpeer fun hne => absurd hstate hne⟩

section SetUp
variable {auth : AVMediaType → AVAuthorizationStatus} {owner : Nat} {app app' : App}

/-- The effect of a chain that ends the call of the delegate when it is refused. -/
def ChainEffect (denied : Bool) (app app' : App) : Prop :=
  if denied then EndsDelegate app app' else SameCalls app app'

/-- A method that did nothing to the calls comes before a chain. -/
theorem ChainEffect.of_same {denied : Bool} {app app₁ app₂ : App}
    (h : ChainEffect denied app₁ app₂) (hsame : SameCalls app app₁)
    (hdelegate : app₁.connectionDelegate = app.connectionDelegate) :
    ChainEffect denied app app₂ := by
  unfold ChainEffect at h ⊢
  split
  · rename_i hdenied
    rw [if_pos hdenied] at h
    exact h.of_same hsame hdelegate
  · rename_i hdenied
    rw [if_neg hdenied] at h
    exact hsame.same h

/-- A chain makes no connection. -/
theorem ChainEffect.length {denied : Bool} (h : ChainEffect denied app app') :
    app'.connections.length = app.connections.length := by
  unfold ChainEffect EndsDelegate at h
  split at h
  · split at h
    · exact Effect.length h
    · exact Effect.length h
  · exact Effect.length h

/-- Local tracks are told. -/
theorem sameCalls_reportLocalVideo (media : MediaWebRTC) (app : App) :
    SameCalls app (SipManager.reportLocalVideo media app) :=
  .foldl (fun app _ => .toDelegate app fun _ _ => .tell _ _ _) _ _

/-- The end of a chain makes a session. -/
theorem sameCalls_handleCall (h : SipManager.handleCall owner app = some app') :
    SameCalls app app' := by
  rcases handleCall_cases h with ⟨-, rfl⟩ | ⟨-, media, -, rfl⟩
  · exact .refl app'
  · refine SameCalls.same ?_ (sameCalls_reportLocalVideo media _)
    exact .of_eq rfl rfl rfl rfl

/-- A chain ends the call of the delegate exactly where it is refused. -/
theorem chainEffect_chainEnd {denies grants : Bool} (hmade : DelegateMade app)
    (h : ChainEnd owner denies grants app app') : ChainEffect denies app app' := by
  unfold ChainEffect
  cases h with
  | denied mediaType hdenies _ heq =>
    subst heq
    rw [if_pos hdenies]
    exact endsDelegate_didError _ hmade
  | granted hdenies _ hcall =>
    rw [if_neg (by simp [hdenies])]
    exact sameCalls_handleCall hcall
  | asked mediaType hdenies _ heq =>
    subst heq
    rw [if_neg (by simp [hdenies])]
    exact .of_eq rfl rfl rfl rfl

/-- The rest of a chain, behind an answer. -/
theorem chainEffect_permissionFsm {mediaType : AVMediaType} {status : Bool}
    (hmade : DelegateMade app)
    (h : SipManager.permissionFsm auth owner mediaType status app = some app') :
    ChainEffect (responseDenies auth mediaType app.videoAllowed status) app app' :=
  chainEffect_chainEnd hmade (chainEnd_permissionFsm h)

/-- A chain from its beginning. -/
theorem chainEffect_permissionFsmRequest (hmade : DelegateMade app)
    (h : SipManager.permissionFsmRequest auth owner app = some app') :
    ChainEffect (requestDenies auth app.videoAllowed) app app' :=
  chainEffect_chainEnd hmade (chainEnd_permissionFsmRequest h)

end SetUp

end Proofs

end RestCommSdk
