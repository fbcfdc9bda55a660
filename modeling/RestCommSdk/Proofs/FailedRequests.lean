import RestCommSdk.Lib.Json
import RestCommSdk.Proofs.CallEffects
import RestCommSdk.Proofs.SscReplies

/-!
# `RestCommSdk.Proofs.FailedRequests`: how the failure of a request reaches the application

A failure passes through two lists of codes: that of the handlers in `ssc_sip.mm`, which write
a reply for the status, and that of `handleSofiaInput:fd:`, which acts on the reply.

- `failedInvite_iff`: a failed INVITE ends the call of its connection exactly when it was not
  answered with 503, which the second list leaves out, and the connection is the delegate.
- `failure_reported_iff`: of the failed messages and registrations exactly the registrations
  that were answered are reported, unless the application is in the background.
-/

set_option autoImplicit false

namespace RestCommSdk.Proofs

open RestCommSdk.CliInterface
open RestCommSdk.SipManager (NSDictionary)

/-- The replies of a step are handled one after the other. -/
def handleSofiaInputs (jsonObject : CString → Option NSDictionary) (active : Bool)
    (replies : List SofiaReply) (app : App) : Option App :=
  replies.foldlM (fun app reply => SipManager.handleSofiaInput jsonObject active reply app) app

/-! ### Failed INVITEs -/

/-- The property of the state after a failed INVITE was handled. -/
structure CallEnded (c : Nat) (app : App) : Prop where
  disconnected : app.connectionState c = some .disconnected
  media : app.media = none
  notBusy : app.state ≠ .busy
  current : app.currentConnection = none
  told : ∃ event, (c, event) ∈ app.told

/-- The method that the delegate is sent for a failed INVITE. -/
def inviteFailedMethod (status : Nat) : Nat → App → App :=
  if status = 486 || status = 600 || status = 603 || status = 480 then
    RCConnection.didReceiveOutgoingDeclined
  else if status = 487 then RCConnection.didReceiveOutgoingCancelled
  else RCConnection.didError (.signalling (inviteFailed status))

/-- `handleSofiaInput:fd:` for a failed INVITE: nothing happens about a 503. -/
theorem handleSofiaInput_inviteFailed (jsonObject : CString → Option NSDictionary)
    (active : Bool) (status : Nat) (app : App) :
    SipManager.handleSofiaInput jsonObject active (inviteFailed status) app =
      some (if status = 503 then app
        else (SipManager.disconnectMedia app).toDelegate (inviteFailedMethod status)) := by
  -- No handler is written for a 503.
  by_cases h503 : status = 503
  · subst h503
    rfl
  · rw [if_neg h503]
    unfold inviteFailedMethod
    -- The callee declined.
    by_cases hdeclined : status = 486 || status = 600 || status = 603 || status = 480
    · rw [if_pos hdeclined, inviteFailed, if_pos hdeclined]
      rfl
    · rw [if_neg hdeclined]
      by_cases hcancelled : status = 487
      · -- The call was cancelled.
        subst hcancelled
        rfl
      · rw [if_neg hcancelled]
        -- Any other status is an error of the call.
        unfold inviteFailed
        rw [if_neg hdeclined, if_neg hcancelled, if_neg h503]
        split_ifs <;> rfl

/-- A method that ends the call of the connection it is sent to, and of no other. -/
structure Hangs (method : Nat → App → App) : Prop where
  ends : ∀ c app, app.media = none → (app.connection? c).isSome → CallEnded c (method c app)
  others : ∀ c d app, c ≠ d → (method d app).connectionState c = app.connectionState c

/-- The state of the connection that was written, and of every other one. -/
theorem connectionState_setState (state : RCConnectionState) (c d : Nat) (app : App) :
    (RCConnection.setState state d app).connectionState c =
      if d = c then (app.connection? c).map fun _ => state else app.connectionState c := by
  unfold App.connectionState RCConnection.setState
  rw [App.connection?_setConnection]
  split
  · rw [Option.map_map]
    rfl
  · rfl

/-- Hanging up and giving the session up leave the states of the connections alone. -/
theorem connectionState_hangUp (connection : RCConnection) (c d : Nat) (app : App) :
    (SipManager.disconnectMedia (RCConnection.hangUp d connection app)).connectionState c =
      app.connectionState c := by
  have hmedia : ∀ app : App,
      (SipManager.disconnectMedia app).connectionState c = app.connectionState c := fun app => by
    unfold SipManager.disconnectMedia
    split <;> rfl
  rw [hmedia]
  unfold RCConnection.hangUp
  split
  · -- The BYE or the CANCEL is written, and the state is left.
    rfl
  · rfl
  · split
    · rfl
    · -- Before ringing the cancel is only marked.
      unfold App.connectionState
      rw [App.connection?_setConnection]
      split
      · rw [Option.map_map]
        rfl
      · rfl
  · rfl

/-- The end of a call leaves it Disconnected. -/
theorem hangs_ended (event : ConnectionEvent) : Hangs (RCConnection.ended event) := by
  constructor
  · intro c app hnone hmade
    obtain ⟨connection, hc⟩ := Option.isSome_iff_exists.mp hmade
    refine ⟨?_, hnone, nofun, rfl, event, List.mem_append_right _ List.mem_cons_self⟩
    show (RCConnection.setState .disconnected c app).connectionState c = _
    rw [connectionState_setState, if_pos rfl, hc]
    rfl
  · intro c d app hne
    show (RCConnection.setState .disconnected d app).connectionState c = _
    rw [connectionState_setState, if_neg hne.symm]

/-- So does an error. -/
theorem hangs_didError (error : CallError) : Hangs (RCConnection.didError error) := by
  constructor
  · intro c app hnone hmade
    obtain ⟨connection, hc⟩ := Option.isSome_iff_exists.mp hmade
    have heq : RCConnection.disconnect c app = RCConnection.handleDisconnected
        { RCConnection.setState .disconnected c
            (SipManager.disconnectMedia (RCConnection.hangUp c connection app)) with
          state := .ready } := by
      rw [RCConnection.disconnect, hc]
    -- The message to the application comes last; the rest is the state that `disconnect` leaves.
    refine ⟨?_, ?_, ?_, ?_, _, List.mem_append_right _ List.mem_cons_self⟩
    · show (RCConnection.disconnect c app).connectionState c = _
      rw [heq]
      show (RCConnection.setState .disconnected c _).connectionState c = _
      have hstate : ((SipManager.disconnectMedia
          (RCConnection.hangUp c connection app)).connection? c).map (·.state) =
            some connection.state := by
        refine (connectionState_hangUp connection c c app).trans ?_
        rw [App.connectionState, hc]
        rfl
      -- `hangUp` may have set `cancelPending`, so the connection is another one by now.
      obtain ⟨connection', hc', -⟩ := Option.map_eq_some_iff.mp hstate
      rw [connectionState_setState, if_pos rfl, hc']
      rfl
    · show (RCConnection.disconnect c app).media = none
      rw [heq]
      exact media_disconnectMedia _
    · show (RCConnection.disconnect c app).state ≠ .busy
      rw [heq]
      intro hbusy
      cases hbusy
    · show (RCConnection.disconnect c app).currentConnection = none
      rw [heq]
      rfl
  · intro c d app hne
    show (RCConnection.disconnect d app).connectionState c = _
    unfold RCConnection.disconnect
    split
    · rfl
    · show (RCConnection.setState .disconnected d _).connectionState c = _
      rw [connectionState_setState, if_neg hne.symm, connectionState_hangUp]

/-- So does what the App does about a failed call. -/
theorem hangs_inviteFailedMethod (status : Nat) : Hangs (inviteFailedMethod status) := by
  unfold inviteFailedMethod
  split
  · exact hangs_ended .didGetDeclined
  · split
    · exact hangs_ended .didDisconnect
    · exact hangs_didError _

/-- A method that hangs up, sent to the delegate once the session is given up, ends the call of
the delegate only. -/
theorem Hangs.callEnded_iff {method : Nat → App → App} (h : Hangs method) {c : Nat} {app : App}
    (hlive : app.Live c) :
    CallEnded c ((SipManager.disconnectMedia app).toDelegate method) ↔
      app.connectionDelegate = some c := by
  have hconnections : (SipManager.disconnectMedia app).connections = app.connections := by
    unfold SipManager.disconnectMedia
    split <;> rfl
  have hstate : (SipManager.disconnectMedia app).connectionState c = app.connectionState c := by
    rw [App.connectionState, App.connection?, hconnections]
    rfl
  obtain ⟨connection, hc, hlive⟩ := hlive
  have hnot : app.connectionState c ≠ some .disconnected := by
    rw [App.connectionState, show app.connection? c = some connection from hc]
    exact fun heq => hlive (Option.some.inj heq)
  unfold App.toDelegate
  rw [connectionDelegate_disconnectMedia]
  -- Without a delegate, and for another delegate, the state of `c` is the one it had.
  cases hd : app.connectionDelegate with
  | none =>
    refine iff_of_false (fun hended => hnot ?_) (Option.some_ne_none c).symm
    exact hstate.symm.trans hended.disconnected
  | some d =>
    by_cases hsame : c = d
    · subst hsame
      refine iff_of_true (h.ends c _ (media_disconnectMedia app) ?_) rfl
      rw [App.connection?, hconnections]
      exact Option.isSome_iff_exists.mpr ⟨connection, hc⟩
    · refine iff_of_false (fun hended => hnot ?_) fun heq => hsame (Option.some.inj heq).symm
      exact (hstate.symm.trans (h.others c d _ hsame).symm).trans hended.disconnected

/-- A failed INVITE ends the call of a connection that is Pending or Connecting exactly when it
was not answered with 503 and the connection is the delegate. -/
theorem failedInvite_iff (jsonObject : CString → Option NSDictionary) (env : SscEnv)
    (alloc : Alloc) (ssc ssc' : Ssc) (nh status : Nat) (sip : Option Sip)
    (hstatus : 300 ≤ status) (hchallenge : isChallenge status = false)
    (hstep : sscMachine env ssc (alloc, .event nh (.rInvite status sip)) = some ssc')
    (active : Bool) (app : App) (c : Nat) (connection : RCConnection)
    (hc : app.connection? c = some connection)
    (hstate : connection.state = .pending ∨ connection.state = .connecting) :
    (∃ app', handleSofiaInputs jsonObject active ssc'.sent app.silent = some app' ∧
        CallEnded c app') ↔
      status ≠ 503 ∧ app.connectionDelegate = some c := by
  -- The step writes one reply, whatever else it does.
  have hsent : ssc'.sent = [inviteFailed status] := by
    rw [sent_sscStep env alloc hstep]
    simp [stepReplies, eventReplies, rInviteReplies, hstatus, hchallenge]
  have hlive : app.silent.Live c := by
    refine ⟨connection, hc, ?_⟩
    rcases hstate with hstate | hstate <;> simp [hstate]
  have hhandled : handleSofiaInputs jsonObject active ssc'.sent app.silent =
      some (if status = 503 then app.silent
        else (SipManager.disconnectMedia app.silent).toDelegate (inviteFailedMethod status)) := by
    rw [hsent, handleSofiaInputs, List.foldlM_cons, handleSofiaInput_inviteFailed]
    rfl
  simp only [hhandled, Option.some.injEq, exists_eq_left']
  split
  · rename_i h503
    -- Nothing is done about a 503, so the connection is as live as it was.
    refine iff_of_false (fun hended => ?_) fun h => h.1 h503
    obtain ⟨connection', hc', hlive⟩ := hlive
    have hdisconnected := hended.disconnected
    rw [App.connectionState, show app.silent.connection? c = some connection' from hc']
      at hdisconnected
    exact hlive (Option.some.inj hdisconnected)
  · rename_i h503
    rw [(hangs_inviteFailedMethod status).callEnded_iff hlive]
    exact (and_iff_right h503).symm

/-- An INVITE waits for its response. -/
def inviting : Ssc :=
  { operations :=
      [{ addr := 0, opHandle := 0, opMethod := .invite, opCallstate := { sent := true } }] }

/-- The call of the first connection is being placed. -/
def dialling (state : RCConnectionState) : App :=
  { state := .busy, currentConnection := some 0, delegate := some 0
    connections := [{ incoming := false, state := state }] }

/-- The callee is busy. -/
theorem failedInvite_iff_busy :
    (∃ app', handleSofiaInputs Lib.Json.read true [SipMsgEnum.outgoingDeclined.reply]
        (dialling .pending).silent = some app' ∧ CallEnded 0 app') ↔
      486 ≠ 503 ∧ (dialling .pending).connectionDelegate = some 0 :=
  failedInvite_iff Lib.Json.read plainEnv ⟨1, 1⟩ inviting _ 0 486 none (by decide) rfl rfl true
    (dialling .pending) 0 _ rfl (.inl rfl)

/-- No server can be reached: the device stays Busy, and nobody is told. -/
theorem unavailable_leaves_busy :
    ∃ ssc' app', sscMachine plainEnv inviting (⟨1, 1⟩, .event 0 (.rInvite 503 none)) = some ssc' ∧
      handleSofiaInputs Lib.Json.read true ssc'.sent (dialling .connecting).silent = some app' ∧
      app'.state = .busy ∧ app'.currentConnection = some 0 ∧ app'.told = [] ∧
      app'.connectionState 0 = some .connecting ∧ ¬ CallEnded 0 app' :=
  ⟨_, _, rfl, rfl, rfl, rfl, rfl, rfl, fun hended => nomatch hended.disconnected⟩

/-! ### Failed messages and registrations -/

/-- The requests that may fail, and how they did. -/
inductive Failure where
  /-- The address of a message is no address. -/
  | messageAddress (destination password msg headers : Option CString)
  | message (nh status : Nat) (sip : Option Sip)
  /-- The address of record is no address. `sofsip_loop` registers with `aor` missing. -/
  | registerAddress (aor password registrar : Option CString)
  | register (nh status : Nat) (phrase : CString) (sip : Option Sip)

namespace Failure

/-- The step of the SIP client in which the request fails. -/
def input : Failure → SscInput
  | messageAddress destination password msg headers =>
    .call (.message destination password msg headers) []
  | message nh status sip => .event nh (.rMessage status sip)
  | registerAddress aor password registrar => .call (.update aor password registrar false) []
  | register nh status phrase sip => .event nh (.rRegister status phrase sip)

/-- The request fails in the step. -/
def Occurs (env : SscEnv) (ssc : Ssc) : Failure → Prop
  | messageAddress destination _ _ _ => creates env ssc destination = false
  | message _ status _ => 300 ≤ status ∧ isChallenge status = false
  | registerAddress aor _ registrar =>
    (givenRegistrar registrar).isSome ∧ creates env ssc (aor.or ssc.address) = false
  | register _ status _ _ => 300 ≤ status ∧ isChallenge status = false

/-- The request is a registration. -/
def isRegistration : Failure → Bool
  | messageAddress .. | message .. => false
  | registerAddress .. | register .. => true

/-- The request was answered, and is a registration. -/
def isAnsweredRegistration : Failure → Bool
  | register .. => true
  | _ => false

end Failure

/-- The call of the delegate reports a failure. -/
def isFailureReport : DeviceEvent → Bool
  | .didStopListening (.signalling _) => true
  | _ => false

/-- The property of the state after the replies of a failed request were handled: one report
reaches the application, and a failed registration leaves the device Offline. -/
structure FailureReported (background registration : Bool) (app : App) : Prop where
  once : (app.notified.filter fun event =>
    isFailureReport event && event.delivered background).length = 1
  offline : registration → app.state = .offline

/-- Of a failed message the device says nothing, whatever the reply. -/
theorem handleSofiaInput_messageFailed (jsonObject : CString → Option NSDictionary)
    (active : Bool) (status : Nat) (app : App) :
    SipManager.handleSofiaInput jsonObject active (messageFailed status) app = some app := by
  unfold messageFailed
  split_ifs <;> rfl

/-- A failed registration makes the device Offline, whatever the reply. -/
theorem handleSofiaInput_registerFailed (jsonObject : CString → Option NSDictionary)
    (active : Bool) (status : Nat) (app : App) :
    SipManager.handleSofiaInput jsonObject active (registerFailed status) app =
      some (RCDevice.offlineOnError (.signalling (registerFailed status)) app) := by
  unfold registerFailed
  split_ifs <;> rfl

/-- What the step writes in which a request fails. -/
def Failure.replies : Failure → List SofiaReply
  | messageAddress .. | registerAddress .. => []
  | message _ status _ => [messageFailed status]
  | register _ status _ _ => [registerFailed status]

/-- What the client sends about a failure. -/
theorem sent_failure {env : SscEnv} {alloc : Alloc} {ssc ssc' : Ssc} {failure : Failure}
    (hoccurs : failure.Occurs env ssc)
    (hstep : sscMachine env ssc (alloc, failure.input) = some ssc') :
    ssc'.sent = failure.replies := by
  rw [sent_sscStep env alloc hstep]
  cases failure with
  | messageAddress destination password msg headers => rfl
  | registerAddress aor password registrar => rfl
  | message nh status sip =>
    obtain ⟨hstatus, hchallenge⟩ := hoccurs
    have hstatus : ¬ status ≤ 200 := by omega
    simp [Failure.input, Failure.replies, stepReplies, eventReplies, hstatus, hchallenge]
  | register nh status phrase sip =>
    obtain ⟨hstatus, hchallenge⟩ := hoccurs
    simp [Failure.input, Failure.replies, stepReplies, eventReplies, rRegisterReplies, hstatus,
      hchallenge]

/-- A failure is reported exactly when a registration was answered and the application is not
in the background. -/
theorem failure_reported_iff (jsonObject : CString → Option NSDictionary) (env : SscEnv)
    (alloc : Alloc) (ssc ssc' : Ssc) (failure : Failure) (hoccurs : failure.Occurs env ssc)
    (hstep : sscMachine env ssc (alloc, failure.input) = some ssc') (active background : Bool)
    (app : App) :
    (∃ app', handleSofiaInputs jsonObject active ssc'.sent app.silent = some app' ∧
        FailureReported background failure.isRegistration app') ↔
      failure.isAnsweredRegistration ∧ background = false := by
  have hsilent : ∀ registration, ¬ FailureReported background registration app.silent :=
    fun registration hreported => nomatch hreported.once
  rw [sent_failure hoccurs hstep]
  cases failure with
  -- `ssc_oper_create` fails without a reply: there is nothing to be handled.
  | messageAddress destination password msg headers =>
    refine iff_of_false ?_ nofun
    rintro ⟨app', happ', hreported⟩
    cases happ'
    exact hsilent _ hreported
  | registerAddress aor password registrar =>
    refine iff_of_false ?_ nofun
    rintro ⟨app', happ', hreported⟩
    cases happ'
    exact hsilent _ hreported
  -- The reply of a failed message is dropped by the device.
  | message nh status sip =>
    refine iff_of_false ?_ nofun
    rintro ⟨app', happ', hreported⟩
    rw [Failure.replies, handleSofiaInputs, List.foldlM_cons,
      handleSofiaInput_messageFailed] at happ'
    cases happ'
    exact hsilent _ hreported
  | register nh status phrase sip =>
    rw [Failure.replies, handleSofiaInputs, List.foldlM_cons, handleSofiaInput_registerFailed]
    constructor
    · -- In the background the device does not call its delegate.
      rintro ⟨app', happ', hreported⟩
      cases happ'
      refine ⟨rfl, ?_⟩
      cases background with
      | false => rfl
      | true => exact nomatch hreported.once
    · rintro ⟨-, rfl⟩
      exact ⟨_, rfl, rfl, fun _ => rfl⟩

/-- An operation waits for the answer to its request. -/
def requesting (method : SipMethod) : Ssc :=
  { operations := [{ addr := 0, opHandle := 0, opMethod := method
                     opPersistent := method.persistent }] }

/-- The registrar does not answer. -/
theorem failure_reported_timeout :
    (∃ app', handleSofiaInputs Lib.Json.read true [SipMsgEnum.errorSipRegisterTimeout.errorReply]
        (RCDevice.initWithParams {} .reachableViaWiFi).silent = some app' ∧
        FailureReported false true app') ↔
      (Failure.register 0 408 "Request Timeout".toList none).isAnsweredRegistration ∧
        false = false :=
  failure_reported_iff Lib.Json.read plainEnv ⟨1, 1⟩ (requesting .register) _
    (.register 0 408 "Request Timeout".toList none) ⟨by decide, rfl⟩ rfl true false _

/-- A text message for an unknown user: the application is told nothing. -/
theorem unknown_recipient_unreported :
    ∃ ssc' app', sscMachine plainEnv (requesting .message)
        (⟨1, 1⟩, (Failure.message 0 404 none).input) = some ssc' ∧
      handleSofiaInputs Lib.Json.read true ssc'.sent
        (RCDevice.initWithParams {} .reachableViaWiFi).silent = some app' ∧
      app'.notified = [] ∧ ¬ FailureReported false false app' :=
  ⟨_, _, rfl, rfl, rfl, fun hreported => nomatch hreported.once⟩

end RestCommSdk.Proofs
