import RestCommSdk.Proofs.AppInvariants
import RestCommSdk.Proofs.DeviceStates
import RestCommSdk.RestCommClient.Lifecycle

/-!
# `RestCommSdk.Proofs.FirstPipe`: commands that are written before there is a pipe

`eventLoop` makes the pipe to Sofia when it returns true. A command that is written before goes
to descriptor 0. `hasPipe_iff_writesNothing`: in a run of the App every write goes to a pipe
exactly when the steps before there is one are such that they write nothing (`WritesNothing`):
the device is not taken off line, does not switch networks, is not asked to register or send,
and `listen` does not find an instance that is counted but was never started.

Before there is a pipe no reply comes, and no session connects for want of the answer of the
other side. So all connections are outgoing, and Pending or Disconnected (`Unheard`).
-/

set_option autoImplicit false

namespace RestCommSdk.Proofs

open RestCommSdk.Lib
open RestCommSdk.CliInterface (CString SofiaReply)
open RestCommSdk.SipManager (NSDictionary Params Command)

/-- What `eventLoop` returns: it has made the pipes. -/
def loopStarts (app : App) : Bool :=
  (SipManager.finishEventLoop (SipManager.enterEventLoop app).1
    (SipManager.enterEventLoop app).2).2

/-- The input makes the first pipe. -/
def makesPipe (app : App) : AppInput → Bool
  | .listen _ =>
    app.state = .offline && app.reachabilityStatus ≠ .notReachable && loopStarts app
  | _ => false

/-- The input comes from the Sofia thread, or from the other side by way of it. -/
def ofSofia : AppInput → Bool
  | .reply .. | .iceConnected _ | .loopStopped => true
  | _ => false

/-- The App, and that a pipe was made. -/
def pipeStep (jsonObject : CString → Option NSDictionary) (s : App × Bool) (input : AppInput) :
    Option (App × Bool) :=
  if ofSofia input && !s.2 then none
  else (appStep jsonObject s.1 input).map fun app => (app, s.2 || makesPipe s.1 input)

/-- What the step writes goes to a pipe that was made before. -/
def HasPipe (s : App × Bool) (_ : AppInput) (s' : App × Bool) : Prop :=
  s'.1.piped ≠ [] ∨ s'.1.credentials ≠ [] → s.2 = true

/-- The update makes no command. -/
def CommandsNothing (app : App) (params : Option Params) : Prop :=
  ∃ given ∈ params, unregisters app.params given (app.state ≠ .offline) = false ∧
    registers app.params given = false ∧ given.aor = none

/-- The condition on a step before there is a pipe, of its input and the state before it. -/
def WritesNothing (app : App) : AppInput → Prop
  | .unlisten => False
  | .checkNetworkStatus newStatus =>
    (newStatus = .notReachable → app.state = .offline ∧ app.reachabilityStatus = .notReachable) ∧
      (newStatus ≠ .notReachable → app.reachabilityStatus ≠ .notReachable →
        app.reachabilityStatus = newStatus)
  | .listen _ =>
    (app.state = .offline → app.reachabilityStatus ≠ .notReachable →
        app.signallingInstances = 0) ∧
      (app.state = .ready → app.registrarless)
  | .updateParams params => app.reachabilityStatus ≠ .notReachable → CommandsNothing app params
  | .sendMessage .. => app.state = .offline
  | .iceGatheringComplete m => ∀ media ∈ app.media? m, 0 < media.iceCandidates →
    media.candidatesGathered = false → app.mediaState.getD .disconnected = .disconnected
  | _ => True

/-! ### Before there is a pipe -/

/-- Outgoing, and Pending or Disconnected. -/
def Unanswered (connection : RCConnection) : Prop :=
  connection.incoming = false ∧
    (connection.state = .pending ∨ connection.state = .disconnected)

/-- Nothing was written, and no call has come further than the dialling. -/
structure Unheard (app : App) : Prop where
  piped : app.piped = []
  credentials : app.credentials = []
  calls : ∀ c, ∀ connection ∈ app.connection? c, Unanswered connection

section Unheard
variable {app app' : App}

/-- Only what was piped and the connections matter. -/
theorem Unheard.of_eq (h : Unheard app) (hconnections : app'.connections = app.connections)
    (hpiped : app'.piped = app.piped) (hcredentials : app'.credentials = app.credentials) :
    Unheard app' where
  piped := hpiped.trans h.piped
  credentials := hcredentials.trans h.credentials
  calls := by simpa only [App.connection?, hconnections] using h.calls

/-- A write to a connection that leaves it Pending or over. -/
theorem Unheard.setConnection (h : Unheard app) (c : Nat) {f : RCConnection → RCConnection}
    (hf : Marks f) : Unheard (app.setConnection c f) := by
  refine ⟨h.piped, h.credentials, fun x connection hc => ?_⟩
  rw [App.connection?_setConnection] at hc
  split at hc
  · obtain ⟨old, hold, rfl⟩ := Option.map_eq_some_iff.mp hc
    obtain ⟨hincoming, hstate⟩ := h.calls x old hold
    refine ⟨(hf old).1.trans hincoming, ?_⟩
    rcases (hf old).2 with hsame | hover
    · rwa [hsame]
    · exact .inr hover
  · exact h.calls x connection hc

/-- Such a connection is hung up without a command. -/
theorem callInvariant_unheard : CallInvariant Unheard where
  of_view h hview := h.of_eq (congrArg CallView.connections hview)
    (congrArg CallView.piped hview) (congrArg CallView.credentials hview)
  mark c f hf h := h.setConnection c hf
  hangUp := by
    intro app c connection hc h
    obtain ⟨hincoming, hstate⟩ := h.calls c connection hc
    unfold RCConnection.hangUp
    rcases hstate with hstate | hstate
    · rw [hstate]
      simp only [hincoming, Bool.false_eq_true, if_false]
      exact h.setConnection c fun _ => ⟨rfl, .inl rfl⟩
    · rw [hstate]
      exact h
  video _ h := h.of_eq rfl rfl rfl

/-- An error of the media pipes nothing for a call that was never heard of. -/
theorem Unheard.mediaDidError (h : Unheard app) (error : CallError) :
    Unheard (SipManager.mediaDidError error app) :=
  CallInvariant.toDelegate h
    (fun c _ => callInvariant_unheard.didError error c (fun h => h.of_eq rfl rfl rfl) h) id

/-- A chain pipes nothing before the session has gathered. -/
theorem Unheard.chainEnd {owner : Nat} {denies grants : Bool} (h : Unheard app)
    (hchain : ChainEnd owner denies grants app app') : Unheard app' :=
  callInvariant_unheard.chainEnd (fun _ => h.mediaDidError _) (fun _ => h.of_eq rfl rfl rfl) h
    hchain

/-- The connection of a call that is dialled is Pending. -/
theorem Unheard.makeConnection (h : Unheard app) :
    Unheard (RCDevice.makeConnection { incoming := false, state := .pending } app) := by
  refine ⟨h.piped, h.credentials, fun c connection hc => ?_⟩
  rw [App.connection?_makeConnection] at hc
  split at hc
  · cases hc
    exact ⟨rfl, .inl rfl⟩
  · exact h.calls c connection hc

/-- Dialling pipes nothing. -/
theorem Unheard.connect {auth : AVMediaType → AVAuthorizationStatus} {recipient : CString}
    {video : Bool} {headers : Option NSDictionary} (h : Unheard app)
    (hconnect : (RCDevice.connect auth recipient video headers app).map (·.1) = some app') :
    Unheard app' := by
  rcases connect_cases hconnect with ⟨-, rfl⟩ | ⟨-, app₂, invited, hinvite, rfl⟩
  · exact h
  · refine callInvariant_unheard.release _ invited ?_
    have hmade := h.makeConnection
    rcases invite_cases hinvite with ⟨-, -, rfl⟩ | ⟨-, -, hchain⟩
    · exact hmade.of_eq rfl rfl rfl
    · refine Unheard.chainEnd ?_ (chainEnd_dial hchain)
      refine Unheard.setConnection ?_ _ fun _ => ⟨rfl, .inl rfl⟩
      exact hmade.of_eq rfl rfl rfl

/-- There is nothing to answer. -/
theorem Unheard.not_ringing (h : Unheard app) {c : Nat} {connection : RCConnection}
    (hc : app.connection? c = some connection) : connection.ringing = false := by
  simp [RCConnection.ringing, (h.calls c connection hc).1]

end Unheard

/-! ### Steps -/

/-- The step writes nothing exactly when `q`, and then the App stays as it was. -/
def WritesUnless (q : Prop) (app' : App) : Prop := (q → Unheard app') ∧ (¬ q → app'.piped ≠ [])

section Steps
variable {q : Prop} {app app₁ app' : App}

/-- Nothing was written. -/
theorem WritesUnless.of_unheard (hq : q) (h : Unheard app') : WritesUnless q app' :=
  ⟨fun _ => h, fun hnot => absurd hq hnot⟩

/-- Something was written. -/
theorem WritesUnless.of_piped (hq : ¬ q) (h : app'.piped ≠ []) : WritesUnless q app' :=
  ⟨fun hq' => absurd hq' hq, fun _ => h⟩

/-- Only what was piped and the connections matter. -/
theorem WritesUnless.of_eq (h : WritesUnless q app₁)
    (hconnections : app'.connections = app₁.connections)
    (hpiped : app'.piped = app₁.piped) (hcredentials : app'.credentials = app₁.credentials) :
    WritesUnless q app' :=
  ⟨fun hq => (h.1 hq).of_eq hconnections hpiped hcredentials, fun hq => by
    rw [hpiped]
    exact h.2 hq⟩

/-- The same condition in other words. -/
theorem WritesUnless.congr {r : Prop} (h : WritesUnless q app') (hiff : r ↔ q) :
    WritesUnless r app' := ⟨fun hr => h.1 (hiff.mp hr), fun hr => h.2 (mt hiff.mpr hr)⟩

/-- A pipe always writes. -/
theorem piped_pipe (app : App) (source : Option Nat) (command : Command) :
    (app.pipe source command).piped ≠ [] := by
  simp [App.pipe]

/-- The commands of an update are piped, if there are any. -/
theorem writesUnless_sipManagerUpdateParams {params : Option Params} {online network : Bool}
    {state : SipManager.UpdateParamsState} (h : Unheard app)
    (hupdate : RCDevice.sipManagerUpdateParams params online network app = some (app', state)) :
    ∃ commands stored, SipManager.updateParams app.params params online network
        = some (commands, state, stored) ∧ WritesUnless (commands = []) app' := by
  obtain ⟨⟨commands, state', stored⟩, hcommands, hupdate⟩ := Option.bind_eq_some_iff.mp hupdate
  cases hupdate
  refine ⟨commands, stored, hcommands, fun hnone => ?_, fun hsome => ?_⟩
  · subst hnone
    exact h.of_eq rfl rfl rfl
  · show (commands.foldl (fun app command => app.pipe none command) app).piped ≠ []
    rw [App.pipeAll_eq]
    simp [hsome]

/-- An update makes no command exactly when it neither registers nor unregisters, and gives no
address. -/
theorem commands_eq_nil_iff {stored : Params} {given : Params} {online network : Bool}
    {commands : List Command} {state : SipManager.UpdateParamsState} {stored' : Params}
    (h : SipManager.updateParams stored (some given) online network
      = some (commands, state, stored')) :
    commands = [] ↔ unregisters stored given online = false ∧ registers stored given = false ∧
      given.aor = none := by
  rw [updateParams_eq] at h
  obtain ⟨unregister, hunregister, h⟩ := Option.map_eq_some_iff.mp h
  simp only [Prod.mk.injEq] at h
  -- The three lines are independent, and the list is empty when each is left out.
  rw [← h.1]
  unfold unregisterCommand at hunregister
  rcases registerCommand_cases stored given with ⟨hregisters, hnone⟩ | ⟨hregisters, s, hsome⟩
  · rw [hnone]
    split at hunregister
    · rename_i hunregisters
      -- The stored password is there, so the line was written.
      obtain ⟨password, -, rfl⟩ := Option.map_eq_some_iff.mp hunregister
      simp [hunregisters]
    · rename_i hunregisters
      cases hunregister
      simp [addressCommand, hregisters, hunregisters]
  · simp [hsome, hregisters]

/-- An update writes its commands, if it has some. -/
theorem writesUnless_updateParams {params : Option Params} (h : Unheard app)
    (hupdate : RCDevice.updateParams params app = some app') :
    WritesUnless (app.reachabilityStatus ≠ .notReachable → CommandsNothing app params) app' := by
  unfold RCDevice.updateParams at hupdate
  split at hupdate
  · rename_i hreachable
    obtain ⟨⟨app₁, state⟩, hupdate₁, hupdate⟩ := Option.bind_eq_some_iff.mp hupdate
    obtain ⟨commands, stored, hcommands, hwrites⟩ :=
      writesUnless_sipManagerUpdateParams h hupdate₁
    have hwrites' : WritesUnless (commands = []) app' := by
      cases state with
      | unassigned =>
        cases hupdate
        exact hwrites
      | sentRegister | reestablishedRegistrarless =>
        cases hupdate
        exact hwrites.of_eq rfl rfl rfl
    refine hwrites'.congr ?_
    simp only [hreachable, ne_eq, not_false_eq_true, true_imp_iff]
    cases params with
    | none =>
      -- Without parameters the registration is refreshed.
      obtain ⟨password, -, hcommands⟩ := Option.bind_eq_some_iff.mp hcommands
      cases hcommands
      simp [CommandsNothing]
    | some given => simp [CommandsNothing, commands_eq_nil_iff hcommands]
  · rename_i hreachable
    cases hupdate
    exact .of_unheard (fun hne => absurd hne hreachable) (h.of_eq rfl rfl rfl)

/-- With an instance running, starting writes `mr`. -/
theorem writesUnless_eventLoop (h : Unheard app) :
    WritesUnless (app.signallingInstances = 0) (SipManager.eventLoop app) := by
  unfold SipManager.eventLoop
  split
  · exact .of_piped (by omega) (piped_pipe _ _ _)
  · refine .of_unheard (by omega) ?_
    dsimp only
    split
    · exact h.of_eq rfl rfl rfl
    · exact h.of_eq rfl rfl rfl

/-- `listen` starts the thread, or refreshes the registration. -/
theorem writesUnless_listen {status : NetworkStatus} (h : Unheard app)
    (hlisten : RCDevice.listen status app = some app') :
    WritesUnless (WritesNothing app (.listen status)) app' := by
  unfold RCDevice.listen at hlisten
  split at hlisten
  · rename_i hstate
    split at hlisten
    · rename_i hreachable
      -- The loop is started, and writes through the pipe it makes.
      have hwrites : WritesUnless (app.signallingInstances = 0) app' := by
        simp only at hlisten
        split_ifs at hlisten <;> cases hlisten <;>
          exact (writesUnless_eventLoop h).of_eq rfl rfl rfl
      exact hwrites.congr (by simp [WritesNothing, hstate, hreachable])
    · -- Without a network the device stays offline.
      rename_i hreachable
      cases hlisten
      refine .of_unheard ?_ (h.of_eq rfl rfl rfl)
      simpa [WritesNothing, hstate] using fun hne => absurd hne hreachable
  · rename_i hstate
    split at hlisten
    · -- Registrarless there is nothing to register again.
      rename_i hless
      cases hlisten
      exact .of_unheard (by simp [WritesNothing, hstate, hless]) (h.of_eq rfl rfl rfl)
    · -- The registration is refreshed, which writes one line.
      rename_i hregistrar
      obtain ⟨⟨app₂, state⟩, hupdate, hlisten⟩ := Option.map_eq_some_iff.mp hlisten
      cases hlisten
      obtain ⟨commands, stored, hcommands, hwrites⟩ :=
        writesUnless_sipManagerUpdateParams h hupdate
      obtain ⟨password, -, hcommands⟩ := Option.bind_eq_some_iff.mp hcommands
      cases hcommands
      exact hwrites.congr (by simp [WritesNothing, hstate, hregistrar])
  · rename_i hstate
    cases hlisten
    exact .of_unheard (by simp [WritesNothing, hstate]) h

/-- `unlisten` always writes `q`. -/
theorem piped_unlisten (app : App) : (RCDevice.unlisten app).piped ≠ [] := piped_pipe _ _ _

/-- A change of the network writes `q` or `qr`, or nothing. -/
theorem writesUnless_checkNetworkStatus (newStatus : NetworkStatus) (h : Unheard app) :
    WritesUnless (WritesNothing app (.checkNetworkStatus newStatus))
      (RCDevice.checkNetworkStatus newStatus app) := by
  unfold RCDevice.checkNetworkStatus
  split
  · -- The network is gone, and the device unlistens.
    rename_i hgone
    refine .of_piped ?_ (piped_unlisten _)
    simp only [WritesNothing]
    grind
  · rename_i hstays
    split
    · -- The network is another one, and the stack is restarted.
      rename_i hswitch
      refine .of_piped ?_ (piped_pipe app none (.shutdown true))
      simp only [WritesNothing]
      grind
    · -- Nothing that matters has changed.
      rename_i hsame
      refine .of_unheard ?_ (h.of_eq rfl rfl rfl)
      simp only [WritesNothing]
      grind

/-- A message is written unless the device is Offline. -/
theorem writesUnless_sendMessage (message recipient : CString) (headers : Option NSDictionary)
    (h : Unheard app) :
    WritesUnless (app.state = .offline) (RCDevice.sendMessage message recipient headers app) := by
  unfold RCDevice.sendMessage
  split
  · rename_i hstate
    exact .of_unheard hstate h
  · rename_i hstate
    refine .of_piped hstate ?_
    rw [App.pipeAll_eq]
    simp [SipManager.message]

/-- An SDP is piped when there is a session that has not been released. -/
theorem didCreateSdp_eq_nil_iff {state : Option SipManager.MediaState}
    {activeCallParams : SipManager.ActiveCallParams} {params : Params} {sdp : Option CString}
    {initiator : Bool} {commands : List Command}
    (h : SipManager.didCreateSdp state activeCallParams params sdp initiator = some commands) :
    commands = [] ↔ state.getD .disconnected = .disconnected := by
  unfold SipManager.didCreateSdp at h
  split at h
  · rename_i hstate
    cases h
    simp [hstate]
  · rename_i hstate
    split at h
    · obtain ⟨destination, -, h⟩ := Option.bind_eq_some_iff.mp h
      cases h
      simp [hstate]
    · obtain ⟨text, -, h⟩ := Option.bind_eq_some_iff.mp h
      cases h
      simp [hstate]

/-- The description is written if the session is in use. -/
theorem writesUnless_iceGatheringComplete {m : Nat} (h : Unheard app)
    (hcomplete : SipManager.iceGatheringComplete m app = some app') :
    WritesUnless (WritesNothing app (.iceGatheringComplete m)) app' := by
  obtain ⟨media, hm, -, ⟨hfound, hcomplete⟩ | ⟨hnone, rfl⟩⟩ := iceGatheringComplete_cases hcomplete
  · -- Completed before, and nothing is written again.
    rcases candidateGatheringComplete_cases hcomplete with ⟨hgathered, rfl⟩ | ⟨hgathered, hsdp⟩
    · exact .of_unheard (by simp [WritesNothing, hm, hgathered]) h
    · obtain ⟨commands, hcommands, hsdp⟩ := Option.bind_eq_some_iff.mp hsdp
      cases hsdp
      rw [App.mediaState_setMedia] at hcommands
      -- What is written is the invite or the answer, if any.
      have hnothing : WritesNothing app (.iceGatheringComplete m) ↔ commands = [] := by
        rw [didCreateSdp_eq_nil_iff hcommands]
        simp [WritesNothing, hm, hfound, hgathered]
      refine WritesUnless.congr ⟨fun hnil => ?_, fun hsome => ?_⟩ hnothing
      · subst hnil
        refine Unheard.setConnection ?_ _ fun _ => ⟨rfl, .inl rfl⟩
        exact h.of_eq rfl rfl rfl
      · show (commands.foldl (fun (app : App) command => app.pipe _ command) _).piped ≠ []
        rw [App.pipeAll_eq]
        simp [hsome]
      · exact fun _ => rfl
  · -- Without a candidate an error is told.
    exact .of_unheard (by simp [WritesNothing, hm, hnone]) (h.mediaDidError _)

/-- One step before there is a pipe. -/
theorem writesUnless_appHandle {jsonObject : CString → Option NSDictionary} {input : AppInput}
    (h : Unheard app) (hours : ofSofia input = false)
    (happ : appHandle jsonObject app input = some app') :
    WritesUnless (WritesNothing app input) app' := by
  have hI := callInvariant_unheard
  cases input with
  | reply _ _ | iceConnected _ | loopStopped => cases hours
  | connect auth recipient video headers => exact .of_unheard trivial (h.connect happ)
  | disconnectAll =>
    cases happ
    exact .of_unheard trivial (hI.disconnectAll h)
  | listen status => exact writesUnless_listen h happ
  | unlisten =>
    cases happ
    exact .of_piped id (piped_unlisten app)
  | updateParams params => exact writesUnless_updateParams h happ
  | sendMessage message recipient headers =>
    cases happ
    exact writesUnless_sendMessage message recipient headers h
  | accept c auth video =>
    obtain ⟨-, happ⟩ := ofHeld_eq_some happ
    obtain ⟨connection, hc, ⟨hrings, -⟩ | ⟨-, rfl⟩⟩ := accept_cases happ
    · rw [h.not_ringing hc] at hrings
      cases hrings
    · exact .of_unheard trivial h
  | reject c =>
    rw [ofHeld_some happ]
    refine .of_unheard trivial ?_
    unfold RCConnection.reject
    split
    · exact h
    · rename_i connection hc
      rw [if_neg (by simp [h.not_ringing hc])]
      exact h
  | disconnect c =>
    rw [ofHeld_some happ]
    exact .of_unheard trivial (hI.disconnect c h)
  | sendDigits c digits =>
    rw [ofHeld_some happ]
    refine .of_unheard trivial ?_
    unfold RCConnection.sendDigits
    split
    · rename_i hconnected
      -- No connection has come to Connected.
      obtain ⟨connection, hc, hstate⟩ := Option.map_eq_some_iff.mp hconnected
      have hcall := (h.calls c connection hc).2
      rw [hstate] at hcall
      rcases hcall with hcall | hcall <;> cases hcall
    · exact h.of_eq rfl rfl rfl
  | release c =>
    obtain ⟨connection, -, happ⟩ := Option.bind_eq_some_iff.mp happ
    split at happ
    · cases happ
      exact .of_unheard trivial (hI.release c false h)
    · cases happ
  | permissionAnswered auth n granted =>
    obtain ⟨request, -, hchain⟩ := chainEnd_permissionAnswered happ
    refine .of_unheard trivial (Unheard.chainEnd ?_ hchain)
    exact h.of_eq rfl rfl rfl
  | turnAnswered m success =>
    obtain ⟨media, -, ⟨-, media', -, rfl⟩ | ⟨-, rfl⟩⟩ := turnAnswered_cases happ
    · exact .of_unheard trivial (hI.reportLocalVideo media' (h.of_eq rfl rfl rfl))
    · refine .of_unheard trivial (Unheard.mediaDidError ?_ _)
      exact h.of_eq rfl rfl rfl
  | didCreateSessionDescription m sdp =>
    rcases didCreateSessionDescription_cases happ with ⟨-, rfl⟩ | ⟨text, -, rfl⟩
    · refine .of_unheard trivial (Unheard.mediaDidError ?_ _)
      exact h.of_eq rfl rfl rfl
    · exact .of_unheard trivial (h.of_eq rfl rfl rfl)
  | didSetSessionDescriptionWithError m =>
    rw [didSetSessionDescriptionWithError_eq happ]
    refine .of_unheard trivial (Unheard.mediaDidError ?_ _)
    exact h.of_eq rfl rfl rfl
  | didGenerateIceCandidate m localDescription =>
    rw [didGenerateIceCandidate_eq happ]
    exact .of_unheard trivial (h.of_eq rfl rfl rfl)
  | iceGatheringComplete m => exact writesUnless_iceGatheringComplete h happ
  | iceFailed m =>
    rw [iceFailed_eq happ]
    exact .of_unheard trivial (h.mediaDidError _)
  | didAddStream m =>
    rw [didAddStream_eq happ]
    refine .of_unheard trivial (CallInvariant.toDelegate h (fun c _ => ?_) id)
    exact hI.video (.inr rfl) h
  | checkNetworkStatus newStatus =>
    cases happ
    exact writesUnless_checkNetworkStatus newStatus h

end Steps

/-! ### Runs -/

/-- Before there is a pipe, no call has come further than the dialling. -/
def NoneAnswered (s : App × Bool) : Prop :=
  s.2 = false → ∀ c, ∀ connection ∈ s.1.connection? c, Unanswered connection

/-- The condition does not look at what was piped before. -/
theorem writesNothing_silent (app : App) (input : AppInput) :
    WritesNothing app.silent input ↔ WritesNothing app input := by
  cases input <;> rfl

/-- One step: nothing is written before there is a pipe, exactly under the condition. -/
theorem hasPipe_iff_step {jsonObject : CString → Option NSDictionary} {s s' : App × Bool}
    {input : AppInput} (hnone : NoneAnswered s) (h : pipeStep jsonObject s input = some s') :
    (HasPipe s input s' ↔ s.2 = true ∨ WritesNothing s.1 input) ∧
      (s.2 = true ∨ WritesNothing s.1 input → NoneAnswered s') := by
  unfold pipeStep at h
  split at h
  · cases h
  · rename_i hours
    obtain ⟨app', happ, rfl⟩ := Option.map_eq_some_iff.mp h
    cases hpipe : s.2 with
    -- The stack has answered before, so the pipe is there.
    | true => simp [HasPipe, NoneAnswered, hpipe]
    | false =>
      have hours : ofSofia input = false := by simpa [hpipe] using hours
      -- Nothing was answered yet, so this turn is what may write.
      have hsilent : Unheard s.1.silent := ⟨rfl, rfl, hnone hpipe⟩
      obtain ⟨hwrites, hpiped⟩ := (writesUnless_appHandle hsilent hours happ).congr
        (writesNothing_silent s.1 input).symm
      simp only [HasPipe, hpipe, Bool.false_eq_true, imp_false, false_or]
      refine ⟨⟨fun hempty => ?_, fun hnothing => ?_⟩, fun hnothing _ => (hwrites hnothing).calls⟩
      · by_contra hnot
        exact hempty (.inl (hpiped hnot))
      · simp [(hwrites hnothing).piped, (hwrites hnothing).credentials]

/-- A new device has written nothing. -/
theorem unheard_initWithParams (params : Params) (status : NetworkStatus) :
    Unheard (RCDevice.initWithParams params status) := by
  unfold RCDevice.initWithParams
  split
  · refine (writesUnless_eventLoop ?_).1 ?_
    · split <;> exact ⟨rfl, rfl, by simp [App.connection?]⟩
    · split <;> rfl
  · exact ⟨rfl, rfl, by simp [App.connection?]⟩

/-- The App at its start: `eventLoop` has made a pipe when there was a network to start with. -/
def startOf (params : Params) (status : NetworkStatus) : App × Bool :=
  (RCDevice.initWithParams params status, status ≠ .notReachable && SipManager.startable params)

/-- A new App has written nothing, and in every run every write goes to a pipe exactly when the
steps before there is one write nothing. -/
theorem hasPipe_iff_writesNothing (jsonObject : CString → Option NSDictionary) (params : Params)
    (status : NetworkStatus) (inputs : List AppInput) :
    Unheard (RCDevice.initWithParams params status) ∧
      (AllSteps (pipeStep jsonObject) HasPipe (startOf params status) inputs ↔
        AllSteps (pipeStep jsonObject) (fun s input _ => s.2 = true ∨ WritesNothing s.1 input)
          (startOf params status) inputs) := by
  have hstart := unheard_initWithParams params status
  refine ⟨hstart, AllSteps.iff_of_inv NoneAnswered ?_ (fun _ => hstart.calls) inputs⟩
  intro s input s' hnone hstep
  exact hasPipe_iff_step hnone hstep

/-- A device that is made without a network is taken off line: the command to shut down goes to
descriptor 0. -/
theorem unlisten_without_pipe :
    ∃ s', pipeStep Json.read (startOf {} .notReachable) .unlisten = some s' ∧
      s'.1.piped = [⟨none, .shutdown false⟩] ∧ s'.2 = false ∧
      ¬ HasPipe (startOf {} .notReachable) .unlisten s' := by
  refine ⟨_, rfl, rfl, rfl, fun hpipe => ?_⟩
  have hmade := hpipe (.inl (by decide))
  cases hmade

end RestCommSdk.Proofs
