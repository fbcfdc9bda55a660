import RestCommSdk.Proofs.AppInvariants

/-!
# `RestCommSdk.Proofs.AppOutputs`: what a step of the App pipes and notifies

Text messages are piped by `sendMessage` alone, and the application is notified of a call or a
message that comes in by the replies that announce it alone. A command that sets a call up comes at
the end of the gathering of a media session, and a session comes out of the chain of continuations
that a call starts. Everything else that the App does pipes other commands, notifies of other
events, and makes of a session only what is a `SessionStep`.

`OutputInvariant` says that a property survives all this. `OutputInvariant.appHandle` is the rule:
it survives every input that is neither a text message nor an announcement (`isPlainInput`), at a
level that goes up when the application asks for a call or takes one.
-/

set_option autoImplicit false

namespace RestCommSdk.Proofs

open RestCommSdk.CliInterface
open RestCommSdk.SipManager (NSDictionary Params Command)

/-- `m` -/
def isMessage : Command → Bool
  | .message .. => true
  | _ => false

/-- `i`, `a` -/
def isSetUp : Command → Bool
  | .invite .. | .answer _ => true
  | _ => false

/-- A command that neither sends a text message nor sets a call up. -/
def isPlainCommand (command : Command) : Bool := !isMessage command && !isSetUp command

/-- A call or a message comes in. -/
def isIncoming : DeviceEvent → Bool
  | .didReceiveIncomingConnection _ | .didReceiveIncomingMessage .. => true
  | _ => false

/-- A reply that announces a call or a message. -/
def announces (reply : SofiaReply) : Bool :=
  SipMsgEnum.ofCode reply.rc = some .incomingCall || SipMsgEnum.ofCode reply.rc = some .incomingMsg

/-- The input neither sends a text message nor announces anything. -/
def isPlainInput : AppInput → Bool
  | .sendMessage .. => false
  | .reply reply _ => !announces reply
  | _ => true

/-- The application asks for a call, or takes one. -/
def startsCall : AppInput → Bool
  | .connect .. | .accept .. => true
  | _ => false

/-- What the end of a call and the callbacks of a media session make of the session. -/
inductive SessionStep (media : MediaWebRTC) : MediaWebRTC → Prop where
  | disconnect : SessionStep media media.disconnect
  | turnFailed : SessionStep media { media with turnRequested := false }
  | turnAnswered {media' : MediaWebRTC} (hrequested : media.turnRequested = true)
    (hstart : { media with turnRequested := false, isTurnComplete := true }.startSignalingIfReady
      media.offer = some media') : SessionStep media media'
  | described (candidates : Nat) (f : PeerConnection → PeerConnection) :
    SessionStep media
      { media with iceCandidates := candidates, peerConnection := media.peerConnection.map f }

/-- The commands that the end of the gathering leads to. -/
structure GatheredCommands (media : MediaWebRTC) (commands : List Command) : Prop where
  setUp : ∀ command ∈ commands, isSetUp command = true
  length : commands.length ≤ 1
  released : media.peerConnection = none → media.isInitiator = false → commands = []

/-- What an `OutputInvariant` is about. -/
def outputView (app : App) :
    List Piped × List DeviceEvent × List MediaWebRTC × List PermissionRequest :=
  (app.piped, app.notified, app.medias, app.permissionRequests)

/-- A property that survives all other commands and events, at a level that goes up by one when
the application asks for a call or takes one. The chain of continuations that follows is paid for
with it: the prompt that is put up, or the session that is made, is the one that the level has gone
up for. An answer to a prompt gives the level back that the prompt has taken. -/
structure OutputInvariant (I : Nat → App → Prop) : Prop where
  of_eq : ∀ {n : Nat} {app app' : App}, I n app → outputView app' = outputView app → I n app'
  pipe : ∀ {n : Nat} {app : App} (source : Option Nat) {command : Command}, I n app →
    isPlainCommand command = true → I n (app.pipe source command)
  notify : ∀ {n : Nat} {app : App} {event : DeviceEvent}, I n app → isIncoming event = false →
    I n (app.notify event)
  session : ∀ {n : Nat} {app : App} (m : Nat) {f : MediaWebRTC → MediaWebRTC}, I n app →
    (∀ media, app.media? m = some media → SessionStep media (f media)) → I n (app.setMedia m f)
  gathered : ∀ {n : Nat} {app : App} {m : Nat} {media : MediaWebRTC} (source : Option Nat)
    {commands : List Command}, I n app → app.media? m = some media → media.isTurnComplete = true →
      media.candidatesGathered = false → GatheredCommands media commands →
        I n (commands.foldl (fun app command => app.pipe source command)
          (app.setMedia m fun media => { media with candidatesGathered := true }))
  start : ∀ {n : Nat} {app : App}, I n app → I (n + 1) app
  prompt : ∀ {n : Nat} {app : App} (request : PermissionRequest), I n app →
    I (n + 1) { app with permissionRequests := app.permissionRequests ++ [request] }
  make : ∀ {n : Nat} {app : App} {owner : Nat} {sdp : Option CString} {initiator : Bool}
    {media : MediaWebRTC}, I n app →
      MediaWebRTC.connect app.params sdp initiator app.videoAllowed { owner := owner }
        = some media →
      I (n + 1) { app with media := some app.medias.length, medias := app.medias ++ [media] }
  answer : ∀ {n : Nat} {app : App} (k : Nat) {request : PermissionRequest}, I n app →
    app.permissionRequests[k]? = some request →
      ∃ left, I left { app with permissionRequests := app.permissionRequests.eraseIdx k } ∧
        ∀ app', I (left + 1) app' → I n app'

/-- A remote description makes no offer. -/
theorem sessionStep_processSignalingMessage {media media' : MediaWebRTC} {message : Option CString}
    (h : media.processSignalingMessage message = some media') : SessionStep media media' := by
  obtain ⟨peerConnection, hpeer, h⟩ := Option.bind_eq_some_iff.mp h
  obtain ⟨message, -, h⟩ := Option.bind_eq_some_iff.mp h
  cases h
  have hstep : SessionStep media { media with
      peerConnection := media.peerConnection.map fun p =>
        { p with remoteDescription := some message } } :=
    .described media.iceCandidates _
  rwa [hpeer] at hstep

/-- Only a TURN request in progress is answered. -/
theorem turnRequested_of_turnAnswered {m : Nat} {success : Bool} {app app' : App}
    {media : MediaWebRTC} (h : SipManager.turnAnswered m success app = some app')
    (hm : app.media? m = some media) : media.turnRequested = true := by
  obtain ⟨media₀, hm₀, h⟩ := Option.bind_eq_some_iff.mp h
  obtain rfl : media = media₀ := Option.some.inj (hm.symm.trans hm₀)
  split at h
  · cases h
  · rename_i hrequested
    simpa using hrequested

/-- The SDP goes into an INVITE or an answer. A session that was released has none. -/
theorem gatheredCommands_didCreateSdp {state : Option SipManager.MediaState}
    {activeCallParams : SipManager.ActiveCallParams} {params : Params} {media : MediaWebRTC}
    {commands : List Command}
    (h : SipManager.didCreateSdp state activeCallParams params
      (media.peerConnection.bind (·.localDescription)) media.isInitiator = some commands) :
    GatheredCommands media commands := by
  unfold SipManager.didCreateSdp at h
  split at h
  · cases h
    exact ⟨by simp, Nat.zero_le _, fun _ _ => rfl⟩
  · split at h
    · rename_i hinitiator
      obtain ⟨destination, -, h⟩ := Option.bind_eq_some_iff.mp h
      cases h
      exact ⟨by simp [isSetUp], Nat.le_refl _, fun _ hnot => by simp [hinitiator] at hnot⟩
    · obtain ⟨sdp, hsdp, h⟩ := Option.bind_eq_some_iff.mp h
      cases h
      exact ⟨by simp [isSetUp], Nat.le_refl _, fun hnone => by simp [hnone] at hsdp⟩

namespace OutputInvariant

variable {I : Nat → App → Prop} {n : Nat} {app app' : App}

/-! ### Ending calls -/

section Calls
variable (hI : OutputInvariant I) (h : I n app)
include hI h

/-- A write to a connection. -/
theorem setConnection (c : Nat) (f : RCConnection → RCConnection) : I n (app.setConnection c f) :=
  hI.of_eq h rfl

/-- Something of a call is told. -/
theorem tell (c : Nat) (event : ConnectionEvent) : I n (app.tell c event) := hI.of_eq h rfl

omit hI in
/-- A method of the delegate, if there is a delegate. -/
theorem toDelegate {method : Nat → App → App} (hmethod : ∀ c, I n (method c app)) :
    I n (app.toDelegate method) := by
  unfold App.toDelegate
  split
  · exact hmethod _
  · exact h

/-- Plain commands are piped. -/
theorem pipeAll (source : Option Nat) {commands : List Command}
    (hcommands : ∀ command ∈ commands, isPlainCommand command = true) :
    I n (commands.foldl (fun app command => app.pipe source command) app) := by
  induction commands generalizing app with
  | nil => exact h
  | cons command commands ih =>
    rw [List.forall_mem_cons] at hcommands
    exact ih (hI.pipe source h hcommands.1) hcommands.2

/-- The session in use is disconnected. -/
theorem disconnectMedia : I n (SipManager.disconnectMedia app) := by
  unfold SipManager.disconnectMedia
  split
  · rename_i m _
    exact hI.of_eq (hI.session m h fun _ _ => .disconnect) rfl
  · exact h

/-- `c`, `b` and `d` are plain. -/
theorem hangUp (c : Nat) (connection : RCConnection) :
    I n (RCConnection.hangUp c connection app) := by
  unfold RCConnection.hangUp
  split
  · exact hI.pipe _ h (by split <;> rfl)
  · exact hI.pipe _ h rfl
  · split
    · exact h
    · exact hI.setConnection h c _
  · exact h

/-- A connection is hung up. -/
theorem disconnect (c : Nat) : I n (RCConnection.disconnect c app) := by
  unfold RCConnection.disconnect
  split
  · exact h
  · rename_i connection _
    exact hI.of_eq (hI.disconnectMedia (hI.hangUp h c connection)) rfl

/-- The current connection is hung up. -/
theorem disconnectAll : I n (RCDevice.disconnectAll app) := by
  unfold RCDevice.disconnectAll
  split
  · dsimp only
    split
    · rename_i c _
      exact hI.of_eq (hI.disconnect h c) rfl
    · exact hI.of_eq h rfl
  · exact h

/-- `q` is plain. -/
theorem unlisten : I n (RCDevice.unlisten app) := by
  unfold RCDevice.unlisten
  dsimp only
  split
  · have hoffline : I n { RCDevice.disconnectAll app with state := .offline } :=
      hI.of_eq (hI.disconnectAll h) rfl
    exact hI.pipe none (hI.notify hoffline rfl) rfl
  · exact hI.pipe none h rfl

/-- An error hangs the call up and tells it. -/
theorem didError (error : CallError) (c : Nat) : I n (RCConnection.didError error c app) :=
  hI.tell (hI.disconnect h c) c _

/-- The end of a call is told. -/
theorem ended (event : ConnectionEvent) (c : Nat) : I n (RCConnection.ended event c app) :=
  hI.of_eq h rfl

/-- The end of a call is told, and in the background the device stops to listen. -/
theorem didReceiveBye (active : Bool) (c : Nat) :
    I n (RCConnection.didReceiveBye active c app) := by
  have hready (app : App) (h : I n app) : I n (RCConnection.handleDisconnected
      (if app.state ≠ .offline then { app with state := .ready } else app)) := by
    split <;> exact hI.of_eq h rfl
  have htold : I n ((RCConnection.setState .disconnected c app).tell c .didDisconnect) :=
    hI.of_eq h rfl
  unfold RCConnection.didReceiveBye
  dsimp only
  split
  · exact hready _ htold
  · exact hI.unlisten (hready _ htold)

end Calls

/-! ### Making calls -/

section Media
variable (hI : OutputInvariant I) (h : I n app)
include hI h

/-- An error of the media goes to the delegate. -/
theorem mediaDidError (error : CallError) : I n (SipManager.mediaDidError error app) :=
  toDelegate h (hI.didError h error)

/-- Local tracks are told. -/
theorem reportLocalVideo (media : MediaWebRTC) : I n (SipManager.reportLocalVideo media app) := by
  unfold SipManager.reportLocalVideo
  -- Each of the tracks is told to the delegate.
  induction media.localVideoTracks generalizing app with
  | zero => exact h
  | succ tracks ih =>
    rw [List.replicate_succ, List.foldl_cons]
    exact ih (toDelegate h fun c => hI.tell h c _)

/-- The chain of continuations takes what it was started for. -/
theorem chainEnd {owner : Nat} {denies grants : Bool}
    (hchain : ChainEnd owner denies grants app app') : I (n + 1) app' := by
  cases hchain with
  | denied mediaType _ _ heq =>
    subst heq
    exact toDelegate (hI.start h) (hI.didError (hI.start h) _)
  | granted _ _ hcall =>
    rcases handleCall_cases hcall with ⟨-, rfl⟩ | ⟨-, media, hconnect, rfl⟩
    · exact hI.start h
    · exact hI.reportLocalVideo (hI.make h hconnect) media
  | asked mediaType _ _ heq =>
    subst heq
    exact hI.prompt _ h

/-- A session that has gathered sends what it owes, once. -/
theorem candidateGatheringComplete {m : Nat} {media : MediaWebRTC}
    (hm : app.media? m = some media) (hcomplete : media.isTurnComplete = true)
    (hgathering : SipManager.candidateGatheringComplete m media app = some app') : I n app' := by
  rcases candidateGatheringComplete_cases hgathering with ⟨-, rfl⟩ | ⟨hgathered, hsdp⟩
  · exact h
  · obtain ⟨commands, hcommands, hsdp⟩ := Option.bind_eq_some_iff.mp hsdp
    cases hsdp
    exact hI.of_eq
      (hI.gathered _ h hm hcomplete hgathered (gatheredCommands_didCreateSdp hcommands)) rfl

end Media

end OutputInvariant

/-! ### Parameters -/

/-- The actions of an update are plain commands. -/
structure PlainUpdate (u : SipManager.Update) : Prop where
  unregister : ∀ command ∈ u.unregister, isPlainCommand command = true
  register : ∀ command ∈ u.register, isPlainCommand command = true
  address : ∀ command ∈ u.address, isPlainCommand command = true

namespace PlainUpdate

variable {u u' : SipManager.Update}

/-- An unregistration is a plain command. -/
theorem setUnregister (h : PlainUpdate u) (hset : u.setUnregister = some u') : PlainUpdate u' := by
  obtain ⟨password, -, hset⟩ := Option.bind_eq_some_iff.mp hset
  cases hset
  exact ⟨by rintro _ ⟨⟩; rfl, h.register, h.address⟩

/-- A registration is a plain command. -/
theorem setRegister (h : PlainUpdate u) (params : Params) : PlainUpdate (u.setRegister params) :=
  ⟨h.unregister, by rintro _ ⟨⟩; rfl, h.address⟩

/-- Only the three commands of an update matter. -/
theorem of_eq (h : PlainUpdate u) (hunregister : u'.unregister = u.unregister)
    (hregister : u'.register = u.register) (haddress : u'.address = u.address) : PlainUpdate u' :=
  ⟨hunregister ▸ h.unregister, hregister ▸ h.register, haddress ▸ h.address⟩

/-- A change of security registers, or sets the address. -/
theorem signalingSecure (h : PlainUpdate u) {params : Params}
    (hsecure : u.signalingSecure params = some u') : PlainUpdate u' := by
  unfold SipManager.Update.signalingSecure at hsecure
  split at hsecure
  · cases hsecure
    exact h
  · split at hsecure
    · cases hsecure
      exact h
    · obtain ⟨u₁, hset, hsecure⟩ := Option.bind_eq_some_iff.mp hsecure
      cases hsecure
      exact ((h.setUnregister hset).setRegister params).of_eq rfl rfl rfl

/-- A change of the registrar unregisters from the old one and registers at the new one. -/
theorem registrarActions (h : PlainUpdate u) {params : Params} {registrar : CString}
    {online network : Bool}
    (hactions : u.registrarActions params registrar online network = some u') :
    PlainUpdate u' := by
  unfold SipManager.Update.registrarActions at hactions
  split_ifs at hactions
  · exact h.setUnregister hactions
  · cases hactions
    exact h.of_eq rfl rfl rfl
  · cases hactions
    exact h
  · cases hactions
    exact h
  · obtain ⟨u₁, hset, rfl⟩ := Option.map_eq_some_iff.mp hactions
    exact (h.setUnregister hset).setRegister params
  · cases hactions
    exact h.setRegister params

/-- The registrar is changed, or the update has none. -/
theorem registrar (h : PlainUpdate u) {params : Params} {online network : Bool}
    (hregistrar : u.registrar params online network = some u') : PlainUpdate u' := by
  unfold SipManager.Update.registrar at hregistrar
  split at hregistrar
  · cases hregistrar
    exact h
  · obtain ⟨u₁, hactions, rfl⟩ := Option.map_eq_some_iff.mp hregistrar
    exact (h.registrarActions hactions).of_eq rfl rfl rfl

/-- A change of the address is a plain command. -/
theorem aor (h : PlainUpdate u) (params : Params) : PlainUpdate (u.aor params) := by
  unfold SipManager.Update.aor
  split
  · exact h
  · dsimp only
    split
    · exact h.of_eq rfl rfl rfl
    · exact ⟨h.unregister, h.register, by rintro _ ⟨⟩; rfl⟩

/-- The commands of a plain update. -/
theorem commands (h : PlainUpdate u) : ∀ command ∈ u.commands, isPlainCommand command = true := by
  intro command hcommand
  simp only [SipManager.Update.commands, List.mem_append, Option.mem_toList] at hcommand
  rcases hcommand with (hcommand | hcommand) | hcommand
  · exact h.unregister command hcommand
  · exact h.register command hcommand
  · exact h.address command hcommand

end PlainUpdate

/-- An update of the parameters pipes neither a message nor a part of a call. -/
theorem isPlainCommand_updateParams {stored stored' : Params} {params : Option Params}
    {online network : Bool} {commands : List Command} {state : SipManager.UpdateParamsState}
    (h : SipManager.updateParams stored params online network = some (commands, state, stored')) :
    ∀ command ∈ commands, isPlainCommand command = true := by
  unfold SipManager.updateParams at h
  split at h
  · obtain ⟨u₁, hsecure, h⟩ := Option.bind_eq_some_iff.mp h
    obtain ⟨u₂, hregistrar, h⟩ := Option.bind_eq_some_iff.mp h
    cases h
    have hempty : PlainUpdate { stored := stored } := by constructor <;> rintro _ ⟨⟩
    exact (((hempty.signalingSecure hsecure).registrar hregistrar).aor _).commands
  · obtain ⟨password, -, h⟩ := Option.bind_eq_some_iff.mp h
    cases h
    simp [isPlainCommand, isMessage, isSetUp]

/-! ### Inputs -/

namespace OutputInvariant

variable {I : Nat → App → Prop} {n : Nat} {app app' : App}

section Inputs
variable (hI : OutputInvariant I) (h : I n app)
include hI h

/-- The update is piped, and the parameters are stored. -/
theorem sipManagerUpdateParams {params : Option Params} {online network : Bool}
    {state : SipManager.UpdateParamsState}
    (hupdate : RCDevice.sipManagerUpdateParams params online network app = some (app', state)) :
    I n app' := by
  obtain ⟨⟨commands, state', stored⟩, hcommands, hupdate⟩ := Option.bind_eq_some_iff.mp hupdate
  cases hupdate
  exact hI.of_eq (hI.pipeAll h none (isPlainCommand_updateParams hcommands)) rfl

/-- The device is told what has become of it. -/
theorem updateParams {params : Option Params}
    (hupdate : RCDevice.updateParams params app = some app') : I n app' := by
  unfold RCDevice.updateParams at hupdate
  split at hupdate
  · obtain ⟨⟨app₁, state⟩, hupdate₁, hupdate⟩ := Option.bind_eq_some_iff.mp hupdate
    have h₁ := hI.sipManagerUpdateParams h hupdate₁
    cases state with
    | unassigned =>
      cases hupdate
      exact h₁
    | sentRegister | reestablishedRegistrarless =>
      cases hupdate
      exact hI.notify (hI.of_eq h₁ rfl) rfl
  · cases hupdate
    exact hI.of_eq h rfl

/-- `mr` is plain. -/
theorem eventLoop : I n (SipManager.eventLoop app) := by
  unfold SipManager.eventLoop
  split
  · exact hI.pipe none h rfl
  · dsimp only
    split
    · exact hI.notify (hI.of_eq h rfl) rfl
    · exact hI.of_eq h rfl

/-- The thread is started, or the registration refreshed. -/
theorem listen {status : NetworkStatus} (hlisten : RCDevice.listen status app = some app') :
    I n app' := by
  unfold RCDevice.listen at hlisten
  split at hlisten
  · split at hlisten
    · -- The loop is started, and the App is told how far it got.
      have h₁ := hI.eventLoop h
      have h₂ : I n (if (SipManager.eventLoop app).registrarless then
          { SipManager.eventLoop app with state := .ready } else SipManager.eventLoop app) := by
        split
        · exact hI.of_eq h₁ rfl
        · exact h₁
      dsimp only at hlisten
      split at hlisten
      · cases hlisten
        exact hI.notify (hI.of_eq h₂ rfl) (by split <;> rfl)
      · cases hlisten
        exact hI.of_eq h₂ rfl
    · -- Without a network the App is told so.
      cases hlisten
      exact hI.notify h rfl
  · split at hlisten
    · -- Registrarless there is nothing to register again.
      cases hlisten
      exact hI.notify h rfl
    · obtain ⟨⟨app₂, state⟩, hupdate, hlisten⟩ := Option.map_eq_some_iff.mp hlisten
      cases hlisten
      -- The registration is refreshed.
      exact hI.sipManagerUpdateParams h hupdate
  · cases hlisten
    exact h

/-- `qr` is plain. -/
theorem checkNetworkStatus (newStatus : NetworkStatus) :
    I n (RCDevice.checkNetworkStatus newStatus app) := by
  unfold RCDevice.checkNetworkStatus
  split
  · exact hI.unlisten (hI.of_eq h rfl)
  · split
    · exact hI.notify (hI.of_eq (hI.pipe none h rfl) rfl) rfl
    · exact hI.of_eq h rfl

/-- An accepted call may set up one session. -/
theorem accept {auth : AVMediaType → AVAuthorizationStatus} {video : Bool} {c : Nat}
    (haccept : RCConnection.accept auth video c app = some app') : I (n + 1) app' := by
  obtain ⟨connection, -, ⟨-, app₂, hanswer, rfl⟩ | ⟨-, rfl⟩⟩ := accept_cases haccept
  · have haccepting : I n (accepting video app) := hI.of_eq h rfl
    have hchain : SipManager.permissionFsmRequest auth c (accepting video app) = some app₂ :=
      hanswer
    exact hI.setConnection (hI.chainEnd haccepting (chainEnd_permissionFsmRequest hchain)) c _
  · exact hI.start h

/-- A dialled call may set up one session. -/
theorem connect {auth : AVMediaType → AVAuthorizationStatus} {recipient : CString} {video : Bool}
    {headers : Option NSDictionary}
    (hconnect : (RCDevice.connect auth recipient video headers app).map (·.1) = some app') :
    I (n + 1) app' := by
  rcases connect_cases hconnect with ⟨-, rfl⟩ | ⟨-, app₂, invited, hinvite, rfl⟩
  · exact hI.start h
  · refine hI.setConnection ?_ _ _
    rcases invite_cases hinvite with ⟨-, -, rfl⟩ | ⟨-, -, hchain⟩
    · exact hI.of_eq (hI.start h) rfl
    · have hdialled : I n (dial app.connections.length recipient video headers
          (RCDevice.makeConnection { incoming := false, state := .pending } app)) :=
        hI.of_eq h rfl
      exact hI.chainEnd hdialled (chainEnd_dial hchain)

/-- `d` is plain. -/
theorem reject (c : Nat) : I n (RCConnection.reject c app) := by
  unfold RCConnection.reject
  split
  · exact h
  · split
    · exact hI.of_eq (hI.pipe (some c) h rfl) rfl
    · exact h

/-- Digits are plain. -/
theorem sendDigits (digits : CString) (c : Nat) : I n (RCConnection.sendDigits digits c app) := by
  unfold RCConnection.sendDigits
  split
  · exact hI.pipe (some c) h rfl
  · exact hI.tell h c _

/-- The connection of the delegate is Connected, or told so. -/
theorem iceConnected {m : Nat} (hconnected : SipManager.iceConnected m app = some app') :
    I n app' := by
  obtain ⟨media, -, ⟨-, rfl⟩ | ⟨-, rfl⟩⟩ := iceConnected_cases hconnected
  · refine toDelegate h fun c => ?_
    unfold RCConnection.didReceiveOutgoingEstablished
    split
    · exact h
    · split
      · exact hI.setConnection (hI.pipe (some c) h rfl) c _
      · exact hI.of_eq h rfl
  · exact toDelegate h fun c => hI.tell h c _

/-- A reply that announces nothing. -/
theorem handleSofiaInput {jsonObject : CString → Option NSDictionary} {active : Bool}
    {reply : SofiaReply} (hreply : announces reply = false)
    (hhandle : SipManager.handleSofiaInput jsonObject active reply app = some app') : I n app' := by
  have hmedia := hI.disconnectMedia h
  cases replyHandled hhandle with
  | aside _ haside =>
    cases haside with
    | nothing => exact h
    | replyAuth => exact hI.of_eq h rfl
    | @outgoingEstablished m media media' _ hm hanswer =>
      -- The answer of the peer is one step of the session.
      refine hI.session m h fun media₀ hm₀ => ?_
      obtain rfl : media = media₀ := Option.some.inj (hm.symm.trans hm₀)
      exact sessionStep_processSignalingMessage hanswer
    | incomingMsg hcode => simp [announces, hcode] at hreply
    | signallingInitialized =>
      unfold RCDevice.didInitializedSignalling
      split
      · exact hI.notify h rfl
      · exact h
  | incomingCall hcode => simp [announces, hcode] at hreply
  | outgoingRinging =>
    -- A pending cancel is written once the call rings.
    refine toDelegate h fun c => ?_
    unfold RCConnection.didReceiveOutgoingRinging
    split
    · exact h
    · split
      · exact hI.pipe (some c) h rfl
      · exact hI.of_eq h rfl
  -- The end of a call is told, with the media released or not.
  | incomingCancelled => exact toDelegate h fun c => hI.ended h _ c
  | outgoingCancelled | outgoingDeclined => exact toDelegate hmedia fun c => hI.ended hmedia _ c
  | bye => exact toDelegate hmedia (hI.didReceiveBye hmedia active)
  | callError => exact toDelegate hmedia (hI.didError hmedia _)
  | registerSuccess =>
    unfold RCDevice.didRegisterSuccessfully
    split
    · exact hI.notify (hI.of_eq h rfl) rfl
    · exact h
  | registerError => exact hI.notify (hI.of_eq h rfl) rfl

/-- Every input keeps it that is no text message and no reply that announces something, and the
level goes up when the input starts a call. -/
theorem appHandle {jsonObject : CString → Option NSDictionary} {input : AppInput}
    (hinput : isPlainInput input = true) (hhandle : appHandle jsonObject app input = some app') :
    I (n + (startsCall input).toNat) app' := by
  cases input with
  | sendMessage message recipient headers => cases hinput
  | reply reply active => exact hI.handleSofiaInput h (by simpa [isPlainInput] using hinput) hhandle
  | connect auth recipient video headers => exact hI.connect h hhandle
  | disconnectAll =>
    cases hhandle
    exact hI.disconnectAll h
  | listen status => exact hI.listen h hhandle
  | unlisten =>
    cases hhandle
    exact hI.unlisten h
  | updateParams params => exact hI.updateParams h hhandle
  | accept c auth video => exact hI.accept h (ofHeld_eq_some hhandle).2
  | reject c =>
    have hheld : ofHeld c (fun app => some (RCConnection.reject c app)) app = some app' := hhandle
    rw [ofHeld_some hheld]
    exact hI.reject h c
  | disconnect c =>
    have hheld : ofHeld c (fun app => some (RCConnection.disconnect c app)) app = some app' :=
      hhandle
    rw [ofHeld_some hheld]
    exact hI.disconnect h c
  | sendDigits c digits =>
    have hheld : ofHeld c (fun app => some (RCConnection.sendDigits digits c app)) app =
        some app' := hhandle
    rw [ofHeld_some hheld]
    exact hI.sendDigits h digits c
  | release c =>
    have hheld : ofHeld c (fun app => some
        (app.setConnection c fun connection => { connection with held := false })) app =
        some app' := hhandle
    rw [ofHeld_some hheld]
    exact hI.setConnection h c _
  | permissionAnswered auth k granted =>
    obtain ⟨request, hrequest, hchain⟩ := chainEnd_permissionAnswered hhandle
    -- The prompt is gone before the chain goes on.
    obtain ⟨left, hleft, hback⟩ := hI.answer k h hrequest
    exact hback _ (hI.chainEnd hleft hchain)
  | turnAnswered m success =>
    obtain ⟨media, hm, ⟨-, media', hstart, rfl⟩ | ⟨-, rfl⟩⟩ := turnAnswered_cases hhandle
    · refine hI.reportLocalVideo (hI.session m h fun media₀ hm₀ => ?_) media'
      obtain rfl : media = media₀ := Option.some.inj (hm.symm.trans hm₀)
      exact .turnAnswered (turnRequested_of_turnAnswered hhandle hm) hstart
    · refine hI.mediaDidError (hI.session m h fun media₀ hm₀ => ?_) _
      obtain rfl : media = media₀ := Option.some.inj (hm.symm.trans hm₀)
      exact .turnFailed
  | didCreateSessionDescription m sdp =>
    rcases didCreateSessionDescription_cases hhandle with ⟨-, rfl⟩ | ⟨text, -, rfl⟩
    · exact hI.mediaDidError (hI.session m h fun _ _ => .disconnect) _
    · exact hI.session m h fun media _ => .described media.iceCandidates _
  | didSetSessionDescriptionWithError m =>
    rw [didSetSessionDescriptionWithError_eq hhandle]
    exact hI.mediaDidError (hI.session m h fun _ _ => .disconnect) _
  | didGenerateIceCandidate m localDescription =>
    rw [didGenerateIceCandidate_eq hhandle]
    exact hI.session m h fun media _ => .described (media.iceCandidates + 1) _
  | iceGatheringComplete m =>
    obtain ⟨media, hm, hgathers, ⟨-, hgathering⟩ | ⟨-, rfl⟩⟩ := iceGatheringComplete_cases hhandle
    · exact hI.candidateGatheringComplete h hm (Bool.and_eq_true_iff.mp hgathers).1 hgathering
    · exact hI.mediaDidError h _
  | iceConnected m => exact hI.iceConnected h hhandle
  | iceFailed m =>
    rw [iceFailed_eq hhandle]
    exact hI.mediaDidError h _
  | didAddStream m =>
    rw [didAddStream_eq hhandle]
    exact toDelegate h fun c => hI.tell h c _
  | checkNetworkStatus newStatus =>
    cases hhandle
    exact hI.checkNetworkStatus h newStatus
  | loopStopped =>
    cases hhandle
    exact hI.of_eq h rfl

end Inputs

end OutputInvariant

end RestCommSdk.Proofs
