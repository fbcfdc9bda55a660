import RestCommSdk.Proofs.CallEffects
import RestCommSdk.RestCommClient.MainThread

/-!
# `RestCommSdk.Proofs.AppInvariants`: invariants of the App, method by method

A `CallInvariant` is a property of the App that looks at what a `CallView` has only, and that
the writes which every call makes keep: a connection is marked or hung up, a session reports its
video. There is one rule for each method that makes no other write. A method that pipes keeps
such a property when a command does (`Pipes`).
-/

set_option autoImplicit false

namespace RestCommSdk

open RestCommSdk.CliInterface (CString SofiaReply SipMsgEnum)
open RestCommSdk.SipManager (NSDictionary Params ActiveCallParams Command)

namespace Proofs

/-! ### Calls that are accepted -/

/-- What `answerWithVideo:` writes before it asks for the permissions. -/
def accepting (video : Bool) (app : App) : App :=
  { app with
    videoAllowed := video
    activeCallParams := { app.activeCallParams with initiator := some false } }

/-- Only a connection that rings is accepted. -/
theorem enterAccept_cases {auth : AVMediaType → AVAuthorizationStatus} {app : App}
    {video : Bool} {c : Nat} {entered : App × List Rest}
    (h : RCConnection.enterAccept auth video c app = some entered) :
    ∃ connection, app.connection? c = some connection ∧
      (connection.ringing = true ∧ (∃ app₂,
          ChainEnd c (requestDenies auth video) (requestGrants auth video)
            (accepting video app) app₂ ∧ entered = (app₂, [.accept c])) ∨
        connection.ringing = false ∧ entered = (app, [])) := by
  obtain ⟨connection, hc, h⟩ := Option.bind_eq_some_iff.mp h
  refine ⟨connection, hc, ?_⟩
  split at h
  · obtain ⟨app₂, hchain, h⟩ := Option.bind_eq_some_iff.mp h
    have hchain : SipManager.permissionFsmRequest auth c (accepting video app) = some app₂ := hchain
    exact .inl ⟨‹_›, app₂, chainEnd_permissionFsmRequest hchain, (Option.some.inj h).symm⟩
  · exact .inr ⟨Bool.eq_false_iff.mpr ‹_›, (Option.some.inj h).symm⟩

/-! ### Invariants -/

/-- What an invariant of the calls may look at. -/
structure CallView where
  connections : List RCConnection
  delegate : Option Nat
  told : List (Nat × ConnectionEvent)
  piped : List Piped
  credentials : List CString
  activeCallParams : ActiveCallParams
  dialled : Option Nat
  medias : Nat

/-- What the App shows of its calls. -/
def callView (app : App) : CallView where
  connections := app.connections
  delegate := app.delegate
  told := app.told
  piped := app.piped
  credentials := app.credentials
  activeCallParams := app.activeCallParams
  dialled := app.dialled
  medias := app.medias.length

/-- A write to a session leaves the calls. -/
@[simp]
theorem callView_setMedia (app : App) (m : Nat) (f : MediaWebRTC → MediaWebRTC) :
    callView (app.setMedia m f) = callView app := by
  simp [callView, App.setMedia]

/-- Without its session a call is the same. -/
@[simp]
theorem callView_disconnectMedia (app : App) :
    callView (SipManager.disconnectMedia app) = callView app := by
  unfold SipManager.disconnectMedia
  split
  · exact callView_setMedia app _ _
  · rfl

/-- A write to a connection that leaves its direction and does not revive it. -/
def Marks (f : RCConnection → RCConnection) : Prop :=
  ∀ connection, (f connection).incoming = connection.incoming ∧
    ((f connection).state = connection.state ∨ (f connection).state = .disconnected)

/-- A property of the calls that the plain writes of a call keep. -/
structure CallInvariant (I : App → Prop) : Prop where
  of_view : ∀ {app app' : App}, I app → callView app' = callView app → I app'
  mark : ∀ {app : App} (c : Nat) {f : RCConnection → RCConnection}, Marks f → I app →
    I (app.setConnection c f)
  hangUp : ∀ {app : App} {c : Nat} {connection : RCConnection},
    app.connection? c = some connection → I app → I (RCConnection.hangUp c connection app)
  video : ∀ {app : App} {c : Nat} {event : ConnectionEvent},
    event = .didReceiveLocalVideo ∨ event = .didReceiveRemoteVideo → I app →
      I (app.tell c event)

namespace CallInvariant

variable {I J : App → Prop} {app app' : App}

/-- A method of the delegate, if there is a delegate. -/
theorem toDelegate {method : Nat → App → App} (h : I app)
    (hmethod : ∀ c, app.connectionDelegate = some c → J (method c app)) (hIJ : I app → J app) :
    J (app.toDelegate method) := by
  unfold App.toDelegate
  cases hd : app.connectionDelegate with
  | none => exact hIJ h
  | some c => exact hmethod c hd

/-- The session is taken away. -/
theorem disconnectMedia (hI : CallInvariant I) (h : I app) :
    I (SipManager.disconnectMedia app) :=
  hI.of_view h (callView_disconnectMedia app)

/-- The connection is hung up and Disconnected, and the device Ready. -/
theorem disconnect (hI : CallInvariant I) (c : Nat) (h : I app) :
    I (RCConnection.disconnect c app) := by
  unfold RCConnection.disconnect
  split
  · exact h
  · rename_i connection hc
    have hover : Marks fun connection => { connection with state := .disconnected } :=
      fun _ => ⟨rfl, .inr rfl⟩
    have hmarked := hI.mark c hover (hI.disconnectMedia (hI.hangUp hc h))
    exact hI.of_view hmarked rfl

/-- The current call is hung up, or nothing happens. -/
theorem disconnectAll (hI : CallInvariant I) (h : I app) : I (RCDevice.disconnectAll app) := by
  unfold RCDevice.disconnectAll
  split
  · split
    · rename_i c _
      exact hI.of_view (hI.disconnect c h) rfl
    · exact hI.of_view h rfl
  · exact h

/-- The application keeps a connection, or lets it go. -/
theorem release (hI : CallInvariant I) (c : Nat) (held : Bool) (h : I app) :
    I (app.setConnection c fun connection => { connection with held := held }) :=
  hI.mark c (fun _ => ⟨rfl, .inl rfl⟩) h

/-- Local tracks are told. -/
theorem reportLocalVideo (hI : CallInvariant I) (media : MediaWebRTC) (h : I app) :
    I (SipManager.reportLocalVideo media app) := by
  unfold SipManager.reportLocalVideo
  -- Each of the tracks is told to the delegate.
  induction media.localVideoTracks generalizing app with
  | zero => exact h
  | succ tracks ih =>
    rw [List.replicate_succ, List.foldl_cons]
    exact ih (toDelegate h (fun c _ => hI.video (.inl rfl) h) id)

/-- The chain of a call refuses it, makes a session or adds a prompt. -/
theorem chainEnd (hI : CallInvariant I) {owner : Nat} {denies grants : Bool}
    (hdenied : ∀ mediaType, I (SipManager.permissionDenied mediaType app))
    (hmade : ∀ media : MediaWebRTC,
      I { app with media := some app.medias.length, medias := app.medias ++ [media] })
    (h : I app) (hchain : ChainEnd owner denies grants app app') : I app' := by
  cases hchain with
  | denied mediaType _ _ heq =>
    subst heq
    exact hdenied mediaType
  | granted _ _ hcall =>
    rcases handleCall_cases hcall with ⟨-, rfl⟩ | ⟨-, media, -, rfl⟩
    · exact h
    · exact hI.reportLocalVideo media (hmade media)
  | asked mediaType _ _ heq =>
    subst heq
    exact hI.of_view h rfl

/-- The error is told last. -/
theorem didError (hI : CallInvariant I) (error : CallError) (c : Nat)
    (htell : ∀ {app}, I app → J (app.tell c (.didFailWithError error))) (h : I app) :
    J (RCConnection.didError error c app) := htell (hI.disconnect c h)

end CallInvariant

/-! ### Methods that pipe -/

/-- A property that does not look at what is piped. -/
structure Pipes (I : App → Prop) : Prop where
  pipe : ∀ {app : App} {source : Option Nat} {command : Command}, I app →
    I (app.pipe source command)
  credential : ∀ {app : App} {password : CString}, I app →
    I { app with credentials := app.credentials ++ [password] }

/-- Commands are piped. -/
theorem Pipes.pipeAll {I : App → Prop} (hp : Pipes I) {source : Option Nat}
    (commands : List Command) {app : App} (h : I app) :
    I (commands.foldl (fun app command => app.pipe source command) app) := by
  induction commands generalizing app with
  | nil => exact h
  | cons command commands ih => exact ih (hp.pipe h)

/-- A message is piped, or refused. -/
theorem Pipes.sendMessage {I : App → Prop} (hp : Pipes I) (message recipient : CString)
    (headers : Option NSDictionary) {app : App} (h : I app) :
    I (RCDevice.sendMessage message recipient headers app) := by
  unfold RCDevice.sendMessage
  split
  · exact h
  · exact hp.pipeAll _ h

namespace CallInvariant

variable {I : App → Prop} {app app' : App}

section Piping
variable (hI : CallInvariant I) (hp : Pipes I)
include hI hp

/-- `unlisten` up to the call of the delegate. -/
theorem enterUnlisten (h : I app) : I (RCDevice.enterUnlisten app).1 := by
  unfold RCDevice.enterUnlisten
  split
  · exact hI.of_view (hI.disconnectAll h) rfl
  · exact hp.pipe h

/-- A change of the network up to the call of the delegate. -/
theorem enterCheckNetworkStatus (newStatus : NetworkStatus) (h : I app) :
    I (RCDevice.enterCheckNetworkStatus newStatus app).1 := by
  unfold RCDevice.enterCheckNetworkStatus
  split
  · exact hI.enterUnlisten hp (hI.of_view h rfl)
  · rename_i hgone
    unfold RCDevice.checkNetworkStatus
    rw [if_neg hgone]
    split
    · have hpiped : I (app.pipe none (.shutdown true)) := hp.pipe h
      exact hI.of_view hpiped rfl
    · exact hI.of_view h rfl

/-- A call that rings is rejected. -/
theorem reject (c : Nat) (h : I app) : I (RCConnection.reject c app) := by
  unfold RCConnection.reject
  split
  · exact h
  · split
    · exact hI.of_view (hp.pipe h) rfl
    · exact h

/-- An update pipes commands and stores the parameters. -/
theorem sipManagerUpdateParams {params : Option Params} {online network : Bool}
    {state : SipManager.UpdateParamsState} (h : I app)
    (hupdate : RCDevice.sipManagerUpdateParams params online network app = some (app', state)) :
    I app' := by
  obtain ⟨⟨commands, state', stored⟩, -, hupdate⟩ := Option.bind_eq_some_iff.mp hupdate
  cases hupdate
  exact hI.of_view (hp.pipeAll commands h) rfl

/-- The device is told what has become of the update. -/
theorem updateParams {params : Option Params} (h : I app)
    (hupdate : RCDevice.updateParams params app = some app') : I app' := by
  unfold RCDevice.updateParams at hupdate
  split at hupdate
  · obtain ⟨⟨app₁, state⟩, hupdate₁, hupdate⟩ := Option.bind_eq_some_iff.mp hupdate
    have h₁ := hI.sipManagerUpdateParams hp h hupdate₁
    cases state with
    | unassigned =>
      cases hupdate
      exact h₁
    | sentRegister | reestablishedRegistrarless =>
      cases hupdate
      exact hI.of_view h₁ rfl
  · cases hupdate
    exact hI.of_view h rfl

/-- Starting the thread counts an instance, or pipes `mr`. -/
theorem eventLoop (h : I app) : I (SipManager.eventLoop app) := by
  unfold SipManager.eventLoop
  split
  · exact hp.pipe h
  · dsimp only
    split
    · exact hI.of_view h rfl
    · exact hI.of_view h rfl

/-- The thread is started, or the registration refreshed. -/
theorem listen {status : NetworkStatus} (h : I app)
    (hlisten : RCDevice.listen status app = some app') : I app' := by
  unfold RCDevice.listen at hlisten
  split at hlisten
  · split at hlisten
    · have h₁ := hI.eventLoop hp h
      simp only at hlisten
      split_ifs at hlisten <;> cases hlisten <;> exact hI.of_view h₁ rfl
    · cases hlisten
      exact hI.of_view h rfl
  · split at hlisten
    · cases hlisten
      exact hI.of_view h rfl
    · obtain ⟨⟨app₂, state⟩, hupdate, hlisten⟩ := Option.map_eq_some_iff.mp hlisten
      cases hlisten
      exact hI.sipManagerUpdateParams hp h hupdate
  · cases hlisten
    exact h

/-- The description is piped for the call that the session was made for. -/
theorem candidateGatheringComplete {m : Nat} {media : MediaWebRTC} (h : I app)
    (hcomplete : SipManager.candidateGatheringComplete m media app = some app') : I app' := by
  rcases candidateGatheringComplete_cases hcomplete with ⟨-, rfl⟩ | ⟨-, hsdp⟩
  · exact h
  · obtain ⟨commands, -, hsdp⟩ := Option.bind_eq_some_iff.mp hsdp
    cases hsdp
    have hmedia := hI.of_view h (callView_setMedia app m fun media =>
      { media with candidatesGathered := true })
    exact hI.mark _ (fun _ => ⟨rfl, .inl rfl⟩) (hp.pipeAll commands hmedia)

end Piping

end CallInvariant

/-! ### Replies of Sofia -/

/-- What the delegate is told of a reply that ends its call. -/
def endEvent : SipMsgEnum → Option ConnectionEvent
  | .incomingCancelled => some .didCancel
  | .outgoingCancelled | .outgoingByeResponse | .incomingBye => some .didDisconnect
  | .outgoingDeclined => some .didGetDeclined
  | _ => none

/-- The errors of an INVITE that the delegate is told of. -/
def inviteFailed : SipMsgEnum → Bool
  | .errorSipInviteGeneric | .errorSipInviteAuthentication | .errorSipInviteTimeout
  | .errorSipInviteNotFound | .errorSipInviteSipUriInvalid => true
  | _ => false

/-- The rests that make plain writes only. -/
def PlainRest : Rest → Prop
  | .ended | .bye _ | .unlisten => True
  | _ => False

/-- The reply says something of a call to the delegate. -/
def ofCall (e : SipMsgEnum) : Bool :=
  e = .incomingCall || e = .outgoingRinging || (endEvent e).isSome || inviteFailed e

section Replies
variable {jsonObject : CString → Option NSDictionary} {active : Bool} {reply : SofiaReply}
  {app app' : App} {rests : List Rest}

/-- What has come of a reply. -/
inductive ReplyEnd (jsonObject : CString → Option NSDictionary) (active : Bool)
    (reply : SofiaReply) (app : App) : App × List Rest → Prop where
  | incomingCall {app' : App} (hcode : SipMsgEnum.ofCode reply.rc = some .incomingCall)
    (hcall : RCDevice.didReceiveCall
        (usernameFromUri (SipManager.objectForKey (jsonObject reply.text) "sip-uri"))
        { app with activeCallParams := {}, dialled := none } = some app') :
    ReplyEnd jsonObject active reply app (app', [.incomingCall app.connections.length
      (SipManager.objectForKey (jsonObject reply.text) "sdp")])
  | ringing (hcode : SipMsgEnum.ofCode reply.rc = some .outgoingRinging) :
    ReplyEnd jsonObject active reply app
      (app.toDelegate RCConnection.didReceiveOutgoingRinging, [])
  | ended {e : SipMsgEnum} {event : ConnectionEvent} {app₁ : App} {rest : Rest}
    (hrest : PlainRest rest) (hcode : SipMsgEnum.ofCode reply.rc = some e)
    (hevent : endEvent e = some event)
    (hmedia : app₁ = app ∨ app₁ = SipManager.disconnectMedia app) :
    ReplyEnd jsonObject active reply app
      (app₁.enterDelegate (RCConnection.enterEnded event) rest)
  | failed {e : SipMsgEnum} (hcode : SipMsgEnum.ofCode reply.rc = some e)
    (hfailed : inviteFailed e = true) :
    ReplyEnd jsonObject active reply app
      ((SipManager.disconnectMedia app).toDelegate (RCConnection.didError (.signalling reply)), [])
  | other {app' : App} (hcode : ∀ e, SipMsgEnum.ofCode reply.rc = some e → ofCall e = false)
    (hreply : SipManager.handleSofiaInput jsonObject active reply app = some app') :
    ReplyEnd jsonObject active reply app (app', [])

/-- Every reply ends in one of a few ways. -/
theorem replyEnd_enterSofiaInput {entered : App × List Rest}
    (h : SipManager.enterSofiaInput jsonObject active reply app = some entered) :
    ReplyEnd jsonObject active reply app entered := by
  unfold SipManager.enterSofiaInput at h
  split at h
  · rename_i hcode
    obtain ⟨text, htext, h⟩ := Option.bind_eq_some_iff.mp h
    obtain ⟨app', hcall, h⟩ := Option.bind_eq_some_iff.mp h
    cases h
    -- The text is decoded before the delegate is asked.
    obtain ⟨-, rfl⟩ := CliInterface.stringWithUTF8String_eq_some_iff.mp htext
    exact .incomingCall hcode hcall
  · rename_i hcode
    -- The four ends of a call, with the media released or not.
    cases h
    exact .ended trivial hcode rfl (.inl rfl)
  · rename_i hcode
    cases h
    exact .ended trivial hcode rfl (.inr rfl)
  · rename_i hcode
    cases h
    exact .ended trivial hcode rfl (.inr rfl)
  · rename_i hcode
    cases h
    exact .ended trivial hcode rfl (.inr rfl)
  · rename_i hcode
    cases h
    exact .ended trivial hcode rfl (.inr rfl)
  · -- The other replies run to their end in one step.
    obtain ⟨app', hreply, h⟩ := Option.map_eq_some_iff.mp h
    cases h
    cases hcode : SipMsgEnum.ofCode reply.rc with
    | none => exact .other (by simp [hcode]) hreply
    | some e =>
      cases hcall : ofCall e with
      | false => exact .other (by simp [hcode, hcall]) hreply
      | true =>
        simp only [SipManager.handleSofiaInput, hcode] at hreply
        cases e with
        | outgoingRinging =>
          cases hreply
          exact .ringing hcode
        | errorSipInviteGeneric | errorSipInviteAuthentication | errorSipInviteTimeout
        | errorSipInviteNotFound | errorSipInviteSipUriInvalid =>
          obtain ⟨text, -, hreply⟩ := Option.bind_eq_some_iff.mp hreply
          cases hreply
          -- The media is released before the error is told.
          exact .failed hcode rfl
        | _ => simp_all [ofCall, endEvent, inviteFailed]

/-- The other replies are for the device or the session. -/
theorem CallInvariant.otherReply {I : App → Prop} (hI : CallInvariant I) (hp : Pipes I)
    (hcode : ∀ e, SipMsgEnum.ofCode reply.rc = some e → ofCall e = false) (h : I app)
    (hreply : SipManager.handleSofiaInput jsonObject active reply app = some app') : I app' := by
  cases replyHandled hreply with
  | aside _ haside =>
    cases haside with
    | nothing => exact h
    | replyAuth => exact hp.credential h
    | outgoingEstablished => exact hI.of_view h (callView_setMedia _ _ _)
    | incomingMsg => exact hI.of_view h rfl
    | signallingInitialized =>
      unfold RCDevice.didInitializedSignalling
      split
      · exact hI.of_view h rfl
      · exact h
  | registerSuccess =>
    unfold RCDevice.didRegisterSuccessfully
    split
    · exact hI.of_view h rfl
    · exact h
  | registerError => exact hI.of_view h rfl
  -- The rest are the replies of a call, which `hcode` excludes.
  | incomingCall he | outgoingRinging he | incomingCancelled he | outgoingCancelled he
  | outgoingDeclined he => cases hcode _ he
  | bye he hbye => rcases hbye with rfl | rfl <;> cases hcode _ he
  | @callError e he hfails =>
    have hcall := hcode e he
    cases e <;> first | exact hfails.elim | cases hcall

end Replies

/-! ### Inputs and rests -/

/-- The inputs whose methods make no other writes. -/
def PlainInput : AppInput → Prop
  | .disconnectAll | .listen _ | .unlisten | .updateParams _ | .sendMessage .. | .reject _
  | .disconnect _ | .release _ | .didGenerateIceCandidate .. | .didAddStream _
  | .checkNetworkStatus _ | .loopStopped => True
  | _ => False

section Inputs
variable {jsonObject : CString → Option NSDictionary} {I : App → Prop} {app app' : App}
  {entered : App × List Rest}

/-- A method of a connection. -/
theorem ofHeld_some {c : Nat} {method : App → App}
    (h : ofHeld c (fun app => some (method app)) app = some app') : app' = method app :=
  (Option.some.inj (ofHeld_eq_some h).2).symm

/-- An input that is none of the calls of the conditions. -/
theorem CallInvariant.enter (hI : CallInvariant I) (hp : Pipes I) {input : AppInput} (h : I app)
    (henter : enter jsonObject app input = some entered) (hplain : PlainInput input) :
    I entered.1 := by
  cases input with
  | unlisten =>
    cases henter
    exact hI.enterUnlisten hp h
  | checkNetworkStatus newStatus =>
    cases henter
    exact hI.enterCheckNetworkStatus hp newStatus h
  | disconnectAll =>
    cases henter
    exact hI.disconnectAll h
  | listen status =>
    obtain ⟨app', happ, rfl⟩ := Option.map_eq_some_iff.mp henter
    exact hI.listen hp h happ
  | updateParams params =>
    obtain ⟨app', happ, rfl⟩ := Option.map_eq_some_iff.mp henter
    exact hI.updateParams hp h happ
  | sendMessage message recipient headers =>
    cases henter
    exact hp.sendMessage message recipient headers h
  | reject c =>
    -- The application must hold the connection it names.
    obtain ⟨app', happ, rfl⟩ := Option.map_eq_some_iff.mp henter
    rw [ofHeld_some happ]
    exact hI.reject hp c h
  | disconnect c =>
    obtain ⟨app', happ, rfl⟩ := Option.map_eq_some_iff.mp henter
    rw [ofHeld_some happ]
    exact hI.disconnect c h
  | release c =>
    obtain ⟨app', happ, rfl⟩ := Option.map_eq_some_iff.mp henter
    obtain ⟨connection, -, happ⟩ := Option.bind_eq_some_iff.mp happ
    split at happ
    · cases happ
      exact hI.release c false h
    · cases happ
  -- The sessions are written, which the view of a call does not show.
  | didGenerateIceCandidate m localDescription =>
    obtain ⟨app', happ, rfl⟩ := Option.map_eq_some_iff.mp henter
    rw [didGenerateIceCandidate_eq happ]
    exact hI.of_view h (callView_setMedia _ _ _)
  | didAddStream m =>
    obtain ⟨app', happ, rfl⟩ := Option.map_eq_some_iff.mp henter
    rw [didAddStream_eq happ]
    show I (app.toDelegate fun c app => app.tell c .didReceiveRemoteVideo)
    -- The video is told to the delegate.
    exact CallInvariant.toDelegate h (fun c _ => hI.video (.inr rfl) h) id
  | loopStopped =>
    cases henter
    exact hI.of_view h rfl
  | _ => exact hplain.elim

/-- What is left of a method goes on. -/
theorem CallInvariant.resume (hI : CallInvariant I) (hp : Pipes I) {rest : Rest} (h : I app)
    (hresume : rest.resume app = some entered) (hplain : PlainRest rest) : I entered.1 := by
  cases rest with
  | ended =>
    cases hresume
    exact hI.of_view h rfl
  | bye active =>
    -- The device is ready again, unless it is offline.
    have hready : I (RCConnection.handleDisconnected
        (if app.state ≠ .offline then { app with state := .ready } else app)) := by
      split <;> exact hI.of_view h rfl
    cases active with
    | true =>
      cases hresume
      exact hready
    -- In the background it unlistens after the call.
    | false =>
      cases hresume
      exact hI.enterUnlisten hp hready
  | unlisten =>
    cases hresume
    -- Only the shutdown line is left to be written.
    exact hp.pipe h
  | accept _ | incomingCall _ _ => exact hplain.elim

end Inputs

end Proofs

end RestCommSdk
