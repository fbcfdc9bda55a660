import RestCommSdk.Lib.Json
import RestCommSdk.Proofs.DeviceStates

/-!
# `RestCommSdk.Proofs.StrayMedia`: media sessions that outlive their calls

`SipManager.media` is made at the end of the chain of permissions and should be given up when
the call ends. `Calm` says of a method that it leaves no session behind: it gives the session
up, or keeps it together with the calls there are. Three kinds of steps are not calm: a remote
CANCEL, which is the one end of a call without `disconnectMedia`, the grant of a permission,
which makes a session whether there is a call or not, and the release of a connection.
`mediaReleased_iff`: a run leaves no session without a call exactly when these steps do not.
-/

set_option autoImplicit false

namespace RestCommSdk.Proofs

open RestCommSdk.Lib
open RestCommSdk.CliInterface (CString SofiaReply SipMsgEnum)
open RestCommSdk.SipManager (NSDictionary)

/-- Some `RCConnection` is not Disconnected. -/
def InCall (app : App) : Prop := ∃ c, app.Retained c ∧ app.Live c

/-- There is a session only while there is a call. -/
def MediaInCall (app : App) : Prop := app.media ≠ none → InCall app

/-- The property of a state: when every `RCConnection` is Disconnected there is no session,
the next `connect:` is not refused, and the next accepted call really starts a session. -/
structure MediaReleased (jsonObject : CString → Option NSDictionary) (app : App) : Prop where
  released : ¬ InCall app → app.media = none
  connects : ¬ InCall app → app.state = .ready → ∀ auth recipient video headers app',
    (RCDevice.connect auth recipient video headers app).map (·.1) = some app' →
    ∃ connection ∈ app'.connection? app.connections.length, connection.held
  accepts : ¬ InCall app → ∀ reply active app₁ auth (video : Bool) app₂,
    SipMsgEnum.ofCode reply.rc = some .incomingCall →
    SipManager.handleSofiaInput jsonObject active reply app = some app₁ →
    auth .audio = .authorized → (video → auth .video = .authorized) →
    RCConnection.accept auth video app.connections.length app₁ = some app₂ →
    ∃ m ∈ app₂.media, ∃ media ∈ app₂.media? m, media.owner = app.connections.length

/-! ### The condition -/

/-- The condition on a step, of its input and the state before it. -/
def LeavesNoMedia (app : App) : AppInput → Prop
  | .reply reply _ =>
    -- The other connections are not current any more, so only the application keeps them.
    SipMsgEnum.ofCode reply.rc = some .incomingCancelled → app.media ≠ none →
      ∀ d ∈ app.connectionDelegate, ∃ c ≠ d, app.Live c ∧
        ∃ connection ∈ app.connection? c, connection.held
  | .permissionAnswered auth n granted =>
    ∀ request ∈ app.permissionRequests[n]?,
      responseGrants auth request.mediaType app.videoAllowed granted → InCall app
  | .release c =>
    app.media ≠ none → ∃ x, app.Live x ∧
      (app.currentConnection = some x ∨ x ≠ c ∧ ∃ connection ∈ app.connection? x, connection.held)
  | _ => True

/-! ### Calm methods -/

/-- A method that leaves no session behind. -/
def Calm (app app' : App) : Prop :=
  app'.media ≠ none → app.media ≠ none ∧ (InCall app → InCall app')

/-- What a calm method keeps. -/
theorem MediaInCall.calm {app app' : App} (h : MediaInCall app) (hcalm : Calm app app') :
    MediaInCall app' := by
  intro hmedia
  obtain ⟨hbefore, hcall⟩ := hcalm hmedia
  exact hcall (h hbefore)

/-- A write to a connection that neither ends nor frees it. -/
theorem InCall.setConnection {app : App} (h : InCall app) (d : Nat)
    {f : RCConnection → RCConnection} (hheld : ∀ connection, connection.held → (f connection).held)
    (hstate : ∀ connection, connection.state ≠ .disconnected →
      (f connection).state ≠ .disconnected) : InCall (app.setConnection d f) := by
  obtain ⟨c, hretained, connection, hc, hlive⟩ := h
  refine ⟨c, ?_, ?_⟩
  · rcases hretained with hcurrent | ⟨connection', hc', hheld'⟩
    · exact .inl hcurrent
    · right
      rw [App.connection?_setConnection, show app.connection? c = some connection' from hc']
      split
      · exact ⟨f connection', rfl, hheld connection' hheld'⟩
      · exact ⟨connection', rfl, hheld'⟩
  · unfold App.Live
    rw [App.connection?_setConnection, show app.connection? c = some connection from hc]
    split
    · exact ⟨f connection, rfl, hstate connection hlive⟩
    · exact ⟨connection, rfl, hlive⟩

/-- Whether there is a call is a matter of the connections alone. -/
theorem inCall_congr {app app' : App} (hconnections : app'.connections = app.connections)
    (hcurrent : app'.currentConnection = app.currentConnection) : InCall app' ↔ InCall app := by
  simp only [InCall, App.Retained, App.Live, App.connection?, hconnections, hcurrent]

namespace Calm

variable {app app₁ app₂ : App}

/-- Doing nothing is calm. -/
theorem refl (app : App) : Calm app app := fun hmedia => ⟨hmedia, id⟩

/-- One calm method after another. -/
theorem trans (h₁ : Calm app app₁) (h₂ : Calm app₁ app₂) : Calm app app₂ := by
  intro hmedia
  obtain ⟨hmedia₁, hcall₂⟩ := h₂ hmedia
  obtain ⟨hmedia, hcall₁⟩ := h₁ hmedia₁
  exact ⟨hmedia, fun hcall => hcall₂ (hcall₁ hcall)⟩

/-- A method that takes the session away is calm. -/
theorem of_none {app' : App} (h : app'.media = none) : Calm app app' :=
  fun hmedia => absurd h hmedia

/-- A method that writes neither the session nor a connection. -/
theorem of_eq {app' : App} (hmedia : app'.media = app.media)
    (hconnections : app'.connections = app.connections)
    (hcurrent : app'.currentConnection = app.currentConnection) : Calm app app' := by
  intro h
  rw [hmedia] at h
  exact ⟨h, (inCall_congr hconnections hcurrent).mpr⟩

/-- A method that touches neither the calls nor the session is calm. -/
theorem of_untouched {app' : App} (h : Untouched app app') : Calm app app' :=
  of_eq h.media h.connections h.current

/-- A write to a connection that neither ends nor frees it. -/
theorem setConnection (app : App) (d : Nat) {f : RCConnection → RCConnection}
    (hheld : ∀ connection, connection.held → (f connection).held)
    (hstate : ∀ connection, connection.state ≠ .disconnected →
      (f connection).state ≠ .disconnected) : Calm app (app.setConnection d f) :=
  fun hmedia => ⟨hmedia, fun hcall => hcall.setConnection d hheld hstate⟩

/-- A connection gets another state than Disconnected. -/
theorem setState (app : App) (d : Nat) {state : RCConnectionState} (h : state ≠ .disconnected) :
    Calm app (RCConnection.setState state d app) :=
  setConnection app d (fun _ => id) fun _ _ => h

/-- A command is piped. -/
theorem pipe (app : App) (source : Option Nat) (command : SipManager.Command) :
    Calm app (app.pipe source command) := of_eq rfl rfl rfl

/-- The application is told something of a call. -/
theorem tell (app : App) (c : Nat) (event : ConnectionEvent) : Calm app (app.tell c event) :=
  of_eq rfl rfl rfl

/-- The application is told something of the device. -/
theorem notify (app : App) (event : DeviceEvent) : Calm app (app.notify event) :=
  of_eq rfl rfl rfl

/-- A write to a session leaves it the session in use. -/
theorem setMedia (app : App) (m : Nat) (f : MediaWebRTC → MediaWebRTC) :
    Calm app (app.setMedia m f) := of_eq rfl rfl rfl

/-- A calm method of the delegate, if there is a delegate. -/
theorem toDelegate {method : Nat → App → App} (app : App)
    (h : ∀ c app, Calm app (method c app)) : Calm app (app.toDelegate method) := by
  unfold App.toDelegate
  split
  · exact h _ app
  · exact refl app

/-- A calm method for every element of a list. -/
theorem foldl {α : Type} {f : App → α → App} (h : ∀ app a, Calm app (f app a))
    (as : List α) (app : App) : Calm app (as.foldl f app) := by
  induction as generalizing app with
  | nil => exact refl app
  | cons a as ih => exact (h app a).trans (ih (f app a))

/-- Hanging up takes the session away. -/
theorem disconnect (c : Nat) (app : App) : Calm app (RCConnection.disconnect c app) := by
  unfold RCConnection.disconnect
  split
  · exact refl app
  · exact of_none (media_disconnectMedia _)

/-- An error takes the session away. -/
theorem didError (error : CallError) (c : Nat) (app : App) :
    Calm app (RCConnection.didError error c app) :=
  (disconnect c app).trans (tell _ _ _)

/-- The current call is hung up, or nothing happens. -/
theorem disconnectAll (app : App) : Calm app (RCDevice.disconnectAll app) := by
  unfold RCDevice.disconnectAll
  split
  · cases app.currentConnection with
    | none => exact of_eq rfl rfl rfl
    | some c => exact (disconnect c app).trans (of_eq rfl rfl rfl)
  · exact refl app

/-- `unlisten` hangs up first. -/
theorem unlisten (app : App) : Calm app (RCDevice.unlisten app) := by
  unfold RCDevice.unlisten
  refine trans ?_ (pipe _ none _)
  split
  · exact (disconnectAll app).trans (of_eq rfl rfl rfl)
  · exact refl app

/-- Losing the network hangs up; a change of networks asks for a restart. -/
theorem checkNetworkStatus (newStatus : NetworkStatus) (app : App) :
    Calm app (RCDevice.checkNetworkStatus newStatus app) := by
  unfold RCDevice.checkNetworkStatus
  split
  · refine trans ?_ (unlisten _)
    exact of_eq rfl rfl rfl
  · split
    · exact of_eq rfl rfl rfl
    · exact of_eq rfl rfl rfl

/-- The state becomes Connecting, so that a call comes to life at most. -/
theorem didReceiveOutgoingRinging (c : Nat) (app : App) :
    Calm app (RCConnection.didReceiveOutgoingRinging c app) := by
  unfold RCConnection.didReceiveOutgoingRinging
  split
  · exact refl app
  · split
    · exact pipe app _ _
    · exact (setState app c (by decide)).trans (tell _ _ _)

/-- The state becomes Connected, so that a call comes to life at most. -/
theorem didReceiveOutgoingEstablished (c : Nat) (app : App) :
    Calm app (RCConnection.didReceiveOutgoingEstablished c app) := by
  unfold RCConnection.didReceiveOutgoingEstablished
  split
  · exact refl app
  · split
    · exact (pipe app _ _).trans (setConnection _ c (fun _ => id) fun _ => id)
    · exact (setState app c (by decide)).trans (tell _ _ _)

/-- The other side ended the call, and the session is given up already. -/
theorem didReceiveBye {active : Bool} {c : Nat} (h : app.media = none) :
    Calm app (RCConnection.didReceiveBye active c app) := by
  unfold RCConnection.didReceiveBye
  dsimp only
  split
  · refine of_none ?_
    split
    · exact h
    · exact h
  · refine trans (of_none ?_) (unlisten _)
    split
    · exact h
    · exact h

/-- A message to the delegate, for a method that is calm once the session is given up. -/
theorem disconnectMedia_toDelegate {method : Nat → App → App} (app : App)
    (h : ∀ c app, app.media = none → Calm app (method c app)) :
    Calm app ((SipManager.disconnectMedia app).toDelegate method) := by
  have hnone := media_disconnectMedia app
  refine trans (of_none hnone) ?_
  unfold App.toDelegate
  split
  · exact h _ _ hnone
  · exact refl _

/-- Local tracks are told. -/
theorem reportLocalVideo (media : MediaWebRTC) (app : App) :
    Calm app (SipManager.reportLocalVideo media app) :=
  foldl (fun app _ => toDelegate app fun _ _ => tell _ _ _) _ _

end Calm

/-! ### The chain of permissions -/

section Chain
variable {auth : AVMediaType → AVAuthorizationStatus} {owner : Nat} {app app' : App}

/-- What a chain does: after the last answer there is a session, and the calls are the same.
Before that it is calm. -/
def ChainCalm (grants : Bool) (app app' : App) : Prop :=
  if grants then app'.media ≠ none ∧ (InCall app' ↔ InCall app) else Calm app app'

/-- A chain that finds a call leaves no session without one. -/
theorem ChainCalm.mediaInCall {grants : Bool} (h : ChainCalm grants app app')
    (hcall : InCall app) : MediaInCall app' := by
  unfold ChainCalm at h
  split at h
  · exact fun _ => h.2.mpr hcall
  · exact fun hmedia => (h hmedia).2 hcall

/-- Telling local tracks changes no call and no session. -/
theorem connections_reportLocalVideo (media : MediaWebRTC) (app : App) :
    (SipManager.reportLocalVideo media app).connections = app.connections ∧
      (SipManager.reportLocalVideo media app).currentConnection = app.currentConnection ∧
      (SipManager.reportLocalVideo media app).media = app.media ∧
      (SipManager.reportLocalVideo media app).medias = app.medias := by
  unfold SipManager.reportLocalVideo
  -- Each local video track is one event for the delegate.
  generalize List.replicate media.localVideoTracks ConnectionEvent.didReceiveLocalVideo = events
  induction events generalizing app with
  | nil => exact ⟨rfl, rfl, rfl, rfl⟩
  | cons event events ih =>
    obtain ⟨hconnections, hcurrent, hmedia, hmedias⟩ :=
      ih (app.toDelegate fun c app => app.tell c event)
    have htold : (app.toDelegate fun c app => app.tell c event).connections = app.connections ∧
        (app.toDelegate fun c app => app.tell c event).currentConnection
          = app.currentConnection ∧
        (app.toDelegate fun c app => app.tell c event).media = app.media ∧
        (app.toDelegate fun c app => app.tell c event).medias = app.medias := by
      unfold App.toDelegate
      split <;> exact ⟨rfl, rfl, rfl, rfl⟩
    exact ⟨hconnections.trans htold.1, hcurrent.trans htold.2.1, hmedia.trans htold.2.2.1,
      hmedias.trans htold.2.2.2⟩

/-- The end of a chain that was granted makes a session, if there is none. -/
theorem chainCalm_handleCall (h : SipManager.handleCall owner app = some app') :
    ChainCalm true app app' := by
  rcases handleCall_cases h with ⟨hmedia, rfl⟩ | ⟨-, media, -, rfl⟩
  · exact ⟨hmedia, Iff.rfl⟩
  · obtain ⟨hconnections, hcurrent, hmedia, -⟩ := connections_reportLocalVideo media
      { app with media := some app.medias.length, medias := app.medias ++ [media] }
    refine ⟨?_, inCall_congr hconnections hcurrent⟩
    rw [hmedia]
    exact Option.some_ne_none _

/-- A chain that was refused takes the session away. -/
theorem calm_permissionDenied (mediaType : AVMediaType) (app : App) :
    Calm app (SipManager.permissionDenied mediaType app) :=
  .toDelegate app fun c app => .didError _ c app

/-- A chain ends with a session, with an error, or with a prompt. -/
theorem chainCalm_chainEnd {denies grants : Bool}
    (h : ChainEnd owner denies grants app app') : ChainCalm grants app app' := by
  cases h with
  | denied mediaType _ hgrants heq =>
    subst heq hgrants
    exact calm_permissionDenied mediaType app
  | granted _ hgrants hcall =>
    subst hgrants
    exact chainCalm_handleCall hcall
  | asked mediaType _ hgrants heq =>
    subst heq hgrants
    exact Calm.of_eq rfl rfl rfl

/-- A call that there is when the chain is started covers its session. -/
theorem mediaInCall_permissionFsmRequest (hcall : InCall app)
    (h : SipManager.permissionFsmRequest auth owner app = some app') : MediaInCall app' :=
  (chainCalm_chainEnd (chainEnd_permissionFsmRequest h)).mediaInCall hcall

end Chain

/-! ### Steps -/

section Steps
variable {app app' : App}

/-- The session of an accepted call has this call. -/
theorem mediaInCall_accept {auth : AVMediaType → AVAuthorizationStatus} {video : Bool} {c : Nat}
    (hinv : MediaInCall app) (hretained : app.Retained c)
    (h : RCConnection.accept auth video c app = some app') : MediaInCall app' := by
  obtain ⟨connection, hc, ⟨hrings, app₂, hchain, rfl⟩ | ⟨-, rfl⟩⟩ := accept_cases h
  · have hlive := App.live_of_ringing hc hrings
    have hchain : MediaInCall app₂ := by
      refine mediaInCall_permissionFsmRequest ?_ hchain
      exact (inCall_congr rfl rfl).mpr ⟨c, hretained, hlive⟩
    exact hchain.calm (.setState app₂ c (by decide))
  · exact hinv

/-- A new connection is current, and so it is retained. -/
theorem inCall_makeConnection (connection : RCConnection) (h : connection.state ≠ .disconnected)
    (app : App) : InCall (RCDevice.makeConnection connection app) := by
  refine ⟨app.connections.length, .inl rfl, connection, ?_, h⟩
  rw [App.connection?_makeConnection, if_pos rfl]
  rfl

/-- A refused call leaves its connection to the device alone, which keeps it. -/
theorem mediaInCall_connect {auth : AVMediaType → AVAuthorizationStatus} {recipient : CString}
    {video : Bool} {headers : Option NSDictionary} (hinv : MediaInCall app)
    (h : (RCDevice.connect auth recipient video headers app).map (·.1) = some app') :
    MediaInCall app' := by
  rcases connect_cases h with ⟨-, rfl⟩ | ⟨-, app₂, invited, hinvite, rfl⟩
  · exact hinv
  · have hcall := inCall_makeConnection { incoming := false, state := .pending } (by decide) app
    rcases invite_cases hinvite with ⟨-, rfl, rfl⟩ | ⟨-, rfl, hchain⟩
    · -- The new connection is the current one of the device, although the application has none.
      refine fun _ => ⟨app.connections.length, .inl rfl, ?_⟩
      refine ⟨{ incoming := false, state := .pending, held := false }, ?_, by decide⟩
      rw [App.connection?_setConnection, if_pos rfl]
      show ((RCDevice.makeConnection _ app).connection? _).map _ = _
      rw [App.connection?_makeConnection, if_pos rfl]
      rfl
    · have hchain : MediaInCall app₂ := by
        refine mediaInCall_permissionFsmRequest ?_ hchain
        refine InCall.setConnection ?_ _ (fun _ => id) fun _ => id
        exact (inCall_congr rfl rfl).mpr hcall
      exact hchain.calm (.setConnection app₂ _ (fun _ _ => rfl) fun _ => id)

/-- A remote CANCEL: nobody gives the session up. -/
theorem mediaInCall_incomingCancelled (hinv : MediaInCall app) :
    MediaInCall (app.toDelegate RCConnection.didReceiveIncomingCancelled) ↔
      (app.media ≠ none → ∀ d ∈ app.connectionDelegate, ∃ c ≠ d, app.Live c ∧
        ∃ connection ∈ app.connection? c, connection.held) := by
  unfold App.toDelegate
  cases app.connectionDelegate with
  | none => exact iff_of_true hinv (by simp)
  | some d =>
    simp only [Option.mem_some_iff, forall_eq']
    show (app.media ≠ none → InCall (RCConnection.ended .didCancel d app)) ↔ _
    refine imp_congr_right fun _ => ?_
    have hlive : ∀ c, (RCConnection.ended .didCancel d app).Live c ↔ app.Live c ∧ c ≠ d :=
      (endsCall_ended .didCancel d app).live
    -- The device has no current connection any more, so only the application can hold one.
    have hretained : ∀ c ≠ d, (RCConnection.ended .didCancel d app).Retained c ↔
        ∃ connection ∈ app.connection? c, connection.held := fun c hc => by
      show (none = some c ∨ ∃ connection ∈
        (app.setConnection d _).connection? c, connection.held) ↔ _
      rw [App.connection?_setConnection, if_neg (Ne.symm hc)]
      simp
    constructor
    · rintro ⟨c, hkept, hc⟩
      obtain ⟨hc, hne⟩ := (hlive c).mp hc
      exact ⟨c, hne, hc, (hretained c hne).mp hkept⟩
    · rintro ⟨c, hne, hc, hkept⟩
      exact ⟨c, (hretained c hne).mpr hkept, (hlive c).mpr ⟨hc, hne⟩⟩

/-- What is left of the calls when the application lets one go. -/
theorem mediaInCall_release {c : Nat} :
    MediaInCall (app.setConnection c fun connection => { connection with held := false }) ↔
      (app.media ≠ none → ∃ x, app.Live x ∧ (app.currentConnection = some x ∨
        x ≠ c ∧ ∃ connection ∈ app.connection? x, connection.held)) := by
  show (app.media ≠ none → InCall (app.setConnection c _)) ↔ _
  refine imp_congr_right fun _ => exists_congr fun x => ?_
  have hlive := (SameCalls.setConnection app c
    (f := fun connection => { connection with held := false }) fun _ => rfl).live x
  rw [hlive, and_comm]
  refine and_congr_right fun _ => or_congr Iff.rfl ?_
  rw [App.connection?_setConnection]
  by_cases hx : c = x
  · simp [hx]
  · simp [hx, Ne.symm hx]

/-- An answer that starts a session has to find a call. -/
theorem mediaInCall_permissionAnswered {auth : AVMediaType → AVAuthorizationStatus} {n : Nat}
    {granted : Bool} (hinv : MediaInCall app)
    (h : SipManager.permissionAnswered auth n granted app = some app') :
    MediaInCall app' ↔ ∀ request ∈ app.permissionRequests[n]?,
      responseGrants auth request.mediaType app.videoAllowed granted → InCall app := by
  obtain ⟨request, hrequest, h⟩ := permissionAnswered_cases h
  have hchain := chainCalm_chainEnd (chainEnd_permissionFsm h)
  simp only [hrequest, Option.mem_some_iff, forall_eq']
  unfold ChainCalm at hchain
  split at hchain
  · rename_i hgrants
    -- A session is made whether there is a call or not.
    obtain ⟨hmedia, hcall⟩ := hchain
    have hcall : InCall app' ↔ InCall app := hcall
    have hgrants : responseGrants auth request.mediaType app.videoAllowed granted = true := hgrants
    simp [MediaInCall, hmedia, hcall, hgrants]
  · rename_i hgrants
    refine iff_of_true (hinv.calm (Calm.trans ?_ hchain)) fun h => absurd h hgrants
    exact .of_eq rfl rfl rfl

/-! ### Callbacks of the session -/

section Callbacks
variable {m : Nat}

/-- An error of the media takes the session away. -/
theorem calm_mediaDidError (error : CallError) (app : App) :
    Calm app (SipManager.mediaDidError error app) :=
  .toDelegate app fun c app => .didError error c app

/-- The servers start the session, an error takes it away. -/
theorem calm_turnAnswered {success : Bool} (h : SipManager.turnAnswered m success app = some app') :
    Calm app app' := by
  obtain ⟨media, -, ⟨-, media', -, rfl⟩ | ⟨-, rfl⟩⟩ := turnAnswered_cases h
  · exact (Calm.setMedia app m _).trans (.reportLocalVideo _ _)
  · exact (Calm.setMedia app m _).trans (calm_mediaDidError _ _)

/-- A description is set, or the session is taken away. -/
theorem calm_didCreateSessionDescription {sdp : Option CString}
    (h : SipManager.didCreateSessionDescription m sdp app = some app') : Calm app app' := by
  rcases didCreateSessionDescription_cases h with ⟨-, rfl⟩ | ⟨text, -, rfl⟩
  · exact (Calm.setMedia app m _).trans (calm_mediaDidError _ _)
  · exact .setMedia app m _

/-- An error takes the session away. -/
theorem calm_didSetSessionDescriptionWithError
    (h : SipManager.didSetSessionDescriptionWithError m app = some app') : Calm app app' := by
  rw [didSetSessionDescriptionWithError_eq h]
  exact (Calm.setMedia app m _).trans (calm_mediaDidError _ _)

/-- A candidate is counted. -/
theorem calm_didGenerateIceCandidate {localDescription : CString}
    (h : SipManager.didGenerateIceCandidate m localDescription app = some app') :
    Calm app app' := by
  rw [didGenerateIceCandidate_eq h]
  exact .setMedia app m _

/-- The description is piped. -/
theorem calm_candidateGatheringComplete {media : MediaWebRTC}
    (h : SipManager.candidateGatheringComplete m media app = some app') : Calm app app' := by
  rcases candidateGatheringComplete_cases h with ⟨-, rfl⟩ | ⟨-, h⟩
  · exact .refl app'
  · obtain ⟨commands, -, h⟩ := Option.bind_eq_some_iff.mp h
    cases h
    refine ((Calm.setMedia app m _).trans (Calm.foldl ?_ commands _)).trans
      (.setConnection _ _ (fun _ => id) fun _ => id)
    exact fun app command => .pipe app _ command

/-- The description is piped, or the session is taken away. -/
theorem calm_iceGatheringComplete (h : SipManager.iceGatheringComplete m app = some app') :
    Calm app app' := by
  obtain ⟨media, -, -, ⟨-, h⟩ | ⟨-, rfl⟩⟩ := iceGatheringComplete_cases h
  · exact calm_candidateGatheringComplete h
  · exact calm_mediaDidError _ _

/-- The connection of the delegate is Connected, or told so. -/
theorem calm_iceConnected (h : SipManager.iceConnected m app = some app') : Calm app app' := by
  obtain ⟨media, -, ⟨-, rfl⟩ | ⟨-, rfl⟩⟩ := iceConnected_cases h
  · exact .toDelegate app .didReceiveOutgoingEstablished
  · exact .toDelegate app fun c app => .tell app c _

/-- The session is taken away. -/
theorem calm_iceFailed (h : SipManager.iceFailed m app = some app') : Calm app app' := by
  rw [iceFailed_eq h]
  exact calm_mediaDidError _ _

/-- A remote track is told. -/
theorem calm_didAddStream (h : SipManager.didAddStream m app = some app') : Calm app app' := by
  rw [didAddStream_eq h]
  exact .toDelegate app fun c app => .tell app c _

end Callbacks

/-! ### Registrations -/

/-- New parameters are stored and piped. -/
theorem calm_sipManagerUpdateParams {params : Option SipManager.Params} {online network : Bool}
    {state : SipManager.UpdateParamsState}
    (h : RCDevice.sipManagerUpdateParams params online network app = some (app', state)) :
    Calm app app' := by
  obtain ⟨⟨commands, state', stored⟩, -, h⟩ := Option.bind_eq_some_iff.mp h
  cases h
  refine (Calm.foldl (fun app command => .pipe app none command) commands app).trans ?_
  exact .of_eq rfl rfl rfl

/-- An update changes the state of the device at most. -/
theorem calm_updateParams {params : Option SipManager.Params}
    (h : RCDevice.updateParams params app = some app') : Calm app app' := by
  unfold RCDevice.updateParams at h
  split at h
  · obtain ⟨⟨app₁, state⟩, hupdate, h⟩ := Option.bind_eq_some_iff.mp h
    refine (calm_sipManagerUpdateParams hupdate).trans ?_
    cases state with
    | unassigned =>
      cases h
      exact .refl _
    | sentRegister | reestablishedRegistrarless =>
      cases h
      exact .of_eq rfl rfl rfl
  · cases h
    exact .of_eq rfl rfl rfl

/-- Starting the thread changes the state of the device at most. -/
theorem calm_eventLoop (app : App) : Calm app (SipManager.eventLoop app) := by
  unfold SipManager.eventLoop
  split
  · exact .pipe app none _
  · dsimp only
    split
    · exact .of_eq rfl rfl rfl
    · exact .of_eq rfl rfl rfl

/-- `listen` starts the thread, refreshes the registration, or does nothing. -/
theorem calm_listen {status : NetworkStatus} (h : RCDevice.listen status app = some app') :
    Calm app app' := by
  unfold RCDevice.listen at h
  split at h
  · split at h
    · refine (calm_eventLoop app).trans ?_
      simp only at h
      split_ifs at h <;> cases h <;> exact .of_eq rfl rfl rfl
    · cases h
      exact .notify app _
  · split at h
    · cases h
      exact .notify app _
    · obtain ⟨⟨app₂, state⟩, hupdate, h⟩ := Option.map_eq_some_iff.mp h
      cases h
      exact calm_sipManagerUpdateParams hupdate
  · cases h
    exact .refl app

/-! ### Replies of Sofia -/

/-- An incoming call is a call. -/
theorem mediaInCall_incomingCall {caller : Option CString}
    (h : RCDevice.didReceiveCall caller app = some app') : MediaInCall app' := by
  obtain ⟨_, -, h⟩ := Option.bind_eq_some_iff.mp h
  cases h
  refine fun _ => (inCall_congr rfl rfl).mpr (inCall_makeConnection _ ?_ app)
  decide

/-- Of the replies, only a `CANCEL` ends a call and leaves its session. -/
theorem mediaInCall_reply {jsonObject : CString → Option NSDictionary} {active : Bool}
    {reply : SofiaReply} (hinv : MediaInCall app)
    (h : SipManager.handleSofiaInput jsonObject active reply app = some app') :
    MediaInCall app' ↔ LeavesNoMedia app (.reply reply active) := by
  -- Unless the reply is a `CANCEL` the right side is vacuous, and what is left is that the
  -- invariant is kept.
  have hkept (hcode : SipMsgEnum.ofCode reply.rc ≠ some .incomingCancelled)
      (hinv' : MediaInCall app') : MediaInCall app' ↔ LeavesNoMedia app (.reply reply active) :=
    iff_of_true hinv' fun hcancelled => absurd hcancelled hcode
  cases replyHandled h with
  | aside hcode haside =>
    exact hkept (fun hcancelled => hcode _ hcancelled trivial)
      (hinv.calm (.of_untouched haside.untouched))
  | incomingCancelled hcode =>
    show _ ↔ (SipMsgEnum.ofCode reply.rc = some .incomingCancelled → _)
    rw [imp_iff_right hcode]
    exact mediaInCall_incomingCancelled hinv
  | incomingCall hcode hcall =>
    refine hkept (by simp [hcode]) ((mediaInCall_incomingCall hcall).calm ?_)
    exact .of_eq rfl rfl rfl
  | outgoingRinging hcode =>
    exact hkept (by simp [hcode]) (hinv.calm (.toDelegate app .didReceiveOutgoingRinging))
  | outgoingCancelled hcode | outgoingDeclined hcode =>
    refine hkept (by simp [hcode]) (hinv.calm ?_)
    exact .disconnectMedia_toDelegate app fun c app hnone => .of_none hnone
  | bye hcode hbye =>
    refine hkept (by rcases hbye with rfl | rfl <;> simp [hcode]) (hinv.calm ?_)
    exact .disconnectMedia_toDelegate app fun c app hnone => .didReceiveBye hnone
  | callError hcode hfails =>
    refine hkept (fun hcancelled => ?_) (hinv.calm ?_)
    · cases hcode.symm.trans hcancelled
      exact hfails
    · exact .disconnectMedia_toDelegate app fun c app _ => .didError _ c app
  | registerSuccess hcode =>
    refine hkept (by simp [hcode]) ?_
    unfold RCDevice.didRegisterSuccessfully
    split
    · exact hinv.calm (.of_eq rfl rfl rfl)
    · exact hinv
  | registerError hcode hfails =>
    refine hkept (fun hcancelled => ?_) (hinv.calm (.of_eq rfl rfl rfl))
    cases hcode.symm.trans hcancelled
    exact hfails

/-- One step: the condition is exact. -/
theorem mediaInCall_appHandle {jsonObject : CString → Option NSDictionary} {input : AppInput}
    (hinv : MediaInCall app) (h : appHandle jsonObject app input = some app') :
    MediaInCall app' ↔ LeavesNoMedia app input := by
  unfold appHandle at h
  -- Only `reply`, `release` and `permissionAnswered` can break the invariant.
  cases input with
  | reply reply active => exact mediaInCall_reply hinv h
  | permissionAnswered auth n granted => exact mediaInCall_permissionAnswered hinv h
  | release c =>
    obtain ⟨connection, -, h⟩ := Option.bind_eq_some_iff.mp h
    split at h
    · cases h
      exact mediaInCall_release
    · cases h
  | connect auth recipient video headers => exact iff_of_true (mediaInCall_connect hinv h) trivial
  | accept c auth video =>
    obtain ⟨connection, hc, h⟩ := Option.bind_eq_some_iff.mp h
    split at h
    · rename_i hheld
      exact iff_of_true (mediaInCall_accept hinv (.inr ⟨connection, hc, hheld⟩) h) trivial
    · cases h
  | disconnectAll =>
    cases h
    exact iff_of_true (hinv.calm (.disconnectAll app)) trivial
  | listen status => exact iff_of_true (hinv.calm (calm_listen h)) trivial
  | unlisten =>
    cases h
    exact iff_of_true (hinv.calm (.unlisten app)) trivial
  | updateParams params => exact iff_of_true (hinv.calm (calm_updateParams h)) trivial
  | sendMessage message recipient headers =>
    cases h
    exact iff_of_true (hinv.calm (.of_untouched (.sendMessage _ _ _ app))) trivial
  | reject c =>
    obtain ⟨-, h⟩ := ofHeld_eq_some h
    cases h
    refine iff_of_true (hinv.calm ?_) trivial
    unfold RCConnection.reject
    split
    · exact .refl app
    · split
      · exact .of_eq rfl rfl rfl
      · exact .refl app
  | disconnect c =>
    obtain ⟨-, h⟩ := ofHeld_eq_some h
    cases h
    exact iff_of_true (hinv.calm (.disconnect c app)) trivial
  | sendDigits c digits =>
    obtain ⟨-, h⟩ := ofHeld_eq_some h
    cases h
    exact iff_of_true (hinv.calm (.of_untouched (.sendDigits _ _ app))) trivial
  | turnAnswered m success => exact iff_of_true (hinv.calm (calm_turnAnswered h)) trivial
  | didCreateSessionDescription m sdp =>
    exact iff_of_true (hinv.calm (calm_didCreateSessionDescription h)) trivial
  | didSetSessionDescriptionWithError m =>
    exact iff_of_true (hinv.calm (calm_didSetSessionDescriptionWithError h)) trivial
  | didGenerateIceCandidate m localDescription =>
    exact iff_of_true (hinv.calm (calm_didGenerateIceCandidate h)) trivial
  | iceGatheringComplete m =>
    exact iff_of_true (hinv.calm (calm_iceGatheringComplete h)) trivial
  | iceConnected m => exact iff_of_true (hinv.calm (calm_iceConnected h)) trivial
  | iceFailed m => exact iff_of_true (hinv.calm (calm_iceFailed h)) trivial
  | didAddStream m => exact iff_of_true (hinv.calm (calm_didAddStream h)) trivial
  | checkNetworkStatus newStatus =>
    cases h
    exact iff_of_true (hinv.calm (.checkNetworkStatus newStatus app)) trivial
  | loopStopped =>
    cases h
    refine iff_of_true (hinv.calm ?_) trivial
    exact .of_eq rfl rfl rfl

end Steps

/-! ### The next call -/

section NextCall
variable {app app' : App} {auth : AVMediaType → AVAuthorizationStatus}

/-- The session is made for the connection that the chain was started for. -/
theorem owner_handleCall {owner : Nat} (hnone : app.media = none)
    (h : SipManager.handleCall owner app = some app') :
    ∃ m ∈ app'.media, ∃ media ∈ app'.media? m, media.owner = owner := by
  rcases handleCall_cases h with ⟨hmedia, -⟩ | ⟨-, media, hconnect, rfl⟩
  · exact absurd hnone hmedia
  · obtain ⟨-, -, hmedia, hmedias⟩ := connections_reportLocalVideo media
      { app with media := some app.medias.length, medias := app.medias ++ [media] }
    refine ⟨app.medias.length, hmedia, media, ?_, (state_connect rfl hconnect).1⟩
    rw [App.media?, hmedias]
    simp

/-- A chain whose permissions are there makes its session at once. -/
theorem owner_permissionFsmRequest {owner : Nat} (hnone : app.media = none)
    (haudio : auth .audio = .authorized)
    (hvideo : app.videoAllowed → auth .video = .authorized)
    (h : SipManager.permissionFsmRequest auth owner app = some app') :
    ∃ m ∈ app'.media, ∃ media ∈ app'.media? m, media.owner = owner := by
  have hgranted : requestGrants auth app.videoAllowed = true := by
    cases hallowed : app.videoAllowed with
    | false => simp [requestGrants, responseGrants, haudio]
    | true => simp [requestGrants, responseGrants, haudio, hvideo hallowed]
  cases chainEnd_permissionFsmRequest h with
  | denied _ _ hgrants => exact absurd hgrants (by simp [hgranted])
  | granted _ _ hcall => exact owner_handleCall hnone hcall
  | asked _ _ hgrants => exact absurd hgrants (by simp [hgranted])

/-- Without a session, a call that is placed is not refused. -/
theorem held_connect {recipient : CString} {video : Bool} {headers : Option NSDictionary}
    (hnone : app.media = none) (hready : app.state = .ready)
    (h : (RCDevice.connect auth recipient video headers app).map (·.1) = some app') :
    ∃ connection ∈ app'.connection? app.connections.length, connection.held := by
  obtain ⟨-, app₂, invited, hinvite, rfl⟩ :=
    (connect_cases h).resolve_left fun hbusy => hbusy.1 hready
  obtain ⟨-, rfl, hchain⟩ := (invite_cases hinvite).resolve_left fun hleft => hleft.1 hnone
  -- The chain changes no number of connections, so the new one is still the last.
  have hsame := sameCalls_dial app.connections.length recipient video headers
    (RCDevice.makeConnection { incoming := false, state := .pending } app)
  have hmade : DelegateMade
      (RCDevice.makeConnection { incoming := false, state := .pending } app) := by
    simp [DelegateMade, RCDevice.makeConnection]
  have hlength := (chainEffect_permissionFsmRequest (hsame.delegateMade hmade) hchain).length
  have hlt : app.connections.length < app₂.connections.length := by
    rw [hlength, hsame.length]
    simp [RCDevice.makeConnection]
  obtain ⟨connection, hc⟩ := Option.isSome_iff_exists.mp (App.isSome_connection?.mpr hlt)
  refine ⟨{ connection with held := true }, ?_, rfl⟩
  rw [App.connection?_setConnection, if_pos rfl, hc]
  rfl

/-- Without a session, a call that is accepted gets one. -/
theorem owner_accept {video : Bool} {c : Nat} (hnone : app.media = none)
    (hrings : ∃ connection ∈ app.connection? c, connection.ringing)
    (haudio : auth .audio = .authorized) (hvideo : video → auth .video = .authorized)
    (h : RCConnection.accept auth video c app = some app') :
    ∃ m ∈ app'.media, ∃ media ∈ app'.media? m, media.owner = c := by
  obtain ⟨connection, hc, hrings⟩ := hrings
  obtain ⟨connection', hc', hcase⟩ := accept_cases h
  cases hc.symm.trans hc'
  rcases hcase with ⟨-, app₂, hchain, rfl⟩ | ⟨hnot, -⟩
  · unfold SipManager.answerWithVideo at hchain
    show ∃ m ∈ app₂.media, ∃ media ∈ app₂.media? m, media.owner = c
    refine owner_permissionFsmRequest ?_ haudio ?_ hchain
    · exact hnone
    · exact hvideo
  · rw [hnot] at hrings
    cases hrings

/-- A call that comes in rings, and brings no session. -/
theorem rings_incomingCall {jsonObject : CString → Option NSDictionary} {active : Bool}
    {reply : SofiaReply} (hcode : SipMsgEnum.ofCode reply.rc = some .incomingCall)
    (h : SipManager.handleSofiaInput jsonObject active reply app = some app') :
    app'.media = app.media ∧
      ∃ connection ∈ app'.connection? app.connections.length, connection.ringing := by
  obtain ⟨sdp, rfl⟩ := incomingCall_handled hcode h
  refine ⟨rfl, { incoming := true, state := .connecting }, ?_, rfl⟩
  show (RCDevice.makeConnection _ _).connection? _ = _
  rw [App.connection?_makeConnection]
  exact if_pos rfl

end NextCall

/-! ### Runs -/

/-- The property comes down to this: there is a session only while there is a call. -/
theorem mediaReleased_iff_mediaInCall (jsonObject : CString → Option NSDictionary) (app : App) :
    MediaReleased jsonObject app ↔ MediaInCall app := by
  constructor
  · intro h hmedia
    by_contra hcall
    exact hmedia (h.released hcall)
  · intro h
    have hnone : ¬ InCall app → app.media = none := fun hcall => by
      by_contra hmedia
      exact hcall (h hmedia)
    refine ⟨hnone, fun hcall hready _ _ _ _ _ => held_connect (hnone hcall) hready, ?_⟩
    intro hcall reply active app₁ auth video app₂ hcode hreply haudio hvideo haccept
    obtain ⟨hmedia, hrings⟩ := rings_incomingCall hcode hreply
    exact owner_accept (hmedia.trans (hnone hcall)) hrings haudio hvideo haccept

/-- A new device has no session, and in every run there is none without a call after every step
exactly when all steps leave none. -/
theorem mediaReleased_iff (jsonObject : CString → Option NSDictionary)
    (params : SipManager.Params) (status : NetworkStatus) (inputs : List AppInput) :
    MediaReleased jsonObject (RCDevice.initWithParams params status) ∧
      (AllSteps (appStep jsonObject) (fun _ _ app' => MediaReleased jsonObject app')
          (RCDevice.initWithParams params status) inputs ↔
        AllSteps (appStep jsonObject) (fun app input _ => LeavesNoMedia app input)
          (RCDevice.initWithParams params status) inputs) := by
  -- At the start there is no media, and starting the loop makes none.
  have hinit : MediaInCall (RCDevice.initWithParams params status) := by
    unfold RCDevice.initWithParams
    split
    · refine MediaInCall.calm ?_ (calm_eventLoop _)
      split <;> exact fun hmedia => absurd rfl hmedia
    · exact fun hmedia => absurd rfl hmedia
  simp only [mediaReleased_iff_mediaInCall]
  refine ⟨hinit, AllSteps.iff_of_inv MediaInCall ?_ hinit _⟩
  intro app input app' hinv hstep
  have hinv : MediaInCall app.silent := hinv
  have hiff : MediaInCall app' ↔ LeavesNoMedia app.silent input := mediaInCall_appHandle hinv hstep
  -- The condition speaks of the state that the turn starts from.
  have hsilent : LeavesNoMedia app.silent input ↔ LeavesNoMedia app input := by
    cases input <;> exact Iff.rfl
  exact ⟨hiff.trans hsilent, fun h => hiff.mpr (hsilent.mpr h)⟩

/-- The caller cancels after the application has accepted the call: its session stays, and the
next call is refused. -/
theorem cancel_after_accept_leaves_media :
    ∃ app app', run (appStep Json.read) (RCDevice.initWithParams {} .reachableViaWiFi)
        [.reply announcedCall true, .accept 0 (fun _ => .authorized) false,
          .reply (SipMsgEnum.incomingCancelled.replyWith []) true] = some app ∧
      app.connectionState 0 = some .disconnected ∧ app.currentConnection = none ∧
      app.media = some 0 ∧
      appStep Json.read app (.connect (fun _ => .authorized) "sip:c@h".toList false none)
        = some app' ∧
      (app'.connection? 1).map (·.held) = some false :=
  ⟨_, _, rfl, rfl, rfl, rfl, rfl, rfl⟩

end RestCommSdk.Proofs
