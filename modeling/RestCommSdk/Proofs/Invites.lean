import Mathlib.Data.List.InsertIdx
import RestCommSdk.Lib.Json
import RestCommSdk.Lib.Run
import RestCommSdk.Proofs.CallEffects

/-!
# `RestCommSdk.Proofs.Invites`: which calls are sent to Sofia

An `i` command is piped at the end of a chain of callbacks that starts with `connect:`. The
chain carries no call: it finds `activeCallParams`, `videoAllowed` and `media` as they are.
`Bound` is the invariant under which it still finds those of its own call. It is kept by every
step of a set-up but two: an answered permission prompt that makes the media session of a call
that is over or was replaced, and the end of the ICE gathering of a session that was released
before its TURN request was answered (`Attached`).
-/

set_option autoImplicit false

namespace RestCommSdk.Proofs

open RestCommSdk.Lib
open RestCommSdk.CliInterface (CString)
open RestCommSdk.SipManager (NSDictionary Command serializedHeaders)

/-! ### What is said about a step -/

/-- The command places a call. -/
def isInvite : Command → Bool
  | .invite .. => true
  | _ => false

/-- The connections that this step has piped an `i` for. -/
def invites (app : App) : List (Option Nat) :=
  (app.piped.filter fun piped => isInvite piped.command).map (·.source)

/-- An `i` was piped for the connection. -/
def WasInvited (app : App) (c : Nat) : Prop := ∃ connection ∈ app.connection? c, connection.invited

/-- The connection is Disconnected. -/
def Over (app : App) (c : Nat) : Prop := app.connectionState c = some .disconnected

/-- What places a call: the `i` is piped for a connection that is not Disconnected, with the
destination and the headers that it was dialled with, when the media session that was made
for it has gathered its candidates, and with the local description of that session. -/
def InviteOfCall (app : App) (input : AppInput) (piped : Piped) : Prop :=
  ∃ c connection m media sdp password,
    app.connection? c = some connection ∧ connection.state ≠ .disconnected ∧
    input = .iceGatheringComplete m ∧ app.media? m = some media ∧ media.owner = c ∧
    media.peerConnection.bind (·.localDescription) = some sdp ∧
    piped = ⟨some c, .invite connection.destination (some sdp) password
      (connection.headers.map serializedHeaders)⟩

/-- What a step of a set-up should do: it places calls properly, and a connection that is over
stays so. -/
def PlacesCalls (app : App) (input : AppInput) (app' : App) : Prop :=
  (∀ piped ∈ app'.piped, isInvite piped.command → InviteOfCall app input piped) ∧
    ∀ c, Over app c → Over app' c

/-- The inputs of the set-up of outgoing calls. -/
def SetUp : AppInput → Prop
  | .connect .. | .disconnect _ | .release _ | .permissionAnswered .. | .turnAnswered ..
  | .didCreateSessionDescription .. | .didSetSessionDescriptionWithError _
  | .didGenerateIceCandidate .. | .iceGatheringComplete _ => True
  | _ => False

/-- The condition on a step, of its input and the state before it. -/
def Attached (app : App) : AppInput → Prop
  | .permissionAnswered auth n granted =>
    app.media = none → ∀ request ∈ app.permissionRequests[n]?,
      responseGrants auth request.mediaType app.videoAllowed granted →
        app.Live request.owner ∧ app.dialled = some request.owner
  | .iceGatheringComplete m =>
    app.media ≠ some m → ∀ media ∈ app.media? m, media.isInitiator = false
  | _ => True

instance (app : App) : (input : AppInput) → Decidable (Attached app input)
  | .permissionAnswered auth n granted =>
    inferInstanceAs (Decidable (app.media = none → ∀ request ∈ app.permissionRequests[n]?,
      responseGrants auth request.mediaType app.videoAllowed granted →
        app.Live request.owner ∧ app.dialled = some request.owner))
  | .iceGatheringComplete m =>
    inferInstanceAs (Decidable (app.media ≠ some m → ∀ media ∈ app.media? m,
      media.isInitiator = false))
  | .connect .. | .disconnectAll | .listen _ | .unlisten | .updateParams _ | .sendMessage ..
  | .accept .. | .reject _ | .disconnect _ | .sendDigits .. | .release _ | .turnAnswered ..
  | .didCreateSessionDescription .. | .didSetSessionDescriptionWithError _
  | .didGenerateIceCandidate .. | .iceConnected _ | .iceFailed _ | .didAddStream _ | .reply ..
  | .checkNetworkStatus _ | .loopStopped => isTrue trivial

/-! ### The invariant -/

/-- The connections that a chain of callbacks is for: it waits for a permission, or has made a
media session. -/
def owners (app : App) : List Nat :=
  app.permissionRequests.map (·.owner) ++ app.medias.map (·.owner)

/-- The media session and the parameters belong to the same live call, and no `i` was piped for
it before the session has gathered its candidates. -/
structure Bound (app : App) : Prop where
  owners : (owners app).Nodup
  made : ∀ c ∈ Proofs.owners app, c < app.connections.length
  media : ∀ m ∈ app.media, ∃ media ∈ app.media? m,
    app.Live media.owner ∧ app.dialled = some media.owner ∧
      (media.isInitiator → media.candidatesGathered = false → ¬ WasInvited app media.owner)
  peer : ∀ media ∈ app.medias, media.state ≠ .disconnected → media.peerConnection.isSome
  dialled : ∀ c ∈ app.dialled, ∃ connection ∈ app.connection? c,
    app.activeCallParams.destination = some connection.destination ∧
      app.activeCallParams.sipHeaders = connection.headers
  invited : ∀ c, WasInvited app c → c ∈ app.medias.map (·.owner)

/-- A method that pipes no `i` and revives no connection. -/
structure Quiet (app app' : App) : Prop where
  invites : invites app' = invites app
  was : ∀ c, WasInvited app' c ↔ WasInvited app c
  staysOver : ∀ c, Over app c → Over app' c

/-- A write to a connection that does not revive it. -/
theorem over_setConnection {app : App} (c : Nat) {f : RCConnection → RCConnection}
    (hstate : ∀ connection, connection.state = .disconnected →
      (f connection).state = .disconnected) {x : Nat} (h : Over app x) :
    Over (app.setConnection c f) x := by
  simp only [Over, App.connectionState, App.connection?_setConnection] at h ⊢
  split
  · obtain ⟨connection, hconnection, hover⟩ := Option.map_eq_some_iff.mp h
    simp [hconnection, hstate connection hover]
  · exact h

namespace Quiet

variable {app app₁ app₂ : App}

/-- Doing nothing is quiet. -/
theorem refl (app : App) : Quiet app app := ⟨rfl, fun _ => Iff.rfl, fun _ => id⟩

/-- One quiet method after another. -/
theorem trans (h₁ : Quiet app app₁) (h₂ : Quiet app₁ app₂) : Quiet app app₂ :=
  ⟨h₂.invites.trans h₁.invites, fun c => (h₂.was c).trans (h₁.was c),
    fun c hc => h₂.staysOver c (h₁.staysOver c hc)⟩

/-- A method that neither pipes nor writes to a connection is quiet. -/
theorem of_eq {app' : App} (hconnections : app'.connections = app.connections)
    (hpiped : app'.piped = app.piped) : Quiet app app' := by
  refine ⟨by simp only [Proofs.invites, hpiped], fun c => ?_, fun c hc => ?_⟩
  · simp only [WasInvited, App.connection?, hconnections]
  · simpa only [Over, App.connectionState, App.connection?, hconnections] using hc

/-- A command other than `i` is piped. -/
theorem pipe (app : App) (source : Option Nat) {command : Command}
    (h : isInvite command = false) : Quiet app (app.pipe source command) :=
  ⟨by simp [Proofs.invites, App.pipe, h], fun _ => Iff.rfl, fun _ => id⟩

/-- The application is told something. -/
theorem tell (app : App) (c : Nat) (event : ConnectionEvent) : Quiet app (app.tell c event) :=
  of_eq rfl rfl

/-- A write to a connection that does not revive it. -/
theorem setConnection (app : App) (c : Nat) {f : RCConnection → RCConnection}
    (hinvited : ∀ connection, (f connection).invited = connection.invited)
    (hstate : ∀ connection, connection.state = .disconnected →
      (f connection).state = .disconnected) : Quiet app (app.setConnection c f) := by
  refine ⟨rfl, fun x => ?_, fun _ => over_setConnection c hstate⟩
  simp only [WasInvited, App.connection?_setConnection]
  split
  · cases app.connection? x <;> simp [hinvited]
  · rfl

/-- A quiet method of the delegate, if there is a delegate. -/
theorem toDelegate {method : Nat → App → App} (app : App)
    (h : ∀ c app, Quiet app (method c app)) : Quiet app (app.toDelegate method) := by
  unfold App.toDelegate
  split
  · exact h _ app
  · exact refl app

/-- A quiet method for every element of a list. -/
theorem foldl {α : Type} {f : App → α → App} (h : ∀ app a, Quiet app (f app a))
    (as : List α) (app : App) : Quiet app (as.foldl f app) := by
  induction as generalizing app with
  | nil => exact refl app
  | cons a as ih => exact (h app a).trans (ih (f app a))

/-- The session is taken away. -/
theorem disconnectMedia (app : App) : Quiet app (SipManager.disconnectMedia app) := by
  unfold SipManager.disconnectMedia
  split
  · exact of_eq rfl rfl
  · exact refl app

/-- Hanging up pipes `c`, `b` or `d`, or marks the connection. -/
theorem hangUp (c : Nat) (connection : RCConnection) (app : App) :
    Quiet app (RCConnection.hangUp c connection app) := by
  unfold RCConnection.hangUp
  split
  · exact pipe app _ (by split <;> rfl)
  · exact pipe app _ rfl
  · split
    · exact refl app
    · exact setConnection app c (fun _ => rfl) fun _ => id
  · exact refl app

/-- A connection that is hung up is over. -/
theorem disconnect (c : Nat) (app : App) : Quiet app (RCConnection.disconnect c app) := by
  unfold RCConnection.disconnect
  split
  · exact refl app
  · rename_i connection _
    refine (((hangUp c connection app).trans (disconnectMedia _)).trans
      (setConnection _ c ?_ ?_)).trans (of_eq rfl rfl)
    · exact fun _ => rfl
    · exact fun _ _ => rfl

/-- A connection with an error is over. -/
theorem didError (error : CallError) (c : Nat) (app : App) :
    Quiet app (RCConnection.didError error c app) :=
  (disconnect c app).trans (of_eq rfl rfl)

/-- Local tracks are told. -/
theorem reportLocalVideo (media : MediaWebRTC) (app : App) :
    Quiet app (SipManager.reportLocalVideo media app) :=
  foldl (fun app _ => toDelegate app fun _ _ => tell _ _ _) _ _

end Quiet

namespace Bound

variable {app app' : App}

/-- A method that writes nothing of what the invariant is about. -/
theorem of_eq (h : Bound app) (hconnections : app'.connections = app.connections)
    (hmedias : app'.medias = app.medias) (hmedia : app'.media = app.media)
    (hrequests : app'.permissionRequests = app.permissionRequests)
    (hdialled : app'.dialled = app.dialled)
    (hparams : app'.activeCallParams = app.activeCallParams) : Bound app' := by
  obtain ⟨howners, hmade, hmedia', hpeer, hdialled', hinvited⟩ := h
  simp only [Proofs.owners, WasInvited, App.connection?, App.media?, App.Live]
    at howners hmade hmedia' hpeer hdialled' hinvited
  constructor <;>
    simpa only [Proofs.owners, WasInvited, App.connection?, App.media?, App.Live, hconnections,
      hmedias, hmedia, hrequests, hdialled, hparams]

/-- A write to a media session that does not start it over. -/
structure SameSession (media media' : MediaWebRTC) : Prop where
  owner : media'.owner = media.owner
  gathered : media'.isInitiator → media'.candidatesGathered = false →
    media.isInitiator ∧ media.candidatesGathered = false
  peer : (media.state ≠ .disconnected → media.peerConnection.isSome) →
    media'.state ≠ .disconnected → media'.peerConnection.isSome

/-- A write that leaves a session the same one. -/
theorem setMedia (h : Bound app) (m : Nat) {f : MediaWebRTC → MediaWebRTC}
    (hf : ∀ media, app.media? m = some media → SameSession media (f media)) :
    Bound (app.setMedia m f) := by
  -- The owners stay, so every chain is still the only one for its connection.
  have howners : (app.medias.modify m f).map (·.owner) = app.medias.map (·.owner) := by
    refine List.ext_getElem? fun x => ?_
    simp only [List.getElem?_map, List.getElem?_modify]
    split
    · rename_i hx
      subst hx
      cases hm : app.medias[m]? with
      | none => simp
      | some media => simp [(hf media hm).owner]
    · simp
  refine ⟨?_, ?_, fun x hx => ?_, fun media hmem => ?_, h.dialled, fun c hc => ?_⟩
  · simpa only [Proofs.owners, App.setMedia, howners] using h.owners
  · simpa only [Proofs.owners, App.setMedia, howners] using h.made
  · obtain ⟨media, hmedia, hlive, hdialled, hgather⟩ := h.media x hx
    have hmedia : app.media? x = some media := hmedia
    by_cases hm : m = x
    · subst hm
      have hsame := hf media hmedia
      refine ⟨f media, by simp [App.media?_setMedia, hmedia], ?_⟩
      rw [hsame.owner]
      exact ⟨hlive, hdialled, fun hinit hnone =>
        hgather (hsame.gathered hinit hnone).1 (hsame.gathered hinit hnone).2⟩
    · exact ⟨media, by simp [App.media?_setMedia, hm, hmedia], hlive, hdialled, hgather⟩
  · obtain ⟨x, hx⟩ := List.mem_iff_getElem?.mp hmem
    simp only [App.setMedia, List.getElem?_modify] at hx
    split at hx
    · rename_i hm
      subst hm
      obtain ⟨media', hmedia', rfl⟩ := Option.map_eq_some_iff.mp hx
      exact (hf media' hmedia').peer (h.peer media' (List.mem_of_getElem? hmedia'))
    · exact h.peer media (List.mem_of_getElem? (by simpa using hx))
  · simpa only [App.setMedia, howners] using h.invited c hc

/-- A session that is disconnected is not started over. -/
theorem sameSession_disconnect (media : MediaWebRTC) : SameSession media media.disconnect := by
  unfold MediaWebRTC.disconnect
  split
  · exact ⟨rfl, fun hinit hnone => ⟨hinit, hnone⟩, id⟩
  · exact ⟨rfl, nofun, fun _ hstate => absurd rfl hstate⟩

/-- Disconnecting a session. -/
theorem setMedia_disconnect (h : Bound app) (m : Nat) :
    Bound (app.setMedia m MediaWebRTC.disconnect) :=
  h.setMedia m fun media _ => sameSession_disconnect media

/-- The session is given up. -/
theorem noMedia (h : Bound app) : Bound { app with media := none } :=
  ⟨h.owners, h.made, nofun, h.peer, h.dialled, h.invited⟩

/-- Disconnecting the session in use, which is in use no more. -/
theorem disconnectMedia (h : Bound app) : Bound (SipManager.disconnectMedia app) := by
  unfold SipManager.disconnectMedia
  split
  · exact (h.setMedia_disconnect _).noMedia
  · exact h

/-- A write to a connection that keeps what was dialled, and that it was live if there is a
session. -/
theorem setConnection (h : Bound app) (c : Nat) {f : RCConnection → RCConnection}
    (hdialled : ∀ connection, (f connection).destination = connection.destination ∧
      (f connection).headers = connection.headers ∧ (f connection).invited = connection.invited)
    (hstate : app.media ≠ none → ∀ connection, connection.state ≠ .disconnected →
      (f connection).state ≠ .disconnected) : Bound (app.setConnection c f) := by
  have hwas : ∀ x, WasInvited (app.setConnection c f) x ↔ WasInvited app x := fun x => by
    simp only [WasInvited, App.connection?_setConnection]
    split
    · cases app.connection? x <;> simp [hdialled]
    · rfl
  -- What is left is the owner of the session, and the connection that was dialled.
  refine ⟨h.owners, by simpa [Proofs.owners, App.setConnection] using h.made, fun m hm => ?_,
    h.peer, fun x hx => ?_, fun x hx => h.invited x ((hwas x).mp hx)⟩
  · obtain ⟨media, hmedia, ⟨connection, hconnection, hlive⟩, hdial, hgather⟩ := h.media m hm
    have hconnection : app.connection? media.owner = some connection := hconnection
    refine ⟨media, hmedia, ?_, hdial, fun hinit hnone => ?_⟩
    · simp only [App.Live, App.connection?_setConnection]
      split
      · exact ⟨f connection, by simp [hconnection],
          hstate (by simp [show app.media = some m from hm]) connection hlive⟩
      · exact ⟨connection, hconnection, hlive⟩
    · rw [hwas]
      exact hgather hinit hnone
  · obtain ⟨connection, hconnection, hdest, hheaders⟩ := h.dialled x hx
    have hconnection : app.connection? x = some connection := hconnection
    simp only [App.connection?_setConnection]
    split
    · exact ⟨f connection, by simp [hconnection], hdest.trans (by rw [(hdialled connection).1]),
        hheaders.trans (hdialled connection).2.1.symm⟩
    · exact ⟨connection, hconnection, hdest, hheaders⟩

/-- A connection is marked whose session has gathered its candidates. -/
theorem mark (h : Bound app) {c : Nat} {f : RCConnection → RCConnection}
    (hf : ∀ connection, (f connection).destination = connection.destination ∧
      (f connection).headers = connection.headers ∧ (f connection).state = connection.state)
    (howner : c ∈ app.medias.map (·.owner))
    (hgathered : ∀ m ∈ app.media, ∀ media ∈ app.media? m, media.owner = c →
      media.candidatesGathered = true) : Bound (app.setConnection c f) := by
  refine ⟨h.owners, by simpa [Proofs.owners, App.setConnection] using h.made, fun m hm => ?_,
    h.peer, fun x hx => ?_, fun x hx => ?_⟩
  · obtain ⟨media, hmedia, ⟨connection, hconnection, hlive⟩, hdial, hgather⟩ := h.media m hm
    have hconnection : app.connection? media.owner = some connection := hconnection
    refine ⟨media, hmedia, ?_, hdial, fun hinit hnone => ?_⟩
    · simp only [App.Live, App.connection?_setConnection]
      split
      · exact ⟨f connection, by simp [hconnection], by rw [(hf connection).2.2]; exact hlive⟩
      · exact ⟨connection, hconnection, hlive⟩
    · simp only [WasInvited, App.connection?_setConnection]
      split
      · rename_i heq
        -- The owner of the session was marked: its candidates are gathered.
        rw [hgathered m hm media hmedia heq.symm] at hnone
        cases hnone
      · exact hgather hinit hnone
  · obtain ⟨connection, hconnection, hdest, hheaders⟩ := h.dialled x hx
    have hconnection : app.connection? x = some connection := hconnection
    simp only [App.connection?_setConnection]
    split
    · exact ⟨f connection, by simp [hconnection], hdest.trans (by rw [(hf connection).1]),
        hheaders.trans (hf connection).2.1.symm⟩
    · exact ⟨connection, hconnection, hdest, hheaders⟩
  · simp only [WasInvited, App.connection?_setConnection] at hx
    split at hx
    · rename_i heq
      subst heq
      exact howner
    · exact h.invited x hx

/-- A command is piped. -/
theorem pipe (h : Bound app) (source : Option Nat) (command : Command) :
    Bound (app.pipe source command) := h.of_eq rfl rfl rfl rfl rfl rfl

/-- The application is told something. -/
theorem tell (h : Bound app) (c : Nat) (event : ConnectionEvent) : Bound (app.tell c event) :=
  h.of_eq rfl rfl rfl rfl rfl rfl

/-- Hanging up changes no session. -/
theorem hangUp (h : Bound app) (c : Nat) (connection : RCConnection) :
    Bound (RCConnection.hangUp c connection app) := by
  unfold RCConnection.hangUp
  split
  · exact h.pipe _ _
  · exact h.pipe _ _
  · split
    · exact h
    · exact h.setConnection c (fun _ => ⟨rfl, rfl, rfl⟩) fun _ _ => id
  · exact h

/-- The session goes before the connection is over. -/
theorem disconnect (h : Bound app) (c : Nat) : Bound (RCConnection.disconnect c app) := by
  unfold RCConnection.disconnect
  split
  · exact h
  · rename_i connection _
    -- The session is gone when the state of the connection is written.
    have hmedia := media_disconnectMedia (RCConnection.hangUp c connection app)
    refine Bound.of_eq ((h.hangUp c connection).disconnectMedia.setConnection c ?_
      fun hsome => absurd hmedia hsome) rfl rfl rfl rfl rfl rfl
    exact fun _ => ⟨rfl, rfl, rfl⟩

/-- A method of the delegate, if there is a delegate. -/
theorem toDelegate (h : Bound app) {method : Nat → App → App}
    (hmethod : ∀ c app, Bound app → Bound (method c app)) : Bound (app.toDelegate method) := by
  unfold App.toDelegate
  split
  · exact hmethod _ app h
  · exact h

/-- A message to the delegate about an error. -/
theorem didError (h : Bound app) (error : CallError) :
    Bound (app.toDelegate (RCConnection.didError error)) :=
  h.toDelegate fun c _ h => (h.disconnect c).tell c _

/-- Local tracks are told. -/
theorem reportLocalVideo (h : Bound app) (media : MediaWebRTC) :
    Bound (SipManager.reportLocalVideo media app) := by
  unfold SipManager.reportLocalVideo
  induction List.replicate media.localVideoTracks ConnectionEvent.didReceiveLocalVideo
    generalizing app with
  | nil => exact h
  | cons event events ih => exact ih (h.toDelegate fun c _ h => h.tell c event)

end Bound

/-! ### The chain of permissions -/

section Chain
variable {auth : AVMediaType → AVAuthorizationStatus} {owner : Nat} {app app' : App}

/-- What a chain for `owner` needs: it is the only one for that connection, and if it makes a
session, this is for a live connection whose parameters are still the active ones. -/
structure ChainFor (owner : Nat) (grants : Prop) (app : App) : Prop where
  bound : Bound app
  made : owner < app.connections.length
  only : owner ∉ owners app
  attached : grants → app.media = none → app.Live owner ∧ app.dialled = some owner

/-- A chain that needs less. -/
theorem ChainFor.mono {grants grants' : Prop} (h : ChainFor owner grants app)
    (himp : grants' → grants) : ChainFor owner grants' app :=
  ⟨h.bound, h.made, h.only, fun hgrants => h.attached (himp hgrants)⟩

/-- What a method of a set-up leads to. -/
def Proceeds (app app' : App) : Prop := Bound app' ∧ Quiet app app'

/-- A quiet method comes before. -/
theorem Proceeds.after {app₁ : App} (h : Proceeds app₁ app') (hquiet : Quiet app app₁) :
    Proceeds app app' := ⟨h.1, hquiet.trans h.2⟩

/-- The end of a chain makes a session for its connection. -/
theorem proceeds_handleCall (hchain : ChainFor owner True app)
    (h : SipManager.handleCall owner app = some app') : Proceeds app app' := by
  obtain ⟨hbound, hmade, honly, hattached⟩ := hchain
  rcases handleCall_cases h with ⟨-, rfl⟩ | ⟨hnone, media, hconnect, rfl⟩
  · exact ⟨hbound, .refl app'⟩
  · obtain ⟨hlive, hdialled⟩ := hattached trivial hnone
    obtain ⟨howner, hpeer⟩ := state_connect rfl hconnect
    have howner : media.owner = owner := howner
    have hmedia : (app.medias ++ [media])[app.medias.length]? = some media := by simp
    -- An invited connection has a session already, and `owner` has none.
    have hnot : ¬ WasInvited app owner := fun hwas =>
      honly (List.mem_append_right _ (hbound.invited owner hwas))
    refine ⟨Bound.reportLocalVideo ?_ media, Quiet.trans ?_ (.reportLocalVideo _ _)⟩
    swap
    · exact .of_eq rfl rfl
    -- The owner of the new session is the last one of the list.
    refine ⟨?_, ?_, fun m hm => ?_, fun media' hmem => ?_, hbound.dialled, fun c hc => ?_⟩
    · simp only [Proofs.owners, List.map_append, ← List.append_assoc]
      refine List.nodup_append.mpr ⟨hbound.owners, by simp, ?_⟩
      simp only [List.map_cons, List.map_nil, List.mem_singleton]
      rintro c hc _ rfl heq
      exact honly (howner ▸ heq ▸ hc)
    · simp only [Proofs.owners, List.map_append, ← List.append_assoc]
      intro c hc
      rcases List.mem_append.mp hc with hc | hc
      · exact hbound.made c hc
      · simp only [List.map_cons, List.map_nil, List.mem_singleton] at hc
        rw [hc, howner]
        exact hmade
    · cases hm
      exact ⟨media, hmedia, by rw [howner]; exact hlive, by rw [howner]; exact hdialled,
        fun _ _ => by rw [howner]; exact hnot⟩
    · rcases List.mem_append.mp hmem with hmem | hmem
      · exact hbound.peer media' hmem
      · cases List.mem_singleton.mp hmem
        exact hpeer
    · simpa using .inl (by simpa using hbound.invited c hc)

/-- An error ends the call of the delegate. -/
theorem proceeds_didError (hbound : Bound app) (error : CallError) :
    Proceeds app (app.toDelegate (RCConnection.didError error)) :=
  ⟨hbound.didError error, .toDelegate app (Quiet.didError error)⟩

/-- The user is asked. -/
theorem proceeds_ask {grants : Prop} (hchain : ChainFor owner grants app)
    (mediaType : AVMediaType) :
    Proceeds app { app with
      permissionRequests := app.permissionRequests ++ [⟨mediaType, owner⟩] } := by
  obtain ⟨hbound, hmade, honly, -⟩ := hchain
  simp only [Proofs.owners, List.mem_append, not_or] at honly
  refine ⟨⟨?_, ?_, hbound.media, hbound.peer, hbound.dialled, hbound.invited⟩, .of_eq rfl rfl⟩
  · -- The new owner stands between the two parts of the list.
    have hnodup := List.nodup_append.mp hbound.owners
    simp only [Proofs.owners, List.map_append, List.map_cons, List.map_nil]
    refine List.nodup_append.mpr ⟨?_, hnodup.2.1, ?_⟩
    · refine List.nodup_append.mpr ⟨hnodup.1, by simp, ?_⟩
      rintro c hc _ hmem rfl
      exact honly.1 (List.mem_singleton.mp hmem ▸ hc)
    · intro c hc d hd
      rcases List.mem_append.mp hc with hc | hc
      · exact hnodup.2.2 c hc d hd
      · rintro rfl
        exact honly.2 (List.mem_singleton.mp hc ▸ hd)
  · intro c hc
    simp only [Proofs.owners, List.map_append, List.map_cons, List.map_nil, List.mem_append,
      List.mem_singleton] at hc
    rcases hc with (hc | rfl) | hc
    · exact hbound.made c (List.mem_append_left _ hc)
    · exact hmade
    · exact hbound.made c (List.mem_append_right _ hc)

/-- A chain that is refused or waits needs no live connection. -/
theorem proceeds_chainEnd {denies grants : Bool} (hchain : ChainFor owner (grants = true) app)
    (h : ChainEnd owner denies grants app app') : Proceeds app app' := by
  cases h with
  | denied mediaType _ _ heq =>
    subst heq
    exact proceeds_didError hchain.bound _
  | granted _ hgrants hcall => exact proceeds_handleCall (hchain.mono fun _ => hgrants) hcall
  | asked mediaType _ _ heq =>
    subst heq
    exact proceeds_ask hchain mediaType

/-- A chain begins for a connection without another one. -/
theorem proceeds_permissionFsmRequest (hchain : ChainFor owner True app)
    (h : SipManager.permissionFsmRequest auth owner app = some app') : Proceeds app app' :=
  proceeds_chainEnd (hchain.mono fun _ => trivial) (chainEnd_permissionFsmRequest h)

end Chain

/-! ### Steps -/

section Steps
variable {app app' : App} {m : Nat}

/-- A chain goes on, and its request is gone. -/
theorem proceeds_permissionAnswered {auth : AVMediaType → AVAuthorizationStatus} {n : Nat}
    {granted : Bool} (hbound : Bound app)
    (hattached : Attached app (.permissionAnswered auth n granted))
    (h : SipManager.permissionAnswered auth n granted app = some app') : Proceeds app app' := by
  obtain ⟨request, hrequest, h⟩ := chainEnd_permissionAnswered h
  have hmap : (app.permissionRequests.map (·.owner))[n]? = some request.owner := by
    simp [hrequest]
  have hnodup := List.nodup_append.mp hbound.owners
  -- The request that is answered was the only one of its connection.
  have hgone : request.owner ∉ (app.permissionRequests.eraseIdx n).map (·.owner) := by
    rw [← List.eraseIdx_map, List.mem_eraseIdx_iff_getElem?]
    rintro ⟨i, hne, hi⟩
    obtain ⟨hlt, -⟩ := List.getElem?_eq_some_iff.mp hi
    exact hne ((List.getElem?_inj hlt hnodup.1).mp (hi.trans hmap.symm))
  have hsub : List.Sublist
      (owners { app with permissionRequests := app.permissionRequests.eraseIdx n }) (owners app) :=
    ((List.eraseIdx_sublist _ _).map _).append_right _
  have hbound' : Bound { app with permissionRequests := app.permissionRequests.eraseIdx n } :=
    ⟨hbound.owners.sublist hsub, fun c hc => hbound.made c (hsub.subset hc), hbound.media,
      hbound.peer, hbound.dialled, hbound.invited⟩
  have hmem : request.owner ∈ app.permissionRequests.map (·.owner) := List.mem_of_getElem? hmap
  have hproceeds := by
    refine proceeds_chainEnd ⟨hbound', ?_, ?_, ?_⟩ h
    · exact hbound.made _ (List.mem_append_left _ hmem)
    · simp only [Proofs.owners, List.mem_append, not_or]
      exact ⟨hgone, fun hmedia => hnodup.2.2 _ hmem _ hmedia rfl⟩
    · exact fun hgrants hnone => hattached hnone request hrequest hgrants
  exact hproceeds.after (.of_eq rfl rfl)

/-- The session is started, or an error ends the call of the delegate. -/
theorem proceeds_turnAnswered {success : Bool} (hbound : Bound app)
    (h : SipManager.turnAnswered m success app = some app') : Proceeds app app' := by
  obtain ⟨media, hm, ⟨-, media', hstart, rfl⟩ | ⟨-, rfl⟩⟩ := turnAnswered_cases h
  · obtain ⟨howner, hinit, hgathered, hpeer⟩ := state_startSignalingIfReady hstart
    have hbound' : Bound (app.setMedia m fun _ => media') :=
      hbound.setMedia m fun x hx => by
        cases hm.symm.trans hx
        exact ⟨howner, fun h h' => ⟨hinit ▸ h, hgathered ▸ h'⟩, hpeer⟩
    refine ⟨hbound'.reportLocalVideo media', Quiet.trans ?_ (.reportLocalVideo _ _)⟩
    exact .of_eq rfl rfl
  · refine (proceeds_didError (hbound.setMedia m fun x hx => ?_) .turn).after (.of_eq rfl rfl)
    cases hm.symm.trans hx
    exact ⟨rfl, fun hinit hnone => ⟨hinit, hnone⟩, id⟩

/-- The session is disconnected for an error. -/
theorem proceeds_mediaError (hbound : Bound app) (error : CallError) :
    Proceeds app (SipManager.mediaDidError error (app.setMedia m MediaWebRTC.disconnect)) :=
  (proceeds_didError (hbound.setMedia_disconnect m) error).after (.of_eq rfl rfl)

/-- The peer connection takes the description, or an error ends the call of the delegate. -/
theorem proceeds_didCreateSessionDescription {sdp : Option CString} (hbound : Bound app)
    (h : SipManager.didCreateSessionDescription m sdp app = some app') : Proceeds app app' := by
  rcases didCreateSessionDescription_cases h with ⟨-, rfl⟩ | ⟨text, -, rfl⟩
  · exact proceeds_mediaError hbound .sdp
  · refine ⟨hbound.setMedia m fun media _ => ⟨rfl, fun hinit hnone => ⟨hinit, hnone⟩, ?_⟩,
      .of_eq rfl rfl⟩
    exact fun hpeer hstate => by simpa using hpeer hstate

/-- An error ends the call of the delegate. -/
theorem proceeds_didSetSessionDescriptionWithError (hbound : Bound app)
    (h : SipManager.didSetSessionDescriptionWithError m app = some app') : Proceeds app app' := by
  rw [didSetSessionDescriptionWithError_eq h]
  exact proceeds_mediaError hbound .sdp

/-- One more candidate. -/
theorem proceeds_didGenerateIceCandidate {localDescription : CString} (hbound : Bound app)
    (h : SipManager.didGenerateIceCandidate m localDescription app = some app') :
    Proceeds app app' := by
  rw [didGenerateIceCandidate_eq h]
  refine ⟨hbound.setMedia m fun media _ => ⟨rfl, fun hinit hnone => ⟨hinit, hnone⟩, ?_⟩,
    .of_eq rfl rfl⟩
  exact fun hpeer hstate => by simpa using hpeer hstate

/-- The application keeps a connection, or lets it go. -/
theorem proceeds_release (hbound : Bound app) (c : Nat) (held : Bool) :
    Proceeds app (app.setConnection c fun connection => { connection with held := held }) :=
  ⟨hbound.setConnection c (fun _ => ⟨rfl, rfl, rfl⟩) fun _ _ => id,
    .setConnection app c (fun _ => rfl) fun _ => id⟩

/-- A new connection that is not the dialled one yet. -/
theorem proceeds_makeConnection (hbound : Bound app) (connection : RCConnection)
    (hinvited : connection.invited = false) :
    Proceeds app (RCDevice.makeConnection connection app) := by
  have hconnection := App.connection?_makeConnection connection app
  -- Whatever has a session or was dialled is one of the connections before.
  have hold : ∀ c, c < app.connections.length →
      (RCDevice.makeConnection connection app).connection? c = app.connection? c := fun c hc => by
    rw [hconnection, if_neg hc.ne]
  have hwas : ∀ c, WasInvited (RCDevice.makeConnection connection app) c ↔ WasInvited app c := by
    intro c
    simp only [WasInvited, hconnection]
    split
    · rename_i hc
      have hnone : app.connection? c = none := by simp [App.connection?, hc]
      simp [hinvited, hnone]
    · rfl
  refine ⟨⟨hbound.owners, fun c hc => ?_, fun m hm => ?_, hbound.peer, fun c hc => ?_,
    fun c hc => hbound.invited c ((hwas c).mp hc)⟩, rfl, hwas, fun c hc => ?_⟩
  · exact (hbound.made c hc).trans (by simp [RCDevice.makeConnection])
  · obtain ⟨media, hmedia, hlive, hdialled, hgather⟩ := hbound.media m hm
    refine ⟨media, hmedia, ?_, hdialled, fun hinit hnone => ?_⟩
    · simpa only [App.Live, hold _ hlive.lt] using hlive
    · rw [hwas]
      exact hgather hinit hnone
  · obtain ⟨k, hk, hparams⟩ := hbound.dialled c hc
    have hlt := App.isSome_connection?.mp (Option.isSome_iff_exists.mpr ⟨k, hk⟩)
    exact ⟨k, (hold c hlt).trans hk, hparams⟩
  · obtain ⟨k, hk, hstate⟩ := Option.map_eq_some_iff.mp hc
    have hlt := App.isSome_connection?.mp (Option.isSome_iff_exists.mpr ⟨k, hk⟩)
    simpa only [Over, App.connectionState, hold c hlt] using hc

/-- The call of the connection that was made last is placed. -/
theorem proceeds_invite {auth : AVMediaType → AVAuthorizationStatus} {owner : Nat}
    {recipient : CString} {video : Bool} {headers : Option NSDictionary} {invited : Bool}
    (hbound : Bound app) (hlive : app.Live owner) (honly : owner ∉ owners app)
    (h : SipManager.invite auth owner recipient video headers app = some (app', invited)) :
    Proceeds app app' := by
  rcases invite_cases h with ⟨-, -, rfl⟩ | ⟨hmedia, -, hchain⟩
  · exact ⟨hbound.of_eq rfl rfl rfl rfl rfl rfl, .of_eq rfl rfl⟩
  · obtain ⟨connection, hconnection, hstate⟩ := hlive
    have hconnection : app.connection? owner = some connection := hconnection
    set destination := SipManager.convert2FullURI app.params recipient app.params.registrar
    set mark : RCConnection → RCConnection := fun connection =>
      { connection with destination := destination, headers := headers }
    set app₁ : App := dial owner recipient video headers app with happ₁
    have hafter : app₁.connection? owner = some (mark connection) := by
      rw [happ₁, dial, App.connection?_setConnection, if_pos rfl]
      exact congrArg (Option.map mark) hconnection
    have hquiet : Quiet app app₁ := by
      refine Quiet.trans ?_ (.setConnection _ _ ?_ ?_)
      · exact .of_eq rfl rfl
      · exact fun _ => rfl
      · exact fun _ => id
    have hlength : app₁.connections.length = app.connections.length := by
      simp [happ₁, dial, App.setConnection]
    -- There is no session while the parameters of another call are replaced.
    have hbound₁ : Bound app₁ := by
      refine ⟨hbound.owners, fun c hc => hlength ▸ hbound.made c hc, fun m hm => ?_, hbound.peer,
        fun c hc => ?_, fun c hc => hbound.invited c ((hquiet.was c).mp hc)⟩
      · cases hmedia.symm.trans hm
      · cases hc
        exact ⟨mark connection, hafter, rfl, rfl⟩
    have hproceeds := by
      refine proceeds_permissionFsmRequest ⟨hbound₁, ?_, honly, fun _ _ => ⟨?_, rfl⟩⟩ hchain
      · exact App.isSome_connection?.mp (by rw [hafter]; rfl)
      · exact ⟨mark connection, hafter, hstate⟩
    exact hproceeds.after hquiet

/-- A new connection has no chain yet. -/
theorem proceeds_connect {auth : AVMediaType → AVAuthorizationStatus} {recipient : CString}
    {video : Bool} {headers : Option NSDictionary} (hbound : Bound app)
    (h : (RCDevice.connect auth recipient video headers app).map (·.1) = some app') :
    Proceeds app app' := by
  rcases connect_cases h with ⟨-, rfl⟩ | ⟨-, app₂, invited, hinvite, rfl⟩
  · exact ⟨hbound, .refl app'⟩
  · obtain ⟨hbound₁, hquiet⟩ :=
      proceeds_makeConnection hbound { incoming := false, state := .pending } rfl
    have hlive : (RCDevice.makeConnection { incoming := false, state := .pending } app).Live
        app.connections.length := by
      simp [App.Live, App.connection?_makeConnection]
    have hproceeds := proceeds_invite hbound₁ hlive
      (fun hmem => (hbound.made _ hmem).false) hinvite
    exact (proceeds_release hproceeds.1 _ invited).after (hquiet.trans hproceeds.2)

/-- A method that has piped an `i`, the first one for its connection. -/
structure Places (input : AppInput) (app app' : App) : Prop where
  piped : ∃ piped c, app'.piped = app.piped ++ [piped] ∧ isInvite piped.command ∧
    piped.source = some c ∧ InviteOfCall app input piped ∧ ¬ WasInvited app c ∧
    ∀ x, WasInvited app' x ↔ WasInvited app x ∨ x = c
  staysOver : ∀ c, Over app c → Over app' c

/-- What `mediaController:didCreateSdp:isInitiator:` pipes. -/
theorem didCreateSdp_cases {state : Option SipManager.MediaState}
    {active : SipManager.ActiveCallParams} {params : SipManager.Params} {sdp : Option CString}
    {initiator : Bool} {commands : List Command}
    (h : SipManager.didCreateSdp state active params sdp initiator = some commands) :
    (initiator && commands ≠ []) = false ∧ (∀ command ∈ commands, isInvite command = false) ∨
      initiator = true ∧ state.getD .disconnected ≠ .disconnected ∧
        ∃ destination ∈ active.destination, commands =
          [.invite destination sdp params.password (active.sipHeaders.map serializedHeaders)] := by
  unfold SipManager.didCreateSdp at h
  split at h
  · -- The media is disconnected already, and nothing is written.
    cases h
    exact .inl ⟨by simp, by simp⟩
  · rename_i hstate
    split at h
    · rename_i hinitiator
      obtain ⟨destination, hdestination, h⟩ := Option.bind_eq_some_iff.mp h
      cases h
      -- The offer goes out with the invite.
      exact .inr ⟨hinitiator, hstate, destination, hdestination, rfl⟩
    · rename_i hinitiator
      obtain ⟨sdp', -, h⟩ := Option.bind_eq_some_iff.mp h
      cases h
      -- The other side placed the call, and it is answered.
      exact .inl ⟨by simp [hinitiator], by simp [isInvite]⟩

/-- Commands other than `i` are piped. -/
theorem proceeds_pipeAll (hbound : Bound app) (source : Option Nat) {commands : List Command}
    (hplain : ∀ command ∈ commands, isInvite command = false) :
    Proceeds app (commands.foldl (fun app command => app.pipe source command) app) := by
  induction commands generalizing app with
  | nil => exact ⟨hbound, .refl app⟩
  | cons command commands ih =>
    simp only [List.mem_cons, forall_eq_or_imp] at hplain
    exact (ih (hbound.pipe source command) hplain.2).after (.pipe app source hplain.1)

/-- An initiator that gathers its candidates is the session of the call that was dialled. -/
theorem dialled_of_initiator {media : MediaWebRTC} (hbound : Bound app)
    (hattached : Attached app (.iceGatheringComplete m)) (hm : app.media? m = some media)
    (hinitiator : media.isInitiator = true) (hnone : media.candidatesGathered = false) :
    app.media = some m ∧ ¬ WasInvited app media.owner ∧
      ∃ connection, app.connection? media.owner = some connection ∧
        connection.state ≠ .disconnected ∧
        app.activeCallParams.destination = some connection.destination ∧
        app.activeCallParams.sipHeaders = connection.headers := by
  -- A session that was released has stopped to be the initiator.
  have hcurrent : app.media = some m := by
    by_contra hne
    have := hattached hne media hm
    rw [hinitiator] at this
    cases this
  obtain ⟨media', hmedia', ⟨connection, hconnection, hlive⟩, hdialled, hgather⟩ :=
    hbound.media m hcurrent
  cases hm.symm.trans hmedia'
  have hconnection : app.connection? media.owner = some connection := hconnection
  obtain ⟨connection', hconnection', hdest, hheaders⟩ := hbound.dialled _ hdialled
  cases hconnection.symm.trans hconnection'
  exact ⟨hcurrent, hgather hinitiator hnone, connection, hconnection, hlive, hdest, hheaders⟩

/-- A session that gathers has a local description. -/
theorem localDescription_of_gathers {media : MediaWebRTC} (hbound : Bound app)
    (hm : app.media? m = some media) (hgathers : media.gathers)
    (hconnected : media.state ≠ .disconnected) :
    ∃ sdp, media.peerConnection.bind (·.localDescription) = some sdp := by
  obtain ⟨peerConnection, hpeer⟩ := Option.isSome_iff_exists.mp
    (hbound.peer media (List.mem_of_getElem? hm) hconnected)
  have hsome : peerConnection.localDescription.isSome := by
    simp only [MediaWebRTC.gathers, hpeer, Option.all_some, Bool.and_eq_true] at hgathers
    exact hgathers.2
  obtain ⟨sdp, hsdp⟩ := Option.isSome_iff_exists.mp hsome
  exact ⟨sdp, by simp [hpeer, hsdp]⟩

/-- A connection is marked as invited. -/
theorem wasInvited_mark {c : Nat} {connection : RCConnection} {f : RCConnection → RCConnection}
    (hconnection : app.connection? c = some connection) (hf : (f connection).invited = true)
    (x : Nat) : WasInvited (app.setConnection c f) x ↔ WasInvited app x ∨ x = c := by
  simp only [WasInvited, App.connection?_setConnection]
  split
  · rename_i heq
    subst heq
    exact iff_of_true ⟨f connection, by simp [hconnection], hf⟩ (.inr rfl)
  · rename_i hne
    exact (or_iff_left fun h => hne h.symm).symm

/-- The one place where an `i` is piped. -/
theorem places_candidateGatheringComplete {media : MediaWebRTC} (hbound : Bound app)
    (hattached : Attached app (.iceGatheringComplete m)) (hm : app.media? m = some media)
    (hgathers : media.gathers)
    (h : SipManager.candidateGatheringComplete m media app = some app') :
    Bound app' ∧ (Quiet app app' ∨ Places (.iceGatheringComplete m) app app') := by
  rcases candidateGatheringComplete_cases h with ⟨-, rfl⟩ | ⟨hnone, h⟩
  · exact ⟨hbound, .inl (.refl app')⟩
  · set app₁ := app.setMedia m fun media => { media with candidatesGathered := true } with happ₁
    have hbound₁ : Bound app₁ := hbound.setMedia m fun _ _ => ⟨rfl, nofun, id⟩
    have hquiet : Quiet app app₁ := .of_eq rfl rfl
    obtain ⟨commands, hcommands, h⟩ := Option.bind_eq_some_iff.mp h
    cases h
    -- An answer is piped for a session that is not the initiator, and nothing for one that is over.
    rcases didCreateSdp_cases hcommands with ⟨hmark, hplain⟩ | ⟨hinitiator, hstate, hinvite⟩
    · simp only [hmark, Bool.or_false]
      obtain ⟨hbound₂, hquiet₂⟩ := proceeds_pipeAll hbound₁ (some media.owner) hplain
      exact ⟨hbound₂.setConnection _ (fun _ => ⟨rfl, rfl, rfl⟩) fun _ _ => id,
        .inl ((hquiet.trans hquiet₂).trans (.setConnection _ _ (fun _ => rfl) fun _ => id))⟩
    · obtain ⟨destination, hdestination, rfl⟩ := hinvite
      obtain ⟨hcurrent, hfirst, connection, hconnection, hlive, hdest, hheaders⟩ :=
        dialled_of_initiator hbound hattached hm hinitiator hnone
      have hdestination : destination = connection.destination :=
        Option.some_inj.mp (hdestination.symm.trans hdest)
      have hmedia₁ : app₁.media? m = some { media with candidatesGathered := true } := by
        simp [happ₁, App.media?_setMedia, hm]
      have hconnected : media.state ≠ .disconnected := by
        have hmediaState : app₁.mediaState = some media.state := by
          have hcurrent₁ : app₁.media = some m := hcurrent
          simp [App.mediaState, hcurrent₁, hmedia₁]
        simpa [hmediaState] using hstate
      obtain ⟨sdp, hsdp⟩ := localDescription_of_gathers hbound hm hgathers hconnected
      have hmem : media.owner ∈ app₁.medias.map (·.owner) :=
        List.mem_map.mpr ⟨_, List.mem_of_getElem? hmedia₁, rfl⟩
      refine ⟨(hbound₁.pipe _ _).mark (fun _ => ⟨rfl, rfl, rfl⟩) hmem ?_, .inr ⟨?_, ?_⟩⟩
      · intro x hx media' hmedia' _
        cases hcurrent.symm.trans hx
        cases hmedia₁.symm.trans hmedia'
        rfl
      · refine ⟨_, media.owner, rfl, rfl, rfl, ?_, hfirst, fun x => ?_⟩
        · refine ⟨media.owner, connection, m, media, sdp, app.params.password, hconnection, hlive,
            rfl, hm, rfl, hsdp, ?_⟩
          have hheaders : app₁.activeCallParams.sipHeaders = connection.headers := hheaders
          rw [hdestination, hsdp, hheaders]
          rfl
        · exact wasInvited_mark (by exact hconnection) (by simp [hinitiator]) x
      · refine fun _ hover => over_setConnection _ ?_ hover
        exact fun _ => id

/-- WebRTC has gathered, and the description goes out. -/
theorem places_iceGatheringComplete (hbound : Bound app)
    (hattached : Attached app (.iceGatheringComplete m))
    (h : SipManager.iceGatheringComplete m app = some app') :
    Bound app' ∧ (Quiet app app' ∨ Places (.iceGatheringComplete m) app app') := by
  obtain ⟨media, hm, hgathers, ⟨-, h⟩ | ⟨-, rfl⟩⟩ := iceGatheringComplete_cases h
  · exact places_candidateGatheringComplete hbound hattached hm hgathers h
  · obtain ⟨hbound', hquiet⟩ := proceeds_didError hbound .ice
    exact ⟨hbound', .inl hquiet⟩

/-- One step of a set-up keeps the invariant and pipes an `i` for its own call at most. -/
theorem places_appStep {jsonObject : CString → Option NSDictionary} {input : AppInput}
    (hbound : Bound app) (hsetUp : SetUp input) (hattached : Attached app input)
    (h : appStep jsonObject app input = some app') :
    Bound app' ∧ (Quiet app.silent app' ∨ Places input app.silent app') := by
  have hbound : Bound app.silent := hbound.of_eq rfl rfl rfl rfl rfl rfl
  have hattached : Attached app.silent input := by
    cases input <;> exact hattached
  -- Most inputs only carry the calls on, and write no invite.
  have hproceeds : ∀ {app'}, Proceeds app.silent app' →
      Bound app' ∧ (Quiet app.silent app' ∨ Places input app.silent app') :=
    fun h => ⟨h.1, .inl h.2⟩
  unfold appStep appHandle at h
  cases input with
  | connect auth recipient video headers => exact hproceeds (proceeds_connect hbound h)
  | disconnect c =>
    obtain ⟨-, h⟩ := ofHeld_eq_some h
    cases h
    exact hproceeds ⟨hbound.disconnect c, .disconnect c _⟩
  | release c =>
    obtain ⟨-, h⟩ := ofHeld_eq_some h
    cases h
    exact hproceeds (proceeds_release hbound c false)
  | permissionAnswered auth n granted =>
    exact hproceeds (proceeds_permissionAnswered hbound hattached h)
  | turnAnswered m success => exact hproceeds (proceeds_turnAnswered hbound h)
  | didCreateSessionDescription m sdp =>
    exact hproceeds (proceeds_didCreateSessionDescription hbound h)
  | didSetSessionDescriptionWithError m =>
    exact hproceeds (proceeds_didSetSessionDescriptionWithError hbound h)
  | didGenerateIceCandidate m localDescription =>
    exact hproceeds (proceeds_didGenerateIceCandidate hbound h)
  -- This is the input that may place a call.
  | iceGatheringComplete m => exact places_iceGatheringComplete hbound hattached h
  | _ => exact hsetUp.elim

end Steps

/-! ### Runs -/

/-- A step without an `i` does what a step of a set-up should do. -/
theorem Quiet.placesCalls {app app' : App} (h : Quiet app.silent app') (input : AppInput) :
    PlacesCalls app input app' := by
  refine ⟨fun piped hpiped hinvite => ?_, h.staysOver⟩
  have hmem : piped.source ∈ Proofs.invites app' :=
    List.mem_map_of_mem (List.mem_filter.mpr ⟨hpiped, hinvite⟩)
  rw [h.invites] at hmem
  cases hmem

/-- What is piped then is what the call was dialled with. -/
theorem Places.placesCalls {app app' : App} {input : AppInput}
    (h : Places input app.silent app') : PlacesCalls app input app' := by
  obtain ⟨⟨piped, c, hpiped, -, -, hcall, -⟩, hover⟩ := h
  refine ⟨fun piped' hmem _ => ?_, hover⟩
  rw [hpiped] at hmem
  rw [List.mem_singleton.mp hmem]
  exact hcall

/-- The connection that the step piped an `i` for. -/
theorem Places.invites {app app' : App} {input : AppInput} (h : Places input app.silent app') :
    ∃ c, invites app' = [some c] ∧ ¬ WasInvited app c ∧
      ∀ x, WasInvited app' x ↔ WasInvited app x ∨ x = c := by
  obtain ⟨⟨piped, c, hpiped, hinvite, hsource, -, hfirst, hwas⟩, -⟩ := h
  refine ⟨c, ?_, hfirst, hwas⟩
  have hpiped : app'.piped = [piped] := hpiped
  simp [Proofs.invites, hpiped, hinvite, hsource]

/-- The SDK before the first call. -/
structure NoCalls (app : App) : Prop where
  connections : app.connections = []
  medias : app.medias = []
  permissionRequests : app.permissionRequests = []
  media : app.media = none
  dialled : app.dialled = none

/-- Before the first call nothing is bound to anything. -/
theorem NoCalls.bound {app : App} (h : NoCalls app) : Bound app := by
  refine ⟨by simp [owners, h.medias, h.permissionRequests],
    by simp [owners, h.medias, h.permissionRequests], by simp [h.media], by simp [h.medias],
    by simp [h.dialled], fun c hc => ?_⟩
  simp [WasInvited, App.connection?, h.connections] at hc

/-- In a run of set-ups whose steps are attached to their calls, every `i` is piped for a call
that is not over, with the destination, the headers and the SDP of that call, and no call gets
a second one. -/
theorem places_calls (jsonObject : CString → Option NSDictionary) (start : App)
    (hstart : NoCalls start) (inputs : List AppInput) (hsetUp : ∀ input ∈ inputs, SetUp input)
    (hattached : AllSteps (appStep jsonObject) (fun app input _ => Attached app input) start
      inputs) :
    AllSteps (appStep jsonObject) PlacesCalls start inputs ∧
      (outputs (appStep jsonObject) invites start inputs).Nodup := by
  have hsteps := hattached.and_inputs hsetUp
  refine ⟨AllSteps.of_inv Bound ?_ hstart.bound hsteps, (nodup_outputs Bound
    (fun app o => ∃ c, o = some c ∧ WasInvited app c) ?_ hstart.bound hsteps).1⟩
  · -- Each `i` is of its own call.
    intro app input app' hbound hstep ⟨hattached, hsetUp⟩
    obtain ⟨hbound', hquiet | hplaces⟩ := places_appStep hbound hsetUp hattached hstep
    · exact ⟨hbound', hquiet.placesCalls input⟩
    · exact ⟨hbound', hplaces.placesCalls⟩
  · -- A connection that an `i` was piped for stays marked, and a marked one gets none.
    intro app input app' hbound hstep ⟨hattached, hsetUp⟩
    obtain ⟨hbound', hquiet | hplaces⟩ := places_appStep hbound hsetUp hattached hstep
    · have hnone : invites app' = [] := hquiet.invites
      refine ⟨hbound', by simp [hnone], by simp [hnone], ?_⟩
      rintro o ⟨c, rfl, hc⟩
      exact ⟨c, rfl, (hquiet.was c).mpr hc⟩
    · obtain ⟨c, hinvites, hfirst, hwas⟩ := hplaces.invites
      refine ⟨hbound', by simp [hinvites], ?_, ?_⟩
      · simp only [hinvites, List.mem_singleton, forall_eq, Option.some.injEq, exists_eq_left']
        exact ⟨hfirst, (hwas c).mpr (.inr rfl)⟩
      · rintro o ⟨x, rfl, hx⟩
        exact ⟨x, rfl, (hwas x).mpr (.inl hx)⟩

/-- The set-up of a call to Bob, up to the end of the ICE gathering. `status` is what the
system answers about the microphone. -/
def callBob (status : AVAuthorizationStatus) : AppInput :=
  .connect (fun _ => status) "sip:bob@h".toList false none

/-- The offer is made, and a candidate is found. -/
def gather : List AppInput :=
  [.didCreateSessionDescription 0 (some "v=0".toList),
    .didGenerateIceCandidate 0 "v=0 a=candidate".toList]

/-- A call is placed with the local description that holds its candidate. -/
theorem places_calls_bob :
    AllSteps (appStep Json.read) PlacesCalls (RCDevice.initWithParams {} .reachableViaWiFi)
        (callBob .authorized :: gather ++ [.iceGatheringComplete 0]) ∧
      (outputs (appStep Json.read) invites (RCDevice.initWithParams {} .reachableViaWiFi)
        (callBob .authorized :: gather ++ [.iceGatheringComplete 0])).Nodup :=
  places_calls Json.read _ ⟨rfl, rfl, rfl, rfl, rfl⟩ _ (by simp [callBob, gather, SetUp])
    (by decide)

/-- The user hangs up while the prompt for the microphone is shown, and then grants it: the
call is placed although its connection is Disconnected. -/
theorem granted_after_disconnect_places_call :
    ∃ app app', run (appStep Json.read) (RCDevice.initWithParams {} .reachableViaWiFi)
        ([callBob .notDetermined, .disconnect 0, .permissionAnswered (fun _ => .authorized) 0 true]
          ++ gather) = some app ∧
      Over app 0 ∧ appStep Json.read app (.iceGatheringComplete 0) = some app' ∧
      invites app' = [some 0] :=
  ⟨_, _, rfl, rfl, rfl, rfl⟩

end RestCommSdk.Proofs
