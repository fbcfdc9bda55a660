import RestCommSdk.Lib.Run
import RestCommSdk.Media.MediaSession
import RestCommSdk.Proofs.CallEffects

/-!
# `RestCommSdk.Proofs.ReleasedSessions`: media sessions after `disconnect`

`disconnect` returns at once from a session that waits for TURN, and tells nobody to stop. So
whatever is still on its way is handled as before: the answer of the TURN server starts the
session, and a queued callback is passed on to the delegate.

`staysReleased_iff` says when a session stays released along a run: exactly when, after
`disconnect`, nothing arrives that `ArrivesLate` lists. A run is an order of handlers, each of which
comes to its end before the next one starts; a `disconnect` on the main thread in the middle of the
TURN completion, which runs on a thread of its own, is not a run. `appHandle_media` ties the session
to the App: what the App does about one of these inputs is the step of the session, followed by
what it was told.
-/

set_option autoImplicit false

namespace RestCommSdk.Proofs

open RestCommSdk.Lib
open RestCommSdk.CliInterface (CString)
open RestCommSdk.SipManager (NSDictionary)

/-! ### The property and the condition -/

/-- Effects that only a session that is in use should have. -/
def ofSessionInUse : MediaEffect → Bool
  | .makesPeerConnection | .makesAudioTrack | .makesVideoTrack => true
  | .tells (.didCreateSdp ..) | .tells .didReceiveLocalVideoTrack => true
  | .tells (.didIceConnectAsInitiator _) => true
  | .tells (.didError _) | .tells .didReceiveRemoteVideoTrack => false

/-- A session that has been released does not become Connected, makes nothing, and calls nobody
on behalf of the call. -/
def StaysReleased (s : MediaSession) (s' : MediaSession) : Prop :=
  s.released = true → s'.media.state ≠ .connected ∧ ∀ e ∈ s'.effects, ofSessionInUse e = false

/-- What comes too late for a session that has been released. -/
def ArrivesLate (media : MediaWebRTC) : MediaInput → Prop
  | .connect params _ _ _ => MediaWebRTC.startsAtOnce params = true
  | .turnAnswered success => success = true
  | .iceConnected => True
  -- `disconnect` forgets that the candidates were reported, but not the candidates.
  | .iceGatheringComplete => 0 < media.iceCandidates ∧ media.candidatesGathered = false
  | _ => False

/-- Nothing arrives late in this step. -/
def InTime (s : MediaSession) (input : MediaInput) : Prop :=
  s.released = true → ¬ ArrivesLate s.media input

instance (s s' : MediaSession) : Decidable (StaysReleased s s') :=
  inferInstanceAs (Decidable (_ → _))

/-! ### One step -/

section Step
variable {media media' : MediaWebRTC} {effects : List MediaEffect} {input : MediaInput}

/-- A session that is disconnected is so. -/
@[simp] theorem disconnect_state (media : MediaWebRTC) :
    media.disconnect.state = .disconnected := by
  unfold MediaWebRTC.disconnect
  split
  · assumption
  · rfl

/-- Signalling makes a session Connected. -/
theorem connected_startSignaling {sdp : Option CString} (hcomplete : media.isTurnComplete = true)
    (h : media.startSignalingIfReady sdp = some media') : media'.state = .connected := by
  unfold MediaWebRTC.startSignalingIfReady at h
  rw [if_neg (by simp [hcomplete])] at h
  dsimp only at h
  split at h
  · cases h
    rfl
  · obtain ⟨message, -, h⟩ := Option.bind_eq_some_iff.mp h
    cases h
    rfl

/-- `connect:` signals at once, or leaves the state alone. -/
theorem state_connect_of_startsAtOnce {params : SipManager.Params} {sdp : Option CString}
    {initiator video : Bool} (h : media.connect params sdp initiator video = some media') :
    media'.state =
      if MediaWebRTC.startsAtOnce params then .connected else media.state := by
  unfold MediaWebRTC.connect at h
  dsimp only at h
  cases hturn : params.turnEnabled.getD false with
  -- Without TURN signaling starts at once.
  | false =>
    rw [if_neg (by simp [hturn])] at h
    rw [if_pos (by simp [MediaWebRTC.startsAtOnce, hturn])]
    exact connected_startSignaling rfl h
  | true =>
    rw [if_pos hturn] at h
    cases htype : iceConfigType params with
    | xirsysV2 =>
      rw [htype] at h
      rw [if_neg (by simp [MediaWebRTC.startsAtOnce, hturn, htype])]
      -- The Xirsys servers are asked first, and nothing starts before they answer.
      cases h
      rfl
    | xirsysV3 =>
      rw [htype] at h
      rw [if_neg (by simp [MediaWebRTC.startsAtOnce, hturn, htype])]
      dsimp only at h
      split at h <;> cases h <;> rfl
    | custom =>
      rw [htype] at h
      rw [if_pos (by simp [MediaWebRTC.startsAtOnce, htype])]
      -- The custom server is given, so signaling starts at once.
      exact connected_startSignaling rfl h

/-- What a released session should keep to in a step. -/
def KeepsQuiet (media' : MediaWebRTC) (effects : List MediaEffect) : Prop :=
  media'.state ≠ .connected ∧ ∀ e ∈ effects, ofSessionInUse e = false

/-- Connecting is loud, unless the session waits for TURN. -/
theorem keepsQuiet_connect_iff (hreleased : media.state ≠ .connected) {params : SipManager.Params}
    {sdp : Option CString} {initiator videoAllowed : Bool}
    (h : media.handle (.connect params sdp initiator videoAllowed) = some (media', effects)) :
    KeepsQuiet media' effects ↔
      ¬ ArrivesLate media (.connect params sdp initiator videoAllowed) := by
  obtain ⟨media₁, hconnect, heq⟩ := Option.bind_eq_some_iff.mp h
  cases heq
  have hstate := state_connect_of_startsAtOnce hconnect
  cases honce : MediaWebRTC.startsAtOnce params with
  | true =>
    rw [honce, if_pos rfl] at hstate
    -- It connects, although it was released.
    exact iff_of_false (fun hkeeps => hkeeps.1 hstate) fun hlate => hlate honce
  | false =>
    rw [honce, if_neg Bool.false_ne_true] at hstate
    -- It waits for the TURN answer, with no effect yet.
    refine iff_of_true ⟨?_, fun e he => nomatch he⟩ ?_
    · rw [hstate]
      exact hreleased
    · intro hlate
      rw [ArrivesLate, honce] at hlate
      cases hlate

/-- The answer of the TURN server starts the session when it is a success. -/
theorem keepsQuiet_turnAnswered_iff (hreleased : media.state ≠ .connected) {success : Bool}
    (h : media.handle (.turnAnswered success) = some (media', effects)) :
    KeepsQuiet media' effects ↔ ¬ ArrivesLate media (.turnAnswered success) := by
  simp only [MediaWebRTC.handle, MediaWebRTC.turnAnswered] at h
  split at h
  · cases h
  · cases success with
    | true =>
      obtain ⟨media₁, hstart, heq⟩ := Option.bind_eq_some_iff.mp h
      cases heq
      -- Signalling makes the session Connected, released or not.
      have hstate := connected_startSignaling rfl hstart
      exact iff_of_false (fun hkeeps => hkeeps.1 hstate) fun hlate => hlate rfl
    | false =>
      cases h
      exact iff_of_true ⟨hreleased, by simp [ofSessionInUse]⟩ Bool.false_ne_true

/-- The end of the gathering is reported when there are candidates, and it has not been since
`disconnect`. -/
theorem keepsQuiet_iceGatheringComplete_iff (hreleased : media.state ≠ .connected)
    (h : media.handle .iceGatheringComplete = some (media', effects)) :
    KeepsQuiet media' effects ↔ ¬ ArrivesLate media .iceGatheringComplete := by
  simp only [MediaWebRTC.handle] at h
  split at h
  · cases h
  · split at h
    · rename_i hcandidates
      cases hgathered : media.candidatesGathered with
      | true =>
        simp only [MediaWebRTC.candidateGatheringComplete, hgathered, if_true] at h
        cases h
        refine iff_of_true ⟨hreleased, fun e he => nomatch he⟩ ?_
        rintro ⟨-, hnot⟩
        rw [hgathered] at hnot
        cases hnot
      | false =>
        simp only [MediaWebRTC.candidateGatheringComplete, hgathered, Bool.false_eq_true,
          if_false] at h
        cases h
        refine iff_of_false ?_ fun hlate => hlate ⟨hcandidates, hgathered⟩
        rintro ⟨-, hquiet⟩
        -- What is reported is an SDP for the call.
        have hsdp := hquiet _ (List.mem_singleton_self _)
        cases hsdp
    · rename_i hcandidates
      cases h
      exact iff_of_true ⟨hreleased, by simp [ofSessionInUse]⟩ fun hlate => hcandidates hlate.1

/-- The step of a released session is as it should be exactly when its input is not late. -/
theorem handle_released_iff (hreleased : media.state ≠ .connected)
    (h : media.handle input = some (media', effects)) :
    KeepsQuiet media' effects ↔ ¬ ArrivesLate media input := by
  cases input with
  | connect params sdp initiator videoAllowed => exact keepsQuiet_connect_iff hreleased h
  | turnAnswered success => exact keepsQuiet_turnAnswered_iff hreleased h
  | processSignalingMessage message =>
    obtain ⟨media₁, hprocess, heq⟩ := Option.bind_eq_some_iff.mp h
    cases heq
    -- The answer goes to a peer connection, and nobody is told.
    obtain ⟨peerConnection, -, hprocess⟩ := Option.bind_eq_some_iff.mp hprocess
    cases hprocess
    exact iff_of_true ⟨hreleased, fun e he => nomatch he⟩ id
  | didCreateSessionDescription sdp =>
    simp only [MediaWebRTC.handle] at h
    split at h
    · cases h
    · cases sdp with
      | none =>
        cases h
        exact iff_of_true ⟨by simp, by simp [ofSessionInUse]⟩ id
      | some sdp =>
        cases h
        exact iff_of_true ⟨hreleased, fun e he => nomatch he⟩ id
  | didSetSessionDescriptionWithError failed =>
    simp only [MediaWebRTC.handle] at h
    split at h
    · cases h
    · split at h
      · cases h
        exact iff_of_true ⟨by simp, by simp [ofSessionInUse]⟩ id
      · cases h
        exact iff_of_true ⟨hreleased, fun e he => nomatch he⟩ id
  | didGenerateIceCandidate localDescription =>
    simp only [MediaWebRTC.handle] at h
    split at h
    · cases h
    · cases h
      exact iff_of_true ⟨hreleased, fun e he => nomatch he⟩ id
  | iceGatheringComplete => exact keepsQuiet_iceGatheringComplete_iff hreleased h
  | iceConnected =>
    simp only [MediaWebRTC.handle] at h
    split at h
    · cases h
    · cases h
      refine iff_of_false ?_ fun hlate => hlate trivial
      rintro ⟨-, hquiet⟩
      -- The delegate hears of a connection, as it does of one in use.
      have hconnect := hquiet _ (List.mem_singleton_self _)
      cases hconnect
  | iceFailed | didAddStream =>
    simp only [MediaWebRTC.handle] at h
    split at h
    · cases h
    · cases h
      exact iff_of_true ⟨hreleased, by simp [ofSessionInUse]⟩ id
  | disconnect =>
    cases h
    exact iff_of_true ⟨by simp, fun e he => nomatch he⟩ id

end Step

/-! ### Runs -/

/-- A session that has been released is not Connected. -/
def NotConnected (s : MediaSession) : Prop := s.released = true → s.media.state ≠ .connected

/-- Whoever calls `disconnect` leaves a session that is not Connected. -/
theorem state_of_callsDisconnect {media media' : MediaWebRTC} {effects : List MediaEffect}
    {input : MediaInput} (hcalls : input.callsDisconnect = true)
    (h : media.handle input = some (media', effects)) : media'.state = .disconnected := by
  cases input with
  | disconnect =>
    cases h
    exact disconnect_state media
  | didCreateSessionDescription sdp =>
    cases sdp with
    | some sdp => cases hcalls
    -- No description was made, which disconnects.
    | none =>
      simp only [MediaWebRTC.handle] at h
      split at h
      · cases h
      · cases h
        exact disconnect_state media
  | didSetSessionDescriptionWithError failed =>
    cases failed with
    | false => cases hcalls
    -- The description was not set, which disconnects.
    | true =>
      simp only [MediaWebRTC.handle] at h
      split at h
      · cases h
      · cases h
        exact disconnect_state media
  | _ => cases hcalls

/-- What a step of a session is. -/
theorem mediaStep_cases {s s' : MediaSession} {input : MediaInput}
    (h : mediaStep s input = some s') :
    s.media.handle input = some (s'.media, s'.effects) ∧
      s'.released = (s.released || input.callsDisconnect) := by
  unfold mediaStep at h
  split at h
  · cases h
  · obtain ⟨⟨media, effects⟩, hhandle, heq⟩ := Option.bind_eq_some_iff.mp h
    cases heq
    exact ⟨hhandle, rfl⟩

/-- A session stays released along a run exactly when, once `disconnect` has been called, the TURN
request does not succeed, no ICE connection comes up, no gathering ends that was not reported
since, and `connect:` does not signal. -/
theorem staysReleased_iff (owner : Nat) (inputs : List MediaInput) :
    AllSteps mediaStep (fun s _ s' => StaysReleased s s') (MediaSession.init owner) inputs ↔
      AllSteps mediaStep (fun s input _ => InTime s input) (MediaSession.init owner) inputs := by
  have hinit : NotConnected (MediaSession.init owner) := by
    intro hreleased
    cases hreleased
  refine AllSteps.iff_of_inv NotConnected ?_ hinit inputs
  intro s input s' hinv hstep
  obtain ⟨hhandle, hreleased'⟩ := mediaStep_cases hstep
  by_cases hreleased : s.released = true
  · have hiff := handle_released_iff (hinv hreleased) hhandle
    constructor
    · constructor
      · intro hstays _
        exact hiff.mp (hstays hreleased)
      · intro hintime _
        exact hiff.mpr (hintime hreleased)
    · intro hintime _
      exact (hiff.mpr (hintime hreleased)).1
  · refine ⟨iff_of_true (fun h => absurd h hreleased) fun h => absurd h hreleased, fun _ => ?_⟩
    -- The step itself may be the one that releases the session.
    intro hnow
    have hcalls : input.callsDisconnect = true := by
      rw [hreleased', Bool.or_eq_true] at hnow
      exact hnow.resolve_left hreleased
    rw [state_of_callsDisconnect hcalls hhandle]
    intro hstate
    cases hstate

/-- A call with TURN is hung up before the TURN server has answered. -/
def hungUpDuringTurn : List MediaInput :=
  [.connect { turnEnabled := some true, turnUrl := some "https://h/ice".toList } none true true,
    .disconnect, .turnAnswered true]

/-- The answer starts the session that was released: it is Connected, and has a peer connection,
the microphone and the camera. -/
theorem turn_answer_starts_released_session :
    ¬ AllSteps mediaStep (fun s _ s' => StaysReleased s s') (MediaSession.init 0)
        hungUpDuringTurn ∧
      ∃ s, run mediaStep (MediaSession.init 0) hungUpDuringTurn = some s ∧ s.released = true ∧
        s.media.state = .connected ∧
        s.effects = [.makesPeerConnection, .makesAudioTrack, .makesVideoTrack,
          .tells .didReceiveLocalVideoTrack, .tells .didReceiveLocalVideoTrack] :=
  ⟨by decide, _, rfl, rfl, rfl, rfl⟩

/-! ### The session as a part of the App -/

section App
variable (jsonObject : CString → Option NSDictionary) (app : App) (m : Nat)

/-- The input of the App that is about the session with this number. -/
def appInput : MediaInput → Option AppInput
  | .turnAnswered success => some (.turnAnswered m success)
  | .didCreateSessionDescription sdp => some (.didCreateSessionDescription m sdp)
  | .didSetSessionDescriptionWithError true => some (.didSetSessionDescriptionWithError m)
  | .didGenerateIceCandidate localDescription =>
    some (.didGenerateIceCandidate m localDescription)
  | .iceGatheringComplete => some (.iceGatheringComplete m)
  | .iceConnected => some (.iceConnected m)
  | .iceFailed => some (.iceFailed m)
  | .didAddStream => some (.didAddStream m)
  | _ => none

/-- The error as the connection gets it. -/
def MediaError.callError : MediaError → CallError
  | .turn => .turn
  | .sdp => .sdp
  | .ice => .ice

/-- What `SipManager` does when it is told. -/
def delivered (owner : Nat) (app : App) : MediaEffect → Option App
  | .tells (.didError error) => some (SipManager.mediaDidError (MediaError.callError error) app)
  | .tells (.didCreateSdp sdp initiator) => SipManager.mediaDidCreateSdp owner sdp initiator app
  | .tells .didReceiveLocalVideoTrack =>
    some (app.toDelegate fun c app => app.tell c .didReceiveLocalVideo)
  | .tells .didReceiveRemoteVideoTrack =>
    some (app.toDelegate fun c app => app.tell c .didReceiveRemoteVideo)
  | .tells (.didIceConnectAsInitiator initiator) =>
    some (app.toDelegate (if initiator then RCConnection.didReceiveOutgoingEstablished
      else RCConnection.didReceiveIncomingEstablished))
  | .makesPeerConnection | .makesAudioTrack | .makesVideoTrack => some app

variable {m}

/-- The value that is written is that for the session which is there. -/
theorem setMedia_eq {media : MediaWebRTC} (hm : app.media? m = some media)
    (f : MediaWebRTC → MediaWebRTC) : app.setMedia m f = app.setMedia m fun _ => f media := by
  have hmedias : app.medias.modify m f = app.medias.modify m fun _ => f media := by
    refine List.ext_getElem? fun x => ?_
    rw [List.getElem?_modify, List.getElem?_modify]
    by_cases hx : m = x
    · subst hx
      have hm : app.medias[m]? = some media := hm
      simp [hm]
    · simp [hx]
  exact congrArg (fun medias => { app with medias := medias }) hmedias

/-- A write of what is there. -/
theorem setMedia_self {media : MediaWebRTC} (hm : app.media? m = some media) :
    app.setMedia m (fun _ => media) = app := by
  -- Writing back with `id` changes no session, and `id` gives the one that is there.
  have hid : app.medias.modify m id = app.medias := List.modify_id m app.medias
  have hself : app.setMedia m id = app.setMedia m fun _ => media := setMedia_eq app hm id
  rw [← hself]
  exact congrArg (fun medias => { app with medias := medias }) hid

/-- What a session makes and tells when it starts. -/
theorem foldlM_signalingEffects (owner : Nat) (media : MediaWebRTC) :
    media.signalingEffects.foldlM (delivered owner) app
      = some (SipManager.reportLocalVideo media app) := by
  -- The App changes from one report to the next, so the induction is for any App.
  have htracks : ∀ (n : Nat) (app : App),
      (List.replicate n (MediaEffect.tells .didReceiveLocalVideoTrack)).foldlM (delivered owner) app
        = some ((List.replicate n ConnectionEvent.didReceiveLocalVideo).foldl
            (fun app event => app.toDelegate fun c app => app.tell c event) app) := by
    intro n
    induction n with
    | zero =>
      intro app
      rfl
    | succ n ih =>
      intro app
      rw [List.replicate_succ, List.replicate_succ, List.foldlM_cons, List.foldl_cons]
      exact ih _
  unfold MediaWebRTC.signalingEffects SipManager.reportLocalVideo
  cases hcomplete : media.isTurnComplete with
  | false => simp [MediaWebRTC.localVideoTracks, hcomplete]
  | true =>
    rw [if_pos rfl, List.append_assoc, List.foldlM_append]
    cases media.videoAllowed <;> exact htracks _ app

/-- A step of the session with this number, and then what it has told. -/
def relayed (m : Nat) (input : MediaInput) : Option App :=
  (app.media? m).bind fun media => (media.handle input).bind fun r =>
    r.2.foldlM (delivered media.owner) (app.setMedia m fun _ => r.1)

/-- The App does about the answer what the session says. -/
theorem turnAnswered_eq_relayed (success : Bool) :
    SipManager.turnAnswered m success app = relayed app m (.turnAnswered success) := by
  unfold relayed
  unfold SipManager.turnAnswered
  cases hm : app.media? m with
  -- A session that does not exist takes no answer.
  | none => rfl
  | some media =>
    simp only [MediaWebRTC.handle, MediaWebRTC.turnAnswered, Option.bind_some]
    cases hrequested : media.turnRequested with
    | false => simp [hrequested]
    | true =>
      cases success with
      -- The failure is one error, delivered by the manager.
      | false => simp [hrequested, delivered, MediaError.callError]
      | true =>
        cases hstart : { media with turnRequested := false
                                    isTurnComplete := true }.startSignalingIfReady
            media.offer with
        | none => simp [hrequested, hstart]
        -- The answer starts signaling, and its effects are relayed in order.
        | some started => simp [hrequested, hstart, foldlM_signalingEffects]

/-- The App does about the end of gathering what the session says. -/
theorem iceGatheringComplete_eq_relayed :
    SipManager.iceGatheringComplete m app = relayed app m .iceGatheringComplete := by
  unfold relayed
  unfold SipManager.iceGatheringComplete
  cases hm : app.media? m with
  | none => rfl
  | some media =>
    cases hgathers : media.gathers with
    | false => simp [MediaWebRTC.handle, hgathers]
    | true =>
      -- Without a candidate the gathering ends in an error.
      by_cases hcandidates : 0 < media.iceCandidates
      · unfold SipManager.candidateGatheringComplete
        cases hgathered : media.candidatesGathered <;>
          simp [MediaWebRTC.handle, MediaWebRTC.candidateGatheringComplete, hgathers,
            hcandidates, hgathered, setMedia_eq app hm fun media => { media with
              candidatesGathered := true }, setMedia_self app hm, delivered]
      · simp [MediaWebRTC.handle, hgathers, hcandidates, setMedia_self app hm, delivered,
          MediaError.callError]

/-- The App handles a callback of a session by the step of the session, and then what the session
has told. -/
theorem appHandle_media {input : MediaInput} {appInput' : AppInput}
    (h : appInput m input = some appInput') :
    appHandle jsonObject app appInput' = relayed app m input := by
  cases input with
  | connect | processSignalingMessage | disconnect => cases h
  | turnAnswered success =>
    cases h
    exact turnAnswered_eq_relayed app success
  | didCreateSessionDescription sdp =>
    cases h
    show SipManager.didCreateSessionDescription m sdp app = _
    unfold relayed SipManager.didCreateSessionDescription
    cases hm : app.media? m with
    | none => rfl
    | some media =>
      -- Before the TURN answer there is no peer connection whose delegate could be called.
      cases hcomplete : media.isTurnComplete with
      | false => simp [MediaWebRTC.handle, hcomplete]
      | true =>
        cases sdp with
        | none =>
          simp [MediaWebRTC.handle, hcomplete, setMedia_eq app hm, delivered,
            MediaError.callError]
        | some sdp => simp [MediaWebRTC.handle, hcomplete, setMedia_eq app hm]
  | didSetSessionDescriptionWithError failed =>
    cases failed with
    | false => cases h
    | true =>
      cases h
      show SipManager.didSetSessionDescriptionWithError m app = _
      unfold relayed SipManager.didSetSessionDescriptionWithError
      cases hm : app.media? m with
      | none => rfl
      | some media =>
        cases hcomplete : media.isTurnComplete with
        | false => simp [MediaWebRTC.handle, hcomplete]
        | true =>
          simp [MediaWebRTC.handle, hcomplete, setMedia_eq app hm, delivered,
            MediaError.callError]
  | didGenerateIceCandidate localDescription =>
    cases h
    show SipManager.didGenerateIceCandidate m localDescription app = _
    unfold relayed SipManager.didGenerateIceCandidate
    cases hm : app.media? m with
    | none => rfl
    | some media =>
      cases hgathers : media.gathers with
      | false => simp [MediaWebRTC.handle, hgathers]
      | true => simp [MediaWebRTC.handle, hgathers, setMedia_eq app hm]
  | iceGatheringComplete =>
    cases h
    exact iceGatheringComplete_eq_relayed app
  | iceConnected =>
    cases h
    show SipManager.iceConnected m app = _
    unfold relayed SipManager.iceConnected
    cases hm : app.media? m with
    | none => rfl
    | some media =>
      cases hcomplete : media.isTurnComplete <;> cases hinitiator : media.isInitiator <;>
        -- Connecting changes no field of the session, only what its delegate is told.
        simp [MediaWebRTC.handle, hcomplete, hinitiator, setMedia_self app hm, delivered]
  | iceFailed =>
    cases h
    show SipManager.iceFailed m app = _
    unfold relayed SipManager.iceFailed
    cases hm : app.media? m with
    | none => rfl
    | some media =>
      cases hcomplete : media.isTurnComplete <;>
        simp [MediaWebRTC.handle, hcomplete, setMedia_self app hm, delivered, MediaError.callError]
  | didAddStream =>
    cases h
    show SipManager.didAddStream m app = _
    unfold relayed SipManager.didAddStream
    cases hm : app.media? m with
    | none => rfl
    | some media =>
      cases hcomplete : media.isTurnComplete <;>
        simp [MediaWebRTC.handle, hcomplete, setMedia_self app hm, delivered]

end App

end RestCommSdk.Proofs
