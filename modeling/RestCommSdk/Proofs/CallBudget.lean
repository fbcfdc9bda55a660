import RestCommSdk.Lib.Budget
import RestCommSdk.Proofs.AppOutputs

/-!
# `RestCommSdk.Proofs.CallBudget`: no call without the user

Between the method that asks for a call and the command that sets it up lie permission prompts, a
TURN request and the gathering of candidates, and other calls may begin or end meanwhile. Each of
these callbacks reads what is in the global fields by then, so that a command may well carry what
belongs to another call. But there are never more of them than calls that were asked for or taken.

`potentialCalls` counts what can still lead to a command: the prompts without an answer, and the
sessions that can still send their SDP (`unspent`). A step that pipes a command uses one of these
up (`outputInvariant_accounted`), and only the methods for making and taking calls bring a new one.
-/

set_option autoImplicit false

namespace RestCommSdk.Proofs

open RestCommSdk.Lib
open RestCommSdk.CliInterface
open RestCommSdk.SipManager (NSDictionary Params Command MediaState)

/-! ### Media sessions -/

/-- The session can still send its SDP. -/
def unspent (media : MediaWebRTC) : Bool :=
  !media.candidatesGathered && !(media.isTurnComplete && media.peerConnection.isNone)

/-- A session waits for TURN before it starts, and forgets when it is released that it was the
initiator. -/
structure SoundSession (media : MediaWebRTC) : Prop where
  waiting : media.turnRequested = true → media.isTurnComplete = false
  started : media.state ≠ .disconnected → media.isTurnComplete = true
  released : media.isTurnComplete = true → media.peerConnection = none → media.isInitiator = false

section Sessions
variable {media media' : MediaWebRTC}

/-- Once TURN is out of the way, the signalling makes the peer connection. -/
theorem started_startSignalingIfReady {sdp : Option CString}
    (hcomplete : media.isTurnComplete = true)
    (h : media.startSignalingIfReady sdp = some media') :
    media'.isTurnComplete = true ∧ media'.peerConnection.isSome = true ∧
      media'.turnRequested = media.turnRequested ∧
        media'.candidatesGathered = media.candidatesGathered := by
  unfold MediaWebRTC.startSignalingIfReady at h
  rw [if_neg (by simp [hcomplete])] at h
  dsimp only at h
  split at h
  · cases h
    exact ⟨hcomplete, rfl, rfl, rfl⟩
  · obtain ⟨message, -, h⟩ := Option.bind_eq_some_iff.mp h
    cases h
    exact ⟨hcomplete, rfl, rfl, rfl⟩

/-- A session with a peer connection and no TURN request is sound. -/
theorem soundSession_started (hcomplete : media.isTurnComplete = true)
    (hpeer : media.peerConnection.isSome = true) (hrequested : media.turnRequested = false) :
    SoundSession media where
  waiting hwaits := by simp [hrequested] at hwaits
  started _ := hcomplete
  released _ hnone := by simp [hnone] at hpeer

/-- A session that was connected is sound. -/
theorem soundSession_connect {params : Params} {sdp : Option CString} {initiator video : Bool}
    {owner : Nat}
    (h : MediaWebRTC.connect params sdp initiator video { owner := owner } = some media) :
    SoundSession media := by
  -- Signaling starts at once when no TURN server is asked for.
  have hstart {media₀ : MediaWebRTC} (hcomplete : media₀.isTurnComplete = true)
      (hrequested : media₀.turnRequested = false)
      (hstart : media₀.startSignalingIfReady sdp = some media) : SoundSession media := by
    obtain ⟨hcomplete', hpeer, hrequested', -⟩ := started_startSignalingIfReady hcomplete hstart
    exact soundSession_started hcomplete' hpeer (hrequested'.trans hrequested)
  -- Otherwise nothing is started before the answer.
  have hwait {media₀ : MediaWebRTC} (hcomplete : media₀.isTurnComplete = false)
      (hstate : media₀.state = .disconnected) : SoundSession media₀ :=
    ⟨fun _ => hcomplete, fun hne => absurd hstate hne, fun htrue => by simp [hcomplete] at htrue⟩
  unfold MediaWebRTC.connect at h
  dsimp only at h
  split at h
  · split at h
    · cases h
      exact hwait rfl rfl
    · split at h <;> cases h <;> exact hwait rfl rfl
    · exact hstart rfl rfl h
  · exact hstart rfl rfl h

/-- A step of a session keeps it sound, and makes no SDP possible that was not. -/
theorem SoundSession.step (h : SoundSession media) (hstep : SessionStep media media') :
    SoundSession media' ∧ (unspent media' = true → unspent media = true) := by
  cases hstep with
  | disconnect =>
    unfold MediaWebRTC.disconnect
    split
    · exact ⟨h, id⟩
    · -- It was started, so TURN is complete, and once released it sets up nothing.
      rename_i hstate
      have hcomplete := h.started hstate
      exact ⟨⟨h.waiting, fun hne => absurd rfl hne, fun _ _ => rfl⟩, by simp [unspent, hcomplete]⟩
  | turnFailed =>
    exact ⟨⟨by simp, h.started, h.released⟩, id⟩
  | turnAnswered hrequested hstart =>
    -- The call it may set up from now on it could set up before.
    obtain ⟨hcomplete, hpeer, hrequested', hgathered⟩ := started_startSignalingIfReady rfl hstart
    refine ⟨soundSession_started hcomplete hpeer hrequested', ?_⟩
    have hwaits := h.waiting hrequested
    simp +contextual [unspent, hwaits, hgathered]
  | described candidates f =>
    -- The peer connection is neither made nor released.
    refine ⟨⟨h.waiting, h.started, fun hcomplete hnone => ?_⟩, by simp [unspent]⟩
    exact h.released hcomplete (Option.map_eq_none_iff.mp hnone)

end Sessions

/-! ### The App -/

/-- A command that sets a call up. -/
def pipesSetUp (piped : Piped) : Bool := isSetUp piped.command

/-- The prompts without an answer, and the sessions that can still send their SDP. -/
def potentialCalls (app : App) : Nat := app.permissionRequests.length + app.medias.countP unspent

/-- What the step has piped so far and what can still come of the state are at most `n`. -/
structure Accounted (n : Nat) (app : App) : Prop where
  sound : ∀ media ∈ app.medias, SoundSession media
  le : app.piped.countP pipesSetUp + potentialCalls app ≤ n

namespace Accounted

variable {n : Nat} {app app' : App}

/-- Only what is counted matters. -/
theorem of_eq (h : Accounted n app) (heq : outputView app' = outputView app) :
    Accounted n app' := by
  have hpiped : app'.piped = app.piped := congrArg (·.1) heq
  have hmedias : app'.medias = app.medias := congrArg (·.2.2.1) heq
  have hrequests : app'.permissionRequests = app.permissionRequests := congrArg (·.2.2.2) heq
  refine ⟨hmedias ▸ h.sound, ?_⟩
  rw [potentialCalls, hpiped, hmedias, hrequests]
  exact h.le

/-- Fewer are at most as many. -/
theorem mono {n' : Nat} (h : Accounted n app) (hle : n ≤ n') : Accounted n' app :=
  ⟨h.sound, Nat.le_trans h.le hle⟩

/-- Commands count if they set up a call. -/
theorem pipeAll (h : Accounted n app) (source : Option Nat) (commands : List Command) :
    Accounted (n + commands.countP isSetUp)
      (commands.foldl (fun app command => app.pipe source command) app) := by
  rw [App.pipeAll_eq]
  refine ⟨h.sound, ?_⟩
  have hmap : (commands.map fun command => (⟨source, command⟩ : Piped)).countP pipesSetUp
      = commands.countP isSetUp := List.countP_map
  have hle := h.le
  simp only [potentialCalls, List.countP_append, hmap] at hle ⊢
  omega

/-- A write to the session that is there changes its own share only. -/
theorem setMedia (h : Accounted n app) {m : Nat} {media : MediaWebRTC}
    {f : MediaWebRTC → MediaWebRTC} (hm : app.media? m = some media)
    (hsound : SoundSession (f media)) :
    ∃ left, Accounted left (app.setMedia m f) ∧
      left + (unspent media).toNat = n + (unspent (f media)).toNat := by
  -- The count changes by the one session that is written.
  have hcount : (app.medias.modify m f).countP unspent + (unspent media).toNat
      = app.medias.countP unspent + (unspent (f media)).toNat := countP_modify unspent f hm
  -- That session is one of those counted.
  have hmember : (unspent media).toNat ≤ app.medias.countP unspent := by
    cases hspent : unspent media with
    | false => exact Nat.zero_le _
    | true => exact List.countP_pos_iff.mpr ⟨media, List.mem_of_getElem? hm, hspent⟩
  have hle := h.le
  refine ⟨n + (unspent (f media)).toNat - (unspent media).toNat, ⟨?_, ?_⟩, ?_⟩
  · intro media' hmem
    -- The session read is the one written, or one of before.
    obtain ⟨x, hx⟩ := List.mem_iff_getElem?.mp hmem
    have hread : (app.setMedia m f).media? x = some media' := hx
    rw [App.media?_setMedia] at hread
    split at hread
    · subst x
      rw [hm] at hread
      cases hread
      exact hsound
    · exact h.sound media' (List.mem_of_getElem? hread)
  · simp only [potentialCalls, App.setMedia] at hle ⊢
    omega
  · simp only [potentialCalls] at hle
    omega

/-- The SDP of a session is sent at the cost of the session. -/
theorem gathered (h : Accounted n app) {m : Nat} {media : MediaWebRTC} (source : Option Nat)
    {commands : List Command} (hm : app.media? m = some media)
    (hcomplete : media.isTurnComplete = true) (hgathered : media.candidatesGathered = false)
    (hcommands : GatheredCommands media commands) :
    Accounted n (commands.foldl (fun app command => app.pipe source command)
      (app.setMedia m fun media => { media with candidatesGathered := true })) := by
  -- The session spends its share, and the command is paid from it.
  have hsound := h.sound media (List.mem_of_getElem? hm)
  obtain ⟨left, hleft, hbudget⟩ :=
    h.setMedia (f := fun media => { media with candidatesGathered := true }) hm
      ⟨hsound.waiting, hsound.started, hsound.released⟩
  have hspent : unspent { media with candidatesGathered := true } = false := rfl
  rw [hspent, Bool.toNat_false, Nat.add_zero] at hbudget
  refine (hleft.pipeAll source commands).mono ?_
  cases hpeer : media.peerConnection with
  | none =>
    -- A released session writes no command.
    rw [hcommands.released hpeer (hsound.released hcomplete hpeer), List.countP_nil]
    omega
  | some peerConnection =>
    -- One that is alive had a share, and writes at most one command.
    have hunspent : unspent media = true := by simp [unspent, hgathered, hpeer]
    have hcount : commands.countP isSetUp ≤ 1 :=
      Nat.le_trans List.countP_le_length hcommands.length
    rw [hunspent, Bool.toNat_true] at hbudget
    omega

end Accounted

/-- What is not about calls keeps the account, and a call pays for the prompt or the session that it
leads to. -/
theorem outputInvariant_accounted : OutputInvariant Accounted where
  of_eq h heq := h.of_eq heq
  pipe {n _} source {command} h hcommand := by
    -- A plain command sets up no call.
    have hplain : isSetUp command = false := by simpa using (Bool.and_eq_true_iff.mp hcommand).2
    have hone := h.pipeAll source [command]
    rwa [List.countP_cons_of_neg (by simp [hplain]), List.countP_nil, Nat.add_zero] at hone
  notify h _ := ⟨h.sound, h.le⟩
  session {_ app} m {f} h hstep := by
    cases hm : app.media? m with
    | none =>
      -- Writing to a session that does not exist changes nothing.
      have hsame : app.medias.modify m f = app.medias :=
        List.modify_eq_self (List.getElem?_eq_none_iff.mp hm)
      refine h.of_eq ?_
      simp only [outputView, App.setMedia, hsame]
    | some media =>
      obtain ⟨hsound, hspent⟩ := (h.sound media (List.mem_of_getElem? hm)).step (hstep media hm)
      obtain ⟨left, hleft, hbudget⟩ := h.setMedia hm hsound
      -- A step of a session never gains a share.
      have hshare : (unspent (f media)).toNat ≤ (unspent media).toNat := by
        cases hf : unspent (f media) with
        | false => exact Nat.zero_le _
        | true => rw [hspent hf]
      exact hleft.mono (by omega)
  gathered source _ h hm hcomplete hgathered hcommands :=
    h.gathered source hm hcomplete hgathered hcommands
  start h := h.mono (Nat.le_succ _)
  prompt request h := by
    -- A prompt is a call that may still be set up.
    have hle := h.le
    refine ⟨h.sound, ?_⟩
    simp only [potentialCalls, List.length_append, List.length_singleton] at hle ⊢
    omega
  make {_ _ _ _ _ media} h hconnect := by
    -- A session that is made is paid from the budget of the call.
    have hle := h.le
    refine ⟨fun media' hmem => ?_, ?_⟩
    · rcases List.mem_append.mp hmem with hmem | hmem
      · exact h.sound media' hmem
      · rw [List.mem_singleton.mp hmem]
        exact soundSession_connect hconnect
    · have hone : [media].countP unspent ≤ 1 := List.countP_le_length
      simp only [potentialCalls, List.countP_append] at hle ⊢
      omega
  answer {n app} k {request} h hrequest := by
    -- The prompt that is answered gives its share to the chain.
    have hle := h.le
    have hk : k < app.permissionRequests.length := (List.getElem?_eq_some_iff.mp hrequest).1
    have herase := List.length_eraseIdx_of_lt hk
    simp only [potentialCalls] at hle
    refine ⟨n - 1, ⟨h.sound, ?_⟩, fun app' h' => h'.mono (by omega)⟩
    simp only [potentialCalls, herase]
    omega

/-! ### Steps and runs -/

section Steps
variable {jsonObject : CString → Option NSDictionary} {app app' : App} {input : AppInput}

/-- A step pipes no more commands that set a call up than it has potential calls less afterwards,
one more when it starts a call. -/
theorem Accounted.appStep (hsound : ∀ media ∈ app.medias, SoundSession media)
    (hstep : appStep jsonObject app input = some app') :
    Accounted (potentialCalls app + (startsCall input).toNat) app' := by
  have hsilent : Accounted (potentialCalls app) app.silent :=
    ⟨hsound, Nat.le_of_eq (Nat.zero_add _)⟩
  cases hplain : isPlainInput input with
  | true => exact outputInvariant_accounted.appHandle hsilent hplain hstep
  | false =>
    cases input with
    -- A message sets up no call.
    | sendMessage message recipient headers =>
      cases hstep
      unfold RCDevice.sendMessage
      split
      · exact hsilent
      · exact hsilent.pipeAll none (SipManager.message app.params message recipient headers)
    | reply reply active =>
      -- An INVITE or a MESSAGE is announced, and sets up nothing by itself.
      have hannounces : announces reply = true := by simpa [isPlainInput] using hplain
      have hcode : SipMsgEnum.ofCode reply.rc = some .incomingCall ∨
          SipMsgEnum.ofCode reply.rc = some .incomingMsg := by
        simpa [announces] using hannounces
      rcases hcode with hcode | hcode
      · obtain ⟨sdp, rfl⟩ := incomingCall_handled hcode hstep
        exact ⟨hsilent.sound, hsilent.le⟩
      · obtain ⟨-, -, caller, -, rfl⟩ := incomingMsg_handled hcode hstep
        exact ⟨hsilent.sound, hsilent.le⟩
    | _ => cases hplain

end Steps

/-- A step is paid for by what it was given. -/
theorem paid_appStep (jsonObject : CString → Option NSDictionary) (app : App) (input : AppInput)
    (app' : App) (hsound : ∀ media ∈ app.medias, SoundSession media)
    (hstep : appStep jsonObject app input = some app') :
    (∀ media ∈ app'.medias, SoundSession media) ∧
      app'.piped.countP pipesSetUp + potentialCalls app'
        ≤ potentialCalls app + (startsCall input).toNat := by
  have haccounted := Accounted.appStep hsound hstep
  exact ⟨haccounted.sound, haccounted.le⟩

/-- In every run of the App, whatever is called or comes in and in whatever order, there are no more
commands that set a call up than calls that the application asked for or took. -/
theorem setUps_of_appRun (jsonObject : CString → Option NSDictionary) (app : App)
    (hmedias : app.medias = []) (hrequests : app.permissionRequests = []) (is : List AppInput) :
    (outputs (appStep jsonObject) (·.piped) app is).countP pipesSetUp ≤ is.countP startsCall := by
  have hsound : ∀ media ∈ app.medias, SoundSession media := by simp [hmedias]
  have hpaid := countP_outputs_le potentialCalls _
    (fun app input app' => paid_appStep jsonObject app input app') hsound is
  have hnone : potentialCalls app = 0 := by simp [potentialCalls, hmedias, hrequests]
  rwa [hnone, Nat.zero_add] at hpaid

/-- A call that is asked for, and comes to its SDP. -/
def askedCall : List AppInput :=
  [.connect (fun _ => .authorized) "bob".toList false none,
    .didCreateSessionDescription 0 (some "v=0".toList),
    .didGenerateIceCandidate 0 "v=0".toList, .iceGatheringComplete 0]

/-- One call that was asked for, and one that was set up. -/
theorem setUps_of_appRun_askedCall :
    (outputs (appStep Json.read) (·.piped)
        { state := .ready, params := { registrar := some "sip:x".toList } }
        askedCall).countP pipesSetUp = 1 ∧ 1 ≤ askedCall.countP startsCall := by
  have hcount : (outputs (appStep Json.read) (·.piped)
      { state := .ready, params := { registrar := some "sip:x".toList } }
      askedCall).countP pipesSetUp = 1 := by
    decide +kernel
  exact ⟨hcount, hcount ▸ setUps_of_appRun Json.read _ rfl rfl askedCall⟩

end RestCommSdk.Proofs
