import RestCommSdk.Proofs.FilledUpdates
import RestCommSdk.RestCommClient.Lifecycle

/-!
# `RestCommSdk.Proofs.AbsentKeys`: whether an absent key means an empty one

The readers of `aor`, `password` and `registrar` treat an absent key in four ways: as an empty
one, as no empty one, as `(null)`, and as an exception. `absentAsEmpty_iff` states for every
operation when it behaves as if the absent keys were empty.
-/

set_option autoImplicit false

namespace RestCommSdk

open RestCommSdk.CliInterface (CString SofiaReply SipMsgEnum SofiaConf format)
open RestCommSdk.SipManager

namespace Proofs

/-! ### The start -/

section Start
variable {keys : List StringKey}

/-- When Sofia is started without some keys as it is with empty ones: never, unless there is
no password either way. -/
def StartsAlike (keys : List StringKey) (params : Params) : Prop :=
  (∃ key, Missing keys params key) → params.password = none ∧ .password ∉ keys

/-- Without a password the loop is not started; the rest has a default. -/
theorem startSofsipLoop_eq (params : Params) : startSofsipLoop params =
    params.password.map fun password =>
      { aor := some (convert2FullURI params (format params.aor) params.registrar)
        password := some password
        registrar := some (convert2FullDomain params params.registrar)
        proxy := some (convert2FullDomain params params.registrar)
        register := some true } := by
  show params.password.bind _ = _
  cases params.password <;> rfl

/-- A missing `aor` is a user `(null)`, and an empty one no address at all. -/
theorem aor_filled_iff {params : Params} (hregistrar : ¬ Missing keys params .registrar) :
    convert2FullURI params (format params.aor) params.registrar =
        convert2FullURI (params.filled keys) (format (params.filled keys).aor)
          (params.filled keys).registrar ↔
      ¬ Missing keys params .aor := by
  constructor
  · -- Filled in, the address is empty and so is its URI, while `(null)` makes one.
    intro heq hmissing
    have hfilled : (params.filled keys).aor = some [] := text_filled_of_missing hmissing
    have hnil : convert2FullURI (params.filled keys) (format (params.filled keys).aor)
        (params.filled keys).registrar = [] := by
      rw [convert2FullURI_eq_nil_iff, hfilled]
      rfl
    rw [← heq, convert2FullURI_eq_nil_iff, show params.aor = none from hmissing.2] at hnil
    cases hnil
  · -- The two dictionaries agree on both keys that the URI reads.
    intro hmissing
    have haor : (params.filled keys).aor = params.aor := text_filled_of_not_missing hmissing
    have hsame : (params.filled keys).registrar = params.registrar :=
      text_filled_of_not_missing hregistrar
    rw [haor, hsame]
    rfl

/-- The loop sees a key that was filled in, unless it is not started for want of a password. -/
theorem startSofsipLoop_filled_iff (params : Params) :
    startSofsipLoop params = startSofsipLoop (params.filled keys) ↔ StartsAlike keys params := by
  rw [startSofsipLoop_eq, startSofsipLoop_eq]
  -- The conversion to a string raises for a missing password, and takes an empty one.
  by_cases hpassword : Missing keys params .password
  · have hnone : params.password = none := hpassword.2
    have hfilled : (params.filled keys).password = some [] := text_filled_of_missing hpassword
    rw [hnone, hfilled]
    exact iff_of_false nofun fun halike => (halike ⟨_, hpassword⟩).2 hpassword.1
  · have hfilled : (params.filled keys).password = params.password :=
      text_filled_of_not_missing hpassword
    rw [hfilled]
    -- Without a password that could be filled in, both end in the exception.
    cases hgiven : params.password with
    | none => exact iff_of_true rfl fun _ => ⟨hgiven, fun hkey => hpassword ⟨hkey, hgiven⟩⟩
    | some password =>
      have hnever : StartsAlike keys params ↔ ∀ key, ¬ Missing keys params key := by
        simp [StartsAlike, hgiven]
      rw [hnever, Option.map_some, Option.map_some, Option.some_inj, SofiaConf.mk.injEq]
      simp only [Option.some_inj, and_true, true_and, and_self]
      constructor
      · rintro ⟨haor, hregistrar⟩ key
        have hregistrar := registrar_filled_iff.mp hregistrar
        cases key with
        | aor => exact (aor_filled_iff hregistrar).mp haor
        | password => exact hpassword
        | registrar => exact hregistrar
      · intro hnone
        exact ⟨(aor_filled_iff (hnone _)).mpr (hnone _), registrar_filled_iff.mpr (hnone _)⟩

/-- A new device looks at the registrar only, and takes an empty one for none. -/
theorem initWithParams_filled (params : Params) (status : NetworkStatus) :
    RCDevice.initWithParams (params.filled keys) status =
      (RCDevice.initWithParams params status).filled keys := by
  unfold RCDevice.initWithParams
  have hnew :
      ({ state := .offline, reachabilityStatus := status, params := params.filled keys } : App) =
        App.filled keys
          { state := .offline, reachabilityStatus := status, params := params } := rfl
  dsimp only
  rw [hnew, registrarless_filled]
  split
  · split
    · exact eventLoop_filled keys
        { state := .ready, reachabilityStatus := status, params := params }
    · exact eventLoop_filled keys _
  · rfl

end Start

/-! ### The device -/

section Device
variable (keys : List StringKey) (app : App)

/-- What `updateParams:` of the device does with the result of the one of `SipManager`. -/
def updated (result : List Command × UpdateParamsState × Params) : App :=
  let app := { app with
    piped := app.piped ++ result.1.map fun command => ⟨none, command⟩
    params := result.2.2 }
  match result.2.1 with
  | .sentRegister => RCDevice.offlineOnError .registering app
  | .reestablishedRegistrarless => { app with state := .ready }.notify .didStartListening
  | .unassigned => app

/-- What is piped, reported and stored can be told from the App. -/
theorem updated_injective : Function.Injective (updated app) := by
  rintro ⟨commands, state, stored⟩ ⟨commands', state', stored'⟩ heq
  have hpiped := congrArg App.piped heq
  have hparams := congrArg App.params heq
  have hnotified := congrArg App.notified heq
  have hcommands : Function.Injective fun command : Command => (⟨none, command⟩ : Piped) :=
    fun _ _ h => congrArg Piped.command h
  cases state <;> cases state' <;>
    simp_all [updated, RCDevice.offlineOnError, App.notify, hcommands.list_map.eq_iff]

/-- Filling in what an update has stored. -/
theorem updated_filledResult (result : List Command × UpdateParamsState × Params) :
    (updated app result).filled keys = updated (app.filled keys) (filledResult keys result) := by
  obtain ⟨commands, state, stored⟩ := result
  cases state <;> rfl

/-- The device after an update. -/
theorem deviceUpdateParams_eq (params : Option Params)
    (hreachable : app.reachabilityStatus ≠ .notReachable) :
    RCDevice.updateParams params app =
      (updateParams app.params params (app.state ≠ .offline) true).map (updated app) := by
  unfold RCDevice.updateParams RCDevice.sipManagerUpdateParams
  rw [if_pos hreachable]
  cases updateParams app.params params (app.state ≠ .offline) true with
  | none => rfl
  | some result =>
    obtain ⟨commands, state, stored⟩ := result
    simp only [Option.bind_eq_bind, Option.bind_some, App.pipeAll_eq]
    cases state <;> rfl

/-- The update of the device differs where the commands do. -/
theorem deviceUpdateParams_filled_iff (params : Option Params) :
    (RCDevice.updateParams params app).map (App.filled keys) =
        RCDevice.updateParams params (app.filled keys) ↔
      (app.reachabilityStatus ≠ .notReachable →
        UpdatesAlike keys app.params (app.state ≠ .offline) true params) := by
  by_cases hreachable : app.reachabilityStatus = .notReachable
  · -- Without a network the parameters are stored, and that is all.
    refine iff_of_true ?_ fun h => absurd hreachable h
    unfold RCDevice.updateParams
    rw [reachabilityStatus_filled, if_neg (not_not.mpr hreachable),
      if_neg (not_not.mpr hreachable)]
    cases params with
    | none => rfl
    | some params =>
      simp [App.filled, Params.filled, RCDevice.keepParams, filledIn_or]
  · have hresult : updated (app.filled keys) ∘ filledResult keys = App.filled keys ∘ updated app :=
      funext fun result => (updated_filledResult keys app result).symm
    rw [imp_iff_right hreachable, deviceUpdateParams_eq app params hreachable,
      deviceUpdateParams_eq (app.filled keys) params hreachable, Option.map_map, ← hresult,
      ← Option.map_map, (Option.map_injective (updated_injective (app.filled keys))).eq_iff]
    exact updateParams_filled_iff params

/-- A message shows the password, and may show the registrar. -/
theorem sendMessage_filled_iff (message recipient : CString) (headers : Option NSDictionary) :
    (RCDevice.sendMessage message recipient headers app).filled keys =
        RCDevice.sendMessage message recipient headers (app.filled keys) ↔
      (app.state ≠ .offline → ¬ Missing keys app.params .password ∧
        (Missing keys app.params .registrar → Resolved recipient)) := by
  unfold RCDevice.sendMessage
  rw [state_filled]
  by_cases hoffline : app.state = .offline
  · rw [if_pos hoffline, if_pos hoffline]
    -- Offline nothing is written.
    exact iff_of_true rfl fun h => absurd hoffline h
  · rw [if_neg hoffline, if_neg hoffline, imp_iff_right hoffline, App.pipeAll_eq, App.pipeAll_eq]
    -- Both send one line, so the apps agree exactly when the lines do.
    have hpiped : ∀ piped piped' : List Piped,
        App.filled keys { app with piped := app.piped ++ piped } =
          { app.filled keys with piped := app.piped ++ piped' } ↔ piped = piped' := by
      intro piped piped'
      refine ⟨fun heq => List.append_cancel_left (congrArg App.piped heq), fun heq => ?_⟩
      rw [heq]
      rfl
    refine (hpiped _ _).trans ?_
    rw [← destination_filled_iff, ← @text_filled_eq_iff keys app.params .password]
    simp only [SipManager.message, List.map_cons, List.map_nil, List.cons.injEq, Piped.mk.injEq,
      Command.message.injEq, and_true, true_and, params_filled]
    -- The line carries the destination and the password.
    constructor
    · rintro ⟨hdestination, hpassword⟩
      exact ⟨hpassword.symm, hdestination.symm⟩
    · rintro ⟨hpassword, hdestination⟩
      exact ⟨hdestination.symm, hpassword.symm⟩

/-- The registration is refreshed with the stored password, and a registrar that is not
missing. -/
theorem refresh_filled_iff (hregistrar : app.registrarless = false) :
    ((RCDevice.sipManagerUpdateParams none true true app).map (·.1)).map (App.filled keys) =
        (RCDevice.sipManagerUpdateParams none true true (app.filled keys)).map (·.1) ↔
      ¬ Missing keys app.params .password := by
  -- Without parameters one `r` line is written, and raises without a password.
  have hregister : ∀ app : App, (RCDevice.sipManagerUpdateParams none true true app).map (·.1) =
      app.params.password.map fun password => app.pipe none
        (.register none (convert2FullDomain app.params app.params.registrar) password) := by
    intro app
    unfold RCDevice.sipManagerUpdateParams
    rw [updateParams_none_eq]
    cases app.params.password <;> rfl
  -- A device that is not registrarless has a registrar, so that key is not missing.
  have hgiven : ¬ Missing keys app.params .registrar := by
    intro hmissing
    rw [App.registrarless, show app.params.registrar = none from hmissing.2] at hregistrar
    cases hregistrar
  have hdomain := registrar_filled_iff.mpr hgiven
  rw [hregister, hregister, params_filled, ← hdomain, ← text_filled_eq_iff]
  show _ ↔ (app.params.filled keys).password = app.params.password
  cases app.params.password with
  | none =>
    cases (app.params.filled keys).password <;> simp
  | some password =>
    cases (app.params.filled keys).password with
    | none => simp
    | some filled =>
      constructor
      · intro heq
        simpa [App.filled, App.pipe, eq_comm] using congrArg App.piped (Option.some.inj heq)
      · intro heq
        cases heq
        rfl

/-- `listen` shows the password when it refreshes a registration. -/
theorem listen_filled_iff (status : NetworkStatus) :
    (RCDevice.listen status app).map (App.filled keys) =
        RCDevice.listen status (app.filled keys) ↔
      (app.state = .ready → app.registrarless = false → ¬ Missing keys app.params .password) := by
  unfold RCDevice.listen
  rw [state_filled]
  cases hstate : app.state with
  | busy => exact iff_of_true rfl nofun
  | offline =>
    -- The tests of an Offline device take a missing registrar for an empty one.
    refine iff_of_true ?_ nofun
    dsimp only
    rw [eventLoop_filled, reachabilityStatus_filled]
    generalize SipManager.eventLoop app = started
    rw [registrarless_filled, reachabilityStatus_filled]
    split_ifs <;> rfl
  | ready =>
    dsimp only
    rw [registrarless_filled]
    cases hregistrar : app.registrarless with
    | true => exact iff_of_true rfl nofun
    | false =>
      simp only [imp_iff_right, Bool.false_eq_true, if_false]
      exact refresh_filled_iff keys app hregistrar

end Device

/-! ### Calls -/

section Calls
variable (keys : List StringKey) {app app' : App} {owner : Nat}

/-- The chain leaves the parameters of the call alone. -/
theorem callInvariant_activeCallParams (activeCallParams : ActiveCallParams) :
    CallInvariant fun app => app.activeCallParams = activeCallParams where
  of_view h hview := (congrArg CallView.activeCallParams hview).trans h
  mark _ _ _ h := h
  hangUp := by
    intro app c connection _ h
    unfold RCConnection.hangUp
    split
    · exact h
    · exact h
    · split <;> exact h
    · exact h
  video _ h := h

/-- A chain leaves the active parameters. -/
theorem activeCallParams_permissionFsmRequest {auth : AVMediaType → AVAuthorizationStatus}
    (h : permissionFsmRequest auth owner app = some app') :
    app'.activeCallParams = app.activeCallParams := by
  have hI := callInvariant_activeCallParams app.activeCallParams
  have hdenied : ∀ mediaType,
      (permissionDenied mediaType app).activeCallParams = app.activeCallParams := by
    intro mediaType
    unfold permissionDenied App.toDelegate
    cases app.connectionDelegate with
    | none => rfl
    | some c =>
      exact hI.didError (J := fun app' => app'.activeCallParams = app.activeCallParams)
        (.permissionDenied mediaType) c id rfl
  exact hI.chainEnd hdenied (fun _ => rfl) rfl (chainEnd_permissionFsmRequest h)

/-- A call that is placed does not end in an exception. -/
theorem isSome_permissionFsmRequest (auth : AVMediaType → AVAuthorizationStatus) (owner : Nat)
    (app : App) (hmedia : app.media = none)
    (hinitiator : app.activeCallParams.initiator = some true) :
    (permissionFsmRequest auth owner app).isSome := by
  have hcall : (SipManager.handleCall owner app).isSome := by
    unfold SipManager.handleCall
    rw [hmedia, hinitiator]
    -- The initiator needs no offer.
    cases hturn : app.params.turnEnabled.getD false with
    | false => simp [MediaWebRTC.connect, hturn, MediaWebRTC.startSignalingIfReady]
    | true =>
      cases htype : iceConfigType app.params with
      | xirsysV2 => simp [MediaWebRTC.connect, hturn, htype]
      | xirsysV3 =>
        by_cases hurl : app.params.turnUrl.getD [] = []
        · simp [MediaWebRTC.connect, hturn, htype, hurl]
        · simp [MediaWebRTC.connect, hturn, htype, hurl]
      | custom => simp [MediaWebRTC.connect, hturn, htype, MediaWebRTC.startSignalingIfReady]
  have hvideo : ∀ status, (videoResponse owner status app).isSome := by
    intro status
    cases status with
    | true => exact hcall
    | false => rfl
  have haudio : ∀ status, (audioResponse auth owner status app).isSome := by
    intro status
    cases status with
    | false => rfl
    | true =>
      unfold audioResponse requestPermission
      cases app.videoAllowed with
      | false => exact hcall
      | true =>
        cases auth .video with
        | notDetermined => rfl
        | authorized => exact hvideo true
        | restricted | denied => exact hvideo false
  unfold permissionFsmRequest requestPermission
  cases auth .audio with
  | notDetermined => rfl
  | authorized => exact haudio true
  | restricted | denied => exact haudio false

variable (auth : AVMediaType → AVAuthorizationStatus) (recipient : CString) (video : Bool)
  (headers : Option NSDictionary)

/-- The call that a Ready device places, before the permissions are asked for. -/
def placed (app : App) : App :=
  dial app.connections.length recipient video headers
    (RCDevice.makeConnection { incoming := false, state := .pending } app)

/-- Dialling without a session runs the chain. -/
theorem connect_of_media (app : App) (hready : app.state = .ready) (hmedia : app.media = none) :
    (RCDevice.connect auth recipient video headers app).map (·.1) =
      (permissionFsmRequest auth app.connections.length (placed recipient video headers app)).map
        fun app' => app'.setConnection app.connections.length fun connection =>
          { connection with held := true } := by
  -- Without a media the invite dials.
  have hinvite : ∀ app₁ : App, app₁.media = none →
      SipManager.invite auth app.connections.length recipient video headers app₁ =
        (permissionFsmRequest auth app.connections.length
          (dial app.connections.length recipient video headers app₁)).map
            fun app => (app, true) := by
    intro app₁ hnone
    unfold SipManager.invite
    dsimp only
    split
    · rename_i m hm
      cases hnone.symm.trans hm
    · exact Option.map_eq_bind.symm
  unfold RCDevice.connect
  rw [if_neg (not_not.mpr hready)]
  dsimp only
  rw [hinvite (RCDevice.makeConnection { incoming := false, state := .pending } app) hmedia]
  show (((permissionFsmRequest auth _ (placed recipient video headers app)).map _).bind _).map _ = _
  cases permissionFsmRequest auth app.connections.length (placed recipient video headers app) <;>
    rfl

/-- A session that is left over stops the call before the registrar is read. -/
theorem connect_of_session (app : App) {m : Nat} (hready : app.state = .ready)
    (hmedia : app.media = some m) :
    (RCDevice.connect auth recipient video headers app).map (·.1) =
      some ({ RCDevice.makeConnection { incoming := false, state := .pending } app with
        videoAllowed := video }.setConnection app.connections.length fun connection =>
          { connection with held := false }) := by
  -- With a media the invite sets the video flag and refuses.
  have hinvite : ∀ app₁ : App, app₁.media = some m →
      SipManager.invite auth app.connections.length recipient video headers app₁ =
        some ({ app₁ with videoAllowed := video }, false) := by
    intro app₁ hsome
    unfold SipManager.invite
    dsimp only
    split
    · rfl
    · rename_i hm
      cases hsome.symm.trans hm
  unfold RCDevice.connect
  rw [if_neg (not_not.mpr hready)]
  dsimp only
  rw [hinvite (RCDevice.makeConnection { incoming := false, state := .pending } app) hmedia]
  rfl

/-- Dialling shows the registrar, unless the recipient needs none. -/
theorem connect_filled_iff :
    ((RCDevice.connect auth recipient video headers app).map (·.1)).map (App.filled keys) =
        (RCDevice.connect auth recipient video headers (app.filled keys)).map (·.1) ↔
      (app.state = .ready → app.media = none → Missing keys app.params .registrar →
        Resolved recipient) := by
  by_cases hready : app.state = .ready
  · rw [imp_iff_right hready]
    cases hmedia : app.media with
    | some m =>
      refine iff_of_true ?_ nofun
      rw [connect_of_session auth recipient video headers app hready hmedia,
        connect_of_session auth recipient video headers (app.filled keys) hready hmedia]
      rfl
    | none =>
      rw [imp_iff_right rfl, ← destination_filled_iff,
        connect_of_media auth recipient video headers app hready hmedia,
        connect_of_media auth recipient video headers (app.filled keys) hready hmedia]
      constructor
      · intro heq
        -- The destination is still there when the permissions have been asked for.
        obtain ⟨app₁, h₁⟩ := Option.isSome_iff_exists.mp (isSome_permissionFsmRequest auth
          app.connections.length (placed recipient video headers app) hmedia rfl)
        obtain ⟨app₂, h₂⟩ := Option.isSome_iff_exists.mp (isSome_permissionFsmRequest auth
          app.connections.length (placed recipient video headers (app.filled keys)) hmedia rfl)
        rw [connections_filled, h₁, h₂] at heq
        have hparams := congrArg App.activeCallParams (Option.some.inj heq)
        have hfirst := activeCallParams_permissionFsmRequest h₁
        have hsecond := activeCallParams_permissionFsmRequest h₂
        have hdestination := congrArg ActiveCallParams.destination
          (hsecond.symm.trans (hparams.symm.trans hfirst))
        exact Option.some.inj hdestination
      · intro hdestination
        have hplaced : placed recipient video headers (app.filled keys) =
            (placed recipient video headers app).filled keys := by
          unfold placed dial
          rw [show (RCDevice.makeConnection { incoming := false, state := .pending }
            (app.filled keys)).params = app.params.filled keys from rfl, hdestination]
          rfl
        rw [hplaced, connections_filled, permissionFsmRequest_filled]
        cases permissionFsmRequest auth app.connections.length (placed recipient video headers app)
          <;> rfl
  · refine iff_of_true ?_ fun h => absurd h hready
    unfold RCDevice.connect
    rw [state_filled, if_pos hready, if_pos hready]
    rfl

/-! ### The SDP of a call -/

/-- The command of a call shows the password. -/
theorem didCreateSdp_filled_iff (media : Option MediaState) (activeCallParams : ActiveCallParams)
    (params : Params) (sdp : Option CString) (initiator : Bool) :
    didCreateSdp media activeCallParams params sdp initiator =
        didCreateSdp media activeCallParams (params.filled keys) sdp initiator ↔
      (media.getD .disconnected ≠ .disconnected → initiator = true →
        activeCallParams.destination ≠ none → ¬ Missing keys params .password) := by
  unfold didCreateSdp
  by_cases hreleased : media.getD .disconnected = .disconnected
  · rw [if_pos hreleased, if_pos hreleased]
    exact iff_of_true rfl fun h => absurd hreleased h
  · rw [if_neg hreleased, if_neg hreleased, imp_iff_right hreleased]
    cases initiator with
    | false => exact iff_of_true rfl nofun
    | true =>
      rw [imp_iff_right rfl, if_pos rfl, if_pos rfl, ← text_filled_eq_iff]
      show _ ↔ (_ → (params.filled keys).password = params.password)
      -- A session without a call has no destination, and raises.
      cases activeCallParams.destination with
      | none => simp
      | some destination =>
        simp only [Option.bind_eq_bind, Option.bind_some, Option.pure_def, Option.some_inj,
          List.cons.injEq, Command.invite.injEq, and_true, true_and, ne_eq, reduceCtorEq,
          not_false_eq_true, imp_iff_right]
        exact eq_comm

/-- The App once the SDP of a session has been piped. -/
def offered (owner : Nat) (initiator : Bool) (app : App) (commands : List Command) : App :=
  let piped := commands.map fun command => (⟨some owner, command⟩ : Piped)
  { app with piped := app.piped ++ piped }.setConnection owner fun connection =>
    { connection with invited := connection.invited || initiator && commands ≠ [] }

/-- The App keeps what it has piped. -/
theorem offered_injective (owner : Nat) (initiator : Bool) (app : App) :
    Function.Injective (offered owner initiator app) := by
  intro commands commands' heq
  have hcommands : Function.Injective fun command : Command => (⟨some owner, command⟩ : Piped) :=
    fun _ _ h => congrArg Piped.command h
  have hpiped : app.piped ++ _ = app.piped ++ _ := congrArg App.piped heq
  exact hcommands.list_map (List.append_cancel_left hpiped)

/-- A description that goes out for a call shows the password. -/
theorem mediaDidCreateSdp_filled_iff (owner : Nat) (sdp : Option CString) (initiator : Bool)
    (app : App) :
    (mediaDidCreateSdp owner sdp initiator app).map (App.filled keys) =
        mediaDidCreateSdp owner sdp initiator (app.filled keys) ↔
      (app.mediaState.getD .disconnected ≠ .disconnected → initiator = true →
        app.activeCallParams.destination ≠ none → ¬ Missing keys app.params .password) := by
  -- Apart from the commands, the same is done whatever the parameters are.
  have hoffered : ∀ app : App, mediaDidCreateSdp owner sdp initiator app =
      (didCreateSdp app.mediaState app.activeCallParams app.params sdp initiator).map
        (offered owner initiator app) := by
    intro app
    unfold mediaDidCreateSdp
    cases didCreateSdp app.mediaState app.activeCallParams app.params sdp initiator with
    | none => rfl
    | some commands =>
      simp only [Option.bind_eq_bind, Option.bind_some, App.pipeAll_eq]
      rfl
  have hfilled : App.filled keys ∘ offered owner initiator app =
      offered owner initiator (app.filled keys) := rfl
  -- Different commands leave different apps.
  rw [hoffered, hoffered, Option.map_map, hfilled,
    (Option.map_injective (offered_injective owner initiator (app.filled keys))).eq_iff]
  exact didCreateSdp_filled_iff keys app.mediaState app.activeCallParams app.params sdp initiator

/-- The end of the gathering pipes the `i` command of the session. -/
def PipesInvite (app : App) (m : Nat) : Prop :=
  ∃ media, app.media? m = some media ∧ media.gathers = true ∧ 0 < media.iceCandidates ∧
    media.candidatesGathered = false ∧ app.mediaState.getD .disconnected ≠ .disconnected ∧
    media.isInitiator = true ∧ app.activeCallParams.destination ≠ none

/-- So does the end of gathering. -/
theorem iceGatheringComplete_filled_iff (m : Nat) (app : App) :
    (iceGatheringComplete m app).map (App.filled keys) =
        iceGatheringComplete m (app.filled keys) ↔
      (PipesInvite app m → ¬ Missing keys app.params .password) := by
  cases hm : app.media? m with
  | none =>
    refine iff_of_true ?_ fun ⟨media, hmedia, _⟩ => ?_
    · unfold iceGatheringComplete
      rw [media?_filled, hm]
      rfl
    · cases hm.symm.trans hmedia
  | some media =>
    -- What is done depends on the media alone, until the SDP is handed on.
    have hcomplete : ∀ app : App, app.media? m = some media → iceGatheringComplete m app =
        if !media.gathers then none
        else if 0 < media.iceCandidates then candidateGatheringComplete m media app
        else some (SipManager.mediaDidError .ice app) := by
      intro app hmedia
      unfold iceGatheringComplete
      rw [hmedia]
      rfl
    rw [hcomplete app hm, hcomplete (app.filled keys) hm]
    cases hgathers : media.gathers with
    | false => exact iff_of_true rfl (by simp [PipesInvite, hm, hgathers])
    | true =>
      rw [Bool.not_true, if_neg Bool.false_ne_true, if_neg Bool.false_ne_true]
      by_cases hfound : 0 < media.iceCandidates
      · rw [if_pos hfound, if_pos hfound]
        unfold candidateGatheringComplete
        -- Gathering was completed before, and nothing is written twice.
        cases hgathered : media.candidatesGathered with
        | true => exact iff_of_true rfl (by simp [PipesInvite, hm, hgathered])
        | false =>
          -- The SDP goes on to the delegate, and the invite is written there.
          rw [if_neg Bool.false_ne_true, if_neg Bool.false_ne_true]
          refine (mediaDidCreateSdp_filled_iff keys media.owner _ media.isInitiator
            (app.setMedia m _)).trans ?_
          rw [App.mediaState_setMedia app m]
          · simp [PipesInvite, hm, hgathers, hfound, hgathered]
            rfl
          · exact fun _ => rfl
      · -- Without a candidate an error is told, and no parameter is read.
        rw [if_neg hfound, if_neg hfound, mediaDidError_filled]
        exact iff_of_true rfl (by simp [PipesInvite, hm, hfound])

end Calls

/-! ### Every operation -/

/-- What reads the parameters. -/
inductive ParamsReader where
  /-- `initWithParams:delegate:`, with the stored parameters. -/
  | initWithParams (status : NetworkStatus)
  /-- `eventLoop`. -/
  | eventLoop
  /-- The start of `sofsip_loop`. -/
  | sofsipLoop
  /-- `updateParams:deviceIsOnline:networkIsOnline:`. -/
  | updateParams (params : Option Params) (online network : Bool)
  /-- A call of the application, a callback or a reply of Sofia. -/
  | app (input : AppInput)

section Operations
variable (jsonObject : CString → Option NSDictionary) (keys : List StringKey) (app : App)

/-- The operation does with absent keys what it does with empty ones: it hands the same to
Sofia, tells the application the same, and leaves the same behind, or ends in an exception in
both cases. -/
def AbsentAsEmpty : ParamsReader → Prop
  | .initWithParams status =>
    (RCDevice.initWithParams app.params status).filled keys =
      RCDevice.initWithParams (app.params.filled keys) status
  | .eventLoop => (SipManager.eventLoop app).filled keys = SipManager.eventLoop (app.filled keys)
  | .sofsipLoop => startSofsipLoop app.params = startSofsipLoop (app.params.filled keys)
  | .updateParams params online network =>
    (updateParams app.params params online network).map (filledResult keys) =
      updateParams (app.params.filled keys) params online network
  | .app input =>
    (appStep jsonObject app input).map (App.filled keys) =
      appStep jsonObject (app.filled keys) input

/-- When an input of the App does with absent keys what it does with empty ones. -/
def InputAlike : AppInput → Prop
  | .connect _ recipient _ _ =>
    app.state = .ready → app.media = none → Missing keys app.params .registrar →
      Resolved recipient
  | .listen _ =>
    app.state = .ready → app.registrarless = false → ¬ Missing keys app.params .password
  | .updateParams params =>
    app.reachabilityStatus ≠ .notReachable →
      UpdatesAlike keys app.params (app.state ≠ .offline) true params
  | .sendMessage _ recipient _ =>
    app.state ≠ .offline → ¬ Missing keys app.params .password ∧
      (Missing keys app.params .registrar → Resolved recipient)
  | .iceGatheringComplete m => PipesInvite app m → ¬ Missing keys app.params .password
  | .reply reply _ =>
    SipMsgEnum.ofCode reply.rc = some .replyAuth → ¬ Missing keys app.params .password
  | _ => True

/-- When an operation does with absent keys what it does with empty ones. -/
def Alike : ParamsReader → Prop
  | .initWithParams _ | .eventLoop => True
  | .sofsipLoop => StartsAlike keys app.params
  | .updateParams params online network => UpdatesAlike keys app.params online network params
  | .app input => InputAlike keys app input

/-- Of the replies, the request for credentials shows the password. -/
theorem handleSofiaInput_filled_iff (active : Bool) (reply : SofiaReply) :
    (SipManager.handleSofiaInput jsonObject active reply app).map (App.filled keys) =
        SipManager.handleSofiaInput jsonObject active reply (app.filled keys) ↔
      (SipMsgEnum.ofCode reply.rc = some .replyAuth → ¬ Missing keys app.params .password) := by
  by_cases hreply : SipMsgEnum.ofCode reply.rc = some .replyAuth
  · -- The reply to a challenge writes the stored password, as text.
    have hauth : ∀ app : App, SipManager.handleSofiaInput jsonObject active reply app =
        some { app with credentials := app.credentials ++ [format app.params.password] } := by
      intro app
      unfold SipManager.handleSofiaInput
      rw [hreply]
    rw [imp_iff_right hreply, hauth, hauth, Option.map_some, Option.some_inj]
    constructor
    · -- Absent it is `(null)`, and filled in it is empty.
      intro heq hmissing
      have hfilled : (app.params.filled keys).password = some [] := text_filled_of_missing hmissing
      have hnone : app.params.password = none := hmissing.2
      have hcredentials := List.append_cancel_left
        (show app.credentials ++ _ = app.credentials ++ _ from congrArg App.credentials heq)
      rw [params_filled, hfilled, hnone] at hcredentials
      cases hcredentials
    · intro hmissing
      have hfilled : (app.params.filled keys).password = app.params.password :=
        text_filled_of_not_missing hmissing
      rw [params_filled, hfilled]
      rfl
  · -- No other reply reads the parameters.
    refine iff_of_true ?_ fun h => absurd h hreply
    exact (handleSofiaInput_filled keys app jsonObject active reply hreply).symm

/-- One input of the App. -/
theorem appHandle_filled_iff (input : AppInput) :
    (appHandle jsonObject app input).map (App.filled keys) =
        appHandle jsonObject (app.filled keys) input ↔
      InputAlike keys app input := by
  cases input with
  | connect auth recipient video headers =>
    exact connect_filled_iff keys auth recipient video headers
  | listen status => exact listen_filled_iff keys app status
  | updateParams params => exact deviceUpdateParams_filled_iff keys app params
  | sendMessage message recipient headers =>
    exact Option.some_inj.trans (sendMessage_filled_iff keys app message recipient headers)
  | iceGatheringComplete m => exact iceGatheringComplete_filled_iff keys m app
  | reply reply active => exact handleSofiaInput_filled_iff jsonObject keys app active reply
  -- The other inputs read none of the keys.
  | disconnectAll =>
    exact iff_of_true (congrArg some (disconnectAll_filled keys app).symm) trivial
  | unlisten => exact iff_of_true (congrArg some (unlisten_filled keys app).symm) trivial
  | accept c auth video =>
    exact iff_of_true (ofHeld_filled keys app c (accept_filled keys app auth video c)).symm trivial
  | reject c =>
    have hmethod := congrArg some (reject_filled keys app c)
    exact iff_of_true (@ofHeld_filled keys app c
      (fun app => some (RCConnection.reject c app)) hmethod).symm trivial
  | disconnect c =>
    have hmethod := congrArg some (disconnect_filled keys app c)
    exact iff_of_true (@ofHeld_filled keys app c
      (fun app => some (RCConnection.disconnect c app)) hmethod).symm trivial
  | sendDigits c digits =>
    have hmethod := congrArg some (sendDigits_filled keys app digits c)
    exact iff_of_true (@ofHeld_filled keys app c
      (fun app => some (RCConnection.sendDigits digits c app)) hmethod).symm trivial
  | release c =>
    exact iff_of_true (@ofHeld_filled keys app c (fun app => some (app.setConnection c
      fun connection => { connection with held := false })) rfl).symm trivial
  | permissionAnswered auth n granted =>
    exact iff_of_true (permissionAnswered_filled keys app auth n granted).symm trivial
  | turnAnswered m success =>
    exact iff_of_true (turnAnswered_filled keys app m success).symm trivial
  | didCreateSessionDescription m sdp =>
    exact iff_of_true (didCreateSessionDescription_filled keys app m sdp).symm trivial
  | didSetSessionDescriptionWithError m =>
    exact iff_of_true (didSetSessionDescriptionWithError_filled keys app m).symm trivial
  | didGenerateIceCandidate m localDescription =>
    exact iff_of_true (didGenerateIceCandidate_filled keys app m localDescription).symm trivial
  | iceConnected m => exact iff_of_true (iceConnected_filled keys app m).symm trivial
  | iceFailed m => exact iff_of_true (iceFailed_filled keys app m).symm trivial
  | didAddStream m => exact iff_of_true (didAddStream_filled keys app m).symm trivial
  | checkNetworkStatus newStatus =>
    exact iff_of_true (congrArg some (checkNetworkStatus_filled keys app newStatus).symm) trivial
  | loopStopped => exact iff_of_true rfl trivial

/-- An operation treats the absent keys as empty ones exactly when it does not get to a reader
that does not. -/
theorem absentAsEmpty_iff (reader : ParamsReader) :
    AbsentAsEmpty jsonObject keys app reader ↔ Alike keys app reader := by
  cases reader with
  | initWithParams status =>
    exact iff_of_true (initWithParams_filled app.params status).symm trivial
  | eventLoop => exact iff_of_true (eventLoop_filled keys app).symm trivial
  | sofsipLoop => exact startSofsipLoop_filled_iff app.params
  | updateParams params online network => exact updateParams_filled_iff params
  | app input =>
    -- A step starts with nothing piped or told.
    have hsilent : InputAlike keys app.silent input ↔ InputAlike keys app input := by
      cases input <;> rfl
    exact (appHandle_filled_iff jsonObject keys app.silent input).trans hsilent

end Operations

/-! ### A device without a registrar -/

/-- The parameters of a device that works without a registrar. -/
def registrarlessParams : Params where
  aor := some "sip:bob@telestax.com".toList
  password := some "1234".toList

/-- Sofia is told to register with `sip:(null)`, though the device is Ready at once. -/
theorem missing_registrar_is_null :
    (RCDevice.initWithParams registrarlessParams .reachableViaWiFi).state = .ready ∧
      startSofsipLoop registrarlessParams = some {
        aor := some "sip:bob@telestax.com".toList
        password := some "1234".toList
        registrar := some "sip:(null)".toList
        proxy := some "sip:(null)".toList
        register := some true } ∧
      ¬ AbsentAsEmpty Lib.Json.read [.registrar]
        { state := .ready, params := registrarlessParams } .sofsipLoop := by
  refine ⟨by decide, by decide, ?_⟩
  show startSofsipLoop registrarlessParams ≠
    startSofsipLoop (registrarlessParams.filled [.registrar])
  decide

end Proofs

end RestCommSdk
