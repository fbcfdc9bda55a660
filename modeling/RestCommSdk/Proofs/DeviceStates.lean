import RestCommSdk.Lib.Run
import RestCommSdk.Proofs.CallEffects
import RestCommSdk.Proofs.UpdateCommands

/-!
# `RestCommSdk.Proofs.DeviceStates`: the state of the device and the states of its calls

`Agree` is what the states of the device and of the connections should have to do with each
other. Some of it holds whatever happens (`Tracked`): the current connection is live, and a
Busy device has one. That a Ready device has no live connection is broken by `reject`, by
`accept` when the microphone is refused, and by methods that make the device Ready for the
end of one call while another is live. `Orderly` excludes just these steps: `agree_iff` says
that the states of a run agree exactly when all its steps are orderly.
-/

set_option autoImplicit false

namespace RestCommSdk.Proofs

open RestCommSdk.Lib
open RestCommSdk.CliInterface (CString SofiaReply SipMsgEnum)
open RestCommSdk.SipManager (NSDictionary Params UpdateParamsState)

/-- The device and the connections agree. -/
structure Agree (app : App) : Prop where
  ready : app.state = .ready → (∀ c, ¬ app.Live c) ∧ app.currentConnection = none
  busy : app.state = .busy → ∃ c ∈ app.currentConnection, app.Live c

/-- What holds in every state. -/
structure Tracked (app : App) : Prop where
  current : ∀ c ∈ app.currentConnection, app.Live c
  busy : app.state = .busy → app.currentConnection ≠ none
  made : DelegateMade app

/-! ### The condition -/

/-- No connection is live. -/
def NoneLive (app : App) : Prop := ∀ c, ¬ app.Live c

/-- No other connection is live. -/
def OnlyLive (app : App) (d : Nat) : Prop := ∀ c, app.Live c → c = d

/-- No connection but the delegate is live, if there is a delegate. -/
def OnlyDelegateLive (app : App) : Prop := ∀ d ∈ app.connectionDelegate, OnlyLive app d

/-- The delegate of a Ready device was hung up while Pending, if there is a delegate. -/
def DelegateHungUp (app : App) : Prop :=
  app.state = .ready → ∀ d ∈ app.connectionDelegate, ∃ connection ∈ app.connection? d,
    connection.cancelPending

/-- The connection waits for the application to answer it. -/
def Rings (app : App) (c : Nat) : Prop := ∃ connection ∈ app.connection? c, connection.ringing

/-- The parameters ask an Offline device to work without a registrar from now on. -/
def DropsRegistrar (app : App) (params : Option Params) : Prop :=
  app.state = .offline ∧ app.reachabilityStatus ≠ .notReachable ∧
    app.params.registrar ≠ some [] ∧ params.bind (·.registrar) = some []

/-- The condition on a reply. -/
def OrderlyReply (app : App) (reply : SofiaReply) (active : Bool) : Prop :=
  match SipMsgEnum.ofCode reply.rc with
  | some .outgoingRinging => DelegateHungUp app
  | some .incomingCancelled | some .outgoingCancelled | some .outgoingDeclined
  | some .errorSipInviteGeneric | some .errorSipInviteAuthentication
  | some .errorSipInviteTimeout | some .errorSipInviteNotFound
  | some .errorSipInviteSipUriInvalid => OnlyDelegateLive app
  | some .outgoingByeResponse | some .incomingBye =>
    active → app.state ≠ .offline → OnlyDelegateLive app
  | some .registerSuccess => app.state = .offline → NoneLive app
  | _ => True

/-- The condition on a step, of its input and the state before it. -/
def Orderly (app : App) : AppInput → Prop
  | .accept c auth video => Rings app c → requestDenies auth video → app.connectionDelegate = none
  | .reject c => ¬ Rings app c
  | .disconnect c => OnlyLive app c
  | .disconnectAll => app.state = .busy → ∀ c ∈ app.currentConnection, OnlyLive app c
  | .listen _ =>
    app.state = .offline → app.reachabilityStatus ≠ .notReachable → app.registrarless →
      NoneLive app
  | .updateParams params => DropsRegistrar app params → NoneLive app
  | .permissionAnswered auth n granted =>
    ∀ request ∈ app.permissionRequests[n]?,
      responseDenies auth request.mediaType app.videoAllowed granted → OnlyDelegateLive app
  | .turnAnswered _ success => success = false → OnlyDelegateLive app
  | .didCreateSessionDescription _ sdp => sdp = none → OnlyDelegateLive app
  | .didSetSessionDescriptionWithError _ => OnlyDelegateLive app
  | .iceFailed _ => OnlyDelegateLive app
  | .iceGatheringComplete m =>
    ∀ media ∈ app.media? m, media.iceCandidates = 0 → OnlyDelegateLive app
  | .iceConnected m => ∀ media ∈ app.media? m, media.isInitiator → DelegateHungUp app
  | .reply reply active => OrderlyReply app reply active
  | _ => True

/-! ### What effects do to the agreement -/

section Effects
variable {app app' : App}

/-- Busy states agree in any case, so that only Ready ones matter. -/
theorem agree_iff_ready (h : Tracked app) : Agree app ↔ (app.state = .ready → NoneLive app) := by
  refine ⟨fun hagree hready => (hagree.ready hready).1,
    fun hnone => ⟨fun hready => ?_, fun hbusy => ?_⟩⟩
  · refine ⟨hnone hready, ?_⟩
    cases hcurrent : app.currentConnection with
    | none => rfl
    | some c => exact absurd (h.current c hcurrent) (hnone hready c)
  · obtain ⟨c, hc⟩ := Option.ne_none_iff_exists'.mp (h.busy hbusy)
    exact ⟨c, hc, h.current c hc⟩

/-- What is to be shown of a step: the next state agrees exactly under the condition. -/
def Decides (q : Prop) (app' : App) : Prop := Tracked app' ∧ (Agree app' ↔ q)

/-- Nothing happened to the calls. -/
theorem decides_same {q : Prop} (htracked : Tracked app) (hagree : Agree app)
    (h : SameCalls app app') (hq : q) : Decides q app' := by
  have htracked' : Tracked app' := by
    refine ⟨?_, ?_, h.delegateMade htracked.made⟩
    · intro c hc
      rw [h.current] at hc
      exact (h.live c).mpr (htracked.current c hc)
    · rw [h.state, h.current]
      exact htracked.busy
  refine ⟨htracked', iff_of_true ((agree_iff_ready htracked').mpr fun hready c hlive => ?_) hq⟩
  rw [h.state] at hready
  exact (hagree.ready hready).1 c ((h.live c).mp hlive)

/-- The call that ended has to be the only one. -/
theorem decides_ends {d : Nat} (htracked : Tracked app) (h : EndsCall d app app') :
    Decides (OnlyLive app d) app' := by
  have htracked' : Tracked app' :=
    ⟨by simp [h.current], by simp [h.state], h.delegateMade htracked.made⟩
  refine ⟨htracked', (agree_iff_ready htracked').trans ?_⟩
  simp only [h.state, NoneLive, h.live, OnlyLive, forall_const, not_and, not_not]

/-- The call of the delegate ended. -/
theorem decides_endsDelegate (htracked : Tracked app) (hagree : Agree app)
    (h : EndsDelegate app app') : Decides (OnlyDelegateLive app) app' := by
  unfold EndsDelegate at h
  unfold OnlyDelegateLive
  cases hd : app.connectionDelegate with
  | none =>
    simp only [hd] at h
    exact decides_same htracked hagree h (by simp)
  | some d =>
    simp only [hd] at h
    simpa using decides_ends htracked h

/-- A chain that is refused ends the call of the delegate. -/
theorem decides_chain {denied : Bool} (htracked : Tracked app) (hagree : Agree app)
    (h : ChainEffect denied app app') : Decides (denied → OnlyDelegateLive app) app' := by
  unfold ChainEffect at h
  cases denied with
  | false => exact decides_same htracked hagree (by simpa using h) (by simp)
  | true => simpa using decides_endsDelegate htracked hagree (by simpa using h)

/-- A method that makes an Offline device Ready. -/
theorem decides_ready (htracked : Tracked app) (hstate : app'.state = .ready)
    (hcurrent : app'.currentConnection = app.currentConnection)
    (hlive : ∀ c, app'.Live c ↔ app.Live c) (hdelegate : app'.delegate = app.delegate)
    (hlength : app'.connections.length = app.connections.length) :
    Decides (NoneLive app) app' := by
  have htracked' : Tracked app' := by
    refine ⟨fun c hc => (hlive c).mpr (htracked.current c (hcurrent ▸ hc)), by simp [hstate], ?_⟩
    simpa only [DelegateMade, hlength, hdelegate] using htracked.made
  refine ⟨htracked', (agree_iff_ready htracked').trans ?_⟩
  simp only [hstate, NoneLive, hlive, forall_const]

/-- A method that makes the device Offline. -/
theorem decides_offline {q : Prop} (htracked : Tracked app) (hstate : app'.state = .offline)
    (hcurrent : ∀ c ∈ app'.currentConnection, app'.Live c)
    (hdelegate : app'.delegate = app.delegate)
    (hlength : app'.connections.length = app.connections.length) (hq : q) : Decides q app' := by
  have hmade : DelegateMade app' := by
    simpa only [DelegateMade, hdelegate, hlength] using htracked.made
  have htracked' : Tracked app' := ⟨hcurrent, by simp [hstate], hmade⟩
  exact ⟨htracked', iff_of_true ((agree_iff_ready htracked').mpr (by simp [hstate])) hq⟩

end Effects

/-! ### Calls of the application -/

section Methods
variable {app app' : App}

/-- A live connection that gets another state stays live. -/
theorem sameCalls_setState {c : Nat} {state : RCConnectionState} (hlive : app.Live c)
    (hstate : state ≠ .disconnected) : SameCalls app (RCConnection.setState state c app) := by
  refine ⟨rfl, rfl, fun x => ?_, rfl, by simp [RCConnection.setState, App.setConnection]⟩
  rw [live_setState]
  split
  · rename_i heq
    subst heq
    exact iff_of_true ⟨hlive.lt, hstate⟩ hlive
  · rfl

/-- Accepting runs the chain, if the call still rings. -/
theorem decides_accept {auth : AVMediaType → AVAuthorizationStatus} {video : Bool} {c : Nat}
    (htracked : Tracked app) (hagree : Agree app)
    (h : RCConnection.accept auth video c app = some app') :
    Decides (Rings app c → requestDenies auth video → app.connectionDelegate = none) app' := by
  obtain ⟨connection, hc, ⟨hrings, app₂, hchain, rfl⟩ | ⟨hrings, rfl⟩⟩ := accept_cases h
  · unfold SipManager.answerWithVideo at hchain
    have hlive := App.live_of_ringing hc hrings
    have hrings : Rings app c := ⟨connection, hc, hrings⟩
    simp only [hrings, forall_const]
    have hchain := chainEffect_permissionFsmRequest (by exact htracked.made) hchain
    have hchain : ChainEffect (requestDenies auth video) app app₂ :=
      hchain.of_same (.of_eq rfl rfl rfl rfl) rfl
    unfold ChainEffect EndsDelegate at hchain
    cases hdenied : requestDenies auth video with
    | false =>
      -- The session is asked for, and the connection goes from Connecting to Connected.
      simp only [hdenied] at hchain
      exact decides_same htracked hagree
        (hchain.same (sameCalls_setState ((hchain.live c).mpr hlive) (by simp))) (by simp)
    | true =>
      cases hd : app.connectionDelegate with
      | none =>
        simp only [hdenied, hd] at hchain
        exact decides_same htracked hagree
          (hchain.same (sameCalls_setState ((hchain.live c).mpr hlive) (by simp))) (by simp)
      | some d =>
        simp only [hdenied, hd] at hchain
        -- The refusal made the device Ready, and the connection is live again.
        have hlive' : (RCConnection.setState .connected c app₂).Live c := by
          rw [live_setState, if_pos rfl, hchain.length]
          exact ⟨hlive.lt, by simp⟩
        have htracked' : Tracked (RCConnection.setState .connected c app₂) := by
          refine ⟨fun x hx => ?_, fun hbusy => ?_, ?_⟩
          · have := hchain.current.symm.trans hx
            cases this
          · have := hchain.state.symm.trans hbusy
            cases this
          · simpa [DelegateMade, RCConnection.setState, App.setConnection] using
              hchain.delegateMade htracked.made
        refine ⟨htracked', iff_of_false (fun hagree' => ?_) (by simp)⟩
        exact (hagree'.ready hchain.state).1 c hlive'
  · refine decides_same htracked hagree (.refl app') fun hr => ?_
    obtain ⟨connection', hc', hr⟩ := hr
    cases hc.symm.trans hc'
    rw [hrings] at hr
    cases hr

/-- Rejecting makes the device Ready, and leaves the call Connecting. -/
theorem decides_reject {c : Nat} (htracked : Tracked app) (hagree : Agree app) :
    Decides (¬ Rings app c) (RCConnection.reject c app) := by
  unfold RCConnection.reject
  split
  · rename_i hnone
    exact decides_same htracked hagree (.refl app) (by simp [Rings, hnone])
  · rename_i connection hc
    split
    · rename_i hrings
      have hlive := App.live_of_ringing hc hrings
      -- `reject` makes the device Ready and leaves the state of the connection.
      refine ⟨⟨htracked.current, by simp, htracked.made⟩, iff_of_false (fun hagree' => ?_) ?_⟩
      · exact (hagree'.ready rfl).1 c hlive
      · exact not_not.mpr ⟨connection, hc, hrings⟩
    · rename_i hrings
      refine decides_same htracked hagree (.refl app) fun hr => hrings ?_
      obtain ⟨connection', hc', hr⟩ := hr
      cases hc.symm.trans hc'
      exact hr

/-- What is current is hung up. -/
theorem decides_disconnectAll (htracked : Tracked app) (hagree : Agree app) :
    Decides (app.state = .busy → ∀ c ∈ app.currentConnection, OnlyLive app c)
      (RCDevice.disconnectAll app) := by
  unfold RCDevice.disconnectAll
  split
  · rename_i hbusy
    obtain ⟨c, hc, hlive⟩ := hagree.busy hbusy
    have hc : app.currentConnection = some c := hc
    have hends := endsCall_disconnect hlive.lt
    simp only [hc, hbusy, forall_const, Option.mem_some_iff, forall_eq']
    exact decides_ends htracked ⟨rfl, hends.current, hends.live, hends.delegate, hends.length⟩
  · rename_i hbusy
    exact decides_same htracked hagree (.refl app) fun h => absurd h hbusy

/-- Hanging up makes no connection, and leaves the delegate pointer. -/
theorem names_disconnect (c : Nat) (app : App) :
    (RCConnection.disconnect c app).delegate = app.delegate ∧
      (RCConnection.disconnect c app).connections.length = app.connections.length := by
  by_cases hlt : c < app.connections.length
  · exact ⟨(endsCall_disconnect hlt).delegate, (endsCall_disconnect hlt).length⟩
  · have hnone : app.connection? c = none := by
      rw [← Option.not_isSome_iff_eq_none, App.isSome_connection?]
      exact hlt
    rw [RCConnection.disconnect, hnone]
    exact ⟨rfl, rfl⟩

/-- So does hanging up what is current. -/
theorem names_disconnectAll (app : App) :
    (RCDevice.disconnectAll app).delegate = app.delegate ∧
      (RCDevice.disconnectAll app).connections.length = app.connections.length := by
  unfold RCDevice.disconnectAll
  split
  · cases app.currentConnection with
    | none => exact ⟨rfl, rfl⟩
    | some c => exact names_disconnect c app
  · exact ⟨rfl, rfl⟩

/-- `unlisten` leaves the device Offline. -/
theorem decides_unlisten (htracked : Tracked app) (hagree : Agree app) :
    Decides True (RCDevice.unlisten app) := by
  unfold RCDevice.unlisten
  split
  · -- Whether the call that ends was the only one says nothing here: the device gets Offline.
    have hall := (decides_disconnectAll htracked hagree).1
    obtain ⟨hdelegate, hlength⟩ := names_disconnectAll app
    exact decides_offline htracked rfl hall.current hdelegate hlength trivial
  · exact decides_same htracked hagree (.of_eq rfl rfl rfl rfl) trivial

/-- The live connections once a new one was made. -/
theorem live_makeConnection (connection : RCConnection) (hstate : connection.state ≠ .disconnected)
    (app : App) (c : Nat) :
    (RCDevice.makeConnection connection app).Live c ↔
      app.Live c ∨ c = app.connections.length := by
  simp only [App.Live, App.connection?_makeConnection]
  split
  · rename_i hc
    simp [hc, hstate]
  · rename_i hc
    simp [hc]

/-- With a new connection the device is Busy. -/
theorem decides_makeConnection (connection : RCConnection)
    (hstate : connection.state ≠ .disconnected) (app : App) :
    Decides True (RCDevice.makeConnection connection app) := by
  have htracked : Tracked (RCDevice.makeConnection connection app) := by
    refine ⟨fun c hc => ?_, by simp [RCDevice.makeConnection], fun d hd => ?_⟩
    · cases hc
      exact (live_makeConnection connection hstate app _).mpr (.inr rfl)
    · cases hd
      simp [RCDevice.makeConnection]
  exact ⟨htracked, iff_of_true ((agree_iff_ready htracked).mpr
    (by simp [RCDevice.makeConnection])) trivial⟩

/-- A call that is refused at once has been the only one. -/
theorem decides_invite {auth : AVMediaType → AVAuthorizationStatus} {owner : Nat}
    {recipient : CString} {video : Bool} {headers : Option NSDictionary} {invited : Bool}
    (htracked : Tracked app) (hagree : Agree app) (honly : ∀ d ∈ app.delegate, OnlyLive app d)
    (h : SipManager.invite auth owner recipient video headers app = some (app', invited)) :
    Decides True app' := by
  rcases invite_cases h with ⟨-, -, rfl⟩ | ⟨-, -, hchain⟩
  · exact decides_same htracked hagree (.of_eq rfl rfl rfl rfl) trivial
  · have hsame := sameCalls_dial owner recipient video headers app
    obtain ⟨htracked₁, hagree₁⟩ := decides_same htracked hagree hsame trivial
    obtain ⟨htracked₂, hagree₂⟩ := decides_chain htracked₁ (hagree₁.mpr trivial)
      (chainEffect_permissionFsmRequest htracked₁.made hchain)
    refine ⟨htracked₂, iff_of_true (hagree₂.mpr fun _ d hd c hc => ?_) trivial⟩
    exact honly d (hsame.delegate ▸ App.mem_delegate hd) c ((hsame.live c).mp hc)

/-- A Ready device that agrees has no other call. -/
theorem decides_connect {auth : AVMediaType → AVAuthorizationStatus} {recipient : CString}
    {video : Bool} {headers : Option NSDictionary} (htracked : Tracked app) (hagree : Agree app)
    (h : (RCDevice.connect auth recipient video headers app).map (·.1) = some app') :
    Decides True app' := by
  rcases connect_cases h with ⟨-, rfl⟩ | ⟨hready, app₂, invited, hinvite, rfl⟩
  · exact decides_same htracked hagree (.refl app') trivial
  · -- A Ready device has no live connection, so the new one is the only one.
    have hnone := (hagree.ready hready).1
    have hstate : RCConnectionState.pending ≠ .disconnected := by simp
    obtain ⟨htracked₁, hagree₁⟩ :=
      decides_makeConnection { incoming := false, state := .pending } hstate app
    obtain ⟨htracked₂, hagree₂⟩ := by
      refine decides_invite htracked₁ (hagree₁.mpr trivial) (fun d hd c hc => ?_) hinvite
      cases hd
      exact ((live_makeConnection _ hstate app c).mp hc).resolve_left (hnone c)
    exact decides_same htracked₂ (hagree₂.mpr trivial) (.setConnection _ _ fun _ => rfl) trivial

/-- New parameters touch no call. -/
theorem sameCalls_updateParams {params : Option Params} {online network : Bool}
    {state : UpdateParamsState}
    (h : RCDevice.sipManagerUpdateParams params online network app = some (app', state)) :
    SameCalls app app' := by
  obtain ⟨⟨commands, state', stored⟩, -, h⟩ := Option.bind_eq_some_iff.mp h
  cases h
  exact (SameCalls.foldl (fun app command => .pipe app none command) commands app).same
    (.of_eq rfl rfl rfl rfl)

/-- When the state without a registrar is reported. -/
theorem updateParams_reestablished {stored stored' : Params} {params : Option Params}
    {online : Bool} {commands : List SipManager.Command} {state : UpdateParamsState}
    (h : SipManager.updateParams stored params online true = some (commands, state, stored')) :
    state = .reestablishedRegistrarless ↔
      online = false ∧ stored.registrar ≠ some [] ∧ params.bind (·.registrar) = some [] := by
  cases params with
  | none =>
    obtain ⟨password, -, h⟩ := Option.bind_eq_some_iff.mp h
    cases h
    simp
  | some params =>
    rw [updateParams_eq] at h
    obtain ⟨unregister, -, h⟩ := Option.map_eq_some_iff.mp h
    cases h
    rw [updateState_eq_reestablished, Option.bind_some]
    tauto

/-- Without a registrar an Offline device becomes Ready. -/
theorem decides_updateParams {params : Option Params} (htracked : Tracked app)
    (hagree : Agree app) (h : RCDevice.updateParams params app = some app') :
    Decides (DropsRegistrar app params → NoneLive app) app' := by
  unfold RCDevice.updateParams at h
  split at h
  · rename_i hreachable
    obtain ⟨⟨app₁, state⟩, hupdate, h⟩ := Option.bind_eq_some_iff.mp h
    have hsame := sameCalls_updateParams hupdate
    obtain ⟨⟨commands, state', stored⟩, hparams, hpiped⟩ := Option.bind_eq_some_iff.mp hupdate
    -- The state that the update reports decides what `updateParams` does to the device.
    have hdrops : DropsRegistrar app params ↔ state = .reestablishedRegistrarless := by
      cases hpiped
      rw [updateParams_reestablished hparams]
      simp [DropsRegistrar, hreachable]
    rw [hdrops]
    cases state with
    | sentRegister =>
      cases h
      refine decides_offline htracked rfl (fun c hc => ?_) hsame.delegate hsame.length (by simp)
      exact (hsame.live c).mpr (htracked.current c (hsame.current ▸ hc))
    | reestablishedRegistrarless =>
      cases h
      simp only [forall_const]
      exact decides_ready htracked rfl hsame.current hsame.live hsame.delegate hsame.length
    | unassigned =>
      cases h
      exact decides_same htracked hagree hsame (by simp)
  · rename_i hreachable
    cases h
    refine decides_same htracked hagree (.of_eq rfl rfl rfl rfl) fun hdrops => ?_
    exact absurd hdrops.2.1 hreachable

/-- Starting the thread leaves the calls, and the device may go Offline. -/
theorem eventLoop_eq (app : App) :
    (SipManager.eventLoop app).connections = app.connections ∧
      (SipManager.eventLoop app).currentConnection = app.currentConnection ∧
      (SipManager.eventLoop app).delegate = app.delegate ∧
      (SipManager.eventLoop app).params = app.params ∧
      ((SipManager.eventLoop app).state = app.state ∨
        (SipManager.eventLoop app).state = .offline) := by
  unfold SipManager.eventLoop
  split
  · exact ⟨rfl, rfl, rfl, rfl, .inl rfl⟩
  · dsimp only
    split
    · exact ⟨rfl, rfl, rfl, rfl, .inr rfl⟩
    · exact ⟨rfl, rfl, rfl, rfl, .inl rfl⟩

/-- `listen` makes an Offline device Ready, if there is no registrar. -/
theorem decides_listen {status : NetworkStatus} (htracked : Tracked app) (hagree : Agree app)
    (h : RCDevice.listen status app = some app') :
    Decides (app.state = .offline → app.reachabilityStatus ≠ .notReachable →
      app.registrarless → NoneLive app) app' := by
  unfold RCDevice.listen at h
  split at h
  · rename_i hstate
    split at h
    · rename_i hreachable
      obtain ⟨hconnections, hcurrent, hdelegate, hparams, hoffline⟩ := eventLoop_eq app
      -- `eventLoop` may make the device Offline, which it is already.
      have hoffline : (SipManager.eventLoop app).state = app.state :=
        hoffline.elim id fun h => h.trans hstate.symm
      have hregistrarless : (SipManager.eventLoop app).registrarless = app.registrarless := by
        simp [App.registrarless, hparams]
      simp only [hregistrarless] at h
      cases hless : app.registrarless with
      | true =>
        simp only [hstate, hreachable, ne_eq, not_false_eq_true, forall_const]
        simp only [hless, Bool.true_or, if_true] at h
        cases h
        exact decides_ready htracked rfl hcurrent
          (fun c => by simp [App.Live, App.connection?, App.notify, hconnections]) hdelegate
          (by simp [App.notify, hconnections])
      | false =>
        refine decides_same htracked hagree ?_ (by simp)
        simp only [hless, Bool.false_or] at h
        split at h <;> cases h <;>
          exact .of_eq hconnections hoffline hcurrent hdelegate
    · rename_i hreachable
      cases h
      exact decides_same htracked hagree (.notify _ _) fun _ h => absurd h hreachable
  · rename_i hstate
    have hq : app.state = .offline → app.reachabilityStatus ≠ .notReachable →
        app.registrarless → NoneLive app := fun h => by simp [hstate] at h
    split at h
    -- A Ready device keeps its state, with or without a registrar.
    · cases h
      exact decides_same htracked hagree (.notify _ _) hq
    · obtain ⟨⟨app₂, state⟩, hupdate, h⟩ := Option.map_eq_some_iff.mp h
      cases h
      exact decides_same htracked hagree (sameCalls_updateParams hupdate) hq
  · rename_i hstate
    cases h
    exact decides_same htracked hagree (.refl app) fun h => by simp [hstate] at h

/-- Losing the network makes the device Offline; a change of networks touches no call. -/
theorem decides_checkNetworkStatus {newStatus : NetworkStatus} (htracked : Tracked app)
    (hagree : Agree app) : Decides True (RCDevice.checkNetworkStatus newStatus app) := by
  unfold RCDevice.checkNetworkStatus
  split
  · have hsame : SameCalls app { app with reachabilityStatus := newStatus } :=
      .of_eq rfl rfl rfl rfl
    obtain ⟨htracked₁, hagree₁⟩ := decides_same htracked hagree hsame trivial
    exact decides_unlisten htracked₁ (hagree₁.mpr trivial)
  · split
    · exact decides_same htracked hagree (.of_eq rfl rfl rfl rfl) trivial
    · exact decides_same htracked hagree (.of_eq rfl rfl rfl rfl) trivial

end Methods

/-! ### Callbacks of the framework -/

section Callbacks
variable {app app' : App} {m : Nat}

/-- The answer to a prompt. -/
theorem decides_permissionAnswered {auth : AVMediaType → AVAuthorizationStatus} {n : Nat}
    {granted : Bool} (htracked : Tracked app) (hagree : Agree app)
    (h : SipManager.permissionAnswered auth n granted app = some app') :
    Decides (∀ request ∈ app.permissionRequests[n]?,
      responseDenies auth request.mediaType app.videoAllowed granted → OnlyDelegateLive app)
      app' := by
  obtain ⟨request, hrequest, h⟩ := permissionAnswered_cases h
  have hchain := chainEffect_permissionFsm (by exact htracked.made) h
  have hchain : ChainEffect (responseDenies auth request.mediaType app.videoAllowed granted)
      app app' := hchain.of_same (.of_eq rfl rfl rfl rfl) rfl
  -- The condition is about the request that was answered.
  simpa only [hrequest, Option.mem_some_iff, forall_eq'] using
    decides_chain htracked hagree hchain

/-- A call of the session's delegate about an error. -/
theorem decides_mediaDidError (error : CallError) {app₁ : App} (htracked : Tracked app)
    (hagree : Agree app) (hsame : SameCalls app app₁)
    (hdelegate : app₁.connectionDelegate = app.connectionDelegate) :
    Decides (OnlyDelegateLive app) (SipManager.mediaDidError error app₁) :=
  decides_endsDelegate htracked hagree
    ((endsDelegate_didError error (hsame.delegateMade htracked.made)).of_same hsame hdelegate)

/-- Without servers the call ends. -/
theorem decides_turnAnswered {success : Bool} (htracked : Tracked app) (hagree : Agree app)
    (h : SipManager.turnAnswered m success app = some app') :
    Decides (success = false → OnlyDelegateLive app) app' := by
  obtain ⟨media, -, ⟨rfl, media', -, rfl⟩ | ⟨rfl, rfl⟩⟩ := turnAnswered_cases h
  · refine decides_same htracked hagree ?_ (by simp)
    exact (SameCalls.setMedia app m _).same (sameCalls_reportLocalVideo _ _)
  · simpa using decides_mediaDidError .turn htracked hagree (.setMedia app m _) rfl

/-- Without a description the call ends. -/
theorem decides_didCreateSessionDescription {sdp : Option CString} (htracked : Tracked app)
    (hagree : Agree app) (h : SipManager.didCreateSessionDescription m sdp app = some app') :
    Decides (sdp = none → OnlyDelegateLive app) app' := by
  rcases didCreateSessionDescription_cases h with ⟨rfl, rfl⟩ | ⟨text, rfl, rfl⟩
  · simpa using decides_mediaDidError .sdp htracked hagree (.setMedia app m _) rfl
  · exact decides_same htracked hagree (.setMedia app m _) (by simp)

/-- An error ends the call. -/
theorem decides_didSetSessionDescriptionWithError (htracked : Tracked app) (hagree : Agree app)
    (h : SipManager.didSetSessionDescriptionWithError m app = some app') :
    Decides (OnlyDelegateLive app) app' := by
  rw [didSetSessionDescriptionWithError_eq h]
  exact decides_mediaDidError .sdp htracked hagree (.setMedia app m _) rfl

/-- A candidate is counted. -/
theorem sameCalls_didGenerateIceCandidate {localDescription : CString}
    (h : SipManager.didGenerateIceCandidate m localDescription app = some app') :
    SameCalls app app' := by
  rw [didGenerateIceCandidate_eq h]
  exact .setMedia app m _

/-- The description is piped. -/
theorem sameCalls_candidateGatheringComplete {media : MediaWebRTC}
    (h : SipManager.candidateGatheringComplete m media app = some app') : SameCalls app app' := by
  rcases candidateGatheringComplete_cases h with ⟨-, rfl⟩ | ⟨-, h⟩
  · exact .refl app'
  · obtain ⟨commands, -, h⟩ := Option.bind_eq_some_iff.mp h
    cases h
    refine ((SameCalls.setMedia app m _).same (SameCalls.foldl ?_ commands _)).same
      (.setConnection _ _ fun _ => rfl)
    exact fun app command => .pipe app _ command

/-- Without candidates the call ends. -/
theorem decides_iceGatheringComplete (htracked : Tracked app) (hagree : Agree app)
    (h : SipManager.iceGatheringComplete m app = some app') :
    Decides (∀ media ∈ app.media? m, media.iceCandidates = 0 → OnlyDelegateLive app) app' := by
  obtain ⟨media, hm, -, hcase⟩ := iceGatheringComplete_cases h
  simp only [hm, Option.mem_some_iff, forall_eq']
  rcases hcase with ⟨hcandidates, h⟩ | ⟨hnone, rfl⟩
  · exact decides_same htracked hagree (sameCalls_candidateGatheringComplete h)
      fun hnone => absurd hnone hcandidates.ne'
  · simpa [hnone] using decides_mediaDidError .ice htracked hagree (.refl app) rfl

/-- A message to the delegate that gives it a live state, unless it was hung up while
Pending. -/
theorem decides_revive {method : Nat → App → App} (state : RCConnectionState)
    (hstate : state ≠ .disconnected) (htracked : Tracked app) (hagree : Agree app)
    (hsame : ∀ d connection, app.connection? d = some connection → connection.cancelPending →
      SameCalls app (method d app))
    (hrevive : ∀ d connection, app.connection? d = some connection →
      connection.cancelPending = false →
      SameCalls (RCConnection.setState state d app) (method d app)) :
    Decides (DelegateHungUp app) (app.toDelegate method) := by
  simp only [DelegateHungUp, App.toDelegate]
  cases hd : app.connectionDelegate with
  | none => exact decides_same htracked hagree (.refl app) (by simp)
  | some d =>
    have hlt := htracked.made d (App.mem_delegate hd)
    obtain ⟨connection, hconnection⟩ := Option.isSome_iff_exists.mp (App.isSome_connection?.mpr hlt)
    simp only [Option.mem_some_iff, forall_eq', hconnection]
    cases hpending : connection.cancelPending with
    | true =>
      exact decides_same htracked hagree (hsame d connection hconnection hpending)
        (by simp [hpending])
    | false =>
      have heffect := hrevive d connection hconnection hpending
      -- The device keeps its state here, so that it agrees depends on whether it is Ready.
      have hlive : ∀ c, (method d app).Live c ↔ app.Live c ∨ c = d := fun c => by
        rw [heffect.live, live_setState]
        by_cases hc : d = c
        · subst hc
          simp [hlt, hstate]
        · simp [hc, Ne.symm hc]
      have htracked' : Tracked (method d app) := by
        refine ⟨fun c hc => (hlive c).mpr (.inl (htracked.current c ?_)), ?_, ?_⟩
        · exact heffect.current.symm.trans hc
        · rw [heffect.state, heffect.current]
          exact htracked.busy
        · refine heffect.delegateMade ?_
          simpa [DelegateMade, RCConnection.setState, App.setConnection] using htracked.made
      refine ⟨htracked', (agree_iff_ready htracked').trans ?_⟩
      have hready : (method d app).state = app.state := heffect.state
      rw [hready]
      refine imp_congr_right fun _ => iff_of_false (fun hnone => ?_) (by simp [hpending])
      exact hnone d ((hlive d).mpr (.inr rfl))

/-- Ringing sets Connecting, unless the call was hung up while Pending. -/
theorem decides_outgoingRinging (htracked : Tracked app) (hagree : Agree app) :
    Decides (DelegateHungUp app) (app.toDelegate RCConnection.didReceiveOutgoingRinging) := by
  refine decides_revive .connecting (by simp) htracked hagree
    (fun d connection hc hpending => ?_) fun d connection hc hpending => ?_
  · simp only [RCConnection.didReceiveOutgoingRinging, hc, hpending, if_true]
    exact .pipe _ _ _
  · simp only [RCConnection.didReceiveOutgoingRinging, hc, hpending]
    exact .tell _ _ _

/-- An answer sets Connected, unless the call was hung up while Pending. -/
theorem decides_outgoingEstablished (htracked : Tracked app) (hagree : Agree app) :
    Decides (DelegateHungUp app) (app.toDelegate RCConnection.didReceiveOutgoingEstablished) := by
  refine decides_revive .connected (by simp) htracked hagree
    (fun d connection hc hpending => ?_) fun d connection hc hpending => ?_
  · simp only [RCConnection.didReceiveOutgoingEstablished, hc, hpending, if_true]
    refine (SameCalls.pipe app (some d) .bye).same (.setConnection _ _ ?_)
    exact fun _ => rfl
  · simp only [RCConnection.didReceiveOutgoingEstablished, hc, hpending]
    exact .tell _ _ _

/-- The initiator is Connected then. -/
theorem decides_iceConnected (htracked : Tracked app) (hagree : Agree app)
    (h : SipManager.iceConnected m app = some app') :
    Decides (∀ media ∈ app.media? m, media.isInitiator → DelegateHungUp app) app' := by
  obtain ⟨media, hm, hcase⟩ := iceConnected_cases h
  simp only [hm, Option.mem_some_iff, forall_eq']
  rcases hcase with ⟨hinitiator, rfl⟩ | ⟨hinitiator, rfl⟩
  · simpa [hinitiator] using decides_outgoingEstablished htracked hagree
  · exact decides_same htracked hagree (.toDelegate app fun _ _ => .tell _ _ _)
      (by simp [hinitiator])

/-- A failure ends the call. -/
theorem decides_iceFailed (htracked : Tracked app) (hagree : Agree app)
    (h : SipManager.iceFailed m app = some app') : Decides (OnlyDelegateLive app) app' := by
  rw [iceFailed_eq h]
  exact decides_mediaDidError .ice htracked hagree (.refl app) rfl

/-- A remote track is told. -/
theorem sameCalls_didAddStream (h : SipManager.didAddStream m app = some app') :
    SameCalls app app' := by
  rw [didAddStream_eq h]
  exact .toDelegate app fun _ _ => .tell _ _ _

end Callbacks

/-! ### Replies of Sofia -/

section Replies
variable {app app' : App}

/-- The other side ended the call of the delegate. -/
theorem decides_ended (event : ConnectionEvent) {app₁ : App} (htracked : Tracked app)
    (hagree : Agree app) (hsame : SameCalls app app₁)
    (hdelegate : app₁.connectionDelegate = app.connectionDelegate) :
    Decides (OnlyDelegateLive app) (app₁.toDelegate (RCConnection.ended event)) :=
  decides_endsDelegate htracked hagree
    ((endsDelegate_toDelegate fun d _ => endsCall_ended event d app₁).of_same hsame hdelegate)

/-- A BYE in the foreground. -/
theorem effect_didReceiveBye (d : Nat) (app : App) :
    Effect app (RCConnection.didReceiveBye true d app)
      (if app.state = .offline then .offline else .ready) none fun c => app.Live c ∧ c ≠ d := by
  have hlive := live_setState_disconnected d app
  have hlength : (RCConnection.setState .disconnected d app).connections.length
      = app.connections.length := by simp [RCConnection.setState, App.setConnection]
  simp only [RCConnection.didReceiveBye, if_true]
  by_cases hoffline : app.state = .offline
  · simp only [if_pos hoffline]
    have hoffline' : ((RCConnection.setState .disconnected d app).tell d .didDisconnect).state
        = .offline := hoffline
    rw [if_neg (not_not.mpr hoffline')]
    exact ⟨hoffline, rfl, hlive, rfl, hlength⟩
  · simp only [if_neg hoffline]
    have hoffline' : ((RCConnection.setState .disconnected d app).tell d .didDisconnect).state
        ≠ .offline := hoffline
    rw [if_pos hoffline']
    exact ⟨rfl, rfl, hlive, rfl, hlength⟩

/-- A device without a call stops to listen. -/
theorem effect_unlisten (h : app.state ≠ .busy) :
    Effect app (RCDevice.unlisten app) .offline app.currentConnection app.Live := by
  unfold RCDevice.unlisten RCDevice.disconnectAll
  rw [if_neg h]
  split
  · exact ⟨rfl, rfl, fun _ => Iff.rfl, rfl, rfl⟩
  · rename_i hoffline
    exact ⟨not_not.mp hoffline, rfl, fun _ => Iff.rfl, rfl, rfl⟩

/-- A `BYE` ends the call of the delegate; in the background the device goes Offline with it. -/
theorem decides_didReceiveBye {active : Bool} (htracked : Tracked app) (hagree : Agree app) :
    Decides (active → app.state ≠ .offline → OnlyDelegateLive app)
      ((SipManager.disconnectMedia app).toDelegate (RCConnection.didReceiveBye active)) := by
  have hsame := sameCalls_disconnectMedia app
  simp only [App.toDelegate, connectionDelegate_disconnectMedia, OnlyDelegateLive]
  cases hd : app.connectionDelegate with
  | none => exact decides_same htracked hagree hsame (by simp)
  | some d =>
    simp only [Option.mem_some_iff, forall_eq']
    have hbye := hsame.trans (effect_didReceiveBye d (SipManager.disconnectMedia app))
    rw [hsame.state] at hbye
    cases active with
    | true =>
      by_cases hoffline : app.state = .offline
      · rw [if_pos hoffline] at hbye
        refine decides_offline htracked hbye.state ?_ hbye.delegate hbye.length (by simp [hoffline])
        rw [hbye.current]
        intro c hc
        cases hc
      · rw [if_neg hoffline] at hbye
        have hends : EndsCall d app _ :=
          ⟨hbye.state, hbye.current, fun c => (hbye.live c).trans (and_congr_left' (hsame.live c)),
            hbye.delegate, hbye.length⟩
        simpa [hoffline] using decides_ends htracked hends
    | false =>
      -- The application is in the background: in the end the device is Offline.
      have hbusy : (RCConnection.didReceiveBye true d (SipManager.disconnectMedia app)).state
          ≠ .busy := by
        rw [hbye.state]
        split <;> simp
      have hoffline := effect_unlisten hbusy
      refine decides_offline htracked hoffline.state ?_ (hoffline.delegate.trans hbye.delegate)
        (hoffline.length.trans hbye.length) (by simp)
      intro c hc
      have := (hoffline.current.symm.trans hc).symm.trans hbye.current
      cases this

/-- An incoming call makes the device Busy. -/
theorem decides_didReceiveCall {caller : Option CString}
    (h : RCDevice.didReceiveCall caller app = some app') : Decides True app' := by
  obtain ⟨_, -, h⟩ := Option.bind_eq_some_iff.mp h
  cases h
  obtain ⟨htracked, hagree⟩ :=
    decides_makeConnection { incoming := true, state := .connecting } (by simp) app
  exact decides_same htracked (hagree.mpr trivial) (.notify _ _) trivial

/-- A registration makes an Offline device Ready. -/
theorem decides_didRegisterSuccessfully (htracked : Tracked app) (hagree : Agree app) :
    Decides (app.state = .offline → NoneLive app) (RCDevice.didRegisterSuccessfully app) := by
  unfold RCDevice.didRegisterSuccessfully
  split
  · rename_i hoffline
    simp only [hoffline, forall_const]
    exact decides_ready htracked rfl rfl (fun _ => Iff.rfl) rfl rfl
  · rename_i hoffline
    exact decides_same htracked hagree (.refl app) fun h => absurd h hoffline

/-- One reply of Sofia. -/
theorem decides_reply {jsonObject : CString → Option NSDictionary} {active : Bool}
    {reply : SofiaReply} (htracked : Tracked app) (hagree : Agree app)
    (h : SipManager.handleSofiaInput jsonObject active reply app = some app') :
    Decides (OrderlyReply app reply active) app' := by
  have hmedia := sameCalls_disconnectMedia app
  have hdelegate := connectionDelegate_disconnectMedia app
  unfold OrderlyReply
  cases replyHandled h with
  | aside hcode haside =>
    refine decides_same htracked hagree haside.untouched.sameCalls ?_
    split <;> first
      | trivial
      | rename_i htouches; exact (hcode _ htouches trivial).elim
  | incomingCall hcode hcall =>
    -- A new call takes the device to busy, with its connection.
    rw [hcode]
    obtain ⟨htracked₁, hagree₁⟩ := decides_didReceiveCall hcall
    exact decides_same htracked₁ (hagree₁.mpr trivial) (.of_eq rfl rfl rfl rfl) trivial
  | outgoingRinging hcode =>
    rw [hcode]
    exact decides_outgoingRinging htracked hagree
  | incomingCancelled hcode =>
    rw [hcode]
    exact decides_ended .didCancel htracked hagree (.refl app) rfl
  | outgoingCancelled hcode =>
    rw [hcode]
    exact decides_ended .didDisconnect htracked hagree hmedia hdelegate
  | outgoingDeclined hcode =>
    rw [hcode]
    exact decides_ended .didGetDeclined htracked hagree hmedia hdelegate
  | bye hcode hbye =>
    -- A BYE in the foreground makes the device ready, so no other call may be live.
    rw [hcode]
    rcases hbye with rfl | rfl <;> exact decides_didReceiveBye htracked hagree
  | @callError e hcode hfails =>
    rw [hcode]
    cases e <;> first
      | exact hfails.elim
      | exact decides_mediaDidError (.signalling reply) htracked hagree hmedia hdelegate
  | registerSuccess hcode =>
    -- A registration takes an offline device to ready, so no call may be live.
    rw [hcode]
    exact decides_didRegisterSuccessfully htracked hagree
  | @registerError e hcode hfails =>
    -- A failed one takes it offline, whatever the calls do.
    rw [hcode]
    cases e <;> first
      | exact hfails.elim
      | exact decides_offline htracked rfl htracked.current rfl rfl trivial

end Replies

/-! ### Steps and runs -/

/-- One step of the App: the condition decides whether it agrees. -/
theorem decides_appHandle {jsonObject : CString → Option NSDictionary} {app app' : App}
    {input : AppInput} (htracked : Tracked app) (hagree : Agree app)
    (h : appHandle jsonObject app input = some app') : Decides (Orderly app input) app' := by
  unfold appHandle at h
  -- One lemma per entry point: either `Orderly` holds and the states still agree, or neither.
  cases input with
  | connect auth recipient video headers => exact decides_connect htracked hagree h
  | disconnectAll =>
    cases h
    exact decides_disconnectAll htracked hagree
  | listen status => exact decides_listen htracked hagree h
  | unlisten =>
    cases h
    exact decides_unlisten htracked hagree
  | updateParams params => exact decides_updateParams htracked hagree h
  | sendMessage message recipient headers =>
    cases h
    exact decides_same htracked hagree (Untouched.sendMessage _ _ _ _).sameCalls trivial
  | accept c auth video => exact decides_accept htracked hagree (ofHeld_eq_some h).2
  | reject c =>
    obtain ⟨-, h⟩ := ofHeld_eq_some h
    cases h
    exact decides_reject htracked hagree
  | disconnect c =>
    obtain ⟨hlt, h⟩ := ofHeld_eq_some h
    cases h
    exact decides_ends htracked (endsCall_disconnect hlt)
  | sendDigits c digits =>
    obtain ⟨-, h⟩ := ofHeld_eq_some h
    cases h
    exact decides_same htracked hagree (Untouched.sendDigits _ _ _).sameCalls trivial
  | release c =>
    obtain ⟨-, h⟩ := ofHeld_eq_some h
    cases h
    exact decides_same htracked hagree (.setConnection _ _ fun _ => rfl) trivial
  | permissionAnswered auth n granted => exact decides_permissionAnswered htracked hagree h
  | turnAnswered m success => exact decides_turnAnswered htracked hagree h
  | didCreateSessionDescription m sdp =>
    exact decides_didCreateSessionDescription htracked hagree h
  | didSetSessionDescriptionWithError m =>
    exact decides_didSetSessionDescriptionWithError htracked hagree h
  | didGenerateIceCandidate m localDescription =>
    exact decides_same htracked hagree (sameCalls_didGenerateIceCandidate h) trivial
  | iceGatheringComplete m => exact decides_iceGatheringComplete htracked hagree h
  | iceConnected m => exact decides_iceConnected htracked hagree h
  | iceFailed m => exact decides_iceFailed htracked hagree h
  | didAddStream m => exact decides_same htracked hagree (sameCalls_didAddStream h) trivial
  | reply reply active => exact decides_reply htracked hagree h
  | checkNetworkStatus newStatus =>
    cases h
    exact decides_checkNetworkStatus htracked hagree
  | loopStopped =>
    cases h
    exact decides_same htracked hagree (.of_eq rfl rfl rfl rfl) trivial

/-- A step from a state that agrees leads to one that agrees exactly when it is orderly. -/
theorem decides_appStep {jsonObject : CString → Option NSDictionary} {app app' : App}
    {input : AppInput} (htracked : Tracked app) (hagree : Agree app)
    (h : appStep jsonObject app input = some app') : Decides (Orderly app input) app' := by
  -- `Orderly` reads nothing of what the step before it wrote.
  have horderly : Orderly app.silent input ↔ Orderly app input := by
    cases input <;> exact Iff.rfl
  have htracked : Tracked app.silent := ⟨htracked.current, htracked.busy, htracked.made⟩
  have hagree : Agree app.silent := ⟨hagree.ready, hagree.busy⟩
  obtain ⟨htracked', hiff⟩ := decides_appHandle htracked hagree h
  exact ⟨htracked', hiff.trans horderly⟩

/-- No call has been made. -/
structure Unused (app : App) : Prop where
  connections : app.connections = []
  current : app.currentConnection = none
  delegate : app.delegate = none
  state : app.state ≠ .busy

/-- Starting the thread makes no connection. -/
theorem Unused.eventLoop {app : App} (h : Unused app) : Unused (SipManager.eventLoop app) := by
  obtain ⟨hconnections, hcurrent, hdelegate, -, hstate⟩ := eventLoop_eq app
  refine ⟨hconnections.trans h.connections, hcurrent.trans h.current, hdelegate.trans h.delegate,
    ?_⟩
  rcases hstate with hstate | hstate
  · rw [hstate]
    exact h.state
  · simp [hstate]

/-- The device begins without connections. -/
theorem unused_initWithParams (params : Params) (status : NetworkStatus) :
    Unused (RCDevice.initWithParams params status) := by
  unfold RCDevice.initWithParams
  split
  · refine Unused.eventLoop ?_
    split <;> exact ⟨rfl, rfl, rfl, nofun⟩
  · exact ⟨rfl, rfl, rfl, nofun⟩

/-- A device that no call has been made with agrees with its calls. -/
theorem Unused.agree {app : App} (h : Unused app) : Tracked app ∧ Agree app := by
  have htracked : Tracked app :=
    ⟨by simp [h.current], fun hbusy => absurd hbusy h.state, by simp [DelegateMade, h.delegate]⟩
  refine ⟨htracked, (agree_iff_ready htracked).mpr fun _ c hlive => ?_⟩
  simpa [h.connections] using hlive.lt

/-- A new device agrees with its calls, and in every run it does so after every step exactly
when all steps are orderly. -/
theorem agree_iff (jsonObject : CString → Option NSDictionary) (params : Params)
    (status : NetworkStatus) (inputs : List AppInput) :
    Agree (RCDevice.initWithParams params status) ∧
      (AllSteps (appStep jsonObject) (fun _ _ app' => Agree app')
          (RCDevice.initWithParams params status) inputs ↔
        AllSteps (appStep jsonObject) (fun app input _ => Orderly app input)
          (RCDevice.initWithParams params status) inputs) := by
  obtain ⟨htracked, hagree⟩ := (unused_initWithParams params status).agree
  -- What is kept along the orderly part of a run is `Tracked` with `Agree`.
  refine ⟨hagree, AllSteps.iff_of_inv (fun app => Tracked app ∧ Agree app) ?_ ⟨htracked, hagree⟩ _⟩
  intro app input app' ⟨htracked, hagree⟩ hstep
  obtain ⟨htracked', hiff⟩ := decides_appStep htracked hagree hstep
  exact ⟨hiff, fun horderly => ⟨htracked', hiff.mpr horderly⟩⟩

/-- The reply that announces a call of `sip:b@h`. -/
def announcedCall : SofiaReply :=
  SipMsgEnum.incomingCall.replyWith
    (SipManager.stringifyDictionary
      [("sip-uri".toList, "sip:b@h".toList), ("sdp".toList, "v=0".toList)])

/-- The application rejects an incoming call: the device is Ready, its connection still
rings and is still the current one. -/
theorem reject_leaves_connection_ringing :
    ∃ app, run (appStep Json.read) (RCDevice.initWithParams {} .reachableViaWiFi)
        [.reply announcedCall true, .reject 0] = some app ∧
      app.state = .ready ∧ app.connectionState 0 = some .connecting ∧
      app.currentConnection = some 0 ∧ ¬ Agree app := by
  refine ⟨_, rfl, rfl, rfl, rfl, fun hagree => ?_⟩
  have := (hagree.ready rfl).2
  cases this

end RestCommSdk.Proofs
