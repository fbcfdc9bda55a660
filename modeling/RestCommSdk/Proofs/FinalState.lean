import RestCommSdk.Proofs.AppInvariants
import RestCommSdk.Proofs.Invites

/-!
# `RestCommSdk.Proofs.FinalState`: connections that come back to life

`revives_iff`: a connection that is Disconnected stays so, and its delegate is told of no ringing
and no answer, in exactly the runs in which a late event finds no Disconnected connection
(`FindsLive`). Three steps do not look at the state that they overwrite: the ringing, an ICE
connection, and the end of `accept:`, which comes after the call may have failed. The first two
are stopped by `cancelPending`, which a connection has that was hung up before it rang.
-/

set_option autoImplicit false

namespace RestCommSdk.Proofs

open RestCommSdk.Lib
open RestCommSdk.CliInterface (CString SofiaReply SipMsgEnum)
open RestCommSdk.SipManager (NSDictionary)

/-- Disconnected connections stay so, and their delegates are told of no call. -/
def KeepsFinal (s : MainThread) (_ : MainInput) (s' : MainThread) : Prop :=
  ∀ c, Over s.app c → Over s'.app c ∧
    (c, .didStartConnecting) ∉ s'.app.told ∧ (c, .didConnect) ∉ s'.app.told

/-- The connection was hung up before it rang. -/
def CancelPending (app : App) (c : Nat) : Prop :=
  ∃ connection ∈ app.connection? c, connection.cancelPending

/-- The late event finds no Disconnected connection, unless `cancelPending` stops it. -/
def EventFindsLive (app : App) : AppInput → Prop
  | .reply reply _ => SipMsgEnum.ofCode reply.rc = some .outgoingRinging →
    ∀ c ∈ app.connectionDelegate, Over app c → CancelPending app c
  | .iceConnected m => ∀ media ∈ app.media? m,
    ∀ c ∈ app.connectionDelegate, Over app c →
      media.isInitiator = true ∧ CancelPending app c
  | _ => True

/-- The step finds no Disconnected connection where it sets the state of a live one. -/
def FindsLive (s : MainThread) : MainInput → Prop
  | .app input => EventFindsLive s.app input
  | .resume => ∀ c, s.rests.head? = some (.accept c) → ¬ Over s.app c

/-- The connections `gone` are Disconnected, and nothing to the contrary was told. -/
structure Final (gone : Nat → Prop) (app : App) : Prop where
  stays : ∀ c, gone c → Over app c
  told : ∀ c, gone c →
    (c, .didStartConnecting) ∉ app.told ∧ (c, .didConnect) ∉ app.told

section Final
variable {gone : Nat → Prop} {app app' : App}

/-- Only the connections and what was told matter. -/
theorem Final.of_eq (h : Final gone app) (hconnections : app'.connections = app.connections)
    (htold : app'.told = app.told) : Final gone app' := by
  constructor
  · simpa only [Over, App.connectionState, App.connection?, hconnections] using h.stays
  · simpa only [htold] using h.told

/-- Something else than a beginning is told of a connection that is over. -/
theorem Final.tell (h : Final gone app) {c : Nat} {event : ConnectionEvent}
    (hevent : gone c → event ≠ .didStartConnecting ∧ event ≠ .didConnect) :
    Final gone (app.tell c event) := by
  refine ⟨h.stays, fun d hd => ?_⟩
  have htold := h.told d hd
  simp only [App.tell, List.mem_append, List.mem_singleton, Prod.mk.injEq, not_or, not_and]
  constructor
  · exact ⟨htold.1, fun heq hstart => (hevent (heq ▸ hd)).1 hstart.symm⟩
  · exact ⟨htold.2, fun heq hconnect => (hevent (heq ▸ hd)).2 hconnect.symm⟩

/-- A write to a connection that does not revive it. -/
theorem Final.setConnection (h : Final gone app) (c : Nat) {f : RCConnection → RCConnection}
    (hf : gone c → ∀ connection, connection.state = .disconnected →
      (f connection).state = .disconnected) : Final gone (app.setConnection c f) := by
  refine ⟨fun d hd => ?_, h.told⟩
  by_cases heq : c = d
  · subst heq
    exact over_setConnection c (hf hd) (h.stays c hd)
  · have hstays := h.stays d hd
    simpa [Over, App.connectionState, App.connection?_setConnection, heq] using hstays

/-- The methods that end a call revive none. -/
theorem callInvariant_final : CallInvariant (Final gone) where
  of_view h hview :=
    h.of_eq (congrArg CallView.connections hview) (congrArg CallView.told hview)
  mark := by
    intro app c f hmarks h
    refine h.setConnection c fun _ connection hstate => ?_
    exact (hmarks connection).2.elim (fun hsame => hsame.trans hstate) id
  hangUp := by
    intro app c connection _ h
    unfold RCConnection.hangUp
    split
    · exact h.of_eq rfl rfl
    · exact h.of_eq rfl rfl
    · split
      · exact h
      · exact h.setConnection c fun _ _ hstate => hstate
    · exact h
  video hevent h := h.tell fun _ => by rcases hevent with rfl | rfl <;> exact ⟨nofun, nofun⟩

/-- The methods that only pipe revive no call. -/
theorem pipes_final : Pipes (Final gone) where
  pipe h := h.of_eq rfl rfl
  credential h := h.of_eq rfl rfl

/-- An error ends the call again. -/
theorem Final.didError (h : Final gone app) (error : CallError) (c : Nat) :
    Final gone (RCConnection.didError error c app) :=
  callInvariant_final.didError error c (fun h => h.tell fun _ => ⟨nofun, nofun⟩) h

/-- An error of the media goes to the delegate. -/
theorem Final.mediaDidError (h : Final gone app) (error : CallError) :
    Final gone (SipManager.mediaDidError error app) :=
  CallInvariant.toDelegate h (fun c _ => h.didError error c) id

/-- A chain makes a session, or ends the call. -/
theorem Final.chainEnd {owner : Nat} {denies grants : Bool} (h : Final gone app)
    (hchain : ChainEnd owner denies grants app app') : Final gone app' :=
  callInvariant_final.chainEnd (fun _ => h.mediaDidError _) (fun _ => h.of_eq rfl rfl) h hchain

/-- A connection that is made is a new one. -/
theorem Final.makeConnection (h : Final gone app) (connection : RCConnection) :
    Final gone (RCDevice.makeConnection connection app) := by
  refine ⟨fun c hc => ?_, h.told⟩
  have hstays := h.stays c hc
  have hlt : c < app.connections.length := by
    obtain ⟨old, hold, -⟩ := Option.map_eq_some_iff.mp hstays
    exact App.isSome_connection?.mp (by rw [hold]; rfl)
  simpa [Over, App.connectionState, App.connection?_makeConnection, hlt.ne] using hstays

/-! ### Steps that do not revive -/

/-- A new connection is none that was over. -/
theorem Final.connect {auth : AVMediaType → AVAuthorizationStatus} {recipient : CString}
    {video : Bool} {headers : Option NSDictionary} (h : Final gone app)
    (hconnect : (RCDevice.connect auth recipient video headers app).map (·.1) = some app') :
    Final gone app' := by
  rcases connect_cases hconnect with ⟨-, rfl⟩ | ⟨-, app₂, invited, hinvite, rfl⟩
  · exact h
  · refine callInvariant_final.release _ invited ?_
    have hmade := h.makeConnection { incoming := false, state := .pending }
    rcases invite_cases hinvite with ⟨-, -, rfl⟩ | ⟨-, -, hchain⟩
    · exact hmade.of_eq rfl rfl
    · refine Final.chainEnd ?_ (chainEnd_dial hchain)
      refine Final.setConnection ?_ _ ?_
      · exact hmade.of_eq rfl rfl
      · exact fun _ _ hstate => hstate

/-- What a call that was accepted tells before the delegate returns. -/
theorem Final.enterAccept {auth : AVMediaType → AVAuthorizationStatus} {video : Bool} {c : Nat}
    {entered : App × List Rest} (h : Final gone app)
    (haccept : RCConnection.enterAccept auth video c app = some entered) :
    Final gone entered.1 := by
  obtain ⟨connection, -, ⟨-, app₂, hchain, rfl⟩ | ⟨-, rfl⟩⟩ := enterAccept_cases haccept
  · have haccepting : Final gone (accepting video app) := h.of_eq rfl rfl
    exact haccepting.chainEnd hchain
  · exact h

/-- The end of a call is told to the delegate. -/
theorem Final.enterDelegate (h : Final gone app) {event : ConnectionEvent} (rest : Rest)
    (hevent : event ≠ .didStartConnecting ∧ event ≠ .didConnect) :
    Final gone (app.enterDelegate (RCConnection.enterEnded event) rest).1 := by
  unfold App.enterDelegate
  split
  · rename_i c _
    have hover : Final gone (RCConnection.setState .disconnected c app) :=
      h.setConnection c fun _ _ _ => rfl
    exact hover.tell fun _ => hevent
  · exact h

/-- The other methods that are held calls. -/
theorem Final.sendDigits (h : Final gone app) (digits : CString) (c : Nat) :
    Final gone (RCConnection.sendDigits digits c app) := by
  unfold RCConnection.sendDigits
  split
  · exact h.of_eq rfl rfl
  · exact h.tell fun _ => ⟨nofun, nofun⟩

/-! ### Steps that may revive -/

/-- A state other than Disconnected is for connections that are not. -/
theorem final_setState_iff (h : Final (Over app) app) {state : RCConnectionState}
    (hstate : state ≠ .disconnected) (c : Nat) :
    Final (Over app) (RCConnection.setState state c app) ↔ ¬ Over app c := by
  constructor
  · intro hfinal hover
    have hstays := hfinal.stays c hover
    simp only [Over, RCConnection.setState, App.connectionState, App.connection?_setConnection,
      if_true] at hstays
    obtain ⟨connection, hconnection, heq⟩ := Option.map_eq_some_iff.mp hstays
    obtain ⟨old, -, rfl⟩ := Option.map_eq_some_iff.mp hconnection
    exact hstate heq
  · intro hlive
    exact h.setConnection c fun hover => absurd hover hlive

/-- With the delegate told of it. -/
theorem final_revive_iff (h : Final (Over app) app) {state : RCConnectionState}
    (hstate : state ≠ .disconnected) (c : Nat) (event : ConnectionEvent) :
    Final (Over app) ((RCConnection.setState state c app).tell c event) ↔ ¬ Over app c := by
  rw [← final_setState_iff h hstate c]
  constructor
  · intro hfinal
    refine ⟨hfinal.stays, fun d hd => ?_⟩
    exact h.told d hd
  · intro hfinal
    have hlive := (final_setState_iff h hstate c).mp hfinal
    exact hfinal.tell fun hover => absurd hover hlive

/-- The ringing and the answer to a call, which `cancelPending` stops. -/
theorem final_unless_cancelPending_iff (h : Final (Over app) app) {state : RCConnectionState}
    (hstate : state ≠ .disconnected) {c : Nat} {connection : RCConnection}
    (hc : app.connection? c = some connection) (event : ConnectionEvent)
    (hstopped : Final (Over app) app') :
    Final (Over app) (if connection.cancelPending then app'
        else (RCConnection.setState state c app).tell c event) ↔
      (Over app c → CancelPending app c) := by
  cases hcancel : connection.cancelPending with
  | true => simp [hstopped, CancelPending, hc, hcancel]
  | false =>
    have hnot : ¬ CancelPending app c := by simp [CancelPending, hc, hcancel]
    rw [if_neg Bool.false_ne_true, final_revive_iff h hstate c]
    exact ⟨fun hlive hover => absurd hover hlive, fun hcond hover => hnot (hcond hover)⟩

/-- Ringing revives the connection of the delegate, unless it was hung up while Pending. -/
theorem final_ringing_iff (h : Final (Over app) app) :
    Final (Over app) (app.toDelegate RCConnection.didReceiveOutgoingRinging) ↔
      ∀ c ∈ app.connectionDelegate, Over app c → CancelPending app c := by
  unfold App.toDelegate
  cases app.connectionDelegate with
  | none => simp [h]
  | some c =>
    simp only [Option.mem_some_iff, forall_eq']
    unfold RCConnection.didReceiveOutgoingRinging
    cases hc : app.connection? c with
    | none => simp [h, Over, App.connectionState, hc]
    | some connection =>
      exact final_unless_cancelPending_iff h (by decide) hc _ (h.of_eq rfl rfl)

/-- An answer revives it likewise. -/
theorem final_outgoingEstablished_iff (h : Final (Over app) app) :
    Final (Over app) (app.toDelegate RCConnection.didReceiveOutgoingEstablished) ↔
      ∀ c ∈ app.connectionDelegate, Over app c → CancelPending app c := by
  unfold App.toDelegate
  cases app.connectionDelegate with
  | none => simp [h]
  | some c =>
    simp only [Option.mem_some_iff, forall_eq']
    unfold RCConnection.didReceiveOutgoingEstablished
    cases hc : app.connection? c with
    | none => simp [h, Over, App.connectionState, hc]
    | some connection =>
      refine final_unless_cancelPending_iff h (by decide) hc _ (Final.setConnection ?_ c ?_)
      · exact h.of_eq rfl rfl
      · exact fun _ _ hstate => hstate

/-- The incoming call is told to be there, whatever its state is. -/
theorem final_incomingEstablished_iff (h : Final (Over app) app) :
    Final (Over app) (app.toDelegate RCConnection.didReceiveIncomingEstablished) ↔
      ∀ c ∈ app.connectionDelegate, ¬ Over app c := by
  unfold App.toDelegate
  cases app.connectionDelegate with
  | none => simp [h]
  | some c =>
    simp only [Option.mem_some_iff, forall_eq']
    constructor
    · intro hfinal hover
      exact (hfinal.told c hover).2 (by simp [RCConnection.didReceiveIncomingEstablished, App.tell])
    · intro hlive
      exact h.tell fun hover => absurd hover hlive

/-- The media are connected: one of the two, by the direction of the session. -/
theorem final_iceConnected_iff {m : Nat} (h : Final (Over app) app)
    (hconnected : SipManager.iceConnected m app = some app') :
    Final (Over app) app' ↔ ∀ media ∈ app.media? m, ∀ c ∈ app.connectionDelegate,
      Over app c → media.isInitiator = true ∧ CancelPending app c := by
  obtain ⟨media, hm, hcases⟩ := iceConnected_cases hconnected
  simp only [hm, Option.mem_some_iff, forall_eq']
  rcases hcases with ⟨hinitiator, rfl⟩ | ⟨hinitiator, rfl⟩
  · simp only [hinitiator, true_and]
    exact final_outgoingEstablished_iff h
  · simp only [hinitiator, Bool.false_eq_true, false_and, imp_false]
    exact final_incomingEstablished_iff h

/-- Of the replies, ringing alone may revive a call. -/
theorem final_enterSofiaInput_iff {jsonObject : CString → Option NSDictionary} {active : Bool}
    {reply : SofiaReply} {entered : App × List Rest} (h : Final (Over app) app)
    (hreply : SipManager.enterSofiaInput jsonObject active reply app = some entered) :
    Final (Over app) entered.1 ↔ (SipMsgEnum.ofCode reply.rc = some .outgoingRinging →
      ∀ c ∈ app.connectionDelegate, Over app c → CancelPending app c) := by
  cases replyEnd_enterSofiaInput hreply with
  | ringing hcode =>
    simp only [hcode, true_imp_iff]
    -- Ringing sets the state of the delegate, whatever it was.
    exact final_ringing_iff h
  | incomingCall hcode hcall =>
    simp only [hcode, Option.some.injEq, reduceCtorEq, false_imp_iff, iff_true]
    obtain ⟨caller, -, hcall⟩ := Option.bind_eq_some_iff.mp hcall
    cases hcall
    -- A new connection is made, and no old one is touched.
    have hcleared : Final (Over app) { app with activeCallParams := {}, dialled := none } :=
      h.of_eq rfl rfl
    exact (hcleared.makeConnection _).of_eq rfl rfl
  | @ended e event app₁ rest _ hcode hevent hmedia =>
    have hne : e ≠ .outgoingRinging := by rintro rfl; cases hevent
    simp only [hcode, Option.some.injEq, hne, false_imp_iff, iff_true]
    have h₁ : Final (Over app) app₁ := by
      rcases hmedia with rfl | rfl
      · exact h
      · exact callInvariant_final.disconnectMedia h
    refine h₁.enterDelegate rest ?_
    constructor <;> (rintro rfl; cases e <;> cases hevent)
  | @failed e hcode hfailed =>
    have hne : e ≠ .outgoingRinging := by rintro rfl; cases hfailed
    simp only [hcode, Option.some.injEq, hne, false_imp_iff, iff_true]
    -- The delegate is told of the error, and stays as it is when it is over.
    exact CallInvariant.toDelegate (callInvariant_final.disconnectMedia h)
      (fun c _ => (callInvariant_final.disconnectMedia h).didError _ c) id
  | other hcode hother =>
    have hne : SipMsgEnum.ofCode reply.rc ≠ some .outgoingRinging := fun hring => by
      have hcall := hcode _ hring
      cases hcall
    -- No other reply speaks of a call.
    simp only [hne, false_imp_iff, iff_true]
    exact callInvariant_final.otherReply pipes_final hcode h hother

/-! ### Steps and runs -/

/-- The answer of the TURN server revives no call. -/
theorem Final.turnAnswered {m : Nat} {success : Bool} (h : Final gone app)
    (hanswered : SipManager.turnAnswered m success app = some app') : Final gone app' := by
  obtain ⟨media, -, ⟨-, media', -, rfl⟩ | ⟨-, rfl⟩⟩ := turnAnswered_cases hanswered
  · exact callInvariant_final.reportLocalVideo media' (h.of_eq rfl rfl)
  · refine Final.mediaDidError ?_ _
    exact h.of_eq rfl rfl

/-- The end of gathering revives no call. -/
theorem Final.iceGatheringComplete {m : Nat} (h : Final gone app)
    (hcomplete : SipManager.iceGatheringComplete m app = some app') : Final gone app' := by
  obtain ⟨media, -, -, ⟨-, hcomplete⟩ | ⟨-, rfl⟩⟩ := iceGatheringComplete_cases hcomplete
  · exact callInvariant_final.candidateGatheringComplete pipes_final h hcomplete
  · exact h.mediaDidError _

/-- What an input does up to the call of a delegate. -/
theorem final_enter_iff {jsonObject : CString → Option NSDictionary} {input : AppInput}
    {entered : App × List Rest} (h : Final (Over app) app)
    (henter : enter jsonObject app input = some entered) :
    Final (Over app) entered.1 ↔ EventFindsLive app input := by
  have hI : CallInvariant (Final (Over app)) := callInvariant_final
  have hp : Pipes (Final (Over app)) := pipes_final
  cases input with
  | reply reply active => exact final_enterSofiaInput_iff h henter
  | iceConnected m =>
    obtain ⟨app', happ, rfl⟩ := Option.map_eq_some_iff.mp henter
    -- The peers are connected, which sets the state of the delegate.
    exact final_iceConnected_iff h happ
  | accept c auth video =>
    obtain ⟨connection, -, henter⟩ := Option.bind_eq_some_iff.mp henter
    split at henter
    · exact iff_of_true (h.enterAccept henter) trivial
    · cases henter
  | connect auth recipient video headers =>
    obtain ⟨app', happ, rfl⟩ := Option.map_eq_some_iff.mp henter
    exact iff_of_true (h.connect happ) trivial
  | sendDigits c digits =>
    obtain ⟨app', happ, rfl⟩ := Option.map_eq_some_iff.mp henter
    rw [ofHeld_some happ]
    exact iff_of_true (h.sendDigits digits c) trivial
  | permissionAnswered auth n granted =>
    obtain ⟨app', happ, rfl⟩ := Option.map_eq_some_iff.mp henter
    obtain ⟨request, -, hchain⟩ := chainEnd_permissionAnswered happ
    refine iff_of_true (Final.chainEnd ?_ hchain) trivial
    exact h.of_eq rfl rfl
  | turnAnswered m success =>
    obtain ⟨app', happ, rfl⟩ := Option.map_eq_some_iff.mp henter
    exact iff_of_true (h.turnAnswered happ) trivial
  | didCreateSessionDescription m sdp =>
    obtain ⟨app', happ, rfl⟩ := Option.map_eq_some_iff.mp henter
    rcases didCreateSessionDescription_cases happ with ⟨-, rfl⟩ | ⟨text, -, rfl⟩
    · refine iff_of_true (Final.mediaDidError ?_ _) trivial
      exact h.of_eq rfl rfl
    · exact iff_of_true (h.of_eq rfl rfl) trivial
  | didSetSessionDescriptionWithError m =>
    obtain ⟨app', happ, rfl⟩ := Option.map_eq_some_iff.mp henter
    rw [didSetSessionDescriptionWithError_eq happ]
    refine iff_of_true (Final.mediaDidError ?_ _) trivial
    exact h.of_eq rfl rfl
  | iceGatheringComplete m =>
    obtain ⟨app', happ, rfl⟩ := Option.map_eq_some_iff.mp henter
    exact iff_of_true (h.iceGatheringComplete happ) trivial
  | iceFailed m =>
    obtain ⟨app', happ, rfl⟩ := Option.map_eq_some_iff.mp henter
    rw [iceFailed_eq happ]
    exact iff_of_true (h.mediaDidError _) trivial
  -- The remaining inputs leave a connection that is over as it is.
  | _ => exact iff_of_true (hI.enter hp h henter trivial) trivial

/-- The end of a method, where only that of `accept:` revives. -/
theorem final_resume_iff {rest : Rest} {entered : App × List Rest} (h : Final (Over app) app)
    (hresume : rest.resume app = some entered) :
    Final (Over app) entered.1 ↔ ∀ c, rest = .accept c → ¬ Over app c := by
  cases rest with
  | accept c =>
    cases hresume
    simp only [Rest.accept.injEq, forall_eq']
    exact final_setState_iff h (by decide) c
  | incomingCall c sdp =>
    obtain ⟨text, -, hresume⟩ := Option.bind_eq_some_iff.mp hresume
    cases hresume
    exact iff_of_true (h.of_eq rfl rfl) (by simp)
  | ended | bye _ | unlisten =>
    exact iff_of_true (callInvariant_final.resume pipes_final h hresume trivial) (by simp)

end Final

/-- Before a step nothing was told. -/
theorem final_silent (app : App) : Final (Over app.silent) app.silent :=
  ⟨fun _ => id, fun _ _ => ⟨List.not_mem_nil, List.not_mem_nil⟩⟩

/-- The condition does not look at what was told before. -/
theorem eventFindsLive_silent (app : App) (input : AppInput) :
    EventFindsLive app.silent input ↔ EventFindsLive app input := by
  cases input <;> rfl

/-- One step: the condition is exact. -/
theorem keepsFinal_iff {jsonObject : CString → Option NSDictionary} {s s' : MainThread}
    {input : MainInput} (h : mainStep jsonObject s input = some s') :
    KeepsFinal s input s' ↔ FindsLive s input := by
  -- What the step keeps is what the invariant says of it.
  have hview : KeepsFinal s input s' ↔ Final (Over s.app.silent) s'.app :=
    ⟨fun hkeeps => ⟨fun c hc => (hkeeps c hc).1, fun c hc => (hkeeps c hc).2⟩,
      fun hfinal c hc => ⟨hfinal.stays c hc, hfinal.told c hc⟩⟩
  rw [hview]
  cases input with
  | app input =>
    obtain ⟨entered, henter, h⟩ := Option.bind_eq_some_iff.mp h
    cases h
    exact (final_enter_iff (final_silent s.app) henter).trans (eventFindsLive_silent s.app input)
  | resume =>
    unfold mainStep at h
    dsimp only at h
    split at h
    · cases h
    · rename_i rest rests hrests
      obtain ⟨entered, hresume, h⟩ := Option.bind_eq_some_iff.mp h
      -- The rest may set the state that its handler was about to set.
      cases h
      simp only [FindsLive, hrests, List.head?_cons, Option.some.injEq]
      exact final_resume_iff (final_silent s.app) hresume

/-- In every run, a connection that is Disconnected stays so and its delegate is told of no call
any more, in every step exactly when no step finds a Disconnected connection where it sets the
state of a live one. -/
theorem keepsFinal_iff_findsLive (jsonObject : CString → Option NSDictionary) (s : MainThread)
    (inputs : List MainInput) :
    AllSteps (mainStep jsonObject) KeepsFinal s inputs ↔
      AllSteps (mainStep jsonObject) (fun s input _ => FindsLive s input) s inputs := by
  refine AllSteps.iff_of_inv (fun _ => True) ?_ trivial inputs
  intro s input s' _ hstep
  exact ⟨keepsFinal_iff hstep, fun _ => trivial⟩

/-- The reply that the called phone rings. -/
def ringingReply : AppInput := .reply SipMsgEnum.outgoingRinging.reply true

/-- Bob's phone rings, and the caller hangs up. -/
def hungUp : List AppInput :=
  callBob .authorized :: gather ++ [.iceGatheringComplete 0, ringingReply, .disconnect 0]

/-- The phone is said to ring once more: the connection is Connecting again. -/
theorem ringing_revives_connection :
    ∃ s s', run (mainStep Json.read) { app := RCDevice.initWithParams {} .reachableViaWiFi }
        (hungUp.map .app) = some s ∧
      Over s.app 0 ∧ mainStep Json.read s (.app ringingReply) = some s' ∧
      s'.app.connectionState 0 = some .connecting ∧
      s'.app.told = [(0, .didStartConnecting)] ∧ ¬ KeepsFinal s (.app ringingReply) s' := by
  refine ⟨_, _, rfl, rfl, rfl, rfl, rfl, fun hkeeps => ?_⟩
  have hstays := (hkeeps 0 rfl).1
  cases hstays

end RestCommSdk.Proofs
