import RestCommSdk.Proofs.AppInvariants
import RestCommSdk.Proofs.DeviceStates
import RestCommSdk.Proofs.Invites

/-!
# `RestCommSdk.Proofs.OneEnd`: how often a call ends for the application

`endsFor` says which connection the application is told the end of on an input: the connection
that `connectionDelegate` names, for the inputs that end a call (`endsCall`), and the new
connection when a call is refused before it is placed. `ends_mainStep` is the step lemma, and
`nodup_ends_iff` says that no connection ends twice in exactly the runs in which no input that
ends a call finds a connection that one before has ended.

`connectionDelegate` is not cleared at the end of a call, so what the peer answers to the end of
one is an end of it again.
-/

set_option autoImplicit false

namespace RestCommSdk.Proofs

open RestCommSdk.Lib
open RestCommSdk.CliInterface (CString SofiaReply SipMsgEnum)
open RestCommSdk.SipManager (NSDictionary)

/-- The calls of a connection's delegate that are the last ones for its call. -/
def isTerminal : ConnectionEvent → Bool
  | .didDisconnect | .didCancel | .didGetDeclined => true
  | .didFailWithError error => error ≠ .sendingDigits
  | _ => false

/-- The connections whose delegates this step has told of the end. -/
def ends (app : App) : List Nat := (app.told.filter fun told => isTerminal told.2).map (·.1)

/-- The input ends the call of `connectionDelegate`. -/
def endsCall (app : App) : AppInput → Bool
  | .reply reply _ =>
    (SipMsgEnum.ofCode reply.rc).any fun e => (endEvent e).isSome || inviteFailed e
  | .accept c auth video => (app.connection? c).any (·.ringing) && requestDenies auth video
  | .permissionAnswered auth n granted => (app.permissionRequests[n]?).any fun request =>
    responseDenies auth request.mediaType app.videoAllowed granted
  | .turnAnswered _ success => !success
  | .didCreateSessionDescription _ sdp => sdp.isNone
  | .iceGatheringComplete m => (app.media? m).any (·.iceCandidates = 0)
  | .didSetSessionDescriptionWithError _ | .iceFailed _ => true
  | _ => false

/-- The connection whose call the input ends. -/
def endsFor (app : App) : AppInput → Option Nat
  | .connect auth _ video _ =>
    if app.state = .ready ∧ app.media = none ∧ requestDenies auth video then
      some app.connections.length
    else none
  | input => if endsCall app input then app.connectionDelegate else none

/-- The connections whose calls a step ends, as a list. -/
def endsIn (s : MainThread) : MainInput → List Nat
  | .app input => (endsFor s.app input).toList
  | .resume => []

/-- The input finds no connection whose call has ended before. -/
def EndsOnce (s : MainThread × List Nat) : MainInput → Prop
  | .app input => endsCall s.1.app input → ∀ c ∈ s.1.app.connectionDelegate, c ∉ s.2
  | .resume => True

/-- So many connections have been made, and `ended` is what was told. -/
structure Told (made : Nat) (ended : List Nat) (app : App) : Prop where
  made : made ≤ app.connections.length
  delegate : DelegateMade app
  ends : ends app = ended

section Told
variable {made : Nat} {ended : List Nat} {app app' : App}

/-- Only the connections, the delegate pointer and what was told matter. -/
theorem Told.of_eq (h : Told made ended app) (hconnections : app'.connections = app.connections)
    (hdelegate : app'.delegate = app.delegate) (htold : app'.told = app.told) :
    Told made ended app' where
  made := by rw [hconnections]; exact h.made
  delegate := by simpa only [DelegateMade, hconnections, hdelegate] using h.delegate
  ends := by simpa only [Proofs.ends, htold] using h.ends

/-- A write to a connection. -/
theorem Told.setConnection (h : Told made ended app) (c : Nat)
    (f : RCConnection → RCConnection) : Told made ended (app.setConnection c f) where
  made := by simpa [App.setConnection] using h.made
  delegate := by simpa [DelegateMade, App.setConnection] using h.delegate
  ends := h.ends

/-- The delegate is told of something else. -/
theorem Told.tell (h : Told made ended app) {c : Nat} {event : ConnectionEvent}
    (hevent : isTerminal event = false) : Told made ended (app.tell c event) :=
  ⟨h.made, h.delegate, by simpa [Proofs.ends, App.tell, hevent] using h.ends⟩

/-- The delegate is told of the end. -/
theorem Told.tellEnd (h : Told made ended app) {c : Nat} {event : ConnectionEvent}
    (hevent : isTerminal event = true) : Told made (ended ++ [c]) (app.tell c event) :=
  ⟨h.made, h.delegate, by simp [Proofs.ends, App.tell, hevent, ← h.ends]⟩

/-- The methods that end a call keep the count of what they tell. -/
theorem callInvariant_told : CallInvariant (Told made ended) where
  of_view h hview := h.of_eq (congrArg CallView.connections hview)
    (congrArg CallView.delegate hview) (congrArg CallView.told hview)
  mark c f _ h := h.setConnection c f
  hangUp := by
    intro app c connection _ h
    unfold RCConnection.hangUp
    split
    · exact h.of_eq rfl rfl rfl
    · exact h.of_eq rfl rfl rfl
    · split
      · exact h
      · exact h.setConnection c _
    · exact h
  video hevent h := h.tell (by rcases hevent with rfl | rfl <;> rfl)

/-- The methods that only pipe tell nothing. -/
theorem pipes_told : Pipes (Told made ended) where
  pipe h := h.of_eq rfl rfl rfl
  credential h := h.of_eq rfl rfl rfl

/-- Fewer connections were made at the time. -/
theorem Told.mono {fewer : Nat} (h : Told made ended app) (hle : fewer ≤ made) :
    Told fewer ended app := ⟨hle.trans h.made, h.delegate, h.ends⟩

/-- A connection is made. -/
theorem Told.makeConnection (h : Told made ended app) (connection : RCConnection) :
    Told (app.connections.length + 1) ended (RCDevice.makeConnection connection app) where
  made := by simp [RCDevice.makeConnection]
  delegate := by simp [DelegateMade, RCDevice.makeConnection]
  ends := h.ends

/-- The delegate is told of an error, if there is one. -/
theorem Told.mediaDidError (h : Told made [] app) {error : CallError}
    (herror : error ≠ .sendingDigits) :
    Told made app.connectionDelegate.toList (app.toDelegate (RCConnection.didError error)) := by
  unfold App.toDelegate
  cases app.connectionDelegate with
  | none => exact h
  | some c =>
    refine callInvariant_told.didError error c (fun h => ?_) h
    exact h.tellEnd (by simpa [isTerminal] using herror)

/-- The session is written first. -/
theorem Told.mediaDidError_setMedia (h : Told made [] app) {error : CallError}
    (herror : error ≠ .sendingDigits) (m : Nat) (f : MediaWebRTC → MediaWebRTC) :
    Told made app.connectionDelegate.toList
      (SipManager.mediaDidError error (app.setMedia m f)) := by
  have hset : Told made [] (app.setMedia m f) := h.of_eq rfl rfl rfl
  exact hset.mediaDidError herror

/-- The end of a chain tells local tracks. -/
theorem Told.handleCall {owner : Nat} (h : Told made ended app)
    (hcall : SipManager.handleCall owner app = some app') : Told made ended app' := by
  rcases handleCall_cases hcall with ⟨-, rfl⟩ | ⟨-, media, -, rfl⟩
  · exact h
  · exact callInvariant_told.reportLocalVideo media (h.of_eq rfl rfl rfl)

/-- A chain tells the end of the call where it is refused. -/
theorem Told.chainEnd {owner : Nat} {denies grants : Bool} (h : Told made [] app)
    (hchain : ChainEnd owner denies grants app app') :
    Told made (if denies then app.connectionDelegate else none).toList app' := by
  cases hchain with
  | denied mediaType hdenies _ heq =>
    subst heq
    rw [if_pos hdenies]
    exact h.mediaDidError nofun
  | granted hdenies _ hcall =>
    rw [if_neg (by simp [hdenies])]
    exact h.handleCall hcall
  | asked mediaType hdenies _ heq =>
    subst heq
    rw [if_neg (by simp [hdenies])]
    exact h.of_eq rfl rfl rfl

/-! ### Steps -/

/-- The new connection is the delegate while its call is placed. -/
theorem connectionDelegate_dial (recipient : CString) (video : Bool)
    (headers : Option NSDictionary) (connection : RCConnection) (app : App) :
    (dial app.connections.length recipient video headers
        (RCDevice.makeConnection connection app)).connectionDelegate
      = some app.connections.length :=
  Option.filter_eq_some_iff.mpr ⟨rfl, decide_eq_true (.inl rfl)⟩

/-- The call that is refused at once is that of the new connection. -/
theorem Told.connect {auth : AVMediaType → AVAuthorizationStatus} {recipient : CString}
    {video : Bool} {headers : Option NSDictionary} (h : Told made [] app)
    (hconnect : (RCDevice.connect auth recipient video headers app).map (·.1) = some app') :
    Told made (endsFor app (.connect auth recipient video headers)).toList app' ∧
      ∀ c ∈ endsFor app (.connect auth recipient video headers),
        c < app'.connections.length := by
  simp only [endsFor]
  rcases connect_cases hconnect with ⟨hready, rfl⟩ | ⟨hready, app₂, invited, hinvite, rfl⟩
  · rw [if_neg (by simp [hready])]
    -- A device that is not ready makes no connection, and ends none.
    exact ⟨h, nofun⟩
  · have hmade := h.makeConnection { incoming := false, state := .pending }
    have hle : made ≤ app.connections.length + 1 := by
      have := h.made
      omega
    rcases invite_cases hinvite with ⟨hmedia, -, rfl⟩ | ⟨hmedia, -, hchain⟩
    · -- A media is there already, and the refused connection is told nothing.
      have hmedia : app.media ≠ none := hmedia
      rw [if_neg (by simp [hmedia])]
      refine ⟨Told.setConnection ?_ _ _, nofun⟩
      exact (hmade.mono hle).of_eq rfl rfl rfl
    · have hmedia : app.media = none := hmedia
      have hdial : Told (app.connections.length + 1) []
          (dial app.connections.length recipient video headers
            (RCDevice.makeConnection { incoming := false, state := .pending } app)) := by
        refine Told.setConnection ?_ _ _
        exact hmade.of_eq rfl rfl rfl
      -- The chain may end in an error, which is told to the connection just made.
      have htold := (hdial.chainEnd (chainEnd_dial hchain)).setConnection app.connections.length
        fun connection => { connection with held := invited }
      rw [connectionDelegate_dial] at htold
      simp only [hready, hmedia, true_and]
      refine ⟨htold.mono hle, fun c hc => ?_⟩
      have hnew := htold.made
      split at hc
      · cases hc
        omega
      · cases hc

/-- A call that is accepted is told its end only where a permission is refused at once. -/
theorem Told.enterAccept {auth : AVMediaType → AVAuthorizationStatus} {video : Bool} {c : Nat}
    {entered : App × List Rest} (h : Told made [] app)
    (haccept : RCConnection.enterAccept auth video c app = some entered) :
    Told made (endsFor app (.accept c auth video)).toList entered.1 := by
  obtain ⟨connection, hc, ⟨hrings, app₂, hchain, rfl⟩ | ⟨hrings, rfl⟩⟩ := enterAccept_cases haccept
  · simp only [endsFor, endsCall, hc, Option.any_some, hrings, Bool.true_and]
    have haccepting : Told made [] (accepting video app) := h.of_eq rfl rfl rfl
    exact haccepting.chainEnd hchain
  · simp only [endsFor, endsCall, hc, Option.any_some, hrings, Bool.false_and]
    exact h

/-- The end of a call is told to the delegate. -/
theorem Told.enterEnded (h : Told made [] app) {e : SipMsgEnum} {event : ConnectionEvent}
    (rest : Rest) (hevent : endEvent e = some event) :
    Told made app.connectionDelegate.toList
      (app.enterDelegate (RCConnection.enterEnded event) rest).1 := by
  unfold App.enterDelegate
  cases app.connectionDelegate with
  | none => exact h
  | some c =>
    refine Told.tellEnd (h.setConnection c _) ?_
    cases e <;> cases hevent <;> rfl

/-- A ringing, or an answer, is no end. -/
theorem Told.ringing (h : Told made [] app) :
    Told made [] (app.toDelegate RCConnection.didReceiveOutgoingRinging) := by
  refine CallInvariant.toDelegate h (fun c _ => ?_) id
  unfold RCConnection.didReceiveOutgoingRinging
  split
  · exact h
  · split
    · exact h.of_eq rfl rfl rfl
    · refine Told.tell ?_ rfl
      exact h.setConnection c _

/-- An answer is no end. -/
theorem Told.outgoingEstablished (h : Told made [] app) :
    Told made [] (app.toDelegate RCConnection.didReceiveOutgoingEstablished) := by
  refine CallInvariant.toDelegate h (fun c _ => ?_) id
  unfold RCConnection.didReceiveOutgoingEstablished
  split
  · exact h
  · split
    · refine Told.setConnection ?_ _ _
      exact h.of_eq rfl rfl rfl
    · refine Told.tell ?_ rfl
      exact h.setConnection c _

/-- A reply tells one end at most. -/
theorem Told.enterSofiaInput {jsonObject : CString → Option NSDictionary} {active : Bool}
    {reply : SofiaReply} {entered : App × List Rest} (h : Told made [] app)
    (hreply : SipManager.enterSofiaInput jsonObject active reply app = some entered) :
    Told made (endsFor app (.reply reply active)).toList entered.1 := by
  have hreleased := callInvariant_told.disconnectMedia h
  cases replyEnd_enterSofiaInput hreply with
  | ringing hcode =>
    have hnone : endsFor app (.reply reply active) = none := by
      simp [endsFor, endsCall, hcode, endEvent, inviteFailed]
    rw [hnone]
    exact h.ringing
  | incomingCall hcode hcall =>
    have hnone : endsFor app (.reply reply active) = none := by
      simp [endsFor, endsCall, hcode, endEvent, inviteFailed]
    rw [hnone]
    obtain ⟨caller, -, hcall⟩ := Option.bind_eq_some_iff.mp hcall
    cases hcall
    -- The call parameters are emptied, and a new connection rings.
    have hcleared : Told made [] { app with activeCallParams := {}, dialled := none } :=
      h.of_eq rfl rfl rfl
    have hmade := (hcleared.makeConnection { incoming := true, state := .connecting }).mono
      (h.made.trans (Nat.le_succ _))
    exact hmade.of_eq rfl rfl rfl
  | ended _ hcode hevent hmedia =>
    -- The delegate of this moment is the one told.
    have hends : endsFor app (.reply reply active) = app.connectionDelegate := by
      simp [endsFor, endsCall, hcode, hevent]
    rw [hends]
    rcases hmedia with rfl | rfl
    · -- The media is released or not, and the connection is told once.
      exact h.enterEnded _ hevent
    · rw [← connectionDelegate_disconnectMedia]
      exact hreleased.enterEnded _ hevent
  | failed hcode hfailed =>
    have hends : endsFor app (.reply reply active) = app.connectionDelegate := by
      simp [endsFor, endsCall, hcode, hfailed]
    rw [hends, ← connectionDelegate_disconnectMedia]
    exact hreleased.mediaDidError fun hcode => by cases hcode
  | other hcode hother =>
    have hnone : endsFor app (.reply reply active) = none := by
      cases he : SipMsgEnum.ofCode reply.rc with
      | none => simp [endsFor, endsCall, he]
      | some e =>
        have hcall := hcode e he
        -- No other reply speaks of a call that ends.
        simp_all [endsFor, endsCall, ofCall]
    rw [hnone]
    exact callInvariant_told.otherReply pipes_told hcode h hother

/-- What is told of an input, up to the call of a delegate. -/
theorem told_enter {jsonObject : CString → Option NSDictionary} {input : AppInput}
    {entered : App × List Rest} (h : Told made [] app)
    (henter : enter jsonObject app input = some entered) :
    Told made (endsFor app input).toList entered.1 := by
  have hI : CallInvariant (Told made []) := callInvariant_told
  have hp : Pipes (Told made []) := pipes_told
  cases input with
  | reply reply active => exact h.enterSofiaInput henter
  | accept c auth video =>
    obtain ⟨connection, -, henter⟩ := Option.bind_eq_some_iff.mp henter
    split at henter
    · exact h.enterAccept henter
    · cases henter
  | connect auth recipient video headers =>
    obtain ⟨app', happ, rfl⟩ := Option.map_eq_some_iff.mp henter
    exact (h.connect happ).1
  | sendDigits c digits =>
    obtain ⟨app', happ, rfl⟩ := Option.map_eq_some_iff.mp henter
    rw [ofHeld_some happ]
    unfold RCConnection.sendDigits
    split
    · exact h.of_eq rfl rfl rfl
    · exact h.tell rfl
  | permissionAnswered auth n granted =>
    obtain ⟨app', happ, rfl⟩ := Option.map_eq_some_iff.mp henter
    obtain ⟨request, hrequest, hchain⟩ := chainEnd_permissionAnswered happ
    -- A permission that is refused ends in a media error.
    simp only [endsFor, endsCall, hrequest, Option.any_some]
    have htaken : Told made []
        { app with permissionRequests := app.permissionRequests.eraseIdx n } :=
      h.of_eq rfl rfl rfl
    exact htaken.chainEnd hchain
  | turnAnswered m success =>
    obtain ⟨app', happ, rfl⟩ := Option.map_eq_some_iff.mp henter
    obtain ⟨media, -, ⟨rfl, media', -, rfl⟩ | ⟨rfl, rfl⟩⟩ := turnAnswered_cases happ
    · exact hI.reportLocalVideo media' (h.of_eq rfl rfl rfl)
    · exact h.mediaDidError_setMedia (by decide) m _
  | didCreateSessionDescription m sdp =>
    obtain ⟨app', happ, rfl⟩ := Option.map_eq_some_iff.mp henter
    rcases didCreateSessionDescription_cases happ with ⟨rfl, rfl⟩ | ⟨text, rfl, rfl⟩
    · exact h.mediaDidError_setMedia (by decide) m _
    · exact h.of_eq rfl rfl rfl
  | didSetSessionDescriptionWithError m =>
    obtain ⟨app', happ, rfl⟩ := Option.map_eq_some_iff.mp henter
    rw [didSetSessionDescriptionWithError_eq happ]
    exact h.mediaDidError_setMedia (by decide) m _
  | iceGatheringComplete m =>
    obtain ⟨app', happ, rfl⟩ := Option.map_eq_some_iff.mp henter
    obtain ⟨media, hm, -, ⟨hfound, hcomplete⟩ | ⟨hnone, rfl⟩⟩ := iceGatheringComplete_cases happ
    · simp only [endsFor, endsCall, hm, Option.any_some]
      -- With a candidate gathered the SDP is handed on, and no end is told.
      rw [if_neg (by simp; omega)]
      exact hI.candidateGatheringComplete hp h hcomplete
    · simp only [endsFor, endsCall, hm, Option.any_some, hnone, decide_true, if_true]
      exact h.mediaDidError nofun
  | iceConnected m =>
    obtain ⟨app', happ, rfl⟩ := Option.map_eq_some_iff.mp henter
    obtain ⟨media, -, ⟨-, rfl⟩ | ⟨-, rfl⟩⟩ := iceConnected_cases happ
    · exact h.outgoingEstablished
    · -- The connection of the callee is told that the call is up.
      exact CallInvariant.toDelegate h (fun c _ => h.tell rfl) id
  | iceFailed m =>
    obtain ⟨app', happ, rfl⟩ := Option.map_eq_some_iff.mp henter
    rw [iceFailed_eq happ]
    exact h.mediaDidError nofun
  -- The remaining inputs end no call.
  | _ => exact hI.enter hp h henter trivial

/-- What is left of a method tells no end. -/
theorem told_resume {rest : Rest} {entered : App × List Rest} (h : Told made [] app)
    (hresume : rest.resume app = some entered) : Told made [] entered.1 := by
  cases rest with
  | accept c =>
    cases hresume
    exact h.setConnection c _
  | incomingCall c sdp =>
    obtain ⟨text, -, hresume⟩ := Option.bind_eq_some_iff.mp hresume
    cases hresume
    exact h.of_eq rfl rfl rfl
  | ended | bye _ | unlisten => exact callInvariant_told.resume pipes_told h hresume trivial

end Told

/-- The connection whose call ends was made. -/
theorem endsFor_lt {jsonObject : CString → Option NSDictionary} {input : AppInput} {app : App}
    {entered : App × List Rest} (h : Told app.connections.length [] app)
    (henter : enter jsonObject app input = some entered) :
    ∀ c ∈ endsFor app input, c < entered.1.connections.length := by
  have hmade := (told_enter h henter).made
  -- The delegate is one of the connections made so far.
  have hdelegate : ∀ c ∈ app.connectionDelegate, c < entered.1.connections.length := by
    intro c hc
    have hlt := h.delegate c (App.mem_delegate hc)
    omega
  cases input with
  | connect auth recipient video headers =>
    obtain ⟨app', happ, rfl⟩ := Option.map_eq_some_iff.mp henter
    -- Connecting may tell the connection that it makes.
    exact (h.connect happ).2
  | _ =>
    intro c hc
    simp only [endsFor] at hc
    split at hc
    · exact hdelegate c hc
    · cases hc

/-- Whose end a step tells does not depend on what was told before. -/
theorem endsFor_silent (app : App) (input : AppInput) :
    endsFor app.silent input = endsFor app input := by
  cases input <;> rfl

/-- What a step tells of ends. -/
theorem told_mainStep {jsonObject : CString → Option NSDictionary} {s s' : MainThread}
    {input : MainInput} (hmade : DelegateMade s.app) (h : mainStep jsonObject s input = some s') :
    Told s.app.connections.length (endsIn s input) s'.app ∧
      ∀ c ∈ endsIn s input, c < s'.app.connections.length := by
  have hsilent : Told s.app.silent.connections.length [] s.app.silent := ⟨le_rfl, hmade, rfl⟩
  cases input with
  | app input =>
    obtain ⟨entered, henter, h⟩ := Option.bind_eq_some_iff.mp h
    cases h
    -- What is told when an input is entered is what `endsFor` says.
    have htold := told_enter hsilent henter
    have hlt := endsFor_lt hsilent henter
    rw [endsFor_silent] at htold hlt
    refine ⟨htold, fun c hc => hlt c ?_⟩
    simpa [endsIn] using hc
  | resume =>
    unfold mainStep at h
    dsimp only at h
    split at h
    · cases h
    · obtain ⟨entered, hresume, h⟩ := Option.bind_eq_some_iff.mp h
      cases h
      -- A resumed rest tells nothing of its own.
      exact ⟨told_resume hsilent hresume, nofun⟩

/-! ### Runs -/

/-- The connections whose calls have ended were made. -/
def Ended (s : MainThread × List Nat) : Prop :=
  DelegateMade s.1.app ∧ ∀ c ∈ s.2, c < s.1.app.connections.length

/-- One step records the ends that it tells. -/
theorem Ended.record {jsonObject : CString → Option NSDictionary} {s s' : MainThread × List Nat}
    {input : MainInput} (h : Ended s)
    (hstep : record (mainStep jsonObject) endsIn s input = some s') : Ended s' := by
  obtain ⟨t, hmain, rfl⟩ := Option.map_eq_some_iff.mp hstep
  obtain ⟨htold, hlt⟩ := told_mainStep h.1 hmain
  refine ⟨htold.delegate, fun c hc => ?_⟩
  have hmade : s.1.app.connections.length ≤ t.app.connections.length := htold.made
  rcases List.mem_append.mp hc with hc | hc
  · have hold := h.2 c hc
    show c < t.app.connections.length
    omega
  · exact hlt c hc

/-- A new connection has not ended, so what is left is the delegate. -/
theorem endsOnce_iff {s : MainThread × List Nat} (h : Ended s) (input : MainInput) :
    ((endsIn s.1 input).Nodup ∧ ∀ c ∈ endsIn s.1 input, c ∉ s.2) ↔ EndsOnce s input := by
  cases input with
  | resume => simp [endsIn, EndsOnce]
  | app input =>
    -- An input ends one call at most.
    have hnodup : (endsFor s.1.app input).toList.Nodup := by
      cases endsFor s.1.app input <;> simp
    simp only [endsIn, hnodup, true_and, Option.mem_toList]
    cases input with
    | connect auth recipient video headers =>
      -- The connection just made was not there to be told before.
      refine iff_of_true (fun c hc hended => ?_) nofun
      have hlt := h.2 c hended
      simp only [endsFor] at hc
      split at hc
      · cases hc
        omega
      · cases hc
    | _ =>
      simp only [endsFor, EndsOnce]
      split
      · rename_i hends
        simp [hends]
      · rename_i hends
        simp [hends]

/-- A new device has no delegate. -/
theorem delegateMade_initWithParams (params : SipManager.Params) (status : NetworkStatus) :
    DelegateMade (RCDevice.initWithParams params status) := by
  have hdelegate : (RCDevice.initWithParams params status).delegate = none := by
    unfold RCDevice.initWithParams
    split
    · rw [(eventLoop_eq _).2.2.1]
      split <;> rfl
    · rfl
  simp [DelegateMade, hdelegate]

/-- In every run of the App, no connection's delegate is told of the end of its call twice
exactly when no input that ends a call finds, as the delegate of `SipManager`, a connection whose
call has ended before. -/
theorem nodup_ends_iff (jsonObject : CString → Option NSDictionary) (params : SipManager.Params)
    (status : NetworkStatus) (inputs : List MainInput) :
    (outputs (mainStep jsonObject) (fun s => ends s.app)
        { app := RCDevice.initWithParams params status } inputs).Nodup ↔
      AllSteps (record (mainStep jsonObject) endsIn) (fun s input _ => EndsOnce s input)
        ({ app := RCDevice.initWithParams params status }, []) inputs := by
  let start : MainThread := { app := RCDevice.initWithParams params status }
  have hmade : DelegateMade start.app := delegateMade_initWithParams params status
  have hstep : ∀ s input s', DelegateMade s.app → mainStep jsonObject s input = some s' →
      DelegateMade s'.app ∧ ends s'.app = endsIn s input := fun s input s' hinv hstep =>
    ⟨(told_mainStep hinv hstep).1.delegate, (told_mainStep hinv hstep).1.ends⟩
  have hrecord := nodup_outputs_iff (fun s : MainThread => DelegateMade s.app) hstep hmade []
    inputs
  rw [List.nil_append, and_iff_right List.nodup_nil] at hrecord
  refine hrecord.trans (AllSteps.iff_of_inv Ended ?_ ⟨hmade, by simp⟩ inputs)
  intro s input s' hended hstep
  exact ⟨endsOnce_iff hended input, fun _ => hended.record hstep⟩

/-- The call of Bob is answered, and its ICE connection fails, which ends it with a bye. The peer
answers the bye. -/
def failedCall : List AppInput :=
  callBob .authorized :: gather ++
    [.iceGatheringComplete 0, .reply SipMsgEnum.outgoingRinging.reply true,
      .reply (SipMsgEnum.outgoingEstablished.replyWith "v=0".toList) true, .iceConnected 0,
      .iceFailed 0, .reply SipMsgEnum.outgoingByeResponse.reply true]

/-- The application is told of the failure, and then that the same call was disconnected. -/
theorem bye_response_ends_failed_call :
    ∃ ended, outputs (mainStep Json.read) (fun s => ends s.app)
        { app := RCDevice.initWithParams {} .reachableViaWiFi } (failedCall.map .app) = ended ∧
      ended = [0, 0] ∧ ¬ ended.Nodup :=
  ⟨_, rfl, rfl, by decide⟩

end RestCommSdk.Proofs
