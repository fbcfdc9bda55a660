import RestCommSdk.Proofs.AppInvariants
import RestCommSdk.Proofs.StrayMedia

/-!
# `RestCommSdk.Proofs.OwnOffer`: which offer an answered call is set up with

The offer of an INVITE is kept in `activeCallParams`, which all calls share. `Offers` is the
history of what should be there: the `sdp` of each INVITE, and the connection whose `sdp` was
put into `activeCallParams` last (`offered`), which the next INVITE and the next call that is
dialled take out again. The `sdp` of an INVITE is put in when the application has been told of
its connection, so a connection that is accepted on that occasion finds none.

`ownOffer_of_offered`: in a run in which a call is set up only while its own offer is there
(`Offered`), the media session of every incoming connection is given the offer of its own
INVITE, and is not the initiator. A step in which `connect:` raises an exception makes no session,
so what it is given is said of the state before it (`givenIn`).
-/

set_option autoImplicit false

namespace RestCommSdk.Proofs

open RestCommSdk.Lib
open RestCommSdk.CliInterface (CString SofiaReply SipMsgEnum)
open RestCommSdk.SipManager (NSDictionary ActiveCallParams objectForKey)

/-- History of the offers of incoming calls. -/
structure Offers where
  /-- The `sdp` of the INVITE that made the connection. -/
  sdps : Nat → Option CString := fun _ => none
  /-- The connection whose `sdp` `activeCallParams` holds. -/
  offered : Option Nat := none

/-- What the end of a method does to the offers. -/
def Offers.resumed (o : Offers) : Rest → Offers
  | .incomingCall c _ => { o with offered := some c }
  | _ => o

/-- What a step does to the offers. -/
def Offers.after (jsonObject : CString → Option NSDictionary) (s : MainThread) (o : Offers) :
    MainInput → Offers
  | .app (.reply reply _) =>
    if SipMsgEnum.ofCode reply.rc = some .incomingCall then
      { sdps := Function.update o.sdps s.app.connections.length
          (objectForKey (jsonObject reply.text) "sdp") }
    else o
  | .app (.connect ..) =>
    if s.app.state = .ready ∧ s.app.media = none then { o with offered := none } else o
  | .app _ => o
  | .resume => (s.rests.head?.map o.resumed).getD o

/-- The App, with the history of its offers. -/
def offerStep (jsonObject : CString → Option NSDictionary) (s : MainThread × Offers)
    (input : MainInput) : Option (MainThread × Offers) :=
  (mainStep jsonObject s.1 input).map fun s' => (s', s.2.after jsonObject s.1 input)

/-- A session that the step has made for an incoming connection was given the offer of the
connection's own INVITE, and is not the initiator. -/
def OwnOffer (s : MainThread × Offers) (_ : MainInput) (s' : MainThread × Offers) : Prop :=
  ∀ media ∈ s'.1.app.medias.drop s.1.app.medias.length,
    ∀ connection ∈ s'.1.app.connection? media.owner, connection.incoming →
      media.offer = s'.2.sdps media.owner ∧ media.isInitiator = false

/-- The connection was made for an INVITE. -/
def Incoming (app : App) (c : Nat) : Prop := ∃ connection ∈ app.connection? c, connection.incoming

instance (app : App) (c : Nat) : Decidable (Incoming app c) :=
  inferInstanceAs (Decidable (∃ connection ∈ app.connection? c, _))

/-- The condition on a step, of its input and the state before it: an incoming call is set up
while its own offer is there, and no call that was dialled is. -/
def Offered (s : MainThread × Offers) : MainInput → Prop
  | .app (.accept c auth video) =>
    s.1.app.media = none → (s.1.app.connection? c).any (·.ringing) → requestGrants auth video →
      s.2.offered = some c
  | .app (.permissionAnswered auth n granted) =>
    s.1.app.media = none → ∀ request ∈ s.1.app.permissionRequests[n]?,
      responseGrants auth request.mediaType s.1.app.videoAllowed granted →
        Incoming s.1.app request.owner →
          s.2.offered = some request.owner ∧ s.1.app.dialled = none
  | _ => True

/-- What `connect:` is given for a connection. -/
structure GivenOffer where
  owner : Nat
  offer : Option CString
  isInitiator : Bool
  deriving DecidableEq, Repr

/-- What `connect:` is given in a step for a call that is answered, also where it raises an
exception then. -/
def givenIn (app : App) : MainInput → Option GivenOffer
  | .app (.accept c auth video) =>
    if app.media = none ∧ (app.connection? c).any (·.ringing) ∧ requestGrants auth video then
      some ⟨c, app.activeCallParams.sdp, false⟩
    else none
  | .app (.permissionAnswered auth n granted) => do
    let request ← app.permissionRequests[n]?
    if app.media = none ∧ responseGrants auth request.mediaType app.videoAllowed granted then
      return ⟨request.owner, app.activeCallParams.sdp,
        app.activeCallParams.initiator.getD false⟩
    else none
  | _ => none

/-- What `connect:` is given for an incoming connection is the offer of the connection's own
INVITE, and not as the initiator. -/
def GivesOwnOffer (s : MainThread × Offers) (input : MainInput) : Prop :=
  ∀ given ∈ givenIn s.1.app input, Incoming s.1.app given.owner →
    given.offer = s.2.sdps given.owner ∧ given.isInitiator = false

/-! ### What the App keeps -/

/-- The parameters of the call, and how many connections and sessions there are. -/
structure Holds (params : ActiveCallParams) (dialled : Option Nat) (made sessions : Nat)
    (app : App) : Prop where
  params : app.activeCallParams = params
  dialled : app.dialled = dialled
  made : made ≤ app.connections.length
  sessions : app.medias.length = sessions

section Holds
variable {params : ActiveCallParams} {dialled : Option Nat} {made sessions : Nat} {app app' : App}

/-- An App holds what it has. -/
theorem Holds.self (app : App) :
    Holds app.activeCallParams app.dialled app.connections.length app.medias.length app :=
  ⟨rfl, rfl, le_rfl, rfl⟩

/-- A write to a connection. -/
theorem Holds.setConnection (h : Holds params dialled made sessions app) (c : Nat)
    (f : RCConnection → RCConnection) :
    Holds params dialled made sessions (app.setConnection c f) :=
  ⟨h.params, h.dialled, by simpa [App.setConnection] using h.made, h.sessions⟩

/-- A write to a session. -/
theorem Holds.setMedia (h : Holds params dialled made sessions app) (m : Nat)
    (f : MediaWebRTC → MediaWebRTC) : Holds params dialled made sessions (app.setMedia m f) :=
  ⟨h.params, h.dialled, h.made, by simpa [App.setMedia] using h.sessions⟩

/-- Something of a call is told. -/
theorem Holds.tell (h : Holds params dialled made sessions app) (c : Nat)
    (event : ConnectionEvent) : Holds params dialled made sessions (app.tell c event) :=
  ⟨h.params, h.dialled, h.made, h.sessions⟩

/-- A command is piped. -/
theorem Holds.pipe (h : Holds params dialled made sessions app) (source : Option Nat)
    (command : SipManager.Command) :
    Holds params dialled made sessions (app.pipe source command) :=
  ⟨h.params, h.dialled, h.made, h.sessions⟩

/-- The methods that end a call leave the offers. -/
theorem callInvariant_holds : CallInvariant (Holds params dialled made sessions) where
  of_view h hview := by
    -- The view is all that `Holds` reads of an app.
    have hconnections := congrArg CallView.connections hview
    have hparams := congrArg CallView.activeCallParams hview
    have hdialled := congrArg CallView.dialled hview
    have hmedias := congrArg CallView.medias hview
    simp only [callView] at hconnections hparams hdialled hmedias
    exact ⟨hparams.trans h.params, hdialled.trans h.dialled, hconnections ▸ h.made,
      hmedias.trans h.sessions⟩
  mark c f _ h := h.setConnection c f
  hangUp := by
    intro app c connection _ h
    -- Hanging up writes a line or settles the state of the connection.
    unfold RCConnection.hangUp
    split
    · exact h.pipe _ _
    · exact h.pipe _ _
    · split
      · exact h
      · exact h.setConnection c _
    · exact h
  video _ h := h.tell _ _

/-- The methods that only pipe leave the offers. -/
theorem pipes_holds : Pipes (Holds params dialled made sessions) where
  pipe h := h.pipe _ _
  credential h := ⟨h.params, h.dialled, h.made, h.sessions⟩

/-- An error of the media leaves the offers. -/
theorem Holds.mediaDidError (h : Holds params dialled made sessions app) (error : CallError) :
    Holds params dialled made sessions (SipManager.mediaDidError error app) :=
  CallInvariant.toDelegate h (fun c _ => callInvariant_holds.didError error c (·.tell c _) h) id

end Holds

/-! ### New sessions -/

section Sessions
variable {params : ActiveCallParams} {dialled : Option Nat} {made sessions owner : Nat}
  {app app' : App}

/-- Starting to signal leaves the offer that the session was given. -/
theorem offer_startSignalingIfReady {sdp : Option CString} {media media' : MediaWebRTC}
    (h : media.startSignalingIfReady sdp = some media') :
    media'.owner = media.owner ∧ media'.offer = media.offer ∧
      media'.isInitiator = media.isInitiator := by
  unfold MediaWebRTC.startSignalingIfReady at h
  split at h
  · cases h
    exact ⟨rfl, rfl, rfl⟩
  · dsimp only at h
    split at h
    · cases h
      exact ⟨rfl, rfl, rfl⟩
    · obtain ⟨message, -, h⟩ := Option.bind_eq_some_iff.mp h
      cases h
      exact ⟨rfl, rfl, rfl⟩

/-- A session keeps what `connect:` was given. -/
theorem offer_connect {params : SipManager.Params} {sdp : Option CString} {initiator video : Bool}
    {media media' : MediaWebRTC} (h : media.connect params sdp initiator video = some media') :
    media'.owner = media.owner ∧ media'.offer = sdp ∧ media'.isInitiator = initiator := by
  unfold MediaWebRTC.connect at h
  dsimp only at h
  split at h
  · split at h
    · cases h
      exact ⟨rfl, rfl, rfl⟩
    · split at h <;> cases h <;> exact ⟨rfl, rfl, rfl⟩
    · exact offer_startSignalingIfReady h
  · exact offer_startSignalingIfReady h

/-- A session was made for the connection, with what `activeCallParams` held. -/
structure MakesSession (params : ActiveCallParams) (owner : Nat) (app app' : App) : Prop where
  medias : ∃ media, app'.medias = app.medias ++ [media] ∧ media.owner = owner ∧
    media.offer = params.sdp ∧ media.isInitiator = params.initiator.getD false
  connections : app'.connections = app.connections

/-- A session is made with the parameters that are active then. -/
theorem makesSession_handleCall (h : Holds params dialled made sessions app)
    (hcall : SipManager.handleCall owner app = some app') :
    Holds params dialled made sessions app' ∨
      app.media = none ∧ Holds params dialled made (sessions + 1) app' ∧
        MakesSession params owner app app' := by
  rcases handleCall_cases hcall with ⟨-, rfl⟩ | ⟨hnone, media, hconnect, rfl⟩
  · exact .inl h
  · obtain ⟨howner, hoffer, hinitiator⟩ := offer_connect hconnect
    obtain ⟨hconnections, -, -, hmedias⟩ := connections_reportLocalVideo media
      { app with media := some app.medias.length, medias := app.medias ++ [media] }
    have hmade : Holds params dialled made (sessions + 1)
        { app with media := some app.medias.length, medias := app.medias ++ [media] } :=
      ⟨h.params, h.dialled, h.made, by simp [h.sessions]⟩
    refine .inr ⟨hnone, callInvariant_holds.reportLocalVideo media hmade, ?_, hconnections⟩
    exact ⟨media, hmedias, howner, hoffer.trans (by rw [h.params]),
      hinitiator.trans (by rw [h.params])⟩

/-- A chain that needs no more answers makes a session, when there is none. -/
theorem makesSession_chainEnd {denies grants : Bool} (h : Holds params dialled made sessions app)
    (hchain : ChainEnd owner denies grants app app') :
    Holds params dialled made sessions app' ∨
      grants = true ∧ app.media = none ∧ Holds params dialled made (sessions + 1) app' ∧
        MakesSession params owner app app' := by
  cases hchain with
  | denied mediaType _ _ heq =>
    subst heq
    exact .inl (h.mediaDidError _)
  | granted _ hgrants hcall =>
    exact (makesSession_handleCall h hcall).imp_right fun hmakes => ⟨hgrants, hmakes⟩
  | asked mediaType _ _ heq =>
    subst heq
    exact .inl ⟨h.params, h.dialled, h.made, h.sessions⟩

end Sessions

/-! ### Steps -/

/-- `activeCallParams` holds the `sdp` that was put in last, and is marked as that of the caller
only when a call was dialled. -/
structure Agrees (o : Offers) (params : ActiveCallParams) (dialled : Option Nat) (made : Nat) :
    Prop where
  offered : ∀ c ∈ o.offered, params.sdp = o.sdps c ∧ c < made
  answers : dialled = none → params.initiator ≠ some true

/-- The offers agree with the App. -/
def OffersAgree (o : Offers) (app : App) : Prop :=
  Agrees o app.activeCallParams app.dialled app.connections.length

/-- The rests of INCOMING_CALL hold the `sdp` of their connections. -/
def RestsAgree (o : Offers) (app : App) (rests : List Rest) : Prop :=
  ∀ c sdp, Rest.incomingCall c sdp ∈ rests → sdp = o.sdps c ∧ c < app.connections.length

/-- More connections were made meanwhile. -/
theorem Agrees.mono {o : Offers} {params : ActiveCallParams} {dialled : Option Nat}
    {made more : Nat} (h : Agrees o params dialled made) (hle : made ≤ more) :
    Agrees o params dialled more where
  offered c hc := ⟨(h.offered c hc).1, (h.offered c hc).2.trans_le hle⟩
  answers := h.answers

/-- What a step does to the App and to the offers. -/
structure OfferEnd (app app' : App) (rests : List Rest) (o o' : Offers) : Prop where
  agrees : OffersAgree o' app'
  made : app.connections.length ≤ app'.connections.length
  sdps : ∀ c < app.connections.length, o'.sdps c = o.sdps c
  rests : RestsAgree o' app' rests
  sessions : ∀ media ∈ app'.medias.drop app.medias.length,
    ∀ connection ∈ app'.connection? media.owner, connection.incoming →
      media.offer = o'.sdps media.owner ∧ media.isInitiator = false

section Steps
variable {app app' : App} {o : Offers} {rests : List Rest}

/-- The rest is not that of INCOMING_CALL. -/
def NoOffer (rests : List Rest) : Prop := ∀ c sdp, Rest.incomingCall c sdp ∉ rests

/-- A method that makes no session and leaves the offers where they are. -/
theorem OfferEnd.of_holds {params : ActiveCallParams} {dialled : Option Nat} {o' : Offers}
    (hagrees : Agrees o' params dialled app.connections.length) (hsdps : o'.sdps = o.sdps)
    (hrests : NoOffer rests)
    (h : Holds params dialled app.connections.length app.medias.length app') :
    OfferEnd app app' rests o o' where
  agrees := by
    rw [OffersAgree, h.params, h.dialled]
    exact hagrees.mono h.made
  made := h.made
  sdps := fun _ _ => by rw [hsdps]
  rests := fun c sdp hmem => absurd hmem (hrests c sdp)
  sessions := by simp [← h.sessions]

/-- A chain that may make the session of `owner`. -/
theorem OfferEnd.of_makesSession {params : ActiveCallParams} {dialled : Option Nat} {owner : Nat}
    {o' : Offers} {app₁ : App} (hagrees : Agrees o' params dialled app.connections.length)
    (hsdps : o'.sdps = o.sdps) (hrests : NoOffer rests)
    (h : Holds params dialled app.connections.length (app.medias.length + 1) app')
    (hmakes : MakesSession params owner app₁ app') (hmedias : app₁.medias = app.medias)
    (howner : ∀ connection ∈ app₁.connection? owner, connection.incoming →
      params.sdp = o'.sdps owner ∧ params.initiator.getD false = false) :
    OfferEnd app app' rests o o' where
  agrees := by
    rw [OffersAgree, h.params, h.dialled]
    exact hagrees.mono h.made
  made := h.made
  sdps := fun _ _ => by rw [hsdps]
  rests := fun c sdp hmem => absurd hmem (hrests c sdp)
  sessions := by
    -- The media made is the last one, and its connection is the one the chain was for.
    obtain ⟨media, hmedia, rfl, hoffer, hinitiator⟩ := hmakes.medias
    intro media' hmem connection hconnection hincoming
    rw [hmedia, hmedias, List.drop_left, List.mem_singleton] at hmem
    subst hmem
    rw [App.connection?, hmakes.connections] at hconnection
    rw [hoffer, hinitiator]
    exact howner connection hconnection hincoming

/-- Accepting runs the chain with the active parameters. -/
theorem offerEnd_accept {auth : AVMediaType → AVAuthorizationStatus} {video : Bool} {c : Nat}
    {entered : App × List Rest} (hagrees : OffersAgree o app)
    (hoffered : app.media = none → (app.connection? c).any (·.ringing) →
      requestGrants auth video → o.offered = some c)
    (haccept : RCConnection.enterAccept auth video c app = some entered) :
    OfferEnd app entered.1 entered.2 o o := by
  obtain ⟨connection, hc, ⟨hrings, app₂, hchain, rfl⟩ | ⟨-, rfl⟩⟩ := enterAccept_cases haccept
  · -- Accepting answers: the stored offer is the other side's, so `initiator` is NO.
    have haccepting : Holds { app.activeCallParams with initiator := some false } app.dialled
        app.connections.length app.medias.length (accepting video app) := ⟨rfl, rfl, le_rfl, rfl⟩
    have hanswers : Agrees o { app.activeCallParams with initiator := some false } app.dialled
        app.connections.length := ⟨hagrees.offered, fun _ => by simp⟩
    have hrests : NoOffer [Rest.accept c] := fun c sdp => by simp
    rcases makesSession_chainEnd haccepting hchain with h | ⟨hgrants, hnone, h, hmakes⟩
    · exact .of_holds hanswers rfl hrests h
    · refine .of_makesSession hanswers rfl hrests h hmakes rfl fun _ _ _ => ?_
      -- A media made here comes of a ringing call, whose offer is the stored one.
      have hown := hoffered hnone (by simp [hc, hrings]) hgrants
      exact ⟨(hagrees.offered c hown).1, rfl⟩
  · exact .of_holds hagrees rfl (fun _ _ => List.not_mem_nil) (.self app)

/-- A prompt goes on with the parameters that are active by then. -/
theorem offerEnd_permissionAnswered {auth : AVMediaType → AVAuthorizationStatus} {n : Nat}
    {granted : Bool} (hagrees : OffersAgree o app)
    (hoffered : app.media = none → ∀ request ∈ app.permissionRequests[n]?,
      responseGrants auth request.mediaType app.videoAllowed granted →
        Incoming app request.owner → o.offered = some request.owner ∧ app.dialled = none)
    (h : SipManager.permissionAnswered auth n granted app = some app') :
    OfferEnd app app' [] o o := by
  have hrests : NoOffer [] := fun _ _ => List.not_mem_nil
  obtain ⟨request, hrequest, hchain⟩ := chainEnd_permissionAnswered h
  -- The answered request is off the list before the chain goes on.
  have htaken : Holds app.activeCallParams app.dialled app.connections.length app.medias.length
      { app with permissionRequests := app.permissionRequests.eraseIdx n } :=
    ⟨rfl, rfl, le_rfl, rfl⟩
  rcases makesSession_chainEnd htaken hchain with h | ⟨hgrants, hnone, h, hmakes⟩
  · exact .of_holds hagrees rfl hrests h
  · refine .of_makesSession hagrees rfl hrests h hmakes rfl fun connection hc hincoming => ?_
    -- The request may be old: the condition speaks of the call it was made for.
    obtain ⟨hown, hdialled⟩ := hoffered hnone request hrequest hgrants ⟨connection, hc, hincoming⟩
    have hanswers := hagrees.answers hdialled
    refine ⟨(hagrees.offered _ hown).1, ?_⟩
    cases hinitiator : app.activeCallParams.initiator with
    | none => rfl
    -- Without a call dialled, what is stored does not initiate.
    | some initiator =>
      rw [hinitiator] at hanswers
      simpa using hanswers

/-- A write to a connection that leaves its direction. -/
theorem OfferEnd.setConnection {o' : Offers} (h : OfferEnd app app' rests o o') (c : Nat)
    {f : RCConnection → RCConnection}
    (hf : ∀ connection, (f connection).incoming = connection.incoming) :
    OfferEnd app (app'.setConnection c f) rests o o' where
  agrees := by simpa [OffersAgree, App.setConnection] using h.agrees
  made := by simpa [App.setConnection] using h.made
  sdps := h.sdps
  rests := by simpa [RestsAgree, App.setConnection] using h.rests
  sessions := by
    intro media hmem connection hconnection hincoming
    rw [App.connection?_setConnection] at hconnection
    split at hconnection
    · obtain ⟨old, hold, rfl⟩ := Option.map_eq_some_iff.mp hconnection
      exact h.sessions media hmem old hold ((hf old).symm.trans hincoming)
    · exact h.sessions media hmem connection hconnection hincoming

/-- What `activeCallParams` holds of a call that is dialled. -/
def dialParams (recipient : CString) (headers : Option NSDictionary) (app : App) :
    ActiveCallParams where
  destination := some (SipManager.convert2FullURI app.params recipient app.params.registrar)
  initiator := some true
  sipHeaders := headers

/-- The connection of a call that is dialled is outgoing. -/
theorem not_incoming_dial (recipient : CString) (video : Bool) (headers : Option NSDictionary)
    (app : App) :
    ¬ Incoming (dial app.connections.length recipient video headers
      (RCDevice.makeConnection { incoming := false, state := .pending } app))
        app.connections.length := by
  rintro ⟨connection, hc, hincoming⟩
  rw [dial, App.connection?_setConnection, if_pos rfl] at hc
  obtain ⟨old, hold, rfl⟩ := Option.map_eq_some_iff.mp hc
  have hnew := App.connection?_makeConnection { incoming := false, state := .pending } app
    app.connections.length
  rw [if_pos rfl] at hnew
  cases hnew.symm.trans hold
  cases hincoming

/-- Dialling writes the active parameters over. -/
theorem offerEnd_connect {auth : AVMediaType → AVAuthorizationStatus} {recipient : CString}
    {video : Bool} {headers : Option NSDictionary} (hagrees : OffersAgree o app)
    (h : (RCDevice.connect auth recipient video headers app).map (·.1) = some app') :
    OfferEnd app app' [] o
      (if app.state = .ready ∧ app.media = none then { o with offered := none } else o) := by
  have hrests : NoOffer [] := fun _ _ => List.not_mem_nil
  rcases connect_cases h with ⟨hready, rfl⟩ | ⟨hready, app₂, invited, hinvite, rfl⟩
  · -- A device that is not ready makes no connection.
    rw [if_neg (by simp [hready])]
    exact .of_holds hagrees rfl hrests (.self _)
  · have hmade : Holds app.activeCallParams app.dialled app.connections.length app.medias.length
        (RCDevice.makeConnection { incoming := false, state := .pending } app) :=
      ⟨rfl, rfl, by simp [RCDevice.makeConnection], rfl⟩
    rcases invite_cases hinvite with ⟨hmedia, -, rfl⟩ | ⟨hmedia, -, hchain⟩
    · -- A media is there already, so the invite is refused and nothing is rewritten.
      have hmedia : app.media ≠ none := hmedia
      rw [if_neg (by simp [hmedia])]
      refine .of_holds hagrees rfl hrests (Holds.setConnection ?_ _ _)
      exact callInvariant_holds.of_view hmade rfl
    · have hmedia : app.media = none := hmedia
      -- The parameters are rewritten for a call that goes out, and no offer is stored.
      rw [if_pos ⟨hready, hmedia⟩]
      refine OfferEnd.setConnection ?_ _ fun _ => rfl
      have hdial : Holds (dialParams recipient headers app) (some app.connections.length)
          app.connections.length app.medias.length
          (dial app.connections.length recipient video headers
            (RCDevice.makeConnection { incoming := false, state := .pending } app)) :=
        ⟨rfl, rfl, by simp [dial, App.setConnection, RCDevice.makeConnection], rfl⟩
      have hnone : Agrees { o with offered := none } (dialParams recipient headers app)
          (some app.connections.length) app.connections.length :=
        ⟨fun _ hc => (by cases hc), fun h => absurd h (Option.some_ne_none _)⟩
      rcases makesSession_chainEnd hdial (chainEnd_dial hchain) with h | ⟨-, -, h, hmakes⟩
      · exact .of_holds hnone rfl hrests h
      · refine .of_makesSession hnone rfl hrests h hmakes rfl fun connection hc hincoming => ?_
        -- The connection just made is the outgoing one.
        exact absurd ⟨connection, hc, hincoming⟩ (not_incoming_dial recipient video headers app)

/-- The new connection is that of the INVITE. -/
theorem offerEnd_incomingCall {caller sdp : Option CString}
    (hcall : RCDevice.didReceiveCall caller
      { app with activeCallParams := {}, dialled := none } = some app') :
    OfferEnd app app' [.incomingCall app.connections.length sdp] o
      { sdps := Function.update o.sdps app.connections.length sdp } := by
  obtain ⟨name, -, hcall⟩ := Option.bind_eq_some_iff.mp hcall
  cases hcall
  refine ⟨⟨nofun, fun _ => nofun⟩, ?_, fun c hc => ?_, fun c sdp' hmem => ?_, ?_⟩
  · simp [RCDevice.makeConnection, App.notify]
  · exact Function.update_of_ne hc.ne sdp o.sdps
  · simp only [List.mem_singleton, Rest.incomingCall.injEq] at hmem
    obtain ⟨rfl, rfl⟩ := hmem
    exact ⟨by simp, by simp [RCDevice.makeConnection, App.notify]⟩
  · simp [RCDevice.makeConnection, App.notify]

/-- What is left of `unlisten` is no incoming call. -/
theorem noOffer_enterUnlisten (app : App) : NoOffer (RCDevice.enterUnlisten app).2 := by
  intro c sdp
  unfold RCDevice.enterUnlisten
  split <;> simp

/-- What is left of another method is no incoming call. -/
theorem noOffer_enter {jsonObject : CString → Option NSDictionary} {input : AppInput}
    {entered : App × List Rest} (henter : enter jsonObject app input = some entered)
    (hplain : PlainInput input) : NoOffer entered.2 := by
  intro c sdp
  cases input with
  | unlisten =>
    cases henter
    -- Going offline leaves the hang-up to be resumed, never an offer.
    exact noOffer_enterUnlisten app c sdp
  | checkNetworkStatus newStatus =>
    cases henter
    unfold RCDevice.enterCheckNetworkStatus
    split
    · exact noOffer_enterUnlisten _ c sdp
    · exact List.not_mem_nil
  | disconnectAll | sendMessage _ _ _ | loopStopped =>
    cases henter
    exact List.not_mem_nil
  | listen _ | updateParams _ | reject _ | disconnect _ | release _ | didGenerateIceCandidate _ _
  | didAddStream _ =>
    obtain ⟨app', -, rfl⟩ := Option.map_eq_some_iff.mp henter
    exact List.not_mem_nil
  | _ => exact hplain.elim

/-- A reply that is not INCOMING_CALL leaves the offers alone. -/
theorem offerEnd_enterSofiaInput {jsonObject : CString → Option NSDictionary} {active : Bool}
    {reply : SofiaReply} {entered : App × List Rest} (hagrees : OffersAgree o app)
    (hreply : SipManager.enterSofiaInput jsonObject active reply app = some entered) :
    OfferEnd app entered.1 entered.2 o
      (if SipMsgEnum.ofCode reply.rc = some .incomingCall then
        { sdps := Function.update o.sdps app.connections.length
            (objectForKey (jsonObject reply.text) "sdp") }
      else o) := by
  have hI : CallInvariant (Holds app.activeCallParams app.dialled app.connections.length
    app.medias.length) := callInvariant_holds
  have h := Holds.self app
  have hrests : NoOffer [] := fun _ _ => List.not_mem_nil
  cases replyEnd_enterSofiaInput hreply with
  | incomingCall hcode hcall =>
    rw [if_pos hcode]
    exact offerEnd_incomingCall hcall
  | ringing hcode =>
    rw [if_neg (by simp [hcode])]
    refine .of_holds hagrees rfl hrests (CallInvariant.toDelegate h (fun c _ => ?_) id)
    unfold RCConnection.didReceiveOutgoingRinging
    split
    · exact h
    · split
      · exact h.pipe _ _
      · exact (h.setConnection c _).tell _ _
  | @ended e event app₁ rest hrest hcode hevent hmedia =>
    have hne : e ≠ .incomingCall := by rintro rfl; cases hevent
    rw [if_neg (by simp [hcode, hne])]
    have h₁ : Holds app.activeCallParams app.dialled app.connections.length app.medias.length
        app₁ := by
      rcases hmedia with rfl | rfl
      · exact h
      · exact hI.disconnectMedia h
    unfold App.enterDelegate
    cases app₁.connectionDelegate with
    | none => exact .of_holds hagrees rfl hrests h₁
    | some c =>
      refine .of_holds hagrees rfl ?_ ((h₁.setConnection c _).tell c event)
      rintro c sdp hmem
      -- The one callback still to run is not the offer being made.
      obtain rfl := List.mem_singleton.mp hmem
      exact hrest
  | @failed e hcode hfailed =>
    have hne : e ≠ .incomingCall := by rintro rfl; cases hfailed
    rw [if_neg (by simp [hcode, hne])]
    exact .of_holds hagrees rfl hrests ((hI.disconnectMedia h).mediaDidError _)
  | other hcode hother =>
    have hne : SipMsgEnum.ofCode reply.rc ≠ some .incomingCall := fun hincoming => by
      have hcall := hcode _ hincoming
      cases hcall
    rw [if_neg hne]
    exact .of_holds hagrees rfl hrests (hI.otherReply pipes_holds hcode h hother)

/-- The answer of the TURN server leaves the offers. -/
theorem Holds.turnAnswered {m : Nat} {success : Bool}
    (h : SipManager.turnAnswered m success app = some app') :
    Holds app.activeCallParams app.dialled app.connections.length app.medias.length app' := by
  obtain ⟨media, -, ⟨-, media', -, rfl⟩ | ⟨-, rfl⟩⟩ := turnAnswered_cases h
  · exact callInvariant_holds.reportLocalVideo media' ((Holds.self app).setMedia m _)
  · exact ((Holds.self app).setMedia m _).mediaDidError _

/-- The media are connected, which leaves the offers. -/
theorem Holds.iceConnected {m : Nat} (h : SipManager.iceConnected m app = some app') :
    Holds app.activeCallParams app.dialled app.connections.length app.medias.length app' := by
  have hself := Holds.self app
  obtain ⟨media, -, ⟨-, rfl⟩ | ⟨-, rfl⟩⟩ := iceConnected_cases h
  · refine CallInvariant.toDelegate hself (fun c _ => ?_) id
    unfold RCConnection.didReceiveOutgoingEstablished
    split
    · exact hself
    · split
      · exact (hself.pipe _ _).setConnection c _
      · exact (hself.setConnection c _).tell _ _
  · exact CallInvariant.toDelegate hself (fun c _ => hself.tell _ _) id

/-- What an input does up to the call of a delegate. -/
theorem offerEnd_enter {jsonObject : CString → Option NSDictionary} {s : MainThread}
    {input : AppInput} {entered : App × List Rest} (hagrees : OffersAgree o s.app)
    (hoffered : Offered (s, o) (.app input))
    (henter : enter jsonObject s.app.silent input = some entered) :
    OfferEnd s.app.silent entered.1 entered.2 o (o.after jsonObject s (.app input)) := by
  have hrests : NoOffer [] := fun _ _ => List.not_mem_nil
  have hagrees : OffersAgree o s.app.silent := hagrees
  have h := Holds.self s.app.silent
  cases input with
  -- A reply may bring an INVITE, which leaves its offer to be stored.
  | reply reply active => exact offerEnd_enterSofiaInput hagrees henter
  | accept c auth video =>
    obtain ⟨connection, -, henter⟩ := Option.bind_eq_some_iff.mp henter
    split at henter
    · exact offerEnd_accept hagrees hoffered henter
    · cases henter
  | connect auth recipient video headers =>
    obtain ⟨app', happ, rfl⟩ := Option.map_eq_some_iff.mp henter
    exact offerEnd_connect hagrees happ
  | permissionAnswered auth n granted =>
    obtain ⟨app', happ, rfl⟩ := Option.map_eq_some_iff.mp henter
    exact offerEnd_permissionAnswered hagrees hoffered happ
  | sendDigits c digits =>
    obtain ⟨app', happ, rfl⟩ := Option.map_eq_some_iff.mp henter
    -- Sending digits writes a line or tells the App, and the offers stay as they are.
    rw [ofHeld_some happ]
    refine .of_holds hagrees rfl hrests ?_
    unfold RCConnection.sendDigits
    split
    · exact h.pipe _ _
    · exact h.tell _ _
  | turnAnswered m success =>
    obtain ⟨app', happ, rfl⟩ := Option.map_eq_some_iff.mp henter
    exact .of_holds hagrees rfl hrests (.turnAnswered happ)
  | didCreateSessionDescription m sdp =>
    obtain ⟨app', happ, rfl⟩ := Option.map_eq_some_iff.mp henter
    -- A session description that was not made ends in an error.
    rcases didCreateSessionDescription_cases happ with ⟨-, rfl⟩ | ⟨text, -, rfl⟩
    · exact .of_holds hagrees rfl hrests ((h.setMedia m _).mediaDidError _)
    · exact .of_holds hagrees rfl hrests (h.setMedia m _)
  | didSetSessionDescriptionWithError m =>
    obtain ⟨app', happ, rfl⟩ := Option.map_eq_some_iff.mp henter
    rw [didSetSessionDescriptionWithError_eq happ]
    exact .of_holds hagrees rfl hrests ((h.setMedia m _).mediaDidError _)
  | iceGatheringComplete m =>
    obtain ⟨app', happ, rfl⟩ := Option.map_eq_some_iff.mp henter
    obtain ⟨media, -, -, ⟨-, hcomplete⟩ | ⟨-, rfl⟩⟩ := iceGatheringComplete_cases happ
    · exact .of_holds hagrees rfl hrests
        (callInvariant_holds.candidateGatheringComplete pipes_holds h hcomplete)
    · exact .of_holds hagrees rfl hrests (h.mediaDidError _)
  | iceConnected m =>
    obtain ⟨app', happ, rfl⟩ := Option.map_eq_some_iff.mp henter
    exact .of_holds hagrees rfl hrests (.iceConnected happ)
  | iceFailed m =>
    obtain ⟨app', happ, rfl⟩ := Option.map_eq_some_iff.mp henter
    rw [iceFailed_eq happ]
    exact .of_holds hagrees rfl hrests (h.mediaDidError _)
  | _ =>
    -- The remaining inputs make no session and touch no parameters.
    exact .of_holds hagrees rfl (noOffer_enter henter trivial)
      (callInvariant_holds.enter pipes_holds h henter trivial)

/-- The `sdp` of a reply is put in when its rest goes on. -/
theorem offerEnd_resume {rest : Rest} {entered : App × List Rest} (hagrees : OffersAgree o app)
    (hrests : RestsAgree o app [rest]) (hresume : rest.resume app = some entered) :
    OfferEnd app entered.1 entered.2 o (o.resumed rest) := by
  have hnone : NoOffer [] := fun _ _ => List.not_mem_nil
  have h := Holds.self app
  cases rest with
  | accept c =>
    cases hresume
    -- The connection goes to Connecting after the delegate was asked.
    exact .of_holds hagrees rfl hnone (h.setConnection c _)
  | incomingCall c sdp =>
    -- Here the offer is stored: the rest carries the one of this very INVITE.
    obtain ⟨text, htext, hresume⟩ := Option.bind_eq_some_iff.mp hresume
    cases hresume
    obtain ⟨hsdp, hlt⟩ := hrests c sdp List.mem_cons_self
    refine .of_holds ?_ rfl hnone ⟨rfl, rfl, le_rfl, rfl⟩
    refine ⟨fun d hd => ?_, hagrees.answers⟩
    cases hd
    exact ⟨htext.symm.trans hsdp, hlt⟩
  | ended | unlisten =>
    have hholds := callInvariant_holds.resume pipes_holds h hresume trivial
    cases hresume
    exact .of_holds hagrees rfl hnone hholds
  | bye active =>
    -- The hang-up of a connection that rings no more leaves no offer behind.
    refine .of_holds hagrees rfl ?_ (callInvariant_holds.resume pipes_holds h hresume trivial)
    cases active with
    | true =>
      cases hresume
      exact hnone
    | false =>
      cases hresume
      exact noOffer_enterUnlisten _

end Steps

/-! ### Runs -/

/-- What a run keeps. -/
def KeepsOffers (s : MainThread × Offers) : Prop :=
  OffersAgree s.2 s.1.app ∧ RestsAgree s.2 s.1.app s.1.rests

/-- What waits is about connections that were made before. -/
theorem OfferEnd.restsAgree {app app' : App} {rests more : List Rest} {o o' : Offers}
    (h : OfferEnd app app' more o o') (hrests : RestsAgree o app rests) :
    RestsAgree o' app' (more ++ rests) := by
  intro c sdp hmem
  rcases List.mem_append.mp hmem with hmem | hmem
  · exact h.rests c sdp hmem
  · obtain ⟨hsdp, hlt⟩ := hrests c sdp hmem
    exact ⟨hsdp.trans (h.sdps c hlt).symm, hlt.trans_le h.made⟩

/-- One step: the offers are tracked, and a session that is made has its own. -/
theorem keepsOffers_step {jsonObject : CString → Option NSDictionary} {s s' : MainThread × Offers}
    {input : MainInput} (hkeeps : KeepsOffers s) (hoffered : Offered s input)
    (h : offerStep jsonObject s input = some s') : KeepsOffers s' ∧ OwnOffer s input s' := by
  obtain ⟨t, hmain, rfl⟩ := Option.map_eq_some_iff.mp h
  obtain ⟨hagrees, hrests⟩ := hkeeps
  cases input with
  | app input =>
    obtain ⟨entered, henter, hmain⟩ := Option.bind_eq_some_iff.mp hmain
    cases hmain
    have hend := offerEnd_enter hagrees hoffered henter
    exact ⟨⟨hend.agrees, hend.restsAgree hrests⟩, hend.sessions⟩
  | resume =>
    unfold mainStep at hmain
    dsimp only at hmain
    split at hmain
    · cases hmain
    · -- Taking the first rest leaves the agreement of those below it.
      rename_i rest rests hstack
      obtain ⟨entered, hresume, hmain⟩ := Option.bind_eq_some_iff.mp hmain
      cases hmain
      rw [hstack] at hrests
      -- The offer of the rest on top is the one the bookkeeping gave it.
      have hfirst : RestsAgree s.2 s.1.app.silent [rest] := fun c sdp hmem =>
        hrests c sdp (List.mem_cons.mpr (.inl (List.mem_singleton.mp hmem)))
      have hlater : RestsAgree s.2 s.1.app.silent rests := fun c sdp hmem =>
        hrests c sdp (List.mem_cons_of_mem _ hmem)
      have hsilent : OffersAgree s.2 s.1.app.silent := hagrees
      have hend := offerEnd_resume hsilent hfirst hresume
      have hafter : s.2.after jsonObject s.1 .resume = s.2.resumed rest := by
        simp [Offers.after, hstack]
      rw [hafter]
      exact ⟨⟨hend.agrees, hend.restsAgree hlater⟩, hend.sessions⟩

/-- When the offer is there, it is what `connect:` is given, whether or not the step comes to its
end. -/
theorem givesOwnOffer_of_offered {s : MainThread × Offers} {input : MainInput}
    (hkeeps : KeepsOffers s) (hoffered : Offered s input) : GivesOwnOffer s input := by
  obtain ⟨hagrees, -⟩ := hkeeps
  intro given hgiven hincoming
  cases input with
  | resume => cases hgiven
  | app input =>
    cases input with
    | accept c auth video =>
      simp only [givenIn, Option.mem_def, Option.ite_none_right_eq_some, Option.some.injEq]
        at hgiven
      obtain ⟨⟨hmedia, hrings, hgrants⟩, rfl⟩ := hgiven
      exact ⟨(hagrees.offered c (hoffered hmedia hrings hgrants)).1, rfl⟩
    | permissionAnswered auth n granted =>
      obtain ⟨request, hrequest, hgiven⟩ := Option.bind_eq_some_iff.mp hgiven
      obtain ⟨⟨hmedia, hgrants⟩, hgiven⟩ := Option.ite_none_right_eq_some.mp hgiven
      cases hgiven
      obtain ⟨hown, hdialled⟩ := hoffered hmedia request hrequest hgrants hincoming
      refine ⟨(hagrees.offered _ hown).1, ?_⟩
      -- Only a call that was dialled marks the parameters as those of the caller.
      have hanswers := hagrees.answers hdialled
      cases hinitiator : s.1.app.activeCallParams.initiator with
      | none => rfl
      | some initiator =>
        rw [hinitiator] at hanswers
        simpa using hanswers
    | _ => cases hgiven

/-- The App starts without a call. -/
theorem holds_initWithParams (params : SipManager.Params) (status : NetworkStatus) :
    Holds {} none 0 0 (RCDevice.initWithParams params status) := by
  unfold RCDevice.initWithParams
  split
  · refine callInvariant_holds.eventLoop pipes_holds ?_
    split <;> exact ⟨rfl, rfl, Nat.zero_le _, rfl⟩
  · exact ⟨rfl, rfl, Nat.zero_le _, rfl⟩

/-- A new device has no call. -/
theorem keepsOffers_initWithParams (params : SipManager.Params) (status : NetworkStatus) :
    KeepsOffers ({ app := RCDevice.initWithParams params status }, {}) := by
  have hstart := holds_initWithParams params status
  refine ⟨⟨fun c hc => (by cases hc), fun _ => ?_⟩, fun _ _ hmem => (by cases hmem)⟩
  show (RCDevice.initWithParams params status).activeCallParams.initiator ≠ some true
  rw [hstart.params]
  simp

/-- In every run of the App in which an incoming call is set up only while its own offer is in
`activeCallParams`, and no call that was dialled is, every media session of an incoming
connection is given the offer of its own INVITE, as the one that answers. So is what `connect:`
is given in one more step that meets the condition, also if that step raises an exception. -/
theorem ownOffer_of_offered (jsonObject : CString → Option NSDictionary)
    (params : SipManager.Params) (status : NetworkStatus) (inputs : List MainInput)
    (h : AllSteps (offerStep jsonObject) (fun s input _ => Offered s input)
      ({ app := RCDevice.initWithParams params status }, {}) inputs) :
    AllSteps (offerStep jsonObject) OwnOffer
        ({ app := RCDevice.initWithParams params status }, {}) inputs ∧
      ∀ s input, run (offerStep jsonObject)
          ({ app := RCDevice.initWithParams params status }, {}) inputs = some s →
        Offered s input → GivesOwnOffer s input := by
  have hstart := keepsOffers_initWithParams params status
  have hsteps : AllSteps (offerStep jsonObject)
      (fun s input s' => KeepsOffers s' ∧ OwnOffer s input s')
      ({ app := RCDevice.initWithParams params status }, {}) inputs := by
    refine AllSteps.of_inv KeepsOffers (fun s input s' hkeeps hstep hoffered => ?_) hstart h
    have hstep' := keepsOffers_step hkeeps hoffered hstep
    exact ⟨hstep'.1, hstep'⟩
  refine ⟨hsteps.imp fun _ _ _ hstep => hstep.2, fun s input hrun hoffered => ?_⟩
  have hkeeps : KeepsOffers s :=
    AllSteps.holds_after hstart (hsteps.imp fun _ _ _ hstep => hstep.1) hrun
  exact givesOwnOffer_of_offered hkeeps hoffered

instance (s : MainThread × Offers) : (input : MainInput) → Decidable (Offered s input)
  | .app (.accept c auth video) =>
    inferInstanceAs (Decidable (s.1.app.media = none → (s.1.app.connection? c).any (·.ringing) →
      requestGrants auth video → s.2.offered = some c))
  | .app (.permissionAnswered auth n granted) =>
    inferInstanceAs (Decidable (s.1.app.media = none →
      ∀ request ∈ s.1.app.permissionRequests[n]?,
        responseGrants auth request.mediaType s.1.app.videoAllowed granted →
          Incoming s.1.app request.owner →
            s.2.offered = some request.owner ∧ s.1.app.dialled = none))
  | .app (.connect ..) | .app .disconnectAll | .app (.listen _) | .app .unlisten
  | .app (.updateParams _) | .app (.sendMessage ..) | .app (.reject _) | .app (.disconnect _)
  | .app (.sendDigits ..) | .app (.release _) | .app (.turnAnswered ..)
  | .app (.didCreateSessionDescription ..) | .app (.didSetSessionDescriptionWithError _)
  | .app (.didGenerateIceCandidate ..) | .app (.iceGatheringComplete _) | .app (.iceConnected _)
  | .app (.iceFailed _) | .app (.didAddStream _) | .app (.reply ..) | .app (.checkNetworkStatus _)
  | .app .loopStopped | .resume => isTrue trivial

/-- The reply that announces a call with this offer. -/
def announcedOffer (sdp : CString) : MainInput :=
  .app (.reply (SipMsgEnum.incomingCall.replyWith (SipManager.stringifyDictionary
    [("sip-uri".toList, "sip:b@h".toList), ("sdp".toList, sdp)])) true)

/-- The application accepts the call without a prompt. -/
def acceptAtOnce (c : Nat) : MainInput := .app (.accept c (fun _ => .authorized) false)

/-- A call is accepted before the next INVITE comes. -/
theorem ownOffer_of_offered_accept :
    AllSteps (offerStep Json.read) OwnOffer
        ({ app := RCDevice.initWithParams {} .reachableViaWiFi }, {})
        [announcedOffer "v=1".toList, .resume, acceptAtOnce 0] ∧
      ∀ s input, run (offerStep Json.read)
          ({ app := RCDevice.initWithParams {} .reachableViaWiFi }, {})
          [announcedOffer "v=1".toList, .resume, acceptAtOnce 0] = some s →
        Offered s input → GivesOwnOffer s input :=
  ownOffer_of_offered Json.read {} .reachableViaWiFi _ (by decide)

/-- A connection that is accepted on the occasion of its own announcement: `connect:` is given no
offer and raises an exception, and the condition fails. -/
example : (run (offerStep Json.read) ({ app := RCDevice.initWithParams {} .reachableViaWiFi }, {})
      [announcedOffer "v=1".toList]).map (fun s =>
    ((offerStep Json.read s (acceptAtOnce 0)).isNone, decide (Offered s (acceptAtOnce 0)),
      givenIn s.1.app (acceptAtOnce 0), s.2.sdps 0)) =
    some (true, false, some ⟨0, none, false⟩, some "v=1".toList) := by decide

/-- Two calls come in, and the first is accepted: it is set up with the offer of the second. -/
theorem accepted_call_takes_later_offer :
    ∃ s s', run (offerStep Json.read) ({ app := RCDevice.initWithParams {} .reachableViaWiFi }, {})
        [announcedOffer "v=1".toList, .resume, announcedOffer "v=2".toList, .resume] = some s ∧
      offerStep Json.read s (acceptAtOnce 0) = some s' ∧
      (s'.1.app.media? 0).map (fun media => (media.owner, media.offer))
        = some (0, some "v=2".toList) ∧
      s'.2.sdps 0 = some "v=1".toList ∧ ¬ OwnOffer s (acceptAtOnce 0) s' := by
  refine ⟨_, _, rfl, rfl, rfl, rfl, fun hown => ?_⟩
  have hoffer := (hown _ (List.mem_singleton.mpr rfl) _ rfl rfl).1
  cases hoffer

end RestCommSdk.Proofs
