import Mathlib.Data.List.Find
import RestCommSdk.Proofs.PushSteps

/-!
# `RestCommSdk.Proofs.PushAgain`: registering again changes nothing

A call of `registerDevice` that queues the report of success has left in `NSUserDefaults` and on
the servers all that a call with the same parameters looks for (`TokenBound`). So this next call
makes no entry, changes none, and keeps nothing new, however its requests end, and when they are
answered it queues the same report (`registerDevice_again`). Of its five stages only the last one
must ask a server: the others find what they need in `NSUserDefaults`, but for an account or a
client with an empty sid, which are looked up each time.

`KnownStage` says what has been found or made when a call comes to a stage.
-/

set_option autoImplicit false

namespace RestCommSdk.Proofs

open RestCommSdk.Lib
open RestCommSdk.CliInterface (CString)
open RestCommSdk.Push

/-! ### What a call leaves -/

section Known
variable (servers : Servers) (defaults : UserDefaults) (call : Registration)

/-- The account is kept. An empty sid is looked up each time, with the same answer. -/
def KnowsAccount (accountSid : CString) : Prop :=
  defaults.accountSid = some accountSid ∧
    (accountSid ≠ [] ∨
      servers.accountSid call.httpLogin call.rescommAccountEmail = some accountSid)

/-- The account and the client are kept. -/
def KnowsClient : Prop :=
  ∃ accountSid, KnowsAccount servers defaults call accountSid ∧
    ∃ clientSid, defaults.clientSid = some clientSid ∧
      (clientSid ≠ [] ∨ (findClient (servers.clients call.httpLogin accountSid)
        call.signalingUsername).map (·.sid) = some clientSid)

/-- The application is kept, for the same kind of notifications. -/
def KnowsApplication (applicationSid : CString) : Prop :=
  ∃ application, defaults.application = some application ∧
    application.sandbox = call.sandbox ∧ application.sid = applicationSid

/-- The credentials of the application are kept. -/
def KnowsCredentials (applicationSid : CString) : Prop :=
  ∃ credentials, defaults.credentials = some credentials ∧
    credentials.applicationSid = applicationSid

/-- All that comes before the binding. -/
structure KnowsSids (applicationSid : CString) : Prop where
  client : KnowsClient servers defaults call
  application : KnowsApplication defaults call applicationSid
  credentials : KnowsCredentials defaults applicationSid

/-- The binding that the search finds. -/
def foundBinding : Option RCBinding :=
  findBinding (servers.store call.pushLogin).bindings defaults.application

/-- The first binding of the application has the token. -/
def TokenBound : Prop :=
  ∃ applicationSid, KnowsSids servers defaults call applicationSid ∧
    ∃ binding, foundBinding servers defaults call = some binding ∧
      binding.address = call.address

/-- What is known at a stage. -/
def KnownStage : Stage → Prop
  | .getClientSid call accountSid => KnowsAccount servers defaults call accountSid
  | .getApplicationSid call _ | .createApplication call _ _ => KnowsClient servers defaults call
  | .getCredentialsSid call _ applicationSid | .createCredentials call _ applicationSid _ _ =>
    KnowsClient servers defaults call ∧ KnowsApplication defaults call applicationSid
  | .checkBinding call _ applicationSid => KnowsSids servers defaults call applicationSid
  | .updateBinding call _ applicationSid binding =>
    KnowsSids servers defaults call applicationSid ∧
      foundBinding servers defaults call = some binding
  | .createBinding call _ applicationSid =>
    KnowsSids servers defaults call applicationSid ∧ foundBinding servers defaults call = none
  | _ => True

end Known

/-! ### The bindings -/

/-- The binding that a `PUT` sends is found where the one with its sid was. -/
theorem findBinding_putFields {bindings : List RCBinding} {application : Option RCApplication}
    {binding sent : RCBinding} (hnodup : (bindings.map (·.sid)).Nodup)
    (hfound : findBinding bindings application = some binding) (hsid : sent.sid = binding.sid)
    (happlication : sent.applicationSid = binding.applicationSid) :
    findBinding (bindings.map (PushStore.putFields sent)) application = some sent := by
  -- The binding written keeps its application, and the others are left alone.
  have hsame : ∀ b ∈ bindings, (PushStore.putFields sent b).applicationSid = b.applicationSid := by
    intro b hb
    unfold PushStore.putFields
    split
    · rename_i heq
      have hb' : b = binding := List.inj_on_of_nodup_map hnodup hb
        (List.mem_of_find?_eq_some hfound) (heq.trans hsid)
      rw [hb', happlication]
    · rfl
  -- So the search stops where it did before.
  have hsearch : bindings.find? (fun b => decide (some (PushStore.putFields sent b).applicationSid
      = application.map (·.sid))) = some binding := by
    rw [← hfound]
    exact List.find?_congr fun b hb => by rw [hsame b hb]
  unfold findBinding
  rw [List.find?_map]
  refine (congrArg (Option.map (PushStore.putFields sent)) hsearch).trans ?_
  rw [Option.map_some, PushStore.putFields, if_pos hsid.symm]

/-- A new binding is found where there was none. -/
theorem findBinding_concat {bindings : List RCBinding} {application : Option RCApplication}
    {binding : RCBinding} (hnone : findBinding bindings application = none)
    (happlication : some binding.applicationSid = application.map (·.sid)) :
    findBinding (bindings ++ [binding]) application = some binding := by
  unfold findBinding at hnone ⊢
  rw [List.find?_append, hnone, Option.none_or, List.find?_cons_of_pos (by simp [happlication])]

/-! ### The first call -/

section Steps
variable {s s' : PushState} {call : Registration} {outcome : PushOutcome} {newSid : CString}
  {accountSid clientSid applicationSid : CString}

/-- After a lookup, when what it found is known. -/
theorem knownStage_complete {kind : SidKind} {next : CString → Stage} {answer : Option CString}
    (h : ∀ sid ∈ answer, KnownStage s.servers s.defaults (next sid)) :
    KnownStage (s.complete call kind next answer).servers
      (s.complete call kind next answer).defaults (s.complete call kind next answer).stage := by
  rw [complete_servers, complete_defaults]
  cases answer with
  | none => trivial
  | some sid => exact h sid rfl

/-- The sid of the account is known from then on. -/
theorem knownStage_getAccountSid :
    KnownStage (getAccountSid s call outcome).servers (getAccountSid s call outcome).defaults
      (getAccountSid s call outcome).stage := by
  unfold getAccountSid
  split
  · rename_i accountSid hhit
    obtain ⟨hkept, hne⟩ := Option.filter_eq_some_iff.mp hhit
    refine knownStage_complete fun sid hsid => ?_
    cases hsid
    exact ⟨hkept, Or.inl (by simpa using hne)⟩
  · split
    · exact knownStage_complete fun sid hsid => ⟨hsid, Or.inr hsid⟩
    · exact knownStage_complete fun sid hsid => by cases hsid

/-- The sid of the client is known from then on. -/
theorem knownStage_getClientSid (hknown : KnowsAccount s.servers s.defaults call accountSid) :
    KnownStage (getClientSid s call outcome accountSid).servers
      (getClientSid s call outcome accountSid).defaults
      (getClientSid s call outcome accountSid).stage := by
  unfold getClientSid
  split
  · rename_i clientSid hhit
    obtain ⟨hkept, hne⟩ := Option.filter_eq_some_iff.mp hhit
    refine knownStage_complete fun sid hsid => ?_
    cases hsid
    exact ⟨accountSid, hknown, clientSid, hkept, Or.inl (by simpa using hne)⟩
  · split
    · exact knownStage_complete fun sid hsid => ⟨accountSid, hknown, sid, hsid, Or.inr hsid⟩
    · exact knownStage_complete fun sid hsid => by cases hsid

/-- The application is known, or has to be made. -/
theorem knownStage_getApplicationSid (hknown : KnowsClient s.servers s.defaults call)
    (h : getApplicationSid s call outcome clientSid = some s') :
    KnownStage s'.servers s'.defaults s'.stage := by
  obtain ⟨application, hkept, hsandbox, rfl⟩ | ⟨-, ⟨application, hfound, rfl⟩ |
    ⟨friendlyName, -, -, rfl⟩ | rfl⟩ := getApplicationSid_cases h
  · refine knownStage_complete fun sid hsid => ?_
    cases hsid
    exact ⟨hknown, application, hkept, hsandbox, rfl⟩
  · refine knownStage_complete fun sid hsid => ?_
    cases hsid
    -- The loop compares the sandbox flag.
    have hmatch := List.find?_some hfound
    simp only [decide_eq_true_eq] at hmatch
    exact ⟨hknown, application, rfl, hmatch.2, rfl⟩
  · exact hknown
  · exact knownStage_complete fun sid hsid => by cases hsid

/-- The application is known from then on. -/
theorem knownStage_createApplication {friendlyName : CString}
    (hknown : KnowsClient s.servers s.defaults call)
    (h : createApplication s call outcome newSid clientSid friendlyName = some s') :
    KnownStage s'.servers s'.defaults s'.stage := by
  obtain rfl | ⟨servers, -, rfl⟩ := createApplication_cases h
  · refine knownStage_complete fun sid hsid => ?_
    cases hsid
    exact ⟨hknown, _, rfl, rfl, rfl⟩
  · exact knownStage_complete fun sid hsid => by cases hsid

/-- The credentials are known, or have to be made. -/
theorem knownStage_getCredentialsSid (hknown : KnowsClient s.servers s.defaults call)
    (happlication : KnowsApplication s.defaults call applicationSid)
    (h : getCredentialsSid s call outcome clientSid applicationSid = some s') :
    KnownStage s'.servers s'.defaults s'.stage := by
  obtain ⟨credentials, hkept, hsid, rfl⟩ | ⟨-, ⟨credentials, hfound, rfl⟩ |
    ⟨certificate, privateKey, -, rfl⟩ | rfl⟩ := getCredentialsSid_cases h
  · exact knownStage_complete fun _ _ => ⟨hknown, happlication, credentials, hkept, hsid⟩
  · refine knownStage_complete fun _ _ => ⟨hknown, happlication, credentials, rfl, ?_⟩
    obtain ⟨application, hkept, -, rfl⟩ := happlication
    have hmatch := List.find?_some hfound
    simpa [hkept] using hmatch
  · exact ⟨hknown, happlication⟩
  · exact knownStage_complete fun sid hsid => by cases hsid

/-- The credentials are known from then on. -/
theorem knownStage_createCredentials {certificate privateKey : CString}
    (hknown : KnowsClient s.servers s.defaults call)
    (happlication : KnowsApplication s.defaults call applicationSid)
    (h : createCredentials s call outcome newSid clientSid applicationSid certificate privateKey =
      some s') : KnownStage s'.servers s'.defaults s'.stage := by
  obtain rfl | ⟨servers, -, rfl⟩ := createCredentials_cases h
  · exact knownStage_complete fun _ _ => ⟨hknown, happlication, _, rfl, rfl⟩
  · exact knownStage_complete fun sid hsid => by cases hsid

/-- After the last request, what is found has the token. -/
theorem settled_setStore {store : PushStore} {binding : RCBinding}
    (hknown : KnowsSids s.servers s.defaults call applicationSid)
    (hfound : findBinding store.bindings s.defaults.application = some binding)
    (haddress : binding.address = call.address) :
    TokenBound (s.servers.setStore call.pushLogin store) s.defaults call := by
  refine ⟨applicationSid, ⟨hknown.client, hknown.application, hknown.credentials⟩, binding, ?_,
    haddress⟩
  rw [foundBinding, Servers.store_setStore, hfound]

/-- The stages of the binding end in success only when the binding that is found has the token. -/
theorem knownStage_checkBinding (hknown : KnowsSids s.servers s.defaults call applicationSid) :
    KnownStage (checkBinding s call outcome clientSid applicationSid).servers
        (checkBinding s call outcome clientSid applicationSid).defaults
        (checkBinding s call outcome clientSid applicationSid).stage ∧
      ((checkBinding s call outcome clientSid applicationSid).queued = some .registered →
        TokenBound (checkBinding s call outcome clientSid applicationSid).servers
          (checkBinding s call outcome clientSid applicationSid).defaults call) := by
  obtain ⟨-, heq⟩ | ⟨-, ⟨binding, hfound, haddress, heq⟩ | ⟨binding, hfound, -, heq⟩ |
    ⟨hnone, heq⟩⟩ := checkBinding_cases clientSid applicationSid <;> rw [heq]
  · exact ⟨trivial, fun hqueued => by cases hqueued⟩
  · exact ⟨trivial, fun _ => ⟨applicationSid, hknown, binding, hfound, haddress⟩⟩
  · exact ⟨⟨hknown, hfound⟩, fun hqueued => by cases hqueued⟩
  · exact ⟨⟨hknown, hnone⟩, fun hqueued => by cases hqueued⟩

/-- The binding that was found has the new address. -/
theorem knownStage_updateBinding {binding : RCBinding}
    (hknown : KnowsSids s.servers s.defaults call applicationSid)
    (hfound : foundBinding s.servers s.defaults call = some binding)
    (h : updateBinding s call outcome binding = some s') :
    KnownStage s'.servers s'.defaults s'.stage ∧
      (s'.queued = some .registered → TokenBound s'.servers s'.defaults call) := by
  obtain ⟨-, rfl⟩ | ⟨-, store, hstore, rfl⟩ := lastRequest_cases h
  · exact ⟨trivial, fun hqueued => by cases hqueued⟩
  · obtain ⟨-, -, hbindings⟩ := PushStore.eq_of_putBinding hstore
    have hfound' := @findBinding_putFields _ _ _ { binding with address := call.address }
      (s.servers.store call.pushLogin).nodup hfound rfl rfl
    exact ⟨trivial, fun _ => settled_setStore hknown (hbindings ▸ hfound') rfl⟩

/-- There was none, so the new one is found. -/
theorem knownStage_createBinding (hknown : KnowsSids s.servers s.defaults call applicationSid)
    (hnone : foundBinding s.servers s.defaults call = none)
    (h : createBinding s call outcome newSid clientSid applicationSid = some s') :
    KnownStage s'.servers s'.defaults s'.stage ∧
      (s'.queued = some .registered → TokenBound s'.servers s'.defaults call) := by
  obtain ⟨-, rfl⟩ | ⟨-, store, hstore, rfl⟩ := lastRequest_cases h
  · exact ⟨trivial, fun hqueued => by cases hqueued⟩
  · obtain ⟨-, -, -, hbindings⟩ := PushStore.eq_of_postBinding hstore
    obtain ⟨application, hkept, -, happlication⟩ := hknown.application
    have hfound' := @findBinding_concat _ _
      { sid := newSid, identity := clientSid, applicationSid := applicationSid
        address := call.address } hnone (by simp [hkept, happlication])
    exact ⟨trivial, fun _ => settled_setStore hknown (hbindings ▸ hfound') rfl⟩

/-- What a stage finds or makes is known at the next one, and after success all of it is. -/
theorem knownStage_proceed (hknown : KnownStage s.servers s.defaults s.stage)
    (h : proceed s outcome newSid = some s') :
    KnownStage s'.servers s'.defaults s'.stage ∧
      (s'.queued = some .registered →
        ∃ call ∈ callOf s.stage, TokenBound s'.servers s'.defaults call) := by
  -- Before the binding no stage ends in success.
  have hearly (htarget : targetOf s.stage = none)
      (hnext : KnownStage s'.servers s'.defaults s'.stage) :
      KnownStage s'.servers s'.defaults s'.stage ∧
        (s'.queued = some .registered →
          ∃ call ∈ callOf s.stage, TokenBound s'.servers s'.defaults call) :=
    ⟨hnext, fun hqueued => absurd hqueued (bindings_proceed htarget h).2⟩
  cases stepped_of_proceed h with
  | getAccountSid hstage => exact hearly (by rw [hstage]; rfl) knownStage_getAccountSid
  | getClientSid hstage =>
    refine hearly (by rw [hstage]; rfl) ?_
    rw [hstage] at hknown
    exact knownStage_getClientSid hknown
  | getApplicationSid hstage h =>
    refine hearly (by rw [hstage]; rfl) ?_
    rw [hstage] at hknown
    exact knownStage_getApplicationSid hknown h
  | createApplication hstage h =>
    refine hearly (by rw [hstage]; rfl) ?_
    rw [hstage] at hknown
    exact knownStage_createApplication hknown h
  | getCredentialsSid hstage h =>
    refine hearly (by rw [hstage]; rfl) ?_
    rw [hstage] at hknown
    exact knownStage_getCredentialsSid hknown.1 hknown.2 h
  | createCredentials hstage h =>
    refine hearly (by rw [hstage]; rfl) ?_
    rw [hstage] at hknown
    exact knownStage_createCredentials hknown.1 hknown.2 h
  | checkBinding hstage =>
    rw [hstage] at hknown
    obtain ⟨hnext, hbound⟩ := knownStage_checkBinding hknown
    exact ⟨hnext, fun hqueued => ⟨_, by rw [hstage]; rfl, hbound hqueued⟩⟩
  | updateBinding hstage h =>
    rw [hstage] at hknown
    obtain ⟨hnext, hbound⟩ := knownStage_updateBinding hknown.1 hknown.2 h
    exact ⟨hnext, fun hqueued => ⟨_, by rw [hstage]; rfl, hbound hqueued⟩⟩
  | createBinding hstage h =>
    rw [hstage] at hknown
    obtain ⟨hnext, hbound⟩ := knownStage_createBinding hknown.1 hknown.2 h
    exact ⟨hnext, fun hqueued => ⟨_, by rw [hstage]; rfl, hbound hqueued⟩⟩

/-- A call that queues the report of success has ended. -/
theorem stage_of_registered (h : proceed s outcome newSid = some s')
    (hqueued : s'.queued = some .registered) : s'.stage = .idle := by
  cases shape_proceed h with
  | complete => exact absurd hqueued (by simp)
  | goOn => cases hqueued
  | report => rfl

end Steps

/-- The requests of a call, as they end. -/
def answersOf (steps : List (PushOutcome × CString)) : List PushInput :=
  steps.map fun step => .proceed step.1 step.2

/-- The call that queues the report of success leaves its token with the first binding of its
application. -/
theorem settled_of_run {handler : PushHandler} {s s' : PushState}
    (hknown : KnownStage s.servers s.defaults s.stage)
    (hcall : ∀ call ∈ callOf s.stage, call.toPushHandler = handler)
    (hquiet : s.queued ≠ some .registered) {steps : List (PushOutcome × CString)}
    (hrun : run pushStep s (answersOf steps) = some s')
    (hqueued : s'.queued = some .registered) :
    s'.stage = .idle ∧ ∃ call : Registration, call.toPushHandler = handler ∧
      TokenBound s'.servers s'.defaults call := by
  induction steps generalizing s with
  | nil =>
    cases hrun
    exact absurd hqueued hquiet
  | cons step steps ih =>
    obtain ⟨s₁, hstep, hrest⟩ := Option.bind_eq_some_iff.mp hrun
    obtain ⟨hknown₁, hsettled⟩ := knownStage_proceed hknown hstep
    by_cases hqueued₁ : s₁.queued = some .registered
    · -- The call has ended, so there is no step left.
      have hidle := stage_of_registered hstep hqueued₁
      cases steps with
      | nil =>
        cases hrest
        obtain ⟨call, hmem, hsettled⟩ := hsettled hqueued₁
        exact ⟨hidle, call, hcall call hmem, hsettled⟩
      | cons step' steps =>
        obtain ⟨s₂, hstep', -⟩ := Option.bind_eq_some_iff.mp hrest
        simp only [pushStep, proceed, hidle] at hstep'
        cases hstep'
    · exact ih hknown₁ (fun call hmem => hcall call (callOf_proceed hstep call hmem)) hqueued₁
        hrest

/-! ### The next call -/

section Again
variable {s s' : PushState} {call : Registration} {outcome : PushOutcome} {newSid : CString}
  {clientSid : CString}

/-- The account is kept, or it is asked for and is the same. -/
theorem getAccountSid_again {accountSid : CString}
    (hknown : KnowsAccount s.servers s.defaults call accountSid) :
    getAccountSid s call outcome
        = s.complete call .account (.getClientSid call) (some accountSid) ∨
      outcome ≠ .answered ∧
        getAccountSid s call outcome = s.complete call .account (.getClientSid call) none := by
  obtain ⟨hkept, hserver⟩ := hknown
  -- An empty sid is asked for anew, and the server answers the same.
  by_cases hempty : accountSid = []
  · have hmiss : s.defaults.accountSid.filter (· ≠ []) = none := by simp [hkept, hempty]
    have hsame := hserver.resolve_left (not_not.mpr hempty)
    simp only [getAccountSid, hmiss, hsame]
    by_cases hanswered : outcome = .answered
    · rw [if_pos hanswered, ← hkept]
      exact Or.inl rfl
    · rw [if_neg hanswered]
      exact Or.inr ⟨hanswered, rfl⟩
  · -- A sid that is not empty is taken from the cache.
    have hhit : s.defaults.accountSid.filter (· ≠ []) = some accountSid := by
      simp [hkept, hempty]
    left
    simp only [getAccountSid, hhit]

/-- So is the client. -/
theorem getClientSid_again {accountSid clientSid : CString}
    (hkept : s.defaults.clientSid = some clientSid)
    (hserver : clientSid ≠ [] ∨ (findClient (s.servers.clients call.httpLogin accountSid)
      call.signalingUsername).map (·.sid) = some clientSid) :
    getClientSid s call outcome accountSid
        = s.complete call .client (.getApplicationSid call) (some clientSid) ∨
      outcome ≠ .answered ∧ getClientSid s call outcome accountSid
        = s.complete call .client (.getApplicationSid call) none := by
  -- An empty sid is asked for anew, and the server answers the same.
  by_cases hempty : clientSid = []
  · have hmiss : s.defaults.clientSid.filter (· ≠ []) = none := by simp [hkept, hempty]
    have hsame := hserver.resolve_left (not_not.mpr hempty)
    simp only [getClientSid, hmiss, hsame]
    by_cases hanswered : outcome = .answered
    · rw [if_pos hanswered, ← hkept]
      exact Or.inl rfl
    · rw [if_neg hanswered]
      exact Or.inr ⟨hanswered, rfl⟩
  · -- A sid that is not empty is taken from the cache.
    have hhit : s.defaults.clientSid.filter (· ≠ []) = some clientSid := by simp [hkept, hempty]
    left
    simp only [getClientSid, hhit]

/-- The application that is kept is taken. -/
theorem getApplicationSid_again {application : RCApplication}
    (hkept : s.defaults.application = some application)
    (hsandbox : application.sandbox = call.sandbox) :
    getApplicationSid s call outcome clientSid = some (s.complete call .application
      (.getCredentialsSid call clientSid) (some application.sid)) := by
  have hhit : s.defaults.application.filter (·.sandbox = call.sandbox) = some application := by
    simp [hkept, hsandbox]
  simp only [getApplicationSid, hhit]

/-- So are the credentials. -/
theorem getCredentialsSid_again {credentials : RCCredentials}
    (hkept : s.defaults.credentials = some credentials) :
    getCredentialsSid s call outcome clientSid credentials.applicationSid
      = some (s.complete call .credentials
        (fun _ => .checkBinding call clientSid credentials.applicationSid)
        (some credentials.sid)) := by
  have hhit : s.defaults.credentials.filter (·.applicationSid = credentials.applicationSid)
      = some credentials := by
    simp [hkept]
  simp only [getCredentialsSid, hhit]

/-- The binding has the token already. -/
theorem checkBinding_again {applicationSid : CString} {binding : RCBinding}
    (hfound : foundBinding s.servers s.defaults call = some binding)
    (haddress : binding.address = call.address) :
    checkBinding s call outcome clientSid applicationSid
      = s.report (if outcome = .answered then .registered else .error) := by
  unfold foundBinding at hfound
  by_cases hanswered : outcome = .answered
  · simp only [checkBinding, hanswered, if_true, hfound, haddress]
  · simp only [checkBinding, hanswered, if_false]

end Again

/-- Where a call is that has all it needs. -/
def RepeatStage (defaults : UserDefaults) (call : Registration) : Stage → Prop
  | .idle => True
  | .getAccountSid call' => call' = call
  | .getClientSid call' accountSid => call' = call ∧ defaults.accountSid = some accountSid
  | .getApplicationSid call' _ => call' = call
  | .getCredentialsSid call' _ applicationSid =>
    call' = call ∧ defaults.application.map (·.sid) = some applicationSid
  | .checkBinding call' _ _ => call' = call
  | _ => False

/-- How many steps it still takes. -/
def stepsLeft : Stage → Nat
  | .getAccountSid _ => 5
  | .getClientSid _ _ => 4
  | .getApplicationSid _ _ => 3
  | .getCredentialsSid _ _ _ => 2
  | .checkBinding _ _ _ => 1
  | _ => 0

/-- A step of such a call. It writes nothing, and an answer brings it further. -/
structure Repeats (call : Registration) (outcome : PushOutcome) (s s' : PushState) : Prop where
  servers : s'.servers = s.servers
  defaults : s'.defaults = s.defaults
  stage : RepeatStage s.defaults call s'.stage
  further : outcome = .answered → stepsLeft s'.stage + 1 = stepsLeft s.stage
  queued : outcome = .answered → s'.stage = .idle → s'.queued = some .registered

section Repeats
variable {s s' : PushState} {call : Registration} {outcome : PushOutcome}

/-- A lookup that finds what was kept. -/
theorem repeats_complete {kind : SidKind} {next : CString → Stage} {sid : CString}
    (hstage : RepeatStage s.defaults call (next sid)) (hne : next sid ≠ .idle)
    (hfurther : stepsLeft (next sid) + 1 = stepsLeft s.stage) :
    Repeats call outcome s (s.complete call kind next (some sid)) where
  servers := rfl
  defaults := rfl
  stage := hstage
  further _ := hfurther
  queued _ hidle := absurd hidle hne

/-- A lookup that is not answered. -/
theorem repeats_none {kind : SidKind} {next : CString → Stage} (houtcome : outcome ≠ .answered) :
    Repeats call outcome s (s.complete call kind next none) where
  servers := rfl
  defaults := rfl
  stage := trivial
  further hanswered := absurd hanswered houtcome
  queued hanswered := absurd hanswered houtcome

/-- A call that has all it needs takes it from where it is kept, stage by stage. -/
theorem proceed_again (hsettled : TokenBound s.servers s.defaults call)
    (hrepeat : RepeatStage s.defaults call s.stage) (hne : s.stage ≠ .idle) (newSid : CString) :
    ∃ s', proceed s outcome newSid = some s' ∧ Repeats call outcome s s' := by
  obtain ⟨applicationSid, ⟨⟨accountSid, haccount, clientSid, hclient, hserver⟩,
    ⟨application, happlication, hsandbox, hsid⟩, credentials, hcredentials, hof⟩, binding, hfound,
    haddress⟩ := hsettled
  unfold proceed
  cases hstage : s.stage with
  | idle => exact absurd hstage hne
  | getAccountSid call' =>
    rw [hstage] at hrepeat
    cases hrepeat
    refine ⟨_, rfl, ?_⟩
    obtain heq | ⟨houtcome, heq⟩ := @getAccountSid_again _ _ outcome _ haccount <;> rw [heq]
    · exact repeats_complete ⟨rfl, haccount.1⟩ (by simp) (by simp [stepsLeft, hstage])
    · exact repeats_none houtcome
  | getClientSid call' accountSid' =>
    rw [hstage] at hrepeat
    obtain ⟨rfl, hkept⟩ := hrepeat
    cases hkept.symm.trans haccount.1
    refine ⟨_, rfl, ?_⟩
    obtain heq | ⟨houtcome, heq⟩ := @getClientSid_again _ _ outcome _ _ hclient hserver <;> rw [heq]
    · exact repeats_complete rfl (by simp) (by simp [stepsLeft, hstage])
    · exact repeats_none houtcome
  | getApplicationSid call' clientSid' =>
    rw [hstage] at hrepeat
    cases hrepeat
    refine ⟨_, getApplicationSid_again happlication hsandbox, ?_⟩
    exact repeats_complete ⟨rfl, by rw [happlication, Option.map_some]⟩ (by simp)
      (by simp [stepsLeft, hstage])
  | getCredentialsSid call' clientSid' applicationSid' =>
    rw [hstage] at hrepeat
    obtain ⟨rfl, hkept⟩ := hrepeat
    -- The sid of the call is the one of the application that is kept, and so of its credentials.
    rw [happlication, Option.map_some, Option.some.injEq, hsid, ← hof] at hkept
    subst hkept
    refine ⟨_, getCredentialsSid_again hcredentials, ?_⟩
    exact repeats_complete rfl (by simp) (by simp [stepsLeft, hstage])
  | checkBinding call' clientSid' applicationSid' =>
    rw [hstage] at hrepeat
    cases hrepeat
    refine ⟨_, rfl, ?_⟩
    rw [checkBinding_again hfound haddress]
    exact ⟨rfl, rfl, trivial, fun _ => by simp [PushState.report, stepsLeft, hstage],
      fun hanswered _ => by simp [PushState.report, hanswered]⟩
  | createApplication _ _ _ | createCredentials _ _ _ _ _ | updateBinding _ _ _ _
  | createBinding _ _ _ =>
    rw [hstage] at hrepeat
    exact hrepeat.elim

/-- However its requests end, such a call leaves everything as it is. -/
theorem unchanged_of_repeats (hsettled : TokenBound s.servers s.defaults call)
    (hrepeat : RepeatStage s.defaults call s.stage) {steps : List (PushOutcome × CString)}
    (hrun : run pushStep s (answersOf steps) = some s') :
    s'.servers = s.servers ∧ s'.defaults = s.defaults := by
  induction steps generalizing s with
  | nil =>
    cases hrun
    exact ⟨rfl, rfl⟩
  | cons step steps ih =>
    obtain ⟨s₁, hstep, hrest⟩ := Option.bind_eq_some_iff.mp hrun
    have hne : s.stage ≠ .idle := by
      intro hidle
      simp [pushStep, proceed, hidle] at hstep
    -- One step repeats a request that was made, and writes nothing new.
    obtain ⟨s₂, hstep', hrepeats⟩ := proceed_again hsettled hrepeat hne step.2
    cases hstep'.symm.trans hstep
    obtain ⟨hservers, hdefaults⟩ := ih (s := s₁)
      (by rw [hrepeats.servers, hrepeats.defaults]; exact hsettled)
      (by rw [hrepeats.defaults]; exact hrepeats.stage) hrest
    exact ⟨hservers.trans hrepeats.servers, hdefaults.trans hrepeats.defaults⟩

/-- When its requests are answered, it ends in success. -/
theorem registered_of_repeats (hsettled : TokenBound s.servers s.defaults call)
    (hrepeat : RepeatStage s.defaults call s.stage) (hne : s.stage ≠ .idle) (newSid : CString) :
    ∃ s', run pushStep s (answersOf (List.replicate (stepsLeft s.stage) (.answered, newSid)))
      = some s' ∧ s'.queued = some .registered := by
  generalize hn : stepsLeft s.stage = n
  induction n generalizing s with
  -- A stage that is not idle has a step left.
  | zero =>
    obtain ⟨s₁, -, hrepeats⟩ := @proceed_again _ _ .answered hsettled hrepeat hne newSid
    have hfurther := hrepeats.further rfl
    omega
  | succ n ih =>
    obtain ⟨s₁, hstep, hrepeats⟩ := @proceed_again _ _ .answered hsettled hrepeat hne newSid
    have hfurther := hrepeats.further rfl
    by_cases hidle : s₁.stage = .idle
    · -- That step was the last one, and it reported.
      have hlast : stepsLeft s₁.stage = 0 := by
        rw [hidle]
        rfl
      obtain rfl : n = 0 := by omega
      exact ⟨s₁, by simp [answersOf, run, pushStep, hstep], hrepeats.queued rfl hidle⟩
    · -- The run goes on from the stage it led to.
      obtain ⟨s', hrun, hqueued⟩ := ih (s := s₁)
        (by rw [hrepeats.servers, hrepeats.defaults]; exact hsettled)
        (by rw [hrepeats.defaults]; exact hrepeats.stage) hidle (by omega)
      refine ⟨s', ?_, hqueued⟩
      rw [List.replicate_succ]
      exact (congrArg (fun s => Option.bind s _) hstep).trans hrun

end Repeats

/-! ### Runs -/

/-- A call with a token makes the first lookup. -/
theorem registerDevice_toPushHandler {s : PushState} (hidle : s.stage = .idle)
    (call : Registration) : pushStep s (.registerDevice call.toPushHandler)
      = some (s.goOn (.getAccountSid call)) := by
  simp only [pushStep, if_pos hidle, registerDevice, Option.some.injEq]
  split
  · rename_i hnone
    rw [call.token_eq] at hnone
    cases hnone
  · rename_i token htoken
    obtain rfl : call.address = token := Option.some.inj (call.token_eq.symm.trans htoken)
    rw [dif_neg call.address_ne_nil]

/-- Whatever was registered before, a call that has queued the report of success can be made again:
with the same parameters it changes neither the servers nor `NSUserDefaults`, whether its requests
are answered or not, and when they are its five stages end with the report of success in the
queue. -/
theorem registerDevice_again (defaults : UserDefaults) (servers : Servers)
    (before : List PushInput) (handler : PushHandler) (steps : List (PushOutcome × CString))
    (s : PushState)
    (hrun : run pushStep { defaults := defaults, servers := servers }
      (before ++ .registerDevice handler :: answersOf steps) = some s)
    (hqueued : s.queued = some .registered) :
    (∀ again s', run pushStep s (.registerDevice handler :: answersOf again) = some s' →
      s'.servers = s.servers ∧ s'.defaults = s.defaults) ∧
    ∀ newSid, ∃ s', run pushStep s (.registerDevice handler ::
        answersOf (List.replicate 5 (.answered, newSid))) = some s' ∧
      s'.queued = some .registered := by
  rw [run_append] at hrun
  obtain ⟨s₀, -, hcall⟩ := Option.bind_eq_some_iff.mp hrun
  obtain ⟨s₁, hstart, hsteps⟩ := Option.bind_eq_some_iff.mp hcall
  obtain ⟨-, -, -, hquiet, hstage⟩ := registerDevice_eq hstart
  -- The first call leaves all that the next one needs.
  have hknown : KnownStage s₁.servers s₁.defaults s₁.stage ∧
      ∀ call ∈ callOf s₁.stage, call.toPushHandler = handler := by
    obtain hidle | ⟨call, hhandler, hstage⟩ := hstage
    · rw [hidle]
      exact ⟨trivial, fun call hcall => by cases hcall⟩
    · rw [hstage]
      exact ⟨trivial, fun call' hcall => by cases hcall; exact hhandler⟩
  obtain ⟨hidle, call, rfl, hsettled⟩ :=
    settled_of_run hknown.1 hknown.2 hquiet hsteps hqueued
  have hnext := registerDevice_toPushHandler hidle call
  refine ⟨fun again s' hagain => ?_, fun newSid => ?_⟩
  · obtain ⟨s₂, hstep, hrest⟩ := Option.bind_eq_some_iff.mp hagain
    cases hnext.symm.trans hstep
    exact unchanged_of_repeats (s := s.goOn (.getAccountSid call)) hsettled rfl hrest
  · obtain ⟨s', hrest, hsuccess⟩ := registered_of_repeats
      (s := s.goOn (.getAccountSid call)) hsettled rfl (by simp [PushState.goOn]) newSid
    exact ⟨s', (congrArg (fun s => Option.bind s _) hnext).trans hrest, hsuccess⟩

/-- A phone and servers where nothing was registered yet, but for the account of Alice. -/
def serversOfAlice : Servers where
  accountSid _ _ := some "account".toList
  clients _ _ := [⟨"alice".toList, "client".toList⟩]
  storeOf _ := 0
  stores _ := { bindings := [], nodup := List.nodup_nil }

/-- What alice registers with. -/
def handlerOfAlice : PushHandler where
  signalingUsername := some "alice".toList
  friendlyName := some "name".toList
  token := some "token".toList
  base64Certificate := some []
  base64PrivateKey := some []

/-- The account, the client, an application, credentials and a binding. -/
def firstSteps : List (PushOutcome × CString) :=
  List.replicate 8 (.answered, "sid".toList)

/-- Alice registers twice. -/
theorem registerDevice_again_alice :
    ∃ s, run pushStep { defaults := {}, servers := serversOfAlice }
        ([] ++ .registerDevice handlerOfAlice :: answersOf firstSteps) = some s ∧
      (∀ again s', run pushStep s (.registerDevice handlerOfAlice :: answersOf again) = some s' →
        s'.servers = s.servers ∧ s'.defaults = s.defaults) ∧
      ∀ newSid, ∃ s', run pushStep s (.registerDevice handlerOfAlice ::
          answersOf (List.replicate 5 (.answered, newSid))) = some s' ∧
        s'.queued = some .registered :=
  ⟨_, rfl, registerDevice_again {} serversOfAlice [] handlerOfAlice firstSteps _ rfl rfl⟩

end RestCommSdk.Proofs
