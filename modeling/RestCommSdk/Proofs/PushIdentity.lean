import RestCommSdk.Proofs.PushSteps

/-!
# `RestCommSdk.Proofs.PushIdentity`: whose sids a push registration uses

A call should go on with the sids that the servers hold for its own parameters (`sidOf`). What
`NSUserDefaults` kept from an earlier call is used before the servers are asked: the account and
the client whoever they belong to, the application when the sandbox flag is the same, the
credentials when the application sid is.

`stepsOwn_step` is the step lemma, one stage after the other. `usesOwnSids_iff` says when all
calls of a run use their own sids: exactly when no kept value that is used is stale.
-/

set_option autoImplicit false

namespace RestCommSdk.Proofs

open RestCommSdk.Lib
open RestCommSdk.CliInterface (CString)
open RestCommSdk.Push

/-! ### The property and the condition -/

/-- The sid that the servers hold for the parameters of a call. -/
def sidOf (servers : Servers) (handler : PushHandler) : SidKind → Option CString
  | .account => servers.accountSid handler.httpLogin handler.rescommAccountEmail
  | .client => do
    let accountSid ← servers.accountSid handler.httpLogin handler.rescommAccountEmail
    let client ← findClient (servers.clients handler.httpLogin accountSid)
      handler.signalingUsername
    return client.sid
  | .application => do
    let application ← findApplication (servers.store handler.pushLogin).applications
      handler.friendlyName handler.sandbox
    return application.sid
  | .credentials => do
    let application ← findApplication (servers.store handler.pushLogin).applications
      handler.friendlyName handler.sandbox
    let credentials ← findCredentials (servers.store handler.pushLogin).credentials
      (some application)
    return credentials.sid

/-- The sid that a step has gone on with is the one of its call. -/
def UsesOwnSid (s' : PushState) : Prop :=
  ∀ use ∈ s'.used, sidOf s'.servers use.call.toPushHandler use.kind = some use.sid

instance (s' : PushState) : Decidable (UsesOwnSid s') :=
  inferInstanceAs (Decidable (∀ use ∈ s'.used, _))

/-- If this stage takes what `NSUserDefaults` holds, it is what the servers hold for the call. -/
def NotStale (servers : Servers) (defaults : UserDefaults) : Stage → Prop
  | .getAccountSid call =>
    ∀ accountSid ∈ defaults.accountSid, accountSid ≠ [] →
      sidOf servers call.toPushHandler .account = some accountSid
  | .getClientSid call _ =>
    ∀ clientSid ∈ defaults.clientSid, clientSid ≠ [] →
      sidOf servers call.toPushHandler .client = some clientSid
  | .getApplicationSid call _ =>
    ∀ application ∈ defaults.application, application.sandbox = call.sandbox →
      sidOf servers call.toPushHandler .application = some application.sid
  | .getCredentialsSid call _ applicationSid =>
    ∀ credentials ∈ defaults.credentials, credentials.applicationSid = applicationSid →
      sidOf servers call.toPushHandler .credentials = some credentials.sid
  | _ => True

/-- The sid that a stage has got from the one before it is the one of its call. -/
def OwnStage (servers : Servers) : Stage → Prop
  | .getClientSid call accountSid => sidOf servers call.toPushHandler .account = some accountSid
  | .getCredentialsSid call _ applicationSid | .createCredentials call _ applicationSid _ _ =>
    sidOf servers call.toPushHandler .application = some applicationSid
  | _ => True

/-! ### One step -/

/-- A step that goes on with a sid uses its own exactly if the answer is. -/
theorem usesOwnSid_complete_iff (s : PushState) (call : Registration) (kind : SidKind)
    (next : CString → Stage) (answer : Option CString) :
    UsesOwnSid (s.complete call kind next answer) ↔
      ∀ sid ∈ answer, sidOf s.servers call.toPushHandler kind = some sid := by
  unfold UsesOwnSid
  rw [complete_used, complete_servers]
  cases answer <;> simp

/-- A step that uses no sid. -/
theorem usesOwnSid_of_used_eq_none {s' : PushState} (h : s'.used = none) : UsesOwnSid s' := by
  intro use huse
  rw [h] at huse
  cases huse

/-- A kept value that is used is right exactly when no kept value that would be used is wrong. -/
theorem forall_mem_kept_iff {α : Type} {kept : Option α} {value : α} {valid right : α → Prop}
    (hkept : kept = some value) (hvalid : valid value) :
    right value ↔ ∀ a ∈ kept, valid a → right a := by
  constructor
  · intro hright a ha _
    rw [hkept] at ha
    cases ha
    exact hright
  · intro h
    exact h value hkept hvalid

section Lookups
variable {servers : Servers} {handler : PushHandler}

/-- The client that is found is the own one. -/
theorem sidOf_client {accountSid : CString} {client : Client}
    (haccount : sidOf servers handler .account = some accountSid)
    (hclient : findClient (servers.clients handler.httpLogin accountSid)
      handler.signalingUsername = some client) :
    sidOf servers handler .client = some client.sid := by
  have haccount' : servers.accountSid handler.httpLogin handler.rescommAccountEmail =
    some accountSid := haccount
  simp [sidOf, haccount', hclient]

/-- The application that is found is the own one. -/
theorem sidOf_application {application : RCApplication}
    (h : findApplication (servers.store handler.pushLogin).applications handler.friendlyName
      handler.sandbox = some application) :
    sidOf servers handler .application = some application.sid := by
  simp [sidOf, h]

/-- Only the sid of the application matters. -/
theorem findCredentials_congr {application application' : Option RCApplication}
    (h : application.map (·.sid) = application'.map (·.sid)) (credentials : List RCCredentials) :
    findCredentials credentials application = findCredentials credentials application' := by
  unfold findCredentials
  rw [h]

/-- The credentials that are found are those of the own application. -/
theorem sidOf_credentials {applicationSid : CString} {application : Option RCApplication}
    {credentials : RCCredentials}
    (happlication : sidOf servers handler .application = some applicationSid)
    (hsid : application.map (·.sid) = some applicationSid)
    (h : findCredentials (servers.store handler.pushLogin).credentials application =
      some credentials) :
    sidOf servers handler .credentials = some credentials.sid := by
  obtain ⟨found, hfound, hfoundSid⟩ := Option.bind_eq_some_iff.mp happlication
  have hsame : application.map (·.sid) = (some found).map (·.sid) := by
    rw [hsid]
    exact hfoundSid.symm
  rw [findCredentials_congr hsame] at h
  simp [sidOf, hfound, h]

/-- An application that was added is found, if none was before. -/
theorem findApplication_append {applications : List RCApplication} {application : RCApplication}
    {friendlyName : Option CString} {sandbox : Bool}
    (hnone : findApplication applications friendlyName sandbox = none)
    (hname : some application.friendlyName = friendlyName)
    (hsandbox : application.sandbox = sandbox) :
    findApplication (applications ++ [application]) friendlyName sandbox = some application := by
  unfold findApplication at hnone ⊢
  rw [List.find?_append, hnone]
  simp [hname, hsandbox]

/-- Credentials that were added are found, if none were before. -/
theorem findCredentials_append {list : List RCCredentials} {credentials : RCCredentials}
    {application : Option RCApplication} (hnone : findCredentials list application = none)
    (hsid : application.map (·.sid) = some credentials.applicationSid) :
    findCredentials (list ++ [credentials]) application = some credentials := by
  unfold findCredentials at hnone ⊢
  rw [List.find?_append, hnone]
  simp [hsid]

end Lookups

section Step
variable {s s' : PushState} {call : Registration} {outcome : PushOutcome} {newSid : CString}

/-- What a step should show: it uses its own sid exactly when nothing stale is taken, and then the
next stage has it. -/
def StepsOwn (s s' : PushState) : Prop :=
  (UsesOwnSid s' ↔ NotStale s.servers s.defaults s.stage) ∧
    (UsesOwnSid s' → OwnStage s'.servers s'.stage)

/-- A step that uses no sid. -/
theorem stepsOwn_of_used_eq_none (hused : s'.used = none)
    (hstale : NotStale s.servers s.defaults s.stage) (hstage : OwnStage s'.servers s'.stage) :
    StepsOwn s s' :=
  ⟨iff_of_true (usesOwnSid_of_used_eq_none hused) hstale, fun _ => hstage⟩

/-- The stage of the account. -/
theorem stepsOwn_getAccountSid (hstage : s.stage = .getAccountSid call) :
    StepsOwn s (getAccountSid s call outcome) := by
  unfold StepsOwn
  rw [hstage]
  obtain ⟨accountSid, hkept, hvalid, heq⟩ | ⟨hmiss, defaults, answer, heq, hanswer, -⟩ :=
    @getAccountSid_cases s call outcome
  · -- The kept value is used. It is right exactly when it is not stale.
    rw [heq, usesOwnSid_complete_iff]
    constructor
    · refine Iff.trans ?_ (forall_mem_kept_iff hkept hvalid)
      simp
    · intro h
      exact h accountSid rfl
  · -- The answer of the server is used, and kept for later calls.
    rw [heq, usesOwnSid_complete_iff]
    constructor
    · exact iff_of_true hanswer fun kept hkept hvalid => absurd hvalid (hmiss kept hkept)
    · intro h
      cases answer with
      | none => trivial
      | some sid => exact h sid rfl

/-- The stage of the client, with the own account. -/
theorem stepsOwn_getClientSid {accountSid : CString}
    (hstage : s.stage = .getClientSid call accountSid)
    (haccount : sidOf s.servers call.toPushHandler .account = some accountSid) :
    StepsOwn s (getClientSid s call outcome accountSid) := by
  unfold StepsOwn
  rw [hstage]
  obtain ⟨clientSid, hkept, hvalid, heq⟩ | ⟨hmiss, defaults, answer, heq, hanswer, -⟩ :=
    @getClientSid_cases s call outcome accountSid
  · -- The cached sid is used, and it is the account's own exactly when it is not stale.
    rw [heq, usesOwnSid_complete_iff]
    constructor
    · refine Iff.trans ?_ (forall_mem_kept_iff hkept hvalid)
      simp
    · intro h
      trivial
  · -- The server is asked, and it answers a sid of this account.
    rw [heq, usesOwnSid_complete_iff]
    constructor
    · refine iff_of_true ?_ fun kept hkept hvalid => absurd hvalid (hmiss kept hkept)
      intro sid hsid
      obtain ⟨client, hfound, rfl⟩ := Option.map_eq_some_iff.mp (hanswer sid hsid)
      exact sidOf_client haccount hfound
    · intro h
      cases answer <;> trivial

/-- The stage of the application. -/
theorem stepsOwn_getApplicationSid {clientSid : CString}
    (hstage : s.stage = .getApplicationSid call clientSid)
    (h : getApplicationSid s call outcome clientSid = some s') : StepsOwn s s' := by
  unfold StepsOwn
  rw [hstage]
  obtain ⟨application, hkept, hvalid, rfl⟩ | ⟨hmiss, hanswer⟩ := getApplicationSid_cases h
  · -- The cached sid is used, and it is the own one exactly when it is not stale.
    rw [usesOwnSid_complete_iff]
    constructor
    · refine Iff.trans ?_ (forall_mem_kept_iff hkept hvalid)
      simp
    · intro h
      exact h application.sid rfl
  · have hstale : NotStale s.servers s.defaults (.getApplicationSid call clientSid) :=
      fun kept hkept hvalid => absurd hvalid (hmiss kept hkept)
    obtain ⟨application, hfound, rfl⟩ | ⟨friendlyName, -, -, rfl⟩ | rfl := hanswer
    · -- The server is asked, and it finds the application.
      have hsid := sidOf_application hfound
      rw [usesOwnSid_complete_iff]
      constructor
      · refine iff_of_true ?_ hstale
        intro sid heq
        cases heq
        exact hsid
      · intro _
        exact hsid
    · -- The application is to be created, or the request failed: no sid is used yet.
      exact ⟨iff_of_true (usesOwnSid_of_used_eq_none rfl) hstale, fun _ => trivial⟩
    · exact ⟨iff_of_true (usesOwnSid_of_used_eq_none rfl) hstale, fun _ => trivial⟩

/-- The application is made, and it is found from then on. -/
theorem stepsOwn_createApplication {clientSid friendlyName : CString}
    (hstage : s.stage = .createApplication call clientSid friendlyName)
    (hlinked : LinkedStage s.servers s.defaults (.createApplication call clientSid friendlyName))
    (h : createApplication s call outcome newSid clientSid friendlyName = some s') :
    StepsOwn s s' := by
  obtain ⟨hname, hnone⟩ := hlinked
  have hstale : NotStale s.servers s.defaults s.stage := by
    rw [hstage]
    trivial
  obtain rfl | ⟨servers, -, rfl⟩ := createApplication_cases h
  · -- The lookup had found none, so the new application is the one that it finds now.
    have hsid : sidOf (s.servers.setStore call.pushLogin
        ((s.servers.store call.pushLogin).addApplication ⟨newSid, friendlyName, call.sandbox⟩))
        call.toPushHandler .application = some newSid := by
      apply @sidOf_application _ _ ⟨newSid, friendlyName, call.sandbox⟩
      rw [Servers.store_setStore]
      exact findApplication_append hnone hname.symm rfl
    refine ⟨iff_of_true ?_ hstale, fun _ => hsid⟩
    rw [usesOwnSid_complete_iff]
    intro sid heq
    cases heq
    exact hsid
  · exact stepsOwn_of_used_eq_none rfl hstale trivial

/-- The stage of the credentials, with the own application. -/
theorem stepsOwn_getCredentialsSid {clientSid applicationSid : CString}
    (hstage : s.stage = .getCredentialsSid call clientSid applicationSid)
    (hlinked : LinkedStage s.servers s.defaults
      (.getCredentialsSid call clientSid applicationSid))
    (happlication : sidOf s.servers call.toPushHandler .application = some applicationSid)
    (h : getCredentialsSid s call outcome clientSid applicationSid = some s') :
    StepsOwn s s' := by
  unfold StepsOwn
  rw [hstage]
  obtain ⟨credentials, hkept, hvalid, rfl⟩ | ⟨hmiss, hanswer⟩ := getCredentialsSid_cases h
  · -- The cached sid is used, and it is the own one exactly when it is not stale.
    rw [usesOwnSid_complete_iff]
    constructor
    · refine Iff.trans ?_ (forall_mem_kept_iff hkept hvalid)
      simp
    · intro _
      trivial
  · have hstale : NotStale s.servers s.defaults
        (.getCredentialsSid call clientSid applicationSid) :=
      fun kept hkept hvalid => absurd hvalid (hmiss kept hkept)
    obtain ⟨credentials, hfound, rfl⟩ | ⟨certificate, privateKey, -, rfl⟩ | rfl := hanswer
    · -- The server is asked, and it finds the credentials of the application.
      rw [usesOwnSid_complete_iff]
      constructor
      · refine iff_of_true ?_ hstale
        intro sid heq
        cases heq
        exact sidOf_credentials happlication hlinked hfound
      · intro _
        trivial
    · -- The credentials are to be created, or the request failed: no sid is used yet.
      exact ⟨iff_of_true (usesOwnSid_of_used_eq_none rfl) hstale, fun _ => happlication⟩
    · exact ⟨iff_of_true (usesOwnSid_of_used_eq_none rfl) hstale, fun _ => trivial⟩

/-- The credentials are made, and they are found from then on. -/
theorem stepsOwn_createCredentials {clientSid applicationSid certificate privateKey : CString}
    (hstage : s.stage =
      .createCredentials call clientSid applicationSid certificate privateKey)
    (hlinked : LinkedStage s.servers s.defaults
      (.createCredentials call clientSid applicationSid certificate privateKey))
    (happlication : sidOf s.servers call.toPushHandler .application = some applicationSid)
    (h : createCredentials s call outcome newSid clientSid applicationSid certificate privateKey =
      some s') : StepsOwn s s' := by
  obtain ⟨hsid, hnone⟩ := hlinked
  have hstale : NotStale s.servers s.defaults s.stage := by
    rw [hstage]
    trivial
  obtain rfl | ⟨servers, -, rfl⟩ := createCredentials_cases h
  · have hown : sidOf (s.servers.setStore call.pushLogin
        ((s.servers.store call.pushLogin).addCredentials
          ⟨newSid, applicationSid, "apn".toList, certificate, privateKey⟩))
        call.toPushHandler .credentials = some newSid := by
      apply @sidOf_credentials _ _ applicationSid s.defaults.application
        ⟨newSid, applicationSid, "apn".toList, certificate, privateKey⟩ _ hsid
      · rw [Servers.store_setStore]
        exact findCredentials_append hnone hsid
      · -- The applications are the same as before.
        obtain ⟨application, hfound, happlicationSid⟩ := Option.bind_eq_some_iff.mp happlication
        cases happlicationSid
        apply sidOf_application
        rw [Servers.store_setStore]
        exact hfound
    refine ⟨iff_of_true ?_ hstale, fun _ => trivial⟩
    rw [usesOwnSid_complete_iff]
    intro sid heq
    cases heq
    exact hown
  · exact stepsOwn_of_used_eq_none rfl hstale trivial

/-- The stages of the binding use no sid of their own, and compare none with what is kept. -/
theorem stepsOwn_checkBinding {clientSid applicationSid : CString}
    (hstale : NotStale s.servers s.defaults s.stage) :
    StepsOwn s (checkBinding s call outcome clientSid applicationSid) := by
  obtain ⟨-, heq⟩ | ⟨-, ⟨_, -, -, heq⟩ | ⟨_, -, -, heq⟩ | ⟨-, heq⟩⟩ :=
    checkBinding_cases clientSid applicationSid
  all_goals
    rw [heq]
    exact stepsOwn_of_used_eq_none rfl hstale trivial

/-- The last request uses no sid of its own. -/
theorem stepsOwn_lastRequest {write : PushStore → Option PushStore}
    (hstale : NotStale s.servers s.defaults s.stage)
    (h : ((s.send call.pushLogin outcome write).bind fun s => some (s.finish outcome)) =
      some s') : StepsOwn s s' := by
  obtain ⟨-, rfl⟩ | ⟨-, _, -, rfl⟩ := lastRequest_cases h
  · exact stepsOwn_of_used_eq_none rfl hstale trivial
  · exact stepsOwn_of_used_eq_none rfl hstale trivial

/-- A step is that of its stage. -/
theorem stepsOwn_proceed (hlinked : Linked s) (hown : OwnStage s.servers s.stage)
    (h : proceed s outcome newSid = some s') : StepsOwn s s' := by
  unfold Linked at hlinked
  cases stepped_of_proceed h with
  | getAccountSid hstage => exact stepsOwn_getAccountSid hstage
  | getClientSid hstage =>
    -- The stages that send a sid on need it to be the own one.
    rw [hstage] at hown
    exact stepsOwn_getClientSid hstage hown
  | getApplicationSid hstage h => exact stepsOwn_getApplicationSid hstage h
  | createApplication hstage h =>
    rw [hstage] at hlinked
    exact stepsOwn_createApplication hstage hlinked h
  | getCredentialsSid hstage h =>
    rw [hstage] at hlinked hown
    exact stepsOwn_getCredentialsSid hstage hlinked hown h
  | createCredentials hstage h =>
    rw [hstage] at hlinked hown
    exact stepsOwn_createCredentials hstage hlinked hown h
  -- The last stages ask for no sid.
  | checkBinding hstage => exact stepsOwn_checkBinding (by rw [hstage]; trivial)
  | updateBinding hstage h => exact stepsOwn_lastRequest (by rw [hstage]; trivial) h
  | createBinding hstage h => exact stepsOwn_lastRequest (by rw [hstage]; trivial) h

/-- One step: the condition is exact. -/
theorem stepsOwn_step {input : PushInput} (hlinked : Linked s) (hown : OwnStage s.servers s.stage)
    (h : pushStep s input = some s') : StepsOwn s s' := by
  cases input with
  | registerDevice handler =>
    -- A registration starts from the idle stage, where nothing is stale.
    have hstale : NotStale s.servers s.defaults s.stage := by
      unfold pushStep at h
      dsimp only at h
      split at h
      · rename_i hidle
        rw [hidle]
        trivial
      · cases h
    obtain ⟨-, -, hused, -, hstage⟩ := registerDevice_eq h
    refine stepsOwn_of_used_eq_none hused hstale ?_
    obtain hidle | ⟨call, -, hcall⟩ := hstage
    · rw [hidle]
      trivial
    · rw [hcall]
      trivial
  | proceed outcome newSid => exact stepsOwn_proceed hlinked hown h

end Step

/-! ### Runs -/

/-- Every call of a run uses the sids of its own parameters exactly when no stage takes from
`NSUserDefaults` a value that is not the one of its call. -/
theorem usesOwnSids_iff (defaults : UserDefaults) (servers : Servers) (inputs : List PushInput) :
    AllSteps pushStep (fun _ _ s' => UsesOwnSid s') { defaults := defaults, servers := servers }
        inputs ↔
      AllSteps pushStep (fun s _ _ => NotStale s.servers s.defaults s.stage)
        { defaults := defaults, servers := servers } inputs := by
  refine AllSteps.iff_of_inv (fun s => Linked s ∧ OwnStage s.servers s.stage) ?_ ?_ inputs
  · intro s input s' ⟨hlinked, hown⟩ hs
    obtain ⟨hiff, hnext⟩ := stepsOwn_step hlinked hown hs
    exact ⟨hiff, fun hstale => ⟨linked_step hlinked hs, hnext (hiff.mpr hstale)⟩⟩
  · exact ⟨trivial, trivial⟩

/-- Servers where the account sid is the email, and everyone has the client of that name. -/
def twoUsers : Servers where
  accountSid _ email := email
  clients _ accountSid := [⟨accountSid, 'C' :: accountSid⟩]
  storeOf _ := 0
  stores _ := {}

/-- What a user registers with. -/
def userHandler (name : String) : PushHandler where
  rescommAccountEmail := some name.toList
  signalingUsername := some name.toList
  token := some "token".toList

/-- Alice registers, until a request fails. Then Bob does, on the same phone. -/
def aliceThenBob : List PushInput :=
  [.registerDevice (userHandler "alice"), .proceed .answered [], .proceed .answered [],
    .proceed .refused [], .registerDevice (userHandler "bob"), .proceed .answered [],
    .proceed .answered []]

/-- Bob's call goes on with the client of Alice. -/
theorem bob_uses_client_of_alice :
    (∃ s', run pushStep { servers := twoUsers } aliceThenBob = some s' ∧
      s'.used.map (fun use => (use.call.signalingUsername, use.kind, use.sid)) =
        some (some "bob".toList, .client, "Calice".toList) ∧
      sidOf s'.servers (userHandler "bob") .client = some "Cbob".toList) ∧
    ¬ AllSteps pushStep (fun _ _ s' => UsesOwnSid s') { servers := twoUsers } aliceThenBob :=
  ⟨⟨_, rfl, rfl, rfl⟩, by decide⟩

end RestCommSdk.Proofs
