import RestCommSdk.Proofs.PushIdentity

/-!
# `RestCommSdk.Proofs.OneUser`: push registrations on a phone with one user

The case that the values in `NSUserDefaults` are made for. All calls are for one user with one
application, and may still differ in the token, the sandbox flag and the certificate. What is kept
is then what the servers hold for this user (`KeptFor`), since the servers only add to their lists
(`sidOf_mono`), and `usesOwnSids_of_sameUser` follows: every call uses its own sids.
-/

set_option autoImplicit false

namespace RestCommSdk.Proofs

open RestCommSdk.Lib
open RestCommSdk.CliInterface (CString)
open RestCommSdk.Push

/-! ### The sids of one user -/

/-- The handler is for this user. The token, the sandbox flag and the certificate are its own. -/
structure SameUser (user handler : PushHandler) : Prop where
  password : handler.password = user.password
  signalingUsername : handler.signalingUsername = user.signalingUsername
  friendlyName : handler.friendlyName = user.friendlyName
  rescommAccountEmail : handler.rescommAccountEmail = user.rescommAccountEmail
  pushDomain : handler.pushDomain = user.pushDomain
  httpDomain : handler.httpDomain = user.httpDomain

namespace SameUser
variable {user handler : PushHandler}

/-- One login at the Restcomm server. -/
theorem httpLogin (h : SameUser user handler) : handler.httpLogin = user.httpLogin := by
  simp [PushHandler.httpLogin, h.password, h.rescommAccountEmail, h.httpDomain]

/-- One login at the push server. -/
theorem pushLogin (h : SameUser user handler) : handler.pushLogin = user.pushLogin := by
  simp [PushHandler.pushLogin, h.password, h.rescommAccountEmail, h.pushDomain]

/-- One account. -/
theorem sidOf_account (h : SameUser user handler) (servers : Servers) :
    sidOf servers handler .account = sidOf servers user .account := by
  simp [sidOf, h.httpLogin, h.rescommAccountEmail]

/-- One client. -/
theorem sidOf_client (h : SameUser user handler) (servers : Servers) :
    sidOf servers handler .client = sidOf servers user .client := by
  simp [sidOf, h.httpLogin, h.rescommAccountEmail, h.signalingUsername]

/-- One application of each kind. -/
theorem sidOf_application (h : SameUser user handler) (servers : Servers) :
    sidOf servers handler .application =
      sidOf servers { user with sandbox := handler.sandbox } .application := by
  have hlogin : { user with sandbox := handler.sandbox }.pushLogin = user.pushLogin := rfl
  simp [sidOf, h.pushLogin, h.friendlyName, hlogin]

end SameUser

/-- What the servers hold for the parameters of a call, they go on holding. -/
theorem sidOf_mono {servers servers' : Servers} (hext : Extends servers servers')
    {handler : PushHandler} {kind : SidKind} {sid : CString}
    (h : sidOf servers handler kind = some sid) : sidOf servers' handler kind = some sid := by
  have happlications : ∀ {application}, findApplication
      (servers.store handler.pushLogin).applications handler.friendlyName handler.sandbox =
        some application →
      findApplication (servers'.store handler.pushLogin).applications handler.friendlyName
        handler.sandbox = some application := by
    intro application hfound
    unfold Servers.store at hfound ⊢
    rw [hext.storeOf]
    exact (hext.applications _).find?_eq_some hfound
  cases kind with
  | account =>
    -- The accounts and their clients are the same.
    show servers'.accountSid handler.httpLogin handler.rescommAccountEmail = some sid
    rw [hext.accountSid]
    exact h
  | client =>
    unfold sidOf at h ⊢
    rw [hext.accountSid, hext.clients]
    exact h
  | application =>
    obtain ⟨application, hfound, hsid⟩ := Option.bind_eq_some_iff.mp h
    exact Option.bind_eq_some_iff.mpr ⟨application, happlications hfound, hsid⟩
  | credentials =>
    obtain ⟨application, hfound, h⟩ := Option.bind_eq_some_iff.mp h
    obtain ⟨credentials, hcredentials, hsid⟩ := Option.bind_eq_some_iff.mp h
    refine Option.bind_eq_some_iff.mpr ⟨application, happlications hfound,
      Option.bind_eq_some_iff.mpr ⟨credentials, ?_, hsid⟩⟩
    unfold findCredentials Servers.store at hcredentials ⊢
    rw [hext.storeOf]
    exact (hext.credentials _).find?_eq_some hcredentials

/-! ### What is kept -/

/-- What `NSUserDefaults` holds is what the servers hold for this user. -/
structure KeptFor (user : PushHandler) (servers : Servers) (defaults : UserDefaults) : Prop where
  account : ∀ sid ∈ defaults.accountSid, sidOf servers user .account = some sid
  client : ∀ sid ∈ defaults.clientSid, sidOf servers user .client = some sid
  application : ∀ application ∈ defaults.application,
    sidOf servers { user with sandbox := application.sandbox } .application =
      some application.sid
  credentials : ∀ credentials ∈ defaults.credentials, ∀ application : RCApplication,
    application.sid = credentials.applicationSid →
      findCredentials (servers.store user.pushLogin).credentials (some application) =
        some credentials

section OneUser
variable {user : PushHandler} {s s' : PushState}

/-- What was kept stays the user's own when the servers grow. -/
theorem KeptFor.mono {servers servers' : Servers} {defaults : UserDefaults}
    (h : KeptFor user servers defaults) (hext : Extends servers servers') :
    KeptFor user servers' defaults where
  account sid hsid := sidOf_mono hext (h.account sid hsid)
  client sid hsid := sidOf_mono hext (h.client sid hsid)
  application application happlication := sidOf_mono hext (h.application application happlication)
  credentials credentials hcredentials application hsid := by
    have hfound := h.credentials credentials hcredentials application hsid
    unfold findCredentials Servers.store at hfound ⊢
    rw [hext.storeOf]
    exact (hext.credentials _).find?_eq_some hfound

section Keep
variable {servers : Servers} {defaults : UserDefaults}

/-- The sid of the account is kept. -/
theorem KeptFor.keepAccount (h : KeptFor user servers defaults) {answer : Option CString}
    (hown : ∀ sid ∈ answer, sidOf servers user .account = some sid) :
    KeptFor user servers { defaults with accountSid := answer } :=
  ⟨hown, h.client, h.application, h.credentials⟩

/-- The sid of the client is kept. -/
theorem KeptFor.keepClient (h : KeptFor user servers defaults) {answer : Option CString}
    (hown : ∀ sid ∈ answer, sidOf servers user .client = some sid) :
    KeptFor user servers { defaults with clientSid := answer } :=
  ⟨h.account, hown, h.application, h.credentials⟩

/-- The application is kept. -/
theorem KeptFor.keepApplication (h : KeptFor user servers defaults)
    {answer : Option RCApplication}
    (hown : ∀ application ∈ answer,
      sidOf servers { user with sandbox := application.sandbox } .application =
        some application.sid) :
    KeptFor user servers { defaults with application := answer } :=
  ⟨h.account, h.client, hown, h.credentials⟩

/-- The credentials are kept. -/
theorem KeptFor.keepCredentials (h : KeptFor user servers defaults) {credentials : RCCredentials}
    {application : Option RCApplication}
    (hfound : findCredentials (servers.store user.pushLogin).credentials application =
      some credentials) :
    KeptFor user servers { defaults with credentials := some credentials } := by
  refine ⟨h.account, h.client, h.application, ?_⟩
  intro kept hkept application' hsid
  cases hkept
  -- The entry that was found belongs to the application it was looked up for.
  have hmatch := List.find?_some hfound
  simp only [decide_eq_true_eq] at hmatch
  rw [← hfound]
  apply findCredentials_congr
  rw [← hmatch, ← hsid]
  rfl

end Keep

/-- What is kept for a user is not stale in a call of this user. -/
theorem notStale_of_keptFor (hkept : KeptFor user s.servers s.defaults)
    (huser : ∀ call ∈ callOf s.stage, SameUser user call.toPushHandler)
    (hown : OwnStage s.servers s.stage) : NotStale s.servers s.defaults s.stage := by
  cases hstage : s.stage with
  | getAccountSid call =>
    rw [hstage] at huser
    intro accountSid hsid _
    rw [(huser call rfl).sidOf_account]
    exact hkept.account accountSid hsid
  | getClientSid call accountSid =>
    rw [hstage] at huser
    intro clientSid hsid _
    rw [(huser call rfl).sidOf_client]
    exact hkept.client clientSid hsid
  -- The cached application is asked for by its sandbox alone.
  | getApplicationSid call clientSid =>
    rw [hstage] at huser
    intro application happlication hsandbox
    rw [(huser call rfl).sidOf_application, ← hsandbox]
    exact hkept.application application happlication
  | getCredentialsSid call clientSid applicationSid =>
    -- The sid to compare with is the one of the cached application.
    rw [hstage] at huser hown
    intro credentials hcredentials hsid
    obtain ⟨application, -, happlicationSid⟩ := Option.bind_eq_some_iff.mp hown
    have hfound := hkept.credentials credentials hcredentials application
      ((Option.some.inj happlicationSid).trans hsid.symm)
    rw [← (huser call rfl).pushLogin] at hfound
    exact sidOf_credentials hown (show (some application).map (·.sid) = _ from happlicationSid)
      hfound
  | _ => trivial

/-! ### One step -/

section Step
variable {call : Registration} {outcome : PushOutcome} {newSid : CString}
  {clientSid applicationSid : CString} (hkept : KeptFor user s.servers s.defaults)
include hkept

/-- The stage of the account keeps what it was answered. -/
theorem keptFor_getAccountSid (huser : SameUser user call.toPushHandler) :
    KeptFor user (getAccountSid s call outcome).servers
      (getAccountSid s call outcome).defaults := by
  obtain ⟨_, -, -, heq⟩ | ⟨-, defaults, answer, heq, hanswer, hdefaults⟩ :=
    @getAccountSid_cases s call outcome
  · rw [heq]
    exact hkept
  · rw [heq, complete_servers, complete_defaults]
    obtain rfl | rfl := hdefaults
    · exact hkept
    · refine hkept.keepAccount fun sid hsid => ?_
      rw [← huser.sidOf_account]
      exact hanswer sid hsid

/-- The client that is kept is the one that the step has gone on with. -/
theorem keptFor_getClientSid {accountSid : CString} (huser : SameUser user call.toPushHandler)
    (huses : UsesOwnSid (getClientSid s call outcome accountSid)) :
    KeptFor user (getClientSid s call outcome accountSid).servers
      (getClientSid s call outcome accountSid).defaults := by
  obtain ⟨_, -, -, heq⟩ | ⟨-, defaults, answer, heq, -, hdefaults⟩ :=
    @getClientSid_cases s call outcome accountSid
  · rw [heq]
    exact hkept
  · rw [heq, usesOwnSid_complete_iff] at huses
    rw [heq, complete_servers, complete_defaults]
    obtain rfl | rfl := hdefaults
    · exact hkept
    · refine hkept.keepClient fun sid hsid => ?_
      rw [← huser.sidOf_client]
      exact huses sid hsid

/-- The stage of the application keeps what it was answered. -/
theorem keptFor_getApplicationSid (huser : SameUser user call.toPushHandler)
    (h : getApplicationSid s call outcome clientSid = some s') :
    KeptFor user s'.servers s'.defaults := by
  obtain ⟨_, -, -, rfl⟩ | ⟨-, ⟨application, hfound, rfl⟩ | ⟨_, -, -, rfl⟩ | rfl⟩ :=
    getApplicationSid_cases h
  · exact hkept
  · refine hkept.keepApplication ?_
    intro kept heq
    cases heq
    -- The application that was found has the sandbox flag of the call.
    have hmatch := List.find?_some hfound
    simp only [decide_eq_true_eq] at hmatch
    rw [hmatch.2, ← huser.sidOf_application]
    exact sidOf_application hfound
  · exact hkept
  · exact hkept

/-- The new application is what a lookup finds from now on. When nothing came back, nothing is
kept. -/
theorem keptFor_createApplication {friendlyName : CString}
    (huser : SameUser user call.toPushHandler) (hext : Extends s.servers s'.servers)
    (hown' : OwnStage s'.servers s'.stage)
    (h : createApplication s call outcome newSid clientSid friendlyName = some s') :
    KeptFor user s'.servers s'.defaults := by
  have hkept' : KeptFor user s'.servers s.defaults := hkept.mono hext
  obtain rfl | ⟨servers, -, rfl⟩ := createApplication_cases h
  · refine KeptFor.keepApplication hkept' ?_
    intro kept heq
    cases heq
    rw [← huser.sidOf_application]
    exact hown'
  · refine KeptFor.keepApplication hkept' ?_
    intro kept heq
    cases heq

/-- The stage of the credentials keeps what it was answered. -/
theorem keptFor_getCredentialsSid (huser : SameUser user call.toPushHandler)
    (h : getCredentialsSid s call outcome clientSid applicationSid = some s') :
    KeptFor user s'.servers s'.defaults := by
  obtain ⟨_, -, -, rfl⟩ | ⟨-, ⟨credentials, hfound, rfl⟩ | ⟨_, _, -, rfl⟩ | rfl⟩ :=
    getCredentialsSid_cases h
  · exact hkept
  · rw [huser.pushLogin] at hfound
    exact hkept.keepCredentials hfound
  · exact hkept
  · exact hkept

/-- The lookup had found none, so the new credentials are found from now on. -/
theorem keptFor_createCredentials {certificate privateKey : CString}
    (huser : SameUser user call.toPushHandler) (hext : Extends s.servers s'.servers)
    (hlinked : LinkedStage s.servers s.defaults
      (.createCredentials call clientSid applicationSid certificate privateKey))
    (h : createCredentials s call outcome newSid clientSid applicationSid certificate privateKey =
      some s') : KeptFor user s'.servers s'.defaults := by
  have hkept' : KeptFor user s'.servers s.defaults := hkept.mono hext
  obtain ⟨hsid, hnone⟩ := hlinked
  obtain rfl | ⟨servers, -, rfl⟩ := createCredentials_cases h
  · apply @KeptFor.keepCredentials _ _ _ hkept' _ s.defaults.application
    rw [← huser.pushLogin]
    show findCredentials ((s.servers.setStore call.pushLogin _).store call.pushLogin).credentials
      _ = _
    rw [Servers.store_setStore]
    exact findCredentials_append hnone hsid
  · exact hkept'

/-- The lookup of the binding keeps nothing. -/
theorem keptFor_checkBinding :
    KeptFor user (checkBinding s call outcome clientSid applicationSid).servers
      (checkBinding s call outcome clientSid applicationSid).defaults := by
  obtain ⟨-, heq⟩ | ⟨-, ⟨_, -, -, heq⟩ | ⟨_, -, -, heq⟩ | ⟨-, heq⟩⟩ :=
    checkBinding_cases clientSid applicationSid
  all_goals
    rw [heq]
    exact hkept

/-- Bindings are not kept. -/
theorem keptFor_lastRequest {write : PushStore → Option PushStore}
    (hext : Extends s.servers s'.servers)
    (h : ((s.send call.pushLogin outcome write).bind fun s => some (s.finish outcome)) =
      some s') : KeptFor user s'.servers s'.defaults := by
  have hkept' : KeptFor user s'.servers s.defaults := hkept.mono hext
  obtain ⟨-, rfl⟩ | ⟨-, _, -, rfl⟩ := lastRequest_cases h
  · exact hkept
  · exact hkept'

/-- A step of a call of this user keeps what `NSUserDefaults` holds that way. -/
theorem keptFor_proceed (huser : ∀ call ∈ callOf s.stage, SameUser user call.toPushHandler)
    (hlinked : Linked s) (hown' : OwnStage s'.servers s'.stage) (huses : UsesOwnSid s')
    (h : proceed s outcome newSid = some s') : KeptFor user s'.servers s'.defaults := by
  have hext := extends_proceed h
  unfold Linked at hlinked
  cases stepped_of_proceed h with
  | getAccountSid hstage =>
    -- The first stages cache what the servers answer for this user.
    rw [hstage] at huser
    exact keptFor_getAccountSid hkept (huser _ rfl)
  | getClientSid hstage =>
    rw [hstage] at huser
    exact keptFor_getClientSid hkept (huser _ rfl) huses
  | getApplicationSid hstage h =>
    rw [hstage] at huser
    exact keptFor_getApplicationSid hkept (huser _ rfl) h
  | createApplication hstage h =>
    rw [hstage] at huser
    exact keptFor_createApplication hkept (huser _ rfl) hext hown' h
  | getCredentialsSid hstage h =>
    rw [hstage] at huser
    exact keptFor_getCredentialsSid hkept (huser _ rfl) h
  | createCredentials hstage h =>
    rw [hstage] at huser hlinked
    exact keptFor_createCredentials hkept (huser _ rfl) hext hlinked h
  -- The last stages cache nothing.
  | checkBinding hstage => exact keptFor_checkBinding hkept
  | updateBinding hstage h => exact keptFor_lastRequest hkept hext h
  | createBinding hstage h => exact keptFor_lastRequest hkept hext h

end Step

/-! ### Runs -/

/-- The invariant of the runs of one user. -/
structure OneUserInv (user : PushHandler) (s : PushState) : Prop where
  linked : Linked s
  own : OwnStage s.servers s.stage
  kept : KeptFor user s.servers s.defaults
  sameUser : ∀ call ∈ callOf s.stage, SameUser user call.toPushHandler

/-- One step of the calls of one user. -/
theorem oneUserInv_step {input : PushInput}
    (hinput : ∀ handler, input = .registerDevice handler → SameUser user handler)
    (hinv : OneUserInv user s) (h : pushStep s input = some s') :
    OneUserInv user s' ∧ UsesOwnSid s' := by
  obtain ⟨hiff, hnext⟩ := stepsOwn_step hinv.linked hinv.own h
  -- What is cached for the user is not stale, so the step uses the user's own sid.
  have huses : UsesOwnSid s' :=
    hiff.mpr (notStale_of_keptFor hinv.kept hinv.sameUser hinv.own)
  refine ⟨⟨linked_step hinv.linked h, hnext huses, ?_, ?_⟩, huses⟩
  · cases input with
    -- A registration is started by the same user, and touches no cache.
    | registerDevice handler =>
      obtain ⟨hdefaults, hservers, -⟩ := registerDevice_eq h
      rw [hdefaults, hservers]
      exact hinv.kept
    | proceed outcome newSid =>
      exact keptFor_proceed hinv.kept hinv.sameUser hinv.linked (hnext huses) huses h
  · cases input with
    | registerDevice handler =>
      obtain ⟨-, -, -, -, hidle | ⟨call, hcall, hstage⟩⟩ := registerDevice_eq h
      · rw [hidle]
        intro call hcall
        -- The stage works for the handler that started it.
        cases hcall
      · rw [hstage]
        intro call' hcall'
        cases hcall'
        rw [hcall]
        exact hinput handler rfl
    | proceed outcome newSid =>
      intro call hcall
      exact hinv.sameUser call (callOf_proceed h call hcall)

end OneUser

/-- On a phone with one user, every call uses the sids of its own parameters. -/
theorem usesOwnSids_of_sameUser (user : PushHandler) (servers : Servers)
    (inputs : List PushInput)
    (huser : ∀ handler, .registerDevice handler ∈ inputs → SameUser user handler) :
    AllSteps pushStep (fun _ _ s' => UsesOwnSid s') { servers := servers } inputs := by
  have hinputs : AllSteps pushStep
      (fun _ input _ => ∀ handler, input = .registerDevice handler → SameUser user handler)
      { servers := servers } inputs := by
    apply AllSteps.of_inputs
    intro input hmem handler heq
    subst heq
    exact huser handler hmem
  refine AllSteps.of_inv (OneUserInv user) ?_ ?_ hinputs
  · intro s input s' hinv hs hinput
    exact oneUserInv_step hinput hinv hs
  · refine ⟨trivial, trivial, ⟨?_, ?_, ?_, ?_⟩, ?_⟩ <;>
      · intro _ h
        cases h

end RestCommSdk.Proofs
