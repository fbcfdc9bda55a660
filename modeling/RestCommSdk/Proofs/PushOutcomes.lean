import RestCommSdk.Proofs.PushCallbacks

/-!
# `RestCommSdk.Proofs.PushOutcomes`: how a step of the push registration ends well

A method of the push handler can throw, and it can fail with other entries than it began with.
`AccountOutcome`, `ClientOutcome`, `ApplicationOutcome` and `CredentialsOutcome` are the cases in
which it does neither, as conditions on the handler, the answers and the entries before it. Each has
its `_iff` lemma.
-/

set_option autoImplicit false

namespace RestCommSdk.Proofs

open RestCommSdk.CliInterface (CString)
open RestCommSdk.Push (Object)
open RestCommSdk.Push.Dynamic

/-! ### The outcomes -/

/-- The method comes to this, and has not touched the entries when there is no sid. -/
def Keeps (result : UserDefaults → Result) (d : UserDefaults) (sid : Option Object)
    (d' : UserDefaults) : Prop :=
  result d = some (sid, d') ∧ (sid = none → d' = d)

section Outcomes
variable (foundation : Foundation) (handler : PushHandler) (answers : Answers) (d : UserDefaults)

/-- The account sid is in the entries, the request comes to nothing, or the answer is a dictionary.
What is in there is taken over, which must be possible, and must change nothing if it is no sid. -/
inductive AccountOutcome : Option Object → UserDefaults → Prop
  | saved (hsaved : isSaved d.accountSid = some true) : AccountOutcome d.accountSid d
  | refused (hsaved : isSaved d.accountSid = some false)
    (hdeclined : Declined (accountSidRequest foundation handler) answers.account) :
    AccountOutcome none d
  | answered {accountSid : Option Object} (hsaved : isSaved d.accountSid = some false)
    (hgiven : Given (accountSidRequest foundation handler) answers.account accountSid)
    (hentry : ∀ sid ∈ accountSid, sid.isPropertyList)
    (hkept : accountSid = none → d.accountSid = none) :
    AccountOutcome accountSid { d with accountSid }

/-- The client sid is in the entries, the request comes to nothing, or the answer is a list that can
be searched. -/
inductive ClientOutcome (accountSid : Object) : Option Object → UserDefaults → Prop
  | saved (hsaved : isSaved d.clientSid = some true) : ClientOutcome accountSid d.clientSid d
  | refused (hsaved : isSaved d.clientSid = some false)
    (hdeclined : Declined (clientSidRequest foundation handler accountSid) answers.client) :
    ClientOutcome accountSid none d
  | answered {clientSid : Option Object} (hsaved : isSaved d.clientSid = some false)
    (hlisted : GivenInList (clientSidRequest foundation handler accountSid) answers.client
      (isLogin handler.signalingUsername) clientSid)
    (hentry : ∀ sid ∈ clientSid, sid.isPropertyList)
    (hkept : clientSid = none → d.clientSid = none) :
    ClientOutcome accountSid clientSid { d with clientSid }

/-- The entry can be read, and holds no application with the sandbox flag. -/
def NoApplication : Prop :=
  ∃ saved, unarchive d.application = some saved ∧
    ∀ application ∈ saved, application.sandbox ≠ handler.sandbox

/-- The list of the applications can be searched, and comes to this. -/
def ApplicationListed (found : Option RCApplication) : Prop :=
  GivenInList (applicationRequest foundation handler) answers.application
    (isNamed handler.friendlyName handler.sandbox) found

/-- The application is in the entries, the request comes to nothing, the application is on the
server, or it is created there. An application without a sid must be in the entries already, and so
must the archive of `nil` when none is created. -/
inductive ApplicationOutcome : Option Object → UserDefaults → Prop
  | saved {application : RCApplication}
    (hsaved : unarchive d.application = some (some application))
    (hsandbox : application.sandbox = handler.sandbox) : ApplicationOutcome application.sid d
  | refused (hsaved : NoApplication handler d)
    (hdeclined : Declined (applicationRequest foundation handler) answers.application) :
    ApplicationOutcome none d
  | found {application : RCApplication} (hsaved : NoApplication handler d)
    (hlisted : ApplicationListed foundation handler answers (some application))
    (hkept : application.sid = none → d.application = some (.object application)) :
    ApplicationOutcome application.sid { d with application := some (.object application) }
  | uncreated {error : PushError} (hsaved : NoApplication handler d)
    (hlisted : ApplicationListed foundation handler answers none)
    (hname : handler.friendlyName.isSome)
    (hrefused : Refused (newApplicationRequest foundation handler (appToSend handler))
      answers.createApplication error)
    (hkept : d.application = some .nil) : ApplicationOutcome none d
  | created {application : RCApplication} (hsaved : NoApplication handler d)
    (hlisted : ApplicationListed foundation handler answers none)
    (hname : handler.friendlyName.isSome)
    (hgiven : Given (newApplicationRequest foundation handler (appToSend handler))
      answers.createApplication (some application))
    (hkept : application.sid = none → d.application = some (.object application)) :
    ApplicationOutcome application.sid { d with application := some (.object application) }

/-- The entry can be read, and holds no credentials of the application. -/
def NoCredentials (applicationSid : Object) : Prop :=
  ∃ saved, unarchive d.credentials = some saved ∧ ∀ credentials ∈ saved,
    Object.isEqualToString credentials.applicationSid (some applicationSid) = some false

/-- The files can be read, and the application sid can be written next to them. -/
def CredentialsToSend (applicationSid : Object) : Prop :=
  handler.base64Certificate.isSome ∧ handler.base64PrivateKey.isSome ∧ applicationSid.isJSON

/-- The list of the credentials can be searched for an application, and comes to this. -/
def CredentialsListed (application : Option RCApplication) (found : Option RCCredentials) : Prop :=
  GivenInList (credentialsRequest foundation handler application) answers.credentials
    (isFor application) found

/-- The same for the credentials, but a request that does not come through changes nothing. -/
inductive CredentialsOutcome (applicationSid : Object) : Option Object → UserDefaults → Prop
  | saved {credentials : RCCredentials}
    (hsaved : unarchive d.credentials = some (some credentials))
    (hsid : Object.isEqualToString credentials.applicationSid (some applicationSid) = some true) :
    CredentialsOutcome applicationSid credentials.sid d
  | refused {application : Option RCApplication} (hsaved : NoCredentials d applicationSid)
    (happlication : unarchive d.application = some application)
    (hdeclined : Declined (credentialsRequest foundation handler application)
      answers.credentials) : CredentialsOutcome applicationSid none d
  | found {application : Option RCApplication} {credentials : RCCredentials}
    (hsaved : NoCredentials d applicationSid)
    (happlication : unarchive d.application = some application)
    (hlisted : CredentialsListed foundation handler answers application (some credentials))
    (hkept : credentials.sid = none → d.credentials = some (.object credentials)) :
    CredentialsOutcome applicationSid credentials.sid
      { d with credentials := some (.object credentials) }
  | uncreated {application : Option RCApplication} (hsaved : NoCredentials d applicationSid)
    (happlication : unarchive d.application = some application)
    (hlisted : CredentialsListed foundation handler answers application none)
    (hsend : CredentialsToSend handler applicationSid)
    (hdeclined : Declined (newCredentialsRequest foundation handler
      (credentialsToSend handler applicationSid)) answers.createCredentials) :
    CredentialsOutcome applicationSid none d
  | created {application : Option RCApplication} {credentials : RCCredentials}
    (hsaved : NoCredentials d applicationSid)
    (happlication : unarchive d.application = some application)
    (hlisted : CredentialsListed foundation handler answers application none)
    (hsend : CredentialsToSend handler applicationSid)
    (hgiven : Given (newCredentialsRequest foundation handler
      (credentialsToSend handler applicationSid)) answers.createCredentials (some credentials))
    (hkept : credentials.sid = none → d.credentials = some (.object credentials)) :
    CredentialsOutcome applicationSid credentials.sid
      { d with credentials := some (.object credentials) }

end Outcomes

section OutcomesIff
variable {foundation : Foundation} {handler : PushHandler} {answers : Answers}
  {d d' : UserDefaults} {sid : Option Object}

/-- `nil` and property lists can be stored. -/
theorem setObject_eq_some_iff {entry : Option Object} :
    setObject sid = some entry ↔ entry = sid ∧ ∀ s ∈ sid, s.isPropertyList := by
  have hswap : some sid = some entry ↔ entry = sid := by rw [Option.some_inj, eq_comm]
  cases sid with
  | none =>
    rw [show setObject none = some none from rfl, hswap]
    simp
  | some s =>
    by_cases hs : s.isPropertyList = true
    · rw [setObject, if_pos hs, hswap]
      simp [hs]
    · rw [setObject, if_neg hs]
      simp [hs]

/-- What `sidResult` comes to: the sid that is saved, nothing, or what the request comes to. -/
theorem sidResult_eq_some_iff {saved : Option Object}
    {answer : Option (Except PushError (Option Object))} {put : Option Object → UserDefaults} :
    sidResult saved answer put d = some (sid, d') ↔
      (isSaved saved = some true ∧ sid = saved ∧ d' = d) ∨
        (isSaved saved = some false ∧ (∃ error, answer = some (.error error) ∧
          readsArguments error.localizedDescription = false) ∧ sid = none ∧ d' = d) ∨
        (isSaved saved = some false ∧ answer = some (.ok sid) ∧ (∀ s ∈ sid, s.isPropertyList) ∧
          d' = put sid) := by
  constructor
  · intro h
    obtain ⟨yes, hsaved, h⟩ := Option.bind_eq_some_iff.mp h
    -- A saved sid is handed on as it is.
    cases yes with
    | true =>
      cases h
      exact Or.inl ⟨hsaved, rfl, rfl⟩
    | false =>
      obtain ⟨result, hresult, h⟩ := Option.bind_eq_some_iff.mp h
      cases result with
      | error error =>
        -- The error is logged, so its text must be no format with arguments.
        obtain ⟨_, hline, h⟩ := Option.bind_eq_some_iff.mp h
        cases h
        exact Or.inr (Or.inl ⟨hsaved, ⟨error, hresult, rcLog_eq_some_iff.mp hline⟩, rfl, rfl⟩)
      | ok object =>
        -- Only a property list can be saved.
        obtain ⟨entry, hset, h⟩ := Option.bind_eq_some_iff.mp h
        obtain ⟨rfl, hentry⟩ := setObject_eq_some_iff.mp hset
        cases h
        exact Or.inr (Or.inr ⟨hsaved, hresult, hentry, rfl⟩)
  · rintro (⟨hsaved, rfl, rfl⟩ | ⟨hsaved, ⟨error, hresult, hline⟩, rfl, rfl⟩ |
      ⟨hsaved, hresult, hentry, rfl⟩)
    · simp [sidResult, hsaved]
    · simp [sidResult, hsaved, hresult, rcLog_eq_some_iff.mpr hline]
    · simp [sidResult, hsaved, hresult, setObject_eq_some_iff.mpr ⟨rfl, hentry⟩]

/-- The outcomes of the first step are those of the function. -/
theorem accountOutcome_iff :
    AccountOutcome foundation handler answers d sid d' ↔
      Keeps (accountResult foundation handler answers) d sid d' := by
  simp only [Keeps, accountResult, sidResult_eq_some_iff, dictionaryAnswer_error_iff,
    dictionaryAnswer_ok_iff]
  constructor
  · intro h
    cases h with
    | saved hsaved => exact ⟨Or.inl ⟨hsaved, rfl, rfl⟩, fun _ => rfl⟩
    | refused hsaved hdeclined =>
      exact ⟨Or.inr (Or.inl ⟨hsaved, hdeclined, rfl, rfl⟩), fun _ => rfl⟩
    -- When nil was answered, what is saved stays the same.
    | answered hsaved hgiven hentry hkept =>
      refine ⟨Or.inr (Or.inr ⟨hsaved, hgiven, hentry, rfl⟩), fun hnone => ?_⟩
      rw [hnone, ← hkept hnone]
  · rintro ⟨⟨hsaved, rfl, rfl⟩ | ⟨hsaved, hdeclined, rfl, rfl⟩ | ⟨hsaved, hgiven, hentry, rfl⟩,
      hkeep⟩
    · exact .saved hsaved
    · exact .refused hsaved hdeclined
    · refine .answered hsaved hgiven hentry fun hnone => ?_
      rw [← congrArg UserDefaults.accountSid (hkeep hnone)]
      exact hnone

/-- The outcomes of the second step are those of the function. -/
theorem clientOutcome_iff {accountSid : Object} :
    ClientOutcome foundation handler answers d accountSid sid d' ↔
      Keeps (clientResult foundation handler answers accountSid) d sid d' := by
  simp only [Keeps, clientResult, sidResult_eq_some_iff, listAnswer_error_iff, listAnswer_ok_iff]
  constructor
  · intro h
    cases h with
    | saved hsaved => exact ⟨Or.inl ⟨hsaved, rfl, rfl⟩, fun _ => rfl⟩
    | refused hsaved hdeclined =>
      exact ⟨Or.inr (Or.inl ⟨hsaved, hdeclined, rfl, rfl⟩), fun _ => rfl⟩
    -- When nil was answered, what is saved stays the same.
    | answered hsaved hlisted hentry hkept =>
      refine ⟨Or.inr (Or.inr ⟨hsaved, hlisted, hentry, rfl⟩), fun hnone => ?_⟩
      rw [hnone, ← hkept hnone]
  · rintro ⟨⟨hsaved, rfl, rfl⟩ | ⟨hsaved, hdeclined, rfl, rfl⟩ | ⟨hsaved, hlisted, hentry, rfl⟩,
      hkeep⟩
    · exact .saved hsaved
    · exact .refused hsaved hdeclined
    · refine .answered hsaved hlisted hentry fun hnone => ?_
      rw [← congrArg UserDefaults.clientSid (hkeep hnone)]
      exact hnone

/-- No application of this kind was kept. -/
theorem noApplication_iff :
    NoApplication handler d ↔ ∃ saved, unarchive d.application = some saved ∧
      saved.filter (·.sandbox = handler.sandbox) = none := by
  simp [NoApplication, Option.filter_eq_none_iff]

/-- What `createdApplicationResult` comes to, when it does not throw. -/
theorem createdApplicationResult_eq_some_iff {r : Option Object × UserDefaults} :
    createdApplicationResult foundation handler answers d = some r ↔
      handler.friendlyName.isSome ∧
        ((∃ error, Refused (newApplicationRequest foundation handler (appToSend handler))
            answers.createApplication error ∧ r = applicationKept d none) ∨
          ∃ application, Given (newApplicationRequest foundation handler (appToSend handler))
            answers.createApplication (some application) ∧
            r = applicationKept d (some application)) := by
  have hwrite : canWrite [handler.friendlyName.map .string] = handler.friendlyName.isSome := by
    cases handler.friendlyName with
    | none => rfl
    | some name => rfl
  rw [createdApplicationResult, hwrite]
  -- Without a name the request raises.
  cases handler.friendlyName.isSome with
  | false => simp
  | true =>
    simp only [if_true, true_and]
    constructor
    · intro h
      obtain ⟨result, hresult, rfl⟩ := Option.map_eq_some_iff.mp h
      cases result with
      | error error => exact Or.inl ⟨error, dictionaryAnswer_error_iff.mp hresult, rfl⟩
      | ok object =>
        have hgiven := dictionaryAnswer_ok_iff.mp hresult
        -- A request for one object never answers nil.
        cases object with
        | none => exact absurd hgiven (not_given_none rfl)
        | some application => exact Or.inr ⟨application, hgiven, rfl⟩
    · rintro (⟨error, hrefused, rfl⟩ | ⟨application, hgiven, rfl⟩)
      · rw [dictionaryAnswer_error_iff.mpr hrefused]
        rfl
      · rw [dictionaryAnswer_ok_iff.mpr hgiven]
        rfl

/-- What the list of the applications comes to, when the entry holds none that will do. -/
theorem applicationResult_of_noApplication (hsaved : NoApplication handler d) :
    applicationResult foundation handler answers d =
      (listAnswer (applicationRequest foundation handler) answers.application
        (isNamed handler.friendlyName handler.sandbox)).bind fun result =>
          match result with
          | .error error => (rcLog error.localizedDescription).bind fun _ => some (none, d)
          | .ok (some application) => some (applicationKept d (some application))
          | .ok none => createdApplicationResult foundation handler answers d := by
  obtain ⟨saved, hsaved, hfilter⟩ := noApplication_iff.mp hsaved
  simp only [applicationResult, hsaved, hfilter, bind, Option.bind_some]
  rfl

/-- The outcomes of the third step are those of the function. -/
theorem applicationOutcome_iff :
    ApplicationOutcome foundation handler answers d sid d' ↔
      Keeps (applicationResult foundation handler answers) d sid d' := by
  constructor
  · intro h
    cases h with
    | saved hsaved hsandbox =>
      exact ⟨by simp [applicationResult, hsaved, hsandbox, Option.filter], fun _ => rfl⟩
    | refused hsaved hdeclined =>
      obtain ⟨error, hrefused, hline⟩ := hdeclined
      refine ⟨?_, fun _ => rfl⟩
      rw [applicationResult_of_noApplication hsaved, listAnswer_error_iff.mpr hrefused]
      simp [rcLog_eq_some_iff.mpr hline]
    -- One of the list matches, and it is saved.
    | found hsaved hlisted hkept =>
      refine ⟨?_, fun hnone => by rw [← hkept hnone]⟩
      rw [applicationResult_of_noApplication hsaved, listAnswer_ok_iff.mpr hlisted]
      rfl
    -- None matches, and the server refuses to create one.
    | uncreated hsaved hlisted hname hrefused hkept =>
      refine ⟨?_, fun _ => rfl⟩
      rw [applicationResult_of_noApplication hsaved, listAnswer_ok_iff.mpr hlisted]
      exact createdApplicationResult_eq_some_iff.mpr
        ⟨hname, Or.inl ⟨_, hrefused, by simp [applicationKept, archive, ← hkept]⟩⟩
    -- None matches, and the created one is saved.
    | @created application hsaved hlisted hname hgiven hkept =>
      refine ⟨?_, fun hnone => by rw [← hkept hnone]⟩
      rw [applicationResult_of_noApplication hsaved, listAnswer_ok_iff.mpr hlisted]
      exact createdApplicationResult_eq_some_iff.mpr
        ⟨hname, Or.inr ⟨application, hgiven, rfl⟩⟩
  · rintro ⟨h, hkeep⟩
    have hentry : sid = none → d.application = d'.application := fun hnone => by rw [hkeep hnone]
    obtain ⟨saved, hsaved, hrest⟩ := Option.bind_eq_some_iff.mp h
    cases hfilter : saved.filter (·.sandbox = handler.sandbox) with
    | some application =>
      rw [hfilter] at hrest
      cases hrest
      obtain ⟨rfl, hsandbox⟩ := Option.filter_eq_some_iff.mp hfilter
      exact .saved hsaved (of_decide_eq_true hsandbox)
    | none =>
      have hsaved := noApplication_iff.mpr ⟨saved, hsaved, hfilter⟩
      rw [applicationResult_of_noApplication hsaved] at h
      obtain ⟨result, hresult, h⟩ := Option.bind_eq_some_iff.mp h
      cases result with
      | error error =>
        obtain ⟨_, hline, h⟩ := Option.bind_eq_some_iff.mp h
        cases h
        exact .refused hsaved
          ⟨error, listAnswer_error_iff.mp hresult, rcLog_eq_some_iff.mp hline⟩
      | ok found =>
        have hlisted := listAnswer_ok_iff.mp hresult
        cases found with
        | some application =>
          cases h
          exact .found hsaved hlisted hentry
        | none =>
          obtain ⟨hname, ⟨error, hrefused, hkept⟩ | ⟨application, hgiven, hkept⟩⟩ :=
            createdApplicationResult_eq_some_iff.mp h
          · cases hkept
            rw [hkeep rfl]
            exact .uncreated hsaved hlisted hname hrefused (hentry rfl)
          · cases hkept
            exact .created hsaved hlisted hname hgiven hentry

/-- Credentials are written if certificate and key are there. -/
theorem canWrite_credentials_iff {applicationSid : Object} :
    canWrite [some applicationSid, some (.string "apn".toList),
        handler.base64Certificate.map .string, handler.base64PrivateKey.map .string] = true ↔
      CredentialsToSend handler applicationSid := by
  have hfile (file : Option CString) :
      (file.map Object.string).any Object.isJSON = file.isSome := by
    cases file with
    | none => rfl
    | some text => rfl
  simp only [canWrite, List.all_cons, List.all_nil, hfile, Option.any_some, CredentialsToSend,
    Object.isJSON, Bool.and_true, Bool.true_and, Bool.and_eq_true]
  tauto

/-- What `createdCredentialsResult` comes to, when it does not throw. -/
theorem createdCredentialsResult_eq_some_iff {applicationSid : Object}
    {r : Option Object × UserDefaults} :
    createdCredentialsResult foundation handler answers applicationSid d = some r ↔
      CredentialsToSend handler applicationSid ∧
        ((Declined (newCredentialsRequest foundation handler
            (credentialsToSend handler applicationSid)) answers.createCredentials ∧
            r = (none, d)) ∨
          ∃ credentials, Given (newCredentialsRequest foundation handler
            (credentialsToSend handler applicationSid)) answers.createCredentials
            (some credentials) ∧ r = credentialsKept d (some credentials)) := by
  rw [createdCredentialsResult, ← canWrite_credentials_iff]
  cases canWrite [some applicationSid, some (.string "apn".toList),
    handler.base64Certificate.map .string, handler.base64PrivateKey.map .string] with
  | false => simp
  | true =>
    simp only [if_true, true_and]
    constructor
    · intro h
      obtain ⟨result, hresult, h⟩ := Option.bind_eq_some_iff.mp h
      cases result with
      | error error =>
        -- The error is logged, so its text must be no format with arguments.
        obtain ⟨_, hline, h⟩ := Option.bind_eq_some_iff.mp h
        cases h
        exact Or.inl
          ⟨⟨error, dictionaryAnswer_error_iff.mp hresult, rcLog_eq_some_iff.mp hline⟩, rfl⟩
      | ok object =>
        have hgiven := dictionaryAnswer_ok_iff.mp hresult
        cases object with
        -- A request for one object never answers nil.
        | none => exact absurd hgiven (not_given_none rfl)
        | some credentials =>
          cases h
          exact Or.inr ⟨credentials, hgiven, rfl⟩
    · rintro (⟨⟨error, hrefused, hline⟩, rfl⟩ | ⟨credentials, hgiven, rfl⟩)
      · rw [dictionaryAnswer_error_iff.mpr hrefused]
        simp [rcLog_eq_some_iff.mpr hline]
      · rw [dictionaryAnswer_ok_iff.mpr hgiven]
        rfl

/-- What `credentialsResult` comes to, when it does not throw: the credentials in the entries, or
what the requests come to. -/
theorem credentialsResult_eq_some_iff {applicationSid : Object} :
    credentialsResult foundation handler answers applicationSid d = some (sid, d') ↔
      (∃ credentials, unarchive d.credentials = some (some credentials) ∧
        Object.isEqualToString credentials.applicationSid (some applicationSid) = some true ∧
        sid = credentials.sid ∧ d' = d) ∨
      (NoCredentials d applicationSid ∧
        askedCredentialsResult foundation handler answers applicationSid d = some (sid, d')) := by
  constructor
  · intro h
    obtain ⟨saved, hsaved, h⟩ := Option.bind_eq_some_iff.mp h
    cases saved with
    -- Nothing is saved, so the server is asked.
    | none => exact Or.inr ⟨⟨none, hsaved, by simp⟩, h⟩
    | some credentials =>
      obtain ⟨usable, husable, h⟩ := Option.bind_eq_some_iff.mp h
      cases usable with
      | true =>
        cases h
        exact Or.inl ⟨credentials, hsaved, husable, rfl, rfl⟩
      | false =>
        -- What is saved is of another application, and the server is asked as well.
        refine Or.inr ⟨⟨some credentials, hsaved, ?_⟩, h⟩
        rintro _ ⟨⟩
        exact husable
  · rintro (⟨credentials, hsaved, hsid, rfl, rfl⟩ | ⟨⟨saved, hsaved, hother⟩, h⟩)
    · simp [credentialsResult, hsaved, hsid]
    · cases saved with
      | none => simpa [credentialsResult, hsaved] using h
      | some credentials => simpa [credentialsResult, hsaved, hother credentials rfl] using h

/-- The outcomes of the fourth step are those of the function. -/
theorem credentialsOutcome_iff {applicationSid : Object} :
    CredentialsOutcome foundation handler answers d applicationSid sid d' ↔
      Keeps (credentialsResult foundation handler answers applicationSid) d sid d' := by
  rw [Keeps, credentialsResult_eq_some_iff]
  constructor
  · intro h
    cases h with
    | @saved credentials hsaved hsid =>
      exact ⟨Or.inl ⟨credentials, hsaved, hsid, rfl, rfl⟩, fun _ => rfl⟩
    | refused hsaved happlication hdeclined =>
      obtain ⟨error, hrefused, hline⟩ := hdeclined
      refine ⟨Or.inr ⟨hsaved, ?_⟩, fun _ => rfl⟩
      simp [askedCredentialsResult, happlication, listAnswer_error_iff.mpr hrefused,
        rcLog_eq_some_iff.mpr hline]
    -- The list holds credentials of the application, and they are saved.
    | found hsaved happlication hlisted hkept =>
      refine ⟨Or.inr ⟨hsaved, ?_⟩, fun hnone => by rw [← hkept hnone]⟩
      simp [askedCredentialsResult, happlication, listAnswer_ok_iff.mpr hlisted, credentialsKept,
        archive]
    -- None is listed, and the server refuses to create them.
    | uncreated hsaved happlication hlisted hsend hdeclined =>
      have hcreate : createdCredentialsResult foundation handler answers applicationSid d =
          some (none, d) :=
        createdCredentialsResult_eq_some_iff.mpr ⟨hsend, Or.inl ⟨hdeclined, rfl⟩⟩
      refine ⟨Or.inr ⟨hsaved, ?_⟩, fun _ => rfl⟩
      simp [askedCredentialsResult, happlication, listAnswer_ok_iff.mpr hlisted, hcreate]
    -- None is listed, and the created ones are saved.
    | @created _ credentials hsaved happlication hlisted hsend hgiven hkept =>
      have hcreate : createdCredentialsResult foundation handler answers applicationSid d =
          some (credentialsKept d (some credentials)) :=
        createdCredentialsResult_eq_some_iff.mpr ⟨hsend, Or.inr ⟨credentials, hgiven, rfl⟩⟩
      refine ⟨Or.inr ⟨hsaved, ?_⟩, fun hnone => by rw [← hkept hnone]⟩
      simp only [askedCredentialsResult, happlication, listAnswer_ok_iff.mpr hlisted, bind,
        Option.bind_some]
      exact hcreate
  · rintro ⟨h, hkeep⟩
    have hentry : sid = none → d.credentials = d'.credentials := fun hnone => by rw [hkeep hnone]
    obtain ⟨credentials, hsaved, hsid, rfl, rfl⟩ | ⟨hsaved, h⟩ := h
    · exact .saved hsaved hsid
    obtain ⟨application, happlication, h⟩ := Option.bind_eq_some_iff.mp h
    obtain ⟨result, hresult, h⟩ := Option.bind_eq_some_iff.mp h
    cases result with
    | error error =>
      obtain ⟨_, hline, h⟩ := Option.bind_eq_some_iff.mp h
      cases h
      exact .refused hsaved happlication
        ⟨error, listAnswer_error_iff.mp hresult, rcLog_eq_some_iff.mp hline⟩
    | ok found =>
      have hlisted := listAnswer_ok_iff.mp hresult
      cases found with
      | some credentials =>
        cases h
        exact .found hsaved happlication hlisted hentry
      | none =>
        obtain ⟨hsend, ⟨hdeclined, hkept⟩ | ⟨credentials, hgiven, hkept⟩⟩ :=
          createdCredentialsResult_eq_some_iff.mp h
        · cases hkept
          exact .uncreated hsaved happlication hlisted hsend hdeclined
        · cases hkept
          exact .created hsaved happlication hlisted hsend hgiven hentry

end OutcomesIff

end RestCommSdk.Proofs
