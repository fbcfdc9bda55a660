import RestCommSdk.Proofs.PushAnswers

/-!
# `RestCommSdk.Proofs.PushCallbacks`: what a method of the push handler comes to

Every method of the push handler that gets a sid calls its completion handler at most once. So it
comes to a sid and to entries of `NSUserDefaults`, or it throws. The `callsBack` lemmas say so, one
for each method.
-/

set_option autoImplicit false

namespace RestCommSdk.Proofs

open RestCommSdk.CliInterface (CString)
open RestCommSdk.Push (Object)
open RestCommSdk.Push.Dynamic

/-! ### What the methods come to -/

/-- What a method comes to: a sid, and the entries of `NSUserDefaults`. -/
abbrev Result := Option (Option Object × UserDefaults)

/-- The method calls its completion handler once, or throws. -/
def CallsBack (method : (Option Object → Rest) → Rest) (result : UserDefaults → Result) : Prop :=
  ∀ completionHandler d, method completionHandler { defaults := d } =
    (result d).bind fun r => completionHandler r.1 { defaults := r.2 }

section Results
variable (foundation : Foundation) (handler : PushHandler) (answers : Answers)

/-- How `getAccountSid` and `getClientSid` ask for a sid: what the entries hold, what the request
comes to, and how it is kept. -/
def sidResult (saved : Option Object) (answer : Option (Except PushError (Option Object)))
    (put : Option Object → UserDefaults) (d : UserDefaults) : Result := do
  if ← isSaved saved then return (saved, d)
  else
    match ← answer with
    | .error error =>
      rcLog error.localizedDescription
      return (none, d)
    | .ok sid =>
      let entry ← setObject sid
      return (sid, put entry)

/-- `getAccountSidWithCompletionHandler:` -/
def accountResult (d : UserDefaults) : Result :=
  sidResult d.accountSid (dictionaryAnswer (accountSidRequest foundation handler) answers.account)
    (fun entry => { d with accountSid := entry }) d

/-- `getClientSidForAccountSid:andWithCompletionHandler:` -/
def clientResult (accountSid : Object) (d : UserDefaults) : Result :=
  sidResult d.clientSid
    (listAnswer (clientSidRequest foundation handler accountSid) answers.client
      (isLogin handler.signalingUsername))
    (fun entry => { d with clientSid := entry }) d

/-- What is archived and handed over for an application. -/
def applicationKept (d : UserDefaults) (application : Option RCApplication) :
    Option Object × UserDefaults :=
  (application.bind (·.sid), { d with application := some (archive application) })

/-- The object of an answer, when the error is not looked at. -/
def objectOf {α : Type} : Except PushError (Option α) → Option α
  | .error _ => none
  | .ok object => object

/-- The end of `getApplicationSidWithCompletionHandler:` when an application is created. -/
def createdApplicationResult (d : UserDefaults) : Result :=
  if canWrite [handler.friendlyName.map .string] then
    (dictionaryAnswer (newApplicationRequest foundation handler (appToSend handler))
      answers.createApplication).map fun result => applicationKept d (objectOf result)
  else none

/-- `getApplicationSidWithCompletionHandler:` -/
def applicationResult (d : UserDefaults) : Result := do
  let saved ← unarchive d.application
  match saved.filter (·.sandbox = handler.sandbox) with
  | some application => return (application.sid, d)
  | none =>
    match ← listAnswer (applicationRequest foundation handler) answers.application
        (isNamed handler.friendlyName handler.sandbox) with
    | .error error =>
      rcLog error.localizedDescription
      return (none, d)
    | .ok (some application) => return applicationKept d (some application)
    | .ok none => createdApplicationResult foundation handler answers d

/-- What is archived and handed over for credentials. -/
def credentialsKept (d : UserDefaults) (credentials : Option RCCredentials) :
    Option Object × UserDefaults :=
  (credentials.bind (·.sid), { d with credentials := some (archive credentials) })

/-- The end of `getCredentialsSid:andWithCompletionHandler:` when credentials are created. -/
def createdCredentialsResult (applicationSid : Object) (d : UserDefaults) : Result :=
  if canWrite [some applicationSid, some (.string "apn".toList),
      handler.base64Certificate.map .string, handler.base64PrivateKey.map .string] then do
    match ← dictionaryAnswer (newCredentialsRequest foundation handler
        (credentialsToSend handler applicationSid)) answers.createCredentials with
    | .error error =>
      rcLog error.localizedDescription
      return (none, d)
    | .ok credentials => return credentialsKept d credentials
  else none

/-- Its middle, when the credentials are not in the entries. -/
def askedCredentialsResult (applicationSid : Object) (d : UserDefaults) : Result := do
  let application ← unarchive d.application
  match ← listAnswer (credentialsRequest foundation handler application) answers.credentials
      (isFor application) with
  | .error error =>
    rcLog error.localizedDescription
    return (none, d)
  | .ok (some credentials) => return credentialsKept d (some credentials)
  | .ok none => createdCredentialsResult foundation handler answers applicationSid d

/-- `getCredentialsSid:andWithCompletionHandler:` -/
def credentialsResult (applicationSid : Object) (d : UserDefaults) : Result := do
  let saved ← unarchive d.credentials
  let usable ← match saved with
    | some credentials => Object.isEqualToString credentials.applicationSid (some applicationSid)
    | none => some false
  if usable then return (saved.bind (·.sid), d)
  else askedCredentialsResult foundation handler answers applicationSid d

end Results

/-! ### The methods call back -/

section CallsBack
variable (foundation : Foundation) (handler : PushHandler) (answers : Answers)

/-- The first step calls back once, with what it has. -/
theorem callsBack_getAccountSid :
    CallsBack (getAccountSid foundation handler answers)
      (accountResult foundation handler answers) := by
  intro k d
  simp only [getAccountSid, getAccountSidWithRequest, accountResult, sidResult,
    dictionaryRequest_eq]
  -- An entry that is no text makes the test raise.
  cases isSaved d.accountSid with
  | none => rfl
  | some saved =>
    cases saved with
    -- A saved sid is handed on without a request.
    | true => rfl
    | false =>
      cases dictionaryAnswer (accountSidRequest foundation handler) answers.account with
      | none => rfl
      | some result =>
        cases result with
        -- The error is logged, and nil is handed on.
        | error error => simp [deliver, Option.bind_assoc]
        -- What was answered is saved and handed on.
        | ok sid => simp [deliver, Option.bind_assoc]

/-- The second step calls back once, with what it has. -/
theorem callsBack_getClientSid (accountSid : Object) :
    CallsBack (getClientSid foundation handler answers accountSid)
      (clientResult foundation handler answers accountSid) := by
  intro k d
  simp only [getClientSid, getClientSidWithAccountSid, clientResult, sidResult, listRequest_eq]
  cases isSaved d.clientSid with
  -- An entry that is no text makes the test raise.
  | none => rfl
  | some saved =>
    cases saved with
    -- A saved sid is handed on without a request.
    | true => rfl
    | false =>
      cases listAnswer (clientSidRequest foundation handler accountSid) answers.client
        (isLogin handler.signalingUsername) with
      | none => rfl
      | some result =>
        -- The error is logged, and nil is handed on.
        cases result with
        | error error => simp [deliver, Option.bind_assoc]
        | ok sid => simp [deliver, Option.bind_assoc]

/-- The request that makes an application, with what `getApplicationSid` does behind it. -/
theorem createApplicationRequest_eq (k : Option Object → Rest) (d : UserDefaults) :
    createApplicationRequest foundation handler (appToSend handler) answers.createApplication
      (fun application _ run => k (application.bind (·.sid))
        { run with defaults.application := some (archive application) }) { defaults := d } =
      (createdApplicationResult foundation handler answers d).bind
        fun r => k r.1 { defaults := r.2 } := by
  have hname : (appToSend handler).friendlyName = handler.friendlyName.map .string := rfl
  unfold createApplicationRequest createdApplicationResult
  rw [hname]
  cases canWrite [handler.friendlyName.map .string] with
  -- Without a name the body cannot be written, and the request raises.
  | false => rfl
  | true =>
    simp only [if_true, dictionaryRequest_eq]
    cases dictionaryAnswer (newApplicationRequest foundation handler (appToSend handler))
      answers.createApplication with
    | none => rfl
    | some result =>
      cases result with
      -- The completion block ignores the error and archives nil.
      | error error => rfl
      | ok application => rfl

/-- The third step calls back once, with what it has. -/
theorem callsBack_getApplicationSid :
    CallsBack (getApplicationSid foundation handler answers)
      (applicationResult foundation handler answers) := by
  intro k d
  simp only [getApplicationSid, getApplicationForFriendlyName, applicationResult, listRequest_eq]
  cases unarchive d.application with
  | none => rfl
  | some saved =>
    simp only [Option.bind_some, bind]
    cases saved.filter (·.sandbox = handler.sandbox) with
    -- The saved application is of this sandbox, and its sid is handed on.
    | some application => rfl
    | none =>
      cases hanswer : listAnswer (applicationRequest foundation handler) answers.application
        (isNamed handler.friendlyName handler.sandbox) with
      | none => rfl
      | some result =>
        -- The error is logged, and nil is handed on.
        cases result with
        | error error => simp [deliver, Option.bind_assoc]
        | ok found =>
          cases found with
          -- None has the name, so an application is created.
          | none => exact createApplicationRequest_eq foundation handler answers k d
          | some application =>
            -- The application found is saved, and it is of this sandbox.
            have hsandbox := sandbox_of_givenInList (listAnswer_ok_iff.mp hanswer)
            simp [deliver, hsandbox, Option.filter, applicationKept]

/-- The request that makes credentials, with what `getCredentialsSid` does behind it. -/
theorem createCredentialsRequest_eq (applicationSid : Object) (k : Option Object → Rest)
    (d : UserDefaults) :
    createCredentialsRequest foundation handler (credentialsToSend handler applicationSid)
      answers.createCredentials
      (fun credentials error run =>
        match error with
        | some error => do
          rcLog error.localizedDescription
          k none run
        | none =>
          k (credentials.bind (·.sid))
            { run with defaults.credentials := some (archive credentials) }) { defaults := d } =
      (createdCredentialsResult foundation handler answers applicationSid d).bind
        fun r => k r.1 { defaults := r.2 } := by
  -- The four members that the body is written from.
  have hmembers : [(credentialsToSend handler applicationSid).applicationSid,
      (credentialsToSend handler applicationSid).credentialType,
      (credentialsToSend handler applicationSid).certificate,
      (credentialsToSend handler applicationSid).privateKey] =
      [some applicationSid, some (.string "apn".toList),
        handler.base64Certificate.map .string, handler.base64PrivateKey.map .string] := rfl
  unfold createCredentialsRequest createdCredentialsResult
  rw [hmembers]
  cases canWrite [some applicationSid, some (.string "apn".toList),
    handler.base64Certificate.map .string, handler.base64PrivateKey.map .string] with
  | false => rfl
  | true =>
    simp only [if_true, dictionaryRequest_eq]
    cases dictionaryAnswer (newCredentialsRequest foundation handler
      (credentialsToSend handler applicationSid)) answers.createCredentials with
    | none => rfl
    | some result =>
      cases result with
      -- The error is logged, and nil is handed on.
      | error error => simp [deliver, Option.bind_assoc]
      | ok credentials => rfl

/-- The request for credentials, with what `getCredentialsSid` does behind it. -/
theorem getCredentialsForApplication_eq (applicationSid : Object) (k : Option Object → Rest)
    (d : UserDefaults) :
    ((unarchive d.application).bind fun application =>
      getCredentialsForApplication foundation handler application answers.credentials
        (fun credentials error run =>
          match error with
          | some error => do
            rcLog error.localizedDescription
            k none run
          | none =>
            match credentials with
            | some credentials =>
              k credentials.sid
                { run with defaults.credentials := some (archive (some credentials)) }
            | none =>
              createCredentialsRequest foundation handler (credentialsToSend handler applicationSid)
                answers.createCredentials
                (fun credentials error run =>
                  match error with
                  | some error => do
                    rcLog error.localizedDescription
                    k none run
                  | none =>
                    k (credentials.bind (·.sid))
                      { run with defaults.credentials := some (archive credentials) }) run)
        { defaults := d }) =
      (askedCredentialsResult foundation handler answers applicationSid d).bind
        fun r => k r.1 { defaults := r.2 } := by
  simp only [askedCredentialsResult]
  cases unarchive d.application with
  -- The saved application cannot be unarchived.
  | none => rfl
  | some application =>
    simp only [getCredentialsForApplication, listRequest_eq, Option.bind_some, bind]
    cases listAnswer (credentialsRequest foundation handler application) answers.credentials
      (isFor application) with
    | none => rfl
    | some result =>
      cases result with
      | error error => simp [deliver, Option.bind_assoc]
      | ok found =>
        cases found with
        -- The server has none for this application, so credentials are created.
        | none => exact createCredentialsRequest_eq foundation handler answers applicationSid k d
        | some credentials => rfl

/-- The fourth step calls back once, with what it has. -/
theorem callsBack_getCredentialsSid (applicationSid : Object) :
    CallsBack (getCredentialsSid foundation handler answers applicationSid)
      (credentialsResult foundation handler answers applicationSid) := by
  intro k d
  simp only [getCredentialsSid, credentialsResult]
  cases unarchive d.credentials with
  | none => rfl
  | some saved =>
    cases saved with
    -- Nothing is saved, so the server is asked.
    | none => exact getCredentialsForApplication_eq foundation handler answers applicationSid k d
    | some credentials =>
      simp only [Option.bind_some, bind]
      -- The saved credentials are compared by their application alone.
      cases Object.isEqualToString credentials.applicationSid (some applicationSid) with
      | none => rfl
      | some usable =>
        cases usable with
        | true => rfl
        -- They are of another application, so the server is asked as well.
        | false =>
          exact getCredentialsForApplication_eq foundation handler answers applicationSid k d

end CallsBack

end RestCommSdk.Proofs
