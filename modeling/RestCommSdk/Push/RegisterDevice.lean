import RestCommSdk.Logging
import RestCommSdk.Push.Objects

/-!
# `RestCommSdk.Push.RegisterDevice`: registering with any answers

`registerDevice` of `PushHandler.m` once more, and the requests of `PushApiManager.m` below it, this
time with whatever the servers answer and whatever `NSUserDefaults` holds. Every method gets what
comes after it as a completion handler, as in the sources. `none` is an exception.

The requests differ in their answers only, which are given: every request of a call is made once
at most. A log line that is put together is the format of its call, so that a `%` in it raises an
exception here as in `RestCommSdk.Logging`. Lines with fixed texts are left out: they have no `%`.

A report is a block on the main queue. What is left of the handler and of its delegate when the
block runs is given with the handler.
-/

set_option autoImplicit false

namespace RestCommSdk.Push.Dynamic

open RestCommSdk.CliInterface (CString)

/-! ### Texts -/

/-- What Foundation puts into a text. -/
structure Foundation where
  /-- The `description` of an object. -/
  description : Object → CString
  /-- `URLWithString:`, and the `description` of the URL. -/
  urlWithString : CString → CString
  /-- `stringByAddingPercentEscapesUsingEncoding:` -/
  addingPercentEscapes : CString → CString
  /-- The `description` of an `NSError` of the client with this localized description. -/
  errorDescription : CString → CString

/-- `%@` of a string. -/
def textOf (string : Option CString) : CString :=
  string.getD "(null)".toList

/-- `%@` of an object. -/
def Foundation.text (foundation : Foundation) : Option Object → CString
  | none => "(null)".toList
  | some (.string text) => text
  | some object => foundation.description object

/-! ### Entries -/

/-- `RCApplication` -/
structure RCApplication where
  sid : Option Object
  friendlyName : Option Object
  sandbox : Bool

/-- `RCCredentials` -/
structure RCCredentials where
  sid : Option Object
  applicationSid : Option Object
  credentialType : Option Object
  certificate : Option Object
  privateKey : Option Object

/-- `RCBinding` -/
structure RCBinding where
  sid : Option Object
  identity : Option Object
  applicationSid : Option Object
  bindingType : Option Object
  address : Option Object

/-- The `initWithDictionary:` of `RCApplication`. -/
def RCApplication.initWithDictionary (dictionary : Object) : Option RCApplication := do
  let sid ← Object.objectForKey "Sid".toList (some dictionary)
  let friendlyName ← Object.objectForKey "FriendlyName".toList (some dictionary)
  let sandbox ← Object.boolValue (← Object.objectForKey "Sandbox".toList (some dictionary))
  return { sid, friendlyName, sandbox }

/-- The `initWithDictionary:` of `RCCredentials`. -/
def RCCredentials.initWithDictionary (dictionary : Object) : Option RCCredentials := do
  let sid ← Object.objectForKey "Sid".toList (some dictionary)
  let applicationSid ← Object.objectForKey "ApplicationSid".toList (some dictionary)
  let credentialType ← Object.objectForKey "CredentialType".toList (some dictionary)
  let certificate ← Object.objectForKey "Certificate".toList (some dictionary)
  let privateKey ← Object.objectForKey "PrivateKey".toList (some dictionary)
  return { sid, applicationSid, credentialType, certificate, privateKey }

/-- The `initWithDictionary:` of `RCBinding`. -/
def RCBinding.initWithDictionary (dictionary : Object) : Option RCBinding := do
  let sid ← Object.objectForKey "Sid".toList (some dictionary)
  let identity ← Object.objectForKey "Identity".toList (some dictionary)
  let applicationSid ← Object.objectForKey "ApplicationSid".toList (some dictionary)
  let bindingType ← Object.objectForKey "BindingType".toList (some dictionary)
  let address ← Object.objectForKey "Address".toList (some dictionary)
  return { sid, identity, applicationSid, bindingType, address }

section Description
variable (foundation : Foundation)

/-- `description` -/
def RCApplication.description (application : RCApplication) : CString :=
  "RCApplication: sid=".toList ++ foundation.text application.sid ++
    " friendlyName=".toList ++ foundation.text application.friendlyName ++
    " sandbox=".toList ++ (if application.sandbox then "YES" else "NO").toList

/-- `description`. It says `RCBinding`. -/
def RCCredentials.description (credentials : RCCredentials) : CString :=
  "RCBinding: sid=".toList ++ foundation.text credentials.sid ++
    " applicationSid=".toList ++ foundation.text credentials.applicationSid ++
    " credentialType=".toList ++ foundation.text credentials.credentialType ++
    " certificate=".toList ++ foundation.text credentials.certificate ++
    " privateKey=".toList ++ foundation.text credentials.privateKey

/-- `description` -/
def RCBinding.description (binding : RCBinding) : CString :=
  "RCBinding: sid=".toList ++ foundation.text binding.sid ++
    " identity=".toList ++ foundation.text binding.identity ++
    " applicationSid=".toList ++ foundation.text binding.applicationSid ++
    " bindingType=".toList ++ foundation.text binding.bindingType ++
    " address=".toList ++ foundation.text binding.address

end Description

/-! ### The state -/

/-- An entry of `NSUserDefaults` that an object is archived in. -/
inductive Archived (α : Type) where
  /-- The archive of `nil`. -/
  | nil
  | object (a : α)
  /-- No archive, or one of an object that is no `α`. -/
  | unreadable

/-- `unarchiveObjectWithData:`, and the first message to what comes out of it. -/
def unarchive {α : Type} : Option (Archived α) → Option (Option α)
  | none | some .nil => some none
  | some (.object a) => some (some a)
  | some .unreadable => none

/-- `archivedDataWithRootObject:` -/
def archive {α : Type} : Option α → Archived α
  | some a => .object a
  | none => .nil

/-- What `NSUserDefaults` holds for the four keys. -/
structure UserDefaults where
  accountSid : Option Object := none
  clientSid : Option Object := none
  application : Option (Archived RCApplication) := none
  credentials : Option (Archived RCCredentials) := none

/-- `setObject:forKey:` of an object. `nil` takes the key away. -/
def setObject : Option Object → Option (Option Object)
  | none => some none
  | some sid => if sid.isPropertyList then some (some sid) else none

/-- `NSError` -/
inductive PushError where
  /-- The request did not come through: the error of the URL session. -/
  | transport (description localizedDescription : CString)
  /-- `getErrorWithDescription:` -/
  | described (description : CString)
  deriving DecidableEq, Repr

/-- `description` -/
def PushError.description (foundation : Foundation) : PushError → CString
  | .transport description _ => description
  | .described text => foundation.errorDescription text

/-- `localizedDescription` -/
def PushError.localizedDescription : PushError → CString
  | .transport _ text | .described text => text

/-- A call of `registerDevice` on its way. -/
structure PushRun where
  defaults : UserDefaults
  /-- The errors that `registeredForPush:` was called with. -/
  reports : List (Option PushError) := []
  /-- History: the server has answered for a binding that was sent, or held it as it is. -/
  bound : Bool := false
  /-- History: the entries when a step began that failed, and when it ended. -/
  failed : List (UserDefaults × UserDefaults) := []

namespace PushRun

/-- `registeredForPush:` -/
def registeredForPush (error : Option PushError) (run : PushRun) : PushRun :=
  { run with reports := run.reports ++ [error] }

/-- History: the step that began with these entries has failed. -/
def fail (start : UserDefaults) (run : PushRun) : PushRun :=
  { run with failed := run.failed ++ [(start, run.defaults)] }

end PushRun

/-- What a completion handler does. -/
abbrev Rest := PushRun → Option PushRun

/-! ### Requests -/

/-- The body of a response. A JSON text is an array or an object. -/
inductive Body where
  /-- `jsonError`, with its `description`. -/
  | notJSON (description : CString)
  | array (elements : List Object)
  | object (members : List (CString × Object))

/-- How a request ends. -/
inductive Answer where
  | failed (description localizedDescription : CString)
  | response (statusCode : Nat) (body : Body)

/-- The text of a log line in a method. -/
def logLine (method : String) (text : CString) : CString :=
  "PushApiManager: ".toList ++ method.toList ++ ' ' :: text

/-- `statusCodeDescription` -/
def statusCodeDescription (statusCode : Nat) : String :=
  if statusCode = 400 then "Bad Request"
  else if statusCode = 401 then "Unauthorized"
  else if statusCode = 403 then "Forbidden"
  else if statusCode = 404 then "Not Found"
  else if statusCode = 500 then "Internal Server Error"
  else if statusCode = 502 then "Bad Gateway"
  else if statusCode = 503 then "Service Unavailable "
  else if statusCode = 504 then "Gateway Timeout"
  else "(null)"

/-- The log line with an error. -/
def errorLine (method : String) (description : CString) : CString :=
  logLine method ("ERROR: ".toList ++ description)

/-- `getApiError:error:method:` -/
def getApiError (method : String) : Answer → Option (Option PushError)
  | .failed description localizedDescription => do
    rcLog (errorLine method description)
    return some (.transport description localizedDescription)
  | .response statusCode _ =>
    if statusCode ≠ 200 then
      return some (.described ("PushApiManager: Http status code diff than 200: ".toList ++
        (statusCodeDescription statusCode).toList))
    else return none

/-- The beginning of every completion handler of a request: the object in the answer, or what the
handler is called with. `what` names the sid in the text of an error. -/
def read (method what : String) (answer : Answer) : Option (Except PushError Object) := do
  match ← getApiError method answer with
  | some error => return .error error
  | none =>
    match answer with
    | .response _ (.array elements) => return .ok (.array elements)
    | .response _ (.object members) => return .ok (.dictionary members)
    | .response _ (.notJSON description) =>
      rcLog (errorLine method description)
      return .error (.described ("Error parsing JSON containing ".toList ++ what.toList))
    -- The error of the session was looked at first.
    | .failed .. => none

/-! #### The tests of the loops -/

/-- A client with this login. -/
def isLogin (signalingUsername : Option CString) (dict : Object) : Option Bool := do
  let login ← Object.objectForKey "login".toList (some dict)
  Object.isEqualToString (signalingUsername.map .string) login

/-- An application with this name and sandbox flag. -/
def isNamed (friendlyName : Option CString) (sandbox : Bool) (dict : Object) : Option Bool := do
  let name ← Object.objectForKey "FriendlyName".toList (some dict)
  if ← Object.isEqualToString (friendlyName.map .string) name then
    let flag ← Object.boolValue (← Object.objectForKey "Sandbox".toList (some dict))
    return flag = sandbox
  else return false

/-- An entry for the application. -/
def isFor (application : Option RCApplication) (dict : Object) : Option Bool := do
  let applicationSid ← Object.objectForKey "ApplicationSid".toList (some dict)
  Object.isEqualToString (application.bind (·.sid)) applicationSid

/-! #### The requests -/

/-- The handler, as far as its parameters are looked at in the App. -/
structure PushHandler where
  signalingUsername : Option CString := none
  friendlyName : Option CString := none
  rescommAccountEmail : Option CString := none
  /-- `pushDomainUrl` of the API manager. -/
  pushDomain : Option CString := none
  /-- `accountDomainUrl` of the API manager. -/
  httpDomain : Option CString := none
  token : Option CString := none
  sandbox : Bool := false
  /-- The file at `certificatePublicPath`, in Base64, when it can be read. -/
  base64Certificate : Option CString := none
  /-- The file at `certificatePrivatePath`, in Base64, when it can be read. -/
  base64PrivateKey : Option CString := none
  /-- The delegate is there when a report is made, and answers `registeredForPush:`. The reference
  to it is weak. -/
  hasDelegate : Bool
  /-- Someone keeps the handler until its last report is made. `registerPushToken:` does not, and
  its own blocks do so up to the moment when the report is queued. -/
  isKept : Bool
  deriving DecidableEq, Repr

/-- What is the same for all answers to a request. -/
structure Request (α : Type) where
  /-- The method that makes it. -/
  method : String
  /-- What is logged before it is made. -/
  lines : List CString
  /-- How the text of an error calls what is asked for. -/
  what : String
  /-- What the handler is called with for a dictionary, when that is logged. -/
  fromDictionary : Object → Option (Option α)

/-- `setObject:forKey:` of every object into the dictionary of a request, which throws for `nil`,
and the JSON text of it. -/
def canWrite (objects : List (Option Object)) : Bool :=
  objects.all fun object => object.any Object.isJSON

section Requests
variable (foundation : Foundation) (handler : PushHandler)

/-- `pushPath`, behind the push domain. -/
def pushPath : CString :=
  (if handler.pushDomain = some "staging.restcomm.com".toList then "push"
    else "pushNotifications").toList

/-- The log line with the URL of a request to the push server. -/
def pushUrlLine (method : String) (path : CString) : CString :=
  logLine method ("URL: ".toList ++ foundation.urlWithString
    ("https://".toList ++ textOf handler.pushDomain ++ '/' :: pushPath handler ++ '/' :: path))

/-- The same for a request to the account server. -/
def accountUrlLine (method : String) (path : CString) : CString :=
  logLine method ("URL: ".toList ++ foundation.urlWithString
    ("https://".toList ++ textOf handler.httpDomain ++
      "/restcomm/2012-04-24/Accounts".toList ++ path))

/-- The sid in an answer of the account server. -/
def sidIn (method success : String) (dict : Object) : Option (Option Object) := do
  let sid ← Object.objectForKey "sid".toList (some dict)
  rcLog (logLine method (success.toList ++ foundation.text sid))
  return sid

/-- `alloc` and `initWithDictionary:` -/
def alloc {α : Type} (method success : String) (initWithDictionary : Object → Option α)
    (description : Foundation → α → CString) (dict : Object) : Option (Option α) := do
  let object ← initWithDictionary dict
  rcLog (logLine method (success.toList ++ description foundation object))
  return some object

section Answered
variable {α : Type} (request : Request α) (answer : Answer)

/-- A request that is answered with a dictionary. -/
def dictionaryRequest (completionHandler : Option α → Option PushError → Rest) : Rest :=
  fun run => do
    request.lines.forM rcLog
    match ← read request.method request.what answer with
    | .error error => completionHandler none (some error) run
    | .ok dict =>
      let object ← request.fromDictionary dict
      completionHandler object none run

/-- A request that is answered with a list, for the first element that passes a test. -/
def listRequest (test : Object → Option Bool)
    (completionHandler : Option α → Option PushError → Rest) : Rest := fun run => do
  request.lines.forM rcLog
  match ← read request.method request.what answer with
  | .error error => completionHandler none (some error) run
  | .ok arr =>
    match ← Object.firstMatch test (← arr.elements) with
    | some dict =>
      let object ← request.fromDictionary dict
      completionHandler object none run
    | none => completionHandler none none run

end Answered

/-! `getAccountSidWithRequestForEmail:andCompletionHandler:` -/

/-- What it asks for. -/
def accountSidRequest : Request Object :=
  let method := "getAccountSidWithRequestForEmail:andCompletionHandler:"
  let encodedEmail := handler.rescommAccountEmail.map foundation.addingPercentEscapes
  { method
    lines :=
      [accountUrlLine foundation handler method (".json/".toList ++ textOf encodedEmail),
        logLine method ("for email: ".toList ++ textOf handler.rescommAccountEmail)]
    what := "account sid"
    fromDictionary := sidIn foundation method "SUCCESS, account sid: " }

/-- The method. -/
def getAccountSidWithRequest (answer : Answer)
    (completionHandler : Option Object → Option PushError → Rest) : Rest :=
  dictionaryRequest (accountSidRequest foundation handler) answer completionHandler

/-! `getClientSidWithAccountSid:signalingUsername:andCompletionHandler:` -/

/-- What it asks for. -/
def clientSidRequest (accountSid : Object) : Request Object :=
  let method := "getClientSidWithAccountSid:signalingUsername:andCompletionHandler:"
  { method
    lines :=
      [accountUrlLine foundation handler method
          ('/' :: foundation.text (some accountSid) ++ "/Clients.json".toList),
        logLine method ("for accountSid: ".toList ++ foundation.text (some accountSid) ++
          "; signalingUsername: ".toList ++ textOf handler.signalingUsername)]
    what := "client sid"
    fromDictionary := sidIn foundation method "SUCCESS, client sid: " }

/-- The method. -/
def getClientSidWithAccountSid (accountSid : Object) (answer : Answer)
    (completionHandler : Option Object → Option PushError → Rest) : Rest :=
  listRequest (clientSidRequest foundation handler accountSid) answer
    (isLogin handler.signalingUsername) completionHandler

/-! `getApplicationForFriendlyName:isSandbox:withCompletionHandler:` -/

/-- What it asks for. -/
def applicationRequest : Request RCApplication :=
  let method := "getApplicationForFriendlyName:isSandbox:withCompletionHandler:"
  { method
    lines :=
      [pushUrlLine foundation handler method "applications".toList,
        logLine method ("for friendlyName: ".toList ++ textOf handler.friendlyName ++
          "; isSandbox: ".toList ++ (if handler.sandbox then "YES" else "NO").toList)]
    what := "application sid"
    fromDictionary := alloc foundation method "SUCCESS-> " RCApplication.initWithDictionary
      RCApplication.description }

/-- The method. -/
def getApplicationForFriendlyName (answer : Answer)
    (completionHandler : Option RCApplication → Option PushError → Rest) : Rest :=
  listRequest (applicationRequest foundation handler) answer
    (isNamed handler.friendlyName handler.sandbox) completionHandler

/-! `createApplication:withCompletionHandler:` -/

/-- What it asks for. -/
def newApplicationRequest (application : RCApplication) : Request RCApplication :=
  let method := "createApplication:withCompletionHandler:"
  { method
    lines :=
      [pushUrlLine foundation handler method "applications".toList,
        logLine method ("with ".toList ++ application.description foundation)]
    what := "application sid"
    fromDictionary := alloc foundation method "SUCCESS-> " RCApplication.initWithDictionary
      RCApplication.description }

/-- The method. The flag can always be written. -/
def createApplicationRequest (application : RCApplication) (answer : Answer)
    (completionHandler : Option RCApplication → Option PushError → Rest) : Rest :=
  if canWrite [application.friendlyName] then
    dictionaryRequest (newApplicationRequest foundation handler application) answer
      completionHandler
  else fun _ => none

/-! `getCredentialsForApplication:withCompletionHandler:` -/

/-- `%@` of an application. -/
def applicationText (application : Option RCApplication) : CString :=
  textOf (application.map (·.description foundation))

/-- What it asks for. -/
def credentialsRequest (application : Option RCApplication) : Request RCCredentials :=
  let method := "getCredentialsForApplication:withCompletionHandler:"
  { method
    lines :=
      [pushUrlLine foundation handler method "credentials".toList,
        logLine method ("for ".toList ++ applicationText foundation application)]
    what := "credentials sid"
    fromDictionary := alloc foundation method "SUCCESS -> " RCCredentials.initWithDictionary
      RCCredentials.description }

/-- The method. -/
def getCredentialsForApplication (application : Option RCApplication) (answer : Answer)
    (completionHandler : Option RCCredentials → Option PushError → Rest) : Rest :=
  listRequest (credentialsRequest foundation handler application) answer (isFor application)
    completionHandler

/-! `createCredentials:withCompletionHandler:` -/

/-- What it asks for. -/
def newCredentialsRequest (credentials : RCCredentials) : Request RCCredentials :=
  let method := "createCredentials:withCompletionHandler:"
  { method
    lines :=
      [pushUrlLine foundation handler method "credentials".toList,
        logLine method ("with ".toList ++ credentials.description foundation)]
    what := "credentials sid"
    fromDictionary := alloc foundation method "SUCCESS -> " RCCredentials.initWithDictionary
      RCCredentials.description }

/-- The method. -/
def createCredentialsRequest (credentials : RCCredentials) (answer : Answer)
    (completionHandler : Option RCCredentials → Option PushError → Rest) : Rest :=
  if canWrite [credentials.applicationSid, credentials.credentialType, credentials.certificate,
      credentials.privateKey] then
    dictionaryRequest (newCredentialsRequest foundation handler credentials) answer
      completionHandler
  else fun _ => none

/-! `checkExistingBindingSidForApplication:WithCompletionHandler:` -/

/-- What it asks for. -/
def bindingsRequest (application : Option RCApplication) : Request RCBinding :=
  let method := "checkExistingBindingSidForApplication:WithCompletionHandler:"
  { method
    lines :=
      [pushUrlLine foundation handler method "bindings".toList,
        logLine method ("for ".toList ++ applicationText foundation application)]
    what := "binding sid"
    fromDictionary := alloc foundation method "SUCCESS -> " RCBinding.initWithDictionary
      RCBinding.description }

/-- The method. -/
def checkExistingBindingSid (application : Option RCApplication) (answer : Answer)
    (completionHandler : Option RCBinding → Option PushError → Rest) : Rest :=
  listRequest (bindingsRequest foundation handler application) answer (isFor application)
    completionHandler

/-! `createOrUpdateBinding:forSid:andCompletionHandler:` -/

/-- What it asks for. The sid of the binding is a part of the URL, if there is one. -/
def bindingRequest (binding : RCBinding) (bindingSid : Option Object) : Request RCBinding :=
  let method := "createOrUpdateBinding:forSid:andCompletionHandler:"
  let path := match bindingSid with
    | some sid => "bindings/".toList ++ foundation.text (some sid)
    | none => "bindings".toList
  { method
    lines :=
      [logLine method ("with ".toList ++ binding.description foundation),
        pushUrlLine foundation handler method path]
    what := "binding sid"
    fromDictionary := alloc foundation method "SUCCESS -> " RCBinding.initWithDictionary
      RCBinding.description }

/-- The method. -/
def createOrUpdateBinding (binding : RCBinding) (bindingSid : Option Object) (answer : Answer)
    (completionHandler : Option RCBinding → Option PushError → Rest) : Rest :=
  if canWrite [binding.identity, binding.applicationSid, binding.bindingType,
      binding.address] then
    dictionaryRequest (bindingRequest foundation handler binding bindingSid) answer
      (fun binding error run =>
        completionHandler binding error { run with bound := run.bound || error.isNone })
  else fun _ => none

/-- `createBinding:andCompletionHandler:` -/
def createBinding (binding : RCBinding) (answer : Answer)
    (completionHandler : Option RCBinding → Option PushError → Rest) : Rest :=
  createOrUpdateBinding foundation handler binding none answer completionHandler

/-- `updateBinding:andCompletionHandler:` -/
def updateBinding (binding : RCBinding) (answer : Answer)
    (completionHandler : Option RCBinding → Option PushError → Rest) : Rest :=
  createOrUpdateBinding foundation handler binding binding.sid answer completionHandler

end Requests

/-! ### The handler -/

/-- The answers to the requests of a call. -/
structure Answers where
  account : Answer
  client : Answer
  application : Answer
  createApplication : Answer
  credentials : Answer
  createCredentials : Answer
  bindings : Answer
  /-- The binding is created or updated. -/
  binding : Answer

/-- What a sid is taken from `NSUserDefaults` for: there is one, and it is not empty. -/
def isSaved : Option Object → Option Bool
  | none => some false
  | some sid => sid.length.map (0 < ·)

section Handler
variable (foundation : Foundation) (handler : PushHandler) (answers : Answers)

/-- `getAccountSidWithCompletionHandler:` -/
def getAccountSid (completionHandler : Option Object → Rest) : Rest := fun run => do
  let accountSid := run.defaults.accountSid
  if ← isSaved accountSid then completionHandler accountSid run
  else
    getAccountSidWithRequest foundation handler answers.account (fun accountSid error run =>
      match error with
      | some error => do
        rcLog error.localizedDescription
        completionHandler none run
      | none => do
        let entry ← setObject accountSid
        completionHandler accountSid { run with defaults.accountSid := entry }) run

/-- `getClientSidForAccountSid:andWithCompletionHandler:` -/
def getClientSid (accountSid : Object) (completionHandler : Option Object → Rest) : Rest :=
  fun run => do
    let clientSid := run.defaults.clientSid
    if ← isSaved clientSid then completionHandler clientSid run
    else
      getClientSidWithAccountSid foundation handler accountSid answers.client
        (fun clientSid error run =>
          match error with
          | some error => do
            rcLog error.localizedDescription
            completionHandler none run
          | none => do
            let entry ← setObject clientSid
            completionHandler clientSid { run with defaults.clientSid := entry }) run

/-- `appToSend` of `getApplicationSidWithCompletionHandler:` -/
def appToSend : RCApplication where
  sid := some (.string [])
  friendlyName := handler.friendlyName.map .string
  sandbox := handler.sandbox

/-- `getApplicationSidWithCompletionHandler:` -/
def getApplicationSid (completionHandler : Option Object → Rest) : Rest := fun run => do
  let application ← unarchive run.defaults.application
  match application.filter (·.sandbox = handler.sandbox) with
  | some application => completionHandler application.sid run
  | none =>
    getApplicationForFriendlyName foundation handler answers.application
      (fun application error run =>
        match error with
        | some error => do
          rcLog error.localizedDescription
          completionHandler none run
        | none =>
          match application.filter (·.sandbox = handler.sandbox) with
          | some application =>
            completionHandler application.sid
              { run with defaults.application := some (archive (some application)) }
          | none =>
            -- "there is no application on the server"
            createApplicationRequest foundation handler (appToSend handler)
              answers.createApplication
              (fun application _ run =>
                -- The error is not looked at.
                completionHandler (application.bind (·.sid))
                  { run with defaults.application := some (archive application) }) run) run

/-- `credetntilasToSend` of `getCredentialsSid:andWithCompletionHandler:` -/
def credentialsToSend (applicationSid : Object) : RCCredentials where
  sid := some (.string [])
  applicationSid := some applicationSid
  credentialType := some (.string "apn".toList)
  certificate := handler.base64Certificate.map .string
  privateKey := handler.base64PrivateKey.map .string

/-- `getCredentialsSid:andWithCompletionHandler:` -/
def getCredentialsSid (applicationSid : Object) (completionHandler : Option Object → Rest) :
    Rest := fun run => do
  let saved ← unarchive run.defaults.credentials
  let usable ← match saved with
    | some credentials => Object.isEqualToString credentials.applicationSid (some applicationSid)
    | none => some false
  if usable then completionHandler (saved.bind (·.sid)) run
  else do
    let application ← unarchive run.defaults.application
    getCredentialsForApplication foundation handler application answers.credentials
      (fun credentials error run =>
        match error with
        | some error => do
          rcLog error.localizedDescription
          completionHandler none run
        | none =>
          match credentials with
          | some credentials =>
            completionHandler credentials.sid
              { run with defaults.credentials := some (archive (some credentials)) }
          | none =>
            -- "there are no credentials on the server"
            createCredentialsRequest foundation handler (credentialsToSend handler applicationSid)
              answers.createCredentials
              (fun credentials error run =>
                match error with
                | some error => do
                  rcLog error.localizedDescription
                  completionHandler none run
                | none =>
                  completionHandler (credentials.bind (·.sid))
                    { run with defaults.credentials := some (archive credentials) }) run) run

/-- `checkBindingSidWithCompletionHandler:` -/
def checkBindingSid (completionHandler : Option RCBinding → Option PushError → Rest) :
    Rest := fun run => do
  let application ← unarchive run.defaults.application
  checkExistingBindingSid foundation handler application answers.bindings completionHandler run

/-- `formatAndDelegateError:`. The block on the main queue refers to the handler. -/
def formatAndDelegateError (errorDescription : String) (run : PushRun) : PushRun :=
  if handler.hasDelegate then
    run.registeredForPush (some (.described errorDescription.toList))
  else run

/-- The block on the main queue that reports the end of `registerDevice`. It has a weak reference
to the handler. -/
def report (error : Option PushError) (run : PushRun) : PushRun :=
  if handler.hasDelegate && handler.isKept then run.registeredForPush error else run

/-- The completion handler behind a binding that was sent. `start` are the entries when the step
began that this is the end of. -/
def bindingSent (start : UserDefaults) (_ : Option RCBinding) (error : Option PushError) : Rest :=
  fun run => return report handler error (if error.isSome then run.fail start else run)

/-- `bindingToSend` of `registerDevice` -/
def bindingToSend (token : CString) (clientSid applicationSid : Object) : RCBinding where
  sid := some (.string [])
  identity := some clientSid
  applicationSid := some applicationSid
  bindingType := some (.string "apn".toList)
  address := some (.string token)

/-- The last completion handler of `registerDevice`, with the token. -/
def bindingChecked (token : CString) (clientSid applicationSid : Object) (start : UserDefaults)
    (binding : Option RCBinding) (error : Option PushError) : Rest := fun run => do
  match error with
  | some error =>
    rcLog ("Error checking binding sid: ".toList ++ error.description foundation)
    return report handler (some error) (run.fail start)
  | none =>
    match binding with
    | some binding =>
      if ← Object.isEqualToString (some (.string token)) binding.address then
        -- "Binding sid is same on server. No need to update"
        return report handler none { run with bound := true }
      else
        updateBinding foundation handler { binding with address := some (.string token) }
          answers.binding (bindingSent handler start) run
    | none =>
      createBinding foundation handler (bindingToSend token clientSid applicationSid)
        answers.binding (bindingSent handler start) run

/-- A completion handler of `registerDevice`, which goes on with a sid. `start` are the entries
when the step began that came to it. -/
def goOn (start : UserDefaults) (errorDescription : String) (next : Object → Rest) :
    Option Object → Rest
  | some sid => next sid
  | none => fun run => return formatAndDelegateError handler errorDescription (run.fail start)

/-- A step of `registerDevice`: the entries when it begins are kept for its end. -/
def step (method : (Option Object → Rest) → Rest) (errorDescription : String)
    (next : Object → Rest) : Rest := fun run =>
  method (goOn handler run.defaults errorDescription next) run

/-- `registerDevice` -/
def registerDevice : Rest := fun run =>
  match handler.token with
  | none | some [] =>
    return formatAndDelegateError handler "Push notification token is nil or empty." run
  | some token =>
    step handler (getAccountSid foundation handler answers) "Account sid is nil or empty."
      (fun accountSid =>
        step handler (getClientSid foundation handler answers accountSid)
          "ClientSid is nil or empty." fun clientSid =>
            step handler (getApplicationSid foundation handler answers)
              "ApplicationSid is nil or empty." fun applicationSid =>
                step handler (getCredentialsSid foundation handler answers applicationSid)
                  "CredentialsSid is nil or empty." fun _ run =>
                    checkBindingSid foundation handler answers
                      (bindingChecked foundation handler answers token clientSid applicationSid
                        run.defaults) run) run

end Handler

end RestCommSdk.Push.Dynamic
