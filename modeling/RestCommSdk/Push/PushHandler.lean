import RestCommSdk.Push.PushApiManager

/-!
# `RestCommSdk.Push.PushHandler`: registering a device for push notifications

`registerDevice` of `PushHandler.m` as a machine. A step is one of the nested completion handlers:
it looks at what `NSUserDefaults` holds, makes at most one request, and goes on with the sid that
comes out of this or queues a report for the delegate. A new call starts when the one before it has
ended. What `NSUserDefaults` and the servers hold stays from call to call.

An entry that the servers answer has all its members. Where a log line raises an exception, as in
`RestCommSdk.Push.RegisterDevice`, a run ends before that step. Whether a report that was queued
finds the handler and its delegate is told there, too.
-/

set_option autoImplicit false

namespace RestCommSdk.Push

open RestCommSdk.CliInterface (CString)

/-! ### A call -/

/-- The handler, as `initWithParameters:andDelegate:` makes it. -/
structure PushHandler where
  password : Option CString := none
  signalingUsername : Option CString := none
  friendlyName : Option CString := none
  rescommAccountEmail : Option CString := none
  token : Option CString := none
  sandbox : Bool := false
  pushDomain : Option CString := none
  httpDomain : Option CString := none
  /-- The file at `certificatePublicPath`, in Base64. -/
  base64Certificate : Option CString := none
  /-- The file at `certificatePrivatePath`, in Base64. -/
  base64PrivateKey : Option CString := none
  deriving DecidableEq, Repr

namespace PushHandler

/-- Who asks the Restcomm server. -/
def httpLogin (handler : PushHandler) : Login where
  username := handler.rescommAccountEmail
  password := handler.password
  domain := handler.httpDomain

/-- Who asks the push server. -/
def pushLogin (handler : PushHandler) : Login where
  username := handler.rescommAccountEmail
  password := handler.password
  domain := handler.pushDomain

end PushHandler

/-- A call that is past the check of its token. -/
structure Registration extends PushHandler where
  address : CString
  token_eq : token = some address
  address_ne_nil : address ≠ []
  deriving DecidableEq, Repr

/-- What `NSUserDefaults` holds for the four keys. -/
structure UserDefaults where
  accountSid : Option CString := none
  clientSid : Option CString := none
  application : Option RCApplication := none
  credentials : Option RCCredentials := none
  deriving DecidableEq, Repr

/-- How far a call is. A stage is left with its request, or without one when `NSUserDefaults`
has what it is about. -/
inductive Stage where
  | idle
  | getAccountSid (call : Registration)
  | getClientSid (call : Registration) (accountSid : CString)
  | getApplicationSid (call : Registration) (clientSid : CString)
  | createApplication (call : Registration) (clientSid friendlyName : CString)
  | getCredentialsSid (call : Registration) (clientSid applicationSid : CString)
  | createCredentials (call : Registration) (clientSid applicationSid : CString)
      (certificate privateKey : CString)
  | checkBinding (call : Registration) (clientSid applicationSid : CString)
  | updateBinding (call : Registration) (clientSid applicationSid : CString)
      (binding : RCBinding)
  | createBinding (call : Registration) (clientSid applicationSid : CString)
  deriving DecidableEq, Repr

/-- The sids that a call needs. -/
inductive SidKind where
  | account
  | client
  | application
  | credentials
  deriving DecidableEq, Repr

/-- What the delegate shall be told when there is no such sid. -/
def SidKind.errorDescription : SidKind → CString
  | account => "Account sid is nil or empty.".toList
  | client => "ClientSid is nil or empty.".toList
  | application => "ApplicationSid is nil or empty.".toList
  | credentials => "CredentialsSid is nil or empty.".toList

/-- A sid that a call goes on with. -/
structure Use where
  call : Registration
  kind : SidKind
  sid : CString
  deriving DecidableEq, Repr

/-- A block on the main queue, with the `registeredForPush:` in it. -/
inductive Report where
  | registered
  /-- `formatAndDelegateError:` -/
  | formatted (errorDescription : CString)
  /-- The error of a request. -/
  | error
  deriving DecidableEq, Repr

/-- `NSUserDefaults`, the servers, and where the call is. -/
structure PushState where
  defaults : UserDefaults := {}
  servers : Servers
  stage : Stage := .idle
  /-- The sid that the last step went on with. -/
  used : Option Use := none
  /-- What the last step has put on the main queue for the delegate. -/
  queued : Option Report := none

/-- What makes the registration take a step. -/
inductive PushInput where
  | registerDevice (handler : PushHandler)
  /-- The call goes on. Its request, if it makes one, ends like this, and an entry that the server
  makes for it gets this sid. -/
  | proceed (outcome : PushOutcome) (newSid : CString)
  deriving DecidableEq, Repr

namespace PushState
variable (s : PushState)

/-- The call goes on to the next stage. -/
def goOn (stage : Stage) : PushState :=
  { s with stage := stage, used := none, queued := none }

/-- The call ends, with a block on the main queue. -/
def report (result : Report) : PushState :=
  { s with stage := .idle, used := none, queued := some result }

/-- The completion handler of a lookup: without a sid the call ends. -/
def complete (call : Registration) (kind : SidKind) (next : CString → Stage) :
    Option CString → PushState
  | some sid => { s with stage := next sid, used := some ⟨call, kind, sid⟩, queued := none }
  | none => s.report (.formatted kind.errorDescription)

/-- A request that writes. It does not end in a way that the server does not allow. -/
def send (login : Login) (outcome : PushOutcome) (write : PushStore → Option PushStore) :
    Option PushState :=
  if outcome = .refused then some s
  else
    (write (s.servers.store login)).map fun store =>
      { s with servers := s.servers.setStore login store }

/-- The end of a call, with the error of its last request if there was one. -/
def finish (outcome : PushOutcome) : PushState :=
  s.report (if outcome = .answered then .registered else .error)

end PushState

/-! ### The stages -/

section Stages
variable (s : PushState) (call : Registration) (outcome : PushOutcome) (newSid : CString)

/-- `registerDevice`, up to its first lookup. -/
def registerDevice (handler : PushHandler) : PushState :=
  match h : handler.token with
  | none => s.report (.formatted "Push notification token is nil or empty.".toList)
  | some token =>
    if hempty : token = [] then
      s.report (.formatted "Push notification token is nil or empty.".toList)
    else s.goOn (.getAccountSid { handler with
      address := token, token_eq := h, address_ne_nil := hempty })

/-- `getAccountSidWithCompletionHandler:` -/
def getAccountSid : PushState :=
  match s.defaults.accountSid.filter (· ≠ []) with
  -- It is not compared with anything.
  | some accountSid => s.complete call .account (.getClientSid call) (some accountSid)
  | none =>
    if outcome = .answered then
      -- `setObject:` of `nil` takes the key away.
      let accountSid := s.servers.accountSid call.httpLogin call.rescommAccountEmail
      { s with defaults.accountSid := accountSid }.complete call .account (.getClientSid call)
        accountSid
    else s.complete call .account (.getClientSid call) none

/-- `getClientSidForAccountSid:andWithCompletionHandler:` -/
def getClientSid (accountSid : CString) : PushState :=
  match s.defaults.clientSid.filter (· ≠ []) with
  -- Nor is this one.
  | some clientSid => s.complete call .client (.getApplicationSid call) (some clientSid)
  | none =>
    if outcome = .answered then
      let clientSid := (findClient (s.servers.clients call.httpLogin accountSid)
        call.signalingUsername).map (·.sid)
      { s with defaults.clientSid := clientSid }.complete call .client (.getApplicationSid call)
        clientSid
    else s.complete call .client (.getApplicationSid call) none

/-- `getApplicationSidWithCompletionHandler:`. An application without a name cannot be made. -/
def getApplicationSid (clientSid : CString) : Option PushState :=
  match s.defaults.application.filter (·.sandbox = call.sandbox) with
  | some application =>
    -- The name is not compared, nor who has asked for it.
    some (s.complete call .application (.getCredentialsSid call clientSid) (some application.sid))
  | none =>
    if outcome = .answered then
      match (findApplication (s.servers.store call.pushLogin).applications call.friendlyName
        call.sandbox).filter (·.sandbox = call.sandbox) with
      | some application =>
        some ({ s with defaults.application := some application }.complete call .application
          (.getCredentialsSid call clientSid) (some application.sid))
      | none =>
        call.friendlyName.map fun friendlyName =>
          s.goOn (.createApplication call clientSid friendlyName)
    else some (s.complete call .application (.getCredentialsSid call clientSid) none)

/-- The request that makes an application, and its completion. What comes back is kept, also
when it is nothing. -/
def createApplication (clientSid friendlyName : CString) : Option PushState := do
  let application : RCApplication := ⟨newSid, friendlyName, call.sandbox⟩
  let s ← s.send call.pushLogin outcome fun store => some (store.addApplication application)
  let answer := if outcome = .answered then some application else none
  return { s with defaults.application := answer }.complete call .application
    (.getCredentialsSid call clientSid) (answer.map RCApplication.sid)

/-- `getCredentialsSid:andWithCompletionHandler:`. Credentials without the contents of both files
cannot be made. -/
def getCredentialsSid (clientSid applicationSid : CString) : Option PushState :=
  match s.defaults.credentials.filter (·.applicationSid = applicationSid) with
  | some credentials =>
    some (s.complete call .credentials (fun _ => .checkBinding call clientSid applicationSid)
      (some credentials.sid))
  | none =>
    if outcome = .answered then
      -- The application is read from `NSUserDefaults` again.
      match findCredentials (s.servers.store call.pushLogin).credentials
        s.defaults.application with
      | some credentials =>
        some ({ s with defaults.credentials := some credentials }.complete call .credentials
          (fun _ => .checkBinding call clientSid applicationSid) (some credentials.sid))
      | none => do
        let certificate ← call.base64Certificate
        let privateKey ← call.base64PrivateKey
        return s.goOn (.createCredentials call clientSid applicationSid certificate privateKey)
    else
      some (s.complete call .credentials (fun _ => .checkBinding call clientSid applicationSid)
        none)

/-- The request that makes credentials, and its completion. -/
def createCredentials (clientSid applicationSid certificate privateKey : CString) :
    Option PushState := do
  let credentials : RCCredentials :=
    ⟨newSid, applicationSid, "apn".toList, certificate, privateKey⟩
  let s ← s.send call.pushLogin outcome fun store => some (store.addCredentials credentials)
  if outcome = .answered then
    return { s with defaults.credentials := some credentials }.complete call .credentials
      (fun _ => .checkBinding call clientSid applicationSid) (some newSid)
  else
    return s.complete call .credentials (fun _ => .checkBinding call clientSid applicationSid) none

/-- `checkBindingSidWithCompletionHandler:` and what is made of its answer. -/
def checkBinding (clientSid applicationSid : CString) : PushState :=
  if outcome = .answered then
    -- The client is not a part of the search.
    match findBinding (s.servers.store call.pushLogin).bindings s.defaults.application with
    | some binding =>
      -- "Binding sid is same on server. No need to update"
      if binding.address = call.address then s.report .registered
      else s.goOn (.updateBinding call clientSid applicationSid binding)
    | none => s.goOn (.createBinding call clientSid applicationSid)
  else s.report .error

/-- `updateBinding:andCompletionHandler:`: the binding that was found, with this address. -/
def updateBinding (binding : RCBinding) : Option PushState := do
  let s ← s.send call.pushLogin outcome fun store =>
    store.putBinding { binding with address := call.address }
  return s.finish outcome

/-- `createBinding:andCompletionHandler:` -/
def createBinding (clientSid applicationSid : CString) : Option PushState := do
  let s ← s.send call.pushLogin outcome fun store => store.postBinding
    { sid := newSid, identity := clientSid, applicationSid := applicationSid
      address := call.address }
  return s.finish outcome

end Stages

/-- One step of a call. -/
def proceed (s : PushState) (outcome : PushOutcome) (newSid : CString) : Option PushState :=
  match s.stage with
  | .idle => none
  | .getAccountSid call => some (getAccountSid s call outcome)
  | .getClientSid call accountSid => some (getClientSid s call outcome accountSid)
  | .getApplicationSid call clientSid => getApplicationSid s call outcome clientSid
  | .createApplication call clientSid friendlyName =>
    createApplication s call outcome newSid clientSid friendlyName
  | .getCredentialsSid call clientSid applicationSid =>
    getCredentialsSid s call outcome clientSid applicationSid
  | .createCredentials call clientSid applicationSid certificate privateKey =>
    createCredentials s call outcome newSid clientSid applicationSid certificate privateKey
  | .checkBinding call clientSid applicationSid =>
    some (checkBinding s call outcome clientSid applicationSid)
  | .updateBinding call _ _ binding => updateBinding s call outcome binding
  | .createBinding call clientSid applicationSid =>
    createBinding s call outcome newSid clientSid applicationSid

/-- One step of the machine. -/
def pushStep (s : PushState) : PushInput → Option PushState
  | .registerDevice handler => if s.stage = .idle then some (registerDevice s handler) else none
  | .proceed outcome newSid => proceed s outcome newSid

end RestCommSdk.Push
