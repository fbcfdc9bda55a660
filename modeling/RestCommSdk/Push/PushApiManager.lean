import Mathlib.Data.List.Nodup
import RestCommSdk.CliInterface.SofiaReply

/-!
# `RestCommSdk.Push.PushApiManager`: the servers of push notifications

What the Restcomm server and the push server hold, and the requests of `PushApiManager.m`: a
lookup takes the first entry that matches, a creation adds one entry, and a binding is created or
updated. A request is authenticated, so what it sees depends on the login it is made with.

A server gives every binding a sid of its own, which `PushStore` carries as a field.
-/

set_option autoImplicit false

namespace RestCommSdk.Push

open RestCommSdk.CliInterface (CString)

/-! ### Entries -/

/-- A client of an account. -/
structure Client where
  login : CString
  sid : CString
  deriving DecidableEq, Repr

/-- `RCApplication` -/
structure RCApplication where
  sid : CString
  friendlyName : CString
  sandbox : Bool
  deriving DecidableEq, Repr

/-- `RCCredentials` -/
structure RCCredentials where
  sid : CString
  applicationSid : CString
  credentialType : CString
  certificate : CString
  privateKey : CString
  deriving DecidableEq, Repr

/-- `RCBinding` -/
structure RCBinding where
  sid : CString
  identity : CString
  applicationSid : CString
  bindingType : CString := "apn".toList
  address : CString
  deriving DecidableEq, Repr

/-! ### Servers -/

/-- What a push server holds for those who see the same entries. -/
structure PushStore where
  applications : List RCApplication := []
  credentials : List RCCredentials := []
  bindings : List RCBinding := []
  nodup : (bindings.map (·.sid)).Nodup := by simp

/-- Who makes a request, and where. -/
structure Login where
  username : Option CString
  password : Option CString
  domain : Option CString
  deriving DecidableEq, Repr

/-- The servers. The accounts and the clients stay as they are. -/
structure Servers where
  /-- The sid of the account with this email. -/
  accountSid : Login → Option CString → Option CString
  /-- The clients of the account with this sid. -/
  clients : Login → CString → List Client
  /-- Which entries a login sees. -/
  storeOf : Login → Nat
  stores : Nat → PushStore

namespace Servers

/-- What a login sees on its push server. -/
def store (servers : Servers) (login : Login) : PushStore := servers.stores (servers.storeOf login)

/-- A write to what a login sees. -/
def setStore (servers : Servers) (login : Login) (store : PushStore) : Servers :=
  { servers with stores := Function.update servers.stores (servers.storeOf login) store }

/-- The store of a login is the one that was set. -/
@[simp] theorem store_setStore (servers : Servers) (login : Login) (store : PushStore) :
    (servers.setStore login store).store login = store :=
  Function.update_self ..

/-- The other stores stay as they are. -/
theorem stores_setStore_of_ne (servers : Servers) (login : Login) (store : PushStore) {k : Nat}
    (h : k ≠ servers.storeOf login) :
    (servers.setStore login store).stores k = servers.stores k :=
  Function.update_of_ne h ..

end Servers

/-- How a request ends. -/
inductive PushOutcome where
  | answered
  /-- It was not carried out. -/
  | refused
  /-- It was carried out, and there was no usable answer. -/
  | lost
  deriving DecidableEq, Repr

/-! ### Lookups -/

/-- The loop of `getClientSidWithAccountSid:signalingUsername:andCompletionHandler:`. -/
def findClient (clients : List Client) (signalingUsername : Option CString) : Option Client :=
  clients.find? fun client => some client.login = signalingUsername

/-- The loop of `getApplicationForFriendlyName:isSandbox:withCompletionHandler:`. -/
def findApplication (applications : List RCApplication) (friendlyName : Option CString)
    (sandbox : Bool) : Option RCApplication :=
  applications.find? fun application =>
    some application.friendlyName = friendlyName ∧ application.sandbox = sandbox

/-- The loop of `getCredentialsForApplication:withCompletionHandler:`. -/
def findCredentials (credentials : List RCCredentials) (application : Option RCApplication) :
    Option RCCredentials :=
  credentials.find? fun credentials =>
    some credentials.applicationSid = application.map (·.sid)

/-- The loop of `checkExistingBindingSidForApplication:WithCompletionHandler:`. Only the
application is compared. -/
def findBinding (bindings : List RCBinding) (application : Option RCApplication) :
    Option RCBinding :=
  bindings.find? fun binding => some binding.applicationSid = application.map (·.sid)

/-! ### Writes -/

namespace PushStore

/-- `createApplication:withCompletionHandler:`, on the server. -/
def addApplication (store : PushStore) (application : RCApplication) : PushStore :=
  { store with applications := store.applications ++ [application] }

/-- `createCredentials:withCompletionHandler:`, on the server. -/
def addCredentials (store : PushStore) (credentials : RCCredentials) : PushStore :=
  { store with credentials := store.credentials ++ [credentials] }

/-- A `POST` of a binding. The server does not give out a sid twice. -/
def postBinding (store : PushStore) (binding : RCBinding) : Option PushStore :=
  if h : binding.sid ∈ store.bindings.map (·.sid) then none
  else
    some { store with
      bindings := store.bindings ++ [binding]
      nodup := by
        rw [List.map_append, List.map_singleton]
        exact store.nodup.append (List.nodup_singleton _) (List.disjoint_singleton.mpr h) }

/-- The fields of a binding that a `PUT` sends. -/
def putFields (sent binding : RCBinding) : RCBinding :=
  if binding.sid = sent.sid then sent else binding

/-- An update leaves the sids. -/
theorem map_sid_putFields (sent : RCBinding) (bindings : List RCBinding) :
    (bindings.map (putFields sent)).map (·.sid) = bindings.map (·.sid) := by
  rw [List.map_map]
  refine List.map_congr_left fun binding _ => ?_
  show (putFields sent binding).sid = binding.sid
  unfold putFields
  split
  · exact (‹binding.sid = sent.sid›).symm
  · rfl

/-- The list after a `PUT`: the binding that was sent, if there was one with its sid, and those
with other sids. -/
theorem mem_map_putFields_iff (sent x : RCBinding) (bindings : List RCBinding) :
    x ∈ bindings.map (putFields sent) ↔
      (x = sent ∧ ∃ binding ∈ bindings, binding.sid = sent.sid) ∨
        (x ∈ bindings ∧ x.sid ≠ sent.sid) := by
  rw [List.mem_map]
  constructor
  · rintro ⟨binding, hmem, rfl⟩
    by_cases hsid : binding.sid = sent.sid
    · exact Or.inl ⟨if_pos hsid, binding, hmem, hsid⟩
    · rw [show putFields sent binding = binding from if_neg hsid]
      exact Or.inr ⟨hmem, hsid⟩
  · rintro (⟨rfl, binding, hmem, hsid⟩ | ⟨hmem, hsid⟩)
    · exact ⟨binding, hmem, if_pos hsid⟩
    · exact ⟨x, hmem, if_neg hsid⟩

/-- A `PUT` of the binding with the sid of the one that is sent, if there is one. -/
def putBinding (store : PushStore) (sent : RCBinding) : Option PushStore :=
  if sent.sid ∈ store.bindings.map (·.sid) then
    some { store with
      bindings := store.bindings.map (putFields sent)
      nodup := by
        rw [map_sid_putFields]
        exact store.nodup }
  else none

/-- A binding that was made has a new sid, and is the last one. -/
theorem eq_of_postBinding {store store' : PushStore} {binding : RCBinding}
    (h : store.postBinding binding = some store') :
    binding.sid ∉ store.bindings.map (·.sid) ∧
      store'.applications = store.applications ∧ store'.credentials = store.credentials ∧
      store'.bindings = store.bindings ++ [binding] := by
  unfold postBinding at h
  split at h
  · cases h
  · cases h
    exact ⟨‹_›, rfl, rfl, rfl⟩

/-- An update changes bindings only. -/
theorem eq_of_putBinding {store store' : PushStore} {sent : RCBinding}
    (h : store.putBinding sent = some store') :
    store'.applications = store.applications ∧ store'.credentials = store.credentials ∧
      store'.bindings = store.bindings.map (putFields sent) := by
  unfold putBinding at h
  split at h
  · cases h
    exact ⟨rfl, rfl, rfl⟩
  · cases h

end PushStore

end RestCommSdk.Push
