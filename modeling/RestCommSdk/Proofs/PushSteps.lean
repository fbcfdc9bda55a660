import RestCommSdk.Lib.Run
import RestCommSdk.Push.PushHandler

/-!
# `RestCommSdk.Proofs.PushSteps`: what a step of a push registration does

One `_cases` lemma for each stage says all that the stage can do, and `Stepped` that a step is that
of the stage it is taken in. `shape_proceed` says what the stages have in common, which is enough
for what a call leaves on the servers, and `linked_step` what one stage hands to the next: the
application in `NSUserDefaults` is the one whose sid the call goes on with, an entry is made only
when the lookup for it has found none, and the binding that is updated is on the server.
-/

set_option autoImplicit false

namespace RestCommSdk.Proofs

open RestCommSdk.CliInterface (CString)
open RestCommSdk.Push

/-! ### The parts of a step -/

section Parts
variable (s : PushState) (call : Registration) (kind : SidKind) (next : CString → Stage)
  (answer : Option CString)

/-- Going on with a sid leaves the servers. -/
@[simp] theorem complete_servers : (s.complete call kind next answer).servers = s.servers := by
  cases answer <;> rfl

/-- Going on with a sid leaves `NSUserDefaults`. -/
@[simp] theorem complete_defaults : (s.complete call kind next answer).defaults = s.defaults := by
  cases answer <;> rfl

/-- The sid that the call goes on with is used. -/
@[simp] theorem complete_used :
    (s.complete call kind next answer).used = answer.map fun sid => ⟨call, kind, sid⟩ := by
  cases answer <;> rfl

/-- A lookup does not end in success. -/
@[simp] theorem complete_reported_ne :
    (s.complete call kind next answer).queued ≠ some .registered := by
  cases answer <;> simp [PushState.complete, PushState.report]

end Parts

/-- A request that writes: nothing happens, or the write does. -/
theorem send_cases {s s' : PushState} {login : Login} {outcome : PushOutcome}
    {write : PushStore → Option PushStore} (h : s.send login outcome write = some s') :
    (outcome = .refused ∧ s' = s) ∨
      (outcome ≠ .refused ∧ ∃ store, write (s.servers.store login) = some store ∧
        s' = { s with servers := s.servers.setStore login store }) := by
  unfold PushState.send at h
  split at h
  · rename_i hrefused
    cases h
    exact Or.inl ⟨hrefused, rfl⟩
  · rename_i hrefused
    obtain ⟨store, hwrite, hs⟩ := Option.map_eq_some_iff.mp h
    exact Or.inr ⟨hrefused, store, hwrite, hs.symm⟩

/-- Nothing valid was cached. -/
theorem filter_eq_none_imp {α : Type} {cached : Option α} {valid : α → Prop}
    [DecidablePred valid] (h : cached.filter (fun a => decide (valid a)) = none) :
    ∀ a ∈ cached, ¬ valid a := by
  intro a ha hvalid
  cases ha
  simp [hvalid] at h

/-! ### The stages -/

section Stages
variable {s s' : PushState} {call : Registration} {outcome : PushOutcome} {newSid : CString}

/-- `registerDevice` reports an error, or makes the first lookup. -/
theorem registerDevice_cases (handler : PushHandler) :
    (∃ errorDescription, registerDevice s handler = s.report (.formatted errorDescription)) ∨
      ∃ call : Registration, call.toPushHandler = handler ∧
        registerDevice s handler = s.goOn (.getAccountSid call) := by
  unfold registerDevice
  split
  · exact Or.inl ⟨_, rfl⟩
  · split
    · exact Or.inl ⟨_, rfl⟩
    · exact Or.inr ⟨_, rfl, rfl⟩

/-- The sid of the account is cached, or asked for at the Restcomm server. -/
theorem getAccountSid_cases :
    (∃ accountSid, s.defaults.accountSid = some accountSid ∧ accountSid ≠ [] ∧
      getAccountSid s call outcome =
        s.complete call .account (.getClientSid call) (some accountSid)) ∨
    (∀ accountSid ∈ s.defaults.accountSid, ¬ accountSid ≠ []) ∧
      ∃ defaults answer, getAccountSid s call outcome =
          { s with defaults := defaults }.complete call .account (.getClientSid call) answer ∧
        (∀ sid ∈ answer,
          s.servers.accountSid call.httpLogin call.rescommAccountEmail = some sid) ∧
        (defaults = s.defaults ∨ defaults = { s.defaults with accountSid := answer }) := by
  unfold getAccountSid
  split
  · -- A cached sid that is not empty is used as it is.
    rename_i accountSid hhit
    obtain ⟨hcached, hvalid⟩ := Option.filter_eq_some_iff.mp hhit
    exact Or.inl ⟨accountSid, hcached, by simpa using hvalid, rfl⟩
  · rename_i hmiss
    refine Or.inr ⟨filter_eq_none_imp hmiss, ?_⟩
    split
    · -- The answer is cached, also when it holds no sid.
      exact ⟨_, _, rfl, fun sid hsid => hsid, Or.inr rfl⟩
    · -- The request failed, and the cache stays.
      exact ⟨s.defaults, none, rfl, by simp, Or.inl rfl⟩

/-- The sid of the client is cached, or looked up among the clients. -/
theorem getClientSid_cases (accountSid : CString) :
    (∃ clientSid, s.defaults.clientSid = some clientSid ∧ clientSid ≠ [] ∧
      getClientSid s call outcome accountSid =
        s.complete call .client (.getApplicationSid call) (some clientSid)) ∨
    (∀ clientSid ∈ s.defaults.clientSid, ¬ clientSid ≠ []) ∧
      ∃ defaults answer, getClientSid s call outcome accountSid =
          { s with defaults := defaults }.complete call .client (.getApplicationSid call) answer ∧
        (∀ sid ∈ answer, (findClient (s.servers.clients call.httpLogin accountSid)
          call.signalingUsername).map (·.sid) = some sid) ∧
        (defaults = s.defaults ∨ defaults = { s.defaults with clientSid := answer }) := by
  unfold getClientSid
  split
  · -- A cached sid that is not empty is used as it is.
    rename_i clientSid hhit
    obtain ⟨hcached, hvalid⟩ := Option.filter_eq_some_iff.mp hhit
    exact Or.inl ⟨clientSid, hcached, by simpa using hvalid, rfl⟩
  · rename_i hmiss
    refine Or.inr ⟨filter_eq_none_imp hmiss, ?_⟩
    split
    · -- The answer is cached, also when no client of that name was found.
      exact ⟨_, _, rfl, fun sid hsid => hsid, Or.inr rfl⟩
    · -- The request failed, and the cache stays.
      exact ⟨s.defaults, none, rfl, by simp, Or.inl rfl⟩

/-- The application that was kept, the one that was found, an application to be made, or none. -/
theorem getApplicationSid_cases {clientSid : CString}
    (h : getApplicationSid s call outcome clientSid = some s') :
    (∃ application, s.defaults.application = some application ∧
      application.sandbox = call.sandbox ∧
      s' = s.complete call .application (.getCredentialsSid call clientSid)
        (some application.sid)) ∨
    (∀ application ∈ s.defaults.application, ¬ application.sandbox = call.sandbox) ∧
      ((∃ application, findApplication (s.servers.store call.pushLogin).applications
          call.friendlyName call.sandbox = some application ∧
        s' = { s with defaults.application := some application }.complete call .application
          (.getCredentialsSid call clientSid) (some application.sid)) ∨
      (∃ friendlyName, call.friendlyName = some friendlyName ∧
        findApplication (s.servers.store call.pushLogin).applications call.friendlyName
          call.sandbox = none ∧
        s' = s.goOn (.createApplication call clientSid friendlyName)) ∨
      s' = s.complete call .application (.getCredentialsSid call clientSid) none) := by
  unfold getApplicationSid at h
  split at h
  · rename_i application hhit
    obtain ⟨hcached, hvalid⟩ := Option.filter_eq_some_iff.mp hhit
    cases h
    exact Or.inl ⟨application, hcached, by simpa using hvalid, rfl⟩
  · rename_i hmiss
    refine Or.inr ⟨filter_eq_none_imp hmiss, ?_⟩
    split at h
    · split at h
      · rename_i application hfound
        cases h
        exact Or.inl ⟨application, (Option.filter_eq_some_iff.mp hfound).1, rfl⟩
      · rename_i hfound
        obtain ⟨friendlyName, hname, hs⟩ := Option.map_eq_some_iff.mp h
        refine Or.inr (Or.inl ⟨friendlyName, hname, ?_, hs.symm⟩)
        -- The loop has already compared the sandbox flag.
        cases hloop : findApplication (s.servers.store call.pushLogin).applications
            call.friendlyName call.sandbox with
        | none => rfl
        | some application =>
          have hmatch := List.find?_some hloop
          simp only [decide_eq_true_eq] at hmatch
          exact absurd hmatch.2 (filter_eq_none_imp hfound application hloop)
    · cases h
      exact Or.inr (Or.inr rfl)

/-- What comes back from making an application is what was made, or nothing. -/
theorem createApplication_cases {clientSid friendlyName : CString}
    (h : createApplication s call outcome newSid clientSid friendlyName = some s') :
    s' = { s with
        servers := s.servers.setStore call.pushLogin
          ((s.servers.store call.pushLogin).addApplication ⟨newSid, friendlyName, call.sandbox⟩)
        defaults.application := some ⟨newSid, friendlyName, call.sandbox⟩ }.complete call
      .application (.getCredentialsSid call clientSid) (some newSid) ∨
    ∃ servers, (servers = s.servers ∨ servers = s.servers.setStore call.pushLogin
        ((s.servers.store call.pushLogin).addApplication
          ⟨newSid, friendlyName, call.sandbox⟩)) ∧
      s' = { s with servers := servers, defaults.application := none }.complete call
        .application (.getCredentialsSid call clientSid) none := by
  unfold createApplication at h
  obtain ⟨s₁, hsend, hs⟩ := Option.bind_eq_some_iff.mp h
  cases hs
  obtain ⟨hrefused, rfl⟩ | ⟨-, store, hstore, rfl⟩ := send_cases hsend
  · -- Nothing was made, and nothing comes back.
    refine Or.inr ⟨s₁.servers, Or.inl rfl, ?_⟩
    rw [if_neg (by simp [hrefused])]
    rfl
  · cases hstore
    by_cases hanswered : outcome = .answered
    · rw [if_pos hanswered]
      exact Or.inl rfl
    · rw [if_neg hanswered]
      exact Or.inr ⟨_, Or.inr rfl, rfl⟩

/-- The credentials that were kept, those that were found, credentials to be made, or none. -/
theorem getCredentialsSid_cases {clientSid applicationSid : CString}
    (h : getCredentialsSid s call outcome clientSid applicationSid = some s') :
    (∃ credentials, s.defaults.credentials = some credentials ∧
      credentials.applicationSid = applicationSid ∧
      s' = s.complete call .credentials (fun _ => .checkBinding call clientSid applicationSid)
        (some credentials.sid)) ∨
    (∀ credentials ∈ s.defaults.credentials, ¬ credentials.applicationSid = applicationSid) ∧
      ((∃ credentials, findCredentials (s.servers.store call.pushLogin).credentials
          s.defaults.application = some credentials ∧
        s' = { s with defaults.credentials := some credentials }.complete call .credentials
          (fun _ => .checkBinding call clientSid applicationSid) (some credentials.sid)) ∨
      (∃ certificate privateKey,
        findCredentials (s.servers.store call.pushLogin).credentials s.defaults.application =
          none ∧
        s' = s.goOn (.createCredentials call clientSid applicationSid certificate privateKey)) ∨
      s' = s.complete call .credentials (fun _ => .checkBinding call clientSid applicationSid)
        none) := by
  unfold getCredentialsSid at h
  split at h
  · -- The cached credentials are of this application.
    rename_i credentials hhit
    obtain ⟨hcached, hvalid⟩ := Option.filter_eq_some_iff.mp hhit
    cases h
    exact Or.inl ⟨credentials, hcached, by simpa using hvalid, rfl⟩
  · rename_i hmiss
    refine Or.inr ⟨filter_eq_none_imp hmiss, ?_⟩
    split at h
    · split at h
      · -- The server has credentials of the application, and they are cached.
        rename_i credentials hfound
        cases h
        exact Or.inl ⟨credentials, hfound, rfl⟩
      · rename_i hfound
        -- The keys are converted before the credentials are created, and may be missing.
        obtain ⟨certificate, -, h⟩ := Option.bind_eq_some_iff.mp h
        obtain ⟨privateKey, -, h⟩ := Option.bind_eq_some_iff.mp h
        cases h
        exact Or.inr (Or.inl ⟨certificate, privateKey, hfound, rfl⟩)
    · -- The request failed, and no sid is handed on.
      cases h
      exact Or.inr (Or.inr rfl)

/-- The credentials are added, and used. -/
theorem createCredentials_cases {clientSid applicationSid certificate privateKey : CString}
    (h : createCredentials s call outcome newSid clientSid applicationSid certificate privateKey =
      some s') :
    s' = { s with
        servers := s.servers.setStore call.pushLogin
          ((s.servers.store call.pushLogin).addCredentials
            ⟨newSid, applicationSid, "apn".toList, certificate, privateKey⟩)
        defaults.credentials :=
          some ⟨newSid, applicationSid, "apn".toList, certificate, privateKey⟩ }.complete call
      .credentials (fun _ => .checkBinding call clientSid applicationSid) (some newSid) ∨
    ∃ servers, (servers = s.servers ∨ servers = s.servers.setStore call.pushLogin
        ((s.servers.store call.pushLogin).addCredentials
          ⟨newSid, applicationSid, "apn".toList, certificate, privateKey⟩)) ∧
      s' = { s with servers := servers }.complete call .credentials
        (fun _ => .checkBinding call clientSid applicationSid) none := by
  unfold createCredentials at h
  obtain ⟨s₁, hsend, hs⟩ := Option.bind_eq_some_iff.mp h
  obtain ⟨hrefused, rfl⟩ | ⟨-, store, hstore, rfl⟩ := send_cases hsend
  · -- The request did not get through or was refused by the server.
    rw [if_neg (by simp [hrefused])] at hs
    cases hs
    exact Or.inr ⟨s₁.servers, Or.inl rfl, rfl⟩
  · cases hstore
    by_cases hanswered : outcome = .answered
    · -- The new credentials are stored on the server and cached.
      rw [if_pos hanswered] at hs
      cases hs
      exact Or.inl rfl
    · rw [if_neg hanswered] at hs
      cases hs
      -- The server has them, but the answer was lost.
      exact Or.inr ⟨_, Or.inr rfl, rfl⟩

/-- The list of the bindings does not come, or its first binding of the application has this
address, or another one, or there is none. -/
theorem checkBinding_cases (clientSid applicationSid : CString) :
    (outcome ≠ .answered ∧
      checkBinding s call outcome clientSid applicationSid = s.report .error) ∨
    outcome = .answered ∧
      ((∃ binding, findBinding (s.servers.store call.pushLogin).bindings
          s.defaults.application = some binding ∧ binding.address = call.address ∧
        checkBinding s call outcome clientSid applicationSid = s.report .registered) ∨
      (∃ binding, findBinding (s.servers.store call.pushLogin).bindings
          s.defaults.application = some binding ∧ binding.address ≠ call.address ∧
        checkBinding s call outcome clientSid applicationSid =
          s.goOn (.updateBinding call clientSid applicationSid binding)) ∨
      (findBinding (s.servers.store call.pushLogin).bindings s.defaults.application = none ∧
        checkBinding s call outcome clientSid applicationSid =
          s.goOn (.createBinding call clientSid applicationSid))) := by
  unfold checkBinding
  by_cases hanswered : outcome = .answered
  · rw [if_pos hanswered]
    refine Or.inr ⟨hanswered, ?_⟩
    cases hfound : findBinding (s.servers.store call.pushLogin).bindings
        s.defaults.application with
    -- No binding matches the application, so one is created.
    | none => exact Or.inr (Or.inr ⟨rfl, rfl⟩)
    | some binding =>
      -- A binding with the same address is left as it is.
      by_cases haddress : binding.address = call.address
      · exact Or.inl ⟨binding, rfl, haddress, if_pos haddress⟩
      · exact Or.inr (Or.inl ⟨binding, rfl, haddress, if_neg haddress⟩)
  · -- The bindings could not be read.
    rw [if_neg hanswered]
    exact Or.inl ⟨hanswered, rfl⟩

/-- The last request of a call. -/
theorem lastRequest_cases {write : PushStore → Option PushStore}
    (h : ((s.send call.pushLogin outcome write).bind fun s => some (s.finish outcome)) = some s') :
    (outcome = .refused ∧ s' = s.report .error) ∨
      (outcome ≠ .refused ∧ ∃ store, write (s.servers.store call.pushLogin) = some store ∧
        s' = { s with servers := s.servers.setStore call.pushLogin store }.finish outcome) := by
  obtain ⟨s₁, hsend, hs⟩ := Option.bind_eq_some_iff.mp h
  cases hs
  obtain ⟨hrefused, rfl⟩ | ⟨hcarried, store, hstore, rfl⟩ := send_cases hsend
  · refine Or.inl ⟨hrefused, ?_⟩
    rw [PushState.finish, if_neg (by simp [hrefused])]
  · exact Or.inr ⟨hcarried, store, hstore, rfl⟩

/-- A step of a call is a step of its stage. -/
inductive Stepped (s : PushState) (outcome : PushOutcome) (newSid : CString) :
    PushState → Prop where
  | getAccountSid {call : Registration} (hstage : s.stage = .getAccountSid call) :
    Stepped s outcome newSid (getAccountSid s call outcome)
  | getClientSid {call : Registration} {accountSid : CString}
      (hstage : s.stage = .getClientSid call accountSid) :
    Stepped s outcome newSid (getClientSid s call outcome accountSid)
  | getApplicationSid {s' : PushState} {call : Registration} {clientSid : CString}
      (hstage : s.stage = .getApplicationSid call clientSid)
      (h : getApplicationSid s call outcome clientSid = some s') :
    Stepped s outcome newSid s'
  | createApplication {s' : PushState} {call : Registration} {clientSid friendlyName : CString}
      (hstage : s.stage = .createApplication call clientSid friendlyName)
      (h : createApplication s call outcome newSid clientSid friendlyName = some s') :
    Stepped s outcome newSid s'
  | getCredentialsSid {s' : PushState} {call : Registration} {clientSid applicationSid : CString}
      (hstage : s.stage = .getCredentialsSid call clientSid applicationSid)
      (h : getCredentialsSid s call outcome clientSid applicationSid = some s') :
    Stepped s outcome newSid s'
  | createCredentials {s' : PushState} {call : Registration}
      {clientSid applicationSid certificate privateKey : CString}
      (hstage : s.stage =
        .createCredentials call clientSid applicationSid certificate privateKey)
      (h : createCredentials s call outcome newSid clientSid applicationSid certificate
        privateKey = some s') :
    Stepped s outcome newSid s'
  | checkBinding {call : Registration} {clientSid applicationSid : CString}
      (hstage : s.stage = .checkBinding call clientSid applicationSid) :
    Stepped s outcome newSid (checkBinding s call outcome clientSid applicationSid)
  | updateBinding {s' : PushState} {call : Registration} {clientSid applicationSid : CString}
      {binding : RCBinding}
      (hstage : s.stage = .updateBinding call clientSid applicationSid binding)
      (h : updateBinding s call outcome binding = some s') :
    Stepped s outcome newSid s'
  | createBinding {s' : PushState} {call : Registration} {clientSid applicationSid : CString}
      (hstage : s.stage = .createBinding call clientSid applicationSid)
      (h : createBinding s call outcome newSid clientSid applicationSid = some s') :
    Stepped s outcome newSid s'

/-- A step is that of the stage it is taken in. -/
theorem stepped_of_proceed (h : proceed s outcome newSid = some s') :
    Stepped s outcome newSid s' := by
  unfold proceed at h
  cases hstage : s.stage with
  | idle => rw [hstage] at h; cases h
  | getAccountSid call => rw [hstage] at h; cases h; exact .getAccountSid hstage
  | getClientSid call accountSid => rw [hstage] at h; cases h; exact .getClientSid hstage
  | getApplicationSid call clientSid => rw [hstage] at h; exact .getApplicationSid hstage h
  | createApplication call clientSid friendlyName =>
    rw [hstage] at h; exact .createApplication hstage h
  | getCredentialsSid call clientSid applicationSid =>
    rw [hstage] at h; exact .getCredentialsSid hstage h
  | createCredentials call clientSid applicationSid certificate privateKey =>
    rw [hstage] at h; exact .createCredentials hstage h
  | checkBinding call clientSid applicationSid =>
    rw [hstage] at h; cases h; exact .checkBinding hstage
  | updateBinding call clientSid applicationSid binding =>
    rw [hstage] at h; exact .updateBinding hstage h
  | createBinding call clientSid applicationSid => rw [hstage] at h; exact .createBinding hstage h

end Stages

/-! ### What a step leaves on the servers -/

/-- Nothing is taken from the lists, and additions come at their ends. -/
structure Extends (servers servers' : Servers) : Prop where
  accountSid : servers'.accountSid = servers.accountSid
  clients : servers'.clients = servers.clients
  storeOf : servers'.storeOf = servers.storeOf
  applications : ∀ k, (servers.stores k).applications <+: (servers'.stores k).applications
  credentials : ∀ k, (servers.stores k).credentials <+: (servers'.stores k).credentials

namespace Extends
variable {servers : Servers}

/-- Nothing was added. -/
theorem refl (servers : Servers) : Extends servers servers where
  accountSid := rfl
  clients := rfl
  storeOf := rfl
  applications _ := List.prefix_rfl
  credentials _ := List.prefix_rfl

/-- A store whose lists have grown. -/
theorem setStore {login : Login} {store : PushStore}
    (happlications : (servers.store login).applications <+: store.applications)
    (hcredentials : (servers.store login).credentials <+: store.credentials) :
    Extends servers (servers.setStore login store) where
  accountSid := rfl
  clients := rfl
  storeOf := rfl
  applications k := by
    -- Logins of one store see the change, and the others keep their own.
    by_cases hk : k = servers.storeOf login
    · subst hk
      show _ <+: ((servers.setStore login store).store login).applications
      rw [Servers.store_setStore]
      exact happlications
    · rw [Servers.stores_setStore_of_ne servers login store hk]
  credentials k := by
    by_cases hk : k = servers.storeOf login
    · subst hk
      show _ <+: ((servers.setStore login store).store login).credentials
      rw [Servers.store_setStore]
      exact hcredentials
    · rw [Servers.stores_setStore_of_ne servers login store hk]

/-- One application was added. -/
theorem addApplication (servers : Servers) (login : Login) (application : RCApplication) :
    Extends servers
      (servers.setStore login ((servers.store login).addApplication application)) :=
  setStore (List.prefix_append _ _) List.prefix_rfl

/-- One set of credentials was added. -/
theorem addCredentials (servers : Servers) (login : Login) (credentials : RCCredentials) :
    Extends servers
      (servers.setStore login ((servers.store login).addCredentials credentials)) :=
  setStore List.prefix_rfl (List.prefix_append _ _)

end Extends

/-- The bindings are the same too. -/
structure Adds (servers servers' : Servers) : Prop extends Extends servers servers' where
  bindings : ∀ k, (servers'.stores k).bindings = (servers.stores k).bindings

namespace Adds

/-- Nothing was added, and no binding changed. -/
theorem refl (servers : Servers) : Adds servers servers :=
  ⟨.refl servers, fun _ => rfl⟩

/-- A write that leaves the bindings of its store alone leaves all bindings alone. -/
theorem setStore {servers : Servers} {login : Login} {store : PushStore}
    (hext : Extends servers (servers.setStore login store))
    (h : store.bindings = (servers.store login).bindings) :
    Adds servers (servers.setStore login store) := by
  refine ⟨hext, fun k => ?_⟩
  by_cases hk : k = servers.storeOf login
  · subst hk
    show ((servers.setStore login store).store login).bindings = _
    rw [Servers.store_setStore]
    exact h
  · rw [Servers.stores_setStore_of_ne servers login store hk]

end Adds

/-! ### The shape of a step -/

/-- The call of a stage. -/
def callOf : Stage → Option Registration
  | .idle => none
  | .getAccountSid call | .getClientSid call _ | .getApplicationSid call _ => some call
  | .createApplication call _ _ | .getCredentialsSid call _ _ => some call
  | .createCredentials call _ _ _ _ | .checkBinding call _ _ => some call
  | .updateBinding call _ _ _ | .createBinding call _ _ => some call

/-- What a call is about once it comes to its binding. -/
structure PushTarget where
  call : Registration
  clientSid : CString
  applicationSid : CString

/-- The target of a stage, from the lookup of the binding on. -/
def targetOf : Stage → Option PushTarget
  | .checkBinding call clientSid applicationSid => some ⟨call, clientSid, applicationSid⟩
  | .updateBinding call clientSid applicationSid _ => some ⟨call, clientSid, applicationSid⟩
  | .createBinding call clientSid applicationSid => some ⟨call, clientSid, applicationSid⟩
  | _ => none

/-- A step of a call completes a lookup, goes on to another stage of the call, or ends the call
when it has come to its binding. -/
inductive Shape (s : PushState) : PushState → Prop where
  | complete {call : Registration} {kind : SidKind} {next : CString → Stage}
      {answer : Option CString} {defaults : UserDefaults} {servers : Servers} :
      callOf s.stage = some call → (∀ sid, callOf (next sid) = some call) →
      Adds s.servers servers →
      Shape s ({ s with defaults := defaults, servers := servers }.complete call kind next answer)
  | goOn {stage : Stage} : callOf stage = callOf s.stage → Shape s (s.goOn stage)
  | report {result : Report} {servers : Servers} :
      targetOf s.stage ≠ none → Extends s.servers servers →
      Shape s ({ s with servers := servers }.report result)

section Shape
variable {s s' : PushState} {call : Registration} {outcome : PushOutcome} {newSid : CString}
  {clientSid applicationSid : CString}

/-- The first stage changes no server. -/
theorem shape_getAccountSid (hcall : callOf s.stage = some call) :
    Shape s (getAccountSid s call outcome) := by
  obtain ⟨_, -, -, heq⟩ | ⟨-, _, _, heq, -⟩ := @getAccountSid_cases s call outcome
  · rw [heq]
    exact .complete hcall (fun _ => rfl) (.refl _)
  · rw [heq]
    exact .complete hcall (fun _ => rfl) (.refl _)

/-- The second stage changes no server. -/
theorem shape_getClientSid (accountSid : CString) (hcall : callOf s.stage = some call) :
    Shape s (getClientSid s call outcome accountSid) := by
  obtain ⟨_, -, -, heq⟩ | ⟨-, _, _, heq, -⟩ := @getClientSid_cases s call outcome accountSid
  · rw [heq]
    exact .complete hcall (fun _ => rfl) (.refl _)
  · rw [heq]
    exact .complete hcall (fun _ => rfl) (.refl _)

/-- The lookup of the application changes no server. -/
theorem shape_getApplicationSid (hcall : callOf s.stage = some call)
    (h : getApplicationSid s call outcome clientSid = some s') : Shape s s' := by
  obtain ⟨_, -, -, rfl⟩ | ⟨-, ⟨_, -, rfl⟩ | ⟨_, -, -, rfl⟩ | rfl⟩ := getApplicationSid_cases h
  · exact .complete hcall (fun _ => rfl) (.refl _)
  · exact .complete hcall (fun _ => rfl) (.refl _)
  · exact .goOn hcall.symm
  · exact .complete hcall (fun _ => rfl) (.refl _)

/-- The `POST` may have stored the application even where its answer is lost. -/
theorem shape_createApplication {friendlyName : CString} (hcall : callOf s.stage = some call)
    (h : createApplication s call outcome newSid clientSid friendlyName = some s') :
    Shape s s' := by
  have hadds := Adds.setStore (.addApplication s.servers call.pushLogin
    ⟨newSid, friendlyName, call.sandbox⟩) rfl
  obtain rfl | ⟨servers, rfl | rfl, rfl⟩ := createApplication_cases h
  · exact .complete hcall (fun _ => rfl) hadds
  · exact .complete hcall (fun _ => rfl) (.refl _)
  · exact .complete hcall (fun _ => rfl) hadds

/-- The lookup of the credentials changes no server. -/
theorem shape_getCredentialsSid (hcall : callOf s.stage = some call)
    (h : getCredentialsSid s call outcome clientSid applicationSid = some s') : Shape s s' := by
  obtain ⟨_, -, -, rfl⟩ | ⟨-, ⟨_, -, rfl⟩ | ⟨_, _, -, rfl⟩ | rfl⟩ := getCredentialsSid_cases h
  · exact .complete hcall (fun _ => rfl) (.refl _)
  · exact .complete hcall (fun _ => rfl) (.refl _)
  · exact .goOn hcall.symm
  · exact .complete hcall (fun _ => rfl) (.refl _)

/-- As for the application: stored or not, only the credentials can have grown. -/
theorem shape_createCredentials {certificate privateKey : CString}
    (hcall : callOf s.stage = some call)
    (h : createCredentials s call outcome newSid clientSid applicationSid certificate privateKey =
      some s') : Shape s s' := by
  have hadds := Adds.setStore (.addCredentials s.servers call.pushLogin
    ⟨newSid, applicationSid, "apn".toList, certificate, privateKey⟩) rfl
  obtain rfl | ⟨servers, rfl | rfl, rfl⟩ := createCredentials_cases h
  · exact .complete hcall (fun _ => rfl) hadds
  · exact .complete hcall (fun _ => rfl) (.refl _)
  · exact .complete hcall (fun _ => rfl) hadds

/-- From here on both sids are known, so the step may report the result. -/
theorem shape_checkBinding (hcall : callOf s.stage = some call)
    (htarget : targetOf s.stage ≠ none) :
    Shape s (checkBinding s call outcome clientSid applicationSid) := by
  obtain ⟨-, heq⟩ | ⟨-, ⟨_, -, -, heq⟩ | ⟨_, -, -, heq⟩ | ⟨-, heq⟩⟩ :=
    checkBinding_cases clientSid applicationSid
  · rw [heq]
    exact .report htarget (.refl _)
  · rw [heq]
    exact .report htarget (.refl _)
  · rw [heq]
    exact .goOn hcall.symm
  · rw [heq]
    exact .goOn hcall.symm

/-- The requests that write a binding leave the other lists alone. -/
theorem shape_lastRequest {write : PushStore → Option PushStore} (htarget : targetOf s.stage ≠ none)
    (hwrite : ∀ store store', write store = some store' →
      store'.applications = store.applications ∧ store'.credentials = store.credentials)
    (h : ((s.send call.pushLogin outcome write).bind fun s => some (s.finish outcome)) =
      some s') : Shape s s' := by
  obtain ⟨-, rfl⟩ | ⟨-, store, hstore, rfl⟩ := lastRequest_cases h
  · exact .report htarget (.refl _)
  · obtain ⟨happlications, hcredentials⟩ := hwrite _ _ hstore
    exact .report htarget
      (.setStore (happlications ▸ List.prefix_rfl) (hcredentials ▸ List.prefix_rfl))

/-- What every stage has in common. -/
theorem shape_proceed (h : proceed s outcome newSid = some s') : Shape s s' := by
  have hcallOf {stage : Stage} (hstage : s.stage = stage) : callOf s.stage = callOf stage :=
    congrArg callOf hstage
  have htarget {stage : Stage} (hstage : s.stage = stage) (hsome : targetOf stage ≠ none) :
      targetOf s.stage ≠ none := hstage ▸ hsome
  cases stepped_of_proceed h with
  -- The stages before the binding keep the target of the run.
  | getAccountSid hstage => exact shape_getAccountSid (hcallOf hstage)
  | getClientSid hstage => exact shape_getClientSid _ (hcallOf hstage)
  | getApplicationSid hstage h => exact shape_getApplicationSid (hcallOf hstage) h
  | createApplication hstage h => exact shape_createApplication (hcallOf hstage) h
  | getCredentialsSid hstage h => exact shape_getCredentialsSid (hcallOf hstage) h
  | createCredentials hstage h => exact shape_createCredentials (hcallOf hstage) h
  | checkBinding hstage =>
    exact shape_checkBinding (hcallOf hstage) (htarget hstage (by simp [targetOf]))
  -- The last request rewrites bindings only.
  | updateBinding hstage h =>
    refine shape_lastRequest (htarget hstage (by simp [targetOf])) (fun store store' hwrite => ?_) h
    obtain ⟨happlications, hcredentials, -⟩ := PushStore.eq_of_putBinding hwrite
    exact ⟨happlications, hcredentials⟩
  | createBinding hstage h =>
    refine shape_lastRequest (htarget hstage (by simp [targetOf])) (fun store store' hwrite => ?_) h
    obtain ⟨-, happlications, hcredentials, -⟩ := PushStore.eq_of_postBinding hwrite
    exact ⟨happlications, hcredentials⟩

end Shape

section Consequences
variable {s s' : PushState} {outcome : PushOutcome} {newSid : CString}

/-- A call only ever adds applications and credentials. -/
theorem extends_proceed (h : proceed s outcome newSid = some s') :
    Extends s.servers s'.servers := by
  cases shape_proceed h with
  | complete _ _ hadds =>
    rw [complete_servers]
    exact hadds.toExtends
  | goOn _ => exact .refl _
  | report _ hext => exact hext

/-- A call stays the same call until it ends. -/
theorem callOf_proceed (h : proceed s outcome newSid = some s') :
    ∀ call ∈ callOf s'.stage, call ∈ callOf s.stage := by
  intro call hcall
  cases shape_proceed h with
  | @complete _ _ _ answer _ _ hstage hnext _ =>
    cases answer with
    | none => cases hcall
    | some sid =>
      rw [hstage, ← hnext sid]
      exact hcall
  | goOn hsame =>
    rw [← hsame]
    exact hcall
  | report _ _ => cases hcall

/-- The stages before the binding neither write one nor end in success. -/
theorem bindings_proceed (htarget : targetOf s.stage = none)
    (h : proceed s outcome newSid = some s') :
    (∀ k, (s'.servers.stores k).bindings = (s.servers.stores k).bindings) ∧
      s'.queued ≠ some .registered := by
  cases shape_proceed h with
  | complete _ _ hadds =>
    rw [complete_servers]
    exact ⟨hadds.bindings, by simp⟩
  | goOn _ => exact ⟨fun _ => rfl, by simp [PushState.goOn]⟩
  | report hsome _ => exact absurd htarget hsome

end Consequences

/-! ### What one stage hands to the next -/

/-- What a stage may take for granted, whatever the calls before it left in `NSUserDefaults`. -/
def LinkedStage (servers : Servers) (defaults : UserDefaults) : Stage → Prop
  | .createApplication call _ friendlyName =>
    call.friendlyName = some friendlyName ∧
      findApplication (servers.store call.pushLogin).applications call.friendlyName
        call.sandbox = none
  | .getCredentialsSid _ _ applicationSid =>
    defaults.application.map (·.sid) = some applicationSid
  | .createCredentials call _ applicationSid _ _ =>
    defaults.application.map (·.sid) = some applicationSid ∧
      findCredentials (servers.store call.pushLogin).credentials defaults.application = none
  | .checkBinding _ _ applicationSid => defaults.application.map (·.sid) = some applicationSid
  | .updateBinding call _ applicationSid binding =>
    binding ∈ (servers.store call.pushLogin).bindings ∧
      binding.applicationSid = applicationSid ∧ binding.address ≠ call.address
  | _ => True

/-- What the present stage relies on. -/
def Linked (s : PushState) : Prop := LinkedStage s.servers s.defaults s.stage

section Linked
variable {s s' : PushState} {call : Registration} {outcome : PushOutcome} {newSid : CString}
  {clientSid applicationSid : CString}

/-- A lookup hands on what the next stage may take for granted, if it finds a sid. -/
theorem linked_complete {kind : SidKind} {next : CString → Stage} {answer : Option CString}
    (h : ∀ sid ∈ answer, LinkedStage s.servers s.defaults (next sid)) :
    Linked (s.complete call kind next answer) := by
  cases answer with
  | none => trivial
  | some sid => exact h sid rfl

/-- The next stage is that of the client, which needs no link. -/
theorem linked_getAccountSid : Linked (getAccountSid s call outcome) := by
  obtain ⟨_, -, -, heq⟩ | ⟨-, _, _, heq, -⟩ := @getAccountSid_cases s call outcome
  · rw [heq]
    trivial
  · rw [heq]
    exact linked_complete fun _ _ => trivial

/-- The next stage is that of the application, which needs no link. -/
theorem linked_getClientSid (accountSid : CString) :
    Linked (getClientSid s call outcome accountSid) := by
  obtain ⟨_, -, -, heq⟩ | ⟨-, _, _, heq, -⟩ := @getClientSid_cases s call outcome accountSid
  · rw [heq]
    trivial
  · rw [heq]
    exact linked_complete fun _ _ => trivial

/-- The sid comes from what `NSUserDefaults` holds, or from what it holds from now on. -/
theorem linked_getApplicationSid (h : getApplicationSid s call outcome clientSid = some s') :
    Linked s' := by
  obtain ⟨application, hcached, -, rfl⟩ | ⟨-, ⟨application, -, rfl⟩ | ⟨name, hname, hnone, rfl⟩ |
    rfl⟩ := getApplicationSid_cases h
  · show s.defaults.application.map (·.sid) = some application.sid
    rw [hcached]
    rfl
  · rfl
  · exact ⟨hname, hnone⟩
  · trivial

/-- The application that was added is the one in `NSUserDefaults`. -/
theorem linked_createApplication {friendlyName : CString}
    (h : createApplication s call outcome newSid clientSid friendlyName = some s') :
    Linked s' := by
  obtain rfl | ⟨servers, -, rfl⟩ := createApplication_cases h
  · rfl
  · trivial

/-- The application stays, and the lookup has found nothing when an entry is made. -/
theorem linked_getCredentialsSid
    (hlinked : s.defaults.application.map (·.sid) = some applicationSid)
    (h : getCredentialsSid s call outcome clientSid applicationSid = some s') : Linked s' := by
  obtain ⟨_, -, -, rfl⟩ | ⟨-, ⟨_, -, rfl⟩ | ⟨_, _, hnone, rfl⟩ | rfl⟩ := getCredentialsSid_cases h
  · exact hlinked
  · exact hlinked
  · exact ⟨hlinked, hnone⟩
  · trivial

/-- The application stays. -/
theorem linked_createCredentials {certificate privateKey : CString}
    (hlinked : s.defaults.application.map (·.sid) = some applicationSid)
    (h : createCredentials s call outcome newSid clientSid applicationSid certificate privateKey =
      some s') : Linked s' := by
  obtain rfl | ⟨servers, -, rfl⟩ := createCredentials_cases h
  · exact hlinked
  · trivial

/-- The application in `NSUserDefaults` is the one of this call. -/
theorem linked_checkBinding
    (hlinked : s.defaults.application.map (·.sid) = some applicationSid) :
    Linked (checkBinding s call outcome clientSid applicationSid) := by
  obtain ⟨-, heq⟩ | ⟨-, ⟨_, -, -, heq⟩ | ⟨binding, hfound, haddress, heq⟩ | ⟨-, heq⟩⟩ :=
    checkBinding_cases clientSid applicationSid
  · rw [heq]
    trivial
  · rw [heq]
    trivial
  · rw [heq]
    have hsid := List.find?_some hfound
    rw [hlinked] at hsid
    exact ⟨List.mem_of_find?_eq_some hfound, by simpa using hsid, haddress⟩
  · rw [heq]
    trivial

/-- The call has ended. -/
theorem linked_lastRequest {write : PushStore → Option PushStore}
    (h : ((s.send call.pushLogin outcome write).bind fun s => some (s.finish outcome)) =
      some s') : Linked s' := by
  obtain ⟨-, rfl⟩ | ⟨-, _, -, rfl⟩ := lastRequest_cases h <;> trivial

/-- One stage hands to the next what that one needs. -/
theorem linked_proceed (hlinked : Linked s) (h : proceed s outcome newSid = some s') :
    Linked s' := by
  unfold Linked at hlinked
  cases stepped_of_proceed h with
  | getAccountSid hstage => exact linked_getAccountSid
  | getClientSid hstage => exact linked_getClientSid _
  | getApplicationSid hstage h => exact linked_getApplicationSid h
  | createApplication hstage h => exact linked_createApplication h
  | getCredentialsSid hstage h =>
    rw [hstage] at hlinked
    exact linked_getCredentialsSid hlinked h
  | createCredentials hstage h =>
    rw [hstage] at hlinked
    exact linked_createCredentials hlinked.1 h
  | checkBinding hstage =>
    rw [hstage] at hlinked
    exact linked_checkBinding hlinked
  | updateBinding hstage h => exact linked_lastRequest h
  | createBinding hstage h => exact linked_lastRequest h

end Linked

/-- What starts a call leaves `NSUserDefaults` and the servers alone. -/
theorem registerDevice_eq {s s' : PushState} {handler : PushHandler}
    (h : pushStep s (.registerDevice handler) = some s') :
    s'.defaults = s.defaults ∧ s'.servers = s.servers ∧ s'.used = none ∧
      s'.queued ≠ some .registered ∧
      (s'.stage = .idle ∨ ∃ call : Registration, call.toPushHandler = handler ∧
        s'.stage = .getAccountSid call) := by
  unfold pushStep at h
  dsimp only at h
  split at h
  · cases h
    obtain ⟨_, heq⟩ | ⟨call, hcall, heq⟩ := @registerDevice_cases s handler
    · rw [heq]
      exact ⟨rfl, rfl, rfl, by simp [PushState.report], Or.inl rfl⟩
    · rw [heq]
      exact ⟨rfl, rfl, rfl, by simp [PushState.goOn], Or.inr ⟨call, hcall, rfl⟩⟩
  · cases h

/-- A new call begins at the first stage, which needs no link. -/
theorem linked_step {s s' : PushState} {input : PushInput} (hlinked : Linked s)
    (h : pushStep s input = some s') : Linked s' := by
  cases input with
  | registerDevice handler =>
    obtain ⟨-, -, -, -, hidle | ⟨call, -, hcall⟩⟩ := registerDevice_eq h
    · rw [Linked, hidle]
      trivial
    · rw [Linked, hcall]
      trivial
  | proceed outcome newSid => exact linked_proceed hlinked h

end RestCommSdk.Proofs
