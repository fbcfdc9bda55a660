import RestCommSdk.Proofs.PushOutcomes

/-!
# `RestCommSdk.Proofs.PushReports`: registering with any answers

`good_step_iff` is the step from one method of the push handler to the next, and `good_binding_iff`
the end of the registration. `InOrder` puts the outcomes one after the other as `registerDevice`
does, each with what it needs for its report to be heard. `reportsOnce_iff` is the main result: the
registration ends as it should in these cases and in no others. `createRefused_registerDevice` is
one of the others.
-/

set_option autoImplicit false

namespace RestCommSdk.Proofs

open RestCommSdk.CliInterface (CString)
open RestCommSdk.Push (Object)
open RestCommSdk.Push.Dynamic

/-! ### The property -/

/-- A call that has ended without an exception in one report, without an error only when there is a
binding, and whose failed steps have left the entries as they were. -/
def Good (ended : Option PushRun) : Prop :=
  ∃ run, ended = some run ∧ run.reports.length = 1 ∧ (none ∈ run.reports → run.bound = true) ∧
    ∀ entries ∈ run.failed, entries.2 = entries.1

/-! ### The binding -/

/-- What is sent for a binding is there and can be written. -/
def BindingToSend (binding : RCBinding) : Prop :=
  ∀ member ∈ [binding.identity, binding.applicationSid, binding.bindingType, binding.address],
    ∃ object, member = some object ∧ object.isJSON

section Outcome
variable (foundation : Foundation) (handler : PushHandler) (answers : Answers)

/-- A binding that can be sent, and an answer to it that is an error or a dictionary. -/
def BindingSent (binding : RCBinding) (bindingSid : Option Object) : Prop :=
  BindingToSend binding ∧
    ((∃ error, Refused (bindingRequest foundation handler binding bindingSid) answers.binding
        error) ∨
      ∃ sent, Given (bindingRequest foundation handler binding bindingSid) answers.binding
        (some sent))

/-- The list of the bindings can be searched for an application, and comes to this. -/
def BindingsListed (application : Option RCApplication) (found : Option RCBinding) : Prop :=
  GivenInList (bindingsRequest foundation handler application) answers.bindings
    (isFor application) found

/-- The request for the bindings comes to nothing, the binding is on the server with this address or
with another one, or there is none. -/
inductive BindingOutcome (token : CString) (clientSid applicationSid : Object) (d : UserDefaults) :
    Prop
  | refused {application : Option RCApplication} {error : PushError}
    (happlication : unarchive d.application = some application)
    (hrefused : Refused (bindingsRequest foundation handler application) answers.bindings error)
    (hline : readsArguments
      ("Error checking binding sid: ".toList ++ error.description foundation) = false)
  | current {application : Option RCApplication} {binding : RCBinding}
    (happlication : unarchive d.application = some application)
    (hlisted : BindingsListed foundation handler answers application (some binding))
    (haddress : Object.isEqualToString (some (.string token)) binding.address = some true)
  | updated {application : Option RCApplication} {binding : RCBinding}
    (happlication : unarchive d.application = some application)
    (hlisted : BindingsListed foundation handler answers application (some binding))
    (haddress : Object.isEqualToString (some (.string token)) binding.address = some false)
    (hsent : BindingSent foundation handler answers
      { binding with address := some (.string token) } binding.sid)
  | created {application : Option RCApplication}
    (happlication : unarchive d.application = some application)
    (hlisted : BindingsListed foundation handler answers application none)
    (hsent : BindingSent foundation handler answers
      (bindingToSend token clientSid applicationSid) none)

end Outcome

section Binding
variable {foundation : Foundation} {handler : PushHandler} {answers : Answers} {d : UserDefaults}

/-- An exception is no report. -/
theorem not_good_none : ¬Good none := by
  rintro ⟨run, h, -⟩
  cases h

/-- Without a report it does not end well. -/
theorem not_good_of_reports {run : PushRun} (h : run.reports = []) : ¬Good (some run) := by
  rintro ⟨run', hrun, hone, -⟩
  cases hrun
  simp [h] at hone

/-- A report with an error is good behind a step that has touched nothing, when it is made. -/
theorem good_failed_iff (error : PushError) :
    Good (some (report handler (some error) (PushRun.fail d { defaults := d }))) ↔
      handler.hasDelegate = true ∧ handler.isKept = true := by
  rw [← Bool.and_eq_true, report]
  cases handler.hasDelegate && handler.isKept with
  | false => exact iff_of_false (not_good_of_reports rfl) (by simp)
  | true =>
    refine iff_of_true ⟨_, rfl, rfl, by simp [PushRun.fail, PushRun.registeredForPush], ?_⟩ rfl
    rintro entries hentries
    obtain rfl := List.mem_singleton.mp hentries
    rfl

/-- A report without an error is good when there is a binding, and when it is made. -/
theorem good_bound_iff :
    Good (some (report handler none { defaults := d, bound := true })) ↔
      handler.hasDelegate = true ∧ handler.isKept = true := by
  rw [← Bool.and_eq_true, report]
  cases handler.hasDelegate && handler.isKept with
  | false => exact iff_of_false (not_good_of_reports rfl) (by simp)
  | true =>
    exact iff_of_true ⟨_, rfl, rfl, fun _ => rfl, by simp [PushRun.registeredForPush]⟩ rfl

/-- The last request reports once if its answer can be read. -/
theorem good_createOrUpdateBinding_iff (binding : RCBinding) (bindingSid : Option Object) :
    Good (createOrUpdateBinding foundation handler binding bindingSid answers.binding
        (bindingSent handler d) { defaults := d }) ↔
      (handler.hasDelegate = true ∧ handler.isKept = true) ∧
        BindingSent foundation handler answers binding bindingSid := by
  rw [createOrUpdateBinding, BindingSent, BindingToSend, ← canWrite_iff]
  cases canWrite [binding.identity, binding.applicationSid, binding.bindingType,
    binding.address] with
  -- A member of the body is missing, and the request raises.
  | false => simp [not_good_none]
  | true =>
    simp only [if_true, true_and, dictionaryRequest_eq]
    cases hanswer : dictionaryAnswer (bindingRequest foundation handler binding bindingSid)
      answers.binding with
    | none =>
      -- A request that raises was neither refused nor answered.
      refine iff_of_false not_good_none ?_
      rintro ⟨-, ⟨error, hrefused⟩ | ⟨sent, hgiven⟩⟩
      · rw [dictionaryAnswer_error_iff.mpr hrefused] at hanswer
        cases hanswer
      · rw [dictionaryAnswer_ok_iff.mpr hgiven] at hanswer
        cases hanswer
    | some result =>
      cases result with
      | error error =>
        have hrefused := dictionaryAnswer_error_iff.mp hanswer
        -- Refused or answered, one report is queued, for a delegate that is there.
        exact (good_failed_iff error).trans (and_iff_left (Or.inl ⟨error, hrefused⟩)).symm
      | ok object =>
        have hgiven := dictionaryAnswer_ok_iff.mp hanswer
        cases object with
        -- A request for one object never answers nil.
        | none => exact absurd hgiven (not_given_none rfl)
        | some sent => exact good_bound_iff.trans (and_iff_left (Or.inr ⟨sent, hgiven⟩)).symm

/-- The lookup of the binding, as its answer and what is done with it. -/
theorem checkBindingSid_eq {application : Option RCApplication}
    (happlication : unarchive d.application = some application)
    (completionHandler : Option RCBinding → Option PushError → Rest) :
    checkBindingSid foundation handler answers completionHandler { defaults := d } =
      (listAnswer (bindingsRequest foundation handler application) answers.bindings
        (isFor application)).bind
          fun result => deliver completionHandler result { defaults := d } := by
  simp only [checkBindingSid, checkExistingBindingSid, happlication, bind, Option.bind_some,
    listRequest_eq]

/-- The lookup of the binding, and the last request after it. -/
theorem good_binding_iff (token : CString) (clientSid applicationSid : Object) :
    Good (checkBindingSid foundation handler answers
        (bindingChecked foundation handler answers token clientSid applicationSid d)
        { defaults := d }) ↔
      (handler.hasDelegate = true ∧ handler.isKept = true) ∧
        BindingOutcome foundation handler answers token clientSid applicationSid d := by
  constructor
  · intro h
    cases happlication : unarchive d.application with
    -- The saved application cannot be unarchived.
    | none => simp [checkBindingSid, happlication, not_good_none] at h
    | some application =>
      rw [checkBindingSid_eq happlication] at h
      cases hanswer : listAnswer (bindingsRequest foundation handler application) answers.bindings
        (isFor application) with
      | none =>
        rw [hanswer] at h
        exact absurd h not_good_none
      | some result =>
        rw [hanswer, Option.bind_some] at h
        cases result with
        | error error =>
          simp only [deliver, bindingChecked] at h
          -- The error is logged before it is reported.
          cases hline : rcLog ("Error checking binding sid: ".toList ++
            error.description foundation) with
          | none =>
            rw [hline] at h
            exact absurd h not_good_none
          | some _ =>
            rw [hline] at h
            exact ⟨(good_failed_iff error).mp h, .refused happlication
              (listAnswer_error_iff.mp hanswer) (rcLog_eq_some_iff.mp hline)⟩
        | ok found =>
          have hlisted := listAnswer_ok_iff.mp hanswer
          cases found with
          -- No binding of the application: one is created.
          | none =>
            obtain ⟨hmade, hsent⟩ := (good_createOrUpdateBinding_iff
              (bindingToSend token clientSid applicationSid) none).mp h
            exact ⟨hmade, .created happlication hlisted hsent⟩
          | some binding =>
            simp only [deliver, bindingChecked] at h
            -- The token is compared with the address of the binding, which may be no text.
            cases haddress : Object.isEqualToString (some (.string token)) binding.address with
            | none => simp [haddress, not_good_none] at h
            | some same =>
              cases same with
              | true =>
                simp only [haddress, bind, Option.bind_some] at h
                exact ⟨good_bound_iff.mp h, .current happlication hlisted haddress⟩
              -- The address is another one, and the binding is updated.
              | false =>
                simp only [haddress, bind, Option.bind_some] at h
                obtain ⟨hmade, hsent⟩ := (good_createOrUpdateBinding_iff
                  { binding with address := some (.string token) } binding.sid).mp h
                exact ⟨hmade, .updated happlication hlisted haddress hsent⟩
  · rintro ⟨hmade, h⟩
    cases h with
    | @refused _ error happlication hrefused hline =>
      rw [checkBindingSid_eq happlication, listAnswer_error_iff.mpr hrefused]
      simp only [Option.bind_some, deliver, bindingChecked, rcLog_eq_some_iff.mpr hline]
      exact (good_failed_iff error).mpr hmade
    | current happlication hlisted haddress =>
      rw [checkBindingSid_eq happlication, listAnswer_ok_iff.mpr hlisted]
      simp only [Option.bind_some, deliver, bindingChecked, haddress]
      exact good_bound_iff.mpr hmade
    | @updated _ binding happlication hlisted haddress hsent =>
      rw [checkBindingSid_eq happlication, listAnswer_ok_iff.mpr hlisted]
      simp only [Option.bind_some, deliver, bindingChecked, haddress]
      exact (good_createOrUpdateBinding_iff { binding with address := some (.string token) }
        binding.sid).mpr ⟨hmade, hsent⟩
    | created happlication hlisted hsent =>
      rw [checkBindingSid_eq happlication, listAnswer_ok_iff.mpr hlisted]
      exact (good_createOrUpdateBinding_iff (bindingToSend token clientSid applicationSid)
        none).mpr ⟨hmade, hsent⟩

end Binding

/-! ### One step after the other -/

/-- An outcome of a step, and what comes after it. Without a sid this is the report of an error. -/
def Then (handler : PushHandler) (outcome : Option Object → UserDefaults → Prop)
    (next : Object → UserDefaults → Prop) : Prop :=
  ∃ sid d, outcome sid d ∧ (sid = none → handler.hasDelegate = true) ∧ ∀ s ∈ sid, next s d

/-- One step, and what comes after it. -/
theorem good_step_iff {method : (Option Object → Rest) → Rest} {result : UserDefaults → Result}
    (h : CallsBack method result) (handler : PushHandler) (errorDescription : String)
    (next : Object → Rest) (d : UserDefaults) :
    Good (step handler method errorDescription next { defaults := d }) ↔
      Then handler (Keeps result d) fun sid d => Good (next sid { defaults := d }) := by
  -- The next step starts with what this one has answered.
  have hstep : step handler method errorDescription next { defaults := d } =
      (result d).bind fun r => goOn handler d errorDescription next r.1 { defaults := r.2 } :=
    h _ d
  simp only [hstep, Then, Keeps]
  cases result d with
  | none => simp [Good]
  | some r =>
    obtain ⟨sid, d'⟩ := r
    cases sid with
    -- Nil is answered: the run ends with one report of an error.
    | none =>
      cases hdelegate : handler.hasDelegate <;>
        simp [Good, goOn, formatAndDelegateError, hdelegate, PushRun.fail,
          PushRun.registeredForPush]
    | some sid => simp [goOn]

/-- The same steps in other words. -/
theorem then_congr {handler : PushHandler} {outcome outcome' : Option Object → UserDefaults → Prop}
    {next next' : Object → UserDefaults → Prop}
    (houtcome : ∀ {sid d}, outcome sid d ↔ outcome' sid d) (hnext : ∀ s d, next s d ↔ next' s d) :
    Then handler outcome next ↔ Then handler outcome' next' := by
  simp only [Then, houtcome, hnext]

section Registration
variable (foundation : Foundation) (handler : PushHandler) (answers : Answers) (d : UserDefaults)

/-- One outcome behind the other, as far as there are sids. The report at the end finds the handler
and its delegate. -/
def InOrder (token : CString) : Prop :=
  Then handler (AccountOutcome foundation handler answers d) fun accountSid d =>
    Then handler (ClientOutcome foundation handler answers d accountSid) fun clientSid d =>
      Then handler (ApplicationOutcome foundation handler answers d) fun applicationSid d =>
        Then handler (CredentialsOutcome foundation handler answers d applicationSid) fun _ d =>
          (handler.hasDelegate = true ∧ handler.isKept = true) ∧
            BindingOutcome foundation handler answers token clientSid applicationSid d

/-- The whole registration, step by step. -/
theorem good_registerDevice_iff {token : CString} (htoken : handler.token = some token)
    (hne : token ≠ []) :
    Good (registerDevice foundation handler answers { defaults := d }) ↔
      InOrder foundation handler answers d token := by
  -- With a token the method is four steps and the binding, one inside the other.
  have hrun : registerDevice foundation handler answers { defaults := d } =
      step handler (getAccountSid foundation handler answers) "Account sid is nil or empty."
        (fun accountSid =>
          step handler (getClientSid foundation handler answers accountSid)
            "ClientSid is nil or empty." fun clientSid =>
              step handler (getApplicationSid foundation handler answers)
                "ApplicationSid is nil or empty." fun applicationSid =>
                  step handler (getCredentialsSid foundation handler answers applicationSid)
                    "CredentialsSid is nil or empty." fun _ run =>
                      checkBindingSid foundation handler answers
                        (bindingChecked foundation handler answers token clientSid applicationSid
                          run.defaults) run)
        { defaults := d } := by
    cases token with
    | nil => exact absurd rfl hne
    | cons c token => simp only [registerDevice, htoken]
  rw [hrun, good_step_iff (callsBack_getAccountSid foundation handler answers)]
  refine then_congr accountOutcome_iff.symm fun accountSid d => ?_
  rw [good_step_iff (callsBack_getClientSid foundation handler answers accountSid)]
  refine then_congr clientOutcome_iff.symm fun clientSid d => ?_
  rw [good_step_iff (callsBack_getApplicationSid foundation handler answers)]
  refine then_congr applicationOutcome_iff.symm fun applicationSid d => ?_
  rw [good_step_iff (callsBack_getCredentialsSid foundation handler answers applicationSid)]
  exact then_congr credentialsOutcome_iff.symm fun _ d =>
    good_binding_iff token clientSid applicationSid

/-- The only report of a call without a token. -/
theorem good_formatAndDelegateError_iff (errorDescription : String) :
    Good (some (formatAndDelegateError handler errorDescription { defaults := d })) ↔
      handler.hasDelegate = true := by
  cases hdelegate : handler.hasDelegate <;>
    simp [Good, formatAndDelegateError, hdelegate, PushRun.registeredForPush]

/-- Registering ends without an exception, in one report that says what is true, and with no entry
touched by a step that has failed, if and only if the outcomes are in order, or there is a delegate
to hear that there is no token. -/
theorem reportsOnce_iff :
    Good (registerDevice foundation handler answers { defaults := d }) ↔
      (handler.token.getD [] = [] → handler.hasDelegate = true) ∧
        ∀ token ∈ handler.token, token ≠ [] → InOrder foundation handler answers d token := by
  cases htoken : handler.token with
  | none =>
    simp only [registerDevice, htoken]
    rw [show (pure _ : Option PushRun) = some _ from rfl, good_formatAndDelegateError_iff]
    simp
  | some token =>
    cases token with
    | nil =>
      simp only [registerDevice, htoken]
      rw [show (pure _ : Option PushRun) = some _ from rfl, good_formatAndDelegateError_iff]
      simp
    | cons c token =>
      rw [good_registerDevice_iff foundation handler answers d htoken (List.cons_ne_nil c token)]
      simp

end Registration

/-- The sids are known, with an application that is not the one for the sandbox. -/
def productionEntries : UserDefaults where
  accountSid := some (.string "AC1".toList)
  clientSid := some (.string "CL1".toList)
  application := some (.object
    { sid := some (.string "AP1".toList)
      friendlyName := some (.string "Olympus".toList)
      sandbox := false })

/-- What Foundation makes of URLs and emails that need no escapes. -/
def plainTexts : Foundation where
  description _ := []
  urlWithString := id
  addingPercentEscapes := id
  errorDescription text := "Error Domain=RestcommClient-iOS-SDK: ".toList ++ text

/-- A handler for the sandbox. -/
def sandboxHandler : PushHandler where
  signalingUsername := some "bob".toList
  friendlyName := some "Olympus".toList
  pushDomain := some "staging.restcomm.com".toList
  httpDomain := some "cloud.restcomm.com".toList
  token := some "740f4707".toList
  sandbox := true
  hasDelegate := true
  isKept := true

/-- The server has no application, and does not create one. -/
def createRefused : Answers where
  account := .failed [] []
  client := .failed [] []
  application := .response 200 (.array [])
  createApplication := .response 500 (.notJSON [])
  credentials := .failed [] []
  createCredentials := .failed [] []
  bindings := .failed [] []
  binding := .failed [] []

/-- The error of the request is not looked at, and `nil` is archived over the application. -/
theorem createRefused_registerDevice :
    ¬Good (registerDevice plainTexts sandboxHandler createRefused
      { defaults := productionEntries }) := by
  rintro ⟨run, hrun, -, -, hfailed⟩
  cases hrun
  have hentries := hfailed (productionEntries, { productionEntries with application := some .nil })
    (List.mem_singleton.mpr rfl)
  cases congrArg UserDefaults.application hentries

end RestCommSdk.Proofs
