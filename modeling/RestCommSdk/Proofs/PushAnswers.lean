import RestCommSdk.Push.RegisterDevice

/-!
# `RestCommSdk.Proofs.PushAnswers`: what a request of the push registration comes to

A request for a dictionary or for a list calls its completion handler with an error or with an
object, or throws. `dictionaryRequest_eq` and `listRequest_eq` say so: `dictionaryAnswer` and
`listAnswer` are what the handler is called with. `Refused` says for which answers this is an
error, `Given` and `GivenInList` for which it is an object.
-/

set_option autoImplicit false

namespace RestCommSdk.Proofs

open RestCommSdk.CliInterface (CString)
open RestCommSdk.Push (Object)
open RestCommSdk.Push.Dynamic

/-! ### Answers -/

/-- The object in an answer, if there is one. -/
def jsonOf : Answer → Option Object
  | .response 200 (.array elements) => some (.array elements)
  | .response 200 (.object members) => some (.dictionary members)
  | _ => none

/-- An answer without an object, and the error that becomes of it. What Foundation says of it is a
format, which must have no conversion. -/
inductive Fails (method what : String) : Answer → PushError → Prop
  | transport {description localizedDescription : CString}
    (hline : readsArguments (errorLine method description) = false) :
    Fails method what (.failed description localizedDescription)
      (.transport description localizedDescription)
  | status {statusCode : Nat} {body : Body} (hcode : statusCode ≠ 200) :
    Fails method what (.response statusCode body)
      (.described ("PushApiManager: Http status code diff than 200: ".toList ++
        (statusCodeDescription statusCode).toList))
  | notJSON {description : CString}
    (hline : readsArguments (errorLine method description) = false) :
    Fails method what (.response 200 (.notJSON description))
      (.described ("Error parsing JSON containing ".toList ++ what.toList))

section Read
variable {method what : String} {answer : Answer}

/-- The status is looked at before the body. -/
theorem read_status {statusCode : Nat} (hcode : statusCode ≠ 200) (body : Body) :
    Push.Dynamic.read method what (.response statusCode body) =
      some (.error (.described ("PushApiManager: Http status code diff than 200: ".toList ++
        (statusCodeDescription statusCode).toList))) := by
  simp [Push.Dynamic.read, getApiError, hcode]

/-- Only the status 200 has JSON. -/
theorem jsonOf_status {statusCode : Nat} (hcode : statusCode ≠ 200) (body : Body) :
    jsonOf (.response statusCode body) = none := by
  unfold jsonOf
  split <;> simp_all

/-- Reading an answer ends in the error that it has. -/
theorem read_error_iff {error : PushError} :
    Push.Dynamic.read method what answer = some (.error error) ↔
      Fails method what answer error := by
  constructor
  · intro h
    cases answer with
    | failed description localizedDescription =>
      -- A transport error is written to the log before it is answered.
      obtain ⟨apiError, hapi, h⟩ := Option.bind_eq_some_iff.mp h
      obtain ⟨_, hline, hapi⟩ := Option.bind_eq_some_iff.mp hapi
      cases hapi
      cases h
      exact .transport (rcLog_eq_some_iff.mp hline)
    | response statusCode body =>
      -- A body that is not JSON is written to the log as well.
      by_cases hcode : statusCode = 200
      · subst hcode
        cases body with
        | notJSON description =>
          obtain ⟨_, hline, h⟩ := Option.bind_eq_some_iff.mp h
          cases h
          exact .notJSON (rcLog_eq_some_iff.mp hline)
        | array elements => cases h
        | object members => cases h
      · -- Any other status is an error of its own.
        rw [read_status hcode] at h
        cases h
        exact .status hcode
  · intro h
    cases h with
    | @transport description localizedDescription hline =>
      have hapi : getApiError method (.failed description localizedDescription) =
          some (some (.transport description localizedDescription)) := by
        unfold getApiError
        simp only [rcLog_eq_some_iff.mpr hline]
        rfl
      unfold Push.Dynamic.read
      rw [hapi]
      rfl
    | status hcode => exact read_status hcode _
    | @notJSON description hline =>
      show (rcLog (errorLine method description)).bind _ = _
      rw [rcLog_eq_some_iff.mpr hline]
      rfl

/-- Reading an answer ends in its JSON. -/
theorem read_ok_iff {top : Object} :
    Push.Dynamic.read method what answer = some (.ok top) ↔ jsonOf answer = some top := by
  cases answer with
  | failed description localizedDescription =>
    simp [Push.Dynamic.read, getApiError, jsonOf, Option.bind_eq_some_iff]
  | response statusCode body =>
    by_cases hcode : statusCode = 200
    · subst hcode
      cases body with
      | notJSON description =>
        simp [Push.Dynamic.read, getApiError, jsonOf, Option.bind_eq_some_iff]
      | array elements => simp [Push.Dynamic.read, getApiError, jsonOf]
      | object members => simp [Push.Dynamic.read, getApiError, jsonOf]
    · rw [read_status hcode, jsonOf_status hcode]
      simp

end Read

/-! ### The loops -/

/-- The loop over the elements ends with one, or with none, and without an exception. -/
inductive Search (test : Object → Option Bool) : List Object → Option Object → Prop
  | none {elements : List Object} (hall : ∀ e ∈ elements, test e = some false) :
    Search test elements none
  | first {before after : List Object} {e : Object} (hbefore : ∀ x ∈ before, test x = some false)
    (he : test e = some true) : Search test (before ++ e :: after) (some e)

/-- What does not match is passed over. -/
theorem firstMatch_append {test : Object → Option Bool} {before : List Object}
    (hbefore : ∀ x ∈ before, test x = some false) (after : List Object) :
    Object.firstMatch test (before ++ after) = Object.firstMatch test after := by
  induction before with
  | nil => rfl
  | cons x before ih =>
    rw [List.cons_append, Object.firstMatch, hbefore x List.mem_cons_self]
    exact ih fun y hy => hbefore y (List.mem_cons_of_mem x hy)

/-- A search ends at the first element that matches. -/
theorem search_iff {test : Object → Option Bool} {elements : List Object} {found : Option Object} :
    Search test elements found ↔ Object.firstMatch test elements = some found := by
  constructor
  · intro h
    cases h with
    -- The elements in front of the match are all refused.
    | none hall => simpa [Object.firstMatch] using firstMatch_append hall []
    | first hbefore he =>
      rw [firstMatch_append hbefore, Object.firstMatch, he]
      rfl
  · intro h
    -- The elements are read from the front.
    induction elements with
    | nil =>
      cases h
      exact .none (by simp)
    | cons e elements ih =>
      obtain ⟨yes, htest, hrest⟩ := Option.bind_eq_some_iff.mp h
      cases yes with
      | true =>
        cases hrest
        exact @Search.first test [] elements e (by simp) htest
      | false =>
        cases ih hrest with
        -- The element in front is refused, so what holds of the rest holds of all.
        | none hall => exact .none (List.forall_mem_cons.mpr ⟨htest, hall⟩)
        | @first before after e' hbefore he =>
          exact @Search.first test (e :: before) after e'
            (List.forall_mem_cons.mpr ⟨htest, hbefore⟩) he

/-- What is found matches. -/
theorem Search.test {test : Object → Option Bool} {elements : List Object} {e : Object}
    (h : Search test elements (some e)) : test e = some true := by
  cases h with
  | first _ he => exact he

/-- An application that is found has the sandbox flag that was asked for. -/
theorem sandbox_of_isNamed {name : Option CString} {sandbox : Bool} {dict : Object}
    (h : isNamed name sandbox dict = some true) {application : RCApplication}
    (hinit : RCApplication.initWithDictionary dict = some application) :
    application.sandbox = sandbox := by
  obtain ⟨friendlyName, -, h⟩ := Option.bind_eq_some_iff.mp h
  obtain ⟨named, -, h⟩ := Option.bind_eq_some_iff.mp h
  cases named with
  | false => cases h
  | true =>
    obtain ⟨flag, hflag, h⟩ := Option.bind_eq_some_iff.mp h
    obtain ⟨value, hvalue, h⟩ := Option.bind_eq_some_iff.mp h
    obtain ⟨sid, -, hinit⟩ := Option.bind_eq_some_iff.mp hinit
    obtain ⟨friendlyName', -, hinit⟩ := Option.bind_eq_some_iff.mp hinit
    obtain ⟨flag', hflag', hinit⟩ := Option.bind_eq_some_iff.mp hinit
    obtain ⟨value', hvalue', hinit⟩ := Option.bind_eq_some_iff.mp hinit
    obtain rfl : flag = flag' := Option.some_inj.mp (hflag.symm.trans hflag')
    obtain rfl : value = value' := Option.some_inj.mp (hvalue.symm.trans hvalue')
    cases hinit
    exact of_decide_eq_true (Option.some_inj.mp h)

/-! ### The requests -/

section Requests
variable {α : Type} (request : Request α) (answer : Answer) (test : Object → Option Bool)

/-- No line that is logged before the request wants an argument. -/
def Logged : Prop :=
  ∀ line ∈ request.lines, readsArguments line = false

/-- The request comes to this error. -/
def Refused (error : PushError) : Prop :=
  Logged request ∧ Fails request.method request.what answer error

/-- The request comes to an error, and so does the sid helper behind it, which logs what it is. -/
def Declined : Prop :=
  ∃ error, Refused request answer error ∧ readsArguments error.localizedDescription = false

/-- The dictionary in the answer comes to this object. -/
def Given (object : Option α) : Prop :=
  Logged request ∧ ∃ dict, jsonOf answer = some dict ∧ request.fromDictionary dict = some object

/-- The answer is read as these elements. -/
def Lists (elements : List Object) : Prop :=
  ∃ top, jsonOf answer = some top ∧ top.elements = some elements

/-- The list in the answer can be searched, and comes to this object, or to none. -/
inductive GivenInList : Option α → Prop
  | found {elements : List Object} {dict : Object} {object : Option α} (hlogged : Logged request)
    (hlist : Lists answer elements) (hsearch : Search test elements (some dict))
    (hobject : request.fromDictionary dict = some object) : GivenInList object
  | missing {elements : List Object} (hlogged : Logged request) (hlist : Lists answer elements)
    (hsearch : Search test elements none) : GivenInList none

/-- What the completion handler of a request is called with: an error, or an object. -/
def dictionaryAnswer : Option (Except PushError (Option α)) := do
  request.lines.forM rcLog
  match ← Push.Dynamic.read request.method request.what answer with
  | .error error => return .error error
  | .ok dict => return .ok (← request.fromDictionary dict)

/-- The same for a list. -/
def listAnswer : Option (Except PushError (Option α)) := do
  request.lines.forM rcLog
  match ← Push.Dynamic.read request.method request.what answer with
  | .error error => return .error error
  | .ok arr =>
    match ← Object.firstMatch test (← arr.elements) with
    | some dict => return .ok (← request.fromDictionary dict)
    | none => return .ok none

/-- A completion handler on what a request comes to. -/
def deliver (completionHandler : Option α → Option PushError → Rest) :
    Except PushError (Option α) → Rest
  | .error error => completionHandler none (some error)
  | .ok object => completionHandler object none

/-- A request for one object, as its answer and what is done with it. -/
theorem dictionaryRequest_eq (completionHandler : Option α → Option PushError → Rest)
    (run : PushRun) :
    dictionaryRequest request answer completionHandler run =
      (dictionaryAnswer request answer).bind
        fun result => deliver completionHandler result run := by
  unfold dictionaryRequest dictionaryAnswer
  cases request.lines.forM rcLog with
  -- A log line raises.
  | none => rfl
  | some _ =>
    simp only [bind, Option.bind_some]
    cases Push.Dynamic.read request.method request.what answer with
    | none => rfl
    | some top =>
      cases top with
      -- An error is delivered with no object.
      | error error => rfl
      | ok dict =>
        simp only [Option.bind_some]
        cases request.fromDictionary dict with
        | none => rfl
        | some object => rfl

/-- A request for a list, as its answer and what is done with it. -/
theorem listRequest_eq (completionHandler : Option α → Option PushError → Rest) (run : PushRun) :
    listRequest request answer test completionHandler run =
      (listAnswer request answer test).bind
        fun result => deliver completionHandler result run := by
  unfold listRequest listAnswer
  cases request.lines.forM rcLog with
  | none => rfl
  -- A log line raises.
  | some _ =>
    simp only [bind, Option.bind_some]
    cases Push.Dynamic.read request.method request.what answer with
    | none => rfl
    | some top =>
      cases top with
      -- An error is delivered with no object.
      | error error => rfl
      | ok arr =>
        simp only [Option.bind_some]
        cases arr.elements with
        | none => rfl
        | some elements =>
          simp only [Option.bind_some]
          cases Object.firstMatch test elements with
          | none => rfl
          | some found =>
            cases found with
            | none => rfl
            | some dict =>
              simp only [Option.bind_some]
              cases request.fromDictionary dict with
              | none => rfl
              | some object => rfl

variable {request answer test} {object : Option α} {error : PushError}

/-- When a request for one object ends in an error. -/
theorem dictionaryAnswer_error_iff :
    dictionaryAnswer request answer = some (.error error) ↔ Refused request answer error := by
  unfold Refused Logged
  rw [← forM_rcLog_eq_some_iff, ← read_error_iff]
  constructor
  · intro h
    obtain ⟨_, hlines, h⟩ := Option.bind_eq_some_iff.mp h
    obtain ⟨top, htop, h⟩ := Option.bind_eq_some_iff.mp h
    cases top with
    | error error' =>
      cases h
      exact ⟨hlines, htop⟩
    | ok dict =>
      obtain ⟨_, -, h⟩ := Option.bind_eq_some_iff.mp h
      cases h
  · rintro ⟨hlines, htop⟩
    simp [dictionaryAnswer, hlines, htop]

/-- When a request for one object is answered. -/
theorem dictionaryAnswer_ok_iff :
    dictionaryAnswer request answer = some (.ok object) ↔ Given request answer object := by
  unfold Given Logged
  rw [← forM_rcLog_eq_some_iff]
  constructor
  · intro h
    obtain ⟨_, hlines, h⟩ := Option.bind_eq_some_iff.mp h
    obtain ⟨top, htop, h⟩ := Option.bind_eq_some_iff.mp h
    cases top with
    | error error => cases h
    | ok dict =>
      obtain ⟨object', hobject, h⟩ := Option.bind_eq_some_iff.mp h
      cases h
      exact ⟨hlines, dict, read_ok_iff.mp htop, hobject⟩
  · rintro ⟨hlines, dict, hjson, hobject⟩
    simp [dictionaryAnswer, hlines, read_ok_iff.mpr hjson, hobject]

/-- When a request for a list ends in an error. -/
theorem listAnswer_error_iff :
    listAnswer request answer test = some (.error error) ↔ Refused request answer error := by
  unfold Refused Logged
  rw [← forM_rcLog_eq_some_iff, ← read_error_iff]
  constructor
  · intro h
    obtain ⟨_, hlines, h⟩ := Option.bind_eq_some_iff.mp h
    obtain ⟨top, htop, h⟩ := Option.bind_eq_some_iff.mp h
    cases top with
    | error error' =>
      cases h
      exact ⟨hlines, htop⟩
    | ok arr =>
      obtain ⟨elements, -, h⟩ := Option.bind_eq_some_iff.mp h
      obtain ⟨found, -, h⟩ := Option.bind_eq_some_iff.mp h
      cases found with
      | none => cases h
      | some dict =>
        obtain ⟨_, -, h⟩ := Option.bind_eq_some_iff.mp h
        cases h
  · rintro ⟨hlines, htop⟩
    simp [listAnswer, hlines, htop]

/-- When a request for a list is answered. -/
theorem listAnswer_ok_iff :
    listAnswer request answer test = some (.ok object) ↔
      GivenInList request answer test object := by
  constructor
  · intro h
    obtain ⟨_, hlines, h⟩ := Option.bind_eq_some_iff.mp h
    obtain ⟨top, htop, h⟩ := Option.bind_eq_some_iff.mp h
    have hlogged : Logged request := forM_rcLog_eq_some_iff.mp hlines
    cases top with
    | error error => cases h
    | ok arr =>
      obtain ⟨elements, helements, h⟩ := Option.bind_eq_some_iff.mp h
      obtain ⟨found, hfound, h⟩ := Option.bind_eq_some_iff.mp h
      have hlist : Lists answer elements := ⟨arr, read_ok_iff.mp htop, helements⟩
      have hsearch := search_iff.mpr hfound
      cases found with
      | none =>
        cases h
        exact .missing hlogged hlist hsearch
      | some dict =>
        obtain ⟨object', hobject, h⟩ := Option.bind_eq_some_iff.mp h
        cases h
        exact .found hlogged hlist hsearch hobject
  · intro h
    cases h with
    | found hlogged hlist hsearch hobject =>
      obtain ⟨arr, hjson, helements⟩ := hlist
      have hlines : request.lines.forM rcLog = some () := forM_rcLog_eq_some_iff.mpr hlogged
      simp [listAnswer, hlines, read_ok_iff.mpr hjson, helements, search_iff.mp hsearch, hobject]
    | missing hlogged hlist hsearch =>
      obtain ⟨arr, hjson, helements⟩ := hlist
      have hlines : request.lines.forM rcLog = some () := forM_rcLog_eq_some_iff.mpr hlogged
      simp [listAnswer, hlines, read_ok_iff.mpr hjson, helements, search_iff.mp hsearch]

/-- A body is written if all that goes into it is there and JSON. -/
theorem canWrite_iff {objects : List (Option Object)} :
    canWrite objects = true ↔ ∀ o ∈ objects, ∃ object, o = some object ∧ object.isJSON := by
  simp [canWrite, Option.any_eq_true]

end Requests

/-! ### Objects of an entry -/

section Alloc
variable {α : Type} {foundation : Foundation} {method success : String}
  {initWithDictionary : Object → Option α} {description : Foundation → α → CString} {dict : Object}

/-- What `alloc` gives was read from the dictionary. -/
theorem initWithDictionary_of_alloc {object : Option α}
    (h : alloc foundation method success initWithDictionary description dict = some object) :
    ∃ a, object = some a ∧ initWithDictionary dict = some a := by
  obtain ⟨a, hinit, h⟩ := Option.bind_eq_some_iff.mp h
  obtain ⟨_, -, h⟩ := Option.bind_eq_some_iff.mp h
  cases h
  exact ⟨a, rfl, hinit⟩

/-- An object that was allocated is not `nil`. -/
theorem not_given_none {request : Request α} {answer : Answer}
    (hrequest : request.fromDictionary =
      alloc foundation method success initWithDictionary description) :
    ¬Given request answer none := by
  rintro ⟨-, dict, -, h⟩
  rw [hrequest] at h
  obtain ⟨a, hnone, -⟩ := initWithDictionary_of_alloc h
  cases hnone

end Alloc

/-- An application that is found has the sandbox flag that was asked for. -/
theorem sandbox_of_givenInList {foundation : Foundation} {handler : PushHandler} {answer : Answer}
    {application : RCApplication} (h : GivenInList (applicationRequest foundation handler) answer
      (isNamed handler.friendlyName handler.sandbox) (some application)) :
    application.sandbox = handler.sandbox := by
  cases h with
  | found _ _ hsearch hobject =>
    obtain ⟨application', happlication, hinit⟩ := initWithDictionary_of_alloc hobject
    cases happlication
    exact sandbox_of_isNamed hsearch.test hinit

end RestCommSdk.Proofs
