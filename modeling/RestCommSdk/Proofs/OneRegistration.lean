import RestCommSdk.CliInterface.Registrations
import RestCommSdk.Lib.Run
import RestCommSdk.Proofs.SscTransactions

/-!
# `RestCommSdk.Proofs.OneRegistration`: registrations that outlive their successors

`ssc_register` makes an operation for every registration. REGISTER operations are persistent,
so `ssc_oper_create` does not clean them up, and the lines of `ssc_register` that would are
disabled. Their comment says what follows: a registration that was superseded is refreshed
all the same, and its success is taken for one of the newer registration.

`oneRegistration_of_replacesOnly`: in a run in which operations are made only when the ones
in the list are about to be unregistered, there is one registration at most once all requests
have been answered, none after an un-REGISTER, and every success is one of the registration
that was requested last. `superseded_refresh_succeeds` is the run of the comment.
-/

set_option autoImplicit false

namespace RestCommSdk.Proofs

open RestCommSdk.Lib
open RestCommSdk.CliInterface

/-! ### The property and the condition -/

/-- The REGISTER operations of the list. -/
def registerOpers (ssc : Ssc) : List SscOper := ssc.operations.filter (·.opMethod = .register)

/-- Once all requests have been answered there is one registration at most, and none when the
last request was to unregister. -/
def OneRegistration (s : Registrations) : Prop :=
  s.requests = [] → (registerOpers s.ssc).length ≤ 1 ∧
    ∀ nh, s.last = some (.unregister nh) → registerOpers s.ssc = []

/-- A success that is reported comes from the registration that was requested last. -/
def SuccessOfLast (s : Registrations) (input : RegistrationInput) (s' : Registrations) : Prop :=
  (∃ reply ∈ s'.ssc.sent, reply.rc = SipMsgEnum.registerSuccess.code) →
    ∃ nh status phrase sip,
      input = .rRegister nh status phrase sip ∧ s.lastRegister = some nh

/-- The command makes an operation: a registration does so with a registrar, the end of one
with a registrar or when there is none. -/
def MakesOper (env : SscEnv) (s : Registrations) (aor registrar : Option CString)
    (unregister : Bool) : Prop :=
  creates env s.ssc (aor.or s.ssc.address) = true ∧
    if unregister then registrar ≠ none ∨ registerOpers s.ssc = []
    else givenRegistrar registrar ≠ none

/-- The condition on a step, of its input and the state before it: a command makes an operation
only when every one in the list is about to be unregistered, and one that registers only when
no other registration waits for its answer. -/
def ReplacesOnly (env : SscEnv) (s : Registrations) : RegistrationInput → Prop
  | .update aor _ registrar unregister =>
    MakesOper env s aor registrar unregister →
      (∀ op ∈ registerOpers s.ssc, .unregister op.opHandle ∈ s.requests) ∧
        (unregister = false → ∀ r ∈ s.requests, r = .unregister r.handle)
  | _ => True

instance (env : SscEnv) (s : Registrations) (aor registrar : Option CString)
    (unregister : Bool) : Decidable (MakesOper env s aor registrar unregister) := by
  unfold MakesOper
  infer_instance

instance (env : SscEnv) (s : Registrations) (input : RegistrationInput) :
    Decidable (ReplacesOnly env s input) := by
  unfold ReplacesOnly
  split <;> infer_instance

/-! ### What the client asks of nua -/

/-- A call that makes or ends requests. -/
def isRegistrationCall : NuaCall → Bool
  | .register .. | .unregister .. | .handleDestroy _ => true
  | _ => false

/-- What of the client its registrations depend on. -/
def regView (ssc : Ssc) : List SscOper × List NuaCall :=
  (ssc.operations, ssc.nua.filter isRegistrationCall)

/-- A call that is about no registration. -/
theorem regView_emit (ssc : Ssc) {c : NuaCall} (h : isRegistrationCall c = false) :
    regView (ssc.emit c) = regView ssc := by
  simp [regView, Ssc.emit, h]

/-- A call that is about a registration is the last one of the view. -/
theorem regView_emit_request (ssc : Ssc) {c : NuaCall} (h : isRegistrationCall c = true) :
    regView (ssc.emit c) = ((regView ssc).1, (regView ssc).2 ++ [c]) := by
  simp [regView, Ssc.emit, h]

/-- The other calls change no registration. -/
theorem foldl_call (calls : List NuaCall) (s : Registrations) :
    calls.foldl Registrations.call s =
      (calls.filter isRegistrationCall).foldl Registrations.call s := by
  induction calls generalizing s with
  | nil => rfl
  | cons c calls ih =>
    cases c with
    | register | unregister | handleDestroy => exact ih _
    | _ => exact ih s

/-- What a step leaves is a matter of its calls about registrations. -/
theorem after_of_calls {s : Registrations} {ssc : Ssc} {operations : List SscOper}
    {calls : List NuaCall} (h : regView ssc = (operations, calls)) :
    s.after ssc = calls.foldl Registrations.call { s with ssc := ssc } := by
  have hcalls : ssc.nua.filter isRegistrationCall = calls := congrArg Prod.snd h
  rw [Registrations.after, foldl_call, hcalls]

section Client
variable {env : SscEnv} {alloc : Alloc} {ssc ssc' : Ssc}

/-- Every operation is a registration. -/
def AllRegister (ssc : Ssc) : Prop :=
  ∀ op ∈ ssc.operations, op.opMethod = .register ∧ op.opPersistent = true

/-- Registrations are never cleaned up. -/
theorem AllRegister.old (hall : AllRegister ssc) : sscOperOld ssc = none :=
  List.find?_eq_none.mpr fun op hop => by simp [(hall op hop).2]

/-- Writing the operation that was just made leaves the others. -/
theorem setOper_cons {op : SscOper} (hop : op.addr = alloc.addr)
    (hfresh : ∀ op ∈ ssc.operations, op.addr ≠ alloc.addr) (f : SscOper → SscOper) :
    ({ ssc with operations := op :: ssc.operations }.setOper alloc.addr f).operations =
      f op :: ssc.operations := by
  simp only [Ssc.setOper, List.map_cons, hop, if_true]
  congr 1
  refine (List.map_congr_left fun other hother => ?_).trans (List.map_id _)
  exact if_neg (hfresh other hother)

/-- Making a REGISTER operation puts it in front, or does nothing. -/
theorem create_register (env : SscEnv) (hall : AllRegister ssc)
    (hfresh : ∀ op ∈ ssc.operations, op.addr ≠ alloc.addr) (address password : Option CString) :
    (creates env ssc address = true ∧
      ∃ op, op.opMethod = .register ∧ op.opPersistent = true ∧ op.addr = alloc.addr ∧
        op.opHandle = alloc.handle ∧
        (sscOperCreateWithPassword env alloc .register address password ssc).2.bind
          (sscOperCreateWithPassword env alloc .register address password ssc).1.oper? = some op ∧
        regView (sscOperCreateWithPassword env alloc .register address password ssc).1 =
          (op :: ssc.operations, (regView ssc).2)) ∨
      (creates env ssc address = false ∧
        sscOperCreateWithPassword env alloc .register address password ssc = (ssc, none)) := by
  -- Without an address `ssc_oper_create` takes over an operation that is not persistent, and every
  -- REGISTER operation is persistent.
  cases address with
  | none =>
    right
    have hold := hall.old
    have hcreate : sscOperCreate env alloc .register none ssc = (ssc, none) := by
      simp only [sscOperCreate, hold]
    exact ⟨by simp [creates, hold], by simp only [sscOperCreateWithPassword, hcreate]⟩
  | some address =>
    cases hvalid : env.validAddress address with
    | false =>
      right
      have hcreate : sscOperCreate env alloc .register (some address) ssc = (ssc, none) := by
        simp [sscOperCreate, hvalid]
      exact ⟨hvalid, by simp only [sscOperCreateWithPassword, hcreate]⟩
    | true =>
      left
      let op : SscOper := sscOperAssign .register
        { addr := alloc.addr, opHandle := alloc.handle, opMethod := .register }
      have hcreate : sscOperCreate env alloc .register (some address) ssc =
          ({ ssc with operations := op :: ssc.operations }.emit (.handle alloc.handle address),
            some alloc.addr) := by
        simp only [sscOperCreate, hvalid, if_true]
        rfl
      -- The password is written to the new operation alone, its address being fresh.
      have hset := setOper_cons (show op.addr = alloc.addr from rfl) hfresh fun op =>
        { op with password := password }
      refine ⟨hvalid, { op with password := password }, rfl, rfl, rfl, rfl, ?_, ?_⟩
      · simp only [sscOperCreateWithPassword, hcreate, Option.bind_some]
        refine (congrArg (List.find? fun op => op.addr = alloc.addr) hset).trans ?_
        exact List.find?_cons_of_pos (by simp [op, sscOperAssign])
      · simp only [sscOperCreateWithPassword, hcreate]
        refine Prod.ext hset ?_
        simp [regView, Ssc.emit, Ssc.setOper, isRegistrationCall]

/-! ### Commands -/

/-- What a command may do to the operations, and the request that it makes. `makes` is whether it
makes an operation. -/
inductive Commanded (alloc : Alloc) (operations : List SscOper) (ssc' : Ssc) (unregister : Bool)
    (makes : Prop) : Prop
  /-- No request is made. -/
  | quiet (h : regView ssc' = (operations, []))
  /-- An operation is made, and the request on it. -/
  | made (op : SscOper) (registrar : Option CString) (hmakes : makes)
    (hop : op.opMethod = .register ∧ op.opPersistent = true)
    (haddr : op.addr = alloc.addr) (hhandle : op.opHandle = alloc.handle)
    (h : regView ssc' = (op :: operations,
      [if unregister then .unregister op.opHandle registrar else .register op.opHandle registrar]))
  /-- The newest operation is to be unregistered. -/
  | newest (op : SscOper) (hop : operations.head? = some op) (hunregister : unregister = true)
    (h : regView ssc' = (operations, [.unregister op.opHandle none]))

/-- A request on a new operation. -/
theorem commanded_create (env : SscEnv) (alloc : Alloc) (ssc : Ssc) (hall : AllRegister ssc)
    (hfresh : ∀ op ∈ ssc.operations, op.addr ≠ alloc.addr) (hview : (regView ssc).2 = [])
    (address password registrar : Option CString) (unregister : Bool) (request : Nat → NuaCall)
    (hrequest : ∀ nh, request nh =
      if unregister then .unregister nh registrar else .register nh registrar)
    {makes : Prop} (hmakes : creates env ssc address = true → makes) :
    Commanded alloc ssc.operations
      (let created := sscOperCreateWithPassword env alloc .register address password ssc
      match created.2.bind created.1.oper? with
      | some op => created.1.emit (request op.opHandle)
      | none => created.1) unregister makes := by
  dsimp only
  rcases create_register env hall hfresh address password with
    ⟨hcreates, op, hmethod, hpersistent, haddr, hhandle, hfind, hcreated⟩ | ⟨hcreates, hcreated⟩
  · -- The operation was made, and its request goes out on its handle.
    rw [hfind]
    refine .made op registrar (hmakes hcreates) ⟨hmethod, hpersistent⟩ haddr hhandle ?_
    dsimp only
    rw [hrequest, regView_emit_request _ (by cases unregister <;> rfl), hcreated, hview]
    rfl
  · -- None was made, and nothing is asked for.
    rw [hcreated]
    exact .quiet (Prod.ext rfl hview)

/-- A registration makes an operation of its own and registers with it. -/
theorem commanded_sscRegister (hall : AllRegister ssc)
    (hfresh : ∀ op ∈ ssc.operations, op.addr ≠ alloc.addr) (hview : (regView ssc).2 = [])
    (registrar password : Option CString) :
    Commanded alloc ssc.operations (sscRegister env alloc registrar password ssc) false
      (creates env ssc ssc.address = true ∧ givenRegistrar registrar ≠ none) := by
  have hemit : (regView (ssc.emit (.setRegistrar (givenRegistrar registrar)))).2 = [] := by
    rw [regView_emit _ rfl]
    exact hview
  unfold sscRegister
  dsimp only
  cases hgiven : givenRegistrar registrar with
  -- Without a registrar no register is sent.
  | none =>
    refine .quiet ?_
    rw [regView_emit _ rfl]
    exact Prod.ext rfl hview
  | some text =>
    rw [hgiven] at hemit
    exact commanded_create env alloc (ssc.emit (.setRegistrar (some text))) hall hfresh hemit
      ssc.address password registrar false (fun nh => .register nh registrar) (fun _ => rfl)
      fun hcreates => ⟨hcreates, nofun⟩

/-- The first REGISTER operation is the newest. -/
theorem findByMethod_register (hall : AllRegister ssc) :
    sscOperFindByMethod ssc .register = ssc.operations.head? := by
  unfold sscOperFindByMethod
  cases hops : ssc.operations with
  | nil => rfl
  | cons op ops =>
    have hop := hall op (by rw [hops]; exact List.mem_cons_self)
    exact List.find?_cons_of_pos (by simp [hop.1, hop.2])

/-- Every operation is one of a registration. -/
theorem registerOpers_eq (hall : AllRegister ssc) : registerOpers ssc = ssc.operations :=
  List.filter_eq_self.mpr fun op hop => by simp [(hall op hop).1]

/-- An unregistration takes the listed operation, or makes one. -/
theorem commanded_sscUnregister (hall : AllRegister ssc)
    (hfresh : ∀ op ∈ ssc.operations, op.addr ≠ alloc.addr) (hview : (regView ssc).2 = [])
    (registrar password : Option CString) :
    Commanded alloc ssc.operations (sscUnregister env alloc registrar password ssc) true
      (creates env ssc ssc.address = true ∧ (registrar ≠ none ∨ registerOpers ssc = [])) := by
  have hemit : (regView (ssc.emit (.setRegistrar none))).2 = [] := by
    rw [regView_emit _ rfl]
    exact hview
  have hfind : sscOperFindByMethod (ssc.emit (.setRegistrar none)) .register =
    ssc.operations.head? := findByMethod_register hall
  have hmake (registrar : Option CString) (hnone : registrar ≠ none ∨ registerOpers ssc = []) :=
    commanded_create env alloc (ssc.emit (.setRegistrar none)) hall hfresh hemit ssc.address
      password registrar true (fun nh => .unregister nh registrar) (fun _ => rfl)
      fun hcreates => And.intro hcreates hnone
  unfold sscUnregister
  dsimp only
  -- With a registrar a new operation is made even if there is one that could be unregistered.
  rw [hfind]
  cases registrar with
  | some registrar => exact hmake (some registrar) (.inl nofun)
  | none =>
    cases hhead : ssc.operations.head? with
    | none =>
      refine hmake none (.inr ?_)
      rw [registerOpers_eq hall]
      exact List.head?_eq_none_iff.mp hhead
    | some op =>
      refine .newest op hhead rfl ?_
      rw [regView_emit_request _ rfl, hemit]
      rfl

/-- An update is one of the two, once the address is set. -/
theorem commanded_sscUpdate (env : SscEnv) (alloc : Alloc) (ssc : Ssc) (hall : AllRegister ssc)
    (hfresh : ∀ op ∈ ssc.operations, op.addr ≠ alloc.addr) (hview : (regView ssc).2 = [])
    (aor password registrar : Option CString) (unregister : Bool) :
    Commanded alloc ssc.operations
      (sscUpdate env alloc aor password registrar unregister ssc) unregister
      (creates env ssc (aor.or ssc.address) = true ∧
        if unregister then registrar ≠ none ∨ registerOpers ssc = []
        else givenRegistrar registrar ≠ none) := by
  have hupdate (ssc₁ : Ssc) (hops : ssc₁.operations = ssc.operations)
      (hview₁ : (regView ssc₁).2 = []) (haddress : ssc₁.address = aor.or ssc.address) :
      Commanded alloc ssc.operations
        (if unregister then sscUnregister env alloc registrar password ssc₁
        else sscRegister env alloc registrar password ssc₁) unregister
        (creates env ssc (aor.or ssc.address) = true ∧
          if unregister then registrar ≠ none ∨ registerOpers ssc = []
          else givenRegistrar registrar ≠ none) := by
    have hcreates : creates env ssc₁ ssc₁.address = creates env ssc (aor.or ssc.address) := by
      rw [haddress]
      cases aor.or ssc.address with
      | none => simp only [creates, sscOperOld, hops]
      | some address => rfl
    have hregister : registerOpers ssc₁ = registerOpers ssc := by
      rw [registerOpers, registerOpers, hops]
    rw [← hops, ← hcreates, ← hregister]
    have hall₁ : AllRegister ssc₁ := fun op hop => hall op (hops ▸ hop)
    have hfresh₁ : ∀ op ∈ ssc₁.operations, op.addr ≠ alloc.addr := fun op hop =>
      hfresh op (hops ▸ hop)
    cases unregister with
    | true => exact commanded_sscUnregister hall₁ hfresh₁ hview₁ registrar password
    | false => exact commanded_sscRegister hall₁ hfresh₁ hview₁ registrar password
  -- The address of record is written before the request is made.
  cases aor with
  | none => exact hupdate ssc rfl hview rfl
  | some aor => exact hupdate _ rfl ((congrArg Prod.snd (regView_emit _ rfl)).trans hview) rfl

/-! ### Responses -/

/-- Authentication is about no registration. -/
theorem regView_sscAuth (data : CString) (ssc : Ssc) :
    regView (sscAuth env ssc data) = regView ssc := by
  have hloop (items : List SscAuthItem) (ssc : Ssc) :
      regView (sscAuthLoop env data ssc items) = regView ssc := by
    induction items generalizing ssc with
    | nil => rfl
    | cons item items ih =>
      rw [sscAuthLoop]
      split
      · dsimp only
        split
        · rw [regView_emit _ rfl, regView_emit _ rfl]
          rfl
        · rfl
      · exact ih ssc
  exact hloop ssc.authPend ssc

/-- A challenge is stored, and no operation made. -/
theorem regView_sscStorePendingAuth {op : Option SscOper} {sip : Option Sip}
    (h : sscStorePendingAuth env ssc op sip = some ssc') : regView ssc' = regView ssc := by
  -- Attaching the items takes references on handles, and no request.
  have hitems (op : SscOper) (items : List SscAuthItem) (ssc : Ssc) :
      regView (items.foldl (privAttachOp op) ssc) = regView ssc := by
    induction items generalizing ssc with
    | nil => rfl
    | cons item items ih => exact (ih _).trans (regView_emit ssc rfl)
  cases op with
  | none => cases h
  | some op =>
    cases sip with
    | none => cases h
    | some sip =>
      simp only [sscStorePendingAuth, Option.bind_eq_bind, Option.bind_some] at h
      -- Without a password the items wait in the queue.
      cases hpassword : op.password with
      | none =>
        simp only [hpassword] at h
        cases h
        exact hitems op _ ssc
      | some password =>
        simp only [hpassword] at h
        cases h
        exact (regView_sscAuth password _).trans (hitems op _ ssc)

/-- An operation goes, and its handle with it. -/
theorem regView_sscOperDestroy {op : SscOper} (h : ssc.oper? op.addr = some op) :
    regView (sscOperDestroy ssc op.addr) =
      (ssc.operations.filter (·.addr ≠ op.addr),
        (regView ssc).2 ++ [.handleDestroy op.opHandle]) := by
  have hemit := regView_emit_request
    { ssc with operations := ssc.operations.filter (·.addr ≠ op.addr) }
    (c := .handleDestroy op.opHandle) rfl
  simp only [sscOperDestroy, h]
  split <;> exact hemit

/-- The operation of the response ends, or nothing does. -/
theorem regView_sscRRegister {status : Nat} {phrase : CString} {op : SscOper} {sip : Option Sip}
    (hop : ssc.oper? op.addr = some op)
    (h : sscRRegister env status phrase (some op) sip ssc = some ssc') :
    regView ssc' =
      if Registrations.isFinal status ∧ 300 ≤ status then
        (ssc.operations.filter (·.addr ≠ op.addr),
          (regView ssc).2 ++ [.handleDestroy op.opHandle])
      else regView ssc := by
  rcases sscRRegister_cases h with ⟨hchallenge, h⟩ | ⟨hchallenge, hcase⟩
  · rw [if_neg (by simp [Registrations.isFinal, hchallenge])]
    exact regView_sscStorePendingAuth h
  · rcases hcase with ⟨hfailed, rfl⟩ | ⟨rfl, rfl⟩ | ⟨hlt, -, rfl⟩
    · rw [if_pos ⟨by simp [Registrations.isFinal, hchallenge]; omega, hfailed⟩]
      exact regView_sscOperDestroy hop
    · rw [if_neg (by omega)]
      rfl
    · rw [if_neg (by omega)]

/-- The final answer to an unregistration destroys its operation. -/
theorem regView_sscRUnregister {status : Nat} {op : SscOper} {sip : Option Sip}
    (hop : ssc.oper? op.addr = some op)
    (h : sscRUnregister env status (some op) sip ssc = some ssc') :
    regView ssc' =
      if Registrations.isFinal status then
        (ssc.operations.filter (·.addr ≠ op.addr),
          (regView ssc).2 ++ [.handleDestroy op.opHandle])
      else regView ssc := by
  rcases sscRUnregister_cases h with ⟨hchallenge, h⟩ | ⟨hchallenge, hcase⟩
  · rw [if_neg (by simp [Registrations.isFinal, hchallenge])]
    exact regView_sscStorePendingAuth h
  · rcases hcase with ⟨hlt, rfl⟩ | ⟨hle, rfl⟩
    · rw [if_neg (by simp [Registrations.isFinal]; omega)]
    · rw [if_pos (by simp [Registrations.isFinal, hchallenge, hle])]
      exact regView_sscOperDestroy hop

end Client

/-! ### The invariant -/

/-- Every operation but the newest is about to be unregistered, and nothing but the
registration that was requested last may still succeed. -/
structure Single (s : Registrations) : Prop where
  all : AllRegister s.ssc
  addrs : (s.ssc.operations.map (·.addr)).Nodup
  handles : (s.ssc.operations.map (·.opHandle)).Nodup
  listed : ∀ r ∈ s.requests, ∃ op ∈ s.ssc.operations, op.opHandle = r.handle
  refreshed : ∀ nh ∈ s.refreshing,
    (∃ op ∈ s.ssc.operations, op.opHandle = nh) ∧ .unregister nh ∉ s.requests
  older : ∀ op ∈ s.ssc.operations.tail, .unregister op.opHandle ∈ s.requests
  last : ∀ nh, s.last = some (.unregister nh) →
    ∀ op ∈ s.ssc.operations, .unregister op.opHandle ∈ s.requests
  newest : ∀ nh, .register nh ∈ s.requests ∨ nh ∈ s.refreshing → s.lastRegister = some nh

/-- With one operation there is one registration. -/
theorem Single.oneRegistration {s : Registrations} (h : Single s) : OneRegistration s := by
  intro hanswered
  rw [registerOpers_eq h.all]
  have hnone : ∀ nh, .unregister nh ∉ s.requests := fun nh => by simp [hanswered]
  refine ⟨?_, fun nh hlast => ?_⟩
  · -- A second operation would still wait to be unregistered.
    cases hops : s.ssc.operations with
    | nil => exact Nat.zero_le 1
    | cons op ops =>
      cases ops with
      | nil => exact le_rfl
      | cons older ops =>
        have holder := h.older older (by rw [hops]; exact List.mem_cons_self)
        exact absurd holder (hnone _)
  · refine List.eq_nil_iff_forall_not_mem.mpr fun op hop => ?_
    exact hnone _ (h.last nh hlast op hop)

/-- Requests are answered, and operations end. -/
theorem Single.shrink {s s' : Registrations} (h : Single s)
    (hops : s'.ssc.operations.Sublist s.ssc.operations)
    (hrequests : ∀ r ∈ s'.requests,
      r ∈ s.requests ∧ ∃ op ∈ s'.ssc.operations, op.opHandle = r.handle)
    (hkeep : ∀ op ∈ s'.ssc.operations, .unregister op.opHandle ∈ s.requests →
      .unregister op.opHandle ∈ s'.requests)
    (hrefreshing : ∀ nh ∈ s'.refreshing, (.register nh ∈ s.requests ∨ nh ∈ s.refreshing) ∧
      .unregister nh ∉ s.requests ∧ ∃ op ∈ s'.ssc.operations, op.opHandle = nh)
    (hlast : s'.last = s.last) (hregister : s'.lastRegister = s.lastRegister) : Single s' where
  all op hop := h.all op (hops.subset hop)
  addrs := h.addrs.sublist (hops.map _)
  handles := h.handles.sublist (hops.map _)
  listed r hr := (hrequests r hr).2
  refreshed nh hnh :=
    ⟨(hrefreshing nh hnh).2.2, fun hun => (hrefreshing nh hnh).2.1 (hrequests _ hun).1⟩
  older op hop := hkeep op (List.mem_of_mem_tail hop) (h.older op (hops.tail.subset hop))
  last nh hnh op hop := hkeep op hop (h.last nh (hlast ▸ hnh) op (hops.subset hop))
  newest nh hnh := by
    -- The newest registration is refreshed or asked for, as it was before.
    rw [hregister]
    rcases hnh with hnh | hnh
    · exact h.newest nh (.inl (hrequests _ hnh).1)
    · exact h.newest nh (hrefreshing nh hnh).1

section Step
variable {env : SscEnv} {s s' : Registrations} {alloc : Alloc}

/-- Nothing but requests that were answered goes. -/
theorem Single.answered {ssc' : Ssc} {requests : List NuaRequest} {refreshing : List Nat}
    (h : Single s) (hops : ssc'.operations = s.ssc.operations)
    (hrequests : ∀ r ∈ requests, r ∈ s.requests)
    (hkeep : ∀ nh, .unregister nh ∈ s.requests → .unregister nh ∈ requests)
    (hrefreshing : ∀ nh ∈ refreshing, nh ∈ s.refreshing ∨
      .register nh ∈ s.requests ∧ .unregister nh ∉ s.requests) :
    Single { s with ssc := ssc', requests := requests, refreshing := refreshing } := by
  refine h.shrink (by rw [hops]) (fun r hr => ?_) (fun op _ => hkeep _) (fun nh hnh => ?_) rfl rfl
  · refine ⟨hrequests r hr, ?_⟩
    show ∃ op ∈ ssc'.operations, _
    rw [hops]
    exact h.listed r (hrequests r hr)
  · show _ ∧ _ ∧ ∃ op ∈ ssc'.operations, _
    rw [hops]
    rcases hrefreshing nh hnh with hold | ⟨hregister, hun⟩
    · exact ⟨.inr hold, (h.refreshed nh hold).2, (h.refreshed nh hold).1⟩
    · exact ⟨.inl hregister, hun, h.listed _ hregister⟩

/-- An operation ends, and all that its handle was about. -/
theorem Single.destroyed {ssc' : Ssc} {requests : List NuaRequest} {op : SscOper}
    (h : Single s) (hop : op ∈ s.ssc.operations)
    (hops : ssc'.operations = s.ssc.operations.filter (·.addr ≠ op.addr))
    (hrequests : ∀ r, r.handle ≠ op.opHandle → (r ∈ requests ↔ r ∈ s.requests)) :
    Single
      { s with
        ssc := ssc'
        requests := requests.filter (·.handle ≠ op.opHandle)
        refreshing := s.refreshing.filter (· ≠ op.opHandle) } := by
  -- Handles and addresses name the same operations, so one operation goes with the handle.
  have hleft : ∀ other ∈ s.ssc.operations, other.opHandle ≠ op.opHandle →
      other ∈ ssc'.operations := fun other hother hhandle => by
    rw [hops]
    refine List.mem_filter.mpr ⟨hother, ?_⟩
    have haddr : other.addr ≠ op.addr := fun haddr =>
      hhandle (congrArg _ (eq_of_addr h.addrs hother hop haddr))
    simpa using haddr
  have hgone : ∀ other ∈ ssc'.operations, other.opHandle ≠ op.opHandle := by
    intro other hother hhandle
    rw [hops] at hother
    obtain ⟨hmem, haddr⟩ := List.mem_filter.mp hother
    have hsame := List.inj_on_of_nodup_map h.handles hmem hop hhandle
    simp [hsame] at haddr
  refine h.shrink (by rw [hops]; exact List.filter_sublist) (fun r hr => ?_)
    (fun other hother hun => ?_) (fun nh hnh => ?_) rfl rfl
  · obtain ⟨hmem, hhandle⟩ := List.mem_filter.mp hr
    have hhandle : r.handle ≠ op.opHandle := by simpa using hhandle
    have hmem := (hrequests r hhandle).mp hmem
    obtain ⟨other, hother, heq⟩ := h.listed r hmem
    exact ⟨hmem, other, hleft other hother (heq ▸ hhandle), heq⟩
  · have hhandle := hgone other hother
    have hmem := (hrequests (.unregister other.opHandle) hhandle).mpr hun
    exact List.mem_filter.mpr ⟨hmem, decide_eq_true hhandle⟩
  · obtain ⟨hmem, hhandle⟩ := List.mem_filter.mp hnh
    have hhandle : nh ≠ op.opHandle := by simpa using hhandle
    obtain ⟨⟨other, hother, heq⟩, hun⟩ := h.refreshed nh hmem
    exact ⟨.inr hmem, hun, other, hleft other hother (heq ▸ hhandle), heq⟩

/-- A handle with a request or a refresh is the one of an operation. -/
theorem Single.found (h : Single s) (nh : Nat)
    (hnh : (∃ r ∈ s.requests, r.handle = nh) ∨ nh ∈ s.refreshing) :
    ∃ op ∈ s.ssc.operations, op.opHandle = nh ∧ sscOperFindByHandle s.ssc nh = some op ∧
      s.ssc.oper? op.addr = some op := by
  have hop : ∃ op ∈ s.ssc.operations, op.opHandle = nh := by
    rcases hnh with ⟨r, hr, rfl⟩ | hnh
    · exact h.listed r hr
    · exact (h.refreshed nh hnh).1
  obtain ⟨op, hop, rfl⟩ := hop
  exact ⟨op, hop, rfl, findByHandle_of_mem h.handles hop, oper?_of_mem h.addrs hop⟩

/-- What an event is handled as. -/
theorem event_of_sscStep {ssc ssc' : Ssc} {nh : Nat} {e : NuaEvent}
    (hs : sscStep env alloc ssc (.event nh e) = some ssc') :
    privCallback env alloc nh { ssc with nua := [], sent := [] } e = some ssc' := by
  unfold sscStep at hs
  dsimp only at hs
  split at hs
  · exact hs
  · cases hs

/-- A response to a REGISTER is one that is waited for. -/
theorem rRegister_cases {nh status : Nat} {phrase : CString} {sip : Option Sip}
    (hs : registrationStep env s (alloc, .rRegister nh status phrase sip) = some s') :
    (.register nh ∈ s.requests ∨ nh ∈ s.refreshing) ∧
      ∃ ssc', sscStep env alloc s.ssc (.event nh (.rRegister status phrase sip)) = some ssc' ∧
        s' = (s.answerRegister nh status).after ssc' := by
  have hs : (if .register nh ∈ s.requests ∨ nh ∈ s.refreshing then _ else _) = some s' := hs
  by_cases hguard : .register nh ∈ s.requests ∨ nh ∈ s.refreshing
  · rw [if_pos hguard] at hs
    obtain ⟨ssc', hstep, hs'⟩ := Option.map_eq_some_iff.mp hs
    exact ⟨hguard, ssc', hstep, hs'.symm⟩
  · rw [if_neg hguard] at hs
    cases hs

/-- The answer to an unregistration is one that was asked for. -/
theorem rUnregister_cases {nh status : Nat} {sip : Option Sip}
    (hs : registrationStep env s (alloc, .rUnregister nh status sip) = some s') :
    .unregister nh ∈ s.requests ∧
      ∃ ssc', sscStep env alloc s.ssc (.event nh (.rUnregister status sip)) = some ssc' ∧
        s' = (s.answerUnregister nh status).after ssc' := by
  have hs : (if .unregister nh ∈ s.requests then _ else _) = some s' := hs
  by_cases hguard : .unregister nh ∈ s.requests
  · rw [if_pos hguard] at hs
    obtain ⟨ssc', hstep, hs'⟩ := Option.map_eq_some_iff.mp hs
    exact ⟨hguard, ssc', hstep, hs'.symm⟩
  · rw [if_neg hguard] at hs
    cases hs

/-- The answer to a registration leaves one operation. -/
theorem single_rRegister {nh status : Nat} {phrase : CString} {sip : Option Sip} (h : Single s)
    (hs : registrationStep env s (alloc, .rRegister nh status phrase sip) = some s') :
    Single s' := by
  obtain ⟨hguard, ssc', hstep, rfl⟩ := rRegister_cases hs
  obtain ⟨op, hop, rfl, hfind, haddr⟩ := h.found nh (hguard.imp_left fun hr => ⟨_, hr, rfl⟩)
  have hevent : sscRRegister env status phrase (sscOperFindByHandle s.ssc op.opHandle) sip
    { s.ssc with nua := [], sent := [] } = some ssc' := event_of_sscStep hstep
  rw [hfind] at hevent
  have hview := regView_sscRRegister (by exact haddr) hevent
  by_cases hfailed : Registrations.isFinal status ∧ 300 ≤ status
  -- `ssc_oper_destroy` takes the handle, and with it whatever waits on it.
  · rw [if_pos hfailed] at hview
    have hnot : ¬ (status < 300 ∧ .unregister op.opHandle ∉ s.requests) := by omega
    rw [after_of_calls hview, Registrations.answerRegister, if_pos hfailed.1, if_neg hnot]
    refine h.destroyed hop (congrArg Prod.fst hview) fun r hr => ?_
    exact List.mem_erase_of_ne fun heq => hr (by rw [heq]; rfl)
  · rw [if_neg hfailed] at hview
    rw [after_of_calls hview, Registrations.answerRegister]
    have hops : ssc'.operations = s.ssc.operations := congrArg Prod.fst hview
    split
    · refine h.answered hops (fun r => List.mem_of_mem_erase) (fun other hun => ?_) ?_
      · exact (List.mem_erase_of_ne (by simp)).mpr hun
      · intro other hother
        split at hother
        · rename_i hsuccess
          rcases List.mem_cons.mp hother with rfl | hother
          · exact hguard.symm.imp_right fun hr => ⟨hr, hsuccess.2⟩
          · exact .inl hother
        · exact .inl hother
    · exact h.answered hops (fun _ hr => hr) (fun _ hun => hun) fun _ hnh => .inl hnh

/-- The answer to an unregistration leaves none. -/
theorem single_rUnregister {nh status : Nat} {sip : Option Sip} (h : Single s)
    (hs : registrationStep env s (alloc, .rUnregister nh status sip) = some s') : Single s' := by
  obtain ⟨hguard, ssc', hstep, rfl⟩ := rUnregister_cases hs
  obtain ⟨op, hop, rfl, hfind, haddr⟩ := h.found nh (.inl ⟨_, hguard, rfl⟩)
  have hevent : sscRUnregister env status (sscOperFindByHandle s.ssc op.opHandle) sip
    { s.ssc with nua := [], sent := [] } = some ssc' := event_of_sscStep hstep
  rw [hfind] at hevent
  have hview := regView_sscRUnregister (by exact haddr) hevent
  -- Any final answer ends the operation, a failure as well.
  by_cases hfinal : Registrations.isFinal status
  · rw [if_pos hfinal] at hview
    rw [after_of_calls hview, Registrations.answerUnregister, if_pos hfinal]
    refine h.destroyed hop (congrArg Prod.fst hview) fun r hr => ?_
    exact List.mem_erase_of_ne fun heq => hr (by rw [heq]; rfl)
  · rw [if_neg hfinal] at hview
    rw [after_of_calls hview, Registrations.answerUnregister, if_neg hfinal]
    have hops : ssc'.operations = s.ssc.operations := congrArg Prod.fst hview
    exact h.answered hops (fun _ hr => hr) (fun _ hun => hun) fun _ hnh => .inl hnh

/-- A request on an operation that was just made, all others being about to be unregistered. -/
theorem Single.made {op : SscOper} {request : NuaRequest} (h : Single s)
    (hfresh : alloc.Fresh { s.ssc with nua := [], sent := [] })
    (hop : op.opMethod = .register ∧ op.opPersistent = true)
    (haddr : op.addr = alloc.addr) (hhandle : op.opHandle = alloc.handle)
    (hops : s'.ssc.operations = op :: s.ssc.operations)
    (holder : ∀ older ∈ s.ssc.operations, .unregister older.opHandle ∈ s.requests)
    (hrequest : request.handle = op.opHandle) (hrequests : s'.requests = request :: s.requests)
    (hrefreshing : ∀ nh ∈ s'.refreshing, nh ∈ s.refreshing)
    (hlast : ∀ nh, s'.last = some (.unregister nh) → request = .unregister op.opHandle)
    (hnewest : ∀ nh, .register nh ∈ s'.requests → s'.lastRegister = some nh) : Single s' := by
  have haddrs : ∀ other ∈ s.ssc.operations, other.addr ≠ alloc.addr := hfresh.1
  have hhandles : ∀ other ∈ s.ssc.operations, other.opHandle ≠ alloc.handle := hfresh.2
  -- Nothing is refreshed that is about to be unregistered.
  have hnone : ∀ nh, nh ∉ s'.refreshing := by
    intro nh hnh
    obtain ⟨⟨other, hother, rfl⟩, hun⟩ := h.refreshed nh (hrefreshing nh hnh)
    exact hun (holder other hother)
  have hall : AllRegister s'.ssc := by
    intro other hother
    rw [hops] at hother
    rcases List.mem_cons.mp hother with rfl | hother
    · exact hop
    · exact h.all other hother
  have haddrs' : (s'.ssc.operations.map (·.addr)).Nodup := by
    rw [hops]
    refine List.nodup_cons.mpr ⟨fun hmem => ?_, h.addrs⟩
    obtain ⟨other, hother, heq⟩ := List.mem_map.mp hmem
    exact haddrs other hother (heq.trans haddr)
  have hhandles' : (s'.ssc.operations.map (·.opHandle)).Nodup := by
    rw [hops]
    refine List.nodup_cons.mpr ⟨fun hmem => ?_, h.handles⟩
    obtain ⟨other, hother, heq⟩ := List.mem_map.mp hmem
    exact hhandles other hother (heq.trans hhandle)
  refine ⟨hall, haddrs', hhandles', fun r hr => ?_, fun nh hnh => absurd hnh (hnone nh),
    fun older hold => ?_, fun nh hnh other hother => ?_,
    fun nh hnh => hnewest nh (hnh.resolve_right (hnone nh))⟩
  · rw [hrequests] at hr
    rw [hops]
    rcases List.mem_cons.mp hr with rfl | hr
    · exact ⟨op, List.mem_cons_self, hrequest.symm⟩
    · obtain ⟨other, hother, heq⟩ := h.listed r hr
      exact ⟨other, List.mem_cons_of_mem _ hother, heq⟩
  · rw [hops] at hold
    rw [hrequests]
    exact List.mem_cons_of_mem _ (holder older hold)
  · rw [hops] at hother
    rw [hrequests]
    rcases List.mem_cons.mp hother with rfl | hother
    · rw [hlast nh hnh]
      exact List.mem_cons_self
    · exact List.mem_cons_of_mem _ (holder other hother)

/-- A registration on an operation that was just made. -/
theorem Single.registers {ssc' : Ssc} {op : SscOper} (h : Single s)
    (hfresh : alloc.Fresh { s.ssc with nua := [], sent := [] })
    (hop : op.opMethod = .register ∧ op.opPersistent = true)
    (haddr : op.addr = alloc.addr) (hhandle : op.opHandle = alloc.handle)
    (hops : ssc'.operations = op :: s.ssc.operations)
    (holder : ∀ older ∈ s.ssc.operations, .unregister older.opHandle ∈ s.requests)
    (hfirst : ∀ r ∈ s.requests, r = .unregister r.handle) (registrar : Option CString) :
    Single ({ s with ssc := ssc' }.call (.register op.opHandle registrar)) := by
  refine h.made hfresh hop haddr hhandle hops holder rfl rfl
    (fun _ hnh => hnh) nofun fun nh hnh => ?_
  rcases List.mem_cons.mp hnh with heq | hnh
  · cases heq
    rfl
  · cases hfirst _ hnh

/-- The end of a registration, on an operation that was just made. -/
theorem Single.unregistersAll {ssc' : Ssc} {op : SscOper} (h : Single s)
    (hfresh : alloc.Fresh { s.ssc with nua := [], sent := [] })
    (hop : op.opMethod = .register ∧ op.opPersistent = true)
    (haddr : op.addr = alloc.addr) (hhandle : op.opHandle = alloc.handle)
    (hops : ssc'.operations = op :: s.ssc.operations)
    (holder : ∀ older ∈ s.ssc.operations, .unregister older.opHandle ∈ s.requests)
    (registrar : Option CString) :
    Single ({ s with ssc := ssc' }.call (.unregister op.opHandle registrar)) := by
  refine h.made hfresh hop haddr hhandle hops holder rfl rfl
    (fun _ hnh => (List.mem_filter.mp hnh).1) (fun _ _ => rfl) fun nh hnh => ?_
  rcases List.mem_cons.mp hnh with heq | hnh
  · cases heq
  · exact h.newest nh (.inl hnh)

/-- The end of the newest registration. -/
theorem Single.unregistersNewest {ssc' : Ssc} {op : SscOper} (h : Single s)
    (hops : ssc'.operations = s.ssc.operations) (hop : s.ssc.operations.head? = some op)
    (registrar : Option CString) :
    Single ({ s with ssc := ssc' }.call (.unregister op.opHandle registrar)) := by
  have hall : AllRegister ssc' := fun other hother => h.all other (hops ▸ hother)
  have hmem : op ∈ s.ssc.operations := List.mem_of_head? hop
  refine ⟨hall, hops ▸ h.addrs, hops ▸ h.handles, fun r hr => ?_, fun nh hnh => ?_,
    fun older hold => ?_, fun nh _ other hother => ?_, fun nh hnh => ?_⟩
  · -- The request is on the operation in front.
    show ∃ op ∈ ssc'.operations, _
    rw [hops]
    rcases List.mem_cons.mp hr with rfl | hr
    · exact ⟨op, hmem, rfl⟩
    · exact h.listed r hr
  · -- A refresh of that very handle ends with the request.
    obtain ⟨hnh, hne⟩ := List.mem_filter.mp hnh
    have hne : nh ≠ op.opHandle := by simpa using hne
    obtain ⟨hlisted, hun⟩ := h.refreshed nh hnh
    refine ⟨?_, fun hmem => ?_⟩
    · show ∃ op ∈ ssc'.operations, _
      rw [hops]
      exact hlisted
    · rcases List.mem_cons.mp hmem with heq | hmem
      · cases heq
        exact hne rfl
      · exact hun hmem
  · -- The older ones were asked to unregister before.
    have hold : older ∈ ssc'.operations.tail := hold
    rw [hops] at hold
    exact List.mem_cons_of_mem _ (h.older older hold)
  · have hother : other ∈ ssc'.operations := hother
    rw [hops, List.eq_cons_of_mem_head? hop] at hother
    rcases List.mem_cons.mp hother with rfl | hother
    · exact List.mem_cons_self
    · exact List.mem_cons_of_mem _ (h.older other hother)
  · refine h.newest nh (hnh.imp (fun hnh => ?_) fun hnh => (List.mem_filter.mp hnh).1)
    -- The request made here is no register.
    rcases List.mem_cons.mp hnh with heq | hnh
    · cases heq
    · exact hnh

/-- An update that replaces the registration leaves one operation. -/
theorem single_update {aor password registrar : Option CString} {unregister : Bool}
    (h : Single s) (hcond : ReplacesOnly env s (.update aor password registrar unregister))
    (hs : registrationStep env s (alloc, .update aor password registrar unregister) = some s') :
    Single s' := by
  obtain ⟨ssc', hstep, rfl⟩ := Option.map_eq_some_iff.mp hs
  unfold sscStep at hstep
  dsimp only at hstep
  by_cases hfresh : alloc.Fresh { s.ssc with nua := [], sent := [] }
  · rw [if_pos hfresh] at hstep
    have hstep := Option.some.inj hstep
    have hcommanded := commanded_sscUpdate env alloc { s.ssc with nua := [], sent := [] } h.all
      hfresh.1 rfl aor password registrar unregister
    rw [show sscUpdate .. = ssc' from hstep] at hcommanded
    cases hcommanded with
    | quiet hview =>
      -- Nothing is asked for, and nothing is listed anew.
      rw [after_of_calls hview]
      have hops : ssc'.operations = s.ssc.operations := congrArg Prod.fst hview
      exact h.answered hops (fun _ hr => hr) (fun _ hun => hun) fun _ hnh => .inl hnh
    | made op registrar' hmakes hop haddr hhandle hview =>
      -- The condition says who holds the registrations when one is made.
      obtain ⟨holder, hfirst⟩ := hcond hmakes
      rw [registerOpers_eq h.all] at holder
      have hops : ssc'.operations = op :: s.ssc.operations := congrArg Prod.fst hview
      rw [after_of_calls hview]
      cases unregister with
      | false =>
        exact h.registers hfresh hop haddr hhandle hops holder (hfirst rfl) registrar'
      | true => exact h.unregistersAll hfresh hop haddr hhandle hops holder registrar'
    | newest op hop hunregister hview =>
      rw [after_of_calls hview]
      -- An `unregister` without a registrar takes the operation in front.
      exact h.unregistersNewest (congrArg Prod.fst hview) hop none
  · rw [if_neg hfresh] at hstep
    cases hstep

/-- One step keeps the invariant under the condition. -/
theorem single_step {input : RegistrationInput} (h : Single s) (hcond : ReplacesOnly env s input)
    (hs : registrationStep env s (alloc, input) = some s') : Single s' := by
  cases input with
  | update aor password registrar unregister => exact single_update h hcond hs
  | rRegister nh status phrase sip => exact single_rRegister h hs
  | rUnregister nh status sip => exact single_rUnregister h hs

/-- The client is the one that the step has left. -/
theorem ssc_after (s : Registrations) (ssc : Ssc) : (s.after ssc).ssc = ssc := by
  have hcall (s : Registrations) (c : NuaCall) : (s.call c).ssc = s.ssc := by cases c <;> rfl
  have hfoldl (calls : List NuaCall) (s : Registrations) :
      (calls.foldl Registrations.call s).ssc = s.ssc := by
    induction calls generalizing s with
    | nil => rfl
    | cons c calls ih => exact (ih _).trans (hcall s c)
  exact hfoldl _ _

/-- A success is written for a response to a REGISTER or a refresh, and only the registration
that was requested last has those. -/
theorem successOfLast_step {input : RegistrationInput} (h : Single s)
    (hs : registrationStep env s (alloc, input) = some s') : SuccessOfLast s input s' := by
  rintro ⟨reply, hreply, hsuccess⟩
  cases input with
  | update aor password registrar unregister =>
    obtain ⟨ssc', hstep, rfl⟩ := Option.map_eq_some_iff.mp hs
    rw [ssc_after, sent_sscStep env alloc hstep] at hreply
    cases hreply
  | rRegister nh status phrase sip =>
    exact ⟨nh, status, phrase, sip, rfl, h.newest nh (rRegister_cases hs).1⟩
  | rUnregister nh status sip =>
    obtain ⟨_, ssc', hstep, rfl⟩ := rUnregister_cases hs
    rw [ssc_after, sent_sscStep env alloc hstep] at hreply
    cases hreply

end Step

/-! ### Runs -/

/-- A client without operations. -/
def unregistered (ssc : Ssc) : Registrations := { ssc := { ssc with operations := [] } }

/-- A client without operations. -/
theorem single_unregistered (ssc : Ssc) : Single (unregistered ssc) where
  all _ hop := absurd hop List.not_mem_nil
  addrs := List.nodup_nil
  handles := List.nodup_nil
  listed _ hr := absurd hr List.not_mem_nil
  refreshed _ hnh := absurd hnh List.not_mem_nil
  older _ hop := absurd hop List.not_mem_nil
  last _ hlast := absurd hlast (Option.some_ne_none _).symm
  newest _ hnh := hnh.elim (absurd · List.not_mem_nil) (absurd · List.not_mem_nil)

/-- In a run whose steps all meet the condition, at any point at which all requests have been
answered there is one registration at most, and none after an un-REGISTER; and every success
that is reported comes from the registration that was requested last. -/
theorem oneRegistration_of_replacesOnly (env : SscEnv) (ssc : Ssc)
    (inputs : List (Alloc × RegistrationInput))
    (h : AllSteps (registrationStep env) (fun s input _ => ReplacesOnly env s input.2)
      (unregistered ssc) inputs) :
    AllSteps (registrationStep env)
      (fun s input s' => OneRegistration s' ∧ SuccessOfLast s input.2 s')
      (unregistered ssc) inputs := by
  refine AllSteps.of_inv Single (fun s input s' hsingle hs hcond => ?_) (single_unregistered ssc) h
  have hsingle' := single_step hsingle hcond hs
  exact ⟨hsingle', hsingle'.oneRegistration, successOfLast_step hsingle hs⟩

/-- Register, unregister, and register with another password. -/
def changePassword : List (Alloc × RegistrationInput) :=
  [(⟨1, 1⟩, .update (some "sip:a@h".toList) (some "x".toList) (some "sip:h".toList) false),
    (⟨2, 2⟩, .rRegister 1 200 "OK".toList none),
    (⟨2, 2⟩, .update none (some "x".toList) none true),
    (⟨2, 2⟩, .update none (some "y".toList) (some "sip:h".toList) false),
    (⟨3, 3⟩, .rUnregister 1 200 none),
    (⟨3, 3⟩, .rRegister 2 200 "OK".toList none)]

/-- A password is changed: unregistered first, and registered again. -/
theorem oneRegistration_changePassword :
    AllSteps (registrationStep plainEnv)
        (fun s input s' => OneRegistration s' ∧ SuccessOfLast s input.2 s')
        (unregistered {}) changePassword ∧
      ∃ s, run (registrationStep plainEnv) (unregistered {}) changePassword = some s ∧
        s.requests = [] ∧ s.refreshing = [2] :=
  ⟨oneRegistration_of_replacesOnly plainEnv {} changePassword (by decide), _, rfl, rfl, rfl⟩

/-- The run of the comment: a registration succeeds, a second one is refused for its wrong
password, and the first is refreshed. -/
def wrongPassword : List (Alloc × RegistrationInput) :=
  [(⟨1, 1⟩, .update (some "sip:a@h".toList) (some "x".toList) (some "sip:h".toList) false),
    (⟨2, 2⟩, .rRegister 1 200 "OK".toList none),
    (⟨2, 2⟩, .update none (some "y".toList) (some "sip:h".toList) false),
    (⟨3, 3⟩, .rRegister 2 403 "Forbidden".toList none),
    (⟨3, 3⟩, .rRegister 1 200 "OK".toList none)]

/-- The App is told of a success after the registration that it asked for last was refused. -/
theorem superseded_refresh_succeeds :
    ¬ AllSteps (registrationStep plainEnv)
        (fun s input s' => OneRegistration s' ∧ SuccessOfLast s input.2 s')
        (unregistered {}) wrongPassword ∧
      ∃ s, run (registrationStep plainEnv) (unregistered {}) wrongPassword = some s ∧
        s.lastRegister = some 2 ∧ s.requests = [] ∧
        s.ssc.sent = [SipMsgEnum.registerSuccess.replyWith "OK".toList] := by
  refine ⟨fun h => ?_, _, rfl, rfl, rfl, rfl⟩
  have hsuccess := ((h _ rfl).2 _ rfl).2 _ rfl |>.2 _ rfl |>.2 _ rfl |>.1.2
  obtain ⟨nh, status, phrase, sip, hinput, hlast⟩ := hsuccess ⟨_, List.mem_cons_self, rfl⟩
  cases hinput
  cases hlast

end RestCommSdk.Proofs
