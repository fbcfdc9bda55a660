import RestCommSdk.CliInterface.NuaHandles
import RestCommSdk.Proofs.LiveCalls

/-!
# `RestCommSdk.Proofs.OperationRules`: invariants about the handles of operations

The functions of the SIP client ask the stack for something on the handle of an operation that is
on the list, and nowhere else. `OperationInvariant` says that a property of the client survives
such a request, and the ways in which the list changes: an operation is made or destroyed, or a
field is written that is neither a name nor the method nor the call state. Which requests it
survives is a parameter, and so is whether an operation may be taken over by a request without an
address, as that changes the method.

`OperationInvariant.sscCall` and `OperationInvariant.privCallback` are the rules, for all but the
commands and events that are about an INVITE and the events that lend a handle.
-/

set_option autoImplicit false

namespace RestCommSdk.Proofs

open RestCommSdk.CliInterface

/-- A write that keeps what an operation is about. -/
structure FieldWrite (f : SscOper → SscOper) : Prop where
  addr : ∀ op, (f op).addr = op.addr
  opHandle : ∀ op, (f op).opHandle = op.opHandle
  opMethod : ∀ op, (f op).opMethod = op.opMethod
  opCallstate : ∀ op, (f op).opCallstate = op.opCallstate

/-- The operation that `ssc_oper_create` makes. -/
def newOper (alloc : Alloc) (method : SipMethod) : SscOper :=
  sscOperAssign method { addr := alloc.addr, opHandle := alloc.handle, opMethod := method }

/-- The requests that a challenge leads to. -/
def isAuthRequest : NuaCall → Bool
  | .handleRef _ | .handleUnref _ | .authenticate .. => true
  | _ => false

/-- The requests of the commands that are not about an INVITE. -/
def mayRequest : SscCall → NuaCall → Bool
  | .cancel, .cancel _ | .options _, .options _ | .publish _, .publish _ | .unpublish, .publish _
  | .update .., .register .. | .update .., .unregister .. | .refer _, .refer ..
  | .subscribe _, .subscribe .. | .watch _, .subscribe .. | .unsubscribe _, .unsubscribe _ => true
  | .message _ _ msg headers, .message _ headers' msg' => headers' = headers && msg' = msg
  | .info msg, .info _ msg' => msg' = msg
  | _, _ => false

/-- A property that survives what most functions do. `T` allows to take operations over, `Q` is
true of the requests that it survives. -/
structure OperationInvariant (I : Ssc → Prop) (T : Prop) (Q : NuaCall → Prop) : Prop where
  of_eq : ∀ {ssc ssc' : Ssc}, I ssc → ssc'.operations = ssc.operations → ssc'.nua = ssc.nua →
    ssc'.media = ssc.media → I ssc'
  auth : ∀ {c : NuaCall}, isAuthRequest c = true → Q c
  request : ∀ {ssc : Ssc} {op : SscOper} {c : NuaCall}, I ssc → op ∈ ssc.operations → Q c →
    c.access = some (.use op.opHandle) → I (ssc.emit c)
  setting : ∀ {ssc : Ssc} {c : NuaCall}, I ssc → c.access = none → I (ssc.emit c)
  setOper : ∀ {ssc : Ssc} (addr : Nat) {f : SscOper → SscOper}, I ssc → FieldWrite f →
    I (ssc.setOper addr f)
  destroy : ∀ {ssc : Ssc} (addr : Nat), I ssc → I (sscOperDestroy ssc addr)
  make : ∀ {ssc : Ssc} {alloc : Alloc} (method : SipMethod) (address : CString), I ssc →
    alloc.Fresh ssc →
      I ({ ssc with operations := newOper alloc method :: ssc.operations }.emit
        (.handle alloc.handle address))
  bind : ∀ {ssc : Ssc} {alloc : Alloc} (method : SipMethod) {nh : Nat}, I ssc →
    (∀ op ∈ ssc.operations, op.addr ≠ alloc.addr) → (∀ op ∈ ssc.operations, op.opHandle ≠ nh) →
      I (sscOperCreateWithHandle alloc method nh ssc)
  takeOver : ∀ {ssc : Ssc} {old : SscOper} (method : SipMethod), T → I ssc →
    sscOperOld ssc = some old → I (ssc.setOper old.addr (sscOperAssign method))

/-- The command has an address for the operation that it makes. -/
def addressed (ssc : Ssc) : SscCall → Bool
  | .invite destination .. | .message destination .. | .options destination
  | .refer destination => destination.isSome
  | .watch event => event.all fun text => ' ' ∈ text
  | .publish _ | .unpublish => ssc.address.isSome
  | .update aor _ _ _ => (aor.or ssc.address).isSome
  | _ => true

/-- What a write keeps stays the same for the whole list. -/
theorem map_setOper {α : Type} (ssc : Ssc) (addr : Nat) {f : SscOper → SscOper}
    (g : SscOper → α) (hg : ∀ op, g (f op) = g op) :
    (ssc.setOper addr f).operations.map g = ssc.operations.map g := by
  simp only [Ssc.setOper, List.map_map]
  refine List.map_congr_left fun op _ => ?_
  by_cases haddr : op.addr = addr <;> simp [haddr, hg]

/-- A write keeps the handles on the list. -/
theorem exists_setOper {ssc : Ssc} {addr nh : Nat} {f : SscOper → SscOper} {op : SscOper}
    (hop : op ∈ ssc.operations) (hf : ∀ op, (f op).opHandle = op.opHandle)
    (hhandle : op.opHandle = nh) :
    ∃ op' ∈ (ssc.setOper addr f).operations, op'.opHandle = nh := by
  refine ⟨_, List.mem_map_of_mem hop, ?_⟩
  split
  · exact (hf op).trans hhandle
  · exact hhandle

/-- What `ssc_oper_create` makes is found at its address: the clean-up goes over the operations that
were there before. -/
theorem oper?_sscOperCreate {env : SscEnv} {alloc : Alloc} {ssc : Ssc} (hfresh : alloc.Fresh ssc)
    (method : SipMethod) {destination : CString} (hvalid : env.validAddress destination = true) :
    (sscOperCreate env alloc method (some destination) ssc).2 = some alloc.addr ∧
      (sscOperCreate env alloc method (some destination) ssc).1.oper? alloc.addr
        = some (newOper alloc method) := by
  simp only [sscOperCreate, hvalid, if_true, true_and]
  split
  · exact List.find?_cons_of_pos (decide_eq_true rfl)
  · rw [Ssc.oper?, operations_cleanOldHandles]
    have hkept : ((ssc.operations.dropWhile (·.opPersistent)).any fun o =>
        cleaned o && o.addr = (newOper alloc method).addr) = false := by
      rw [List.any_eq_false]
      intro o ho
      simp [newOper, sscOperAssign, hfresh.1 o ((List.dropWhile_sublist _).subset ho)]
    exact (congrArg _ (List.filter_cons_of_pos (Bool.not_eq_true' _ ▸ hkept))).trans
      (List.find?_cons_of_pos (decide_eq_true rfl))

/-- At a valid destination there is a new operation, and it is found. -/
theorem oper?_sscOperCreateWithPassword {env : SscEnv} {alloc : Alloc} {ssc : Ssc}
    (hfresh : alloc.Fresh ssc) (method : SipMethod) (password : Option CString)
    {destination : CString} (hvalid : env.validAddress destination = true) :
    (sscOperCreateWithPassword env alloc method (some destination) password ssc).2
        = some alloc.addr ∧
      (sscOperCreateWithPassword env alloc method (some destination) password ssc).1.oper?
        alloc.addr = some { newOper alloc method with password := password } := by
  obtain ⟨hcreated, hop⟩ := oper?_sscOperCreate hfresh method hvalid
  simp only [sscOperCreateWithPassword, hcreated, true_and]
  rw [oper?_setOper (f := fun op => { op with password := password }) fun _ => rfl, hop]
  rfl

namespace OperationInvariant

variable {I : Ssc → Prop} {T : Prop} {Q : NuaCall → Prop} {env : SscEnv} {alloc : Alloc}
  {ssc ssc' : Ssc}

/-! ### Making and destroying operations -/

section Opers
variable (hI : OperationInvariant I T Q) (h : I ssc)
include hI h

/-- The operation of an event goes, if there is one. -/
theorem destroyOf (op : Option SscOper) : I (destroyOf op ssc) := by
  cases op with
  | none => exact h
  | some op => exact hI.destroy op.addr h

/-- Operations that have ended go. -/
theorem cleanOldHandles (old : List SscOper) : I (cleanOldHandles old ssc) := by
  induction old generalizing ssc with
  | nil => exact h
  | cons op old ih =>
    rw [CliInterface.cleanOldHandles, List.foldl_cons]
    split
    · exact ih (hI.destroy op.addr h)
    · exact ih h

/-- A new operation comes, at an address if one is needed. -/
theorem sscOperCreate (hfresh : alloc.Fresh ssc) (method : SipMethod)
    (address : Option CString) (hT : T ∨ address.isSome) :
    I (sscOperCreate env alloc method address ssc).1 := by
  unfold CliInterface.sscOperCreate
  split
  · rename_i address
    split
    · have hmade := hI.make method address h hfresh
      dsimp only
      split
      · exact hmade
      · exact hI.cleanOldHandles hmade _
    · exact h
  · split
    · rename_i old hold
      exact hI.takeOver method (hT.resolve_right (by simp)) h hold
    · exact h

/-- The password changes neither the address nor the handle. -/
theorem sscOperCreateWithPassword (hfresh : alloc.Fresh ssc) (method : SipMethod)
    (address password : Option CString) (hT : T ∨ address.isSome) :
    I (sscOperCreateWithPassword env alloc method address password ssc).1 := by
  have hcreate : I (CliInterface.sscOperCreate env alloc method address ssc).1 :=
    hI.sscOperCreate h hfresh method address hT
  unfold CliInterface.sscOperCreateWithPassword
  dsimp only
  split
  · exact hI.setOper _ hcreate ⟨fun _ => rfl, fun _ => rfl, fun _ => rfl, fun _ => rfl⟩
  · exact hcreate

/-- An operation comes for a handle that is lent and has none. -/
theorem bindNew (hfresh : alloc.Fresh ssc) (method : SipMethod) {nh : Nat}
    (hnone : sscOperFindByHandle ssc nh = none) :
    I (sscOperCreateWithHandle alloc method nh ssc) :=
  hI.bind method h hfresh.1 fun op hop => by simpa using List.find?_eq_none.mp hnone op hop

end Opers

/-- A request on the operation that was just made. -/
theorem requestOn (hI : OperationInvariant I T Q) {created : Ssc × Option Nat} (h : I created.1)
    (request : Nat → NuaCall) (hQ : ∀ nh, Q (request nh))
    (hrequest : ∀ nh, (request nh).access = some (.use nh)) :
    I (match created.2.bind created.1.oper? with
      | some op => created.1.emit (request op.opHandle)
      | none => created.1) := by
  split
  · rename_i op hop
    obtain ⟨addr, -, hop⟩ := Option.bind_eq_some_iff.mp hop
    exact hI.request h (mem_of_oper? hop).1 (hQ _) (hrequest _)
  · exact h

/-- A request on an operation that was looked for. -/
theorem requestOnFound (hI : OperationInvariant I T Q) (h : I ssc) (p : SscOper → Bool)
    (request : Nat → NuaCall) (hQ : ∀ nh, Q (request nh))
    (hrequest : ∀ nh, (request nh).access = some (.use nh)) :
    I (match ssc.operations.find? p with
      | some op => ssc.emit (request op.opHandle)
      | none => ssc) := by
  split
  · rename_i op hfind
    exact hI.request h (List.mem_of_find?_eq_some hfind) (hQ _) (hrequest _)
  · exact h

/-! ### Authentication -/

section Auth
variable (hI : OperationInvariant I T Q) (h : I ssc)
include hI h

/-- Challenges are answered on the handles of their operations. -/
theorem sscAuth (data : CString) : I (sscAuth env ssc data) := by
  unfold CliInterface.sscAuth
  generalize ssc.authPend = queue
  induction queue with
  | nil => exact hI.of_eq h rfl rfl rfl
  | cons item rest ih =>
    have hpend : I { ssc with authPend := rest } := hI.of_eq h rfl rfl rfl
    rw [sscAuthLoop]
    split
    · dsimp only
      split
      · rename_i op hop
        have hmem : op ∈ ssc.operations := (mem_of_oper? hop).1
        have hauth := hI.request (c := .authenticate op.opHandle (authString item data)) hpend
          hmem (hI.auth rfl) rfl
        exact hI.request (c := .handleUnref op.opHandle) hauth hmem (hI.auth rfl) rfl
      · exact hpend
    · exact ih

/-- Only the handle of the operation is asked for anything. -/
theorem foldlPrivAttachOp {op : SscOper} (hop : ∃ o ∈ ssc.operations, o.opHandle = op.opHandle)
    (items : List SscAuthItem) : I (items.foldl (privAttachOp op) ssc) := by
  induction items generalizing ssc with
  | nil => exact h
  | cons item items ih =>
    obtain ⟨o, hmem, hhandle⟩ := hop
    have hattach := hI.request (c := .handleRef op.opHandle) h hmem (hI.auth rfl)
      (by rw [hhandle]; rfl)
    have hqueued : I (privAttachOp op ssc item) := hI.of_eq hattach rfl rfl rfl
    exact ih hqueued ⟨o, hmem, hhandle⟩

/-- A challenge is stored for an operation that is listed. -/
theorem sscStorePendingAuth {op : Option SscOper} {sip : Option Sip}
    (hop : ∀ o ∈ op, ∃ o' ∈ ssc.operations, o'.opHandle = o.opHandle)
    (hstore : sscStorePendingAuth env ssc op sip = some ssc') : I ssc' := by
  obtain ⟨op, rfl, hstore⟩ := Option.bind_eq_some_iff.mp hstore
  obtain ⟨sip, -, hstore⟩ := Option.bind_eq_some_iff.mp hstore
  have hqueued := hI.foldlPrivAttachOp h (hop op rfl) (pendingItems sip op)
  dsimp only at hstore
  split at hstore <;> cases hstore
  · exact hI.sscAuth hqueued _
  · exact hqueued

end Auth

/-! ### Commands -/

section Commands
variable (hI : OperationInvariant I T Q) (h : I ssc)
include hI h

/-- The own address is set. -/
theorem sscSetPublicAddress (address : Option CString) : I (sscSetPublicAddress address ssc) := by
  cases address with
  | none => exact h
  | some address =>
    have haddress : I { ssc with address := some address } := hI.of_eq h rfl rfl rfl
    exact hI.setting (c := .setFrom address) haddress rfl

/-- A registration is asked for on the handle of a new operation. -/
theorem sscRegister (hfresh : alloc.Fresh ssc) (registrar password : Option CString)
    (hT : T ∨ ssc.address.isSome) (hQ : ∀ nh registrar, Q (.register nh registrar)) :
    I (sscRegister env alloc registrar password ssc) := by
  have hset := hI.setting (c := .setRegistrar (givenRegistrar registrar)) h rfl
  unfold CliInterface.sscRegister
  dsimp only
  split
  · exact hset
  · exact hI.requestOn (hI.sscOperCreateWithPassword hset hfresh .register _ password hT)
      (fun nh => .register nh registrar) (fun _ => hQ _ _) fun _ => rfl

/-- An unregistration is asked for on the handle of an operation. -/
theorem sscUnregister (hfresh : alloc.Fresh ssc) (registrar password : Option CString)
    (hT : T ∨ ssc.address.isSome) (hQ : ∀ nh registrar, Q (.unregister nh registrar)) :
    I (sscUnregister env alloc registrar password ssc) := by
  have hset := hI.setting (c := .setRegistrar none) h rfl
  unfold CliInterface.sscUnregister
  dsimp only
  split
  · rename_i op hfind
    exact hI.request hset (List.mem_of_find?_eq_some hfind) (hQ _ _) rfl
  · exact hI.requestOn (hI.sscOperCreateWithPassword hset hfresh .register _ password hT)
      (fun nh => .unregister nh _) (fun _ => hQ _ _) fun _ => rfl

/-- The address comes first, so that the registration has one. -/
theorem sscUpdate (hfresh : alloc.Fresh ssc) (aor password registrar : Option CString)
    (unregister : Bool) (hT : T ∨ (aor.or ssc.address).isSome)
    (hregister : ∀ nh registrar, Q (.register nh registrar))
    (hunregister : ∀ nh registrar, Q (.unregister nh registrar)) :
    I (sscUpdate env alloc aor password registrar unregister ssc) := by
  have haor := hI.sscSetPublicAddress h aor
  have hfresh : alloc.Fresh (CliInterface.sscSetPublicAddress aor ssc) := by
    cases aor <;> exact hfresh
  have hT : T ∨ (CliInterface.sscSetPublicAddress aor ssc).address.isSome := by
    cases aor <;> exact hT
  unfold CliInterface.sscUpdate
  dsimp only
  split
  · exact hI.sscUnregister haor hfresh registrar password hT hunregister
  · exact hI.sscRegister haor hfresh registrar password hT hregister

/-- A subscription is asked for on the handle of a new operation. -/
theorem subscribeTo (hfresh : alloc.Fresh ssc) (destination : Option CString) (event : CString)
    (eventlist : Bool) (hT : T ∨ destination.isSome)
    (hQ : ∀ nh event eventlist, Q (.subscribe nh event eventlist)) :
    I (subscribeTo env alloc destination event eventlist ssc) :=
  hI.requestOn (hI.sscOperCreate h hfresh .subscribe destination hT)
    (fun nh => .subscribe nh event eventlist) (fun _ => hQ _ _ _) fun _ => rfl

/-- A call in progress is cancelled. -/
theorem sscCancel (hQ : ∀ nh, Q (.cancel nh)) : I (sscCancel ssc) := by
  unfold CliInterface.sscCancel
  split
  · rename_i op hfind
    exact hI.request h (List.mem_of_find?_eq_some hfind) (hQ _) rfl
  · exact hI.requestOnFound h _ (fun nh => .cancel nh) hQ fun _ => rfl

/-- A publication is asked for on the handle of a new operation. -/
theorem sscPublish (hfresh : alloc.Fresh ssc) (hT : T ∨ ssc.address.isSome)
    (hQ : ∀ nh, Q (.publish nh)) : I (sscPublish env alloc ssc) := by
  unfold CliInterface.sscPublish
  split
  · rename_i op hfind
    exact hI.request h (List.mem_of_find?_eq_some hfind) (hQ _) rfl
  · exact hI.requestOn (hI.sscOperCreate h hfresh .publish _ hT) (fun nh => .publish nh) hQ
      fun _ => rfl

/-- A transfer is asked for on the handle of a new operation. -/
theorem sscRefer (hfresh : alloc.Fresh ssc) (destination : Option CString) (toAddress : CString)
    (hT : T ∨ destination.isSome) (hQ : ∀ nh toAddress, Q (.refer nh toAddress)) :
    I (sscRefer env alloc destination toAddress ssc) := by
  unfold CliInterface.sscRefer
  split
  · rename_i op hfind
    exact hI.request h (List.mem_of_find?_eq_some hfind) (hQ _ _) rfl
  · exact hI.requestOn (hI.sscOperCreate h hfresh .refer destination hT)
      (fun nh => .refer nh toAddress) (fun _ => hQ _ _) fun _ => rfl

/-- The commands that are not about an INVITE. -/
theorem sscCall (hfresh : alloc.Fresh ssc) {prompt : CString} {c : SscCall}
    (hc : isCallCommand c = false) (hT : T ∨ addressed ssc c)
    (hQ : ∀ request, mayRequest c request = true → Q request)
    (hcall : sscCall env alloc prompt ssc c = some ssc') : I ssc' := by
  cases c with
  | answer sdp status phrase => cases hc
  | bye => cases hc
  | invite destination password sdp headers => cases hc
  | setPublicAddress aor => cases hcall; exact hI.sscSetPublicAddress h _
  | cancel => cases hcall; exact hI.sscCancel h fun _ => hQ _ rfl
  | info msg =>
    cases hcall
    exact hI.requestOnFound h _ (fun nh => .info nh msg) (fun _ => hQ _ (by simp [mayRequest]))
      fun _ => rfl
  | auth data =>
    obtain ⟨data, -, rfl⟩ := Option.map_eq_some_iff.mp hcall
    exact hI.sscAuth h data
  | message destination password msg headers =>
    cases hcall
    exact hI.requestOn (hI.sscOperCreateWithPassword h hfresh .message destination password hT)
      (fun nh => .message nh headers msg) (fun _ => hQ _ (by simp [mayRequest])) fun _ => rfl
  | subscribe destination =>
    obtain ⟨destination, -, hcall⟩ := Option.bind_eq_some_iff.mp hcall
    split at hcall <;> cases hcall <;>
      exact hI.subscribeTo h hfresh _ _ _ (.inr rfl) fun _ _ _ => hQ _ rfl
  | watch event =>
    obtain ⟨event, rfl, hcall⟩ := Option.bind_eq_some_iff.mp hcall
    cases hcall
    -- The destination is missing when there is no blank behind the event.
    refine hI.subscribeTo h hfresh _ _ _ (hT.imp_right fun haddressed => ?_) fun _ _ _ => hQ _ rfl
    rw [if_pos (of_decide_eq_true haddressed)]
    rfl
  | options destination =>
    cases hcall
    exact hI.requestOn (hI.sscOperCreate h hfresh .options destination hT)
      (fun nh => .options nh) (fun _ => hQ _ rfl) fun _ => rfl
  | publish _ | unpublish => cases hcall; exact hI.sscPublish h hfresh hT fun _ => hQ _ rfl
  | update aor password registrar unregister =>
    cases hcall
    exact hI.sscUpdate h hfresh _ _ _ _ hT (fun _ _ => hQ _ rfl) fun _ _ => hQ _ rfl
  | refer destination =>
    cases hcall
    exact hI.sscRefer h hfresh _ _ hT fun _ _ => hQ _ rfl
  | unsubscribe _ =>
    cases hcall
    exact hI.requestOnFound h _ (fun nh => .unsubscribe nh) (fun _ => hQ _ rfl) fun _ => rfl
  | zap _ =>
    cases hcall
    unfold sscZap
    split
    · exact hI.destroy _ h
    · exact h
  | shutdown =>
    cases hcall
    have hshutdown := hI.setting (c := .shutdown) h rfl
    exact hI.of_eq hshutdown rfl rfl rfl
  | hold _ _ | list | printSettings | param _ _ => cases hcall; exact h

end Commands

/-! ### Events -/

/-- The events that neither are about an INVITE nor lend a handle. -/
theorem privCallback (hI : OperationInvariant I T Q) (h : I ssc) (hfresh : alloc.Fresh ssc)
    {nh : Nat} {e : NuaEvent} (he : isCallEvent e = false)
    (hlent : (SscInput.event nh e).lent = none)
    (hevent : privCallback env alloc nh ssc e = some ssc') : I ssc' := by
  have hlisted : ∀ o ∈ sscOperFindByHandle ssc nh,
      ∃ o' ∈ ssc.operations, o'.opHandle = o.opHandle := fun o ho =>
    ⟨o, (mem_of_findByHandle ho).1, rfl⟩
  have hunpersist (addr : Nat) :
      I (ssc.setOper addr fun op => { op with opPersistent := false }) :=
    hI.setOper addr h ⟨fun _ => rfl, fun _ => rfl, fun _ => rfl, fun _ => rfl⟩
  obtain ⟨base, replies, hbase, rfl⟩ := handled_of_privCallback he hevent
  suffices hkept : I base from hI.of_eq hkept rfl rfl rfl
  cases hbase with
  | kept address rootBroken => exact hI.of_eq h rfl rfl rfl
  | stored hchallenge hstore => exact hI.sscStorePendingAuth h hlisted hstore
  | storedUnpersisted hchallenge hop hstore =>
    -- The write keeps the handle that the credentials are for.
    refine hI.sscStorePendingAuth (hunpersist _) (fun o ho => ?_) hstore
    obtain ⟨o', ho', hhandle⟩ := hlisted o ho
    exact exists_setOper ho' (fun _ => rfl) hhandle
  | unpersisted hop => exact hunpersist _
  | destroyed => exact hI.destroyOf h _
  | bound method hnone => exact hI.bindNew h hfresh method hnone
  | made text => exact hI.sscOperCreate h hfresh .invite _ (.inr rfl)
  | forked hsome => cases hlent.symm.trans hsome
  | dropped hsome hnone => cases hlent.symm.trans hsome

end OperationInvariant

/-- An event that lends a handle makes the client ask the stack for something, and no more. -/
theorem privCallback_lent {env : SscEnv} {alloc : Alloc} {ssc ssc' : Ssc} {nh nh' : Nat}
    {e : NuaEvent} (hlent : (SscInput.event nh e).lent = some nh')
    (hevent : privCallback env alloc nh ssc e = some ssc') :
    ∃ calls, ssc' = { ssc with nua := ssc.nua ++ calls } := by
  have hsame : ssc = { ssc with nua := ssc.nua ++ [] } := by rw [List.append_nil]
  cases e with
  | iFork nh2 =>
    cases hlent
    cases hevent
    exact ⟨[.bye nh', .handleDestroy nh'], by simp [sscIFork, Ssc.emit]⟩
  | iPrack _ | unhandled =>
    simp only [privCallback, Option.some.injEq] at hevent
    subst hevent
    split
    · exact ⟨[.handleDestroy nh], rfl⟩
    · exact ⟨[], hsame⟩
  | _ => cases hlent

end RestCommSdk.Proofs
