import Mathlib.Data.List.Nodup
import RestCommSdk.Proofs.SscFrame
import RestCommSdk.Proofs.SscHandlers

/-!
# `RestCommSdk.Proofs.SscInvariants`: invariants that most handlers cannot break

Most functions of the SIP client change its operations and ask something of the stack in few
ways: they make a request that is none of the calls of an INVITE (`isPlain`), write a field of
an operation that is neither a name nor the call state (`PlainWrite`), take operations off the
list, or put a new one in front that has no call state yet. `PlainInvariant` says that a
property of the client survives each of these.

`PlainInvariant.sscCall` and `PlainInvariant.privCallback` are the rules: such a property
survives every command but `ssc_answer`, `ssc_bye` and `ssc_invite` (`isCallCommand`), and every
event but `nua_r_invite`, `nua_i_invite` and `nua_i_state` (`isCallEvent`). Those six are what a
proof is left with.
-/

set_option autoImplicit false

namespace RestCommSdk.Proofs

open RestCommSdk.CliInterface

/-- Only the operations of some methods are persistent. -/
def PersistentByMethod (op : SscOper) : Prop := op.opPersistent → op.opMethod.persistent

/-- Whether an operation is persistent is decided when its method is written. -/
theorem persistentByMethod_sscOperAssign (method : SipMethod) (op : SscOper) :
    PersistentByMethod (sscOperAssign method op) := id

/-- The calls that are not about an INVITE, and make no handle. -/
def isPlain : NuaCall → Bool
  | .invite .. | .respond .. | .handle .. | .handleBind .. => false
  | _ => true

/-- The commands that answer a call, end one or make one. -/
def isCallCommand : SscCall → Bool
  | .answer .. | .bye | .invite .. => true
  | _ => false

/-- A write to an operation that keeps its names and its call state. -/
structure PlainWrite (f : SscOper → SscOper) : Prop where
  addr : ∀ op, (f op).addr = op.addr
  opHandle : ∀ op, (f op).opHandle = op.opHandle
  opCallstate : ∀ op, (f op).opCallstate = op.opCallstate
  persistent : ∀ op, PersistentByMethod op → PersistentByMethod (f op)

/-- A property that survives what most handlers do. -/
structure PlainInvariant (I : Ssc → Prop) : Prop where
  of_eq : ∀ {ssc ssc' : Ssc}, I ssc → ssc'.operations = ssc.operations → ssc'.nua = ssc.nua →
    ssc'.autoanswer = ssc.autoanswer → I ssc'
  emit : ∀ {ssc : Ssc} {c : NuaCall}, I ssc → isPlain c = true → I (ssc.emit c)
  setOper : ∀ {ssc : Ssc} (addr : Nat) {f : SscOper → SscOper}, I ssc → PlainWrite f →
    I (ssc.setOper addr f)
  filter : ∀ {ssc : Ssc} (p : SscOper → Bool), I ssc →
    I { ssc with operations := ssc.operations.filter p }
  /-- A new operation comes with the call that makes its handle. -/
  cons : ∀ {ssc : Ssc} {op : SscOper} {c : NuaCall}, I ssc →
    (∀ op' ∈ ssc.operations, op'.addr ≠ op.addr) →
    (∀ op' ∈ ssc.operations, op'.opHandle ≠ op.opHandle) →
    op.opCallstate = .none → PersistentByMethod op →
    ((∃ address, c = .handle op.opHandle address) ∨ c = .handleBind op.opHandle) →
    I ({ ssc with operations := op :: ssc.operations }.emit c)

/-! ### Finding operations -/

/-- Two listed operations at one address are the same. -/
theorem eq_of_addr {ops : List SscOper} (h : (ops.map (·.addr)).Nodup) {op op' : SscOper}
    (hop : op ∈ ops) (hop' : op' ∈ ops) (haddr : op.addr = op'.addr) : op = op' :=
  List.inj_on_of_nodup_map h hop hop' haddr

/-- What is found at an address is listed, with this address. -/
theorem mem_of_oper? {ssc : Ssc} {addr : Nat} {op : SscOper} (h : ssc.oper? addr = some op) :
    op ∈ ssc.operations ∧ op.addr = addr :=
  ⟨List.mem_of_find?_eq_some h, by simpa using List.find?_some h⟩

/-- A listed operation is found at its address. -/
theorem oper?_of_mem {ssc : Ssc} (h : (ssc.operations.map (·.addr)).Nodup) {op : SscOper}
    (hop : op ∈ ssc.operations) : ssc.oper? op.addr = some op := by
  cases hfind : ssc.oper? op.addr with
  | none => simpa using List.find?_eq_none.mp hfind op hop
  | some op' =>
    obtain ⟨hmem, haddr⟩ := mem_of_oper? hfind
    rw [eq_of_addr h hmem hop haddr]

/-- What is found for a handle is listed, with this handle. -/
theorem mem_of_findByHandle {ssc : Ssc} {nh : Nat} {op : SscOper}
    (h : sscOperFindByHandle ssc nh = some op) : op ∈ ssc.operations ∧ op.opHandle = nh :=
  ⟨List.mem_of_find?_eq_some h, by simpa using List.find?_some h⟩

/-- A listed operation is found for its handle. -/
theorem findByHandle_of_mem {ssc : Ssc} (h : (ssc.operations.map (·.opHandle)).Nodup)
    {op : SscOper} (hop : op ∈ ssc.operations) :
    sscOperFindByHandle ssc op.opHandle = some op := by
  cases hfind : sscOperFindByHandle ssc op.opHandle with
  | none => simpa using List.find?_eq_none.mp hfind op hop
  | some op' =>
    obtain ⟨hmem, hhandle⟩ := mem_of_findByHandle hfind
    rw [List.inj_on_of_nodup_map h hmem hop hhandle]

/-! ### Making and destroying operations -/

namespace PlainInvariant

variable {I : Ssc → Prop} {env : SscEnv} {alloc : Alloc} {ssc ssc' : Ssc}

section Opers
variable (hI : PlainInvariant I) (h : I ssc)
include hI h

/-- Destroying an operation takes it off the list, emits one call, and may deactivate the media.
-/
theorem sscOperDestroy (addr : Nat) : I (sscOperDestroy ssc addr) := by
  unfold CliInterface.sscOperDestroy
  split
  · exact h
  · rename_i op _
    have hdestroy := hI.emit (c := .handleDestroy op.opHandle) (hI.filter (·.addr ≠ addr) h) rfl
    dsimp only
    split
    · exact hdestroy
    · exact hI.of_eq hdestroy rfl rfl rfl

/-- The operation of an event is destroyed, if there is one. -/
theorem destroyOf (op : Option SscOper) : I (destroyOf op ssc) := by
  cases op with
  | none => exact h
  | some op => exact hI.sscOperDestroy h op.addr

/-- The operations that have ended are destroyed one by one. -/
theorem cleanOldHandles (old : List SscOper) : I (cleanOldHandles old ssc) := by
  induction old generalizing ssc with
  | nil => exact h
  | cons op old ih =>
    rw [CliInterface.cleanOldHandles, List.foldl_cons]
    split
    · exact ih (hI.sscOperDestroy h op.addr)
    · exact ih h

/-- A new operation comes with a handle of its own. -/
theorem sscOperCreate (hfresh : alloc.Fresh ssc) (method : SipMethod)
    (address : Option CString) : I (sscOperCreate env alloc method address ssc).1 := by
  unfold CliInterface.sscOperCreate
  split
  · rename_i address
    split
    · have hcons := hI.cons (c := .handle alloc.handle address) h hfresh.1 hfresh.2 rfl
        (persistentByMethod_sscOperAssign method
          { addr := alloc.addr, opHandle := alloc.handle, opMethod := method }) (.inl ⟨_, rfl⟩)
      dsimp only
      split
      · exact hcons
      · exact hI.cleanOldHandles hcons _
    · exact h
  · split
    · refine hI.setOper _ h ⟨fun _ => rfl, fun _ => rfl, fun _ => rfl, fun op _ => ?_⟩
      exact persistentByMethod_sscOperAssign method op
    · exact h

/-- Writing the password leaves the address and the handle. -/
theorem sscOperCreateWithPassword (hfresh : alloc.Fresh ssc) (method : SipMethod)
    (address password : Option CString) :
    I (sscOperCreateWithPassword env alloc method address password ssc).1 := by
  have hcreate : I (CliInterface.sscOperCreate env alloc method address ssc).1 :=
    hI.sscOperCreate h hfresh method address
  unfold CliInterface.sscOperCreateWithPassword
  dsimp only
  split
  · exact hI.setOper _ hcreate ⟨fun _ => rfl, fun _ => rfl, fun _ => rfl, fun _ => id⟩
  · exact hcreate

/-- A handle that is lent becomes that of an operation, unless it is already. -/
theorem sscOperCreateWithHandle (hfresh : alloc.Fresh ssc) (method : SipMethod) {nh : Nat}
    (hnone : sscOperFindByHandle ssc nh = none) :
    I (sscOperCreateWithHandle alloc method nh ssc) := by
  have hhandle : ∀ op ∈ ssc.operations, op.opHandle ≠ nh := fun op hop => by
    simpa using List.find?_eq_none.mp hnone op hop
  exact hI.cons h hfresh.1 hhandle rfl (persistentByMethod_sscOperAssign method _) (.inr rfl)

end Opers

/-- A request on the operation that was just made. -/
theorem requestOn (hI : PlainInvariant I) {created : Ssc × Option Nat} (h : I created.1)
    (request : Nat → NuaCall) (hrequest : ∀ nh, isPlain (request nh) = true) :
    I (match created.2.bind created.1.oper? with
      | some op => created.1.emit (request op.opHandle)
      | none => created.1) := by
  split
  · exact hI.emit h (hrequest _)
  · exact h

/-! ### Authentication -/

section Auth
variable (hI : PlainInvariant I) (h : I ssc)
include hI h

/-- Answering challenges uses their operations only. -/
theorem sscAuth (data : CString) : I (sscAuth env ssc data) := by
  unfold CliInterface.sscAuth
  generalize ssc.authPend = queue
  induction queue with
  | nil => exact hI.of_eq h rfl rfl rfl
  | cons item rest ih =>
    have hpend : I { ssc with authPend := rest } := hI.of_eq h rfl rfl rfl
    rw [sscAuthLoop]
    split
    · dsimp only
      split
      · rename_i op _
        have hauth := hI.emit (c := .authenticate op.opHandle (authString item data)) hpend rfl
        exact hI.emit (c := .handleUnref op.opHandle) hauth rfl
      · exact hpend
    · exact ih

/-- Challenges are queued. -/
theorem foldlPrivAttachOp (op : SscOper) (items : List SscAuthItem) :
    I (items.foldl (privAttachOp op) ssc) := by
  induction items generalizing ssc with
  | nil => exact h
  | cons item items ih =>
    have hattach := hI.emit (c := .handleRef op.opHandle) h rfl
    exact ih (hI.of_eq hattach rfl rfl rfl)

/-- A challenge is stored, and perhaps answered at once. -/
theorem sscStorePendingAuth {op : Option SscOper} {sip : Option Sip}
    (hstore : sscStorePendingAuth env ssc op sip = some ssc') : I ssc' := by
  obtain ⟨op, -, hstore⟩ := Option.bind_eq_some_iff.mp hstore
  obtain ⟨sip, -, hstore⟩ := Option.bind_eq_some_iff.mp hstore
  have hqueued := hI.foldlPrivAttachOp h op (pendingItems sip op)
  dsimp only at hstore
  split at hstore <;> cases hstore
  · exact hI.sscAuth hqueued _
  · exact hqueued

end Auth

/-! ### Commands -/

section Commands
variable (hI : PlainInvariant I) (h : I ssc)
include hI h

/-- A registration makes an operation and uses it. -/
theorem sscRegister (hfresh : alloc.Fresh ssc) (registrar password : Option CString) :
    I (sscRegister env alloc registrar password ssc) := by
  have hset := hI.emit (c := .setRegistrar (givenRegistrar registrar)) h rfl
  unfold CliInterface.sscRegister
  dsimp only
  split
  · exact hset
  · exact hI.requestOn (hI.sscOperCreateWithPassword hset hfresh .register _ password)
      (fun nh => .register nh registrar) fun _ => rfl

/-- An unregistration uses a listed operation, or makes one. -/
theorem sscUnregister (hfresh : alloc.Fresh ssc) (registrar password : Option CString) :
    I (sscUnregister env alloc registrar password ssc) := by
  have hset := hI.emit (c := .setRegistrar none) h rfl
  unfold CliInterface.sscUnregister
  dsimp only
  split
  · exact hI.emit hset rfl
  · exact hI.requestOn (hI.sscOperCreateWithPassword hset hfresh .register _ password)
      (fun nh => .unregister nh _) fun _ => rfl

/-- The own address is set. -/
theorem sscSetPublicAddress (address : Option CString) : I (sscSetPublicAddress address ssc) := by
  cases address with
  | none => exact h
  | some address =>
    have haddress : I { ssc with address := some address } := hI.of_eq h rfl rfl rfl
    exact hI.emit (c := .setFrom address) haddress rfl

/-- An update sets the address, and is one of the two. -/
theorem sscUpdate (hfresh : alloc.Fresh ssc) (aor password registrar : Option CString)
    (unregister : Bool) : I (sscUpdate env alloc aor password registrar unregister ssc) := by
  have haor := hI.sscSetPublicAddress h aor
  have hfresh : alloc.Fresh (CliInterface.sscSetPublicAddress aor ssc) := by
    cases aor <;> exact hfresh
  unfold CliInterface.sscUpdate
  dsimp only
  split
  · exact hI.sscUnregister haor hfresh registrar password
  · exact hI.sscRegister haor hfresh registrar password

/-- A subscription makes an operation and uses it. -/
theorem subscribeTo (hfresh : alloc.Fresh ssc) (destination : Option CString) (event : CString)
    (eventlist : Bool) : I (subscribeTo env alloc destination event eventlist ssc) :=
  hI.requestOn (hI.sscOperCreate h hfresh .subscribe destination)
    (fun nh => .subscribe nh event eventlist) fun _ => rfl

/-- Every command that is about no call. -/
theorem sscCall (hfresh : alloc.Fresh ssc) {prompt : CString} {c : SscCall}
    (hc : isCallCommand c = false)
    (hcall : sscCall env alloc prompt ssc c = some ssc') : I ssc' := by
  -- The call commands are excluded by `hc`; the others create one operation or send on one.
  cases c with
  | answer sdp status phrase => cases hc
  | bye => cases hc
  | invite destination password sdp headers => cases hc
  | setPublicAddress aor => cases hcall; exact hI.sscSetPublicAddress h _
  | cancel =>
    cases hcall
    unfold sscCancel
    split
    · exact hI.emit h rfl
    · split
      · exact hI.emit h rfl
      · exact h
  | info msg =>
    cases hcall
    unfold sscInfo
    split
    · exact hI.emit h rfl
    · exact h
  | auth data =>
    obtain ⟨data, -, rfl⟩ := Option.map_eq_some_iff.mp hcall
    exact hI.sscAuth h data
  | message destination password msg headers =>
    cases hcall
    exact hI.requestOn (hI.sscOperCreateWithPassword h hfresh .message destination password)
      (fun nh => .message nh headers msg) fun _ => rfl
  | subscribe destination =>
    obtain ⟨destination, -, hcall⟩ := Option.bind_eq_some_iff.mp hcall
    split at hcall <;> cases hcall <;> exact hI.subscribeTo h hfresh _ _ _
  | watch event =>
    obtain ⟨event, -, hcall⟩ := Option.bind_eq_some_iff.mp hcall
    cases hcall
    exact hI.subscribeTo h hfresh _ _ _
  | options destination =>
    cases hcall
    exact hI.requestOn (hI.sscOperCreate h hfresh .options destination)
      (fun nh => .options nh) fun _ => rfl
  | publish _ | unpublish =>
    cases hcall
    unfold sscPublish
    split
    · exact hI.emit h rfl
    · exact hI.requestOn (hI.sscOperCreate h hfresh .publish _)
        (fun nh => .publish nh) fun _ => rfl
  | update aor password registrar unregister =>
    cases hcall
    exact hI.sscUpdate h hfresh _ _ _ _
  | refer destination =>
    cases hcall
    unfold sscRefer
    split
    · exact hI.emit h rfl
    · exact hI.requestOn (hI.sscOperCreate h hfresh .refer destination)
        (fun nh => .refer nh prompt) fun _ => rfl
  | unsubscribe _ =>
    cases hcall
    unfold sscUnsubscribe
    split
    · exact hI.emit h rfl
    · exact h
  | zap _ =>
    cases hcall
    unfold sscZap
    split
    · exact hI.sscOperDestroy h _
    · exact h
  | shutdown =>
    cases hcall
    have hshutdown := hI.emit (c := .shutdown) h rfl
    exact hI.of_eq hshutdown rfl rfl rfl
  | hold _ _ | list | printSettings | param _ _ => cases hcall; exact h

end Commands

/-! ### Events -/

/-- Every event but those about an INVITE. -/
theorem privCallback (hI : PlainInvariant I) (h : I ssc) (hfresh : alloc.Fresh ssc) {nh : Nat}
    {e : NuaEvent} (he : isCallEvent e = false)
    (hevent : privCallback env alloc nh ssc e = some ssc') : I ssc' := by
  -- An operation that is persistent no longer breaks nothing.
  have hunpersist (addr : Nat) :
      I (ssc.setOper addr fun op => { op with opPersistent := false }) := by
    refine hI.setOper addr h ⟨fun _ => rfl, fun _ => rfl, fun _ => rfl, fun _ _ hpersistent => ?_⟩
    cases hpersistent
  obtain ⟨base, replies, hbase, rfl⟩ := handled_of_privCallback he hevent
  suffices hkept : I base from hI.of_eq hkept rfl rfl rfl
  cases hbase with
  | kept address rootBroken => exact hI.of_eq h rfl rfl rfl
  | stored hchallenge hstore => exact hI.sscStorePendingAuth h hstore
  | storedUnpersisted hchallenge hop hstore =>
    exact hI.sscStorePendingAuth (hunpersist _) hstore
  | unpersisted hop => exact hunpersist _
  | destroyed => exact hI.destroyOf h _
  | bound method hnone => exact hI.sscOperCreateWithHandle h hfresh method hnone
  | made text => exact hI.sscOperCreate h hfresh .invite _
  | forked hlent => exact hI.emit (hI.emit h rfl) rfl
  | dropped hlent hnone => exact hI.emit h rfl

end PlainInvariant

end RestCommSdk.Proofs
