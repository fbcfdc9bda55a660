import RestCommSdk.CliInterface.SipMsg

/-!
# `RestCommSdk.CliInterface.SscOper`: the operations of the SIP client

The state `ssc_t` of the Sofia side and the functions of `ssc_oper.mm` that keep its list of
operations. An operation stands for one nua handle: a call, a message, a registration.

Two numbers name an operation. `addr` is its address in memory, which is what a pending
authentication request keeps of it and what may be used again after the operation is freed.
`opHandle` is its nua handle. Both are chosen outside (`Alloc`) when an object is made.

`nua` and `sent` hold what the step in progress has asked of the stack and has written to the
App.
-/

set_option autoImplicit false

namespace RestCommSdk.CliInterface

/-- `sip_method_t`, the methods that operations are created with. -/
inductive SipMethod where
  | invite
  | message
  | info
  | register
  | options
  | refer
  | subscribe
  | publish
  deriving DecidableEq, Repr

/-- The name that the `SIP_METHOD_` macros put beside a method. -/
def SipMethod.name : SipMethod → CString
  | invite => "INVITE".toList
  | message => "MESSAGE".toList
  | info => "INFO".toList
  | register => "REGISTER".toList
  | options => "OPTIONS".toList
  | refer => "REFER".toList
  | subscribe => "SUBSCRIBE".toList
  | publish => "PUBLISH".toList

/-- The bits of `op_callstate`. -/
structure Callstate where
  /-- `opc_sent` -/
  sent : Bool := false
  /-- `opc_recv` -/
  recv : Bool := false
  /-- `opc_active` -/
  active : Bool := false
  /-- `opc_sent_hold` -/
  sentHold : Bool := false
  /-- `opc_pending` -/
  pending : Bool := false
  deriving DecidableEq, Repr

namespace Callstate

/-- `opc_none` -/
def none : Callstate := {}

/-- `opc_recv`, alone. -/
def opcRecv : Callstate := { recv := true }

/-- `opc_active`, alone. -/
def opcActive : Callstate := { active := true }

end Callstate

/-- `enum nua_callstate`. -/
inductive NuaCallstate where
  | init
  | authenticating
  | calling
  | proceeding
  | completing
  | received
  | early
  | completed
  | ready
  | terminating
  | terminated
  deriving DecidableEq, Repr

/-- `ssc_oper_s`. -/
structure SscOper where
  /-- The address of the operation. -/
  addr : Nat
  opHandle : Nat
  isOutgoing : Bool := false
  customHeaders : Option CString := none
  opMethod : SipMethod
  password : Option CString := none
  opCallstate : Callstate := .none
  /-- `none` is the `-1` of a fresh operation. -/
  opPrevState : Option NuaCallstate := none
  opPersistent : Bool := false
  deriving DecidableEq, Repr

/-- `op_method_name`. It is written in `ssc_oper_assign` only, together with `op_method`, and the
two come out of one macro. -/
def SscOper.opMethodName (op : SscOper) : CString := op.opMethod.name

/-- `enum SscMediaState`. -/
inductive SscMediaState where
  | init
  | localReady
  | active
  | error
  | disabled
  deriving DecidableEq, Repr

/-- `SscMediaSimple`. -/
structure SscMediaSimple where
  localSdp : CString := []
  remoteSdp : CString := []
  smState : SscMediaState := .disabled
  deriving DecidableEq, Repr

/-- `ssc_auth_item_s`. -/
structure SscAuthItem where
  scheme : CString
  realm : Option CString
  username : Option CString
  /-- The address of the operation that was challenged. -/
  op : Nat
  deriving DecidableEq, Repr

/-- A call of the stack, with the handle it is made on. -/
inductive NuaCall where
  | handle (nh : Nat) (address : CString)
  | handleBind (nh : Nat)
  | handleDestroy (nh : Nat)
  | handleRef (nh : Nat)
  | handleUnref (nh : Nat)
  | invite (nh : Nat) (headers : Option CString) (sdp : CString)
  | respond (nh : Nat) (status : Nat) (phrase : CString) (sdp : Option CString)
  | bye (nh : Nat)
  | cancel (nh : Nat)
  | message (nh : Nat) (headers msg : Option CString)
  | info (nh : Nat) (msg : Option CString)
  | options (nh : Nat)
  | refer (nh : Nat) (referTo : CString)
  | subscribe (nh : Nat) (event : CString) (eventlist : Bool)
  | unsubscribe (nh : Nat)
  | register (nh : Nat) (registrar : Option CString)
  | unregister (nh : Nat) (registrar : Option CString)
  | publish (nh : Nat)
  | authenticate (nh : Nat) (auth : CString)
  /-- `NUTAG_PROXY` and `NUTAG_REGISTRAR` of the whole stack. -/
  | setRegistrar (registrar : Option CString)
  /-- `SIPTAG_FROM_STR` of the whole stack. -/
  | setFrom (address : CString)
  | shutdown
  deriving DecidableEq, Repr

/-- `ssc_t`, with the global `stackIsShuttingDown`. -/
structure Ssc where
  operations : List SscOper := []
  address : Option CString := none
  autoanswer : Bool := false
  authPend : List SscAuthItem := []
  ansStatus : Nat := 0
  ansPhrase : CString := []
  media : SscMediaSimple := {}
  stackIsShuttingDown : Bool := false
  /-- The loop of the stack has been told to end. -/
  rootBroken : Bool := false
  /-- What this step asked of the stack. -/
  nua : List NuaCall := []
  /-- What this step wrote to the App. -/
  sent : List SofiaReply := []
  deriving DecidableEq, Repr

/-- Where the next object is made: the address of an operation, and a nua handle. -/
structure Alloc where
  addr : Nat
  handle : Nat
  deriving DecidableEq, Repr

/-- What the stack and the allocator decide. -/
structure SscEnv where
  /-- `sip_to_make` and `url_sanitize` make sense out of the address. -/
  validAddress : CString → Bool
  /-- `ssc_oper_check` on the addresses of the list. -/
  operCheck : List Nat → Nat → Bool

namespace Ssc

/-- A call of the stack. -/
def emit (ssc : Ssc) (c : NuaCall) : Ssc := { ssc with nua := ssc.nua ++ [c] }

/-- `SofiaReply::Send`. -/
def send (ssc : Ssc) (r : SofiaReply) : Ssc := { ssc with sent := ssc.sent ++ [r] }

/-- The operation at an address. -/
def oper? (ssc : Ssc) (addr : Nat) : Option SscOper :=
  ssc.operations.find? (·.addr = addr)

/-- A write through a pointer to an operation. -/
def setOper (ssc : Ssc) (addr : Nat) (f : SscOper → SscOper) : Ssc :=
  { ssc with operations := ssc.operations.map fun op => if op.addr = addr then f op else op }

end Ssc

/-! ### Finding operations -/

/-- `ssc_oper_find_call`. -/
def sscOperFindCall (ssc : Ssc) : Option SscOper :=
  ssc.operations.find? (·.opCallstate ≠ .none)

/-- `ssc_oper_find_call_in_progress`. -/
def sscOperFindCallInProgress (ssc : Ssc) : Option SscOper :=
  ssc.operations.find? (·.opCallstate.sent)

/-- `ssc_oper_find_call_embryonic`. -/
def sscOperFindCallEmbryonic (ssc : Ssc) : Option SscOper :=
  ssc.operations.find? fun op => op.opCallstate = .none && op.opMethod = .invite

/-- `ssc_oper_find_unanswered`. -/
def sscOperFindUnanswered (ssc : Ssc) : Option SscOper :=
  ssc.operations.find? (·.opCallstate = .opcRecv)

/-- `ssc_oper_find_by_handle`. -/
def sscOperFindByHandle (ssc : Ssc) (nh : Nat) : Option SscOper :=
  ssc.operations.find? (·.opHandle = nh)

/-- `ssc_oper_find_by_method`. -/
def sscOperFindByMethod (ssc : Ssc) (method : SipMethod) : Option SscOper :=
  ssc.operations.find? fun op => op.opMethod = method && op.opPersistent

/-! ### Making and destroying operations -/

/-- The flag that `ssc_oper_assign` derives from the method. -/
def SipMethod.persistent (method : SipMethod) : Bool :=
  method = .subscribe || method = .register || method = .publish

/-- `ssc_oper_assign`. -/
def sscOperAssign (method : SipMethod) (op : SscOper) : SscOper :=
  { op with opMethod := method, opPersistent := method.persistent }

/-- `ssc_media_deactivate`, when the media subsystem is initialized. -/
def Ssc.deactivateMedia (ssc : Ssc) : Ssc :=
  { ssc with media := { ssc.media with smState := .disabled } }

/-- `ssc_oper_destroy`. -/
def sscOperDestroy (ssc : Ssc) (addr : Nat) : Ssc :=
  match ssc.oper? addr with
  | none => ssc
  | some op =>
    let ssc := { ssc with operations := ssc.operations.filter (·.addr ≠ addr) }
    let ssc := ssc.emit (.handleDestroy op.opHandle)
    -- All calls share the media: it goes with the last INVITE operation.
    if ssc.operations.any (·.opMethod = .invite) then ssc else ssc.deactivateMedia

/-- The operation that `ssc_oper_create` takes when it is given no address. -/
def sscOperOld (ssc : Ssc) : Option SscOper :=
  ssc.operations.find? (!·.opPersistent)

/-- The clean-up loop of `ssc_oper_create`: of the operations from `old` on, those that are
not persistent and have no call state are destroyed. -/
def cleanOldHandles (old : List SscOper) (ssc : Ssc) : Ssc :=
  old.foldl
    (fun ssc op =>
      if !op.opPersistent && op.opCallstate = .none then sscOperDestroy ssc op.addr else ssc)
    ssc

/-- `ssc_oper_create`, and the address of the operation. -/
def sscOperCreate (env : SscEnv) (alloc : Alloc) (method : SipMethod)
    (address : Option CString) (ssc : Ssc) : Ssc × Option Nat :=
  match address with
  | some address =>
    if env.validAddress address then
      let op : SscOper :=
        sscOperAssign method { addr := alloc.addr, opHandle := alloc.handle, opMethod := method }
      -- The clean-up starts at the operation that would have been taken over.
      let old := ssc.operations.dropWhile (·.opPersistent)
      let ssc := { ssc with operations := op :: ssc.operations }
      let ssc := ssc.emit (.handle alloc.handle address)
      (if op.opPersistent then ssc else cleanOldHandles old ssc, some alloc.addr)
    else (ssc, none)
  | none =>
    match sscOperOld ssc with
    | some old => (ssc.setOper old.addr (sscOperAssign method), some old.addr)
    | none => (ssc, none)

/-- `ssc_oper_create_with_password`. -/
def sscOperCreateWithPassword (env : SscEnv) (alloc : Alloc) (method : SipMethod)
    (address password : Option CString) (ssc : Ssc) : Ssc × Option Nat :=
  let created := sscOperCreate env alloc method address ssc
  match created.2 with
  | some addr => (created.1.setOper addr fun op => { op with password := password }, some addr)
  | none => created

/-- `ssc_oper_create_with_handle`. -/
def sscOperCreateWithHandle (alloc : Alloc) (method : SipMethod) (nh : Nat) (ssc : Ssc) : Ssc :=
  let op : SscOper := sscOperAssign method
    { addr := alloc.addr, opHandle := nh, opMethod := method, opPrevState := some .init }
  { ssc with operations := op :: ssc.operations }.emit (.handleBind nh)

end RestCommSdk.CliInterface
