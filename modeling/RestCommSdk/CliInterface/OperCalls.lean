import RestCommSdk.CliInterface.SscHeap

/-!
# `RestCommSdk.CliInterface.OperCalls`: what the rest of the client does with operations

The handlers of the SIP client look operations up, write to what they found, and make and destroy
operations with the functions of `ssc_oper.mm`. `OperCall` is one such call. `Ssc.operStep`
carries it out over a list, `SscHeap.operStep` over pointers. Two finders have no caller and are
not here, and neither is `ssc_oper_check`, which only `ssc_auth` calls.

The address for a new operation is the allocator's choice. A step is `none` where that address is
taken, and over pointers also where the functions of `RestCommSdk.CliInterface.SscHeap` are.
-/

set_option autoImplicit false

namespace RestCommSdk.CliInterface

/-- How a handler finds the operation it is about. -/
inductive OperFinder where
  | call
  | callInProgress
  | callEmbryonic
  | unanswered
  | byHandle (nh : Nat)
  | byMethod (method : SipMethod)
  deriving DecidableEq, Repr

/-- The finders over a list. -/
def Ssc.find (ssc : Ssc) : OperFinder → Option SscOper
  | .call => sscOperFindCall ssc
  | .callInProgress => sscOperFindCallInProgress ssc
  | .callEmbryonic => sscOperFindCallEmbryonic ssc
  | .unanswered => sscOperFindUnanswered ssc
  | .byHandle nh => sscOperFindByHandle ssc nh
  | .byMethod method => sscOperFindByMethod ssc method

/-- The finders over pointers. -/
def SscHeap.find (fuel : Nat) (h : SscHeap) : OperFinder → Option (Option Nat)
  | .call => h.sscOperFindCall fuel
  | .callInProgress => h.sscOperFindCallInProgress fuel
  | .callEmbryonic => h.sscOperFindCallEmbryonic fuel
  | .unanswered => h.sscOperFindUnanswered fuel
  | .byHandle nh => h.sscOperFindByHandle nh fuel
  | .byMethod method => h.sscOperFindByMethod method fuel

/-- A write to the fields of an operation, which does not move it. -/
structure OperWrite where
  write : SscOper → SscOper
  addr : ∀ op, (write op).addr = op.addr

/-- A call of the functions on operations. -/
inductive OperCall where
  /-- `ssc_oper_create` -/
  | create (alloc : Alloc) (method : SipMethod) (address : Option CString)
  /-- `ssc_oper_create_with_password` -/
  | createWithPassword (alloc : Alloc) (method : SipMethod) (address password : Option CString)
  /-- `ssc_oper_create_with_handle` -/
  | createWithHandle (alloc : Alloc) (method : SipMethod) (nh : Nat)
  /-- `ssc_oper_destroy`, of the operation that was found. -/
  | destroy (finder : OperFinder)
  /-- A write to the operation that was found. -/
  | write (finder : OperFinder) (w : OperWrite)

/-- A call over a list. -/
def Ssc.operStep (env : SscEnv) (ssc : Ssc) : OperCall → Option Ssc
  | .create alloc method address =>
    if alloc.addr ∈ ssc.operations.map (·.addr) then none
    else some (sscOperCreate env alloc method address ssc).1
  | .createWithPassword alloc method address password =>
    if alloc.addr ∈ ssc.operations.map (·.addr) then none
    else some (sscOperCreateWithPassword env alloc method address password ssc).1
  | .createWithHandle alloc method nh =>
    if alloc.addr ∈ ssc.operations.map (·.addr) then none
    else some (sscOperCreateWithHandle alloc method nh ssc)
  | .destroy finder =>
    match ssc.find finder with
    | some op => some (sscOperDestroy ssc op.addr)
    | none => some ssc
  | .write finder w =>
    match ssc.find finder with
    | some op => some (ssc.setOper op.addr w.write)
    | none => some ssc

/-- A call over pointers. -/
def SscHeap.operStep (fuel : Nat) (env : SscEnv) (h : SscHeap) : OperCall → Option SscHeap
  | .create alloc method address =>
    if (h.memory alloc.addr).isSome then none
    else (h.sscOperCreate fuel env alloc method address).map (·.1)
  | .createWithPassword alloc method address password =>
    if (h.memory alloc.addr).isSome then none
    else (h.sscOperCreateWithPassword fuel env alloc method address password).map (·.1)
  | .createWithHandle alloc method nh =>
    if (h.memory alloc.addr).isSome then none
    else some (h.sscOperCreateWithHandle alloc method nh)
  | .destroy finder => do
    match ← h.find fuel finder with
    | some op => h.sscOperDestroy fuel op
    | none => some h
  | .write finder w => do
    match ← h.find fuel finder with
    | some op =>
      let _ ← h.memory op
      some (h.write op fun cell => { cell with op := w.write cell.op })
    | none => some h

end RestCommSdk.CliInterface
