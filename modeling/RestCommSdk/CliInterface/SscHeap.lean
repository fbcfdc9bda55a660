import RestCommSdk.CliInterface.SscOper
import RestCommSdk.Lib.LinkedList

/-!
# `RestCommSdk.CliInterface.SscHeap`: the operations as they are in memory

The functions of `ssc_oper.mm` over pointers. `SscHeap.memory` holds the operations that are
allocated, and the list is what the `op_next` of each leads to, from `ssc_operations` on. In
`RestCommSdk.CliInterface.SscOper` the same functions work on a list.

A result is `none` where the code reads or writes an operation that is not in memory, and where
the fuel of a loop runs out. The allocator finds room: what `alloc` names is what `su_zalloc`
and `nua_handle` give.
-/

set_option autoImplicit false

namespace RestCommSdk.CliInterface

open RestCommSdk.Lib (load walk findPlace)

/-- An allocated `ssc_oper_s`. -/
structure OperCell where
  /-- The fields that are no links. -/
  op : SscOper
  /-- `op_next` -/
  opNext : Option Nat
  deriving DecidableEq, Repr

/-- `ssc_t`, as far as the functions on operations read and write it, and the memory. -/
structure SscHeap where
  /-- `ssc_operations` -/
  operations : Option Nat := none
  /-- The operation that is allocated at an address. -/
  memory : Nat → Option OperCell := fun _ => none
  media : SscMediaSimple := {}
  nua : List NuaCall := []

namespace SscHeap

/-! ### Memory -/

/-- `op->op_next`, read. -/
def next (h : SscHeap) (a : Nat) : Option (Option Nat) := (h.memory a).map (·.opNext)

/-- A test of the fields of an operation. -/
def test (h : SscHeap) (f : SscOper → Bool) (a : Nat) : Option Bool :=
  (h.memory a).map fun cell => f cell.op

/-- A write to an operation. -/
def write (h : SscHeap) (a : Nat) (f : OperCell → OperCell) : SscHeap :=
  { h with memory := fun b => if b = a then (h.memory b).map f else h.memory b }

/-- A write through a pointer to a link: to `ssc_operations` (`none`), or to the `op_next` of an
operation. -/
def store (h : SscHeap) (prev p : Option Nat) : SscHeap :=
  match prev with
  | none => { h with operations := p }
  | some a => h.write a fun cell => { cell with opNext := p }

/-- `su_zalloc`, with the fields that are set at once. -/
def suZalloc (h : SscHeap) (a : Nat) (cell : OperCell) : SscHeap :=
  { h with memory := fun b => if b = a then some cell else h.memory b }

/-- `su_free` -/
def suFree (h : SscHeap) (a : Nat) : SscHeap :=
  { h with memory := fun b => if b = a then none else h.memory b }

/-- A call of the stack. -/
def emit (h : SscHeap) (c : NuaCall) : SscHeap := { h with nua := h.nua ++ [c] }

/-- `ssc_media_deactivate`, when the media subsystem is initialized. -/
def deactivateMedia (h : SscHeap) : SscHeap :=
  { h with media := { h.media with smState := .disabled } }

/-! ### Finding operations -/

/-- The loop of the functions that find an operation. -/
def findOper (f : SscOper → Bool) (fuel : Nat) (h : SscHeap) : Option (Option Nat) :=
  walk h.next (h.test f) fuel h.operations

/-- `ssc_oper_find_call` -/
def sscOperFindCall : Nat → SscHeap → Option (Option Nat) :=
  findOper (·.opCallstate ≠ .none)

/-- `ssc_oper_find_call_in_progress` -/
def sscOperFindCallInProgress : Nat → SscHeap → Option (Option Nat) :=
  findOper (·.opCallstate.sent)

/-- `ssc_oper_find_call_embryonic` -/
def sscOperFindCallEmbryonic : Nat → SscHeap → Option (Option Nat) :=
  findOper fun op => op.opCallstate = .none && op.opMethod = .invite

/-- `ssc_oper_find_unanswered` -/
def sscOperFindUnanswered : Nat → SscHeap → Option (Option Nat) :=
  findOper (·.opCallstate = .opcRecv)

/-- `ssc_oper_find_by_handle` -/
def sscOperFindByHandle (nh : Nat) : Nat → SscHeap → Option (Option Nat) :=
  findOper (·.opHandle = nh)

/-- `ssc_oper_find_by_method` -/
def sscOperFindByMethod (method : SipMethod) : Nat → SscHeap → Option (Option Nat) :=
  findOper fun op => op.opMethod = method && op.opPersistent

/-- The loop of `ssc_oper_check`. Its step reads the link of `op`, not of `tmp`. -/
def checkLoop (h : SscHeap) (op : Nat) : Nat → Option Nat → Option (Option Nat)
  | 0, _ => none
  | _ + 1, none => some none
  | fuel + 1, some tmp => do
    if tmp = op then return some op
    else checkLoop h op fuel (← h.next op)

/-- `ssc_oper_check` -/
def sscOperCheck (op : Nat) (fuel : Nat) (h : SscHeap) : Option (Option Nat) :=
  h.checkLoop op fuel h.operations

/-! ### Making and destroying operations -/

/-- The loop of `ssc_oper_destroy` that counts the INVITE operations. -/
def activeInvites (h : SscHeap) : Nat → Option Nat → Option Nat
  | 0, _ => none
  | _ + 1, none => some 0
  | fuel + 1, some a => do
    let cell ← h.memory a
    let rest ← activeInvites h fuel cell.opNext
    return (if cell.op.opMethod = .invite then 1 else 0) + rest

/-- `ssc_oper_destroy`, for an operation that is not `NULL`. -/
def sscOperDestroy (fuel : Nat) (op : Nat) (h : SscHeap) : Option SscHeap := do
  -- Remove from queue.
  let prev ← findPlace h.operations h.next op fuel none
  let cell ← h.memory op
  let h :=
    match ← load h.operations h.next prev with
    | some _ => (h.store prev cell.opNext).store (some op) none
    | none => h
  let h := h.emit (.handleDestroy cell.op.opHandle)
  let invites ← h.activeInvites fuel h.operations
  let h := if invites = 0 then h.deactivateMedia else h
  return h.suFree op

/-- `ssc_oper_assign` -/
def sscOperAssign (method : SipMethod) (a : Nat) (h : SscHeap) : SscHeap :=
  h.write a fun cell => { cell with op := CliInterface.sscOperAssign method cell.op }

/-- The clean-up loop of `ssc_oper_create`. The link is read before the operation may be
destroyed. -/
def cleanOldHandles (fuel : Nat) : Nat → Option Nat → SscHeap → Option SscHeap
  | 0, _, _ => none
  | _ + 1, none, h => some h
  | turns + 1, some old, h => do
    let cell ← h.memory old
    let h ←
      if !cell.op.opPersistent && cell.op.opCallstate = .none then sscOperDestroy fuel old h
      else some h
    cleanOldHandles fuel turns cell.opNext h

/-- `ssc_oper_create`, and the operation it returns. -/
def sscOperCreate (fuel : Nat) (env : SscEnv) (alloc : Alloc) (method : SipMethod)
    (address : Option CString) (h : SscHeap) : Option (SscHeap × Option Nat) := do
  -- The clean-up starts here, at what is the first such operation before the new one is made.
  let old ← findOper (!·.opPersistent) fuel h
  match address with
  | some address =>
    if env.validAddress address then
      let op : SscOper :=
        { addr := alloc.addr, opHandle := alloc.handle, opMethod := method }
      let h := h.suZalloc alloc.addr { op := op, opNext := h.operations }
      let h := { h with operations := some alloc.addr }
      let h := h.emit (.handle alloc.handle address)
      let h := h.sscOperAssign method alloc.addr
      let cell ← h.memory alloc.addr
      let h ← if cell.op.opPersistent then some h else cleanOldHandles fuel fuel old h
      return (h, some alloc.addr)
    else return (h, none)
  | none =>
    match old with
    | some old => return (h.sscOperAssign method old, some old)
    | none => return (h, none)

/-- `ssc_oper_create_with_password` -/
def sscOperCreateWithPassword (fuel : Nat) (env : SscEnv) (alloc : Alloc) (method : SipMethod)
    (address password : Option CString) (h : SscHeap) : Option (SscHeap × Option Nat) := do
  let created ← sscOperCreate fuel env alloc method address h
  match created.2 with
  | some a =>
    return (created.1.write a fun cell => { cell with op := { cell.op with password := password } },
      some a)
  | none => return created

/-- `ssc_oper_create_with_handle` -/
def sscOperCreateWithHandle (alloc : Alloc) (method : SipMethod) (nh : Nat) (h : SscHeap) :
    SscHeap :=
  let op : SscOper :=
    { addr := alloc.addr, opHandle := nh, opMethod := method, opPrevState := some .init }
  let h := h.suZalloc alloc.addr { op := op, opNext := h.operations }
  let h := { h with operations := some alloc.addr }
  (h.sscOperAssign method alloc.addr).emit (.handleBind nh)

end SscHeap

end RestCommSdk.CliInterface
