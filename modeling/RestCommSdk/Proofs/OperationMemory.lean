import RestCommSdk.CliInterface.OperCalls
import RestCommSdk.Proofs.OperationList

/-!
# `RestCommSdk.Proofs.OperationMemory`: the memory of the operations over whole runs

`memory_of_run`: whatever sequence of calls the handlers make, from no operation on, the functions
of `ssc_oper.mm` that make, find and destroy operations never read or write an operation that is not
in memory, their loops end, and the operations in memory are at each end the ones on the list, so
none is leaked. The allocator may give an address again once it was freed.

The exception is `ssc_oper_check`, whose loop does not end for an operation behind the first one:
`RestCommSdk.Proofs.OperationCheck` is about it.

`HoldsList` is kept call by call. That nothing is leaked needs no list to follow: a loop can only
come upon operations that are in memory, and `AllListed` says that those are on the list.
-/

set_option autoImplicit false

namespace RestCommSdk.Proofs

open RestCommSdk.Lib
open RestCommSdk.CliInterface

/-! ### What is in memory -/

/-- The operations in memory are those of a list of fewer than `bound`. -/
def AllListed (bound : Nat) (h : SscHeap) : Prop :=
  ∃ l, Operations h l ∧ l.length < bound ∧ ∀ a, (h.memory a).isSome → a ∈ l.map (·.addr)

section Allocated
variable (h : SscHeap) (a b : Nat)

/-- A write allocates and frees nothing. -/
theorem isSome_write (f : OperCell → OperCell) :
    ((h.write a f).memory b).isSome = (h.memory b).isSome := by
  by_cases hb : b = a <;> simp [SscHeap.write, hb]

/-- A link that is written allocates and frees nothing. -/
theorem isSome_store (prev p : Option Nat) :
    ((h.store prev p).memory b).isSome = (h.memory b).isSome := by
  cases prev with
  | none => rfl
  | some a => exact isSome_write h a b _

/-- `ssc_oper_destroy` frees what it is given, and nothing else. -/
theorem isSome_sscOperDestroy {h h' : SscHeap} {fuel : Nat}
    (hdestroy : h.sscOperDestroy fuel a = some h') :
    (h.memory a).isSome ∧ ((h'.memory b).isSome ↔ b ≠ a ∧ (h.memory b).isSome) := by
  simp only [SscHeap.sscOperDestroy, Option.bind_eq_bind, Option.bind_eq_some_iff, pure,
    Option.some.injEq] at hdestroy
  obtain ⟨prev, -, cell, hcell, target, -, invites, -, rfl⟩ := hdestroy
  refine ⟨Option.isSome_of_eq_some hcell, ?_⟩
  by_cases hb : b = a
  · simp [SscHeap.suFree, hb]
  · -- The links that are written are those of operations that stay where they are.
    cases target <;> split <;>
      simp [SscHeap.suFree, SscHeap.deactivateMedia, SscHeap.emit, hb, isSome_store]

end Allocated

namespace AllListed

variable {bound : Nat} {h h' : SscHeap}

/-- The list from `ssc_operations` on has them all. -/
theorem mem_of_operations (hall : AllListed bound h) {l : List SscOper} (hl : Operations h l)
    {a : Nat} (ha : (h.memory a).isSome) : a ∈ l.map (·.addr) := by
  obtain ⟨l', hl', -, hmem⟩ := hall
  rw [hl.links.unique hl'.links]
  exact hmem a ha

/-- Fewer operations are at most as many. -/
theorem mono {bound' : Nat} (hall : AllListed bound h) (hle : bound ≤ bound') :
    AllListed bound' h := by
  obtain ⟨l, hl, hlength, hmem⟩ := hall
  exact ⟨l, hl, by omega, hmem⟩

/-- Only the memory and the head of the list matter. -/
theorem of_eq (hall : AllListed bound h) (hmemory : h'.memory = h.memory)
    (hoperations : h'.operations = h.operations) : AllListed bound h' := by
  obtain ⟨l, hl, hlength, hmem⟩ := hall
  exact ⟨l, hl.of_eq hmemory hoperations, hlength, hmemory ▸ hmem⟩

/-- The operations of a list, as those of a client. -/
theorem holds {l : List SscOper} (hl : Operations h l) :
    HoldsList h { operations := l, media := h.media, nua := h.nua } :=
  ⟨hl, rfl, rfl⟩

/-- A write to an operation that leaves its address. -/
theorem write (hall : AllListed bound h) (a : Nat) {f : SscOper → SscOper}
    (hf : ∀ op, (f op).addr = op.addr) :
    AllListed bound (h.write a fun cell => { cell with op := f cell.op }) := by
  obtain ⟨l, hl, hlength, hmem⟩ := hall
  have hwritten := (holds hl).write a hf
  have haddrs : (l.map fun op => if op.addr = a then f op else op).map (·.addr)
      = l.map (·.addr) := by
    rw [List.map_map]
    refine List.map_congr_left fun op _ => ?_
    by_cases ha : op.addr = a <;> simp [ha, hf]
  refine ⟨_, hwritten.operations, by simpa [Ssc.setOper] using hlength, fun b hb => ?_⟩
  rw [isSome_write] at hb
  exact haddrs ▸ hmem b hb

/-- A new operation is put in front and gets its method. -/
theorem assigned (hall : AllListed bound h) (method : SipMethod) {op : SscOper}
    (hfresh : h.memory op.addr = none) :
    AllListed (bound + 1) (SscHeap.sscOperAssign method op.addr
      { h.suZalloc op.addr { op := op, opNext := h.operations } with
        operations := some op.addr }) := by
  obtain ⟨l, hl, hlength, hmem⟩ := hall
  have hmade := (holds hl).assigned method hfresh
  refine ⟨_, hmade.operations, by simpa using hlength, fun b hb => ?_⟩
  rw [SscHeap.sscOperAssign, isSome_write] at hb
  by_cases hb' : b = op.addr
  · exact hb' ▸ List.mem_cons_self
  · simp only [SscHeap.suZalloc, hb', if_false] at hb
    exact List.mem_cons_of_mem _ (hmem b hb)

section Loops
variable {fuel : Nat} (hall : AllListed bound h) (hfuel : bound ≤ fuel)
include hall hfuel

/-- What is destroyed was in memory, and so on the list. -/
theorem sscOperDestroy {a : Nat} (hdestroy : h.sscOperDestroy fuel a = some h') :
    AllListed bound h' := by
  obtain ⟨l, hl, hlength, hmem⟩ := hall
  obtain ⟨op, hop, rfl⟩ :=
    List.mem_map.mp (hmem a (isSome_sscOperDestroy a a hdestroy).1)
  obtain ⟨xs, ys, rfl⟩ := List.append_of_mem hop
  obtain ⟨h₁, hdestroy₁, hl₁, -, -⟩ := hl.sscOperDestroy (Nat.lt_of_lt_of_le hlength hfuel)
  cases hdestroy₁.symm.trans hdestroy
  refine ⟨xs ++ ys, hl₁, ?_, fun b hb => ?_⟩
  · simp only [List.length_append, List.length_cons] at hlength ⊢
    omega
  · obtain ⟨hne, hb⟩ := (isSome_sscOperDestroy op.addr b hdestroy).2.mp hb
    have hb := hmem b hb
    simp only [List.map_append, List.map_cons, List.mem_append, List.mem_cons] at hb ⊢
    tauto

/-- The clean-up loop. Wherever its pointer leads, it destroys what is in memory. -/
theorem cleanOldHandles {turns : Nat} {old : Option Nat}
    (hclean : h.cleanOldHandles fuel turns old = some h') : AllListed bound h' := by
  induction turns generalizing h old with
  | zero => cases hclean
  | succ n ih =>
    cases old with
    | none =>
      cases hclean
      exact hall
    | some a =>
      obtain ⟨cell, -, hturn⟩ := Option.bind_eq_some_iff.mp hclean
      dsimp only at hturn
      split at hturn
      · obtain ⟨h₁, hdestroy, hrest⟩ := Option.bind_eq_some_iff.mp hturn
        exact ih (hall.sscOperDestroy hfuel hdestroy) hrest
      · exact ih hall hturn

end Loops

/-- A new operation is listed, and those that were cleaned up are free. -/
theorem sscOperCreate {fuel : Nat} (hall : AllListed bound h) (hfuel : bound + 1 ≤ fuel)
    {env : SscEnv} {alloc : Alloc} (hfresh : h.memory alloc.addr = none) {method : SipMethod}
    {address : Option CString} {result : Option Nat}
    (hcreate : h.sscOperCreate fuel env alloc method address = some (h', result)) :
    AllListed (bound + 1) h' := by
  have hmore : AllListed (bound + 1) h := hall.mono (Nat.le_succ bound)
  obtain ⟨old, -, hcreate⟩ := Option.bind_eq_some_iff.mp hcreate
  cases address with
  | none =>
    cases old with
    | none =>
      cases hcreate
      exact hmore
    | some old =>
      cases hcreate
      -- The address is written over the operation in front.
      exact hmore.write old (f := CliInterface.sscOperAssign method) fun _ => rfl
  | some address =>
    dsimp only at hcreate
    split at hcreate
    · obtain ⟨cell, -, hcreate⟩ := Option.bind_eq_some_iff.mp hcreate
      let op : SscOper :=
        { addr := alloc.addr, opHandle := alloc.handle, opMethod := method }
      -- The new cell is the one that was not allocated.
      have hmade := @AllListed.assigned _ _ hall method op hfresh
      split at hcreate
      · cases hcreate
        exact hmade.of_eq rfl rfl
      · -- Persistent ones are kept, and the clean-up walks over the rest.
        obtain ⟨h₁, hclean, hresult⟩ := Option.bind_eq_some_iff.mp hcreate
        cases hresult
        refine AllListed.cleanOldHandles ?_ hfuel hclean
        exact hmade.of_eq rfl rfl
    · cases hcreate
      exact hmore

/-- So is one with a password. -/
theorem sscOperCreateWithPassword {fuel : Nat} (hall : AllListed bound h)
    (hfuel : bound + 1 ≤ fuel) {env : SscEnv} {alloc : Alloc}
    (hfresh : h.memory alloc.addr = none) {method : SipMethod} {address password : Option CString}
    {result : Option Nat}
    (hcreate : h.sscOperCreateWithPassword fuel env alloc method address password
      = some (h', result)) : AllListed (bound + 1) h' := by
  obtain ⟨⟨h₁, made⟩, hmade, hcreate⟩ := Option.bind_eq_some_iff.mp hcreate
  have hall₁ := hall.sscOperCreate hfuel hfresh hmade
  cases made with
  | none =>
    cases hcreate
    exact hall₁
  | some a =>
    cases hcreate
    exact hall₁.write a (f := fun op => { op with password := password }) fun _ => rfl

/-- So is one for a handle that is lent. -/
theorem sscOperCreateWithHandle (hall : AllListed bound h) {alloc : Alloc}
    (hfresh : h.memory alloc.addr = none) (method : SipMethod) (nh : Nat) :
    AllListed (bound + 1) (h.sscOperCreateWithHandle alloc method nh) := by
  let op : SscOper :=
    { addr := alloc.addr, opHandle := nh, opMethod := method, opPrevState := some .init }
  have hmade := @AllListed.assigned _ _ hall method op hfresh
  exact hmade.of_eq rfl rfl

end AllListed

/-! ### Runs -/

/-- The memory holds the client, and no other operation. -/
structure HoldsExactly (bound : Nat) (h : SscHeap) (ssc : Ssc) : Prop where
  list : HoldsList h ssc
  all : AllListed bound h

namespace HoldsExactly

variable {bound : Nat} {h : SscHeap} {ssc : Ssc}

/-- At the start there is nothing. -/
theorem start : HoldsExactly 1 {} {} where
  list := ⟨⟨.nil none, fun _ hop => absurd hop List.not_mem_nil⟩, rfl, rfl⟩
  all := ⟨[], ⟨.nil none, fun _ hop => absurd hop List.not_mem_nil⟩, Nat.one_pos,
    fun _ ha => absurd ha Bool.false_ne_true⟩

/-- In memory is what is on the list. -/
theorem isSome_iff (hh : HoldsExactly bound h ssc) (a : Nat) :
    (h.memory a).isSome ↔ a ∈ ssc.operations.map (·.addr) := by
  refine ⟨hh.all.mem_of_operations hh.list.operations, fun ha => ?_⟩
  obtain ⟨op, hop, rfl⟩ := List.mem_map.mp ha
  obtain ⟨cell, hcell, -⟩ := hh.list.operations.cell hop
  exact Option.isSome_of_eq_some hcell

/-- The list is shorter than the bound on the memory. -/
theorem length_lt (hh : HoldsExactly bound h ssc) : ssc.operations.length < bound := by
  obtain ⟨l, hl, hlength, -⟩ := hh.all
  have haddrs := congrArg List.length (hl.links.unique hh.list.operations.links)
  rw [List.length_map, List.length_map] at haddrs
  omega

/-- The finders find over pointers what they find over the list. -/
theorem find (hh : HoldsExactly bound h ssc) {fuel : Nat} (hfuel : bound ≤ fuel)
    (finder : OperFinder) : h.find fuel finder = some ((ssc.find finder).map (·.addr)) := by
  obtain ⟨hcall, hprogress, hembryonic, hunanswered, hhandle, hmethod⟩ :=
    hh.list.finders (Nat.lt_of_lt_of_le hh.length_lt hfuel)
  cases finder with
  | call => exact hcall
  | callInProgress => exact hprogress
  | callEmbryonic => exact hembryonic
  | unanswered => exact hunanswered
  | byHandle nh => exact hhandle nh
  | byMethod method => exact hmethod method

end HoldsExactly

/-- What a finder finds is on the list. -/
theorem mem_of_find {ssc : Ssc} {finder : OperFinder} {op : SscOper}
    (hfind : ssc.find finder = some op) : op ∈ ssc.operations := by
  cases finder <;> exact List.mem_of_find?_eq_some hfind

/-- A call over pointers does what it does over the list. -/
theorem HoldsExactly.step {bound fuel : Nat} {h : SscHeap} {ssc ssc' : Ssc} {env : SscEnv}
    {c : OperCall} (hh : HoldsExactly bound h ssc) (hfuel : bound + 1 ≤ fuel)
    (hstep : ssc.operStep env c = some ssc') :
    ∃ h', h.operStep fuel env c = some h' ∧ HoldsExactly (bound + 1) h' ssc' := by
  have hlength := hh.length_lt
  -- The allocator's address is free in memory, as it is on the list.
  have hfree {alloc : Alloc} (hnot : alloc.addr ∉ ssc.operations.map (·.addr)) :
      h.memory alloc.addr = none := by
    rw [← hh.isSome_iff] at hnot
    exact Option.not_isSome_iff_eq_none.mp hnot
  have hmore := hh.all.mono (Nat.le_succ bound)
  cases c with
  | create alloc method address =>
    simp only [Ssc.operStep] at hstep
    split at hstep <;> cases hstep
    have hfresh := hfree ‹_›
    obtain ⟨h', hcreate, hh'⟩ := hh.list.sscOperCreate env hfresh method address
      (show ssc.operations.length + 1 < fuel by omega)
    exact ⟨h', by simp [SscHeap.operStep, hfresh, hcreate], hh',
      hh.all.sscOperCreate hfuel hfresh hcreate⟩
  | createWithPassword alloc method address password =>
    simp only [Ssc.operStep] at hstep
    split at hstep <;> cases hstep
    have hfresh := hfree ‹_›
    obtain ⟨h', hcreate, hh'⟩ := hh.list.sscOperCreateWithPassword env hfresh method address
      password (show ssc.operations.length + 1 < fuel by omega)
    exact ⟨h', by simp [SscHeap.operStep, hfresh, hcreate], hh',
      hh.all.sscOperCreateWithPassword hfuel hfresh hcreate⟩
  | createWithHandle alloc method nh =>
    simp only [Ssc.operStep] at hstep
    split at hstep <;> cases hstep
    have hfresh := hfree ‹_›
    exact ⟨_, by simp [SscHeap.operStep, hfresh], hh.list.sscOperCreateWithHandle hfresh method nh,
      hh.all.sscOperCreateWithHandle hfresh method nh⟩
  | destroy finder =>
    have hfind := hh.find (show bound ≤ fuel by omega) finder
    simp only [Ssc.operStep] at hstep
    simp only [SscHeap.operStep, hfind, Option.bind_eq_bind, Option.bind_some]
    split at hstep <;> cases hstep
    · rename_i op hop
      obtain ⟨xs, ys, hsplit⟩ := List.append_of_mem (mem_of_find hop)
      obtain ⟨h', hdestroy, hh'⟩ := hh.list.sscOperDestroy hsplit
        (show ssc.operations.length < fuel by omega)
      rw [hop]
      exact ⟨h', hdestroy, hh', hmore.sscOperDestroy hfuel hdestroy⟩
    · rename_i hnone
      rw [hnone]
      exact ⟨h, rfl, hh.list, hmore⟩
  | write finder w =>
    have hfind := hh.find (show bound ≤ fuel by omega) finder
    simp only [Ssc.operStep] at hstep
    simp only [SscHeap.operStep, hfind, Option.bind_eq_bind, Option.bind_some]
    split at hstep <;> cases hstep
    · rename_i op hop
      obtain ⟨cell, hcell, -⟩ := hh.list.operations.cell (mem_of_find hop)
      rw [hop]
      exact ⟨_, by simp [hcell], hh.list.write op.addr w.addr, hmore.write op.addr w.addr⟩
    · rename_i hnone
      rw [hnone]
      exact ⟨h, rfl, hh.list, hmore⟩

/-- Every sequence of calls goes over pointers as it goes over the list. -/
theorem HoldsExactly.run {bound fuel : Nat} {h : SscHeap} {ssc ssc' : Ssc} {env : SscEnv}
    {calls : List OperCall} (hh : HoldsExactly bound h ssc)
    (hfuel : bound + calls.length ≤ fuel)
    (hrun : run (Ssc.operStep env) ssc calls = some ssc') :
    ∃ h', run (SscHeap.operStep fuel env) h calls = some h' ∧
      HoldsExactly (bound + calls.length) h' ssc' := by
  induction calls generalizing bound h ssc with
  | nil =>
    cases hrun
    exact ⟨h, rfl, hh⟩
  | cons c calls ih =>
    rw [List.length_cons] at hfuel ⊢
    obtain ⟨ssc₁, hstep, hrest⟩ := Option.bind_eq_some_iff.mp hrun
    obtain ⟨h₁, hstep₁, hh₁⟩ := hh.step (show bound + 1 ≤ fuel by omega) hstep
    obtain ⟨h', hrun', hh'⟩ := ih hh₁ (by omega) hrest
    refine ⟨h', ?_, ?_⟩
    · rw [Lib.run, hstep₁, Option.bind_some, hrun']
    · rwa [show bound + (calls.length + 1) = bound + 1 + calls.length by omega]

/-- Whatever calls are made, starting with no operation, they go through in memory: no
operation is read or written that is not there, and the loops take fewer turns than `fuel`, of
which more than there are calls is enough. At the end the links lead through the
operations that the calls leave over the list, and these are all that is in memory. -/
theorem memory_of_run (env : SscEnv) (calls : List OperCall) (fuel : Nat)
    (hfuel : calls.length < fuel) (ssc : Ssc)
    (hrun : run (Ssc.operStep env) {} calls = some ssc) :
    ∃ h, run (SscHeap.operStep fuel env) {} calls = some h ∧ Operations h ssc.operations ∧
      h.media = ssc.media ∧ h.nua = ssc.nua ∧
      ∀ a, (h.memory a).isSome ↔ a ∈ ssc.operations.map (·.addr) := by
  obtain ⟨h, hrun', hh⟩ := HoldsExactly.start.run (show 1 + calls.length ≤ fuel by omega) hrun
  exact ⟨h, hrun', hh.list.operations, hh.list.media, hh.list.nua, hh.isSome_iff⟩

/-- A registration, two messages, of which the second one makes the first one go, and an
incoming call in the memory that this leaves free. -/
def reusedAddress : List OperCall :=
  [.createWithPassword ⟨1, 1⟩ .register (some "sip:a@h".toList) none,
    .create ⟨2, 2⟩ .message (some "sip:b@h".toList),
    .create ⟨3, 3⟩ .message (some "sip:b@h".toList),
    .createWithHandle ⟨2, 4⟩ .invite 9,
    .write (.byHandle 9) ⟨fun op => { op with opCallstate := .opcRecv }, fun _ => rfl⟩,
    .destroy .unanswered]

/-- An address is used, freed, and used again. -/
theorem memory_of_run_reusedAddress :
    ∃ h, run (SscHeap.operStep 7 plainEnv) {} reusedAddress = some h ∧
      Operations h ((run (Ssc.operStep plainEnv) {} reusedAddress).getD {}).operations ∧
      h.media = ((run (Ssc.operStep plainEnv) {} reusedAddress).getD {}).media ∧
      h.nua = ((run (Ssc.operStep plainEnv) {} reusedAddress).getD {}).nua ∧
      ∀ a, (h.memory a).isSome ↔
        a ∈ ((run (Ssc.operStep plainEnv) {} reusedAddress).getD {}).operations.map (·.addr) :=
  memory_of_run plainEnv reusedAddress 7 (by decide) _ rfl

end RestCommSdk.Proofs
