import Mathlib.Data.List.Find
import Mathlib.Data.List.TakeWhile
import RestCommSdk.CliInterface.SscHeap
import RestCommSdk.Proofs.LiveCalls

/-!
# `RestCommSdk.Proofs.OperationList`: the linked list behind the operations

`HoldsList h ssc` says that the pointers of `h` hold the operations of `ssc`. The functions over
pointers and those over lists keep it (`HoldsList.sscOperDestroy`, `HoldsList.sscOperCreate`), so
what is proved of the lists is true of the memory.

Two loops need care. `ssc_oper_destroy` searches the list from its head and writes to the link
in front of the operation (`Links.unlink`). The clean-up of `ssc_oper_create` walks the list
while it is cut under its feet: `HoldsList.cleanOldHandles` carries that what was walked and what
is still to come make up the list, and that the pointer stands where the rest begins.
-/

set_option autoImplicit false

namespace RestCommSdk.Proofs

open RestCommSdk.Lib
open RestCommSdk.CliInterface

/-- From `ssc_operations` on, the links lead through these operations. -/
structure Operations (h : SscHeap) (l : List SscOper) : Prop where
  links : Links h.next h.operations (l.map (·.addr)) none
  cells : ∀ op ∈ l, (h.memory op.addr).map (·.op) = some op

/-- The memory holds the client. -/
structure HoldsList (h : SscHeap) (ssc : Ssc) : Prop where
  operations : Operations h ssc.operations
  media : h.media = ssc.media
  nua : h.nua = ssc.nua

/-! ### Writes to the memory -/

section Writes
variable (h : SscHeap) (a b : Nat)

/-- The link that was written, and every other one. -/
theorem next_store (prev p : Option Nat) :
    (h.store prev p).next b = if prev = some b then (h.next b).map fun _ => p else h.next b := by
  cases prev with
  | none => rfl
  | some a =>
    by_cases hb : b = a
    · subst hb
      simp [SscHeap.store, SscHeap.write, SscHeap.next, Function.comp_def]
    · simp [SscHeap.store, SscHeap.write, SscHeap.next, hb, eq_comm]

/-- Writing a link leaves the operations. -/
theorem op_store (prev p : Option Nat) :
    ((h.store prev p).memory b).map (·.op) = (h.memory b).map (·.op) := by
  cases prev with
  | none => rfl
  | some a =>
    by_cases hb : b = a
    · simp [SscHeap.store, SscHeap.write, hb, Function.comp_def]
    · simp [SscHeap.store, SscHeap.write, hb]

/-- Writing the first link is writing the head. -/
theorem operations_store (prev p : Option Nat) :
    (h.store prev p).operations = if prev = none then p else h.operations := by
  cases prev <;> rfl

/-- Freeing one cell leaves the links of the others. -/
theorem next_suFree (hb : b ≠ a) : (h.suFree a).next b = h.next b := by
  simp [SscHeap.suFree, SscHeap.next, hb]

end Writes

/-- The address of an operation of the list is none of the others. -/
theorem addr_notMem {xs ys : List SscOper} {op : SscOper}
    (hnodup : ((xs ++ op :: ys).map (·.addr)).Nodup) : op.addr ∉ (xs ++ ys).map (·.addr) := by
  rw [List.map_append, List.map_cons] at hnodup
  rw [List.map_append]
  exact (List.nodup_cons.mp (List.perm_middle.nodup_iff.mp hnodup)).1

namespace Operations

variable {h h' : SscHeap} {l : List SscOper} {op : SscOper}

/-- Addresses on a list are distinct. -/
theorem nodup (hl : Operations h l) : (l.map (·.addr)).Nodup := hl.links.nodup

/-- An operation of the list can be read. -/
theorem cell (hl : Operations h l) (hop : op ∈ l) :
    ∃ cell, h.memory op.addr = some cell ∧ cell.op = op :=
  Option.map_eq_some_iff.mp (hl.cells op hop)

/-- What is not allocated is no operation of the list. -/
theorem addr_ne_of_fresh (hl : Operations h l) {a : Nat} (hfresh : h.memory a = none) :
    ∀ op ∈ l, op.addr ≠ a := by
  intro op hop heq
  obtain ⟨cell, hcell, -⟩ := hl.cell hop
  rw [heq, hfresh] at hcell
  cases hcell

/-- Only the memory and the head matter. -/
theorem of_eq (hl : Operations h l) (hmemory : h'.memory = h.memory)
    (hoperations : h'.operations = h.operations) : Operations h' l := by
  have hnext : h'.next = h.next := by
    funext a
    simp [SscHeap.next, hmemory]
  constructor
  · rw [hnext, hoperations]
    exact hl.links
  · intro op hop
    rw [hmemory]
    exact hl.cells op hop

/-- A cell that is not on the list may go. -/
theorem suFree (hl : Operations h l) {a : Nat} (ha : a ∉ l.map (·.addr)) :
    Operations (h.suFree a) l := by
  have hne : ∀ b ∈ l.map (·.addr), b ≠ a := fun b hb heq => ha (heq ▸ hb)
  constructor
  · exact hl.links.congr fun b hb => next_suFree h a b (hne b hb)
  · intro op hop
    have haddr : op.addr ≠ a := hne op.addr (List.mem_map_of_mem hop)
    simp only [SscHeap.suFree, haddr, if_false]
    exact hl.cells op hop

/-- The loop of the finders. -/
theorem findOper (hl : Operations h l) (f : SscOper → Bool) {fuel : Nat}
    (hfuel : l.length < fuel) :
    SscHeap.findOper f fuel h = some ((l.find? f).map (·.addr)) := by
  -- On the addresses of the list, the test in memory is the test on the operations.
  have htest : ∀ op ∈ l, h.test f op.addr = some (f op) := by
    intro op hop
    obtain ⟨cell, hcell, hcellop⟩ := hl.cell hop
    simp [SscHeap.test, hcell, hcellop]
  -- It never reads an address that is not allocated.
  have haddrs : ∀ a ∈ l.map (·.addr), h.test f a = some ((h.test f a).getD false) := by
    intro a ha
    obtain ⟨op, hop, rfl⟩ := List.mem_map.mp ha
    rw [htest op hop]
    rfl
  have hlength : (l.map (·.addr)).length < fuel := by simpa using hfuel
  have hwalk := walk_eq_find? hl.links haddrs hlength
  unfold SscHeap.findOper
  rw [hwalk, List.find?_map]
  congr 2
  refine List.find?_congr fun op hop => ?_
  simp [htest op hop]

/-- The loop that counts. -/
theorem activeInvites {p : Option Nat} (hlinks : Links h.next p (l.map (·.addr)) none)
    (hcells : ∀ op ∈ l, (h.memory op.addr).map (·.op) = some op) {fuel : Nat}
    (hfuel : l.length < fuel) :
    h.activeInvites fuel p = some (l.countP (·.opMethod = .invite)) := by
  induction l generalizing p fuel with
  | nil =>
    obtain ⟨n, rfl⟩ : ∃ n, fuel = n + 1 := Nat.exists_eq_add_one.mpr hfuel
    rw [hlinks.nil_inv]
    rfl
  | cons op l ih =>
    obtain ⟨n, rfl⟩ : ∃ n, fuel = n + 1 := Nat.exists_eq_add_one.mpr (by omega)
    -- The first cell is the first operation, and its link leads to the rest.
    obtain ⟨rfl, p', hnext, hrest⟩ := Links.cons_inv hlinks
    have hlength : l.length < n := by
      simp only [List.length_cons] at hfuel
      omega
    have htail := ih hrest (fun op hop => hcells op (List.mem_cons_of_mem _ hop)) hlength
    obtain ⟨cell, hcell, hcellop⟩ := Option.map_eq_some_iff.mp (hcells op List.mem_cons_self)
    -- The link is read from the cell of this operation.
    have hlink : cell.opNext = p' := by simpa [SscHeap.next, hcell] using hnext
    simp only [SscHeap.activeInvites, hcell, hlink, htail, hcellop, Option.bind_eq_bind,
      Option.bind_some, List.countP_cons]
    congr 1
    simp only [decide_eq_true_eq]
    omega

/-- The writes of `ssc_oper_destroy` that take an operation off the list. -/
theorem unlink {xs ys : List SscOper} (hl : Operations h (xs ++ op :: ys)) {cell : OperCell}
    (hcell : h.memory op.addr = some cell) :
    Operations ((h.store (xs.map (·.addr)).getLast? cell.opNext).store (some op.addr) none)
      (xs ++ ys) := by
  have hfresh : ∀ b ∈ xs.map (·.addr) ++ ys.map (·.addr), b ≠ op.addr := by
    intro b hb heq
    rw [← List.map_append, heq] at hb
    exact addr_notMem hl.nodup hb
  have hlinks := hl.links
  rw [List.map_append, List.map_cons] at hlinks
  have hnext : h.next op.addr = some cell.opNext := by simp [SscHeap.next, hcell]
  constructor
  · rw [List.map_append]
    -- The three writes of `Links.unlink`: the link in front, the head, and the other links.
    refine hlinks.unlink ?_ ?_ ?_
    · cases hlast : (xs.map (·.addr)).getLast? with
      | none => exact hnext.symm
      | some b =>
        have hb : b ∈ xs.map (·.addr) := List.mem_of_getLast? hlast
        obtain ⟨before, hbefore, rfl⟩ := List.mem_map.mp hb
        obtain ⟨cell', hcell', -⟩ := hl.cell (List.mem_append_left _ hbefore)
        have hne : before.addr ≠ op.addr := hfresh _ (List.mem_append_left _ hb)
        show SscHeap.next _ before.addr = _
        rw [next_store, if_neg (by simpa using hne.symm), next_store, if_pos rfl, hnext]
        simp [SscHeap.next, hcell']
    · intro hxs
      rw [operations_store, operations_store, if_neg (by simp), if_neg (by simpa using hxs)]
    · intro b hb hplace
      rw [next_store, if_neg (by simpa using (hfresh b hb).symm), next_store,
        if_neg fun heq => hplace heq.symm]
  · intro op' hop'
    rw [op_store, op_store]
    refine hl.cells op' ?_
    rcases List.mem_append.mp hop' with hxs | hys
    · exact List.mem_append_left _ hxs
    · exact List.mem_append_right _ (List.mem_cons_of_mem _ hys)

end Operations

/-! ### Destroying -/

/-- The list without one of its operations. -/
theorem filter_addr {xs ys : List SscOper} {op : SscOper}
    (hnodup : ((xs ++ op :: ys).map (·.addr)).Nodup) :
    (xs ++ op :: ys).filter (·.addr ≠ op.addr) = xs ++ ys := by
  have hkept : ∀ b ∈ xs ++ ys, b.addr ≠ op.addr := by
    intro b hb heq
    apply addr_notMem hnodup
    rw [← heq]
    exact List.mem_map_of_mem hb
  have hxs : xs.filter (·.addr ≠ op.addr) = xs :=
    List.filter_eq_self.mpr fun b hb => decide_eq_true (hkept b (List.mem_append_left _ hb))
  have hys : ys.filter (·.addr ≠ op.addr) = ys :=
    List.filter_eq_self.mpr fun b hb => decide_eq_true (hkept b (List.mem_append_right _ hb))
  rw [List.filter_append, List.filter_cons_of_neg (by simp), hxs, hys]

/-- The media that is left when these operations are. -/
def mediaLeft (l : List SscOper) (media : SscMediaSimple) : SscMediaSimple :=
  if l.any (·.opMethod = .invite) then media else { media with smState := .disabled }

/-- `ssc_oper_destroy` over the list. -/
theorem sscOperDestroy_of_split {ssc : Ssc} {xs ys : List SscOper} {op : SscOper}
    (hsplit : ssc.operations = xs ++ op :: ys) (hnodup : (ssc.operations.map (·.addr)).Nodup) :
    (sscOperDestroy ssc op.addr).operations = xs ++ ys ∧
      (sscOperDestroy ssc op.addr).nua = ssc.nua ++ [.handleDestroy op.opHandle] ∧
      (sscOperDestroy ssc op.addr).media = mediaLeft (xs ++ ys) ssc.media := by
  have hfind : ssc.oper? op.addr = some op := by
    refine oper?_of_mem hnodup ?_
    rw [hsplit]
    exact List.mem_append_right _ List.mem_cons_self
  -- `ssc_oper_destroy` filters the list by the address, which only this operation has.
  have hlist : ssc.operations.filter (·.addr ≠ op.addr) = xs ++ ys := by
    rw [hsplit] at hnodup ⊢
    exact filter_addr hnodup
  simp only [sscOperDestroy, hfind, hlist, mediaLeft, Ssc.emit]
  split
  · exact ⟨rfl, rfl, rfl⟩
  · exact ⟨rfl, rfl, rfl⟩

/-- `ssc_oper_destroy` over pointers. -/
theorem Operations.sscOperDestroy {h : SscHeap} {xs ys : List SscOper} {op : SscOper}
    (hl : Operations h (xs ++ op :: ys)) {fuel : Nat}
    (hfuel : (xs ++ op :: ys).length < fuel) :
    ∃ h', h.sscOperDestroy fuel op.addr = some h' ∧ Operations h' (xs ++ ys) ∧
      h'.nua = h.nua ++ [.handleDestroy op.opHandle] ∧
      h'.media = mediaLeft (xs ++ ys) h.media := by
  have hlength : xs.length < fuel ∧ (xs ++ ys).length < fuel := by
    simp only [List.length_append, List.length_cons] at hfuel ⊢
    omega
  obtain ⟨cell, hcell, rfl⟩ := hl.cell (List.mem_append_right xs List.mem_cons_self)
  have hlinks := hl.links
  rw [List.map_append, List.map_cons] at hlinks
  -- The search ends at the link that points to the operation.
  have hplace : findPlace h.operations h.next cell.op.addr fuel none
      = some (xs.map (·.addr)).getLast? :=
    findPlace_eq hlinks (by simpa using hlength.1)
  obtain ⟨q, hbefore, hbehind⟩ := hlinks.split
  have hload : load h.operations h.next (xs.map (·.addr)).getLast? = some (some cell.op.addr) := by
    rw [hbefore.load_getLast?, hbehind.cons_inv.1]
  have hcut := hl.unlink hcell
  have hmedia : ((h.store (xs.map (·.addr)).getLast? cell.opNext).store
      (some cell.op.addr) none).media = h.media := by
    cases (xs.map (·.addr)).getLast? <;> rfl
  have hnua : ((h.store (xs.map (·.addr)).getLast? cell.opNext).store
      (some cell.op.addr) none).nua = h.nua := by
    cases (xs.map (·.addr)).getLast? <;> rfl
  -- The operation that is freed is none of those that are left.
  have hfree : cell.op.addr ∉ (xs ++ ys).map (·.addr) := addr_notMem hl.nodup
  generalize hwritten : (h.store (xs.map (·.addr)).getLast? cell.opNext).store
    (some cell.op.addr) none = h₁ at hcut hmedia hnua
  have hemit : Operations (h₁.emit (.handleDestroy cell.op.opHandle)) (xs ++ ys) :=
    hcut.of_eq rfl rfl
  -- Calls are counted over what is left, so that the media stop with the last one.
  have hcount := Operations.activeInvites hemit.links hemit.cells hlength.2
  have hdestroy : h.sscOperDestroy fuel cell.op.addr = some
      ((if (xs ++ ys).countP (·.opMethod = .invite) = 0
        then (h₁.emit (.handleDestroy cell.op.opHandle)).deactivateMedia
        else h₁.emit (.handleDestroy cell.op.opHandle)).suFree cell.op.addr) := by
    simp only [SscHeap.sscOperDestroy, hplace, hcell, hload, hwritten, hcount,
      Option.bind_eq_bind, Option.bind_some, pure]
  have hany : (xs ++ ys).any (·.opMethod = .invite) = true ↔
      (xs ++ ys).countP (·.opMethod = .invite) ≠ 0 := by
    rw [← Nat.pos_iff_ne_zero, List.countP_pos_iff, List.any_eq_true]
  refine ⟨_, hdestroy, ?_⟩
  by_cases hnone : (xs ++ ys).countP (·.opMethod = .invite) = 0
  · rw [if_pos hnone, mediaLeft, if_neg fun hsome => hany.mp hsome hnone]
    have hquiet : Operations (h₁.emit (.handleDestroy cell.op.opHandle)).deactivateMedia
        (xs ++ ys) := hemit.of_eq rfl rfl
    exact ⟨hquiet.suFree hfree, congrArg (· ++ _) hnua,
      congrArg (fun media => { media with smState := .disabled }) hmedia⟩
  · rw [if_neg hnone, mediaLeft, if_pos (hany.mpr hnone)]
    exact ⟨hemit.suFree hfree, congrArg (· ++ _) hnua, hmedia⟩

namespace HoldsList

variable {h : SscHeap} {ssc : Ssc}

/-- Addresses are distinct. -/
theorem nodup (hh : HoldsList h ssc) : (ssc.operations.map (·.addr)).Nodup := hh.operations.nodup

/-- `ssc_oper_destroy` on an operation of the list. -/
theorem sscOperDestroy (hh : HoldsList h ssc) {xs ys : List SscOper} {op : SscOper}
    (hsplit : ssc.operations = xs ++ op :: ys) {fuel : Nat}
    (hfuel : ssc.operations.length < fuel) :
    ∃ h', h.sscOperDestroy fuel op.addr = some h' ∧ HoldsList h' (sscOperDestroy ssc op.addr) := by
  obtain ⟨hops, hnua, hmedia⟩ := sscOperDestroy_of_split hsplit hh.nodup
  have hl := hh.operations
  rw [hsplit] at hl hfuel
  obtain ⟨h', hdestroy, hops', hnua', hmedia'⟩ := hl.sscOperDestroy hfuel
  refine ⟨h', hdestroy, ?_, ?_, ?_⟩
  · rw [hops]
    exact hops'
  · rw [hmedia', hmedia, hh.media]
  · rw [hnua', hnua, hh.nua]

/-- A write to the fields of an operation. -/
theorem write (hh : HoldsList h ssc) (a : Nat) {f : SscOper → SscOper}
    (hf : ∀ op, (f op).addr = op.addr) :
    HoldsList (h.write a fun cell => { cell with op := f cell.op }) (ssc.setOper a f) := by
  -- Only the operation changes, and it keeps its address.
  have haddr : ∀ op : SscOper, (if op.addr = a then f op else op).addr = op.addr := by
    intro op
    split
    · exact hf op
    · rfl
  have haddrs : (ssc.setOper a f).operations.map (·.addr) = ssc.operations.map (·.addr) := by
    rw [Ssc.setOper, List.map_map]
    exact List.map_congr_left fun op _ => haddr op
  refine ⟨⟨?_, ?_⟩, hh.media, hh.nua⟩
  · -- The links are those of before, also at the cell that is written.
    rw [haddrs]
    refine hh.operations.links.congr fun b _ => ?_
    by_cases hb : b = a
    · simp [SscHeap.next, SscHeap.write, hb, Function.comp_def]
    · simp [SscHeap.next, SscHeap.write, hb]
  · intro op' hop'
    obtain ⟨op, hop, rfl⟩ := List.mem_map.mp hop'
    obtain ⟨cell, hcell, rfl⟩ := hh.operations.cell hop
    rw [haddr]
    -- The cell written holds the new operation, and the others what they held.
    by_cases ha : cell.op.addr = a
    · simp only [SscHeap.write, ha, if_true]
      rw [← ha, hcell]
      rfl
    · simp only [SscHeap.write, ha, if_false]
      rw [hcell]
      rfl

/-- A new operation is put in front. -/
theorem cons (hh : HoldsList h ssc) {op : SscOper} (hfresh : h.memory op.addr = none) :
    HoldsList { h.suZalloc op.addr { op := op, opNext := h.operations } with
        operations := some op.addr }
      { ssc with operations := op :: ssc.operations } := by
  have hne := hh.operations.addr_ne_of_fresh hfresh
  -- The links of the old operations are read from memory that was not written.
  refine ⟨⟨.cons (p := h.operations) ?_ ?_, ?_⟩, hh.media, hh.nua⟩
  · simp [SscHeap.next, SscHeap.suZalloc]
  · refine hh.operations.links.congr fun b hb => ?_
    obtain ⟨op', hop', rfl⟩ := List.mem_map.mp hb
    simp [SscHeap.next, SscHeap.suZalloc, hne op' hop']
  · intro op' hop'
    rcases List.mem_cons.mp hop' with rfl | hop'
    · simp [SscHeap.suZalloc]
    · simp only [SscHeap.suZalloc, hne op' hop', if_false]
      exact hh.operations.cells op' hop'

/-- The same call of the stack on both sides. -/
theorem emit (hh : HoldsList h ssc) (c : NuaCall) : HoldsList (h.emit c) (ssc.emit c) :=
  ⟨hh.operations.of_eq rfl rfl, hh.media, congrArg (· ++ [c]) hh.nua⟩

/-- The clean-up loop, where `pre` is what it has come past. -/
theorem cleanOldHandles (hh : HoldsList h ssc) {pre rest : List SscOper}
    (hsplit : ssc.operations = pre ++ rest) {fuel turns : Nat}
    (hfuel : ssc.operations.length < fuel) (hturns : rest.length < turns) :
    ∃ h', h.cleanOldHandles fuel turns (rest.map (·.addr)).head? = some h' ∧
      HoldsList h' (cleanOldHandles rest ssc) := by
  induction rest generalizing pre h ssc turns with
  | nil =>
    obtain ⟨n, rfl⟩ : ∃ n, turns = n + 1 := Nat.exists_eq_add_one.mpr hturns
    exact ⟨h, rfl, hh⟩
  | cons old rest ih =>
    obtain ⟨n, rfl⟩ : ∃ n, turns = n + 1 := Nat.exists_eq_add_one.mpr (by omega)
    have hlength : rest.length < n := by
      simp only [List.length_cons] at hturns
      omega
    have hops := hh.operations
    rw [hsplit] at hops
    obtain ⟨cell, hcell, rfl⟩ := hops.cell (List.mem_append_right pre List.mem_cons_self)
    -- The link is read while the operation is still in the list.
    have hnext : cell.opNext = (rest.map (·.addr)).head? := by
      have hlinks := hops.links
      rw [List.map_append, List.map_cons] at hlinks
      obtain ⟨q, -, hbehind⟩ := hlinks.split
      obtain ⟨-, p, hlink, hrest⟩ := hbehind.cons_inv
      rw [← hrest.head_eq]
      simpa [SscHeap.next, hcell] using hlink
    -- One turn of the loop, over pointers and over the list.
    have hloop : h.cleanOldHandles fuel (n + 1) ((cell.op :: rest).map (·.addr)).head?
        = (if !cell.op.opPersistent && cell.op.opCallstate = .none
            then h.sscOperDestroy fuel cell.op.addr else some h).bind fun h =>
          h.cleanOldHandles fuel n (rest.map (·.addr)).head? := by
      simp only [List.map_cons, List.head?_cons, SscHeap.cleanOldHandles, hcell, hnext,
        Option.bind_eq_bind, Option.bind_some]
      split <;> rfl
    have hlist : CliInterface.cleanOldHandles (cell.op :: rest) ssc
        = CliInterface.cleanOldHandles rest
          (if !cell.op.opPersistent && cell.op.opCallstate = .none
            then CliInterface.sscOperDestroy ssc cell.op.addr else ssc) := rfl
    rw [hloop, hlist]
    by_cases hclean : (!cell.op.opPersistent && cell.op.opCallstate = .none) = true
    · rw [if_pos hclean, if_pos hclean]
      obtain ⟨h₁, hdestroy, hh₁⟩ := hh.sscOperDestroy hsplit hfuel
      rw [hdestroy, Option.bind_some]
      -- What was walked stays in front of what is still to come.
      have hops₁ := (sscOperDestroy_of_split hsplit hh.nodup).1
      refine ih hh₁ hops₁ ?_ hlength
      rw [hops₁]
      rw [hsplit] at hfuel
      simp only [List.length_append, List.length_cons] at hfuel ⊢
      omega
    · rw [if_neg hclean, if_neg hclean, Option.bind_some]
      have hbehind : ssc.operations = (pre ++ [cell.op]) ++ rest := by simpa using hsplit
      exact ih hh hbehind hfuel hlength

/-- A new operation is put in front and gets its method. -/
theorem assigned (hh : HoldsList h ssc) (method : SipMethod) {op : SscOper}
    (hfresh : h.memory op.addr = none) :
    HoldsList (SscHeap.sscOperAssign method op.addr
        { h.suZalloc op.addr { op := op, opNext := h.operations } with
          operations := some op.addr })
      { ssc with operations := sscOperAssign method op :: ssc.operations } := by
  have hwrite := (hh.cons hfresh).write op.addr (f := sscOperAssign method) fun _ => rfl
  have hold : ∀ b ∈ ssc.operations,
      (if b.addr = op.addr then sscOperAssign method b else b) = b := by
    intro b hb
    rw [if_neg (hh.operations.addr_ne_of_fresh hfresh b hb)]
  have hlist : (Ssc.setOper { ssc with operations := op :: ssc.operations } op.addr
      (sscOperAssign method)) = { ssc with
        operations := sscOperAssign method op :: ssc.operations } := by
    simp only [Ssc.setOper, List.map_cons, if_true]
    rw [List.map_congr_left hold, List.map_id']
  rw [hlist] at hwrite
  exact hwrite

/-- What `ssc_oper_create` does once the operation is made: the clean-up, unless the operation
is persistent. -/
theorem cleanUp (hh : HoldsList h ssc) {op : SscOper} {pre rest : List SscOper}
    (hsplit : ssc.operations = op :: (pre ++ rest)) {fuel : Nat}
    (hfuel : ssc.operations.length < fuel) :
    ∃ h', ((h.memory op.addr).bind fun cell =>
        if cell.op.opPersistent then some (h, some op.addr)
        else (h.cleanOldHandles fuel fuel (rest.map (·.addr)).head?).bind fun h =>
          some (h, some op.addr)) = some (h', some op.addr) ∧
      HoldsList h' (if op.opPersistent then ssc else CliInterface.cleanOldHandles rest ssc) := by
  have hmem : op ∈ ssc.operations := by
    rw [hsplit]
    exact List.mem_cons_self
  obtain ⟨cell, hcell, rfl⟩ := hh.operations.cell hmem
  rw [hcell, Option.bind_some]
  split
  · -- A persistent operation in front leaves the list as it is.
    exact ⟨h, rfl, hh⟩
  · -- The walk starts behind the first operation, and the fuel outlasts the list.
    have hturns : rest.length < fuel := by
      rw [hsplit] at hfuel
      simp only [List.length_cons, List.length_append] at hfuel
      omega
    obtain ⟨h', hclean, hh'⟩ :=
      @HoldsList.cleanOldHandles _ _ hh (cell.op :: pre) rest hsplit _ _ hfuel hturns
    rw [hclean]
    exact ⟨h', rfl, hh'⟩

/-- `ssc_oper_create`: over pointers it does what it does over the list. -/
theorem sscOperCreate (hh : HoldsList h ssc) (env : SscEnv) {alloc : Alloc}
    (hfresh : h.memory alloc.addr = none) (method : SipMethod) (address : Option CString)
    {fuel : Nat} (hfuel : ssc.operations.length + 1 < fuel) :
    ∃ h', h.sscOperCreate fuel env alloc method address
        = some (h', (sscOperCreate env alloc method address ssc).2) ∧
      HoldsList h' (CliInterface.sscOperCreate env alloc method address ssc).1 := by
  have hold := hh.operations.findOper (!·.opPersistent)
    (show ssc.operations.length < fuel by omega)
  cases address with
  | none =>
    simp only [SscHeap.sscOperCreate, hold, CliInterface.sscOperCreate, sscOperOld,
      Option.bind_eq_bind, Option.bind_some]
    cases ssc.operations.find? (!·.opPersistent) with
    | none => exact ⟨h, rfl, hh⟩
    | some old => exact ⟨_, rfl, hh.write old.addr fun _ => rfl⟩
  | some address =>
    simp only [SscHeap.sscOperCreate, hold, CliInterface.sscOperCreate, Option.bind_eq_bind,
      Option.bind_some]
    by_cases hvalid : env.validAddress address = true
    · rw [if_pos hvalid, if_pos hvalid]
      let op : SscOper :=
        { addr := alloc.addr, opHandle := alloc.handle, opMethod := method }
      have hmade :=
        (@HoldsList.assigned _ _ hh method op hfresh).emit (.handle alloc.handle address)
      -- The remembered operation is where the ones that are not persistent begin.
      have hstart : (ssc.operations.find? (!·.opPersistent)).map (·.addr)
          = ((ssc.operations.dropWhile (·.opPersistent)).map (·.addr)).head? := by
        rw [List.find?_not_eq_head?_dropWhile, List.head?_map]
      rw [hstart]
      have hsplit : CliInterface.sscOperAssign method op :: ssc.operations
          = CliInterface.sscOperAssign method op ::
            (ssc.operations.takeWhile (·.opPersistent)
              ++ ssc.operations.dropWhile (·.opPersistent)) := by
        rw [List.takeWhile_append_dropWhile]
      exact hmade.cleanUp hsplit (by simpa [Ssc.emit] using hfuel)
    · rw [if_neg hvalid, if_neg hvalid]
      exact ⟨h, rfl, hh⟩

/-- `ssc_oper_create_with_password` -/
theorem sscOperCreateWithPassword (hh : HoldsList h ssc) (env : SscEnv) {alloc : Alloc}
    (hfresh : h.memory alloc.addr = none) (method : SipMethod) (address password : Option CString)
    {fuel : Nat} (hfuel : ssc.operations.length + 1 < fuel) :
    ∃ h', h.sscOperCreateWithPassword fuel env alloc method address password = some (h',
        (CliInterface.sscOperCreateWithPassword env alloc method address password ssc).2) ∧
      HoldsList h'
        (CliInterface.sscOperCreateWithPassword env alloc method address password ssc).1 := by
  obtain ⟨h₁, hcreate, hh₁⟩ := hh.sscOperCreate env hfresh method address hfuel
  unfold SscHeap.sscOperCreateWithPassword CliInterface.sscOperCreateWithPassword
  rw [hcreate]
  generalize CliInterface.sscOperCreate env alloc method address ssc = created at hh₁
  obtain ⟨ssc₁, made⟩ := created
  cases made with
  | none => exact ⟨h₁, rfl, hh₁⟩
  | some a =>
    exact ⟨_, rfl, hh₁.write a (f := fun op => { op with password := password }) fun _ => rfl⟩

/-- `ssc_oper_create_with_handle` -/
theorem sscOperCreateWithHandle (hh : HoldsList h ssc) {alloc : Alloc}
    (hfresh : h.memory alloc.addr = none) (method : SipMethod) (nh : Nat) :
    HoldsList (h.sscOperCreateWithHandle alloc method nh)
      (CliInterface.sscOperCreateWithHandle alloc method nh ssc) := by
  let op : SscOper :=
    { addr := alloc.addr, opHandle := nh, opMethod := method, opPrevState := some .init }
  exact (@HoldsList.assigned _ _ hh method op hfresh).emit (.handleBind nh)

/-- What the loops of the finders find. -/
theorem finders (hh : HoldsList h ssc) {fuel : Nat} (hfuel : ssc.operations.length < fuel) :
    h.sscOperFindCall fuel = some ((sscOperFindCall ssc).map (·.addr)) ∧
      h.sscOperFindCallInProgress fuel = some ((sscOperFindCallInProgress ssc).map (·.addr)) ∧
      h.sscOperFindCallEmbryonic fuel = some ((sscOperFindCallEmbryonic ssc).map (·.addr)) ∧
      h.sscOperFindUnanswered fuel = some ((sscOperFindUnanswered ssc).map (·.addr)) ∧
      (∀ nh, h.sscOperFindByHandle nh fuel = some ((sscOperFindByHandle ssc nh).map (·.addr))) ∧
      ∀ method, h.sscOperFindByMethod method fuel
        = some ((sscOperFindByMethod ssc method).map (·.addr)) := by
  have hfind := fun f => hh.operations.findOper f hfuel
  exact ⟨hfind _, hfind _, hfind _, hfind _, fun _ => hfind _, fun _ => hfind _⟩

end HoldsList

/-! ### The effect of making an operation -/

/-- `ssc_oper_create` with an address. A new operation that is not persistent stands in front of
those of the old ones that are persistent or have a call state, in their order and as they were;
a persistent one in front of all. -/
theorem operations_sscOperCreate (env : SscEnv) (alloc : Alloc) (method : SipMethod)
    (address : CString) (h : SscHeap) (l : List SscOper) (hl : Operations h l)
    (hfresh : h.memory alloc.addr = none) (fuel : Nat) (hfuel : l.length + 1 < fuel) :
    ∃ h' result, h.sscOperCreate fuel env alloc method (some address) = some (h', result) ∧
      if env.validAddress address then
        ∃ n, result = some n.addr ∧ n.addr = alloc.addr ∧ n.addr ∉ l.map (·.addr) ∧
          n.opMethod = method ∧
          n.opPersistent = (method = .subscribe || method = .register || method = .publish) ∧
          Operations h' (n :: if n.opPersistent then l
            else l.filter fun op => op.opPersistent || op.opCallstate ≠ .none) ∧
          ((n :: if n.opPersistent then l
            else l.filter fun op => op.opPersistent || op.opCallstate ≠ .none).map
              (·.addr)).Nodup
      else result = none ∧ h' = h := by
  by_cases hvalid : env.validAddress address = true
  · have hh : HoldsList h { operations := l, media := h.media, nua := h.nua } := ⟨hl, rfl, rfl⟩
    have hne := hl.addr_ne_of_fresh hfresh
    obtain ⟨h', hcreate, hh'⟩ := hh.sscOperCreate env hfresh method (some address) hfuel
    refine ⟨h', _, hcreate, ?_⟩
    rw [if_pos hvalid]
    let n : SscOper := sscOperAssign method
      { addr := alloc.addr, opHandle := alloc.handle, opMethod := method }
    have hresult : (sscOperCreate env alloc method (some address)
        { operations := l, media := h.media, nua := h.nua }).2 = some n.addr := by
      simp only [sscOperCreate, if_pos hvalid]
      rfl
    have hlist : (sscOperCreate env alloc method (some address)
        { operations := l, media := h.media, nua := h.nua }).1.operations
        = n :: if n.opPersistent then l
          else l.filter fun op => op.opPersistent || op.opCallstate ≠ .none := by
      -- Nothing is cleaned up for a persistent operation.
      by_cases hpersistent : n.opPersistent = true
      · rw [if_pos hpersistent]
        simp only [sscOperCreate, if_pos hvalid]
        exact congrArg Ssc.operations (if_pos hpersistent)
      · have hmethod : method.persistent = false := Bool.eq_false_iff.mpr hpersistent
        rw [if_neg hpersistent, operations_of_cleansUp hmethod hvalid hl.nodup hne]
        refine congrArg (List.cons n) (List.filter_congr fun op _ => ?_)
        simp [cleaned]
    have hops := hh'.operations
    rw [hlist] at hops
    refine ⟨n, hresult, rfl, ?_, rfl, rfl, hops, hops.nodup⟩
    -- `su_zalloc` gives memory that no operation of the list is in.
    intro hmem
    obtain ⟨op, hop, haddr⟩ := List.mem_map.mp hmem
    exact hne op hop haddr
  · have hold := hl.findOper (!·.opPersistent) (show l.length < fuel by omega)
    refine ⟨h, none, ?_, ?_⟩
    · simp only [SscHeap.sscOperCreate, hold, Option.bind_eq_bind, Option.bind_some,
        if_neg hvalid]
      rfl
    · rw [if_neg hvalid]
      exact ⟨rfl, rfl⟩

/-- A registration, and behind it a text message that was sent. -/
def registrationAndMessage : SscHeap where
  operations := some 1
  memory
    | 1 => some ⟨⟨1, 1, false, none, .register, none, .none, none, true⟩, some 2⟩
    | 2 => some ⟨⟨2, 2, false, none, .message, none, .none, none, false⟩, none⟩
    | _ => none

/-- A list of two operations. -/
theorem operations_registrationAndMessage : Operations registrationAndMessage
    [⟨1, 1, false, none, .register, none, .none, none, true⟩,
      ⟨2, 2, false, none, .message, none, .none, none, false⟩] where
  links := .cons rfl (.cons rfl (.nil none))
  cells := by
    intro op hop
    simp only [List.mem_cons, List.not_mem_nil, or_false] at hop
    rcases hop with rfl | rfl <;> rfl

/-- A second message is sent: the first one goes. -/
theorem operations_sscOperCreate_message :
    ∃ h' result, registrationAndMessage.sscOperCreate 4 plainEnv ⟨3, 3⟩ .message
        (some "sip:b@h".toList) = some (h', result) ∧
      if plainEnv.validAddress "sip:b@h".toList then
        ∃ n, result = some n.addr ∧ n.addr = 3 ∧ n.addr ∉ [1, 2] ∧ n.opMethod = .message ∧
          n.opPersistent = false ∧
          Operations h' (n :: if n.opPersistent then
              [⟨1, 1, false, none, .register, none, .none, none, true⟩,
                ⟨2, 2, false, none, .message, none, .none, none, false⟩]
            else [⟨1, 1, false, none, .register, none, .none, none, true⟩]) ∧
          ((n :: if n.opPersistent then
              [⟨1, 1, false, none, .register, none, .none, none, true⟩,
                ⟨2, 2, false, none, .message, none, .none, none, false⟩]
            else [⟨1, 1, false, none, .register, none, .none, none, true⟩]).map
              (·.addr)).Nodup
      else result = none ∧ h' = registrationAndMessage :=
  operations_sscOperCreate plainEnv ⟨3, 3⟩ .message "sip:b@h".toList registrationAndMessage _
    operations_registrationAndMessage rfl 4 (by decide)

end RestCommSdk.Proofs
