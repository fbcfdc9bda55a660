import RestCommSdk.Proofs.OperationRules
import RestCommSdk.Proofs.SscReplies

/-!
# `RestCommSdk.Proofs.HandleDiscipline`: no handle is used that the client does not hold

A handle becomes one of the client with `nua_handle` or `nua_handle_bind`, or with an event that
hands it over, and is given up with `nua_handle_destroy`. `handles_of_run`: in every run each
other call is on a handle that was made, bound or handed over and not destroyed since, a handle
that was destroyed is not destroyed again before it was handed out again, and the handles that
are left are those of the operations on the list, each once. Every call counts, also those on a
handle that is destroyed within the step that it came with. `Owns` is the invariant: it compares
the list with the calls that the step has made so far.

`completes_of_delivers` turns this round. A stack that reports responses only on the handles
which the client holds, as its calls tell, finds the operation that the handler reads. When its
events and the commands also have all the parts that the code reads without a test, no step ends
in a `NULL` pointer.
-/

set_option autoImplicit false

namespace RestCommSdk.Proofs

open RestCommSdk.Lib
open RestCommSdk.CliInterface

/-- The stack's list of handles is that of the operations. -/
structure Tracks (ssc : Ssc) (held : List Nat) : Prop where
  addrs : (ssc.operations.map (·.addr)).Nodup
  handles : ssc.handles.Nodup
  perm : held.Perm ssc.handles

/-- The calls of the step so far lead from `held` to the handles of the operations. -/
def Owns (held : List Nat) (ssc : Ssc) : Prop :=
  ∃ held', holds held (ssc.nua.filterMap NuaCall.access) = some held' ∧ Tracks ssc held'

/-! ### Lists of operations -/

/-- A destroyed operation leaves the others. -/
theorem perm_filter_addr {ops : List SscOper} (h : (ops.map (·.addr)).Nodup) {op : SscOper}
    (hop : op ∈ ops) : ops.Perm (op :: ops.filter (·.addr ≠ op.addr)) := by
  have hfilter : ops.erase op = ops.filter (·.addr ≠ op.addr) := by
    rw [h.of_map.erase_eq_filter]
    refine List.filter_congr fun op' hop' => ?_
    have hiff : op' = op ↔ op'.addr = op.addr :=
      ⟨fun heq => heq ▸ rfl, eq_of_addr h hop' hop⟩
    rw [Bool.eq_iff_iff]
    simp [hiff]
  rw [← hfilter]
  exact List.perm_cons_erase hop

/-! ### The invariant -/

/-- Which handles are held is a matter of the operations alone. -/
theorem Tracks.of_eq {held : List Nat} {ssc ssc' : Ssc} (h : Tracks ssc held)
    (hops : ssc'.operations = ssc.operations) : Tracks ssc' held := by
  have hhandles : ssc'.handles = ssc.handles := congrArg (List.map SscOper.opHandle) hops
  exact ⟨hops ▸ h.addrs, hhandles ▸ h.handles, hhandles ▸ h.perm⟩

namespace Owns

variable {held : List Nat} {ssc ssc' : Ssc}

/-- Neither the operations nor the requests have changed. -/
theorem of_eq (h : Owns held ssc) (hops : ssc'.operations = ssc.operations)
    (hnua : ssc'.nua = ssc.nua) : Owns held ssc' := by
  obtain ⟨held', hholds, htracks⟩ := h
  exact ⟨held', hnua ▸ hholds, htracks.of_eq hops⟩

/-- A call, with the list that goes with it. -/
theorem emit (ssc : Ssc) {held' : List Nat} {c : NuaCall} {access : Access Nat}
    (hholds : holds held (ssc.nua.filterMap NuaCall.access) = some held')
    (hc : c.access = some access) {held'' : List Nat} (hstep : access.step held' = some held'')
    (htracks : Tracks (ssc.emit c) held'') : Owns held (ssc.emit c) := by
  refine ⟨held'', ?_, htracks⟩
  rw [Ssc.emit, List.filterMap_append, List.filterMap_cons_some hc, List.filterMap_nil,
    holds_concat hholds, hstep]

/-- The handle of a listed operation is used. -/
theorem request (h : Owns held ssc) {op : SscOper} {c : NuaCall} (hop : op ∈ ssc.operations)
    (hc : c.access = some (.use op.opHandle)) : Owns held (ssc.emit c) := by
  obtain ⟨held', hholds, htracks⟩ := h
  have hmem : op.opHandle ∈ held' := htracks.perm.mem_iff.mpr (List.mem_map_of_mem hop)
  refine emit ssc hholds hc ?_ ⟨htracks.addrs, htracks.handles, htracks.perm⟩
  simp [Access.step, hmem]

/-- A call that is about no handle. -/
theorem setting (h : Owns held ssc) {c : NuaCall} (hc : c.access = none) :
    Owns held (ssc.emit c) := by
  obtain ⟨held', hholds, htracks⟩ := h
  refine ⟨held', ?_, ⟨htracks.addrs, htracks.handles, htracks.perm⟩⟩
  rw [Ssc.emit, List.filterMap_append, List.filterMap_cons_none hc, List.filterMap_nil,
    List.append_nil, hholds]

/-- A write to an operation that keeps its handle. -/
theorem setOper (h : Owns held ssc) (addr : Nat) (f : SscOper → SscOper)
    (hf : ∀ op, (f op).addr = op.addr ∧ (f op).opHandle = op.opHandle) :
    Owns held (ssc.setOper addr f) := by
  obtain ⟨held', hholds, htracks⟩ := h
  have hhandles : (ssc.setOper addr f).handles = ssc.handles :=
    map_setOper ssc addr (·.opHandle) fun op => (hf op).2
  refine ⟨held', hholds, ⟨?_, hhandles ▸ htracks.handles, hhandles ▸ htracks.perm⟩⟩
  rw [map_setOper ssc addr (·.addr) fun op => (hf op).1]
  exact htracks.addrs

/-- The handle goes with its operation. -/
theorem sscOperDestroy (h : Owns held ssc) (addr : Nat) : Owns held (sscOperDestroy ssc addr) := by
  unfold CliInterface.sscOperDestroy
  split
  · -- No operation has the address, and nothing is destroyed.
    exact h
  · rename_i op hfind
    obtain ⟨hop, rfl⟩ := mem_of_oper? hfind
    obtain ⟨held', hholds, htracks⟩ := h
    have hperm := perm_filter_addr htracks.addrs hop
    have hmem : op.opHandle ∈ held' := htracks.perm.mem_iff.mpr (List.mem_map_of_mem hop)
    -- Its handle goes, and the others are held by the operations that stay.
    have hrest : (held'.erase op.opHandle).Perm
        ((ssc.operations.filter (·.addr ≠ op.addr)).map (·.opHandle)) := by
      have hhandles : ssc.handles.Perm
          (op.opHandle :: (ssc.operations.filter (·.addr ≠ op.addr)).map (·.opHandle)) :=
        hperm.map SscOper.opHandle
      have herase := (htracks.perm.trans hhandles).erase op.opHandle
      rwa [List.erase_cons_head] at herase
    have hdestroyed : Owns held
        ({ ssc with operations := ssc.operations.filter (·.addr ≠ op.addr) }.emit
          (.handleDestroy op.opHandle)) := by
      refine emit { ssc with operations := _ } hholds rfl ?_ ⟨?_, ?_, hrest⟩
      · simp [Access.step, hmem]
      · exact htracks.addrs.sublist (List.filter_sublist.map _)
      · exact htracks.handles.sublist (List.filter_sublist.map _)
    -- The media may be deactivated, which touches no handle.
    dsimp only
    split
    · exact hdestroyed
    · exact hdestroyed.of_eq rfl rfl

/-- A new operation comes with a new handle. -/
theorem cons (h : Owns held ssc) {op : SscOper} {c : NuaCall}
    (haddr : ∀ op' ∈ ssc.operations, op'.addr ≠ op.addr)
    (hhandle : ∀ op' ∈ ssc.operations, op'.opHandle ≠ op.opHandle)
    (hc : c.access = some (.acquire op.opHandle)) :
    Owns held ({ ssc with operations := op :: ssc.operations }.emit c) := by
  obtain ⟨held', hholds, htracks⟩ := h
  have hnot : op.opHandle ∉ ssc.handles := fun hmem => by
    obtain ⟨op', hop', heq⟩ := List.mem_map.mp hmem
    exact hhandle op' hop' heq
  have hnotHeld : op.opHandle ∉ held' := fun hmem => hnot (htracks.perm.mem_iff.mp hmem)
  have hstep : (Access.acquire op.opHandle).step held' = some (op.opHandle :: held') := by
    simp [Access.step, hnotHeld]
  refine emit { ssc with operations := _ } hholds hc hstep
    ⟨?_, ?_, htracks.perm.cons op.opHandle⟩
  · refine List.nodup_cons.mpr ⟨fun hmem => ?_, htracks.addrs⟩
    obtain ⟨op', hop', heq⟩ := List.mem_map.mp hmem
    exact haddr op' hop' heq
  · exact List.nodup_cons.mpr ⟨hnot, htracks.handles⟩

/-- The rules of the functions that are not about an INVITE. -/
theorem operationInvariant (held : List Nat) :
    OperationInvariant (Owns held) True fun _ => True where
  of_eq h hops hnua _ := h.of_eq hops hnua
  auth _ := trivial
  request h hop _ hc := h.request hop hc
  setting h hc := h.setting hc
  setOper addr _ h hf := h.setOper addr _ fun op => ⟨hf.addr op, hf.opHandle op⟩
  destroy addr h := h.sscOperDestroy addr
  make _ _ h hfresh := h.cons hfresh.1 hfresh.2 rfl
  bind _ _ h haddr hhandle := h.cons haddr hhandle rfl
  takeOver _ _ h _ := h.setOper _ _ fun _ => ⟨rfl, rfl⟩

/-! ### INVITEs -/

section Calls
variable {env : SscEnv} {alloc : Alloc}

/-- The handle that is asked for media is that of the operation. -/
theorem privMediaStateCb (h : Owns held ssc) (addr : Nat) :
    Owns held (privMediaStateCb addr ssc) := by
  -- The INVITE or the answer goes to the operation that was written to.
  have hsend {op : SscOper} (hop : ssc.oper? addr = some op) (f : SscOper → Callstate)
      {c : NuaCall} (hc : c.access = some (.use op.opHandle)) :
      Owns held ((ssc.setOper addr fun op => { op with opCallstate := f op }).emit c) := by
    have hmem : ({ op with opCallstate := f op } : SscOper) ∈
        (ssc.setOper addr fun op => { op with opCallstate := f op }).operations := by
      obtain ⟨hop, haddr⟩ := mem_of_oper? hop
      exact List.mem_map.mpr ⟨op, hop, by simp [haddr]⟩
    have hwrite : Owns held (ssc.setOper addr fun op => { op with opCallstate := f op }) :=
      h.setOper addr _ fun _ => ⟨rfl, rfl⟩
    exact hwrite.request hmem hc
  rcases privMediaStateCb_cases addr ssc with heq | ⟨media, heq⟩ |
    ⟨op, hop, ⟨-, -, heq⟩ | ⟨-, -, f, status, phrase, payload, -, -, heq⟩⟩ <;> rw [heq]
  · exact h
  · have hmedia : Owns held { ssc with media := media } := h.of_eq rfl rfl
    exact hmedia.sscOperDestroy addr
  · exact hsend hop (fun _ => { sent := true }) rfl
  · exact hsend hop f rfl

/-- The call that is made uses the handle of its operation. -/
theorem sscInvite (h : Owns held ssc) (hfresh : alloc.Fresh ssc)
    {destination password sdp headers : Option CString}
    (hcall : sscInvite env alloc destination password sdp headers ssc = some ssc') :
    Owns held ssc' := by
  have hcreate : Owns held
      (sscOperCreateWithPassword env alloc .invite destination password ssc).1 :=
    (operationInvariant held).sscOperCreateWithPassword h hfresh .invite destination password
      (.inl trivial)
  rcases sscInvite_cases hcall with ⟨addr, payload, -, rfl⟩ | rfl
  · have hwrite := hcreate.setOper addr (awaitingMedia headers) fun _ => ⟨rfl, rfl⟩
    have hactive : Owns held (((sscOperCreateWithPassword env alloc .invite destination password
        ssc).1.setOper addr (awaitingMedia headers)).activateMedia payload) := hwrite.of_eq rfl rfl
    exact hactive.privMediaStateCb addr
  · exact hcreate.of_eq rfl rfl

/-- The call that is answered is listed. -/
theorem sscAnswer (h : Owns held ssc) (sdp : Option CString) (status : Nat) (phrase : CString) :
    Owns held (sscAnswer sdp status phrase ssc) := by
  unfold CliInterface.sscAnswer
  split
  · exact h
  · rename_i op hfind
    have hstatus : Owns held { ssc with ansStatus := status, ansPhrase := phrase } :=
      h.of_eq rfl rfl
    dsimp only
    split
    · have hactive : Owns held
          (Ssc.activateMedia { ssc with ansStatus := status, ansPhrase := phrase }
            (sdp.getD ssc.media.localSdp)) := hstatus.of_eq rfl rfl
      exact hactive.privMediaStateCb op.addr
    · have hmem : op ∈ ssc.operations := List.mem_of_find?_eq_some hfind
      exact (hstatus.request (c := .respond op.opHandle status phrase none) hmem rfl).sscOperDestroy
        op.addr

/-- The call that is hung up is listed. -/
theorem sscBye (h : Owns held ssc) : Owns held (sscBye ssc) := by
  unfold CliInterface.sscBye
  split
  · exact h
  · rename_i op hfind
    have hmem : op ∈ ssc.operations := List.mem_of_find?_eq_some hfind
    exact (h.request (c := .bye op.opHandle) hmem rfl).setOper op.addr _ fun _ => ⟨rfl, rfl⟩

/-- Every command keeps it. -/
theorem sscCall (h : Owns held ssc) (hfresh : alloc.Fresh ssc) {prompt : CString} {c : SscCall}
    (hcall : sscCall env alloc prompt ssc c = some ssc') : Owns held ssc' := by
  cases hc : isCallCommand c with
  | false =>
    exact (operationInvariant held).sscCall h hfresh hc (.inl trivial) (fun _ _ => trivial) hcall
  | true =>
    cases c with
    | invite destination password sdp headers => exact h.sscInvite hfresh hcall
    | answer sdp status phrase => cases hcall; exact h.sscAnswer sdp status phrase
    | bye => cases hcall; exact h.sscBye
    | _ => cases hc

/-- The answer to a call acknowledges it, or stores a challenge. -/
theorem sscRInvite (h : Owns held ssc) {status nh : Nat} {sip : Option Sip}
    (hevent : sscRInvite env status (sscOperFindByHandle ssc nh) sip ssc = some ssc') :
    Owns held ssc' := by
  rcases sscRInvite_cases hevent with ⟨-, o, ho, hfinal⟩ | ⟨-, ⟨-, rfl⟩ | ⟨-, _, _, -, -, rfl⟩ |
    ⟨-, -, rfl⟩⟩
  · have hwrite : Owns held (ssc.setOper o.addr fun op =>
        { op with opCallstate := { op.opCallstate with sent := false } }) :=
      h.setOper o.addr _ fun _ => ⟨rfl, rfl⟩
    rcases hfinal with ⟨-, hstore⟩ | ⟨-, rfl⟩
    · refine (operationInvariant held).sscStorePendingAuth hwrite (fun o' ho' => ?_) hstore
      exact exists_setOper (mem_of_findByHandle ho').1 (fun _ => rfl) rfl
    · exact hwrite.of_eq rfl rfl
  · exact h.of_eq rfl rfl
  · exact h.of_eq rfl rfl
  · exact h

/-- What the App is told uses no handle. -/
theorem announceInvite (h : Owns held ssc) {message : Sip} {sipFrom : SipFrom} {o : SscOper}
    (hevent : announceInvite message sipFrom o ssc = some ssc') : Owns held ssc' := by
  rcases announceInvite_cases hevent with rfl | ⟨-, rfl⟩ | ⟨-, reply, rfl⟩
  · exact h
  · exact h.sscAnswer none 200 _
  · exact h.of_eq rfl rfl

/-- A call that comes in has a handle that is lent, and becomes that of its operation. -/
theorem sscIInvite (h : Owns held ssc) (hfresh : alloc.Fresh ssc) {nh : Nat} {sip : Option Sip}
    (hevent : sscIInvite alloc nh (sscOperFindByHandle ssc nh) sip ssc = some ssc') :
    Owns held ssc' := by
  rcases sscIInvite_cases hevent with rfl | ⟨_, _, o, ssc₁, hannounce, ⟨o₀, -, -, rfl⟩ |
    ⟨hnone, -, rfl⟩⟩
  · exact h
  · exact (h.setOper o₀.addr answering fun _ => ⟨rfl, rfl⟩).announceInvite hannounce
  · have hbind := (operationInvariant held).bindNew h hfresh .invite hnone
    exact (hbind.setOper alloc.addr answering fun _ => ⟨rfl, rfl⟩).announceInvite hannounce

/-- A call that has ended is destroyed with its handle. -/
theorem sscIState (h : Owns held ssc) (tags : StateTags) (op : Option SscOper) :
    Owns held (sscIState tags op ssc) := by
  obtain ⟨media, heq | ⟨o, -, ⟨-, replies, heq⟩ | ⟨-, heq⟩⟩⟩ := sscIState_cases tags op ssc <;>
    rw [heq]
  · exact h.of_eq rfl rfl
  · have hready := h.setOper o.addr
      (fun op => { op with opCallstate := .opcActive, opPrevState := some .ready })
      fun _ => ⟨rfl, rfl⟩
    exact hready.of_eq rfl rfl
  · have hmedia : Owns held { ssc with media := media } := h.of_eq rfl rfl
    exact (hmedia.sscOperDestroy o.addr).of_eq rfl rfl

/-- Every event keeps it that lends no handle. -/
theorem privCallback (h : Owns held ssc) (hfresh : alloc.Fresh ssc) {nh : Nat} {e : NuaEvent}
    (hlent : (SscInput.event nh e).lent = none)
    (hevent : privCallback env alloc nh ssc e = some ssc') : Owns held ssc' := by
  cases he : isCallEvent e with
  | false => exact (operationInvariant held).privCallback h hfresh he hlent hevent
  | true =>
    cases e with
    | rInvite status sip => exact h.sscRInvite hevent
    | iInvite sip => exact h.sscIInvite hfresh hevent
    | iState tags =>
      cases hevent
      exact h.sscIState tags _
    | _ => cases he

end Calls

end Owns

/-! ### Steps -/

section Steps
variable {env : SscEnv} {alloc : Alloc} {ssc ssc' : Ssc} {held : List Nat}

/-- The held handles are those under which an operation is found. -/
theorem Tracks.mem_iff (h : Tracks ssc held) (nh : Nat) :
    nh ∈ held ↔ (sscOperFindByHandle ssc nh).isSome := by
  rw [h.perm.mem_iff, Ssc.handles, List.mem_map, sscOperFindByHandle, List.find?_isSome]
  simp only [decide_eq_true_eq]

/-- Only what is held matters, not its order. -/
theorem handleAccesses_congr {held' : List Nat} (h : ∀ nh, nh ∈ held ↔ nh ∈ held')
    (input : SscInput) (nua : List NuaCall) :
    handleAccesses held input nua = handleAccesses held' input nua := by
  unfold handleAccesses
  dsimp only
  split
  · simp only [h]
  · rfl

/-- Whether a fork is new depends on the handles that are held. -/
theorem forksNew_congr {held' : List Nat} (h : ∀ nh, nh ∈ held ↔ nh ∈ held')
    (input : SscInput) : forksNew held input = forksNew held' input := by
  unfold forksNew
  split
  · simp [h]
  · rfl

/-- Without a handle that is lent, every access is a call of the client. -/
theorem handleAccesses_of_lent_none {input : SscInput} (hlent : input.lent = none)
    (nua : List NuaCall) : handleAccesses held input nua = nua.filterMap NuaCall.access := by
  simp only [handleAccesses, hlent]

/-- A handle that the event hands over is acquired before the calls on it. -/
theorem handleAccesses_of_lent {input : SscInput} {nh : Nat} (hlent : input.lent = some nh)
    (hnot : nh ∉ held) {nua : List NuaCall}
    (hnua : nh ∈ (nua.filterMap NuaCall.access).map Access.resource) :
    handleAccesses held input nua = .acquire nh :: nua.filterMap NuaCall.access := by
  simp only [handleAccesses, hlent]
  exact if_pos ⟨hnot, hnua⟩

/-- A handle that is handed over and given back in one step. -/
theorem holds_lent {nh : Nat} (hnot : nh ∉ held) :
    holds held [.acquire nh, .release nh] = some held := by
  simp [holds_cons, Access.step, hnot]

/-- The events that hand a handle over leave the operations as they are, and the handle is given
back before the step ends. -/
theorem Tracks.lent (h : Tracks ssc held) {nh nh' : Nat} {e : NuaEvent}
    (hlent : (SscInput.event nh e).lent = some nh') (hforks : forksNew held (.event nh e))
    (hevent : privCallback env alloc nh { ssc with nua := [], sent := [] } e = some ssc') :
    holds held (handleAccesses held (.event nh e) ssc'.nua) = some held ∧ Tracks ssc' held := by
  have hquiet : holds held (handleAccesses held (.event nh e) []) = some held := by
    simp [handleAccesses, hlent]
  -- A handle without an operation is none of the client.
  have hback (hlent : (SscInput.event nh e).lent = some nh)
      (hnone : sscOperFindByHandle ssc nh = none) :
      holds held (handleAccesses held (.event nh e) [.handleDestroy nh]) = some held := by
    have hnot : nh ∉ held := fun hmem => by simpa [hnone] using (h.mem_iff nh).mp hmem
    rw [handleAccesses_of_lent hlent hnot (by simp [NuaCall.access, Access.resource])]
    exact holds_lent hnot
  cases e with
  | iFork nh2 =>
    cases hlent
    cases hevent
    have hnot : nh' ∉ held := by simpa [forksNew] using hforks
    refine ⟨?_, h.of_eq rfl⟩
    rw [handleAccesses_of_lent rfl hnot (by
      simp [sscIFork, Ssc.emit, NuaCall.access, Access.resource])]
    -- The BYE in between is a use of it.
    show holds held [.acquire nh', .use nh', .release nh'] = some held
    simp [holds_cons, Access.step, hnot]
  | iPrack sip =>
    simp only [privCallback, Option.some.injEq] at hevent
    subst hevent
    split
    · rename_i hcond
      simp only [Bool.and_eq_true, Option.isNone_iff_eq_none] at hcond
      exact ⟨hback rfl hcond.2, h.of_eq rfl⟩
    · exact ⟨hquiet, h.of_eq rfl⟩
  | unhandled =>
    simp only [privCallback, Option.some.injEq] at hevent
    subst hevent
    split
    · rename_i hcond
      exact ⟨hback rfl (Option.isNone_iff_eq_none.mp hcond), h.of_eq rfl⟩
    · exact ⟨hquiet, h.of_eq rfl⟩
  | _ => cases hlent

/-- Every step uses and releases handles that are held, and acquires new ones. -/
theorem Tracks.step (h : Tracks ssc held) {input : Alloc × SscInput}
    (hforks : forksNew held input.2) (hstep : sscMachine env ssc input = some ssc') :
    ∃ held', holds held (handleAccesses held input.2 ssc'.nua) = some held' ∧
      Tracks ssc' held' := by
  obtain ⟨alloc, input⟩ := input
  -- The turn starts with no call made.
  have howns : Owns held { ssc with nua := [], sent := [] } :=
    ⟨held, rfl, h.of_eq rfl⟩
  simp only [sscMachine, sscStep] at hstep
  split at hstep
  · rename_i hfresh
    cases hlent : input.lent with
    | none =>
      rw [handleAccesses_of_lent_none hlent]
      -- No handle is handed over, so every call is on the handle of an operation.
      cases input with
      | call c prompt => exact howns.sscCall hfresh hstep
      | event nh e => exact howns.privCallback hfresh hlent hstep
    | some nh' =>
      cases input with
      | call c prompt => cases hlent
      -- The handle that is handed over is the client's for this step alone.
      | event nh e =>
        obtain ⟨hholds, htracks⟩ := h.lent hlent hforks hstep
        exact ⟨held, hholds, htracks⟩
  · cases hstep

/-- Without operations nothing is held. -/
theorem tracks_start {start : Ssc} (hstart : start.operations = []) : Tracks start [] := by
  refine ⟨?_, ?_, ?_⟩ <;> simp [Ssc.handles, hstart]

end Steps

/-- In every run of the SIP client each call of the stack is on a handle that was made, bound or
handed over and not destroyed since, no handle is destroyed again before it was handed out again,
none is handed out while it is there, and those that are left are the handles of the operations
on the list, each once. -/
theorem handles_of_run (env : SscEnv) (start : Ssc) (hstart : start.operations = [])
    (is : List (Alloc × SscInput)) (ssc' : Ssc)
    (hforks : AllSteps (sscMachine env) (fun ssc input _ => forksNew ssc.handles input.2) start is)
    (hrun : run (sscMachine env) start is = some ssc') :
    Disciplined (traces (sscMachine env) stepAccesses start is) ∧ ssc'.handles.Nodup ∧
      ∀ nh, Open nh (traces (sscMachine env) stepAccesses start is) ↔ nh ∈ ssc'.handles := by
  obtain ⟨held, hholds, htracks⟩ := holds_traces stepAccesses Tracks
    (fun ssc held input ssc' htracks hstep hforks => by
      have hsame : ∀ nh, nh ∈ ssc.handles ↔ nh ∈ held := fun nh => htracks.perm.mem_iff.symm
      rw [stepAccesses, handleAccesses_congr hsame]
      exact htracks.step ((forksNew_congr hsame input.2).symm.trans hforks) hstep)
    (tracks_start hstart) hforks hrun
  refine ⟨disciplined_of_holds hholds, htracks.handles, fun nh => ?_⟩
  rw [open_iff_mem hholds]
  exact htracks.perm.mem_iff

/-- A call with a fork, and the responses and the state that end it. -/
def forkedCall : List (Alloc × SscInput) :=
  [(⟨1, 11⟩, .call (.invite (some "sip:b@h".toList) none (some "v=0".toList) none)),
   (⟨2, 12⟩, .event 11 (.iFork (some 21))),
   (⟨2, 12⟩, .event 11 (.rInvite 200 (some { payload := some "v=0".toList }))),
   (⟨2, 12⟩, .call .bye),
   (⟨2, 12⟩, .event 11 (.rBye 200 none)),
   (⟨2, 12⟩, .event 11 (.iState { state := .terminated }))]

/-- The call: its handle is used twice and destroyed at the end, and the dialog of the fork is ended
and destroyed at once. -/
theorem handles_of_run_fork :
    traces (sscMachine plainEnv) stepAccesses {} forkedCall
        = [.acquire 11, .use 11, .acquire 21, .use 21, .release 21, .use 11, .release 11] ∧
      ∃ ssc', run (sscMachine plainEnv) {} forkedCall = some ssc' ∧
        Disciplined (traces (sscMachine plainEnv) stepAccesses {} forkedCall) ∧
        ssc'.handles.Nodup ∧
        ∀ nh, Open nh (traces (sscMachine plainEnv) stepAccesses {} forkedCall) ↔
          nh ∈ ssc'.handles :=
  ⟨by decide, _, rfl, handles_of_run plainEnv {} rfl forkedCall _ (by decide) rfl⟩

/-! ### Progress -/

section Progress
variable {env : SscEnv} {alloc : Alloc} {ssc : Ssc}

/-- A challenge is stored that comes with its message. -/
theorem sscStorePendingAuth_isSome {status : Nat} {op : Option SscOper} {sip : Option Sip}
    (hop : op.isSome) (hsip : !isChallenge status || sip.isSome) (hchallenge : isChallenge status) :
    (sscStorePendingAuth env ssc op sip).isSome := by
  obtain ⟨op, rfl⟩ := Option.isSome_iff_exists.mp hop
  have hpresent : sip.isSome := by simpa [hchallenge] using hsip
  obtain ⟨sip, rfl⟩ := Option.isSome_iff_exists.mp hpresent
  simp only [sscStorePendingAuth, Option.bind_eq_bind, Option.bind_some]
  split <;> rfl

/-- The commands read their arguments only. -/
theorem sscCall_isSome {c : SscCall} (hcomplete : c.complete) (prompt : CString) :
    (sscCall env alloc prompt ssc c).isSome := by
  cases c with
  | invite destination password sdp headers =>
    obtain ⟨sdp, rfl⟩ := Option.isSome_iff_exists.mp hcomplete
    simp only [sscCall, sscInvite]
    split <;> rfl
  | auth data => exact Option.isSome_map.trans hcomplete
  | subscribe destination =>
    obtain ⟨destination, rfl⟩ := Option.isSome_iff_exists.mp hcomplete
    simp only [sscCall, sscSubscribe, Option.bind_eq_bind, Option.bind_some]
    split <;> rfl
  | watch event =>
    obtain ⟨event, rfl⟩ := Option.isSome_iff_exists.mp hcomplete
    rfl
  | _ => rfl

/-- The answer to a call reads what a complete response has. -/
theorem sscRInvite_isSome {status : Nat} {op : Option SscOper} {sip : Option Sip} (hop : op.isSome)
    (hcomplete : (NuaEvent.rInvite status sip).complete) :
    (sscRInvite env status op sip ssc).isSome := by
  simp only [NuaEvent.complete, Bool.and_eq_true] at hcomplete
  obtain ⟨hsip, hpayload⟩ := hcomplete
  obtain ⟨o, rfl⟩ := Option.isSome_iff_exists.mp hop
  simp only [sscRInvite, Option.bind_eq_bind, Option.bind_some]
  split_ifs with hfinal hchallenge hringing hok
  · exact sscStorePendingAuth_isSome rfl hsip hchallenge
  · rfl
  · rfl
  · obtain ⟨message, rfl, hbody⟩ : ∃ message, sip = some message ∧ message.payload.isSome := by
      simpa [hok, Option.any_eq_true] using hpayload
    obtain ⟨payload, hbody⟩ := Option.isSome_iff_exists.mp hbody
    simp [hbody]
  · rfl

/-- What the App is told is made of the body. -/
theorem announceInvite_isSome {message : Sip} {sipFrom : SipFrom} {op : SscOper}
    (hpayload : message.payload.isSome) : (announceInvite message sipFrom op ssc).isSome := by
  obtain ⟨payload, hpayload⟩ := Option.isSome_iff_exists.mp hpayload
  unfold announceInvite
  split_ifs <;> simp [hpayload]

/-- A complete call has a sender and a body. -/
theorem sscIInvite_isSome {nh : Nat} {op : Option SscOper} {sip : Option Sip}
    (hcomplete : (NuaEvent.iInvite sip).complete) :
    (sscIInvite alloc nh op sip ssc).isSome := by
  unfold sscIInvite
  split
  · rfl
  · rename_i message
    have hpayload : message.payload.isSome := hcomplete
    split
    · rfl
    · split_ifs
      · rfl
      · split
        · exact announceInvite_isSome hpayload
        · -- The operation that is written to is the one just made.
          simp only [Ssc.oper?, Ssc.setOper, sscOperCreateWithHandle, Ssc.emit, sscOperAssign,
            List.map_cons, if_true, List.find?_cons, decide_true, Option.bind_eq_bind,
            Option.bind_some]
          exact announceInvite_isSome hpayload

/-! Each handler of a response, on the operation that it reads -/

section Responses
variable {status : Nat} {op : Option SscOper} {sip : Option Sip} (hop : op.isSome)
include hop

/-- A challenge has to come with its message, and nothing else is read. -/
theorem sscRRegister_isSome (phrase : CString) (hsip : !isChallenge status || sip.isSome) :
    (sscRRegister env status phrase op sip ssc).isSome := by
  unfold sscRRegister
  split_ifs with _ hchallenge
  · rfl
  · exact sscStorePendingAuth_isSome hop hsip hchallenge
  all_goals rfl

/-- The same of an unregistration. -/
theorem sscRUnregister_isSome (hsip : !isChallenge status || sip.isSome) :
    (sscRUnregister env status op sip ssc).isSome := by
  unfold sscRUnregister
  split_ifs with _ hchallenge
  · rfl
  · exact sscStorePendingAuth_isSome hop hsip hchallenge
  · rfl

/-- The same of a message. -/
theorem sscRMessage_isSome (hsip : !isChallenge status || sip.isSome) :
    (sscRMessage env status op sip ssc).isSome := by
  unfold sscRMessage
  split_ifs with _ _ hchallenge
  · rfl
  · rfl
  · exact sscStorePendingAuth_isSome hop hsip hchallenge
  · rfl

/-- The same of an answer that matters for its challenge only. -/
theorem sscRChallenged_isSome (hsip : !isChallenge status || sip.isSome) :
    (sscRChallenged env status op sip ssc).isSome := by
  unfold sscRChallenged
  split_ifs with _ hchallenge
  · rfl
  · exact sscStorePendingAuth_isSome hop hsip hchallenge
  · rfl

/-- The same of a subscription. -/
theorem sscRSubscribe_isSome (hsip : !isChallenge status || sip.isSome) :
    (sscRSubscribe env status op sip ssc).isSome := by
  obtain ⟨o, rfl⟩ := Option.isSome_iff_exists.mp hop
  simp only [sscRSubscribe, Option.bind_eq_bind, Option.bind_some]
  split_ifs with _ _ hchallenge
  · rfl
  · exact sscStorePendingAuth_isSome rfl hsip hchallenge
  all_goals rfl

/-- A success is read for the time it is good for. -/
theorem sscRPublish_isSome (hcomplete : (NuaEvent.rPublish status sip).complete) :
    (sscRPublish env status op sip ssc).isSome := by
  unfold sscRPublish
  split_ifs with hlow hchallenge hhigh
  · rfl
  · have hsip : !isChallenge status || sip.isSome := by
      simpa [NuaEvent.complete, hchallenge] using hcomplete
    exact sscStorePendingAuth_isSome hop hsip hchallenge
  · rfl
  · obtain ⟨message, rfl⟩ : ∃ message, sip = some message := by
      have h200 : 200 ≤ status ∧ status < 300 := ⟨by omega, by omega⟩
      simpa [NuaEvent.complete, h200, Option.isSome_iff_exists] using hcomplete
    simp only [Option.bind_eq_bind, Option.bind_some]
    split_ifs <;> rfl

/-- A `BYE` that was answered has its operation. -/
theorem sscRBye_isSome : (sscRBye status op ssc).isSome := by
  obtain ⟨o, rfl⟩ := Option.isSome_iff_exists.mp hop
  simp only [sscRBye, Option.bind_eq_bind, Option.bind_some]
  split_ifs <;> rfl

end Responses

/-! Each handler of a request, with the headers that it reads -/

/-- A complete message has a sender and a body. -/
theorem sscIMessage_isSome {nh : Nat} {op : Option SscOper} {sip : Option Sip}
    (hcomplete : (NuaEvent.iMessage sip).complete) :
    (sscIMessage alloc nh op sip ssc).isSome := by
  obtain ⟨message, rfl, ⟨hfrom, hto⟩, hpayload⟩ := by
    simpa [NuaEvent.complete, Option.any_eq_true] using hcomplete
  obtain ⟨sipFrom, hfrom⟩ := Option.isSome_iff_exists.mp hfrom
  obtain ⟨payload, hpayload⟩ := Option.isSome_iff_exists.mp hpayload
  simp only [sscIMessage, hfrom, hto, hpayload, Option.bind_eq_bind, Option.bind_some,
    Bool.not_true, Bool.false_eq_true, if_false]
  split <;> rfl

/-- A complete `INFO` has a sender and a body. -/
theorem sscIInfo_isSome {nh : Nat} {op : Option SscOper} {sip : Option Sip}
    (hcomplete : (NuaEvent.iInfo sip).complete) : (sscIInfo alloc nh op sip ssc).isSome := by
  obtain ⟨message, rfl, hfrom, hto⟩ := by
    simpa [NuaEvent.complete, Option.any_eq_true] using hcomplete
  simp only [sscIInfo, hfrom, hto, Option.bind_eq_bind, Option.bind_some, Bool.and_self, if_true]
  split <;> rfl

/-- A complete transfer says where to. -/
theorem sscIRefer_isSome {sip : Option Sip} (hcomplete : (NuaEvent.iRefer sip).complete) :
    (sscIRefer env alloc sip ssc).isSome := by
  obtain ⟨message, rfl, ⟨hfrom, hto⟩, hrefer⟩ := by
    simpa [NuaEvent.complete, Option.any_eq_true] using hcomplete
  obtain ⟨referTo, hrefer⟩ := Option.isSome_iff_exists.mp hrefer
  simp only [sscIRefer, hfrom, hto, hrefer, Option.bind_eq_bind, Option.bind_some,
    Bool.and_self, if_true]
  split_ifs <;> rfl

/-- A notification with a sender, or a timeout of an operation that is there. -/
theorem sscINotify_isSome {op : Option SscOper} {sip : Option Sip}
    (hop : (NuaEvent.iNotify sip).ofClient → op.isSome)
    (hcomplete : (NuaEvent.iNotify sip).complete) : (sscINotify op sip ssc).isSome := by
  cases sip with
  | some message =>
    have hfrom : message.sipFrom.isSome := hcomplete
    simp [sscINotify, hfrom]
  | none =>
    obtain ⟨o, rfl⟩ := Option.isSome_iff_exists.mp (hop rfl)
    rfl

/-- An event on a handle with an operation, with the parts that are read. -/
theorem privCallback_isSome {nh : Nat} {e : NuaEvent}
    (hop : e.ofClient → (sscOperFindByHandle ssc nh).isSome) (hcomplete : e.complete) :
    (privCallback env alloc nh ssc e).isSome := by
  simp only [privCallback]
  cases e with
  | rInvite status sip => exact sscRInvite_isSome (hop rfl) hcomplete
  | rRegister status phrase sip => exact sscRRegister_isSome (hop rfl) phrase hcomplete
  | rUnregister status sip => exact sscRUnregister_isSome (hop rfl) hcomplete
  | rOptions status sip =>
    simp only
    split_ifs with hchallenge
    · exact sscStorePendingAuth_isSome (hop rfl) hcomplete hchallenge
    · rfl
  | rMessage status sip => exact sscRMessage_isSome (hop rfl) hcomplete
  | rInfo status sip | rRefer status sip | rNotify status sip =>
    exact sscRChallenged_isSome (hop rfl) hcomplete
  | rSubscribe status sip => exact sscRSubscribe_isSome (hop rfl) hcomplete
  | rPublish status sip => exact sscRPublish_isSome (hop rfl) hcomplete
  | rBye status sip => exact sscRBye_isSome (hop rfl)
  | iBye | iCancel =>
    obtain ⟨o, ho⟩ := Option.isSome_iff_exists.mp (hop rfl)
    simp [sscIBye, sscICancel, ho]
  | iInvite sip => exact sscIInvite_isSome hcomplete
  | iMessage sip => exact sscIMessage_isSome hcomplete
  | iInfo sip => exact sscIInfo_isSome hcomplete
  | iRefer sip => exact sscIRefer_isSome hcomplete
  | iNotify sip => exact sscINotify_isSome hop hcomplete
  -- The others read nothing.
  | _ => rfl

end Progress

/-- A step on an input that lets the client take it. -/
theorem Tracks.progress {env : SscEnv} {ssc : Ssc} {held : List Nat} (h : Tracks ssc held)
    {input : Alloc × SscInput} (hfresh : input.1.Fresh ssc) (hdelivers : delivers held input.2) :
    ∃ s', sscWithStack env (ssc, held) input = some s' ∧ Tracks s'.1 s'.2 := by
  obtain ⟨hforks, hpromise⟩ := Bool.and_eq_true_iff.mp hdelivers
  have hsome : (sscMachine env ssc input).isSome := by
    have hfresh : input.1.Fresh { ssc with nua := [], sent := [] } := hfresh
    simp only [sscMachine, sscStep, hfresh, if_true]
    obtain ⟨alloc, input⟩ := input
    cases input with
    | call c prompt => exact sscCall_isSome hpromise prompt
    | event nh e =>
      obtain ⟨hheld, hparts⟩ := Bool.and_eq_true_iff.mp hpromise
      exact privCallback_isSome
        (fun hclient => (h.mem_iff nh).mp (by simpa [hclient] using hheld)) hparts
  obtain ⟨ssc', hstep⟩ := Option.isSome_iff_exists.mp hsome
  obtain ⟨held', hholds, htracks⟩ := h.step hforks hstep
  exact ⟨(ssc', held'), by simp [sscWithStack, hstep, hholds], htracks⟩

/-- When every input has the parts that are read, and responses come only on the handles which the
client holds by its own calls, no run reads through a `NULL` pointer, and what the client holds is
what its operations hold. -/
theorem completes_of_delivers (env : SscEnv) (start : Ssc) (hstart : start.operations = [])
    (is : List (Alloc × SscInput))
    (hguarded : Guarded (sscWithStack env)
      (fun s input => input.1.Fresh s.1 ∧ delivers s.2 input.2) (start, []) is) :
    ∃ s', run (sscWithStack env) (start, []) is = some s' ∧ s'.2.Perm s'.1.handles := by
  obtain ⟨s', hrun, htracks⟩ := hguarded.progress (fun s => Tracks s.1 s.2)
    (fun s input htracks hinput => htracks.progress hinput.1 hinput.2) (tracks_start hstart)
  exact ⟨s', hrun, htracks.perm⟩

/-- The call: its inputs have all their parts. -/
theorem completes_of_delivers_fork :
    ∃ s', run (sscWithStack plainEnv) ({}, []) forkedCall = some s' ∧ s'.2.Perm s'.1.handles :=
  completes_of_delivers plainEnv {} rfl forkedCall (by decide)

end RestCommSdk.Proofs
