import RestCommSdk.Proofs.HandleDiscipline
import RestCommSdk.Proofs.LiveCalls

/-!
# `RestCommSdk.Proofs.MediaOwner`: the media belongs to a call

All calls share one media object. `ssc_media_activate` sets it going for an INVITE that is sent or
answered, and it stops with the last INVITE operation: `ssc_oper_destroy` looks for others before
it deactivates it.

`media_of_run` states what this amounts to over whole runs: the media is active only while an
INVITE operation is on the list. It has two conditions (`keepsMethods`). Every command has an
address for the operation that it makes: without one, `ssc_oper_create` takes an old operation
over, whatever that was for. And no INVITE comes on the handle of an operation of another method:
`ssc_i_invite` would let that operation wait for an answer, though its method stays what it was.
-/

set_option autoImplicit false

namespace RestCommSdk.Proofs

open RestCommSdk.Lib
open RestCommSdk.CliInterface

/-- An INVITE operation is on the list. -/
def HasInvite (ssc : Ssc) : Prop := ∃ op ∈ ssc.operations, op.opMethod = .invite

/-- The media is that of a call, and only calls wait for an answer. -/
structure MediaOwned (ssc : Ssc) : Prop where
  addrs : (ssc.operations.map (·.addr)).Nodup
  owner : ssc.media.smState ≠ .disabled → HasInvite ssc
  received : ∀ op ∈ ssc.operations, op.opCallstate.recv → op.opMethod = .invite

/-- A command has an address for the operation that it makes, and an INVITE does not come on the
operation of another method. -/
def keepsMethods (ssc : Ssc) : SscInput → Bool
  | .call c _ => addressed ssc c
  | .event nh (.iInvite _) => (sscOperFindByHandle ssc nh).all (·.opMethod = .invite)
  | _ => true

namespace MediaOwned

variable {ssc ssc' : Ssc}

/-- The same operations, with the media as it was or stopped. -/
theorem of_stopped (h : MediaOwned ssc) (hops : ssc'.operations = ssc.operations)
    (hmedia : ssc'.media.smState = ssc.media.smState ∨ ssc'.media.smState = .disabled) :
    MediaOwned ssc' := by
  refine ⟨hops ▸ h.addrs, fun hactive => ?_, hops ▸ h.received⟩
  rw [HasInvite, hops]
  exact h.owner fun hdisabled => hactive (hmedia.elim (·.trans hdisabled) id)

/-- Only the operations and the state of the media matter. -/
theorem of_eq (h : MediaOwned ssc) (hops : ssc'.operations = ssc.operations)
    (hmedia : ssc'.media.smState = ssc.media.smState) : MediaOwned ssc' :=
  h.of_stopped hops (.inl hmedia)

/-- A call keeps the media going. -/
theorem activate (h : MediaOwned ssc) (howner : HasInvite ssc) (payload : CString) :
    MediaOwned (ssc.activateMedia payload) :=
  ⟨h.addrs, fun _ => howner, h.received⟩

/-- A write keeps the methods. -/
theorem hasInvite_setOper (h : HasInvite ssc) (addr : Nat) (f : SscOper → SscOper)
    (hmethod : ∀ op, (f op).opMethod = op.opMethod) : HasInvite (ssc.setOper addr f) := by
  obtain ⟨op, hop, hinvite⟩ := h
  refine ⟨_, List.mem_map_of_mem hop, ?_⟩
  split
  · exact (hmethod op).trans hinvite
  · exact hinvite

/-- A write makes no other operation wait. -/
theorem setOper (h : MediaOwned ssc) (addr : Nat) (f : SscOper → SscOper)
    (hf : ∀ op, (f op).addr = op.addr ∧ (f op).opMethod = op.opMethod)
    (hrecv : ∀ op ∈ ssc.operations, op.addr = addr → (f op).opCallstate.recv →
      op.opCallstate.recv ∨ op.opMethod = .invite) : MediaOwned (ssc.setOper addr f) := by
  refine ⟨?_, fun hactive => hasInvite_setOper (h.owner hactive) addr f fun op => (hf op).2,
    fun op' hop' => ?_⟩
  · rw [map_setOper ssc addr (·.addr) fun op => (hf op).1]
    exact h.addrs
  · obtain ⟨op, hop, rfl⟩ := List.mem_map.mp hop'
    split
    · rename_i haddr
      intro hwaits
      rw [(hf op).2]
      exact (hrecv op hop haddr hwaits).elim (h.received op hop) id
    · exact h.received op hop

/-- The media stops with the last INVITE operation, whatever its state was. -/
theorem destroyed (h : MediaOwned ssc) (media : SscMediaSimple) {addr : Nat}
    (hfound : (ssc.oper? addr).isSome) :
    MediaOwned (sscOperDestroy { ssc with media := media } addr) := by
  obtain ⟨op, hop⟩ := Option.isSome_iff_exists.mp hfound
  have hops : (sscOperDestroy { ssc with media := media } addr).operations
      = ssc.operations.filter (·.addr ≠ addr) := operations_sscOperDestroy _ addr
  refine ⟨?_, fun hactive => ?_, ?_⟩
  · rw [hops]
    exact h.addrs.sublist (List.filter_sublist.map _)
  · -- An INVITE operation is left, and it holds the media.
    by_cases hany : (ssc.operations.filter (·.addr ≠ addr)).any (·.opMethod = .invite) = true
    · rw [HasInvite, hops]
      obtain ⟨other, hother, hinvite⟩ := List.any_eq_true.mp hany
      exact ⟨other, hother, of_decide_eq_true hinvite⟩
    · -- It was the last one, so the media is deactivated.
      have hfind : ({ ssc with media := media } : Ssc).oper? addr = some op := hop
      have hlast : sscOperDestroy { ssc with media := media } addr
          = (Ssc.emit { ssc with media, operations := ssc.operations.filter (·.addr ≠ addr) }
            (.handleDestroy op.opHandle)).deactivateMedia := by
        simp only [sscOperDestroy, hfind]
        exact if_neg hany
      rw [hlast] at hactive
      exact absurd rfl hactive
  · rw [hops]
    exact fun op hop => h.received op (List.mem_filter.mp hop).1

/-- With the last call the media are deactivated. -/
theorem sscOperDestroy (h : MediaOwned ssc) (addr : Nat) :
    MediaOwned (sscOperDestroy ssc addr) := by
  cases hfind : ssc.oper? addr with
  | none =>
    have hsame : CliInterface.sscOperDestroy ssc addr = ssc := by
      simp [CliInterface.sscOperDestroy, hfind]
    rwa [hsame]
  | some op => exact h.destroyed ssc.media (by simp [hfind])

/-- A new operation waits for nothing. -/
theorem cons (h : MediaOwned ssc) {op : SscOper} (c : NuaCall)
    (haddr : ∀ op' ∈ ssc.operations, op'.addr ≠ op.addr) (hnew : op.opCallstate = .none) :
    MediaOwned ({ ssc with operations := op :: ssc.operations }.emit c) := by
  refine ⟨?_, fun hactive => ?_, fun op' hop' => ?_⟩
  · refine List.nodup_cons.mpr ⟨fun hmem => ?_, h.addrs⟩
    obtain ⟨op', hop', heq⟩ := List.mem_map.mp hmem
    exact haddr op' hop' heq
  · obtain ⟨owner, hmem, hinvite⟩ := h.owner hactive
    exact ⟨owner, List.mem_cons_of_mem _ hmem, hinvite⟩
  · rcases List.mem_cons.mp hop' with rfl | hop'
    · simp [hnew, Callstate.none]
    · exact h.received op' hop'

/-- The rules of the functions that are not about an INVITE. -/
theorem operationInvariant : OperationInvariant MediaOwned False fun _ => True where
  of_eq h hops _ hmedia := h.of_eq hops (by rw [hmedia])
  auth _ := trivial
  request h _ _ _ := h.of_eq rfl rfl
  setting h _ := h.of_eq rfl rfl
  setOper addr _ h hf := h.setOper addr _ (fun op => ⟨hf.addr op, hf.opMethod op⟩)
    fun op _ _ hwaits => .inl (by rwa [hf.opCallstate] at hwaits)
  destroy addr h := h.sscOperDestroy addr
  make _ _ h hfresh := h.cons _ hfresh.1 rfl
  bind _ _ h haddr _ := h.cons _ haddr rfl
  takeOver _ hfalse _ _ := hfalse.elim

/-! ### INVITEs -/

section Calls
variable {env : SscEnv} {alloc : Alloc}

/-- What `ssc_oper_create` makes is on the list. -/
theorem exists_created (hfresh : alloc.Fresh ssc) {destination password : Option CString}
    {addr : Nat} (hdestination : destination.isSome)
    (hcreated : (sscOperCreateWithPassword env alloc .invite destination password ssc).2
      = some addr) :
    ∃ op ∈ (sscOperCreateWithPassword env alloc .invite destination password ssc).1.operations,
      op.addr = addr ∧ op.opMethod = .invite := by
  obtain ⟨destination, rfl⟩ := Option.isSome_iff_exists.mp hdestination
  by_cases hvalid : env.validAddress destination = true
  · obtain ⟨hmade, hop⟩ := oper?_sscOperCreateWithPassword hfresh .invite password hvalid
    rw [hmade, Option.some.injEq] at hcreated
    subst hcreated
    exact ⟨_, (mem_of_oper? hop).1, rfl, rfl⟩
  · simp [sscOperCreateWithPassword, sscOperCreate, hvalid] at hcreated

/-- Media become active for a listed operation. -/
theorem privMediaStateCb (h : MediaOwned ssc) (addr : Nat)
    (hfound : (ssc.oper? addr).isSome) : MediaOwned (privMediaStateCb addr ssc) := by
  rcases privMediaStateCb_cases addr ssc with heq | ⟨media, heq⟩ |
    ⟨op, -, ⟨-, -, heq⟩ | ⟨-, -, f, status, phrase, payload, hf, -, heq⟩⟩ <;> rw [heq]
  · exact h
  · exact h.destroyed media hfound
  · have hwrite := h.setOper addr (fun op => { op with opCallstate := { sent := true } })
      (fun _ => ⟨rfl, rfl⟩) fun _ _ _ hwaits => by simp at hwaits
    exact hwrite.of_eq rfl rfl
  · have hwrite := h.setOper addr (fun op => { op with opCallstate := f op })
      (fun _ => ⟨rfl, rfl⟩) fun op' _ _ hwaits => by
        rcases hf op' with hkept | hnone
        · exact .inl (by simpa [hkept] using hwaits)
        · simp [hnone, Callstate.none] at hwaits
    exact hwrite.of_eq rfl rfl

/-- A call that is made has an operation, and media after that. -/
theorem sscInvite (h : MediaOwned ssc) (hfresh : alloc.Fresh ssc)
    {destination password sdp headers : Option CString} (hdestination : destination.isSome)
    (hcall : sscInvite env alloc destination password sdp headers ssc = some ssc') :
    MediaOwned ssc' := by
  have hcreate : MediaOwned
      (sscOperCreateWithPassword env alloc .invite destination password ssc).1 :=
    operationInvariant.sscOperCreateWithPassword h hfresh .invite destination password
      (.inr hdestination)
  unfold CliInterface.sscInvite at hcall
  dsimp only at hcall
  split at hcall
  · rename_i addr hcreated
    obtain ⟨payload, -, hcall⟩ := Option.bind_eq_some_iff.mp hcall
    cases hcall
    -- The operation that was made holds the media it activates.
    obtain ⟨op, hop, haddr, hinvite⟩ := exists_created hfresh hdestination hcreated
    have hwrite := hcreate.setOper addr (awaitingMedia headers) (fun _ => ⟨rfl, rfl⟩)
      fun _ _ _ hwaits => .inl hwaits
    have howner := hasInvite_setOper ⟨op, hop, hinvite⟩ addr (awaitingMedia headers) fun _ => rfl
    refine (hwrite.activate howner payload).privMediaStateCb addr ?_
    rw [Ssc.oper?, List.find?_isSome]
    exact ⟨_, List.mem_map_of_mem hop, by simp [haddr, awaitingMedia]⟩
  · cases hcall
    -- None was made, and only a failure is sent.
    exact hcreate.of_eq rfl rfl

/-- A call is answered that came in. -/
theorem sscAnswer (h : MediaOwned ssc) (sdp : Option CString) (status : Nat) (phrase : CString) :
    MediaOwned (sscAnswer sdp status phrase ssc) := by
  unfold CliInterface.sscAnswer
  split
  · exact h
  · rename_i op hfind
    -- A call waits for an answer, and it is an INVITE.
    have hmem : op ∈ ssc.operations := List.mem_of_find?_eq_some hfind
    have hrecv : op.opCallstate = .opcRecv := by simpa using List.find?_some hfind
    have hinvite : op.opMethod = .invite := h.received op hmem (by simp [hrecv, Callstate.opcRecv])
    have hstatus : MediaOwned { ssc with ansStatus := status, ansPhrase := phrase } :=
      h.of_eq rfl rfl
    dsimp only
    split
    · -- A 2xx activates the media of that call.
      have howner : HasInvite { ssc with ansStatus := status, ansPhrase := phrase } :=
        ⟨op, hmem, hinvite⟩
      refine (hstatus.activate howner (sdp.getD ssc.media.localSdp)).privMediaStateCb op.addr ?_
      rw [Ssc.oper?, List.find?_isSome]
      exact ⟨op, hmem, by simp⟩
    · -- Any other answer destroys its operation.
      have hrespond : MediaOwned (Ssc.emit { ssc with ansStatus := status, ansPhrase := phrase }
          (.respond op.opHandle status phrase none)) := hstatus.of_eq rfl rfl
      exact hrespond.sscOperDestroy op.addr

/-- A call state without `opc_recv`. -/
theorem clear (h : MediaOwned ssc) (addr : Nat) (f : SscOper → SscOper)
    (hf : ∀ op, (f op).addr = op.addr ∧ (f op).opMethod = op.opMethod)
    (hrecv : ∀ op, (f op).opCallstate.recv = false) : MediaOwned (ssc.setOper addr f) :=
  h.setOper addr f hf fun op _ _ hwaits => by rw [hrecv op] at hwaits; cases hwaits

/-- Hanging up leaves the media to the end of the call. -/
theorem sscBye (h : MediaOwned ssc) : MediaOwned (sscBye ssc) := by
  unfold CliInterface.sscBye
  split
  · exact h
  · rename_i op _
    have hbye : MediaOwned (ssc.emit (.bye op.opHandle)) := h.of_eq rfl rfl
    exact hbye.clear op.addr (fun op => { op with opCallstate := .none }) (fun _ => ⟨rfl, rfl⟩)
      fun _ => rfl

/-- Every command keeps it that has an address for the operation it makes. -/
theorem sscCall (h : MediaOwned ssc) (hfresh : alloc.Fresh ssc) {prompt : CString} {c : SscCall}
    (haddressed : addressed ssc c) (hcall : sscCall env alloc prompt ssc c = some ssc') :
    MediaOwned ssc' := by
  cases hc : isCallCommand c with
  | false =>
    exact operationInvariant.sscCall h hfresh hc (.inr haddressed) (fun _ _ => trivial) hcall
  | true =>
    cases c with
    | invite destination password sdp headers => exact h.sscInvite hfresh haddressed hcall
    | answer sdp status phrase => cases hcall; exact h.sscAnswer sdp status phrase
    | bye => cases hcall; exact h.sscBye
    | _ => cases hc

/-- The answer to a call comes for a listed operation. -/
theorem sscRInvite (h : MediaOwned ssc) {status nh : Nat} {sip : Option Sip}
    (hevent : sscRInvite env status (sscOperFindByHandle ssc nh) sip ssc = some ssc') :
    MediaOwned ssc' := by
  rcases sscRInvite_cases hevent with ⟨-, o, ho, hfinal⟩ | ⟨-, ⟨-, rfl⟩ | ⟨-, _, _, -, -, rfl⟩ |
    ⟨-, -, rfl⟩⟩
  · have hwrite := h.setOper o.addr
      (fun op => { op with opCallstate := { op.opCallstate with sent := false } })
      (fun _ => ⟨rfl, rfl⟩) fun _ _ _ hwaits => .inl hwaits
    rcases hfinal with ⟨-, hstore⟩ | ⟨-, rfl⟩
    · refine operationInvariant.sscStorePendingAuth hwrite (fun o' ho' => ?_) hstore
      exact exists_setOper (mem_of_findByHandle ho').1 (fun _ => rfl) rfl
    · exact hwrite.of_eq rfl rfl
  · exact h.of_eq rfl rfl
  · exact h.of_eq rfl rfl
  · exact h

/-- The App is told of a call. -/
theorem announceInvite (h : MediaOwned ssc) {message : Sip} {sipFrom : SipFrom} {o : SscOper}
    (hevent : announceInvite message sipFrom o ssc = some ssc') : MediaOwned ssc' := by
  rcases announceInvite_cases hevent with rfl | ⟨-, rfl⟩ | ⟨-, reply, rfl⟩
  · exact h
  · exact h.sscAnswer none 200 _
  · exact h.of_eq rfl rfl

/-- A call that comes in has an operation of its own. -/
theorem sscIInvite (h : MediaOwned ssc) (hfresh : alloc.Fresh ssc) {nh : Nat} {sip : Option Sip}
    (hkeeps : keepsMethods ssc (.event nh (.iInvite sip)))
    (hevent : sscIInvite alloc nh (sscOperFindByHandle ssc nh) sip ssc = some ssc') :
    MediaOwned ssc' := by
  rcases sscIInvite_cases hevent with rfl | ⟨_, _, o, ssc₁, hannounce, ⟨o₀, ho₀, -, rfl⟩ |
    ⟨hnone, -, rfl⟩⟩
  · exact h
  · have hwrite := h.setOper o₀.addr answering (fun _ => ⟨rfl, rfl⟩) fun op hop haddr _ => .inr (by
      rw [eq_of_addr h.addrs hop (mem_of_findByHandle ho₀).1 haddr]
      exact of_decide_eq_true (Option.all_eq_true _ _ |>.mp hkeeps o₀ ho₀))
    exact hwrite.announceInvite hannounce
  · have hbind := operationInvariant.bindNew h hfresh .invite hnone
    refine (hbind.setOper alloc.addr answering (fun _ => ⟨rfl, rfl⟩)
      fun op hop haddr _ => .inr ?_).announceInvite hannounce
    rcases List.mem_cons.mp hop with rfl | hop
    · rfl
    · exact absurd haddr (hfresh.1 op hop)

/-- A state event never sets the media going. -/
theorem smState_sscIState (tags : StateTags) (op : Option SscOper) (ssc : Ssc) :
    (sscIState tags op ssc).media.smState = ssc.media.smState ∨
      (sscIState tags op ssc).media.smState = .disabled := by
  have hdestroy (ssc : Ssc) (addr : Nat) :
      (CliInterface.sscOperDestroy ssc addr).deactivateMedia.media.smState = .disabled := rfl
  unfold CliInterface.sscIState
  split
  · exact .inl rfl
  · dsimp only
    split
    · exact .inl rfl
    · split
      · exact .inl rfl
      · split
        · split <;> exact .inl rfl
        · exact .inr rfl
        · exact .inl rfl

/-- A call that has ended goes, with the media if it was the last. -/
theorem sscIState (h : MediaOwned ssc) (tags : StateTags) (op : Option SscOper) :
    MediaOwned (sscIState tags op ssc) := by
  have hstate := smState_sscIState tags op ssc
  obtain ⟨media, heq | ⟨o, -, ⟨-, replies, heq⟩ | ⟨-, heq⟩⟩⟩ := sscIState_cases tags op ssc
  · exact h.of_stopped (by rw [heq]) hstate
  · have hready := h.clear o.addr
      (fun op => { op with opCallstate := .opcActive, opPrevState := some .ready })
      (fun _ => ⟨rfl, rfl⟩) fun _ => rfl
    exact hready.of_stopped (by rw [heq]) hstate
  · rw [heq]
    refine (h.sscOperDestroy o.addr).of_stopped ?_ (.inr rfl)
    show (CliInterface.sscOperDestroy { ssc with media := media } o.addr).operations = _
    rw [operations_sscOperDestroy, operations_sscOperDestroy]

/-- Every event keeps it but an INVITE on the operation of another method. -/
theorem privCallback (h : MediaOwned ssc) (hfresh : alloc.Fresh ssc) {nh : Nat} {e : NuaEvent}
    (hkeeps : keepsMethods ssc (.event nh e))
    (hevent : privCallback env alloc nh ssc e = some ssc') : MediaOwned ssc' := by
  cases hlent : (SscInput.event nh e).lent with
  | some nh' =>
    obtain ⟨calls, rfl⟩ := privCallback_lent hlent hevent
    exact h.of_eq rfl rfl
  | none =>
    cases he : isCallEvent e with
    | false => exact operationInvariant.privCallback h hfresh he hlent hevent
    | true =>
      cases e with
      | rInvite status sip => exact h.sscRInvite hevent
      | iInvite sip => exact h.sscIInvite hfresh hkeeps hevent
      | iState tags =>
        cases hevent
        exact h.sscIState tags _
      | _ => cases he

/-- One step under the condition. -/
theorem step (h : MediaOwned ssc) {input : Alloc × SscInput} (hkeeps : keepsMethods ssc input.2)
    (hstep : sscMachine env ssc input = some ssc') : MediaOwned ssc' := by
  have hsilent : MediaOwned { ssc with nua := [], sent := [] } := h.of_eq rfl rfl
  obtain ⟨alloc, input⟩ := input
  simp only [sscMachine, sscStep] at hstep
  split at hstep
  · rename_i hfresh
    cases input with
    | call c prompt =>
      have haddressed : addressed { ssc with nua := [], sent := [] } c := by
        cases c <;> exact hkeeps
      exact hsilent.sscCall hfresh haddressed hstep
    | event nh e =>
      have hkeeps : keepsMethods { ssc with nua := [], sent := [] } (.event nh e) := by
        cases e <;> exact hkeeps
      exact hsilent.privCallback hfresh hkeeps hstep
  · cases hstep

end Calls

end MediaOwned

/-- In every run whose commands have addresses, and in which no INVITE comes on the operation of
another method, the media is active only while a call is on the list, and only calls wait for an
answer. -/
theorem media_of_run (env : SscEnv) (start : Ssc) (hstart : start.operations = [])
    (hmedia : start.media.smState = .disabled) (is : List (Alloc × SscInput)) (ssc' : Ssc)
    (hkeeps : AllSteps (sscMachine env) (fun ssc input _ => keepsMethods ssc input.2) start is)
    (hrun : run (sscMachine env) start is = some ssc') :
    (ssc'.media.smState ≠ .disabled → HasInvite ssc') ∧
      ∀ op ∈ ssc'.operations, op.opCallstate.recv → op.opMethod = .invite := by
  have howned : MediaOwned start :=
    ⟨by simp [hstart], fun hactive => absurd hmedia hactive, by simp [hstart]⟩
  have hafter : MediaOwned ssc' := by
    refine AllSteps.holds_after howned (AllSteps.of_inv MediaOwned ?_ howned hkeeps) hrun
    intro ssc input ssc' h hstep hinput
    have h : MediaOwned ssc' := h.step hinput hstep
    exact ⟨h, h⟩
  exact ⟨hafter.owner, hafter.received⟩

/-- A call comes in and is answered while another one is made. -/
def answeredCall : List (Alloc × SscInput) :=
  let sip : Sip :=
    { sipFrom := some { url := "sip:b@h".toList, urlUser := none }, hasTo := true
      payload := some "v=0".toList }
  [(⟨1, 11⟩, .call (.invite (some "sip:b@h".toList) none (some "v=0".toList) none)),
   (⟨2, 12⟩, .event 21 (.iInvite (some sip))),
   (⟨3, 13⟩, .call (.answer (some "v=0".toList) 200 "OK".toList))]

/-- With the two calls the media is active. -/
theorem media_of_run_answered :
    ∃ ssc', run (sscMachine plainEnv) {} answeredCall = some ssc' ∧
      ssc'.media.smState = .active ∧
      (ssc'.media.smState ≠ .disabled → HasInvite ssc') ∧
      ∀ op ∈ ssc'.operations, op.opCallstate.recv → op.opMethod = .invite :=
  ⟨_, rfl, rfl, media_of_run plainEnv {} rfl rfl answeredCall _ (by decide) rfl⟩

end RestCommSdk.Proofs
