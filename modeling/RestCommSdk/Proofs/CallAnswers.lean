import Mathlib.Logic.Function.Basic
import RestCommSdk.Proofs.SofiaTurns

/-!
# `RestCommSdk.Proofs.CallAnswers`: incoming INVITEs and their answers

`ssc_answer` takes the first operation whose call state is exactly `opc_recv`. That value means
"an INVITE was received and not answered yet" as long as nothing takes the `opc_sent` bit away
that the answer has set. `ssc_r_invite` does: to it the bit is the mark of an INVITE that was
sent.

`answersUnanswered_of_keepsAnswered`: in a run in which no failed INVITE of our own clears the bit
of an answer, every final response is to an INVITE that waits for one. The invariant is
`Answering`: an operation with the call state `opc_recv` has an INVITE that waits.
-/

set_option autoImplicit false

namespace RestCommSdk.Proofs

open RestCommSdk.Lib
open RestCommSdk.CliInterface
open RestCommSdk.SipManager (NSDictionary)

/-! ### INVITEs that wait for an answer -/

/-- `opc_complete` -/
def opcComplete : Callstate := { sent := true, recv := true }

/-- The handle that a final response goes to. -/
def finalResponse : NuaCall → Option Nat
  | .respond nh status _ _ => if 200 ≤ status then some nh else none
  | _ => none

/-- The handles with an INVITE to answer, after a call of the stack. A handle that is made for
a request of our own has none. -/
def unansweredAfter (unanswered : Nat → Bool) (c : NuaCall) : Nat → Bool :=
  match c with
  | .respond nh status _ _ =>
    if 200 ≤ status then Function.update unanswered nh false else unanswered
  | .handle nh _ => Function.update unanswered nh false
  | _ => unanswered

/-- The handles with an INVITE to answer, once the input has arrived. -/
def unansweredAt (unanswered : Nat → Bool) : SofiaInput → Nat → Bool
  | .event nh (.iInvite (some _)) => Function.update unanswered nh true
  | _ => unanswered

/-- Every final response is to an INVITE that waits for one. -/
def AnswersUnanswered : (Nat → Bool) → List NuaCall → Prop
  | _, [] => True
  | unanswered, c :: calls =>
    (∀ nh ∈ finalResponse c, unanswered nh = true) ∧
      AnswersUnanswered (unansweredAfter unanswered c) calls

instance AnswersUnanswered.decidable :
    (unanswered : Nat → Bool) → (calls : List NuaCall) →
      Decidable (AnswersUnanswered unanswered calls)
  | _, [] => isTrue trivial
  | unanswered, c :: calls =>
    haveI := AnswersUnanswered.decidable (unansweredAfter unanswered c) calls
    inferInstanceAs (Decidable (_ ∧ _))

/-- One more call of the stack. -/
theorem answersUnanswered_append (unanswered : Nat → Bool) (calls : List NuaCall) (c : NuaCall) :
    AnswersUnanswered unanswered (calls ++ [c]) ↔
      AnswersUnanswered unanswered calls ∧
        ∀ nh ∈ finalResponse c, calls.foldl unansweredAfter unanswered nh = true := by
  induction calls generalizing unanswered with
  | nil => simp [AnswersUnanswered]
  | cons d calls ih =>
    simp only [List.cons_append, AnswersUnanswered, ih, List.foldl_cons]
    exact and_assoc.symm

/-! ### The invariant -/

/-- The INVITEs that wait after the calls that the turn has made so far. -/
def waiting (unanswered : Nat → Bool) (ssc : Ssc) : Nat → Bool :=
  ssc.nua.foldl unansweredAfter unanswered

/-- The answers so far were to INVITEs that waited, and an operation that looks unanswered is. -/
structure Answering (unanswered : Nat → Bool) (ssc : Ssc) : Prop where
  autoanswer : ssc.autoanswer = false
  answered : AnswersUnanswered unanswered ssc.nua
  waits : ∀ op ∈ ssc.operations, op.opCallstate = .opcRecv →
    waiting unanswered ssc op.opHandle = true

/-- Where nothing waits, no call of the stack makes it so. -/
theorem foldl_unansweredAfter_false (calls : List NuaCall) :
    calls.foldl unansweredAfter (fun _ => false) = fun _ => false := by
  induction calls with
  | nil => rfl
  | cons c calls ih =>
    have hafter : unansweredAfter (fun _ => false) c = fun _ => false := by
      cases c with
      | respond nh status | handle nh =>
        have hupdate : Function.update (fun _ => false) nh false = fun _ => false :=
          Function.update_eq_self_iff.mpr rfl
        simp only [unansweredAfter, hupdate, ite_self]
      | _ => rfl
    rw [List.foldl_cons, hafter, ih]

/-- Which calls wait for an answer after one more call of the stack. -/
theorem waiting_emit (unanswered : Nat → Bool) (ssc : Ssc) (c : NuaCall) :
    waiting unanswered (ssc.emit c) = unansweredAfter (waiting unanswered ssc) c := by
  rw [waiting, Ssc.emit, List.foldl_append]
  rfl

namespace Answering

variable {unanswered : Nat → Bool} {ssc ssc' : Ssc}

/-- Only the operations, what was asked for and `autoanswer` matter. -/
theorem of_eq (h : Answering unanswered ssc) (hops : ssc'.operations = ssc.operations)
    (hnua : ssc'.nua = ssc.nua) (hauto : ssc'.autoanswer = ssc.autoanswer) :
    Answering unanswered ssc' where
  autoanswer := hauto.trans h.autoanswer
  answered := hnua ▸ h.answered
  waits := by
    rw [hops, waiting, hnua]
    exact h.waits

/-- A call that neither answers nor makes a handle. -/
theorem emit (h : Answering unanswered ssc) {c : NuaCall} (hfinal : finalResponse c = none)
    (hafter : ∀ u, unansweredAfter u c = u) : Answering unanswered (ssc.emit c) where
  autoanswer := h.autoanswer
  answered := by
    refine (answersUnanswered_append _ _ _).mpr ⟨h.answered, ?_⟩
    intro nh hnh
    rw [hfinal] at hnh
    cases hnh
  waits op hop hrecv := by
    rw [waiting_emit, hafter]
    exact h.waits op hop hrecv

/-- A write that makes no operation look unanswered whose INVITE does not wait. -/
theorem setOper (h : Answering unanswered ssc) (addr : Nat) {f : SscOper → SscOper}
    (hhandle : ∀ op, (f op).opHandle = op.opHandle)
    (hf : ∀ op ∈ ssc.operations, op.addr = addr → (f op).opCallstate = .opcRecv →
      waiting unanswered ssc op.opHandle = true) :
    Answering unanswered (ssc.setOper addr f) where
  autoanswer := h.autoanswer
  answered := h.answered
  waits op' hop' hrecv := by
    obtain ⟨op, hop, rfl⟩ := List.mem_map.mp hop'
    by_cases haddr : op.addr = addr
    · rw [if_pos haddr] at hrecv ⊢
      rw [hhandle]
      exact hf op hop haddr hrecv
    · rw [if_neg haddr] at hrecv ⊢
      exact h.waits op hop hrecv

end Answering

/-- Most handlers neither answer an INVITE nor touch a call state. -/
theorem plainInvariant_answering (unanswered : Nat → Bool) :
    PlainInvariant (Answering unanswered) where
  of_eq h hops hnua hauto := h.of_eq hops hnua hauto
  emit {_ c} h hc := by
    cases c with
    | respond | handle => cases hc
    | _ => exact h.emit rfl fun _ => rfl
  setOper addr _ h hf := by
    refine h.setOper addr hf.opHandle ?_
    intro op hop _ hrecv
    rw [hf.opCallstate] at hrecv
    exact h.waits op hop hrecv
  filter p h :=
    ⟨h.autoanswer, h.answered, fun op hop => h.waits op (List.mem_of_mem_filter hop)⟩
  cons {ssc op c} h _ hhandle hnone _ hc := by
    have hfinal : finalResponse c = none := by
      rcases hc with ⟨address, rfl⟩ | rfl <;> rfl
    refine ⟨h.autoanswer, ?_, ?_⟩
    · refine (answersUnanswered_append _ _ _).mpr ⟨h.answered, ?_⟩
      intro nh hnh
      rw [hfinal] at hnh
      cases hnh
    · intro op' hop' hrecv
      rcases List.mem_cons.mp hop' with rfl | hold
      · rw [hnone] at hrecv
        cases hrecv
      · rw [waiting_emit]
        have hwaits : waiting unanswered ssc op'.opHandle = true := h.waits op' hold hrecv
        rcases hc with ⟨address, rfl⟩ | rfl
        · -- The handle that is made is no other operation's.
          exact (Function.update_of_ne (hhandle op' hold) _ _).trans hwaits
        · exact hwaits

/-! ### Handlers -/

namespace Answering

variable {unanswered : Nat → Bool} {env : SscEnv} {alloc : Alloc} {ssc ssc' : Ssc}

/-- The answer of an operation that looks unanswered, and does not any more. -/
theorem respond (h : Answering unanswered ssc) (haddrs : (ssc.operations.map (·.addr)).Nodup)
    (hhandles : (ssc.operations.map (·.opHandle)).Nodup) {op : SscOper}
    (hop : op ∈ ssc.operations) (hrecv : op.opCallstate = .opcRecv) (f : SscOper → Callstate)
    (hf : f op ≠ .opcRecv) (status : Nat) (phrase : CString) (payload : Option CString) :
    Answering unanswered
      ((ssc.setOper op.addr fun op => { op with opCallstate := f op }).emit
        (.respond op.opHandle status phrase payload)) where
  autoanswer := h.autoanswer
  answered := by
    refine (answersUnanswered_append _ _ _).mpr ⟨h.answered, ?_⟩
    -- The response goes to the operation that waits.
    intro nh hnh
    simp only [finalResponse, Option.mem_def, Option.ite_none_right_eq_some,
      Option.some.injEq] at hnh
    rw [← hnh.2]
    exact h.waits op hop hrecv
  waits op' hop' hrecv' := by
    obtain ⟨op₀, hop₀, rfl⟩ := List.mem_map.mp hop'
    by_cases haddr : op₀.addr = op.addr
    · -- The answered operation is no longer `opc_recv`.
      obtain rfl := eq_of_addr haddrs hop₀ hop haddr
      rw [if_pos rfl] at hrecv'
      exact absurd hrecv' hf
    · rw [if_neg haddr] at hrecv' ⊢
      -- Another operation has another handle, so it still waits.
      have hne : op₀.opHandle ≠ op.opHandle := by
        intro heq
        exact haddr (congrArg _ (List.inj_on_of_nodup_map hhandles hop₀ hop heq))
      have hwaits : waiting unanswered ssc op₀.opHandle = true := h.waits op₀ hop₀ hrecv'
      rw [waiting_emit, unansweredAfter]
      split
      · exact (Function.update_of_ne hne _ _).trans hwaits
      · exact hwaits

/-- `priv_media_state_cb`, for an operation whose INVITE is about to be sent, or which looks
unanswered. -/
theorem privMediaStateCb (h : Answering unanswered ssc) (addr : Nat)
    (hop : ∀ op, ssc.oper? addr = some op → op.opCallstate.pending = false →
      op.opCallstate = .opcRecv ∧ (ssc.operations.map (·.addr)).Nodup ∧
        (ssc.operations.map (·.opHandle)).Nodup) :
    Answering unanswered (privMediaStateCb addr ssc) := by
  have hplain := plainInvariant_answering unanswered
  rcases privMediaStateCb_cases addr ssc with heq | ⟨media, heq⟩ | ⟨op, hfind, hcase⟩
  · rw [heq]
    exact h
  · rw [heq]
    have hmedia : Answering unanswered { ssc with media := media } := h.of_eq rfl rfl rfl
    exact hplain.sscOperDestroy hmedia addr
  · -- The INVITE that goes out leaves no call waiting for an answer.
    rcases hcase with ⟨-, -, heq⟩ | ⟨hpending, -, f, status, phrase, payload, hf, -, heq⟩
    · rw [heq]
      refine Answering.emit ?_ rfl fun _ => rfl
      refine h.setOper addr (fun _ => rfl) ?_
      intro op' _ _ hrecv
      cases hrecv
    · rw [heq]
      -- Only the one call in `opc_recv` is responded to.
      obtain ⟨hrecv, haddrs, hhandles⟩ := hop op hfind hpending
      obtain ⟨hmem, rfl⟩ := mem_of_oper? hfind
      refine h.respond haddrs hhandles hmem hrecv f ?_ status phrase payload
      rcases hf op with hsent | hnone
      · simp [hsent, Callstate.opcRecv]
      · simp [hnone, Callstate.opcRecv, Callstate.none]

/-- A call that is made waits for no answer of the client. -/
theorem sscInvite (h : Answering unanswered ssc) (hfresh : alloc.Fresh ssc)
    {destination password sdp headers : Option CString}
    (hcall : sscInvite env alloc destination password sdp headers ssc = some ssc') :
    Answering unanswered ssc' := by
  have hcreate : Answering unanswered
      (sscOperCreateWithPassword env alloc .invite destination password ssc).1 :=
    (plainInvariant_answering unanswered).sscOperCreateWithPassword h hfresh .invite destination
      password
  rcases sscInvite_cases hcall with ⟨addr, payload, -, rfl⟩ | rfl
  · have hawaiting := hcreate.setOper addr (f := awaitingMedia headers) (fun _ => rfl)
      fun op _ _ hrecv => by simp [awaitingMedia, Callstate.opcRecv] at hrecv
    refine Answering.privMediaStateCb ?_ addr ?_
    · exact hawaiting.of_eq rfl rfl rfl
    intro op hop hpending
    rw [pending_of_awaitingMedia hop] at hpending
    cases hpending
  · exact hcreate.of_eq rfl rfl rfl

/-- An answer goes to the first operation that looks unanswered. -/
theorem sscAnswer (h : Answering unanswered ssc) (haddrs : (ssc.operations.map (·.addr)).Nodup)
    (hhandles : (ssc.operations.map (·.opHandle)).Nodup) (sdp : Option CString) (status : Nat)
    (phrase : CString) : Answering unanswered (sscAnswer sdp status phrase ssc) := by
  unfold CliInterface.sscAnswer
  split
  · exact h
  · rename_i op hfind
    have hmem : op ∈ ssc.operations := List.mem_of_find?_eq_some hfind
    have hrecv : op.opCallstate = .opcRecv := by simpa using List.find?_some hfind
    dsimp only
    split
    · refine Answering.privMediaStateCb ?_ op.addr ?_
      · exact h.of_eq rfl rfl rfl
      intro op' hop' _
      have hsame : op = op' := Option.some.inj ((oper?_of_mem haddrs hmem).symm.trans hop')
      exact ⟨hsame ▸ hrecv, haddrs, hhandles⟩
    · -- The operation goes with its call state, so the answer may be taken as the end of it.
      have hstatus : Answering unanswered { ssc with ansStatus := status, ansPhrase := phrase } :=
        h.of_eq rfl rfl rfl
      have hrespond := hstatus.respond haddrs hhandles hmem hrecv (fun _ => .none) nofun
        status phrase none
      rw [← sscOperDestroy_setOper (f := fun op => { op with opCallstate := .none })
        fun _ => ⟨rfl, rfl⟩]
      exact (plainInvariant_answering unanswered).sscOperDestroy hrespond op.addr

/-- A call is hung up, or declined while it waits. -/
theorem sscBye (h : Answering unanswered ssc) : Answering unanswered (sscBye ssc) := by
  unfold CliInterface.sscBye
  split
  · exact h
  · rename_i op _
    have hbye : Answering unanswered (ssc.emit (.bye op.opHandle)) := h.emit rfl fun _ => rfl
    refine hbye.setOper op.addr (fun _ => rfl) ?_
    intro op' _ _ hrecv
    cases hrecv

/-- `ssc_r_invite`: without the bit of a request the operation looks unanswered, and it must be
then. -/
theorem sscRInvite (h : Answering unanswered ssc) (haddrs : (ssc.operations.map (·.addr)).Nodup)
    {status nh : Nat} {sip : Option Sip}
    (hwaits : ∀ op, sscOperFindByHandle ssc nh = some op → 300 ≤ status →
      op.opCallstate = opcComplete → waiting unanswered ssc nh = true)
    (hevent : sscRInvite env status (sscOperFindByHandle ssc nh) sip ssc = some ssc') :
    Answering unanswered ssc' := by
  rcases sscRInvite_cases hevent with ⟨hfinal, op, hop, hcase⟩ | ⟨-, hcase⟩
  · have hclear : Answering unanswered (ssc.setOper op.addr fun op =>
        { op with opCallstate := { op.opCallstate with sent := false } }) := by
      obtain ⟨hmem, rfl⟩ := mem_of_findByHandle hop
      refine h.setOper op.addr (fun _ => rfl) ?_
      intro op' hop' haddr hrecv
      obtain rfl := eq_of_addr haddrs hop' hmem haddr
      cases hsent : op'.opCallstate.sent with
      | false =>
        -- There was no bit to clear.
        refine h.waits op' hmem (Eq.trans ?_ hrecv)
        rw [← hsent]
      | true =>
        refine hwaits op' hop hfinal ?_
        cases hstate : op'.opCallstate
        simp only [hstate, Callstate.opcRecv, Callstate.mk.injEq] at hrecv hsent
        simp only [opcComplete, hsent, hrecv]
    rcases hcase with ⟨-, hstore⟩ | ⟨-, rfl⟩
    · exact (plainInvariant_answering unanswered).sscStorePendingAuth hclear hstore
    · exact hclear.of_eq rfl rfl rfl
  · rcases hcase with ⟨-, rfl⟩ | ⟨-, message, payload, -, -, rfl⟩ | ⟨-, -, rfl⟩
    · exact h.of_eq rfl rfl rfl
    · exact h.of_eq rfl rfl rfl
    · exact h

/-- `ssc_i_invite`: the INVITE that has arrived waits. -/
theorem sscIInvite (h : Answering unanswered ssc) (hfresh : alloc.Fresh ssc)
    (haddrs : (ssc.operations.map (·.addr)).Nodup) {nh : Nat} {sip : Option Sip}
    (hwaits : waiting unanswered ssc nh = true)
    (hevent : sscIInvite alloc nh (sscOperFindByHandle ssc nh) sip ssc = some ssc') :
    Answering unanswered ssc' := by
  rcases sscIInvite_cases hevent with rfl | ⟨message, sipFrom, o, ssc₁, hannounce, hssc₁⟩
  · exact h
  · have hmarked : Answering unanswered ssc₁ := by
      rcases hssc₁ with ⟨o₀, hop, -, rfl⟩ | ⟨hnone, -, rfl⟩
      · -- The operation of the handle is marked, and its caller waits.
        obtain ⟨hmem, rfl⟩ := mem_of_findByHandle hop
        refine h.setOper o₀.addr (fun _ => rfl) ?_
        intro op hop haddr _
        obtain rfl := eq_of_addr haddrs hop hmem haddr
        exact hwaits
      · -- An operation is made on the handle of the caller, who waits.
        have hcreate :=
          (plainInvariant_answering unanswered).sscOperCreateWithHandle h hfresh .invite hnone
        refine hcreate.setOper alloc.addr (fun _ => rfl) ?_
        intro op hop haddr _
        have hbind : waiting unanswered (sscOperCreateWithHandle alloc .invite nh ssc)
            = waiting unanswered ssc := waiting_emit _ _ _
        rw [hbind]
        rcases List.mem_cons.mp hop with rfl | hop
        · exact hwaits
        · exact absurd haddr (hfresh.1 op hop)
    rcases announceInvite_cases hannounce with rfl | ⟨hauto, -⟩ | ⟨-, reply, rfl⟩
    · exact hmarked
    · -- The client does not answer by itself.
      rw [hmarked.autoanswer] at hauto
      cases hauto
    · exact hmarked.of_eq rfl rfl rfl

/-- A call that has ended waits no more. -/
theorem sscIState (h : Answering unanswered ssc) (tags : StateTags) (op : Option SscOper) :
    Answering unanswered (sscIState tags op ssc) := by
  obtain ⟨media, hstate | ⟨o, -, ⟨-, replies, hready⟩ | ⟨-, hterminated⟩⟩⟩ :=
    sscIState_cases tags op ssc
  · rw [hstate]
    exact h.of_eq rfl rfl rfl
  · rw [hready]
    have hactive : Answering unanswered (ssc.setOper o.addr fun op =>
        { op with opCallstate := .opcActive, opPrevState := some .ready }) :=
      h.setOper o.addr (fun _ => rfl) fun _ _ _ hrecv => by cases hrecv
    exact hactive.of_eq rfl rfl rfl
  · rw [hterminated]
    have hmedia : Answering unanswered { ssc with media := media } := h.of_eq rfl rfl rfl
    exact ((plainInvariant_answering unanswered).sscOperDestroy hmedia o.addr).of_eq rfl rfl rfl

/-- Every command keeps the invariant. -/
theorem sscCall (h : Answering unanswered ssc) (hfresh : alloc.Fresh ssc)
    (haddrs : (ssc.operations.map (·.addr)).Nodup)
    (hhandles : (ssc.operations.map (·.opHandle)).Nodup) {prompt : CString} {c : SscCall}
    (hcall : sscCall env alloc prompt ssc c = some ssc') : Answering unanswered ssc' := by
  cases c with
  | answer sdp status phrase => cases hcall; exact h.sscAnswer haddrs hhandles _ _ _
  | bye => cases hcall; exact h.sscBye
  | invite destination password sdp headers => exact h.sscInvite hfresh hcall
  | _ => exact (plainInvariant_answering unanswered).sscCall h hfresh rfl hcall

/-- Every event keeps the invariant, once the INVITE that it brings waits. -/
theorem privCallback (h : Answering unanswered ssc) (hfresh : alloc.Fresh ssc)
    (haddrs : (ssc.operations.map (·.addr)).Nodup) {nh : Nat} {e : NuaEvent}
    (hcleared : ∀ status sip op, e = .rInvite status sip → 300 ≤ status →
      sscOperFindByHandle ssc nh = some op → op.opCallstate = opcComplete →
        waiting unanswered ssc nh = true)
    (harrived : ∀ sip, e = .iInvite (some sip) → waiting unanswered ssc nh = true)
    (hevent : privCallback env alloc nh ssc e = some ssc') : Answering unanswered ssc' := by
  cases e with
  | rInvite status sip =>
    -- A final answer to an INVITE of ours may turn `opc_complete` back into `opc_recv`.
    refine h.sscRInvite haddrs ?_ hevent
    intro op hop hfinal
    exact hcleared status sip op rfl hfinal hop
  | iInvite sip =>
    cases sip with
    | none => cases hevent; exact h
    | some sip =>
      have hinvite : CliInterface.sscIInvite alloc nh (sscOperFindByHandle ssc nh) (some sip) ssc
          = some ssc' := hevent
      -- The new call waits from here on.
      exact h.sscIInvite hfresh haddrs (harrived sip rfl) hinvite
  | iState tags => cases hevent; exact h.sscIState _ _
  -- Every other event marks no call as received.
  | _ => exact (plainInvariant_answering unanswered).privCallback h hfresh rfl hevent

end Answering

/-! ### Turns and runs -/

/-- The thread, and the handles with an INVITE to answer. -/
def answerMachine (env : SscEnv) (jsonObject : CString → Option NSDictionary)
    (s : SofiaThread × (Nat → Bool)) (input : Alloc × SofiaInput) :
    Option (SofiaThread × (Nat → Bool)) :=
  (sofiaStep env jsonObject s.1 input).map fun s' =>
    (s', waiting (unansweredAt s.2 input.2) s'.ssc)

/-- The final responses of the turn are to INVITEs that wait for one. -/
def AnswersOnce (s : SofiaThread × (Nat → Bool)) (input : Alloc × SofiaInput)
    (s' : SofiaThread × (Nat → Bool)) : Prop :=
  AnswersUnanswered (unansweredAt s.2 input.2) s'.1.ssc.nua

/-- The condition on a turn: a failed INVITE of our own does not find an operation that was
answered, and whose call state is nothing but that. -/
def KeepsAnswered (s : SofiaThread × (Nat → Bool)) (input : Alloc × SofiaInput) : Prop :=
  match input.2 with
  | .event nh (.rInvite status _) =>
    300 ≤ status → ∀ op ∈ sscOperFindByHandle s.1.ssc nh,
      op.opCallstate = opcComplete → s.2 nh = true
  | _ => True

instance (s : SofiaThread × (Nat → Bool)) (input : Alloc × SofiaInput)
    (s' : SofiaThread × (Nat → Bool)) : Decidable (AnswersOnce s input s') :=
  inferInstanceAs (Decidable (AnswersUnanswered _ _))

instance (s : SofiaThread × (Nat → Bool)) (input : Alloc × SofiaInput) :
    Decidable (KeepsAnswered s input) := by
  unfold KeepsAnswered
  split <;> infer_instance

section Steps
variable {env : SscEnv} {jsonObject : CString → Option NSDictionary} {alloc : Alloc}
  {s s' : SofiaThread} {unanswered : Nat → Bool}

/-- Every turn keeps the invariant, once the INVITE that it is about waits. -/
theorem answering_sofiaStep (hdistinct : Distinct s.ssc) (hauto : s.ssc.autoanswer = false)
    (hwaits : ∀ op ∈ s.ssc.operations, op.opCallstate = .opcRecv → unanswered op.opHandle = true)
    {input : SofiaInput} (hkeeps : KeepsAnswered (s, unanswered) (alloc, input))
    (hstep : sofiaStep env jsonObject s (alloc, input) = some s') :
    Answering (unansweredAt unanswered input) s'.ssc := by
  have haddrs := hdistinct.addrs
  have hhandles := hdistinct.handles
  -- The bookkeeping of this very step keeps those that wait.
  have hstart : Answering (unansweredAt unanswered input) (turnStart s.ssc) := by
    refine ⟨hauto, trivial, ?_⟩
    intro op hop hrecv
    have hold : unanswered op.opHandle = true := hwaits op hop hrecv
    show unansweredAt unanswered input op.opHandle = true
    unfold unansweredAt
    split
    · rename_i nh _
      by_cases hnh : op.opHandle = nh
      · rw [hnh, Function.update_self]
      · rw [Function.update_of_ne hnh, hold]
    · exact hold
  cases input with
  | line line prompt =>
    obtain ⟨hfresh, ⟨-, hssc⟩ | ⟨c, -, hcall⟩⟩ := sofiaStep_line hstep
    · rw [hssc]
      exact hstart
    · exact hstart.sscCall hfresh haddrs hhandles hcall
  | event nh e =>
    obtain ⟨hfresh, hevent⟩ := sofiaStep_event hstep
    refine hstart.privCallback hfresh haddrs ?_ ?_ hevent
    · -- The condition speaks of the operation that the answer falls on.
      rintro status sip op rfl hfinal hop hcomplete
      exact hkeeps hfinal op hop hcomplete
    · -- This INVITE is not answered yet.
      rintro sip rfl
      exact Function.update_self nh true unanswered

/-- In every run of a new client in which no failed INVITE of our own finds an operation that was
answered and has no other call state, each INVITE that comes in is answered once at most, and only
while it waits. -/
theorem answersUnanswered_of_keepsAnswered (env : SscEnv)
    (jsonObject : CString → Option NSDictionary) (alloc : Alloc) (cli : Cli)
    (inputs : List (Alloc × SofiaInput))
    (h : AllSteps (answerMachine env jsonObject) (fun s input _ => KeepsAnswered s input)
      (.create env alloc cli, fun _ => false) inputs) :
    AllSteps (answerMachine env jsonObject) AnswersOnce
      (.create env alloc cli, fun _ => false) inputs := by
  -- The invariant is that whoever is in `opc_recv` has not been answered.
  refine AllSteps.of_inv
    (fun s => Distinct s.1.ssc ∧ s.1.ssc.autoanswer = false ∧
      ∀ op ∈ s.1.ssc.operations, op.opCallstate = .opcRecv → s.2 op.opHandle = true) ?_ ?_ h
  · rintro ⟨s, unanswered⟩ ⟨alloc, input⟩ s' ⟨hdistinct, hauto, hwaits⟩ hstep hkeeps
    obtain ⟨s', hsofia, rfl⟩ := Option.map_eq_some_iff.mp hstep
    have hanswering := answering_sofiaStep hdistinct hauto hwaits hkeeps hsofia
    exact ⟨⟨distinct_sofiaStep hdistinct hsofia, hanswering.autoanswer, hanswering.waits⟩,
      hanswering.answered⟩
  · -- The registration at start answers no call.
    have hempty : Answering (fun _ => false) { address := cli.conf.aor } :=
      ⟨rfl, trivial, fun op hop => by cases hop⟩
    have hcreated : Answering (fun _ => false) (SofiaThread.create env alloc cli).ssc :=
      (plainInvariant_answering _).create cli hempty
    refine ⟨distinct_create cli, hcreated.autoanswer, ?_⟩
    intro op hop hrecv
    have hwaits : waiting _ _ op.opHandle = true := hcreated.waits op hop hrecv
    rwa [waiting, foldl_unansweredAfter_false] at hwaits

end Steps

/-- A call with a password, and an INVITE of the peer on its handle before the call is answered:
the operation is `opc_complete`. Then the call is challenged, which leaves `opc_recv`. -/
def crossingInvites : List (Alloc × SofiaInput) :=
  [(⟨1, 1⟩, .line
      "i \x7b\"destination\":\"sip:b@h\",\"password\":\"pw\",\"sdp\":\"v=1\"\x7d".toList),
    (⟨2, 2⟩, .event 1 (.iInvite (some
      { sipFrom := some { url := "sip:b@h".toList, urlUser := none }
        hasTo := true
        payload := some "v=2".toList }))),
    (⟨3, 3⟩, .event 1 (.rInvite 401 (some
      { wwwAuthenticate := some { scheme := "Digest".toList, realm := some "r".toList } }))),
    (⟨4, 4⟩, .line "a \x7b\"sdp\":\"v=3\"\x7d".toList)]

/-- The peer's INVITE is answered once. -/
theorem answersUnanswered_crossingInvites :
    AllSteps (answerMachine plainEnv Json.read) AnswersOnce
      (.create plainEnv ⟨0, 0⟩ {}, fun _ => false) crossingInvites :=
  answersUnanswered_of_keepsAnswered plainEnv Json.read ⟨0, 0⟩ {} crossingInvites (by decide)

/-- Our own INVITE is refused after that, and the application says `a` again. -/
def refusedAfterAnswer : List (Alloc × SofiaInput) :=
  crossingInvites ++
    [(⟨5, 5⟩, .event 1 (.rInvite 486 none)),
      (⟨6, 6⟩, .line "a \x7b\"sdp\":\"v=3\"\x7d".toList)]

/-- The peer's INVITE is answered a second time. -/
theorem invite_answered_twice :
    (∃ s, run (answerMachine plainEnv Json.read) (.create plainEnv ⟨0, 0⟩ {}, fun _ => false)
        refusedAfterAnswer = some s ∧
      s.1.ssc.nua = [.respond 1 200 "OK".toList (some "v=3".toList)]) ∧
    ¬ AllSteps (answerMachine plainEnv Json.read) AnswersOnce
      (.create plainEnv ⟨0, 0⟩ {}, fun _ => false) refusedAfterAnswer :=
  ⟨⟨_, rfl, by decide⟩, by decide⟩

end RestCommSdk.Proofs
