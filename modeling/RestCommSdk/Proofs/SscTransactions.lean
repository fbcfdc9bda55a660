import RestCommSdk.Lib.Run
import RestCommSdk.Proofs.SscInvariants
import RestCommSdk.Proofs.SscReplies

/-!
# `RestCommSdk.Proofs.SscTransactions`: call states against transactions

The stack runs the transactions; `Transactions` is what there is to know of those of one
handle: an INVITE that waits for its final response, a BYE that waits for a response, and how
they came about. `applyInput` and `applyCall` say how the events of the stack and the calls
of the SIP client move them. After `nua_authenticate` a challenged INVITE is sent again.

`Kept` is the invariant of the SIP client: no two operations share an address or a handle,
and an operation whose INVITE waits has its call state set, unless the INVITE was sent again
or a BYE followed it. `kept_sscStep` is the step lemma.
-/

set_option autoImplicit false

namespace RestCommSdk.Proofs

open RestCommSdk.CliInterface

/-- The transactions of a handle. -/
structure Transactions where
  /-- An INVITE was sent and has no final response. -/
  inviteOut : Bool := false
  /-- It was sent again after a challenge. -/
  resent : Bool := false
  /-- The last INVITE was challenged, and not sent again. -/
  challenged : Bool := false
  /-- A BYE was sent after the last INVITE. -/
  byed : Bool := false
  /-- A BYE was sent and has no final response. -/
  byeOut : Bool := false
  deriving DecidableEq, Repr

/-- A transaction waits for its final response. -/
def Transactions.Unfinished (t : Transactions) : Prop := t.inviteOut ∨ t.byeOut

instance (t : Transactions) : Decidable t.Unfinished := inferInstanceAs (Decidable (_ ∨ _))

/-- What a call of the stack does to the transactions of `handle`. -/
def applyCall (handle : Nat) (t : Transactions) : NuaCall → Transactions
  | .invite nh _ _ =>
    if nh = handle then
      { t with inviteOut := true, resent := false, challenged := false, byed := false }
    else t
  | .authenticate nh _ =>
    if nh = handle ∧ t.challenged then
      { t with inviteOut := true, resent := true, challenged := false }
    else t
  | .bye nh => if nh = handle then { t with byed := true, byeOut := true } else t
  | .handle nh _ => if nh = handle then {} else t
  | .handleBind nh => if nh = handle then {} else t
  | .handleDestroy nh => if nh = handle then {} else t
  | _ => t

/-- What an event of the stack says about the transactions of `handle`. -/
def applyInput (handle : Nat) (t : Transactions) : SscInput → Transactions
  | .event nh (.rInvite status _) =>
    if nh = handle ∧ 200 ≤ status then
      { t with inviteOut := false, resent := false, challenged := isChallenge status }
    else t
  | .event nh (.rBye status _) =>
    if nh = handle ∧ 200 ≤ status then { t with byeOut := false } else t
  | _ => t

/-- The transactions after the calls that the step has made so far. -/
def current (t : Nat → Transactions) (ssc : Ssc) (handle : Nat) : Transactions :=
  ssc.nua.foldl (applyCall handle) (t handle)

/-- An INVITE that waits for the first time, with no BYE after it, has left its mark in the
call state. -/
def InviteMarked (t : Transactions) (op : SscOper) : Prop :=
  t.inviteOut → t.resent = false → t.byed = false →
    op.opCallstate.sent ∨ op.opCallstate.active

/-- The invariant of the SIP client. `t` are the transactions when the calls that the step has
made so far were not made yet. -/
structure Kept (t : Nat → Transactions) (ssc : Ssc) : Prop where
  addrs : (ssc.operations.map (·.addr)).Nodup
  handles : (ssc.operations.map (·.opHandle)).Nodup
  persistent : ∀ op ∈ ssc.operations, PersistentByMethod op
  marked : ∀ op ∈ ssc.operations, InviteMarked (current t ssc op.opHandle) op

/-! ### What the invariant allows -/

/-- Any call but an INVITE keeps the mark of an operation. -/
theorem InviteMarked.applyCall {t : Transactions} {op : SscOper} (handle : Nat) {c : NuaCall}
    (hc : ∀ nh headers sdp, c ≠ .invite nh headers sdp) (h : InviteMarked t op) :
    InviteMarked (applyCall handle t c) op := by
  cases c with
  | invite nh headers sdp => exact absurd rfl (hc nh headers sdp)
  | authenticate nh auth | bye nh | handle nh address | handleBind nh | handleDestroy nh =>
    simp only [Proofs.applyCall]
    split_ifs
    · simp [InviteMarked]
    · exact h
  | _ => exact h

namespace Kept

variable {t : Nat → Transactions} {ssc : Ssc}

/-- Only the operations and the requests matter. -/
theorem of_eq {ssc' : Ssc} (h : Kept t ssc) (hops : ssc'.operations = ssc.operations)
    (hnua : ssc'.nua = ssc.nua) : Kept t ssc' where
  addrs := hops ▸ h.addrs
  handles := hops ▸ h.handles
  persistent := hops ▸ h.persistent
  marked := by
    simp only [current, hops, hnua]
    exact h.marked

/-- A call of the stack other than `nua_invite`. -/
theorem emit (h : Kept t ssc) {c : NuaCall} (hc : ∀ nh headers sdp, c ≠ .invite nh headers sdp) :
    Kept t (ssc.emit c) where
  addrs := h.addrs
  handles := h.handles
  persistent := h.persistent
  marked op hop := by
    have happly : current t (ssc.emit c) op.opHandle
        = Proofs.applyCall op.opHandle (current t ssc op.opHandle) c := by
      simp [current, Ssc.emit]
    rw [happly]
    exact (h.marked op hop).applyCall op.opHandle hc

/-- A write to the operation at `addr` that keeps its names. -/
theorem setOper (h : Kept t ssc) (addr : Nat) {f : SscOper → SscOper}
    (hnames : ∀ op, (f op).addr = op.addr ∧ (f op).opHandle = op.opHandle)
    (hf : ∀ op ∈ ssc.operations, op.addr = addr →
      PersistentByMethod (f op) ∧ InviteMarked (current t ssc op.opHandle) (f op)) :
    Kept t (ssc.setOper addr f) := by
  -- Whatever name the write keeps stays the same for the whole list.
  have hmap : ∀ (g : SscOper → Nat), (∀ op, g (f op) = g op) →
      (ssc.setOper addr f).operations.map g = ssc.operations.map g := fun g hg => by
    simp only [Ssc.setOper, List.map_map]
    refine List.map_congr_left fun op _ => ?_
    by_cases haddr : op.addr = addr <;> simp [haddr, hg]
  have hmem : ∀ op' ∈ (ssc.setOper addr f).operations, ∃ op ∈ ssc.operations,
      (op.addr = addr ∧ op' = f op) ∨ op' = op := by
    intro op' hop'
    obtain ⟨op, hop, rfl⟩ := List.mem_map.mp hop'
    refine ⟨op, hop, ?_⟩
    by_cases haddr : op.addr = addr <;> simp [haddr]
  refine ⟨?_, ?_, fun op' hop' => ?_, fun op' hop' => ?_⟩
  · rw [hmap (·.addr) fun op => (hnames op).1]
    exact h.addrs
  · rw [hmap (·.opHandle) fun op => (hnames op).2]
    exact h.handles
  · obtain ⟨op, hop, ⟨haddr, rfl⟩ | rfl⟩ := hmem op' hop'
    · exact (hf op hop haddr).1
    · exact h.persistent _ hop
  · obtain ⟨op, hop, ⟨haddr, rfl⟩ | rfl⟩ := hmem op' hop'
    · rw [(hnames op).2]
      exact (hf op hop haddr).2
    · exact h.marked _ hop

/-- A write that does not take call state bits away. -/
theorem setOper_of_mark (h : Kept t ssc) (addr : Nat) {f : SscOper → SscOper}
    (hnames : ∀ op, (f op).addr = op.addr ∧ (f op).opHandle = op.opHandle)
    (hpersistent : ∀ op, PersistentByMethod op → PersistentByMethod (f op))
    (hmark : ∀ op, op.opCallstate.sent ∨ op.opCallstate.active →
      (f op).opCallstate.sent ∨ (f op).opCallstate.active) : Kept t (ssc.setOper addr f) :=
  h.setOper addr hnames fun op hop _ =>
    ⟨hpersistent op (h.persistent op hop), fun hout hresent hbyed =>
      hmark op (h.marked op hop hout hresent hbyed)⟩

/-- A write to an operation whose INVITE does not wait, as far as the mark tells. -/
theorem setOper_of_unmarked (h : Kept t ssc) {op : SscOper} (hop : op ∈ ssc.operations)
    {f : SscOper → SscOper}
    (hnames : ∀ op, (f op).addr = op.addr ∧ (f op).opHandle = op.opHandle)
    (hpersistent : ∀ op, PersistentByMethod op → PersistentByMethod (f op))
    (hmark : ¬ (op.opCallstate.sent ∨ op.opCallstate.active)) :
    Kept t (ssc.setOper op.addr f) := by
  refine h.setOper op.addr hnames fun op' hop' haddr => ?_
  obtain rfl := eq_of_addr h.addrs hop' hop haddr
  exact ⟨hpersistent _ (h.persistent _ hop), fun hout hresent hbyed =>
    absurd (h.marked _ hop hout hresent hbyed) hmark⟩

/-- Some operations go. -/
theorem filter (h : Kept t ssc) (p : SscOper → Bool) :
    Kept t { ssc with operations := ssc.operations.filter p } where
  addrs := h.addrs.sublist (List.filter_sublist.map _)
  handles := h.handles.sublist (List.filter_sublist.map _)
  persistent op hop := h.persistent op (List.mem_of_mem_filter hop)
  marked op hop := h.marked op (List.mem_of_mem_filter hop)

/-- Any change of the media. -/
theorem media (h : Kept t ssc) (media : SscMediaSimple) :
    Kept t { ssc with media := media } := h.of_eq rfl rfl

/-- The status for the answer is written. -/
theorem answer (h : Kept t ssc) (status : Nat) (phrase : CString) :
    Kept t { ssc with ansStatus := status, ansPhrase := phrase } := h.of_eq rfl rfl

/-- The media are deactivated. -/
theorem deactivateMedia (h : Kept t ssc) : Kept t ssc.deactivateMedia := h.of_eq rfl rfl

/-- A new operation: the call that makes its handle starts with no transactions. -/
theorem cons (h : Kept t ssc) (op : SscOper) {c : NuaCall}
    (haddr : ∀ op' ∈ ssc.operations, op'.addr ≠ op.addr)
    (hhandle : ∀ op' ∈ ssc.operations, op'.opHandle ≠ op.opHandle)
    (hpersistent : PersistentByMethod op)
    (hc : (∃ address, c = .handle op.opHandle address) ∨ c = .handleBind op.opHandle) :
    Kept t ({ ssc with operations := op :: ssc.operations }.emit c) := by
  have hother : ∀ nh headers sdp, c ≠ .invite nh headers sdp := by
    intro nh headers sdp heq
    rcases hc with ⟨address, rfl⟩ | rfl <;> cases heq
  -- A handle that is made anew forgets the transactions of one with the same number.
  have hfresh : Proofs.applyCall op.opHandle (current t ssc op.opHandle) c = {} := by
    rcases hc with ⟨address, rfl⟩ | rfl <;> simp [Proofs.applyCall]
  have hemit := h.emit hother
  refine ⟨?_, ?_, ?_, ?_⟩
  · simp only [Ssc.emit, List.map_cons, List.nodup_cons, List.mem_map]
    refine ⟨?_, h.addrs⟩
    rintro ⟨op', hop', he⟩
    exact haddr op' hop' he
  · simp only [Ssc.emit, List.map_cons, List.nodup_cons, List.mem_map]
    refine ⟨?_, h.handles⟩
    rintro ⟨op', hop', he⟩
    exact hhandle op' hop' he
  · rintro op' (_ | ⟨_, hop'⟩)
    · exact hpersistent
    · exact h.persistent op' hop'
  · rintro op' (_ | ⟨_, hop'⟩)
    · intro hout
      have hcurrent : current t ({ ssc with operations := op :: ssc.operations }.emit c) op.opHandle
          = {} := by
        rw [← hfresh]
        simp [current, Ssc.emit]
      simp [hcurrent] at hout
    · exact hemit.marked op' hop'

end Kept

/-- Most handlers keep the invariant as they keep any such property. -/
theorem plainInvariant_kept (t : Nat → Transactions) : PlainInvariant (Kept t) where
  of_eq h hops hnua _ := h.of_eq hops hnua
  emit h hc := h.emit fun nh headers sdp he => by simp [he, isPlain] at hc
  setOper addr _ h hf :=
    h.setOper_of_mark addr (fun op => ⟨hf.addr op, hf.opHandle op⟩) hf.persistent
      fun op hmark => by rwa [hf.opCallstate]
  filter p h := h.filter p
  cons h haddr hhandle _ hpersistent hc := h.cons _ haddr hhandle hpersistent hc

/-! ### Calls -/

namespace Kept

variable {env : SscEnv} {alloc : Alloc} {t : Nat → Transactions} {ssc : Ssc}

/-- An INVITE on an operation that is marked as sent. -/
theorem emitInvite (h : Kept t ssc) (nh : Nat) (headers : Option CString) (sdp : CString)
    (hsent : ∀ op ∈ ssc.operations, op.opHandle = nh → op.opCallstate.sent) :
    Kept t (ssc.emit (.invite nh headers sdp)) where
  addrs := h.addrs
  handles := h.handles
  persistent := h.persistent
  marked op hop := by
    by_cases hnh : op.opHandle = nh
    · exact fun _ _ _ => .inl (hsent op hop hnh)
    · have happly : current t (ssc.emit (.invite nh headers sdp)) op.opHandle
          = current t ssc op.opHandle := by
        simp [current, Ssc.emit, Proofs.applyCall, Ne.symm hnh]
      rw [happly]
      exact h.marked op hop

/-- `priv_media_state_cb`, for an operation whose INVITE is about to be sent, or which is not
marked. -/
theorem privMediaStateCb (h : Kept t ssc) (addr : Nat)
    (hop : ∀ op, ssc.oper? addr = some op →
      op.opCallstate.pending ∨ ¬ (op.opCallstate.sent ∨ op.opCallstate.active)) :
    Kept t (privMediaStateCb addr ssc) := by
  rcases privMediaStateCb_cases addr ssc with heq | ⟨media, heq⟩ | ⟨op, hfind, hcase⟩
  · rw [heq]
    exact h
  · rw [heq]
    exact (plainInvariant_kept t).sscOperDestroy (h.media media) addr
  · obtain ⟨hmem, rfl⟩ := mem_of_oper? hfind
    rcases hcase with ⟨-, -, heq⟩ | ⟨hpending, -, f, status, phrase, payload, -, -, heq⟩
    · rw [heq]
      have hmark : Kept t (ssc.setOper op.addr fun op =>
          { op with opCallstate := { sent := true } }) :=
        h.setOper_of_mark op.addr (fun _ => ⟨rfl, rfl⟩) (fun _ => id) fun _ _ => .inl rfl
      refine hmark.emitInvite op.opHandle op.customHeaders ssc.media.localSdp ?_
      intro op' hop' hnh
      obtain ⟨op₀, hop₀, rfl⟩ := List.mem_map.mp hop'
      by_cases haddr : op₀.addr = op.addr
      · simp [haddr]
      · rw [if_neg haddr] at hnh
        exact absurd (congrArg _ (List.inj_on_of_nodup_map h.handles hop₀ hmem hnh)) haddr
    · rw [heq]
      -- No INVITE is about to be sent, so the operation has no mark to lose.
      have hunmarked : ¬ (op.opCallstate.sent ∨ op.opCallstate.active) := by
        refine (hop op hfind).resolve_left ?_
        rw [hpending]
        exact Bool.false_ne_true
      have hset : Kept t (ssc.setOper op.addr fun op => { op with opCallstate := f op }) :=
        h.setOper_of_unmarked hmem (fun _ => ⟨rfl, rfl⟩) (fun _ => id) hunmarked
      exact hset.emit nofun

/-- A call that is made is invited once. -/
theorem sscInvite (h : Kept t ssc) (hfresh : alloc.Fresh ssc)
    {destination password sdp headers : Option CString} {ssc' : Ssc}
    (hcall : sscInvite env alloc destination password sdp headers ssc = some ssc') :
    Kept t ssc' := by
  have hcreate : Kept t
      (CliInterface.sscOperCreateWithPassword env alloc .invite destination password ssc).1 :=
    (plainInvariant_kept t).sscOperCreateWithPassword h hfresh .invite destination password
  rcases sscInvite_cases hcall with ⟨addr, payload, -, rfl⟩ | rfl
  · have hinviting := hcreate.setOper_of_mark addr (f := awaitingMedia headers)
      (fun _ => ⟨rfl, rfl⟩) (fun _ => id) fun _ => id
    refine Kept.privMediaStateCb (hinviting.media _) addr ?_
    intro op hop
    exact .inl (pending_of_awaitingMedia hop)
  · exact hcreate.of_eq rfl rfl

/-- The call that is answered had not been. -/
theorem sscAnswer (h : Kept t ssc) (sdp : Option CString) (status : Nat) (phrase : CString) :
    Kept t (sscAnswer sdp status phrase ssc) := by
  unfold CliInterface.sscAnswer
  split
  · exact h
  · rename_i op hfind
    have hmem : op ∈ ssc.operations := List.mem_of_find?_eq_some hfind
    have hrecv : op.opCallstate = .opcRecv := by simpa using List.find?_some hfind
    dsimp only
    split
    · refine Kept.privMediaStateCb ((h.answer status phrase).media _) op.addr
        fun op' hop' => .inr ?_
      obtain rfl : op = op' :=
        Option.some.inj ((oper?_of_mem h.addrs hmem).symm.trans hop')
      simp [hrecv, Callstate.opcRecv]
    · have hrespond := (h.answer status phrase).emit
        (c := .respond op.opHandle status phrase none) nofun
      exact (plainInvariant_kept t).sscOperDestroy hrespond op.addr

/-- A call is hung up. -/
theorem sscBye (h : Kept t ssc) : Kept t (sscBye ssc) := by
  unfold CliInterface.sscBye
  split
  · exact h
  · rename_i op hfind
    have hmem : op ∈ ssc.operations := List.mem_of_find?_eq_some hfind
    have hbye := h.emit (c := .bye op.opHandle) nofun
    refine hbye.setOper op.addr (fun _ => ⟨rfl, rfl⟩) fun op' hop' haddr => ?_
    obtain rfl := eq_of_addr h.addrs hop' hmem haddr
    have hpersistent : PersistentByMethod op' := h.persistent op' hmem
    refine ⟨hpersistent, fun _ _ hbyed => ?_⟩
    -- The call state is cleared, but a BYE has been sent on the handle.
    simp [current, Ssc.emit, applyCall] at hbyed

end Kept

/-! ### Steps -/

section Steps
variable {env : SscEnv} {alloc : Alloc} {t : Nat → Transactions} {ssc : Ssc}

/-- Every command keeps the invariant. -/
theorem kept_sscCall (h : Kept t ssc) (hfresh : alloc.Fresh ssc) {prompt : CString} {c : SscCall}
    {ssc' : Ssc} (hcall : sscCall env alloc prompt ssc c = some ssc') : Kept t ssc' := by
  cases c with
  | answer sdp status phrase => cases hcall; exact h.sscAnswer _ _ _
  | bye => cases hcall; exact h.sscBye
  | invite destination password sdp headers => exact h.sscInvite hfresh hcall
  | _ => exact (plainInvariant_kept t).sscCall h hfresh rfl hcall

/-! #### Events -/

/-- `ssc_r_invite`: a final response takes the mark away, but then nothing waits. -/
theorem Kept.sscRInvite (h : Kept t ssc) {status : Nat} {nh : Nat} {sip : Option Sip}
    {ssc' : Ssc}
    (hdone : 300 ≤ status → (current t ssc nh).inviteOut = false)
    (hevent : sscRInvite env status (sscOperFindByHandle ssc nh) sip ssc = some ssc') :
    Kept t ssc' := by
  rcases sscRInvite_cases hevent with ⟨hfinal, op, hop, hcase⟩ | ⟨-, hcase⟩
  · obtain ⟨hmem, hnh⟩ := mem_of_findByHandle hop
    have hclear : Kept t (ssc.setOper op.addr fun op =>
        { op with opCallstate := { op.opCallstate with sent := false } }) := by
      refine h.setOper op.addr (fun _ => ⟨rfl, rfl⟩) fun op' hop' haddr => ?_
      obtain rfl := eq_of_addr h.addrs hop' hmem haddr
      have hpersistent : PersistentByMethod op' := h.persistent op' hmem
      refine ⟨hpersistent, fun hout => ?_⟩
      -- The final response has ended the INVITE of this handle.
      rw [hnh, hdone hfinal] at hout
      cases hout
    rcases hcase with ⟨-, hstore⟩ | ⟨-, rfl⟩
    · exact (plainInvariant_kept t).sscStorePendingAuth hclear hstore
    · exact hclear.of_eq rfl rfl
  · rcases hcase with ⟨-, rfl⟩ | ⟨-, message, payload, -, -, rfl⟩ | ⟨-, -, rfl⟩
    · exact h.of_eq rfl rfl
    · exact h.of_eq rfl rfl
    · exact h

/-- A call that comes in is answered once, if at all. -/
theorem Kept.sscIInvite (h : Kept t ssc) (hfresh : alloc.Fresh ssc) {nh : Nat}
    {sip : Option Sip} {ssc' : Ssc}
    (hevent : sscIInvite alloc nh (sscOperFindByHandle ssc nh) sip ssc = some ssc') :
    Kept t ssc' := by
  rcases sscIInvite_cases hevent with rfl | ⟨message, sipFrom, o, ssc₁, hannounce, hssc₁⟩
  · exact h
  · have hmarked : Kept t ssc₁ := by
      rcases hssc₁ with ⟨o₀, -, -, rfl⟩ | ⟨hnone, -, rfl⟩
      · exact h.setOper_of_mark o₀.addr (fun _ => ⟨rfl, rfl⟩) (fun _ => id) fun _ => id
      · have hcreate := (plainInvariant_kept t).sscOperCreateWithHandle h hfresh .invite hnone
        exact hcreate.setOper_of_mark alloc.addr (fun _ => ⟨rfl, rfl⟩) (fun _ => id) fun _ => id
    rcases announceInvite_cases hannounce with rfl | ⟨-, rfl⟩ | ⟨-, reply, rfl⟩
    · exact hmarked
    · exact hmarked.sscAnswer _ _ _
    · exact hmarked.of_eq rfl rfl

/-- The state of a call. -/
theorem Kept.sscIState (h : Kept t ssc) (tags : StateTags) (op : Option SscOper) :
    Kept t (sscIState tags op ssc) := by
  obtain ⟨media, hstate | ⟨o, -, ⟨-, replies, hready⟩ | ⟨-, hterminated⟩⟩⟩ :=
    sscIState_cases tags op ssc
  · rw [hstate]
    exact h.media media
  · rw [hready]
    have hactive : Kept t (ssc.setOper o.addr fun op =>
        { op with opCallstate := .opcActive, opPrevState := some .ready }) :=
      h.setOper_of_mark o.addr (fun _ => ⟨rfl, rfl⟩) (fun _ => id) fun _ _ => .inr rfl
    exact hactive.of_eq rfl rfl
  · rw [hterminated]
    exact ((plainInvariant_kept t).sscOperDestroy (h.media media) o.addr).deactivateMedia

/-- Every event keeps the invariant, once the transactions know of it. -/
theorem kept_privCallback (h : Kept t ssc) (hfresh : alloc.Fresh ssc) {nh : Nat} {e : NuaEvent}
    {ssc' : Ssc}
    (hdone : ∀ status sip, e = .rInvite status sip → 300 ≤ status →
      (current t ssc nh).inviteOut = false)
    (hevent : privCallback env alloc nh ssc e = some ssc') : Kept t ssc' := by
  cases e with
  | rInvite status sip => exact h.sscRInvite (hdone status sip rfl) hevent
  | iInvite sip => exact h.sscIInvite hfresh hevent
  | iState tags => cases hevent; exact h.sscIState _ _
  | _ => exact (plainInvariant_kept t).privCallback h hfresh rfl hevent

/-! #### Runs -/

/-- The transactions after a step. -/
def transactionsAfter (t : Nat → Transactions) (input : SscInput) (ssc' : Ssc) :
    Nat → Transactions :=
  current (fun handle => applyInput handle (t handle) input) ssc'

/-- The invariant between steps. -/
def Settled (t : Nat → Transactions) (ssc : Ssc) : Prop := Kept t { ssc with nua := [] }

/-- An event only ends transactions. -/
theorem InviteMarked.applyInput {t : Transactions} {op : SscOper} (handle : Nat)
    (input : SscInput) (h : InviteMarked t op) : InviteMarked (applyInput handle t input) op := by
  unfold Proofs.applyInput
  split
  · split_ifs
    · simp [InviteMarked]
    · exact h
  · split_ifs
    · exact h
    · exact h
  · exact h

/-- Every step keeps the invariant. -/
theorem settled_sscStep (h : Settled t ssc) {input : SscInput} {ssc' : Ssc}
    (hstep : sscStep env alloc ssc input = some ssc') :
    Settled (transactionsAfter t input ssc') ssc' := by
  have hstart : Kept (fun handle => applyInput handle (t handle) input)
      { ssc with nua := [], sent := [] } :=
    ⟨h.addrs, h.handles, h.persistent, fun op hop =>
      (h.marked op hop).applyInput op.opHandle input⟩
  have hkept : Kept (fun handle => applyInput handle (t handle) input) ssc' := by
    unfold sscStep at hstep
    dsimp only at hstep
    split at hstep
    · rename_i hfresh
      cases input with
      | call c prompt => exact kept_sscCall hstart hfresh hstep
      | event nh e =>
        -- The event counts before its handler runs.
        refine kept_privCallback hstart hfresh (fun status sip he hfinal => ?_) hstep
        have hfinal : 200 ≤ status := by omega
        simp [current, he, applyInput, hfinal]
    · cases hstep
  exact ⟨hkept.addrs, hkept.handles, hkept.persistent, hkept.marked⟩

/-- The SIP client together with the transactions of the stack. -/
def transactionMachine (env : SscEnv) (s : Ssc × (Nat → Transactions))
    (input : Alloc × SscInput) : Option (Ssc × (Nat → Transactions)) :=
  (sscStep env input.1 s.1 input.2).map fun ssc' => (ssc', transactionsAfter s.2 input.2 ssc')

/-- A client that has no operations yet satisfies the invariant. -/
theorem settled_start (hops : ssc.operations = []) : Settled t ssc := by
  constructor <;> simp [hops]

/-- The invariant holds in every state that the client reaches. -/
theorem settled_of_reachable (hops : ssc.operations = []) {s : Ssc × (Nat → Transactions)}
    (h : Lib.Reachable (transactionMachine env) (ssc, t) s) : Settled s.2 s.1 := by
  refine h.induction (fun s => Settled s.2 s.1) (settled_start hops) fun s input s' hs hstep => ?_
  obtain ⟨ssc', hssc, rfl⟩ := Option.map_eq_some_iff.mp hstep
  exact settled_sscStep hs hssc

end Steps

/-- An outgoing call that a proxy challenges, and that has a password to answer with. -/
def challengedInvite : List (Alloc × SscInput) :=
  [(⟨1, 1⟩, .call (.invite (some "sip:b@h".toList) (some "pw".toList) (some "v=0".toList) none)),
    (⟨2, 2⟩, .event 1 (.rInvite 407 (some
      { proxyAuthenticate := some { scheme := "Digest".toList, realm := some "r".toList } })))]

end RestCommSdk.Proofs
