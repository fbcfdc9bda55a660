import RestCommSdk.Lib.Run
import RestCommSdk.Proofs.ReplyForgery
import RestCommSdk.Proofs.SscReplies

/-!
# `RestCommSdk.Proofs.Passwords`: where a password goes

A password comes with a command and is kept in its operation, and the SIP client looks at it in one
place: the text that `ssc_auth` makes of it for `nua_authenticate`. So it shows nowhere else. Two
runs of the client whose inputs differ in the passwords that they bring ask the stack for the same,
up to these texts, and reply the same to the App (`passwords_of_run`).

`hideSsc` takes the passwords away from a state and the texts away from what it has asked for. A
function of the client does the same to a state whose passwords are hidden.
-/

set_option autoImplicit false

namespace RestCommSdk.Proofs

open RestCommSdk.Lib
open RestCommSdk.CliInterface

/-- That there is a password is not hidden. -/
def hidePassword (password : Option CString) : Option CString := password.map fun _ => []

/-- An operation keeps that it has a password. -/
def hideOper (op : SscOper) : SscOper := { op with password := hidePassword op.password }

/-- A password goes into nothing but the text. -/
def hideCall : NuaCall → NuaCall
  | .authenticate nh _ => .authenticate nh []
  | c => c

/-- The SIP client without passwords, in its operations and in what it has asked for. -/
def hideSsc (ssc : Ssc) : Ssc :=
  { ssc with operations := ssc.operations.map hideOper, nua := ssc.nua.map hideCall }

/-- The passwords that a command brings. -/
def hideCommand : SscCall → SscCall
  | .invite destination password sdp headers =>
    .invite destination (hidePassword password) sdp headers
  | .message destination password msg headers =>
    .message destination (hidePassword password) msg headers
  | .update aor password registrar unregister =>
    .update aor (hidePassword password) registrar unregister
  | .auth data => .auth (hidePassword data)
  | c => c

/-- An event brings no password. -/
def hideInput : SscInput → SscInput
  | .call c prompt => .call (hideCommand c) prompt
  | .event nh e => .event nh e

/-- The same, but for passwords. -/
def EqHidden (x y : Option Ssc) : Prop := x.map hideSsc = y.map hideSsc

/-! ### What is not hidden -/

section Fields
variable (op : SscOper) (ssc : Ssc)

@[simp] theorem hideOper_addr : (hideOper op).addr = op.addr := rfl
@[simp] theorem hideOper_opHandle : (hideOper op).opHandle = op.opHandle := rfl
@[simp] theorem hideSsc_address : (hideSsc ssc).address = ssc.address := rfl
@[simp] theorem hideSsc_sent : (hideSsc ssc).sent = ssc.sent := rfl

end Fields

/-! ### Operations -/

section Operations
variable (ssc : Ssc)

/-- Hiding twice is hiding once. -/
theorem hideSsc_idem : hideSsc (hideSsc ssc) = hideSsc ssc := by
  have hpassword (password : Option CString) :
      hidePassword (hidePassword password) = hidePassword password := by
    cases password <;> rfl
  have hcall (c : NuaCall) : hideCall (hideCall c) = hideCall c := by cases c <;> rfl
  simp [hideSsc, hideOper, hpassword, hcall]

/-- A branch that does not depend on a password may be taken after hiding. -/
theorem hideSsc_ite {c d : Prop} [Decidable c] [Decidable d] {a b a' b' : Ssc} (hcd : c ↔ d)
    (ha : hideSsc a = a') (hb : hideSsc b = b') :
    hideSsc (if c then a else b) = if d then a' else b' := by
  rw [apply_ite hideSsc, ha, hb]
  exact if_congr hcd rfl rfl

/-- A call of the stack is asked for with its text taken away. -/
theorem hideSsc_emit (c : NuaCall) :
    hideSsc (ssc.emit c) = (hideSsc ssc).emit (hideCall c) := by
  simp [hideSsc, Ssc.emit]

/-- A change of an operation that does not look at the password. -/
theorem hideSsc_setOper (addr : Nat) {f : SscOper → SscOper}
    (hf : ∀ op, hideOper (f op) = f (hideOper op)) :
    hideSsc (ssc.setOper addr f) = (hideSsc ssc).setOper addr f := by
  simp only [hideSsc, Ssc.setOper, List.map_map]
  congr 1
  refine List.map_congr_left fun op _ => ?_
  simp only [Function.comp_apply]
  by_cases haddr : op.addr = addr
  · rw [if_pos haddr, if_pos (show (hideOper op).addr = addr from haddr), hf]
  · rw [if_neg haddr, if_neg (show ¬(hideOper op).addr = addr from haddr)]

/-- An operation is found by what is not hidden. -/
theorem find_hideSsc {p : SscOper → Bool} (hp : ∀ op, p (hideOper op) = p op) :
    (hideSsc ssc).operations.find? p = (ssc.operations.find? p).map hideOper := by
  have hcomp : p ∘ hideOper = p := funext hp
  rw [hideSsc, List.find?_map, hcomp]

/-- The operation at an address, without its password. -/
theorem hideSsc_oper? (addr : Nat) : (hideSsc ssc).oper? addr = (ssc.oper? addr).map hideOper :=
  find_hideSsc ssc fun _ => rfl

/-- An operation is destroyed by its address, and by what the others are for. -/
theorem hideSsc_sscOperDestroy (addr : Nat) :
    hideSsc (sscOperDestroy ssc addr) = sscOperDestroy (hideSsc ssc) addr := by
  have hleft : (hideSsc ssc).operations.filter (·.addr ≠ addr)
      = (ssc.operations.filter (·.addr ≠ addr)).map hideOper := by
    rw [hideSsc, List.filter_map]
    rfl
  unfold sscOperDestroy
  rw [hideSsc_oper?]
  cases ssc.oper? addr with
  | none => rfl
  | some op =>
    have hany : ((ssc.operations.filter (·.addr ≠ addr)).map hideOper).any (·.opMethod = .invite)
        = (ssc.operations.filter (·.addr ≠ addr)).any (·.opMethod = .invite) := by
      rw [List.any_map]
      rfl
    have hemit : (ssc.nua ++ [NuaCall.handleDestroy op.opHandle]).map hideCall
        = ssc.nua.map hideCall ++ [NuaCall.handleDestroy op.opHandle] :=
      List.map_append
    simp only [Option.map_some, Ssc.emit, hleft, hany]
    -- Whether the media goes does not depend on a password.
    by_cases hinvite :
        (ssc.operations.filter (·.addr ≠ addr)).any (·.opMethod = .invite) = true
    · simp only [hinvite, if_true, hideSsc, hemit]
      rfl
    · simp only [hinvite, Bool.false_eq_true, if_false]
      simp only [hideSsc, Ssc.deactivateMedia, hemit]
      rfl

/-- The clean-up goes through the same operations. -/
theorem hideSsc_cleanOldHandles (old : List SscOper) :
    hideSsc (cleanOldHandles old ssc) = cleanOldHandles (old.map hideOper) (hideSsc ssc) := by
  induction old generalizing ssc with
  | nil => rfl
  | cons op old ih =>
    simp only [cleanOldHandles, List.map_cons, List.foldl_cons] at ih ⊢
    rw [ih]
    by_cases hclean : (!op.opPersistent && decide (op.opCallstate = .none)) = true
    · rw [if_pos hclean, hideSsc_sscOperDestroy]
      exact congrArg (List.foldl _ · _) (if_pos hclean).symm
    · rw [if_neg hclean]
      exact congrArg (List.foldl _ · _) (if_neg hclean).symm

/-- A new operation has no password yet, so that it is the same one. -/
theorem hideSsc_sscOperCreate (env : SscEnv) (alloc : Alloc) (method : SipMethod)
    (address : Option CString) :
    sscOperCreate env alloc method address (hideSsc ssc) =
      (hideSsc (sscOperCreate env alloc method address ssc).1,
        (sscOperCreate env alloc method address ssc).2) := by
  cases address with
  -- Without an address the old operation is assigned, and hiding keeps which one it is.
  | none =>
    have hold : sscOperOld (hideSsc ssc) = (sscOperOld ssc).map hideOper :=
      find_hideSsc ssc fun _ => rfl
    simp only [sscOperCreate, hold]
    cases sscOperOld ssc with
    | none => rfl
    | some old =>
      simp only [Option.map_some]
      rw [hideSsc_setOper (f := sscOperAssign method) ssc old.addr fun _ => rfl]
      rfl
  | some address =>
    simp only [sscOperCreate]
    split
    · -- Cleaning up looks at `op_persistent`, which no password changes.
      have hold : (hideSsc ssc).operations.dropWhile (·.opPersistent)
          = (ssc.operations.dropWhile (·.opPersistent)).map hideOper := by
        rw [hideSsc, List.dropWhile_map]
        rfl
      split
      · rw [hideSsc_emit]
        rfl
      · rw [hideSsc_cleanOldHandles, hideSsc_emit, hold]
        rfl
    · rfl

/-- The password is copied into the operation, and is hidden there if it was hidden before. -/
theorem hideSsc_sscOperCreateWithPassword (env : SscEnv) (alloc : Alloc) (method : SipMethod)
    (address password : Option CString) :
    sscOperCreateWithPassword env alloc method address (hidePassword password) (hideSsc ssc) =
      (hideSsc (sscOperCreateWithPassword env alloc method address password ssc).1,
        (sscOperCreateWithPassword env alloc method address password ssc).2) := by
  simp only [sscOperCreateWithPassword, hideSsc_sscOperCreate]
  generalize sscOperCreate env alloc method address ssc = created
  obtain ⟨ssc₁, made⟩ := created
  cases made with
  | none => rfl
  | some addr =>
    simp only [hideSsc, Ssc.setOper, List.map_map]
    congr 2
    refine List.map_congr_left fun op _ => ?_
    simp only [Function.comp_apply]
    by_cases haddr : op.addr = addr
    · rw [if_pos haddr, if_pos (show (hideOper op).addr = addr from haddr)]
      rfl
    · rw [if_neg haddr, if_neg (show ¬(hideOper op).addr = addr from haddr)]

/-- An operation for a handle that is lent has no password. -/
theorem hideSsc_sscOperCreateWithHandle (alloc : Alloc) (method : SipMethod) (nh : Nat) :
    hideSsc (sscOperCreateWithHandle alloc method nh ssc) =
      sscOperCreateWithHandle alloc method nh (hideSsc ssc) := by
  rw [sscOperCreateWithHandle, hideSsc_emit]
  rfl

/-- A request on the operation that was just made. -/
theorem hideSsc_requestOn (created : Ssc × Option Nat) {request : SscOper → NuaCall}
    (hrequest : ∀ op, hideCall (request op) = request (hideOper op)) :
    hideSsc (match created.2.bind created.1.oper? with
      | some op => created.1.emit (request op)
      | none => created.1) =
      match created.2.bind (hideSsc created.1).oper? with
      | some op => (hideSsc created.1).emit (request op)
      | none => hideSsc created.1 := by
  cases created.2 with
  | none => rfl
  | some addr =>
    simp only [Option.bind_some, hideSsc_oper?]
    cases created.1.oper? addr with
    | none => rfl
    | some op =>
      simp only [Option.map_some, hideSsc_emit, hrequest]

end Operations

/-! ### The commands -/

section Commands
variable (env : SscEnv) (alloc : Alloc) (ssc : Ssc)

/-- What is done about the media does not ask for a password. -/
theorem hideSsc_privMediaStateCb (addr : Nat) :
    hideSsc (privMediaStateCb addr ssc) = privMediaStateCb addr (hideSsc ssc) := by
  have hset (ssc : Ssc) (c : Callstate) :
      hideSsc (ssc.setOper addr fun op => { op with opCallstate := c }) =
        (hideSsc ssc).setOper addr fun op => { op with opCallstate := c } :=
    hideSsc_setOper ssc addr fun _ => rfl
  have hsent (ssc : Ssc) :
      hideSsc (ssc.setOper addr fun op =>
        { op with opCallstate := { op.opCallstate with sent := true } }) =
        (hideSsc ssc).setOper addr fun op =>
          { op with opCallstate := { op.opCallstate with sent := true } } :=
    hideSsc_setOper ssc addr fun _ => rfl
  have hdeactivate : hideSsc ssc.deactivateMedia = (hideSsc ssc).deactivateMedia := rfl
  -- Every branch looks at the call state of the operation alone.
  unfold privMediaStateCb
  rw [hideSsc_oper?]
  cases ssc.oper? addr with
  | none => rfl
  | some op =>
    refine hideSsc_ite Iff.rfl (hideSsc_ite Iff.rfl (hideSsc_ite Iff.rfl ?_ ?_)
      (hideSsc_ite Iff.rfl (hideSsc_ite Iff.rfl ?_ ?_) rfl)) (hideSsc_ite Iff.rfl ?_ rfl)
    · -- Ready to send the INVITE: the marks on the operation commute with hiding.
      rw [hsent, hideSsc_emit, hset]
      rfl
    · rw [hideSsc_sscOperDestroy, hset]
    · -- Ready to answer: a final answer other than 2xx ends the call.
      rw [hideSsc_emit]
      split
      · rw [if_pos ‹_›, hsent]
        rfl
      · rw [if_neg ‹_›, hset]
        rfl
    · rw [hideSsc_emit, hset]
      rfl
    · rw [hideSsc_sscOperDestroy, hdeactivate]

/-- The description that is stored has no password. -/
theorem hideSsc_activateMedia (localSdp : CString) :
    hideSsc (ssc.activateMedia localSdp) = (hideSsc ssc).activateMedia localSdp := rfl

/-- A reply goes to the App as it is. -/
theorem hideSsc_send (r : SofiaReply) : hideSsc (ssc.send r) = (hideSsc ssc).send r := rfl

/-- A call takes the password of its command along. -/
theorem hideSsc_sscInvite (destination password sdp headers : Option CString) :
    (sscInvite env alloc destination password sdp headers ssc).map hideSsc =
      sscInvite env alloc destination (hidePassword password) sdp headers (hideSsc ssc) := by
  simp only [sscInvite, hideSsc_sscOperCreateWithPassword]
  generalize sscOperCreateWithPassword env alloc .invite destination password ssc = created
  obtain ⟨ssc₁, made⟩ := created
  cases made with
  | none => rfl
  | some addr =>
    cases sdp with
    | none => rfl
    | some sdp =>
      simp only [Option.bind_eq_bind, Option.bind_some, Option.pure_def, Option.map_some]
      rw [hideSsc_privMediaStateCb, hideSsc_activateMedia, hideSsc_setOper]
      exact fun _ => rfl

/-- The call that is answered is found without its password. -/
theorem hideSsc_sscAnswer (sdp : Option CString) (status : Nat) (phrase : CString) :
    hideSsc (sscAnswer sdp status phrase ssc) = sscAnswer sdp status phrase (hideSsc ssc) := by
  have hfind : sscOperFindUnanswered (hideSsc ssc) = (sscOperFindUnanswered ssc).map hideOper :=
    find_hideSsc ssc fun _ => rfl
  unfold sscAnswer
  rw [hfind]
  cases sscOperFindUnanswered ssc with
  | none => rfl
  | some op =>
    refine hideSsc_ite Iff.rfl ?_ ?_
    · rw [hideSsc_privMediaStateCb, hideSsc_activateMedia]
      rfl
    · rw [hideSsc_sscOperDestroy, hideSsc_emit]
      rfl

/-- A call to hang up is found by its state. -/
theorem hideSsc_sscBye : hideSsc (sscBye ssc) = sscBye (hideSsc ssc) := by
  have hfind : sscOperFindCall (hideSsc ssc) = (sscOperFindCall ssc).map hideOper :=
    find_hideSsc ssc fun _ => rfl
  unfold sscBye
  rw [hfind]
  cases sscOperFindCall ssc with
  | none => rfl
  | some op =>
    rw [hideSsc_setOper, hideSsc_emit]
    · rfl
    · exact fun _ => rfl

/-- A call to cancel is found by its state. -/
theorem hideSsc_sscCancel : hideSsc (sscCancel ssc) = sscCancel (hideSsc ssc) := by
  have hprogress :
      sscOperFindCallInProgress (hideSsc ssc) = (sscOperFindCallInProgress ssc).map hideOper :=
    find_hideSsc ssc fun _ => rfl
  have hembryonic :
      sscOperFindCallEmbryonic (hideSsc ssc) = (sscOperFindCallEmbryonic ssc).map hideOper :=
    find_hideSsc ssc fun _ => rfl
  unfold sscCancel
  rw [hprogress, hembryonic]
  cases sscOperFindCallInProgress ssc with
  | some op => exact hideSsc_emit ssc _
  | none =>
    cases sscOperFindCallEmbryonic ssc with
    | some op => exact hideSsc_emit ssc _
    | none => rfl

/-- The call to forget is found by its state. -/
theorem hideSsc_sscZap : hideSsc (sscZap ssc) = sscZap (hideSsc ssc) := by
  have hfind : sscOperOld (hideSsc ssc) = (sscOperOld ssc).map hideOper :=
    find_hideSsc ssc fun _ => rfl
  unfold sscZap
  rw [hfind]
  cases sscOperOld ssc with
  | none => rfl
  | some op => exact hideSsc_sscOperDestroy ssc op.addr

/-- Digits go to a call that is found by its state. -/
theorem hideSsc_sscInfo (msg : Option CString) :
    hideSsc (sscInfo msg ssc) = sscInfo msg (hideSsc ssc) := by
  have hfind : sscOperFindCall (hideSsc ssc) = (sscOperFindCall ssc).map hideOper :=
    find_hideSsc ssc fun _ => rfl
  unfold sscInfo
  rw [hfind]
  cases sscOperFindCall ssc with
  | none => rfl
  | some op => exact hideSsc_emit ssc _

/-- `OPTIONS` go without a password. -/
theorem hideSsc_sscOptions (destination : Option CString) :
    hideSsc (sscOptions env alloc destination ssc) =
      sscOptions env alloc destination (hideSsc ssc) := by
  simp only [sscOptions, hideSsc_sscOperCreate]
  exact hideSsc_requestOn _ fun _ => rfl

/-- A message takes the password of its command along. -/
theorem hideSsc_sscMessage (destination password msg headers : Option CString) :
    hideSsc (sscMessage env alloc destination password msg headers ssc) =
      sscMessage env alloc destination (hidePassword password) msg headers (hideSsc ssc) := by
  simp only [sscMessage, hideSsc_sscOperCreateWithPassword]
  exact hideSsc_requestOn _ fun _ => rfl

/-- A transfer goes without a password. -/
theorem hideSsc_sscRefer (destination : Option CString) (toAddress : CString) :
    hideSsc (sscRefer env alloc destination toAddress ssc) =
      sscRefer env alloc destination toAddress (hideSsc ssc) := by
  have hfind : sscOperFindCall (hideSsc ssc) = (sscOperFindCall ssc).map hideOper :=
    find_hideSsc ssc fun _ => rfl
  unfold sscRefer
  rw [hfind]
  cases sscOperFindCall ssc with
  | some op => exact hideSsc_emit ssc _
  | none =>
    simp only [Option.map_none, hideSsc_sscOperCreate]
    exact hideSsc_requestOn _ fun _ => rfl

/-- A subscription goes without a password. -/
theorem hideSsc_subscribeTo (destination : Option CString) (event : CString) (eventlist : Bool) :
    hideSsc (subscribeTo env alloc destination event eventlist ssc) =
      subscribeTo env alloc destination event eventlist (hideSsc ssc) := by
  simp only [subscribeTo, hideSsc_sscOperCreate]
  exact hideSsc_requestOn _ fun _ => rfl

/-- Presence is a subscription. -/
theorem hideSsc_sscSubscribe (destination : Option CString) :
    (sscSubscribe env alloc destination ssc).map hideSsc =
      sscSubscribe env alloc destination (hideSsc ssc) := by
  cases destination with
  | none => rfl
  | some destination =>
    simp only [sscSubscribe, Option.bind_eq_bind, Option.bind_some, Option.pure_def]
    split
    · exact congrArg some (hideSsc_subscribeTo env alloc ssc _ _ _)
    · exact congrArg some (hideSsc_subscribeTo env alloc ssc _ _ _)

/-- Watchers are a subscription, if an event is named. -/
theorem hideSsc_sscWatch (event : Option CString) :
    (sscWatch env alloc event ssc).map hideSsc = sscWatch env alloc event (hideSsc ssc) := by
  cases event with
  | none => rfl
  | some event => exact congrArg some (hideSsc_subscribeTo env alloc ssc _ _ _)

/-- An operation is found by its method. -/
theorem hideSsc_findByMethod (method : SipMethod) :
    sscOperFindByMethod (hideSsc ssc) method = (sscOperFindByMethod ssc method).map hideOper :=
  find_hideSsc ssc fun _ => rfl

/-- The subscription to end is found by its method. -/
theorem hideSsc_sscUnsubscribe : hideSsc (sscUnsubscribe ssc) = sscUnsubscribe (hideSsc ssc) := by
  unfold sscUnsubscribe
  rw [hideSsc_findByMethod]
  cases sscOperFindByMethod ssc .subscribe with
  | none => rfl
  | some op => exact hideSsc_emit ssc _

/-- A publication goes without a password. -/
theorem hideSsc_sscPublish :
    hideSsc (sscPublish env alloc ssc) = sscPublish env alloc (hideSsc ssc) := by
  unfold sscPublish
  rw [hideSsc_findByMethod]
  cases sscOperFindByMethod ssc .publish with
  | some op => exact hideSsc_emit ssc _
  | none =>
    simp only [Option.map_none, hideSsc_address, hideSsc_sscOperCreate]
    exact hideSsc_requestOn _ fun _ => rfl

/-- A registration takes the password of its command along. -/
theorem hideSsc_sscRegister (registrar password : Option CString) :
    hideSsc (sscRegister env alloc registrar password ssc) =
      sscRegister env alloc registrar (hidePassword password) (hideSsc ssc) := by
  have hemit : (hideSsc ssc).emit (.setRegistrar (givenRegistrar registrar)) =
      hideSsc (ssc.emit (.setRegistrar (givenRegistrar registrar))) :=
    (hideSsc_emit ssc (.setRegistrar (givenRegistrar registrar))).symm
  unfold sscRegister
  dsimp only
  rw [hemit]
  cases givenRegistrar registrar with
  | none => rfl
  | some _ =>
    simp only [hideSsc_address, hideSsc_sscOperCreateWithPassword]
    exact hideSsc_requestOn _ fun _ => rfl

/-- An unregistration takes the password of its command along. -/
theorem hideSsc_sscUnregister (registrar password : Option CString) :
    hideSsc (sscUnregister env alloc registrar password ssc) =
      sscUnregister env alloc registrar (hidePassword password) (hideSsc ssc) := by
  have hemit : (hideSsc ssc).emit (.setRegistrar none) =
      hideSsc (ssc.emit (.setRegistrar none)) :=
    (hideSsc_emit ssc (.setRegistrar none)).symm
  unfold sscUnregister
  dsimp only
  rw [hemit, hideSsc_findByMethod]
  generalize ssc.emit (.setRegistrar none) = ssc
  simp only [hideSsc_address, hideSsc_sscOperCreateWithPassword]
  -- A registrar asks for a registration of its own.
  cases registrar with
  | some registrar => exact hideSsc_requestOn _ fun _ => rfl
  | none =>
    cases sscOperFindByMethod ssc .register with
    | some op => exact hideSsc_emit ssc _
    | none => exact hideSsc_requestOn _ fun _ => rfl

/-- The own address is no password. -/
theorem hideSsc_sscSetPublicAddress (address : Option CString) :
    hideSsc (sscSetPublicAddress address ssc) = sscSetPublicAddress address (hideSsc ssc) := by
  cases address with
  | none => rfl
  | some address =>
    exact hideSsc_emit { ssc with address := some address } (.setFrom address)

/-- An update sets the address and then registers or unregisters. -/
theorem hideSsc_sscUpdate (aor password registrar : Option CString) (unregister : Bool) :
    hideSsc (sscUpdate env alloc aor password registrar unregister ssc) =
      sscUpdate env alloc aor (hidePassword password) registrar unregister (hideSsc ssc) := by
  unfold sscUpdate
  dsimp only
  rw [← hideSsc_sscSetPublicAddress]
  cases unregister with
  | true => exact hideSsc_sscUnregister env alloc _ registrar password
  | false => exact hideSsc_sscRegister env alloc _ registrar password

end Commands

/-! ### The events -/

/-- A function that commutes with hiding. -/
theorem EqHidden.of_map {x y : Option Ssc} (h : x.map hideSsc = y) : EqHidden x y := by
  have hidem : hideSsc ∘ hideSsc = hideSsc := funext hideSsc_idem
  rw [EqHidden, ← h, Option.map_map, hidem]

/-- A state without an exception. -/
theorem EqHidden.of_hide {ssc ssc' : Ssc} (h : hideSsc ssc = ssc') :
    EqHidden (some ssc) (some ssc') :=
  .of_map (congrArg some h)

/-- A branch that does not depend on a password. -/
theorem EqHidden.ite {c d : Prop} [Decidable c] [Decidable d] {x y x' y' : Option Ssc} (hcd : c ↔ d)
    (hx : EqHidden x x') (hy : EqHidden y y') :
    EqHidden (if c then x else y) (if d then x' else y') := by
  rw [EqHidden, apply_ite (Option.map hideSsc), apply_ite (Option.map hideSsc), hx, hy]
  exact if_congr hcd rfl rfl

section Events
variable (env : SscEnv) (alloc : Alloc) (status nh : Nat) (op : Option SscOper)
  (sip : Option Sip) (ssc : Ssc)

/-- The operation of an event, if there is one, is destroyed. -/
theorem hideSsc_destroyOf :
    hideSsc (destroyOf op ssc) = destroyOf (op.map hideOper) (hideSsc ssc) := by
  cases op with
  | none => rfl
  | some op => exact hideSsc_sscOperDestroy ssc op.addr

/-- A fork is hung up by its handle. -/
theorem hideSsc_sscIFork (nh2 : Option Nat) :
    hideSsc (sscIFork nh2 ssc) = sscIFork nh2 (hideSsc ssc) := by
  cases nh2 with
  | none => rfl
  | some nh2 =>
    simp only [sscIFork, hideSsc_emit]
    rfl

/-- The states of a call come with the event. -/
theorem hideSsc_sscIState (tags : StateTags) :
    hideSsc (sscIState tags op ssc) = sscIState tags (op.map hideOper) (hideSsc ssc) := by
  cases op with
  | none => rfl
  | some op =>
    refine hideSsc_ite Iff.rfl rfl (hideSsc_ite Iff.rfl rfl ?_)
    dsimp only
    cases tags.state with
    -- A call that comes up is marked, and reported when the peer placed it.
    | ready =>
      refine hideSsc_ite Iff.rfl ?_ ?_
      · rw [hideSsc_send, hideSsc_setOper]
        · rfl
        · exact fun _ => rfl
      · rw [hideSsc_setOper]
        · rfl
        · exact fun _ => rfl
    | terminated =>
      refine congrArg Ssc.deactivateMedia ((hideSsc_sscOperDestroy _ op.addr).trans ?_)
      exact congrArg (sscOperDestroy · op.addr) (hideSsc_setOper _ op.addr fun _ => rfl)
    | _ => rfl

/-- The App is told the sender and the description. -/
theorem eqHidden_announceInvite (message : Sip) (sipFrom : SipFrom) (op : SscOper) :
    EqHidden (announceInvite message sipFrom op ssc)
      (announceInvite message sipFrom (hideOper op) (hideSsc ssc)) := by
  refine .ite Iff.rfl (.ite Iff.rfl ?_ ?_) (.of_hide rfl)
  · exact .of_hide (hideSsc_sscAnswer ssc none 200 _)
  · cases message.payload with
    | none => rfl
    | some payload => exact .of_hide rfl

/-- The same for the operation that was just made, which is looked up first. -/
theorem eqHidden_announceMade {made made' : Ssc} (h : hideSsc made = made') (message : Sip)
    (sipFrom : SipFrom) (addr : Nat) :
    EqHidden ((made.oper? addr).bind fun op => announceInvite message sipFrom op made)
      ((made'.oper? addr).bind fun op => announceInvite message sipFrom op made') := by
  rw [← h, hideSsc_oper?]
  cases made.oper? addr with
  | none => rfl
  | some op => exact eqHidden_announceInvite made message sipFrom op

/-- A call comes in. -/
theorem eqHidden_sscIInvite :
    EqHidden (sscIInvite alloc nh op sip ssc)
      (sscIInvite alloc nh (op.map hideOper) sip (hideSsc ssc)) := by
  have hanswering (ssc : Ssc) (addr : Nat) :
      hideSsc (ssc.setOper addr answering) = (hideSsc ssc).setOper addr answering :=
    hideSsc_setOper ssc addr fun _ => rfl
  unfold sscIInvite
  cases sip with
  | none => exact .of_hide rfl
  | some sip =>
    dsimp only
    cases sip.sipFrom with
    | none => exact .of_hide rfl
    | some sipFrom =>
      refine .ite Iff.rfl (.of_hide rfl) ?_
      cases op with
      -- The handle has an operation, which is marked as answering.
      | some op =>
        have hmarked := eqHidden_announceInvite (ssc.setOper op.addr answering) sip sipFrom
          (answering op)
        rw [hanswering] at hmarked
        exact hmarked
      -- It has none, and one is made without any password.
      | none =>
        have hmade := hanswering (sscOperCreateWithHandle alloc .invite nh ssc) alloc.addr
        rw [hideSsc_sscOperCreateWithHandle] at hmade
        exact eqHidden_announceMade hmade sip sipFrom alloc.addr

/-- A message comes in. -/
theorem eqHidden_sscIMessage :
    EqHidden (sscIMessage alloc nh op sip ssc)
      (sscIMessage alloc nh (op.map hideOper) sip (hideSsc ssc)) := by
  cases sip with
  | none => rfl
  | some sip =>
    simp only [sscIMessage, Option.bind_eq_bind, Option.bind_some, Option.pure_def]
    cases sip.sipFrom with
    | none => rfl
    | some sipFrom =>
      refine .ite Iff.rfl rfl ?_
      cases sip.payload with
      | none => rfl
      | some payload =>
        cases op with
        | some op => exact .of_hide rfl
        | none => exact .of_hide (hideSsc_sscOperCreateWithHandle _ alloc .message nh)

/-- An `INFO` comes in. -/
theorem eqHidden_sscIInfo :
    EqHidden (sscIInfo alloc nh op sip ssc)
      (sscIInfo alloc nh (op.map hideOper) sip (hideSsc ssc)) := by
  cases sip with
  | none => rfl
  | some sip =>
    refine .ite Iff.rfl ?_ rfl
    cases op with
    | some op => exact .of_hide rfl
    | none => exact .of_hide (hideSsc_sscOperCreateWithHandle ssc alloc .info nh)

/-- A transfer comes in. -/
theorem eqHidden_sscIRefer :
    EqHidden (sscIRefer env alloc sip ssc) (sscIRefer env alloc sip (hideSsc ssc)) := by
  cases sip with
  | none => rfl
  | some sip =>
    refine .ite Iff.rfl ?_ rfl
    cases sip.referTo with
    | none => rfl
    | some referTo =>
      refine .ite Iff.rfl (.of_hide ?_) (.of_hide rfl)
      rw [hideSsc_sscOperCreate]

/-- A notification comes in. -/
theorem eqHidden_sscINotify :
    EqHidden (sscINotify op sip ssc) (sscINotify (op.map hideOper) sip (hideSsc ssc)) := by
  cases sip with
  | some sip =>
    refine .ite ?_ (.of_hide rfl) rfl
    rw [Option.isSome_map]
  | none =>
    cases op with
    | none => rfl
    | some op => exact .of_hide rfl

/-- The answer to a `BYE`. -/
theorem eqHidden_sscRBye :
    EqHidden (sscRBye status op ssc) (sscRBye status (op.map hideOper) (hideSsc ssc)) := by
  cases op with
  | none => rfl
  | some op => exact .ite Iff.rfl (.of_hide rfl) (.of_hide rfl)

/-! ### Challenges -/

/-- The two texts may differ: what is asked for does not. -/
theorem hideSsc_sscAuthLoop (data data' : CString) (items : List SscAuthItem) :
    hideSsc (sscAuthLoop env data ssc items) =
      hideSsc (sscAuthLoop env data' (hideSsc ssc) items) := by
  induction items with
  | nil => exact (hideSsc_idem { ssc with authPend := [] }).symm
  | cons item rest ih =>
    have haddrs : (hideSsc ssc).operations.map (·.addr) = ssc.operations.map (·.addr) := by
      rw [hideSsc, List.map_map]
      rfl
    -- The check looks at the addresses, which hiding keeps.
    unfold sscAuthLoop
    rw [haddrs, apply_ite hideSsc, apply_ite hideSsc, ih]
    refine if_congr Iff.rfl ?_ rfl
    have hrest : { hideSsc ssc with authPend := rest } = hideSsc { ssc with authPend := rest } :=
      rfl
    dsimp only
    rw [hrest, hideSsc_oper?]
    cases ({ ssc with authPend := rest } : Ssc).oper? item.op with
    -- The address was let through, but no operation has it.
    | none => exact (hideSsc_idem _).symm
    | some op =>
      -- The credentials go out in a request whose text is hidden.
      simp only [Option.map_some, hideSsc_emit, hideSsc_idem]
      rfl

/-- A challenge is stored with the name of the sender and the address of its operation. -/
theorem eqHidden_sscStorePendingAuth :
    EqHidden (sscStorePendingAuth env ssc op sip)
      (sscStorePendingAuth env (hideSsc ssc) (op.map hideOper) sip) := by
  cases op with
  | none => rfl
  | some op =>
    cases sip with
    | none => rfl
    | some sip =>
      have hattach (items : List SscAuthItem) (ssc : Ssc) :
          hideSsc (items.foldl (privAttachOp op) ssc) =
            items.foldl (privAttachOp (hideOper op)) (hideSsc ssc) := by
        induction items generalizing ssc with
        | nil => rfl
        | cons item items ih =>
          rw [List.foldl_cons, ih, List.foldl_cons]
          refine congrArg (items.foldl _) ?_
          simp [privAttachOp, hideSsc, Ssc.emit, hideCall]
      have hstored := hattach (pendingItems sip op) ssc
      have hitems : pendingItems sip (hideOper op) = pendingItems sip op := rfl
      -- The password is there or not, hidden or not.
      cases hpassword : op.password with
      | none =>
        have hhidden : (hideOper op).password = none := congrArg hidePassword hpassword
        simp only [sscStorePendingAuth, Option.bind_eq_bind, Option.bind_some, Option.pure_def,
          Option.map_some, hpassword, hhidden]
        exact .of_hide hstored
      | some password =>
        have hhidden : (hideOper op).password = some [] := congrArg hidePassword hpassword
        simp only [sscStorePendingAuth, Option.bind_eq_bind, Option.bind_some, Option.pure_def,
          Option.map_some, hpassword, hhidden]
        rw [hitems, ← hstored]
        exact congrArg some (hideSsc_sscAuthLoop env _ password [] _)

variable (phrase : CString)

/-- The answer to a call. -/
theorem eqHidden_sscRInvite :
    EqHidden (sscRInvite env status op sip ssc)
      (sscRInvite env status (op.map hideOper) sip (hideSsc ssc)) := by
  refine .ite Iff.rfl ?_ (.ite Iff.rfl (.of_hide rfl) (.ite Iff.rfl ?_ (.of_hide rfl)))
  · -- From 300 on, a challenge is stored and anything else is reported.
    cases op with
    | none => rfl
    | some op =>
      have hset : hideSsc (ssc.setOper op.addr fun op =>
          { op with opCallstate := { op.opCallstate with sent := false } }) =
          (hideSsc ssc).setOper op.addr fun op =>
            { op with opCallstate := { op.opCallstate with sent := false } } :=
        hideSsc_setOper ssc op.addr fun _ => rfl
      refine .ite Iff.rfl ?_ (.of_hide ?_)
      · have hstore := eqHidden_sscStorePendingAuth env (some op) sip (ssc.setOper op.addr fun op =>
          { op with opCallstate := { op.opCallstate with sent := false } })
        rw [hset] at hstore
        exact hstore
      · rw [hideSsc_send, hset]
        rfl
  · -- The payload of a 200 is handed on, and no password is in it.
    cases sip with
    | none => rfl
    | some sip =>
      simp only [Option.bind_eq_bind, Option.bind_some, Option.pure_def]
      cases sip.payload with
      | none => rfl
      | some payload => exact .of_hide rfl

/-- The answer to a message. -/
theorem eqHidden_sscRMessage :
    EqHidden (sscRMessage env status op sip ssc)
      (sscRMessage env status (op.map hideOper) sip (hideSsc ssc)) :=
  .ite Iff.rfl (.of_hide rfl) <| .ite Iff.rfl (.of_hide rfl) <|
    .ite Iff.rfl (eqHidden_sscStorePendingAuth env op sip ssc) (.of_hide rfl)

/-- An answer that matters for its challenge only. -/
theorem eqHidden_sscRChallenged :
    EqHidden (sscRChallenged env status op sip ssc)
      (sscRChallenged env status (op.map hideOper) sip (hideSsc ssc)) :=
  .ite Iff.rfl (.of_hide rfl) <|
    .ite Iff.rfl (eqHidden_sscStorePendingAuth env op sip ssc) (.of_hide rfl)

/-- The answer to a subscription. -/
theorem eqHidden_sscRSubscribe :
    EqHidden (sscRSubscribe env status op sip ssc)
      (sscRSubscribe env status (op.map hideOper) sip (hideSsc ssc)) := by
  refine .ite Iff.rfl (.of_hide rfl) (.ite Iff.rfl ?_ (.of_hide rfl))
  cases op with
  | none => rfl
  | some op =>
    have hset : hideSsc (ssc.setOper op.addr fun op => { op with opPersistent := false }) =
        (hideSsc ssc).setOper op.addr fun op => { op with opPersistent := false } :=
      hideSsc_setOper ssc op.addr fun _ => rfl
    refine .ite Iff.rfl ?_ (.of_hide hset)
    have hstore := eqHidden_sscStorePendingAuth env (some op) sip
      (ssc.setOper op.addr fun op => { op with opPersistent := false })
    rw [hset] at hstore
    exact hstore

/-- The answer to a registration. -/
theorem eqHidden_sscRRegister :
    EqHidden (sscRRegister env status phrase op sip ssc)
      (sscRRegister env status phrase (op.map hideOper) sip (hideSsc ssc)) := by
  refine .ite Iff.rfl (.of_hide rfl) <|
    .ite Iff.rfl (eqHidden_sscStorePendingAuth env op sip ssc) <|
    .ite Iff.rfl (.of_hide ?_) (.ite Iff.rfl (.of_hide rfl) (.of_hide rfl))
  rw [hideSsc_send, hideSsc_destroyOf]

/-- The answer to an unregistration. -/
theorem eqHidden_sscRUnregister :
    EqHidden (sscRUnregister env status op sip ssc)
      (sscRUnregister env status (op.map hideOper) sip (hideSsc ssc)) :=
  .ite Iff.rfl (.of_hide rfl) <| .ite Iff.rfl (eqHidden_sscStorePendingAuth env op sip ssc) <|
    .of_hide (hideSsc_destroyOf op ssc)

/-- The answer to a publication. -/
theorem eqHidden_sscRPublish :
    EqHidden (sscRPublish env status op sip ssc)
      (sscRPublish env status (op.map hideOper) sip (hideSsc ssc)) := by
  have hdestroy := hideSsc_destroyOf op ssc
  refine .ite Iff.rfl (.of_hide rfl) <|
    .ite Iff.rfl (eqHidden_sscStorePendingAuth env op sip ssc) <|
    .ite Iff.rfl (.of_hide hdestroy) ?_
  cases sip with
  | none => rfl
  | some sip => exact .ite Iff.rfl (.of_hide hdestroy) (.of_hide rfl)

end Events

/-! ### Steps and runs -/

section Runs
variable (env : SscEnv) (alloc : Alloc)

/-- A command does the same with its password hidden. -/
theorem eqHidden_sscCall (prompt : CString) (ssc : Ssc) (c : SscCall) :
    EqHidden (sscCall env alloc prompt ssc c)
      (sscCall env alloc prompt (hideSsc ssc) (hideCommand c)) := by
  cases c with
  | answer sdp status phrase => exact .of_hide (hideSsc_sscAnswer ssc sdp status phrase)
  | setPublicAddress aor => exact .of_hide (hideSsc_sscSetPublicAddress ssc aor)
  | bye => exact .of_hide (hideSsc_sscBye ssc)
  | cancel => exact .of_hide (hideSsc_sscCancel ssc)
  | invite destination password sdp headers =>
    exact .of_map (hideSsc_sscInvite env alloc ssc destination password sdp headers)
  | info msg => exact .of_hide (hideSsc_sscInfo ssc msg)
  -- The credentials differ, and both sides answer the queue with them hidden.
  | auth data =>
    cases data with
    | none => rfl
    | some data => exact congrArg some (hideSsc_sscAuthLoop env ssc data [] ssc.authPend)
  | message destination password msg headers =>
    exact .of_hide (hideSsc_sscMessage env alloc ssc destination password msg headers)
  | subscribe destination => exact .of_map (hideSsc_sscSubscribe env alloc ssc destination)
  | watch event => exact .of_map (hideSsc_sscWatch env alloc ssc event)
  | options destination => exact .of_hide (hideSsc_sscOptions env alloc ssc destination)
  | publish note => exact .of_hide (hideSsc_sscPublish env alloc ssc)
  | unpublish => exact .of_hide (hideSsc_sscPublish env alloc ssc)
  | update aor password registrar unregister =>
    exact .of_hide (hideSsc_sscUpdate env alloc ssc aor password registrar unregister)
  | refer destination => exact .of_hide (hideSsc_sscRefer env alloc ssc destination prompt)
  | unsubscribe destination => exact .of_hide (hideSsc_sscUnsubscribe ssc)
  | zap which => exact .of_hide (hideSsc_sscZap ssc)
  | shutdown =>
    exact .of_hide (hideSsc_emit { ssc with stackIsShuttingDown := true } .shutdown)
  | hold destination hold => exact .of_hide rfl
  | list => exact .of_hide rfl
  | printSettings => exact .of_hide rfl
  | param name value => exact .of_hide rfl

/-- An event does the same, one case for each event. -/
theorem eqHidden_privCallback (nh : Nat) (ssc : Ssc) (e : NuaEvent) :
    EqHidden (privCallback env alloc nh ssc e) (privCallback env alloc nh (hideSsc ssc) e) := by
  -- Handles are the same on both sides, so the same operation is found.
  have hfind : sscOperFindByHandle (hideSsc ssc) nh =
      (sscOperFindByHandle ssc nh).map hideOper := find_hideSsc ssc fun _ => rfl
  have hdestroy : hideSsc (ssc.emit (.handleDestroy nh)) =
      (hideSsc ssc).emit (.handleDestroy nh) := hideSsc_emit ssc (.handleDestroy nh)
  unfold privCallback
  rw [hfind]
  generalize sscOperFindByHandle ssc nh = op
  cases e with
  | rShutdown status => exact .of_hide (hideSsc_ite Iff.rfl rfl rfl)
  | rGetParams sipFrom => exact .of_hide rfl
  | rRegister status phrase sip => exact eqHidden_sscRRegister env status op sip ssc phrase
  | rUnregister status sip => exact eqHidden_sscRUnregister env status op sip ssc
  | iOptions => exact .of_hide rfl
  | rOptions status sip =>
    exact .ite Iff.rfl (eqHidden_sscStorePendingAuth env op sip ssc) (.of_hide rfl)
  | rInvite status sip => exact eqHidden_sscRInvite env status op sip ssc
  | iFork nh2 => exact .of_hide (hideSsc_sscIFork ssc nh2)
  | iInvite sip => exact eqHidden_sscIInvite alloc nh op sip ssc
  -- A PRACK or an event of no operation destroys the handle.
  | iPrack sip =>
    refine .of_hide (hideSsc_ite ?_ hdestroy rfl)
    rw [Option.isNone_map]
  | iState tags => exact .of_hide (hideSsc_sscIState op ssc tags)
  | rBye status sip => exact eqHidden_sscRBye status op ssc
  -- Without an operation both sides read NULL.
  | iBye =>
    cases op with
    | none => rfl
    | some op => exact .of_hide rfl
  | rMessage status sip => exact eqHidden_sscRMessage env status op sip ssc
  | iMessage sip => exact eqHidden_sscIMessage alloc nh op sip ssc
  | rInfo status sip => exact eqHidden_sscRChallenged env status op sip ssc
  | iInfo sip => exact eqHidden_sscIInfo alloc nh op sip ssc
  | rRefer status sip => exact eqHidden_sscRChallenged env status op sip ssc
  | iRefer sip => exact eqHidden_sscIRefer env alloc sip ssc
  | rSubscribe status sip => exact eqHidden_sscRSubscribe env status op sip ssc
  | rUnsubscribe status =>
    exact .of_hide (hideSsc_ite Iff.rfl rfl (hideSsc_destroyOf op ssc))
  | rPublish status sip => exact eqHidden_sscRPublish env status op sip ssc
  | rNotify status sip => exact eqHidden_sscRChallenged env status op sip ssc
  | iNotify sip => exact eqHidden_sscINotify op sip ssc
  | iCancel =>
    cases op with
    | none => rfl
    | some op => exact .of_hide rfl
  | iError => exact .of_hide rfl
  | ignored => exact .of_hide rfl
  | unhandled =>
    refine .of_hide (hideSsc_ite ?_ hdestroy rfl)
    rw [Option.isNone_map]

/-- A step whose passwords are hidden does the same, but for passwords. -/
theorem eqHidden_sscStep (ssc : Ssc) (input : SscInput) :
    EqHidden (sscStep env alloc ssc input) (sscStep env alloc (hideSsc ssc) (hideInput input)) := by
  refine .ite ?_ ?_ rfl
  · simp [Alloc.Fresh, hideSsc]
  · cases input with
    | call c prompt => exact eqHidden_sscCall env alloc prompt { ssc with nua := [], sent := [] } c
    | event nh e => exact eqHidden_privCallback env alloc nh { ssc with nua := [], sent := [] } e

end Runs

/-- The inputs differ in passwords only. -/
def SameButPasswords (i j : Alloc × SscInput) : Prop :=
  i.1 = j.1 ∧ hideInput i.2 = hideInput j.2

variable {env : SscEnv}

/-- What is put out without the passwords is put out the same over such inputs. -/
theorem outputs_of_hidden {ω κ : Type} {out : Ssc → List ω} {f : ω → κ}
    (hout : ∀ s t, hideSsc s = hideSsc t → (out s).map f = (out t).map f) {s t : Ssc}
    {is js : List (Alloc × SscInput)} (hst : hideSsc s = hideSsc t)
    (hij : List.Forall₂ SameButPasswords is js) :
    (outputs (sscMachine env) out s is).map f = (outputs (sscMachine env) out t js).map f := by
  refine outputs_map_eq_of_bisim (R := fun s t => hideSsc s = hideSsc t) ?_ hst hij
  rintro s t ⟨alloc, i⟩ ⟨alloc', j⟩ hst ⟨rfl, hij⟩
  have hs := eqHidden_sscStep env alloc s i
  rw [hst, hij] at hs
  have hboth : EqHidden (sscStep env alloc s i) (sscStep env alloc t j) :=
    hs.trans (eqHidden_sscStep env alloc t j).symm
  simp only [sscMachine]
  -- One step is possible if and only if the other one is.
  generalize sscStep env alloc s i = s', sscStep env alloc t j = t' at hboth ⊢
  cases s' with
  | none =>
    cases t' with
    | none => exact .none
    | some t' => cases hboth
  | some s' =>
    cases t' with
    | none => cases hboth
    | some t' =>
      have hsame := Option.some.inj hboth
      exact .some ⟨hsame, hout s' t' hsame⟩

/-- Runs that differ in passwords only ask the stack for the same, up to the texts that are made of
them, and write the same to the App. -/
theorem passwords_of_run {s t : Ssc} {is js : List (Alloc × SscInput)}
    (hst : hideSsc s = hideSsc t) (hij : List.Forall₂ SameButPasswords is js) :
    (outputs (sscMachine env) (·.nua) s is).map hideCall =
        (outputs (sscMachine env) (·.nua) t js).map hideCall ∧
      sentReplies env s is = sentReplies env t js := by
  refine ⟨outputs_of_hidden (fun s t h => congrArg Ssc.nua h) hst hij, ?_⟩
  have hout (s t : Ssc) (h : hideSsc s = hideSsc t) : s.sent.map id = t.sent.map id := by
    rw [← hideSsc_sent s, h, hideSsc_sent]
  have hsent : (outputs (sscMachine env) Ssc.sent s is).map id =
      (outputs (sscMachine env) Ssc.sent t js).map id := outputs_of_hidden hout hst hij
  rwa [List.map_id, List.map_id] at hsent

/-- A call with a password that is challenged, and then declined. -/
def challengedWith (password : CString) : List (Alloc × SscInput) :=
  [(⟨1, 1⟩, .call (.invite (some "sip:b@h".toList) (some password) (some "v=0".toList) none)),
    (⟨2, 2⟩, .event 1 (.rInvite 401 (some
      { wwwAuthenticate := some { scheme := "Digest".toList, realm := some "r".toList } }))),
    (⟨3, 3⟩, .event 1 (.rInvite 603 none))]

/-- Two registrations with different passwords, each of them challenged. -/
theorem passwords_of_run_challenged :
    (outputs (sscMachine plainEnv) (·.nua) {} (challengedWith "a".toList)).map hideCall =
        (outputs (sscMachine plainEnv) (·.nua) {} (challengedWith "b:c".toList)).map hideCall ∧
      sentReplies plainEnv {} (challengedWith "a".toList) =
        sentReplies plainEnv {} (challengedWith "b:c".toList) :=
  passwords_of_run rfl
    (.cons ⟨rfl, rfl⟩ (.cons ⟨rfl, rfl⟩ (.cons ⟨rfl, rfl⟩ .nil)))

end RestCommSdk.Proofs
