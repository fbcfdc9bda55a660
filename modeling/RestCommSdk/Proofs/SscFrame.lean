import RestCommSdk.CliInterface.SscSip

/-!
# `RestCommSdk.Proofs.SscFrame`: what the functions on operations leave alone

A view of the client that shows neither its operations nor its media nor the making of handles
(`BlindToOperations`) is the same before and after the functions that create and destroy
operations.

Such functions send nothing to the App, authenticate nothing and do not touch the pending
authentication requests. `Frame` says so once for all functions that only do such things; it
composes, so a handler that is made of them needs one line.
-/

set_option autoImplicit false

namespace RestCommSdk.Proofs

open RestCommSdk.CliInterface

/-- A `nua_authenticate` call. -/
def isAuthenticate : NuaCall → Bool
  | .authenticate .. => true
  | _ => false

/-- The `nua_authenticate` calls of a step. -/
def authenticates (ssc : Ssc) : List NuaCall := ssc.nua.filter isAuthenticate

/-- `ssc_oper_create` makes an operation, or takes an old one. -/
def creates (env : SscEnv) (ssc : Ssc) (address : Option CString) : Bool :=
  match address with
  | some address => env.validAddress address
  | none => (sscOperOld ssc).isSome

/-! ### Views -/

/-- The view shows no operations, no media and no handles that are made or destroyed. -/
structure BlindToOperations {α : Type} (view : Ssc → α) : Prop where
  operations : ∀ ssc operations, view { ssc with operations := operations } = view ssc
  media : ∀ ssc media, view { ssc with media := media } = view ssc
  handle : ∀ ssc nh address, view (ssc.emit (.handle nh address)) = view ssc
  handleDestroy : ∀ ssc nh, view (ssc.emit (.handleDestroy nh)) = view ssc

namespace BlindToOperations
variable {α : Type} {view : Ssc → α} (h : BlindToOperations view)
include h

/-- A write to an operation. -/
theorem setOper (ssc : Ssc) (addr : Nat) (f : SscOper → SscOper) :
    view (ssc.setOper addr f) = view ssc := h.operations ssc _

/-- An operation goes, with its handle and perhaps with the media. -/
theorem sscOperDestroy (ssc : Ssc) (addr : Nat) : view (sscOperDestroy ssc addr) = view ssc := by
  unfold CliInterface.sscOperDestroy
  split
  · rfl
  · dsimp only
    split
    · rw [h.handleDestroy, h.operations]
    · rw [Ssc.deactivateMedia, h.media, h.handleDestroy, h.operations]

/-- Operations that have ended go. -/
theorem cleanOldHandles (old : List SscOper) (ssc : Ssc) :
    view (cleanOldHandles old ssc) = view ssc := by
  induction old generalizing ssc with
  | nil => rfl
  | cons op old ih =>
    rw [CliInterface.cleanOldHandles, List.foldl_cons]
    split
    · exact (ih _).trans (h.sscOperDestroy ssc op.addr)
    · exact ih ssc

/-- An operation comes, after the clean-up. -/
theorem sscOperCreate (env : SscEnv) (alloc : Alloc) (method : SipMethod)
    (address : Option CString) (ssc : Ssc) :
    view (sscOperCreate env alloc method address ssc).1 = view ssc := by
  unfold CliInterface.sscOperCreate
  split
  · split
    · dsimp only
      split
      · rw [h.handle, h.operations]
      · rw [h.cleanOldHandles, h.handle, h.operations]
    · rfl
  · split
    · exact h.setOper _ _ _
    · rfl

/-- An operation comes, and its password is written. -/
theorem sscOperCreateWithPassword (env : SscEnv) (alloc : Alloc) (method : SipMethod)
    (address password : Option CString) (ssc : Ssc) :
    view (sscOperCreateWithPassword env alloc method address password ssc).1 = view ssc := by
  have hcreate := h.sscOperCreate env alloc method address ssc
  unfold CliInterface.sscOperCreateWithPassword
  dsimp only
  split
  · exact (h.setOper _ _ _).trans hcreate
  · exact hcreate

end BlindToOperations

/-! ### The frame -/

/-- `ssc'` differs from `ssc` in operations, media and requests to the stack only. -/
structure Frame (ssc ssc' : Ssc) : Prop where
  sent : ssc'.sent = ssc.sent
  authenticates : authenticates ssc' = authenticates ssc
  authPend : ssc'.authPend = ssc.authPend
  autoanswer : ssc'.autoanswer = ssc.autoanswer

namespace Frame

/-- Nothing was done. -/
theorem refl (ssc : Ssc) : Frame ssc ssc := ⟨rfl, rfl, rfl, rfl⟩

/-- One function after another. -/
theorem trans {a b c : Ssc} (hab : Frame a b) (hbc : Frame b c) : Frame a c :=
  ⟨hbc.sent.trans hab.sent, hbc.authenticates.trans hab.authenticates,
    hbc.authPend.trans hab.authPend, hbc.autoanswer.trans hab.autoanswer⟩

/-- A call of the stack that authenticates nothing. -/
theorem emit (ssc : Ssc) {c : NuaCall} (h : isAuthenticate c = false) :
    Frame ssc (ssc.emit c) :=
  ⟨rfl, by simp [Proofs.authenticates, Ssc.emit, h], rfl, rfl⟩

/-- A write to an operation. -/
theorem setOper (ssc : Ssc) (addr : Nat) (f : SscOper → SscOper) :
    Frame ssc (ssc.setOper addr f) := ⟨rfl, rfl, rfl, rfl⟩

/-- Any change of the operations. -/
theorem operations (ssc : Ssc) (operations : List SscOper) :
    Frame ssc { ssc with operations := operations } := ⟨rfl, rfl, rfl, rfl⟩

/-- Any change of the media. -/
theorem media (ssc : Ssc) (media : SscMediaSimple) : Frame ssc { ssc with media := media } :=
  ⟨rfl, rfl, rfl, rfl⟩

end Frame

/-- What the frame is about. -/
def frameView (ssc : Ssc) : List SofiaReply × List NuaCall × List SscAuthItem × Bool :=
  (ssc.sent, authenticates ssc, ssc.authPend, ssc.autoanswer)

/-- The frame does not look at the operations. -/
theorem blind_frameView : BlindToOperations frameView where
  operations _ _ := rfl
  media _ _ := rfl
  handle ssc _ _ := by simp [frameView, authenticates, Ssc.emit, isAuthenticate]
  handleDestroy ssc _ := by simp [frameView, authenticates, Ssc.emit, isAuthenticate]

/-- What the view has is all that the frame is about. -/
theorem Frame.of_view {ssc ssc' : Ssc} (h : frameView ssc' = frameView ssc) : Frame ssc ssc' := by
  simp only [frameView, Prod.mk.injEq] at h
  obtain ⟨hsent, hauthenticates, hauthPend, hautoanswer⟩ := h
  exact ⟨hsent, hauthenticates, hauthPend, hautoanswer⟩

/-- An operation goes. -/
theorem frame_sscOperDestroy (ssc : Ssc) (addr : Nat) : Frame ssc (sscOperDestroy ssc addr) :=
  .of_view (blind_frameView.sscOperDestroy ssc addr)

section Create
variable (env : SscEnv) (alloc : Alloc) (method : SipMethod)

/-- An operation comes. -/
theorem frame_sscOperCreate (address : Option CString) (ssc : Ssc) :
    Frame ssc (sscOperCreate env alloc method address ssc).1 :=
  .of_view (blind_frameView.sscOperCreate env alloc method address ssc)

/-- An operation comes, with its password. -/
theorem frame_sscOperCreateWithPassword (address password : Option CString) (ssc : Ssc) :
    Frame ssc (sscOperCreateWithPassword env alloc method address password ssc).1 :=
  .of_view (blind_frameView.sscOperCreateWithPassword env alloc method address password ssc)

/-- An operation comes for a handle that is lent. -/
theorem frame_sscOperCreateWithHandle (nh : Nat) (ssc : Ssc) :
    Frame ssc (sscOperCreateWithHandle alloc method nh ssc) :=
  (Frame.operations ssc _).trans (Frame.emit _ rfl)

/-- A request on the operation that was just made. -/
theorem frame_requestOn {created : Ssc × Option Nat} {ssc : Ssc} (h : Frame ssc created.1)
    (request : Nat → NuaCall) (hrequest : ∀ nh, isAuthenticate (request nh) = false) :
    Frame ssc (match created.2.bind created.1.oper? with
      | some op => created.1.emit (request op.opHandle)
      | none => created.1) := by
  split
  · exact h.trans (Frame.emit _ (hrequest _))
  · exact h

end Create

/-- The media of an operation. -/
theorem frame_privMediaStateCb (addr : Nat) (ssc : Ssc) :
    Frame ssc (privMediaStateCb addr ssc) := by
  unfold privMediaStateCb
  split
  · exact Frame.refl ssc
  · rename_i op hop
    split
    · split
      · dsimp only
        split
        · exact (Frame.setOper _ _ _).trans
            ((Frame.emit _ (c := .invite _ _ _) rfl).trans (Frame.setOper _ _ _))
        · exact (Frame.setOper _ _ _).trans (frame_sscOperDestroy _ _)
      · split
        · split
          · dsimp only
            split
            · exact (Frame.setOper _ _ _).trans (Frame.emit _ rfl)
            · exact (Frame.setOper _ _ _).trans (Frame.emit _ rfl)
          · exact (Frame.setOper _ _ _).trans (Frame.emit _ rfl)
        · exact Frame.refl ssc
    · split
      · exact (Frame.media ssc _).trans (frame_sscOperDestroy _ _)
      · exact Frame.refl ssc

/-- A call is answered. -/
theorem frame_sscAnswer (sdp : Option CString) (status : Nat) (phrase : CString) (ssc : Ssc) :
    Frame ssc (sscAnswer sdp status phrase ssc) := by
  have hstore : Frame ssc { ssc with ansStatus := status, ansPhrase := phrase } :=
    ⟨rfl, rfl, rfl, rfl⟩
  unfold sscAnswer
  split
  · exact Frame.refl ssc
  · dsimp only
    split
    · exact hstore.trans ((Frame.media _ _).trans (frame_privMediaStateCb _ _))
    · exact hstore.trans ((Frame.emit _ (c := .respond _ _ _ _) rfl).trans
        (frame_sscOperDestroy _ _))

/-- A call is hung up. -/
theorem frame_sscBye (ssc : Ssc) : Frame ssc (sscBye ssc) := by
  unfold sscBye
  split
  · exact Frame.refl ssc
  · exact (Frame.emit _ (c := .bye _) rfl).trans (Frame.setOper _ _ _)

/-- A call is cancelled. -/
theorem frame_sscCancel (ssc : Ssc) : Frame ssc (sscCancel ssc) := by
  unfold sscCancel
  split
  · exact Frame.emit _ rfl
  · split
    · exact Frame.emit _ rfl
    · exact Frame.refl ssc

/-- The operation of an event goes, if there is one. -/
theorem frame_destroyOf (op : Option SscOper) (ssc : Ssc) : Frame ssc (destroyOf op ssc) := by
  cases op with
  | none => exact Frame.refl ssc
  | some op => exact frame_sscOperDestroy ssc op.addr

end RestCommSdk.Proofs
