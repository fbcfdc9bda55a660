import RestCommSdk.Proofs.SofiaTurns
import RestCommSdk.Proofs.SscReplies

/-!
# `RestCommSdk.Proofs.BadDestinations`: requests to addresses that make no sense

`ssc_oper_create` refuses an address that `sip_to_make` or `url_sanitize` does not take, but
without an address it takes over the first operation that is not persistent, whatever that
operation is about. `ssc_invite` reports that there is no operation; `ssc_message` and
`ssc_register` make the reply and never send it.

`harmless_iff` states which requests with a bad destination leave the operations and their
handles alone and are reported once: an `i` whose destination is refused, and an `i` without
one while there is no operation to take over.
-/

set_option autoImplicit false

namespace RestCommSdk.Proofs

open RestCommSdk.Lib (run)
open RestCommSdk.CliInterface
open RestCommSdk.SipManager (NSDictionary objectForKey)

/-- The requests that carry a destination. -/
inductive RequestKind where
  | invite
  | message
  | register
  deriving DecidableEq, Repr

namespace RequestKind

/-- The line asks for such a request. -/
def asks (kind : RequestKind) (line : CString) : Bool :=
  match kind with
  | invite => isWord line "i" "invite"
  | message => isWord line "m" "message"
  | register => isWord line "r" "register"

/-- The error of this kind for an invalid URI. -/
def uriInvalid : RequestKind → SipMsgEnum
  | invite => .errorSipInviteSipUriInvalid
  | message => .errorSipMessageUriInvalid
  | register => .errorSipRegisterUriInvalid

/-- Where the request goes: the destination of the line, or the AOR once the line was read. -/
def destination (kind : RequestKind) (jsonObject : CString → Option NSDictionary) (line : CString)
    (ssc : Ssc) : Option CString :=
  match kind with
  | invite | message => lineArgument jsonObject line "destination"
  | register => (lineArgument jsonObject line "aor").or ssc.address

end RequestKind

/-- A destination that is missing, empty or no SIP address. -/
def BadDestination (env : SscEnv) (destination : Option CString) : Prop :=
  ∀ address, destination = some address → address = [] ∨ env.validAddress address = false

/-- The handle that a call of the stack is made on. -/
def onHandle : NuaCall → Option Nat
  | .handle nh _ | .handleBind nh | .handleDestroy nh | .handleRef nh | .handleUnref nh
  | .invite nh _ _ | .respond nh _ _ _ | .bye nh | .cancel nh | .message nh _ _ | .info nh _
  | .options nh | .refer nh _ | .subscribe nh _ _ | .unsubscribe nh | .register nh _
  | .unregister nh _ | .publish nh | .authenticate nh _ => some nh
  | .setRegistrar _ | .setFrom _ | .shutdown => none

/-- The operation is still there, with its handle, its method and the name of that, its password and
its call state. -/
def Unharmed (op op' : SscOper) : Prop :=
  op'.addr = op.addr ∧ op'.opHandle = op.opHandle ∧ op'.opMethod = op.opMethod ∧
    op'.opMethodName = op.opMethodName ∧ op'.opPersistent = op.opPersistent ∧
    op'.password = op.password ∧ op'.opCallstate = op.opCallstate

/-- The turn leaves every operation and its handle alone, and reports `error` once. -/
structure Harmless (error : SipMsgEnum) (ssc ssc' : Ssc) : Prop where
  operations : ∀ op ∈ ssc.operations, ∃ op' ∈ ssc'.operations, Unharmed op op'
  handles : ∀ op ∈ ssc.operations, ∀ c ∈ ssc'.nua, onHandle c ≠ some op.opHandle
  reported : ssc'.sent.map (·.rc) = [error.code]

/-- The request is an `i`, and `ssc_oper_create` makes no operation for it. -/
def MakesNone (env : SscEnv) (jsonObject : CString → Option NSDictionary) (kind : RequestKind)
    (line : CString) (ssc : Ssc) : Prop :=
  kind = .invite ∧ (scanCommand line).2.isSome ∧
    creates env ssc (lineArgument jsonObject line "destination") = false

instance (env : SscEnv) (jsonObject : CString → Option NSDictionary) (kind : RequestKind)
    (line : CString) (ssc : Ssc) : Decidable (MakesNone env jsonObject kind line ssc) :=
  inferInstanceAs (Decidable (_ ∧ _))

variable {env : SscEnv} {jsonObject : CString → Option NSDictionary} {alloc : Alloc}
  {s s' : SofiaThread} {line prompt : CString}

/-- Where no operation is made, nothing has changed. -/
theorem sscOperCreate_none {method : SipMethod} {address : Option CString} {ssc : Ssc}
    (h : creates env ssc address = false) :
    sscOperCreate env alloc method address ssc = (ssc, none) := by
  cases address with
  | none =>
    have hnone : sscOperOld ssc = none := by simpa [creates] using h
    simp only [sscOperCreate, hnone]
  | some address =>
    have hvalid : env.validAddress address = false := h
    simp only [sscOperCreate, hvalid, Bool.false_eq_true, if_false]

/-- At an address that is valid there is an operation. -/
theorem sscOperCreate_isSome {method : SipMethod} {address : Option CString} {ssc : Ssc}
    (h : creates env ssc address = true) :
    (sscOperCreate env alloc method address ssc).2.isSome = true := by
  cases address with
  | none =>
    obtain ⟨old, hold⟩ := Option.isSome_iff_exists.mp h
    simp only [sscOperCreate, hold, Option.isSome_some]
  | some address =>
    have hvalid : env.validAddress address = true := h
    simp only [sscOperCreate, hvalid, if_true, Option.isSome_some]

/-- `ssc_oper_create_with_password` makes an operation where `ssc_oper_create` does. -/
theorem sscOperCreateWithPassword_isSome (method : SipMethod) (address password : Option CString)
    (ssc : Ssc) :
    (sscOperCreateWithPassword env alloc method address password ssc).2.isSome =
      creates env ssc address := by
  cases hcreates : creates env ssc address with
  | false => simp [sscOperCreateWithPassword, sscOperCreate_none hcreates]
  | true =>
    have hsome : (sscOperCreate env alloc method address ssc).2.isSome = true :=
      sscOperCreate_isSome hcreates
    obtain ⟨addr, haddr⟩ := Option.isSome_iff_exists.mp hsome
    simp [sscOperCreateWithPassword, haddr]

/-- What `ssc_invite` writes. -/
theorem callReplies_invite (ssc : Ssc) (destination password sdp headers : Option CString) :
    callReplies env alloc ssc (.invite destination password sdp headers) =
      if creates env ssc destination = false then
        [SipMsgEnum.errorSipInviteSipUriInvalid.errorReply]
      else [] := by
  rw [callReplies, sscOperCreateWithPassword_isSome]
  cases creates env ssc destination <;> rfl

/-- What a turn for a request writes to the App. -/
theorem sent_request {kind : RequestKind} (hkind : kind.asks line = true)
    (h : sofiaStep env jsonObject s (alloc, .line line prompt) = some s') :
    s'.ssc.sent =
      if MakesNone env jsonObject kind line s.ssc then
        [SipMsgEnum.errorSipInviteSipUriInvalid.errorReply]
      else [] := by
  obtain ⟨-, ⟨hcalls, hssc⟩ | ⟨c, hcalls, hcall⟩⟩ := sofiaStep_line h
  · -- Without arguments nothing is called.
    rw [hssc, if_neg]
    · rfl
    · rintro ⟨rfl, hrest, -⟩
      rw [sofsipHandleInput_invite hkind, if_pos hrest] at hcalls
      cases hcalls
  · rw [sent_sscCall env alloc hcall]
    cases kind with
    | invite =>
      rw [sofsipHandleInput_invite hkind] at hcalls
      split at hcalls
      · rename_i hrest
        cases hcalls
        rw [callReplies_invite]
        -- The outputs of the turn before play no part in what is made.
        have hcreates : ∀ address,
            creates env (turnStart s.ssc) address = creates env s.ssc address := fun _ => rfl
        simp only [MakesNone, hrest, hcreates, true_and]
        rfl
      · cases hcalls
    | message =>
      rw [sofsipHandleInput_message hkind] at hcalls
      split at hcalls <;> cases hcalls
      simp [callReplies, turnStart, MakesNone]
    | register =>
      rw [sofsipHandleInput_register hkind] at hcalls
      cases hcalls
      simp [callReplies, turnStart, MakesNone]

/-- A request leaves the operations of the list and their handles alone, and is reported once as
one to an invalid URI, exactly when it is an `i` with arguments for which no operation is made:
its destination is refused, or it has none and there is no operation to take over. -/
theorem harmless_iff (env : SscEnv) (jsonObject : CString → Option NSDictionary) (alloc : Alloc)
    (s : SofiaThread) (hfresh : alloc.Fresh s.ssc) (kind : RequestKind) (line prompt : CString)
    (hkind : kind.asks line = true) :
    (∃ s', sofiaStep env jsonObject s (alloc, .line line prompt) = some s' ∧
        Harmless kind.uriInvalid s.ssc s'.ssc) ↔
      MakesNone env jsonObject kind line s.ssc := by
  constructor
  · rintro ⟨s', hstep, hharmless⟩
    by_contra hnone
    have hreported := hharmless.reported
    -- What was reported was sent for a request that made no operation.
    rw [sent_request hkind hstep, if_neg hnone] at hreported
    cases hreported
  · intro hnone
    obtain ⟨rfl, hrest, hcreates⟩ := hnone
    have hcalls : (sofsipHandleInput jsonObject s.cli line).2 = _ := sofsipHandleInput_invite hkind
    rw [if_pos hrest] at hcalls
    -- The invite is refused with one reply, and nothing else changes.
    have hcall : sscCall env alloc prompt (turnStart s.ssc)
        (.invite (lineArgument jsonObject line "destination")
          (lineArgument jsonObject line "password") (lineArgument jsonObject line "sdp")
          (lineArgument jsonObject line "sip-headers")) =
        some ((turnStart s.ssc).send SipMsgEnum.errorSipInviteSipUriInvalid.errorReply) := by
      have hnone : creates env (turnStart s.ssc) (lineArgument jsonObject line "destination")
          = false := hcreates
      simp [sscCall, sscInvite, sscOperCreateWithPassword, sscOperCreate_none hnone]
    refine ⟨_, sofiaStep_of_call hfresh hcalls hcall, ?_, ?_, rfl⟩
    · intro op hop
      exact ⟨op, hop, rfl, rfl, rfl, rfl, rfl, rfl, rfl⟩
    · intro op _ c hc
      cases hc

/-- A stack that takes `sip:` addresses. -/
def sipEnv : SscEnv :=
  { validAddress := fun address => "sip:".toList.isPrefixOf address
    operCheck := fun l a => decide (a ∈ l) }

/-- A call to an address without a scheme. -/
theorem harmless_iff_no_scheme :
    (∃ s', sofiaStep sipEnv Lib.Json.read {}
          (⟨1, 1⟩, .line "i \x7b\"destination\":\"bob\"\x7d".toList) = some s' ∧
        Harmless RequestKind.invite.uriInvalid ({} : SofiaThread).ssc s'.ssc) ↔
      MakesNone sipEnv Lib.Json.read .invite "i \x7b\"destination\":\"bob\"\x7d".toList
        ({} : SofiaThread).ssc :=
  harmless_iff sipEnv Lib.Json.read ⟨1, 1⟩ {} (by decide) .invite
    "i \x7b\"destination\":\"bob\"\x7d".toList [] (by decide)

/-- A call that comes in. -/
def incomingCall (nh : Nat) : SofiaInput :=
  .event nh (.iInvite (some
    { sipFrom := some { url := "sip:b@h".toList, urlUser := none }
      hasTo := true
      payload := some "v=0".toList }))

/-- A text message without a destination, while a call rings: the operation of the call becomes
one of a MESSAGE, which is sent on its handle, and nothing is reported. -/
theorem message_takes_over_call :
    ∃ s s', run (sofiaStep sipEnv Lib.Json.read) {} [(⟨1, 1⟩, incomingCall 7)] = some s ∧
      BadDestination sipEnv (RequestKind.message.destination Lib.Json.read
        "m \x7b\"message\":\"hi\"\x7d".toList s.ssc) ∧
      sofiaStep sipEnv Lib.Json.read s (⟨2, 2⟩, .line "m \x7b\"message\":\"hi\"\x7d".toList)
        = some s' ∧
      s'.ssc.operations.map (fun op => (op.opHandle, op.opMethod)) = [(7, .message)] ∧
      s'.ssc.nua = [.message 7 none (some "hi".toList)] ∧
      ¬ Harmless RequestKind.message.uriInvalid s.ssc s'.ssc := by
  refine ⟨_, _, rfl, ?_, rfl, by decide, by decide, fun h => absurd h.reported (by decide)⟩
  intro address h
  cases h

end RestCommSdk.Proofs
