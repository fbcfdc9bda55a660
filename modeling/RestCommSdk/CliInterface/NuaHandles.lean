import RestCommSdk.CliInterface.SscSip
import RestCommSdk.Lib.Resources

/-!
# `RestCommSdk.CliInterface.NuaHandles`: the handles of the client, as the stack sees them

nua does not know the operations of `ssc_oper.mm`. It knows the calls that it gets: `nua_handle`
and `nua_handle_bind` make a handle one of the client, `nua_handle_destroy` ends that, and every
other call on a handle is a use of it (`NuaCall.access`). An event can hand a handle over too:
the client then gives it back in the very step, without an operation for it
(`handleAccesses`). `sscWithStack` is the client together with the handles that it holds in this
sense.

`delivers` is what a step of the client needs of its input to come to an end. A response, a BYE
and a CANCEL must come on a handle that the client holds, and an event or a command with all the
parts that the code reads without a test. nua promises the first. It does not promise the second:
an INVITE without a body is a legal request, and a command can lack its argument.
-/

set_option autoImplicit false

namespace RestCommSdk.CliInterface

open RestCommSdk.Lib

/-- What a call of the stack does with a handle. -/
def NuaCall.access : NuaCall → Option (Access Nat)
  | .handle nh _ | .handleBind nh => some (.acquire nh)
  | .handleDestroy nh => some (.release nh)
  | .handleRef nh | .handleUnref nh | .invite nh _ _ | .respond nh _ _ _ | .bye nh | .cancel nh
  | .message nh _ _ | .info nh _ | .options nh | .refer nh _ | .subscribe nh _ _
  | .unsubscribe nh | .register nh _ | .unregister nh _ | .publish nh | .authenticate nh _ =>
    some (.use nh)
  | .setRegistrar _ | .setFrom _ | .shutdown => none

/-- The handle that an event may hand over: the dialog of a fork, and the handle of an event that
is dealt with without an operation. -/
def SscInput.lent : SscInput → Option Nat
  | .event _ (.iFork nh2) => nh2
  | .event nh (.iPrack _) | .event nh .unhandled => some nh
  | _ => none

/-- What the calls of a step do with handles, when the client holds `held` before it. A handle
that the event hands over is acquired with the event, if the step calls the stack on it. -/
def handleAccesses (held : List Nat) (input : SscInput) (nua : List NuaCall) :
    List (Access Nat) :=
  let accesses := nua.filterMap NuaCall.access
  match input.lent with
  | some nh =>
    if nh ∉ held ∧ nh ∈ accesses.map Access.resource then .acquire nh :: accesses else accesses
  | none => accesses

/-- The handles of the operations. -/
def Ssc.handles (ssc : Ssc) : List Nat := ssc.operations.map (·.opHandle)

/-- What a step of the client does with its handles. -/
def stepAccesses (ssc : Ssc) (input : Alloc × SscInput) (ssc' : Ssc) : List (Access Nat) :=
  handleAccesses ssc.handles input.2 ssc'.nua

/-- The client and the handles that it holds. -/
def sscWithStack (env : SscEnv) (s : Ssc × List Nat) (input : Alloc × SscInput) :
    Option (Ssc × List Nat) := do
  let ssc ← sscMachine env s.1 input
  let held ← holds s.2 (handleAccesses s.2 input.2 ssc.nua)
  return (ssc, held)

/-! ### What an input must carry -/

/-- The events whose handlers read the operation: the responses, a BYE, a CANCEL, and the
`NOTIFY` that stands for a timeout. -/
def NuaEvent.ofClient : NuaEvent → Bool
  | .rRegister .. | .rUnregister .. | .rOptions .. | .rInvite .. | .rBye .. | .rMessage ..
  | .rInfo .. | .rRefer .. | .rSubscribe .. | .rUnsubscribe .. | .rPublish .. | .rNotify ..
  | .iBye | .iCancel | .iNotify none => true
  | _ => false

/-- The event has the parts of its message that its handler reads without a test. -/
def NuaEvent.complete : NuaEvent → Bool
  | .rRegister status _ sip | .rUnregister status sip | .rOptions status sip
  | .rMessage status sip | .rInfo status sip | .rRefer status sip | .rSubscribe status sip
  | .rNotify status sip => !isChallenge status || sip.isSome
  | .rInvite status sip =>
    (!isChallenge status || sip.isSome) &&
      (status ≠ 200 || sip.any fun message => message.payload.isSome)
  | .rPublish status sip =>
    !(isChallenge status || (200 ≤ status && status < 300)) || sip.isSome
  | .iInvite sip => sip.all fun message => message.payload.isSome
  | .iMessage sip =>
    sip.any fun message => message.sipFrom.isSome && message.hasTo && message.payload.isSome
  | .iInfo sip => sip.any fun message => message.sipFrom.isSome && message.hasTo
  | .iRefer sip =>
    sip.any fun message => message.sipFrom.isSome && message.hasTo && message.referTo.isSome
  | .iNotify sip => sip.all fun message => message.sipFrom.isSome
  | _ => true

/-- The command has the arguments that its function reads without a test. -/
def SscCall.complete : SscCall → Bool
  | .invite _ _ sdp _ => sdp.isSome
  | .auth data => data.isSome
  | .subscribe destination => destination.isSome
  | .watch event => event.isSome
  | _ => true

/-- The dialog of a fork is new to the client. -/
def forksNew (held : List Nat) : SscInput → Bool
  | .event _ (.iFork (some nh2)) => nh2 ∉ held
  | _ => true

/-- The input lets a client that holds these handles take its step: what is about an operation
comes on one of them, and with all its parts. -/
def delivers (held : List Nat) (input : SscInput) : Bool :=
  forksNew held input &&
    match input with
    | .call c _ => c.complete
    | .event nh e => (!e.ofClient || nh ∈ held) && e.complete

end RestCommSdk.CliInterface
