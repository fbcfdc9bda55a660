import RestCommSdk.CliInterface.SscSip

/-!
# `RestCommSdk.CliInterface.Registrations`: the SIP client and the REGISTER requests of nua

The commands that register and unregister, together with the part of nua that answers them.
A `nua_register` or a `nua_unregister` is a request on a handle. nua answers it with
responses, of which the last is final and no challenge. A handle whose registration was
answered with success is refreshed, and each refresh has responses of its own, until the
handle is unregistered or destroyed.
-/

set_option autoImplicit false

namespace RestCommSdk.CliInterface

/-- A request that nua has not answered. -/
inductive NuaRequest where
  | register (nh : Nat)
  | unregister (nh : Nat)
  deriving DecidableEq, Repr

/-- The handle of a request. -/
def NuaRequest.handle : NuaRequest → Nat
  | register nh => nh
  | unregister nh => nh

/-- The client, and what nua keeps of its handles. -/
structure Registrations where
  ssc : Ssc
  requests : List NuaRequest := []
  refreshing : List Nat := []
  /-- History: the request that was made last. -/
  last : Option NuaRequest := none
  /-- History: the handle of the registration that was requested last. -/
  lastRegister : Option Nat := none

namespace Registrations

/-- What a call of the client makes of the handles. -/
def call (s : Registrations) : NuaCall → Registrations
  | .register nh _ =>
    { s with
      requests := .register nh :: s.requests
      last := some (.register nh)
      lastRegister := some nh }
  | .unregister nh _ =>
    { s with
      requests := .unregister nh :: s.requests
      refreshing := s.refreshing.filter (· ≠ nh)
      last := some (.unregister nh) }
  | .handleDestroy nh =>
    { s with
      requests := s.requests.filter (·.handle ≠ nh)
      refreshing := s.refreshing.filter (· ≠ nh) }
  | _ => s

/-- The calls of a step of the client. -/
def after (s : Registrations) (ssc : Ssc) : Registrations :=
  ssc.nua.foldl call { s with ssc := ssc }

/-- The response ends its request. -/
def isFinal (status : Nat) : Bool := 200 ≤ status && !isChallenge status

/-- A response to a REGISTER, or to a refresh of it. With success the handle is refreshed from
then on, unless it is about to be unregistered. -/
def answerRegister (s : Registrations) (nh status : Nat) : Registrations :=
  if isFinal status then
    { s with
      requests := s.requests.erase (.register nh)
      refreshing :=
        if status < 300 ∧ .unregister nh ∉ s.requests then nh :: s.refreshing else s.refreshing }
  else s

/-- A response to an un-REGISTER. -/
def answerUnregister (s : Registrations) (nh status : Nat) : Registrations :=
  if isFinal status then { s with requests := s.requests.erase (.unregister nh) } else s

end Registrations

/-- What happens next: a command, or a response. -/
inductive RegistrationInput where
  | update (aor password registrar : Option CString) (unregister : Bool)
  | rRegister (nh status : Nat) (phrase : CString) (sip : Option Sip)
  | rUnregister (nh status : Nat) (sip : Option Sip)
  deriving DecidableEq, Repr

/-- One step. A response comes for a request that waits, or for a refresh. -/
def registrationStep (env : SscEnv) (s : Registrations) (input : Alloc × RegistrationInput) :
    Option Registrations :=
  match input.2 with
  | .update aor password registrar unregister =>
    (sscStep env input.1 s.ssc (.call (.update aor password registrar unregister))).map s.after
  | .rRegister nh status phrase sip =>
    if .register nh ∈ s.requests ∨ nh ∈ s.refreshing then
      (sscStep env input.1 s.ssc (.event nh (.rRegister status phrase sip))).map
        (s.answerRegister nh status).after
    else none
  | .rUnregister nh status sip =>
    if .unregister nh ∈ s.requests then
      (sscStep env input.1 s.ssc (.event nh (.rUnregister status sip))).map
        (s.answerUnregister nh status).after
    else none

end RestCommSdk.CliInterface
