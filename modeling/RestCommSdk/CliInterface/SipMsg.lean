import RestCommSdk.CliInterface.SofiaReply

/-!
# `RestCommSdk.CliInterface.SipMsg`: the codes of the replies

`enum SipMsgEnum` of `ssc_sip.h`, whose error codes are those of `enum errorCodes` in
`RestCommClient.h`, and the error texts of `[RestCommClient getErrorText:]`.
-/

set_option autoImplicit false

namespace RestCommSdk.CliInterface

/-- `enum SipMsgEnum`. -/
inductive SipMsgEnum where
  | errorSipInviteGeneric
  | errorSipInviteNotFound
  | errorSipInviteAuthentication
  | errorSipInviteTimeout
  | errorSipInviteSipUriInvalid
  | errorSipInviteServiceUnavailable
  | errorSipMessageGeneric
  | errorSipMessageNotFound
  | errorSipMessageAuthentication
  | errorSipMessageTimeout
  | errorSipMessageUriInvalid
  | errorSipMessageServiceUnavailable
  | errorSipRegisterGeneric
  | errorSipRegisterAuthentication
  | errorSipRegisterServiceUnavailable
  | errorSipRegisterTimeout
  | errorSipRegisterUriInvalid
  | errorSipDtmfDigits
  | errorSipInitializingSignaling
  | replyAuth
  | incomingCall
  | incomingMsg
  | outgoingRinging
  | outgoingEstablished
  | incomingEstablished
  | webrtcSdpResponse
  | outgoingByeResponse
  | incomingBye
  | signallingInitialized
  | incomingCancelled
  | outgoingDeclined
  | outgoingCancelled
  | registerSuccess
  deriving DecidableEq, Repr

namespace SipMsgEnum

/-- The value of the enumerator. -/
def code : SipMsgEnum → Int32
  | errorSipInviteGeneric => 6
  | errorSipInviteNotFound => 7
  | errorSipInviteAuthentication => 8
  | errorSipInviteTimeout => 9
  | errorSipInviteSipUriInvalid => 10
  | errorSipInviteServiceUnavailable => 11
  | errorSipMessageGeneric => 12
  | errorSipMessageNotFound => 13
  | errorSipMessageAuthentication => 14
  | errorSipMessageTimeout => 15
  | errorSipMessageUriInvalid => 16
  | errorSipMessageServiceUnavailable => 17
  | errorSipRegisterGeneric => 18
  | errorSipRegisterAuthentication => 19
  | errorSipRegisterServiceUnavailable => 20
  | errorSipRegisterTimeout => 21
  | errorSipRegisterUriInvalid => 22
  | errorSipDtmfDigits => 23
  | errorSipInitializingSignaling => 25
  | replyAuth => 27
  | incomingCall => 28
  | incomingMsg => 29
  | outgoingRinging => 30
  | outgoingEstablished => 31
  | incomingEstablished => 32
  | webrtcSdpResponse => 33
  | outgoingByeResponse => 34
  | incomingBye => 35
  | signallingInitialized => 36
  | incomingCancelled => 37
  | outgoingDeclined => 38
  | outgoingCancelled => 39
  | registerSuccess => 40

/-- Every enumerator. -/
def all : List SipMsgEnum :=
  [errorSipInviteGeneric, errorSipInviteNotFound, errorSipInviteAuthentication,
    errorSipInviteTimeout, errorSipInviteSipUriInvalid, errorSipInviteServiceUnavailable,
    errorSipMessageGeneric, errorSipMessageNotFound, errorSipMessageAuthentication,
    errorSipMessageTimeout, errorSipMessageUriInvalid, errorSipMessageServiceUnavailable,
    errorSipRegisterGeneric, errorSipRegisterAuthentication,
    errorSipRegisterServiceUnavailable, errorSipRegisterTimeout, errorSipRegisterUriInvalid,
    errorSipDtmfDigits, errorSipInitializingSignaling, replyAuth, incomingCall, incomingMsg,
    outgoingRinging, outgoingEstablished, incomingEstablished, webrtcSdpResponse,
    outgoingByeResponse, incomingBye, signallingInitialized, incomingCancelled,
    outgoingDeclined, outgoingCancelled, registerSuccess]

/-- The enumerator with this value. -/
def ofCode (rc : Int32) : Option SipMsgEnum := all.find? (·.code = rc)

/-- The values of the enumerators differ. -/
@[simp] theorem ofCode_code (e : SipMsgEnum) : ofCode e.code = some e := by
  cases e <;> decide

/-- `[RestCommClient getErrorText:]` for the codes that are errors. -/
def getErrorText : SipMsgEnum → CString
  | errorSipInviteGeneric => "Generic call error".toList
  | errorSipInviteNotFound => "Called party not found".toList
  | errorSipInviteAuthentication => "Error authenticating user for the call".toList
  | errorSipInviteTimeout => "Call timed out".toList
  | errorSipInviteSipUriInvalid => "Called party URI is invalid".toList
  | errorSipInviteServiceUnavailable =>
    "Call failed due to service being unavailable".toList
  | errorSipMessageGeneric => "Text message generic error".toList
  | errorSipMessageNotFound => "Text message error:recipient not found".toList
  | errorSipMessageAuthentication => "Error authenticating user for text message".toList
  | errorSipMessageTimeout => "Text message timed out".toList
  | errorSipMessageUriInvalid => "Text message recipient URI is invalid".toList
  | errorSipMessageServiceUnavailable =>
    "Text message failed due to service being unavailable".toList
  | errorSipRegisterGeneric => "Registration generic error".toList
  | errorSipRegisterAuthentication => "Error authenticating with Restcomm".toList
  | errorSipRegisterServiceUnavailable =>
    "Error connecting to Restcomm: service unavailable".toList
  | errorSipRegisterTimeout => "Registration with Restcomm timed out".toList
  | errorSipRegisterUriInvalid => "Register URI is invalid".toList
  | errorSipDtmfDigits => "Error sending DTMF Digits".toList
  | errorSipInitializingSignaling =>
    "Error initializing signaling: no valid network interface to bind to".toList
  | _ => []

/-- The reply with this code and no text. -/
def reply (e : SipMsgEnum) : SofiaReply := { rc := e.code }

/-- The reply with this code and a text. -/
def replyWith (e : SipMsgEnum) (text : CString) : SofiaReply := { rc := e.code, text := text }

/-- The reply that reports the error. -/
def errorReply (e : SipMsgEnum) : SofiaReply := e.replyWith e.getErrorText

/-- No error text has a `$`. -/
theorem dollar_notMem_getErrorText (e : SipMsgEnum) : '$' ∉ e.getErrorText := by
  cases e <;> decide +kernel

end SipMsgEnum

end RestCommSdk.CliInterface
