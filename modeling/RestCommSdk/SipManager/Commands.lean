import RestCommSdk.CliInterface.SofiaReply
import RestCommSdk.Lib.Json

/-!
# `RestCommSdk.SipManager.Commands`: the commands that the App pipes to Sofia

The part of `SipManager.mm` that turns a call of the application into command texts:
`message:to:customHeaders:`, `mediaController:didCreateSdp:isInitiator:`, `updateParams:`
and the one-line commands, over `convert2FullURI:andDomain:`, `convert2FullDomain:` and
`[RCUtilities stringifyDictionary:]`.

A `Command` keeps what was put into it. `Command.text` is the text handed to `pipeToSofia`,
which closes it with a `$`. Where Objective-C raises an exception, because a dictionary
literal is given `nil`, the result is `none` and nothing has been piped.
-/

set_option autoImplicit false

namespace RestCommSdk.SipManager

open RestCommSdk.Lib
open RestCommSdk.CliInterface

/-! ### Strings and dictionaries -/

/-- An `NSDictionary` from strings to strings, in the order of its `allKeys`. -/
abbrev NSDictionary := Json.Members

/-- `objectForKey:`, also of a dictionary that may be `nil`. -/
def objectForKey (args : Option NSDictionary) (key : String) : Option CString :=
  args.bind fun d => d.lookup key.toList

/-- `dictionaryWithObjectsAndKeys:`. The list of its arguments ends at the first `nil`. -/
def dictionaryWithObjectsAndKeys : List (Option CString × String) → NSDictionary
  | (some object, key) :: rest => (key.toList, object) :: dictionaryWithObjectsAndKeys rest
  | _ => []

/-- `[RCUtilities stringifyDictionary:]`: `NSJSONSerialization` with pretty printing. -/
def stringifyDictionary (d : NSDictionary) : CString := Json.write d

/-- `pipeToSofia`: the bytes written for a command. -/
def pipeToSofia (msg : CString) : CString := msg ++ ['$']

/-- `[RCUtilities string:containsString:]` for a nonempty `containedString`; a `nil` string
contains nothing. -/
def containsString (string : Option CString) (containedString : String) : Bool :=
  match string with
  | none => false
  | some s => decide (containedString.toList <:+: s)

/-- `stringByReplacingOccurrencesOfString:withString:` for a nonempty `target`, scanning from
the left. The counter is the rest of an occurrence that has been replaced already. -/
def replaceOccurrences (target replacement : CString) : Nat → CString → CString
  | _, [] => []
  | skip + 1, _ :: s => replaceOccurrences target replacement skip s
  | 0, c :: s =>
    if target.isPrefixOf (c :: s) then
      replacement ++ replaceOccurrences target replacement (target.length - 1) s
    else
      c :: replaceOccurrences target replacement 0 s

/-- `stringByReplacingOccurrencesOfString:withString:`. -/
def replacing (s : CString) (target replacement : String) : CString :=
  replaceOccurrences target.toList replacement.toList 0 s

/-- The sip-headers of a command: one `<key>:<value>` line for every header. -/
def serializedHeaders (headers : NSDictionary) : CString :=
  headers.flatMap fun h => h.1 ++ ':' :: (h.2 ++ ['\r', '\n'])

/-! ### Parameters -/

/-- The dictionary `SipManager.params`, and the one given to `updateParams:`. -/
structure Params where
  aor : Option CString := none
  password : Option CString := none
  registrar : Option CString := none
  signalingSecure : Option Bool := none
  turnUrl : Option CString := none
  turnEnabled : Option Bool := none
  turnUsername : Option CString := none
  turnPassword : Option CString := none
  turnCandidateTimeout : Option CString := none
  iceConfigType : Option Nat := none
  iceDomain : Option CString := none
  iceServers : Option (List NSDictionary) := none
  certificateDir : Option CString := none
  deriving DecidableEq, Repr

/-- `[[params objectForKey:@"signaling-secure"] boolValue]`. -/
def Params.secure (params : Params) : Bool := params.signalingSecure.getD false

/-- The dictionary `SipManager.activeCallParams`. -/
structure ActiveCallParams where
  destination : Option CString := none
  initiator : Option Bool := none
  sipHeaders : Option NSDictionary := none
  sdp : Option CString := none
  deriving DecidableEq, Repr

/-- The scheme of a URI as `signaling-secure` asks for it. -/
def withScheme (params : Params) (uri : CString) : CString :=
  if params.secure then replacing uri "sip:" "sips:" else replacing uri "sips:" "sip:"

/-- The tests of `convert2FullURI:andDomain:` for a text that is a full URI already. -/
def isFullURI (original : CString) : Bool :=
  containsString (some original) "sip:" || containsString (some original) "sips:"

/-- `convert2FullURI:andDomain:`. -/
def convert2FullURI (params : Params) (original : CString) (domain : Option CString) :
    CString :=
  if original = [] then
    []
  else if isFullURI original then
    withScheme params original
  else
    let normalizedDomain := domain.map fun d => replacing (replacing d "sip:" "") "sips:" ""
    if containsString (some original) "tel:" then
      withScheme params (replacing original "tel:" "sip:" ++ '@' :: format normalizedDomain)
    else if containsString domain "sips:" then
      withScheme params ("sips:".toList ++ original ++ '@' :: format normalizedDomain)
    else
      withScheme params ("sip:".toList ++ original ++ '@' :: format normalizedDomain)

/-- `convert2FullDomain:`. -/
def convert2FullDomain (params : Params) (original : Option CString) : CString :=
  if original = some [] then
    []
  else if containsString original "sip:" || containsString original "sips:" then
    withScheme params (format original)
  else
    withScheme params ("sip:".toList ++ format original)

/-! ### Commands -/

/-- A command of the App, with the values put into it. -/
inductive Command where
  /-- `i`: place a call. -/
  | invite (destination : CString) (sdp password sipHeaders : Option CString)
  /-- `a`: answer the ringing call. -/
  | answer (sdp : CString)
  /-- `m`: send a text message. -/
  | message (destination msg : CString) (password sipHeaders : Option CString)
  /-- `u`: unregister. -/
  | unregister (password : CString)
  /-- `r`: register. -/
  | register (aor : Option CString) (registrar password : CString)
  /-- `addr`: change the public address. -/
  | address (aor : CString)
  /-- `info`: send DTMF digits. -/
  | info (dtmf : CString)
  /-- `d`: decline the ringing call. -/
  | decline
  /-- `c`: cancel the outgoing call. -/
  | cancel
  /-- `b`: hang up. -/
  | bye
  /-- `mr`: restart once the shutdown in progress is over. -/
  | markForRestart
  /-- `q` and `qr`: shut down, and shut down to start again. -/
  | shutdown (restart : Bool)
  deriving DecidableEq, Repr

/-- An entry that `setValue:forKey:` adds, unless the value is `nil`. -/
def entry (key : String) (value : Option CString) : NSDictionary :=
  (value.map fun v => (key.toList, v)).toList

namespace Command

/-- The word that starts the command. -/
def word : Command → CString
  | invite .. => "i".toList
  | answer .. => "a".toList
  | message .. => "m".toList
  | unregister .. => "u".toList
  | register .. => "r".toList
  | address .. => "addr".toList
  | info .. => "info".toList
  | decline => "d".toList
  | cancel => "c".toList
  | bye => "b".toList
  | markForRestart => "mr".toList
  | shutdown restart => if restart then "qr".toList else "q".toList

/-- The dictionary that follows the word, for the commands that have one. -/
def args : Command → Option NSDictionary
  | invite destination sdp password sipHeaders =>
    some (entry "destination" (some destination) ++ entry "sdp" sdp ++
      entry "password" password ++ entry "sip-headers" sipHeaders)
  | answer sdp => some (entry "sdp" (some sdp))
  | message destination msg password sipHeaders =>
    some (entry "destination" (some destination) ++ entry "message" (some msg) ++
      entry "sip-headers" sipHeaders ++ entry "password" password)
  | unregister password => some (entry "password" (some password))
  | register aor registrar password =>
    some (entry "aor" aor ++ entry "registrar" (some registrar) ++
      entry "password" (some password))
  | address aor => some (entry "aor" (some aor))
  | _ => none

/-- What follows the word and a blank. -/
def rest : Command → Option CString
  | info dtmf => some ("Signal=".toList ++ dtmf ++ "\r\nDuration=100\r\n".toList)
  | c => c.args.map stringifyDictionary

/-- The text of the command. -/
def text (c : Command) : CString :=
  match c.rest with
  | none => c.word
  | some rest => c.word ++ ' ' :: rest

end Command

/-! ### Calls that lead to commands -/

/-- `message:to:customHeaders:`. -/
def message (params : Params) (msg recipient : CString) (headers : Option NSDictionary) :
    List Command :=
  [.message (convert2FullURI params recipient params.registrar) msg params.password
    (headers.map serializedHeaders)]

/-- `kARDAppClientState`, the state of the media session. -/
inductive MediaState where
  | disconnected
  | connecting
  | connected
  deriving DecidableEq, Repr

/-- `mediaController:didCreateSdp:isInitiator:`. `media` is the state of `self.media`, where
`nil` reads as the first enumerator. -/
def didCreateSdp (media : Option MediaState) (activeCallParams : ActiveCallParams)
    (params : Params) (sdp : Option CString) (initiator : Bool) : Option (List Command) :=
  if media.getD .disconnected = .disconnected then
    some []
  else if initiator then do
    let destination ← activeCallParams.destination
    return [.invite destination sdp params.password
      (activeCallParams.sipHeaders.map serializedHeaders)]
  else do
    let sdp ← sdp
    return [.answer sdp]

/-- `sendDtmfDigits:`. -/
def sendDtmfDigits (dtmf : CString) : List Command := [.info dtmf]

/-- `UpdateParamsState`. -/
inductive UpdateParamsState where
  | unassigned
  | sentRegister
  | reestablishedRegistrarless
  deriving DecidableEq, Repr

/-- The dictionary `actionsDictionary` and the other variables of `updateParams:`. -/
structure Update where
  unregister : Option Command := none
  register : Option Command := none
  address : Option Command := none
  state : UpdateParamsState := .unassigned
  aorUpdated : Bool := false
  /-- `self.params`. -/
  stored : Params
  deriving DecidableEq, Repr

namespace Update

/-- The unregister action: it needs a stored password. -/
def setUnregister (u : Update) : Option Update := do
  let password ← u.stored.password
  return { u with unregister := some (.unregister password) }

/-- The register action, from the new parameters. -/
def setRegister (u : Update) (params : Params) : Update :=
  { u with
    register := some (.register
      (some (convert2FullURI u.stored (params.aor.getD []) params.registrar))
      (convert2FullDomain u.stored params.registrar) (params.password.getD []))
    state := .sentRegister
    aorUpdated := true }

/-- The block about `signaling-secure`. -/
def signalingSecure (u : Update) (params : Params) : Option Update :=
  match params.signalingSecure with
  | none => some u
  | some secure =>
    if secure = u.stored.secure then
      some u
    else do
      let u ← u.setUnregister
      let u := u.setRegister params
      return { u with stored := { u.stored with signalingSecure := some secure } }

/-- The tests of the block about `registrar`: the empty text asks for working without one. -/
def registrarActions (u : Update) (params : Params) (registrar : CString)
    (deviceIsOnline networkIsOnline : Bool) : Option Update :=
  if registrar = [] then
    if u.stored.registrar ≠ some [] then
      -- The registrar is given up. Offline there is nothing to unregister.
      if deviceIsOnline then u.setUnregister
      else if networkIsOnline then some { u with state := .reestablishedRegistrarless }
      else some u
    else some u
  else if u.stored.registrar ≠ some [] ∧ u.stored.registrar ≠ some registrar ∧
      deviceIsOnline then
    -- From one registrar to another.
    u.setUnregister.map fun u => u.setRegister params
  else some (u.setRegister params)

/-- The block about `registrar`. -/
def registrar (u : Update) (params : Params) (deviceIsOnline networkIsOnline : Bool) :
    Option Update :=
  match params.registrar with
  | none => some u
  | some registrar =>
    (u.registrarActions params registrar deviceIsOnline networkIsOnline).map fun u =>
      { u with stored := { u.stored with registrar := some registrar } }

/-- The block about `aor`. -/
def aor (u : Update) (params : Params) : Update :=
  match params.aor with
  | none => u
  | some aor =>
    let u := { u with stored := { u.stored with aor := some aor } }
    if u.aorUpdated then u
    else { u with address := some (.address (convert2FullURI u.stored aor u.stored.registrar)) }

/-- The actions in the order in which they are executed. -/
def commands (u : Update) : List Command :=
  u.unregister.toList ++ u.register.toList ++ u.address.toList

/-- The remaining keys that are stored when they are given. -/
def storeOthers (u : Update) (params : Params) : Params :=
  { u.stored with
    password := params.password.or u.stored.password
    turnUrl := params.turnUrl.or u.stored.turnUrl
    turnEnabled := params.turnEnabled.or u.stored.turnEnabled
    turnUsername := params.turnUsername.or u.stored.turnUsername
    turnPassword := params.turnPassword.or u.stored.turnPassword
    turnCandidateTimeout := params.turnCandidateTimeout.or u.stored.turnCandidateTimeout
    iceConfigType := params.iceConfigType.or u.stored.iceConfigType }

end Update

/-- `updateParams:deviceIsOnline:networkIsOnline:`: the commands piped, the returned state
and the stored parameters afterwards. -/
def updateParams (stored : Params) (params : Option Params)
    (deviceIsOnline networkIsOnline : Bool) :
    Option (List Command × UpdateParamsState × Params) :=
  match params with
  | some params => do
    let u ← Update.signalingSecure { stored := stored } params
    let u ← u.registrar params deviceIsOnline networkIsOnline
    let u := u.aor params
    return (u.commands, u.state, u.storeOthers params)
  | none => do
    let password ← stored.password
    return ([.register none (convert2FullDomain stored stored.registrar) password],
      .unassigned, stored)

end RestCommSdk.SipManager
