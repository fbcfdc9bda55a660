import RestCommSdk.CliInterface.SscOper
import RestCommSdk.CliInterface.SofsipCli

/-!
# `RestCommSdk.CliInterface.SscSip`: the SIP client

The functions of `ssc_sip.mm`: the commands that `sofsip_handle_input_cb` calls (`sscCall`),
and the events of the stack that `priv_callback` dispatches (`privCallback`). `sscStep` is one
of either. A step is `none` where the code reads through a `NULL` pointer or fails an
`assert`.

An event comes with the nua handle it is about. The operation that the stack hands over with
it is the one bound to that handle, if the list has it.
-/

set_option autoImplicit false

namespace RestCommSdk.CliInterface

open RestCommSdk.SipManager (NSDictionary dictionaryWithObjectsAndKeys stringifyDictionary)

/-! ### SIP messages -/

/-- A challenge: the scheme, and the `realm=` parameter. -/
structure Challenge where
  scheme : CString
  realm : Option CString
  deriving DecidableEq, Repr

/-- The From header. -/
structure SipFrom where
  /-- The URL as `URL_PRINT_FORMAT` prints it. -/
  url : CString
  /-- The user part of the URL. -/
  urlUser : Option CString
  deriving DecidableEq, Repr

/-- The Refer-To header. -/
structure SipReferTo where
  /-- The scheme is `sip:`. -/
  isSip : Bool
  /-- The header as text. -/
  text : CString
  deriving DecidableEq, Repr

/-- `sip_t`, the headers that the client reads. -/
structure Sip where
  sipFrom : Option SipFrom := none
  /-- There is a To header. -/
  hasTo : Bool := false
  payload : Option CString := none
  wwwAuthenticate : Option Challenge := none
  proxyAuthenticate : Option Challenge := none
  referTo : Option SipReferTo := none
  /-- The `ex_delta` of the Expires header. -/
  expires : Option Nat := none
  deriving DecidableEq, Repr

/-- The tags of a state event. -/
structure StateTags where
  state : NuaCallstate
  localSdp : Option CString := none
  remoteSdp : Option CString := none
  /-- An offer or an answer was sent. -/
  sdpSent : Bool := false
  deriving DecidableEq, Repr

/-- The events of `priv_callback`. Responses come with their status, and with the message
when one was received. -/
inductive NuaEvent where
  | rShutdown (status : Nat)
  | rGetParams (sipFrom : Option CString)
  | rRegister (status : Nat) (phrase : CString) (sip : Option Sip)
  | rUnregister (status : Nat) (sip : Option Sip)
  | iOptions
  | rOptions (status : Nat) (sip : Option Sip)
  | rInvite (status : Nat) (sip : Option Sip)
  | iFork (nh2 : Option Nat)
  | iInvite (sip : Option Sip)
  | iPrack (sip : Option Sip)
  | iState (tags : StateTags)
  | rBye (status : Nat) (sip : Option Sip)
  | iBye
  | rMessage (status : Nat) (sip : Option Sip)
  | iMessage (sip : Option Sip)
  | rInfo (status : Nat) (sip : Option Sip)
  | iInfo (sip : Option Sip)
  | rRefer (status : Nat) (sip : Option Sip)
  | iRefer (sip : Option Sip)
  | rSubscribe (status : Nat) (sip : Option Sip)
  | rUnsubscribe (status : Nat)
  | rPublish (status : Nat) (sip : Option Sip)
  | rNotify (status : Nat) (sip : Option Sip)
  | iNotify (sip : Option Sip)
  | iCancel
  | iError
  /-- `nua_i_active` and the other events without a handler of their own. -/
  | ignored
  /-- Any other event. -/
  | unhandled
  deriving DecidableEq, Repr

/-- A From header as far as the buffer `char url[1000]` holds it. -/
def SipFrom.printed (f : SipFrom) : CString := f.url.take 999

/-! ### Authentication -/

/-- The text that `ssc_auth` hands to `nua_authenticate` for an item, by the number of colons
in the data. -/
def authString (item : SscAuthItem) (data : CString) : CString :=
  if data.count ':' = 0 then
    item.scheme ++ ':' :: (format item.realm ++ ':' :: (format item.username ++ ':' :: data))
  else if data.count ':' = 1 then
    item.scheme ++ ':' :: (format item.realm ++ ':' :: data)
  else data

/-- The loop of `ssc_auth` over the pending requests: up to and with the first one whose
operation is still there. -/
def sscAuthLoop (env : SscEnv) (data : CString) (ssc : Ssc) : List SscAuthItem → Ssc
  | [] => { ssc with authPend := [] }
  | item :: rest =>
    if env.operCheck (ssc.operations.map (·.addr)) item.op then
      let ssc := { ssc with authPend := rest }
      match ssc.oper? item.op with
      | some op =>
        (ssc.emit (.authenticate op.opHandle (authString item data))).emit
          (.handleUnref op.opHandle)
      | none => ssc
    else sscAuthLoop env data ssc rest

/-- `ssc_auth`. -/
def sscAuth (env : SscEnv) (ssc : Ssc) (data : CString) : Ssc :=
  sscAuthLoop env data ssc ssc.authPend

/-- `priv_store_pending_auth`. -/
def privStorePendingAuth (challenge : Challenge) (sipFrom : Option SipFrom) (op : SscOper) :
    SscAuthItem :=
  { scheme := challenge.scheme, realm := challenge.realm
    username := sipFrom.bind (·.urlUser), op := op.addr }

/-- `priv_attach_op_and_username`: the handle is kept alive, and the item queued. -/
def privAttachOp (op : SscOper) (ssc : Ssc) (item : SscAuthItem) : Ssc :=
  { ssc.emit (.handleRef op.opHandle) with authPend := ssc.authPend ++ [item] }

/-- The challenges of a response, in the order in which they are queued. -/
def Sip.challenges (sip : Sip) : List Challenge :=
  sip.wwwAuthenticate.toList ++ sip.proxyAuthenticate.toList

/-- The items that a response to `op` queues. -/
def pendingItems (sip : Sip) (op : SscOper) : List SscAuthItem :=
  sip.challenges.map fun c => privStorePendingAuth c sip.sipFrom op

/-- `ssc_store_pending_auth`. -/
def sscStorePendingAuth (env : SscEnv) (ssc : Ssc) (op : Option SscOper) (sip : Option Sip) :
    Option Ssc := do
  let op ← op
  let sip ← sip
  let ssc := (pendingItems sip op).foldl (privAttachOp op) ssc
  match op.password with
  | some password => return sscAuth env ssc password
  | none => return ssc

/-- The responses that challenge. -/
def isChallenge (status : Nat) : Bool := status = 401 || status = 407

/-! ### Calls -/

/-- `priv_media_state_cb`, for the operation at `addr`. -/
def privMediaStateCb (addr : Nat) (ssc : Ssc) : Ssc :=
  match ssc.oper? addr with
  | none => ssc
  | some op =>
    if ssc.media.smState = .localReady || ssc.media.smState = .active then
      if op.opCallstate.pending && ssc.media.smState ≠ .disabled then
        -- `op_callstate & !opc_pending` leaves no bit at all.
        let ssc := ssc.setOper addr fun op => { op with opCallstate := .none }
        if ssc.media.localSdp ≠ [] then
          let ssc := ssc.emit (.invite op.opHandle op.customHeaders ssc.media.localSdp)
          ssc.setOper addr fun op =>
            { op with opCallstate := { op.opCallstate with sent := true } }
        else
          sscOperDestroy ssc addr
      else if op.opCallstate.recv then
        if ssc.media.localSdp ≠ [] then
          let ssc :=
            if 200 ≤ ssc.ansStatus && ssc.ansStatus < 300 then
              ssc.setOper addr fun op =>
                { op with opCallstate := { op.opCallstate with sent := true } }
            else
              ssc.setOper addr fun op => { op with opCallstate := .none }
          ssc.emit (.respond op.opHandle ssc.ansStatus ssc.ansPhrase (some ssc.media.localSdp))
        else
          let ssc := ssc.setOper addr fun op => { op with opCallstate := .none }
          ssc.emit (.respond op.opHandle 500 "Not Acceptable Here".toList none)
      else ssc
    else if ssc.media.smState = .error then
      sscOperDestroy ssc.deactivateMedia addr
    else ssc

/-- `ssc_media_activate` after `setLocalSdp`. -/
def Ssc.activateMedia (ssc : Ssc) (localSdp : CString) : Ssc :=
  { ssc with media := { ssc.media with localSdp := localSdp, smState := .active } }

/-- `ssc_invite`. -/
def sscInvite (env : SscEnv) (alloc : Alloc) (destination password sdp headers : Option CString)
    (ssc : Ssc) : Option Ssc :=
  let created := sscOperCreateWithPassword env alloc .invite destination password ssc
  match created.2 with
  | some addr => do
    let ssc := created.1.setOper addr fun op =>
      { op with
        opCallstate := { op.opCallstate with pending := true }
        isOutgoing := true
        customHeaders := headers }
    let sdp ← sdp
    return privMediaStateCb addr (ssc.activateMedia sdp)
  | none => some (created.1.send SipMsgEnum.errorSipInviteSipUriInvalid.errorReply)

/-- `ssc_answer`. -/
def sscAnswer (sdp : Option CString) (status : Nat) (phrase : CString) (ssc : Ssc) : Ssc :=
  match sscOperFindUnanswered ssc with
  | none => ssc
  | some op =>
    let ssc := { ssc with ansStatus := status, ansPhrase := phrase }
    if 200 ≤ status && status < 300 then
      privMediaStateCb op.addr (ssc.activateMedia (sdp.getD ssc.media.localSdp))
    else
      sscOperDestroy (ssc.emit (.respond op.opHandle status phrase none)) op.addr

/-- `ssc_bye`. -/
def sscBye (ssc : Ssc) : Ssc :=
  match sscOperFindCall ssc with
  | none => ssc
  | some op =>
    (ssc.emit (.bye op.opHandle)).setOper op.addr fun op => { op with opCallstate := .none }

/-- `ssc_cancel`. -/
def sscCancel (ssc : Ssc) : Ssc :=
  match sscOperFindCallInProgress ssc with
  | some op => ssc.emit (.cancel op.opHandle)
  | none =>
    match sscOperFindCallEmbryonic ssc with
    | some op => ssc.emit (.cancel op.opHandle)
    | none => ssc

/-- The reply to a final response of an INVITE that is no challenge. -/
def inviteFailed (status : Nat) : SofiaReply :=
  if status = 486 || status = 600 || status = 603 || status = 480 then
    SipMsgEnum.outgoingDeclined.reply
  else if status = 487 then SipMsgEnum.outgoingCancelled.reply
  else if status = 404 then SipMsgEnum.errorSipInviteNotFound.errorReply
  else if status = 403 then SipMsgEnum.errorSipInviteAuthentication.errorReply
  else if status = 408 then SipMsgEnum.errorSipInviteTimeout.errorReply
  else if status = 503 then SipMsgEnum.errorSipInviteServiceUnavailable.errorReply
  else SipMsgEnum.errorSipInviteGeneric.errorReply

/-- `ssc_r_invite`. -/
def sscRInvite (env : SscEnv) (status : Nat) (op : Option SscOper) (sip : Option Sip)
    (ssc : Ssc) : Option Ssc :=
  if 300 ≤ status then do
    let op ← op
    let ssc := ssc.setOper op.addr fun op =>
      { op with opCallstate := { op.opCallstate with sent := false } }
    if isChallenge status then
      sscStorePendingAuth env ssc op sip
    else
      return ssc.send (inviteFailed status)
  else if status = 180 then
    some (ssc.send SipMsgEnum.outgoingRinging.reply)
  else if status = 200 then do
    let sip ← sip
    -- The SDP of the answer is read without a test for `NULL`.
    let payload ← sip.payload
    return ssc.send (SipMsgEnum.outgoingEstablished.replyWith payload)
  else some ssc

/-- `ssc_i_fork`. -/
def sscIFork (nh2 : Option Nat) (ssc : Ssc) : Ssc :=
  match nh2 with
  | none => ssc
  | some nh2 => (ssc.emit (.bye nh2)).emit (.handleDestroy nh2)

/-- What announces an incoming call. A URL that does not decode, which may have been cut in the
middle of a character, leaves nothing; a body that does not decode leaves the URL alone. -/
def incomingCallMessage (url payload : CString) : NSDictionary :=
  dictionaryWithObjectsAndKeys
    [(stringWithUTF8String url, "sip-uri"), (stringWithUTF8String payload, "sdp")]

/-- The text of the reply that announces an incoming call. -/
def incomingCallText (url payload : CString) : CString :=
  stringifyDictionary (incomingCallMessage url payload)

/-- The end of `ssc_i_invite`, once the operation has its call state. -/
def announceInvite (sip : Sip) (sipFrom : SipFrom) (op : SscOper) (ssc : Ssc) : Option Ssc :=
  if op.opCallstate = .opcRecv then
    if ssc.autoanswer then
      some (sscAnswer none 200 "OK".toList ssc)
    else do
      let payload ← sip.payload
      return ssc.send
        (SipMsgEnum.incomingCall.replyWith (incomingCallText sipFrom.printed payload))
  else some ssc

/-- `ssc_i_invite`. -/
def sscIInvite (alloc : Alloc) (nh : Nat) (op : Option SscOper) (sip : Option Sip)
    (ssc : Ssc) : Option Ssc :=
  match sip with
  | none => some ssc
  | some sip =>
    match sip.sipFrom with
    | none => some ssc
    | some sipFrom =>
      if !sip.hasTo then some ssc
      else
        let answering := fun op : SscOper =>
          { op with opCallstate := { op.opCallstate with recv := true }, isOutgoing := false }
        match op with
        | some op =>
          announceInvite sip sipFrom (answering op) (ssc.setOper op.addr answering)
        | none => do
          let ssc := (sscOperCreateWithHandle alloc .invite nh ssc).setOper alloc.addr answering
          let op ← ssc.oper? alloc.addr
          announceInvite sip sipFrom op ssc

/-- `ssc_i_state`. -/
def sscIState (tags : StateTags) (op : Option SscOper) (ssc : Ssc) : Ssc :=
  match op with
  | none => ssc
  | some op =>
    -- An SDP that belongs to nothing that was sent ends the handler, before the call state is
    -- looked at.
    if tags.localSdp.isSome && !tags.sdpSent then ssc
    else
      let ssc := { ssc with
        media := { ssc.media with localSdp := tags.localSdp.getD ssc.media.localSdp } }
      if tags.remoteSdp.isSome && !tags.sdpSent then ssc
      else
        let ssc := { ssc with
          media := { ssc.media with remoteSdp := tags.remoteSdp.getD ssc.media.remoteSdp } }
        match tags.state with
        | .ready =>
          let changed := op.opPrevState ≠ some .ready
          let ssc := ssc.setOper op.addr fun op =>
            { op with opCallstate := .opcActive, opPrevState := some .ready }
          if changed && !op.isOutgoing then ssc.send SipMsgEnum.incomingEstablished.reply
          else ssc
        | .terminated =>
          let ssc := ssc.setOper op.addr fun op => { op with opCallstate := .none }
          -- The media is deactivated whatever calls are left.
          (sscOperDestroy ssc op.addr).deactivateMedia
        | _ => ssc

/-- `ssc_r_bye`. -/
def sscRBye (status : Nat) (op : Option SscOper) (ssc : Ssc) : Option Ssc := do
  let _ ← op
  if status < 200 then return ssc
  else return ssc.send SipMsgEnum.outgoingByeResponse.reply

/-- `ssc_i_bye`. -/
def sscIBye (op : Option SscOper) (ssc : Ssc) : Option Ssc := do
  let _ ← op
  return ssc.send SipMsgEnum.incomingBye.reply

/-- `ssc_i_cancel`. -/
def sscICancel (op : Option SscOper) (ssc : Ssc) : Option Ssc := do
  let _ ← op
  return ssc.send SipMsgEnum.incomingCancelled.reply

/-! ### Other requests -/

/-- `ssc_zap`: the method and the name are missing, so the old operation is taken as it is. -/
def sscZap (ssc : Ssc) : Ssc :=
  match sscOperOld ssc with
  | some op => sscOperDestroy ssc op.addr
  | none => ssc

/-- `ssc_options`. -/
def sscOptions (env : SscEnv) (alloc : Alloc) (destination : Option CString) (ssc : Ssc) : Ssc :=
  let created := sscOperCreate env alloc .options destination ssc
  match created.2.bind created.1.oper? with
  | some op => created.1.emit (.options op.opHandle)
  | none => created.1

/-- `ssc_message`. When there is no operation a reply is made, but never sent. -/
def sscMessage (env : SscEnv) (alloc : Alloc) (destination password msg headers : Option CString)
    (ssc : Ssc) : Ssc :=
  let created := sscOperCreateWithPassword env alloc .message destination password ssc
  match created.2.bind created.1.oper? with
  | some op => created.1.emit (.message op.opHandle headers msg)
  | none => created.1

/-- The reply to a final response of a MESSAGE that is no challenge. -/
def messageFailed (status : Nat) : SofiaReply :=
  if status = 404 then SipMsgEnum.errorSipMessageNotFound.errorReply
  else if status = 403 then SipMsgEnum.errorSipMessageAuthentication.errorReply
  else if status = 408 then SipMsgEnum.errorSipMessageTimeout.errorReply
  else if status = 503 then SipMsgEnum.errorSipMessageServiceUnavailable.errorReply
  else SipMsgEnum.errorSipMessageGeneric.errorReply

/-- `ssc_r_message`. -/
def sscRMessage (env : SscEnv) (status : Nat) (op : Option SscOper) (sip : Option Sip)
    (ssc : Ssc) : Option Ssc :=
  if status < 200 then some ssc
  else if status = 200 then some ssc
  else if isChallenge status then sscStorePendingAuth env ssc op sip
  else some (ssc.send (messageFailed status))

/-- `ssc_i_message`. -/
def sscIMessage (alloc : Alloc) (nh : Nat) (op : Option SscOper) (sip : Option Sip) (ssc : Ssc) :
    Option Ssc := do
  let sip ← sip
  let sipFrom ← sip.sipFrom
  if !sip.hasTo then none
  else
    let payload ← sip.payload
    -- The reply is written before the operation is looked at.
    let ssc := ssc.send (SipMsgEnum.incomingMsg.replyWith (sipFrom.printed ++ '|' :: payload))
    match op with
    | some _ => return ssc
    | none => return sscOperCreateWithHandle alloc .message nh ssc

/-- `ssc_info`. -/
def sscInfo (msg : Option CString) (ssc : Ssc) : Ssc :=
  match sscOperFindCall ssc with
  | some op => ssc.emit (.info op.opHandle msg)
  | none => ssc

/-- `ssc_r_info`, `ssc_r_refer` and `ssc_r_notify`: only challenges matter. -/
def sscRChallenged (env : SscEnv) (status : Nat) (op : Option SscOper) (sip : Option Sip)
    (ssc : Ssc) : Option Ssc :=
  if status < 200 then some ssc
  else if isChallenge status then sscStorePendingAuth env ssc op sip
  else some ssc

/-- `ssc_i_info`. -/
def sscIInfo (alloc : Alloc) (nh : Nat) (op : Option SscOper) (sip : Option Sip) (ssc : Ssc) :
    Option Ssc := do
  let sip ← sip
  if sip.sipFrom.isSome && sip.hasTo then
    match op with
    | some _ => return ssc
    | none => return sscOperCreateWithHandle alloc .info nh ssc
  else none

/-- `ssc_refer`. The address to refer to comes from the prompt. -/
def sscRefer (env : SscEnv) (alloc : Alloc) (destination : Option CString) (toAddress : CString)
    (ssc : Ssc) : Ssc :=
  match sscOperFindCall ssc with
  | some op => ssc.emit (.refer op.opHandle toAddress)
  | none =>
    let created := sscOperCreate env alloc .refer destination ssc
    match created.2.bind created.1.oper? with
    | some op => created.1.emit (.refer op.opHandle toAddress)
    | none => created.1

/-- `ssc_i_refer`: an operation for the call that the peer asks for is made at once. -/
def sscIRefer (env : SscEnv) (alloc : Alloc) (sip : Option Sip) (ssc : Ssc) : Option Ssc := do
  let sip ← sip
  if sip.sipFrom.isSome && sip.hasTo then
    let referTo ← sip.referTo
    if referTo.isSip then
      return (sscOperCreate env alloc .invite (some referTo.text) ssc).1
    else return ssc
  else none

/-- The second half of `ssc_subscribe` and `ssc_watch`. -/
def subscribeTo (env : SscEnv) (alloc : Alloc) (destination : Option CString)
    (event : CString) (eventlist : Bool) (ssc : Ssc) : Ssc :=
  let created := sscOperCreate env alloc .subscribe destination ssc
  match created.2.bind created.1.oper? with
  | some op => created.1.emit (.subscribe op.opHandle event eventlist)
  | none => created.1

/-- `ssc_subscribe`. A missing destination is read through. -/
def sscSubscribe (env : SscEnv) (alloc : Alloc) (destination : Option CString) (ssc : Ssc) :
    Option Ssc := do
  let destination ← destination
  if (destination.take 5).map Char.toLower = "list ".toList then
    let list := (destination.drop 5).dropWhile (· = ' ')
    return subscribeTo env alloc (some list) "presence".toList true ssc
  else
    return subscribeTo env alloc (some destination) "presence".toList false ssc

/-- `ssc_watch`: the event, and the destination after the blanks, if any. -/
def sscWatch (env : SscEnv) (alloc : Alloc) (event : Option CString) (ssc : Ssc) :
    Option Ssc := do
  let event ← event
  let destination := (event.dropWhile (· ≠ ' ')).dropWhile (· = ' ')
  let destination := if ' ' ∈ event then some destination else none
  return subscribeTo env alloc destination (event.takeWhile (· ≠ ' ')) false ssc

/-- `ssc_r_subscribe`. -/
def sscRSubscribe (env : SscEnv) (status : Nat) (op : Option SscOper) (sip : Option Sip)
    (ssc : Ssc) : Option Ssc :=
  if status < 200 then some ssc
  else if 300 ≤ status then do
    let op ← op
    let ssc := ssc.setOper op.addr fun op => { op with opPersistent := false }
    if isChallenge status then sscStorePendingAuth env ssc op sip else return ssc
  else some ssc

/-- `ssc_i_notify`: only log lines, but they read the From header when there is no operation, and
the operation when there is no message. -/
def sscINotify (op : Option SscOper) (sip : Option Sip) (ssc : Ssc) : Option Ssc := do
  match sip with
  | some sip => if op.isSome || sip.sipFrom.isSome then return ssc else none
  | none =>
    let _ ← op
    return ssc

/-- `ssc_unsubscribe`. -/
def sscUnsubscribe (ssc : Ssc) : Ssc :=
  match sscOperFindByMethod ssc .subscribe with
  | some op => ssc.emit (.unsubscribe op.opHandle)
  | none => ssc

/-- `ssc_oper_destroy` of the operation of an event, which may be `NULL`. -/
def destroyOf (op : Option SscOper) (ssc : Ssc) : Ssc :=
  match op with
  | some op => sscOperDestroy ssc op.addr
  | none => ssc

/-- `ssc_r_unsubscribe`. -/
def sscRUnsubscribe (status : Nat) (op : Option SscOper) (ssc : Ssc) : Ssc :=
  if status < 200 then ssc else destroyOf op ssc

/-! ### Registration -/

/-- A registrar that is there and is not empty. -/
def givenRegistrar (registrar : Option CString) : Option CString :=
  registrar.filter (· ≠ [])

/-- `ssc_register`. Without a registrar it returns before it looks for a registration that
exists. When there is no operation a reply is made, but never sent. -/
def sscRegister (env : SscEnv) (alloc : Alloc) (registrar password : Option CString)
    (ssc : Ssc) : Ssc :=
  let ssc := ssc.emit (.setRegistrar (givenRegistrar registrar))
  match givenRegistrar registrar with
  | none => ssc
  | some _ =>
    let created := sscOperCreateWithPassword env alloc .register ssc.address password ssc
    match created.2.bind created.1.oper? with
    | some op => created.1.emit (.register op.opHandle registrar)
    | none => created.1

/-- `ssc_unregister`. -/
def sscUnregister (env : SscEnv) (alloc : Alloc) (registrar password : Option CString)
    (ssc : Ssc) : Ssc :=
  let ssc := ssc.emit (.setRegistrar none)
  let fresh : Ssc :=
    let created := sscOperCreateWithPassword env alloc .register ssc.address password ssc
    match created.2.bind created.1.oper? with
    | some op => created.1.emit (.unregister op.opHandle registrar)
    | none => created.1
  -- Only without a registrar is the registration looked for that exists.
  match registrar, sscOperFindByMethod ssc .register with
  | none, some op => ssc.emit (.unregister op.opHandle none)
  | _, _ => fresh

/-- `ssc_set_public_address`. -/
def sscSetPublicAddress (address : Option CString) (ssc : Ssc) : Ssc :=
  match address with
  | some address => { ssc with address := some address }.emit (.setFrom address)
  | none => ssc

/-- `ssc_update`. -/
def sscUpdate (env : SscEnv) (alloc : Alloc) (aor password registrar : Option CString)
    (unregister : Bool) (ssc : Ssc) : Ssc :=
  let ssc := sscSetPublicAddress aor ssc
  if unregister then sscUnregister env alloc registrar password ssc
  else sscRegister env alloc registrar password ssc

/-- The reply to a final response of a REGISTER that is no challenge. -/
def registerFailed (status : Nat) : SofiaReply :=
  if status = 403 then SipMsgEnum.errorSipRegisterAuthentication.errorReply
  else if status = 408 then SipMsgEnum.errorSipRegisterTimeout.errorReply
  else if status = 503 then SipMsgEnum.errorSipRegisterServiceUnavailable.errorReply
  else SipMsgEnum.errorSipRegisterGeneric.errorReply

/-- `ssc_r_register`. -/
def sscRRegister (env : SscEnv) (status : Nat) (phrase : CString) (op : Option SscOper)
    (sip : Option Sip) (ssc : Ssc) : Option Ssc :=
  if status < 200 then some ssc
  else if isChallenge status then sscStorePendingAuth env ssc op sip
  else if 300 ≤ status then some ((destroyOf op ssc).send (registerFailed status))
  else if status = 200 then some (ssc.send (SipMsgEnum.registerSuccess.replyWith phrase))
  else some ssc

/-- `ssc_r_unregister`. -/
def sscRUnregister (env : SscEnv) (status : Nat) (op : Option SscOper) (sip : Option Sip)
    (ssc : Ssc) : Option Ssc :=
  if status < 200 then some ssc
  else if isChallenge status then sscStorePendingAuth env ssc op sip
  else some (destroyOf op ssc)

/-- `ssc_publish` and `ssc_unpublish`. -/
def sscPublish (env : SscEnv) (alloc : Alloc) (ssc : Ssc) : Ssc :=
  match sscOperFindByMethod ssc .publish with
  | some op => ssc.emit (.publish op.opHandle)
  | none =>
    let created := sscOperCreate env alloc .publish ssc.address ssc
    match created.2.bind created.1.oper? with
    | some op => created.1.emit (.publish op.opHandle)
    | none => created.1

/-- `ssc_r_publish`. -/
def sscRPublish (env : SscEnv) (status : Nat) (op : Option SscOper) (sip : Option Sip)
    (ssc : Ssc) : Option Ssc :=
  if status < 200 then some ssc
  else if isChallenge status then sscStorePendingAuth env ssc op sip
  else if 300 ≤ status then some (destroyOf op ssc)
  else do
    let sip ← sip
    -- A publication that expires at once was taken back.
    if sip.expires.getD 0 = 0 then return destroyOf op ssc else return ssc

/-! ### Commands, events, steps -/

/-- The `ssc_*` function that a command calls. `prompt` is what is typed at the prompt of
`refer`. -/
def sscCall (env : SscEnv) (alloc : Alloc) (prompt : CString) (ssc : Ssc) :
    SscCall → Option Ssc
  | .answer sdp status phrase => some (sscAnswer sdp status phrase ssc)
  | .setPublicAddress aor => some (sscSetPublicAddress aor ssc)
  | .bye => some (sscBye ssc)
  | .cancel => some (sscCancel ssc)
  | .invite destination password sdp headers =>
    sscInvite env alloc destination password sdp headers ssc
  | .info msg => some (sscInfo msg ssc)
  | .hold _ _ => some ssc
  | .auth data => data.map (sscAuth env ssc)
  | .list => some ssc
  | .message destination password msg headers =>
    some (sscMessage env alloc destination password msg headers ssc)
  | .printSettings => some ssc
  | .subscribe destination => sscSubscribe env alloc destination ssc
  | .watch event => sscWatch env alloc event ssc
  | .options destination => some (sscOptions env alloc destination ssc)
  | .publish _ => some (sscPublish env alloc ssc)
  | .unpublish => some (sscPublish env alloc ssc)
  | .update aor password registrar unregister =>
    some (sscUpdate env alloc aor password registrar unregister ssc)
  | .refer destination => some (sscRefer env alloc destination prompt ssc)
  | .unsubscribe _ => some (sscUnsubscribe ssc)
  | .zap _ => some (sscZap ssc)
  | .shutdown => some { ssc.emit .shutdown with stackIsShuttingDown := true }
  | .param _ _ => some ssc

/-- `priv_callback`. -/
def privCallback (env : SscEnv) (alloc : Alloc) (nh : Nat) (ssc : Ssc) : NuaEvent → Option Ssc :=
  let op := sscOperFindByHandle ssc nh
  fun
  | .rShutdown status =>
    -- 100 breaks the loop at once, and a final status calls `ssc_exit_cb`, which breaks it too.
    some (if status = 100 || 200 ≤ status then { ssc with rootBroken := true } else ssc)
  | .rGetParams sipFrom => some { ssc with address := sipFrom.or ssc.address }
  | .rRegister status phrase sip => sscRRegister env status phrase op sip ssc
  | .rUnregister status sip => sscRUnregister env status op sip ssc
  | .iOptions => some ssc
  | .rOptions status sip =>
    if isChallenge status then sscStorePendingAuth env ssc op sip else some ssc
  | .rInvite status sip => sscRInvite env status op sip ssc
  | .iFork nh2 => some (sscIFork nh2 ssc)
  | .iInvite sip => sscIInvite alloc nh op sip ssc
  | .iPrack sip =>
    some (if sip.isSome && op.isNone then ssc.emit (.handleDestroy nh) else ssc)
  | .iState tags => some (sscIState tags op ssc)
  | .rBye status _ => sscRBye status op ssc
  | .iBye => sscIBye op ssc
  | .rMessage status sip => sscRMessage env status op sip ssc
  | .iMessage sip => sscIMessage alloc nh op sip ssc
  | .rInfo status sip => sscRChallenged env status op sip ssc
  | .iInfo sip => sscIInfo alloc nh op sip ssc
  | .rRefer status sip => sscRChallenged env status op sip ssc
  | .iRefer sip => sscIRefer env alloc sip ssc
  | .rSubscribe status sip => sscRSubscribe env status op sip ssc
  | .rUnsubscribe status => some (sscRUnsubscribe status op ssc)
  | .rPublish status sip => sscRPublish env status op sip ssc
  | .rNotify status sip => sscRChallenged env status op sip ssc
  | .iNotify sip => sscINotify op sip ssc
  | .iCancel => sscICancel op ssc
  | .iError => some ssc
  | .ignored => some ssc
  | .unhandled => some (if op.isNone then ssc.emit (.handleDestroy nh) else ssc)

/-- What makes the SIP client take a step. -/
inductive SscInput where
  | call (c : SscCall) (prompt : CString := [])
  | event (nh : Nat) (e : NuaEvent)
  deriving DecidableEq, Repr

/-- The allocator and the stack do not hand out what is in use. -/
def Alloc.Fresh (alloc : Alloc) (ssc : Ssc) : Prop :=
  (∀ op ∈ ssc.operations, op.addr ≠ alloc.addr) ∧ ∀ op ∈ ssc.operations, op.opHandle ≠ alloc.handle

instance (alloc : Alloc) (ssc : Ssc) : Decidable (alloc.Fresh ssc) :=
  inferInstanceAs (Decidable (_ ∧ _))

/-- One step, with its own outputs only. -/
def sscStep (env : SscEnv) (alloc : Alloc) (ssc : Ssc) (input : SscInput) : Option Ssc :=
  let ssc := { ssc with nua := [], sent := [] }
  if alloc.Fresh ssc then
    match input with
    | .call c prompt => sscCall env alloc prompt ssc c
    | .event nh e => privCallback env alloc nh ssc e
  else none

/-- The SIP client as a machine: an input comes with what the allocator decides for it. -/
def sscMachine (env : SscEnv) (ssc : Ssc) (input : Alloc × SscInput) : Option Ssc :=
  sscStep env input.1 ssc input.2

end RestCommSdk.CliInterface
