import RestCommSdk.Proofs.SscFrame
import RestCommSdk.Proofs.SscHandlers

/-!
# `RestCommSdk.Proofs.SscReplies`: the replies of a step

`stepReplies` lists what a step of the SIP client writes to the App, from the state before
the step and the input alone. `sent_sscStep` connects it to `sscStep`: commands write nothing,
except an INVITE to an address that makes no sense; most events write nothing; the others
write one reply.
-/

set_option autoImplicit false

namespace RestCommSdk.Proofs

open RestCommSdk.CliInterface

/-- An environment to run examples in: every address makes sense, and `ssc_oper_check` answers
list membership. -/
def plainEnv : SscEnv := { validAddress := fun _ => true, operCheck := fun l a => decide (a ∈ l) }

/-- What `ssc_r_invite` writes. -/
def rInviteReplies (status : Nat) (sip : Option Sip) : List SofiaReply :=
  if 300 ≤ status then if isChallenge status then [] else [inviteFailed status]
  else if status = 180 then [SipMsgEnum.outgoingRinging.reply]
  else if status = 200 then
    [SipMsgEnum.outgoingEstablished.replyWith ((sip.bind (·.payload)).getD [])]
  else []

/-- The call state of an INVITE that has just come in. -/
def receivedCallstate (op : Option SscOper) : Callstate :=
  match op with
  | some op => { op.opCallstate with recv := true }
  | none => .opcRecv

/-- What `ssc_i_invite` writes. -/
def iInviteReplies (autoanswer : Bool) (op : Option SscOper) (sip : Option Sip) :
    List SofiaReply :=
  match sip.bind (·.sipFrom) with
  | some sipFrom =>
    if sip.any (·.hasTo) ∧ receivedCallstate op = .opcRecv ∧ autoanswer = false then
      [SipMsgEnum.incomingCall.replyWith
        (incomingCallText sipFrom.printed ((sip.bind (·.payload)).getD []))]
    else []
  | none => []

/-- What `ssc_i_state` writes. -/
def iStateReplies (tags : StateTags) (op : Option SscOper) : List SofiaReply :=
  match op with
  | some op =>
    if (tags.localSdp.isNone || tags.sdpSent) && (tags.remoteSdp.isNone || tags.sdpSent) &&
        tags.state = .ready && op.opPrevState ≠ some .ready && !op.isOutgoing then
      [SipMsgEnum.incomingEstablished.reply]
    else []
  | none => []

/-- What `ssc_i_message` writes. -/
def iMessageReplies (sip : Option Sip) : List SofiaReply :=
  match sip.bind (·.sipFrom) with
  | some sipFrom =>
    [SipMsgEnum.incomingMsg.replyWith
      (sipFrom.printed ++ '|' :: (sip.bind (·.payload)).getD [])]
  | none => []

/-- What `ssc_r_register` writes. -/
def rRegisterReplies (status : Nat) (phrase : CString) : List SofiaReply :=
  if isChallenge status then []
  else if 300 ≤ status then [registerFailed status]
  else if status = 200 then [SipMsgEnum.registerSuccess.replyWith phrase]
  else []

/-- What the handler of an event writes. -/
def eventReplies (ssc : Ssc) (nh : Nat) : NuaEvent → List SofiaReply
  | .rRegister status phrase _ => rRegisterReplies status phrase
  | .rInvite status sip => rInviteReplies status sip
  | .iInvite sip => iInviteReplies ssc.autoanswer (sscOperFindByHandle ssc nh) sip
  | .iState tags => iStateReplies tags (sscOperFindByHandle ssc nh)
  | .rBye status _ => if status < 200 then [] else [SipMsgEnum.outgoingByeResponse.reply]
  | .iBye => [SipMsgEnum.incomingBye.reply]
  | .rMessage status _ =>
    if status ≤ 200 || isChallenge status then [] else [messageFailed status]
  | .iMessage sip => iMessageReplies sip
  | .iCancel => [SipMsgEnum.incomingCancelled.reply]
  | _ => []

/-- What a command writes: only `ssc_invite` does, when it makes no operation. -/
def callReplies (env : SscEnv) (alloc : Alloc) (ssc : Ssc) : SscCall → List SofiaReply
  | .invite destination password _ _ =>
    if (sscOperCreateWithPassword env alloc .invite destination password ssc).2.isSome then []
    else [SipMsgEnum.errorSipInviteSipUriInvalid.errorReply]
  | _ => []

/-- What a step writes. -/
def stepReplies (env : SscEnv) (alloc : Alloc) (ssc : Ssc) : SscInput → List SofiaReply
  | .call c _ => callReplies env alloc { ssc with nua := [], sent := [] } c
  | .event nh e => eventReplies ssc nh e

/-! ### Commands -/

section Commands
variable (env : SscEnv) (alloc : Alloc)

/-- A call is forgotten without a word. -/
theorem frame_sscZap (ssc : Ssc) : Frame ssc (sscZap ssc) := by
  unfold sscZap
  split
  · exact frame_sscOperDestroy _ _
  · exact Frame.refl ssc

/-- Digits are sent without a word to the App. -/
theorem frame_sscInfo (msg : Option CString) (ssc : Ssc) : Frame ssc (sscInfo msg ssc) := by
  unfold sscInfo
  split
  · exact Frame.emit _ rfl
  · exact Frame.refl ssc

/-- A transfer is requested. -/
theorem frame_sscRefer (destination : Option CString) (toAddress : CString) (ssc : Ssc) :
    Frame ssc (sscRefer env alloc destination toAddress ssc) := by
  unfold sscRefer
  split
  · exact Frame.emit _ rfl
  · exact frame_requestOn (frame_sscOperCreate env alloc .refer destination ssc)
      (fun nh => .refer nh toAddress) fun _ => rfl

/-- A subscription is requested. -/
theorem frame_subscribeTo (destination : Option CString) (event : CString) (eventlist : Bool)
    (ssc : Ssc) : Frame ssc (subscribeTo env alloc destination event eventlist ssc) :=
  frame_requestOn (frame_sscOperCreate env alloc .subscribe destination ssc)
    (fun nh => .subscribe nh event eventlist) fun _ => rfl

/-- Presence is a subscription. -/
theorem frame_sscSubscribe {destination : Option CString} {ssc ssc' : Ssc}
    (h : sscSubscribe env alloc destination ssc = some ssc') : Frame ssc ssc' := by
  obtain ⟨destination, -, h⟩ := Option.bind_eq_some_iff.mp h
  split at h <;> cases h <;> exact frame_subscribeTo env alloc _ _ _ ssc

/-- Watchers are a subscription. -/
theorem frame_sscWatch {event : Option CString} {ssc ssc' : Ssc}
    (h : sscWatch env alloc event ssc = some ssc') : Frame ssc ssc' := by
  obtain ⟨event, -, h⟩ := Option.bind_eq_some_iff.mp h
  cases h
  exact frame_subscribeTo env alloc _ _ _ ssc

/-- A subscription is ended. -/
theorem frame_sscUnsubscribe (ssc : Ssc) : Frame ssc (sscUnsubscribe ssc) := by
  unfold sscUnsubscribe
  split
  · exact Frame.emit _ rfl
  · exact Frame.refl ssc

/-- A registration is requested. -/
theorem frame_sscRegister (registrar password : Option CString) (ssc : Ssc) :
    Frame ssc (sscRegister env alloc registrar password ssc) := by
  have hset : Frame ssc (ssc.emit (.setRegistrar (givenRegistrar registrar))) :=
    Frame.emit _ rfl
  unfold sscRegister
  dsimp only
  split
  · exact hset
  · exact frame_requestOn
      (hset.trans (frame_sscOperCreateWithPassword env alloc .register _ password _))
      (fun nh => .register nh registrar) fun _ => rfl

/-- An unregistration is requested. -/
theorem frame_sscUnregister (registrar password : Option CString) (ssc : Ssc) :
    Frame ssc (sscUnregister env alloc registrar password ssc) := by
  have hset : Frame ssc (ssc.emit (.setRegistrar none)) := Frame.emit _ rfl
  unfold sscUnregister
  dsimp only
  split
  · exact hset.trans (Frame.emit _ rfl)
  · exact frame_requestOn
      (hset.trans (frame_sscOperCreateWithPassword env alloc .register _ password _))
      (fun nh => .unregister nh _) fun _ => rfl

/-- The own address is set. -/
theorem frame_sscSetPublicAddress (address : Option CString) (ssc : Ssc) :
    Frame ssc (sscSetPublicAddress address ssc) := by
  cases address with
  | none => exact Frame.refl ssc
  | some address =>
    have haddress : Frame ssc { ssc with address := some address } := ⟨rfl, rfl, rfl, rfl⟩
    exact haddress.trans (Frame.emit _ rfl)

/-- The address is set, and a registration or an unregistration requested. -/
theorem frame_sscUpdate (aor password registrar : Option CString) (unregister : Bool)
    (ssc : Ssc) : Frame ssc (sscUpdate env alloc aor password registrar unregister ssc) := by
  have haor := frame_sscSetPublicAddress aor ssc
  unfold sscUpdate
  dsimp only
  split
  · exact haor.trans (frame_sscUnregister env alloc registrar password _)
  · exact haor.trans (frame_sscRegister env alloc registrar password _)

/-- A publication is requested. -/
theorem frame_sscPublish (ssc : Ssc) : Frame ssc (sscPublish env alloc ssc) := by
  unfold sscPublish
  split
  · exact Frame.emit _ rfl
  · exact frame_requestOn (frame_sscOperCreate env alloc .publish _ ssc)
      (fun nh => .publish nh) fun _ => rfl

/-- `ssc_invite` once it has its operation. -/
theorem frame_sscInvite {destination password sdp headers : Option CString} {ssc ssc' : Ssc}
    (h : sscInvite env alloc destination password sdp headers ssc = some ssc')
    (hsome : (sscOperCreateWithPassword env alloc .invite destination password ssc).2.isSome) :
    Frame ssc ssc' := by
  have hcreate := frame_sscOperCreateWithPassword env alloc .invite destination password ssc
  obtain ⟨addr, haddr⟩ := Option.isSome_iff_exists.mp hsome
  simp only [sscInvite, haddr] at h
  obtain ⟨sdp, -, h⟩ := Option.bind_eq_some_iff.mp h
  cases h
  exact (hcreate.trans (Frame.setOper _ _ _)).trans
    ((Frame.media _ _).trans (frame_privMediaStateCb _ _))

/-- The commands that neither authenticate nor write a reply. -/
theorem frame_sscCall {prompt : CString} {c : SscCall} {ssc ssc' : Ssc}
    (h : sscCall env alloc prompt ssc c = some ssc') (hauth : ∀ data, c ≠ .auth data)
    (hsent : callReplies env alloc ssc c = []) : Frame ssc ssc' := by
  cases c with
  | answer sdp status phrase => cases h; exact frame_sscAnswer _ _ _ _
  | setPublicAddress aor => cases h; exact frame_sscSetPublicAddress _ _
  | bye => cases h; exact frame_sscBye _
  | cancel => cases h; exact frame_sscCancel _
  | invite destination password sdp headers =>
    -- A call that fails at once sends a reply, which is excluded here.
    refine frame_sscInvite env alloc h ?_
    by_contra hnone
    simp [callReplies, hnone] at hsent
  | info msg => cases h; exact frame_sscInfo _ _
  -- Credentials may answer requests, and are excluded as well.
  | auth data => exact absurd rfl (hauth data)
  | message destination password msg headers =>
    cases h
    exact frame_requestOn
      (frame_sscOperCreateWithPassword env alloc .message destination password ssc)
      (fun nh => .message nh headers msg) fun _ => rfl
  | subscribe destination => exact frame_sscSubscribe env alloc h
  | watch event => exact frame_sscWatch env alloc h
  | options destination =>
    cases h
    exact frame_requestOn (frame_sscOperCreate env alloc .options destination ssc)
      (fun nh => .options nh) fun _ => rfl
  | publish _ => cases h; exact frame_sscPublish env alloc _
  | unpublish => cases h; exact frame_sscPublish env alloc _
  | update aor password registrar unregister =>
    cases h; exact frame_sscUpdate env alloc _ _ _ _ _
  | refer destination => cases h; exact frame_sscRefer env alloc _ _ _
  | unsubscribe _ => cases h; exact frame_sscUnsubscribe _
  | zap _ => cases h; exact frame_sscZap _
  | shutdown =>
    cases h
    exact (Frame.emit ssc (c := .shutdown) rfl).trans ⟨rfl, rfl, rfl, rfl⟩
  | hold _ _ => cases h; exact Frame.refl _
  | list => cases h; exact Frame.refl _
  | printSettings => cases h; exact Frame.refl _
  | param _ _ => cases h; exact Frame.refl _

/-- `ssc_auth` writes nothing. -/
theorem sent_sscAuth (ssc : Ssc) (data : CString) : (sscAuth env ssc data).sent = ssc.sent := by
  unfold sscAuth
  generalize ssc.authPend = queue
  induction queue with
  | nil => rfl
  | cons item rest ih =>
    rw [sscAuthLoop]
    split
    · dsimp only
      split <;> rfl
    · exact ih

/-- What a command writes. -/
theorem sent_sscCall {prompt : CString} {c : SscCall} {ssc ssc' : Ssc}
    (h : sscCall env alloc prompt ssc c = some ssc') :
    ssc'.sent = ssc.sent ++ callReplies env alloc ssc c := by
  by_cases hsent : callReplies env alloc ssc c = []
  · rw [hsent, List.append_nil]
    -- Only a call that cannot be made has a reply of its own.
    by_cases hauth : ∃ data, c = .auth data
    · obtain ⟨data, rfl⟩ := hauth
      obtain ⟨data, -, rfl⟩ := Option.map_eq_some_iff.mp h
      exact sent_sscAuth env ssc data
    · exact (frame_sscCall env alloc h (fun data hc => hauth ⟨data, hc⟩) hsent).sent
  · cases c with
    | invite destination password sdp headers =>
      have hcreate := frame_sscOperCreateWithPassword env alloc .invite destination password ssc
      cases haddr : (sscOperCreateWithPassword env alloc .invite destination password ssc).2 with
      | some addr => simp [callReplies, haddr] at hsent
      -- The operation was not made, and the failure is sent.
      | none =>
        simp only [sscCall, sscInvite, haddr, Option.some.injEq] at h
        subst h
        simp [callReplies, haddr, Ssc.send, hcreate.sent]
    | _ => exact absurd rfl hsent

end Commands

/-! ### Events -/

section Events
variable (env : SscEnv) (alloc : Alloc)

/-- Queueing the items of a response writes nothing. -/
theorem sent_foldl_privAttachOp (op : SscOper) (items : List SscAuthItem) (ssc : Ssc) :
    (items.foldl (privAttachOp op) ssc).sent = ssc.sent := by
  induction items generalizing ssc with
  | nil => rfl
  | cons item items ih => exact ih _

/-- A challenge is stored without a reply. -/
theorem sent_sscStorePendingAuth {op : Option SscOper} {sip : Option Sip} {ssc ssc' : Ssc}
    (h : sscStorePendingAuth env ssc op sip = some ssc') : ssc'.sent = ssc.sent := by
  obtain ⟨op, -, h⟩ := Option.bind_eq_some_iff.mp h
  obtain ⟨sip, -, h⟩ := Option.bind_eq_some_iff.mp h
  dsimp only at h
  split at h <;> cases h
  · rw [sent_sscAuth, sent_foldl_privAttachOp]
  · exact sent_foldl_privAttachOp _ _ _

/-- The answer to a call. -/
theorem sent_sscRInvite {status : Nat} {op : Option SscOper} {sip : Option Sip} {ssc ssc' : Ssc}
    (h : sscRInvite env status op sip ssc = some ssc') :
    ssc'.sent = ssc.sent ++ rInviteReplies status sip := by
  unfold rInviteReplies
  rcases sscRInvite_cases h with
    ⟨hfinal, op, rfl, ⟨hchallenge, h⟩ | ⟨hchallenge, rfl⟩⟩ | ⟨hlt, hcase⟩
  · rw [if_pos hfinal, if_pos hchallenge, List.append_nil]
    exact (sent_sscStorePendingAuth env h :)
  · rw [if_pos hfinal, if_neg (by simp [hchallenge])]
    rfl
  · rw [if_neg (by omega)]
    rcases hcase with ⟨rfl, rfl⟩ | ⟨rfl, message, payload, rfl, hpayload, rfl⟩ | ⟨h180, h200, rfl⟩
    · rfl
    · simp [Ssc.send, hpayload]
    · simp [h180, h200]

/-- The end of `ssc_i_invite`. -/
theorem sent_announceInvite {sip : Sip} {sipFrom : SipFrom} {op : SscOper} {ssc ssc' : Ssc}
    (h : announceInvite sip sipFrom op ssc = some ssc') :
    ssc'.sent = ssc.sent ++
      if op.opCallstate = .opcRecv ∧ ssc.autoanswer = false then
        [SipMsgEnum.incomingCall.replyWith
          (incomingCallText sipFrom.printed (sip.payload.getD []))]
      else [] := by
  unfold announceInvite at h
  split at h
  · rename_i hrecv
    split at h
    · -- The client answers by itself, and the App hears nothing.
      rename_i hauto
      cases h
      rw [(frame_sscAnswer none 200 _ ssc).sent]
      simp [hauto]
    · rename_i hauto
      -- The SDP of the offer goes with the announcement.
      obtain ⟨payload, hpayload, h⟩ := Option.bind_eq_some_iff.mp h
      cases h
      simp [hrecv, hauto, hpayload, Ssc.send]
  · -- The operation is not one that waits for an answer.
    rename_i hrecv
    cases h
    simp [hrecv]

/-- A call that comes in, which the client may answer by itself. -/
theorem sent_sscIInvite {nh : Nat} {op : Option SscOper} {sip : Option Sip} {ssc ssc' : Ssc}
    (h : sscIInvite alloc nh op sip ssc = some ssc') :
    ssc'.sent = ssc.sent ++ iInviteReplies ssc.autoanswer op sip := by
  unfold sscIInvite at h
  split at h
  · cases h
    simp [iInviteReplies]
  · rename_i sip
    split at h
    · rename_i hfrom
      cases h
      simp [iInviteReplies, hfrom]
    · rename_i sipFrom hfrom
      split at h
      · rename_i hto
        cases h
        simp_all [iInviteReplies]
      · rename_i hto
        have hto : sip.hasTo = true := by simpa using hto
        dsimp only at h
        split at h
        · have hsent := sent_announceInvite h
          simpa [iInviteReplies, hfrom, hto, receivedCallstate, Ssc.setOper] using hsent
        · obtain ⟨op, hop, h⟩ := Option.bind_eq_some_iff.mp h
          -- The operation found is the one just put at the head of the list.
          have hcallstate : op.opCallstate = .opcRecv := by
            simp only [Ssc.oper?, Ssc.setOper, sscOperCreateWithHandle, Ssc.emit, sscOperAssign,
              List.map_cons, if_true, List.find?_cons, decide_true, Option.some.injEq] at hop
            rw [← hop]
            rfl
          have hsent := sent_announceInvite h
          simpa [iInviteReplies, hfrom, hto, receivedCallstate, hcallstate, Ssc.setOper,
            sscOperCreateWithHandle, Ssc.emit] using hsent

/-- The state of a call is told, as far as the operation is known. -/
theorem sent_sscIState (tags : StateTags) (op : Option SscOper) (ssc : Ssc) :
    (sscIState tags op ssc).sent = ssc.sent ++ iStateReplies tags op := by
  cases op with
  | none => simp [sscIState, iStateReplies]
  | some op =>
    simp only [sscIState, iStateReplies]
    split
    · rename_i hlocal
      -- The handler ends here, with nothing sent.
      simp_all [Option.isSome_iff_ne_none]
    · rename_i hlocal
      split
      · rename_i hremote
        simp_all [Option.isSome_iff_ne_none]
      · rename_i hremote
        have htags : ((tags.localSdp.isNone || tags.sdpSent) &&
            (tags.remoteSdp.isNone || tags.sdpSent)) = true := by
          -- Any SDP in the tags was sent by this side.
          cases hl : tags.localSdp <;> cases hr : tags.remoteSdp <;> simp_all
        rw [htags]
        cases hstate : tags.state with
        | ready =>
          dsimp only
          split
          · -- The call has just come up.
            rename_i hchanged
            simp_all [Ssc.send, Ssc.setOper]
          · rename_i hchanged
            simp_all [Ssc.setOper]
        -- The operation goes, and no reply is sent for it.
        | terminated =>
          simp [Ssc.deactivateMedia, (frame_sscOperDestroy _ op.addr).sent, Ssc.setOper]
        | _ => simp

/-- A message that comes in. -/
theorem sent_sscIMessage {nh : Nat} {op : Option SscOper} {sip : Option Sip} {ssc ssc' : Ssc}
    (h : sscIMessage alloc nh op sip ssc = some ssc') :
    ssc'.sent = ssc.sent ++ iMessageReplies sip := by
  obtain ⟨message, sipFrom, payload, rfl, hfrom, hpayload, hcase⟩ := sscIMessage_cases h
  have hsend : (ssc.send (SipMsgEnum.incomingMsg.replyWith
      (sipFrom.printed ++ '|' :: payload))).sent = ssc.sent ++ iMessageReplies (some message) := by
    simp [Ssc.send, iMessageReplies, hfrom, hpayload]
  rcases hcase with rfl | ⟨-, rfl⟩
  · exact hsend
  · rw [(frame_sscOperCreateWithHandle alloc .message nh _).sent, hsend]

/-- The answer to a registration. -/
theorem sent_sscRRegister {status : Nat} {phrase : CString} {op : Option SscOper}
    {sip : Option Sip} {ssc ssc' : Ssc}
    (h : sscRRegister env status phrase op sip ssc = some ssc') :
    ssc'.sent = ssc.sent ++ rRegisterReplies status phrase := by
  unfold rRegisterReplies
  rcases sscRRegister_cases h with ⟨hchallenge, h⟩ | ⟨hchallenge, hcase⟩
  · rw [if_pos hchallenge, List.append_nil]
    exact sent_sscStorePendingAuth env h
  · rw [if_neg (by simp [hchallenge])]
    rcases hcase with ⟨hfinal, rfl⟩ | ⟨rfl, rfl⟩ | ⟨hlt, hok, rfl⟩
    · rw [if_pos hfinal, Ssc.send, (frame_destroyOf op ssc).sent]
    · rfl
    · rw [if_neg (by omega), if_neg hok, List.append_nil]

/-- `ssc_r_info`, `ssc_r_refer`, `ssc_r_notify`. -/
theorem sent_sscRChallenged {status : Nat} {op : Option SscOper} {sip : Option Sip}
    {ssc ssc' : Ssc} (h : sscRChallenged env status op sip ssc = some ssc') :
    ssc'.sent = ssc.sent := by
  rcases sscRChallenged_cases h with ⟨-, h⟩ | ⟨-, rfl⟩
  · exact sent_sscStorePendingAuth env h
  · rfl

/-- The answer to an unregistration is not told. -/
theorem sent_sscRUnregister {status : Nat} {op : Option SscOper} {sip : Option Sip}
    {ssc ssc' : Ssc} (h : sscRUnregister env status op sip ssc = some ssc') :
    ssc'.sent = ssc.sent := by
  rcases sscRUnregister_cases h with ⟨-, h⟩ | ⟨-, ⟨-, rfl⟩ | ⟨-, rfl⟩⟩
  · exact sent_sscStorePendingAuth env h
  · rfl
  · exact (frame_destroyOf _ _).sent

/-- The answer to a subscription is not told. -/
theorem sent_sscRSubscribe {status : Nat} {op : Option SscOper} {sip : Option Sip}
    {ssc ssc' : Ssc} (h : sscRSubscribe env status op sip ssc = some ssc') :
    ssc'.sent = ssc.sent := by
  rcases sscRSubscribe_cases h with ⟨-, rfl⟩ | ⟨op, rfl, ⟨-, h⟩ | ⟨-, rfl⟩⟩
  · rfl
  · exact (sent_sscStorePendingAuth env h :)
  · rfl

/-- The answer to a publication is not told. -/
theorem sent_sscRPublish {status : Nat} {op : Option SscOper} {sip : Option Sip}
    {ssc ssc' : Ssc} (h : sscRPublish env status op sip ssc = some ssc') :
    ssc'.sent = ssc.sent := by
  rcases sscRPublish_cases h with ⟨-, h⟩ | ⟨-, rfl | rfl⟩
  · exact sent_sscStorePendingAuth env h
  · rfl
  · exact (frame_destroyOf _ _).sent

/-- The answer to a message is told when it is an error. -/
theorem sent_sscRMessage {status : Nat} {op : Option SscOper} {sip : Option Sip}
    {ssc ssc' : Ssc} (h : sscRMessage env status op sip ssc = some ssc') :
    ssc'.sent = ssc.sent ++
      if status ≤ 200 || isChallenge status then [] else [messageFailed status] := by
  rcases sscRMessage_cases h with ⟨hchallenge, h⟩ | ⟨hchallenge, ⟨hle, rfl⟩ | ⟨hlt, rfl⟩⟩
  · simp [hchallenge, sent_sscStorePendingAuth env h]
  · simp [hle]
  · simp [hchallenge, Nat.not_le.mpr hlt, Ssc.send]

/-- What the handler of an event writes. -/
theorem sent_privCallback {nh : Nat} {e : NuaEvent} {ssc ssc' : Ssc}
    (h : privCallback env alloc nh ssc e = some ssc') :
    ssc'.sent = ssc.sent ++ eventReplies ssc nh e := by
  simp only [privCallback] at h
  cases e with
  -- The events that the App hears of.
  | rRegister status phrase sip => exact sent_sscRRegister env h
  | rInvite status sip => exact sent_sscRInvite env h
  | iInvite sip => exact sent_sscIInvite alloc h
  | iState tags => cases h; exact sent_sscIState _ _ _
  | iMessage sip => exact sent_sscIMessage alloc h
  | rBye status sip =>
    rcases sscRBye_cases h with ⟨hlt, rfl⟩ | ⟨hle, rfl⟩
    · simp [eventReplies, hlt]
    · simp [eventReplies, Nat.not_lt.mpr hle, Ssc.send]
  | iBye =>
    obtain ⟨op, -, h⟩ := Option.bind_eq_some_iff.mp h
    cases h; rfl
  | iCancel =>
    obtain ⟨op, -, h⟩ := Option.bind_eq_some_iff.mp h
    cases h; rfl
  | rMessage status sip => exact sent_sscRMessage env h
  -- The other responses only store a challenge.
  | rInfo status sip => simpa [eventReplies] using sent_sscRChallenged env h
  | rRefer status sip => simpa [eventReplies] using sent_sscRChallenged env h
  | rNotify status sip => simpa [eventReplies] using sent_sscRChallenged env h
  | rOptions status sip =>
    dsimp only at h
    simp only [eventReplies, List.append_nil]
    split at h
    · exact sent_sscStorePendingAuth env h
    · cases h; rfl
  | rUnregister status sip => simpa [eventReplies] using sent_sscRUnregister env h
  | rSubscribe status sip => simpa [eventReplies] using sent_sscRSubscribe env h
  | rPublish status sip => simpa [eventReplies] using sent_sscRPublish env h
  | rUnsubscribe status =>
    cases h
    simp only [eventReplies, List.append_nil, sscRUnsubscribe]
    split
    · rfl
    · exact (frame_destroyOf _ _).sent
  | iFork nh2 =>
    cases h
    cases nh2 <;> simp [eventReplies, sscIFork, Ssc.emit]
  -- The remaining requests are answered by the stack.
  | iInfo sip =>
    simp only [eventReplies, List.append_nil]
    rcases sscIInfo_cases h with rfl | ⟨-, rfl⟩ <;> rfl
  | iRefer sip =>
    simp only [eventReplies, List.append_nil]
    rcases sscIRefer_cases h with rfl | ⟨text, rfl⟩
    · rfl
    · exact (frame_sscOperCreate env alloc .invite _ ssc).sent
  | iNotify sip =>
    cases sscINotify_cases h
    simp [eventReplies]
  | iPrack sip =>
    cases h
    simp only [eventReplies, List.append_nil]
    split <;> rfl
  | rShutdown status =>
    cases h
    simp only [eventReplies, List.append_nil]
    split <;> rfl
  | unhandled =>
    cases h
    simp only [eventReplies, List.append_nil]
    split <;> rfl
  | _ => cases h; simp [eventReplies]

/-- What a step writes. -/
theorem sent_sscStep {ssc ssc' : Ssc} {input : SscInput}
    (h : sscStep env alloc ssc input = some ssc') :
    ssc'.sent = stepReplies env alloc ssc input := by
  unfold sscStep at h
  dsimp only at h
  split at h
  · cases input with
    | call c prompt => exact sent_sscCall env alloc h
    | event nh e => exact sent_privCallback env alloc h
  · cases h

end Events

end RestCommSdk.Proofs
