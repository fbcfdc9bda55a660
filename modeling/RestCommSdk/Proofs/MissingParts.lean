import RestCommSdk.Proofs.ReplyForgery
import RestCommSdk.SipManager.SofiaInput

/-!
# `RestCommSdk.Proofs.MissingParts`: remote messages without some of their parts

A body and a Refer-To header are optional, and so is the scheme of the From URL. `ssc_i_message`,
`ssc_i_refer` and `ssc_r_invite` read them without a test for `NULL`, and `ssc_i_invite` does
when it announces the call. What is written to the App is read back by `inputCallback`, and
`handleSofiaInput` needs a text that it can take apart.

`handledWhole_iff` says which messages get through both: those for which `CarriesParts` holds. A
`$` in a text matters too, since what follows it reads as another reply, and so do bytes that are
not UTF-8, since they make `nil` of a text.
-/

set_option autoImplicit false

namespace RestCommSdk.Proofs

open RestCommSdk.Lib
open RestCommSdk.CliInterface
open RestCommSdk.SipManager (NSDictionary objectForKey handleSofiaInput stringifyDictionary)

/-! ### The messages -/

/-- A message that was parsed with a From and a To header. -/
structure ParsedMessage where
  sip : Sip
  sender : SipFrom
  sender_eq : sip.sipFrom = some sender
  hasTo : sip.hasTo = true

/-- What the peer sends: an INVITE, a MESSAGE, a REFER, or the 200 to an INVITE. -/
inductive Remote where
  | invite
  | message
  | refer
  | answer
  deriving DecidableEq, Repr

/-- The event that the stack makes of it. -/
def Remote.event (remote : Remote) (message : ParsedMessage) : NuaEvent :=
  match remote with
  | .invite => .iInvite (some message.sip)
  | .message => .iMessage (some message.sip)
  | .refer => .iRefer (some message.sip)
  | .answer => .rInvite 200 (some message.sip)

/-! ### The property -/

section Property
variable (jsonObject : CString → Option NSDictionary)

/-- The App handles the reply in every state, inserting no `nil` and taking no part that is not
there. The branch for an answer does neither; what it asserts is that there is a peer connection,
and then it searches in the text. -/
def TakesReply (reply : SofiaReply) : Prop :=
  ∀ (active : Bool) (app : App), handleSofiaInput jsonObject active reply app = none →
    SipMsgEnum.ofCode reply.rc = some .outgoingEstablished

/-- The handler of the event reads no missing part, and the App takes whatever it reads off the
replies that the handler has written. -/
def HandledWhole (env : SscEnv) (alloc : Alloc) (ssc : Ssc) (nh : Nat) (e : NuaEvent) : Prop :=
  ∃ ssc', sscStep env alloc ssc (.event nh e) = some ssc' ∧
    ∀ reply ∈ dispatched (ssc'.sent.map SofiaReply.serialize), TakesReply jsonObject reply

/-! ### The condition -/

/-- `usernameFromUri:` finds a user name: before an at sign there is a colon. -/
def HasUsername (uri : CString) : Prop := '@' ∈ uri → ':' ∈ uri.takeWhile (· ≠ '@')

/-- The replies that the App makes an `NSError` of, which holds the text. -/
def errorCodes : List SipMsgEnum :=
  [.errorSipInitializingSignaling, .errorSipRegisterGeneric, .errorSipRegisterAuthentication,
    .errorSipRegisterTimeout, .errorSipRegisterUriInvalid, .errorSipRegisterServiceUnavailable,
    .errorSipInviteGeneric, .errorSipInviteAuthentication, .errorSipInviteTimeout,
    .errorSipInviteNotFound, .errorSipInviteSipUriInvalid, .errorSipMessageGeneric,
    .errorSipMessageAuthentication, .errorSipMessageTimeout, .errorSipMessageNotFound,
    .errorSipMessageUriInvalid]

/-- The text of a reply decodes where the App makes a string of it, and the parts that it takes
out of that string are there. -/
def Readable (reply : SofiaReply) : Prop :=
  match SipMsgEnum.ofCode reply.rc with
  | some .incomingCall => decodes reply.text ∧
    (∃ uri ∈ objectForKey (jsonObject reply.text) "sip-uri", HasUsername uri) ∧
      (objectForKey (jsonObject reply.text) "sdp").isSome
  | some .incomingMsg => decodes reply.text ∧
    '|' ∈ reply.text ∧ HasUsername (reply.text.takeWhile (· ≠ '|'))
  | some code => code ∈ errorCodes → decodes reply.text
  | none => True

/-- The replies that a `$` in its text makes of the rest of a reply. -/
def furtherReplies (reply : SofiaReply) : List SofiaReply :=
  (inputCallback reply.serialize).tail

/-- The call is announced to the application: no dialog has it, and it is not answered
automatically. -/
def Announced (ssc : Ssc) (nh : Nat) : Prop :=
  receivedCallstate (sscOperFindByHandle ssc nh) = .opcRecv ∧ ssc.autoanswer = false

instance (ssc : Ssc) (nh : Nat) : Decidable (Announced ssc nh) :=
  inferInstanceAs (Decidable (_ ∧ _))

/-- The parts that have to be there. -/
def CarriesParts (ssc : Ssc) (nh : Nat) (message : ParsedMessage) : Remote → Prop
  | .invite => Announced ssc nh →
    decodes message.sender.printed ∧ '$' ∉ message.sender.printed ∧
      HasUsername message.sender.printed ∧
      ∃ payload ∈ message.sip.payload, decodes payload ∧ '$' ∉ payload
  | .message => ∃ payload ∈ message.sip.payload,
    let text := message.sender.printed ++ '|' :: payload
    decodes (text.takeWhile (· ≠ '$')) ∧ '$' ∉ text.takeWhile (· ≠ '|') ∧
      HasUsername (text.takeWhile (· ≠ '|')) ∧
        ∀ reply ∈ furtherReplies (SipMsgEnum.incomingMsg.replyWith text), Readable jsonObject reply
  | .refer => message.sip.referTo.isSome
  | .answer => ∃ payload ∈ message.sip.payload,
    ∀ reply ∈ furtherReplies (SipMsgEnum.outgoingEstablished.replyWith payload),
      Readable jsonObject reply

end Property

/-! ### The App side -/

section Replies
variable {jsonObject : CString → Option NSDictionary}

/-- A text without a user name makes `nil`. -/
theorem usernameFromUri_eq_none_iff {uri : Option CString} :
    usernameFromUri uri = none ↔ ∀ u ∈ uri, ¬ HasUsername u := by
  cases uri with
  | none => simp [usernameFromUri]
  | some uri => by_cases hat : '@' ∈ uri <;> simp [usernameFromUri, HasUsername, hat]

/-- `handleSofiaInput` for the reply of a call, once its text is a string. -/
theorem incomingCall_eq_none_iff {reply : SofiaReply} (active : Bool) (app : App)
    (hcode : SipMsgEnum.ofCode reply.rc = some .incomingCall) (hdecodes : decodes reply.text) :
    handleSofiaInput jsonObject active reply app = none ↔
      ¬ ((∃ uri ∈ objectForKey (jsonObject reply.text) "sip-uri", HasUsername uri) ∧
        (objectForKey (jsonObject reply.text) "sdp").isSome) := by
  simp only [handleSofiaInput, hcode, stringWithUTF8String, hdecodes, if_true,
    Option.bind_eq_bind, Option.bind_some]
  -- The caller is taken out of `sip-uri`, and then `sdp` goes into a dictionary.
  cases hcaller : usernameFromUri (objectForKey (jsonObject reply.text) "sip-uri") with
  | none =>
    have hno := usernameFromUri_eq_none_iff.mp hcaller
    refine iff_of_true rfl ?_
    rintro ⟨⟨uri, huri, husername⟩, -⟩
    exact hno uri huri husername
  | some caller =>
    have hyes : ∃ uri ∈ objectForKey (jsonObject reply.text) "sip-uri", HasUsername uri := by
      by_contra hno
      rw [usernameFromUri_eq_none_iff.mpr fun u hu h => hno ⟨u, hu, h⟩] at hcaller
      cases hcaller
    cases hsdp : objectForKey (jsonObject reply.text) "sdp" with
    | none => exact iff_of_true rfl fun h => absurd h.2 Bool.false_ne_true
    | some sdp => exact iff_of_false (Option.some_ne_none _) fun h => h ⟨hyes, rfl⟩

/-- `handleSofiaInput` for the reply of a message, once its text is a string. -/
theorem incomingMsg_eq_none_iff {reply : SofiaReply} (active : Bool) (app : App)
    (hcode : SipMsgEnum.ofCode reply.rc = some .incomingMsg) (hdecodes : decodes reply.text) :
    handleSofiaInput jsonObject active reply app = none ↔
      ¬ ('|' ∈ reply.text ∧ HasUsername (reply.text.takeWhile (· ≠ '|'))) := by
  simp only [handleSofiaInput, hcode, stringWithUTF8String, hdecodes, if_true,
    Option.bind_eq_bind, Option.bind_some]
  -- The sender is what stands in front of the first bar.
  by_cases hbar : '|' ∈ reply.text
  · rw [if_pos hbar]
    cases hcaller : usernameFromUri (some (reply.text.takeWhile (· ≠ '|'))) with
    | none =>
      have hno := usernameFromUri_eq_none_iff.mp hcaller
      exact iff_of_true rfl fun h => hno _ rfl h.2
    | some caller =>
      refine iff_of_false (Option.some_ne_none _) fun h => h ⟨hbar, ?_⟩
      by_contra hno
      rw [usernameFromUri_eq_none_iff.mpr] at hcaller
      · cases hcaller
      · rintro _ ⟨⟩
        exact hno
  · rw [if_neg hbar]
    exact iff_of_true rfl fun h => hbar h.1

/-- Nothing but the assertion of an answer depends on the state of the App. -/
theorem handleSofiaInput_eq_none_iff {reply : SofiaReply} (active : Bool) (app : App)
    (hanswer : SipMsgEnum.ofCode reply.rc ≠ some .outgoingEstablished) :
    handleSofiaInput jsonObject active reply app = none ↔ ¬ Readable jsonObject reply := by
  cases hcode : SipMsgEnum.ofCode reply.rc with
  | none => simp [handleSofiaInput, Readable, hcode]
  | some code =>
    by_cases hdecodes : decodes reply.text = true
    · cases code with
      | outgoingEstablished => exact absurd hcode hanswer
      | incomingCall =>
        rw [incomingCall_eq_none_iff active app hcode hdecodes]
        simp only [Readable, hcode, hdecodes, true_and]
      | incomingMsg =>
        rw [incomingMsg_eq_none_iff active app hcode hdecodes]
        simp only [Readable, hcode, hdecodes, true_and]
      | _ => simp [handleSofiaInput, Readable, hcode, hdecodes, stringWithUTF8String]
    · -- There is no string for a branch that needs one.
      cases code with
      | outgoingEstablished => exact absurd hcode hanswer
      | _ => simp [handleSofiaInput, Readable, hcode, hdecodes, stringWithUTF8String, errorCodes]

/-- A reply is taken exactly if it can be read. -/
theorem takesReply_iff {reply : SofiaReply} :
    TakesReply jsonObject reply ↔ Readable jsonObject reply := by
  by_cases hanswer : SipMsgEnum.ofCode reply.rc = some .outgoingEstablished
  · have hreadable : Readable jsonObject reply := by
      simp [Readable, hanswer, errorCodes]
    exact ⟨fun _ => hreadable, fun _ _ _ _ => hanswer⟩
  · constructor
    · intro htakes
      by_contra hreadable
      -- Any state of the App will do.
      exact hanswer (htakes true { state := .offline }
        ((handleSofiaInput_eq_none_iff true _ hanswer).mpr hreadable))
    · intro hreadable active app hnone
      exact absurd hreadable ((handleSofiaInput_eq_none_iff active app hanswer).mp hnone)

/-! ### The pipe -/

/-- A reply is read up to the first `$` of its text. -/
theorem deserialize_serialize_fst (reply old : SofiaReply) :
    (old.deserialize reply.serialize).1
      = { reply with text := reply.text.takeWhile (· ≠ '$') } := by
  by_cases hdollar : '$' ∈ reply.text
  · -- The reply that ends at this `$`, and what comes behind it.
    obtain ⟨before, rest, hbefore, htext⟩ := exists_first_delimiter hdollar
    have hcut : reply.serialize
        = ({ reply with text := before } : SofiaReply).serialize ++ (rest ++ ['$']) := by
      simp [SofiaReply.serialize, htext]
    rw [hcut, deserialize_serialize { reply with text := before } old _ hbefore, htext,
      takeWhile_append_cons rest hbefore]
  · have hread := deserialize_serialize reply old [] hdollar
    rw [List.append_nil] at hread
    rw [hread, takeWhile_of_notMem hdollar]

/-- What one reply is dispatched as: up to its first `$`, and what comes after that. -/
theorem inputCallback_serialize (reply : SofiaReply) :
    inputCallback reply.serialize
      = { reply with text := reply.text.takeWhile (· ≠ '$') } :: furtherReplies reply := by
  have hhead : ∀ old bytes, inputLoop old bytes
      = (old.deserialize bytes).1 :: (inputLoop old bytes).tail := by
    intro old bytes
    rw [inputLoop]
    split <;> rfl
  rw [← deserialize_serialize_fst reply {}]
  exact hhead {} reply.serialize

/-- Without a `$` nothing comes after it. -/
theorem furtherReplies_of_free {reply : SofiaReply} (hfree : '$' ∉ reply.text) :
    furtherReplies reply = [] := by
  have hsent : sentBytes [reply] = reply.serialize := by simp [sentBytes]
  have hloop := inputLoop_sentBytes [reply] {} (by simp) (by simpa using hfree)
  rw [hsent] at hloop
  rw [furtherReplies, inputCallback, hloop, List.tail_cons]

/-- The replies that one reply is dispatched as are all taken. -/
theorem takesReply_dispatched_iff (reply : SofiaReply) :
    (∀ r ∈ dispatched ([reply].map SofiaReply.serialize), TakesReply jsonObject r) ↔
      Readable jsonObject { reply with text := reply.text.takeWhile (· ≠ '$') } ∧
        ∀ r ∈ furtherReplies reply, Readable jsonObject r := by
  simp only [takesReply_iff]
  rw [dispatched, List.map_singleton, List.flatMap_singleton, inputCallback_serialize,
    List.forall_mem_cons]

end Replies

/-! ### The handlers -/

section Handlers
variable {env : SscEnv} {alloc : Alloc} {ssc : Ssc} {nh : Nat} {message : ParsedMessage}

/-- An event with a fresh allocation is handled. -/
theorem sscStep_event_of_fresh (hfresh : alloc.Fresh ssc) (e : NuaEvent) :
    sscStep env alloc ssc (.event nh e)
      = privCallback env alloc nh { ssc with nua := [], sent := [] } e := by
  have hfresh : alloc.Fresh { ssc with nua := [], sent := [] } := hfresh
  simp [sscStep, hfresh]

/-- A call without a body cannot be announced. -/
theorem announceInvite_isSome_iff {sip : Sip} {sipFrom : SipFrom} {op : SscOper} :
    (announceInvite sip sipFrom op ssc).isSome ↔
      (op.opCallstate = .opcRecv ∧ ssc.autoanswer = false → sip.payload.isSome) := by
  unfold announceInvite
  by_cases hrecv : op.opCallstate = .opcRecv <;> cases hauto : ssc.autoanswer <;>
    cases sip.payload <;> simp [hrecv]

/-- The body is read when the call is announced. -/
theorem sscIInvite_isSome_iff :
    (sscIInvite alloc nh (sscOperFindByHandle ssc nh) (some message.sip) ssc).isSome ↔
      (Announced ssc nh → message.sip.payload.isSome) := by
  simp only [sscIInvite, message.sender_eq, message.hasTo, Announced]
  cases hop : sscOperFindByHandle ssc nh with
  | some op => exact announceInvite_isSome_iff
  | none =>
    -- The operation that is made is the first of the list.
    have hmade : ∃ op,
        ((sscOperCreateWithHandle alloc .invite nh ssc).setOper alloc.addr fun op =>
          { op with opCallstate := { op.opCallstate with recv := true }
                    isOutgoing := false }).oper? alloc.addr = some op ∧
          op.opCallstate = .opcRecv := by
      simp [Ssc.oper?, Ssc.setOper, sscOperCreateWithHandle, Ssc.emit, sscOperAssign,
        Callstate.opcRecv, Callstate.none]
    obtain ⟨op, hmade, hcallstate⟩ := hmade
    simp only [Bool.not_true, Bool.false_eq_true, if_false, hmade]
    refine announceInvite_isSome_iff.trans ?_
    rw [hcallstate]
    exact Iff.rfl

/-- Which part each handler reads. -/
theorem step_isSome_iff (hfresh : alloc.Fresh ssc) (remote : Remote) :
    (sscStep env alloc ssc (.event nh (remote.event message))).isSome ↔
      match remote with
      | .invite => Announced ssc nh → message.sip.payload.isSome
      | .refer => message.sip.referTo.isSome
      | .message | .answer => message.sip.payload.isSome := by
  rw [sscStep_event_of_fresh hfresh]
  cases remote with
  | invite => exact sscIInvite_isSome_iff
  | message =>
    dsimp only [Remote.event, privCallback, sscIMessage]
    -- With or without an operation for the message, the body is read.
    cases hpayload : message.sip.payload <;>
      cases sscOperFindByHandle { ssc with nua := [], sent := [] } nh <;>
      simp [message.sender_eq, message.hasTo, hpayload]
  | refer =>
    dsimp only [Remote.event, privCallback, sscIRefer]
    -- The header is read whatever kind of URL it holds.
    cases hrefer : message.sip.referTo with
    | none => simp [message.sender_eq, message.hasTo, hrefer]
    | some referTo =>
      cases hsip : referTo.isSip <;> simp [message.sender_eq, message.hasTo, hrefer, hsip]
  | answer =>
    dsimp only [Remote.event, privCallback, sscRInvite]
    cases hpayload : message.sip.payload <;> simp [hpayload]

/-- The handler and the App, one after the other. -/
theorem handledWhole_iff_step {jsonObject : CString → Option NSDictionary} {e : NuaEvent} :
    HandledWhole jsonObject env alloc ssc nh e ↔
      (sscStep env alloc ssc (.event nh e)).isSome ∧
        ∀ reply ∈ dispatched ((eventReplies ssc nh e).map SofiaReply.serialize),
          TakesReply jsonObject reply := by
  constructor
  · rintro ⟨ssc', hstep, htakes⟩
    rw [sent_sscStep env alloc hstep] at htakes
    exact ⟨by rw [hstep]; rfl, htakes⟩
  · rintro ⟨hsome, htakes⟩
    obtain ⟨ssc', hstep⟩ := Option.isSome_iff_exists.mp hsome
    refine ⟨ssc', hstep, ?_⟩
    rw [sent_sscStep env alloc hstep]
    exact htakes

end Handlers

/-! ### The messages that get through -/

section Remotes
variable {jsonObject : CString → Option NSDictionary}
variable (hread : ∀ d, jsonObject (stringifyDictionary d) = some d)
variable (htruncated : ∀ d p q, p ++ q = stringifyDictionary d → q ≠ [] → jsonObject p = none)
include hread

omit hread in
/-- What announces a call of two texts that decode. -/
theorem incomingCallMessage_of_decodes {url payload : CString} (hurl : decodes url)
    (hpayload : decodes payload) :
    incomingCallMessage url payload = [("sip-uri".toList, url), ("sdp".toList, payload)] := by
  simp [incomingCallMessage, stringWithUTF8String, hurl, hpayload,
    SipManager.dictionaryWithObjectsAndKeys]

omit hread in
/-- Only texts that decode are in the dictionary of an announcement, so its text decodes. -/
theorem decodes_incomingCallText (url payload : CString) :
    decodes (incomingCallText url payload) = true := by
  refine Json.decodes_write fun member hmember => ?_
  have hkeys : decodes "sip-uri".toList = true ∧ decodes "sdp".toList = true := by decide
  by_cases hurl : decodes url = true <;> by_cases hpayload : decodes payload = true <;>
    simp only [incomingCallMessage, stringWithUTF8String, hurl, hpayload, if_true,
      Bool.false_eq_true, if_false, SipManager.dictionaryWithObjectsAndKeys, List.mem_cons,
      List.not_mem_nil, or_false] at hmember
  · rcases hmember with rfl | rfl
    · exact ⟨hkeys.1, hurl⟩
    · exact ⟨hkeys.2, hpayload⟩
  · rw [hmember]
    exact ⟨hkeys.1, hurl⟩

/-- Read in one piece, an announcement has both parts when both texts decode. -/
theorem readable_incomingCall_iff (url payload : CString) :
    Readable jsonObject (SipMsgEnum.incomingCall.replyWith (incomingCallText url payload)) ↔
      decodes url ∧ HasUsername url ∧ decodes payload := by
  have hcode : SipMsgEnum.ofCode SipMsgEnum.incomingCall.code = some .incomingCall := by simp
  have hargs : jsonObject (incomingCallText url payload) = some (incomingCallMessage url payload) :=
    hread _
  simp only [Readable, SipMsgEnum.replyWith, hcode, hargs, decodes_incomingCallText, true_and]
  by_cases hurl : decodes url = true <;> by_cases hpayload : decodes payload = true
  · have huri : objectForKey (some [("sip-uri".toList, url), ("sdp".toList, payload)]) "sip-uri"
        = some url := rfl
    have hsdp : objectForKey (some [("sip-uri".toList, url), ("sdp".toList, payload)]) "sdp"
        = some payload := rfl
    rw [incomingCallMessage_of_decodes hurl hpayload, huri, hsdp]
    simp [hurl, hpayload]
  · -- The dictionary ends behind the URL.
    have hmessage : incomingCallMessage url payload = [("sip-uri".toList, url)] := by
      simp [incomingCallMessage, stringWithUTF8String, hurl, hpayload,
        SipManager.dictionaryWithObjectsAndKeys]
    have hsdp : objectForKey (some [("sip-uri".toList, url)]) "sdp" = none := rfl
    rw [hmessage, hsdp]
    simp [hpayload]
  all_goals
    -- Without a URL there is nothing in it.
    have hmessage : incomingCallMessage url payload = [] := by
      simp [incomingCallMessage, stringWithUTF8String, hurl,
        SipManager.dictionaryWithObjectsAndKeys]
    have huri : objectForKey (some []) "sip-uri" = none := rfl
    simp [hmessage, huri, hurl]

include htruncated

/-- The announcement of a call reads back whole, or not at all. -/
theorem takesReply_incomingCall_iff (url payload : CString) :
    (∀ r ∈ dispatched ([SipMsgEnum.incomingCall.replyWith (incomingCallText url payload)].map
        SofiaReply.serialize), TakesReply jsonObject r) ↔
      decodes url ∧ '$' ∉ url ∧ HasUsername url ∧ decodes payload ∧ '$' ∉ payload := by
  rw [takesReply_dispatched_iff]
  -- Of two texts that decode, both are in the announcement.
  have hboth : decodes url = true → decodes payload = true →
      ('$' ∈ incomingCallText url payload ↔ '$' ∈ url ∨ '$' ∈ payload) := by
    intro hurl hpayload
    rw [dollar_mem_incomingCallText, incomingCallMessage_of_decodes hurl hpayload]
    simp
  by_cases hdollar : '$' ∈ incomingCallText url payload
  · -- The text is cut off before its end, and nothing is read from it.
    obtain ⟨before, rest, hbefore, htext⟩ := exists_first_delimiter hdollar
    have hcut : (incomingCallText url payload).takeWhile (· ≠ '$') = before := by
      rw [htext, takeWhile_append_cons rest hbefore]
    have hnone : jsonObject before = none := htruncated _ before ('$' :: rest) htext.symm (by simp)
    have hcode : SipMsgEnum.ofCode SipMsgEnum.incomingCall.code = some .incomingCall := by simp
    refine iff_of_false ?_ ?_
    · rintro ⟨hreadable, -⟩
      simp only [Readable, SipMsgEnum.replyWith, hcode, hcut, hnone, objectForKey,
        Option.bind_none] at hreadable
      exact absurd hreadable.2.2 Bool.false_ne_true
    · rintro ⟨hurl, hurldollar, -, hpayload, hpayloaddollar⟩
      rcases (hboth hurl hpayload).mp hdollar with h | h
      · exact hurldollar h
      · exact hpayloaddollar h
  · rw [furtherReplies_of_free hdollar]
    simp only [SipMsgEnum.replyWith, takeWhile_of_notMem hdollar]
    rw [← SipMsgEnum.replyWith, readable_incomingCall_iff hread]
    constructor
    · rintro ⟨⟨hurl, husername, hpayload⟩, -⟩
      have hfree := (hboth hurl hpayload).not.mp hdollar
      rw [not_or] at hfree
      exact ⟨hurl, hfree.1, husername, hpayload, hfree.2⟩
    · rintro ⟨hurl, -, husername, hpayload, -⟩
      exact ⟨⟨hurl, husername, hpayload⟩, by simp⟩

omit hread htruncated in
/-- The text of a message is taken apart at the first bar. -/
theorem takesReply_incomingMsg_iff (url payload : CString) :
    (∀ r ∈ dispatched ([SipMsgEnum.incomingMsg.replyWith (url ++ '|' :: payload)].map
        SofiaReply.serialize), TakesReply jsonObject r) ↔
      decodes ((url ++ '|' :: payload).takeWhile (· ≠ '$')) ∧
        '$' ∉ (url ++ '|' :: payload).takeWhile (· ≠ '|') ∧
        HasUsername ((url ++ '|' :: payload).takeWhile (· ≠ '|')) ∧
        ∀ r ∈ furtherReplies (SipMsgEnum.incomingMsg.replyWith (url ++ '|' :: payload)),
          Readable jsonObject r := by
  rw [takesReply_dispatched_iff, ← and_assoc, ← and_assoc]
  refine and_congr ?_ Iff.rfl
  have hcode : SipMsgEnum.ofCode SipMsgEnum.incomingMsg.code = some .incomingMsg := by simp
  obtain ⟨sender, rest, hsender, htext⟩ :=
    exists_first_delimiter (show '|' ∈ url ++ '|' :: payload by simp)
  simp only [Readable, SipMsgEnum.replyWith, hcode, htext, takeWhile_append_cons rest hsender]
  by_cases hdollar : '$' ∈ sender
  · -- The bar is not read any more.
    obtain ⟨before, after, hbefore, rfl⟩ := exists_first_delimiter hdollar
    have hcut : ((before ++ '$' :: after) ++ '|' :: rest).takeWhile (· ≠ '$') = before := by
      rw [List.append_assoc, List.cons_append, takeWhile_append_cons _ hbefore]
    rw [hcut]
    refine iff_of_false ?_ fun h => h.1.2 hdollar
    rintro ⟨-, hbar, -⟩
    exact hsender (List.mem_append_left _ hbar)
  · have hkeep : (sender ++ '|' :: rest).takeWhile (· ≠ '$')
        = sender ++ '|' :: rest.takeWhile (· ≠ '$') := by
      rw [List.takeWhile_append_of_pos]
      · simp
      · intro c hc
        simpa using fun h : c = '$' => hdollar (h ▸ hc)
    rw [hkeep, takeWhile_append_cons _ hsender, and_assoc]
    refine and_congr_right fun _ => ?_
    simp [hdollar]

end Remotes

/-- A message from `alice` of the host `h`, with a To header. -/
def fromAlice (url : String) (payload : Option String) : ParsedMessage where
  sip :=
    { sipFrom := some { url := url.toList, urlUser := some "alice".toList }
      hasTo := true
      payload := payload.map String.toList }
  sender := { url := url.toList, urlUser := some "alice".toList }
  sender_eq := rfl
  hasTo := rfl

end RestCommSdk.Proofs
