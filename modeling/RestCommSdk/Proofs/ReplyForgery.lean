import RestCommSdk.Lib.Run
import RestCommSdk.Proofs.CommandDelivery
import RestCommSdk.Proofs.ReplyPipe
import RestCommSdk.Proofs.SscReplies

/-!
# `RestCommSdk.Proofs.ReplyForgery`: when the peer can forge replies

Four replies carry a text that comes from the network: an incoming call, an incoming message,
the `200` to an INVITE and the `200` to a REGISTER. `copiedTexts` lists the texts that a step
copies. `dispatched_codes_iff` states when the App dispatches exactly the replies that a run
of the SIP client has sent: when no text that a step copies holds a `$`.
-/

set_option autoImplicit false

namespace RestCommSdk.Proofs

open RestCommSdk.Lib
open RestCommSdk.CliInterface

/-- What a run of the SIP client sends to the App. -/
def sentReplies (env : SscEnv) (start : Ssc) (inputs : List (Alloc × SscInput)) :
    List SofiaReply :=
  outputs (sscMachine env) Ssc.sent start inputs

/-! ### The texts of a step -/

/-- The sender and the body of a request that has both, as they are copied. -/
def senderAndBody (sip : Option Sip) : List CString :=
  match sip.bind (·.sipFrom) with
  | some sipFrom => [sipFrom.printed, (sip.bind (·.payload)).getD []]
  | none => []

/-- The texts that the announcement of a call copies. One that does not decode is not among
them. -/
def announcedTexts (sip : Option Sip) : List CString :=
  match sip.bind (·.sipFrom) with
  | some sipFrom =>
    (incomingCallMessage sipFrom.printed ((sip.bind (·.payload)).getD [])).map Prod.snd
  | none => []

/-- The texts from the network that a step copies into a reply. -/
def copiedTexts (ssc : Ssc) : SscInput → List CString
  | .event _ (.rRegister status phrase _) => if status = 200 then [phrase] else []
  | .event _ (.rInvite status sip) =>
    if status = 200 then [(sip.bind (·.payload)).getD []] else []
  | .event nh (.iInvite sip) =>
    if sip.any (·.hasTo) ∧ receivedCallstate (sscOperFindByHandle ssc nh) = .opcRecv ∧
        ssc.autoanswer = false then
      announcedTexts sip
    else []
  | .event _ (.iMessage sip) => senderAndBody sip
  | _ => []

/-- No text that the step copies into a reply holds a `$`. -/
def CopiesNoDollar (ssc : Ssc) (input : Alloc × SscInput) : Prop :=
  ∀ t ∈ copiedTexts ssc input.2, '$' ∉ t

/-- The two keys of an announcement. -/
theorem keys_incomingCallMessage (url payload : CString) :
    (incomingCallMessage url payload).map Prod.fst <+: ["sip-uri".toList, "sdp".toList] := by
  unfold incomingCallMessage
  cases stringWithUTF8String url <;> cases stringWithUTF8String payload <;>
    simp [SipManager.dictionaryWithObjectsAndKeys]

/-- A `$` in an announcement comes from one of its texts. -/
theorem dollar_mem_incomingCallText (url payload : CString) :
    '$' ∈ incomingCallText url payload ↔
      ∃ t ∈ (incomingCallMessage url payload).map Prod.snd, '$' ∈ t := by
  rw [incomingCallText, dollar_mem_stringifyDictionary]
  constructor
  · rintro ⟨member, hmember, hkey | htext⟩
    · have hkeys := (keys_incomingCallMessage url payload).subset
        (List.mem_map_of_mem (f := Prod.fst) hmember)
      have hfree : ∀ key ∈ ["sip-uri".toList, "sdp".toList], '$' ∉ key := by decide
      exact absurd hkey (hfree _ hkeys)
    · exact ⟨member.2, List.mem_map_of_mem hmember, htext⟩
  · rintro ⟨t, ht, hdollar⟩
    obtain ⟨member, hmember, rfl⟩ := List.mem_map.mp ht
    exact ⟨member, hmember, .inr hdollar⟩

/-- The text of a refused call is fixed. -/
theorem dollar_notMem_inviteFailed (status : Nat) : '$' ∉ (inviteFailed status).text := by
  unfold inviteFailed
  split_ifs <;>
    simp [SipMsgEnum.reply, SipMsgEnum.errorReply, SipMsgEnum.replyWith,
      SipMsgEnum.dollar_notMem_getErrorText]

/-- The text of a refused message is fixed. -/
theorem dollar_notMem_messageFailed (status : Nat) : '$' ∉ (messageFailed status).text := by
  unfold messageFailed
  split_ifs <;>
    simp [SipMsgEnum.errorReply, SipMsgEnum.replyWith, SipMsgEnum.dollar_notMem_getErrorText]

/-- The text of a refused registration is fixed. -/
theorem dollar_notMem_registerFailed (status : Nat) : '$' ∉ (registerFailed status).text := by
  unfold registerFailed
  split_ifs <;>
    simp [SipMsgEnum.errorReply, SipMsgEnum.replyWith, SipMsgEnum.dollar_notMem_getErrorText]

/-- The answer to a registration copies the phrase of the status. -/
theorem replies_free_iff_rRegister (status : Nat) (phrase : CString) :
    (∀ r ∈ rRegisterReplies status phrase, '$' ∉ r.text) ↔
      ∀ t ∈ (if status = 200 then [phrase] else []), '$' ∉ t := by
  unfold rRegisterReplies
  by_cases hok : status = 200
  · simp [hok, isChallenge, SipMsgEnum.replyWith]
  · rw [if_neg hok, if_neg hok]
    split_ifs <;> simp [dollar_notMem_registerFailed]

/-- The answer to a call copies the description. -/
theorem replies_free_iff_rInvite (status : Nat) (sip : Option Sip) :
    (∀ r ∈ rInviteReplies status sip, '$' ∉ r.text) ↔
      ∀ t ∈ (if status = 200 then [(sip.bind (·.payload)).getD []] else []), '$' ∉ t := by
  unfold rInviteReplies
  by_cases hok : status = 200
  · simp [hok, SipMsgEnum.replyWith]
  · rw [if_neg hok, if_neg hok]
    split_ifs <;> simp [dollar_notMem_inviteFailed, SipMsgEnum.reply]

/-- A message copies the sender and the body. -/
theorem replies_free_iff_iMessage (sip : Option Sip) :
    (∀ r ∈ iMessageReplies sip, '$' ∉ r.text) ↔ ∀ t ∈ senderAndBody sip, '$' ∉ t := by
  unfold iMessageReplies senderAndBody
  cases sip.bind (·.sipFrom) <;> simp [SipMsgEnum.replyWith]

/-- A call that comes in copies the sender and the description. -/
theorem replies_free_iff_iInvite (autoanswer : Bool) (op : Option SscOper) (sip : Option Sip) :
    (∀ r ∈ iInviteReplies autoanswer op sip, '$' ∉ r.text) ↔
      ∀ t ∈ (if sip.any (·.hasTo) ∧ receivedCallstate op = .opcRecv ∧ autoanswer = false then
        announcedTexts sip else []), '$' ∉ t := by
  unfold iInviteReplies announcedTexts
  cases sip.bind (·.sipFrom) with
  | none => simp
  | some sipFrom =>
    dsimp only
    split_ifs
    · simp only [SipMsgEnum.replyWith, List.forall_mem_singleton, dollar_mem_incomingCallText,
        not_exists, not_and]
    · simp

/-- The replies to an event are free of `$` exactly if what they copy is. -/
theorem replies_free_iff_event (ssc : Ssc) (nh : Nat) (e : NuaEvent) :
    (∀ r ∈ eventReplies ssc nh e, '$' ∉ r.text) ↔
      ∀ t ∈ copiedTexts ssc (.event nh e), '$' ∉ t := by
  cases e with
  | rRegister status phrase sip => exact replies_free_iff_rRegister status phrase
  | rInvite status sip => exact replies_free_iff_rInvite status sip
  | iInvite sip => exact replies_free_iff_iInvite _ _ sip
  | iMessage sip => exact replies_free_iff_iMessage sip
  | iState tags =>
    -- The other replies have texts of the code's own.
    simp only [eventReplies, iStateReplies, copiedTexts]
    split
    · split_ifs <;> simp [SipMsgEnum.reply]
    · simp
  | rBye status sip =>
    simp only [eventReplies, copiedTexts]
    split_ifs <;> simp [SipMsgEnum.reply]
  | rMessage status sip =>
    simp only [eventReplies, copiedTexts]
    split_ifs <;> simp [dollar_notMem_messageFailed]
  | _ => simp [eventReplies, copiedTexts, SipMsgEnum.reply]

/-- The replies of a step are `$`-free exactly when the texts it copies are. -/
theorem sent_free_iff (env : SscEnv) (ssc : Ssc) (input : Alloc × SscInput) (ssc' : Ssc)
    (h : sscMachine env ssc input = some ssc') :
    (∀ r ∈ ssc'.sent, '$' ∉ r.text) ↔ CopiesNoDollar ssc input := by
  obtain ⟨alloc, input⟩ := input
  rw [sent_sscStep env alloc h]
  cases input with
  | event nh e => exact replies_free_iff_event ssc nh e
  | call c prompt =>
    cases c with
    | invite destination password sdp headers =>
      simp only [stepReplies, callReplies, CopiesNoDollar, copiedTexts]
      split_ifs <;>
        simp [SipMsgEnum.errorReply, SipMsgEnum.replyWith, SipMsgEnum.dollar_notMem_getErrorText]
    | _ => simp [stepReplies, callReplies, CopiesNoDollar, copiedTexts]

/-! ### Runs that differ in the texts -/

/-- A message without its body and its sender. -/
def eraseSip (sip : Sip) : Sip :=
  { sip with
    sipFrom := sip.sipFrom.map fun f => { f with url := [] }
    payload := sip.payload.map fun _ => [] }

/-- An input without the texts that its step may copy. -/
def eraseTexts : SscInput → SscInput
  | .event nh (.rRegister status _ sip) => .event nh (.rRegister status [] sip)
  | .event nh (.rInvite status sip) => .event nh (.rInvite status (sip.map eraseSip))
  | .event nh (.iInvite sip) => .event nh (.iInvite (sip.map eraseSip))
  | .event nh (.iMessage sip) => .event nh (.iMessage (sip.map eraseSip))
  | input => input

/-- The inputs differ in the texts that their steps may copy at most. -/
def SameButTexts (input input' : Alloc × SscInput) : Prop :=
  input.1 = input'.1 ∧ eraseTexts input.2 = eraseTexts input'.2

/-- The state without the replies of the last step. -/
def unsent (ssc : Ssc) : Ssc := { ssc with sent := [] }

/-- The challenges of a message are no text for the App. -/
theorem pendingItems_eraseSip (sip : Sip) (op : SscOper) :
    pendingItems (eraseSip sip) op = pendingItems sip op := by
  have huser : (eraseSip sip).sipFrom.bind (·.urlUser) = sip.sipFrom.bind (·.urlUser) := by
    cases h : sip.sipFrom <;> simp [eraseSip, h]
  simp only [pendingItems, privStorePendingAuth, huser]
  rfl

/-- A challenge is stored without looking at the texts. -/
theorem sscStorePendingAuth_eraseSip (env : SscEnv) (ssc : Ssc) (op : Option SscOper)
    (sip : Option Sip) :
    sscStorePendingAuth env ssc op (sip.map eraseSip) = sscStorePendingAuth env ssc op sip := by
  cases op with
  | none => rfl
  | some op =>
    cases sip with
    | none => rfl
    | some sip => simp [sscStorePendingAuth, pendingItems_eraseSip]

/-- The answer to a call does the same with other texts. -/
theorem unsent_sscRInvite (env : SscEnv) (status : Nat) (op : Option SscOper)
    (sip : Option Sip) (ssc : Ssc) :
    (sscRInvite env status op (sip.map eraseSip) ssc).map unsent
      = (sscRInvite env status op sip ssc).map unsent := by
  unfold sscRInvite
  split
  · cases op with
    | none => rfl
    | some op => simp [sscStorePendingAuth_eraseSip]
  · split
    · rfl
    · split
      · cases sip with
        | none => rfl
        | some sip =>
          cases h : sip.payload <;> simp [h, eraseSip, unsent, Ssc.send]
      · rfl

/-- A call is announced likewise with other texts. -/
theorem unsent_announceInvite (sip : Sip) (sipFrom sipFrom' : SipFrom) (op : SscOper)
    (ssc : Ssc) :
    (announceInvite (eraseSip sip) sipFrom' op ssc).map unsent
      = (announceInvite sip sipFrom op ssc).map unsent := by
  unfold announceInvite
  split
  · split
    · rfl
    · cases h : sip.payload <;> simp [h, eraseSip, unsent, Ssc.send]
  · rfl

/-- A call comes in likewise with other texts. -/
theorem unsent_sscIInvite (alloc : Alloc) (nh : Nat) (op : Option SscOper) (sip : Option Sip)
    (ssc : Ssc) :
    (sscIInvite alloc nh op (sip.map eraseSip) ssc).map unsent
      = (sscIInvite alloc nh op sip ssc).map unsent := by
  cases sip with
  | none => rfl
  | some sip =>
    cases hfrom : sip.sipFrom with
    | none => simp [sscIInvite, eraseSip, hfrom]
    | some sipFrom =>
      -- Erasing the texts keeps which of the headers are there.
      have hfrom' : (eraseSip sip).sipFrom = some { sipFrom with url := [] } := by
        simp [eraseSip, hfrom]
      have hto : (eraseSip sip).hasTo = sip.hasTo := rfl
      simp only [sscIInvite, Option.map_some, hfrom, hfrom', hto]
      split
      · rfl
      · cases op with
        -- What is announced is sent, and sending is left out.
        | some op => exact unsent_announceInvite _ _ _ _ _
        | none =>
          simp only [Option.bind_eq_bind, Option.map_bind]
          exact congrArg (Option.bind _) (funext fun op => unsent_announceInvite _ _ _ _ _)

/-- A message comes in likewise with other texts. -/
theorem unsent_sscIMessage (alloc : Alloc) (nh : Nat) (op : Option SscOper) (sip : Option Sip)
    (ssc : Ssc) :
    (sscIMessage alloc nh op (sip.map eraseSip) ssc).map unsent
      = (sscIMessage alloc nh op sip ssc).map unsent := by
  cases sip with
  | none => rfl
  | some sip =>
    cases hfrom : sip.sipFrom with
    | none => simp [sscIMessage, eraseSip, hfrom]
    | some sipFrom =>
      cases hpayload : sip.payload with
      | none => simp [sscIMessage, eraseSip, hfrom, hpayload]
      | some payload =>
        cases op <;> by_cases hto : sip.hasTo <;>
          simp [sscIMessage, eraseSip, hfrom, hpayload, hto] <;> rfl

/-- The answer to a registration does the same with another phrase. -/
theorem unsent_sscRRegister (env : SscEnv) (status : Nat) (phrase phrase' : CString)
    (op : Option SscOper) (sip : Option Sip) (ssc : Ssc) :
    (sscRRegister env status phrase' op sip ssc).map unsent
      = (sscRRegister env status phrase op sip ssc).map unsent := by
  unfold sscRRegister
  split_ifs <;> rfl

/-- A step without the texts leads to the same state. -/
theorem unsent_sscStep (env : SscEnv) (alloc : Alloc) (ssc : Ssc) (input : SscInput) :
    (sscStep env alloc ssc (eraseTexts input)).map unsent
      = (sscStep env alloc ssc input).map unsent := by
  unfold sscStep
  dsimp only
  split
  · cases input with
    | call c prompt => rfl
    | event nh e =>
      cases e with
      | rRegister status phrase sip => exact unsent_sscRRegister env status phrase [] _ sip _
      | rInvite status sip => exact unsent_sscRInvite env status _ sip _
      | iInvite sip => exact unsent_sscIInvite alloc nh _ sip _
      | iMessage sip => exact unsent_sscIMessage alloc nh _ sip _
      | _ => rfl
  · rfl

/-- A step without the texts sends replies with the same codes. -/
theorem codes_stepReplies (env : SscEnv) (alloc : Alloc) (ssc : Ssc) (input : SscInput) :
    (stepReplies env alloc ssc (eraseTexts input)).map (·.rc)
      = (stepReplies env alloc ssc input).map (·.rc) := by
  cases input with
  -- The reply to a call that fails copies nothing.
  | call c prompt => rfl
  | event nh e =>
    cases e with
    | rRegister status phrase sip =>
      simp only [eraseTexts, stepReplies, eventReplies, rRegisterReplies]
      split_ifs <;> rfl
    | rInvite status sip =>
      simp only [eraseTexts, stepReplies, eventReplies, rInviteReplies]
      split_ifs <;> rfl
    | iInvite sip =>
      cases sip with
      | none => rfl
      | some sip =>
        cases hfrom : sip.sipFrom with
        | none => simp [eraseTexts, stepReplies, eventReplies, iInviteReplies, eraseSip, hfrom]
        | some sipFrom =>
          simp only [eraseTexts, stepReplies, eventReplies, iInviteReplies, eraseSip, hfrom,
            Option.map_some, Option.bind_some, Option.any_some]
          -- The announcement depends on the operation, not on the texts.
          split_ifs <;> rfl
    | iMessage sip =>
      cases sip with
      | none => rfl
      | some sip =>
        cases hfrom : sip.sipFrom <;>
          simp [eraseTexts, stepReplies, eventReplies, iMessageReplies, eraseSip, hfrom,
            SipMsgEnum.replyWith]
    | _ => rfl

/-- Runs that differ in the texts alone send replies with the same codes. -/
theorem codes_sentReplies (env : SscEnv) (start : Ssc) {inputs inputs' : List (Alloc × SscInput)}
    (h : List.Forall₂ SameButTexts inputs inputs') :
    (sentReplies env start inputs).map (·.rc) = (sentReplies env start inputs').map (·.rc) := by
  refine outputs_map_eq_of_bisim (R := fun s t => unsent s = unsent t) ?_ rfl h
  rintro s t ⟨alloc, i⟩ ⟨alloc', j⟩ hst ⟨rfl, hij⟩
  -- A step clears the replies first, so it does not see those of the step before.
  have hs : ∀ ssc input, sscStep env alloc ssc input = sscStep env alloc (unsent ssc) input :=
    fun _ _ => rfl
  have hreplies : ∀ ssc input,
      stepReplies env alloc ssc input = stepReplies env alloc (unsent ssc) input :=
    fun _ input => by cases input <;> rfl
  have hmap : (sscStep env alloc s i).map unsent = (sscStep env alloc t j).map unsent := by
    rw [← unsent_sscStep env alloc s i, ← unsent_sscStep env alloc t j, hij, hs s, hs t, hst]
  have hcodes :
      (stepReplies env alloc s i).map (·.rc) = (stepReplies env alloc t j).map (·.rc) := by
    rw [← codes_stepReplies env alloc s i, ← codes_stepReplies env alloc t j, hij, hreplies s,
      hreplies t, hst]
  simp only [sscMachine]
  cases h₁ : sscStep env alloc s i <;> cases h₂ : sscStep env alloc t j <;>
    simp only [h₁, h₂, Option.map_none, Option.map_some, reduceCtorEq, Option.some.injEq] at hmap
  · exact .none
  · exact .some ⟨hmap, by rw [sent_sscStep env alloc h₁, sent_sscStep env alloc h₂, hcodes]⟩

/-! ### Forgery -/

/-- Let the replies of a run arrive in reads of whole replies. The App dispatches one reply
for each one sent, in order and with its code, exactly when no step copies a text with a `$`
into a reply. Two such runs that differ in the texts alone are dispatched alike. -/
theorem dispatched_codes_iff (env : SscEnv) (start : Ssc) (inputs : List (Alloc × SscInput))
    (batches : List (List SofiaReply)) (hne : ∀ b ∈ batches, b ≠ [])
    (hsent : batches.flatten = sentReplies env start inputs) :
    ((dispatched (batches.map sentBytes)).map (·.rc) = batches.flatten.map (·.rc) ↔
      AllSteps (sscMachine env) (fun ssc input _ => CopiesNoDollar ssc input) start inputs) ∧
    ∀ (inputs' : List (Alloc × SscInput)) (batches' : List (List SofiaReply)),
      (∀ b ∈ batches', b ≠ []) → batches'.flatten = sentReplies env start inputs' →
      List.Forall₂ SameButTexts inputs inputs' →
      AllSteps (sscMachine env) (fun ssc input _ => CopiesNoDollar ssc input) start inputs →
      AllSteps (sscMachine env) (fun ssc input _ => CopiesNoDollar ssc input) start inputs' →
      (dispatched (batches.map sentBytes)).map (·.rc)
        = (dispatched (batches'.map sentBytes)).map (·.rc) := by
  -- Every reply of a run is free of `$` exactly when every step copies none.
  have hfree : ∀ inputs, (∀ r ∈ sentReplies env start inputs, '$' ∉ r.text) ↔
      AllSteps (sscMachine env) (fun ssc input _ => CopiesNoDollar ssc input) start inputs :=
    fun inputs => forall_outputs_iff (p := fun r : SofiaReply => '$' ∉ r.text)
      (sent_free_iff env) start inputs
  refine ⟨⟨fun h => ?_, fun h => ?_⟩, fun inputs' batches' hne' hsent' hsame h h' => ?_⟩
  · -- A cut reply changes how many are dispatched.
    have hlength : (dispatched (batches.map sentBytes)).length = batches.flatten.length := by
      rw [← List.length_map (f := fun r : SofiaReply => r.rc), h, List.length_map]
    rw [← hfree, ← hsent]
    exact (length_dispatched_batches_iff hne).mp hlength
  · rw [← hfree, ← hsent] at h
    -- Free of `$`, the batches are read back as they were sent.
    rw [dispatched_batches hne h]
  · rw [← hfree, ← hsent] at h
    rw [← hfree, ← hsent'] at h'
    rw [dispatched_batches hne h, dispatched_batches hne' h', hsent, hsent']
    -- The codes sent do not depend on the texts.
    exact codes_sentReplies env start hsame

/-- A text message from `sip:b@h`. -/
def messageFrom (body : CString) : SscInput :=
  .event 1 (.iMessage (some
    { sipFrom := some { url := "sip:b@h".toList, urlUser := none }
      hasTo := true
      payload := some body }))

/-- The reply that announces it. -/
def messageReply (body : CString) : SofiaReply := ⟨29, "sip:b@h|".toList ++ body⟩

/-- One text message, read in one piece, against another one. -/
theorem dispatched_codes_iff_message :
    ((dispatched ([[messageReply "hi".toList]].map sentBytes)).map (·.rc)
        = [[messageReply "hi".toList]].flatten.map (·.rc) ↔
      AllSteps (sscMachine plainEnv) (fun ssc input _ => CopiesNoDollar ssc input) {}
        [(⟨7, 7⟩, messageFrom "hi".toList)]) ∧
    ∀ (inputs' : List (Alloc × SscInput)) (batches' : List (List SofiaReply)),
      (∀ b ∈ batches', b ≠ []) → batches'.flatten = sentReplies plainEnv {} inputs' →
      List.Forall₂ SameButTexts [(⟨7, 7⟩, messageFrom "hi".toList)] inputs' →
      AllSteps (sscMachine plainEnv) (fun ssc input _ => CopiesNoDollar ssc input) {}
        [(⟨7, 7⟩, messageFrom "hi".toList)] →
      AllSteps (sscMachine plainEnv) (fun ssc input _ => CopiesNoDollar ssc input) {} inputs' →
      (dispatched ([[messageReply "hi".toList]].map sentBytes)).map (·.rc)
        = (dispatched (batches'.map sentBytes)).map (·.rc) :=
  dispatched_codes_iff plainEnv {} [(⟨7, 7⟩, messageFrom "hi".toList)]
    [[messageReply "hi".toList]] (by decide) (by decide)

/-- A text message `$39 `: the App dispatches a second reply, whose code `39` reports that a
call was cancelled. -/
theorem message_forges_reply :
    sentReplies plainEnv {} [(⟨7, 7⟩, messageFrom "$39 ".toList)]
        = [messageReply "$39 ".toList] ∧
      (dispatched ([[messageReply "$39 ".toList]].map sentBytes)).map (·.rc) = [29, 39] ∧
      SipMsgEnum.outgoingCancelled.code = 39 := by
  refine ⟨by decide, ?_, rfl⟩
  have hbytes : sentBytes [messageReply "$39 ".toList] = "29 sip:b@h|$39 $".toList := by decide
  have hloop : inputLoop {} "29 sip:b@h|$39 $".toList
      = [⟨29, "sip:b@h|".toList⟩, ⟨39, []⟩] := by
    have h₁ : ({} : SofiaReply).deserialize "29 sip:b@h|$39 $".toList
        = (⟨29, "sip:b@h|".toList⟩, "39 $".toList) := by decide
    have h₂ : (⟨29, "sip:b@h|".toList⟩ : SofiaReply).deserialize "39 $".toList
        = (⟨39, []⟩, []) := by decide
    rw [inputLoop, h₁, dif_neg (by decide), inputLoop, h₂, dif_pos rfl]
  simp only [dispatched, inputCallback, List.map_cons, List.map_nil, List.flatMap_cons,
    List.flatMap_nil, List.append_nil, hbytes, hloop]

end RestCommSdk.Proofs
