import RestCommSdk.CliInterface.NuaHandles

/-!
# `RestCommSdk.Proofs.SscHandlers`: what the handlers of `priv_callback` do

One lemma for each handler of a response, and for the requests that may make an operation: the
tests of the status, and the state of the SIP client after it. A challenge goes to
`ssc_store_pending_auth` in all of them but `ssc_r_bye`.

`Handled` lists what all the events together can leave behind that are not about an INVITE, and
`handled_of_privCallback` is the one proof that goes through them event by event. An invariant of
the client then has one case for each way in which the client changes.
-/

set_option autoImplicit false

namespace RestCommSdk.Proofs

open RestCommSdk.CliInterface

variable {env : SscEnv} {alloc : Alloc} {status nh : Nat} {op : Option SscOper}
  {sip : Option Sip} {ssc ssc' : Ssc}

/-- A challenge is a final response, and no success. -/
theorem le_of_isChallenge (h : isChallenge status = true) : 300 ≤ status := by
  simp only [isChallenge, Bool.or_eq_true, decide_eq_true_eq] at h
  omega

/-- A status below 300 is no challenge. -/
theorem isChallenge_of_lt (h : status < 300) : isChallenge status = false := by
  by_contra hchallenge
  have hle := le_of_isChallenge (Bool.not_eq_false _ ▸ hchallenge)
  omega

/-! ### Writes that cancel -/

section Writes
variable {ssc : Ssc} {addr : Nat} {f : SscOper → SscOper}

/-- The operation that was written. -/
theorem oper?_setOper (hf : ∀ op, (f op).addr = op.addr) :
    (ssc.setOper addr f).oper? addr = (ssc.oper? addr).map f := by
  simp only [Ssc.oper?, Ssc.setOper, List.find?_map]
  have hp : ((fun op : SscOper => decide (op.addr = addr)) ∘
      fun op => if op.addr = addr then f op else op) = fun op => decide (op.addr = addr) := by
    funext op
    by_cases haddr : op.addr = addr <;> simp [haddr, hf]
  rw [hp]
  cases hfind : ssc.operations.find? (·.addr = addr) with
  | none => rfl
  | some op => simp [show op.addr = addr by simpa using List.find?_some hfind]

/-- Two writes in a row are one. -/
theorem setOper_setOper (ssc : Ssc) (addr : Nat) (f g : SscOper → SscOper)
    (hf : ∀ op, (f op).addr = op.addr) :
    (ssc.setOper addr f).setOper addr g = ssc.setOper addr (g ∘ f) := by
  simp only [Ssc.setOper, List.map_map, Ssc.mk.injEq, and_true]
  refine List.map_congr_left fun op _ => ?_
  by_cases haddr : op.addr = addr <;> simp [haddr, hf]

/-- A write to an operation is lost when the operation is destroyed. -/
theorem sscOperDestroy_setOper (hf : ∀ op, (f op).addr = op.addr ∧ (f op).opHandle = op.opHandle) :
    sscOperDestroy (ssc.setOper addr f) addr = sscOperDestroy ssc addr := by
  -- The operation that was written is the one filtered out.
  have hfilter : (ssc.setOper addr f).operations.filter (·.addr ≠ addr)
      = ssc.operations.filter (·.addr ≠ addr) := by
    simp only [Ssc.setOper, List.filter_map]
    have hp : ((fun op : SscOper => decide (op.addr ≠ addr)) ∘
        fun op => if op.addr = addr then f op else op) = fun op => decide (op.addr ≠ addr) := by
      funext op
      by_cases haddr : op.addr = addr <;> simp [haddr, hf]
    rw [hp]
    refine (List.map_congr_left fun op hop => ?_).trans (List.map_id _)
    simp [show op.addr ≠ addr by simpa using List.of_mem_filter hop]
  unfold sscOperDestroy
  rw [oper?_setOper fun op => (hf op).1]
  -- No operation has the address, and nothing is written.
  cases hop : ssc.oper? addr with
  | none =>
    have hid : ssc.operations.map (fun op => if op.addr = addr then f op else op)
        = ssc.operations := by
      refine (List.map_congr_left fun op hop' => ?_).trans (List.map_id _)
      simp [show op.addr ≠ addr by simpa using List.find?_eq_none.mp hop op hop']
    simp [Ssc.setOper, hid]
  | some op =>
    -- The handle destroyed is the one that writing kept.
    simp only [Option.map_some, hfilter, (hf op).2]
    rfl

end Writes

/-! ### Responses -/

/-- The answer to a registration: a challenge, an error, a success, or a provisional one. -/
theorem sscRRegister_cases {phrase : CString}
    (h : sscRRegister env status phrase op sip ssc = some ssc') :
    isChallenge status = true ∧ sscStorePendingAuth env ssc op sip = some ssc' ∨
      isChallenge status = false ∧
        (300 ≤ status ∧ ssc' = (destroyOf op ssc).send (registerFailed status) ∨
          status = 200 ∧ ssc' = ssc.send (SipMsgEnum.registerSuccess.replyWith phrase) ∨
          status < 300 ∧ status ≠ 200 ∧ ssc' = ssc) := by
  unfold sscRRegister at h
  split at h
  · -- A provisional answer changes nothing.
    cases h
    exact .inr ⟨isChallenge_of_lt (by omega), .inr (.inr ⟨by omega, by omega, rfl⟩)⟩
  · split at h
    · -- A challenge, then a failure, then what is left.
      exact .inl ⟨‹_›, h⟩
    · refine .inr ⟨Bool.eq_false_iff.mpr ‹_›, ?_⟩
      split at h
      · cases h
        exact .inl ⟨‹_›, rfl⟩
      · split at h <;> cases h
        · exact .inr (.inl ⟨‹_›, rfl⟩)
        · exact .inr (.inr ⟨by omega, ‹_›, rfl⟩)

/-- The answer to an unregistration: a challenge, a provisional one, or a final one. -/
theorem sscRUnregister_cases (h : sscRUnregister env status op sip ssc = some ssc') :
    isChallenge status = true ∧ sscStorePendingAuth env ssc op sip = some ssc' ∨
      isChallenge status = false ∧
        (status < 200 ∧ ssc' = ssc ∨ 200 ≤ status ∧ ssc' = destroyOf op ssc) := by
  unfold sscRUnregister at h
  split at h
  · cases h
    exact .inr ⟨isChallenge_of_lt (by omega), .inl ⟨‹_›, rfl⟩⟩
  · split at h
    · exact .inl ⟨‹_›, h⟩
    · cases h
      exact .inr ⟨Bool.eq_false_iff.mpr ‹_›, .inr ⟨by omega, rfl⟩⟩

/-- The answer to a message: a challenge, a success, or an error. -/
theorem sscRMessage_cases (h : sscRMessage env status op sip ssc = some ssc') :
    isChallenge status = true ∧ sscStorePendingAuth env ssc op sip = some ssc' ∨
      isChallenge status = false ∧
        (status ≤ 200 ∧ ssc' = ssc ∨
          200 < status ∧ ssc' = ssc.send (messageFailed status)) := by
  unfold sscRMessage at h
  split at h
  · cases h
    exact .inr ⟨isChallenge_of_lt (by omega), .inl ⟨by omega, rfl⟩⟩
  · split at h
    · cases h
      exact .inr ⟨isChallenge_of_lt (by omega), .inl ⟨by omega, rfl⟩⟩
    · split at h
      · exact .inl ⟨‹_›, h⟩
      · cases h
        exact .inr ⟨Bool.eq_false_iff.mpr ‹_›, .inr ⟨by omega, rfl⟩⟩

/-- An answer that matters for its challenge only. -/
theorem sscRChallenged_cases (h : sscRChallenged env status op sip ssc = some ssc') :
    isChallenge status = true ∧ sscStorePendingAuth env ssc op sip = some ssc' ∨
      isChallenge status = false ∧ ssc' = ssc := by
  unfold sscRChallenged at h
  split at h
  · cases h
    exact .inr ⟨isChallenge_of_lt (by omega), rfl⟩
  · split at h
    · exact .inl ⟨‹_›, h⟩
    · cases h
      exact .inr ⟨Bool.eq_false_iff.mpr ‹_›, rfl⟩

/-- Success with `Expires: 0` ends the publication too. -/
theorem sscRPublish_cases (h : sscRPublish env status op sip ssc = some ssc') :
    isChallenge status = true ∧ sscStorePendingAuth env ssc op sip = some ssc' ∨
      isChallenge status = false ∧ (ssc' = ssc ∨ ssc' = destroyOf op ssc) := by
  unfold sscRPublish at h
  split at h
  · cases h
    exact .inr ⟨isChallenge_of_lt (by omega), .inl rfl⟩
  · split at h
    · exact .inl ⟨‹_›, h⟩
    · refine .inr ⟨Bool.eq_false_iff.mpr ‹_›, ?_⟩
      split at h
      · cases h
        exact .inr rfl
      · obtain ⟨sip, -, h⟩ := Option.bind_eq_some_iff.mp h
        split at h <;> cases h
        · exact .inr rfl
        · exact .inl rfl

/-- A subscription that failed is persistent no longer. -/
theorem sscRSubscribe_cases (h : sscRSubscribe env status op sip ssc = some ssc') :
    isChallenge status = false ∧ ssc' = ssc ∨
      ∃ o, op = some o ∧
        (isChallenge status = true ∧
            sscStorePendingAuth env
              (ssc.setOper o.addr fun op => { op with opPersistent := false }) op sip =
                some ssc' ∨
          isChallenge status = false ∧
            ssc' = ssc.setOper o.addr fun op => { op with opPersistent := false }) := by
  unfold sscRSubscribe at h
  split at h
  · -- A provisional answer is not looked at.
    cases h
    exact .inl ⟨isChallenge_of_lt (by omega), rfl⟩
  · split at h
    · -- From 300 on the operation is read without a test, and is no longer persistent.
      obtain ⟨o, rfl, h⟩ := Option.bind_eq_some_iff.mp h
      refine .inr ⟨o, rfl, ?_⟩
      dsimp only at h
      split at h
      · exact .inl ⟨‹_›, h⟩
      · cases h
        exact .inr ⟨Bool.eq_false_iff.mpr ‹_›, rfl⟩
    · -- A 2xx keeps the operation as it is.
      cases h
      exact .inl ⟨isChallenge_of_lt (by omega), rfl⟩

/-- A final response takes the mark of the request off the operation. -/
theorem sscRInvite_cases (h : sscRInvite env status op sip ssc = some ssc') :
    (300 ≤ status ∧ ∃ o, op = some o ∧
        (isChallenge status = true ∧
            sscStorePendingAuth env
              (ssc.setOper o.addr fun op =>
                { op with opCallstate := { op.opCallstate with sent := false } }) op sip =
                  some ssc' ∨
          isChallenge status = false ∧
            ssc' = (ssc.setOper o.addr fun op =>
              { op with opCallstate := { op.opCallstate with sent := false } }).send
                (inviteFailed status))) ∨
      status < 300 ∧
        (status = 180 ∧ ssc' = ssc.send SipMsgEnum.outgoingRinging.reply ∨
          (status = 200 ∧ ∃ message payload, sip = some message ∧
            message.payload = some payload ∧
              ssc' = ssc.send (SipMsgEnum.outgoingEstablished.replyWith payload)) ∨
          status ≠ 180 ∧ status ≠ 200 ∧ ssc' = ssc) := by
  unfold sscRInvite at h
  split at h
  · -- From 300 on the operation is read without a test.
    obtain ⟨o, rfl, h⟩ := Option.bind_eq_some_iff.mp h
    refine .inl ⟨‹_›, o, rfl, ?_⟩
    dsimp only at h
    split at h
    · exact .inl ⟨‹_›, h⟩
    · cases h
      exact .inr ⟨Bool.eq_false_iff.mpr ‹_›, rfl⟩
  · refine .inr ⟨by omega, ?_⟩
    split at h
    · cases h
      exact .inl ⟨‹_›, rfl⟩
    · split at h
      · -- The payload of a 200 is read without a test.
        obtain ⟨message, hsip, h⟩ := Option.bind_eq_some_iff.mp h
        obtain ⟨payload, hpayload, h⟩ := Option.bind_eq_some_iff.mp h
        cases h
        exact .inr (.inl ⟨‹_›, message, payload, hsip, hpayload, rfl⟩)
      · cases h
        exact .inr (.inr ⟨‹_›, ‹_›, rfl⟩)

/-- The answer to a `BYE`, which is told when it is final. -/
theorem sscRBye_cases (h : sscRBye status op ssc = some ssc') :
    status < 200 ∧ ssc' = ssc ∨
      200 ≤ status ∧ ssc' = ssc.send SipMsgEnum.outgoingByeResponse.reply := by
  obtain ⟨_, -, h⟩ := Option.bind_eq_some_iff.mp h
  split at h <;> cases h
  · exact .inl ⟨‹_›, rfl⟩
  · exact .inr ⟨by omega, rfl⟩

/-! ### Requests -/

/-- A message of a peer that there is no operation for makes one. -/
theorem sscIMessage_cases (h : sscIMessage alloc nh op sip ssc = some ssc') :
    ∃ message sipFrom payload, sip = some message ∧ message.sipFrom = some sipFrom ∧
      message.payload = some payload ∧
        (ssc' = ssc.send
            (SipMsgEnum.incomingMsg.replyWith (sipFrom.printed ++ '|' :: payload)) ∨
          op = none ∧ ssc' = sscOperCreateWithHandle alloc .message nh (ssc.send
            (SipMsgEnum.incomingMsg.replyWith (sipFrom.printed ++ '|' :: payload)))) := by
  obtain ⟨message, hsip, h⟩ := Option.bind_eq_some_iff.mp h
  obtain ⟨sipFrom, hfrom, h⟩ := Option.bind_eq_some_iff.mp h
  split at h
  · cases h
  · obtain ⟨payload, hpayload, h⟩ := Option.bind_eq_some_iff.mp h
    refine ⟨message, sipFrom, payload, hsip, hfrom, hpayload, ?_⟩
    dsimp only at h
    split at h <;> cases h
    · exact .inl rfl
    · exact .inr ⟨rfl, rfl⟩

/-- An `INFO` makes an operation, unless its handle has one. -/
theorem sscIInfo_cases (h : sscIInfo alloc nh op sip ssc = some ssc') :
    ssc' = ssc ∨ op = none ∧ ssc' = sscOperCreateWithHandle alloc .info nh ssc := by
  obtain ⟨message, -, h⟩ := Option.bind_eq_some_iff.mp h
  split at h
  · split at h <;> cases h
    · exact .inl rfl
    · exact .inr ⟨rfl, rfl⟩
  · cases h

/-- A transfer makes an operation for the call to come. -/
theorem sscIRefer_cases (h : sscIRefer env alloc sip ssc = some ssc') :
    ssc' = ssc ∨ ∃ text, ssc' = (sscOperCreate env alloc .invite (some text) ssc).1 := by
  obtain ⟨message, -, h⟩ := Option.bind_eq_some_iff.mp h
  split at h
  · obtain ⟨referTo, -, h⟩ := Option.bind_eq_some_iff.mp h
    split at h <;> cases h
    · exact .inr ⟨referTo.text, rfl⟩
    · exact .inl rfl
  · cases h

/-! ### The events -/

/-- The events that are about an INVITE. -/
def isCallEvent : NuaEvent → Bool
  | .rInvite .. | .iInvite _ | .iState _ => true
  | _ => false

/-- The message of a challenge that the handler of the event stores. -/
def storedChallenge : NuaEvent → Option (Option Sip)
  | .rRegister status _ sip | .rUnregister status sip | .rOptions status sip
  | .rInvite status sip | .rMessage status sip | .rInfo status sip | .rRefer status sip
  | .rSubscribe status sip | .rPublish status sip | .rNotify status sip =>
    if isChallenge status then some sip else none
  | _ => none

/-- What an event leaves behind that is not about an INVITE, its replies apart. -/
inductive Handled (env : SscEnv) (alloc : Alloc) (nh : Nat) (ssc : Ssc) (e : NuaEvent) :
    Ssc → Prop where
  /-- Neither the operations nor the calls of the stack have changed. -/
  | kept (address : Option CString) (rootBroken : Bool) :
    Handled env alloc nh ssc e { ssc with address := address, rootBroken := rootBroken }
  /-- A challenge was stored. -/
  | stored {sip : Option Sip} {base : Ssc} (hchallenge : storedChallenge e = some sip)
      (hstore : sscStorePendingAuth env ssc (sscOperFindByHandle ssc nh) sip = some base) :
    Handled env alloc nh ssc e base
  /-- A subscription failed with a challenge. -/
  | storedUnpersisted {op : SscOper} {sip : Option Sip} {base : Ssc}
      (hchallenge : storedChallenge e = some sip) (hop : sscOperFindByHandle ssc nh = some op)
      (hstore : sscStorePendingAuth env
        (ssc.setOper op.addr fun op => { op with opPersistent := false })
        (sscOperFindByHandle ssc nh) sip = some base) :
    Handled env alloc nh ssc e base
  /-- A subscription failed. -/
  | unpersisted {op : SscOper} (hop : sscOperFindByHandle ssc nh = some op) :
    Handled env alloc nh ssc e (ssc.setOper op.addr fun op => { op with opPersistent := false })
  /-- The operation is over. -/
  | destroyed : Handled env alloc nh ssc e (destroyOf (sscOperFindByHandle ssc nh) ssc)
  /-- A request of a peer made an operation. -/
  | bound (method : SipMethod) (hnone : sscOperFindByHandle ssc nh = none) :
    Handled env alloc nh ssc e (sscOperCreateWithHandle alloc method nh ssc)
  /-- A peer referred the client to an address. -/
  | made (text : CString) :
    Handled env alloc nh ssc e (sscOperCreate env alloc .invite (some text) ssc).1
  /-- The dialog of a fork was ended. -/
  | forked {nh2 : Nat} (hlent : (SscInput.event nh e).lent = some nh2) :
    Handled env alloc nh ssc e ((ssc.emit (.bye nh2)).emit (.handleDestroy nh2))
  /-- A handle without an operation was given back. -/
  | dropped (hlent : (SscInput.event nh e).lent = some nh)
      (hnone : sscOperFindByHandle ssc nh = none) :
    Handled env alloc nh ssc e (ssc.emit (.handleDestroy nh))

/-- A notification changes nothing. -/
theorem sscINotify_cases (h : sscINotify op sip ssc = some ssc') : ssc' = ssc := by
  unfold sscINotify at h
  split at h
  · split at h <;> cases h
    rfl
  · obtain ⟨_, -, h⟩ := Option.bind_eq_some_iff.mp h
    cases h
    rfl

/-- Every event that is not about an INVITE, with the replies that it makes. -/
theorem handled_of_privCallback {e : NuaEvent} (he : isCallEvent e = false)
    (h : privCallback env alloc nh ssc e = some ssc') :
    ∃ base replies, Handled env alloc nh ssc e base ∧
      ssc' = { base with sent := base.sent ++ replies } := by
  -- The result comes with one reply, or without any.
  have hsends {base : Ssc} (hbase : Handled env alloc nh ssc e base) (reply : SofiaReply) :
      ∃ base' replies, Handled env alloc nh ssc e base' ∧
        base.send reply = { base' with sent := base'.sent ++ replies } :=
    ⟨base, [reply], hbase, rfl⟩
  have hsilent {base : Ssc} (hbase : Handled env alloc nh ssc e base) :
      ∃ base' replies, Handled env alloc nh ssc e base' ∧
        base = { base' with sent := base'.sent ++ replies } :=
    ⟨base, [], hbase, by rw [List.append_nil]⟩
  have hkept : Handled env alloc nh ssc e ssc := .kept ssc.address ssc.rootBroken
  simp only [privCallback] at h
  cases e with
  | rInvite status sip => cases he
  | iInvite sip => cases he
  | iState tags => cases he
  -- The responses.
  | rRegister status phrase sip =>
    rcases sscRRegister_cases h with ⟨hchallenge, hstore⟩ | ⟨-, ⟨-, rfl⟩ | ⟨-, rfl⟩ | ⟨-, -, rfl⟩⟩
    · exact hsilent (.stored (if_pos hchallenge) hstore)
    · exact hsends .destroyed _
    · exact hsends hkept _
    · exact hsilent hkept
  | rUnregister status sip =>
    rcases sscRUnregister_cases h with ⟨hchallenge, hstore⟩ | ⟨-, ⟨-, rfl⟩ | ⟨-, rfl⟩⟩
    · exact hsilent (.stored (if_pos hchallenge) hstore)
    · exact hsilent hkept
    · exact hsilent .destroyed
  | rOptions status sip =>
    dsimp only at h
    split at h
    · exact hsilent (.stored (if_pos ‹_›) h)
    · cases h
      exact hsilent hkept
  | rMessage status sip =>
    rcases sscRMessage_cases h with ⟨hchallenge, hstore⟩ | ⟨-, ⟨-, rfl⟩ | ⟨-, rfl⟩⟩
    · exact hsilent (.stored (if_pos hchallenge) hstore)
    · exact hsilent hkept
    · exact hsends hkept _
  | rInfo status sip | rRefer status sip | rNotify status sip =>
    rcases sscRChallenged_cases h with ⟨hchallenge, hstore⟩ | ⟨-, rfl⟩
    · exact hsilent (.stored (if_pos hchallenge) hstore)
    · exact hsilent hkept
  | rPublish status sip =>
    rcases sscRPublish_cases h with ⟨hchallenge, hstore⟩ | ⟨-, rfl | rfl⟩
    · exact hsilent (.stored (if_pos hchallenge) hstore)
    · exact hsilent hkept
    · exact hsilent .destroyed
  | rSubscribe status sip =>
    rcases sscRSubscribe_cases h with ⟨-, rfl⟩ | ⟨op, hop, ⟨hchallenge, hstore⟩ | ⟨-, rfl⟩⟩
    · exact hsilent hkept
    · exact hsilent (.storedUnpersisted (if_pos hchallenge) hop hstore)
    · exact hsilent (.unpersisted hop)
  | rUnsubscribe status =>
    cases h
    unfold sscRUnsubscribe
    split
    · exact hsilent hkept
    · exact hsilent .destroyed
  | rBye status sip =>
    rcases sscRBye_cases h with ⟨-, rfl⟩ | ⟨-, rfl⟩
    · exact hsilent hkept
    · exact hsends hkept _
  -- The requests of a peer: on a handle without an operation they make one.
  | iBye | iCancel =>
    obtain ⟨op, -, h⟩ := Option.bind_eq_some_iff.mp h
    cases h
    exact hsends hkept _
  | iMessage sip =>
    obtain ⟨message, sipFrom, payload, -, -, -, rfl | ⟨hnone, rfl⟩⟩ := sscIMessage_cases h
    · exact hsends hkept _
    · exact ⟨sscOperCreateWithHandle alloc .message nh ssc, [_], .bound .message hnone, rfl⟩
  | iInfo sip =>
    rcases sscIInfo_cases h with rfl | ⟨hnone, rfl⟩
    · exact hsilent hkept
    · exact hsilent (.bound .info hnone)
  | iRefer sip =>
    rcases sscIRefer_cases h with rfl | ⟨text, rfl⟩
    · exact hsilent hkept
    · exact hsilent (.made text)
  | iNotify sip =>
    cases sscINotify_cases h
    exact hsilent hkept
  -- These hand a handle over.
  | iFork nh2 =>
    cases h
    cases nh2 with
    | none => exact hsilent hkept
    | some nh2 => exact hsilent (.forked rfl)
  | iPrack sip =>
    cases h
    split
    · rename_i hcond
      simp only [Bool.and_eq_true, Option.isNone_iff_eq_none] at hcond
      exact hsilent (.dropped rfl hcond.2)
    · exact hsilent hkept
  | unhandled =>
    cases h
    split
    · exact hsilent (.dropped rfl (Option.isNone_iff_eq_none.mp ‹_›))
    · exact hsilent hkept
  -- What the stack reports of itself.
  | rShutdown status =>
    cases h
    split
    · exact hsilent (.kept ssc.address true)
    · exact hsilent hkept
  | rGetParams sipFrom =>
    cases h
    exact hsilent (.kept _ ssc.rootBroken)
  | iOptions | iError | ignored =>
    cases h
    exact hsilent hkept

/-! ### INVITEs that go out, and answers -/

/-- What `priv_media_state_cb` does for the operation at `addr`: it sends the INVITE that waits
for the media, answers the call, or destroys the operation. The call state of an operation that
has answered is never exactly what it was before. -/
theorem privMediaStateCb_cases (addr : Nat) (ssc : Ssc) :
    privMediaStateCb addr ssc = ssc ∨
      (∃ media, privMediaStateCb addr ssc = sscOperDestroy { ssc with media := media } addr) ∨
      ∃ op, ssc.oper? addr = some op ∧
        (op.opCallstate.pending = true ∧ ssc.media.localSdp ≠ [] ∧
            privMediaStateCb addr ssc =
              (ssc.setOper addr fun op => { op with opCallstate := { sent := true } }).emit
                (.invite op.opHandle op.customHeaders ssc.media.localSdp) ∨
          op.opCallstate.pending = false ∧ op.opCallstate.recv = true ∧
            ∃ (f : SscOper → Callstate) (status : Nat) (phrase : CString)
              (payload : Option CString),
              (∀ op, f op = { op.opCallstate with sent := true } ∨ f op = .none) ∧
              (payload = some ssc.media.localSdp ∧ ssc.media.localSdp ≠ [] ∨
                status = 500 ∧ payload = none) ∧
              privMediaStateCb addr ssc =
                (ssc.setOper addr fun op => { op with opCallstate := f op }).emit
                  (.respond op.opHandle status phrase payload)) := by
  unfold privMediaStateCb
  split
  · exact .inl rfl
  · rename_i op hop
    split
    · rename_i hstate
      split
      · rename_i hpending
        rw [Bool.and_eq_true] at hpending
        dsimp only
        split
        · -- The two writes around the INVITE are one, made before it.
          rename_i hsome
          refine .inr (.inr ⟨op, hop, .inl ⟨hpending.1, hsome, ?_⟩⟩)
          have hwrites := setOper_setOper ssc addr (fun op => { op with opCallstate := .none })
            (fun op => { op with opCallstate := { op.opCallstate with sent := true } })
            fun _ => rfl
          exact congrArg (Ssc.emit · (.invite op.opHandle op.customHeaders ssc.media.localSdp))
            hwrites
        · refine .inr (.inl ⟨ssc.media, ?_⟩)
          exact sscOperDestroy_setOper fun _ => ⟨rfl, rfl⟩
      · rename_i hpending
        split
        · rename_i hrecv
          -- The media are active, so only the bit can be missing.
          have hmedia : ssc.media.smState ≠ .disabled := by
            intro hdisabled
            simp [hdisabled] at hstate
          have hclear : op.opCallstate.pending = false := by
            simpa [hmedia] using hpending
          refine .inr (.inr ⟨op, hop, .inr ⟨hclear, hrecv, ?_⟩⟩)
          split
          · rename_i hsome
            dsimp only
            split
            · exact ⟨fun op => { op.opCallstate with sent := true }, _, _, _, fun _ => .inl rfl,
                .inl ⟨rfl, hsome⟩, rfl⟩
            · exact ⟨fun _ => .none, _, _, _, fun _ => .inr rfl, .inl ⟨rfl, hsome⟩, rfl⟩
          · exact ⟨fun _ => .none, _, _, _, fun _ => .inr rfl, .inr ⟨rfl, rfl⟩, rfl⟩
        · exact .inl rfl
    · split
      · exact .inr (.inl ⟨_, rfl⟩)
      · exact .inl rfl

/-- An operation whose INVITE waits for the media. -/
def awaitingMedia (headers : Option CString) (op : SscOper) : SscOper :=
  { op with
    opCallstate := { op.opCallstate with pending := true }
    isOutgoing := true
    customHeaders := headers }

/-- A call is made on the operation for it, if there is one, with the SDP that is given. -/
theorem sscInvite_cases {destination password sdp headers : Option CString}
    (h : sscInvite env alloc destination password sdp headers ssc = some ssc') :
    (∃ addr payload, sdp = some payload ∧
        ssc' = privMediaStateCb addr
          (((sscOperCreateWithPassword env alloc .invite destination password ssc).1.setOper addr
            (awaitingMedia headers)).activateMedia payload)) ∨
      ssc' = (sscOperCreateWithPassword env alloc .invite destination password ssc).1.send
        SipMsgEnum.errorSipInviteSipUriInvalid.errorReply := by
  unfold sscInvite at h
  dsimp only at h
  split at h
  · rename_i addr _
    obtain ⟨payload, hsdp, h⟩ := Option.bind_eq_some_iff.mp h
    cases h
    exact .inl ⟨addr, payload, hsdp, rfl⟩
  · cases h
    exact .inr rfl

/-- The INVITE of the operation that is found there is the one that waits. -/
theorem pending_of_awaitingMedia {headers : Option CString} {addr : Nat} {payload : CString}
    {o : SscOper}
    (h : ((ssc.setOper addr (awaitingMedia headers)).activateMedia payload).oper? addr = some o) :
    o.opCallstate.pending = true := by
  have hmap : (ssc.setOper addr (awaitingMedia headers)).oper? addr =
      (ssc.oper? addr).map (awaitingMedia headers) := oper?_setOper fun _ => rfl
  obtain ⟨o₀, -, rfl⟩ := Option.map_eq_some_iff.mp (hmap.symm.trans h)
  rfl

/-! ### INVITEs that come in, and their states -/

/-- An operation that has taken an incoming INVITE. -/
def answering (op : SscOper) : SscOper :=
  { op with opCallstate := { op.opCallstate with recv := true }, isOutgoing := false }

/-- The App is told of a call that waits for an answer, or it is answered at once. -/
theorem announceInvite_cases {message : Sip} {sipFrom : SipFrom} {o : SscOper}
    (h : announceInvite message sipFrom o ssc = some ssc') :
    ssc' = ssc ∨
      ssc.autoanswer = true ∧ ssc' = sscAnswer none 200 "OK".toList ssc ∨
        ssc.autoanswer = false ∧ ∃ reply, ssc' = ssc.send reply := by
  unfold announceInvite at h
  split at h
  · split at h
    · cases h
      exact .inr (.inl ⟨‹_›, rfl⟩)
    · obtain ⟨payload, -, h⟩ := Option.bind_eq_some_iff.mp h
      cases h
      exact .inr (.inr ⟨Bool.eq_false_iff.mpr ‹_›, _, rfl⟩)
  · cases h
    exact .inl rfl

/-- An INVITE with a sender and a receiver marks its operation, which is made if need be. -/
theorem sscIInvite_cases (h : sscIInvite alloc nh op sip ssc = some ssc') :
    ssc' = ssc ∨
      ∃ message sipFrom o ssc₁, announceInvite message sipFrom o ssc₁ = some ssc' ∧
        ((∃ o₀, op = some o₀ ∧ o = answering o₀ ∧ ssc₁ = ssc.setOper o₀.addr answering) ∨
          op = none ∧ ssc₁.oper? alloc.addr = some o ∧
            ssc₁ = (sscOperCreateWithHandle alloc .invite nh ssc).setOper alloc.addr
              answering) := by
  unfold sscIInvite at h
  -- A message without a sender or a receiver is not announced.
  split at h
  · cases h
    exact .inl rfl
  · rename_i message
    split at h
    · cases h
      exact .inl rfl
    · rename_i sipFrom _
      split at h
      · cases h
        exact .inl rfl
      · dsimp only at h
        split at h
        · -- The operation of the handle is taken over, or one is made and looked up.
          exact .inr ⟨message, sipFrom, _, _, h, .inl ⟨_, rfl, rfl, rfl⟩⟩
        · obtain ⟨o, ho, h⟩ := Option.bind_eq_some_iff.mp h
          exact .inr ⟨message, sipFrom, o, _, h, .inr ⟨rfl, ho, rfl⟩⟩

/-- A state event stores SDPs, and then marks the operation as active, or destroys it. -/
theorem sscIState_cases (tags : StateTags) (op : Option SscOper) (ssc : Ssc) :
    ∃ media, sscIState tags op ssc = { ssc with media := media } ∨
      ∃ o, op = some o ∧
        ((tags.state = .ready ∧ ∃ replies, sscIState tags op ssc =
            { (ssc.setOper o.addr fun op =>
              { op with opCallstate := .opcActive, opPrevState := some .ready }) with
                media := media, sent := ssc.sent ++ replies }) ∨
          tags.state = .terminated ∧
            sscIState tags op ssc =
              (sscOperDestroy { ssc with media := media } o.addr).deactivateMedia) := by
  cases op with
  | none => exact ⟨ssc.media, .inl rfl⟩
  | some o =>
    simp only [sscIState]
    split
    · -- An SDP that was not sent here ends the handler.
      exact ⟨ssc.media, .inl rfl⟩
    · split
      · exact ⟨_, .inl rfl⟩
      · refine ⟨{ localSdp := tags.localSdp.getD ssc.media.localSdp
                  remoteSdp := tags.remoteSdp.getD ssc.media.remoteSdp
                  smState := ssc.media.smState }, ?_⟩
        split
        · rename_i hstate
          refine .inr ⟨o, rfl, .inl ⟨hstate, ?_⟩⟩
          -- The reply goes out when the call has just come up.
          split
          · exact ⟨_, rfl⟩
          · exact ⟨[], by rw [List.append_nil]; rfl⟩
        · rename_i hstate
          refine .inr ⟨o, rfl, .inr ⟨hstate, ?_⟩⟩
          -- The call state written is lost with the operation.
          rw [sscOperDestroy_setOper]
          exact fun _ => ⟨rfl, rfl⟩
        · exact .inl rfl

end RestCommSdk.Proofs
