import RestCommSdk.Proofs.SscFrame
import RestCommSdk.Proofs.SscHandlers

/-!
# `RestCommSdk.Proofs.NoAuth`: steps that authenticate nothing

The pending authentication requests, the references that are taken to handles for them and the
calls that answer them are written in two places only: where a challenge is stored, and in
`ssc_auth`. `NoAuth` says that a step reaches neither: no command but `k` does, and no event
but a challenge that is stored.
-/

set_option autoImplicit false

namespace RestCommSdk.Proofs

open RestCommSdk.CliInterface

/-- The calls that go with a pending request. -/
def isAuthCall : NuaCall → Bool
  | .authenticate .. | .handleRef _ | .handleUnref _ => true
  | _ => false

/-- The pending requests, and the calls that go with them. -/
def authView (ssc : Ssc) : List SscAuthItem × List NuaCall :=
  (ssc.authPend, ssc.nua.filter isAuthCall)

/-- Nothing was queued, answered or dropped. -/
def NoAuth (ssc ssc' : Ssc) : Prop := authView ssc' = authView ssc

/-- Authentication does not look at the operations. -/
theorem blind_authView : BlindToOperations authView where
  operations _ _ := rfl
  media _ _ := rfl
  handle ssc _ _ := by simp [authView, Ssc.emit, isAuthCall]
  handleDestroy ssc _ := by simp [authView, Ssc.emit, isAuthCall]

namespace NoAuth

variable {env : SscEnv} {alloc : Alloc} {ssc ssc₁ ssc₂ : Ssc}

/-- Nothing was done. -/
theorem refl (ssc : Ssc) : NoAuth ssc ssc := rfl

/-- One function after another. -/
theorem trans (h₁ : NoAuth ssc ssc₁) (h₂ : NoAuth ssc₁ ssc₂) : NoAuth ssc ssc₂ := Eq.trans h₂ h₁

/-- The queue of challenges is as it was. -/
theorem authPend (h : NoAuth ssc ssc₁) : ssc₁.authPend = ssc.authPend := congrArg Prod.fst h

/-- The calls that authenticate are as they were. -/
theorem calls (h : NoAuth ssc ssc₁) : ssc₁.nua.filter isAuthCall = ssc.nua.filter isAuthCall :=
  congrArg Prod.snd h

/-- What was authenticated is as it was. -/
theorem authenticates (h : NoAuth ssc ssc₁) : authenticates ssc₁ = authenticates ssc := by
  have hfilter : ∀ calls : List NuaCall,
      calls.filter isAuthenticate = (calls.filter isAuthCall).filter isAuthenticate := by
    intro calls
    rw [List.filter_filter]
    refine List.filter_congr fun c _ => ?_
    cases c <;> rfl
  rw [Proofs.authenticates, hfilter, h.calls, ← hfilter]
  rfl

/-! ### What such functions are made of -/

/-- Another call of the stack. -/
theorem emit (ssc : Ssc) {c : NuaCall} (hc : isAuthCall c = false) : NoAuth ssc (ssc.emit c) := by
  show (ssc.authPend, (ssc.nua ++ [c]).filter isAuthCall) = _
  rw [List.filter_append, List.filter_cons_of_neg (by simp [hc]), List.filter_nil,
    List.append_nil]
  rfl

/-- A reply to the App. -/
theorem send (ssc : Ssc) (r : SofiaReply) : NoAuth ssc (ssc.send r) := rfl

/-- A write to an operation. -/
theorem setOper (ssc : Ssc) (addr : Nat) (f : SscOper → SscOper) :
    NoAuth ssc (ssc.setOper addr f) := rfl

/-- An operation goes. -/
theorem sscOperDestroy (ssc : Ssc) (addr : Nat) : NoAuth ssc (sscOperDestroy ssc addr) :=
  blind_authView.sscOperDestroy ssc addr

/-- The operation of an event goes, if there is one. -/
theorem destroyOf (op : Option SscOper) (ssc : Ssc) : NoAuth ssc (destroyOf op ssc) := by
  cases op with
  | none => exact refl ssc
  | some op => exact sscOperDestroy ssc op.addr

/-- An operation comes. -/
theorem sscOperCreate (method : SipMethod) (address : Option CString) (ssc : Ssc) :
    NoAuth ssc (sscOperCreate env alloc method address ssc).1 :=
  blind_authView.sscOperCreate env alloc method address ssc

/-- An operation comes, with its password. -/
theorem sscOperCreateWithPassword (method : SipMethod) (address password : Option CString)
    (ssc : Ssc) : NoAuth ssc (sscOperCreateWithPassword env alloc method address password ssc).1 :=
  blind_authView.sscOperCreateWithPassword env alloc method address password ssc

/-- An operation comes for a handle that is lent. -/
theorem sscOperCreateWithHandle (method : SipMethod) (nh : Nat) (ssc : Ssc) :
    NoAuth ssc (sscOperCreateWithHandle alloc method nh ssc) :=
  emit { ssc with operations := _ :: ssc.operations } (c := .handleBind nh) rfl

/-- A request on the operation that was just made. -/
theorem requestOn {created : Ssc × Option Nat} (h : NoAuth ssc created.1)
    (request : Nat → NuaCall) (hrequest : ∀ nh, isAuthCall (request nh) = false) :
    NoAuth ssc (match created.2.bind created.1.oper? with
      | some op => created.1.emit (request op.opHandle)
      | none => created.1) := by
  split
  · exact h.trans (emit _ (hrequest _))
  · exact h

/-! ### Calls -/

/-- The media of an operation. -/
theorem privMediaStateCb (addr : Nat) (ssc : Ssc) : NoAuth ssc (privMediaStateCb addr ssc) := by
  rcases privMediaStateCb_cases addr ssc with
    heq | ⟨media, heq⟩ | ⟨op, -, ⟨-, -, heq⟩ | ⟨-, -, f, status, phrase, payload, -, -, heq⟩⟩
  · rw [heq]
    exact refl ssc
  · rw [heq]
    exact sscOperDestroy { ssc with media := media } addr
  · rw [heq]
    exact emit (ssc.setOper addr _) rfl
  · rw [heq]
    exact emit (ssc.setOper addr _) rfl

/-- A call is answered. -/
theorem sscAnswer (sdp : Option CString) (status : Nat) (phrase : CString) (ssc : Ssc) :
    NoAuth ssc (sscAnswer sdp status phrase ssc) := by
  unfold CliInterface.sscAnswer
  split
  · exact refl ssc
  · rename_i op _
    dsimp only
    split
    · exact privMediaStateCb op.addr (Ssc.activateMedia
        { ssc with ansStatus := status, ansPhrase := phrase } _)
    · have hrespond : NoAuth ssc (Ssc.emit { ssc with ansStatus := status, ansPhrase := phrase }
          (.respond op.opHandle status phrase none)) := emit _ rfl
      exact hrespond.trans (sscOperDestroy _ op.addr)

/-- The App is told of a call. -/
theorem announceInvite {sip : Sip} {sipFrom : SipFrom} {op : SscOper}
    (h : announceInvite sip sipFrom op ssc = some ssc₁) : NoAuth ssc ssc₁ := by
  rcases announceInvite_cases h with rfl | ⟨-, rfl⟩ | ⟨-, reply, rfl⟩
  · exact refl ssc₁
  · exact sscAnswer none 200 _ ssc
  · exact send ssc reply

/-- A call comes in. -/
theorem sscIInvite {nh : Nat} {op : Option SscOper} {sip : Option Sip}
    (h : sscIInvite alloc nh op sip ssc = some ssc₁) : NoAuth ssc ssc₁ := by
  rcases sscIInvite_cases h with rfl | ⟨message, sipFrom, o, ssc₂, hannounce, hmade⟩
  · exact refl ssc₁
  · refine trans ?_ (announceInvite hannounce)
    rcases hmade with ⟨o₀, -, -, rfl⟩ | ⟨-, -, rfl⟩
    · exact setOper ssc o₀.addr answering
    · exact (sscOperCreateWithHandle .invite nh ssc).trans (setOper _ alloc.addr answering)

/-- The state of a call. -/
theorem sscIState (tags : StateTags) (op : Option SscOper) (ssc : Ssc) :
    NoAuth ssc (sscIState tags op ssc) := by
  obtain ⟨media, heq | ⟨o, -, ⟨-, replies, heq⟩ | ⟨-, heq⟩⟩⟩ := sscIState_cases tags op ssc
  · rw [heq]
    exact refl ssc
  · rw [heq]
    exact refl ssc
  · rw [heq]
    exact sscOperDestroy { ssc with media := media } o.addr

/-! ### Commands -/

/-- A registration asks for no authentication by itself. -/
theorem sscRegister (registrar password : Option CString) (ssc : Ssc) :
    NoAuth ssc (sscRegister env alloc registrar password ssc) := by
  have hset := emit ssc (c := .setRegistrar (givenRegistrar registrar)) rfl
  unfold CliInterface.sscRegister
  dsimp only
  split
  · exact hset
  · exact requestOn (hset.trans (sscOperCreateWithPassword .register _ password _))
      (fun nh => .register nh registrar) fun _ => rfl

/-- Nor does an unregistration. -/
theorem sscUnregister (registrar password : Option CString) (ssc : Ssc) :
    NoAuth ssc (sscUnregister env alloc registrar password ssc) := by
  have hset := emit ssc (c := .setRegistrar none) rfl
  unfold CliInterface.sscUnregister
  dsimp only
  split
  · exact hset.trans (emit _ rfl)
  · exact requestOn (hset.trans (sscOperCreateWithPassword .register _ password _))
      (fun nh => .unregister nh _) fun _ => rfl

/-- Nor does an update, which is one of the two. -/
theorem sscUpdate (aor password registrar : Option CString) (unregister : Bool) (ssc : Ssc) :
    NoAuth ssc (sscUpdate env alloc aor password registrar unregister ssc) := by
  have haor : NoAuth ssc (sscSetPublicAddress aor ssc) := by
    cases aor with
    | none => exact refl ssc
    | some aor => exact emit { ssc with address := some aor } rfl
  unfold CliInterface.sscUpdate
  dsimp only
  split
  · exact haor.trans (sscUnregister registrar password _)
  · exact haor.trans (sscRegister registrar password _)

/-- A subscription is requested. -/
theorem subscribeTo (destination : Option CString) (event : CString) (eventlist : Bool)
    (ssc : Ssc) : NoAuth ssc (subscribeTo env alloc destination event eventlist ssc) :=
  requestOn (sscOperCreate .subscribe destination ssc) (fun nh => .subscribe nh event eventlist)
    fun _ => rfl

/-- Every command but `k`. -/
theorem sscCall {prompt : CString} {c : SscCall} (hc : ∀ data, c ≠ .auth data)
    (h : sscCall env alloc prompt ssc c = some ssc₁) : NoAuth ssc ssc₁ := by
  cases c with
  | auth data => exact absurd rfl (hc data)
  | answer sdp status phrase => cases h; exact sscAnswer sdp status phrase ssc
  | setPublicAddress aor =>
    cases h
    cases aor with
    | none => exact refl ssc
    | some aor => exact emit { ssc with address := some aor } rfl
  | bye =>
    cases h
    unfold sscBye
    split
    · exact refl ssc
    · exact emit ssc rfl
  | cancel =>
    cases h
    unfold sscCancel
    split
    · exact emit ssc rfl
    · split
      · exact emit ssc rfl
      · exact refl ssc
  -- A new call waits for its media, or the App is told that it failed.
  | invite destination password sdp headers =>
    have hcreate : NoAuth ssc (CliInterface.sscOperCreateWithPassword env alloc .invite destination
        password ssc).1 := sscOperCreateWithPassword .invite destination password ssc
    rcases sscInvite_cases h with ⟨addr, payload, -, rfl⟩ | rfl
    · exact hcreate.trans (privMediaStateCb addr
        (((CliInterface.sscOperCreateWithPassword env alloc .invite destination password
          ssc).1.setOper addr (awaitingMedia headers)).activateMedia payload))
    · exact hcreate.trans (send _ _)
  | info msg =>
    cases h
    unfold sscInfo
    split
    · exact emit ssc rfl
    · exact refl ssc
  | message destination password msg headers =>
    cases h
    exact requestOn (sscOperCreateWithPassword .message destination password ssc)
      (fun nh => .message nh headers msg) fun _ => rfl
  | subscribe destination =>
    obtain ⟨destination, -, h⟩ := Option.bind_eq_some_iff.mp h
    split at h <;> cases h <;> exact subscribeTo _ _ _ ssc
  | watch event =>
    obtain ⟨event, -, h⟩ := Option.bind_eq_some_iff.mp h
    cases h
    exact subscribeTo _ _ _ ssc
  | options destination =>
    cases h
    exact requestOn (sscOperCreate .options destination ssc) (fun nh => .options nh) fun _ => rfl
  | publish _ | unpublish =>
    cases h
    unfold sscPublish
    split
    · exact emit ssc rfl
    · exact requestOn (sscOperCreate .publish _ ssc) (fun nh => .publish nh) fun _ => rfl
  | update aor password registrar unregister => cases h; exact sscUpdate _ _ _ _ ssc
  | refer destination =>
    cases h
    unfold sscRefer
    split
    · exact emit ssc rfl
    · exact requestOn (sscOperCreate .refer destination ssc) (fun nh => .refer nh prompt)
        fun _ => rfl
  | unsubscribe _ =>
    cases h
    unfold sscUnsubscribe
    split
    · exact emit ssc rfl
    · exact refl ssc
  | zap _ =>
    cases h
    unfold sscZap
    split
    · exact sscOperDestroy ssc _
    · exact refl ssc
  | shutdown => cases h; exact emit ssc (c := .shutdown) rfl
  -- These only print.
  | hold _ _ | list | printSettings | param _ _ => cases h; exact refl ssc

/-! ### Events -/

/-- A response to an INVITE that is no challenge. -/
theorem sscRInvite {status : Nat} {op : Option SscOper} {sip : Option Sip}
    (hstatus : isChallenge status = false) (h : sscRInvite env status op sip ssc = some ssc₁) :
    NoAuth ssc ssc₁ := by
  rcases sscRInvite_cases h with ⟨-, o, -, ⟨hchallenge, -⟩ | ⟨-, rfl⟩⟩ | ⟨-, hcase⟩
  · rw [hstatus] at hchallenge
    cases hchallenge
  · exact refl ssc
  · rcases hcase with ⟨-, rfl⟩ | ⟨-, message, payload, -, -, rfl⟩ | ⟨-, -, rfl⟩
    · exact send ssc _
    · exact send ssc _
    · exact refl ssc₁

/-- Every event but the challenges that are stored. -/
theorem privCallback {nh : Nat} {e : NuaEvent} (hstored : storedChallenge e = none)
    (h : privCallback env alloc nh ssc e = some ssc₁) : NoAuth ssc ssc₁ := by
  cases he : isCallEvent e with
  | true =>
    cases e with
    | rInvite status sip =>
      exact sscRInvite (by simpa [storedChallenge] using hstored) h
    | iInvite sip => exact sscIInvite h
    | iState tags =>
      cases h
      exact sscIState tags _ ssc
    | _ => cases he
  | false =>
    obtain ⟨base, replies, hbase, rfl⟩ := handled_of_privCallback he h
    show NoAuth ssc base
    cases hbase with
    | kept address rootBroken => exact refl ssc
    -- The events that store a challenge are excluded.
    | stored hchallenge hstore | storedUnpersisted hchallenge hop hstore =>
      rw [hstored] at hchallenge
      cases hchallenge
    | unpersisted hop => exact setOper ssc _ _
    | destroyed => exact destroyOf _ ssc
    | bound method hnone => exact sscOperCreateWithHandle method nh ssc
    | made text => exact sscOperCreate .invite _ ssc
    | forked hlent => exact (emit ssc rfl).trans (emit _ rfl)
    | dropped hlent hnone => exact emit ssc rfl

end NoAuth

/-! ### Challenges that are stored -/

section Stored
variable {env : SscEnv} {alloc : Alloc} {ssc ssc' : Ssc}

/-- Nothing is written. -/
theorem setOper_id (ssc : Ssc) (addr : Nat) : ssc.setOper addr id = ssc := by
  have hid : (fun op : SscOper => if op.addr = addr then id op else op) = id := by
    funext op
    exact ite_self op
  rw [Ssc.setOper, hid, List.map_id]

/-- Only a challenge with a message, for an operation, is stored. -/
theorem some_of_sscStorePendingAuth {op : Option SscOper} {sip : Option Sip}
    (h : sscStorePendingAuth env ssc op sip = some ssc') :
    ∃ op' sip', op = some op' ∧ sip = some sip' := by
  obtain ⟨op', hop, h⟩ := Option.bind_eq_some_iff.mp h
  obtain ⟨sip', hsip, -⟩ := Option.bind_eq_some_iff.mp h
  exact ⟨op', sip', hop, hsip⟩

/-- A challenge that the handler stores is stored for the operation of the event, which may be
written to before, but keeps its names. -/
theorem storedChallenge_cases {nh : Nat} {e : NuaEvent} {sip : Option Sip}
    (hstored : storedChallenge e = some sip)
    (h : privCallback env alloc nh ssc e = some ssc') :
    ∃ op sip', sscOperFindByHandle ssc nh = some op ∧ sip = some sip' ∧
      ∃ f : SscOper → SscOper, (∀ op, (f op).addr = op.addr ∧ (f op).opHandle = op.opHandle) ∧
        sscStorePendingAuth env (ssc.setOper op.addr f) (some op) (some sip') = some ssc' := by
  cases e with
  -- These two write to the operation before they store the challenge.
  | rInvite status sip =>
    simp only [storedChallenge, Option.ite_none_right_eq_some, Option.some.injEq] at hstored
    obtain ⟨hstatus, rfl⟩ := hstored
    have hle := le_of_isChallenge hstatus
    rcases sscRInvite_cases h with ⟨-, op, hop, ⟨-, h⟩ | ⟨hnot, -⟩⟩ | ⟨hlt, -⟩
    · rw [show sscOperFindByHandle ssc nh = some op from hop] at h
      obtain ⟨-, sip', -, hsip⟩ := some_of_sscStorePendingAuth h
      refine ⟨op, sip', hop, hsip, _, ?_, hsip ▸ h⟩
      exact fun _ => ⟨rfl, rfl⟩
    · rw [hstatus] at hnot
      cases hnot
    · omega
  | rSubscribe status sip =>
    simp only [storedChallenge, Option.ite_none_right_eq_some, Option.some.injEq] at hstored
    obtain ⟨hstatus, rfl⟩ := hstored
    rcases sscRSubscribe_cases h with ⟨hnot, -⟩ | ⟨op, hop, ⟨-, h⟩ | ⟨hnot, -⟩⟩
    · rw [hstatus] at hnot
      cases hnot
    · rw [show sscOperFindByHandle ssc nh = some op from hop] at h
      obtain ⟨-, sip', -, hsip⟩ := some_of_sscStorePendingAuth h
      refine ⟨op, sip', hop, hsip, _, ?_, hsip ▸ h⟩
      exact fun _ => ⟨rfl, rfl⟩
    · rw [hstatus] at hnot
      cases hnot
  | rRegister status _ sip | rUnregister status sip | rOptions status sip | rMessage status sip
  | rInfo status sip | rRefer status sip | rPublish status sip | rNotify status sip =>
    simp only [storedChallenge, Option.ite_none_right_eq_some, Option.some.injEq] at hstored
    obtain ⟨hstatus, rfl⟩ := hstored
    have hle := le_of_isChallenge hstatus
    have hfinal : ¬ status < 200 := by omega
    have hfailed : ¬ status = 200 := by omega
    simp only [privCallback, sscRRegister, sscRUnregister, sscRMessage, sscRChallenged,
      sscRPublish, hstatus, hfinal, hfailed, if_true, if_false] at h
    obtain ⟨op, sip', hop, hsip⟩ := some_of_sscStorePendingAuth h
    refine ⟨op, sip', hop, hsip, id, fun _ => ⟨rfl, rfl⟩, ?_⟩
    rw [setOper_id]
    rwa [hop, hsip] at h
  | _ => simp [storedChallenge] at hstored

end Stored

end RestCommSdk.Proofs
