import RestCommSdk.Proofs.OperationRules
import RestCommSdk.Proofs.SofiaTurns

/-!
# `RestCommSdk.Proofs.StackRequests`: what a command makes the client ask of the stack

An INVITE, a CANCEL, an INFO or a MESSAGE goes out for a command alone. Of these requests, a command
asks for the one that it wants (`wanted`), with what it gives, or for none (`asksOf_sscCall`), and
an event makes the client ask for none (`asksOf_privCallback`).

`messagesTo` pairs a MESSAGE with the address that its handle was made for.
`messagesTo_sscMessage` is what `ssc_message` does: a handle for the destination, and the MESSAGE
on it, when the destination is an address.
-/

set_option autoImplicit false

namespace RestCommSdk.Proofs

open RestCommSdk.CliInterface

/-- What a command may ask of the stack about a call, or with a text message. -/
inductive Ask where
  | invite (headers : Option CString) (sdp : CString)
  | cancel
  | info (msg : Option CString)
  | message (headers msg : Option CString)
  deriving DecidableEq

/-- What a call of the stack asks for. -/
def asked : NuaCall → Option Ask
  | .invite _ headers sdp => some (.invite headers sdp)
  | .cancel _ => some .cancel
  | .info _ msg => some (.info msg)
  | .message _ headers msg => some (.message headers msg)
  | _ => none

/-- What a command wants to be asked for. -/
def wanted : SscCall → Option Ask
  | .invite _ _ sdp headers => sdp.map (.invite headers)
  | .cancel => some .cancel
  | .info msg => some (.info msg)
  | .message _ _ msg headers => some (.message headers msg)
  | _ => none

/-- What the step has asked for so far. -/
def asksOf (ssc : Ssc) : List Ask := ssc.nua.filterMap asked

/-- A text message that the stack was asked to send. -/
structure StackMessage where
  destination : Option CString
  headers : Option CString
  msg : Option CString
  deriving DecidableEq

/-- The text messages among calls of the stack. A destination is the address that the handle was
made for, if it is the one that was made last. -/
def messagesTo : Option (Nat × CString) → List NuaCall → List StackMessage
  | _, [] => []
  | _, .handle nh address :: calls => messagesTo (some (nh, address)) calls
  | made, .message nh headers msg :: calls =>
    { destination := (made.filter fun m => m.1 = nh).map (·.2), headers := headers, msg := msg } ::
      messagesTo made calls
  | made, _ :: calls => messagesTo made calls

/-- The step has asked for what is wanted, or for nothing. -/
def AsksWanted (want : Option Ask) (ssc ssc' : Ssc) : Prop :=
  asksOf ssc' = asksOf ssc ∨ ∃ ask ∈ want, asksOf ssc' = asksOf ssc ++ [ask]

/-! ### Silent functions -/

/-- A call of the stack that asks for nothing of interest. -/
theorem asksOf_emit (ssc : Ssc) {c : NuaCall} (h : asked c = none) :
    asksOf (ssc.emit c) = asksOf ssc := by
  simp [asksOf, Ssc.emit, h]

/-- What was asked for does not look at the operations. -/
theorem blind_asksOf : BlindToOperations asksOf where
  operations _ _ := rfl
  media _ _ := rfl
  handle ssc _ _ := asksOf_emit ssc rfl
  handleDestroy ssc _ := asksOf_emit ssc rfl

/-- The functions that ask for none of these requests. -/
theorem operationInvariant_asksOf (before : List Ask) :
    OperationInvariant (fun ssc => asksOf ssc = before) True fun c => asked c = none where
  of_eq h _ hnua _ := by rwa [asksOf, hnua]
  auth {c} hc := by cases c <;> first | rfl | cases hc
  request h _ hc _ := (asksOf_emit _ hc).trans h
  setting {_ c} h hc := by
    refine (asksOf_emit _ ?_).trans h
    cases c <;> first | rfl | cases hc
  setOper _ _ h _ := h
  destroy addr h := (blind_asksOf.sscOperDestroy _ addr).trans h
  make _ _ h _ := (asksOf_emit _ rfl).trans h
  bind _ _ h _ _ := (asksOf_emit _ rfl).trans h
  takeOver _ _ h _ := h

section Steps
variable {env : SscEnv} {alloc : Alloc} {ssc ssc' : Ssc}

/-! ### Calls -/

/-- Only an INVITE that waits for the media goes out, with the SDP that the media has. -/
theorem asksOf_privMediaStateCb (addr : Nat) (ssc : Ssc) :
    asksOf (privMediaStateCb addr ssc) = asksOf ssc ∨
      ∃ op, ssc.oper? addr = some op ∧ op.opCallstate.pending = true ∧
        asksOf (privMediaStateCb addr ssc)
          = asksOf ssc ++ [.invite op.customHeaders ssc.media.localSdp] := by
  rcases privMediaStateCb_cases addr ssc with heq | ⟨media, heq⟩ |
    ⟨op, hop, ⟨hpending, -, heq⟩ | ⟨-, -, f, status, phrase, payload, -, -, heq⟩⟩ <;> rw [heq]
  · exact .inl rfl
  · exact .inl ((blind_asksOf.sscOperDestroy _ addr).trans (blind_asksOf.media ssc _))
  · exact .inr ⟨op, hop, hpending, by simp [asksOf, asked, Ssc.emit, Ssc.setOper]⟩
  · exact .inl (asksOf_emit _ rfl)

/-- An answer goes to a call that waits for one, and such a call has no INVITE that waits. -/
theorem asksOf_sscAnswer (haddrs : (ssc.operations.map (·.addr)).Nodup) (sdp : Option CString)
    (status : Nat) (phrase : CString) : asksOf (sscAnswer sdp status phrase ssc) = asksOf ssc := by
  unfold sscAnswer
  split
  · rfl
  · rename_i op hfind
    dsimp only
    split
    · generalize hactive : Ssc.activateMedia { ssc with ansStatus := status, ansPhrase := phrase }
        (sdp.getD ssc.media.localSdp) = active
      -- Activating the media asks for nothing.
      have hasks : asksOf active = asksOf ssc := by
        rw [← hactive]
        rfl
      rcases asksOf_privMediaStateCb op.addr active with heq | ⟨op', hop', hpending, -⟩
      · exact heq.trans hasks
      · -- The call that is answered is no call of ours that waits to go out.
        have hop : active.oper? op.addr = some op := by
          rw [← hactive]
          exact oper?_of_mem haddrs (List.mem_of_find?_eq_some hfind)
        obtain rfl : op = op' := Option.some.inj (hop.symm.trans hop')
        have hrecv : op.opCallstate = .opcRecv := by simpa using List.find?_some hfind
        rw [hrecv] at hpending
        cases hpending
    · exact (blind_asksOf.sscOperDestroy _ _).trans (asksOf_emit _ rfl)

/-- A call asks for what its command wants, if it has a description. -/
theorem asksOf_sscInvite {destination password sdp headers : Option CString}
    (h : sscInvite env alloc destination password sdp headers ssc = some ssc') :
    AsksWanted (sdp.map (.invite headers)) ssc ssc' := by
  have hcreate := blind_asksOf.sscOperCreateWithPassword env alloc .invite destination password ssc
  rcases sscInvite_cases h with ⟨addr, payload, rfl, rfl⟩ | rfl
  · generalize hactive : ((sscOperCreateWithPassword env alloc .invite destination password
      ssc).1.setOper addr (awaitingMedia headers)).activateMedia payload = active
    have hasks : asksOf active = asksOf ssc := by
      rw [← hactive]
      exact hcreate
    rcases asksOf_privMediaStateCb addr active with heq | ⟨op, hop, -, heq⟩
    · exact .inl (heq.trans hasks)
    · -- The operation and the media have what the command has given.
      have hmap : ((sscOperCreateWithPassword env alloc .invite destination password
          ssc).1.oper? addr).map (awaitingMedia headers) = some op := by
        rw [← oper?_setOper (f := awaitingMedia headers) fun _ => rfl, ← hop, ← hactive]
        rfl
      obtain ⟨op₀, -, rfl⟩ := Option.map_eq_some_iff.mp hmap
      refine .inr ⟨.invite headers payload, rfl, ?_⟩
      rw [heq, hasks, ← hactive]
      rfl
  · exact .inl hcreate

/-- A request on an operation, if there is one. -/
theorem asksOf_requestOnOper {made : Ssc} (h : asksOf made = asksOf ssc) (op : Option SscOper)
    (request : Nat → NuaCall) {ask : Ask} (hrequest : ∀ nh, asked (request nh) = some ask) :
    AsksWanted (some ask) ssc (match op with
      | some op => made.emit (request op.opHandle)
      | none => made) := by
  cases op with
  | none => exact .inl h
  | some op =>
    refine .inr ⟨ask, rfl, ?_⟩
    rw [← h]
    simp [asksOf, Ssc.emit, hrequest]

/-- A command asks for what it wants. -/
theorem asksOf_sscCall (hfresh : alloc.Fresh ssc) (haddrs : (ssc.operations.map (·.addr)).Nodup)
    {prompt : CString} {c : SscCall} (h : sscCall env alloc prompt ssc c = some ssc') :
    AsksWanted (wanted c) ssc ssc' := by
  cases c with
  | answer sdp status phrase =>
    cases h
    -- An answer is a response, not a request.
    exact .inl (asksOf_sscAnswer haddrs sdp status phrase)
  | bye =>
    cases h
    refine .inl ?_
    unfold sscBye
    split
    · rfl
    · -- A BYE is not among the requests counted here.
      exact (blind_asksOf.setOper _ _ _).trans (asksOf_emit _ rfl)
  | invite destination password sdp headers => exact asksOf_sscInvite h
  | cancel =>
    cases h
    unfold sscCancel
    split
    · -- A call in progress comes first, then an embryonic one.
      exact .inr ⟨.cancel, rfl, by simp [asksOf, asked, Ssc.emit]⟩
    · exact asksOf_requestOnOper rfl _ (fun nh => .cancel nh) fun _ => rfl
  | info msg =>
    cases h
    exact asksOf_requestOnOper rfl _ (fun nh => .info nh msg) fun _ => rfl
  | message destination password msg headers =>
    cases h
    exact asksOf_requestOnOper
      (blind_asksOf.sscOperCreateWithPassword env alloc .message destination password ssc) _
      (fun nh => .message nh headers msg) fun _ => rfl
  | _ =>
    -- No other command asks for one of these.
    refine .inl
      ((operationInvariant_asksOf (asksOf ssc)).sscCall rfl hfresh rfl (.inl trivial) ?_ h)
    intro request hrequest
    cases request <;> first | rfl | cases hrequest

/-! ### Events -/

/-- A call that comes in asks for nothing of interest. -/
theorem asksOf_sscIInvite (hfresh : alloc.Fresh ssc)
    (haddrs : (ssc.operations.map (·.addr)).Nodup) {nh : Nat} {sip : Option Sip}
    (h : sscIInvite alloc nh (sscOperFindByHandle ssc nh) sip ssc = some ssc') :
    asksOf ssc' = asksOf ssc := by
  rcases sscIInvite_cases h with rfl | ⟨message, sipFrom, o, ssc₁, hannounce, hssc₁⟩
  · rfl
  · have hmarked : asksOf ssc₁ = asksOf ssc ∧ (ssc₁.operations.map (·.addr)).Nodup := by
      rcases hssc₁ with ⟨op, -, -, rfl⟩ | ⟨-, -, rfl⟩
      · exact ⟨rfl, by rwa [map_setOper ssc op.addr (f := answering) (·.addr) fun _ => rfl]⟩
      · refine ⟨asksOf_emit _ rfl, ?_⟩
        rw [map_setOper _ alloc.addr (f := answering) (·.addr) fun _ => rfl]
        refine List.nodup_cons.mpr ⟨fun hmem => ?_, haddrs⟩
        obtain ⟨op, hop, haddr⟩ := List.mem_map.mp hmem
        exact hfresh.1 op hop haddr
    rcases announceInvite_cases hannounce with rfl | ⟨-, rfl⟩ | ⟨-, reply, rfl⟩
    · exact hmarked.1
    · exact (asksOf_sscAnswer hmarked.2 none 200 _).trans hmarked.1
    · exact hmarked.1

/-- Nor does the state of a call. -/
theorem asksOf_sscIState (tags : StateTags) (op : Option SscOper) (ssc : Ssc) :
    asksOf (sscIState tags op ssc) = asksOf ssc := by
  obtain ⟨media, hstate | ⟨o, -, ⟨-, replies, hready⟩ | ⟨-, hterminated⟩⟩⟩ :=
    sscIState_cases tags op ssc
  · rw [hstate]
    rfl
  · rw [hready]
    rfl
  · rw [hterminated]
    exact (blind_asksOf.media _ _).trans (blind_asksOf.sscOperDestroy _ _)

/-- An event makes the client ask for none of these requests. -/
theorem asksOf_privCallback (hfresh : alloc.Fresh ssc)
    (haddrs : (ssc.operations.map (·.addr)).Nodup) {nh : Nat} {e : NuaEvent}
    (h : privCallback env alloc nh ssc e = some ssc') : asksOf ssc' = asksOf ssc := by
  have hrules := operationInvariant_asksOf (asksOf ssc)
  cases e with
  | rInvite status sip =>
    rcases sscRInvite_cases h with ⟨-, op, hop, ⟨-, hstore⟩ | ⟨-, rfl⟩⟩ |
      ⟨-, ⟨-, rfl⟩ | ⟨-, message, payload, -, -, rfl⟩ | ⟨-, -, rfl⟩⟩
    · -- A challenge is stored, and answered at once only with credentials.
      rw [hop] at hstore
      have hwrite (f : SscOper → SscOper) : asksOf (ssc.setOper op.addr f) = asksOf ssc := rfl
      refine hrules.sscStorePendingAuth (hwrite _) (fun o ho => ?_) hstore
      cases ho
      exact exists_setOper (mem_of_findByHandle hop).1 (fun _ => rfl) rfl
    all_goals rfl
  | iInvite sip => exact asksOf_sscIInvite hfresh haddrs h
  | iState tags =>
    cases h
    exact asksOf_sscIState tags _ ssc
  | iFork nh2 =>
    cases h
    cases nh2 with
    | none => rfl
    -- The fork that is not wanted is hung up, which is none of these requests.
    | some nh2 => exact (asksOf_emit _ rfl).trans (asksOf_emit _ rfl)
  | iPrack sip =>
    cases h
    split
    · exact asksOf_emit _ rfl
    · rfl
  | unhandled =>
    cases h
    split
    · exact asksOf_emit _ rfl
    · rfl
  | _ => exact hrules.privCallback rfl hfresh rfl rfl h

/-! ### Text messages -/

/-- The messages of two lists of calls, with the handle that was made last in between. -/
theorem messagesTo_append (made : Option (Nat × CString)) (before after : List NuaCall) :
    ∃ made', messagesTo made (before ++ after)
      = messagesTo made before ++ messagesTo made' after := by
  induction before generalizing made with
  | nil => exact ⟨made, rfl⟩
  | cons c before ih =>
    cases c with
    | handle nh address => exact ih (some (nh, address))
    | message nh headers msg =>
      obtain ⟨made', heq⟩ := ih made
      exact ⟨made', congrArg (_ :: ·) heq⟩
    | _ => exact ih made

/-- There is none when none is asked for. -/
theorem messagesTo_eq_nil (made : Option (Nat × CString)) {calls : List NuaCall}
    (h : ∀ headers msg, .message headers msg ∉ calls.filterMap asked) :
    messagesTo made calls = [] := by
  induction calls generalizing made with
  | nil => rfl
  | cons c calls ih =>
    have hrest : ∀ headers msg, .message headers msg ∉ calls.filterMap asked :=
      fun headers msg hmem => h headers msg <| by
        rw [List.filterMap_cons]
        split
        · exact hmem
        · exact List.mem_cons_of_mem _ hmem
    cases c with
    | message nh headers msg => exact absurd List.mem_cons_self (h headers msg)
    | _ => exact ih _ hrest

/-- Destroying handles sends no message. -/
theorem messagesTo_handleDestroy (made : Option (Nat × CString)) (destroyed : List Nat)
    (calls : List NuaCall) :
    messagesTo made (destroyed.map .handleDestroy ++ calls) = messagesTo made calls := by
  induction destroyed with
  | nil => rfl
  | cons nh destroyed ih => exact ih

/-- Destroying an operation destroys its handle, and asks for nothing else. -/
theorem nua_sscOperDestroy (ssc : Ssc) (addr : Nat) :
    ∃ destroyed : List Nat,
      (sscOperDestroy ssc addr).nua = ssc.nua ++ destroyed.map .handleDestroy := by
  unfold sscOperDestroy
  split
  · exact ⟨[], (List.append_nil _).symm⟩
  · rename_i op _
    refine ⟨[op.opHandle], ?_⟩
    dsimp only
    split <;> rfl

/-- The clean-up destroys handles, and nothing else. -/
theorem nua_cleanOldHandles (old : List SscOper) (ssc : Ssc) :
    ∃ destroyed : List Nat,
      (cleanOldHandles old ssc).nua = ssc.nua ++ destroyed.map .handleDestroy := by
  induction old generalizing ssc with
  | nil => exact ⟨[], (List.append_nil _).symm⟩
  | cons op old ih =>
    rw [cleanOldHandles, List.foldl_cons]
    split
    · obtain ⟨first, hfirst⟩ := nua_sscOperDestroy ssc op.addr
      obtain ⟨destroyed, hdestroyed⟩ := ih (sscOperDestroy ssc op.addr)
      exact ⟨first ++ destroyed, hdestroyed.trans (by rw [hfirst]; simp)⟩
    · exact ih ssc

/-- A new operation comes with its handle. -/
theorem nua_sscOperCreateWithPassword (alloc : Alloc) (ssc : Ssc) (method : SipMethod)
    {destination : CString} (password : Option CString)
    (hvalid : env.validAddress destination = true) :
    ∃ destroyed : List Nat,
      (sscOperCreateWithPassword env alloc method (some destination) password ssc).1.nua
        = ssc.nua ++ .handle alloc.handle destination :: destroyed.map .handleDestroy := by
  simp only [sscOperCreateWithPassword, sscOperCreate, hvalid, if_true]
  split
  · exact ⟨[], rfl⟩
  · obtain ⟨destroyed, hdestroyed⟩ := nua_cleanOldHandles
      (ssc.operations.dropWhile (·.opPersistent))
      ({ ssc with operations := newOper alloc method :: ssc.operations }.emit
        (.handle alloc.handle destination))
    refine ⟨destroyed, hdestroyed.trans ?_⟩
    simp [Ssc.emit]

/-- The MESSAGE goes to its destination, when that is an address. -/
theorem messagesTo_sscMessage (hfresh : alloc.Fresh ssc) (hnua : ssc.nua = [])
    (destination : CString) (password msg headers : Option CString)
    (made : Option (Nat × CString)) :
    messagesTo made (sscMessage env alloc (some destination) password msg headers ssc).nua =
      if env.validAddress destination then
        [{ destination := some destination, headers := headers, msg := msg }]
      else [] := by
  unfold sscMessage
  by_cases hvalid : env.validAddress destination = true
  · obtain ⟨hcreated, hop⟩ := oper?_sscOperCreateWithPassword hfresh .message password hvalid
    obtain ⟨destroyed, hmade⟩ :=
      nua_sscOperCreateWithPassword alloc ssc .message password hvalid
    simp only [hcreated, Option.bind_some, hop, Ssc.emit, hmade, hnua]
    rw [if_pos hvalid, List.nil_append, List.cons_append, messagesTo, messagesTo_handleDestroy]
    simp [messagesTo, newOper, sscOperAssign]
  · simp [sscOperCreateWithPassword, sscOperCreate, hvalid, hnua, messagesTo]

end Steps

end RestCommSdk.Proofs
