import RestCommSdk.Proofs.NoAuth
import RestCommSdk.Proofs.SscTransactions

/-!
# `RestCommSdk.Proofs.Authentication`: whose credentials answer a challenge

A `401` or `407` queues its challenges, and `ssc_auth` answers the first request of the queue
whose operation is still there, with the password of the operation just challenged.
`demanded` lists the `nua_authenticate` calls that a challenge asks for: one for each of its
challenges, on its own operation. `authenticates_own` states when a run makes exactly these
calls.
-/

set_option autoImplicit false

namespace RestCommSdk.Proofs

open RestCommSdk.Lib
open RestCommSdk.CliInterface

/-! ### What is asked for -/

/-- The message of a challenge, stored or not. -/
def challengeIn : NuaEvent → Option (Option Sip)
  | .rBye status sip => if isChallenge status then some sip else none
  | e => storedChallenge e

/-- The operation of the list that an input challenges, with the message. -/
def challengedOper (ssc : Ssc) : SscInput → Option (SscOper × Sip)
  | .event nh e => do
    let sip ← ← challengeIn e
    let op ← sscOperFindByHandle ssc nh
    return (op, sip)
  | .call .. => none

/-- The credentials for a challenge: its scheme and realm, the user, the password. -/
def credentials (c : Challenge) (user : Option CString) (password : CString) : CString :=
  c.scheme ++ ':' :: (format c.realm ++ ':' :: (format user ++ ':' :: password))

/-- The `nua_authenticate` calls that a step has to make. -/
def demanded (ssc : Ssc) (input : SscInput) : List NuaCall :=
  match challengedOper ssc input with
  | some (op, sip) =>
    op.password.toList.flatMap fun password => sip.challenges.map fun c =>
      .authenticate op.opHandle (credentials c (sip.sipFrom.bind (·.urlUser)) password)
  | none => []

/-- The `k` command, with credentials that are typed in. The App has no command for it. -/
def typedAuth : SscInput → Bool
  | .call (.auth _) _ => true
  | _ => false

/-- The first pending request whose operation is in the list. -/
def firstLive (ssc : Ssc) : Option SscAuthItem :=
  ssc.authPend.find? fun item => item.op ∈ ssc.operations.map (·.addr)

/-- The response is to a BYE. -/
def isByeResponse : SscInput → Bool
  | .event _ (.rBye ..) => true
  | _ => false

/-- An operation with a password is challenged once, not for a BYE; its password has no
colon; and no other request waits in front of the challenge, unless it is an equal one. -/
def AnswersOwn (ssc : Ssc) (input : SscInput) : Prop :=
  match challengedOper ssc input with
  | some (op, sip) =>
    ∀ password ∈ op.password,
      match sip.challenges with
      | [] => isByeResponse input ∨ firstLive ssc = none
      | [c] => isByeResponse input = false ∧ ':' ∉ password ∧
          ∀ item ∈ firstLive ssc, item = privStorePendingAuth c sip.sipFrom op
      | _ => False
  | none => True

instance (ssc : Ssc) (input : SscInput) : Decidable (AnswersOwn ssc input) := by
  unfold AnswersOwn
  split
  · refine @Option.decidableForallMem _ _ (fun password => ?_) _
    split <;> infer_instance
  · infer_instance

/-! ### What `ssc_auth` does -/

section Auth
variable {env : SscEnv}

/-- The answer to a pending request. -/
def answerTo (ssc : Ssc) (data : CString) (item : SscAuthItem) : List NuaCall :=
  (ssc.oper? item.op).toList.map fun op => .authenticate op.opHandle (authString item data)

/-- Requests that `ssc_oper_check` calls stale are dropped, and the first other one is
answered. -/
theorem authenticates_sscAuthLoop_of_check (data : CString) (ssc : Ssc)
    (queue : List SscAuthItem) :
    authenticates (sscAuthLoop env data ssc queue)
      = authenticates ssc ++
        (queue.find? fun item => env.operCheck (ssc.operations.map (·.addr)) item.op).toList.flatMap
          (answerTo ssc data) := by
  induction queue with
  | nil => simp [sscAuthLoop, authenticates]
  | cons item rest ih =>
    rw [sscAuthLoop, List.find?_cons]
    by_cases hlive : env.operCheck (ssc.operations.map (·.addr)) item.op = true
    · have hpend : ∀ a, Ssc.oper? { ssc with authPend := rest } a = ssc.oper? a := fun _ => rfl
      simp only [hlive, if_true, Option.toList_some, List.flatMap_cons,
        List.flatMap_nil, List.append_nil, answerTo, hpend]
      cases ssc.oper? item.op with
      | none => simp [authenticates]
      | some op =>
        simp [authenticates, Ssc.emit, List.filter_append, List.filter_cons, isAuthenticate]
    · -- The request is stale, and the loop goes on behind it.
      simp only [hlive]
      exact ih

variable (hcheck : ∀ l a, env.operCheck l a = decide (a ∈ l))

include hcheck in
/-- Stale requests are dropped, and the first live one is answered. -/
theorem authenticates_sscAuthLoop (data : CString) (ssc : Ssc) (queue : List SscAuthItem) :
    authenticates (sscAuthLoop env data ssc queue)
      = authenticates ssc ++
        (queue.find? fun item => item.op ∈ ssc.operations.map (·.addr)).toList.flatMap
          (answerTo ssc data) := by
  rw [authenticates_sscAuthLoop_of_check]
  simp only [hcheck]

/-- Queueing touches neither the operations nor the calls that matter here. -/
theorem foldl_privAttachOp (op : SscOper) (items : List SscAuthItem) (ssc : Ssc) :
    (items.foldl (privAttachOp op) ssc).authPend = ssc.authPend ++ items ∧
      (items.foldl (privAttachOp op) ssc).operations = ssc.operations ∧
      authenticates (items.foldl (privAttachOp op) ssc) = authenticates ssc := by
  induction items generalizing ssc with
  | nil => simp
  | cons item items ih =>
    obtain ⟨hpend, hops, hauth⟩ := ih (privAttachOp op ssc item)
    have href : authenticates (privAttachOp op ssc item) = authenticates ssc :=
      (Frame.emit ssc (c := .handleRef op.opHandle) rfl).authenticates
    refine ⟨hpend.trans ?_, hops, hauth.trans href⟩
    simp [privAttachOp, Ssc.emit]

include hcheck in
/-- `ssc_store_pending_auth` on a message for an operation. -/
theorem authenticates_sscStorePendingAuth {ssc ssc' : Ssc} {op : SscOper} {sip : Sip}
    (h : sscStorePendingAuth env ssc (some op) (some sip) = some ssc') :
    authenticates ssc' = authenticates ssc ++
      op.password.toList.flatMap fun password =>
        (((ssc.authPend ++ pendingItems sip op).find? fun item =>
          item.op ∈ ssc.operations.map (·.addr)).toList.flatMap (answerTo ssc password)) := by
  obtain ⟨hpend, hops, hauth⟩ := foldl_privAttachOp op (pendingItems sip op) ssc
  simp only [sscStorePendingAuth, Option.bind_eq_bind, Option.bind_some] at h
  -- The handle of the answer is read after the queueing, which leaves it.
  have hanswer : ∀ password, answerTo ((pendingItems sip op).foldl (privAttachOp op) ssc) password
      = answerTo ssc password := fun password => by
    funext item
    simp [answerTo, Ssc.oper?, hops]
  split at h <;> rename_i hpassword <;> cases h
  · rw [sscAuth, authenticates_sscAuthLoop hcheck, hauth, hpend, hops, hanswer, hpassword]
    simp
  · rw [hauth, hpassword]
    simp

end Auth

/-- What `ssc_auth` makes of a password is what was asked for exactly when the password has no
colon. Any other text is too short: with one colon it has no user, with more nothing but
itself. -/
theorem authString_eq_iff {item : SscAuthItem} {realm user : CString}
    (hrealm : item.realm = some realm) (huser : item.username = some user) (password : CString) :
    authString item password = [':'].intercalate [item.scheme, realm, user, password] ↔
      ':' ∉ password := by
  have hjoin : [':'].intercalate [item.scheme, realm, user, password]
      = item.scheme ++ ':' :: (realm ++ ':' :: (user ++ ':' :: password)) := by
    simp [List.intercalate, List.intersperse]
  rw [hjoin, authString, hrealm, huser, ← List.count_eq_zero]
  constructor
  · intro htext
    -- With a colon in it the password stands for the user as well, and the text is shorter.
    by_contra hcount
    rw [if_neg hcount] at htext
    have hlength := congrArg List.length htext
    split at hlength
    · simp only [format, Option.getD_some, List.length_append, List.length_cons] at hlength
      omega
    · simp only [List.length_append, List.length_cons] at hlength
      omega
  · intro hcount
    rw [if_pos hcount]
    rfl

/-- The text that `ssc_auth` hands to `nua_authenticate` for the pending request that it
answers: the scheme, the realm, the user and the password, exactly when the password has no
colon. -/
theorem authenticates_password_iff (env : SscEnv) (ssc : Ssc) (item : SscAuthItem) (op : SscOper)
    (realm user password : CString)
    (hitem : (ssc.authPend.find? fun item =>
      env.operCheck (ssc.operations.map (·.addr)) item.op) = some item)
    (hop : ssc.oper? item.op = some op) (hrealm : item.realm = some realm)
    (huser : item.username = some user) :
    authenticates (sscAuth env ssc password) = authenticates ssc ++
        [.authenticate op.opHandle ([':'].intercalate [item.scheme, realm, user, password])] ↔
      ':' ∉ password := by
  rw [sscAuth, authenticates_sscAuthLoop_of_check, hitem, ← authString_eq_iff hrealm huser]
  simp [answerTo, hop]

/-- A call whose password is `a:b` is challenged. -/
def challengedWithColon : Ssc :=
  { operations := [⟨1, 1, true, none, .invite, some "a:b".toList, .none, none, false⟩]
    authPend := [⟨"Digest".toList, some "w".toList, some "u".toList, 1⟩] }

/-- A password with a colon. -/
theorem authenticates_password_iff_colon :
    authenticates (sscAuth plainEnv challengedWithColon "a:b".toList)
        = authenticates challengedWithColon ++ [.authenticate 1
          ([':'].intercalate ["Digest".toList, "w".toList, "u".toList, "a:b".toList])] ↔
      ':' ∉ "a:b".toList :=
  authenticates_password_iff plainEnv challengedWithColon
    ⟨"Digest".toList, some "w".toList, some "u".toList, 1⟩ _ _ _ "a:b".toList rfl rfl rfl rfl

/-- The user is taken from the password. -/
theorem colon_in_password_replaces_user :
    authenticates (sscAuth plainEnv challengedWithColon "a:b".toList)
        = [.authenticate 1 "Digest:w:a:b".toList] ∧
      authenticates (sscAuth plainEnv challengedWithColon "a:b".toList) ≠
        authenticates challengedWithColon ++ [.authenticate 1
          ([':'].intercalate ["Digest".toList, "w".toList, "u".toList, "a:b".toList])] := by
  decide

/-! ### Handlers -/

/-- `ssc'` has the operations of `ssc`, up to fields that `ssc_auth` does not read, and the
same pending requests. -/
structure SameForAuth (ssc ssc' : Ssc) : Prop where
  addrs : ssc'.operations.map (·.addr) = ssc.operations.map (·.addr)
  handle : ∀ a, (ssc'.oper? a).map (·.opHandle) = (ssc.oper? a).map (·.opHandle)
  authPend : ssc'.authPend = ssc.authPend
  authenticates : authenticates ssc' = authenticates ssc

/-- A write to an operation that leaves its address and its handle. -/
theorem SameForAuth.setOper (ssc : Ssc) (addr : Nat) {f : SscOper → SscOper}
    (hf : ∀ op, (f op).addr = op.addr ∧ (f op).opHandle = op.opHandle) :
    SameForAuth ssc (ssc.setOper addr f) := by
  refine ⟨?_, fun a => ?_, rfl, rfl⟩
  · simp only [Ssc.setOper, List.map_map]
    refine List.map_congr_left fun op _ => ?_
    by_cases haddr : op.addr = addr <;> simp [haddr, hf]
  · simp only [Ssc.oper?, Ssc.setOper, List.find?_map, Option.map_map]
    -- The write keeps the addresses, so the same operation is found.
    have hp : ((fun op : SscOper => decide (op.addr = a)) ∘
        fun op => if op.addr = addr then f op else op) = fun op => decide (op.addr = a) := by
      funext op
      by_cases haddr : op.addr = addr <;> simp [haddr, hf]
    rw [hp]
    congr 1
    funext op
    by_cases haddr : op.addr = addr <;> simp [haddr, hf]

section Handlers
variable {env : SscEnv} {alloc : Alloc} {ssc ssc' : Ssc} {nh : Nat} {e : NuaEvent}

/-- A challenge that the handler stores is stored for the operation of the event. -/
theorem privCallback_of_stored {sip : Option Sip} (hstored : storedChallenge e = some sip)
    (h : privCallback env alloc nh ssc e = some ssc') :
    ∃ op sip', sscOperFindByHandle ssc nh = some op ∧ sip = some sip' ∧
      ∃ ssc₀, SameForAuth ssc ssc₀ ∧
        sscStorePendingAuth env ssc₀ (some op) (some sip') = some ssc' := by
  obtain ⟨op, sip', hop, hsip, f, hf, hstore⟩ := storedChallenge_cases hstored h
  exact ⟨op, sip', hop, hsip, _, SameForAuth.setOper ssc op.addr hf, hstore⟩

/-- The other handlers authenticate nothing. -/
theorem authenticates_of_not_stored (hstored : storedChallenge e = none)
    (h : privCallback env alloc nh ssc e = some ssc') :
    authenticates ssc' = authenticates ssc := (NoAuth.privCallback hstored h).authenticates

end Handlers

/-! ### Runs -/

section Runs
variable {env : SscEnv} (hcheck : ∀ l a, env.operCheck l a = decide (a ∈ l))
  {alloc : Alloc} {ssc ssc' : Ssc}

/-- With nothing but an equal request in front, the one that was just queued is found. -/
theorem find?_pendingItems {op : SscOper} {sip : Sip} {c : Challenge}
    (hone : sip.challenges = [c]) (hlive : op.addr ∈ ssc.operations.map (·.addr))
    (hfirst : ∀ item ∈ firstLive ssc, item = privStorePendingAuth c sip.sipFrom op) :
    ((ssc.authPend ++ pendingItems sip op).find? fun item =>
      item.op ∈ ssc.operations.map (·.addr)) = some (privStorePendingAuth c sip.sipFrom op) := by
  rw [List.find?_append]
  change (firstLive ssc).or _ = _
  cases hf : firstLive ssc with
  -- What waits in front is an equal request, so it does not matter which one is found.
  | some item => simp [hfirst item hf]
  | none =>
    simp only [pendingItems, hone, List.map_cons, List.map_nil, privStorePendingAuth,
      Option.none_or, List.find?_cons, hlive, decide_true]

/-- A password without a colon is completed to the credentials of the challenge. -/
theorem answerTo_privStorePendingAuth {op : SscOper} {password : CString} (c : Challenge)
    (sipFrom : Option SipFrom)
    (hhandle : (ssc.oper? op.addr).map (·.opHandle) = some op.opHandle) (hcolon : ':' ∉ password) :
    answerTo ssc password (privStorePendingAuth c sipFrom op) =
      [.authenticate op.opHandle (credentials c (sipFrom.bind (·.urlUser)) password)] := by
  obtain ⟨op', hop, hhandle⟩ := Option.map_eq_some_iff.mp hhandle
  -- `ssc_auth` completes a text that has no colon.
  have hcount : password.count ':' = 0 := List.count_eq_zero_of_not_mem hcolon
  simp only [answerTo, privStorePendingAuth, hop, Option.toList_some, List.map_cons,
    List.map_nil, hhandle, authString, hcount, if_true, credentials]

include hcheck in
/-- A stored challenge under the condition: the request just queued is the one answered. -/
theorem authenticates_of_stored {nh : Nat} {e : NuaEvent} (hown : AnswersOwn ssc (.event nh e))
    (haddrs : (ssc.operations.map (·.addr)).Nodup) (hnua : ssc.nua = []) {sip : Option Sip}
    (hstored : storedChallenge e = some sip)
    (h : privCallback env alloc nh ssc e = some ssc') :
    authenticates ssc' = demanded ssc (.event nh e) := by
  -- `ssc₀` is the client that the challenge is stored in.
  obtain ⟨op, sip, hop, rfl, ssc₀, hsame, hstore⟩ := privCallback_of_stored hstored h
  have hmem := (mem_of_findByHandle hop).1
  have hin : challengeIn e = some (some sip) := by
    cases e <;> first | exact hstored | simp [storedChallenge] at hstored
  have hbye : isByeResponse (.event nh e) = false := by
    cases e <;> first | rfl | simp [storedChallenge] at hstored
  have hchallenged : challengedOper ssc (.event nh e) = some (op, sip) := by
    simp [challengedOper, hin, hop]
  rw [authenticates_sscStorePendingAuth hcheck hstore, hsame.authenticates, hsame.authPend,
    hsame.addrs]
  simp only [demanded, hchallenged]
  have hnone : authenticates ssc = [] := by simp [authenticates, hnua]
  rw [hnone, List.nil_append]
  cases hpassword : op.password with
  | none => rfl
  | some password =>
    simp only [AnswersOwn, hchallenged] at hown
    have hown := hown password hpassword
    simp only [Option.toList_some, List.flatMap_cons, List.flatMap_nil, List.append_nil]
    split at hown
    · -- Nothing is queued, and nothing waits in front of it.
      rename_i hnothing
      have hfirst : firstLive ssc = none := hown.resolve_left (by simp [hbye])
      rw [List.find?_append]
      change ((firstLive ssc).or _).toList.flatMap _ = _
      simp [pendingItems, hnothing, hfirst]
    · rename_i c hone
      obtain ⟨-, hcolon, hfirst⟩ := hown
      have hhandle : (ssc₀.oper? op.addr).map (·.opHandle) = some op.opHandle := by
        rw [hsame.handle, oper?_of_mem haddrs hmem]
        rfl
      rw [find?_pendingItems hone (List.mem_map_of_mem hmem) hfirst, hone]
      simp only [Option.toList_some, List.flatMap_cons, List.flatMap_nil, List.append_nil]
      exact answerTo_privStorePendingAuth c sip.sipFrom hhandle hcolon
    · exact hown.elim

include hcheck in
/-- Under the condition a step makes the calls that its challenge asks for. -/
theorem authenticates_sscStep (haddrs : (ssc.operations.map (·.addr)).Nodup) {input : SscInput}
    (hscope : typedAuth input = false) (hown : AnswersOwn ssc input)
    (h : sscStep env alloc ssc input = some ssc') :
    authenticates ssc' = demanded ssc input := by
  unfold sscStep at h
  dsimp only at h
  split at h
  · cases input with
    | call c prompt =>
      -- The frame is about commands that write no reply. Only `i` may write one.
      by_cases hreplies : callReplies env alloc { ssc with nua := [], sent := [] } c = []
      · exact (frame_sscCall env alloc h (fun data hc => by simp [hc, typedAuth] at hscope)
          hreplies).authenticates
      · cases c with
        | invite destination password sdp headers =>
          have hcreate := frame_sscOperCreateWithPassword env alloc .invite destination password
            { ssc with nua := [], sent := [] }
          cases haddr : (sscOperCreateWithPassword env alloc .invite destination password
              { ssc with nua := [], sent := [] }).2 with
          | some addr => simp [callReplies, haddr] at hreplies
          | none =>
            simp only [sscCall, sscInvite, haddr, Option.some.injEq] at h
            subst h
            exact hcreate.authenticates
        | _ => exact absurd rfl hreplies
    | event nh e =>
      cases hstored : storedChallenge e with
      | some sip =>
        have hown : AnswersOwn { ssc with nua := [], sent := [] } (.event nh e) := hown
        exact (authenticates_of_stored hcheck hown haddrs rfl hstored h :)
      | none =>
        have hnone := authenticates_of_not_stored hstored h
        refine hnone.trans ?_
        -- What is left is a challenge to a BYE, or none at all.
        unfold demanded
        cases hchallenged : challengedOper ssc (.event nh e) with
        | none => rfl
        | some found =>
          obtain ⟨op, sip⟩ := found
          cases hpassword : op.password with
          | none => simp [authenticates, hpassword]
          | some password =>
            have hbye : isByeResponse (.event nh e) = true := by
              cases e <;> first | rfl | simp [challengedOper, challengeIn, hstored] at hchallenged
            simp only [AnswersOwn, hchallenged, hbye] at hown
            have hown := hown password hpassword
            split at hown
            · rename_i hnothing
              simp [authenticates, hnothing]
            · exact absurd hown.1 (by decide)
            · exact hown.elim
  · cases h

end Runs

/-- In every run in which no credentials are typed in, and in which every challenge to an
operation with a password meets the condition, `nua_authenticate` is called exactly as the
challenges ask: on the operation challenged, once for each challenge, with its own password. -/
theorem authenticates_own (env : SscEnv) (hcheck : ∀ l a, env.operCheck l a = decide (a ∈ l))
    (start : Ssc) (hstart : start.operations = []) (inputs : List (Alloc × SscInput))
    (hscope : ∀ input ∈ inputs, typedAuth input.2 = false)
    (h : AllSteps (sscMachine env) (fun ssc input _ => AnswersOwn ssc input.2) start inputs) :
    AllSteps (sscMachine env) (fun ssc input ssc' => authenticates ssc' = demanded ssc input.2)
      start inputs := by
  refine AllSteps.of_inv (fun ssc => ∃ t, Settled t ssc) ?_
    ⟨fun _ => {}, settled_start hstart⟩ (h.and_inputs hscope)
  rintro ssc ⟨alloc, input⟩ ssc' ⟨t, hsettled⟩ hstep ⟨hown, hscope⟩
  exact ⟨⟨_, settled_sscStep hsettled hstep⟩,
    authenticates_sscStep hcheck hsettled.addrs hscope hown hstep⟩

/-- A call that one proxy challenges once. -/
theorem authenticates_own_call :
    AllSteps (sscMachine plainEnv)
      (fun ssc input ssc' => authenticates ssc' = demanded ssc input.2) {} challengedInvite :=
  authenticates_own plainEnv (fun _ _ => rfl) {} rfl challengedInvite
    (by decide) (by decide)

/-- A call that is challenged by the server and by a proxy in one response. -/
def challengedTwice : List (Alloc × SscInput) :=
  [(⟨1, 1⟩, .call (.invite (some "sip:b@h".toList) (some "pw".toList) (some "v=0".toList) none)),
    (⟨2, 2⟩, .event 1 (.rInvite 407 (some
      { wwwAuthenticate := some { scheme := "Digest".toList, realm := some "w".toList }
        proxyAuthenticate := some { scheme := "Digest".toList, realm := some "p".toList } })))]

/-- Of two challenges in one response, the second one is not answered. -/
theorem second_challenge_unanswered :
    ¬ AllSteps (sscMachine plainEnv)
      (fun ssc input ssc' => authenticates ssc' = demanded ssc input.2) {} challengedTwice := by
  decide

end RestCommSdk.Proofs
