import RestCommSdk.Proofs.CallBudget
import RestCommSdk.Proofs.MessageDelivery

/-!
# `RestCommSdk.Proofs.UserCalls`: every call was asked for

The budget of `CallBudget`, over both threads and the pipes between them. An INVITE and the answer
that takes a call are asked of the stack for an `i` or an `a` that has been written, once at most
(`SetUps`), and such a line is only written for a call that the application asked for or took. So
what the stack is asked for, the lines that are on their way and what can still come of the state
of the App are together no more than those calls (`Paid`), and `setUps_of_run` is what this comes
to for the whole system.
-/

set_option autoImplicit false

namespace RestCommSdk.Proofs

open RestCommSdk.Lib
open RestCommSdk.CliInterface
open RestCommSdk.SipManager (NSDictionary Command stringifyDictionary)

/-- An INVITE, or the answer that takes a call. -/
def setsUp : NuaCall → Bool
  | .invite .. => true
  | .respond _ status _ _ => 200 ≤ status && status < 300
  | _ => false

/-- `i`, `a` -/
def lineSetsUp : Line → Bool
  | .command c => isSetUp c
  | .credentials _ => false

/-! ### The SIP client -/

/-- The step has asked for no more than `n` INVITEs and answers. -/
structure SetUps (n : Nat) (ssc : Ssc) : Prop where
  autoanswer : ssc.autoanswer = false
  le : ssc.nua.countP setsUp ≤ n

/-- One more call of the stack. -/
theorem setUps_emit {n : Nat} {ssc : Ssc} (h : SetUps n ssc) (c : NuaCall) :
    SetUps (n + (setsUp c).toNat) (ssc.emit c) := by
  refine ⟨h.autoanswer, ?_⟩
  have hle := h.le
  rw [Ssc.emit, List.countP_append]
  cases hc : setsUp c <;> simp [hc] <;> omega

/-- The functions that are about no call set up none. -/
theorem plainInvariant_setUps (n : Nat) : PlainInvariant (SetUps n) where
  of_eq h _ hnua hauto := ⟨hauto.trans h.autoanswer, hnua ▸ h.le⟩
  emit {_ c} h hc := by
    have hplain : setsUp c = false := by cases c <;> first | rfl | cases hc
    have hemit := setUps_emit h c
    rwa [hplain] at hemit
  setOper _ _ h _ := ⟨h.autoanswer, h.le⟩
  filter _ h := ⟨h.autoanswer, h.le⟩
  cons {ssc op c} h _ _ _ _ hc := by
    have hlist : SetUps n { ssc with operations := op :: ssc.operations } := ⟨h.autoanswer, h.le⟩
    have hemit := setUps_emit hlist c
    rcases hc with ⟨address, rfl⟩ | rfl <;> exact hemit

namespace SetUps

variable {n : Nat} {env : SscEnv} {alloc : Alloc} {ssc ssc' : Ssc}

/-- Only what was asked for and `autoanswer` matter. -/
theorem of_eq (h : SetUps n ssc) (hnua : ssc'.nua = ssc.nua)
    (hauto : ssc'.autoanswer = ssc.autoanswer) : SetUps n ssc' :=
  ⟨hauto.trans h.autoanswer, hnua ▸ h.le⟩

/-- Fewer are at most as many. -/
theorem mono {n' : Nat} (h : SetUps n ssc) (hle : n ≤ n') : SetUps n' ssc :=
  ⟨h.autoanswer, Nat.le_trans h.le hle⟩

/-- A call sets up one at most. -/
theorem one (h : SetUps n ssc) (c : NuaCall) : SetUps (n + 1) (ssc.emit c) :=
  (setUps_emit h c).mono (Nat.add_le_add_left (Bool.toNat_le _) _)

/-- The media lets one INVITE or one answer go. -/
theorem privMediaStateCb (h : SetUps n ssc) (addr : Nat) :
    SetUps (n + 1) (privMediaStateCb addr ssc) := by
  have hset (f : SscOper → SscOper) : SetUps n (ssc.setOper addr f) := h.of_eq rfl rfl
  rcases privMediaStateCb_cases addr ssc with heq | ⟨media, heq⟩ |
    ⟨op, -, ⟨-, -, heq⟩ | ⟨-, -, f, status, phrase, payload, -, -, heq⟩⟩ <;> rw [heq]
  · exact h.mono (Nat.le_succ _)
  · have hmedia : SetUps n { ssc with media := media } := h.of_eq rfl rfl
    exact ((plainInvariant_setUps n).sscOperDestroy hmedia addr).mono (Nat.le_succ _)
  · exact (hset _).one _
  · exact (hset _).one _

/-- A call that is made is one. -/
theorem sscInvite (h : SetUps n ssc) (hfresh : alloc.Fresh ssc)
    {destination password sdp headers : Option CString}
    (hcall : sscInvite env alloc destination password sdp headers ssc = some ssc') :
    SetUps (n + 1) ssc' := by
  have hcreate :
      SetUps n (sscOperCreateWithPassword env alloc .invite destination password ssc).1 :=
    (plainInvariant_setUps n).sscOperCreateWithPassword h hfresh .invite destination password
  rcases sscInvite_cases hcall with ⟨addr, payload, -, rfl⟩ | rfl
  · refine SetUps.privMediaStateCb ?_ addr
    exact hcreate.of_eq rfl rfl
  · exact (hcreate.mono (Nat.le_succ n)).of_eq rfl rfl

/-- Only a command that takes the call sends the answer that does. -/
theorem sscAnswer (h : SetUps n ssc) (sdp : Option CString) (status : Nat) (phrase : CString) :
    SetUps (n + (200 ≤ status && status < 300 : Bool).toNat)
      (sscAnswer sdp status phrase ssc) := by
  unfold CliInterface.sscAnswer
  split
  · exact h.mono (Nat.le_add_right _ _)
  · rename_i op _
    dsimp only
    split
    · rename_i hstatus
      rw [hstatus]
      refine SetUps.privMediaStateCb ?_ op.addr
      exact h.of_eq rfl rfl
    · have hasked : SetUps n { ssc with ansStatus := status, ansPhrase := phrase } :=
        h.of_eq rfl rfl
      exact (plainInvariant_setUps _).sscOperDestroy
        (setUps_emit hasked (.respond op.opHandle status phrase none)) op.addr

/-- A command asks for an INVITE or an answer if it is one, once. -/
theorem sscCall (h : SetUps n ssc) (hfresh : alloc.Fresh ssc) {prompt : CString} {c : SscCall}
    (hcall : sscCall env alloc prompt ssc c = some ssc') :
    SetUps (n + (sendsSdp c).toNat) ssc' := by
  cases c with
  | answer sdp status phrase =>
    cases hcall
    exact h.sscAnswer sdp status phrase
  | bye =>
    cases hcall
    unfold sscBye
    split
    · exact h
    · rename_i op _
      exact (setUps_emit h (.bye op.opHandle)).of_eq rfl rfl
  | invite destination password sdp headers => exact h.sscInvite hfresh hcall
  | _ => exact (plainInvariant_setUps n).sscCall h hfresh rfl hcall

/-- An event asks for neither. -/
theorem privCallback (h : SetUps n ssc) (hfresh : alloc.Fresh ssc) {nh : Nat} {e : NuaEvent}
    (hevent : privCallback env alloc nh ssc e = some ssc') : SetUps n ssc' := by
  have hrules := plainInvariant_setUps n
  cases e with
  | rInvite status sip =>
    rcases sscRInvite_cases hevent with ⟨-, op, -, ⟨-, hstore⟩ | ⟨-, rfl⟩⟩ |
      ⟨-, ⟨-, rfl⟩ | ⟨-, message, payload, -, -, rfl⟩ | ⟨-, -, rfl⟩⟩
    · refine hrules.sscStorePendingAuth ?_ hstore
      exact h.of_eq rfl rfl
    all_goals exact h.of_eq rfl rfl
  | iInvite sip =>
    rcases sscIInvite_cases hevent with rfl | ⟨message, sipFrom, o, ssc₁, hannounce, hssc₁⟩
    · exact h
    · have hmarked : SetUps n ssc₁ := by
        rcases hssc₁ with ⟨o₀, -, -, rfl⟩ | ⟨-, -, rfl⟩
        · exact h.of_eq rfl rfl
        · exact (setUps_emit h (.handleBind nh)).of_eq rfl rfl
      rcases announceInvite_cases hannounce with rfl | ⟨hauto, -⟩ | ⟨-, reply, rfl⟩
      · exact hmarked
      · -- Nothing makes the client answer by itself.
        rw [hmarked.autoanswer] at hauto
        cases hauto
      · exact hmarked.of_eq rfl rfl
  | iState tags =>
    cases hevent
    obtain ⟨media, hstate | ⟨o, -, ⟨-, replies, hready⟩ | ⟨-, hterminated⟩⟩⟩ :=
      sscIState_cases tags (sscOperFindByHandle ssc nh) ssc
    · rw [hstate]
      exact h.of_eq rfl rfl
    · rw [hready]
      exact h.of_eq rfl rfl
    · rw [hterminated]
      have hmedia : SetUps n { ssc with media := media } := h.of_eq rfl rfl
      exact (hrules.sscOperDestroy hmedia o.addr).of_eq rfl rfl
  | _ => exact hrules.privCallback h hfresh rfl hevent

end SetUps

/-! ### Turns of the Sofia thread -/

section Turns
variable {env : SscEnv} {jsonObject : CString → Option NSDictionary} {s s' : SofiaThread}
  {alloc : Alloc}

/-- The commands that set a call up are the two that call such a function. -/
theorem sendsSdp_sscCalls {command : Command} {c : SscCall} (hc : c ∈ sscCalls command) :
    sendsSdp c = isSetUp command := by
  cases command <;> simp only [sscCalls, List.mem_singleton, List.not_mem_nil] at hc <;>
    rw [hc] <;> rfl

/-- On a line the stack is asked for an INVITE or an answer if it is an `i` or an `a`. -/
theorem setUps_of_line (hread : ∀ d, jsonObject (stringifyDictionary d) = some d)
    (hauto : s.ssc.autoanswer = false) {line : Line} {prompt : CString}
    (h : sofiaStep env jsonObject s (alloc, .line line.text prompt) = some s') :
    SetUps (lineSetsUp line).toNat s'.ssc := by
  have hstart : SetUps 0 (turnStart s.ssc) := ⟨hauto, Nat.le_refl _⟩
  obtain ⟨hfresh, ⟨-, hssc⟩ | ⟨c, hcalls, hcall⟩⟩ := sofiaStep_line h
  · -- The line makes no call, and sets up nothing.
    rw [hssc]
    exact hstart.mono (Nat.zero_le _)
  · have hasked := hstart.sscCall hfresh hcall
    rw [Nat.zero_add] at hasked
    cases line with
    | credentials password =>
      obtain ⟨data, hauth⟩ := calls_credentials jsonObject s.cli password
      -- Credentials answer a request that was made before.
      cases hcalls.symm.trans hauth
      exact hasked
    | command command =>
      rw [Line.text, calls_text hread] at hcalls
      have hmem : c ∈ sscCalls command := hcalls ▸ List.mem_singleton_self c
      rwa [sendsSdp_sscCalls hmem] at hasked

/-- Without `autoanswer` an event sets up no call. -/
theorem setUps_of_event (hauto : s.ssc.autoanswer = false) {nh : Nat} {e : NuaEvent}
    (h : sofiaStep env jsonObject s (alloc, .event nh e) = some s') : SetUps 0 s'.ssc := by
  have hstart : SetUps 0 (turnStart s.ssc) := ⟨hauto, Nat.le_refl _⟩
  obtain ⟨hfresh, hevent⟩ := sofiaStep_event h
  exact hstart.privCallback hfresh hevent

/-- A new client has set up none. -/
theorem setUps_create (env : SscEnv) (alloc : Alloc) (cli : Cli) :
    SetUps 0 (SofiaThread.create env alloc cli).ssc :=
  (plainInvariant_setUps 0).create cli ⟨rfl, Nat.le_refl _⟩

end Turns

/-! ### The system with queues -/

/-- The lines that the App has written are what it has piped. -/
theorem countP_lineSetsUp (app : App) :
    app.written.countP lineSetsUp = app.piped.countP pipesSetUp := by
  have hcredentials : app.credentials.countP (lineSetsUp ∘ Line.credentials) = 0 :=
    List.countP_eq_zero.mpr fun _ _ => Bool.false_ne_true
  rw [App.written, List.countP_append, List.countP_map, List.countP_map, hcredentials,
    Nat.add_zero]
  rfl

/-- What the stack was asked for, the lines on their way and what can still come of the state of
the App are paid for by the calls that were asked for or taken. -/
structure Paid (q : Queued) : Prop where
  sound : ∀ media ∈ q.threads.app.medias, SoundSession media
  autoanswer : q.threads.sofia.ssc.autoanswer = false
  le : (stackCalls q.threads.history).countP setsUp + q.lines.countP lineSetsUp
    + potentialCalls q.threads.app ≤ (givenInputs q.threads.history).countP startsCall

section Queues
variable {env : SscEnv} {jsonObject : CString → Option NSDictionary} {q q' : Queued}

/-- At the start nothing is owed. -/
theorem paid_start (env : SscEnv) (alloc : Alloc) {app : App} (cli : Cli)
    (hmedias : app.medias = []) (hrequests : app.permissionRequests = []) :
    Paid (Queued.start env alloc app cli) := by
  have hcreate := setUps_create env alloc cli
  refine ⟨?_, hcreate.autoanswer, ?_⟩
  · intro media hmem
    have hmem : media ∈ app.medias := hmem
    rw [hmedias] at hmem
    cases hmem
  · have hnone := Nat.le_zero.mp hcreate.le
    simp [Queued.start, Threads.start, hnone, potentialCalls, hmedias, hrequests]

/-- A step of the App spends what its input brings. -/
theorem Paid.app (h : Paid q) (what : Occurrence) {input : AppInput} {t : Threads}
    {replies : List SofiaReply} (ht : q.threads.appTurn jsonObject what input = some t)
    (hcalls : stackCalls [what] = [])
    (hgiven : (startsCall input).toNat = (givenInputs [what]).countP startsCall) :
    Paid { threads := t, lines := q.lines ++ t.app.written, replies := replies } := by
  obtain ⟨happ, hsofia⟩ := appTurn_cases ht
  have hhistory : t.history = q.threads.history ++ ([what] ++ t.app.occurrences) :=
    appTurn_history ht
  obtain ⟨hsound, hpaid⟩ := paid_appStep jsonObject _ _ _ h.sound happ
  refine ⟨hsound, hsofia ▸ h.autoanswer, ?_⟩
  have hle := h.le
  simp only [hhistory, stackCalls_append, hcalls, stackCalls_app, givenInputs_append,
    givenInputs_app, List.append_nil, List.countP_append, countP_lineSetsUp]
  omega

/-- A turn of the Sofia thread asks for no more than what the lines that it handles have. -/
theorem Paid.sofia (h : Paid q) (what : List Occurrence) (lines : List Line) {left : List Line}
    {replies : List SofiaReply} {t : Threads} (hlines : q.lines = lines ++ left)
    (hhistory : t.history = q.threads.history ++ (what ++ t.sofia.occurrences))
    (happ : t.app = q.threads.app) (hgiven : givenInputs what = []) (hcalls : stackCalls what = [])
    (hasked : SetUps (lines.countP lineSetsUp) t.sofia.ssc) :
    Paid { threads := t, lines := left, replies := replies } := by
  refine ⟨happ ▸ h.sound, hasked.autoanswer, ?_⟩
  have hle := h.le
  have hnua := hasked.le
  rw [hlines, List.countP_append] at hle
  simp only [hhistory, happ, stackCalls_append, hcalls, stackCalls_sofia, givenInputs_append,
    hgiven, givenInputs_sofia, List.append_nil, List.nil_append, List.countP_append]
  omega

/-- Every step keeps it. -/
theorem paid_queuedStep (hread : ∀ d, jsonObject (stringifyDictionary d) = some d) (h : Paid q)
    {input : QueuedInput} (hstep : queuedStep env jsonObject q input = some q') : Paid q' := by
  cases input with
  | app input =>
    simp only [queuedStep] at hstep
    split at hstep
    · obtain ⟨t, ht, hstep⟩ := Option.bind_eq_some_iff.mp hstep
      cases hstep
      -- A local input may start one call, and pays for it.
      refine h.app (.input input) ht rfl ?_
      cases hstarts : startsCall input <;> simp [givenInputs, hstarts]
    · cases hstep
  | handle turn =>
    simp only [queuedStep] at hstep
    split at hstep
    · cases hstep
    · rename_i line lines hlines
      obtain ⟨t, ht, hstep⟩ := Option.bind_eq_some_iff.mp hstep
      cases hstep
      obtain ⟨sofia, hturn, hssc, happ⟩ := sofiaTurn_cases ht
      have hasked := setUps_of_line hread h.autoanswer hturn
      -- The line in front pays for the call that it sets up.
      refine h.sofia [_] [line] hlines (sofiaTurn_history ht) happ rfl rfl ?_
      rw [hssc, List.countP_cons, List.countP_nil, Nat.zero_add]
      cases hline : lineSetsUp line <;> rw [hline] at hasked <;> exact hasked.of_eq rfl rfl
  | stack alloc nh e =>
    obtain ⟨t, ht, hstep⟩ := Option.bind_eq_some_iff.mp hstep
    cases hstep
    obtain ⟨sofia, hturn, hssc, happ⟩ := sofiaTurn_cases ht
    refine h.sofia [_] [] rfl (sofiaTurn_history ht) happ rfl rfl ?_
    rw [hssc]
    -- An event of the stack sets up nothing by itself.
    exact (setUps_of_event h.autoanswer hturn).of_eq rfl rfl
  | nextPass alloc =>
    obtain ⟨t, ht, hstep⟩ := Option.bind_eq_some_iff.mp hstep
    cases hstep
    obtain ⟨⟨cli, hsofia⟩, happ⟩ := nextPass_cases ht
    refine h.sofia [] [] rfl (nextPass_history ht) happ rfl rfl ?_
    rw [hsofia]
    exact setUps_create env alloc cli
  | dispatch active =>
    simp only [queuedStep] at hstep
    split at hstep
    · cases hstep
    · obtain ⟨t, ht, hstep⟩ := Option.bind_eq_some_iff.mp hstep
      cases hstep
      -- Handling a reply spends what was paid for before.
      exact h.app (.dispatched _) ht rfl rfl

end Queues

/-! ### Runs of the system with pipes -/

/-- In runs whose texts hold no `$` and whose reads end with one, from an App without a call, the
INVITEs and the answers that the stack has been asked for are no more than the calls that the
application has asked for or taken, whatever else has happened and in whatever order. -/
theorem setUps_of_run {env : SscEnv} {jsonObject : CString → Option NSDictionary} {alloc : Alloc}
    {app : App} {cli : Cli} {is : List WiredInput} {s' : Wired}
    (hread : ∀ d, jsonObject (stringifyDictionary d) = some d)
    (hmedias : app.medias = []) (hrequests : app.permissionRequests = [])
    (hclean : AllSteps (wiredStep env jsonObject) CleanStep (Wired.start env alloc app cli) is)
    (hrun : run (wiredStep env jsonObject) (Wired.start env alloc app cli) is = some s') :
    (stackCalls s'.threads.history).countP setsUp
      ≤ (givenInputs s'.threads.history).countP startsCall := by
  obtain ⟨q', ⟨hcarries, -⟩, h⟩ := (wired_simulates env jsonObject).invariant Paid
    (paid_start env alloc cli hmedias hrequests)
    (fun _ _ _ h hstep => paid_queuedStep hread h hstep)
    ⟨carries_start alloc app cli, fifo_start alloc app cli⟩ hclean hrun
  have hle := h.le
  rw [hcarries.threads]
  omega

/-- The call of `askedCall`, up to its INVITE. -/
def invitedCall : List WiredInput :=
  askedCall.map .app ++ [.readLines 53 fun _ => (⟨2, 2⟩, [])]

/-- One call that the application started, and one `INVITE`. -/
theorem setUps_of_run_invitedCall :
    ∃ s', run (wiredStep plainEnv Json.read) chatStart invitedCall = some s' ∧
      (stackCalls s'.threads.history).countP setsUp = 1 ∧
        1 ≤ (givenInputs s'.threads.history).countP startsCall := by
  have hinvited : ((run (wiredStep plainEnv Json.read) chatStart invitedCall).map fun s' =>
      (stackCalls s'.threads.history).countP setsUp) = some 1 := by
    decide +kernel
  obtain ⟨s', hrun, hcount⟩ := Option.map_eq_some_iff.mp hinvited
  exact ⟨s', hrun, hcount,
    hcount ▸ setUps_of_run Json.read_write rfl rfl (by decide +kernel) hrun⟩

end RestCommSdk.Proofs
