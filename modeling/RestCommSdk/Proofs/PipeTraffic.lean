import RestCommSdk.Proofs.CallBudget
import RestCommSdk.Proofs.MessageDelivery

/-!
# `RestCommSdk.Proofs.PipeTraffic`: the two threads come to rest

A line may be replied to, and a reply may be answered with a line, so each of the threads may give
the other one something to do. They do not keep each other going. The SIP client replies to a line
only when it is an `i` with a bad destination, and once (`sent_of_line`), and the App writes one
line on a reply at most, which is no `i` (`written_of_reply`). So what can come to be handled
before both pipes are empty is bounded by what is in them (`backlog`), and every read takes from it
(`reads_of_run`).
-/

set_option autoImplicit false

namespace RestCommSdk.Proofs

open RestCommSdk.Lib
open RestCommSdk.CliInterface
open RestCommSdk.SipManager (NSDictionary Command stringifyDictionary)

/-- `i` -/
def lineInvites : Line → Bool
  | .command (.invite ..) => true
  | _ => false

/-! ### Replies to lines -/

/-- Only an `i` is replied to, and once. -/
theorem sent_of_line {env : SscEnv} {jsonObject : CString → Option NSDictionary}
    {s s' : SofiaThread} {alloc : Alloc} {line : Line} {prompt : CString}
    (hread : ∀ d, jsonObject (stringifyDictionary d) = some d)
    (h : sofiaStep env jsonObject s (alloc, .line line.text prompt) = some s') :
    s'.ssc.sent.length ≤ (lineInvites line).toNat := by
  obtain ⟨hfresh, ⟨-, hssc⟩ | ⟨c, hcalls, hcall⟩⟩ := sofiaStep_line h
  · rw [hssc]
    exact Nat.zero_le _
  · have hsent := sent_sscCall env alloc hcall
    rw [hsent]
    cases line with
    | credentials password =>
      obtain ⟨data, hauth⟩ := calls_credentials jsonObject s.cli password
      -- Credentials are answered to the registrar, and the App hears nothing.
      cases hcalls.symm.trans hauth
      exact Nat.zero_le _
    | command command =>
      rw [Line.text, calls_text hread] at hcalls
      -- Only a call may fail at once, with one reply.
      cases command <;> cases hcalls <;> try exact Nat.zero_le _
      simp only [callReplies]
      split
      · exact Nat.zero_le _
      · exact Nat.le_refl _

/-! ### Lines on replies -/

/-- The App has written `n` lines at most, and no `i`. -/
structure Answered (n : Nat) (app : App) : Prop where
  length : app.written.length ≤ n
  noInvite : app.written.countP lineInvites = 0

namespace Answered

variable {n : Nat} {app app' : App}

/-- Only what was written matters. -/
theorem of_eq (h : Answered n app) (hwritten : app'.written = app.written) : Answered n app' :=
  ⟨hwritten ▸ h.length, hwritten ▸ h.noInvite⟩

/-- Fewer lines are at most as many. -/
theorem mono {n' : Nat} (h : Answered n app) (hle : n ≤ n') : Answered n' app :=
  ⟨Nat.le_trans h.length hle, h.noInvite⟩

/-- One more line, which is no `i`. -/
theorem pipe (h : Answered n app) (source : Option Nat) {command : Command}
    (hcommand : lineInvites (.command command) = false) :
    Answered (n + 1) (app.pipe source command) := by
  have hlength := h.length
  have hinvites := h.noInvite
  simp only [App.written, List.length_append, List.length_map, List.countP_append]
    at hlength hinvites
  refine ⟨?_, ?_⟩
  · simp only [App.written, App.pipe, List.length_append, List.length_map, List.length_singleton]
    omega
  · simp only [App.written, App.pipe, List.map_append, List.countP_append, List.map_singleton,
      List.countP_singleton, hcommand]
    simp only [Bool.false_eq_true, if_false]
    omega

/-- A method of the delegate, if there is a delegate. -/
theorem toDelegate {n' : Nat} (h : Answered n app) (hle : n ≤ n') {method : Nat → App → App}
    (hmethod : ∀ c, Answered n' (method c app)) : Answered n' (app.toDelegate method) := by
  unfold App.toDelegate
  split
  · exact hmethod _
  · exact h.mono hle

/-! #### The methods that a reply calls -/

/-- The session is disconnected without a line. -/
theorem disconnectMedia (h : Answered n app) : Answered n (SipManager.disconnectMedia app) := by
  unfold SipManager.disconnectMedia
  split <;> exact h.of_eq rfl

/-- Hanging up writes one line at most. -/
theorem hangUp (h : Answered n app) (c : Nat) (connection : RCConnection) :
    Answered (n + 1) (RCConnection.hangUp c connection app) := by
  unfold RCConnection.hangUp
  split
  · split <;> exact h.pipe (some c) rfl
  · exact h.pipe (some c) rfl
  · split
    · exact h.mono (Nat.le_succ n)
    · exact (h.mono (Nat.le_succ n)).of_eq rfl
  · exact h.mono (Nat.le_succ n)

/-- So does disconnecting. -/
theorem disconnect (h : Answered n app) (c : Nat) :
    Answered (n + 1) (RCConnection.disconnect c app) := by
  unfold RCConnection.disconnect
  split
  · exact h.mono (Nat.le_succ n)
  · exact (h.hangUp c _).disconnectMedia.of_eq rfl

/-- An error disconnects. -/
theorem didError (h : Answered n app) (error : CallError) (c : Nat) :
    Answered (n + 1) (RCConnection.didError error c app) :=
  (h.disconnect c).of_eq rfl

/-- The end of a call writes no line. -/
theorem ended (h : Answered n app) (event : ConnectionEvent) (c : Nat) :
    Answered n (RCConnection.ended event c app) :=
  h.of_eq rfl

/-- A call that was hung up while Pending is cancelled. -/
theorem didReceiveOutgoingRinging (h : Answered n app) (c : Nat) :
    Answered (n + 1) (RCConnection.didReceiveOutgoingRinging c app) := by
  unfold RCConnection.didReceiveOutgoingRinging
  split
  · exact h.mono (Nat.le_succ n)
  · split
    · exact h.pipe (some c) rfl
    · exact (h.mono (Nat.le_succ n)).of_eq rfl

/-- A device that is not Busy has no call to hang up, so `unlisten` pipes its own command only. -/
theorem unlisten (h : Answered n app) (hbusy : app.state ≠ .busy) :
    Answered (n + 1) (RCDevice.unlisten app) := by
  have hall : RCDevice.disconnectAll app = app := if_neg hbusy
  unfold RCDevice.unlisten
  dsimp only
  rw [hall]
  split
  · have hoffline : Answered n
        ({ app with state := .offline }.notify (.didStopListening .lostConnectivity)) :=
      h.of_eq rfl
    exact hoffline.pipe none rfl
  · exact h.pipe none rfl

/-- A `BYE` in the background writes a `q`. -/
theorem didReceiveBye (h : Answered n app) (active : Bool) (c : Nat) :
    Answered (n + 1) (RCConnection.didReceiveBye active c app) := by
  -- The device is Ready or Offline by the time that the application is put away.
  have hready (app : App) (h : Answered n app) :
      Answered n (RCConnection.handleDisconnected
          (if app.state ≠ .offline then { app with state := .ready } else app)) ∧
        (RCConnection.handleDisconnected
          (if app.state ≠ .offline then { app with state := .ready } else app)).state ≠ .busy := by
    by_cases hoffline : app.state = .offline
    · simp only [hoffline, ne_eq, not_true_eq_false, if_false]
      exact ⟨h.of_eq rfl, by simp [RCConnection.handleDisconnected, hoffline]⟩
    · simp only [ne_eq, hoffline, not_false_eq_true, if_true]
      exact ⟨h.of_eq rfl, by simp [RCConnection.handleDisconnected]⟩
  have htold : Answered n ((RCConnection.setState .disconnected c app).tell c .didDisconnect) :=
    h.of_eq rfl
  obtain ⟨hanswered, hbusy⟩ := hready _ htold
  unfold RCConnection.didReceiveBye
  dsimp only
  split
  · exact hanswered.mono (Nat.le_succ n)
  · exact hanswered.unlisten hbusy

end Answered

/-- A reply is answered with one line at most, and with no `i`. -/
theorem written_of_reply {jsonObject : CString → Option NSDictionary} {app app' : App}
    {reply : SofiaReply} {active : Bool}
    (h : appStep jsonObject app (.reply reply active) = some app') : Answered 1 app' := by
  have hsilent : Answered 0 app.silent := ⟨Nat.le_refl _, rfl⟩
  have hnothing : Answered 1 app.silent := hsilent.mono (Nat.zero_le _)
  have hmedia : Answered 0 (SipManager.disconnectMedia app.silent) := hsilent.disconnectMedia
  cases replyHandled h with
  | aside _ haside =>
    cases haside with
    | nothing => exact hnothing
    -- A challenge is answered with one line of credentials.
    | replyAuth => exact ⟨Nat.le_refl _, rfl⟩
    | outgoingEstablished | incomingMsg => exact hnothing.of_eq rfl
    | signallingInitialized =>
      unfold RCDevice.didInitializedSignalling
      split
      · exact hnothing.of_eq rfl
      · exact hnothing
  | incomingCall _ hcall =>
    obtain ⟨_, -, hcall⟩ := Option.bind_eq_some_iff.mp hcall
    cases hcall
    exact hnothing.of_eq rfl
  | outgoingRinging => exact hsilent.toDelegate (Nat.zero_le _) hsilent.didReceiveOutgoingRinging
  -- A call that ends may go offline and hang up, with one line.
  | incomingCancelled => exact hnothing.toDelegate (Nat.le_refl _) (hnothing.ended .didCancel)
  | outgoingCancelled | outgoingDeclined =>
    have hmedia := hmedia.mono (Nat.zero_le 1)
    exact hmedia.toDelegate (Nat.le_refl _) (hmedia.ended _)
  | bye => exact hmedia.toDelegate (Nat.zero_le _) (hmedia.didReceiveBye active)
  -- A failed call releases the media, which writes nothing.
  | callError => exact hmedia.toDelegate (Nat.zero_le _) (hmedia.didError _)
  | registerSuccess =>
    unfold RCDevice.didRegisterSuccessfully
    split
    · exact hnothing.of_eq rfl
    · exact hnothing
  | registerError => exact hnothing.of_eq rfl

/-! ### What is left to do -/

/-- What can come to be handled before both queues are empty, if nothing else happens. An `i` may
have to be refused, and a reply may be answered. -/
def backlog (q : Queued) : Nat :=
  q.lines.length + 2 * q.lines.countP lineInvites + 2 * q.replies.length

section Queues
variable {env : SscEnv} {jsonObject : CString → Option NSDictionary} {q q' : Queued}

/-- The backlog counts a line three times at most, and a reply twice. -/
theorem backlog_le (q : Queued) : backlog q ≤ 3 * q.lines.length + 2 * q.replies.length := by
  have hinvites := List.countP_le_length (p := lineInvites) (l := q.lines)
  unfold backlog
  omega

/-- Whatever is handled, less is left than before. -/
theorem backlog_of_handled (hread : ∀ d, jsonObject (stringifyDictionary d) = some d)
    {input : QueuedInput} (hinput : handlesNext input = true)
    (hstep : queuedStep env jsonObject q input = some q') : backlog q' < backlog q := by
  cases input with
  | handle turn =>
    simp only [queuedStep] at hstep
    split at hstep
    · cases hstep
    · rename_i line lines hlines
      obtain ⟨t, ht, hstep⟩ := Option.bind_eq_some_iff.mp hstep
      cases hstep
      obtain ⟨sofia, hturn, hssc, -⟩ := sofiaTurn_cases ht
      -- A line costs what it may send, and it leaves the queue.
      have hsent := sent_of_line hread hturn
      simp only [backlog, hlines, hssc, List.length_cons, List.countP_cons, List.length_append]
      cases hline : lineInvites line <;> rw [hline] at hsent <;>
        simp only [Bool.toNat_false, Bool.toNat_true, Bool.false_eq_true, if_false, if_true]
          at hsent ⊢ <;> omega
  | dispatch active =>
    simp only [queuedStep] at hstep
    split at hstep
    · cases hstep
    · rename_i reply replies hreplies
      obtain ⟨t, ht, hstep⟩ := Option.bind_eq_some_iff.mp hstep
      cases hstep
      -- A reply is answered with one line at most, which sets up no call.
      obtain ⟨hlength, hinvites⟩ := written_of_reply (appTurn_cases ht).1
      simp only [backlog, hreplies, List.length_cons, List.countP_append, List.length_append,
        hinvites]
      omega
  | _ => cases hinput

/-- A run in which nothing else happens takes from the backlog what it handles. -/
theorem backlog_of_run (hread : ∀ d, jsonObject (stringifyDictionary d) = some d)
    {js : List QueuedInput} (hjs : ∀ j ∈ js, handlesNext j = true)
    (hrun : run (queuedStep env jsonObject) q js = some q') :
    js.length + backlog q' ≤ backlog q := by
  obtain ⟨m, rfl, hle⟩ := length_le_of_spends (fun q n => backlog q = n)
    (fun q n j q' hn hstep hj => ⟨_, hn ▸ backlog_of_handled hread hj hstep, rfl⟩) rfl
    (AllSteps.of_inputs hjs q) hrun
  exact hle

end Queues

/-! ### Reads -/

/-- A pipe is read. -/
def readsPipe : WiredInput → Bool
  | .readLines .. | .readReplies .. => true
  | _ => false

/-- Every frame ends with the one `$` it has. -/
theorem count_joinFrames {frames : List CString} (hdollar : ∀ x ∈ frames, '$' ∉ x) :
    (joinFrames '$' frames).count '$' = frames.length := by
  induction frames with
  | nil => rfl
  | cons x xs ih =>
    obtain ⟨hx, hxs⟩ := List.forall_mem_cons.mp hdollar
    simp [ih hxs, List.count_eq_zero_of_not_mem hx]

section Pipes
variable {env : SscEnv} {jsonObject : CString → Option NSDictionary}

/-- The bytes in the pipes are those of queues with so much left to do. -/
def Left (s : Wired) (n : Nat) : Prop := ∃ q, (Carries s q ∧ Fifo q) ∧ backlog q = n

/-- A read takes something from what is left. -/
theorem left_of_read (hread : ∀ d, jsonObject (stringifyDictionary d) = some d) {s s' : Wired}
    {n : Nat} {input : WiredInput} (h : Left s n) (hinput : readsPipe input = true)
    (hclean : CleanStep s input s') (hstep : wiredStep env jsonObject s input = some s') :
    ∃ m < n, Left s' m := by
  obtain ⟨q, ⟨hcarries, hfifo⟩, rfl⟩ := h
  obtain ⟨hfree, hends⟩ := hclean
  have hqueues := dollarFree_queues hfifo (hcarries.threads ▸ hfree)
  -- One read is one or more steps of the queued machine.
  have hhandled : ∃ js q', js ≠ [] ∧ (∀ j ∈ js, handlesNext j = true) ∧
      run (queuedStep env jsonObject) q js = some q' ∧ Carries s' q' := by
    cases input with
    | readLines n turns => exact simulates_readLines hcarries hqueues.1 hends hstep
    | readReplies n active => exact simulates_readReplies hcarries hqueues.2 hends hstep
    | _ => cases hinput
  obtain ⟨js, q', hsome, hjs, hrun, hcarries'⟩ := hhandled
  have hfifo' : Fifo q' := (Reachable.of_run hrun).induction Fifo hfifo
    fun _ _ _ hfifo hstep => fifo_queuedStep hfifo hstep
  -- Each of them lowers the backlog.
  have hle := backlog_of_run hread hjs hrun
  have hpos := List.length_pos_iff.mpr hsome
  exact ⟨backlog q', by omega, q', ⟨hcarries', hfifo'⟩, rfl⟩

/-- From any state of such a run on, nothing but the pipes can keep the threads busy for a while
only: there are no more reads than three for every line that waits, and two for every reply. -/
theorem reads_of_run {alloc : Alloc} {app : App} {cli : Cli} {is reads : List WiredInput}
    {s s' : Wired} (hread : ∀ d, jsonObject (stringifyDictionary d) = some d)
    (hclean : AllSteps (wiredStep env jsonObject) CleanStep (Wired.start env alloc app cli) is)
    (hrun : run (wiredStep env jsonObject) (Wired.start env alloc app cli) is = some s)
    (hreads : ∀ input ∈ reads, readsPipe input = true)
    (hends : AllSteps (wiredStep env jsonObject) CleanStep s reads)
    (hrest : run (wiredStep env jsonObject) s reads = some s') :
    reads.length ≤ 3 * s.toSofia.count '$' + 2 * s.toApp.count '$' := by
  obtain ⟨js, q, -, hcarries, hfifo⟩ := (wired_simulates env jsonObject).runs
    ⟨carries_start alloc app cli, fifo_start alloc app cli⟩ hclean hrun
  cases reads with
  | nil => exact Nat.zero_le _
  | cons first rest =>
    -- A read is made, so no text that is in the pipes holds a `$`.
    obtain ⟨s₁, hfirst, -⟩ := Option.bind_eq_some_iff.mp hrest
    obtain ⟨⟨hfree, -⟩, -⟩ := hends s₁ hfirst
    have hqueues := dollarFree_queues hfifo (hcarries.threads ▸ hfree)
    obtain ⟨m, -, hle⟩ := length_le_of_spends Left
      (fun _ _ _ _ hleft hstep hP => left_of_read hread hleft hP.2 hP.1 hstep)
      ⟨q, ⟨hcarries, hfifo⟩, rfl⟩ (hends.and_inputs hreads) hrest
    have hlines : s.toSofia.count '$' = q.lines.length := by
      rw [hcarries.toSofia, count_joinFrames (List.forall_mem_map.mpr hqueues.1), List.length_map]
    have hreplies : s.toApp.count '$' = q.replies.length := by
      rw [hcarries.toApp, sentBytes_eq_joinFrames, count_joinFrames, List.length_map]
      exact List.forall_mem_map.mpr fun reply hreply =>
        (dollar_mem_frame reply).not.mpr (hqueues.2 reply hreply)
    have hbacklog := backlog_le q
    omega

end Pipes

/-- An environment in which no address makes sense. -/
def strictEnv : SscEnv := { plainEnv with validAddress := fun _ => false }

/-- What is read when the call of `askedCall` is refused there: the reply that the SIP client is
there, the `i`, and the reply to it. -/
def refusedCall : List WiredInput :=
  [.readReplies 4 fun _ => true, .readLines 53 fun _ => (⟨2, 2⟩, []), .readReplies 31 fun _ => true]

/-- A call that is refused: three reads empty the pipes. -/
theorem reads_of_run_refusedCall :
    ∃ s s', run (wiredStep strictEnv Json.read) (Wired.start strictEnv ⟨1, 1⟩ readyApp {})
        (askedCall.map .app) = some s ∧
      run (wiredStep strictEnv Json.read) s refusedCall = some s' ∧
      s'.toSofia = [] ∧ s'.toApp = [] ∧
      refusedCall.length ≤ 3 * s.toSofia.count '$' + 2 * s.toApp.count '$' := by
  have hsome : (run (wiredStep strictEnv Json.read) (Wired.start strictEnv ⟨1, 1⟩ readyApp {})
      (askedCall.map .app)).isSome = true := by
    decide +kernel
  obtain ⟨s, hrun⟩ := Option.isSome_iff_exists.mp hsome
  have hends : ((run (wiredStep strictEnv Json.read) (Wired.start strictEnv ⟨1, 1⟩ readyApp {})
      (askedCall.map .app)).map fun s =>
        decide (AllSteps (wiredStep strictEnv Json.read) CleanStep s refusedCall)) = some true := by
    decide +kernel
  -- The call goes out, is refused by the stack, and both pipes are drained.
  have hread : ((run (wiredStep strictEnv Json.read) (Wired.start strictEnv ⟨1, 1⟩ readyApp {})
      (askedCall.map .app ++ refusedCall)).map fun s' => (s'.toSofia, s'.toApp)) =
        some ([], []) := by
    decide +kernel
  rw [hrun, Option.map_some, Option.some.injEq, decide_eq_true_eq] at hends
  rw [run_append, hrun, Option.bind_some] at hread
  obtain ⟨s', hrest, hempty⟩ := Option.map_eq_some_iff.mp hread
  obtain ⟨hlines, hreplies⟩ := Prod.mk.inj hempty
  exact ⟨s, s', hrun, hrest, hlines, hreplies,
    reads_of_run Json.read_write (by decide +kernel) hrun (by decide) hends hrest⟩

end RestCommSdk.Proofs
