import RestCommSdk.Lib.Simulation
import RestCommSdk.Proofs.CommandDelivery
import RestCommSdk.Proofs.ReplyPipe
import RestCommSdk.Proofs.SscReplies
import RestCommSdk.RestCommClient.TwoThreads

/-!
# `RestCommSdk.Proofs.QueuedPipes`: the pipes are queues

Both pipes carry texts that end in a `$`, and a read may take any number of bytes. As long as no
text holds a `$` and every read ends with one (`CleanStep`), the bytes in the pipes are those of
queues: `wired_simulates` shows that the system with pipes does what the system with queues can
do, whatever the threads do in between. Nothing else that happens is different. The other way
round, `queued_simulates` shows that the pipes can do what the queues do, when every line and reply
fits a read.

`pipes_of_run` draws the first conclusion. In such runs the handler of the commands is called with
the lines that were written, and `handleSofiaInput` with the replies that were sent, all of them
in their order and nothing else, up to those that are still in the pipe.
-/

set_option autoImplicit false

namespace RestCommSdk.Proofs

open RestCommSdk.Lib
open RestCommSdk.CliInterface
open RestCommSdk.SipManager (NSDictionary pipeToSofia)

/-! ### What happened -/

/-- The lines that were written. -/
def writtenLines (history : List Occurrence) : List Line :=
  history.filterMap fun
    | .wrote line => some line
    | _ => none

/-- The lines that the handler was called with. -/
def handledLines (history : List Occurrence) : List CString :=
  history.filterMap fun
    | .handled line => some line
    | _ => none

/-- The replies that were sent. -/
def repliesSent (history : List Occurrence) : List SofiaReply :=
  history.filterMap fun
    | .replied reply => some reply
    | _ => none

/-- The replies that `handleSofiaInput` was called with. -/
def dispatchedReplies (history : List Occurrence) : List SofiaReply :=
  history.filterMap fun
    | .dispatched reply => some reply
    | _ => none

/-- No text that went into a pipe holds a `$`. -/
def DollarFree (history : List Occurrence) : Prop :=
  (∀ line ∈ writtenLines history, '$' ∉ line.text) ∧ ∀ reply ∈ repliesSent history, '$' ∉ reply.text

instance (history : List Occurrence) : Decidable (DollarFree history) :=
  inferInstanceAs (Decidable (_ ∧ _))

/-- A read ends with a `$`, and what went into the pipes before has no other. -/
def CleanStep (s : Wired) (input : WiredInput) (_s' : Wired) : Prop :=
  DollarFree s.threads.history ∧
    match input with
    | .readLines n _ => (s.toSofia.take n).getLast? = some '$'
    | .readReplies n _ => (s.toApp.take n).getLast? = some '$'
    | _ => True

instance (s : Wired) (input : WiredInput) (s' : Wired) : Decidable (CleanStep s input s') := by
  unfold CleanStep
  cases input <;> infer_instance

/-- The written lines of two histories, one after the other. -/
@[simp] theorem writtenLines_append (before after : List Occurrence) :
    writtenLines (before ++ after) = writtenLines before ++ writtenLines after :=
  List.filterMap_append

/-- The written lines of a history that begins with `o`. -/
@[simp] theorem writtenLines_cons (o : Occurrence) (history : List Occurrence) :
    writtenLines (o :: history) =
      (match o with
        | .wrote line => [line]
        | _ => []) ++ writtenLines history := by
  cases o <;> rfl

/-- The handled lines of two histories, one after the other. -/
@[simp] theorem handledLines_append (before after : List Occurrence) :
    handledLines (before ++ after) = handledLines before ++ handledLines after :=
  List.filterMap_append

/-- The handled lines of a history that begins with `o`. -/
@[simp] theorem handledLines_cons (o : Occurrence) (history : List Occurrence) :
    handledLines (o :: history) =
      (match o with
        | .handled line => [line]
        | _ => []) ++ handledLines history := by
  cases o <;> rfl

/-- The replies sent in two histories, one after the other. -/
@[simp] theorem repliesSent_append (before after : List Occurrence) :
    repliesSent (before ++ after) = repliesSent before ++ repliesSent after :=
  List.filterMap_append

/-- The replies sent in a history that begins with `o`. -/
@[simp] theorem repliesSent_cons (o : Occurrence) (history : List Occurrence) :
    repliesSent (o :: history) =
      (match o with
        | .replied reply => [reply]
        | _ => []) ++ repliesSent history := by
  cases o <;> rfl

/-- The replies dispatched in two histories, one after the other. -/
@[simp] theorem dispatchedReplies_append (before after : List Occurrence) :
    dispatchedReplies (before ++ after) = dispatchedReplies before ++ dispatchedReplies after :=
  List.filterMap_append

/-- The replies dispatched in a history that begins with `o`. -/
@[simp] theorem dispatchedReplies_cons (o : Occurrence) (history : List Occurrence) :
    dispatchedReplies (o :: history) =
      (match o with
        | .dispatched reply => [reply]
        | _ => []) ++ dispatchedReplies history := by
  cases o <;> rfl

/-- A step of the App writes, and Sofia takes no part in it. -/
@[simp] theorem writtenLines_app (app : App) : writtenLines app.occurrences = app.written := by
  simp [writtenLines, App.occurrences]

/-- The App handles no line. -/
@[simp] theorem handledLines_app (app : App) : handledLines app.occurrences = [] := by
  simp [handledLines, App.occurrences]

/-- The App sends no reply. -/
@[simp] theorem repliesSent_app (app : App) : repliesSent app.occurrences = [] := by
  simp [repliesSent, App.occurrences]

/-- What the App has done is no reply that it was given. -/
@[simp] theorem dispatchedReplies_app (app : App) : dispatchedReplies app.occurrences = [] := by
  simp [dispatchedReplies, App.occurrences]

/-- A turn of the Sofia thread sends, and the App takes no part in it. -/
@[simp] theorem writtenLines_sofia (sofia : SofiaThread) :
    writtenLines sofia.occurrences = [] := by
  simp [writtenLines, SofiaThread.occurrences]

/-- What the Sofia thread has done is no line that it was given. -/
@[simp] theorem handledLines_sofia (sofia : SofiaThread) :
    handledLines sofia.occurrences = [] := by
  simp [handledLines, SofiaThread.occurrences]

/-- The Sofia thread sends what is in `sent`. -/
@[simp] theorem repliesSent_sofia (sofia : SofiaThread) :
    repliesSent sofia.occurrences = sofia.ssc.sent := by
  simp [repliesSent, SofiaThread.occurrences]

/-- The Sofia thread dispatches no reply. -/
@[simp] theorem dispatchedReplies_sofia (sofia : SofiaThread) :
    dispatchedReplies sofia.occurrences = [] := by
  simp [dispatchedReplies, SofiaThread.occurrences]

/-! ### Turns -/

section Turns
variable {env : SscEnv} {jsonObject : CString → Option NSDictionary} {t t' : Threads}
  {what : Occurrence}

/-- A turn of the App adds its occasion and what the App has done. -/
theorem appTurn_history {input : AppInput} (h : t.appTurn jsonObject what input = some t') :
    t'.history = t.history ++ what :: t'.app.occurrences := by
  obtain ⟨app, -, h⟩ := Option.bind_eq_some_iff.mp h
  cases h
  rfl

/-- A turn of the Sofia thread adds its occasion and what the thread has done. -/
theorem sofiaTurn_history {input : Alloc × SofiaInput}
    (h : t.sofiaTurn env jsonObject what input = some t') :
    t'.history = t.history ++ what :: t'.sofia.occurrences := by
  unfold Threads.sofiaTurn at h
  split at h
  · cases h
  · obtain ⟨sofia, -, h⟩ := Option.bind_eq_some_iff.mp h
    cases h
    rfl

/-- A new pass adds what the thread has done. -/
theorem nextPass_history {alloc : Alloc} (h : t.nextPass env alloc = some t') :
    t'.history = t.history ++ t'.sofia.occurrences := by
  unfold Threads.nextPass at h
  split at h <;> cases h
  rfl

end Turns

/-! ### Queues -/

/-- What was written and not handled is in the queue of lines, and what was sent and not
dispatched in that of the replies. -/
structure Fifo (q : Queued) : Prop where
  lines : ∃ done, writtenLines q.threads.history = done ++ q.lines ∧
    handledLines q.threads.history = done.map Line.text
  replies : repliesSent q.threads.history = dispatchedReplies q.threads.history ++ q.replies

section Queues
variable {env : SscEnv} {jsonObject : CString → Option NSDictionary}

/-- At the start the queues hold what has been written and sent. -/
theorem fifo_start (alloc : Alloc) (app : App) (cli : Cli) :
    Fifo (Queued.start env alloc app cli) := by
  constructor <;> simp [Queued.start, Threads.start]

/-- Every step keeps it. -/
theorem fifo_queuedStep {q q' : Queued} {input : QueuedInput} (h : Fifo q)
    (hstep : queuedStep env jsonObject q input = some q') : Fifo q' := by
  obtain ⟨⟨done, hlines, hhandled⟩, hreplies⟩ := h
  cases input with
  | app input =>
    simp only [queuedStep] at hstep
    split at hstep
    · obtain ⟨t, ht, hstep⟩ := Option.bind_eq_some_iff.mp hstep
      cases hstep
      constructor
      · -- What is written joins the end of the queue.
        exact ⟨done, by simp [appTurn_history ht, hlines], by simp [appTurn_history ht, hhandled]⟩
      · simp [appTurn_history ht, hreplies]
    · cases hstep
  | handle turn =>
    simp only [queuedStep] at hstep
    split at hstep
    · cases hstep
    · rename_i line lines hqueue
      obtain ⟨t, ht, hstep⟩ := Option.bind_eq_some_iff.mp hstep
      cases hstep
      -- The line in front joins the handled ones.
      rw [hqueue] at hlines
      constructor
      · exact ⟨done ++ [line], by simp [sofiaTurn_history ht, hlines],
          by simp [sofiaTurn_history ht, hhandled]⟩
      · simp [sofiaTurn_history ht, hreplies]
  | stack alloc nh e =>
    obtain ⟨t, ht, hstep⟩ := Option.bind_eq_some_iff.mp hstep
    cases hstep
    -- The replies to an event are queued behind those that wait.
    constructor
    · exact ⟨done, by simp [sofiaTurn_history ht, hlines], by simp [sofiaTurn_history ht, hhandled]⟩
    · simp [sofiaTurn_history ht, hreplies]
  | nextPass alloc =>
    obtain ⟨t, ht, hstep⟩ := Option.bind_eq_some_iff.mp hstep
    cases hstep
    constructor
    · exact ⟨done, by simp [nextPass_history ht, hlines], by simp [nextPass_history ht, hhandled]⟩
    · simp [nextPass_history ht, hreplies]
  | dispatch active =>
    simp only [queuedStep] at hstep
    split at hstep
    · cases hstep
    · rename_i reply replies hqueue
      obtain ⟨t, ht, hstep⟩ := Option.bind_eq_some_iff.mp hstep
      cases hstep
      -- The reply in front joins the dispatched ones.
      rw [hqueue] at hreplies
      constructor
      · exact ⟨done, by simp [appTurn_history ht, hlines], by simp [appTurn_history ht, hhandled]⟩
      · simp [appTurn_history ht, hreplies]

end Queues

/-! ### Bytes -/

/-- No line is empty. -/
theorem lineText_ne_nil (line : Line) : line.text ≠ [] := by
  cases line with
  | command c =>
    have hword := (word_visible c).2
    simp only [Line.text, SipManager.Command.text]
    split <;> simp [hword]
  | credentials password => simp [Line.text]

/-- The bytes of lines are frames that end with a `$`. -/
theorem lineBytes_eq_joinFrames (lines : List Line) :
    lineBytes lines = joinFrames '$' (lines.map Line.text) := by
  simp [lineBytes, joinFrames, pipeToSofia, List.flatMap_map]

/-- A read of whole lines hands them over as they are. -/
theorem sscInputReadChar_joinFrames {lines : List CString} (hsome : lines ≠ [])
    (hne : ∀ line ∈ lines, line ≠ []) (hdollar : ∀ line ∈ lines, '$' ∉ line) :
    sscInputReadChar (joinFrames '$' lines) = some lines := by
  obtain ⟨line, rest, rfl⟩ := List.exists_cons_of_ne_nil hsome
  have hhead : (joinFrames '$' (line :: rest)).head? ≠ some '$' := by
    obtain ⟨c, cs, rfl⟩ := List.exists_cons_of_ne_nil (hne line List.mem_cons_self)
    have hc : '$' ∉ c :: cs := hdollar _ List.mem_cons_self
    simp only [joinFrames_cons, List.cons_append, List.head?_cons, ne_eq, Option.some.injEq]
    exact fun heq => hc (heq ▸ List.mem_cons_self)
  have hpieces : headPieces '$' (joinFrames '$' (line :: rest)) = line :: rest := by
    rw [headPieces_eq_pieces (not_infix_joinFrames hdollar hne) hhead,
      pieces_joinFrames hdollar hne]
  have hmem : '$' ∈ joinFrames '$' (line :: rest) := by simp
  rw [sscInputReadChar, if_pos hmem]
  exact congrArg some hpieces

/-- A read that ends with a delimiter takes whole frames. -/
theorem split_read {frames : List CString} (hdollar : ∀ x ∈ frames, '$' ∉ x) {n : Nat}
    (hlast : ((joinFrames '$' frames).take n).getLast? = some '$') :
    ∃ xs ys, frames = xs ++ ys ∧ xs ≠ [] ∧ (joinFrames '$' frames).take n = joinFrames '$' xs ∧
      (joinFrames '$' frames).drop n = joinFrames '$' ys := by
  obtain ⟨xs, ys, hframes, htake, hdrop⟩ :=
    joinFrames_split hdollar (List.take_append_drop n (joinFrames '$' frames)) (.inr hlast)
  refine ⟨xs, ys, hframes, ?_, htake, hdrop⟩
  rintro rfl
  rw [htake] at hlast
  cases hlast

/-! ### The simulation -/

/-- The bytes in the pipes are those of the queues. -/
structure Carries (s : Wired) (q : Queued) : Prop where
  threads : s.threads = q.threads
  toSofia : s.toSofia = joinFrames '$' (q.lines.map Line.text)
  toApp : s.toApp = sentBytes q.replies

/-- A line or a reply is handled that was in a queue. -/
def handlesNext : QueuedInput → Bool
  | .handle _ | .dispatch _ => true
  | _ => false

section Simulation
variable {env : SscEnv} {jsonObject : CString → Option NSDictionary}

/-- The lines of a read are handled one at a time. -/
theorem run_handleAll (later : List Line) (sent : List SofiaReply) {t t' : Threads}
    {turns : Nat → Alloc × CString} {lines : List Line} {replies : List SofiaReply}
    (h : t.handleAll env jsonObject turns (lines.map Line.text) = some (t', replies)) :
    ∃ js, js.length = lines.length ∧ (∀ j ∈ js, handlesNext j = true) ∧
      run (queuedStep env jsonObject) { threads := t, lines := lines ++ later, replies := sent } js
        = some { threads := t', lines := later, replies := sent ++ replies } := by
  induction lines generalizing t turns replies sent with
  | nil =>
    cases h
    exact ⟨[], rfl, by simp, by simp [run]⟩
  | cons line lines ih =>
    obtain ⟨t₁, ht₁, h⟩ := Option.bind_eq_some_iff.mp h
    obtain ⟨rest, hrest, h⟩ := Option.bind_eq_some_iff.mp h
    cases h
    obtain ⟨js, hlength, hall, hjs⟩ := ih (sent ++ t₁.sofia.ssc.sent) hrest
    refine ⟨.handle (turns 0) :: js, congrArg (· + 1) hlength,
      List.forall_mem_cons.mpr ⟨rfl, hall⟩, ?_⟩
    simp [run, queuedStep, ht₁, hjs]

/-- The replies of a read are handled one at a time. -/
theorem run_dispatchAll (later : List SofiaReply) (waiting : List Line) {t t' : Threads}
    {active : Nat → Bool} {replies : List SofiaReply} {lines : List Line}
    (h : t.dispatchAll jsonObject active replies = some (t', lines)) :
    ∃ js, js.length = replies.length ∧ (∀ j ∈ js, handlesNext j = true) ∧
      run (queuedStep env jsonObject)
          { threads := t, lines := waiting, replies := replies ++ later } js
        = some { threads := t', lines := waiting ++ lines, replies := later } := by
  induction replies generalizing t active lines waiting with
  | nil =>
    cases h
    exact ⟨[], rfl, by simp, by simp [run]⟩
  | cons reply replies ih =>
    obtain ⟨t₁, ht₁, h⟩ := Option.bind_eq_some_iff.mp h
    obtain ⟨rest, hrest, h⟩ := Option.bind_eq_some_iff.mp h
    cases h
    obtain ⟨js, hlength, hall, hjs⟩ := ih (waiting ++ t₁.app.written) hrest
    refine ⟨.dispatch (active 0) :: js, congrArg (· + 1) hlength,
      List.forall_mem_cons.mpr ⟨rfl, hall⟩, ?_⟩
    simp [run, queuedStep, ht₁, hjs]

/-- What is in the queues went into the pipes. -/
theorem dollarFree_queues {q : Queued} (hfifo : Fifo q) (hfree : DollarFree q.threads.history) :
    (∀ line ∈ q.lines, '$' ∉ line.text) ∧ ∀ reply ∈ q.replies, '$' ∉ reply.text := by
  obtain ⟨⟨done, hlines, -⟩, hreplies⟩ := hfifo
  refine ⟨fun line hline => hfree.1 line ?_, fun reply hreply => hfree.2 reply ?_⟩
  · rw [hlines]
    exact List.mem_append_right done hline
  · rw [hreplies]
    exact List.mem_append_right _ hreply

/-- What the App has written is behind what is in the pipe, and in the queue. -/
theorem carries_app {s : Wired} {q : Queued} (h : Carries s q) (t : Threads) (lines : List Line) :
    Carries { s with threads := t, toSofia := s.toSofia ++ lineBytes lines }
      { q with threads := t, lines := q.lines ++ lines } := by
  refine ⟨rfl, ?_, h.toApp⟩
  simp only [h.toSofia, lineBytes_eq_joinFrames]
  simp [joinFrames]

/-- What the Sofia thread has sent is behind what is in the pipe, and in the queue. -/
theorem carries_sofia {s : Wired} {q : Queued} (h : Carries s q) (t : Threads)
    (replies : List SofiaReply) :
    Carries { s with threads := t, toApp := s.toApp ++ replies.flatMap SofiaReply.serialize }
      { q with threads := t, replies := q.replies ++ replies } := by
  refine ⟨rfl, h.toSofia, ?_⟩
  simp [h.toApp, sentBytes]

/-- A read of lines, as turns of the queue of lines. -/
theorem simulates_readLines {s s' : Wired} {q : Queued} (h : Carries s q)
    (hdollar : ∀ line ∈ q.lines, '$' ∉ line.text) {n : Nat} {turns : Nat → Alloc × CString}
    (hread : (s.toSofia.take n).getLast? = some '$')
    (hstep : wiredStep env jsonObject s (.readLines n turns) = some s') :
    ∃ js q', js ≠ [] ∧ (∀ j ∈ js, handlesNext j = true) ∧
      run (queuedStep env jsonObject) q js = some q' ∧ Carries s' q' := by
  simp only [wiredStep] at hstep
  split at hstep
  · obtain ⟨texts, htexts, hstep⟩ := Option.bind_eq_some_iff.mp hstep
    obtain ⟨⟨t, replies⟩, ht, hstep⟩ := Option.bind_eq_some_iff.mp hstep
    cases hstep
    -- A read that ends with a `$` takes whole lines from the front of the queue.
    rw [h.toSofia] at hread htexts
    obtain ⟨xs, ys, hframes, hsome, htake, hdrop⟩ :=
      split_read (List.forall_mem_map.mpr hdollar) hread
    obtain ⟨lines, later, hlines, rfl, rfl⟩ := List.map_eq_append_iff.mp hframes
    -- The bytes read split into exactly these lines.
    have hchar := sscInputReadChar_joinFrames hsome
      (List.forall_mem_map.mpr fun line _ => lineText_ne_nil line)
      (List.forall_mem_map.mpr fun line hline =>
        hdollar line (hlines ▸ List.mem_append_left later hline))
    rw [htake, hchar, Option.some.injEq] at htexts
    rw [h.threads, ← htexts] at ht
    -- Handling them one by one is as many steps of the queued machine.
    obtain ⟨js, hlength, hall, hjs⟩ := run_handleAll later q.replies ht
    rw [← hlines] at hjs
    refine ⟨js, { threads := t, lines := later, replies := q.replies ++ replies }, ?_, hall, hjs,
      rfl, ?_, ?_⟩
    · rw [← List.length_pos_iff, hlength, List.length_pos_iff]
      simpa using hsome
    · exact (congrArg (List.drop n) h.toSofia).trans hdrop
    · simp [h.toApp, sentBytes]
  · cases hstep

/-- A read of replies, as steps of the queue of replies. -/
theorem simulates_readReplies {s s' : Wired} {q : Queued} (h : Carries s q)
    (hdollar : ∀ reply ∈ q.replies, '$' ∉ reply.text) {n : Nat} {active : Nat → Bool}
    (hread : (s.toApp.take n).getLast? = some '$')
    (hstep : wiredStep env jsonObject s (.readReplies n active) = some s') :
    ∃ js q', js ≠ [] ∧ (∀ j ∈ js, handlesNext j = true) ∧
      run (queuedStep env jsonObject) q js = some q' ∧ Carries s' q' := by
  simp only [wiredStep] at hstep
  split at hstep
  · obtain ⟨⟨t, lines⟩, ht, hstep⟩ := Option.bind_eq_some_iff.mp hstep
    cases hstep
    -- The bytes in the pipe are the frames of the waiting replies.
    have hbytes : s.toApp = joinFrames '$' (q.replies.map frame) := by
      rw [h.toApp, sentBytes_eq_joinFrames]
    rw [hbytes] at hread ht
    obtain ⟨xs, ys, hframes, hsome, htake, hdrop⟩ :=
      split_read (List.forall_mem_map.mpr fun reply hreply => by
        rw [dollar_mem_frame]
        exact hdollar reply hreply) hread
    -- A read that ends with a `$` takes whole frames, and decodes to their replies.
    obtain ⟨replies, later, hreplies, rfl, rfl⟩ := List.map_eq_append_iff.mp hframes
    have hcallback : inputCallback (joinFrames '$' (replies.map frame)) = replies := by
      rw [← sentBytes_eq_joinFrames]
      refine inputLoop_sentBytes replies {} (by simpa using hsome) fun reply hreply => ?_
      exact hdollar reply (hreplies ▸ List.mem_append_left later hreply)
    rw [htake, hcallback, h.threads] at ht
    -- Dispatching them one by one is as many steps of the queued machine.
    obtain ⟨js, hlength, hall, hjs⟩ := run_dispatchAll later q.lines ht
    rw [← hreplies] at hjs
    refine ⟨js, { threads := t, lines := q.lines ++ lines, replies := later }, ?_, hall, hjs, rfl,
      ?_, ?_⟩
    · rw [← List.length_pos_iff, hlength, List.length_pos_iff]
      simpa using hsome
    · simp [h.toSofia, lineBytes_eq_joinFrames, joinFrames]
    · rw [sentBytes_eq_joinFrames, ← hdrop]
      exact congrArg (List.drop n) hbytes
  · cases hstep

/-- A clean step of the system with pipes is made of steps of the system with queues. -/
theorem wired_simulates (env : SscEnv) (jsonObject : CString → Option NSDictionary) :
    Simulates (wiredStep env jsonObject) (queuedStep env jsonObject) CleanStep
      fun s q => Carries s q ∧ Fifo q := by
  rintro s q input s' ⟨h, hfifo⟩ hstep ⟨hfree, hread⟩
  have hqueues := dollarFree_queues hfifo (h.threads ▸ hfree)
  -- One step or several, the queues stay queues.
  suffices hrun : ∃ js q', run (queuedStep env jsonObject) q js = some q' ∧ Carries s' q' by
    obtain ⟨js, q', hjs, hcarries⟩ := hrun
    exact ⟨js, q', hjs, hcarries,
      (Reachable.of_run hjs).induction Fifo hfifo fun _ _ _ hfifo hstep =>
        fifo_queuedStep hfifo hstep⟩
  have hone (input : QueuedInput) {q' : Queued}
      (hq : queuedStep env jsonObject q input = some q') (hcarries : Carries s' q') :
      ∃ js q', run (queuedStep env jsonObject) q js = some q' ∧ Carries s' q' :=
    ⟨[input], q', by simp [run, hq], hcarries⟩
  cases input with
  | app input =>
    simp only [wiredStep] at hstep
    split at hstep
    · rename_i hlocal
      obtain ⟨t, ht, hstep⟩ := Option.bind_eq_some_iff.mp hstep
      cases hstep
      rw [h.threads] at ht
      exact hone (.app input) (by simp [queuedStep, hlocal, ht])
        (carries_app h t t.app.written)
    · cases hstep
  | readLines n turns =>
    obtain ⟨js, q', -, -, hjs⟩ := simulates_readLines h hqueues.1 hread hstep
    exact ⟨js, q', hjs⟩
  | stack alloc nh e =>
    obtain ⟨t, ht, hstep⟩ := Option.bind_eq_some_iff.mp hstep
    cases hstep
    rw [h.threads] at ht
    exact hone (.stack alloc nh e) (by simp [queuedStep, ht])
      (carries_sofia h t t.sofia.ssc.sent)
  | nextPass alloc =>
    obtain ⟨t, ht, hstep⟩ := Option.bind_eq_some_iff.mp hstep
    cases hstep
    rw [h.threads] at ht
    exact hone (.nextPass alloc) (by simp [queuedStep, ht])
      (carries_sofia h t t.sofia.ssc.sent)
  | readReplies n active =>
    obtain ⟨js, q', -, -, hjs⟩ := simulates_readReplies h hqueues.2 hread hstep
    exact ⟨js, q', hjs⟩

/-! ### The other way -/

/-- What is handled next fits the buffer of a read, and no text that was written holds a `$`. -/
def FitsRead (q : Queued) (input : QueuedInput) (_q' : Queued) : Prop :=
  DollarFree q.threads.history ∧
    match input with
    | .handle _ => ∀ line ∈ q.lines.head?, line.text.length < 65534
    | .dispatch _ => ∀ reply ∈ q.replies.head?, reply.serialize.length ≤ 65536
    | _ => True

instance (q : Queued) (input : QueuedInput) (q' : Queued) : Decidable (FitsRead q input q') := by
  unfold FitsRead
  cases input <;> infer_instance

/-- The first line is read alone. -/
theorem simulates_handle {s : Wired} {q : Queued} (h : Carries s q) {line : Line}
    {lines : List Line} (hlines : q.lines = line :: lines) (hdollar : '$' ∉ line.text)
    (hfits : line.text.length < 65534) {turn : Alloc × CString} {t : Threads}
    (ht : q.threads.handle env jsonObject turn line.text = some t) :
    ∃ s', wiredStep env jsonObject s (.readLines (line.text.length + 1) fun _ => turn) = some s' ∧
      Carries s' { threads := t, lines := lines, replies := q.replies ++ t.sofia.ssc.sent } := by
  -- The line in front is the first bytes of the pipe, up to and with its `$`.
  have hbytes : s.toSofia = (line.text ++ ['$']) ++ joinFrames '$' (lines.map Line.text) := by
    rw [h.toSofia, hlines]
    simp
  have hlength : (line.text ++ ['$']).length = line.text.length + 1 := List.length_append
  have htake : s.toSofia.take (line.text.length + 1) = line.text ++ ['$'] := by
    rw [hbytes, ← hlength, List.take_left]
  have hdrop : s.toSofia.drop (line.text.length + 1) = joinFrames '$' (lines.map Line.text) := by
    rw [hbytes, ← hlength, List.drop_left]
  -- Read alone, these bytes give back the line.
  have hread : sscInputReadChar (line.text ++ ['$']) = some [line.text] := by
    have hjoin := sscInputReadChar_joinFrames (List.cons_ne_nil line.text [])
      (by simpa using lineText_ne_nil line) (by simpa using hdollar)
    simpa using hjoin
  have hall : s.threads.handleAll env jsonObject (fun _ => turn) [line.text]
      = some (t, t.sofia.ssc.sent) := by
    simp [Threads.handleAll, h.threads, ht]
  have hn : 0 < line.text.length + 1 ∧ line.text.length + 1 ≤ 65534 ∧
      line.text.length + 1 ≤ s.toSofia.length := by
    rw [hbytes, List.length_append, hlength]
    omega
  refine ⟨{
    threads := t
    toSofia := joinFrames '$' (lines.map Line.text)
    toApp := s.toApp ++ t.sofia.ssc.sent.flatMap SofiaReply.serialize }, ?_, rfl, rfl, ?_⟩
  · simp [wiredStep, hn, htake, hdrop, hread, hall]
  · simp [h.toApp, sentBytes]

/-- The first reply is read alone. -/
theorem simulates_dispatch {s : Wired} {q : Queued} (h : Carries s q) {reply : SofiaReply}
    {replies : List SofiaReply} (hreplies : q.replies = reply :: replies)
    (hdollar : '$' ∉ reply.text) (hfits : reply.serialize.length ≤ 65536) {active : Bool}
    {t : Threads} (ht : q.threads.dispatch jsonObject active reply = some t) :
    ∃ s', wiredStep env jsonObject s (.readReplies reply.serialize.length fun _ => active)
        = some s' ∧
      Carries s' { threads := t, lines := q.lines ++ t.app.written, replies := replies } := by
  -- The reply in front is the first bytes of the pipe.
  have hbytes : s.toApp = reply.serialize ++ sentBytes replies := by
    rw [h.toApp, hreplies]
    simp [sentBytes]
  -- Read alone, these bytes give back the reply.
  have hread : inputCallback reply.serialize = [reply] := by
    have hloop := inputLoop_sentBytes [reply] {} (List.cons_ne_nil reply [])
      (by simpa using hdollar)
    rwa [sentBytes, List.flatMap_singleton] at hloop
  have hall : s.threads.dispatchAll jsonObject (fun _ => active) [reply]
      = some (t, t.app.written) := by
    simp [Threads.dispatchAll, h.threads, ht]
  have hn : 0 < reply.serialize.length ∧ reply.serialize.length ≤ 65536 ∧
      reply.serialize.length ≤ s.toApp.length := by
    refine ⟨?_, hfits, ?_⟩
    · rw [serialize_eq_frame, List.length_append]
      exact Nat.succ_pos _
    · rw [hbytes, List.length_append]
      exact Nat.le_add_right _ _
  refine ⟨{
    threads := t
    toSofia := s.toSofia ++ lineBytes t.app.written
    toApp := sentBytes replies }, ?_, rfl, ?_, rfl⟩
  · simp [wiredStep, hn, hbytes, hread, hall]
  · simp [h.toSofia, lineBytes_eq_joinFrames, joinFrames]

/-- A step of the system with queues is one of the system with pipes, as long as a line and a reply
fit a read. -/
theorem queued_simulates (env : SscEnv) (jsonObject : CString → Option NSDictionary) :
    Simulates (queuedStep env jsonObject) (wiredStep env jsonObject) FitsRead
      fun q s => Carries s q ∧ Fifo q := by
  rintro q s input q' ⟨h, hfifo⟩ hstep ⟨hfree, hfits⟩
  have hqueues := dollarFree_queues hfifo hfree
  -- Each step of the queued machine is one step of the wired one.
  suffices hone : ∃ input' s', wiredStep env jsonObject s input' = some s' ∧ Carries s' q' by
    obtain ⟨input', s', hs', hcarries⟩ := hone
    exact ⟨[input'], s', by simp [run, hs'], hcarries, fifo_queuedStep hfifo hstep⟩
  cases input with
  | app input =>
    simp only [queuedStep] at hstep
    split at hstep
    · rename_i hlocal
      obtain ⟨t, ht, hstep⟩ := Option.bind_eq_some_iff.mp hstep
      cases hstep
      exact ⟨.app input, _, by simp [wiredStep, hlocal, h.threads, ht],
        carries_app h t t.app.written⟩
    · cases hstep
  | handle turn =>
    simp only [queuedStep] at hstep
    split at hstep
    · cases hstep
    · rename_i line lines hlines
      obtain ⟨t, ht, hstep⟩ := Option.bind_eq_some_iff.mp hstep
      cases hstep
      -- One read takes exactly the line in front.
      have hmem : line ∈ q.lines := hlines ▸ List.mem_cons_self
      exact ⟨_, simulates_handle h hlines (hqueues.1 line hmem)
        (hfits line (hlines ▸ rfl)) ht⟩
  | stack alloc nh e =>
    obtain ⟨t, ht, hstep⟩ := Option.bind_eq_some_iff.mp hstep
    cases hstep
    exact ⟨.stack alloc nh e, _, by simp [wiredStep, h.threads, ht],
      carries_sofia h t t.sofia.ssc.sent⟩
  | nextPass alloc =>
    obtain ⟨t, ht, hstep⟩ := Option.bind_eq_some_iff.mp hstep
    cases hstep
    exact ⟨.nextPass alloc, _, by simp [wiredStep, h.threads, ht],
      carries_sofia h t t.sofia.ssc.sent⟩
  | dispatch active =>
    simp only [queuedStep] at hstep
    split at hstep
    · cases hstep
    · rename_i reply replies hreplies
      obtain ⟨t, ht, hstep⟩ := Option.bind_eq_some_iff.mp hstep
      cases hstep
      -- One read takes exactly the reply in front.
      have hmem : reply ∈ q.replies := hreplies ▸ List.mem_cons_self
      exact ⟨_, simulates_dispatch h hreplies (hqueues.2 reply hmem)
        (hfits reply (hreplies ▸ rfl)) ht⟩

/-- At the start the pipes and the queues hold the same. -/
theorem carries_start (alloc : Alloc) (app : App) (cli : Cli) :
    Carries (Wired.start env alloc app cli) (Queued.start env alloc app cli) :=
  ⟨rfl, rfl, rfl⟩

end Simulation

section Runs
variable {env : SscEnv} {jsonObject : CString → Option NSDictionary} {alloc : Alloc} {app : App}
  {cli : Cli} {is : List WiredInput} {s' : Wired}

/-- In runs whose texts hold no `$` and whose reads end with one, the system with pipes does what
the system with queues does: there is a run of that in which the very same things happen, and
which leaves in the queues what is left in the pipes. -/
theorem queued_of_run
    (hclean : AllSteps (wiredStep env jsonObject) CleanStep (Wired.start env alloc app cli) is)
    (hrun : run (wiredStep env jsonObject) (Wired.start env alloc app cli) is = some s') :
    ∃ js q', run (queuedStep env jsonObject) (Queued.start env alloc app cli) js = some q' ∧
      s'.threads = q'.threads ∧ s'.toSofia = lineBytes q'.lines ∧
      s'.toApp = q'.replies.flatMap SofiaReply.serialize := by
  obtain ⟨js, q', hjs, hcarries, -⟩ := (wired_simulates env jsonObject).runs
    ⟨carries_start alloc app cli, fifo_start alloc app cli⟩ hclean hrun
  exact ⟨js, q', hjs, hcarries.threads, by rw [hcarries.toSofia, lineBytes_eq_joinFrames],
    hcarries.toApp⟩

/-- A device that is Ready. -/
def readyApp : App := { state := .ready, params := { registrar := some "sip:x".toList } }

/-- A text message of Carol. -/
def ofCarol : NuaEvent :=
  .iMessage (some
    { sipFrom := some { url := "sip:carol@x".toList, urlUser := some "carol".toList }
      hasTo := true
      payload := some "yo".toList })

/-- The App sends a text message to Bob, and one comes in from Carol. Each pipe is read once. -/
def chat : List WiredInput :=
  [.app (.sendMessage "hi".toList "bob".toList none), .readLines 56 fun _ => (⟨2, 2⟩, []),
    .stack ⟨3, 3⟩ 9 ofCarol, .readReplies 22 fun _ => true]

/-- The threads before anything was sent. -/
def chatStart : Wired := Wired.start plainEnv ⟨1, 1⟩ readyApp {}

/-- The threads when all is read. -/
def chatted : Wired := (run (wiredStep plainEnv Json.read) chatStart chat).getD chatStart

/-- No text of the chat has a `$`, and every read ends with one. -/
theorem clean_chat : AllSteps (wiredStep plainEnv Json.read) CleanStep chatStart chat := by
  decide +kernel

/-- The chat is a run. -/
theorem run_chat : run (wiredStep plainEnv Json.read) chatStart chat = some chatted := by
  have hsome : (run (wiredStep plainEnv Json.read) chatStart chat).isSome = true := by
    decide +kernel
  obtain ⟨s, hs⟩ := Option.isSome_iff_exists.mp hsome
  rw [chatted, hs]
  rfl

/-- The chat over the queues. -/
theorem queued_of_run_chat :
    ∃ js q', run (queuedStep plainEnv Json.read)
        (Queued.start plainEnv ⟨1, 1⟩ readyApp {}) js = some q' ∧
      chatted.threads = q'.threads ∧ chatted.toSofia = lineBytes q'.lines ∧
        chatted.toApp = q'.replies.flatMap SofiaReply.serialize :=
  queued_of_run clean_chat run_chat

/-- And the other way round: a run of the system with queues in which no text holds a `$` and every
line and reply fits a read is a run of the system with pipes, in which the very same things
happen. -/
theorem wired_of_run {js : List QueuedInput} {q' : Queued}
    (hfits : AllSteps (queuedStep env jsonObject) FitsRead (Queued.start env alloc app cli) js)
    (hrun : run (queuedStep env jsonObject) (Queued.start env alloc app cli) js = some q') :
    ∃ is s', run (wiredStep env jsonObject) (Wired.start env alloc app cli) is = some s' ∧
      s'.threads = q'.threads ∧ s'.toSofia = lineBytes q'.lines ∧
        s'.toApp = q'.replies.flatMap SofiaReply.serialize := by
  obtain ⟨is, s', his, hcarries, -⟩ := (queued_simulates env jsonObject).runs
    ⟨carries_start alloc app cli, fifo_start alloc app cli⟩ hfits hrun
  exact ⟨is, s', his, hcarries.threads, by rw [hcarries.toSofia, lineBytes_eq_joinFrames],
    hcarries.toApp⟩

/-- The same messages, with one line or reply at a time. -/
def queuedChat : List QueuedInput :=
  [.app (.sendMessage "hi".toList "bob".toList none), .handle (⟨2, 2⟩, []),
    .stack ⟨3, 3⟩ 9 ofCarol, .dispatch true, .dispatch true]

/-- The chat over the queues, and back over the pipes. -/
theorem wired_of_run_chat :
    ∃ q' is s', run (queuedStep plainEnv Json.read) (Queued.start plainEnv ⟨1, 1⟩ readyApp {})
        queuedChat = some q' ∧
      run (wiredStep plainEnv Json.read) chatStart is = some s' ∧ s'.threads = q'.threads ∧
        s'.toSofia = lineBytes q'.lines ∧ s'.toApp = q'.replies.flatMap SofiaReply.serialize := by
  have hsome : (run (queuedStep plainEnv Json.read) (Queued.start plainEnv ⟨1, 1⟩ readyApp {})
      queuedChat).isSome = true := by
    decide +kernel
  obtain ⟨q', hrun⟩ := Option.isSome_iff_exists.mp hsome
  obtain ⟨is, s', hwired⟩ := wired_of_run (by decide +kernel) hrun
  exact ⟨q', is, s', hrun, hwired⟩

/-- In such runs the lines are handled that were written, in their order, and all of them once the
pipe is empty; and the replies are dispatched that were sent, in the same way. -/
theorem pipes_of_run
    (hclean : AllSteps (wiredStep env jsonObject) CleanStep (Wired.start env alloc app cli) is)
    (hrun : run (wiredStep env jsonObject) (Wired.start env alloc app cli) is = some s') :
    let history := s'.threads.history
    (handledLines history <+: (writtenLines history).map Line.text ∧
        (s'.toSofia = [] ↔ handledLines history = (writtenLines history).map Line.text)) ∧
      dispatchedReplies history <+: repliesSent history ∧
        (s'.toApp = [] ↔ dispatchedReplies history = repliesSent history) := by
  obtain ⟨js, q', -, hcarries, ⟨done, hlines, hhandled⟩, hreplies⟩ :=
    (wired_simulates env jsonObject).runs
      ⟨carries_start alloc app cli, fifo_start alloc app cli⟩ hclean hrun
  dsimp only
  rw [hcarries.threads, hlines, hhandled, hreplies, List.map_append]
  refine ⟨⟨List.prefix_append _ _, ?_⟩, List.prefix_append _ _, ?_⟩
  · rw [hcarries.toSofia]
    cases q'.lines <;> simp
  · rw [hcarries.toApp, sentBytes_eq_nil_iff]
    simp

/-- After the chat both pipes are empty. -/
theorem pipes_of_run_chat :
    handledLines chatted.threads.history
        = (writtenLines chatted.threads.history).map Line.text ∧
      dispatchedReplies chatted.threads.history = repliesSent chatted.threads.history := by
  obtain ⟨⟨-, hlines⟩, -, hreplies⟩ := pipes_of_run clean_chat run_chat
  exact ⟨hlines.mp (by decide +kernel), hreplies.mp (by decide +kernel)⟩

end Runs

end RestCommSdk.Proofs
