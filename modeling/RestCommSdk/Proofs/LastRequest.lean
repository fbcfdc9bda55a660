import RestCommSdk.Lib.History
import RestCommSdk.Proofs.InstanceCount

/-!
# `RestCommSdk.Proofs.LastRequest`: whether the stack runs when it was last asked to

`listen` and `unlisten` reach the Sofia thread as commands, and a `mr` is only of use while
the run loop that is to be restarted still reads. `converged_of_keepsRequest`: in a run whose
steps all meet `KeepsRequest`, whenever no step is pending a loop runs exactly when the last
of the two calls was `listen`.

`outcome` is what is going to be when every command that waits is read in the run loop that
it is meant for. The steps that `KeepsRequest` leaves out are those after which `outcome` is
no longer what was last asked for: a call of `eventLoop` that finds a loop which is over and
still counted, a start that is refused, a run loop that ends with a `mr` unread or with no
interface to bind to, and a `q` or a `qr` that finds the restart mark of another command.

`mark_unread_stops` is a run with a `mr` that comes too late.
-/

set_option autoImplicit false

namespace RestCommSdk.Proofs

open RestCommSdk.Lib
open RestCommSdk.CliInterface
open RestCommSdk.SipManager (NSDictionary Params Command startable)

variable {jsonObject : CString → Option NSDictionary}

/-! ### The property and the condition -/

/-- No step is pending. -/
def Quiescent (s : Lifecycle) : Prop :=
  s.call = .idle ∧ (s.phase = .absent ∨ s.phase = .running ∧ s.waiting = [] ∧ s.shutdowns = 0)

/-- A loop runs exactly when the last call was `listen`, once no step is pending. -/
def Converged (s : Lifecycle) : Prop :=
  Quiescent s → (s.phase = .running ↔ s.listening = true)

/-- What a command asks for: that the stack runs, or that it does not. A `qr` asks for neither. -/
def asks : Command → Option Bool
  | .shutdown false => some false
  | .markForRestart => some true
  | _ => none

/-- The mark that the call in progress is going to pipe. -/
def EventLoopCall.mark : EventLoopCall → List Command
  | .marking => [.markForRestart]
  | _ => []

/-- The commands that the Sofia thread has not read, and that mark. -/
def requests (s : Lifecycle) : List Command := s.waiting ++ EventLoopCall.mark s.call

/-- The loop is over, and will not be restarted. -/
def LoopOver (s : Lifecycle) : Prop :=
  s.phase = .left ∨ s.phase = .leaving ∧ s.cli.restartSignalling = false

/-- The condition on a step, of its input and the state before it. -/
def KeepsRequest (s : Lifecycle) : LifecycleInput → Prop
  | .listen _ => ¬ LoopOver s
  | .finish => s.call = .starting → startable s.app.params
  | .create bound => bound = false → lastGiven asks (requests s) = some false
  | .read =>
    match s.waiting with
    | .shutdown false :: later =>
      s.cli.restartSignalling = true → lastGiven asks (later ++ EventLoopCall.mark s.call) ≠ none
    | .shutdown true :: later =>
      0 < s.shutdowns → s.cli.restartSignalling = false →
        lastGiven asks (later ++ EventLoopCall.mark s.call) ≠ none
    | _ => True
  | .shutdownResponse =>
    s.cli.restartSignalling = false →
      lastGiven asks (requests s) ≠ some true
  | _ => True

instance (s : Lifecycle) : Decidable (LoopOver s) := inferInstanceAs (Decidable (_ ∨ _ ∧ _))

instance (s : Lifecycle) (input : LifecycleInput) : Decidable (KeepsRequest s input) := by
  unfold KeepsRequest
  split
  case h_4 => split <;> infer_instance
  all_goals infer_instance

/-! ### The invariant -/

/-- Whether the stack is going to run. -/
def outcome (s : Lifecycle) : Bool :=
  let asked := lastGiven asks (requests s)
  match s.phase with
  | .absent => s.call = .starting
  | .creating => asked.getD true
  | .running => asked.getD (s.cli.restartSignalling || s.shutdowns = 0)
  | .leaving => s.cli.restartSignalling && asked.getD true
  | .left => false

/-- The commands of the lifecycle calls. -/
def IsLifecycle : Command → Prop
  | .shutdown _ | .markForRestart => True
  | _ => False

/-- The flags belong to a shutdown in progress, and what was last asked for is going to be. -/
structure OnTrack (s : Lifecycle) : Prop where
  counted : Counted s
  commands : ∀ command ∈ s.waiting, IsLifecycle command
  restart : s.phase ≠ .running → s.phase ≠ .leaving → s.cli.restartSignalling = false
  calm : s.phase = .running → s.shutdowns = 0 →
    s.cli.restartSignalling = false ∧ s.cli.stackIsShuttingDown = false
  shutting : s.phase = .running → 0 < s.shutdowns →
    s.cli.restartSignalling = true ∨ s.cli.stackIsShuttingDown = true
  outcome : outcome s = s.listening

/-- Nothing was asked for yet. -/
theorem onTrack_initial (app : App) : OnTrack (Lifecycle.initial app) where
  counted := counted_initial app
  commands := nofun
  restart _ _ := rfl
  calm := nofun
  shutting := nofun
  outcome := rfl

/-- At rest the last request is carried out. -/
theorem OnTrack.converged {s : Lifecycle} (h : OnTrack s) : Converged s := by
  rintro ⟨hidle, hphase | ⟨hphase, hwaiting, hshutdowns⟩⟩
  · have houtcome := h.outcome
    simp only [Proofs.outcome, hphase, hidle] at houtcome
    rw [hphase, ← houtcome]
    simp
  · have houtcome := h.outcome
    simp only [Proofs.outcome, requests, hphase, hwaiting, hidle, hshutdowns] at houtcome
    rw [hphase, ← houtcome]
    simp [EventLoopCall.mark]

/-! ### The App -/

section Step
variable {s s' : Lifecycle} {params : Params}

/-- A call that is about to start a loop has found none. -/
theorem Counted.absent_of_starting (h : Counted s) (hcall : s.call = .starting) :
    s.phase = .absent := by
  have hcount := h.count
  have hone := h.atMostOne
  rw [hcall] at hcount
  have hcount : s.app.signallingInstances = s.loops + 1 := hcount
  exact h.absent.mpr (by omega)

/-- The command of a lifecycle call joins those that wait. -/
theorem commands_append (h : OnTrack s) (command : Command) (hcommand : IsLifecycle command) :
    ∀ c ∈ s.waiting ++ [command], IsLifecycle c := by
  intro c hc
  rcases List.mem_append.mp hc with hc | hc
  · exact h.commands c hc
  · rw [List.mem_singleton.mp hc]
    exact hcommand

/-- The first command is read. -/
theorem commands_tail {command : Command} {later : List Command} (h : OnTrack s)
    (hwaiting : s.waiting = command :: later) : ∀ c ∈ later, IsLifecycle c := by
  intro c hc
  refine h.commands c ?_
  rw [hwaiting]
  exact List.mem_cons_of_mem _ hc

/-- `listen` makes a loop, or waits to mark the one that is there. -/
theorem onTrack_listen (h : OnTrack s) (hcond : ¬ LoopOver s)
    (hs : lifecycleStep jsonObject s (.listen params) = some s') : OnTrack s' := by
  have hcounted := (counted_listen h.counted hs).1
  have hcount := h.counted.count
  obtain ⟨hidle, hcase⟩ := listen_cases hs
  rw [hidle] at hcount
  have hcount : s.app.signallingInstances = s.loops := hcount
  rcases hcase with ⟨hzero, rfl⟩ | ⟨hpos, rfl⟩
  · have habsent : s.phase = .absent := h.counted.absent.mpr (by omega)
    refine ⟨hcounted, h.commands, h.restart, h.calm, h.shutting, ?_⟩
    simp [outcome, habsent]
  · refine ⟨hcounted, h.commands, h.restart, h.calm, h.shutting, ?_⟩
    -- The mark is going to be the last to ask.
    have hlast : lastGiven asks (s.waiting ++ [.markForRestart]) = some true := by
      rw [lastGiven_concat]
      rfl
    have hpresent : s.phase ≠ .absent := fun habsent => by
      have hnone := h.counted.absent.mp habsent
      omega
    simp only [outcome, requests, EventLoopCall.mark, hlast]
    cases hphase : s.phase with
    | absent => exact absurd hphase hpresent
    | creating | running => rfl
    | leaving =>
      have hrestart : s.cli.restartSignalling ≠ false := fun hrestart =>
        hcond (.inr ⟨hphase, hrestart⟩)
      simpa using hrestart
    | left => exact absurd (.inl hphase) hcond

/-- The loop begins, or `mr` is written. -/
theorem onTrack_finish (h : OnTrack s) (hcond : s.call = .starting → startable s.app.params)
    (hs : lifecycleStep jsonObject s .finish = some s') : OnTrack s' := by
  have hcounted := (counted_finish h.counted hs).2 hcond
  have houtcome := h.outcome
  rcases finish_cases hs with ⟨hcall, rfl⟩ | ⟨hcall, _, rfl⟩ | ⟨hcall, hbad, _⟩
  · -- The mark goes behind the requests that wait, so the last of them stays.
    have hcommands := commands_append h .markForRestart trivial
    refine ⟨hcounted, hcommands, h.restart, h.calm, h.shutting, ?_⟩
    rw [← houtcome]
    show outcome { s with waiting := s.waiting ++ [.markForRestart], call := .idle } = outcome s
    simp only [outcome, requests, EventLoopCall.mark, hcall, List.append_nil]
    cases s.phase <;> rfl
  · -- The loop starts, and nothing waits.
    have habsent := h.counted.absent_of_starting hcall
    refine ⟨hcounted, nofun, fun _ _ => ?_, nofun, nofun, ?_⟩
    · exact h.restart (by rw [habsent]; nofun) (by rw [habsent]; nofun)
    · simp only [outcome, habsent, hcall] at houtcome
      rw [← houtcome]
      rfl
  · -- The parameters are good, so the loop is not refused.
    rw [hcond hcall] at hbad
    cases hbad

/-- `q` is written. -/
theorem onTrack_unlisten (h : OnTrack s)
    (hs : lifecycleStep jsonObject s .unlisten = some s') : OnTrack s' := by
  have hcounted := h.counted.same (sameCount_between (by trivial) hs)
  obtain ⟨hidle, rfl⟩ := unlisten_cases hs
  have hcommands := commands_append h (.shutdown false) trivial
  refine ⟨hcounted, hcommands, h.restart, h.calm, h.shutting, ?_⟩
  have hlast : lastGiven asks (s.waiting ++ [.shutdown false] ++ []) = some false := by
    rw [List.append_nil, lastGiven_concat]
    rfl
  show outcome { s with waiting := s.waiting ++ [.shutdown false] } = false
  simp only [outcome, requests, EventLoopCall.mark, hidle, hlast]
  cases s.phase with
  | leaving => exact Bool.and_false _
  | _ => rfl

/-- `qr` is written. -/
theorem onTrack_networkSwitch (h : OnTrack s)
    (hs : lifecycleStep jsonObject s .networkSwitch = some s') : OnTrack s' := by
  have hcounted := h.counted.same (sameCount_between (by trivial) hs)
  obtain ⟨hidle, rfl⟩ := networkSwitch_cases hs
  have hcommands := commands_append h (.shutdown true) trivial
  refine ⟨hcounted, hcommands, h.restart, h.calm, h.shutting, ?_⟩
  rw [← h.outcome]
  -- A `qr` does not ask for the stack to run, nor for it not to.
  have hlast : lastGiven asks (s.waiting ++ [.shutdown true] ++ []) =
      lastGiven asks (s.waiting ++ []) := by
    rw [List.append_nil, List.append_nil, lastGiven_concat]
    rfl
  show outcome { s with waiting := s.waiting ++ [.shutdown true] } = outcome s
  simp only [outcome, requests, EventLoopCall.mark, hidle, hlast]

/-! ### The Sofia thread -/

/-- The stack is made, or there is no address to bind to. -/
theorem onTrack_create {bound : Bool} (h : OnTrack s)
    (hcond : bound = false → lastGiven asks (requests s) = some false)
    (hs : lifecycleStep jsonObject s (.create bound) = some s') : OnTrack s' := by
  have hcounted := h.counted.same (sameCount_between (by trivial) hs)
  have houtcome := h.outcome
  obtain ⟨hphase, rfl⟩ := create_cases hs
  have hrestart := h.restart (by rw [hphase]; nofun) (by rw [hphase]; nofun)
  simp only [outcome, hphase] at houtcome
  cases bound with
  | true =>
    refine ⟨hcounted, h.commands, fun _ _ => hrestart, fun _ _ => ⟨hrestart, rfl⟩, nofun, ?_⟩
    rw [← houtcome]
    show (lastGiven asks (requests s)).getD (s.cli.restartSignalling || true) = _
    rw [Bool.or_true]
  | false =>
    -- The run loop is passed over, and with it all that waits.
    refine ⟨hcounted, h.commands, fun _ _ => hrestart, nofun, nofun, ?_⟩
    rw [← houtcome, hcond rfl]
    show (s.cli.restartSignalling && _) = false
    rw [hrestart, Bool.false_and]

/-- `q` shuts the stack down. -/
theorem handle_shutdown (cli : Cli) :
    sofsipHandleInput jsonObject cli (Command.shutdown false).text = (cli, [.shutdown]) := rfl

/-- `qr` shuts the stack down, and has it started again. -/
theorem handle_restart (cli : Cli) :
    sofsipHandleInput jsonObject cli (Command.shutdown true).text =
      ({ cli with restartSignalling := true }, [.shutdown]) := rfl

/-- `mr` has a stack that is shutting down started again, and is lost otherwise. -/
theorem handle_mark (cli : Cli) :
    sofsipHandleInput jsonObject cli Command.markForRestart.text =
      (if cli.stackIsShuttingDown then
        ({ cli with restartSignalling := true, stackIsShuttingDown := false }, [])
      else (cli, [])) := by
  have hscan : scanCommand Command.markForRestart.text = ("mr".toList, none) := by decide
  rw [sofsipHandleInput, hscan]
  rfl

/-- `q` is read. -/
theorem onTrack_read_shutdown {later : List Command} (h : OnTrack s)
    (hphase : s.phase = .running) (hwaiting : s.waiting = .shutdown false :: later)
    (hcond : s.cli.restartSignalling = true →
      lastGiven asks (later ++ EventLoopCall.mark s.call) ≠ none)
    (hcounted : Counted s')
    (hs : s' = { s with
      returned := none
      waiting := later
      cli := { s.cli with stackIsShuttingDown := true }
      shutdowns := s.shutdowns + 1 }) : OnTrack s' := by
  -- The shutdown was the first that waited, so the last one is still to be read.
  have houtcome := h.outcome
  have hcommands := commands_tail h hwaiting
  subst hs
  refine ⟨hcounted, hcommands, fun hrunning => absurd hphase hrunning, nofun,
    fun _ _ => .inr rfl, ?_⟩
  simp only [outcome, requests, hphase, hwaiting, List.cons_append, lastGiven_cons] at houtcome
  rw [← houtcome]
  simp only [outcome, requests, hphase]
  cases hlast : lastGiven asks (later ++ EventLoopCall.mark s.call) with
  | some asked => rfl
  | none =>
    -- Nothing waits, so no restart may be pending.
    have hrestart : s.cli.restartSignalling = false :=
      Bool.eq_false_iff.mpr fun hrestart => hcond hrestart hlast
    simp [hrestart, asks]

/-- `qr` is read. -/
theorem onTrack_read_restart {later : List Command} (h : OnTrack s)
    (hphase : s.phase = .running) (hwaiting : s.waiting = .shutdown true :: later)
    (hcond : 0 < s.shutdowns → s.cli.restartSignalling = false →
      lastGiven asks (later ++ EventLoopCall.mark s.call) ≠ none)
    (hcounted : Counted s')
    (hs : s' = { s with
      returned := none
      waiting := later
      cli := { s.cli with restartSignalling := true, stackIsShuttingDown := true }
      shutdowns := s.shutdowns + 1 }) : OnTrack s' := by
  have houtcome := h.outcome
  have hcommands := commands_tail h hwaiting
  subst hs
  refine ⟨hcounted, hcommands, fun hrunning => absurd hphase hrunning, nofun,
    fun _ _ => .inl rfl, ?_⟩
  simp only [outcome, requests, hphase, hwaiting, List.cons_append, lastGiven_cons] at houtcome
  rw [← houtcome]
  simp only [outcome, requests, hphase]
  cases hlast : lastGiven asks (later ++ EventLoopCall.mark s.call) with
  | some asked => rfl
  | none =>
    -- The stack runs on, or a restart is under way already.
    have hruns : (s.cli.restartSignalling || decide (s.shutdowns = 0)) = true := by
      by_cases hpos : 0 < s.shutdowns
      · have hrestart : s.cli.restartSignalling ≠ false := fun hrestart =>
          hcond hpos hrestart hlast
        have hrestart : s.cli.restartSignalling = true := by simpa using hrestart
        rw [hrestart, Bool.true_or]
      · have hzero : s.shutdowns = 0 := by omega
        simp [hzero]
    exact hruns.symm

/-- `mr` is read. -/
theorem onTrack_read_mark {later : List Command} (h : OnTrack s)
    (hphase : s.phase = .running) (hwaiting : s.waiting = .markForRestart :: later)
    (hcounted : Counted s')
    (hs : s' = { s with
      returned := none
      waiting := later
      cli := if s.cli.stackIsShuttingDown then
          { s.cli with restartSignalling := true, stackIsShuttingDown := false }
        else s.cli }) : OnTrack s' := by
  have houtcome := h.outcome
  have hcommands := commands_tail h hwaiting
  simp only [outcome, requests, hphase, hwaiting, List.cons_append, lastGiven_cons] at houtcome
  cases hshutting : s.cli.stackIsShuttingDown with
  | true =>
    rw [hshutting] at hs
    subst hs
    refine ⟨hcounted, hcommands, fun hrunning => absurd hphase hrunning, fun _ hzero => ?_,
      fun _ _ => .inl rfl, ?_⟩
    · have hcalm := (h.calm hphase hzero).2
      rw [hshutting] at hcalm
      cases hcalm
    · rw [← houtcome]
      simp only [outcome, requests, hphase]
      cases lastGiven asks (later ++ EventLoopCall.mark s.call) <;> rfl
  | false =>
    rw [hshutting] at hs
    subst hs
    refine ⟨hcounted, hcommands, fun hrunning => absurd hphase hrunning, h.calm, h.shutting, ?_⟩
    rw [← houtcome]
    simp only [outcome, requests, hphase]
    cases lastGiven asks (later ++ EventLoopCall.mark s.call) with
    | some asked => rfl
    | none =>
      -- The mark has been set by the `mr` before.
      have hruns : (s.cli.restartSignalling || decide (s.shutdowns = 0)) = true := by
        by_cases hpos : 0 < s.shutdowns
        · rcases h.shutting hphase hpos with hrestart | hsome
          · simp [hrestart]
          · rw [hshutting] at hsome
            cases hsome
        · have hzero : s.shutdowns = 0 := by omega
          simp [hzero]
      exact hruns

/-- The first command is read, whichever it is. -/
theorem onTrack_read (h : OnTrack s) (hcond : KeepsRequest s .read)
    (hs : lifecycleStep jsonObject s .read = some s') : OnTrack s' := by
  have hcounted := h.counted.same (sameCount_between (by trivial) hs)
  obtain ⟨hphase, command, later, hwaiting, hs'⟩ := read_cases hs
  simp only [KeepsRequest, hwaiting] at hcond
  -- Only shutdowns, restarts and marks are written in such a run.
  have hcommand := h.commands command (by rw [hwaiting]; exact List.mem_cons_self)
  cases command with
  | shutdown restart =>
    cases restart with
    | false =>
      rw [handle_shutdown] at hs'
      refine onTrack_read_shutdown h hphase hwaiting hcond hcounted ?_
      simpa using hs'
    | true =>
      rw [handle_restart] at hs'
      refine onTrack_read_restart h hphase hwaiting hcond hcounted ?_
      simpa using hs'
  | markForRestart =>
    rw [handle_mark] at hs'
    refine onTrack_read_mark h hphase hwaiting hcounted ?_
    rw [hs']
    cases s.cli.stackIsShuttingDown <;> simp
  | _ => exact hcommand.elim

/-- The stack is down, and the loop begins again or ends. -/
theorem onTrack_shutdownResponse (h : OnTrack s)
    (hcond : s.cli.restartSignalling = false → lastGiven asks (requests s) ≠ some true)
    (hs : lifecycleStep jsonObject s .shutdownResponse = some s') : OnTrack s' := by
  have hcounted := h.counted.same (sameCount_between (by trivial) hs)
  have houtcome := h.outcome
  obtain ⟨hrunning, hpos, rfl⟩ := shutdownResponse_cases hs
  refine ⟨hcounted, h.commands, fun _ hleaving => absurd rfl hleaving, nofun, nofun, ?_⟩
  have hsome : ¬ s.shutdowns = 0 := by omega
  simp only [outcome, hrunning, hsome, decide_false, Bool.or_false] at houtcome
  rw [← houtcome]
  show (s.cli.restartSignalling && (lastGiven asks (requests s)).getD true) = _
  cases hrestart : s.cli.restartSignalling with
  | true => rw [Bool.true_and]
  | false =>
    -- The mark is lost with the rest of what waits.
    cases hlast : lastGiven asks (requests s) with
    | none => rfl
    | some asked =>
      cases asked with
      | false => rfl
      | true => exact absurd hlast (hcond hrestart)

/-- The loop is left, or passed through again. -/
theorem onTrack_leave (h : OnTrack s) (hs : lifecycleStep jsonObject s .leave = some s') :
    OnTrack s' := by
  have hcounted := h.counted.same (sameCount_between (by trivial) hs)
  have houtcome := h.outcome
  obtain ⟨hphase, ⟨hrestart, rfl⟩ | ⟨hrestart, rfl⟩⟩ := leave_cases hs
  · refine ⟨hcounted, h.commands, fun _ _ => rfl, nofun, nofun, ?_⟩
    simp only [outcome, hphase, hrestart, Bool.true_and] at houtcome
    exact houtcome
  · refine ⟨hcounted, h.commands, fun _ _ => hrestart, nofun, nofun, ?_⟩
    simp only [outcome, hphase, hrestart, Bool.false_and] at houtcome
    exact houtcome

/-- The loop has ended. -/
theorem onTrack_ended (h : OnTrack s) (hs : lifecycleStep jsonObject s .ended = some s') :
    OnTrack s' := by
  have hcounted := (counted_ended h.counted hs).1
  have houtcome := h.outcome
  obtain ⟨hphase, rfl⟩ := ended_cases hs
  have hrestart := h.restart (by rw [hphase]; nofun) (by rw [hphase]; nofun)
  refine ⟨hcounted, h.commands, fun _ _ => hrestart, nofun, nofun, ?_⟩
  simp only [outcome, hphase] at houtcome
  rw [← houtcome]
  -- A call that is about to start a loop would have found this one counted.
  have hcall : s.call ≠ .starting := fun hcall => by
    have habsent := h.counted.absent_of_starting hcall
    rw [hphase] at habsent
    cases habsent
  exact decide_eq_false hcall

/-- One step. -/
theorem onTrack_step {input : LifecycleInput} (h : OnTrack s) (hcond : KeepsRequest s input)
    (hs : lifecycleStep jsonObject s input = some s') : OnTrack s' := by
  cases input with
  | listen params => exact onTrack_listen h hcond hs
  | finish => exact onTrack_finish h hcond hs
  | unlisten => exact onTrack_unlisten h hs
  | networkSwitch => exact onTrack_networkSwitch h hs
  | create bound => exact onTrack_create h hcond hs
  | read => exact onTrack_read h hcond hs
  | shutdownResponse => exact onTrack_shutdownResponse h hcond hs
  | leave => exact onTrack_leave h hs
  | ended => exact onTrack_ended h hs

end Step

/-! ### Runs -/

/-- In a run from the start of the App whose steps all meet the condition, once no step is
pending a loop runs exactly when the last of `listen` and `unlisten` was `listen`. -/
theorem converged_of_keepsRequest (jsonObject : CString → Option NSDictionary) (app : App)
    (inputs : List LifecycleInput)
    (h : AllSteps (lifecycleStep jsonObject) (fun s input _ => KeepsRequest s input)
      (Lifecycle.initial app) inputs) :
    AllSteps (lifecycleStep jsonObject) (fun _ _ s' => Converged s') (Lifecycle.initial app)
      inputs := by
  refine AllSteps.of_inv OnTrack (fun s input s' htrack hs hcond => ?_) (onTrack_initial app) h
  have htrack' := onTrack_step htrack hcond hs
  exact ⟨htrack', htrack'.converged⟩

/-- The application listens again before the stack has looked at its `unlisten`. -/
def listenAgain : List LifecycleInput :=
  [.listen {}, .finish, .create true, .unlisten, .listen {}, .finish, .read, .read,
    .shutdownResponse, .leave, .create true]

/-- The mark is read in time, and the run ends with a loop that runs. -/
theorem converged_listenAgain :
    AllSteps (lifecycleStep fun _ => none) (fun _ _ s' => Converged s')
        (Lifecycle.initial { state := .offline }) listenAgain ∧
      ∃ s, run (lifecycleStep fun _ => none) (Lifecycle.initial { state := .offline })
          listenAgain = some s ∧ Quiescent s ∧ s.phase = .running :=
  ⟨converged_of_keepsRequest _ _ _ (by decide), _, rfl, ⟨rfl, .inr ⟨rfl, rfl, rfl⟩⟩, rfl⟩

/-- The same calls, and the run loop ends before it has read the mark. -/
def markUnread : List LifecycleInput :=
  [.listen {}, .finish, .create true, .unlisten, .read, .listen {}, .finish, .shutdownResponse,
    .leave, .ended]

/-- The application has asked to listen, no step is pending, and there is no loop. -/
theorem mark_unread_stops :
    ¬ AllSteps (lifecycleStep fun _ => none) (fun _ _ s' => Converged s')
        (Lifecycle.initial { state := .offline }) markUnread ∧
      ∃ s, run (lifecycleStep fun _ => none) (Lifecycle.initial { state := .offline })
          markUnread = some s ∧
        Quiescent s ∧ s.listening = true ∧ s.phase = .absent := by
  refine ⟨fun h => ?_, _, rfl, ⟨rfl, .inl rfl⟩, rfl, rfl⟩
  have hstart := (onTrack_initial { state := .offline }).converged
  have hconverged := AllSteps.holds_after hstart h rfl
  have hruns := (hconverged ⟨rfl, .inl rfl⟩).mpr rfl
  cases hruns

end RestCommSdk.Proofs
