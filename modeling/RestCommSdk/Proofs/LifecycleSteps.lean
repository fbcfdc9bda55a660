import RestCommSdk.RestCommClient.Lifecycle

/-!
# `RestCommSdk.Proofs.LifecycleSteps`: what a lifecycle step does

One lemma for each input of `lifecycleStep`: the guard it has passed, and the state after it.
The invariants of `InstanceCount` and `LastRequest` are kept by what is said here, and unfold
no step.
-/

set_option autoImplicit false

namespace RestCommSdk.Proofs

open RestCommSdk.CliInterface
open RestCommSdk.SipManager (NSDictionary Params Command startable)

variable {jsonObject : CString → Option NSDictionary} {s s' : Lifecycle} {params : Params}

/-! ### The App -/

/-- A call of `eventLoop` begins between two calls: it counts its loop, or finds one. -/
theorem listen_cases (hs : lifecycleStep jsonObject s (.listen params) = some s') :
    s.call = .idle ∧
      (s.app.signallingInstances = 0 ∧ s' = { s with
          returned := none
          app := { s.app with params := params, signallingInstances := 1 }
          call := .starting
          found := 0
          listening := true } ∨
        0 < s.app.signallingInstances ∧ s' = { s with
          returned := none
          app := { s.app with params := params }
          call := .marking
          found := s.app.signallingInstances
          listening := true }) := by
  have hs : (if s.call = .idle then _ else _) = some s' := hs
  by_cases hidle : s.call = .idle
  · rw [if_pos hidle, SipManager.enterEventLoop] at hs
    refine ⟨hidle, ?_⟩
    -- The counter decides which of the two calls is entered.
    by_cases hpos : 0 < s.app.signallingInstances
    · rw [if_pos hpos] at hs
      exact .inr ⟨hpos, (Option.some.inj hs).symm⟩
    · have hzero : s.app.signallingInstances = 0 := by omega
      rw [if_neg hpos, hzero] at hs
      exact .inl ⟨hzero, (Option.some.inj hs).symm⟩
  · rw [if_neg hidle] at hs
    cases hs

/-- It ends with a mark, with a loop, or with an error. -/
theorem finish_cases (hs : lifecycleStep jsonObject s .finish = some s') :
    s.call = .marking ∧ s' = { s with
        returned := some false
        app := s.app.silent.pipe none .markForRestart
        call := .idle
        waiting := s.waiting ++ [.markForRestart] } ∨
      s.call = .starting ∧ startable s.app.params = true ∧ s' = { s with
        returned := some true
        app := s.app.silent
        call := .idle
        phase := .creating
        waiting := []
        loops := s.loops + 1 } ∨
      s.call = .starting ∧ startable s.app.params = false ∧ s'.returned = some false ∧
        s'.call = .idle ∧ s'.app.signallingInstances = s.app.signallingInstances ∧
        s'.loops = s.loops := by
  have hs : (if s.call = .idle then _ else _) = some s' := hs
  cases hcall : s.call with
  | idle =>
    rw [if_pos hcall] at hs
    cases hs
  | marking =>
    -- A loop was counted, so a mark for a restart is written.
    rw [if_neg (by rw [hcall]; nofun), hcall] at hs
    exact .inl ⟨rfl, (Option.some.inj hs).symm⟩
  | starting =>
    have hparams : startable s.app.silent.params = startable s.app.params := rfl
    rw [if_neg (by rw [hcall]; nofun), hcall, SipManager.finishEventLoop, hparams] at hs
    -- The copies of the parameters decide whether the thread is detached.
    cases hgood : startable s.app.params with
    | true =>
      rw [hgood] at hs
      exact .inr (.inl ⟨rfl, rfl, (Option.some.inj hs).symm⟩)
    | false =>
      rw [hgood] at hs
      cases hs
      exact .inr (.inr ⟨rfl, rfl, rfl, rfl, rfl, rfl⟩)

/-- `q` joins what waits. -/
theorem unlisten_cases (hs : lifecycleStep jsonObject s .unlisten = some s') :
    s.call = .idle ∧ s' = { s with
      returned := none
      app := s.app.silent.pipe none (.shutdown false)
      waiting := s.waiting ++ [.shutdown false]
      listening := false } := by
  have hs : (if s.call = .idle then _ else _) = some s' := hs
  split at hs <;> cases hs
  exact ⟨‹_›, rfl⟩

/-- `qr` joins what waits. -/
theorem networkSwitch_cases (hs : lifecycleStep jsonObject s .networkSwitch = some s') :
    s.call = .idle ∧ s' = { s with
      returned := none
      app := s.app.silent.pipe none (.shutdown true)
      waiting := s.waiting ++ [.shutdown true] } := by
  have hs : (if s.call = .idle then _ else _) = some s' := hs
  split at hs <;> cases hs
  exact ⟨‹_›, rfl⟩

/-! ### The Sofia thread -/

/-- The stack runs, or there is no address to bind to. -/
theorem create_cases {bound : Bool}
    (hs : lifecycleStep jsonObject s (.create bound) = some s') :
    s.phase = .creating ∧ s' = { s with
      returned := none
      cli := { s.cli with stackIsShuttingDown := false }
      shutdowns := 0
      phase := if bound then .running else .leaving } := by
  have hs : (if s.phase = .creating then _ else _) = some s' := hs
  split at hs <;> cases hs
  exact ⟨‹_›, rfl⟩

/-- The first command is read. -/
theorem read_cases (hs : lifecycleStep jsonObject s .read = some s') :
    s.phase = .running ∧ ∃ command waiting, s.waiting = command :: waiting ∧
      s' = { s with
        returned := none
        waiting := waiting
        cli := { (sofsipHandleInput jsonObject s.cli command.text).1 with
          stackIsShuttingDown :=
            (sofsipHandleInput jsonObject s.cli command.text).1.stackIsShuttingDown ||
              decide (0 < (sofsipHandleInput jsonObject s.cli command.text).2.count .shutdown) }
        shutdowns := s.shutdowns +
          (sofsipHandleInput jsonObject s.cli command.text).2.count .shutdown } := by
  simp only [lifecycleStep, Lifecycle.read] at hs
  split at hs
  · cases hs
  · rename_i command waiting hwaiting
    split at hs <;> cases hs
    exact ⟨‹_›, command, waiting, hwaiting, rfl⟩

/-- One shutdown is over. -/
theorem shutdownResponse_cases (hs : lifecycleStep jsonObject s .shutdownResponse = some s') :
    s.phase = .running ∧ 0 < s.shutdowns ∧ s' = { s with
      returned := none
      phase := .leaving
      shutdowns := s.shutdowns - 1 } := by
  have hs : (if s.phase = .running ∧ 0 < s.shutdowns then _ else _) = some s' := hs
  split at hs <;> cases hs
  rename_i hphase
  exact ⟨hphase.1, hphase.2, rfl⟩

/-- The while loop goes on with the mark, and ends without. -/
theorem leave_cases (hs : lifecycleStep jsonObject s .leave = some s') :
    s.phase = .leaving ∧
      (s.cli.restartSignalling = true ∧ s' = { s with
          returned := none
          phase := .creating
          cli := { s.cli with restartSignalling := false } } ∨
        s.cli.restartSignalling = false ∧ s' = { s with returned := none, phase := .left }) := by
  have hs : (if s.phase = .leaving then _ else _) = some s' := hs
  by_cases hphase : s.phase = .leaving
  · rw [if_pos hphase] at hs
    refine ⟨hphase, ?_⟩
    -- The mark is looked at once the loop was left.
    cases hrestart : s.cli.restartSignalling with
    | true =>
      simp only [hrestart] at hs
      exact .inl ⟨rfl, (Option.some.inj hs).symm⟩
    | false =>
      simp only [hrestart] at hs
      exact .inr ⟨rfl, (Option.some.inj hs).symm⟩
  · rw [if_neg hphase] at hs
    cases hs

/-- The loop has ended, and is counted out. -/
theorem ended_cases (hs : lifecycleStep jsonObject s .ended = some s') :
    s.phase = .left ∧ s' = { s with
      returned := none
      app := { s.app with signallingInstances := s.app.signallingInstances - 1 }
      phase := .absent
      loops := s.loops - 1
      found := s.found - 1 } := by
  have hs : (if s.phase = .left then _ else _) = some s' := hs
  split at hs <;> cases hs
  exact ⟨‹_›, rfl⟩

end RestCommSdk.Proofs
