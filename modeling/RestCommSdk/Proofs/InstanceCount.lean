import RestCommSdk.Lib.Run
import RestCommSdk.Proofs.LifecycleSteps

/-!
# `RestCommSdk.Proofs.InstanceCount`: what `signallingInstances` counts

`eventLoop` counts a new instance under the lock, and only then looks at the parameters. When
it refuses them it returns without counting the instance down. `countExact_iff`: the counter
is the number of calls of `sofsip_loop` in a whole run exactly when no call of `eventLoop`
that got past the lock was given secure signalling without a directory of certificates.
`refused_start_counts` is a run with such a call. No later call starts a loop.
-/

set_option autoImplicit false

namespace RestCommSdk.Proofs

open RestCommSdk.Lib
open RestCommSdk.CliInterface (CString)
open RestCommSdk.SipManager (NSDictionary Params startable)

variable {jsonObject : CString → Option NSDictionary}

/-! ### The property -/

/-- A call of `eventLoop` with these parameters starts a loop. -/
def Starts (jsonObject : CString → Option NSDictionary) (s : Lifecycle) (params : Params) :
    Prop :=
  ∃ s₁ s₂, lifecycleStep jsonObject s (.listen params) = some s₁ ∧
    lifecycleStep jsonObject s₁ .finish = some s₂ ∧
    s₂.returned = some true ∧ s₂.phase = .creating ∧ s₂.loops = s.loops + 1

/-- The counter is the number of loops, there is one at most, and while there is none, a call
with good parameters starts one. -/
structure CountExact (jsonObject : CString → Option NSDictionary) (s : Lifecycle) : Prop where
  count : s.app.signallingInstances = s.loops
  atMostOne : s.loops ≤ 1
  starts : s.loops = 0 → ∀ params, startable params → Starts jsonObject s params

/-- The property of a state, and of the call that ends with it: one that returns `false` has
left the counter as it was. -/
def CountKept (jsonObject : CString → Option NSDictionary) (s : Lifecycle) : Prop :=
  (s.call = .idle → CountExact jsonObject s) ∧
    (s.returned = some false → s.app.signallingInstances = s.found)

/-- The condition on a step: parameters that are looked at are good. -/
def GoodStart (s : Lifecycle) (input : LifecycleInput) : Prop :=
  input = .finish → s.call = .starting → startable s.app.params

/-! ### The invariant -/

/-- One for the call that has counted its loop and has not started it. -/
def EventLoopCall.counted : EventLoopCall → Nat
  | .starting => 1
  | _ => 0

/-- The counter, with the call that is in progress. -/
structure Counted (s : Lifecycle) : Prop where
  count : s.app.signallingInstances = s.loops + EventLoopCall.counted s.call
  atMostOne : s.app.signallingInstances ≤ 1
  absent : s.phase = .absent ↔ s.loops = 0
  found : s.call ≠ .idle →
    s.app.signallingInstances = s.found + EventLoopCall.counted s.call

/-- Nothing runs, and nothing is counted. -/
theorem counted_initial (app : App) : Counted (Lifecycle.initial app) :=
  ⟨rfl, Nat.zero_le 1, iff_of_true rfl rfl, nofun⟩

/-- Steps that neither begin nor end a call of `eventLoop` or of `sofsip_loop`. -/
structure SameCount (s s' : Lifecycle) : Prop where
  instances : s'.app.signallingInstances = s.app.signallingInstances
  call : s'.call = s.call
  loops : s'.loops = s.loops
  found : s'.found = s.found
  absent : s'.phase = .absent ↔ s.phase = .absent
  returned : s'.returned = none

/-- The count and what it counts are as they were. -/
theorem Counted.same {s s' : Lifecycle} (h : Counted s) (hsame : SameCount s s') :
    Counted s' where
  count := by
    rw [hsame.instances, hsame.loops, hsame.call]
    exact h.count
  atMostOne := by
    rw [hsame.instances]
    exact h.atMostOne
  absent := by
    rw [hsame.absent, hsame.loops]
    exact h.absent
  found hcall := by
    rw [hsame.call] at hcall
    rw [hsame.instances, hsame.found, hsame.call]
    exact h.found hcall

/-! ### One call of `eventLoop` -/

section Call
variable {s s' : Lifecycle} {params : Params}

/-- `listen` without an instance makes a loop. -/
theorem listen_idle (hidle : s.call = .idle) (hnone : s.app.signallingInstances = 0) :
    lifecycleStep jsonObject s (.listen params) =
      some { s with
        returned := none
        app := { s.app with params := params, signallingInstances := 1 }
        call := .starting
        found := 0
        listening := true } := by
  have hzero : ¬ 0 < s.app.signallingInstances := by omega
  show (if s.call = .idle then _ else _) = _
  rw [if_pos hidle, SipManager.enterEventLoop, if_neg hzero, hnone]

/-- A loop with its certificates begins. -/
theorem finish_good (hcall : s.call = .starting) (hgood : startable s.app.params) :
    lifecycleStep jsonObject s .finish =
      some { s with
        returned := some true
        app := s.app.silent
        call := .idle
        phase := .creating
        waiting := []
        loops := s.loops + 1 } := by
  have hgood : startable s.app.silent.params = true := hgood
  show (if s.call = .idle then _ else _) = _
  rw [if_neg (by rw [hcall]; nofun), hcall, SipManager.finishEventLoop, if_pos hgood]
  rfl

/-- Between the calls of `eventLoop` the invariant gives the property. -/
theorem Counted.countExact (h : Counted s) (hidle : s.call = .idle) :
    CountExact jsonObject s := by
  have hcount : s.app.signallingInstances = s.loops := by
    have hcount := h.count
    rw [hidle] at hcount
    exact hcount
  refine ⟨hcount, hcount ▸ h.atMostOne, fun hnone params hgood => ?_⟩
  exact ⟨_, _, listen_idle hidle (hcount.trans hnone), finish_good rfl hgood, rfl, rfl, rfl⟩

/-- A call that finds an instance leaves the counter, and one that does not counts itself. -/
theorem counted_listen (h : Counted s)
    (hs : lifecycleStep jsonObject s (.listen params) = some s') :
    Counted s' ∧ s'.call ≠ .idle ∧ s'.returned = none := by
  obtain ⟨hidle, hcase⟩ := listen_cases hs
  have hcount := h.count
  rw [hidle] at hcount
  have hcount : s.app.signallingInstances = s.loops := hcount
  rcases hcase with ⟨hzero, rfl⟩ | ⟨hpos, rfl⟩
  · have hloops : s.loops = 0 := by omega
    refine ⟨⟨?_, le_rfl, h.absent, fun _ => rfl⟩, nofun, rfl⟩
    show 1 = s.loops + 1
    omega
  · exact ⟨⟨hcount, h.atMostOne, h.absent, fun _ => rfl⟩, nofun, rfl⟩

/-- The end of a call keeps the property exactly when good parameters were looked at, if any
were. -/
theorem counted_finish (h : Counted s) (hs : lifecycleStep jsonObject s .finish = some s') :
    (CountKept jsonObject s' ↔ (s.call = .starting → startable s.app.params)) ∧
      ((s.call = .starting → startable s.app.params) → Counted s') := by
  have hcount := h.count
  rcases finish_cases hs with
    ⟨hcall, hs'⟩ | ⟨hcall, hgood, hs'⟩ | ⟨hcall, hbad, _, hidle, hinstances, hloops⟩
  · have hfound := h.found (by rw [hcall]; nofun)
    rw [hcall] at hcount hfound
    have hcounted : Counted s' := by
      subst hs'
      exact ⟨hcount, h.atMostOne, h.absent, nofun⟩
    have hkept : s'.app.signallingInstances = s'.found := by
      subst hs'
      exact hfound
    refine ⟨iff_of_true ⟨hcounted.countExact, fun _ => hkept⟩ ?_, fun _ => hcounted⟩
    rw [hcall]
    nofun
  · rw [hcall] at hcount
    have hcounted : Counted s' := by
      subst hs'
      exact ⟨hcount, h.atMostOne, iff_of_false nofun (Nat.succ_ne_zero s.loops), nofun⟩
    have hreturned : s'.returned ≠ some false := by
      subst hs'
      nofun
    exact ⟨iff_of_true ⟨hcounted.countExact, fun hfalse => absurd hfalse hreturned⟩
      fun _ => hgood, fun _ => hcounted⟩
  · have hnot : ¬ (s.call = .starting → startable s.app.params) := by
      rw [hbad]
      exact fun hall => nomatch hall hcall
    refine ⟨iff_of_false (fun hkept => ?_) hnot, fun hall => absurd hall hnot⟩
    -- The counter is one, and no loop was called for it.
    rw [hcall] at hcount
    have hcount : s.app.signallingInstances = s.loops + 1 := hcount
    have hexact := (hkept.1 hidle).count
    omega

/-- A loop that has ended is no longer counted. -/
theorem counted_ended (h : Counted s) (hs : lifecycleStep jsonObject s .ended = some s') :
    Counted s' ∧ s'.returned = none := by
  obtain ⟨hleft, rfl⟩ := ended_cases hs
  -- A loop that ends was there, so the counter goes down from one.
  have hloop : s.loops ≠ 0 := fun hnone => by
    have habsent := h.absent.mpr hnone
    rw [hleft] at habsent
    cases habsent
  have hcount := h.count
  have hone := h.atMostOne
  have hfound := h.found
  refine ⟨⟨?_, ?_, iff_of_true rfl ?_, fun hne => ?_⟩, rfl⟩
  · show s.app.signallingInstances - 1 = s.loops - 1 + EventLoopCall.counted s.call
    omega
  · show s.app.signallingInstances - 1 ≤ 1
    omega
  · show s.loops - 1 = 0
    omega
  · show s.app.signallingInstances - 1 = s.found - 1 + EventLoopCall.counted s.call
    have hfound := hfound hne
    omega

/-- The inputs at which no call of `eventLoop` or of `sofsip_loop` begins or ends. -/
def Between : LifecycleInput → Prop
  | .listen _ | .finish | .ended => False
  | _ => True

/-- The steps in between leave the count. -/
theorem sameCount_between {input : LifecycleInput} (hbetween : Between input)
    (hs : lifecycleStep jsonObject s input = some s') : SameCount s s' := by
  cases input with
  | listen | finish | ended => exact hbetween.elim
  | unlisten =>
    obtain ⟨_, rfl⟩ := unlisten_cases hs
    exact ⟨rfl, rfl, rfl, rfl, Iff.rfl, rfl⟩
  | networkSwitch =>
    obtain ⟨_, rfl⟩ := networkSwitch_cases hs
    exact ⟨rfl, rfl, rfl, rfl, Iff.rfl, rfl⟩
  | create bound =>
    obtain ⟨hphase, rfl⟩ := create_cases hs
    -- Creating a client, or failing to, leaves the thread there.
    refine ⟨rfl, rfl, rfl, rfl, iff_of_false ?_ ?_, rfl⟩
    · cases bound <;> nofun
    · rw [hphase]
      nofun
  | read =>
    obtain ⟨_, command, waiting, _, rfl⟩ := read_cases hs
    exact ⟨rfl, rfl, rfl, rfl, Iff.rfl, rfl⟩
  | shutdownResponse =>
    obtain ⟨hphase, _, rfl⟩ := shutdownResponse_cases hs
    refine ⟨rfl, rfl, rfl, rfl, iff_of_false nofun ?_, rfl⟩
    rw [hphase]
    nofun
  | leave =>
    obtain ⟨hphase, hcase⟩ := leave_cases hs
    have hpresent : s.phase ≠ .absent := by
      rw [hphase]
      nofun
    rcases hcase with ⟨_, rfl⟩ | ⟨_, rfl⟩
    · exact ⟨rfl, rfl, rfl, rfl, iff_of_false nofun hpresent, rfl⟩
    · exact ⟨rfl, rfl, rfl, rfl, iff_of_false nofun hpresent, rfl⟩

/-- One step. -/
theorem countKept_step {input : LifecycleInput} (h : Counted s)
    (hs : lifecycleStep jsonObject s input = some s') :
    (CountKept jsonObject s' ↔ GoodStart s input) ∧ (GoodStart s input → Counted s') := by
  by_cases hbetween : Between input
  · -- The steps between the calls leave what is counted.
    have hsame := sameCount_between hbetween hs
    have hcounted := h.same hsame
    have hgood : GoodStart s input := fun hfinish => by
      rw [hfinish] at hbetween
      exact hbetween.elim
    exact ⟨iff_of_true ⟨hcounted.countExact, by rw [hsame.returned]; nofun⟩ hgood,
      fun _ => hcounted⟩
  · cases input with
    | listen params =>
      obtain ⟨hcounted, hbusy, hreturned⟩ := counted_listen h hs
      exact ⟨iff_of_true ⟨fun hidle => absurd hidle hbusy, by rw [hreturned]; nofun⟩ nofun,
        fun _ => hcounted⟩
    | finish =>
      -- This is the step that counts before the certificate directory is looked at.
      obtain ⟨hiff, hcounted⟩ := counted_finish h hs
      exact ⟨hiff.trans ⟨fun hgood _ => hgood, fun hgood => hgood rfl⟩,
        fun hgood => hcounted (hgood rfl)⟩
    | ended =>
      obtain ⟨hcounted, hreturned⟩ := counted_ended h hs
      exact ⟨iff_of_true ⟨hcounted.countExact, by rw [hreturned]; nofun⟩ nofun,
        fun _ => hcounted⟩
    | _ => exact absurd trivial hbetween

end Call

/-! ### Runs -/

/-- In a run from the start of the App, the counter is exact after every step, and kept by the
calls that return `false`, exactly when no parameters are refused after the lock. -/
theorem countExact_iff (jsonObject : CString → Option NSDictionary) (app : App)
    (inputs : List LifecycleInput) :
    AllSteps (lifecycleStep jsonObject) (fun _ _ s' => CountKept jsonObject s')
        (Lifecycle.initial app) inputs ↔
      AllSteps (lifecycleStep jsonObject) (fun s input _ => GoodStart s input)
        (Lifecycle.initial app) inputs := by
  refine AllSteps.iff_of_inv Counted (fun _ _ _ h hs => ?_) (counted_initial app) inputs
  exact countKept_step h hs

/-- A start with secure signalling and no directory. -/
def refusedStart : List LifecycleInput := [.listen { signalingSecure := some true }, .finish]

/-- The call returns `false`, no loop is called, and the instance stays counted. A later call
with good parameters starts nothing. -/
theorem refused_start_counts :
    ¬ AllSteps (lifecycleStep fun _ => none) (fun _ _ s' => CountKept (fun _ => none) s')
        (Lifecycle.initial { state := .offline }) refusedStart ∧
      ∃ s, run (lifecycleStep fun _ => none) (Lifecycle.initial { state := .offline })
          refusedStart = some s ∧
        s.returned = some false ∧ s.loops = 0 ∧ s.app.signallingInstances = 1 ∧
        ∃ s', run (lifecycleStep fun _ => none) s [.listen {}, .finish] = some s' ∧
          s'.returned = some false ∧ s'.phase = .absent := by
  refine ⟨fun h => ?_, _, rfl, rfl, rfl, rfl, _, rfl, rfl, rfl⟩
  have hkept := ((h _ rfl).2 _ rfl).1.2 rfl
  cases hkept

end RestCommSdk.Proofs
