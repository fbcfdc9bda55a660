import RestCommSdk.Lib.Run

/-!
# `RestCommSdk.Lib.Simulation`: one machine in terms of another

`Simulates` says that whatever a step of the first machine does, the second one can do too, in
any number of steps. The relation tells which of their states belong together. Steps of the first
machine may have to keep a condition.

`Simulates.runs` takes this to whole runs, and `Simulates.invariant` brings an invariant of the
second machine back to the first.
-/

set_option autoImplicit false

namespace RestCommSdk.Lib

variable {σ τ ι κ : Type}

/-- The steps of `step₁` with `P` are runs of `step₂`, between states that belong together. -/
def Simulates (step₁ : σ → ι → Option σ) (step₂ : τ → κ → Option τ) (P : σ → ι → σ → Prop)
    (R : σ → τ → Prop) : Prop :=
  ∀ s t i s', R s t → step₁ s i = some s' → P s i s' →
    ∃ js t', run step₂ t js = some t' ∧ R s' t'

section
variable {step₁ : σ → ι → Option σ} {step₂ : τ → κ → Option τ} {P : σ → ι → σ → Prop}
  {R : σ → τ → Prop} {s s' : σ} {t : τ} {is : List ι}

/-- A run is simulated step by step. -/
theorem Simulates.runs (h : Simulates step₁ step₂ P R) (hR : R s t) (hP : AllSteps step₁ P s is)
    (hrun : run step₁ s is = some s') : ∃ js t', run step₂ t js = some t' ∧ R s' t' := by
  induction is generalizing s t with
  | nil =>
    cases hrun
    exact ⟨[], t, rfl, hR⟩
  | cons i is ih =>
    obtain ⟨s₁, h₁, hrest⟩ := Option.bind_eq_some_iff.mp hrun
    obtain ⟨hPs, hPrest⟩ := hP s₁ h₁
    obtain ⟨js, t₁, hjs, hR₁⟩ := h s t i s₁ hR h₁ hPs
    obtain ⟨ks, t', hks, hR'⟩ := ih hR₁ hPrest hrest
    exact ⟨js ++ ks, t', by rw [run_append, hjs, Option.bind_some, hks], hR'⟩

/-- What every step of the second machine keeps can be said of the runs of the first. -/
theorem Simulates.invariant (h : Simulates step₁ step₂ P R) (Inv : τ → Prop) (hstart : Inv t)
    (hstep : ∀ t j t', Inv t → step₂ t j = some t' → Inv t') (hR : R s t)
    (hP : AllSteps step₁ P s is) (hrun : run step₁ s is = some s') : ∃ t', R s' t' ∧ Inv t' := by
  obtain ⟨js, t', hjs, hR'⟩ := h.runs hR hP hrun
  exact ⟨t', hR', (Reachable.of_run hjs).induction Inv hstart hstep⟩

end

end RestCommSdk.Lib
