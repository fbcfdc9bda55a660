import Mathlib.Data.List.Nodup
import Mathlib.Data.List.Perm.Basic
import RestCommSdk.Lib.Run

/-!
# `RestCommSdk.Lib.Resources`: resources that are acquired, used and released

A client acquires resources, uses those that it holds, and releases them. An `Access` is one
such act. `holds` follows a trace of them: what is held afterwards, or `none` once a resource is
used or released that is not held, or acquired although it is held.

What is held is what is `Open` in the trace: there is an acquisition with no release behind it
(`open_iff_mem`). So a trace that `holds` follows is `Disciplined`: nothing is used after it was
released, and nothing is released twice.

`traces` is what the steps of a machine do, in order, and `holds_traces` the rule for a whole run.
`Guarded` says that the inputs of a run keep a contract, and `Guarded.progress` that such a run
does not get stuck.
-/

set_option autoImplicit false

namespace RestCommSdk.Lib

/-! ### Traces of accesses -/

section Accesses
variable {ρ : Type}

/-- What is done with a resource. -/
inductive Access (ρ : Type) where
  | acquire (r : ρ)
  | use (r : ρ)
  | release (r : ρ)
  deriving DecidableEq, Repr

/-- The resource that is accessed. -/
def Access.resource : Access ρ → ρ
  | acquire r | use r | release r => r

variable [DecidableEq ρ]

/-- What is held after one access. -/
def Access.step (held : List ρ) : Access ρ → Option (List ρ)
  | acquire r => if r ∈ held then none else some (r :: held)
  | use r => if r ∈ held then some held else none
  | release r => if r ∈ held then some (held.erase r) else none

/-- What is held after the accesses of a trace. -/
def holds (held : List ρ) (trace : List (Access ρ)) : Option (List ρ) :=
  trace.foldlM Access.step held

@[simp] theorem holds_nil (held : List ρ) : holds held [] = some held := rfl

/-- The first access, and the others. -/
theorem holds_cons (held : List ρ) (access : Access ρ) (trace : List (Access ρ)) :
    holds held (access :: trace) = (access.step held).bind fun held' => holds held' trace := rfl

/-- One trace after the other. -/
theorem holds_append (held : List ρ) (trace later : List (Access ρ)) :
    holds held (trace ++ later) = (holds held trace).bind fun held' => holds held' later :=
  List.foldlM_append

/-- One more access. -/
theorem holds_concat {held held' : List ρ} {trace : List (Access ρ)}
    (h : holds held trace = some held') (access : Access ρ) :
    holds held (trace ++ [access]) = access.step held' := by
  rw [holds_append, h, Option.bind_some, holds_cons]
  cases access.step held' <;> rfl

/-- Nothing is held twice after a step. -/
theorem nodup_of_step {held held' : List ρ} {access : Access ρ} (hnodup : held.Nodup)
    (h : access.step held = some held') : held'.Nodup := by
  cases access <;> simp only [Access.step] at h <;> split at h <;> cases h
  case acquire.isFalse hnot => exact List.nodup_cons.mpr ⟨hnot, hnodup⟩
  case use.isTrue => exact hnodup
  case release.isTrue => exact hnodup.erase _

/-- Nothing is held twice after a trace. -/
theorem nodup_of_holds {held held' : List ρ} {trace : List (Access ρ)} (hnodup : held.Nodup)
    (h : holds held trace = some held') : held'.Nodup := by
  induction trace generalizing held with
  | nil =>
    cases h
    exact hnodup
  | cons access trace ih =>
    rw [holds_cons] at h
    obtain ⟨held₁, hstep, hrest⟩ := Option.bind_eq_some_iff.mp h
    exact ih (nodup_of_step hnodup hstep) hrest

/-- What is held after a release was held before, and is not what was released. -/
theorem mem_step_release {held held' : List ρ} {r r' : ρ} (hnodup : held.Nodup)
    (h : (Access.release r).step held = some held') (hr' : r' ∈ held') :
    r' ∈ held ∧ r' ≠ r := by
  simp only [Access.step] at h
  split at h <;> cases h
  exact (hnodup.mem_erase_iff.mp hr').symm

/-- What is held stays so until it is released. -/
theorem mem_of_step {held held' : List ρ} {access : Access ρ} {r : ρ}
    (h : access.step held = some held') (hr : r ∈ held) (hrelease : access ≠ .release r) :
    r ∈ held' := by
  cases access with
  | acquire r' | use r' =>
    simp only [Access.step] at h
    split at h <;> cases h
    simp [hr]
  | release r' =>
    simp only [Access.step] at h
    split at h <;> cases h
    exact (List.mem_erase_of_ne fun heq => hrelease (by rw [heq])).mpr hr

/-- What is not released stays held. -/
theorem mem_of_holds {held held' : List ρ} {trace : List (Access ρ)} {r : ρ}
    (h : holds held trace = some held') (hr : r ∈ held) (hrelease : .release r ∉ trace) :
    r ∈ held' := by
  induction trace generalizing held with
  | nil =>
    cases h
    exact hr
  | cons access trace ih =>
    rw [holds_cons] at h
    obtain ⟨held₁, hstep, hrest⟩ := Option.bind_eq_some_iff.mp h
    rw [List.mem_cons, not_or] at hrelease
    exact ih hrest (mem_of_step hstep hr (Ne.symm hrelease.1)) hrelease.2

/-- The resource was acquired, and not released since. -/
def Open (r : ρ) (trace : List (Access ρ)) : Prop :=
  ∃ before after, trace = before ++ .acquire r :: after ∧ .release r ∉ after

/-- What is used or released is open, and what is acquired is not. -/
structure Disciplined (trace : List (Access ρ)) : Prop where
  used : ∀ before r after, trace = before ++ .use r :: after → Open r before
  released : ∀ before r after, trace = before ++ .release r :: after → Open r before
  acquired : ∀ before r after, trace = before ++ .acquire r :: after → ¬ Open r before

/-- A resource that is held at the end is open. -/
theorem open_of_mem {trace : List (Access ρ)} {held : List ρ} {r : ρ}
    (h : holds [] trace = some held) (hr : r ∈ held) : Open r trace := by
  induction trace using List.reverseRecOn generalizing held with
  | nil =>
    cases h
    cases hr
  | append_singleton trace access ih =>
    obtain ⟨held₁, hbefore, -⟩ :=
      Option.bind_eq_some_iff.mp ((holds_append [] trace [access]).symm.trans h)
    have hstep : access.step held₁ = some held := (holds_concat hbefore access).symm.trans h
    -- Unless the last access acquires the resource, it was held before, and is not released now.
    by_cases hacquire : access = .acquire r
    · exact ⟨trace, [], by rw [hacquire], by simp⟩
    · have hkept : r ∈ held₁ ∧ access ≠ .release r := by
        cases access with
        | acquire r' =>
          simp only [Access.step] at hstep
          split at hstep <;> cases hstep
          rcases List.mem_cons.mp hr with rfl | hr
          · exact absurd rfl hacquire
          · exact ⟨hr, by simp⟩
        | use r' =>
          simp only [Access.step] at hstep
          split at hstep <;> cases hstep
          exact ⟨hr, by simp⟩
        | release r' =>
          obtain ⟨hmem, hne⟩ := mem_step_release (nodup_of_holds .nil hbefore) hstep hr
          exact ⟨hmem, fun heq => hne (Access.release.inj heq).symm⟩
      obtain ⟨before, after, rfl, hafter⟩ := ih hbefore hkept.1
      refine ⟨before, after ++ [access], by simp, ?_⟩
      simpa [hafter] using hkept.2.symm

/-- What is open at the end of a trace is what is held then. -/
theorem open_iff_mem {trace : List (Access ρ)} {held : List ρ} {r : ρ}
    (h : holds [] trace = some held) : Open r trace ↔ r ∈ held := by
  refine ⟨fun hopen => ?_, open_of_mem h⟩
  obtain ⟨before, after, rfl, hafter⟩ := hopen
  rw [holds_append] at h
  obtain ⟨held₁, -, hrest⟩ := Option.bind_eq_some_iff.mp h
  rw [holds_cons] at hrest
  obtain ⟨held₂, hstep, hrest⟩ := Option.bind_eq_some_iff.mp hrest
  refine mem_of_holds hrest ?_ hafter
  simp only [Access.step] at hstep
  split at hstep <;> cases hstep
  exact List.mem_cons_self

/-- A trace that can be followed is disciplined. -/
theorem disciplined_of_holds {trace : List (Access ρ)} {held : List ρ}
    (h : holds [] trace = some held) : Disciplined trace := by
  -- What is held in front of an access, and that the access can be made there.
  have hsplit : ∀ before access after, trace = before ++ access :: after →
      ∃ held₁ held₂, holds [] before = some held₁ ∧ access.step held₁ = some held₂ := by
    rintro before access after rfl
    rw [holds_append] at h
    obtain ⟨held₁, hbefore, hrest⟩ := Option.bind_eq_some_iff.mp h
    rw [holds_cons] at hrest
    obtain ⟨held₂, hstep, -⟩ := Option.bind_eq_some_iff.mp hrest
    exact ⟨held₁, held₂, hbefore, hstep⟩
  refine ⟨fun before r after htrace => ?_, fun before r after htrace => ?_,
    fun before r after htrace hopen => ?_⟩ <;>
    obtain ⟨held₁, held₂, hbefore, hstep⟩ := hsplit before _ after htrace <;>
    simp only [Access.step] at hstep <;> split at hstep <;> cases hstep
  · exact open_of_mem hbefore ‹_›
  · exact open_of_mem hbefore ‹_›
  · exact absurd ((open_iff_mem hbefore).mp hopen) ‹_›

end Accesses

/-! ### Machines -/

section Machines
variable {σ ι ω : Type} (step : σ → ι → Option σ)

/-- What the steps of a run do, in order. -/
def traces (does : σ → ι → σ → List ω) : σ → List ι → List ω
  | _, [] => []
  | s, i :: is =>
    match step s i with
    | some s' => does s i s' ++ traces does s' is
    | none => []

/-- Every input of a run keeps a contract in the state in which it comes. -/
def Guarded (G : σ → ι → Prop) : σ → List ι → Prop
  | _, [] => True
  | s, i :: is => G s i ∧ ∀ s', step s i = some s' → Guarded G s' is

/-- A contract can be checked step by step. -/
instance Guarded.decidable (G : σ → ι → Prop) [∀ s i, Decidable (G s i)] :
    (s : σ) → (is : List ι) → Decidable (Guarded step G s is)
  | _, [] => isTrue trivial
  | s, i :: is =>
    match h : step s i with
    | some s' =>
      haveI := Guarded.decidable G s' is
      decidable_of_iff (G s i ∧ Guarded step G s' is) (by simp [Guarded, h])
    | none => decidable_of_iff (G s i) (by simp [Guarded, h])

variable {step}

/-- When every step is accepted, so is the run. -/
theorem holds_traces {ρ : Type} [DecidableEq ρ] (does : σ → ι → σ → List (Access ρ))
    {P : σ → ι → σ → Prop} (R : σ → List ρ → Prop)
    (hstep : ∀ s held i s', R s held → step s i = some s' → P s i s' →
      ∃ held', holds held (does s i s') = some held' ∧ R s' held')
    {s s' : σ} {held : List ρ} {is : List ι} (hs : R s held) (hP : AllSteps step P s is)
    (hrun : run step s is = some s') :
    ∃ held', holds held (traces step does s is) = some held' ∧ R s' held' := by
  induction is generalizing s held with
  | nil =>
    cases hrun
    exact ⟨held, rfl, hs⟩
  | cons i is ih =>
    obtain ⟨s₁, h₁, hrest⟩ := Option.bind_eq_some_iff.mp hrun
    obtain ⟨hPs, hPrest⟩ := hP s₁ h₁
    obtain ⟨held₁, hheld₁, hR₁⟩ := hstep s held i s₁ hs h₁ hPs
    obtain ⟨held', hheld', hR'⟩ := ih hR₁ hPrest hrest
    refine ⟨held', ?_, hR'⟩
    simp only [traces, h₁]
    rw [holds_append, hheld₁, Option.bind_some, hheld']

/-- A run whose inputs keep a contract goes through, when a step on such an input does. -/
theorem Guarded.progress {G : σ → ι → Prop} (Inv : σ → Prop)
    (hstep : ∀ s i, Inv s → G s i → ∃ s', step s i = some s' ∧ Inv s')
    {s : σ} {is : List ι} (hs : Inv s) (h : Guarded step G s is) :
    ∃ s', run step s is = some s' ∧ Inv s' := by
  induction is generalizing s with
  | nil => exact ⟨s, rfl, hs⟩
  | cons i is ih =>
    obtain ⟨s₁, h₁, hinv⟩ := hstep s i hs h.1
    obtain ⟨s', hrun, hs'⟩ := ih hinv (h.2 s₁ h₁)
    exact ⟨s', by rw [run, h₁, Option.bind_some, hrun], hs'⟩

end Machines

end RestCommSdk.Lib
