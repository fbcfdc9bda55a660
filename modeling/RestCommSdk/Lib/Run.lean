import Mathlib.Data.List.Basic
import Mathlib.Data.List.Induction

/-!
# `RestCommSdk.Lib.Run`: runs of a partial deterministic machine

A machine has a step `step : σ → ι → Option σ`; `none` ends the run. `AllSteps` says that a
property of single steps holds of every step of a run, `outputs` collects what the steps of a
run put out, and `Reachable` is the set of states that runs lead to.

The rules: `Reachable.induction` (an invariant holds of every reachable state),
`AllSteps.of_inv` and `AllSteps.iff_of_inv` (a property of the steps of a run follows from,
or is, one that keeps an invariant), `forall_outputs_iff` (a property of all outputs is one of
all steps), `nodup_outputs` and `nodup_outputs_iff` (no output comes twice),
`outputs_map_eq_of_bisim` (runs that simulate each other put out the same).
-/

set_option autoImplicit false

namespace RestCommSdk.Lib

variable {σ ι ω : Type} (step : σ → ι → Option σ)

/-- The state after the inputs, or `none` when a step was not possible. -/
def run : σ → List ι → Option σ
  | s, [] => some s
  | s, i :: is => (step s i).bind fun s' => run s' is

/-- `P`, of the state before, the input and the state after, holds of every step. -/
def AllSteps (P : σ → ι → σ → Prop) : σ → List ι → Prop
  | _, [] => True
  | s, i :: is => ∀ s', step s i = some s' → P s i s' ∧ AllSteps P s' is

/-- A run can be checked step by step. -/
instance AllSteps.decidable (P : σ → ι → σ → Prop) [∀ s i s', Decidable (P s i s')] :
    (s : σ) → (is : List ι) → Decidable (AllSteps step P s is)
  | _, [] => isTrue trivial
  | s, i :: is =>
    match h : step s i with
    | some s' =>
      haveI := AllSteps.decidable P s' is
      decidable_of_iff (P s i s' ∧ AllSteps step P s' is) (by simp [AllSteps, h])
    | none => isTrue (by simp [AllSteps, h])

/-- What the states after the steps put out, in order. -/
def outputs (out : σ → List ω) : σ → List ι → List ω
  | _, [] => []
  | s, i :: is =>
    match step s i with
    | some s' => out s' ++ outputs out s' is
    | none => []

/-- The machine that also collects what its steps give. -/
def record (give : σ → ι → List ω) (s : σ × List ω) (i : ι) : Option (σ × List ω) :=
  (step s.1 i).map fun s' => (s', s.2 ++ give s.1 i)

/-- `s` is the state after some run from `start`. -/
inductive Reachable (start : σ) : σ → Prop where
  | start : Reachable start start
  | step {s s' : σ} {i : ι} : Reachable start s → step s i = some s' → Reachable start s'

variable {step}

/-- One run after the other. -/
theorem run_append (s : σ) (is js : List ι) :
    run step s (is ++ js) = (run step s is).bind fun s' => run step s' js := by
  induction is generalizing s with
  | nil => rfl
  | cons i is ih =>
    cases h : step s i <;> simp [run, h, ih]

/-- The outputs of one run after the other. -/
theorem outputs_append (out : σ → List ω) (s : σ) (is js : List ι) :
    outputs step out s (is ++ js) =
      outputs step out s is ++ ((run step s is).map fun s' => outputs step out s' js).getD [] := by
  induction is generalizing s with
  | nil => rfl
  | cons i is ih =>
    cases h : step s i with
    | none => simp [outputs, run, h]
    | some s' => simp [outputs, run, h, ih]

/-- The end of a run is reachable. -/
theorem Reachable.of_run {s s' : σ} {is : List ι} (h : run step s is = some s') :
    Reachable step s s' := by
  induction is using List.reverseRecOn generalizing s' with
  | nil =>
    cases h
    exact .start
  | append_singleton is i ih =>
    rw [run_append] at h
    obtain ⟨s₁, h₁, h₂⟩ := Option.bind_eq_some_iff.mp h
    obtain ⟨s₂, h₂, h₃⟩ := Option.bind_eq_some_iff.mp h₂
    cases h₃
    exact .step (ih h₁) h₂

/-- What holds at the start and is kept by every step holds of every reachable state. -/
theorem Reachable.induction {start s : σ} (h : Reachable step start s) (Inv : σ → Prop)
    (hstart : Inv start) (hstep : ∀ s i s', Inv s → step s i = some s' → Inv s') : Inv s := by
  induction h with
  | start => exact hstart
  | step _ hs ih => exact hstep _ _ _ ih hs

/-- What follows of a property of steps. -/
theorem AllSteps.imp {P Q : σ → ι → σ → Prop} {s : σ} {is : List ι} (h : AllSteps step P s is)
    (himp : ∀ s i s', P s i s' → Q s i s') : AllSteps step Q s is := by
  induction is generalizing s with
  | nil => trivial
  | cons i is ih =>
    intro s' hs'
    obtain ⟨hp, hrest⟩ := h s' hs'
    exact ⟨himp s i s' hp, ih hrest⟩

/-- What holds at the start and after every step holds at the end. -/
theorem AllSteps.holds_after {p : σ → Prop} {s s' : σ} {is : List ι} (hs : p s)
    (h : AllSteps step (fun _ _ s' => p s') s is) (hrun : run step s is = some s') : p s' := by
  induction is generalizing s with
  | nil =>
    cases hrun
    exact hs
  | cons i is ih =>
    obtain ⟨s₁, h₁, hrest⟩ := Option.bind_eq_some_iff.mp hrun
    obtain ⟨hp, hlater⟩ := h s₁ h₁
    exact ih hp hlater hrest

/-- When steps with `Q` keep an invariant and have `P` under it, the steps of a run with `Q`
have `P`. -/
theorem AllSteps.of_inv {P Q : σ → ι → σ → Prop} (Inv : σ → Prop)
    (hstep : ∀ s i s', Inv s → step s i = some s' → Q s i s' → Inv s' ∧ P s i s')
    {s : σ} {is : List ι} (hs : Inv s) (h : AllSteps step Q s is) : AllSteps step P s is := by
  induction is generalizing s with
  | nil => trivial
  | cons i is ih =>
    intro s' hs'
    obtain ⟨hq, hrest⟩ := h s' hs'
    obtain ⟨hinv, hp⟩ := hstep s i s' hs hs' hq
    exact ⟨hp, ih hinv hrest⟩

/-- When, under an invariant that steps with `Q` keep, a step on an allowed input has `P` exactly
when it has `Q`, the same is true of runs over such inputs. -/
theorem AllSteps.iff_of_inv_of_inputs {P Q : σ → ι → σ → Prop} {q : ι → Prop} (Inv : σ → Prop)
    (hstep : ∀ s i s', q i → Inv s → step s i = some s' →
      (P s i s' ↔ Q s i s') ∧ (Q s i s' → Inv s'))
    {s : σ} (hs : Inv s) (is : List ι) (hq : ∀ i ∈ is, q i) :
    AllSteps step P s is ↔ AllSteps step Q s is := by
  induction is generalizing s with
  | nil => rfl
  | cons i is ih =>
    refine forall_congr' fun s' => imp_congr_right fun hs' => ?_
    obtain ⟨hiff, hinv⟩ := hstep s i s' (hq i List.mem_cons_self) hs hs'
    rw [hiff]
    exact and_congr_right fun h => ih (hinv h) fun j hj => hq j (List.mem_cons_of_mem _ hj)

/-- The rule for runs over any inputs. -/
theorem AllSteps.iff_of_inv {P Q : σ → ι → σ → Prop} (Inv : σ → Prop)
    (hstep : ∀ s i s', Inv s → step s i = some s' →
      (P s i s' ↔ Q s i s') ∧ (Q s i s' → Inv s'))
    {s : σ} (hs : Inv s) (is : List ι) : AllSteps step P s is ↔ AllSteps step Q s is :=
  AllSteps.iff_of_inv_of_inputs (q := fun _ => True) Inv (fun s i s' _ => hstep s i s') hs is
    fun _ _ => trivial

/-- What holds of every input holds of the input of every step. -/
theorem AllSteps.of_inputs {q : ι → Prop} {is : List ι} (hq : ∀ i ∈ is, q i) (s : σ) :
    AllSteps step (fun _ i _ => q i) s is := by
  induction is generalizing s with
  | nil => trivial
  | cons i is ih =>
    intro s' _
    exact ⟨hq i List.mem_cons_self, ih (fun j hj => hq j (List.mem_cons_of_mem _ hj)) s'⟩

/-- What holds of every input may be used of every step. -/
theorem AllSteps.and_inputs {P : σ → ι → σ → Prop} {q : ι → Prop} {s : σ} {is : List ι}
    (h : AllSteps step P s is) (hq : ∀ i ∈ is, q i) :
    AllSteps step (fun s i s' => P s i s' ∧ q i) s is := by
  induction is generalizing s with
  | nil => trivial
  | cons i is ih =>
    intro s' hs'
    obtain ⟨hp, hrest⟩ := h s' hs'
    exact ⟨⟨hp, hq i List.mem_cons_self⟩, ih hrest fun j hj => hq j (List.mem_cons_of_mem _ hj)⟩

/-- All outputs have `p` exactly when every step puts out such values only. -/
theorem forall_outputs_iff {out : σ → List ω} {p : ω → Prop} {P : σ → ι → σ → Prop}
    (hstep : ∀ s i s', step s i = some s' → ((∀ o ∈ out s', p o) ↔ P s i s')) (s : σ)
    (is : List ι) : (∀ o ∈ outputs step out s is, p o) ↔ AllSteps step P s is := by
  induction is generalizing s with
  | nil => simp [outputs, AllSteps]
  | cons i is ih =>
    cases hs : step s i with
    | none => simp [outputs, AllSteps, hs]
    | some s' =>
      simp only [outputs, AllSteps, hs, List.mem_append, or_imp, forall_and, Option.some.injEq,
        forall_eq', ih s', hstep s i s' hs]

/-- A run puts nothing out twice when no step puts out what was done before, and what is put
out is done from then on. -/
theorem nodup_outputs {out : σ → List ω} {Q : σ → ι → σ → Prop} (Inv : σ → Prop)
    (done : σ → ω → Prop)
    (hstep : ∀ s i s', Inv s → step s i = some s' → Q s i s' →
      Inv s' ∧ (out s').Nodup ∧ (∀ o ∈ out s', ¬ done s o ∧ done s' o) ∧
        ∀ o, done s o → done s' o)
    {s : σ} {is : List ι} (hs : Inv s) (h : AllSteps step Q s is) :
    (outputs step out s is).Nodup ∧ ∀ o ∈ outputs step out s is, ¬ done s o := by
  induction is generalizing s with
  | nil => simp [outputs]
  | cons i is ih =>
    cases hs' : step s i with
    | none => simp [outputs, hs']
    | some s' =>
      obtain ⟨hq, hrest⟩ := h s' hs'
      obtain ⟨hinv, hnodup, hout, hdone⟩ := hstep s i s' hs hs' hq
      obtain ⟨hnodup', hfresh⟩ := ih hinv hrest
      simp only [outputs, hs', List.mem_append]
      -- What this step puts out is done afterwards, so the rest never puts it out again.
      refine ⟨List.nodup_append.mpr ⟨hnodup, hnodup', fun o ho o' ho' heq => ?_⟩,
        fun o ho hbefore => ?_⟩
      · subst heq
        exact hfresh o ho' (hout o ho).2
      · rcases ho with ho | ho
        · exact (hout o ho).1 hbefore
        · exact hfresh o ho (hdone o hbefore)

/-- A run puts nothing out twice, when its steps put out what they give, exactly when no step
gives what was given before. -/
theorem nodup_outputs_iff {out : σ → List ω} {give : σ → ι → List ω} (Inv : σ → Prop)
    (hstep : ∀ s i s', Inv s → step s i = some s' → Inv s' ∧ out s' = give s i)
    {s : σ} (hs : Inv s) (past : List ω) (is : List ι) :
    (past ++ outputs step out s is).Nodup ↔
      past.Nodup ∧ AllSteps (record step give)
        (fun s i _ => (give s.1 i).Nodup ∧ ∀ o ∈ give s.1 i, o ∉ s.2) (s, past) is := by
  induction is generalizing s past with
  | nil => simp [outputs, AllSteps]
  | cons i is ih =>
    cases hs' : step s i with
    | none => simp [outputs, AllSteps, record, hs']
    | some s' =>
      obtain ⟨hinv, hout⟩ := hstep s i s' hs hs'
      simp only [outputs, hs', AllSteps, record, Option.map_some, Option.some.injEq, forall_eq']
      rw [← List.append_assoc, hout, ih hinv, List.nodup_append, and_assoc, and_assoc, and_assoc]
      refine and_congr_right fun _ => and_congr_right fun _ => and_congr_left fun _ => ?_
      exact ⟨fun h o ho hpast => h o hpast o ho rfl,
        fun h o hpast o' ho' heq => h o' ho' (heq ▸ hpast)⟩

/-- Runs over related inputs, from related states, whose steps lead to related states and put
out the same under `f`, put out the same under `f`. -/
theorem outputs_map_eq_of_bisim {κ : Type} {out : σ → List ω} {f : ω → κ}
    {R : σ → σ → Prop} {S : ι → ι → Prop}
    (hstep : ∀ s t i j, R s t → S i j →
      Option.Rel (fun s' t' => R s' t' ∧ (out s').map f = (out t').map f) (step s i) (step t j))
    {s t : σ} {is js : List ι} (hst : R s t) (hij : List.Forall₂ S is js) :
    (outputs step out s is).map f = (outputs step out t js).map f := by
  induction hij generalizing s t with
  | nil => rfl
  | @cons i j is js hij _ ih =>
    simp only [outputs]
    generalize step s i = s', step t j = t', hstep s t i j hst hij = h
    cases h with
    | none => rfl
    | some hboth => simp only [List.map_append, hboth.2, ih hboth.1]

end RestCommSdk.Lib
