import RestCommSdk.Lib.Run

/-!
# `RestCommSdk.Lib.Budget`: what a machine can afford

Some inputs bring one credit, and some outputs cost one. A state has a potential: the outputs that
are paid for already and can still come. When no step spends more than what it has, a run
(`countP_outputs_le`) puts out no more than its inputs and its first state have paid for.

When every step spends some of what is left and nothing brings any back, the run itself has an end
(`length_le_of_spends`). `countP_modify` is for potentials that count the entries of a list.
-/

set_option autoImplicit false

namespace RestCommSdk.Lib

/-- A write to one entry of a list changes what is counted there, and nothing else. -/
theorem countP_modify {α : Type} (p : α → Bool) (f : α → α) {l : List α} {i : Nat} {a : α}
    (h : l[i]? = some a) :
    (l.modify i f).countP p + (p a).toNat = l.countP p + (p (f a)).toNat := by
  induction l generalizing i with
  | nil => simp at h
  | cons b l ih =>
    cases i with
    | zero =>
      obtain rfl : b = a := by simpa using h
      rw [List.modify_zero_cons, List.countP_cons, List.countP_cons]
      cases p b <;> cases p (f b) <;> simp
    | succ i =>
      have hrest := ih (by simpa using h)
      rw [List.modify_succ_cons, List.countP_cons, List.countP_cons]
      omega

variable {σ ι ω : Type} {step : σ → ι → Option σ}

/-- The outputs with `p` are paid for by the inputs with `q` and by the potential of the start. -/
theorem countP_outputs_le {out : σ → List ω} {p : ω → Bool} {q : ι → Bool}
    (potential : σ → Nat) (Inv : σ → Prop)
    (hstep : ∀ s i s', Inv s → step s i = some s' →
      Inv s' ∧ (out s').countP p + potential s' ≤ potential s + (q i).toNat)
    {s : σ} (hs : Inv s) (is : List ι) :
    (outputs step out s is).countP p ≤ potential s + is.countP q := by
  induction is generalizing s with
  | nil => simp [outputs]
  | cons i is ih =>
    cases hs' : step s i with
    | none => simp [outputs, hs']
    | some s' =>
      obtain ⟨hinv, hpaid⟩ := hstep s i s' hs hs'
      have hrest := ih hinv
      simp only [outputs, hs', List.countP_append, List.countP_cons]
      cases hq : q i <;> simp only [hq, Bool.toNat_true, Bool.toNat_false] at hpaid ⊢ <;>
        simp <;> omega

/-- A run whose steps all spend some of what is `left` has no more steps than that. -/
theorem length_le_of_spends {P : σ → ι → σ → Prop} (left : σ → Nat → Prop)
    (hstep : ∀ s n i s', left s n → step s i = some s' → P s i s' → ∃ m < n, left s' m)
    {s s' : σ} {n : Nat} {is : List ι} (hs : left s n) (hP : AllSteps step P s is)
    (hrun : run step s is = some s') : ∃ m, left s' m ∧ is.length + m ≤ n := by
  induction is generalizing s n with
  | nil =>
    cases hrun
    exact ⟨n, hs, Nat.le_of_eq (Nat.zero_add n)⟩
  | cons i is ih =>
    obtain ⟨s₁, h₁, hrest⟩ := Option.bind_eq_some_iff.mp hrun
    obtain ⟨hPs, hPrest⟩ := hP s₁ h₁
    obtain ⟨n₁, hlt, hs₁⟩ := hstep s n i s₁ hs h₁ hPs
    obtain ⟨m, hm, hle⟩ := ih hs₁ hPrest hrest
    refine ⟨m, hm, ?_⟩
    rw [List.length_cons]
    omega

end RestCommSdk.Lib
