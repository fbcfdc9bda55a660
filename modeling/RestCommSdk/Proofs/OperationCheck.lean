import RestCommSdk.Proofs.OperationList

/-!
# `RestCommSdk.Proofs.OperationCheck`: what `ssc_oper_check` answers

The loop of `ssc_oper_check` tests `tmp` and steps to the link of `op`. So it looks at the first
operation of the list, then at what `op` points to, and then at that again for ever
(`checkLoop_eq_none`). `check_iff` says when this tells whether `op` is in the list.
-/

set_option autoImplicit false

namespace RestCommSdk.Proofs

open RestCommSdk.Lib
open RestCommSdk.CliInterface

section Check
variable {h : SscHeap} {op : Nat}

/-- `ssc_oper_check` comes to an end, with this result. -/
def ChecksTo (h : SscHeap) (op : Nat) (result : Option Nat) : Prop :=
  ∃ fuel, h.sscOperCheck op fuel = some result

/-- Once the loop stands on what `op` points to it goes on for ever, unless that is `op`. -/
theorem checkLoop_eq_none {b : Nat} (hnext : h.next op = some (some b)) (hb : b ≠ op)
    (fuel : Nat) : h.checkLoop op fuel (some b) = none := by
  induction fuel with
  | zero => rfl
  -- A turn comes back to where it was.
  | succ fuel ih =>
    simp only [SscHeap.checkLoop, hb, if_false, hnext, Option.bind_eq_bind, Option.bind_some, ih]

/-- The loop on an operation that is not `op`. -/
theorem checkLoop_succ {a : Nat} (ha : a ≠ op) (fuel : Nat) :
    h.checkLoop op (fuel + 1) (some a) = (h.next op).bind (h.checkLoop op fuel) := by
  simp only [SscHeap.checkLoop, ha, if_false, Option.bind_eq_bind]

/-- What `ssc_oper_check` returns when the first operation of the list is not `op`. -/
theorem checksTo_iff_of_ne {a : Nat} (hstart : h.operations = some a) (ha : a ≠ op)
    (result : Option Nat) :
    ChecksTo h op result ↔
      h.next op = some none ∧ result = none ∨ h.next op = some (some op) ∧ result = some op := by
  unfold ChecksTo SscHeap.sscOperCheck
  rw [hstart]
  constructor
  · rintro ⟨fuel, hcheck⟩
    cases fuel with
    | zero => cases hcheck
    | succ fuel =>
      rw [checkLoop_succ ha] at hcheck
      obtain ⟨p, hnext, hcheck⟩ := Option.bind_eq_some_iff.mp hcheck
      cases fuel with
      | zero => cases hcheck
      | succ fuel =>
        cases p with
        | none =>
          cases hcheck
          exact .inl ⟨hnext, rfl⟩
        -- On the link of `op` the loop stands still: it ends at once or never.
        | some b =>
          by_cases hb : b = op
          · subst hb
            simp only [SscHeap.checkLoop, if_true] at hcheck
            cases hcheck
            exact .inr ⟨hnext, rfl⟩
          · rw [checkLoop_eq_none hnext hb] at hcheck
            cases hcheck
  · rintro (⟨hnext, rfl⟩ | ⟨hnext, rfl⟩)
    · refine ⟨2, ?_⟩
      rw [checkLoop_succ ha, hnext]
      rfl
    · refine ⟨2, ?_⟩
      rw [checkLoop_succ ha, hnext]
      simp [SscHeap.checkLoop]

end Check

/-- `ssc_oper_check` ends and tells whether `op` is in the list exactly when the list is empty,
or `op` is its first operation, or `op` is not in the list and points nowhere. -/
theorem check_iff (h : SscHeap) (l : List SscOper) (hl : Operations h l) (op : Nat) :
    ChecksTo h op (if op ∈ l.map (·.addr) then some op else none) ↔
      l = [] ∨ (l.map (·.addr)).head? = some op ∨
        op ∉ l.map (·.addr) ∧ h.next op = some none := by
  cases l with
  | nil =>
    have hstart : h.operations = none := hl.links.nil_inv
    refine ⟨fun _ => .inl rfl, fun _ => ⟨1, ?_⟩⟩
    rw [SscHeap.sscOperCheck, hstart]
    rfl
  | cons first l =>
    have hstart : h.operations = some first.addr := hl.links.cons_inv.1
    by_cases hfirst : first.addr = op
    · refine ⟨fun _ => .inr (.inl (congrArg some hfirst)), fun _ => ⟨1, ?_⟩⟩
      rw [SscHeap.sscOperCheck, hstart, if_pos (by simp [hfirst])]
      simp [SscHeap.checkLoop, hfirst]
    · rw [checksTo_iff_of_ne hstart hfirst]
      by_cases hmem : op ∈ (first :: l).map (·.addr)
      · -- A member that is not the first is not found, wherever it stands.
        rw [if_pos hmem]
        constructor
        · rintro (⟨-, hnull⟩ | ⟨hnext, -⟩)
          · cases hnull
          · exact absurd hnext (hl.links.next_ne_self hmem)
        · rintro (hempty | hhead | ⟨hnot, -⟩)
          · cases hempty
          · exact absurd (Option.some.inj hhead) hfirst
          · exact absurd hmem hnot
      · rw [if_neg hmem]
        constructor
        · rintro (⟨hnext, -⟩ | ⟨-, hsome⟩)
          · exact .inr (.inr ⟨hmem, hnext⟩)
          · cases hsome
        · rintro (hempty | hhead | ⟨-, hnext⟩)
          · cases hempty
          · exact absurd (Option.some.inj hhead) hfirst
          · exact .inl ⟨hnext, rfl⟩

/-- The check is asked for the last of two operations. -/
theorem check_iff_last :
    ChecksTo registrationAndMessage 2 (if 2 ∈ [1, 2] then some 2 else none) ↔
      ([⟨1, 1, false, none, .register, none, .none, none, true⟩,
        ⟨2, 2, false, none, .message, none, .none, none, false⟩] : List SscOper) = [] ∨
      [1, 2].head? = some 2 ∨ 2 ∉ [1, 2] ∧ registrationAndMessage.next 2 = some none :=
  check_iff registrationAndMessage _ operations_registrationAndMessage 2

/-- The last of two operations is said not to be in the list. -/
theorem last_operation_not_found :
    ¬ ChecksTo registrationAndMessage 2 (if 2 ∈ [1, 2] then some 2 else none) := by
  rw [checksTo_iff_of_ne (a := 1) rfl (by decide)]
  decide

end RestCommSdk.Proofs
