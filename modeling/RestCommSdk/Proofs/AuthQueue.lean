import RestCommSdk.CliInterface.SscAuth
import RestCommSdk.Proofs.HandleReferences

/-!
# `RestCommSdk.Proofs.AuthQueue`: how far one authentication goes

The loop of `ssc_auth` erases from the list that it goes over, and frees every item it passes.
`sscAuthWhile_stale` and `sscAuthWhile_live` are its two rounds: an item of a destroyed operation
is dropped, and an item of a listed one is answered and ends the loop. By induction on the items
before the first live one, `sscAuthInPlace_consumes` says what is left of a queue of any length.
-/

set_option autoImplicit false

namespace RestCommSdk.Proofs

open RestCommSdk.CliInterface

/-- The operation of the item is in the list. -/
def Listed (ssc : Ssc) (item : SscAuthItem) : Prop := item.op ∈ ssc.operations.map (·.addr)

instance (ssc : Ssc) (item : SscAuthItem) : Decidable (Listed ssc item) :=
  inferInstanceAs (Decidable (item.op ∈ ssc.operations.map (·.addr)))

section Rounds
variable {env : SscEnv} (hcheck : ∀ l a, env.operCheck l a = decide (a ∈ l))

include hcheck in
/-- A stale item is freed, and nothing else happens. -/
theorem authenticate_stale (data : CString) {run : AuthRun} {item : SscAuthItem}
    (hstale : ¬ Listed run.ssc item) : run.authenticate env data item = run := by
  have hanswer : env.operCheck (run.ssc.operations.map (·.addr)) item.op = false := by
    rw [hcheck]
    exact decide_eq_false hstale
  unfold AuthRun.authenticate
  rw [hanswer]
  exact if_neg Bool.false_ne_true

include hcheck in
/-- A live item is answered on the handle of its operation. -/
theorem authenticate_live (data : CString) {run : AuthRun} {item : SscAuthItem} {op : SscOper}
    (hop : run.ssc.oper? item.op = some op) :
    run.authenticate env data item =
      { run with
        ssc := (run.ssc.emit (.authenticate op.opHandle (authString item data))).emit
          (.handleUnref op.opHandle)
        authDone := true } := by
  have hlive : Listed run.ssc item := (oper?_isSome_iff run.ssc item.op).mp (by rw [hop]; rfl)
  have hanswer : env.operCheck (run.ssc.operations.map (·.addr)) item.op = true := by
    rw [hcheck]
    exact decide_eq_true hlive
  unfold AuthRun.authenticate
  rw [hanswer, if_pos rfl, hop]

include hcheck in
/-- The loop runs over the stale items at the front of the queue. -/
theorem sscAuthWhile_stale (data : CString) (before rest : List SscAuthItem) (run : AuthRun)
    (hit : run.it = 0) (hdone : run.authDone = false)
    (hpend : run.ssc.authPend = before ++ rest) (hstale : ∀ x ∈ before, ¬ Listed run.ssc x) :
    sscAuthWhile env data run =
      sscAuthWhile env data
        { run with ssc := { run.ssc with authPend := rest }, freed := run.freed ++ before } := by
  induction before generalizing run with
  | nil =>
    rw [List.nil_append] at hpend
    rw [List.append_nil, ← hpend]
  | cons item before ih =>
    have hfront : ¬ Listed run.ssc item := hstale item List.mem_cons_self
    have hbehind : ∀ x ∈ before, ¬ Listed run.ssc x := fun x hx =>
      hstale x (List.mem_cons_of_mem item hx)
    have hrest : (run.remove item).ssc.authPend = before ++ rest := by
      simp [AuthRun.remove, hit, hpend]
    rw [sscAuthWhile_cons data hit hdone hpend, authenticate_stale hcheck data hfront,
      ih (run.remove item) hit hdone hrest hbehind]
    simp [AuthRun.remove]

include hcheck in
/-- A live item at the front ends the loop. -/
theorem sscAuthWhile_live (data : CString) {item : SscAuthItem} {after : List SscAuthItem}
    {run : AuthRun} {op : SscOper} (hit : run.it = 0) (hdone : run.authDone = false)
    (hpend : run.ssc.authPend = item :: after) (hop : run.ssc.oper? item.op = some op) :
    sscAuthWhile env data run =
      { ssc := { run.ssc with
          authPend := after
          nua := run.ssc.nua ++
            [.authenticate op.opHandle (authString item data), .handleUnref op.opHandle] }
        it := 0
        authDone := true
        freed := run.freed ++ [item] } := by
  rw [sscAuthWhile_cons data hit hdone hpend, authenticate_live hcheck data hop,
    sscAuthWhile_done data rfl]
  simp [AuthRun.remove, Ssc.emit, hit, hpend]

end Rounds

/-- One authentication takes the queue up to its first live item: this one is answered on the
handle of its operation, which is let go of, and the items behind it stay. Without a live item
the queue is emptied and nothing is answered. -/
theorem sscAuthInPlace_consumes {env : SscEnv}
    (hcheck : ∀ l a, env.operCheck l a = decide (a ∈ l)) (ssc : Ssc) (data : CString) :
    ((∃ x ∈ ssc.authPend, Listed ssc x) →
      ∃ before item after op, ssc.authPend = before ++ item :: after ∧
        (∀ x ∈ before, ¬ Listed ssc x) ∧ Listed ssc item ∧ ssc.oper? item.op = some op ∧
        sscAuthInPlace env ssc data =
          { ssc := { ssc with
              authPend := after
              nua := ssc.nua ++
                [.authenticate op.opHandle (authString item data), .handleUnref op.opHandle] }
            it := 0
            authDone := true
            freed := before ++ [item] }) ∧
    ((∀ x ∈ ssc.authPend, ¬ Listed ssc x) →
      sscAuthInPlace env ssc data =
        { ssc := { ssc with authPend := [] }
          it := 0
          authDone := false
          freed := ssc.authPend }) := by
  constructor
  · rintro ⟨x, hmem, hlisted⟩
    -- The first item of the queue whose operation is listed.
    obtain ⟨item, hfirst⟩ : ∃ item, ssc.authPend.find? (fun x => Listed ssc x) = some item :=
      Option.isSome_iff_exists.mp (List.find?_isSome.mpr ⟨x, hmem, decide_eq_true hlisted⟩)
    obtain ⟨hitem, before, after, hpend, hbefore⟩ := List.find?_eq_some_iff_append.mp hfirst
    replace hitem : Listed ssc item := of_decide_eq_true hitem
    replace hbefore : ∀ x ∈ before, ¬ Listed ssc x := fun x hx => by simpa using hbefore x hx
    have hsome : (ssc.oper? item.op).isSome = true := (oper?_isSome_iff ssc item.op).mpr hitem
    obtain ⟨op, hop⟩ := Option.isSome_iff_exists.mp hsome
    refine ⟨before, item, after, op, hpend, hbefore, hitem, hop, ?_⟩
    rw [sscAuthInPlace,
      sscAuthWhile_stale hcheck data before (item :: after) { ssc := ssc } rfl rfl hpend hbefore,
      sscAuthWhile_live hcheck data rfl rfl rfl hop]
    simp
  · intro hstale
    have hpend : ssc.authPend = ssc.authPend ++ [] := (List.append_nil _).symm
    rw [sscAuthInPlace,
      sscAuthWhile_stale hcheck data ssc.authPend [] { ssc := ssc } rfl rfl hpend hstale,
      sscAuthWhile_nil data rfl]
    simp

/-- Two items of a destroyed operation, two of a listed one. -/
def mixedQueue : Ssc where
  operations := [{ addr := 1, opHandle := 7, opMethod := .invite }]
  authPend := [⟨"Digest".toList, some "a".toList, some "u".toList, 2⟩,
    ⟨"Digest".toList, some "b".toList, some "u".toList, 1⟩,
    ⟨"Digest".toList, some "c".toList, some "u".toList, 1⟩,
    ⟨"Digest".toList, some "d".toList, some "u".toList, 2⟩]

/-- A queue with one challenge whose operation is gone, and one whose operation is there. -/
theorem sscAuthInPlace_consumes_mixed :
    ∃ before item after op, mixedQueue.authPend = before ++ item :: after ∧
      (∀ x ∈ before, ¬ Listed mixedQueue x) ∧ Listed mixedQueue item ∧
      mixedQueue.oper? item.op = some op ∧
      sscAuthInPlace plainEnv mixedQueue "pw".toList =
        { ssc := { mixedQueue with
            authPend := after
            nua := mixedQueue.nua ++
              [.authenticate op.opHandle (authString item "pw".toList),
                .handleUnref op.opHandle] }
          it := 0
          authDone := true
          freed := before ++ [item] } :=
  (sscAuthInPlace_consumes (fun _ _ => rfl) mixedQueue "pw".toList).1 (by decide)

end RestCommSdk.Proofs
