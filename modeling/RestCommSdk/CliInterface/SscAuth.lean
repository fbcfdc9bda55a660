import RestCommSdk.CliInterface.SscSip

/-!
# `RestCommSdk.CliInterface.SscAuth`: the loop of `ssc_auth`

`ssc_auth` with the variables of its loop: the iterator into `ssc_auth_pend`, the flag
`auth_done`, and what is given to `su_free`. A round looks at the item at the iterator, frees it
and erases it from the list that the loop goes over. `sscAuth` of `RestCommSdk.CliInterface.SscSip`
is what the loop does to the state of the client (`sscAuthInPlace_ssc`).
-/

set_option autoImplicit false

namespace RestCommSdk.CliInterface

/-- The variables of `ssc_auth`. -/
structure AuthRun where
  ssc : Ssc
  /-- The position of the iterator in `ssc_auth_pend`. -/
  it : Nat := 0
  authDone : Bool := false
  /-- The items that were freed, in the order of the calls. -/
  freed : List SscAuthItem := []
  deriving DecidableEq, Repr

namespace AuthRun

/-- The test of a round, and the authentication. -/
def authenticate (env : SscEnv) (data : CString) (authitem : SscAuthItem) (run : AuthRun) :
    AuthRun :=
  if env.operCheck (run.ssc.operations.map (·.addr)) authitem.op then
    match run.ssc.oper? authitem.op with
    | some op =>
      { run with
        ssc := (run.ssc.emit (.authenticate op.opHandle (authString authitem data))).emit
          (.handleUnref op.opHandle)
        authDone := true }
    | none => { run with authDone := true }
  -- "Stale authentication challenge, ignoring."
  else run

/-- The end of a round. `erase` answers the iterator to the next item, which has the position of
the one that is gone. -/
def remove (authitem : SscAuthItem) (run : AuthRun) : AuthRun :=
  { run with
    ssc := { run.ssc with authPend := run.ssc.authPend.eraseIdx run.it }
    freed := run.freed ++ [authitem] }

/-- Answering a challenge leaves the queue. -/
@[simp] theorem authPend_authenticate (env : SscEnv) (data : CString) (authitem : SscAuthItem)
    (run : AuthRun) : (run.authenticate env data authitem).ssc.authPend = run.ssc.authPend := by
  unfold authenticate
  split
  · split <;> rfl
  · rfl

/-- Answering a challenge leaves the place in the queue. -/
@[simp] theorem it_authenticate (env : SscEnv) (data : CString) (authitem : SscAuthItem)
    (run : AuthRun) : (run.authenticate env data authitem).it = run.it := by
  unfold authenticate
  split
  · split <;> rfl
  · rfl

/-- Every round erases an item. -/
theorem length_round_lt (env : SscEnv) (data : CString) {authitem : SscAuthItem} {run : AuthRun}
    (h : run.ssc.authPend[run.it]? = some authitem) :
    ((run.authenticate env data authitem).remove authitem).ssc.authPend.length <
      run.ssc.authPend.length := by
  obtain ⟨hlt, -⟩ := List.getElem?_eq_some_iff.mp h
  show ((run.authenticate env data authitem).ssc.authPend.eraseIdx _).length < _
  rw [authPend_authenticate, it_authenticate, List.length_eraseIdx_of_lt hlt]
  omega

end AuthRun

/-- The while loop of `ssc_auth`: up to the end of the list, or until `auth_done` is set. -/
def sscAuthWhile (env : SscEnv) (data : CString) (run : AuthRun) : AuthRun :=
  match _h : run.ssc.authPend[run.it]? with
  | some authitem =>
    if run.authDone then run
    else sscAuthWhile env data ((run.authenticate env data authitem).remove authitem)
  | none => run
termination_by run.ssc.authPend.length
decreasing_by exact AuthRun.length_round_lt env data _h

/-- `ssc_auth`, with what it frees. -/
def sscAuthInPlace (env : SscEnv) (ssc : Ssc) (data : CString) : AuthRun :=
  sscAuthWhile env data { ssc := ssc }

/-! ### The rounds -/

section Rounds
variable {env : SscEnv} {run : AuthRun}

/-- The loop ends once a challenge was answered. -/
theorem sscAuthWhile_done (data : CString) (hdone : run.authDone = true) :
    sscAuthWhile env data run = run := by
  rw [sscAuthWhile]
  split
  · rw [if_pos hdone]
  · rfl

/-- The loop ends with the queue. -/
theorem sscAuthWhile_nil (data : CString) (hpend : run.ssc.authPend = []) :
    sscAuthWhile env data run = run := by
  rw [sscAuthWhile]
  split
  · rename_i authitem h
    rw [hpend] at h
    cases h
  · rfl

/-- One round of the loop takes the first challenge off. -/
theorem sscAuthWhile_cons (data : CString) {item : SscAuthItem} {rest : List SscAuthItem}
    (hit : run.it = 0) (hdone : run.authDone = false) (hpend : run.ssc.authPend = item :: rest) :
    sscAuthWhile env data run =
      sscAuthWhile env data ((run.authenticate env data item).remove item) := by
  rw [sscAuthWhile]
  split
  · rename_i authitem h
    rw [hit, hpend] at h
    obtain rfl : item = authitem := Option.some.inj h
    rw [if_neg (by simp [hdone])]
  · rename_i h
    rw [hit, hpend] at h
    cases h

end Rounds

/-- The queue that the loop is given stands for the one in the state. -/
theorem sscAuthLoop_authPend (env : SscEnv) (data : CString) (ssc : Ssc)
    (pend queue : List SscAuthItem) :
    sscAuthLoop env data { ssc with authPend := pend } queue = sscAuthLoop env data ssc queue := by
  induction queue with
  | nil => rfl
  | cons item rest ih =>
    rw [sscAuthLoop, sscAuthLoop, ih]

/-- The iterator never leaves the front of the list, so that the loop does what `sscAuthLoop`
does. -/
theorem sscAuthWhile_ssc (env : SscEnv) (data : CString) (queue : List SscAuthItem)
    (run : AuthRun) (hit : run.it = 0) (hdone : run.authDone = false)
    (hpend : run.ssc.authPend = queue) :
    (sscAuthWhile env data run).ssc = sscAuthLoop env data run.ssc queue := by
  induction queue generalizing run with
  | nil =>
    rw [sscAuthWhile_nil data hpend, sscAuthLoop, ← hpend]
  | cons item rest ih =>
    rw [sscAuthWhile_cons data hit hdone hpend, sscAuthLoop]
    unfold AuthRun.authenticate
    split
    · -- The item is checked, removed and answered, and the walk is done.
      rename_i hlive
      have hop : Ssc.oper? { run.ssc with authPend := rest } item.op = run.ssc.oper? item.op := rfl
      simp only [hop]
      cases run.ssc.oper? item.op with
      | none =>
        rw [sscAuthWhile_done data rfl]
        simp [AuthRun.remove, hit, hpend]
      | some op =>
        rw [sscAuthWhile_done data rfl]
        simp [AuthRun.remove, hit, hpend, Ssc.emit]
    · -- The operation is gone: the item is removed, and the walk goes on.
      have hrest : (run.remove item).ssc.authPend = rest := by
        simp [AuthRun.remove, hit, hpend]
      rw [ih (run.remove item) hit hdone hrest]
      exact sscAuthLoop_authPend env data run.ssc _ rest

/-- The state of the client after `ssc_auth`. -/
theorem sscAuthInPlace_ssc (env : SscEnv) (ssc : Ssc) (data : CString) :
    (sscAuthInPlace env ssc data).ssc = sscAuth env ssc data :=
  sscAuthWhile_ssc env data ssc.authPend { ssc := ssc } rfl rfl rfl

end RestCommSdk.CliInterface
