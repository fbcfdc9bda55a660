import Mathlib.Data.List.Perm.Basic
import RestCommSdk.Lib.Run
import RestCommSdk.Proofs.Authentication

/-!
# `RestCommSdk.Proofs.HandleReferences`: references to handles, taken and released

`priv_attach_op_and_username` takes a reference to the handle of the operation that is
challenged, and `ssc_auth` releases one when it answers a request. `References` counts both over
a run, and remembers of each pending request the handle that it was queued with.

`ssc_auth` takes requests off the queue up to and with the first one it answers, and releases
one handle for all of them. So the balance is kept by a step exactly when `ssc_auth` is not
called, finds nothing, or finds the first request of the queue live and its operation still with
the same handle (`balanced_after_auth`, `handlesBalanced_iff`).
-/

set_option autoImplicit false

namespace RestCommSdk.Proofs

open RestCommSdk.Lib
open RestCommSdk.CliInterface

/-! ### What is counted -/

/-- The handles that references were taken to. -/
def taken (calls : List NuaCall) : List Nat :=
  calls.filterMap fun
    | .handleRef nh => some nh
    | _ => none

/-- The handles that references were released of. -/
def released (calls : List NuaCall) : List Nat :=
  calls.filterMap fun
    | .handleUnref nh => some nh
    | _ => none

/-- The references of a run so far. -/
structure References where
  taken : List Nat := []
  released : List Nat := []
  /-- The pending requests, each with the handle of the operation it was queued for. -/
  queued : List (SscAuthItem × Nat) := []
  deriving DecidableEq, Repr

/-- For every handle, what was taken and not released is what is pending. -/
def Balanced (r : References) : Prop :=
  ∀ nh : Nat, (r.taken.count nh : Int) - r.released.count nh
    = r.queued.countP fun request => request.2 = nh

/-- The requests that a step queues, with their handles. -/
def attached (ssc : Ssc) : SscInput → List (SscAuthItem × Nat)
  | .event nh e =>
    match storedChallenge e, sscOperFindByHandle ssc nh with
    | some (some sip), some op => (pendingItems sip op).map fun item => (item, op.opHandle)
    | _, _ => []
  | .call .. => []

/-- The references after a step to `ssc'`: requests are queued at the back and leave at the
front. -/
def References.after (r : References) (ssc : Ssc) (input : SscInput) (ssc' : Ssc) : References :=
  let queued := r.queued ++ attached ssc input
  { taken := r.taken ++ Proofs.taken ssc'.nua
    released := r.released ++ Proofs.released ssc'.nua
    queued := queued.drop (queued.length - ssc'.authPend.length) }

/-- The client, with the references of the run. -/
def referenceMachine (env : SscEnv) (s : Ssc × References) (input : Alloc × SscInput) :
    Option (Ssc × References) :=
  (sscMachine env s.1 input).map fun ssc' => (ssc', s.2.after s.1 input.2 ssc')

/-- The text that a step calls `ssc_auth` with. -/
def authText (ssc : Ssc) : SscInput → Option CString
  | .call (.auth data) _ => data
  | .event nh e =>
    match storedChallenge e, sscOperFindByHandle ssc nh with
    | some (some _), some op => op.password
    | _, _ => none
  | _ => none

/-- When the step calls `ssc_auth`, the first pending request, if there is one, is for an
operation of the list that still has the handle it was queued with. -/
def FirstLive (ssc : Ssc) (r : References) (input : SscInput) : Prop :=
  (authText ssc input).isSome → ∀ request ∈ (r.queued ++ attached ssc input).head?,
    (ssc.oper? request.1.op).map (·.opHandle) = some request.2

/-! ### The balance -/

/-- Balanced means that what was taken was released or is queued. -/
theorem balanced_iff_perm (r : References) :
    Balanced r ↔ r.taken.Perm (r.released ++ r.queued.map (·.2)) := by
  rw [List.perm_iff_count]
  refine forall_congr' fun nh => ?_
  have hcount : (r.queued.map (·.2)).count nh = r.queued.countP fun request => request.2 = nh := by
    rw [List.count, List.countP_map]
    refine List.countP_congr fun request _ => ?_
    simp
  -- Now both sides count the same three lists, and `Balanced` subtracts.
  rw [List.count_append, hcount]
  omega

instance (r : References) : Decidable (Balanced r) :=
  decidable_of_iff _ (balanced_iff_perm r).symm

/-- When what is queued is taken too, the balance afterwards asks that what leaves the queue is
what is released. -/
theorem balanced_after_iff {r : References} (h : Balanced r) (added : List (SscAuthItem × Nat))
    (dropped : List Nat) (k : Nat) :
    Balanced
        { taken := r.taken ++ added.map (·.2)
          released := r.released ++ dropped
          queued := (r.queued ++ added).drop k } ↔
      dropped.Perm (((r.queued ++ added).take k).map (·.2)) := by
  rw [balanced_iff_perm] at h ⊢
  rw [List.perm_iff_count] at h ⊢
  rw [List.perm_iff_count]
  refine forall_congr' fun nh => ?_
  -- What is queued is what leaves the queue and what stays in it.
  have hparts : ((r.queued ++ added).map (·.2)).count nh
      = (((r.queued ++ added).take k).map (·.2)).count nh
        + (((r.queued ++ added).drop k).map (·.2)).count nh := by
    rw [← List.count_append, ← List.map_append, List.take_append_drop]
  have hbefore := h nh
  rw [List.map_append, List.count_append] at hparts
  simp only [List.count_append] at hbefore ⊢
  omega

/-! ### `ssc_auth` -/

section Auth
variable {env : SscEnv} (hcheck : ∀ l a, env.operCheck l a = decide (a ∈ l))

/-- An operation is found at the addresses that are listed. -/
theorem oper?_isSome_iff (ssc : Ssc) (addr : Nat) :
    (ssc.oper? addr).isSome = true ↔ addr ∈ ssc.operations.map (·.addr) := by
  rw [Ssc.oper?, List.find?_isSome, List.mem_map]
  simp

include hcheck in
/-- The first request of the queue is live. -/
theorem sscAuthLoop_live (data : CString) {ssc : Ssc} {item : SscAuthItem}
    (rest : List SscAuthItem) {op : SscOper} (hop : ssc.oper? item.op = some op) :
    sscAuthLoop env data ssc (item :: rest) =
      (Ssc.emit { ssc with authPend := rest }
        (.authenticate op.opHandle (authString item data))).emit (.handleUnref op.opHandle) := by
  have hlive : item.op ∈ ssc.operations.map (·.addr) :=
    (oper?_isSome_iff ssc item.op).mp (by rw [hop]; rfl)
  have hfound : Ssc.oper? { ssc with authPend := rest } item.op = some op := hop
  rw [sscAuthLoop, hcheck, decide_eq_true hlive, if_pos rfl]
  simp only [hfound]

include hcheck in
/-- The first request of the queue is stale. -/
theorem sscAuthLoop_stale (data : CString) {ssc : Ssc} {item : SscAuthItem}
    (rest : List SscAuthItem) (hop : ssc.oper? item.op = none) :
    sscAuthLoop env data ssc (item :: rest) = sscAuthLoop env data ssc rest := by
  have hstale : item.op ∉ ssc.operations.map (·.addr) := by
    intro hlive
    have hsome := (oper?_isSome_iff ssc item.op).mpr hlive
    rw [hop] at hsome
    cases hsome
  rw [sscAuthLoop, hcheck, decide_eq_false hstale]
  exact if_neg Bool.false_ne_true

include hcheck in
/-- No more handles are released than requests leave the queue. -/
theorem sscAuthLoop_released (data : CString) (ssc : Ssc) (queue : List SscAuthItem) :
    taken (sscAuthLoop env data ssc queue).nua = taken ssc.nua ∧
      ∃ dropped, released (sscAuthLoop env data ssc queue).nua = released ssc.nua ++ dropped ∧
        (sscAuthLoop env data ssc queue).authPend.length + dropped.length ≤ queue.length := by
  induction queue with
  -- A stale request is passed over with no release. The first live one ends the loop.
  | nil => exact ⟨rfl, [], by simp [sscAuthLoop], by simp [sscAuthLoop]⟩
  | cons item rest ih =>
    cases hop : ssc.oper? item.op with
    | none =>
      rw [sscAuthLoop_stale hcheck data rest hop]
      obtain ⟨htaken, dropped, hreleased, hlength⟩ := ih
      refine ⟨htaken, dropped, hreleased, ?_⟩
      rw [List.length_cons]
      omega
    | some op =>
      rw [sscAuthLoop_live hcheck data rest hop]
      refine ⟨?_, [op.opHandle], ?_, ?_⟩
      · simp [Ssc.emit, taken]
      · simp [Ssc.emit, released]
      · simp [Ssc.emit]

/-- Requests leave the queue at the front. -/
theorem sscAuthLoop_suffix (data : CString) (ssc : Ssc) (queue : List SscAuthItem) :
    (sscAuthLoop env data ssc queue).authPend <:+ queue := by
  induction queue with
  | nil => exact List.suffix_refl []
  | cons item rest ih =>
    rw [sscAuthLoop]
    split
    · dsimp only
      split
      · exact List.suffix_cons item rest
      · exact List.suffix_cons item rest
    · exact ih.trans (List.suffix_cons item rest)

include hcheck in
/-- What leaves the queue is what is released exactly when nothing was pending, or the first
request was live and had the handle of its operation. -/
theorem sscAuth_perm_iff (data : CString) (ssc : Ssc) (queued : List (SscAuthItem × Nat))
    (hqueued : queued.map (·.1) = ssc.authPend) :
    ∃ dropped, released (sscAuth env ssc data).nua = released ssc.nua ++ dropped ∧
      (dropped.Perm ((queued.take
          (queued.length - (sscAuth env ssc data).authPend.length)).map (·.2)) ↔
        ∀ request ∈ queued.head?, (ssc.oper? request.1.op).map (·.opHandle) = some request.2) := by
  rw [sscAuth, ← hqueued]
  cases queued with
  | nil => exact ⟨[], by simp [sscAuthLoop], by simp⟩
  | cons request rest =>
    obtain ⟨item, nh⟩ := request
    simp only [List.map_cons]
    cases hop : ssc.oper? item.op with
    | none =>
      -- The first request is dropped, and nothing released for it.
      rw [sscAuthLoop_stale hcheck data _ hop]
      obtain ⟨-, dropped, hreleased, hlength⟩ :=
        sscAuthLoop_released hcheck data ssc (rest.map (·.1))
      refine ⟨dropped, hreleased, ?_⟩
      simp only [List.head?_cons, Option.mem_def, Option.some.injEq, forall_eq', hop,
        Option.map_none, reduceCtorEq, iff_false]
      intro hperm
      have hcount := hperm.length_eq
      simp only [List.length_map, List.length_take, List.length_cons] at hcount hlength
      omega
    | some op =>
      rw [sscAuthLoop_live hcheck data _ hop]
      refine ⟨[op.opHandle], by simp [Ssc.emit, released], ?_⟩
      have hone : (rest.length + 1) - (rest.map Prod.fst).length = 1 := by
        rw [List.length_map]
        omega
      simp only [Ssc.emit, List.length_cons, hone, List.take_succ_cons, List.take_zero,
        List.map_cons, List.map_nil, List.head?_cons, Option.mem_def, Option.some.injEq,
        forall_eq', hop, Option.map_some, List.singleton_perm_singleton]

end Auth

/-! ### Steps -/

/-- The other calls take no reference. -/
theorem taken_filter (calls : List NuaCall) : taken (calls.filter isAuthCall) = taken calls := by
  rw [taken, List.filterMap_filter]
  refine List.filterMap_congr fun c _ => ?_
  cases c <;> rfl

/-- The other calls release no reference. -/
theorem released_filter (calls : List NuaCall) :
    released (calls.filter isAuthCall) = released calls := by
  rw [released, List.filterMap_filter]
  refine List.filterMap_congr fun c _ => ?_
  cases c <;> rfl

/-- What a step does to the references: it takes those of the requests it queues, and releases
`dropped`. -/
structure StepReferences (ssc : Ssc) (r : References) (input : SscInput) (ssc' : Ssc)
    (dropped : List Nat) : Prop where
  taken : taken ssc'.nua = (attached ssc input).map (·.2)
  released : released ssc'.nua = dropped
  suffix : ssc'.authPend <:+ (r.queued ++ attached ssc input).map (·.1)
  perm_iff : dropped.Perm (((r.queued ++ attached ssc input).take
      ((r.queued ++ attached ssc input).length - ssc'.authPend.length)).map (·.2)) ↔
    FirstLive ssc r input

section Step
variable {env : SscEnv} {alloc : Alloc} {ssc ssc' : Ssc} {r : References} {input : SscInput}

/-- A step that authenticates nothing. -/
theorem stepReferences_of_noAuth (hqueued : r.queued.map (·.1) = ssc.authPend)
    (hnua : ssc.nua = []) (h : NoAuth ssc ssc') (hattached : attached ssc input = [])
    (htext : authText ssc input = none) : StepReferences ssc r input ssc' [] := by
  have hcalls : ssc'.nua.filter isAuthCall = [] := by
    rw [h.calls, hnua]
    rfl
  have hlength : r.queued.length = ssc'.authPend.length := by
    rw [h.authPend, ← hqueued, List.length_map]
  refine ⟨?_, ?_, ?_, ?_⟩
  · rw [← taken_filter, hcalls, hattached]
    rfl
  · rw [← released_filter, hcalls]
    rfl
  · rw [hattached, List.append_nil, hqueued, h.authPend]
  · rw [hattached, List.append_nil, hlength, Nat.sub_self, FirstLive, htext]
    simp

/-- Every challenge that is queued takes one reference. -/
theorem nua_foldl_privAttachOp (op : SscOper) (items : List SscAuthItem) (ssc : Ssc) :
    (items.foldl (privAttachOp op) ssc).nua
      = ssc.nua ++ items.map fun _ => .handleRef op.opHandle := by
  induction items generalizing ssc with
  | nil => simp
  | cons item items ih =>
    rw [List.foldl_cons, ih]
    simp [privAttachOp, Ssc.emit]

variable (hcheck : ∀ l a, env.operCheck l a = decide (a ∈ l))

include hcheck in
/-- A challenge that is stored. -/
theorem stepReferences_of_stored (hqueued : r.queued.map (·.1) = ssc.authPend)
    (hnua : ssc.nua = []) {nh : Nat} {e : NuaEvent} {sip : Option Sip}
    (hstored : storedChallenge e = some sip) (h : privCallback env alloc nh ssc e = some ssc') :
    ∃ dropped, StepReferences ssc r (.event nh e) ssc' dropped := by
  obtain ⟨op, sip, hop, rfl, f, hf, hstore⟩ := storedChallenge_cases hstored h
  have hattached : attached ssc (.event nh e)
      = (pendingItems sip op).map fun item => (item, op.opHandle) := by
    simp [attached, hstored, hop]
  have htext : authText ssc (.event nh e) = op.password := by
    simp [authText, hstored, hop]
  have hsame := SameForAuth.setOper ssc op.addr hf
  obtain ⟨hpend, hops, -⟩ :=
    foldl_privAttachOp op (pendingItems sip op) (ssc.setOper op.addr f)
  have hcalls := nua_foldl_privAttachOp op (pendingItems sip op) (ssc.setOper op.addr f)
  simp only [sscStorePendingAuth, Option.bind_eq_bind, Option.bind_some] at hstore
  -- `ssc₁` is the client with the requests queued, before `ssc_auth` looks at them.
  generalize (pendingItems sip op).foldl (privAttachOp op) (ssc.setOper op.addr f) = ssc₁
    at hpend hops hcalls hstore
  have hqueue : (r.queued ++ attached ssc (.event nh e)).map (·.1) = ssc₁.authPend := by
    rw [hattached, hpend, List.map_append, hqueued, List.map_map]
    exact congrArg (ssc.authPend ++ ·) (List.map_id _)
  have hcalls : ssc₁.nua = (pendingItems sip op).map fun _ => .handleRef op.opHandle := by
    rw [hcalls, show (ssc.setOper op.addr f).nua = [] from hnua, List.nil_append]
  have htaken : taken ssc₁.nua = (attached ssc (.event nh e)).map (·.2) := by
    rw [hcalls, hattached, taken, List.filterMap_map, List.map_map, ← List.filterMap_eq_map]
    rfl
  have hreleased : released ssc₁.nua = [] := by
    rw [hcalls, released, List.filterMap_map, List.filterMap_eq_nil_iff]
    exact fun _ _ => rfl
  cases hpassword : op.password with
  | none =>
    rw [hpassword] at hstore
    cases hstore
    have hlength : (r.queued ++ attached ssc (.event nh e)).length = ssc'.authPend.length := by
      rw [← hqueue, List.length_map]
    refine ⟨[], htaken, hreleased, ?_, ?_⟩
    · rw [hqueue]
    · rw [hlength, Nat.sub_self, FirstLive, htext, hpassword]
      simp
  | some password =>
    rw [hpassword] at hstore
    cases hstore
    obtain ⟨dropped, hdropped, hperm⟩ := sscAuth_perm_iff hcheck password ssc₁ _ hqueue
    have hkept := sscAuthLoop_released hcheck password ssc₁ ssc₁.authPend
    refine ⟨dropped, hkept.1.trans htaken, ?_, ?_, ?_⟩
    · rw [hdropped, hreleased, List.nil_append]
    · rw [hqueue]
      exact sscAuthLoop_suffix password ssc₁ ssc₁.authPend
    · rw [hperm, FirstLive, htext, hpassword]
      -- Queueing the requests has left the operations and their handles alone.
      have hhandle : ∀ a, (ssc₁.oper? a).map (·.opHandle) = (ssc.oper? a).map (·.opHandle) := by
        intro a
        rw [← hsame.handle a]
        simp [Ssc.oper?, hops]
      simp only [hhandle, Option.isSome_some, true_implies]

include hcheck in
/-- What any step does to the references. -/
theorem stepReferences (hqueued : r.queued.map (·.1) = ssc.authPend)
    (h : sscStep env alloc ssc input = some ssc') :
    ∃ dropped, StepReferences ssc r input ssc' dropped := by
  unfold sscStep at h
  dsimp only at h
  split at h
  · -- A step starts with no calls recorded. The queue is the same.
    have hqueued₀ : r.queued.map (·.1) = Ssc.authPend { ssc with nua := [], sent := [] } := hqueued
    cases input with
    | call c prompt =>
      -- No other command calls `ssc_auth`.
      by_cases hauth : ∃ data, c = .auth data
      · obtain ⟨data, rfl⟩ := hauth
        obtain ⟨data, rfl, rfl⟩ := Option.map_eq_some_iff.mp h
        obtain ⟨dropped, hdropped, hperm⟩ := sscAuth_perm_iff hcheck data
          { ssc with nua := [], sent := [] } r.queued hqueued
        have htaken := (sscAuthLoop_released hcheck data { ssc with nua := [], sent := [] }
          ssc.authPend).1
        have hsuffix := @sscAuthLoop_suffix env data { ssc with nua := [], sent := [] }
          ssc.authPend
        have hnone : attached ssc (.call (.auth (some data)) prompt) = [] := rfl
        refine ⟨dropped, htaken, hdropped, ?_, ?_⟩
        · rw [hnone, List.append_nil, hqueued]
          exact hsuffix
        · rw [hnone, List.append_nil, hperm, FirstLive, hnone, List.append_nil]
          exact ⟨fun hfirst _ => hfirst, fun hfirst => hfirst rfl⟩
      · have hquiet := NoAuth.sscCall (fun data hc => hauth ⟨data, hc⟩) h
        have htext : authText ssc (.call c prompt) = none := by
          cases c <;> first | rfl | exact absurd ⟨_, rfl⟩ hauth
        have hattached : attached { ssc with nua := [], sent := [] } (.call c prompt) = [] := rfl
        obtain ⟨htaken, hreleased, hsuffix, hperm⟩ :=
          stepReferences_of_noAuth hqueued₀ rfl hquiet hattached htext
        exact ⟨[], htaken, hreleased, hsuffix, hperm⟩
    | event nh e =>
      cases hstored : storedChallenge e with
      | some sip =>
        obtain ⟨dropped, htaken, hreleased, hsuffix, hperm⟩ :=
          stepReferences_of_stored hcheck hqueued₀ rfl hstored h
        exact ⟨dropped, htaken, hreleased, hsuffix, hperm⟩
      | none =>
        have hquiet := NoAuth.privCallback hstored h
        have hattached : attached { ssc with nua := [], sent := [] } (.event nh e) = [] := by
          simp [attached, hstored]
        have htext : authText ssc (.event nh e) = none := by simp [authText, hstored]
        obtain ⟨htaken, hreleased, hsuffix, hperm⟩ :=
          stepReferences_of_noAuth hqueued₀ rfl hquiet hattached htext
        exact ⟨[], htaken, hreleased, hsuffix, hperm⟩
  · cases h

/-- The queue of the references is the queue of the client. -/
theorem queued_after {dropped : List Nat} (h : StepReferences ssc r input ssc' dropped) :
    (r.after ssc input ssc').queued.map (·.1) = ssc'.authPend := by
  have hdrop := List.suffix_iff_eq_drop.mp h.suffix
  rw [List.length_map] at hdrop
  show ((r.queued ++ attached ssc input).drop _).map (·.1) = _
  rw [List.map_drop]
  exact hdrop.symm

/-- The balance after a step. -/
theorem balanced_after_step (hbalanced : Balanced r) {dropped : List Nat}
    (h : StepReferences ssc r input ssc' dropped) :
    Balanced (r.after ssc input ssc') ↔ FirstLive ssc r input := by
  rw [← h.perm_iff, References.after, h.taken, h.released]
  exact balanced_after_iff hbalanced _ _ _

end Step

/-- In every run that starts with no pending request, the references to every handle balance
after every step exactly when `ssc_auth` is called only while the first pending request, if there
is one, is for an operation of the list that still has the handle it was queued with. -/
theorem handlesBalanced_iff (env : SscEnv) (hcheck : ∀ l a, env.operCheck l a = decide (a ∈ l))
    (start : Ssc) (hstart : start.authPend = []) (inputs : List (Alloc × SscInput)) :
    AllSteps (referenceMachine env) (fun _ _ s' => Balanced s'.2) (start, {}) inputs ↔
      AllSteps (referenceMachine env) (fun s input _ => FirstLive s.1 s.2 input.2) (start, {})
        inputs := by
  refine AllSteps.iff_of_inv
    (fun s => s.2.queued.map (·.1) = s.1.authPend ∧ Balanced s.2) ?_ ⟨hstart.symm, ?_⟩ inputs
  · rintro ⟨ssc, r⟩ ⟨alloc, input⟩ s' ⟨hqueued, hbalanced⟩ hstep
    obtain ⟨ssc', hssc, rfl⟩ := Option.map_eq_some_iff.mp hstep
    obtain ⟨dropped, hrefs⟩ := stepReferences hcheck hqueued hssc
    have hiff := balanced_after_step hbalanced hrefs
    exact ⟨hiff, fun hlive => ⟨queued_after hrefs, hiff.mpr hlive⟩⟩
  · intro nh
    rfl

/-- A text message without a password is challenged, a second message destroys its operation,
and is challenged itself. -/
def staleChallenge : List (Alloc × SscInput) :=
  [(⟨1, 1⟩, .call (.message (some "sip:b@h".toList) none none none)),
    (⟨2, 2⟩, .event 1 (.rMessage 407 (some
      { proxyAuthenticate := some { scheme := "Digest".toList, realm := some "p".toList } }))),
    (⟨2, 2⟩, .call (.message (some "sip:c@h".toList) (some "pw".toList) none none)),
    (⟨3, 3⟩, .event 2 (.rMessage 407 (some
      { proxyAuthenticate := some { scheme := "Digest".toList, realm := some "p".toList } })))]

/-- A challenge whose operation is gone. -/
theorem handlesBalanced_iff_stale :
    AllSteps (referenceMachine plainEnv) (fun _ _ s' => Balanced s'.2) ({}, {}) staleChallenge ↔
      AllSteps (referenceMachine plainEnv) (fun s input _ => FirstLive s.1 s.2 input.2) ({}, {})
        staleChallenge :=
  handlesBalanced_iff plainEnv (fun _ _ => rfl) {} rfl staleChallenge

/-- The reference to the handle of the first message is never released. -/
theorem stale_challenge_leaks_handle :
    ¬ AllSteps (referenceMachine plainEnv) (fun _ _ s' => Balanced s'.2) ({}, {})
      staleChallenge := by
  decide

end RestCommSdk.Proofs
