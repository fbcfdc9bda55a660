import RestCommSdk.Proofs.SscTransactions

/-!
# `RestCommSdk.Proofs.LiveCalls`: what a new operation destroys

`ssc_oper_create` destroys the operations that are not persistent and whose call state is
zero. `unfinished_survive_iff` states when this spares every call with a transaction that
waits: when no call with a zero call state waits for the response to a BYE, to an INVITE that
was sent again after a challenge, or to an INVITE that a BYE followed. A call whose first
INVITE waits is always spared.
-/

set_option autoImplicit false

namespace RestCommSdk.Proofs

open RestCommSdk.Lib
open RestCommSdk.CliInterface

/-- The operation at the address goes. -/
theorem operations_sscOperDestroy (ssc : Ssc) (addr : Nat) :
    (sscOperDestroy ssc addr).operations = ssc.operations.filter (·.addr ≠ addr) := by
  unfold sscOperDestroy
  split
  · rename_i hnone
    refine (List.filter_eq_self.mpr fun op hop => ?_).symm
    simpa using List.find?_eq_none.mp hnone op hop
  · dsimp only
    split <;> rfl

/-- The clean-up destroys this operation. -/
def cleaned (op : SscOper) : Bool := !op.opPersistent && op.opCallstate = .none

/-- The operations that have ended go. -/
theorem operations_cleanOldHandles (old : List SscOper) (ssc : Ssc) :
    (cleanOldHandles old ssc).operations
      = ssc.operations.filter fun op => !(old.any fun o => cleaned o && o.addr = op.addr) := by
  induction old generalizing ssc with
  | nil => simp [cleanOldHandles]
  | cons o old ih =>
    have hstep : cleanOldHandles (o :: old) ssc
        = cleanOldHandles old (if cleaned o then sscOperDestroy ssc o.addr else ssc) := rfl
    rw [hstep, ih]
    by_cases ho : cleaned o = true
    · rw [if_pos ho, operations_sscOperDestroy, List.filter_filter]
      refine List.filter_congr fun op _ => ?_
      simp [ho, Bool.and_comm, eq_comm]
    · rw [if_neg ho]
      refine List.filter_congr fun op _ => ?_
      simp [ho]

/-- The new operation makes `ssc_oper_create` clean up. -/
def cleansUp (env : SscEnv) (method : SipMethod) (address : Option CString) : Bool :=
  !method.persistent && address.any env.validAddress

section Create
variable {env : SscEnv} {alloc : Alloc} {method : SipMethod} {address : Option CString}
  {ssc : Ssc}

/-- The operation is still there after the creation. -/
def Survives (env : SscEnv) (alloc : Alloc) (method : SipMethod) (address : Option CString)
    (ssc : Ssc) (op : SscOper) : Prop :=
  ∃ op' ∈ (sscOperCreate env alloc method address ssc).1.operations,
    op'.addr = op.addr ∧ op'.opHandle = op.opHandle

/-- Without a clean-up every operation survives. -/
theorem survives_of_not_cleansUp (h : cleansUp env method address = false) {op : SscOper}
    (hop : op ∈ ssc.operations) : Survives env alloc method address ssc op := by
  unfold Survives sscOperCreate
  split
  · rename_i address
    split
    · rename_i hvalid
      have hpersistent : method.persistent = true := by simpa [cleansUp, hvalid] using h
      exact ⟨op, by simp [sscOperAssign, hpersistent, Ssc.emit, hop], rfl, rfl⟩
    · exact ⟨op, hop, rfl, rfl⟩
  · split
    · rename_i old _
      refine ⟨_, List.mem_map_of_mem hop, ?_⟩
      by_cases haddr : op.addr = old.addr <;> simp [haddr, sscOperAssign]
    · exact ⟨op, hop, rfl, rfl⟩

/-- The clean-up starts behind the first persistent operations, and comes by all that it may
destroy. -/
theorem any_cleaned (haddrs : (ssc.operations.map (·.addr)).Nodup) {op : SscOper}
    (hop : op ∈ ssc.operations) :
    ((ssc.operations.dropWhile (·.opPersistent)).any fun o => cleaned o && o.addr = op.addr)
      = cleaned op := by
  rw [Bool.eq_iff_iff, List.any_eq_true]
  constructor
  · rintro ⟨o, ho, hdestroy⟩
    obtain ⟨hclean, haddr⟩ : cleaned o = true ∧ o.addr = op.addr := by simpa using hdestroy
    have hmem : o ∈ ssc.operations := (List.dropWhile_sublist _).subset ho
    rwa [eq_of_addr haddrs hmem hop haddr] at hclean
  · intro hclean
    refine ⟨op, ?_, by simp [hclean]⟩
    rw [← List.takeWhile_append_dropWhile (p := (·.opPersistent)) (l := ssc.operations)] at hop
    refine (List.mem_append.mp hop).resolve_left fun htake => ?_
    -- An operation that is cleaned is not persistent.
    have hpersistent := List.mem_takeWhile_imp htake
    simp [cleaned, hpersistent] at hclean

/-- With a clean-up the new operation stands in front of those that it does not destroy. -/
theorem operations_of_cleansUp {address : CString} (hmethod : method.persistent = false)
    (hvalid : env.validAddress address = true) (haddrs : (ssc.operations.map (·.addr)).Nodup)
    (hfresh : ∀ op ∈ ssc.operations, op.addr ≠ alloc.addr) :
    (sscOperCreate env alloc method (some address) ssc).1.operations
      = sscOperAssign method
          { addr := alloc.addr, opHandle := alloc.handle, opMethod := method }
        :: ssc.operations.filter fun op => !cleaned op := by
  simp only [sscOperCreate, hvalid, if_true]
  rw [if_neg (by simp [sscOperAssign, hmethod]), operations_cleanOldHandles]
  -- The operation just made is not cleaned, since its address is its own.
  have hnew : ((ssc.operations.dropWhile (·.opPersistent)).any fun o =>
      cleaned o && o.addr = alloc.addr) = false := by
    rw [List.any_eq_false]
    intro o ho
    have hmem : o ∈ ssc.operations := (List.dropWhile_sublist _).subset ho
    simp [hfresh o hmem]
  simp only [Ssc.emit]
  rw [List.filter_cons_of_pos]
  · congr 1
    -- The clean-up walks behind the persistent ones, and finds the same.
    refine List.filter_congr fun op hop => ?_
    rw [any_cleaned haddrs hop]
  · show (!(List.any _ fun o => cleaned o && decide (o.addr = alloc.addr))) = true
    rw [hnew]
    rfl

/-- With a clean-up, those survive that it does not destroy. -/
theorem survives_iff_of_cleansUp (h : cleansUp env method address = true)
    (haddrs : (ssc.operations.map (·.addr)).Nodup) (hfresh : alloc.Fresh ssc) {op : SscOper}
    (hop : op ∈ ssc.operations) :
    Survives env alloc method address ssc op ↔ cleaned op = false := by
  cases address with
  | none => simp [cleansUp] at h
  | some address =>
    have hmethod : method.persistent = false := by simp_all [cleansUp]
    have hvalid : env.validAddress address = true := by simp_all [cleansUp]
    unfold Survives
    rw [operations_of_cleansUp hmethod hvalid haddrs hfresh.1]
    constructor
    · rintro ⟨op', hop', haddr, -⟩
      -- The new operation has another address.
      rcases List.mem_cons.mp hop' with rfl | hkept
      · exact absurd haddr.symm (hfresh.1 op hop)
      · obtain ⟨hmem, hclean⟩ := List.mem_filter.mp hkept
        rw [← eq_of_addr haddrs hmem hop haddr]
        simpa using hclean
    · -- It is kept as it is, so its handle is not destroyed.
      intro hclean
      have hkept : op ∈ ssc.operations.filter fun op => !cleaned op :=
        List.mem_filter.mpr ⟨hop, by simp [hclean]⟩
      exact ⟨op, List.mem_cons_of_mem _ hkept, rfl, rfl⟩

end Create

/-- A transaction waits that the call state does not tell of: a BYE, or an INVITE that was
sent again after a challenge or that a BYE followed. -/
def Transactions.Exposed (t : Transactions) : Prop :=
  t.byeOut ∨ (t.inviteOut ∧ (t.resent ∨ t.byed))

instance (t : Transactions) : Decidable t.Exposed := inferInstanceAs (Decidable (_ ∨ _))

/-- A call that waits and is not exposed has its call state set. -/
theorem opCallstate_ne_none {t : Nat → Transactions} {ssc : Ssc} (h : Settled t ssc)
    {op : SscOper} (hop : op ∈ ssc.operations) (hwait : (t op.opHandle).Unfinished)
    (hexposed : ¬ (t op.opHandle).Exposed) : op.opCallstate ≠ .none := by
  simp only [Transactions.Exposed, not_or, not_and, Bool.not_eq_true] at hexposed
  have hout : (t op.opHandle).inviteOut = true := hwait.resolve_right (by simp [hexposed.1])
  have hmark := h.marked op hop hout (hexposed.2 hout).1 (hexposed.2 hout).2
  intro hnone
  rw [hnone] at hmark
  simp [Callstate.none] at hmark

/-- In every state that the SIP client reaches: creating an operation leaves every INVITE
operation with an unfinished transaction in the list exactly when it does not clean up, or
none of those with a zero call state has one that the call state does not tell of. -/
theorem unfinished_survive_iff (env : SscEnv) (start : Ssc) (hstart : start.operations = [])
    (s : Ssc × (Nat → Transactions))
    (hs : Reachable (transactionMachine env) (start, fun _ => {}) s) (alloc : Alloc)
    (hfresh : alloc.Fresh s.1) (method : SipMethod) (address : Option CString) :
    (∀ op ∈ s.1.operations, op.opMethod = .invite → (s.2 op.opHandle).Unfinished →
        Survives env alloc method address s.1 op) ↔
      cleansUp env method address = false ∨
        ∀ op ∈ s.1.operations, op.opMethod = .invite → op.opCallstate = .none →
          ¬ (s.2 op.opHandle).Exposed := by
  have hsettled := settled_of_reachable hstart hs
  have haddrs : (s.1.operations.map (·.addr)).Nodup := hsettled.addrs
  by_cases hclean : cleansUp env method address = true
  · -- A call is cleaned when its call state is 0.
    have hsurvives : ∀ op ∈ s.1.operations, op.opMethod = .invite →
        (Survives env alloc method address s.1 op ↔ op.opCallstate ≠ .none) := by
      intro op hop hinvite
      -- An INVITE operation is never persistent.
      have hplain : op.opPersistent = false := by
        by_contra hpersistent
        have := hsettled.persistent op hop (by simpa using hpersistent)
        simp [hinvite, SipMethod.persistent] at this
      rw [survives_iff_of_cleansUp hclean haddrs hfresh hop]
      simp [cleaned, hplain]
    simp only [hclean, Bool.true_eq_false, false_or]
    constructor
    · -- Exposed, it is unfinished, and may not be cleaned.
      intro h op hop hinvite hnone hexposed
      have hwait : (s.2 op.opHandle).Unfinished := hexposed.elim .inr fun h => .inl h.1
      exact (hsurvives op hop hinvite).mp (h op hop hinvite hwait) hnone
    · -- In a state that is not exposed, an unfinished call keeps a call state.
      intro h op hop hinvite hwait
      refine (hsurvives op hop hinvite).mpr fun hnone => ?_
      exact opCallstate_ne_none hsettled hop hwait (h op hop hinvite hnone) hnone
  · -- Nothing is cleaned, and all survive.
    have hclean : cleansUp env method address = false := by simpa using hclean
    exact ⟨fun _ => .inl hclean, fun _ op hop _ _ => survives_of_not_cleansUp hclean hop⟩

/-- The state after the challenge was answered. -/
def afterChallenge : Option (Ssc × (Nat → Transactions)) :=
  run (transactionMachine plainEnv) ({}, fun _ => {}) challengedInvite

/-- A registration beside the challenged call. -/
theorem unfinished_survive_iff_register :
    ∃ s, afterChallenge = some s ∧
      ((∀ op ∈ s.1.operations, op.opMethod = .invite → (s.2 op.opHandle).Unfinished →
          Survives plainEnv ⟨3, 3⟩ .register (some "sip:c@h".toList) s.1 op) ↔
        cleansUp plainEnv .register (some "sip:c@h".toList) = false ∨
          ∀ op ∈ s.1.operations, op.opMethod = .invite → op.opCallstate = .none →
            ¬ (s.2 op.opHandle).Exposed) :=
  ⟨_, rfl, unfinished_survive_iff plainEnv {} rfl _
    (Reachable.of_run (show run _ _ challengedInvite = some _ from rfl))
    ⟨3, 3⟩ (by decide) .register (some "sip:c@h".toList)⟩

/-- A text message beside the challenged call: its INVITE waits for the response, and the
operation is destroyed. -/
theorem message_destroys_challenged_call :
    ∃ s, afterChallenge = some s ∧ ∃ op ∈ s.1.operations, op.opMethod = .invite ∧
      (s.2 op.opHandle).Unfinished ∧
      ¬ Survives plainEnv ⟨3, 3⟩ .message (some "sip:c@h".toList) s.1 op := by
  refine ⟨_, rfl, _, List.mem_cons_self, rfl, by decide, ?_⟩
  unfold Survives
  decide

end RestCommSdk.Proofs
