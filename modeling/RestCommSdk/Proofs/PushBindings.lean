import RestCommSdk.Proofs.PushSteps

/-!
# `RestCommSdk.Proofs.PushBindings`: which binding a push registration writes

A call for a client should write at most one binding, with this client for its `Identity`, and
when it reports success the server should hold a binding of the client, the application and the
token. The binding that is there already is looked for by its application alone
(`findBinding`), so it may be the one of another client.

`ownBindings_iff` says when a run has the property: exactly when the binding that is found is the
client's own, whenever it is then updated, or taken to need no update although the client has no
binding with this token.
-/

set_option autoImplicit false

namespace RestCommSdk.Proofs

open RestCommSdk.Lib
open RestCommSdk.CliInterface (CString)
open RestCommSdk.Push

/-! ### The property and the condition -/

/-- The server holds a binding of the client, the application and the token. -/
def HasBinding (servers : Servers) (target : PushTarget) : Prop :=
  ∃ binding ∈ (servers.store target.call.pushLogin).bindings,
    binding.identity = target.clientSid ∧ binding.applicationSid = target.applicationSid ∧
      binding.address = target.call.address

/-- Every binding is there afterwards exactly when it was before, but for the one with this sid,
which is one of the client of the call before as after. -/
def TouchesOnly (sid : CString) (s s' : PushState) : Prop :=
  ∀ k binding, (binding ∈ (s.servers.stores k).bindings ↔
      binding ∈ (s'.servers.stores k).bindings) ∨
    ∃ target ∈ targetOf s.stage, k = s.servers.storeOf target.call.pushLogin ∧
      binding.sid = sid ∧ binding.identity = target.clientSid

/-- A step touches one binding at most, which is one of the client, and a success leaves it one. -/
structure OwnBindings (s s' : PushState) : Prop where
  frame : ∃ sid, TouchesOnly sid s s'
  registered : s'.queued = some .registered →
    ∃ target ∈ targetOf s.stage, HasBinding s'.servers target

/-- The binding that was found is the client's own. One that has the token already may also be
another's, if the client has its own as well. -/
def FindsOwn (s : PushState) (input : PushInput) : Prop :=
  match s.stage, input with
  | .checkBinding call clientSid applicationSid, .proceed .answered _ =>
    ∀ binding ∈ findBinding (s.servers.store call.pushLogin).bindings s.defaults.application,
      binding.address = call.address →
        binding.identity = clientSid ∨
          HasBinding s.servers ⟨call, clientSid, applicationSid⟩
  | .updateBinding _ clientSid _ binding, .proceed outcome _ =>
    outcome ≠ .refused → binding.identity = clientSid
  | _, _ => True

/-! ### One step -/

section Step
variable {s s' : PushState} {call : Registration} {outcome : PushOutcome} {newSid : CString}
  {clientSid applicationSid : CString}

/-- A step that writes no binding. -/
theorem touchesOnly_of_bindings_eq
    (h : ∀ k, (s'.servers.stores k).bindings = (s.servers.stores k).bindings) (sid : CString) :
    TouchesOnly sid s s' := by
  intro k binding
  rw [h k]
  exact Or.inl Iff.rfl

/-- A step that changes no binding and reports nothing. -/
theorem ownBindings_of_bindings_eq
    (h : ∀ k, (s'.servers.stores k).bindings = (s.servers.stores k).bindings)
    (hqueued : s'.queued ≠ some .registered) : OwnBindings s s' where
  frame := ⟨[], touchesOnly_of_bindings_eq h []⟩
  registered hregistered := absurd hregistered hqueued

/-- The check of the list writes nothing. -/
theorem ownBindings_checkBinding_iff
    (hstage : s.stage = .checkBinding call clientSid applicationSid)
    (hlinked : s.defaults.application.map (·.sid) = some applicationSid) :
    OwnBindings s (checkBinding s call outcome clientSid applicationSid) ↔
      FindsOwn s (.proceed outcome newSid) := by
  have htarget : targetOf s.stage = some ⟨call, clientSid, applicationSid⟩ := by rw [hstage]; rfl
  obtain ⟨hanswered, heq⟩ | ⟨rfl, ⟨found, hfound, haddress, heq⟩ | ⟨found, hfound, haddress, heq⟩ |
    ⟨hnone, heq⟩⟩ := @checkBinding_cases s call outcome clientSid applicationSid
  · rw [heq]
    refine iff_of_true (ownBindings_of_bindings_eq (fun _ => rfl) (by simp [PushState.report])) ?_
    unfold FindsOwn
    rw [hstage]
    cases outcome with
    | answered => exact absurd rfl hanswered
    | refused => trivial
    | lost => trivial
  · rw [heq]
    have hown : FindsOwn s (.proceed .answered newSid) ↔
        (found.identity = clientSid ∨ HasBinding s.servers ⟨call, clientSid, applicationSid⟩) := by
      unfold FindsOwn
      rw [hstage]
      dsimp only
      rw [hfound]
      simp [haddress]
    rw [hown]
    constructor
    · intro h
      -- Success is queued at once, so the binding has to be there already.
      obtain ⟨target, hmem, hbinding⟩ := h.registered rfl
      rw [htarget] at hmem
      cases hmem
      exact Or.inr hbinding
    · intro h
      refine ⟨⟨[], touchesOnly_of_bindings_eq (fun _ => rfl) []⟩, fun _ => ?_⟩
      refine ⟨_, htarget, ?_⟩
      obtain hidentity | hbinding := h
      · -- The binding that was found is for the application of the call, and has its token.
        have hsid := List.find?_some hfound
        rw [hlinked] at hsid
        exact ⟨found, List.mem_of_find?_eq_some hfound, hidentity, by simpa using hsid, haddress⟩
      · exact hbinding
  · rw [heq]
    refine iff_of_true (ownBindings_of_bindings_eq (fun _ => rfl) (by simp [PushState.goOn])) ?_
    unfold FindsOwn
    rw [hstage]
    intro binding hbinding hsame
    rw [hfound] at hbinding
    cases hbinding
    exact absurd hsame haddress
  · rw [heq]
    refine iff_of_true (ownBindings_of_bindings_eq (fun _ => rfl) (by simp [PushState.goOn])) ?_
    unfold FindsOwn
    rw [hstage]
    intro binding hbinding
    rw [hnone] at hbinding
    cases hbinding

/-- The bindings after the last request of a call. -/
theorem mem_bindings_finish {store : PushStore} {binding : RCBinding} {k : Nat}
    (hk : k = s.servers.storeOf call.pushLogin) :
    binding ∈ (({ s with servers := s.servers.setStore call.pushLogin store }.finish
        outcome).servers.stores k).bindings ↔ binding ∈ store.bindings := by
  subst hk
  show binding ∈ ((s.servers.setStore call.pushLogin store).store call.pushLogin).bindings ↔ _
  rw [Servers.store_setStore]

/-- The other stores keep their bindings. -/
theorem mem_bindings_finish_of_ne {store : PushStore} {binding : RCBinding} {k : Nat}
    (hk : k ≠ s.servers.storeOf call.pushLogin) :
    binding ∈ (({ s with servers := s.servers.setStore call.pushLogin store }.finish
        outcome).servers.stores k).bindings ↔ binding ∈ (s.servers.stores k).bindings := by
  show binding ∈ ((s.servers.setStore call.pushLogin store).stores k).bindings ↔ _
  rw [Servers.stores_setStore_of_ne _ _ _ hk]

/-- The update rewrites the binding that was found, whoever it belongs to. -/
theorem ownBindings_updateBinding_iff {binding : RCBinding}
    (hstage : s.stage = .updateBinding call clientSid applicationSid binding)
    (hmem : binding ∈ (s.servers.store call.pushLogin).bindings)
    (happlication : binding.applicationSid = applicationSid)
    (haddress : binding.address ≠ call.address)
    (h : updateBinding s call outcome binding = some s') :
    OwnBindings s s' ↔ FindsOwn s (.proceed outcome newSid) := by
  have htarget : targetOf s.stage = some ⟨call, clientSid, applicationSid⟩ := by rw [hstage]; rfl
  have hfinds : FindsOwn s (.proceed outcome newSid) ↔
      (outcome ≠ .refused → binding.identity = clientSid) := by
    unfold FindsOwn
    rw [hstage]
  rw [hfinds]
  obtain ⟨hrefused, rfl⟩ | ⟨hcarried, store, hstore, rfl⟩ := lastRequest_cases h
  · exact iff_of_true (ownBindings_of_bindings_eq (fun _ => rfl) (by simp [PushState.report]))
      fun hcarried => absurd hrefused hcarried
  · obtain ⟨-, -, hbindings⟩ := PushStore.eq_of_putBinding hstore
    -- The list afterwards: the binding that was sent, and those with other sids.
    have hafter : ∀ x, x ∈ store.bindings ↔
        x = { binding with address := call.address } ∨
          (x ∈ (s.servers.store call.pushLogin).bindings ∧ x.sid ≠ binding.sid) := by
      intro x
      rw [hbindings, PushStore.mem_map_putFields_iff]
      exact or_congr (and_iff_left ⟨binding, hmem, rfl⟩) Iff.rfl
    constructor
    · -- The binding that was found is no longer there, so it has to be the client's own.
      rintro ⟨⟨sid, hframe⟩, -⟩ -
      obtain hsame | ⟨target, htarget', -, -, hidentity⟩ :=
        hframe (s.servers.storeOf call.pushLogin) binding
      · rw [mem_bindings_finish rfl, hafter] at hsame
        obtain heq | ⟨-, hne⟩ := hsame.mp hmem
        · exact absurd (congrArg RCBinding.address heq) haddress
        · exact absurd rfl hne
      · rw [htarget] at htarget'
        cases htarget'
        exact hidentity
    · intro hown
      have hidentity := hown hcarried
      refine ⟨⟨binding.sid, ?_⟩, ?_⟩
      · intro k x
        by_cases hk : k = s.servers.storeOf call.pushLogin
        · rw [mem_bindings_finish hk, hafter]
          subst hk
          by_cases hsid : x.sid = binding.sid
          · -- With this sid there is this binding before, and the one that was sent after.
            by_cases hbefore : x ∈ (s.servers.store call.pushLogin).bindings
            · have hx : x = binding :=
                List.inj_on_of_nodup_map (s.servers.store call.pushLogin).nodup hbefore hmem hsid
              subst hx
              exact Or.inr ⟨_, htarget, rfl, rfl, hidentity⟩
            · by_cases hsent : x = { binding with address := call.address }
              · subst hsent
                exact Or.inr ⟨_, htarget, rfl, rfl, hidentity⟩
              · exact Or.inl (iff_of_false hbefore fun hx =>
                  hx.elim hsent fun hx => hbefore hx.1)
          · refine Or.inl ⟨fun hx => Or.inr ⟨hx, hsid⟩, ?_⟩
            rintro (rfl | ⟨hx, -⟩)
            · exact absurd rfl hsid
            · exact hx
        · -- Another login sees another list, which is not touched.
          rw [mem_bindings_finish_of_ne hk]
          exact Or.inl Iff.rfl
      · intro _
        refine ⟨_, htarget, { binding with address := call.address }, ?_, hidentity, happlication,
          rfl⟩
        exact (mem_bindings_finish rfl).mpr ((hafter _).mpr (Or.inl rfl))

/-- A new binding is the client's own. -/
theorem ownBindings_createBinding
    (hstage : s.stage = .createBinding call clientSid applicationSid)
    (h : createBinding s call outcome newSid clientSid applicationSid = some s') :
    OwnBindings s s' := by
  have htarget : targetOf s.stage = some ⟨call, clientSid, applicationSid⟩ := by rw [hstage]; rfl
  obtain ⟨hrefused, rfl⟩ | ⟨hcarried, store, hstore, rfl⟩ := lastRequest_cases h
  · -- The request was refused, and the bindings are those of before.
    exact ownBindings_of_bindings_eq (fun _ => rfl) (by simp [PushState.report])
  · obtain ⟨-, -, -, hbindings⟩ := PushStore.eq_of_postBinding hstore
    constructor
    · refine ⟨newSid, fun k x => ?_⟩
      by_cases hk : k = s.servers.storeOf call.pushLogin
      · -- The store of this login has the new binding at its end.
        rw [mem_bindings_finish hk, hbindings, List.mem_append, List.mem_singleton]
        subst hk
        by_cases hnew : x = { sid := newSid, identity := clientSid
                              applicationSid := applicationSid, address := call.address }
        · subst hnew
          exact Or.inr ⟨_, htarget, rfl, rfl, rfl⟩
        · exact Or.inl (or_iff_left hnew).symm
      · -- The other stores are left alone.
        rw [mem_bindings_finish_of_ne hk]
        exact Or.inl Iff.rfl
    · intro _
      refine ⟨_, htarget, { sid := newSid, identity := clientSid
                            applicationSid := applicationSid, address := call.address }, ?_,
        rfl, rfl, rfl⟩
      refine (mem_bindings_finish rfl).mpr ?_
      rw [hbindings]
      exact List.mem_append_right _ List.mem_cons_self

/-- A step writes its own binding only exactly when it has found its own. -/
theorem ownBindings_step_iff {input : PushInput} (hlinked : Linked s)
    (h : pushStep s input = some s') : OwnBindings s s' ↔ FindsOwn s input := by
  cases input with
  | registerDevice handler =>
    obtain ⟨-, hservers, -, hqueued, -⟩ := registerDevice_eq h
    have hfinds : FindsOwn s (.registerDevice handler) := by
      unfold FindsOwn
      split
      · rename_i heq
        cases heq
      · rename_i heq
        cases heq
      · trivial
    exact iff_of_true (ownBindings_of_bindings_eq (fun k => by rw [hservers]) hqueued) hfinds
  | proceed outcome newSid =>
    unfold Linked at hlinked
    -- The stages before the binding.
    have hearly (htarget : targetOf s.stage = none)
        (hfinds : FindsOwn s (.proceed outcome newSid)) :
        OwnBindings s s' ↔ FindsOwn s (.proceed outcome newSid) := by
      obtain ⟨hbindings, hqueued⟩ := bindings_proceed htarget h
      exact iff_of_true (ownBindings_of_bindings_eq hbindings hqueued) hfinds
    have hfinds {stage : Stage} (hstage : s.stage = stage)
        (h : FindsOwn { s with stage := stage } (.proceed outcome newSid)) :
        FindsOwn s (.proceed outcome newSid) := by
      subst hstage
      exact h
    cases stepped_of_proceed h with
    | checkBinding hstage =>
      rw [hstage] at hlinked
      exact ownBindings_checkBinding_iff hstage hlinked
    | updateBinding hstage h =>
      rw [hstage] at hlinked
      obtain ⟨hmem, happlication, haddress⟩ := hlinked
      exact ownBindings_updateBinding_iff hstage hmem happlication haddress h
    | createBinding hstage h =>
      exact iff_of_true (ownBindings_createBinding hstage h) (hfinds hstage trivial)
    | getAccountSid hstage | getClientSid hstage | getApplicationSid hstage _
    | createApplication hstage _ | getCredentialsSid hstage _ | createCredentials hstage _ =>
      exact hearly (by rw [hstage]; rfl) (hfinds hstage trivial)

end Step

/-! ### Runs -/

/-- The calls of a run write their own bindings only, and report success only with a binding of
their own on the server, exactly when they find their own. -/
theorem ownBindings_iff (defaults : UserDefaults) (servers : Servers) (inputs : List PushInput) :
    AllSteps pushStep (fun s _ s' => OwnBindings s s') { defaults := defaults, servers := servers }
        inputs ↔
      AllSteps pushStep (fun s input _ => FindsOwn s input)
        { defaults := defaults, servers := servers } inputs := by
  refine AllSteps.iff_of_inv Linked ?_ ?_ inputs
  · intro s input s' hlinked hs
    exact ⟨ownBindings_step_iff hlinked hs, fun _ => linked_step hlinked hs⟩
  · trivial

/-- A binding of another client. -/
def bindingOfBob : RCBinding where
  sid := "b".toList
  identity := "bob".toList
  applicationSid := "app".toList
  address := "bob's token".toList

/-- A push server that holds this binding. -/
def withBindingOfBob : Servers where
  accountSid _ _ := none
  clients _ _ := []
  storeOf _ := 0
  stores _ := { bindings := [bindingOfBob] }

/-- The phone of Alice, which has registered for this application before. -/
def keptByAlice : UserDefaults where
  accountSid := some "account".toList
  clientSid := some "alice".toList
  application := some ⟨"app".toList, "name".toList, false⟩
  credentials := some ⟨"cred".toList, "app".toList, "apn".toList, [], []⟩

/-- Alice registers, and every request is answered. -/
def aliceRegisters : List PushInput :=
  .registerDevice { token := some "alice's token".toList } ::
    List.replicate 6 (.proceed .answered [])

/-- Alice is told that she is registered. Her token is in the binding of Bob. -/
theorem alice_takes_binding_of_bob :
    (∃ s', run pushStep { defaults := keptByAlice, servers := withBindingOfBob } aliceRegisters =
        some s' ∧ s'.queued = some .registered ∧
      (s'.servers.stores 0).bindings =
        [{ bindingOfBob with address := "alice's token".toList }]) ∧
    ¬ AllSteps pushStep (fun s _ s' => OwnBindings s s')
      { defaults := keptByAlice, servers := withBindingOfBob } aliceRegisters := by
  refine ⟨⟨_, rfl, rfl, rfl⟩, ?_⟩
  intro h
  -- The last step is the update.
  have h₁ := (h _ rfl).2
  have h₂ := (h₁ _ rfl).2
  have h₃ := (h₂ _ rfl).2
  have h₄ := (h₃ _ rfl).2
  have h₅ := (h₄ _ rfl).2
  have h₆ := (h₅ _ rfl).2
  obtain ⟨⟨sid, hframe⟩, -⟩ := (h₆ _ rfl).1
  obtain hsame | ⟨target, htarget, -, -, hidentity⟩ := hframe 0 bindingOfBob
  · have hafter := hsame.mp List.mem_cons_self
    exact absurd hafter (by decide)
  · cases htarget
    exact absurd hidentity (by decide)

end RestCommSdk.Proofs
