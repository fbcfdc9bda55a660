import RestCommSdk.Proofs.SofiaTurns

/-!
# `RestCommSdk.Proofs.OwnSdp`: whose SDP goes on the wire

`ssc_invite` and `ssc_answer` hand the SDP of their command to `nua_invite` and `nua_respond`
through `SscMediaSimple`, which all calls share and nothing ever clears. `ssc_invite` stores
what it is given, always; `ssc_answer` only when it is given something.

`ownSdp_iff`: the SDPs of a run are those of the commands that sent them exactly when no `a`
without an SDP finds a call to answer while an earlier SDP is still stored.
-/

set_option autoImplicit false

namespace RestCommSdk.Proofs

open RestCommSdk.Lib
open RestCommSdk.CliInterface
open RestCommSdk.SipManager (NSDictionary)

/-! ### The property and the condition -/

/-- The call puts this SDP on the wire, or none at all. -/
def CarriesOwn (sdp : Option CString) : NuaCall → Prop
  | .invite _ _ payload => sdp = some payload
  | .respond _ status _ payload =>
    200 ≤ status → status < 300 → payload.isSome = true ∧ payload = sdp
  | _ => True

/-- The SDP of a command. -/
def inputSdp (jsonObject : CString → Option NSDictionary) : SofiaInput → Option CString
  | .line line _ => lineArgument jsonObject line "sdp"
  | .event _ _ => none

/-- The INVITEs and the 2xx responses of the turn carry the SDP of its command. -/
def SendsOwnSdp (jsonObject : CString → Option NSDictionary) (input : SofiaInput)
    (s' : SofiaThread) : Prop :=
  ∀ c ∈ s'.ssc.nua, CarriesOwn (inputSdp jsonObject input) c

/-- An `a` whose arguments hold no SDP: they are no JSON object, or one without the key. -/
def AnswersWithoutSdp (jsonObject : CString → Option NSDictionary) (line : CString) : Prop :=
  isWord line "a" "answer" = true ∧ (scanCommand line).2.isSome = true ∧
    lineArgument jsonObject line "sdp" = none

/-- The condition on a turn: an `a` without an SDP finds no call to answer, or no SDP stored. -/
def FindsNoSdp (jsonObject : CString → Option NSDictionary) (s : SofiaThread) :
    SofiaInput → Prop
  | .line line _ => AnswersWithoutSdp jsonObject line →
    sscOperFindUnanswered s.ssc = none ∨ s.ssc.media.localSdp = []
  | .event _ _ => True

instance (sdp : Option CString) (c : NuaCall) : Decidable (CarriesOwn sdp c) := by
  unfold CarriesOwn
  split <;> infer_instance

instance (jsonObject : CString → Option NSDictionary) (input : SofiaInput) (s' : SofiaThread) :
    Decidable (SendsOwnSdp jsonObject input s') :=
  inferInstanceAs (Decidable (∀ c ∈ s'.ssc.nua, _))

/-! ### What the calls of a turn carry -/

/-- Nothing but the one SDP has been put on the wire, and no call is answered by itself. -/
structure Carrying (sdp : Option CString) (ssc : Ssc) : Prop where
  autoanswer : ssc.autoanswer = false
  carries : ∀ c ∈ ssc.nua, CarriesOwn sdp c

/-- One more call of the stack, with the own description if any. -/
theorem Carrying.emit {sdp : Option CString} {ssc : Ssc} {c : NuaCall} (h : Carrying sdp ssc)
    (hc : CarriesOwn sdp c) : Carrying sdp (ssc.emit c) where
  autoanswer := h.autoanswer
  carries d hd := by
    rcases List.mem_append.mp hd with hd | hd
    · exact h.carries d hd
    · rw [List.mem_singleton.mp hd]
      exact hc

/-- A call without a description. -/
theorem carriesOwn_of_isPlain {sdp : Option CString} {c : NuaCall} (h : isPlain c = true) :
    CarriesOwn sdp c := by
  cases c with
  | invite | respond => cases h
  | _ => trivial

/-- What is stored does not matter for what has been sent. -/
theorem Carrying.of_nua {sdp : Option CString} {ssc ssc' : Ssc} (h : Carrying sdp ssc)
    (hnua : ssc'.nua = ssc.nua) (hauto : ssc'.autoanswer = ssc.autoanswer) :
    Carrying sdp ssc' where
  autoanswer := hauto.trans h.autoanswer
  carries := hnua ▸ h.carries

/-- The functions that are about no call ask for none with a description. -/
theorem plainInvariant_carrying (sdp : Option CString) : PlainInvariant (Carrying sdp) where
  of_eq h _ hnua hauto := h.of_nua hnua hauto
  emit h hc := h.emit (carriesOwn_of_isPlain hc)
  setOper _ _ h _ := h.of_nua rfl rfl
  filter _ h := h.of_nua rfl rfl
  cons h _ _ _ _ hc := by
    rcases hc with ⟨address, rfl⟩ | rfl
    · exact Carrying.emit (h.of_nua rfl rfl) trivial
    · exact Carrying.emit (h.of_nua rfl rfl) trivial

section Handlers
variable {env : SscEnv} {alloc : Alloc} {sdp : Option CString} {ssc ssc' : Ssc}

/-- `priv_media_state_cb` sends what is stored. -/
theorem Carrying.privMediaStateCb (h : Carrying sdp ssc) (addr : Nat)
    (hstored : ssc.media.localSdp ≠ [] → sdp = some ssc.media.localSdp) :
    Carrying sdp (privMediaStateCb addr ssc) := by
  rcases privMediaStateCb_cases addr ssc with heq | ⟨media, heq⟩ | ⟨op, -, ⟨-, hsome, heq⟩ |
    ⟨-, -, f, status, phrase, payload, -, hpayload, heq⟩⟩
  · rw [heq]
    exact h
  · rw [heq]
    refine (plainInvariant_carrying sdp).sscOperDestroy ?_ addr
    exact h.of_nua rfl rfl
  · rw [heq]
    have hinvite : CarriesOwn sdp (.invite op.opHandle op.customHeaders ssc.media.localSdp) :=
      hstored hsome
    exact Carrying.emit (h.of_nua rfl rfl) hinvite
  · rw [heq]
    have hrespond : CarriesOwn sdp (.respond op.opHandle status phrase payload) := by
      intro _ hlt
      rcases hpayload with ⟨rfl, hsome⟩ | ⟨rfl, -⟩
      · exact ⟨rfl, (hstored hsome).symm⟩
      · -- The 500 is no success.
        omega
    exact Carrying.emit (h.of_nua rfl rfl) hrespond

/-- A call that is made takes its description along. -/
theorem Carrying.sscInvite (h : Carrying sdp ssc) (hfresh : alloc.Fresh ssc)
    {destination password headers : Option CString}
    (hcall : sscInvite env alloc destination password sdp headers ssc = some ssc') :
    Carrying sdp ssc' := by
  have hcreate : Carrying sdp
      (sscOperCreateWithPassword env alloc .invite destination password ssc).1 :=
    (plainInvariant_carrying sdp).sscOperCreateWithPassword h hfresh .invite destination password
  rcases sscInvite_cases hcall with ⟨addr, payload, rfl, rfl⟩ | rfl
  · refine Carrying.privMediaStateCb ?_ addr fun _ => rfl
    exact hcreate.of_nua rfl rfl
  · exact hcreate.of_nua rfl rfl

/-- A refusal carries no SDP; an acceptance carries the one that is given, or else the one that
is stored. -/
theorem Carrying.sscAnswer (h : Carrying sdp ssc) {given : Option CString} {status : Nat}
    (phrase : CString)
    (hgiven : 200 ≤ status → status < 300 → given = sdp ∧
      (sdp = none → sscOperFindUnanswered ssc = none ∨ ssc.media.localSdp = [])) :
    Carrying sdp (sscAnswer given status phrase ssc) := by
  unfold CliInterface.sscAnswer
  split
  · exact h
  · rename_i op hfind
    dsimp only
    split
    · rename_i hstatus
      obtain ⟨hle, hlt⟩ : 200 ≤ status ∧ status < 300 := by simpa using hstatus
      obtain ⟨rfl, hnone⟩ := hgiven hle hlt
      refine Carrying.privMediaStateCb ?_ _ ?_
      · -- The 2xx carries what the media is given: the text, or the stored one.
        exact h.of_nua rfl rfl
      intro hsome
      cases given with
      | some text => rfl
      | none =>
        rcases hnone rfl with hnone | hempty
        · rw [hnone] at hfind
          cases hfind
        · exact absurd hempty hsome
    · -- Any other answer carries no SDP.
      rename_i hstatus
      have hrespond : CarriesOwn sdp (.respond op.opHandle status phrase none) :=
        fun hle hlt => absurd (by simp [hle, hlt]) hstatus
      refine (plainInvariant_carrying sdp).sscOperDestroy (Carrying.emit ?_ hrespond) op.addr
      exact h.of_nua rfl rfl

/-- Hanging up takes no description along. -/
theorem Carrying.sscBye (h : Carrying sdp ssc) : Carrying sdp (sscBye ssc) := by
  unfold CliInterface.sscBye
  split
  · exact h
  · rename_i op _
    have hbye : Carrying sdp (ssc.emit (.bye op.opHandle)) := h.emit trivial
    exact hbye.of_nua rfl rfl

/-- The events put nothing on the wire, as long as no call is answered by itself. -/
theorem carrying_privCallback (h : Carrying sdp ssc) (hfresh : alloc.Fresh ssc) {nh : Nat}
    {e : NuaEvent} (hevent : privCallback env alloc nh ssc e = some ssc') :
    Carrying sdp ssc' := by
  have hplain := plainInvariant_carrying sdp
  cases e with
  | rInvite status sip =>
    rcases sscRInvite_cases hevent with ⟨-, op, -, ⟨-, hstore⟩ | ⟨-, rfl⟩⟩ | ⟨-, hcase⟩
    · -- A challenge or a failure sends no response of ours.
      refine hplain.sscStorePendingAuth ?_ hstore
      exact h.of_nua rfl rfl
    · exact h.of_nua rfl rfl
    · rcases hcase with ⟨-, rfl⟩ | ⟨-, message, payload, -, -, rfl⟩ | ⟨-, -, rfl⟩
      · exact h.of_nua rfl rfl
      · exact h.of_nua rfl rfl
      · exact h
  | iInvite sip =>
    rcases sscIInvite_cases hevent with rfl | ⟨message, sipFrom, o, ssc₁, hannounce, hssc₁⟩
    · exact h
    · have hmarked : Carrying sdp ssc₁ := by
        rcases hssc₁ with ⟨o₀, -, -, rfl⟩ | ⟨hnone, -, rfl⟩
        · exact h.of_nua rfl rfl
        · have hcreate := hplain.sscOperCreateWithHandle h hfresh .invite hnone
          exact hcreate.of_nua rfl rfl
      -- The client does not answer by itself.
      rcases announceInvite_cases hannounce with rfl | ⟨hauto, -⟩ | ⟨-, reply, rfl⟩
      · exact hmarked
      · rw [hmarked.autoanswer] at hauto
        cases hauto
      · exact hmarked.of_nua rfl rfl
  | iState tags =>
    cases hevent
    obtain ⟨media, hstate | ⟨o, -, ⟨-, replies, hready⟩ | ⟨-, hterminated⟩⟩⟩ :=
      sscIState_cases tags (sscOperFindByHandle ssc nh) ssc
    · rw [hstate]
      exact h.of_nua rfl rfl
    · rw [hready]
      exact h.of_nua rfl rfl
    · rw [hterminated]
      -- The call is over, and its operation goes with its handle.
      have hmedia : Carrying sdp { ssc with media := media } := h.of_nua rfl rfl
      exact (hplain.sscOperDestroy hmedia o.addr).of_nua rfl rfl
  | _ => exact hplain.privCallback h hfresh rfl hevent

end Handlers

section Commands
variable {env : SscEnv} {alloc : Alloc} {sdp : Option CString} {ssc ssc' : Ssc}

/-- The commands that put no SDP on the wire. -/
theorem Carrying.sscCall (h : Carrying sdp ssc) (hfresh : alloc.Fresh ssc) {prompt : CString}
    {c : SscCall} (hc : sendsSdp c = false)
    (hcall : sscCall env alloc prompt ssc c = some ssc') : Carrying sdp ssc' := by
  cases c with
  | answer given status phrase =>
    cases hcall
    refine h.sscAnswer phrase fun hle hlt => ?_
    simp [sendsSdp, hle, hlt] at hc
  | bye =>
    cases hcall
    exact h.sscBye
  | invite destination password given headers => cases hc
  | _ => exact (plainInvariant_carrying sdp).sscCall h hfresh rfl hcall

end Commands

/-! ### Turns and runs -/

/-- A call that waits for an answer is accepted with the SDP that is stored then. -/
theorem nua_sscAnswer (ssc : Ssc) (haddrs : (ssc.operations.map (·.addr)).Nodup)
    (given : Option CString) {status : Nat} (phrase : CString) {op : SscOper}
    (hfind : sscOperFindUnanswered ssc = some op) (hle : 200 ≤ status) (hlt : status < 300)
    (hsdp : given.getD ssc.media.localSdp ≠ []) :
    (sscAnswer given status phrase ssc).nua =
      ssc.nua ++ [.respond op.opHandle status phrase
        (some (given.getD ssc.media.localSdp))] := by
  have hmem : op ∈ ssc.operations := List.mem_of_find?_eq_some hfind
  have hrecv : op.opCallstate = .opcRecv := by simpa using List.find?_some hfind
  have hoper : ssc.oper? op.addr = some op := oper?_of_mem haddrs hmem
  have hoper' : (Ssc.activateMedia { ssc with ansStatus := status, ansPhrase := phrase }
      (given.getD ssc.media.localSdp)).oper? op.addr = some op := hoper
  simp only [sscAnswer, hfind, hle, hlt, decide_true, Bool.and_self, if_true, privMediaStateCb,
    hoper', hrecv]
  simp [Ssc.activateMedia, Callstate.opcRecv, hsdp, hle, hlt, Ssc.emit, Ssc.setOper]

section Steps
variable {env : SscEnv} {jsonObject : CString → Option NSDictionary} {alloc : Alloc}
  {s s' : SofiaThread}

/-- A turn that finds no SDP to put in the place of a missing one sends that of its command. -/
theorem carrying_sofiaStep (hauto : s.ssc.autoanswer = false) {input : SofiaInput}
    (hfinds : FindsNoSdp jsonObject s input)
    (h : sofiaStep env jsonObject s (alloc, input) = some s') :
    Carrying (inputSdp jsonObject input) s'.ssc := by
  have hstart : Carrying (inputSdp jsonObject input) (turnStart s.ssc) :=
    ⟨hauto, fun c hc => by cases hc⟩
  cases input with
  | event nh e =>
    obtain ⟨hfresh, hevent⟩ := sofiaStep_event h
    exact carrying_privCallback hstart hfresh hevent
  | line line prompt =>
    obtain ⟨hfresh, ⟨-, hssc⟩ | ⟨c, hcalls, hcall⟩⟩ := sofiaStep_line h
    · rw [hssc]
      exact hstart
    · by_cases ha : isWord line "a" "answer" = true
      · -- The only line that answers a call with a 2xx.
        rw [sofsipHandleInput_answer ha] at hcalls
        split at hcalls
        · rename_i hrest
          cases hcalls
          have hssc : s'.ssc = sscAnswer (lineArgument jsonObject line "sdp") 200 "OK".toList
              (turnStart s.ssc) := (Option.some.inj hcall).symm
          rw [hssc]
          -- Without a text of its own it must find no stored one.
          exact hstart.sscAnswer _ fun _ _ => ⟨rfl, fun hnone => hfinds ⟨ha, hrest, hnone⟩⟩
        · cases hcalls
      · by_cases hi : isWord line "i" "invite" = true
        · rw [sofsipHandleInput_invite hi] at hcalls
          split at hcalls
          · cases hcalls
            -- The INVITE carries the SDP of its line.
            exact hstart.sscInvite hfresh hcall
          · cases hcalls
        · have hmem : c ∈ (sofsipHandleInput jsonObject s.cli line).2 := by
            rw [hcalls]
            exact List.mem_singleton.mpr rfl
          -- No other line sends an SDP.
          have hsilent : sendsSdp c = false :=
            sendsSdp_of_other (Bool.eq_false_iff.mpr ha) (Bool.eq_false_iff.mpr hi) c hmem
          exact hstart.sscCall hfresh hsilent hcall

/-- An `a` without an SDP takes the one that is stored. -/
theorem not_sendsOwnSdp (hdistinct : Distinct s.ssc) {input : SofiaInput}
    (hfinds : ¬ FindsNoSdp jsonObject s input)
    (h : sofiaStep env jsonObject s (alloc, input) = some s') :
    ¬ SendsOwnSdp jsonObject input s' := by
  cases input with
  | event nh e => exact absurd trivial hfinds
  | line line prompt =>
    simp only [FindsNoSdp, Classical.not_imp, not_or] at hfinds
    obtain ⟨⟨ha, hrest, hnone⟩, hcall, hstored⟩ := hfinds
    -- A call waits, the line has no SDP, and one is stored.
    obtain ⟨op, hop⟩ := Option.ne_none_iff_exists'.mp hcall
    have hcalls : (sofsipHandleInput jsonObject s.cli line).2 = _ := sofsipHandleInput_answer ha
    rw [if_pos hrest, hnone] at hcalls
    have hssc : s'.ssc = sscAnswer none 200 "OK".toList (turnStart s.ssc) := by
      obtain ⟨-, ⟨hempty, -⟩ | ⟨c, hone, hcall⟩⟩ := sofiaStep_line h
      · rw [hcalls] at hempty
        cases hempty
      · rw [hcalls] at hone
        cases hone
        exact (Option.some.inj hcall).symm
    have hle : 200 ≤ 200 := le_refl _
    have hlt : 200 < 300 := by omega
    -- So the stored one is what the response carries.
    have hnua : (sscAnswer none 200 "OK".toList (turnStart s.ssc)).nua =
        [.respond op.opHandle 200 "OK".toList (some s.ssc.media.localSdp)] :=
      nua_sscAnswer (turnStart s.ssc) hdistinct.addrs none "OK".toList hop hle hlt hstored
    have hmem : NuaCall.respond op.opHandle 200 "OK".toList (some s.ssc.media.localSdp)
        ∈ s'.ssc.nua := by
      rw [hssc, hnua]
      exact List.mem_singleton.mpr rfl
    intro hsends
    obtain ⟨-, hpayload⟩ := hsends _ hmem (by decide) (by decide)
    rw [inputSdp, hnone] at hpayload
    cases hpayload

/-- In every run of a new client: each INVITE and each 2xx response carries the SDP of the command
that sent it, and a command without one sends neither, exactly when no `a` without an SDP finds
a call to answer while an SDP is stored. -/
theorem ownSdp_iff (env : SscEnv) (jsonObject : CString → Option NSDictionary) (alloc : Alloc)
    (cli : Cli) (inputs : List (Alloc × SofiaInput)) :
    AllSteps (sofiaStep env jsonObject) (fun _ input s' => SendsOwnSdp jsonObject input.2 s')
        (.create env alloc cli) inputs ↔
      AllSteps (sofiaStep env jsonObject) (fun s input _ => FindsNoSdp jsonObject s input.2)
        (.create env alloc cli) inputs := by
  refine AllSteps.iff_of_inv (fun s => Distinct s.ssc ∧ s.ssc.autoanswer = false) ?_ ?_ inputs
  · rintro s ⟨alloc, input⟩ s' ⟨hdistinct, hauto⟩ hstep
    have hcarrying : FindsNoSdp jsonObject s input → Carrying (inputSdp jsonObject input) s'.ssc :=
      fun hfinds => carrying_sofiaStep hauto hfinds hstep
    refine ⟨⟨fun hsends => ?_, fun hfinds => (hcarrying hfinds).carries⟩,
      fun hfinds => ⟨distinct_sofiaStep hdistinct hstep, (hcarrying hfinds).autoanswer⟩⟩
    by_contra hfinds
    exact not_sendsOwnSdp hdistinct hfinds hstep hsends
  · refine ⟨distinct_create cli, ?_⟩
    have hstart : Carrying none { address := cli.conf.aor } := ⟨rfl, fun c hc => by cases hc⟩
    exact ((plainInvariant_carrying none).create cli hstart).autoanswer

end Steps

/-- A call is made, another one comes in, and is answered without an SDP. -/
def answerWithoutSdp : List (Alloc × SofiaInput) :=
  [(⟨1, 1⟩, .line "i \x7b\"destination\":\"sip:b@h\",\"sdp\":\"v=1\"\x7d".toList),
    (⟨2, 2⟩, .event 7 (.iInvite (some
      { sipFrom := some { url := "sip:c@h".toList, urlUser := none }
        hasTo := true
        payload := some "v=2".toList }))),
    (⟨3, 3⟩, .line "a \x7b\x7d".toList)]

/-- The second caller is answered with the SDP that was made for the first one. -/
theorem answer_carries_earlier_sdp :
    (∃ s, run (sofiaStep plainEnv Json.read) (.create plainEnv ⟨0, 0⟩ {}) answerWithoutSdp
          = some s ∧
      s.ssc.nua = [.respond 7 200 "OK".toList (some "v=1".toList)]) ∧
    ¬ AllSteps (sofiaStep plainEnv Json.read) (fun _ input s' => SendsOwnSdp Json.read input.2 s')
      (.create plainEnv ⟨0, 0⟩ {}) answerWithoutSdp :=
  ⟨⟨_, rfl, by decide⟩, by decide⟩

end RestCommSdk.Proofs
