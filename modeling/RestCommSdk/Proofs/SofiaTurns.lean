import RestCommSdk.CliInterface.SofiaThread
import RestCommSdk.Proofs.SscTransactions

/-!
# `RestCommSdk.Proofs.SofiaTurns`: what a turn of the Sofia thread calls

A command line leads to one `ssc_*` call at most (`sofsipHandleCommand_length`). The calls of
`a`, `i`, `m` and `r` take their arguments from the JSON object of the line, and no other
command answers a call or makes one (`sendsSdp_of_other`). `sofiaStep_line` and
`sofiaStep_event` are what a turn does to the SIP client.
-/

set_option autoImplicit false

namespace RestCommSdk.Proofs

open RestCommSdk.CliInterface
open RestCommSdk.SipManager (NSDictionary objectForKey)

variable {jsonObject : CString → Option NSDictionary} {cli : Cli} {line : CString}

/-! ### Words -/

/-- The word of a line is one of the two spellings of a command. -/
def isWord (line : CString) (short long : String) : Bool :=
  sameWord (scanCommand line).1 short || sameWord (scanCommand line).1 long

section Words
variable {short long : String} (h : isWord line short long = true)
include h

/-- A word has the letters of one command only, whatever their case. -/
theorem lower_of_isWord :
    (scanCommand line).1.map Char.toLower = short.toList ∨
      (scanCommand line).1.map Char.toLower = long.toList := by
  simpa [isWord, sameWord] using h

/-- A command that is one of two words is no third one. -/
theorem sameWord_of_isWord {word : String} (hshort : short.toList ≠ word.toList)
    (hlong : long.toList ≠ word.toList) : sameWord (scanCommand line).1 word = false := by
  rw [sameWord, decide_eq_false_iff_not]
  rcases lower_of_isWord h with h | h
  · rwa [h]
  · rwa [h]

/-- Nor any text that differs from both when their case is ignored. -/
theorem ne_of_isWord {text : CString} (hshort : text.map Char.toLower ≠ short.toList)
    (hlong : text.map Char.toLower ≠ long.toList) : (scanCommand line).1 ≠ text := by
  rintro rfl
  rcases lower_of_isWord h with h | h
  · exact hshort h
  · exact hlong h

end Words

/-! ### Lines -/

section Branches
variable {c : Prop} [Decidable c] {a b : Cli × List SscCall}

/-- One call at most on either side. -/
theorem length_ite (ha : a.2.length ≤ 1) (hb : b.2.length ≤ 1) :
    (if c then a else b).2.length ≤ 1 := by
  split <;> assumption

/-- What holds of the calls of both branches. -/
theorem forall_calls_ite {P : SscCall → Prop} (ha : c → ∀ d ∈ a.2, P d) (hb : ∀ d ∈ b.2, P d) :
    ∀ d ∈ (if c then a else b).2, P d := by
  split
  · exact ha ‹_›
  · exact hb

/-- The calls that put an SDP on the wire. -/
def sendsSdp : SscCall → Bool
  | .invite .. => true
  | .answer _ status _ => 200 ≤ status && status < 300
  | _ => false

end Branches

/-- A line is one call at most. -/
theorem sofsipHandleCommand_length (command : CString) (rest : Option CString) :
    (sofsipHandleCommand jsonObject cli command rest).2.length ≤ 1 := by
  unfold sofsipHandleCommand
  dsimp only
  repeat' with_reducible refine length_ite ?_ ?_
  all_goals cases rest <;> simp [updateFrom, updateBare]

/-- A line calls nothing or one function. -/
theorem sofsipHandleInput_calls (jsonObject : CString → Option NSDictionary) (cli : Cli)
    (line : CString) :
    (sofsipHandleInput jsonObject cli line).2 = [] ∨
      ∃ c, (sofsipHandleInput jsonObject cli line).2 = [c] := by
  have hlength : (sofsipHandleInput jsonObject cli line).2.length ≤ 1 :=
    sofsipHandleCommand_length _ _
  rcases Nat.le_one_iff_eq_zero_or_eq_one.mp hlength with h | h
  · exact .inl (List.eq_nil_of_length_eq_zero h)
  · exact .inr (List.length_eq_one_iff.mp h)

/-- `a` with arguments. -/
theorem sofsipHandleInput_answer (h : isWord line "a" "answer" = true) :
    (sofsipHandleInput jsonObject cli line).2 =
      if (scanCommand line).2.isSome then
        [.answer (lineArgument jsonObject line "sdp") 200 "OK".toList]
      else [] := by
  unfold sofsipHandleInput sofsipHandleCommand lineArgument
  rw [isWord] at h
  rw [if_pos h]
  cases (scanCommand line).2 <;> rfl

/-- `i` with arguments. -/
theorem sofsipHandleInput_invite (h : isWord line "i" "invite" = true) :
    (sofsipHandleInput jsonObject cli line).2 =
      if (scanCommand line).2.isSome then
        [.invite (lineArgument jsonObject line "destination")
          (lineArgument jsonObject line "password") (lineArgument jsonObject line "sdp")
          (lineArgument jsonObject line "sip-headers")]
      else [] := by
  have h' := h
  rw [isWord] at h'
  unfold sofsipHandleInput sofsipHandleCommand lineArgument
  simp (disch := decide) only [sameWord_of_isWord h, ne_of_isWord h, h', Bool.or_self,
    Bool.false_eq_true, ↓reduceIte]
  cases (scanCommand line).2 <;> rfl

/-- `m` with arguments. -/
theorem sofsipHandleInput_message (h : isWord line "m" "message" = true) :
    (sofsipHandleInput jsonObject cli line).2 =
      if (scanCommand line).2.isSome then
        [.message (lineArgument jsonObject line "destination")
          (lineArgument jsonObject line "password") (lineArgument jsonObject line "message")
          (lineArgument jsonObject line "sip-headers")]
      else [] := by
  have h' := h
  rw [isWord] at h'
  unfold sofsipHandleInput sofsipHandleCommand lineArgument
  simp (disch := decide) only [sameWord_of_isWord h, ne_of_isWord h, h', Bool.or_self,
    Bool.false_eq_true, ↓reduceIte]
  cases (scanCommand line).2 <;> rfl

/-- `r`, with arguments or without. -/
theorem sofsipHandleInput_register (h : isWord line "r" "register" = true) :
    (sofsipHandleInput jsonObject cli line).2 =
      [.update (lineArgument jsonObject line "aor") (lineArgument jsonObject line "password")
        (lineArgument jsonObject line "registrar") false] := by
  have h' := h
  rw [isWord] at h'
  unfold sofsipHandleInput sofsipHandleCommand lineArgument
  simp (disch := decide) only [sameWord_of_isWord h, ne_of_isWord h, h', Bool.or_self,
    Bool.false_eq_true, ↓reduceIte]
  cases (scanCommand line).2 <;> rfl

/-- The other commands put no SDP on the wire. -/
theorem sendsSdp_of_other (ha : isWord line "a" "answer" = false)
    (hi : isWord line "i" "invite" = false) :
    ∀ c ∈ (sofsipHandleInput jsonObject cli line).2, sendsSdp c = false := by
  rw [isWord, Bool.eq_false_iff] at ha hi
  unfold sofsipHandleInput sofsipHandleCommand
  dsimp only
  rw [if_neg ha, if_neg hi]
  repeat' with_reducible refine forall_calls_ite (fun _ => ?_) ?_
  all_goals cases (scanCommand line).2 <;> simp [updateFrom, updateBare, sendsSdp]

/-! ### Turns -/

section Turns
variable {env : SscEnv} {alloc : Alloc} {s s' : SofiaThread}

/-- The client at the start of a turn, before it asks for anything. -/
def turnStart (ssc : Ssc) : Ssc := { ssc with nua := [], sent := [] }

/-- A turn for a line: the function that the line calls, if any. -/
theorem sofiaStep_line {prompt : CString}
    (h : sofiaStep env jsonObject s (alloc, .line line prompt) = some s') :
    alloc.Fresh s.ssc ∧
      ((sofsipHandleInput jsonObject s.cli line).2 = [] ∧ s'.ssc = turnStart s.ssc ∨
        ∃ c, (sofsipHandleInput jsonObject s.cli line).2 = [c] ∧
          sscCall env alloc prompt (turnStart s.ssc) c = some s'.ssc) := by
  simp only [sofiaStep] at h
  split at h
  · rename_i hfresh
    obtain ⟨ssc, hssc, h⟩ := Option.bind_eq_some_iff.mp h
    cases h
    refine ⟨hfresh, ?_⟩
    -- A line makes one call at most.
    rcases sofsipHandleInput_calls jsonObject s.cli line with hcalls | ⟨c, hcalls⟩
    · rw [hcalls] at hssc
      cases hssc
      exact .inl ⟨hcalls, rfl⟩
    · rw [hcalls, List.foldlM_cons] at hssc
      obtain ⟨ssc', hcall, hssc⟩ := Option.bind_eq_some_iff.mp hssc
      cases hssc
      exact .inr ⟨c, hcalls, hcall⟩
  · cases h

/-- A turn for a line that calls one function. -/
theorem sofiaStep_of_call {prompt : CString} {c : SscCall} {ssc' : Ssc}
    (hfresh : alloc.Fresh s.ssc) (hcalls : (sofsipHandleInput jsonObject s.cli line).2 = [c])
    (hcall : sscCall env alloc prompt (turnStart s.ssc) c = some ssc') :
    sofiaStep env jsonObject s (alloc, .line line prompt) =
      some { cli := (sofsipHandleInput jsonObject s.cli line).1, ssc := ssc' } := by
  have hfresh' : alloc.Fresh { s.ssc with nua := [], sent := [] } := hfresh
  have hcall' : sscCall env alloc prompt { s.ssc with nua := [], sent := [] } c = some ssc' := hcall
  simp only [sofiaStep, hfresh', if_true, hcalls, List.foldlM_cons, List.foldlM_nil, hcall',
    Option.bind_eq_bind, Option.bind_some, Option.pure_def]

/-- A turn for an event. -/
theorem sofiaStep_event {nh : Nat} {e : NuaEvent}
    (h : sofiaStep env jsonObject s (alloc, .event nh e) = some s') :
    alloc.Fresh s.ssc ∧ privCallback env alloc nh (turnStart s.ssc) e = some s'.ssc := by
  simp only [sofiaStep] at h
  split at h
  · rename_i hfresh
    obtain ⟨ssc, hssc, h⟩ := Option.bind_eq_some_iff.mp h
    cases h
    exact ⟨hfresh, hssc⟩
  · cases h

/-! ### Operations with names of their own -/

/-- No two operations share an address or a handle. -/
def Distinct (ssc : Ssc) : Prop := ∃ t, Settled t ssc

/-- The addresses are distinct. -/
theorem Distinct.addrs {ssc : Ssc} (h : Distinct ssc) : (ssc.operations.map (·.addr)).Nodup := by
  obtain ⟨t, ht⟩ := h
  exact ht.addrs

/-- The handles are distinct. -/
theorem Distinct.handles {ssc : Ssc} (h : Distinct ssc) :
    (ssc.operations.map (·.opHandle)).Nodup := by
  obtain ⟨t, ht⟩ := h
  exact ht.handles

/-- A turn of the thread is a step of the SIP client, or the client is left as it is. -/
theorem sscStep_of_sofiaStep {input : SofiaInput}
    (hstep : sofiaStep env jsonObject s (alloc, input) = some s') :
    s'.ssc = turnStart s.ssc ∨ ∃ input', sscStep env alloc s.ssc input' = some s'.ssc := by
  cases input with
  | line line prompt =>
    obtain ⟨hfresh, ⟨-, hssc⟩ | ⟨c, -, hcall⟩⟩ := sofiaStep_line hstep
    · exact .inl hssc
    · refine .inr ⟨.call c prompt, ?_⟩
      have hturn : alloc.Fresh (turnStart s.ssc) := hfresh
      exact (if_pos hturn).trans hcall
  | event nh e =>
    obtain ⟨hfresh, hevent⟩ := sofiaStep_event hstep
    refine .inr ⟨.event nh e, ?_⟩
    have hturn : alloc.Fresh (turnStart s.ssc) := hfresh
    exact (if_pos hturn).trans hevent

/-- A turn keeps the names apart. -/
theorem distinct_sofiaStep {input : SofiaInput} (h : Distinct s.ssc)
    (hstep : sofiaStep env jsonObject s (alloc, input) = some s') : Distinct s'.ssc := by
  obtain ⟨t, ht⟩ := h
  rcases sscStep_of_sofiaStep hstep with hssc | ⟨input', hssc⟩
  · rw [hssc]
    exact ⟨t, ht.of_eq rfl rfl⟩
  · exact ⟨_, settled_sscStep ht hssc⟩

/-- The client after a step. -/
theorem ssc_clientAfter (client : Client) (ssc : Ssc) : (client.after ssc).ssc = ssc := by
  have hfold : ∀ (calls : List NuaCall) (client : Client),
      (calls.foldl Client.setParams client).ssc = client.ssc := by
    intro calls
    induction calls with
    | nil => intro client; rfl
    | cons c calls ih =>
      intro client
      rw [List.foldl_cons, ih]
      cases c <;> rfl
  exact hfold _ _

/-- A property that most handlers keep holds of a new client, if it holds of one without
operations. -/
theorem PlainInvariant.create {I : Ssc → Prop} (hI : PlainInvariant I) (cli : Cli)
    (h : I { address := cli.conf.aor }) : I (SofiaThread.create env alloc cli).ssc := by
  have hfresh : alloc.Fresh { address := cli.conf.aor } := by
    constructor <;> intro op hop <;> cases hop
  have hregister : I (CliInterface.sscRegister env alloc cli.conf.registrar cli.conf.password
      { address := cli.conf.aor }) := hI.sscRegister h hfresh _ _
  unfold SofiaThread.create sscCreate
  dsimp only
  split
  · rw [ssc_clientAfter]
    exact hI.of_eq hregister rfl rfl rfl
  · exact hI.of_eq h rfl rfl rfl

/-- A new client has no operations. -/
theorem distinct_create (cli : Cli) : Distinct (SofiaThread.create env alloc cli).ssc := by
  have hstart : Settled (fun _ => {}) { address := cli.conf.aor } := settled_start rfl
  have hkept : Kept (fun _ => {}) (SofiaThread.create env alloc cli).ssc :=
    (plainInvariant_kept fun _ => {}).create cli hstart
  -- The requests of the registration that the client starts with are behind it.
  exact ⟨current (fun _ => {}) (SofiaThread.create env alloc cli).ssc,
    hkept.addrs, hkept.handles, hkept.persistent, hkept.marked⟩

end Turns

end RestCommSdk.Proofs
