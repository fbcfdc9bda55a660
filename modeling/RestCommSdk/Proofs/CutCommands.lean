import RestCommSdk.Lib.JsonFragments
import RestCommSdk.Proofs.CommandDelivery
import RestCommSdk.Proofs.OperationRules
import RestCommSdk.Proofs.SofiaTurns

/-!
# `RestCommSdk.Proofs.CutCommands`: no registration from a command that is cut

A `$` in a text of a command cuts the command on the pipe, and the Sofia side takes each part for a
line of its own. A part may well be a command: what follows the `$` is chosen by whoever chose the
text. It is not a registration, though: `r` takes the registrar from a JSON object, which none of
the parts is (`mem_sscCalls_of_asksRegister`), and the other commands send no REGISTER
(`sendsRegister_of_not_asks`).
-/

set_option autoImplicit false

namespace RestCommSdk.Proofs

open RestCommSdk.Lib
open RestCommSdk.CliInterface
open RestCommSdk.SipManager

/-! ### Lines that ask for a registration -/

/-- The call is for a REGISTER at a registrar. -/
def asksRegister : SscCall → Bool
  | .update _ _ registrar false => (givenRegistrar registrar).isSome
  | _ => false

section Lines
variable {jsonObject : CString → Option NSDictionary} {cli : Cli} {line : CString}

/-- No other command than `r` asks for one. -/
theorem asksRegister_of_other (hr : isWord line "r" "register" = false) :
    ∀ c ∈ (sofsipHandleInput jsonObject cli line).2, asksRegister c = false := by
  unfold sofsipHandleInput sofsipHandleCommand
  dsimp only
  repeat' with_reducible refine forall_calls_ite (fun _ => ?_) ?_
  all_goals first
    | exact absurd ‹_› (Bool.eq_false_iff.mp hr)
    | cases (scanCommand line).2 <;> simp [updateFrom, updateBare, asksRegister]

/-- A registration is an `r` with an object that names a registrar. -/
theorem register_of_asksRegister {c : SscCall}
    (hc : c ∈ (sofsipHandleInput jsonObject cli line).2) (hasks : asksRegister c = true) :
    isWord line "r" "register" = true ∧
      ∃ r d, (scanCommand line).2 = some r ∧ jsonObject r = some d ∧ d ≠ [] := by
  have hr : isWord line "r" "register" = true := by
    by_contra hr
    rw [asksRegister_of_other (Bool.eq_false_iff.mpr hr) c hc] at hasks
    cases hasks
  refine ⟨hr, ?_⟩
  rw [sofsipHandleInput_register hr, List.mem_singleton] at hc
  subst hc
  -- The registrar is an entry of the object behind the word.
  obtain ⟨registrar, hgiven⟩ := Option.isSome_iff_exists.mp
    (show (givenRegistrar (lineArgument jsonObject line "registrar")).isSome = true from hasks)
  obtain ⟨hregistrar, -⟩ := Option.filter_eq_some_iff.mp hgiven
  obtain ⟨r, hrest, hlookup⟩ := Option.bind_eq_some_iff.mp hregistrar
  obtain ⟨d, hd, hfound⟩ := Option.bind_eq_some_iff.mp
    (show ((jsonObject r).bind fun d => d.lookup "registrar".toList) = some registrar from hlookup)
  refine ⟨r, d, hrest, hd, ?_⟩
  rintro rfl
  cases hfound

/-- A line with a rest, up to the white space at its end: what stands in front of the rest is white
space or the word. -/
theorem line_of_scanCommand {r : CString} (h : (scanCommand line).2 = some r) :
    ∃ w, line.rdropWhile isWs = w ++ r ∧ ∀ c ∈ w, isWs c = true ∨ c ∈ (scanCommand line).1 := by
  unfold scanCommand at h ⊢
  dsimp only at h ⊢
  generalize hstripped : (line.rdropWhile isWs).dropWhile isWs = stripped at h ⊢
  split at h
  · cases h
  · cases h
    refine ⟨(line.rdropWhile isWs).takeWhile isWs ++ stripped.takeWhile (!isWs ·) ++
      (stripped.dropWhile (!isWs ·)).takeWhile isWs, ?_, fun c hc => ?_⟩
    · rw [List.append_assoc, List.takeWhile_append_dropWhile, List.append_assoc,
        List.takeWhile_append_dropWhile, ← hstripped, List.takeWhile_append_dropWhile]
    · simp only [List.mem_append] at hc
      rcases hc with (hc | hc) | hc
      · exact .inl (List.mem_takeWhile_imp hc)
      · exact .inr hc
      · exact .inl (List.mem_takeWhile_imp hc)

/-- The rest of an `r` whose line continues a JSON text opens no member. -/
theorem not_opensMember_rest {r : CString} (hr : isWord line "r" "register" = true)
    (hrest : (scanCommand line).2 = some r) (h : Json.Continues line) : ¬ Json.OpensMember r := by
  obtain ⟨w, hline, hw⟩ := line_of_scanCommand hrest
  -- The word has letters only, up to case.
  have hletters : ∀ c ∈ w, c ≠ '"' ∧ c ≠ '\\' := by
    have hword : ∀ c ∈ (scanCommand line).1, c.toLower ∈ "register".toList := by
      intro c hc
      have hmem := List.mem_map_of_mem (f := Char.toLower) hc
      rcases lower_of_isWord hr with hlower | hlower <;> rw [hlower] at hmem
      · rw [List.mem_singleton.mp hmem]
        decide
      · exact hmem
    intro c hc
    constructor <;> rintro rfl <;> rcases hw _ hc with hws | hmem
    · exact absurd hws (by decide)
    · exact absurd (hword _ hmem) (by decide)
    · exact absurd hws (by decide)
    · exact absurd (hword _ hmem) (by decide)
  have hcontinues := h.of_prefix (List.rdropWhile_prefix isWs (l := line))
  rw [hline] at hcontinues
  refine hcontinues.not_opensMember (fun hmem => (hletters _ hmem).1 rfl) fun hlast => ?_
  exact (hletters _ (List.mem_of_getLast? hlast)).2 rfl

end Lines

/-! ### The lines of a cut command -/

/-- A part of a list that is cut at each delimiter is the list, or ends at a delimiter and is the
first one, or starts behind a delimiter. -/
theorem mem_splitOn_cases {α : Type} [DecidableEq α] {d : α} {s x : List α}
    (h : x ∈ s.splitOn d) :
    d ∉ s ∧ x = s ∨ (∃ rest, s = x ++ d :: rest) ∨ ∃ before rest, s = before ++ d :: rest ∧
      x <+: rest := by
  by_cases hd : d ∈ s
  · obtain ⟨first, rest, hfirst, rfl⟩ := exists_first_delimiter hd
    rw [List.splitOn_append_cons_self_of_not_mem hfirst, List.mem_cons] at h
    right
    rcases h with rfl | h
    · exact .inl ⟨rest, rfl⟩
    · right
      rcases mem_splitOn_cases h with ⟨-, rfl⟩ | ⟨rest', rfl⟩ | ⟨before, rest', rfl, hprefix⟩
      · exact ⟨first, x, rfl, List.prefix_rfl⟩
      · exact ⟨first, x ++ d :: rest', rfl, List.prefix_append _ _⟩
      · exact ⟨first ++ d :: before, rest', by simp, hprefix⟩
  · rw [List.splitOn_eq_singleton hd, List.mem_singleton] at h
    exact .inl ⟨hd, h⟩
termination_by s.length
decreasing_by simp_all; omega

/-- The lines of a batch are parts of its commands. -/
theorem mem_headPieces_batch {commands : List Command} {line : CString}
    (h : line ∈ headPieces '$' (commandBytes commands)) :
    ∃ c ∈ commands, line ∈ c.text.splitOn '$' := by
  have hne : line ≠ [] := by
    have := List.mem_takeWhile_imp h
    simpa using this
  have hmem : line ∈ (commandBytes commands).splitOn '$' := (List.takeWhile_prefix _).subset h
  clear h
  induction commands with
  | nil => exact absurd (by simpa [commandBytes] using hmem) hne
  | cons c commands ih =>
    rw [commandBytes_cons, List.splitOn_append_cons_self, List.mem_append] at hmem
    rcases hmem with hmem | hmem
    · exact ⟨c, List.mem_cons_self, hmem⟩
    · obtain ⟨c', hc', hline⟩ := ih hmem
      exact ⟨c', List.mem_cons_of_mem _ hc', hline⟩

/-- The names in the object of a command are names, and hold no `$`. -/
theorem names_of_args {c : Command} {d : NSDictionary} (h : c.args = some d) :
    ∀ m ∈ d, '$' ∉ m.1 ∧ ∀ e ∈ m.1.head?, Json.startsName e = true := by
  have hentry : ∀ (key : String) (value : Option CString),
      ('$' ∉ key.toList ∧ key.toList.head?.all Json.startsName = true) →
      ∀ m ∈ entry key value, '$' ∉ m.1 ∧ ∀ e ∈ m.1.head?, Json.startsName e = true := by
    intro key value hkey m hm
    cases value with
    | none => cases hm
    | some v =>
      rw [entry, Option.map_some, Option.toList_some, List.mem_singleton] at hm
      rw [hm]
      exact ⟨hkey.1, (Option.all_eq_true _ _).mp hkey.2⟩
  have happend : ∀ d e : NSDictionary,
      (∀ m ∈ d, '$' ∉ m.1 ∧ ∀ e ∈ m.1.head?, Json.startsName e = true) →
      (∀ m ∈ e, '$' ∉ m.1 ∧ ∀ e ∈ m.1.head?, Json.startsName e = true) →
      ∀ m ∈ d ++ e, '$' ∉ m.1 ∧ ∀ e ∈ m.1.head?, Json.startsName e = true :=
    fun d e hd he m hm => (List.mem_append.mp hm).elim (hd m) (he m)
  cases c with
  | info | decline | cancel | bye | markForRestart | shutdown => cases h
  | _ =>
    cases h
    repeat' refine happend _ _ ?_ ?_
    all_goals exact hentry _ _ (by decide)

section Json
variable {jsonObject : CString → Option NSDictionary}
  (hread : ∀ d, jsonObject (stringifyDictionary d) = some d)
  (htruncated : ∀ d p q, p ++ q = stringifyDictionary d → q ≠ [] → jsonObject p = none)
  (hmember : ∀ text d, jsonObject text = some d → d ≠ [] → Json.OpensMember text)
include hread htruncated hmember

/-- Of the lines of commands with an object, only whole ones ask for a registration. -/
theorem asksRegister_of_part {cli : Cli} {c : Command} {d : NSDictionary} (hargs : c.args = some d)
    {line : CString} (hline : line ∈ c.text.splitOn '$') {call : SscCall}
    (hcall : call ∈ (sofsipHandleInput jsonObject cli line).2) (hasks : asksRegister call = true) :
    '$' ∉ c.text ∧ call ∈ sscCalls c := by
  obtain ⟨hr, r, d', hrest, hd', hne⟩ := register_of_asksRegister hcall hasks
  rcases mem_splitOn_cases hline with
    ⟨hdollar, rfl⟩ | ⟨rest, htext⟩ | ⟨before, rest, htext, hprefix⟩
  · rw [calls_text hread] at hcall
    exact ⟨hdollar, hcall⟩
  · -- The first part has a beginning of the object for its rest.
    obtain ⟨hvisible, hword⟩ := word_visible c
    obtain ⟨text, p, htext', hp, rfl⟩ := text_cut htext
    rw [rest_of_args hargs] at htext'
    cases htext'
    obtain ⟨t, ht⟩ := List.rdropWhile_prefix isWs (l := p)
    have hhead : ∃ y ∈ p.head?, isWs y = false := by
      have hobject := Json.head?_write d
      cases p with
      | nil =>
        rw [show Json.write d = stringifyDictionary d from rfl, hp] at hobject
        cases hobject
      | cons y p =>
        rw [show Json.write d = stringifyDictionary d from rfl, hp] at hobject
        cases hobject
        exact ⟨'{', rfl, rfl⟩
    rw [scanCommand_rest hvisible hword hhead] at hrest
    cases hrest
    have hnone := htruncated d (p.rdropWhile isWs) (t ++ '$' :: rest)
      (by rw [hp, ← List.append_assoc, ht]) (by simp)
    rw [hnone] at hd'
    cases hd'
  · -- The others continue the object.
    rw [Command.text, rest_of_args hargs] at htext
    have hhead : '$' ∉ c.word ++ [' '] := by simp [dollar_notMem_word c]
    obtain ⟨x, hx⟩ := Json.cut_behind (a := c.word ++ [' ']) (b := stringifyDictionary d)
      (by simpa using htext) hhead
    have hnames := names_of_args hargs
    have hcontinues := Json.continues_of_write (by decide) (by decide)
      (fun m hm => (hnames m hm).1) (fun m hm => (hnames m hm).2) hx
    exact absurd (hmember r d' hd' hne)
      (not_opensMember_rest hr hrest (hcontinues.of_prefix hprefix))

omit hread htruncated hmember in
/-- What successive lines ask for is what one of them asks for. -/
theorem exists_line_of_mem {cli : Cli} {lines : List CString} {call : SscCall}
    (h : call ∈ (sofsipHandleInputs jsonObject cli lines).2) :
    ∃ cli', ∃ line ∈ lines, call ∈ (sofsipHandleInput jsonObject cli' line).2 := by
  induction lines generalizing cli with
  | nil => cases h
  | cons line lines ih =>
    rw [sofsipHandleInputs, List.mem_append] at h
    rcases h with h | h
    · exact ⟨cli, line, List.mem_cons_self, h⟩
    · obtain ⟨cli', line', hline, hcall⟩ := ih h
      exact ⟨cli', line', List.mem_cons_of_mem _ hline, hcall⟩

/-- The registrations that commands with objects lead to, in any batching into reads, are asked for
by whole commands. -/
theorem mem_sscCalls_of_asksRegister {cli : Cli} {batches : List (List Command)}
    (hargs : ∀ c ∈ batches.flatten, c.args.isSome) {calls : List SscCall}
    (hcalls : sofiaCalls jsonObject cli (batches.map commandBytes) = some calls) {call : SscCall}
    (hcall : call ∈ calls) (hasks : asksRegister call = true) :
    ∃ c ∈ batches.flatten, '$' ∉ c.text ∧ call ∈ sscCalls c := by
  obtain ⟨lines, hlines, rfl⟩ := Option.map_eq_some_iff.mp hcalls
  obtain ⟨-, rfl⟩ := sscInputReads_eq_some.mp hlines
  obtain ⟨cli', line, hline, hcall⟩ := exists_line_of_mem hcall
  obtain ⟨bytes, hbytes, hline⟩ := List.mem_flatMap.mp hline
  obtain ⟨batch, hbatch, rfl⟩ := List.mem_map.mp hbytes
  obtain ⟨c, hc, hpart⟩ := mem_headPieces_batch hline
  have hmem : c ∈ batches.flatten := List.mem_flatten.mpr ⟨batch, hbatch, hc⟩
  obtain ⟨d, hd⟩ := Option.isSome_iff_exists.mp (hargs c hmem)
  exact ⟨c, hmem, asksRegister_of_part hread htruncated hmember hd hpart hcall hasks⟩

end Json

/-! ### Calls that send no REGISTER -/

/-- A REGISTER is sent. -/
def SendsRegister (nua : List NuaCall) : Prop := ∃ nh registrar, .register nh registrar ∈ nua

/-- The request is a REGISTER. -/
def isRegister : NuaCall → Bool
  | .register .. => true
  | _ => false

/-- What the stack was asked to register. -/
def registersOf (ssc : Ssc) : List NuaCall := ssc.nua.filter isRegister

/-- A `REGISTER` was asked for. -/
theorem sendsRegister_iff (ssc : Ssc) : SendsRegister ssc.nua ↔ registersOf ssc ≠ [] := by
  rw [registersOf, Ne, List.filter_eq_nil_iff, not_forall]
  constructor
  · rintro ⟨nh, registrar, hmem⟩
    exact ⟨.register nh registrar, fun h => h hmem rfl⟩
  · rintro ⟨c, hc⟩
    obtain ⟨hmem, hregister⟩ := Classical.not_imp.mp hc
    cases c with
    | register nh registrar => exact ⟨nh, registrar, hmem⟩
    | _ => exact absurd Bool.false_ne_true hregister

/-- Another call of the stack. -/
theorem registersOf_emit (ssc : Ssc) {c : NuaCall} (h : isRegister c = false) :
    registersOf (ssc.emit c) = registersOf ssc := by
  simp [registersOf, Ssc.emit, h]

/-- Registrations do not look at the operations. -/
theorem blind_registersOf : BlindToOperations registersOf where
  operations _ _ := rfl
  media _ _ := rfl
  handle ssc _ _ := registersOf_emit ssc rfl
  handleDestroy ssc _ := registersOf_emit ssc rfl

/-- The functions that send no REGISTER. -/
theorem operationInvariant_registersOf (before : List NuaCall) :
    OperationInvariant (fun ssc => registersOf ssc = before) True
      fun c => isRegister c = false where
  of_eq h _ hnua _ := by rwa [registersOf, hnua]
  auth {c} hc := by cases c <;> first | rfl | cases hc
  request h _ hc _ := (registersOf_emit _ hc).trans h
  setting {_ c} h hc := by
    refine (registersOf_emit _ ?_).trans h
    cases c <;> first | rfl | cases hc
  setOper _ _ h _ := h
  destroy addr h := (blind_registersOf.sscOperDestroy _ addr).trans h
  make _ _ h _ := (registersOf_emit _ rfl).trans h
  bind _ _ h _ _ := (registersOf_emit _ rfl).trans h
  takeOver _ _ h _ := h

section Steps
variable {env : SscEnv} {alloc : Alloc} {ssc ssc' : Ssc}

/-- The media is ready: an INVITE goes out, or a response, or neither. -/
theorem registersOf_privMediaStateCb (addr : Nat) (ssc : Ssc) :
    registersOf (privMediaStateCb addr ssc) = registersOf ssc := by
  rcases privMediaStateCb_cases addr ssc with heq | ⟨media, heq⟩ |
    ⟨op, hop, ⟨hpending, -, heq⟩ | ⟨-, -, f, status, phrase, payload, -, -, heq⟩⟩ <;> rw [heq]
  · exact (blind_registersOf.sscOperDestroy _ addr).trans (blind_registersOf.media ssc _)
  · exact registersOf_emit _ rfl
  · exact registersOf_emit _ rfl

/-- A call that does not ask for a REGISTER sends none. -/
theorem sendsRegister_of_not_asks (hfresh : alloc.Fresh ssc) {prompt : CString} {c : SscCall}
    (hasks : asksRegister c = false) (h : sscCall env alloc prompt ssc c = some ssc') :
    SendsRegister ssc'.nua ↔ SendsRegister ssc.nua := by
  suffices hsame : registersOf ssc' = registersOf ssc by
    rw [sendsRegister_iff, sendsRegister_iff, hsame]
  have hrules := operationInvariant_registersOf (registersOf ssc)
  cases c with
  | answer sdp status phrase =>
    cases h
    unfold sscAnswer
    split
    · rfl
    · dsimp only
      split
      · exact registersOf_privMediaStateCb _ _
      · exact (blind_registersOf.sscOperDestroy _ _).trans (registersOf_emit _ rfl)
  | bye =>
    cases h
    unfold sscBye
    split
    · rfl
    · exact (blind_registersOf.setOper _ _ _).trans (registersOf_emit _ rfl)
  | invite destination password sdp headers =>
    have hcreate :=
      blind_registersOf.sscOperCreateWithPassword env alloc .invite destination password ssc
    rcases sscInvite_cases h with ⟨addr, payload, -, rfl⟩ | rfl
    · exact (registersOf_privMediaStateCb addr _).trans hcreate
    · exact hcreate
  | update aor password registrar unregister =>
    cases h
    have haor : registersOf (sscSetPublicAddress aor ssc) = registersOf ssc :=
      hrules.sscSetPublicAddress rfl aor
    cases unregister with
    | true =>
      have hfresh : alloc.Fresh (sscSetPublicAddress aor ssc) := by cases aor <;> exact hfresh
      exact hrules.sscUnregister haor hfresh registrar password (.inl trivial) fun _ _ => rfl
    | false =>
      -- Without a registrar, `ssc_register` goes no further than the setting.
      have hnone : givenRegistrar registrar = none := by simpa [asksRegister] using hasks
      have hset : sscUpdate env alloc aor password registrar false ssc =
          (sscSetPublicAddress aor ssc).emit (.setRegistrar none) := by
        simp [sscUpdate, sscRegister, hnone]
      rw [hset]
      exact (registersOf_emit _ rfl).trans haor
  | _ =>
    refine hrules.sscCall rfl hfresh rfl (.inl trivial) ?_ h
    intro request hrequest
    cases request <;> first | rfl | cases hrequest

end Steps

end RestCommSdk.Proofs
