import RestCommSdk.Proofs.CommandDelivery
import RestCommSdk.Proofs.UpdateCommands

/-!
# `RestCommSdk.Proofs.AppCommands`: which calls of the application are delivered

`AppCall` collects the calls that lead to commands with texts in them: a text message, a new
local SDP, new parameters, DTMF digits. `delivered_iff` states when the Sofia side makes of
the commands of a call exactly the `ssc_*` calls they ask for: when no text that the call
puts into a command holds a `$`. `DollarFree` says which texts these are, from the arguments
of the call and the state of the App.
-/

set_option autoImplicit false

namespace RestCommSdk.Proofs

open RestCommSdk.Lib
open RestCommSdk.CliInterface
open RestCommSdk.SipManager

/-- What the calls read of `SipManager`. -/
structure AppState where
  params : Params := {}
  activeCallParams : ActiveCallParams := {}
  media : Option MediaState := none
  deriving DecidableEq, Repr

/-- A call that leads to commands with texts in them. -/
inductive AppCall where
  | message (msg recipient : CString) (headers : Option NSDictionary)
  | didCreateSdp (sdp : CString) (initiator : Bool)
  | updateParams (params : Option Params) (deviceIsOnline networkIsOnline : Bool)
  | sendDtmfDigits (dtmf : CString)
  deriving DecidableEq, Repr

/-- The commands of a call, or `none` when it raises an exception. -/
def AppCall.commands (app : AppState) : AppCall → Option (List Command)
  | message msg recipient headers =>
    some (SipManager.message app.params msg recipient headers)
  | didCreateSdp sdp initiator =>
    SipManager.didCreateSdp app.media app.activeCallParams app.params (some sdp) initiator
  | updateParams params deviceIsOnline networkIsOnline =>
    (SipManager.updateParams app.params params deviceIsOnline networkIsOnline).map (·.1)
  | sendDtmfDigits dtmf => some (SipManager.sendDtmfDigits dtmf)

/-! ### The condition -/

/-- The headers have no `$`, neither in a name nor in a value. -/
def HeadersFree (headers : Option NSDictionary) : Prop :=
  ∀ hs ∈ headers, ∀ h ∈ hs, '$' ∉ h.1 ∧ '$' ∉ h.2

/-- The text has no `$`; a missing text has none. -/
def TextFree (o : Option CString) : Prop := ∀ s ∈ o, '$' ∉ s

/-- `original` and, where `convert2FullURI:andDomain:` appends it, `domain` have no `$`. -/
def UriFree (original : CString) (domain : Option CString) : Prop :=
  '$' ∉ original ∧ (original ≠ [] → isFullURI original = false → TextFree domain)

/-- The texts that the call puts into a command have no `$`. -/
def AppCall.DollarFree (app : AppState) : AppCall → Prop
  | message msg recipient headers =>
    '$' ∉ msg ∧ UriFree recipient app.params.registrar ∧ TextFree app.params.password ∧
      HeadersFree headers
  | didCreateSdp sdp initiator =>
    app.media.getD .disconnected ≠ .disconnected → '$' ∉ sdp ∧
      (initiator → TextFree app.activeCallParams.destination ∧ TextFree app.params.password ∧
        HeadersFree app.activeCallParams.sipHeaders)
  | updateParams none _ _ => TextFree app.params.registrar ∧ TextFree app.params.password
  | updateParams (some params) deviceIsOnline _ =>
    (unregisters app.params params deviceIsOnline → TextFree app.params.password) ∧
      (registers app.params params →
        TextFree params.aor ∧ TextFree params.registrar ∧ TextFree params.password) ∧
      (registers app.params params = false → ∀ aor ∈ params.aor,
        UriFree aor (params.registrar.or app.params.registrar))
  | sendDtmfDigits dtmf => '$' ∉ dtmf

/-! ### A `$` in a converted text -/

/-- Replacing one `$`-free text by another neither brings in a `$` nor takes one out. -/
theorem dollar_mem_replaceOccurrences {target replacement : CString} (ht : '$' ∉ target)
    (hr : '$' ∉ replacement) (hne : target ≠ []) (skip : Nat) (s : CString) :
    '$' ∈ replaceOccurrences target replacement skip s ↔ '$' ∈ s.drop skip := by
  induction s generalizing skip with
  | nil => simp [replaceOccurrences]
  | cons c s ih =>
    cases skip with
    | succ skip => simpa [replaceOccurrences] using ih skip
    | zero =>
      rw [replaceOccurrences]
      split
      · -- The target stands here, and is replaced by a text without `$`.
        rename_i hpre
        obtain ⟨u, hu⟩ := List.isPrefixOf_iff_prefix.mp hpre
        have hdrop : s.drop (target.length - 1) = u := by
          obtain ⟨x, xs, rfl⟩ := List.exists_cons_of_ne_nil hne
          rw [List.cons_append, List.cons.injEq] at hu
          simp [← hu.2]
        rw [List.mem_append, ih, hdrop, List.drop_zero, ← hu, List.mem_append]
        simp [hr, ht]
      · -- This character is copied.
        rw [List.mem_cons, ih, List.drop_zero, List.drop_zero, List.mem_cons]

/-- A replacement without a `$` brings none and takes none away. -/
theorem dollar_mem_replacing (s : CString) {target replacement : String}
    (ht : '$' ∉ target.toList) (hr : '$' ∉ replacement.toList) (hne : target.toList ≠ []) :
    '$' ∈ replacing s target replacement ↔ '$' ∈ s :=
  dollar_mem_replaceOccurrences ht hr hne 0 s

/-- Nor does setting the scheme. -/
theorem dollar_mem_withScheme (params : Params) (uri : CString) :
    '$' ∈ withScheme params uri ↔ '$' ∈ uri := by
  unfold withScheme
  split <;> exact dollar_mem_replacing _ (by decide) (by decide) (by decide)

/-- The text of a value, or `(null)`. -/
theorem dollar_mem_format (o : Option CString) : '$' ∈ format o ↔ ¬ TextFree o := by
  cases o <;> simp [format, TextFree]

/-- A URI has no `$` if what it is made of has none. -/
theorem dollar_notMem_convert2FullURI (params : Params) (original : CString)
    (domain : Option CString) :
    '$' ∉ convert2FullURI params original domain ↔ UriFree original domain := by
  have hdomain : TextFree (domain.map fun d => replacing (replacing d "sip:" "") "sips:" "") ↔
      TextFree domain := by
    cases domain with
    | none => rfl
    | some d =>
      simp (disch := decide) only [TextFree, Option.map_some, Option.mem_some_iff, forall_eq',
        dollar_mem_replacing]
  unfold convert2FullURI UriFree
  split_ifs with h1 h2 h3 h4
  · simp [h1]
  · simp [dollar_mem_withScheme, h2]
  all_goals
    simp (disch := decide) [dollar_mem_withScheme, dollar_mem_replacing, dollar_mem_format,
      hdomain, h1, h2]

/-- A domain has no `$` if the text has none. -/
theorem dollar_notMem_convert2FullDomain (params : Params) (original : Option CString) :
    '$' ∉ convert2FullDomain params original ↔ TextFree original := by
  unfold convert2FullDomain
  split_ifs with h1 h2
  · simp [h1, TextFree]
  all_goals simp [dollar_mem_withScheme, dollar_mem_format]

/-- The headers have no `$` if no name and no value has one. -/
theorem dollar_notMem_serializedHeaders (headers : NSDictionary) :
    '$' ∉ serializedHeaders headers ↔ ∀ h ∈ headers, '$' ∉ h.1 ∧ '$' ∉ h.2 := by
  simp [serializedHeaders, List.mem_flatMap]

/-- The same, with or without headers. -/
theorem textFree_serializedHeaders (headers : Option NSDictionary) :
    TextFree (headers.map serializedHeaders) ↔ HeadersFree headers := by
  cases headers with
  | none => simp [TextFree, HeadersFree]
  | some hs => simp [TextFree, HeadersFree, dollar_notMem_serializedHeaders]

/-! ### The commands of a call -/

/-- The fields of a command have no `$`. -/
def FieldsFree (commands : List Command) : Prop :=
  ∀ c ∈ commands, ∀ f ∈ fields c, '$' ∉ f

/-- One command. -/
theorem fieldsFree_singleton (c : Command) : FieldsFree [c] ↔ ∀ f ∈ fields c, '$' ∉ f := by
  simp [FieldsFree]

/-- One list of commands after the other. -/
theorem fieldsFree_append (xs ys : List Command) :
    FieldsFree (xs ++ ys) ↔ FieldsFree xs ∧ FieldsFree ys := by
  simp [FieldsFree, or_imp, forall_and]

section Update
variable {stored params : Params}

/-- A register command, whatever the parameters are that it is made with. -/
theorem fieldsFree_registerWith (params s : Params) :
    FieldsFree [registerWith params s] ↔
      TextFree params.aor ∧ TextFree params.registrar ∧ TextFree params.password := by
  have htext : ∀ o : Option CString, '$' ∉ o.getD [] ↔ TextFree o := by
    intro o
    cases o <;> simp [TextFree]
  have hregistrar := dollar_notMem_convert2FullDomain s params.registrar
  have huri := dollar_notMem_convert2FullURI s (params.aor.getD []) params.registrar
  have hfields : ∀ a b c : CString,
      FieldsFree [.register (some a) b c] ↔ '$' ∉ b ∧ '$' ∉ c ∧ '$' ∉ a := by
    intro a b c
    simp [fieldsFree_singleton, fields]
  rw [registerWith, hfields, hregistrar, huri, UriFree, htext, htext]
  constructor
  · rintro ⟨hdomain, hpw, haor, -⟩
    exact ⟨haor, hdomain, hpw⟩
  · rintro ⟨haor, hdomain, hpw⟩
    exact ⟨hdomain, hpw, haor, fun _ _ => hdomain⟩

/-- The unregistration shows the stored password. -/
theorem fieldsFree_unregisterCommand {deviceIsOnline : Bool} {unregister : Option Command}
    (h : unregisterCommand stored params deviceIsOnline = some unregister) :
    FieldsFree unregister.toList ↔
      (unregisters stored params deviceIsOnline → TextFree stored.password) := by
  unfold unregisterCommand at h
  split at h
  · rename_i hunregisters
    obtain ⟨password, hpassword, rfl⟩ := Option.map_eq_some_iff.mp h
    simp [hunregisters, hpassword, fieldsFree_singleton, fields, TextFree]
  · rename_i hunregisters
    cases h
    simp [hunregisters, FieldsFree]

/-- The address shows the new user, and the registrar it stands at. -/
theorem fieldsFree_addressCommand :
    FieldsFree (addressCommand stored params).toList ↔
      (registers stored params = false → ∀ aor ∈ params.aor,
        UriFree aor (params.registrar.or stored.registrar)) := by
  unfold addressCommand
  split
  · rename_i hregisters
    simp [hregisters, FieldsFree]
  · rename_i hregisters
    cases params.aor with
    | none => simp [FieldsFree]
    | some aor => simp [hregisters, fieldsFree_singleton, fields, dollar_notMem_convert2FullURI]

/-- An update, part by part. -/
theorem fieldsFree_updateParams {deviceIsOnline networkIsOnline : Bool}
    {commands : List Command} {state : UpdateParamsState} {after : Params}
    (h : updateParams stored (some params) deviceIsOnline networkIsOnline
      = some (commands, state, after)) :
    FieldsFree commands ↔
      (unregisters stored params deviceIsOnline → TextFree stored.password) ∧
      (registers stored params →
        TextFree params.aor ∧ TextFree params.registrar ∧ TextFree params.password) ∧
      (registers stored params = false → ∀ aor ∈ params.aor,
        UriFree aor (params.registrar.or stored.registrar)) := by
  rw [updateParams_eq] at h
  obtain ⟨unregister, hunregister, h⟩ := Option.map_eq_some_iff.mp h
  cases h
  rw [fieldsFree_append, fieldsFree_append, and_assoc]
  refine and_congr (fieldsFree_unregisterCommand hunregister)
    (and_congr ?_ fieldsFree_addressCommand)
  -- The address goes with the registration, or in a line of its own.
  rcases registerCommand_cases stored params with ⟨hregisters, hnone⟩ | ⟨hregisters, s, hsome⟩
  · simp [hregisters, hnone, FieldsFree]
  · rw [hsome, Option.toList_some, fieldsFree_registerWith]
    simp [hregisters]

end Update

/-- The condition on the call is the condition on its commands. -/
theorem fieldsFree_commands {app : AppState} {call : AppCall} {commands : List Command}
    (h : call.commands app = some commands) : FieldsFree commands ↔ call.DollarFree app := by
  cases call with
  | message msg recipient headers =>
    cases h
    have huri := dollar_notMem_convert2FullURI app.params recipient app.params.registrar
    have hheaders := textFree_serializedHeaders headers
    simp only [SipManager.message, fieldsFree_singleton, fields, List.mem_cons, forall_eq,
      List.mem_append, or_imp, forall_and, Option.mem_toList, Option.mem_def,
      AppCall.DollarFree, huri, ← hheaders, TextFree]
    tauto
  | didCreateSdp sdp initiator =>
    rw [AppCall.commands, SipManager.didCreateSdp] at h
    rw [AppCall.DollarFree]
    split at h
    · -- The media is disconnected already, and no line is written.
      rename_i hmedia
      cases h
      simp [FieldsFree, hmedia]
    · rename_i hmedia
      cases initiator with
      -- The invite carries the destination, the SDP, the headers and the password.
      | true =>
        obtain ⟨destination, hdest, h⟩ := Option.bind_eq_some_iff.mp h
        cases h
        have hheaders := textFree_serializedHeaders app.activeCallParams.sipHeaders
        simp only [fieldsFree_singleton, fields, List.mem_cons, forall_eq, List.mem_append,
          or_imp, forall_and, Option.mem_toList, Option.mem_def, ← hheaders, TextFree, hdest,
          hmedia, ne_eq, not_false_eq_true, true_imp_iff, Option.some.injEq, forall_eq']
        tauto
      | false =>
        -- The answer carries the SDP.
        cases h
        simp [fieldsFree_singleton, fields, hmedia]
  | updateParams params deviceIsOnline networkIsOnline =>
    obtain ⟨⟨commands, state, after⟩, hupdate, rfl⟩ := Option.map_eq_some_iff.mp h
    cases params with
    | some params => exact fieldsFree_updateParams hupdate
    | none =>
      -- Without parameters the stored registrar and password are written.
      obtain ⟨pw, hpw, h⟩ := Option.bind_eq_some_iff.mp hupdate
      cases h
      have hregistrar := dollar_notMem_convert2FullDomain app.params app.params.registrar
      simp [fieldsFree_singleton, fields, AppCall.DollarFree, hregistrar, TextFree, hpw]
  | sendDtmfDigits dtmf =>
    cases h
    simp [SipManager.sendDtmfDigits, fieldsFree_singleton, fields, AppCall.DollarFree]

/-! ### Delivery -/

/-- The Sofia side makes of a call of the application exactly the calls its commands ask for,
whatever the batching of the commands into reads, if and only if no text that the call puts
into a command holds a `$`. -/
theorem delivered_iff (jsonObject : CString → Option NSDictionary)
    (hread : ∀ d, jsonObject (stringifyDictionary d) = some d)
    (htruncated : ∀ d p q, p ++ q = stringifyDictionary d → q ≠ [] → jsonObject p = none)
    (cli : Cli) (app : AppState) (call : AppCall) (batches : List (List Command))
    (hcommands : call.commands app = some batches.flatten) (hne : ∀ b ∈ batches, b ≠ []) :
    sofiaCalls jsonObject cli (batches.map commandBytes)
        = some (batches.flatten.flatMap sscCalls) ↔
      call.DollarFree app := by
  rw [sofiaCalls_iff hread htruncated cli hne]
  exact fieldsFree_commands hcommands

/-- A text message without a `$`, read whole. -/
theorem delivered_iff_message :
    sofiaCalls Json.read {} ([[.message "sip:bob@example.org".toList "hi".toList none none]].map
        commandBytes)
      = some [.message (some "sip:bob@example.org".toList) none (some "hi".toList) none] ↔
    AppCall.DollarFree { params := { registrar := some "example.org".toList } }
      (.message "hi".toList "bob".toList none) :=
  delivered_iff Json.read Json.read_write (fun _ _ _ => Json.read_truncated) {}
    { params := { registrar := some "example.org".toList } }
    (.message "hi".toList "bob".toList none)
    [[.message "sip:bob@example.org".toList "hi".toList none none]] (by decide) (by decide)

/-- The message `5$b ` to `bob`: the recipient and the text are lost, and the call in progress
is hung up. -/
theorem message_hangs_up :
    AppCall.commands { params := { registrar := some "example.org".toList } }
        (.message "5$b ".toList "bob".toList none)
      = some [.message "sip:bob@example.org".toList "5$b ".toList none none] ∧
    sofiaCalls Json.read {} ([[.message "sip:bob@example.org".toList "5$b ".toList none none]].map
        commandBytes)
      = some [.message none none none none, .bye] ∧
    [SscCall.message none none none none, .bye]
      ≠ [.message (some "sip:bob@example.org".toList) none (some "5$b ".toList) none] := by
  decide

end RestCommSdk.Proofs
