import RestCommSdk.Proofs.FilledParams
import RestCommSdk.Proofs.UpdateReports

/-!
# `RestCommSdk.Proofs.FilledUpdates`: updates of parameters with absent keys

`updateParams_filled_iff` states when an update does with the absent keys of the stored
parameters what it does with empty ones. An absent registrar is left like any other, while an
empty one is none to leave; a missing password ends in an exception where a command needs it;
and a missing domain is `(null)` in an address.

Two URIs that differ in their end only are told apart by their last character, which
`withScheme` keeps (`withScheme_concat`).
-/

set_option autoImplicit false

namespace RestCommSdk

open RestCommSdk.CliInterface (CString format)
open RestCommSdk.SipManager

/-- The value of a key. -/
def SipManager.Params.text (params : Params) : StringKey → Option CString
  | .aor => params.aor
  | .password => params.password
  | .registrar => params.registrar

namespace Proofs

/-! ### Domains -/

section Domains

/-- A character that the target does not have stays at the end. -/
theorem replaceOccurrences_concat {target replacement : CString} (hne : target ≠ []) {c : Char}
    (hc : c ∉ target) (s : CString) (skip : Nat) (hskip : skip ≤ s.length) :
    replaceOccurrences target replacement skip (s ++ [c]) =
      replaceOccurrences target replacement skip s ++ [c] := by
  -- The target is a prefix with the character behind it only when it is one without.
  have hprefix : ∀ t : CString, target.isPrefixOf (t ++ [c]) = target.isPrefixOf t := by
    intro t
    rw [Bool.eq_iff_iff, List.isPrefixOf_iff_prefix, List.isPrefixOf_iff_prefix,
      List.prefix_concat_iff]
    refine or_iff_right fun heq => hc ?_
    rw [heq]
    simp
  induction s generalizing skip with
  | nil =>
    obtain rfl : skip = 0 := Nat.le_zero.mp hskip
    have hnil : target.isPrefixOf [c] = false := by
      rw [← List.nil_append [c], hprefix, Bool.eq_false_iff, Ne, List.isPrefixOf_iff_prefix,
        List.prefix_nil]
      exact hne
    simp [replaceOccurrences, hnil]
  | cons d s ih =>
    cases skip with
    | succ skip => exact ih skip (by simpa using hskip)
    | zero =>
      rw [List.cons_append, replaceOccurrences, replaceOccurrences, ← List.cons_append, hprefix]
      split
      · -- The occurrence found ends before the character.
        rename_i hfound
        have hlength := (List.isPrefixOf_iff_prefix.mp hfound).length_le
        rw [List.append_assoc, ih _ (by simp only [List.length_cons] at hlength; omega)]
      · rw [List.cons_append, ih 0 (Nat.zero_le _)]

/-- A character that is in no scheme stays at the end. -/
theorem withScheme_concat (params : Params) {c : Char} (hc : c ∉ "sips:".toList) (s : CString) :
    withScheme params (s ++ [c]) = withScheme params s ++ [c] := by
  have hsip : c ∉ "sip:".toList := fun h => hc (List.Sublist.mem h (by decide))
  unfold withScheme
  split
  · exact replaceOccurrences_concat (by decide) hsip s 0 (Nat.zero_le _)
  · exact replaceOccurrences_concat (by decide) hc s 0 (Nat.zero_le _)

/-- The domain `(null)` differs from no domain. -/
theorem withScheme_domain_ne (params : Params) (user : CString) :
    withScheme params (user ++ '@' :: format none) ≠ withScheme params (user ++ ['@']) := by
  -- The one ends in `)`, the other in `@`.
  have hnull : user ++ '@' :: format none = (user ++ "@(null".toList) ++ [')'] := by
    rw [List.append_assoc]
    rfl
  rw [hnull, withScheme_concat params (by decide), withScheme_concat params (by decide)]
  intro heq
  have hlast := congrArg List.getLast? heq
  simp at hlast

/-- The destination is complete without a domain. -/
def Resolved (original : CString) : Prop := original = [] ∨ isFullURI original = true

instance (original : CString) : Decidable (Resolved original) :=
  inferInstanceAs (Decidable (_ ∨ _))

/-- A missing domain is `(null)`. -/
theorem convert2FullURI_none_iff (params : Params) (original : CString) :
    convert2FullURI params original none = convert2FullURI params original (some []) ↔
      Resolved original := by
  unfold convert2FullURI Resolved
  -- An empty text and a full URI are converted without the domain.
  by_cases hempty : original = []
  · simp [hempty]
  · by_cases hfull : isFullURI original = true
    · simp [hfull]
    · rw [if_neg hempty, if_neg hempty, if_neg hfull, if_neg hfull]
      refine iff_of_false ?_ (not_or.mpr ⟨hempty, hfull⟩)
      have hmissing : containsString none "sips:" = false := rfl
      have hdomain : containsString (some []) "sips:" = false := by decide
      dsimp only
      rw [hmissing, hdomain, if_neg Bool.false_ne_true, if_neg Bool.false_ne_true]
      split
      · exact withScheme_domain_ne params _
      · exact withScheme_domain_ne params _

end Domains

/-! ### Missing keys -/

/-- The key is one of `keys`, and absent. -/
def Missing (keys : List StringKey) (params : Params) (key : StringKey) : Prop :=
  key ∈ keys ∧ params.text key = none

instance (keys : List StringKey) (params : Params) (key : StringKey) :
    Decidable (Missing keys params key) := inferInstanceAs (Decidable (_ ∧ _))

section Missing
variable {keys : List StringKey} {params : Params} {key : StringKey}

/-- A text after filling in. -/
theorem text_filled (keys : List StringKey) (params : Params) (key : StringKey) :
    (params.filled keys).text key = filledIn keys key (params.text key) := by
  cases key <;> rfl

/-- A key that was missing is empty. -/
theorem text_filled_of_missing (h : Missing keys params key) :
    (params.filled keys).text key = some [] := by
  rw [text_filled, filledIn, if_pos h.1, h.2]
  rfl

/-- Another key is as it was. -/
theorem text_filled_of_not_missing (h : ¬ Missing keys params key) :
    (params.filled keys).text key = params.text key := by
  rw [text_filled, filledIn]
  split
  · rename_i hkey
    cases hvalue : params.text key with
    | none => exact absurd ⟨hkey, hvalue⟩ h
    | some value => rfl
  · rfl

/-- The text of a key changes when the key is missing. -/
theorem text_filled_eq_iff : (params.filled keys).text key = params.text key ↔
    ¬ Missing keys params key := by
  constructor
  · intro heq hmissing
    rw [text_filled_of_missing hmissing, hmissing.2] at heq
    cases heq
  · exact text_filled_of_not_missing

/-- A destination that is not complete takes its domain from the registrar. -/
theorem destination_filled_iff (recipient : CString) :
    convert2FullURI (params.filled keys) recipient (params.filled keys).registrar =
        convert2FullURI params recipient params.registrar ↔
      (Missing keys params .registrar → Resolved recipient) := by
  rw [convert2FullURI_secure (secure_filled keys params)]
  by_cases hmissing : Missing keys params .registrar
  · have hfilled : (params.filled keys).registrar = some [] := text_filled_of_missing hmissing
    have hnone : params.registrar = none := hmissing.2
    rw [hfilled, hnone, eq_comm, convert2FullURI_none_iff]
    exact ⟨fun h _ => h, fun h => h hmissing⟩
  · have hfilled : (params.filled keys).registrar = params.registrar :=
      text_filled_of_not_missing hmissing
    rw [hfilled]
    exact iff_of_true rfl fun h => absurd h hmissing

/-- A missing registrar is `sip:(null)`, and an empty one empty. -/
theorem registrar_filled_iff : convert2FullDomain params params.registrar =
      convert2FullDomain (params.filled keys) (params.filled keys).registrar ↔
    ¬ Missing keys params .registrar := by
  constructor
  · intro heq hmissing
    have hfilled : (params.filled keys).registrar = some [] := text_filled_of_missing hmissing
    have hnil : convert2FullDomain (params.filled keys) (params.filled keys).registrar = [] := by
      rw [convert2FullDomain_eq_nil_iff, hfilled]
    rw [← heq, convert2FullDomain_eq_nil_iff, show params.registrar = none from hmissing.2] at hnil
    cases hnil
  · intro hmissing
    have hfilled : (params.filled keys).registrar = params.registrar :=
      text_filled_of_not_missing hmissing
    rw [hfilled]
    rfl

end Missing

/-! ### Updates -/

/-- What is given takes precedence over what is filled in. -/
theorem filledIn_or (keys : List StringKey) (key : StringKey) (given stored : Option CString) :
    filledIn keys key (given.or stored) = given.or (filledIn keys key stored) := by
  cases given with
  | none => rfl
  | some value =>
    unfold filledIn
    split <;> rfl

section Updates
variable (keys : List StringKey) (stored : Params) (online network : Bool)

/-- When an update does without a registrar what it does with an empty one. -/
def RegistrarAlike (update : Params) : Prop :=
  match update.registrar with
  | none => secureChanged stored update ∨ ∀ aor ∈ update.aor, Resolved aor
  | some registrar =>
    (online → secureChanged stored update) ∧
      (registrar = [] → online = false → network → secureChanged stored update ∧
        stored.password = none)

/-- When an update does with absent keys what it does with empty ones. `none` asks for the
registration with what is stored. -/
def UpdatesAlike : Option Params → Prop
  | none =>
    ¬ Missing keys stored .password ∧
      (Missing keys stored .registrar → stored.password = none)
  | some update =>
    (unregisters stored update online → ¬ Missing keys stored .password) ∧
      (Missing keys stored .registrar → RegistrarAlike stored online network update)

/-- The result of an update, when the absent keys of `keys` are empty. -/
def filledResult (result : List Command × UpdateParamsState × Params) :
    List Command × UpdateParamsState × Params :=
  (result.1, result.2.1, result.2.2.filled keys)

/-- What an update stores is filled in likewise. -/
theorem storedAfter_filled (update : Params) :
    storedAfter (stored.filled keys) update = (storedAfter stored update).filled keys := by
  unfold storedAfter Params.filled
  simp only [filledIn_or]
  rfl

/-- The registration is made of the update alone. -/
theorem registerCommand_filled (update : Params) :
    registerCommand (stored.filled keys) update = registerCommand stored update := rfl

variable {keys stored online network}

/-- Two updates that make the same unregister command. -/
theorem outcome_eq_iff {unregister : Option (Option Command)} {register : Option Command}
    {address address' : Option Command} {state state' : UpdateParamsState} {params : Params} :
    unregister.map (fun unregister =>
        (unregister.toList ++ register.toList ++ address.toList, state, params)) =
      unregister.map (fun unregister =>
        (unregister.toList ++ register.toList ++ address'.toList, state', params)) ↔
      (unregister.isSome → address = address' ∧ state = state') := by
  cases unregister with
  | none => simp
  | some unregister =>
    have htoList : address.toList = address'.toList ↔ address = address' := by
      cases address <;> cases address' <;> simp
    simp [htoList]

/-- With a registrar that is missing, leaving it is one thing, and having none another. -/
theorem unregisters_of_missing (hmissing : Missing keys stored .registrar) (update : Params) :
    unregisters stored update online =
        (secureChanged stored update || update.registrar.isSome && online) ∧
      unregisters (stored.filled keys) update online = secureChanged stored update := by
  have hnone : stored.registrar = none := hmissing.2
  have hfilled : (stored.filled keys).registrar = some [] := text_filled_of_missing hmissing
  constructor
  · unfold unregisters
    rw [hnone]
    cases update.registrar <;> simp
  · unfold unregisters
    rw [hfilled,
      show secureChanged (stored.filled keys) update = secureChanged stored update from rfl]
    simp

/-- Whether it unregisters depends on the registrar. -/
theorem unregisters_filled_of_not_missing (hmissing : ¬ Missing keys stored .registrar)
    (update : Params) :
    unregisters (stored.filled keys) update online = unregisters stored update online := by
  have hfilled : (stored.filled keys).registrar = stored.registrar :=
    text_filled_of_not_missing hmissing
  unfold unregisters
  rw [hfilled]
  rfl

/-- The unregister command of an update that unregisters in both cases, or in neither, and has
the password if it needs it. -/
theorem unregisterCommand_filled {update : Params}
    (hsame : unregisters (stored.filled keys) update online = unregisters stored update online)
    (hpassword : unregisters stored update online → ¬ Missing keys stored .password) :
    unregisterCommand (stored.filled keys) update online =
      unregisterCommand stored update online := by
  unfold unregisterCommand
  rw [hsame]
  split
  · rename_i hunregisters
    have hfilled : (stored.filled keys).password = stored.password :=
      text_filled_of_not_missing (hpassword hunregisters)
    rw [hfilled]
  · rfl

/-- The address of an update that names no registrar has the stored one for its domain. -/
theorem addressCommand_filled_iff (hmissing : Missing keys stored .registrar) {update : Params}
    (hregistrar : update.registrar = none) :
    addressCommand stored update = addressCommand (stored.filled keys) update ↔
      (secureChanged stored update ∨ ∀ aor ∈ update.aor, Resolved aor) := by
  have hregisters : registers stored update = secureChanged stored update := by
    simp [registers, hregistrar]
  have hnone : stored.registrar = none := hmissing.2
  have hfilled : (stored.filled keys).registrar = some [] := text_filled_of_missing hmissing
  unfold addressCommand
  rw [show registers (stored.filled keys) update = registers stored update from rfl, hregisters,
    hregistrar, Option.none_or, Option.none_or, hnone, hfilled]
  cases secureChanged stored update with
  | true => simp
  | false =>
    cases update.aor with
    | none => simp
    | some aor =>
      have hsecured : convert2FullURI (secured (stored.filled keys) update) =
          convert2FullURI (secured stored update) := rfl
      simp [hsecured, convert2FullURI_none_iff]

/-- An online device answers alike. -/
theorem updateState_filled_of_online (update : Params) (honline : online = true) :
    updateState (stored.filled keys) update online network =
      updateState stored update online network := by
  subst honline
  unfold updateState
  simp only [Bool.not_true, Bool.and_false, Bool.false_and]
  rfl

/-- With a registrar the device answers alike. -/
theorem updateState_filled_of_not_missing (hmissing : ¬ Missing keys stored .registrar)
    (update : Params) : updateState (stored.filled keys) update online network =
      updateState stored update online network := by
  have hfilled : (stored.filled keys).registrar = stored.registrar :=
    text_filled_of_not_missing hmissing
  unfold updateState
  rw [hfilled]
  rfl

/-- Without a network connection the device cannot have been working without a registrar. -/
theorem updateState_filled_iff (hmissing : Missing keys stored .registrar) (update : Params)
    (honline : online = false) :
    updateState stored update online network =
        updateState (stored.filled keys) update online network ↔
      (update.registrar = some [] → network = false) := by
  have hnone : stored.registrar = none := hmissing.2
  have hfilled : (stored.filled keys).registrar = some [] := text_filled_of_missing hmissing
  subst honline
  -- A missing registrar counts as one that is given up, an empty one does not.
  by_cases hgiven : update.registrar = some [] ∧ network = true
  · obtain ⟨hregistrar, rfl⟩ := hgiven
    refine iff_of_false ?_ (by simp [hregistrar])
    intro heq
    have hre : updateState stored update false true = .reestablishedRegistrarless :=
      (updateState_eq_reestablished ..).mpr ⟨hregistrar, by simp [hnone], rfl, rfl⟩
    rw [hre, eq_comm, updateState_eq_reestablished] at heq
    exact heq.2.1 hfilled
  · refine iff_of_true ?_ fun hregistrar => Bool.eq_false_iff.mpr fun h => hgiven ⟨hregistrar, h⟩
    unfold updateState
    rw [hnone, hfilled]
    have hnot : (decide (update.registrar = some []) && network) = false := by
      simpa using hgiven
    cases hregistrar : decide (update.registrar = some []) with
    | false => rfl
    | true =>
      rw [hregistrar, Bool.true_and] at hnot
      simp [hnot]
      rfl

/-- An update that names a registrar makes no use of the stored one for an address. -/
theorem addressCommand_filled_of_some {update : Params} {registrar : CString}
    (hregistrar : update.registrar = some registrar) :
    addressCommand (stored.filled keys) update = addressCommand stored update := by
  unfold addressCommand
  rw [hregistrar, Option.some_or, Option.some_or]
  rfl

/-- With a registrar the address is the same. -/
theorem addressCommand_filled_of_not_missing (hmissing : ¬ Missing keys stored .registrar)
    (update : Params) :
    addressCommand (stored.filled keys) update = addressCommand stored update := by
  have hfilled : (stored.filled keys).registrar = stored.registrar :=
    text_filled_of_not_missing hmissing
  unfold addressCommand
  rw [hfilled]
  rfl

/-- Two updates with the same unregister command differ in what they report or in the address
command, unless they end in an exception. -/
theorem updateParams_filled_iff_of_eq {update : Params}
    (hcommand : unregisterCommand (stored.filled keys) update online =
      unregisterCommand stored update online) :
    (updateParams stored (some update) online network).map (filledResult keys) =
        updateParams (stored.filled keys) (some update) online network ↔
      ((unregisterCommand stored update online).isSome →
        addressCommand stored update = addressCommand (stored.filled keys) update ∧
          updateState stored update online network =
            updateState (stored.filled keys) update online network) := by
  rw [updateParams_eq, updateParams_eq, hcommand, registerCommand_filled, storedAfter_filled,
    Option.map_map]
  exact @outcome_eq_iff (unregisterCommand stored update online) (registerCommand stored update)
    (addressCommand stored update) (addressCommand (stored.filled keys) update)
    (updateState stored update online network)
    (updateState (stored.filled keys) update online network)
    ((storedAfter stored update).filled keys)

/-- The unregister command is none of the others. -/
theorem unregister_notMem (stored update : Params) (password : CString) :
    Command.unregister password ∉
      (registerCommand stored update).toList ++ (addressCommand stored update).toList := by
  rw [List.mem_append, not_or, Option.mem_toList, Option.mem_toList]
  constructor
  · rcases registerCommand_cases stored update with ⟨-, hnone⟩ | ⟨-, s, hsome⟩
    · rw [hnone]
      nofun
    · rw [hsome]
      nofun
  · unfold addressCommand
    split
    · nofun
    · intro h
      obtain ⟨aor, -, haddress⟩ := Option.map_eq_some_iff.mp h
      cases haddress

/-- One of the two unregisters, and the other does not. -/
theorem updateParams_filled_ne {update : Params}
    (hunregisters : unregisters stored update online = true)
    (hfilled : unregisters (stored.filled keys) update online = false) :
    (updateParams stored (some update) online network).map (filledResult keys) ≠
      updateParams (stored.filled keys) (some update) online network := by
  rw [updateParams_eq, updateParams_eq]
  have hnone : unregisterCommand (stored.filled keys) update online = some none := by
    rw [unregisterCommand, hfilled]
    rfl
  rw [hnone, unregisterCommand, if_pos hunregisters]
  -- Without a password one of them ends in an exception, with one it has a command more.
  cases stored.password with
  | none =>
    intro heq
    cases heq
  | some password =>
    intro heq
    have hcommands : Command.unregister password :: ((registerCommand stored update).toList ++
          (addressCommand stored update).toList) =
        (registerCommand (stored.filled keys) update).toList ++
          (addressCommand (stored.filled keys) update).toList :=
      congrArg Prod.fst (Option.some.inj heq)
    refine unregister_notMem (stored.filled keys) update password ?_
    rw [← hcommands]
    exact List.mem_cons_self

/-- With a registrar that is missing, and the password if it is needed. -/
theorem updateParams_filled_iff_of_missing (hmissing : Missing keys stored .registrar)
    {update : Params}
    (hneeded : unregisters stored update online → ¬ Missing keys stored .password) :
    (updateParams stored (some update) online network).map (filledResult keys) =
        updateParams (stored.filled keys) (some update) online network ↔
      RegistrarAlike stored online network update := by
  obtain ⟨hstored, hfilled⟩ := @unregisters_of_missing keys stored online hmissing update
  have hsame : unregisters (stored.filled keys) update online =
      unregisters stored update online → _ := fun hsame =>
    @updateParams_filled_iff_of_eq keys stored online network update
      (unregisterCommand_filled hsame hneeded)
  rw [isSome_unregisterCommand, hstored, hfilled] at hsame
  unfold RegistrarAlike
  cases hregistrar : update.registrar with
  | none =>
    have hstate : updateState stored update online network =
        updateState (stored.filled keys) update online network := by
      simp [updateState, hregistrar]
      rfl
    rw [hsame (by simp [hregistrar]), addressCommand_filled_iff hmissing hregistrar]
    -- Without a change of the security nothing is needed.
    cases secureChanged stored update <;> simp [hregistrar, hstate]
  | some registrar =>
    have haddress := @addressCommand_filled_of_some keys stored update registrar hregistrar
    cases honline : online with
    | false =>
      rw [honline] at hsame
      rw [hsame (by simp), updateState_filled_iff hmissing update rfl, haddress, hregistrar]
      -- An exception hides that the reported states differ.
      cases secureChanged stored update <;> cases stored.password <;> cases network <;> simp
    | true =>
      -- Online, a missing registrar is left like any other.
      cases hchanged : secureChanged stored update with
      | true =>
        rw [honline, hchanged] at hsame
        refine iff_of_true ((hsame rfl).mpr fun _ => ⟨haddress.symm, ?_⟩) (by simp)
        exact (updateState_filled_of_online update rfl).symm
      | false =>
        refine iff_of_false (updateParams_filled_ne ?_ ?_) (by simp)
        · rw [← honline, hstored, hchanged, hregistrar, honline]
          rfl
        · rw [← honline, hfilled, hchanged]

/-- The stored password is missing, and put into a dictionary: an exception in one case. -/
theorem updateParams_filled_ne_of_password {update : Params}
    (hunregisters : unregisters stored update online = true)
    (hmissing : Missing keys stored .password) :
    (updateParams stored (some update) online network).map (filledResult keys) ≠
      updateParams (stored.filled keys) (some update) online network := by
  have hnone : unregisterCommand stored update online = none := by
    rw [unregisterCommand, if_pos hunregisters, show stored.password = none from hmissing.2]
    rfl
  have hfilled : (stored.filled keys).password = some [] := text_filled_of_missing hmissing
  have hsome : (unregisterCommand (stored.filled keys) update online).isSome := by
    refine isSome_unregisterCommand.mpr fun _ => ?_
    rw [hfilled]
    rfl
  obtain ⟨unregister, hunregister⟩ := Option.isSome_iff_exists.mp hsome
  rw [updateParams_eq, updateParams_eq, hnone, hunregister]
  intro heq
  cases heq

/-- The registration is refreshed, with the stored registrar and password. -/
theorem updateParams_none_eq (stored : Params) (online network : Bool) :
    updateParams stored none online network = stored.password.map fun password =>
      ([.register none (convert2FullDomain stored stored.registrar) password], .unassigned,
        stored) := by
  show stored.password.bind _ = _
  cases stored.password <;> rfl

/-- An update without parameters refreshes, and shows the password. -/
theorem updateParams_none_filled_iff :
    (updateParams stored none online network).map (filledResult keys) =
        updateParams (stored.filled keys) none online network ↔
      UpdatesAlike keys stored online network none := by
  rw [updateParams_none_eq, updateParams_none_eq]
  by_cases hpassword : Missing keys stored .password
  · have hnone : stored.password = none := hpassword.2
    have hfilled : (stored.filled keys).password = some [] := text_filled_of_missing hpassword
    rw [hnone, hfilled]
    exact iff_of_false nofun fun halike => halike.1 hpassword
  · have hfilled : (stored.filled keys).password = stored.password :=
      text_filled_of_not_missing hpassword
    rw [hfilled]
    cases hgiven : stored.password with
    | none => exact iff_of_true rfl ⟨hpassword, fun _ => hgiven⟩
    | some password =>
      simp [UpdatesAlike, hpassword, hgiven, filledResult, registrar_filled_iff]

/-- An update with or without parameters. -/
theorem updateParams_filled_iff (params : Option Params) :
    (updateParams stored params online network).map (filledResult keys) =
        updateParams (stored.filled keys) params online network ↔
      UpdatesAlike keys stored online network params := by
  cases params with
  | none => exact updateParams_none_filled_iff
  | some update =>
    by_cases hpassword : unregisters stored update online = true ∧ Missing keys stored .password
    · exact iff_of_false (updateParams_filled_ne_of_password hpassword.1 hpassword.2)
        fun halike => halike.1 hpassword.1 hpassword.2
    · have hneeded : unregisters stored update online → ¬ Missing keys stored .password :=
        fun hunregisters hmissing => hpassword ⟨hunregisters, hmissing⟩
      by_cases hmissing : Missing keys stored .registrar
      · rw [updateParams_filled_iff_of_missing hmissing hneeded]
        exact ⟨fun halike => ⟨hneeded, fun _ => halike⟩, fun halike => halike.2 hmissing⟩
      · -- Of a registrar that is not missing every block reads the same.
        have hcommand := unregisterCommand_filled
          (unregisters_filled_of_not_missing hmissing update) hneeded
        refine iff_of_true ((updateParams_filled_iff_of_eq hcommand).mpr fun _ => ?_)
          ⟨hneeded, fun h => absurd h hmissing⟩
        exact ⟨(addressCommand_filled_of_not_missing hmissing update).symm,
          (updateState_filled_of_not_missing hmissing update).symm⟩

end Updates

end Proofs

end RestCommSdk
