import RestCommSdk.Lib.Substitution
import RestCommSdk.SipManager.Commands

/-!
# `RestCommSdk.Proofs.SchemeConversion`: what is made of a URI and of a domain

`convert2FullURI:andDomain:` and `convert2FullDomain:` end with the same replacement, of `sip:`
by `sips:` or the other way round. The two words are apart: neither one can begin inside the
other, nor inside what the other leaves behind (`apart_sips_sip` and the lemmas next to it). So
the replacement leaves one kind only, keeps that a text has a scheme, and undoes the other
replacement whatever the text holds (`withScheme_withScheme`).

What is converted has a scheme, so that another conversion is a replacement and nothing more
(`convert2FullURI_convert2FullURI`, `convert2FullDomain_convert2FullDomain`). `convert_stable`
collects what follows for both functions.
-/

set_option autoImplicit false

namespace RestCommSdk.Proofs

open RestCommSdk.Lib
open RestCommSdk.CliInterface
open RestCommSdk.SipManager

/-- `stringByReplacingOccurrencesOfString:withString:` is the substitution of the library. -/
theorem replaceOccurrences_eq_substitute (target replacement : CString) (k : Nat) (s : CString) :
    replaceOccurrences target replacement k s = substitute target replacement k s := by
  induction s generalizing k with
  | nil => cases k <;> rfl
  | cons c s ih =>
    cases k with
    | zero => rw [replaceOccurrences, substitute, ih, ih]
    | succ k => exact ih k

/-! ### The two schemes -/

/-- An end of `sip:` is no beginning of `sips:`, so that the two do not overlap. -/
theorem apart_sip_sips : Apart "sip:".toList "sips:".toList := by decide

/-- Nor the other way. -/
theorem apart_sips_sip : Apart "sips:".toList "sip:".toList := by decide

/-- What is left of a `sip:` overlaps with no `sips:`. -/
theorem apart_sip_tail_sips : Apart "sip:".toList.tail "sips:".toList := by decide

/-- What is left of a `sips:` overlaps with no `sip:`. -/
theorem apart_sips_tail_sip : Apart "sips:".toList.tail "sip:".toList := by decide

/-- Two of `sip:` do not overlap. -/
theorem apart_sip_tail_sip : Apart "sip:".toList.tail "sip:".toList := by decide

/-- Two of `sips:` do not overlap. -/
theorem apart_sips_tail_sips : Apart "sips:".toList.tail "sips:".toList := by decide

/-- The text holds a scheme, of one kind or the other. -/
def HasScheme (uri : CString) : Prop :=
  "sip:".toList <:+: uri ∨ "sips:".toList <:+: uri

/-- The text holds the scheme that `signaling-secure` asks for, and not the other one. -/
def OnlyScheme (params : Params) (uri : CString) : Prop :=
  if params.secure then "sips:".toList <:+: uri ∧ ¬ "sip:".toList <:+: uri
  else "sip:".toList <:+: uri ∧ ¬ "sips:".toList <:+: uri

/-- A full URI has one of the schemes in it. -/
theorem isFullURI_iff (uri : CString) : isFullURI uri = true ↔ HasScheme uri := by
  simp [isFullURI, containsString, HasScheme]

/-- The scheme of the parameters is one of the two. -/
theorem OnlyScheme.hasScheme {params : Params} {uri : CString} (h : OnlyScheme params uri) :
    HasScheme uri := by
  unfold OnlyScheme at h
  split at h
  · exact Or.inr h.1
  · exact Or.inl h.1

/-- A text with a scheme is not empty. -/
theorem HasScheme.ne_nil {uri : CString} (h : HasScheme uri) : uri ≠ [] := by
  rintro rfl
  rcases h with h | h
  · exact absurd (List.infix_nil.mp h) (by decide)
  · exact absurd (List.infix_nil.mp h) (by decide)

/-- A scheme in front. -/
theorem hasScheme_append (scheme : String) (hscheme : HasScheme scheme.toList) (s : CString) :
    HasScheme (scheme.toList ++ s) :=
  hscheme.imp (fun h => h.trans (List.prefix_append _ s).isInfix)
    (fun h => h.trans (List.prefix_append _ s).isInfix)

/-! ### The replacement -/

section Replacement
variable (params : Params) {uri : CString}

/-- Setting the scheme is a substitution. -/
theorem withScheme_eq : withScheme params uri =
    if params.secure then substitute "sip:".toList "sips:".toList 0 uri
    else substitute "sips:".toList "sip:".toList 0 uri := by
  unfold withScheme replacing
  rw [replaceOccurrences_eq_substitute, replaceOccurrences_eq_substitute]

/-- Afterwards the text has the scheme of the parameters alone. -/
theorem onlyScheme_withScheme (h : HasScheme uri) : OnlyScheme params (withScheme params uri) := by
  rw [withScheme_eq]
  unfold OnlyScheme
  cases params.secure with
  | true =>
    refine ⟨?_, not_infix_substitute (by decide) apart_sips_sip apart_sip_tail_sips uri⟩
    rcases h with h | h
    · exact infix_substitute (by decide) h
    · exact infix_substitute_of_apart (by decide) apart_sips_sip apart_sip_sips h
  | false =>
    refine ⟨?_, not_infix_substitute (by decide) apart_sip_sips apart_sips_tail_sip uri⟩
    rcases h with h | h
    · exact infix_substitute_of_apart (by decide) apart_sip_sips apart_sips_sip h
    · exact infix_substitute (by decide) h

/-- A replacement undoes the one before it. -/
theorem withScheme_withScheme (params' : Params) (uri : CString) :
    withScheme params' (withScheme params uri) = withScheme params' uri := by
  rw [withScheme_eq params', withScheme_eq params', withScheme_eq params]
  cases params'.secure <;> cases params.secure
  · exact substitute_eq_self
      (not_infix_substitute (by decide) apart_sip_sips apart_sips_tail_sip uri)
  · exact substitute_substitute (by decide) (by decide) apart_sip_sips apart_sips_sip
      apart_sips_tail_sips uri
  · exact substitute_substitute (by decide) (by decide) apart_sips_sip apart_sip_sips
      apart_sip_tail_sip uri
  · exact substitute_eq_self
      (not_infix_substitute (by decide) apart_sips_sip apart_sip_tail_sips uri)

end Replacement

/-! ### The conversions -/

section Conversions
variable (params : Params)

/-- Whatever the domain is, a text that has a scheme only gets another one. -/
theorem convert2FullURI_of_hasScheme {original : CString} (h : HasScheme original)
    (domain : Option CString) : convert2FullURI params original domain =
      withScheme params original := by
  unfold convert2FullURI
  rw [if_neg h.ne_nil, if_pos ((isFullURI_iff original).mpr h)]

/-- A domain with a scheme is only converted. -/
theorem convert2FullDomain_of_hasScheme {original : CString} (h : HasScheme original) :
    convert2FullDomain params (some original) = withScheme params original := by
  have hne : some original ≠ some ([] : CString) := fun heq => h.ne_nil (Option.some.inj heq)
  have hfull : isFullURI original = true := (isFullURI_iff original).mpr h
  unfold convert2FullDomain
  rw [if_neg hne]
  exact if_pos hfull

/-- A text that is not empty is completed to one that has a scheme, which does not depend on
`signaling-secure`, and gets the scheme that this asks for. -/
theorem convert2FullURI_eq_withScheme {original : CString} (hne : original ≠ [])
    (domain : Option CString) : ∃ uri, HasScheme uri ∧
      ∀ params, convert2FullURI params original domain = withScheme params uri := by
  by_cases hfull : HasScheme original
  · exact ⟨original, hfull, fun params => convert2FullURI_of_hasScheme params hfull domain⟩
  · have hnot : ¬ isFullURI original = true := fun h => hfull ((isFullURI_iff original).mp h)
    unfold convert2FullURI
    simp only [if_neg hne, if_neg hnot]
    split
    · -- The `tel:` that was found is a `sip:` now.
      rename_i htel
      have htel : "tel:".toList <:+: original := by simpa [containsString] using htel
      refine ⟨_, Or.inl ?_, fun params => rfl⟩
      unfold replacing
      rw [replaceOccurrences_eq_substitute]
      exact (infix_substitute (by decide) htel).trans (List.prefix_append _ _).isInfix
    · split
      · exact ⟨_, hasScheme_append "sips:" (Or.inr List.infix_rfl) _, fun params => rfl⟩
      · exact ⟨_, hasScheme_append "sip:" (Or.inl List.infix_rfl) _, fun params => rfl⟩

/-- Any domain is converted as some text with a scheme. -/
theorem convert2FullDomain_eq_withScheme {original : Option CString} (hne : original ≠ some []) :
    ∃ uri, HasScheme uri ∧
      ∀ params, convert2FullDomain params original = withScheme params uri := by
  unfold convert2FullDomain
  simp only [if_neg hne]
  split
  · rename_i hfull
    refine ⟨format original, ?_, fun params => rfl⟩
    cases original with
    | none => simp [containsString] at hfull
    | some original => exact (isFullURI_iff original).mp hfull
  · exact ⟨_, hasScheme_append "sip:" (Or.inl List.infix_rfl) _, fun params => rfl⟩

/-- Another conversion, with any parameters and any domain, replaces the scheme. -/
theorem convert2FullURI_convert2FullURI (params' : Params) {original : CString}
    (hne : original ≠ []) (domain domain' : Option CString) :
    convert2FullURI params' (convert2FullURI params original domain) domain' =
      convert2FullURI params' original domain := by
  obtain ⟨uri, hscheme, heq⟩ := convert2FullURI_eq_withScheme hne domain
  have hconverted : HasScheme (convert2FullURI params original domain) := by
    rw [heq params]
    exact (onlyScheme_withScheme params hscheme).hasScheme
  rw [convert2FullURI_of_hasScheme params' hconverted, heq params, heq params',
    withScheme_withScheme]

/-- Converting twice is converting with the later parameters. -/
theorem convert2FullDomain_convert2FullDomain (params' : Params) {original : Option CString}
    (hne : original ≠ some []) :
    convert2FullDomain params' (some (convert2FullDomain params original)) =
      convert2FullDomain params' original := by
  obtain ⟨uri, hscheme, heq⟩ := convert2FullDomain_eq_withScheme hne
  have hconverted : HasScheme (convert2FullDomain params original) := by
    rw [heq params]
    exact (onlyScheme_withScheme params hscheme).hasScheme
  rw [convert2FullDomain_of_hasScheme params' hconverted, heq params, heq params',
    withScheme_withScheme]

/-- A URI that was converted has the scheme of the parameters. -/
theorem onlyScheme_convert2FullURI {original : CString} (hne : original ≠ [])
    (domain : Option CString) : OnlyScheme params (convert2FullURI params original domain) := by
  obtain ⟨uri, hscheme, heq⟩ := convert2FullURI_eq_withScheme hne domain
  rw [heq params]
  exact onlyScheme_withScheme params hscheme

/-- So has a domain. -/
theorem onlyScheme_convert2FullDomain {original : Option CString} (hne : original ≠ some []) :
    OnlyScheme params (convert2FullDomain params original) := by
  obtain ⟨uri, hscheme, heq⟩ := convert2FullDomain_eq_withScheme hne
  rw [heq params]
  exact onlyScheme_withScheme params hscheme

end Conversions

/-- Converting is stable. What was converted stays as it is, for any domain; it holds the scheme
that `signaling-secure` asks for and not the other one; and a conversion with one value leaves no
trace in a conversion with another. -/
theorem convert_stable :
    (∀ params original domain domain',
      convert2FullURI params (convert2FullURI params original domain) domain' =
        convert2FullURI params original domain) ∧
    (∀ params original,
      convert2FullDomain params (some (convert2FullDomain params original)) =
        convert2FullDomain params original) ∧
    (∀ params original domain, original ≠ [] →
      OnlyScheme params (convert2FullURI params original domain)) ∧
    (∀ params original, original ≠ some [] →
      OnlyScheme params (convert2FullDomain params original)) ∧
    (∀ params params' original domain,
      convert2FullURI params' (convert2FullURI params original domain) domain =
        convert2FullURI params' original domain) ∧
    (∀ params params' original,
      convert2FullDomain params' (some (convert2FullDomain params original)) =
        convert2FullDomain params' original) := by
  -- Converting again under other settings is converting under them at first.
  have hagain : ∀ params params' original domain domain',
      convert2FullURI params' (convert2FullURI params original domain) domain' =
        convert2FullURI params' original domain := by
    intro params params' original domain domain'
    by_cases hne : original = []
    · subst hne
      rfl
    · exact convert2FullURI_convert2FullURI params params' hne domain domain'
  have hagainDomain : ∀ params params' original,
      convert2FullDomain params' (some (convert2FullDomain params original)) =
        convert2FullDomain params' original := by
    intro params params' original
    by_cases hne : original = some []
    · subst hne
      rfl
    · exact convert2FullDomain_convert2FullDomain params params' hne
  refine ⟨fun params => hagain params params, fun params => hagainDomain params params,
    fun params original domain hne => onlyScheme_convert2FullURI params hne domain,
    fun params original hne => onlyScheme_convert2FullDomain params hne,
    fun params params' original domain => hagain params params' original domain domain,
    hagainDomain⟩

/-- `alice` on the domain `sip:b`, and this domain, for secure signalling. -/
theorem convert_stable_alice :
    OnlyScheme { signalingSecure := some true }
      (convert2FullURI { signalingSecure := some true } "alice".toList
        (some "sip:b".toList)) ∧
    OnlyScheme { signalingSecure := some true }
      (convert2FullDomain { signalingSecure := some true } (some "sip:b".toList)) :=
  ⟨convert_stable.2.2.1 _ _ _ (by decide), convert_stable.2.2.2.1 _ _ (by decide)⟩

end RestCommSdk.Proofs
