import RestCommSdk.CliInterface.SofiaReply

/-!
# `RestCommSdk.Logging`: texts that are used as formats

The functions of `common.m`: `RCLogError` and its kin take a format and arguments for it. Called
with a single text that was put together at run time, they use that text as the format.
`readsArguments` says of a format that it wants an argument, and where there is none the read is
undefined: `rcLog` takes it for an exception.

`tportLog` lists the texts that come this way from the transport of the SIP stack, whose log
`customSofiaLoggerCallback` passes on line by line.
-/

set_option autoImplicit false

namespace RestCommSdk

open RestCommSdk.CliInterface (CString)

/-- `RCLogError` with this text for its format reads an argument: there is a `%` that another
one does not follow. The format ends at its first NUL. -/
def readsArguments : CString → Bool
  | [] | '\x00' :: _ => false
  | ['%'] => true
  | '%' :: c :: text => if c = '%' then readsArguments text else true
  | _ :: text => readsArguments text

/-- A text without a `%` is a format without a conversion. -/
theorem readsArguments_of_notMem {text : CString} (h : '%' ∉ text) :
    readsArguments text = false := by
  induction text with
  | nil => rfl
  | cons c text ih =>
    rw [List.mem_cons, not_or] at h
    by_cases hnul : c = '\x00'
    · subst hnul
      rfl
    · rw [readsArguments]
      · exact ih h.2
      · exact hnul
      · rintro rfl
        exact absurd rfl h.1
      · rintro c' text' rfl
        exact absurd rfl h.1

/-- `RCLogInfo` or `RCLogError` with nothing but this format. -/
def rcLog (format : CString) : Option Unit :=
  if readsArguments format then none else some ()

/-- A line is logged if its format wants no argument. -/
theorem rcLog_eq_some_iff {format : CString} :
    rcLog format = some () ↔ readsArguments format = false := by
  simp [rcLog]

/-- One line after the other. -/
theorem forM_rcLog_eq_some_iff {lines : List CString} :
    lines.forM rcLog = some () ↔ ∀ line ∈ lines, readsArguments line = false := by
  induction lines with
  | nil => simp
  | cons line lines ih =>
    show (rcLog line).bind (fun _ => lines.forM rcLog) = some () ↔ _
    rw [Option.bind_eq_some_iff, List.forall_mem_cons]
    constructor
    · rintro ⟨_, hline, hlines⟩
      exact ⟨rcLog_eq_some_iff.mp hline, ih.mp hlines⟩
    · rintro ⟨hline, hlines⟩
      exact ⟨(), rcLog_eq_some_iff.mpr hline, ih.mpr hlines⟩

/-- `MAX_LINELEN` of `tport_log_msg` -/
def maxLinelen : Nat := 2047

/-- `tport_log_msg` for a message that lies in one piece: its lines, up to its first NUL. Of a line
that is longer than `MAX_LINELEN` the beginning is logged, and nothing after it. -/
def tportLog (message : CString) : List CString :=
  let lines := (message.takeWhile (· ≠ '\x00')).splitOnP fun c => c = '\r' || c = '\n'
  lines.takeWhile (·.length ≤ maxLinelen) ++
    ((lines.dropWhile (·.length ≤ maxLinelen)).take 1).map (·.take maxLinelen)

/-- A line that is logged is made of what was received. -/
theorem subset_of_mem_tportLog {message line : CString} (h : line ∈ tportLog message) :
    line ⊆ message := by
  have hparts : ∀ l : CString, ∀ part ∈ l.splitOnP fun c => c = '\r' || c = '\n', part ⊆ l := by
    intro l
    induction l with
    | nil => simp
    | cons c l ih =>
      intro part hpart
      rw [List.splitOnP_cons_eq_if_modifyHead] at hpart
      split at hpart
      · obtain rfl | hpart := List.mem_cons.mp hpart
        · exact List.nil_subset _
        · exact List.subset_cons_of_subset c (ih part hpart)
      · -- The character goes to the first part.
        cases hsplit : l.splitOnP fun c => c = '\r' || c = '\n' with
        | nil => simp [hsplit] at hpart
        | cons first rest =>
          rw [hsplit] at hpart ih
          obtain rfl | hpart := List.mem_cons.mp hpart
          · exact List.cons_subset_cons c (ih first List.mem_cons_self)
          · exact List.subset_cons_of_subset c (ih part (List.mem_cons_of_mem first hpart))
  have hline : ∃ part ∈ (message.takeWhile (· ≠ '\x00')).splitOnP fun c => c = '\r' || c = '\n',
      line ⊆ part := by
    obtain hkept | hcut := List.mem_append.mp h
    · exact ⟨line, (List.takeWhile_prefix _).subset hkept, List.Subset.refl line⟩
    · obtain ⟨part, hpart, rfl⟩ := List.mem_map.mp hcut
      exact ⟨part, (List.dropWhile_suffix _).subset (List.mem_of_mem_take hpart),
        List.take_subset _ part⟩
  obtain ⟨part, hpart, hline⟩ := hline
  exact fun c hc => (List.takeWhile_prefix _).subset (hparts _ part hpart (hline hc))

/-- The log of a message without a `%` reads nothing. -/
theorem readsArguments_tportLog {message : CString} (h : '%' ∉ message) :
    ∀ line ∈ tportLog message, readsArguments line = false := fun _ hline =>
  readsArguments_of_notMem fun hmem => h (subset_of_mem_tportLog hline hmem)

end RestCommSdk
