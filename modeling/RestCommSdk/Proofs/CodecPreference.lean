import RestCommSdk.Lib.Fields
import RestCommSdk.Media.PreferredCodec

/-!
# `RestCommSdk.Proofs.CodecPreference`: what preferring a codec does to an SDP

The loop looks at the lines up to the first point with a video line and a payload type of the
codec behind it (`lookedAt`), and ends with the last of each (`Found`, `lookThrough_found`).

The line of the video section then has the type in front of the others, which is the same list in
another order when the type was there once (`cons_filter_perm`). The list is cut out of the line
with its carriage return, so a type in the last place of a CRLF line is not seen, and stands there
twice afterwards. `count_space_mangled` counts the fields: whenever the type is not there exactly
once, their number has changed. Hence `onlyReorders_iff`.
-/

set_option autoImplicit false

namespace RestCommSdk.Proofs

open RestCommSdk.Lib
open RestCommSdk.CliInterface (CString)
open RestCommSdk.Media

/-! ### Documents -/

/-- A line of an SDP, with or without a carriage return at its end. -/
structure MediaLine where
  content : CString
  crlf : Bool
  cr : '\r' ∉ content
  lf : '\n' ∉ content

namespace MediaLine
variable (line : MediaLine)

/-- The line with its carriage return, if it has one. -/
def text : CString := line.content ++ if line.crlf then ['\r'] else []

/-- The fields of a line, without its end. -/
def fields : List CString := line.content.splitOn ' '

/-- The payload types of a media line. -/
def payloadTypes : List CString := line.fields.drop 3

end MediaLine

/-- A document with line feeds between its lines. The last line is empty, when the others have
line ends. -/
structure Document where
  lines : List MediaLine
  ne : lines ≠ []

/-- The text of a document. -/
def Document.text (document : Document) : CString :=
  ['\n'].intercalate (document.lines.map (·.text))

/-! ### What is looked at -/

section LookedAt
variable (regex : CString → Option (Option CString))

/-- The payload type of the codec that a line gives. -/
def payloadType (line : CString) : Option CString :=
  if isVideoLine line then none else (regex line).join

/-- The lines up to the first point with a video line and a payload type behind it. -/
def lookedAt (video type : Bool) : List CString → List CString
  | [] => []
  | line :: lines =>
    if video && type then []
    else
      line :: lookedAt (video || isVideoLine line) (type || (payloadType regex line).isSome) lines

/-- The lines of a document that are looked at. -/
def lookedAtOf (document : Document) : List CString :=
  lookedAt regex false false (document.lines.map (·.text))

/-- The payload type that is chosen. -/
def chosenType (document : Document) : Option CString :=
  ((lookedAtOf regex document).filterMap (payloadType regex)).getLast?

/-- The video line that is chosen. -/
def chosenLine (document : Document) : Option CString :=
  ((lookedAtOf regex document).filter isVideoLine).getLast?

end LookedAt

/-- The line has the fields in front of its payload types and its end as before, and the payload
types in another order, the chosen one first. -/
structure Reordered (pt : CString) (line line' : MediaLine) : Prop where
  crlf : line'.crlf = line.crlf
  front : line'.fields.take 3 = line.fields.take 3
  perm : line'.payloadTypes.Perm line.payloadTypes
  first : line'.payloadTypes.head? = some pt

/-- The text has the lines of the document, except for one video line at most, which is
reordered. -/
def OnlyReorders (regex : CString → Option (Option CString)) (document : Document)
    (sdp : CString) : Prop :=
  sdp = document.text ∨ ∃ (before : List MediaLine) (line line' : MediaLine)
    (behind : List MediaLine) (pt : CString), document.lines = before ++ line :: behind ∧
      sdp = ['\n'].intercalate ((before ++ line' :: behind).map (·.text)) ∧
      isVideoLine line.text ∧ chosenType regex document = some pt ∧ Reordered pt line line'

/-- No line that is looked at is matched without the group, and the chosen type is once among the
payload types of the chosen video line, as they are cut out of the line with its end. -/
structure Preferable (regex : CString → Option (Option CString)) (document : Document) : Prop where
  grouped : ∀ line ∈ lookedAtOf regex document, isVideoLine line = false →
    regex line ≠ some none
  once : ∀ line pt, chosenLine regex document = some line → chosenType regex document = some pt →
    3 < (line.splitOn ' ').length → ((line.splitOn ' ').drop 3).count pt = 1

/-! ### The loop -/

section Loop
variable {regex : CString → Option (Option CString)}

/-- What the loop has found in the lines behind it. -/
structure Found (regex : CString → Option (Option CString)) (seen : List CString)
    (found : Lookup) : Prop where
  noVideo : found.mLineIndex = none → seen.filter isVideoLine = []
  video : ∀ i, found.mLineIndex = some i → ∃ before line behind, seen = before ++ line :: behind ∧
    before.length = i ∧ isVideoLine line = true ∧ behind.filter isVideoLine = []
  type : found.codecRtpMap = (seen.filterMap (payloadType regex)).getLast?

/-- Nothing was found in no lines. -/
theorem found_nil : Found regex [] {} where
  noVideo _ := rfl
  video _ h := by cases h
  type := rfl

/-- A line throws exactly when it is matched without the group. -/
theorem lookAt_eq_none_iff {i : Nat} {line : CString} {found : Lookup} :
    lookAt regex i line found = none ↔ isVideoLine line = false ∧ regex line = some none := by
  unfold lookAt
  cases isVideoLine line with
  | true => simp
  | false =>
    rcases regex line with - | - | pt
    · simp
    · simp
    · simp

/-- One line that does not throw. -/
theorem Found.step {seen : List CString} {found found' : Lookup} {line : CString}
    (h : Found regex seen found) (hstep : lookAt regex seen.length line found = some found') :
    Found regex (seen ++ [line]) found' ∧
      found'.mLineIndex.isSome = (found.mLineIndex.isSome || isVideoLine line) ∧
      found'.codecRtpMap.isSome =
        (found.codecRtpMap.isSome || (payloadType regex line).isSome) := by
  cases hvideo : isVideoLine line with
  -- A video line is the line chosen so far.
  | true =>
    have hfound' : { found with mLineIndex := some seen.length } = found' := by
      simpa [lookAt, hvideo] using hstep
    subst hfound'
    have htype : payloadType regex line = none := by simp [payloadType, hvideo]
    refine ⟨⟨?_, ?_, ?_⟩, ?_, ?_⟩
    · intro hnone
      cases hnone
    · rintro _ ⟨⟩
      exact ⟨seen, line, [], rfl, rfl, hvideo, rfl⟩
    · simp [List.filterMap_append, htype, h.type]
    · simp
    · simp [htype]
  | false =>
    -- No other line is chosen, and it may hold the payload type.
    have hsame : (seen ++ [line]).filter isVideoLine = seen.filter isVideoLine := by
      simp [List.filter_append, hvideo]
    have hindex : found'.mLineIndex = found.mLineIndex ∧
        found'.codecRtpMap = (payloadType regex line).or found.codecRtpMap := by
      rcases hregex : regex line with - | - | pt
      all_goals
        simp only [lookAt, hvideo, hregex, Bool.false_eq_true, if_false, Option.some.injEq,
          reduceCtorEq] at hstep
      all_goals
        subst hstep
        simp [payloadType, hvideo, hregex]
    refine ⟨⟨?_, ?_, ?_⟩, ?_, ?_⟩
    · intro hnone
      rw [hsame]
      exact h.noVideo (hindex.1 ▸ hnone)
    · intro i hi
      -- The line chosen before is still the last of its kind.
      obtain ⟨before, v, behind, rfl, hlength, hv, hbehind⟩ := h.video i (hindex.1 ▸ hi)
      refine ⟨before, v, behind ++ [line], by simp, hlength, hv, ?_⟩
      simp [List.filter_append, hbehind, hvideo]
    · rw [hindex.2, h.type, List.filterMap_append, List.getLast?_append]
      cases hcase : payloadType regex line <;> simp [hcase]
    · rw [hindex.1, Bool.or_false]
    · rw [hindex.2, Option.isSome_or, Bool.or_comm]

/-- The loop ends with the last video line and the last payload type of what it looks at. -/
theorem lookThrough_found {seen lines : List CString} {found : Lookup}
    (h : Found regex seen found)
    (hgrouped : ∀ line ∈ lookedAt regex found.mLineIndex.isSome found.codecRtpMap.isSome lines,
      isVideoLine line = false → regex line ≠ some none) :
    ∃ found', lookThrough regex seen.length lines found = some found' ∧
      Found regex
        (seen ++ lookedAt regex found.mLineIndex.isSome found.codecRtpMap.isSome lines) found' := by
  induction lines generalizing seen found with
  | nil => exact ⟨found, rfl, by rw [lookedAt, List.append_nil]; exact h⟩
  | cons line lines ih =>
    rw [lookedAt, lookThrough] at *
    split
    · -- Both are found, and the walk ends here.
      rename_i hboth
      exact ⟨found, rfl, by rw [List.append_nil]; exact h⟩
    · rename_i hboth
      rw [if_neg hboth] at hgrouped
      have hline := hgrouped line List.mem_cons_self
      cases hstep : lookAt regex seen.length line found with
      | none =>
        -- The match of this line has no group, which the condition excludes.
        obtain ⟨hvideo, hregex⟩ := lookAt_eq_none_iff.mp hstep
        exact absurd hregex (hline hvideo)
      | some next =>
        obtain ⟨hnext, hvideo, htype⟩ := h.step hstep
        rw [← hvideo, ← htype] at hgrouped ⊢
        obtain ⟨found', hloop, hfound'⟩ := ih hnext fun l hl =>
          hgrouped l (List.mem_cons_of_mem line hl)
        rw [List.length_append, List.length_singleton] at hloop
        refine ⟨found', hloop, ?_⟩
        rw [List.append_assoc, List.singleton_append] at hfound'
        exact hfound'

/-- The loop only goes over lines that do not throw. -/
theorem grouped_of_lookThrough {lines : List CString} {seen : List CString}
    {found found' : Lookup} (hfound : Found regex seen found)
    (h : lookThrough regex seen.length lines found = some found') :
    ∀ line ∈ lookedAt regex found.mLineIndex.isSome found.codecRtpMap.isSome lines,
      isVideoLine line = false → regex line ≠ some none := by
  induction lines generalizing seen found with
  | nil => simp [lookedAt]
  | cons line lines ih =>
    rw [lookThrough] at h
    rw [lookedAt]
    split
    · simp
    · rename_i hboth
      rw [if_neg hboth] at h
      obtain ⟨next, hstep, hloop⟩ := Option.bind_eq_some_iff.mp h
      obtain ⟨hnext, hvideo, htype⟩ := hfound.step hstep
      have hrest := ih hnext (by rwa [List.length_append, List.length_singleton])
      rw [hvideo, htype] at hrest
      intro l hl
      obtain rfl | hl := List.mem_cons.mp hl
      · -- A match without a group would have raised at this line.
        intro hvideo hregex
        rw [lookAt_eq_none_iff.mpr ⟨hvideo, hregex⟩] at hstep
        cases hstep
      · exact hrest l hl

/-- The search looks at lines from the first one on. -/
theorem isPrefix_lookedAt (video type : Bool) (lines : List CString) :
    lookedAt regex video type lines <+: lines := by
  induction lines generalizing video type with
  | nil => exact List.nil_prefix
  | cons line lines ih =>
    rw [lookedAt]
    split
    · exact List.nil_prefix
    · exact List.cons_prefix_cons.mpr ⟨rfl, ih _ _⟩

end Loop

/-! ### The new line -/

/-- The fields of a line have no separator in them. -/
theorem MediaLine.clean (line : MediaLine) {x : CString} (hx : x ∈ line.fields) :
    ' ' ∉ x ∧ '\r' ∉ x ∧ '\n' ∉ x :=
  ⟨fun h => (mem_of_mem_splitOn hx h).2 rfl, fun h => line.cr (mem_of_mem_splitOn hx h).1,
    fun h => line.lf (mem_of_mem_splitOn hx h).1⟩

/-- Clean fields make a line. -/
theorem exists_line {xs : List CString} (crlf : Bool) (hne : xs ≠ [])
    (hxs : ∀ x ∈ xs, ' ' ∉ x ∧ '\r' ∉ x ∧ '\n' ∉ x) : ∃ line : MediaLine,
    line.content = [' '].intercalate xs ∧ line.crlf = crlf ∧ line.fields = xs := by
  have hcr : '\r' ∉ [' '].intercalate xs := by
    intro h
    obtain h | ⟨x, hx, h⟩ := mem_of_mem_intercalate h
    · exact absurd h (by decide)
    · exact (hxs x hx).2.1 h
  have hlf : '\n' ∉ [' '].intercalate xs := by
    intro h
    obtain h | ⟨x, hx, h⟩ := mem_of_mem_intercalate h
    · exact absurd h (by decide)
    · exact (hxs x hx).2.2 h
  exact ⟨⟨_, crlf, hcr, hlf⟩, rfl, rfl, List.splitOn_intercalate ' ' (fun x hx => (hxs x hx).1) hne⟩

/-- A line with the fields of `newMLineParts` and something behind them. -/
theorem reordered_of_fields {pt : CString} {line line' : MediaLine} {xs ys : List CString}
    (hcrlf : line'.crlf = line.crlf) (hxs : 3 ≤ xs.length) (hcount : (xs.drop 3).count pt = 1)
    (hfields : line.fields = xs ++ ys) (hfields' : line'.fields = newMLineParts pt xs ++ ys) :
    Reordered pt line line' := by
  have htake : (xs.take 3).length = 3 := by
    rw [List.length_take]
    omega
  have hfront : line'.fields.take 3 = xs.take 3 := by
    rw [hfields', newMLineParts, List.append_assoc, List.take_left' htake]
  have hbehind : line'.payloadTypes = pt :: (xs.drop 3).filter (· ≠ pt) ++ ys := by
    rw [MediaLine.payloadTypes, hfields', newMLineParts, List.append_assoc, List.drop_left' htake]
  have htypes : line.payloadTypes = xs.drop 3 ++ ys := by
    rw [MediaLine.payloadTypes, hfields, List.drop_append_of_le_length hxs]
  refine ⟨hcrlf, ?_, ?_, ?_⟩
  · rw [hfront, hfields, List.take_append_of_le_length hxs]
  · rw [hbehind, htypes]
    exact (cons_filter_perm hcount).append_right ys
  · rw [hbehind, List.cons_append, List.head?_cons]

/-- The type is once in the list as it is cut: the new line is reordered. -/
theorem exists_reordered {pt : CString} (hpt : ' ' ∉ pt ∧ '\r' ∉ pt ∧ '\n' ∉ pt) {line : MediaLine}
    (hlength : 3 < (line.text.splitOn ' ').length)
    (hcount : ((line.text.splitOn ' ').drop 3).count pt = 1) : ∃ line' : MediaLine,
    line'.text = [' '].intercalate (newMLineParts pt (line.text.splitOn ' ')) ∧
      Reordered pt line line' := by
  have hclean : ∀ xs : List CString, (∀ x ∈ xs, x ∈ line.fields) →
      ∀ x ∈ newMLineParts pt xs, ' ' ∉ x ∧ '\r' ∉ x ∧ '\n' ∉ x := by
    intro xs hxs x hx
    obtain hx | hx := List.mem_append.mp hx
    · exact line.clean (hxs x (List.mem_of_mem_take hx))
    · obtain rfl | hx := List.mem_cons.mp hx
      · exact hpt
      · exact line.clean (hxs x (List.mem_of_mem_drop (List.mem_filter.mp hx).1))
  cases hcrlf : line.crlf with
  | false =>
    have htext : line.text = line.content := by simp [MediaLine.text, hcrlf]
    rw [htext] at hlength hcount ⊢
    obtain ⟨line', hcontent, hcrlf', hfields⟩ := exists_line false (by simp [newMLineParts])
      (hclean line.fields fun x hx => hx)
    refine ⟨line', ?_, ?_⟩
    · rw [MediaLine.text, hcontent, hcrlf', if_neg (by decide), List.append_nil]
      rfl
    · exact reordered_of_fields (hcrlf'.trans hcrlf.symm) (Nat.le_of_lt hlength) hcount
        (List.append_nil _).symm (by rw [hfields, List.append_nil]; rfl)
  | true =>
    -- The last field is cut with the carriage return, and stays where it is.
    obtain ⟨xs, x, hxs⟩ : ∃ xs x, line.fields = xs ++ [x] := by
      obtain h | ⟨xs, x, h⟩ := List.eq_nil_or_concat line.fields
      · exact absurd h (List.splitOn_ne_nil ' ' line.content)
      · exact ⟨xs, x, by rw [h, List.concat_eq_append]⟩
    have hparts : line.text.splitOn ' ' = xs ++ [x ++ ['\r']] := by
      rw [MediaLine.text, hcrlf, if_pos rfl]
      exact splitOn_append_singleton (by decide) hxs
    have hlast : x ++ ['\r'] ≠ pt :=
      fun h => hpt.2.1 (h ▸ List.mem_append_right x List.mem_cons_self)
    rw [hparts] at hlength hcount ⊢
    have hlong : 3 ≤ xs.length := by
      rw [List.length_append, List.length_singleton] at hlength
      omega
    rw [List.drop_append_of_le_length hlong, List.count_append, List.count_singleton,
      if_neg (by simpa using hlast), Nat.add_zero] at hcount
    have hnew : newMLineParts pt (xs ++ [x ++ ['\r']]) = newMLineParts pt xs ++ [x ++ ['\r']] := by
      rw [newMLineParts, newMLineParts, List.take_append_of_le_length hlong,
        List.drop_append_of_le_length hlong, List.filter_append]
      simp [hlast]
    obtain ⟨line', hcontent, hcrlf', hfields⟩ := @exists_line (newMLineParts pt xs ++ [x]) true
      (by simp) (by
        intro y hy
        obtain hy | hy := List.mem_append.mp hy
        · exact hclean xs (fun z hz => hxs ▸ List.mem_append_left [x] hz) y hy
        · exact line.clean (hxs ▸ List.mem_append_right xs hy))
    refine ⟨line', ?_, reordered_of_fields (hcrlf'.trans hcrlf.symm) hlong hcount hxs hfields⟩
    rw [MediaLine.text, hcontent, hcrlf', if_pos rfl, hnew, intercalate_append_singleton]

/-! ### The number of fields -/

/-- Between two fields is one blank. -/
theorem count_space_text (line : MediaLine) : line.text.count ' ' + 1 = line.fields.length := by
  rw [MediaLine.fields, length_splitOn, MediaLine.text, List.count_append]
  cases line.crlf <;> rfl

/-- A reordered line has as many fields. -/
theorem Reordered.count_space {pt : CString} {line line' : MediaLine}
    (h : Reordered pt line line') : line'.text.count ' ' = line.text.count ' ' := by
  have hlength : line'.fields.length = line.fields.length := by
    rw [← List.take_append_drop 3 line'.fields, ← List.take_append_drop 3 line.fields,
      List.length_append, List.length_append, h.front]
    exact congrArg _ h.perm.length_eq
  have hline := count_space_text line
  have hline' := count_space_text line'
  omega

/-- The type in front, and every other one that differs from it. -/
theorem length_newMLineParts (pt : CString) {parts : List CString} (hlength : 3 < parts.length) :
    (newMLineParts pt parts).length + (parts.drop 3).count pt = parts.length + 1 := by
  have hfilter : ((parts.drop 3).filter (· ≠ pt)).length + (parts.drop 3).count pt =
      (parts.drop 3).length := length_filter_add_count
  rw [List.length_drop] at hfilter
  rw [newMLineParts, List.length_append, List.length_cons, List.length_take]
  omega

/-- The new line has another number of fields, when the type is not there exactly once. -/
theorem count_space_newMLineParts {pt : CString} (hpt : ' ' ∉ pt) {text : CString}
    (hlength : 3 < (text.splitOn ' ').length) :
    ([' '].intercalate (newMLineParts pt (text.splitOn ' '))).count ' ' +
      ((text.splitOn ' ').drop 3).count pt = text.count ' ' + 1 := by
  have hclean : ∀ x ∈ newMLineParts pt (text.splitOn ' '), ' ' ∉ x := by
    intro x hx h
    obtain hx | hx := List.mem_append.mp hx
    · exact (mem_of_mem_splitOn (List.mem_of_mem_take hx) h).2 rfl
    · obtain rfl | hx := List.mem_cons.mp hx
      · exact hpt h
      · exact (mem_of_mem_splitOn (List.mem_of_mem_drop (List.mem_filter.mp hx).1) h).2 rfl
  have hnew := length_splitOn (d := ' ') ([' '].intercalate (newMLineParts pt (text.splitOn ' ')))
  rw [List.splitOn_intercalate ' ' hclean (by simp [newMLineParts])] at hnew
  have hold := length_splitOn (d := ' ') text
  have hparts := length_newMLineParts pt hlength
  omega

/-! ### The conclusion -/

section Conclusion
variable (engine : RegularExpressions) (codec : CString) (type : RTCSdpType) (document : Document)

/-- The document cut at its ends of lines. -/
theorem splitOn_text : document.text.splitOn '\n' = document.lines.map (·.text) := by
  refine List.splitOn_intercalate '\n' ?_ (by simpa using document.ne)
  intro x hx h
  obtain ⟨line, -, rfl⟩ := List.mem_map.mp hx
  obtain h | h := List.mem_append.mp h
  · exact line.lf h
  · cases hcrlf : line.crlf <;> simp [hcrlf] at h

/-- A chosen type holds no space and no line end. -/
theorem clean_of_chosenType {pt : CString}
    (h : chosenType (engine.firstMatchInString (rtpMapPattern codec)) document = some pt) :
    ' ' ∉ pt ∧ '\r' ∉ pt ∧ '\n' ∉ pt := by
  obtain ⟨line, -, htype⟩ := List.mem_filterMap.mp (List.mem_of_getLast? h)
  rw [payloadType] at htype
  split at htype
  · cases htype
  · exact engine.digits (Option.join_eq_some_iff.mp htype)

/-- What the function returns, when no line throws. -/
theorem descriptionForDescription_cases
    (hgrouped : ∀ line ∈ lookedAtOf (engine.firstMatchInString (rtpMapPattern codec)) document,
      isVideoLine line = false →
      engine.firstMatchInString (rtpMapPattern codec) line ≠ some none) :
    let regex := engine.firstMatchInString (rtpMapPattern codec)
    (descriptionForDescription engine ⟨type, document.text⟩ codec = some ⟨type, document.text⟩ ∧
      (chosenLine regex document = none ∨ chosenType regex document = none)) ∨
    ∃ before line behind pt, document.lines = before ++ line :: behind ∧
      isVideoLine line.text = true ∧ chosenLine regex document = some line.text ∧
      chosenType regex document = some pt ∧
      descriptionForDescription engine ⟨type, document.text⟩ codec =
        some ⟨type, ['\n'].intercalate
          (mangled (document.lines.map (·.text)) before.length pt)⟩ := by
  intro regex
  obtain ⟨found, hloop, hfound⟩ := lookThrough_found (@found_nil regex) hgrouped
  change Found regex (lookedAtOf regex document) found at hfound
  have hloop : lookThrough regex 0 (document.lines.map (·.text)) {} = some found := hloop
  -- Without a video line or a payload type the description is handed back.
  have hnothing (h : found.mLineIndex = none ∨ found.codecRtpMap = none) :
      descriptionForDescription engine ⟨type, document.text⟩ codec =
        some ⟨type, document.text⟩ := by
    rw [descriptionForDescription, splitOn_text, hloop, Option.map_some]
    split
    · rename_i hindex htype
      simp [hindex, htype] at h
    · rfl
  cases hindex : found.mLineIndex with
  | none =>
    refine Or.inl ⟨hnothing (Or.inl hindex), Or.inl ?_⟩
    rw [chosenLine, hfound.noVideo hindex, List.getLast?_nil]
  | some i =>
    cases htype : found.codecRtpMap with
    | none =>
      refine Or.inl ⟨hnothing (Or.inr htype), Or.inr ?_⟩
      exact hfound.type.symm.trans htype
    | some pt =>
      obtain ⟨before, line, behind, hseen, rfl, hvideo, hbehind⟩ := hfound.video i hindex
      -- The lines looked at are the first of the document.
      obtain ⟨rest, hrest⟩ :=
        @isPrefix_lookedAt regex false false (document.lines.map (·.text))
      change lookedAtOf regex document ++ rest = _ at hrest
      rw [hseen, List.append_assoc, List.cons_append] at hrest
      obtain ⟨before', tail, hlines, rfl, htail⟩ := List.map_eq_append_iff.mp hrest.symm
      obtain ⟨line', behind', rfl, rfl, -⟩ := List.map_eq_cons_iff.mp htail
      refine Or.inr ⟨before', line', behind', pt, hlines, hvideo, ?_, ?_, ?_⟩
      · -- The last video line that was looked at is the one at the index.
        rw [chosenLine, hseen, List.filter_append, List.filter_cons_of_pos hvideo, hbehind]
        simp
      · exact hfound.type.symm.trans htype
      · rw [descriptionForDescription, splitOn_text, hloop, Option.map_some, hindex, htype,
          List.length_map]

/-- The lines with the new line of the video section. -/
theorem mangled_append_cons (before behind : List MediaLine) (line : MediaLine) (pt : CString) :
    mangled ((before ++ line :: behind).map (·.text)) before.length pt =
      if 3 < (line.text.splitOn ' ').length then
        before.map (·.text) ++ [' '].intercalate (newMLineParts pt (line.text.splitOn ' ')) ::
          behind.map (·.text)
      else (before ++ line :: behind).map (·.text) := by
  have hlength : before.length = (before.map (·.text)).length := (List.length_map _).symm
  rw [List.map_append, List.map_cons, mangled, hlength, List.set_append_right _ _ (Nat.le_refl _),
    Nat.sub_self, List.set_cons_zero, List.getD_eq_getElem?_getD,
    List.getElem?_append_right (Nat.le_refl _), Nat.sub_self, List.getElem?_cons_zero,
    Option.getD_some]

/-- A text that only reorders has as many spaces. -/
theorem OnlyReorders.count_space {regex : CString → Option (Option CString)} {document : Document}
    {sdp : CString} (h : OnlyReorders regex document sdp) :
    sdp.count ' ' = document.text.count ' ' := by
  obtain rfl | ⟨before, line, line', behind, pt, hlines, rfl, -, -, hreordered⟩ := h
  · rfl
  · rw [Document.text, hlines, count_intercalate (by decide), count_intercalate (by decide)]
    simp [hreordered.count_space]

/-- No exception means that every line that was tried has the group. -/
theorem grouped_of_eq_some {description : RTCSessionDescription}
    (h : descriptionForDescription engine ⟨type, document.text⟩ codec = some description) :
    ∀ line ∈ lookedAtOf (engine.firstMatchInString (rtpMapPattern codec)) document,
      isVideoLine line = false →
      engine.firstMatchInString (rtpMapPattern codec) line ≠ some none := by
  rw [descriptionForDescription, splitOn_text] at h
  obtain ⟨found, hloop, -⟩ := Option.map_eq_some_iff.mp h
  exact grouped_of_lookThrough found_nil hloop

/-- Preferring a codec only reorders, exactly when no line that is looked at throws and the chosen
type is once in the list of the chosen line. -/
theorem onlyReorders_iff :
    (∃ description,
      descriptionForDescription engine ⟨type, document.text⟩ codec = some description ∧
        description.type = type ∧
        OnlyReorders (engine.firstMatchInString (rtpMapPattern codec)) document description.sdp) ↔
      Preferable (engine.firstMatchInString (rtpMapPattern codec)) document := by
  constructor
  · rintro ⟨description, hrun, -, honly⟩
    have hgrouped := grouped_of_eq_some engine codec type document hrun
    refine ⟨hgrouped, ?_⟩
    intro text pt hline htype hlength
    obtain ⟨-, hnone⟩ | ⟨before, line, behind, pt', hlines, hvideo, hline', htype', hrun'⟩ :=
      descriptionForDescription_cases engine codec type document hgrouped
    · -- Nothing was chosen, so there is no line to ask about.
      obtain hnone | hnone := hnone
      · rw [hnone] at hline
        cases hline
      · rw [hnone] at htype
        cases htype
    · obtain rfl := Option.some.inj (hline'.symm.trans hline)
      obtain rfl := Option.some.inj (htype'.symm.trans htype)
      obtain rfl := Option.some.inj (hrun'.symm.trans hrun)
      have hclean := clean_of_chosenType engine codec document htype'
      -- The line made has as many spaces as the document had, so the type is in it once.
      have hnew := count_space_newMLineParts hclean.1 hlength
      have hcount := honly.count_space
      rw [Document.text, hlines, mangled_append_cons, if_pos hlength,
        count_intercalate (by decide), count_intercalate (by decide)] at hcount
      simp only [List.map_append, List.map_cons, List.sum_append, List.sum_cons] at hcount
      omega
  · rintro ⟨hgrouped, honce⟩
    obtain ⟨hrun, -⟩ | ⟨before, line, behind, pt, hlines, hvideo, hline, htype, hrun⟩ :=
      descriptionForDescription_cases engine codec type document hgrouped
    · exact ⟨_, hrun, rfl, Or.inl rfl⟩
    · refine ⟨_, hrun, rfl, ?_⟩
      show OnlyReorders _ document (['\n'].intercalate _)
      rw [hlines, mangled_append_cons]
      split
      · -- Long enough, the line is made anew from its parts.
        rename_i hlength
        have hclean := clean_of_chosenType engine codec document htype
        obtain ⟨line', htext, hreordered⟩ :=
          exists_reordered hclean hlength (honce _ pt hline htype hlength)
        refine Or.inr ⟨before, line, line', behind, pt, hlines, ?_, hvideo, htype, hreordered⟩
        rw [List.map_append, List.map_cons, htext]
      · -- Too short, it stays as it is.
        exact Or.inl (by rw [Document.text, hlines])

end Conclusion

/-! ### Two descriptions -/

/-- `(/\d+)+[\r]?$` behind the name of the codec. -/
def clockRates (s : CString) : Bool :=
  match (if s.getLast? = some '\r' then s.dropLast else s).splitOn '/' with
  | [] :: rate :: rates =>
    (rate :: rates).all fun digits => !digits.isEmpty && digits.all Char.isDigit
  | _ => false

/-- The pattern of `H264` in a line. -/
def h264Match (line : CString) : Option CString :=
  let pt := (line.drop 9).takeWhile Char.isDigit
  let behind := (line.drop 9).dropWhile Char.isDigit
  if "a=rtpmap:".toList.isPrefixOf line && !pt.isEmpty && " H264".toList.isPrefixOf behind &&
    clockRates (behind.drop 5) then some pt
  else none

/-- A type is a number. -/
theorem isDigit_of_h264Match {line pt : CString} (h : h264Match line = some pt) :
    ∀ c ∈ pt, c.isDigit = true := by
  rw [h264Match] at h
  split at h
  · cases h
    intro c hc
    exact List.mem_takeWhile_imp hc
  · cases h

/-- The expressions of `H264`. -/
def h264Expressions : RegularExpressions where
  firstMatchInString pattern line :=
    if pattern = rtpMapPattern "H264".toList then (h264Match line).map some else none
  digits {codec line pt} h := by
    split at h
    · obtain ⟨pt', hmatch, heq⟩ := Option.map_eq_some_iff.mp h
      cases heq
      have hdigit := isDigit_of_h264Match hmatch
      refine ⟨fun h => ?_, fun h => ?_, fun h => ?_⟩
      all_goals exact absurd (hdigit _ h) (by decide)
    · cases h

/-- A video section whose list ends with the type of `H264`. -/
def lastTypeDocument (crlf : Bool) : Document where
  lines := [⟨"m=video 9 RTP/SAVPF 96 97".toList, crlf, by decide, by decide⟩,
    ⟨"a=rtpmap:97 H264/90000".toList, crlf, by decide, by decide⟩,
    ⟨[], false, by decide, by decide⟩]
  ne := by simp

/-- With line feeds alone the type is moved. -/
theorem onlyReorders_iff_lf : ∃ description,
    descriptionForDescription h264Expressions ⟨.offer, (lastTypeDocument false).text⟩
      "H264".toList = some description ∧ description.type = .offer ∧
      OnlyReorders (h264Expressions.firstMatchInString (rtpMapPattern "H264".toList))
        (lastTypeDocument false) description.sdp :=
  (onlyReorders_iff h264Expressions "H264".toList .offer (lastTypeDocument false)).mpr
    { grouped := by decide
      once := by
        intro line pt hline htype _
        have hline' : some "m=video 9 RTP/SAVPF 96 97".toList = some line :=
          .trans (by decide) hline
        have htype' : some "97".toList = some pt := .trans (by decide) htype
        cases hline'
        cases htype'
        decide }

/-- With carriage returns it is there twice. -/
theorem lastTypeDocument_crlf : ¬ ∃ description,
    descriptionForDescription h264Expressions ⟨.offer, (lastTypeDocument true).text⟩
      "H264".toList = some description ∧ description.type = .offer ∧
      OnlyReorders (h264Expressions.firstMatchInString (rtpMapPattern "H264".toList))
        (lastTypeDocument true) description.sdp := by
  have hrun : descriptionForDescription h264Expressions ⟨.offer, (lastTypeDocument true).text⟩
      "H264".toList = some ⟨.offer,
        "m=video 9 RTP/SAVPF 97 96 97\r\na=rtpmap:97 H264/90000\r\n".toList⟩ := by
    decide
  rintro ⟨description, hdescription, -, honly⟩
  obtain rfl := Option.some.inj (hrun.symm.trans hdescription)
  exact absurd honly.count_space (by decide)

end RestCommSdk.Proofs
