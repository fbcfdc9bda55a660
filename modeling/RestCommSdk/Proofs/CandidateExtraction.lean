import RestCommSdk.Media.SdpCandidates
import Mathlib.Data.List.Perm.Basic

/-!
# `RestCommSdk.Proofs.CandidateExtraction`: where the candidates of a remote SDP end up

A document is a list of lines, each with its section. Both searches go through it line by line:
the first one finds what `hits` says (`all_sdpText`), the second one leaves what `kept` says
(`remove_sdpText`), and they agree on the candidate lines they see.

The state of the filter never becomes `video`, as the branch of a video section sets it to
`audio`. So nothing is returned for video (`video_eq_nil`), and `losesNothing_iff` comes down to
where the candidate lines of a document stand.
-/

set_option autoImplicit false

namespace RestCommSdk.Proofs

open RestCommSdk.Lib
open RestCommSdk.CliInterface (CString)
open RestCommSdk.Media

/-! ### Documents -/

/-- A line of an SDP. What the filter looks for occurs at its start only. -/
structure SdpLine where
  text : CString
  cr : '\r' ∉ text
  lf : '\n' ∉ text
  media : ¬ "m=".toList <:+: text.tail
  candidate : ¬ "a=candidate".toList <:+: text.tail

namespace SdpLine
variable (line : SdpLine)

/-- A candidate line. -/
def IsCandidate : Prop := "a=candidate".toList <+: line.text

instance : Decidable line.IsCandidate :=
  inferInstanceAs (Decidable ("a=candidate".toList <+: line.text))

/-- The media of the section that the line begins. -/
def media? : Option CString :=
  if "m=".toList <+: line.text then some ((line.text.drop 2).takeWhile (· ≠ ' ')) else none

/-- A `.` of a regular expression matches every character of the line. -/
def Plain : Prop := ∀ c ∈ line.text, isLineTerminator c = false

instance : Decidable line.Plain :=
  inferInstanceAs (Decidable (∀ c ∈ line.text, isLineTerminator c = false))

end SdpLine

/-- A document with CRLF line ends. -/
def sdpText (lines : List SdpLine) : CString := lines.flatMap fun line => line.text ++ "\r\n".toList

/-- The candidates of a document, each with the media of its section, behind a beginning in the
section `current`. -/
def sectioned (current : Option CString) : List SdpLine → List (Option CString × CString)
  | [] => []
  | line :: lines =>
    if line.IsCandidate then (current, line.text.drop 2) :: sectioned current lines
    else sectioned (line.media?.or current) lines

/-- The candidates of the sections of one kind. -/
def candidatesOf (media : Mid) (lines : List SdpLine) : List CString :=
  ((sectioned none lines).filter (·.1 = some media.text)).map (·.2)

/-- The filter leaves the other lines, and returns the candidates of the sections of each kind,
so that every removed candidate is added once with the mid of its own section. -/
structure LosesNothing (lines : List SdpLine) : Prop where
  left : (incomingFilterCandidatesFromSdp (sdpText lines)).1 =
    sdpText (lines.filter (¬ ·.IsCandidate))
  audio : (incomingFilterCandidatesFromSdp (sdpText lines)).2.audio = candidatesOf .audio lines
  video : (incomingFilterCandidatesFromSdp (sdpText lines)).2.video = candidatesOf .video lines
  added : ∀ keys : List Mid, keys.Perm [.audio, .video] →
    ((addedCandidates keys (incomingFilterCandidatesFromSdp (sdpText lines)).2).map fun c =>
      (some c.sdpMid, c.sdp)).Perm (sectioned none lines)

/-! ### One line -/

/-- A word at the front of a text with a character that it does not have is in front of this. -/
theorem prefix_of_prefix_append_cons {α : Type} {w v rest : List α} {d : α} (hd : d ∉ w)
    (h : w <+: v ++ d :: rest) : w <+: v := by
  induction w generalizing v with
  | nil => exact List.nil_prefix
  | cons c w ih =>
    cases v with
    | nil =>
      rw [List.nil_append, List.cons_prefix_cons] at h
      exact absurd (h.1 ▸ List.mem_cons_self) hd
    | cons e v =>
      rw [List.cons_append, List.cons_prefix_cons] at h
      exact List.cons_prefix_cons.mpr
        ⟨h.1, ih (fun hmem => hd (List.mem_cons_of_mem c hmem)) h.2⟩

section Front
variable {s : CString}

/-- No candidate begins here. -/
theorem candidateFront_eq_none (h : ¬ "a=candidate".toList <+: s) : candidateFront s = none := by
  unfold candidateFront
  rw [if_neg (mt List.isPrefixOf_iff_prefix.mp h)]

/-- Neither a section nor a candidate begins here. -/
theorem sectionFront_eq_none (hmedia : ¬ "m=".toList <+: s)
    (hcandidate : ¬ "a=candidate".toList <+: s) : sectionFront s = none := by
  have haudio : ¬ "m=audio".toList <+: s := fun h =>
    hmedia (List.IsPrefix.trans (by decide) h)
  have hvideo : ¬ "m=video".toList <+: s := fun h =>
    hmedia (List.IsPrefix.trans (by decide) h)
  unfold sectionFront
  rw [if_neg (mt List.isPrefixOf_iff_prefix.mp haudio),
    if_neg (mt List.isPrefixOf_iff_prefix.mp hvideo), candidateFront_eq_none hcandidate]
  rfl

end Front

section Line
variable (line : SdpLine) (rest : CString)

/-- A word without line ends that is not in front of a line is not in front of its text. -/
theorem not_prefix_line {w : CString} (h : ¬ w <+: line.text) (hcr : '\r' ∉ w) :
    ¬ w <+: line.text ++ "\r\n".toList ++ rest := by
  intro hprefix
  have hcrlf : line.text ++ "\r\n".toList ++ rest = line.text ++ '\r' :: '\n' :: rest := by simp
  rw [hcrlf] at hprefix
  exact h (prefix_of_prefix_append_cons hcr hprefix)

/-- Nothing is found behind the first character of a line. -/
theorem not_prefix_of_suffix_tail {v : CString} (hv : v <:+ line.text.tail) :
    ¬ "m=".toList <+: v ++ "\r\n".toList ++ rest ∧
      ¬ "a=candidate".toList <+: v ++ "\r\n".toList ++ rest := by
  have hcrlf : v ++ "\r\n".toList ++ rest = v ++ '\r' :: ('\n' :: rest) := by simp
  rw [hcrlf]
  constructor
  · intro h
    exact line.media ((prefix_of_prefix_append_cons (by decide) h).isInfix.trans hv.isInfix)
  · intro h
    exact line.candidate ((prefix_of_prefix_append_cons (by decide) h).isInfix.trans hv.isInfix)

/-- Nothing matches behind the first character of a line. -/
theorem silent_tail {v : CString} (hv : v <:+ line.text.tail) :
    pattern.Silent v ("\r\n".toList ++ rest) ∧ removePattern.Silent v ("\r\n".toList ++ rest) := by
  constructor
  · intro u hu huv
    obtain ⟨hmedia, hcandidate⟩ := not_prefix_of_suffix_tail line rest (huv.trans hv)
    rw [List.append_assoc] at hmedia hcandidate
    exact sectionFront_eq_none hmedia hcandidate
  · intro u hu huv
    obtain ⟨-, hcandidate⟩ := not_prefix_of_suffix_tail line rest (huv.trans hv)
    rw [List.append_assoc] at hcandidate
    exact candidateFront_eq_none hcandidate

/-- Nothing matches at the end of a line. -/
theorem silent_crlf : pattern.Silent "\r\n".toList rest ∧
    removePattern.Silent "\r\n".toList rest := by
  -- No match begins in the line end, since no pattern begins with CR or LF.
  have hfront : ∀ v, v ≠ [] → v <:+ "\r\n".toList → ∀ w : CString, w ≠ [] →
      '\r' ∉ w → '\n' ∉ w → ¬ w <+: v ++ rest := by
    intro v hv hsuffix w hw hcr hlf hprefix
    obtain ⟨c, v, rfl⟩ := List.exists_cons_of_ne_nil hv
    obtain ⟨d, w, rfl⟩ := List.exists_cons_of_ne_nil hw
    have hc : c ∈ "\r\n".toList := hsuffix.subset List.mem_cons_self
    rw [List.cons_append, List.cons_prefix_cons] at hprefix
    obtain ⟨rfl, -⟩ := hprefix
    obtain rfl | rfl : d = '\r' ∨ d = '\n' := by simpa using hc
    · exact hcr List.mem_cons_self
    · exact hlf List.mem_cons_self
  constructor
  · -- The extracting expression begins with a section or a candidate.
    intro v hv hsuffix
    exact sectionFront_eq_none (hfront v hv hsuffix _ (by decide) (by decide) (by decide))
      (hfront v hv hsuffix _ (by decide) (by decide) (by decide))
  · intro v hv hsuffix
    -- The removing one begins with a candidate.
    exact candidateFront_eq_none (hfront v hv hsuffix _ (by decide) (by decide) (by decide))

/-- What the first search finds in a line. -/
def hits : List SdpMatch :=
  if "m=audio".toList <+: line.text then [.audio]
  else if "m=video".toList <+: line.text then [.video]
  else if line.IsCandidate ∧ line.Plain then [.candidate (line.text.drop 2)]
  else []

/-- What the second search leaves of a line. -/
def kept : CString :=
  if line.IsCandidate ∧ line.Plain then [] else line.text ++ "\r\n".toList

/-- What is left of a line, with its end. -/
theorem drop_append_crlf {k : Nat} (hk : k ≤ line.text.length) :
    (line.text ++ "\r\n".toList ++ rest).drop k = line.text.drop k ++ '\r' :: '\n' :: rest := by
  have hcrlf : line.text ++ "\r\n".toList ++ rest = line.text ++ '\r' :: '\n' :: rest := by simp
  rw [hcrlf, List.drop_append_of_le_length hk]

/-- A candidate line is matched as a whole, when the expression gets over it. -/
theorem candidateFront_of_isCandidate (hcandidate : line.IsCandidate) :
    candidateFront (line.text ++ "\r\n".toList ++ rest) =
      if line.Plain then some (line.text.drop 2, (line.text ++ "\r\n".toList).length)
      else none := by
  obtain ⟨y, hy⟩ := hcandidate
  have htext : line.text = 'a' :: '=' :: line.text.drop 2 := by
    rw [← hy]
    simp
  have hlength : 2 ≤ line.text.length := by
    rw [htext]
    simp
  have hfront : "a=candidate".toList.isPrefixOf (line.text ++ "\r\n".toList ++ rest) = true := by
    rw [List.isPrefixOf_iff_prefix, ← hy, List.append_assoc, List.append_assoc]
    exact List.prefix_append _ _
  unfold candidateFront
  rw [if_pos hfront, drop_append_crlf line rest hlength]
  have hsplit :=
    List.takeWhile_append_dropWhile (p := (!isLineTerminator ·)) (l := line.text.drop 2)
  -- The expression stops in the line, or at its end.
  cases hdrop : (line.text.drop 2).dropWhile (!isLineTerminator ·) with
  | nil =>
    rw [hdrop, List.append_nil] at hsplit
    have hpass : ∀ c ∈ line.text.drop 2, (!isLineTerminator c) = true := by
      rw [List.dropWhile_eq_nil_iff] at hdrop
      exact hdrop
    have hplain : line.Plain := by
      intro c hc
      rw [htext, List.mem_cons, List.mem_cons] at hc
      obtain rfl | rfl | hc := hc
      · rfl
      · rfl
      · simpa using hpass c hc
    have hcapture : (line.text.drop 2 ++ '\r' :: '\n' :: rest).takeWhile (!isLineTerminator ·) =
        line.text.drop 2 := by
      rw [List.takeWhile_append_of_pos hpass, List.takeWhile_cons_of_neg (by decide),
        List.append_nil]
    have hwhole : 2 + (line.text.drop 2).length = line.text.length := by
      rw [List.length_drop]
      omega
    dsimp only
    rw [hcapture, hwhole, drop_append_crlf line rest (Nat.le_refl _), List.drop_length,
      if_pos (by simp), if_pos hplain, List.length_append]
    rfl
  | cons d x =>
    have hterminator : isLineTerminator d = true := by
      have hhead := List.head?_dropWhile_not (!isLineTerminator ·) (line.text.drop 2)
      rw [hdrop] at hhead
      simpa using hhead
    have hmem : d ∈ line.text := List.mem_of_mem_drop (i := 2) (by
      rw [← hsplit, hdrop]
      exact List.mem_append_right _ List.mem_cons_self)
    have hplain : ¬ line.Plain := fun h => by simp [h d hmem] at hterminator
    have hcr : ¬ "\r\n".toList.isPrefixOf (d :: (x ++ '\r' :: '\n' :: rest)) = true := by
      intro h
      have heq : d = '\r' := by
        rw [List.isPrefixOf_iff_prefix] at h
        simpa using (List.cons_prefix_cons.mp (by simpa using h)).1.symm
      exact line.cr (heq ▸ hmem)
    have hpass : ∀ c ∈ (line.text.drop 2).takeWhile (!isLineTerminator ·),
        (!isLineTerminator c) = true := fun c hc =>
      List.mem_takeWhile_imp (p := (!isLineTerminator ·)) hc
    generalize (line.text.drop 2).takeWhile (!isLineTerminator ·) = t at hsplit hpass
    have hcapture : (line.text.drop 2 ++ '\r' :: '\n' :: rest).takeWhile (!isLineTerminator ·) =
        t := by
      rw [← hsplit, hdrop, List.append_assoc, List.takeWhile_append_of_pos hpass, List.cons_append,
        List.takeWhile_cons_of_neg (by simp [hterminator]), List.append_nil]
    have hbehind : (line.text ++ "\r\n".toList ++ rest).drop (2 + t.length) =
        d :: (x ++ '\r' :: '\n' :: rest) := by
      rw [← List.drop_drop, drop_append_crlf line rest hlength, ← hsplit, hdrop, List.append_assoc,
        List.drop_left, List.cons_append]
    dsimp only
    rw [hcapture, hbehind, if_neg hcr, if_neg hplain]

/-- Only a plain candidate line matches. -/
theorem candidateFront_eq_none_of_line (h : ¬ (line.IsCandidate ∧ line.Plain)) :
    candidateFront (line.text ++ "\r\n".toList ++ rest) = none := by
  by_cases hcandidate : line.IsCandidate
  · rw [candidateFront_of_isCandidate line rest hcandidate,
      if_neg fun hplain => h ⟨hcandidate, hplain⟩]
  · exact candidateFront_eq_none (not_prefix_line line rest hcandidate (by decide))

/-- Nothing is found in a line at whose front nothing is found. -/
theorem silent_line {β : Type} (p : Pattern Char β)
    (hfront : p.front (line.text ++ "\r\n".toList ++ rest) = none)
    (htail : p.Silent line.text.tail ("\r\n".toList ++ rest))
    (hcrlf : p.Silent "\r\n".toList rest) :
    p.Silent (line.text ++ "\r\n".toList) rest := by
  have htext := Pattern.Silent.append p htail hcrlf
  cases hcase : line.text with
  | nil =>
    rw [hcase] at htext
    exact htext
  | cons c x =>
    rw [hcase] at hfront htext
    exact Pattern.Silent.cons p hfront htext

/-- The first search goes over a line that begins a section. -/
theorem all_section {word : CString} {found : SdpMatch} (hne : word ≠ [])
    (hfront : ∀ s, pattern.front (word ++ s) = some (found, word.length))
    (hword : word <+: line.text) :
    pattern.all (line.text ++ "\r\n".toList ++ rest) = found :: pattern.all rest := by
  obtain ⟨y, hy⟩ := hword
  have hsuffix : y <:+ line.text.tail := by
    obtain ⟨c, word, rfl⟩ := List.exists_cons_of_ne_nil hne
    rw [← hy, List.cons_append, List.tail_cons]
    exact List.suffix_append word y
  have hsilent :=
    Pattern.Silent.append pattern (silent_tail line rest hsuffix).1 (silent_crlf rest).1
  rw [← hy, List.append_assoc, List.append_assoc, pattern.all_append_of_front _ (hfront _),
    ← List.append_assoc, pattern.all_silent_append hsilent]

/-- The first search goes over a line. -/
theorem all_line :
    pattern.all (line.text ++ "\r\n".toList ++ rest) = hits line ++ pattern.all rest := by
  by_cases haudio : "m=audio".toList <+: line.text
  · rw [hits, if_pos haudio]
    exact all_section line rest (by decide) (fun s => rfl) haudio
  by_cases hvideo : "m=video".toList <+: line.text
  · rw [hits, if_neg haudio, if_pos hvideo]
    exact all_section line rest (by decide) (fun s => rfl) hvideo
  rw [hits, if_neg haudio, if_neg hvideo]
  -- Neither section begins here, so the front is a candidate or nothing.
  have hfront : pattern.front (line.text ++ "\r\n".toList ++ rest) =
      (candidateFront (line.text ++ "\r\n".toList ++ rest)).map
        fun found => (.candidate found.1, found.2) := by
    show sectionFront _ = _
    unfold sectionFront
    rw [if_neg, if_neg]
    · rw [List.isPrefixOf_iff_prefix]
      exact not_prefix_line line rest hvideo (by decide)
    · rw [List.isPrefixOf_iff_prefix]
      exact not_prefix_line line rest haudio (by decide)
  by_cases hmatch : line.IsCandidate ∧ line.Plain
  · rw [candidateFront_of_isCandidate line rest hmatch.1, if_pos hmatch.2] at hfront
    rw [pattern.all_append_of_front rest hfront, if_pos hmatch]
    rfl
  · -- The line has no match, and the walk goes on behind it.
    rw [candidateFront_eq_none_of_line line rest hmatch] at hfront
    have hsilent := silent_line line rest pattern hfront
      (silent_tail line rest List.suffix_rfl).1 (silent_crlf rest).1
    rw [pattern.all_silent_append hsilent, if_neg hmatch, List.nil_append]

/-- The second search goes over a line. -/
theorem remove_line :
    removePattern.remove (line.text ++ "\r\n".toList ++ rest) =
      kept line ++ removePattern.remove rest := by
  by_cases hmatch : line.IsCandidate ∧ line.Plain
  · have hfront := candidateFront_of_isCandidate line rest hmatch.1
    rw [if_pos hmatch.2] at hfront
    rw [removePattern.remove_append_of_front rest hfront, kept, if_pos hmatch, List.nil_append]
  · have hfront := candidateFront_eq_none_of_line line rest hmatch
    have hsilent := silent_line line rest removePattern hfront
      (silent_tail line rest List.suffix_rfl).2 (silent_crlf rest).2
    rw [removePattern.remove_silent_append hsilent, kept, if_neg hmatch]

end Line

/-! ### The whole document -/

/-- The matches of an SDP are those of its lines. -/
theorem all_sdpText (lines : List SdpLine) : pattern.all (sdpText lines) = lines.flatMap hits := by
  induction lines with
  | nil => rfl
  | cons line lines ih =>
    show pattern.all (line.text ++ "\r\n".toList ++ sdpText lines) = _
    rw [all_line, ih, List.flatMap_cons]

/-- What is left of an SDP is what is left of its lines. -/
theorem remove_sdpText (lines : List SdpLine) :
    removePattern.remove (sdpText lines) = lines.flatMap kept := by
  induction lines with
  | nil => rfl
  | cons line lines ih =>
    show removePattern.remove (line.text ++ "\r\n".toList ++ sdpText lines) = _
    rw [remove_line, ih, List.flatMap_cons]

/-- The function over the lines of an SDP. -/
theorem incomingFilterCandidatesFromSdp_sdpText (lines : List SdpLine) :
    incomingFilterCandidatesFromSdp (sdpText lines) =
      (lines.flatMap kept, ((lines.flatMap hits).foldl collect (.none, {})).2) := by
  rw [incomingFilterCandidatesFromSdp, all_sdpText, remove_sdpText]

/-! ### What is left -/

/-- Nothing is left of a plain candidate line. -/
theorem kept_of_isCandidate {line : SdpLine} (h : line.IsCandidate) (hplain : line.Plain) :
    kept line = [] := by
  rw [kept, if_pos ⟨h, hplain⟩]

/-- Any other line stays. -/
theorem kept_of_not {line : SdpLine} (h : ¬ (line.IsCandidate ∧ line.Plain)) :
    kept line = line.text ++ "\r\n".toList := by
  rw [kept, if_neg h]

/-- The lines of the document without its candidates. -/
def withoutCandidates (lines : List SdpLine) : CString :=
  sdpText (lines.filter (¬ ·.IsCandidate))

section Left
variable {line : SdpLine} {lines : List SdpLine}

/-- A candidate line goes. -/
theorem withoutCandidates_cons_of_pos (h : line.IsCandidate) :
    withoutCandidates (line :: lines) = withoutCandidates lines := by
  rw [withoutCandidates, List.filter_cons_of_neg (by simpa using h)]
  rfl

/-- Another line stays. -/
theorem withoutCandidates_cons_of_neg (h : ¬ line.IsCandidate) :
    withoutCandidates (line :: lines) =
      line.text ++ "\r\n".toList ++ withoutCandidates lines := by
  rw [withoutCandidates, List.filter_cons_of_pos (by simpa using h)]
  rfl

end Left

/-- If all candidates are plain, exactly the other lines are left. -/
theorem flatMap_kept {lines : List SdpLine} (h : ∀ line ∈ lines, line.IsCandidate → line.Plain) :
    lines.flatMap kept = withoutCandidates lines := by
  induction lines with
  | nil => rfl
  | cons line lines ih =>
    have hrest := ih fun l hl => h l (List.mem_cons_of_mem line hl)
    rw [List.flatMap_cons, hrest]
    by_cases hcandidate : line.IsCandidate
    · rw [withoutCandidates_cons_of_pos hcandidate,
        kept_of_isCandidate hcandidate (h line List.mem_cons_self hcandidate), List.nil_append]
    · rw [withoutCandidates_cons_of_neg hcandidate, kept_of_not fun hmatch => hcandidate hmatch.1]

/-- No more is taken out than the candidates. -/
theorem length_withoutCandidates_le (lines : List SdpLine) :
    (withoutCandidates lines).length ≤ (lines.flatMap kept).length := by
  induction lines with
  | nil => exact Nat.le_refl _
  | cons line lines ih =>
    rw [List.flatMap_cons, List.length_append]
    by_cases hcandidate : line.IsCandidate
    · rw [withoutCandidates_cons_of_pos hcandidate]
      exact Nat.le_add_left_of_le ih
    · rw [withoutCandidates_cons_of_neg hcandidate, List.length_append,
        kept_of_not fun hmatch => hcandidate hmatch.1]
      exact Nat.add_le_add_left ih _

/-- A candidate line that the expression does not get over is left. -/
theorem plain_of_length_le {lines : List SdpLine}
    (h : (lines.flatMap kept).length ≤ (withoutCandidates lines).length) :
    ∀ line ∈ lines, line.IsCandidate → line.Plain := by
  induction lines with
  | nil => simp
  | cons line lines ih =>
    rw [List.flatMap_cons, List.length_append] at h
    have hle := length_withoutCandidates_le lines
    by_cases hcandidate : line.IsCandidate
    · rw [withoutCandidates_cons_of_pos hcandidate] at h
      -- A candidate that is kept makes the text longer than it should be.
      have hplain : line.Plain := by
        by_contra hplain
        rw [kept_of_not fun hmatch => hplain hmatch.2, List.length_append] at h
        have htwo : "\r\n".toList.length = 2 := rfl
        omega
      intro l hl
      obtain rfl | hl := List.mem_cons.mp hl
      · exact fun _ => hplain
      · exact ih (by omega) l hl
    · -- The line is kept on both sides.
      rw [withoutCandidates_cons_of_neg hcandidate, List.length_append,
        kept_of_not fun hmatch => hcandidate hmatch.1] at h
      intro l hl
      obtain rfl | hl := List.mem_cons.mp hl
      · exact fun habs => absurd habs hcandidate
      · exact ih (by omega) l hl

/-! ### What is returned -/

/-- One match: the filter is not in the video state, and returns nothing for it. -/
theorem collect_video {s : CollectionState × Candidates} (hs : s.1 ≠ .video) (m : SdpMatch) :
    (collect s m).1 ≠ .video ∧ (collect s m).2.video = s.2.video := by
  obtain ⟨state, candidates⟩ := s
  cases m <;> cases state <;> simp_all [collect]

/-- Without the state for video no candidate of video is collected. -/
theorem foldl_collect_video {s : CollectionState × Candidates} (hs : s.1 ≠ .video)
    (ms : List SdpMatch) : (ms.foldl collect s).2.video = s.2.video := by
  induction ms generalizing s with
  | nil => rfl
  | cons m ms ih =>
    obtain ⟨hstate, hvideo⟩ := collect_video hs m
    rw [List.foldl_cons, ih hstate, hvideo]

/-- Nothing is returned for video, for any SDP. -/
theorem video_eq_nil (sdp : CString) : (incomingFilterCandidatesFromSdp sdp).2.video = [] :=
  foldl_collect_video (by simp) _

section Hits
variable {line : SdpLine}

/-- The match of a plain candidate line is the line behind its `a=`. -/
theorem hits_of_isCandidate (hcandidate : line.IsCandidate) (hplain : line.Plain) :
    hits line = [.candidate (line.text.drop 2)] := by
  obtain ⟨y, hy⟩ := hcandidate
  have haudio : ¬ "m=audio".toList <+: line.text := by
    rw [← hy]
    simp
  have hvideo : ¬ "m=video".toList <+: line.text := by
    rw [← hy]
    simp
  rw [hits, if_neg haudio, if_neg hvideo, if_pos ⟨⟨y, hy⟩, hplain⟩]

/-- A line that begins a section names its media. -/
theorem media?_ne_none (h : "m=".toList <+: line.text) : line.media? ≠ none := by
  rw [SdpLine.media?, if_pos h]
  exact Option.some_ne_none _

/-- A section of audio begins with `m=audio`. -/
theorem audio_of_media? (h : line.media? = some "audio".toList) :
    "m=audio".toList <+: line.text := by
  rw [SdpLine.media?] at h
  split at h
  · rename_i hmedia
    obtain ⟨y, hy⟩ := hmedia
    have hprefix : "audio".toList <+: line.text.drop 2 := by
      rw [← Option.some.inj h]
      exact List.takeWhile_prefix _
    obtain ⟨z, hz⟩ := hprefix
    refine ⟨z, ?_⟩
    rw [← hy] at hz ⊢
    simpa using hz
  · cases h

/-- The filter behind a line that is no candidate. -/
theorem foldl_hits (hcandidate : ¬ line.IsCandidate) (s : CollectionState × Candidates) :
    ((hits line).foldl collect s).2 = s.2 ∧
      (line.media? = some "audio".toList → ((hits line).foldl collect s).1 = .audio) ∧
      (line.media? = none → ((hits line).foldl collect s).1 = s.1) := by
  by_cases haudio : "m=audio".toList <+: line.text
  · rw [hits, if_pos haudio]
    exact ⟨rfl, fun _ => rfl, fun h => absurd h (media?_ne_none (.trans (by decide) haudio))⟩
  by_cases hvideo : "m=video".toList <+: line.text
  · rw [hits, if_neg haudio, if_pos hvideo]
    exact ⟨rfl, fun _ => rfl, fun h => absurd h (media?_ne_none (.trans (by decide) hvideo))⟩
  rw [hits, if_neg haudio, if_neg hvideo, if_neg fun hmatch => hcandidate hmatch.1]
  exact ⟨rfl, fun h => absurd (audio_of_media? h) haudio, fun _ => rfl⟩

end Hits

/-- A candidate belongs to the section that it stands in. -/
theorem sectioned_of_isCandidate {line : SdpLine} (h : line.IsCandidate) (current : Option CString)
    (lines : List SdpLine) : sectioned current (line :: lines) =
      (current, line.text.drop 2) :: sectioned current lines := by
  rw [sectioned, if_pos h]

/-- Another line may begin a section. -/
theorem sectioned_of_not {line : SdpLine} (h : ¬ line.IsCandidate) (current : Option CString)
    (lines : List SdpLine) :
    sectioned current (line :: lines) = sectioned (line.media?.or current) lines := by
  rw [sectioned, if_neg h]

/-- Where all candidates stand in audio sections, the filter is in the audio state at each of
them. -/
theorem foldl_collect_audio {lines : List SdpLine} {current : Option CString}
    {s : CollectionState × Candidates} (hs : current = some "audio".toList → s.1 = .audio)
    (hsections : ∀ p ∈ sectioned current lines, p.1 = some "audio".toList)
    (hplain : ∀ line ∈ lines, line.IsCandidate → line.Plain) :
    ((lines.flatMap hits).foldl collect s).2.audio =
      s.2.audio ++ (sectioned current lines).map (·.2) := by
  induction lines generalizing current s with
  | nil => simp [sectioned]
  | cons line lines ih =>
    have hrest : ∀ l ∈ lines, l.IsCandidate → l.Plain :=
      fun l hl => hplain l (List.mem_cons_of_mem line hl)
    rw [List.flatMap_cons, List.foldl_append]
    by_cases hcandidate : line.IsCandidate
    · rw [sectioned_of_isCandidate hcandidate] at hsections ⊢
      have hcurrent := hsections _ List.mem_cons_self
      -- A candidate in an audio section is collected under audio.
      have hstate : s.1 = .audio := hs hcurrent
      rw [hits_of_isCandidate hcandidate (hplain line List.mem_cons_self hcandidate)]
      have hstep : [SdpMatch.candidate (line.text.drop 2)].foldl collect s =
          (s.1, ⟨s.2.audio ++ [line.text.drop 2], s.2.video⟩) := by
        simp [collect, hstate]
      have hfound := ih (s := (s.1, ⟨s.2.audio ++ [line.text.drop 2], s.2.video⟩))
        (fun _ => hstate) (fun p hp => hsections p (List.mem_cons_of_mem _ hp)) hrest
      rw [hstep, hfound, List.map_cons, List.append_assoc, List.singleton_append]
    · rw [sectioned_of_not hcandidate] at hsections ⊢
      obtain ⟨hsame, hmedia, hnone⟩ := foldl_hits hcandidate s
      rw [ih ?_ hsections hrest, hsame]
      intro hcurrent
      -- A line without a section leaves the state, and one with a section sets it.
      cases hcase : line.media? with
      | none =>
        rw [hcase, Option.none_or] at hcurrent
        rw [hnone hcase]
        exact hs hcurrent
      | some media =>
        rw [hcase, Option.some_or] at hcurrent
        exact hmedia (hcase.trans hcurrent)

/-! ### The conclusion -/

/-- Nothing is lost exactly when all candidates stand in audio sections, on lines that the
expressions get over. -/
theorem losesNothing_iff (lines : List SdpLine) :
    LosesNothing lines ↔ (∀ p ∈ sectioned none lines, p.1 = some "audio".toList) ∧
      ∀ line ∈ lines, line.IsCandidate → line.Plain := by
  constructor
  · intro h
    constructor
    · -- Whatever is added has the mid of an audio section.
      have hadded := h.added [.audio, .video] (.refl _)
      have hvideo := video_eq_nil (sdpText lines)
      intro p hp
      obtain ⟨c, hc, rfl⟩ := List.mem_map.mp (hadded.mem_iff.mpr hp)
      simp only [addedCandidates, List.flatMap_cons, Candidates.objectForKey, hvideo, List.map_nil,
        List.flatMap_nil, List.append_nil] at hc
      obtain ⟨candidate, -, rfl⟩ := List.mem_map.mp hc
      rfl
    · have hleft := h.left
      rw [incomingFilterCandidatesFromSdp_sdpText] at hleft
      exact plain_of_length_le (Nat.le_of_eq (congrArg List.length hleft))
  · rintro ⟨hsections, hplain⟩
    have hfound := incomingFilterCandidatesFromSdp_sdpText lines
    have hvideo := video_eq_nil (sdpText lines)
    have haudio : (incomingFilterCandidatesFromSdp (sdpText lines)).2.audio =
        (sectioned none lines).map (·.2) := by
      rw [hfound]
      exact foldl_collect_audio (by simp) hsections hplain
    have hall : (sectioned none lines).filter (·.1 = some Mid.audio.text) = sectioned none lines :=
      List.filter_eq_self.mpr fun p hp => decide_eq_true (hsections p hp)
    have hnone : (sectioned none lines).filter (·.1 = some Mid.video.text) = [] :=
      List.filter_eq_nil_iff.mpr fun p hp => by
        rw [hsections p hp]
        decide
    refine ⟨?_, ?_, ?_, ?_⟩
    · rw [hfound]
      exact flatMap_kept hplain
    · rw [haudio, candidatesOf, hall]
    · rw [hvideo, candidatesOf, hnone, List.map_nil]
    · intro keys hkeys
      have hperm := (hkeys.flatMap_right fun key =>
        ((incomingFilterCandidatesFromSdp (sdpText lines)).2.objectForKey key).map
          fun candidate => ({ sdp := candidate, sdpMid := key.text } : RTCIceCandidate)).map
        fun c => (some c.sdpMid, c.sdp)
      refine hperm.trans (.of_eq ?_)
      simp only [List.flatMap_cons, Candidates.objectForKey, hvideo, haudio, List.map_nil,
        List.flatMap_nil, List.append_nil, List.map_map]
      refine (List.map_congr_left fun p hp => ?_).trans (List.map_id _)
      exact Prod.ext (hsections p hp).symm rfl

/-- A video section with a candidate. -/
def videoDocument : List SdpLine :=
  [⟨"m=video 9 RTP/SAVPF 96".toList, by decide, by decide, by decide, by decide⟩,
    ⟨"a=candidate:1 1 udp 1 10.0.0.1 9 typ host".toList, by decide, by decide, by decide,
      by decide⟩]

/-- The candidate of the video section is not returned for video. -/
theorem videoDocument_losesNothing : ¬ LosesNothing videoDocument := by
  intro h
  have hvideo := h.video
  rw [video_eq_nil] at hvideo
  exact absurd hvideo (by decide)

end RestCommSdk.Proofs
