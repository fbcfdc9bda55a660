import RestCommSdk.CliInterface.SofsipScan

/-!
# `RestCommSdk.Proofs.CommandScan`: what the scan in place yields

`scanCommand` strips a line and cuts it in two. The scan in place does so with pointers, and its
end mark lies as far behind the end of the line as there was white space before it. This does no
harm: a loop stops at the `nul` that ends the line at the latest (`scanInPlace_eq`).

The length is an `int`, so `scanInPlace_eq` is about the part of the line that the `int` counts;
a line of 2 GiB would count as negative (`scanInPlace_of_neg`). `scanInPlace_iff` is the condition
for any line, and `tokenised_of_length` is what follows for the lines that there are: the buffer of
`ssc_input_read_char`, from which all of them come, has 65535 bytes.
-/

set_option autoImplicit false

namespace RestCommSdk.Proofs

open RestCommSdk.Lib
open RestCommSdk.CliInterface

/-! ### White space -/

/-- The characters that are no white space. -/
def visible (s : CString) : CString := s.filter (!isWs ·)

/-- What is visible of two texts, one after the other. -/
theorem visible_append (s t : CString) : visible (s ++ t) = visible s ++ visible t :=
  List.filter_append s t

/-- Only blanks are not visible. -/
theorem visible_eq_nil_iff (s : CString) : visible s = [] ↔ ∀ c ∈ s, isWs c = true := by
  simp [visible, List.filter_eq_nil_iff]

/-- The blanks in front are not visible. -/
theorem visible_takeWhile (s : CString) : visible (s.takeWhile isWs) = [] := by
  rw [visible_eq_nil_iff]
  exact fun c hc => List.mem_takeWhile_imp hc

/-- Without them the same is visible. -/
theorem visible_dropWhile (s : CString) : visible (s.dropWhile isWs) = visible s := by
  have hsplit := visible_append (s.takeWhile isWs) (s.dropWhile isWs)
  rw [List.takeWhile_append_dropWhile, visible_takeWhile, List.nil_append] at hsplit
  exact hsplit.symm

/-- The visible characters, backwards. -/
theorem visible_reverse (s : CString) : visible s.reverse = (visible s).reverse :=
  List.filter_reverse ..

/-- Without the blanks at the end the same is visible. -/
theorem visible_rdropWhile (s : CString) : visible (s.rdropWhile isWs) = visible s := by
  rw [List.rdropWhile, visible_reverse, visible_dropWhile, visible_reverse, List.reverse_reverse]

/-- White space at the end of a line does not matter. -/
theorem rdropWhile_append_of_all {t v : CString} (hv : ∀ c ∈ v, isWs c = true) :
    (t ++ v).rdropWhile isWs = t.rdropWhile isWs := by
  have hrev : ∀ c ∈ v.reverse, isWs c = true := fun c hc => hv c (List.mem_reverse.mp hc)
  rw [List.rdropWhile, List.reverse_append, List.dropWhile_append_of_pos hrev]
  rfl

/-! ### The parts of a line -/

section Parts
variable (u : CString)

/-- The white space at the front. -/
def leadOf : CString := u.takeWhile isWs

/-- The line from the word on. -/
def bodyOf : CString := u.dropWhile isWs

/-- The word. -/
def wordOf : CString := (bodyOf u).takeWhile (!isWs ·)

/-- The line behind the word. -/
def behindOf : CString := (bodyOf u).dropWhile (!isWs ·)

/-- The white space between the word and the rest. -/
def gapOf : CString := (behindOf u).takeWhile isWs

/-- The rest, which the command is given. -/
def tailOf : CString := (behindOf u).dropWhile isWs

/-- A text is its blanks in front and the rest. -/
theorem lead_append_body : leadOf u ++ bodyOf u = u := List.takeWhile_append_dropWhile

/-- The rest begins with the command. -/
theorem word_append_behind : wordOf u ++ behindOf u = bodyOf u := List.takeWhile_append_dropWhile

/-- Behind the command come blanks and what the command is given. -/
theorem gap_append_tail : gapOf u ++ tailOf u = behindOf u := List.takeWhile_append_dropWhile

/-- The four parts of a line. -/
theorem parts_append : leadOf u ++ (wordOf u ++ (gapOf u ++ tailOf u)) = u := by
  rw [gap_append_tail, word_append_behind, lead_append_body]

/-- The lengths of the four parts. -/
theorem length_parts :
    u.length = (leadOf u).length + (wordOf u).length + (gapOf u).length + (tailOf u).length := by
  have hlength := congrArg List.length (parts_append u)
  simp only [List.length_append] at hlength
  omega

variable {u}

/-- The rest is part of the text. -/
theorem mem_body {c : Char} (h : c ∈ bodyOf u) : c ∈ u := (List.dropWhile_sublist _).subset h

/-- The command is part of the text. -/
theorem mem_word {c : Char} (h : c ∈ wordOf u) : c ∈ u :=
  mem_body ((List.takeWhile_sublist _).subset h)

/-- What is behind the command is part of the text. -/
theorem mem_behind {c : Char} (h : c ∈ behindOf u) : c ∈ u :=
  mem_body ((List.dropWhile_sublist _).subset h)

/-- What the command is given is part of the text. -/
theorem mem_tail {c : Char} (h : c ∈ tailOf u) : c ∈ u :=
  mem_behind ((List.dropWhile_sublist _).subset h)

/-- The gap has blanks only. -/
theorem isWs_of_mem_gap {c : Char} (h : c ∈ gapOf u) : isWs c = true := List.mem_takeWhile_imp h

/-- What is behind the word starts with white space. -/
theorem behind_eq_nil_of_gap (s : CString)
    (h : (s.dropWhile (!isWs ·)).takeWhile isWs = []) : s.dropWhile (!isWs ·) = [] := by
  induction s with
  | nil => rfl
  | cons c s ih =>
    by_cases hc : isWs c = true
    · rw [List.dropWhile_cons_of_neg (by simp [hc]), List.takeWhile_cons_of_pos hc] at h
      cases h
    · rw [List.dropWhile_cons_of_pos (by simp [hc])] at h ⊢
      exact ih h

/-- Without a gap nothing is given to the command. -/
theorem tail_eq_nil_of_gap (h : gapOf u = []) : tailOf u = [] := by
  unfold tailOf
  rw [show behindOf u = [] from behind_eq_nil_of_gap (bodyOf u) h]
  rfl

end Parts

/-! ### The texts -/

/-- The texts are the word and the rest of the line without its trailing white space. -/
theorem scanCommand_eq (line : CString) : scanCommand line =
    (wordOf (line.rdropWhile isWs),
      if tailOf (line.rdropWhile isWs) = [] then none else some (tailOf (line.rdropWhile isWs))) :=
  rfl

/-- The word and the rest hold every visible character of the line. -/
theorem visible_scanCommand (line : CString) :
    visible ((scanCommand line).1 ++ (scanCommand line).2.getD []) = visible line := by
  have hrest : (scanCommand line).2.getD [] = tailOf (line.rdropWhile isWs) := by
    rw [scanCommand_eq]
    dsimp only
    split
    · exact (‹tailOf _ = []›).symm
    · rfl
  have hparts := congrArg visible (parts_append (line.rdropWhile isWs))
  rw [visible_append, visible_append, visible_append, visible_rdropWhile, leadOf,
    visible_takeWhile, gapOf, visible_takeWhile, List.nil_append, List.nil_append] at hparts
  rw [visible_append, hrest, scanCommand_eq]
  exact hparts

/-- What is behind the counted part is lost, unless it is white space. -/
theorem scanCommand_append_iff (t v : CString) :
    scanCommand t = scanCommand (t ++ v) ↔ ∀ c ∈ v, isWs c = true := by
  constructor
  · intro h
    have hvisible := visible_scanCommand (t ++ v)
    rw [← h, visible_scanCommand, visible_append] at hvisible
    rw [← visible_eq_nil_iff]
    exact List.self_eq_append_right.mp hvisible
  · intro hv
    rw [scanCommand_eq, scanCommand_eq, rdropWhile_append_of_all hv]

/-! ### The loops -/

/-- The trailing white space of the characters that the length counts. -/
theorem trimEnd_append (t v : List Char) :
    trimEnd (t ++ v) t.length = some ((t.rdropWhile isWs).length : Int) := by
  induction t using List.reverseRecOn generalizing v with
  | nil =>
    rw [trimEnd]
    rfl
  | append_singleton t c ih =>
    have hcell : (t ++ [c] ++ v)[((t ++ [c]).length - 1 : Int).toNat]? = some c := by simp
    have hpos : (0 : Int) < (t ++ [c]).length := by simp
    rw [trimEnd, if_pos hpos, hcell]
    show (if isWs c = true then _ else _) = _
    by_cases hc : isWs c = true
    · have hlength : ((t ++ [c]).length - 1 : Int) = t.length := by simp
      rw [if_pos hc, List.rdropWhile_concat_pos isWs t c hc, hlength, List.append_assoc]
      exact ih ([c] ++ v)
    · rw [if_neg hc, List.rdropWhile_concat_neg isWs t c hc]

section Trimmed
variable {u : CString} (w : List Char)

/-- A NUL is no blank. -/
theorem isWs_nul : isWs '\x00' = false := by decide

/-- In a text without a `nul`, the test for it is the end of the text. -/
theorem takeWhile_visible {s : CString} (hs : '\x00' ∉ s) :
    s.takeWhile (fun c => c ≠ '\x00' && !isWs c) = s.takeWhile (!isWs ·) := by
  induction s with
  | nil => rfl
  | cons c s ih =>
    have hc : c ≠ '\x00' := fun h => hs (h ▸ List.mem_cons_self)
    have hrest : '\x00' ∉ s := fun h => hs (List.mem_cons_of_mem c h)
    rw [List.takeWhile_cons, List.takeWhile_cons, ih hrest]
    simp [hc]

/-- The memory after the scan of `u`: the white space between the word and the rest is blank. -/
def scannedMem (u : CString) (w : List Char) : List Char :=
  leadOf u ++ wordOf u ++ (List.replicate (gapOf u).length '\x00' ++ (tailOf u ++ '\x00' :: w))

/-- Where the rest is. -/
def restAt (u : CString) : Nat := (leadOf u).length + (wordOf u).length + (gapOf u).length

/-- The memory behind the scan, with the gap as one piece. -/
theorem scannedMem_eq (u : CString) : scannedMem u w =
    leadOf u ++ wordOf u ++ List.replicate (gapOf u).length '\x00' ++ (tailOf u ++ '\x00' :: w) :=
  (List.append_assoc _ _ _).symm

/-- Where the rest of the line begins. -/
theorem length_restAt (u : CString) :
    (leadOf u ++ wordOf u ++ List.replicate (gapOf u).length '\x00').length = restAt u := by
  simp [restAt, Nat.add_assoc]

/-- What stands there. -/
theorem getElem?_restAt (u : CString) :
    (scannedMem u w)[restAt u]? = (tailOf u ++ '\x00' :: w).head? := by
  rw [scannedMem_eq, ← length_restAt, List.getElem?_append_right (Nat.le_refl _), Nat.sub_self,
    List.head?_eq_getElem?]

/-- The scan of a line without blanks at its end. -/
theorem scanTrimmed_eq (hu : '\x00' ∉ u) :
    scanTrimmed u.length (u ++ '\x00' :: w) = some
      { mem := scannedMem u w
        command := (leadOf u).length
        rest := if tailOf u = [] then none else some (restAt u) } := by
  have hleft := scanWhile_takeWhile [] u w isWs_nul
  rw [List.nil_append, List.length_nil, Nat.zero_add] at hleft
  have hbody : leadOf u ++ (bodyOf u ++ '\x00' :: w) = u ++ '\x00' :: w := by
    rw [← List.append_assoc, lead_append_body]
  have hright := scanWhile_takeWhile (p := fun c => c ≠ '\x00' && !isWs c) (c := '\x00')
    (leadOf u) (bodyOf u) w rfl
  rw [takeWhile_visible fun h => hu (mem_body h), hbody] at hright
  have hbehind : leadOf u ++ wordOf u ++ (behindOf u ++ '\x00' :: w) = u ++ '\x00' :: w := by
    rw [List.append_assoc, ← List.append_assoc (wordOf u), word_append_behind, hbody]
  have hlength := length_parts u
  have hstop : (leadOf u ++ wordOf u).length + (gapOf u).length ≤
      (leadOf u).length + u.length := by
    rw [List.length_append]
    omega
  have hblank := blankWhile_takeWhile '\x00' (leadOf u ++ wordOf u) (behindOf u) w isWs_nul hstop
  rw [hbehind, List.length_append] at hblank
  change scanWhile isWs (u ++ '\x00' :: w) 0 = some (leadOf u).length at hleft
  simp only [scanTrimmed, hleft, hright, Option.bind_eq_bind, Option.bind_some]
  rw [show blankWhile '\x00' isWs ((leadOf u).length + u.length) (u ++ '\x00' :: w)
    ((leadOf u).length + ((bodyOf u).takeWhile (!isWs ·)).length) =
      some (scannedMem u w, restAt u) from hblank]
  simp only [Option.bind_some]
  rw [getElem?_restAt]
  cases htail : tailOf u with
  | nil =>
    -- At the end of the line, the end mark may be here or behind.
    split
    · rfl
    · rfl
  | cons c rest =>
    have hc : c ≠ '\x00' := by
      rintro rfl
      exact hu (mem_tail (htail ▸ List.mem_cons_self))
    have hbefore : ¬ (leadOf u).length + u.length ≤ restAt u := by
      rw [htail, List.length_cons] at hlength
      unfold restAt
      omega
    rw [if_neg hbefore]
    simp [hc]

/-- The word ends at the blanks, or at the end of the line. -/
theorem cstr_word (hu : '\x00' ∉ u) :
    cstr '\x00' (scannedMem u w) (leadOf u).length = wordOf u := by
  obtain ⟨rest, hrest⟩ : ∃ rest,
      List.replicate (gapOf u).length '\x00' ++ (tailOf u ++ '\x00' :: w) = '\x00' :: rest := by
    cases hgap : gapOf u with
    | nil => exact ⟨w, by rw [tail_eq_nil_of_gap hgap]; rfl⟩
    | cons c gap => exact ⟨_, rfl⟩
  unfold scannedMem
  rw [hrest]
  exact cstr_append (leadOf u) rest fun h => hu (mem_word h)

/-- The string from there on is what the command is given. -/
theorem cstr_tail (hu : '\x00' ∉ u) : cstr '\x00' (scannedMem u w) (restAt u) = tailOf u := by
  have htext := cstr_append (leadOf u ++ wordOf u ++ List.replicate (gapOf u).length '\x00') w
    fun h => hu (mem_tail h)
  rw [scannedMem_eq, ← length_restAt, ← List.append_assoc]
  exact htext

/-- A cell keeps its character, or it held white space and is blank. -/
def Blanked (c d : Char) : Prop := d = c ∨ isWs c = true ∧ d = '\x00'

/-- Nothing was blanked. -/
theorem blanked_self (x : List Char) : List.Forall₂ Blanked x x :=
  List.forall₂_same.mpr fun _ _ => Or.inl rfl

/-- Blanks were overwritten with NULs. -/
theorem blanked_replicate {x : List Char} (hx : ∀ c ∈ x, isWs c = true) :
    List.Forall₂ Blanked x (List.replicate x.length '\x00') := by
  induction x with
  | nil => exact List.Forall₂.nil
  | cons c x ih =>
    exact .cons (Or.inr ⟨hx c List.mem_cons_self, rfl⟩)
      (ih fun d hd => hx d (List.mem_cons_of_mem c hd))

/-- Of the cells of the line, white space is overwritten, and the one behind it. -/
theorem blanked_scannedMem (u : CString) {d : Char} (hd : Blanked d '\x00') :
    List.Forall₂ Blanked (u ++ d :: w) (scannedMem u w) := by
  have hline : u ++ d :: w = leadOf u ++ wordOf u ++ (gapOf u ++ (tailOf u ++ d :: w)) := by
    conv_lhs => rw [← parts_append u]
    simp only [List.append_assoc]
  rw [hline]
  exact List.rel_append (blanked_self _) (List.rel_append
    (blanked_replicate fun c hc => isWs_of_mem_gap hc)
    (List.rel_append (blanked_self _) (.cons hd (blanked_self w))))

end Trimmed

/-! ### The scan -/

section Scan
variable {line : CString} (after : List Char)

/-- The length as an `int` is at most the length. -/
theorem intLength_le (line : CString) : intLength line ≤ line.length := by
  unfold intLength
  rw [Int32.toInt_ofNat', Int.bmod_def]
  have hsize : Int32.size = 4294967296 := rfl
  rw [hsize]
  split
  · omega
  · omega

/-- The part of the line that the length counts, without its trailing white space. -/
def counted (line : CString) : CString := (line.take (intLength line).toNat).rdropWhile isWs

/-- What the `int` counts is the beginning of the line. -/
theorem isPrefix_counted (line : CString) : counted line <+: line :=
  (List.rdropWhile_prefix isWs _).trans (List.take_prefix _ line)

/-- A negative length is outside the buffer. -/
theorem scanInPlace_of_neg (hline : '\x00' ∉ line) (hneg : intLength line < 0) :
    scanInPlace (line ++ '\x00' :: after) = none := by
  have hstrlen := idxOf?_frame after hline
  have hcounts : trimEnd (line ++ '\x00' :: after) (intLength line) = some (intLength line) := by
    rw [trimEnd, if_neg (by omega)]
  have hstore : storeAt (line ++ '\x00' :: after) (intLength line) '\x00' = none :=
    if_neg fun h => absurd h.1 (by omega)
  simp only [scanInPlace, hstrlen, Option.bind_eq_bind, Option.bind_some, List.take_left, hcounts,
    hstore, Option.bind_none]

/-- Otherwise the scan is the one of the counted part. -/
theorem scanInPlace_eq (hline : '\x00' ∉ line) (hpos : 0 ≤ intLength line) :
    ∃ d w, line ++ '\x00' :: after = counted line ++ d :: w ∧
      scanInPlace (line ++ '\x00' :: after) = some
        { mem := scannedMem (counted line) w
          command := (leadOf (counted line)).length
          rest := if tailOf (counted line) = [] then none else some (restAt (counted line)) } := by
  obtain ⟨z, hz⟩ := isPrefix_counted line
  obtain ⟨d, w, hdw⟩ : ∃ d w, z ++ '\x00' :: after = d :: w := by
    cases z with
    | nil => exact ⟨_, _, rfl⟩
    -- What is counted is a prefix of the line, with a character behind it.
    | cons d z => exact ⟨_, _, rfl⟩
  have hmem : line ++ '\x00' :: after = counted line ++ d :: w := by
    rw [← hdw, ← List.append_assoc, hz]
  have hnul : '\x00' ∉ counted line := fun h => hline ((isPrefix_counted line).subset h)
  refine ⟨d, w, hmem, ?_⟩
  have hstrlen := idxOf?_frame after hline
  -- Within the range of `int` the trimmed end is the one counted.
  have hlength : (line.take (intLength line).toNat).length = intLength line := by
    have hle := intLength_le line
    rw [List.length_take]
    omega
  have htrim := trimEnd_append (line.take (intLength line).toNat)
    (line.drop (intLength line).toNat ++ '\x00' :: after)
  rw [hlength, ← List.append_assoc, List.take_append_drop] at htrim
  -- The NUL is written behind what is counted.
  have hstore : storeAt (line ++ '\x00' :: after) (counted line).length '\x00' =
      some (counted line ++ '\x00' :: w) := by
    rw [hmem, storeAt, if_pos (by simp)]
    rw [Int.toNat_natCast, List.set_append_right _ _ (Nat.le_refl _), Nat.sub_self]
    rfl
  simp only [scanInPlace, hstrlen, Option.bind_eq_bind, Option.bind_some, List.take_left, htrim]
  show (storeAt _ ((counted line).length : Int) '\x00').bind _ = _
  rw [hstore]
  exact scanTrimmed_eq w hnul

/-- The cell where the end of the line is put held white space, or the end of the line. -/
theorem blanked_end {d : Char} {w : List Char}
    (hmem : line ++ '\x00' :: after = counted line ++ d :: w)
    (hbehind : ∀ c ∈ line.drop (intLength line).toNat, isWs c = true) : Blanked d '\x00' := by
  obtain ⟨z, hz⟩ := isPrefix_counted line
  have hcell : counted line ++ (z ++ '\x00' :: after) = counted line ++ d :: w := by
    rw [← List.append_assoc, hz, hmem]
  replace hcell := List.append_cancel_left hcell
  cases z with
  | nil => exact Or.inl (List.cons.inj hcell).1
  | cons c z =>
    obtain ⟨rfl, -⟩ := List.cons.inj hcell
    refine Or.inr ⟨?_, rfl⟩
    -- Everything behind the counted part is white space, what was trimmed off included.
    have hvisible : visible (c :: z) = [] := by
      have hwhole := visible_append (line.take (intLength line).toNat)
        (line.drop (intLength line).toNat)
      rw [List.take_append_drop, (visible_eq_nil_iff _).mpr hbehind, List.append_nil,
        ← visible_rdropWhile (line.take _)] at hwhole
      have hparts := visible_append (counted line) (c :: z)
      rw [hz, hwhole] at hparts
      exact List.self_eq_append_right.mp hparts
    exact (visible_eq_nil_iff _).mp hvisible c List.mem_cons_self

/-- What the scan of a line yields: the texts at the pointers, in a buffer that differs from the
one before in blanked white space only. -/
structure Tokenised (line : CString) (after : List Char) (r : Scanned) : Prop where
  command : cstr '\x00' r.mem r.command = (scanCommand line).1
  rest : r.rest.map (cstr '\x00' r.mem) = (scanCommand line).2
  blanks : List.Forall₂ Blanked (line ++ '\x00' :: after) r.mem

/-- The pointers are at the texts of the counted part. -/
theorem texts_scanInPlace (hline : '\x00' ∉ line) {r : Scanned}
    (h : scanInPlace (line ++ '\x00' :: after) = some r) :
    (cstr '\x00' r.mem r.command, r.rest.map (cstr '\x00' r.mem)) =
      scanCommand (line.take (intLength line).toNat) := by
  -- A negative length is refused before anything is written.
  by_cases hneg : intLength line < 0
  · rw [scanInPlace_of_neg after hline hneg] at h
    cases h
  · obtain ⟨d, w, -, hscan⟩ := scanInPlace_eq after hline (Int.not_lt.mp hneg)
    rw [hscan] at h
    cases h
    have hnul : '\x00' ∉ counted line := fun h => hline ((isPrefix_counted line).subset h)
    have hcommand : scanCommand (line.take (intLength line).toNat) =
        (wordOf (counted line),
          if tailOf (counted line) = [] then none else some (tailOf (counted line))) :=
      scanCommand_eq _
    rw [hcommand]
    refine Prod.ext (cstr_word w hnul) ?_
    -- Without a tail there is no rest.
    by_cases htail : tailOf (counted line) = []
    · rw [if_pos htail, if_pos htail, Option.map_none]
    · rw [if_neg htail, if_neg htail]
      exact congrArg some (cstr_tail w hnul)

end Scan

/-- The `int` counts the line, up to white space at its end. -/
def Counts (line : CString) : Prop :=
  0 ≤ intLength line ∧ ∀ c ∈ line.drop (intLength line).toNat, isWs c = true

/-- The scan in place stays inside the buffer and yields the word and the rest of the line,
exactly when the `int` counts the line. -/
theorem scanInPlace_iff (line : CString) (after : List Char) (hline : '\x00' ∉ line) :
    (∃ r, scanInPlace (line ++ '\x00' :: after) = some r ∧ Tokenised line after r) ↔
      Counts line := by
  -- The line is what is counted and what is left behind.
  have hsplit : line.take (intLength line).toNat ++ line.drop (intLength line).toNat = line :=
    List.take_append_drop ..
  have htexts := scanCommand_append_iff (line.take (intLength line).toNat)
    (line.drop (intLength line).toNat)
  rw [hsplit] at htexts
  constructor
  · rintro ⟨r, hscan, htok⟩
    refine ⟨?_, htexts.mp ?_⟩
    · by_contra hneg
      rw [scanInPlace_of_neg after hline (Int.not_le.mp hneg)] at hscan
      cases hscan
    · rw [← texts_scanInPlace after hline hscan]
      exact Prod.ext htok.command htok.rest
  · rintro ⟨hpos, hbehind⟩
    -- Counted whole, or with blanks behind, the texts are those of the line.
    obtain ⟨d, w, hmem, hscan⟩ := scanInPlace_eq after hline hpos
    have hsame := (texts_scanInPlace after hline hscan).trans (htexts.mpr hbehind)
    obtain ⟨hcommand, hrest⟩ := Prod.ext_iff.mp hsame
    refine ⟨_, hscan, hcommand, hrest, ?_⟩
    rw [hmem]
    exact blanked_scannedMem w (counted line) (blanked_end after hmem hbehind)

/-- The `int` counts every line that is shorter than 2 GiB. -/
theorem counts_of_lt {line : CString} (h : line.length < 2 ^ 31) : Counts line := by
  have hlength : intLength line = line.length := Int32.toInt_ofNat_of_lt h
  refine ⟨by omega, ?_⟩
  rw [hlength, Int.toNat_natCast, List.drop_length]
  intro c hc
  cases hc

/-- The scan in place of a line ends inside the buffer, whatever stands behind the line, and yields
the word and the rest. This is about every line that the buffer of `ssc_input_read_char` can hold,
and about longer ones, too. -/
theorem tokenised_of_length (line : CString) (after : List Char) (hline : '\x00' ∉ line)
    (hlength : line.length < 2 ^ 31) :
    ∃ r, scanInPlace (line ++ '\x00' :: after) = some r ∧ Tokenised line after r :=
  (scanInPlace_iff line after hline).mpr (counts_of_lt hlength)

/-- The scan of a line with white space all over. -/
theorem tokenised_of_length_spaced :
    ∃ r, scanInPlace ("  i  {a b}\r\n".toList ++ ['\x00']) = some r ∧
      Tokenised "  i  {a b}\r\n".toList [] r :=
  tokenised_of_length "  i  {a b}\r\n".toList [] (by decide) (by decide)

end RestCommSdk.Proofs
