import RestCommSdk.CliInterface.SofsipCli

/-!
# `RestCommSdk.Proofs.CommandPipe`: what Sofia reads off the command pipe

`pipeToSofia` closes a command with a `$`, and nothing in a command is escaped.
`ssc_input_read_char` keeps no bytes between reads.

* `sscInputReads_iff`: `$`-free commands and arbitrary reads. The commands arrive, and the
  process survives, exactly when every read holds a `$`, a read that starts with a `$` holds
  nothing else, and there is a `$` next to every boundary between two reads.
* `sscInputReadCharInPlace_eq`: the function on memory calls the handler with the texts of
  `sscInputReadChar`, each in a block of its own.
-/

set_option autoImplicit false

namespace RestCommSdk.Proofs

open RestCommSdk.Lib
open RestCommSdk.CliInterface
open RestCommSdk.SipManager

/-! ### Commands without a `$`, in reads of any size -/

/-- The bytes of commands are frames. -/
theorem flatMap_pipeToSofia (commands : List CString) :
    commands.flatMap pipeToSofia = joinFrames '$' commands := rfl

/-- The reads from which the commands arrive whole. -/
def KeepsCommands (reads : List CString) : Prop :=
  (∀ b ∈ reads, '$' ∈ b ∧ (b.head? = some '$' → b = ['$'])) ∧ reads.IsChain (CleanCut '$')

/-- `$`-free commands reach the handler unchanged, and the process survives, exactly when
every read holds a `$`, a read that starts with one is just that `$`, and every boundary
between reads is next to a `$`. -/
theorem sscInputReads_iff (commands reads : List CString)
    (hcommands : ∀ c ∈ commands, '$' ∉ c ∧ c ≠ []) (hne : ∀ b ∈ reads, b ≠ [])
    (hreads : reads.flatten = commands.flatMap pipeToSofia) :
    sscInputReads reads = some commands ↔ KeepsCommands reads := by
  have hdollar : ∀ c ∈ commands, '$' ∉ c := fun c hc => (hcommands c hc).1
  have hnonempty : ∀ c ∈ commands, c ≠ [] := fun c hc => (hcommands c hc).2
  rw [flatMap_pipeToSofia] at hreads
  have hpieces : pieces '$' reads.flatten = commands := by
    rw [hreads, pieces_joinFrames hdollar hnonempty]
  -- No two `$` stand next to each other in the stream, so neither in a read.
  have hnodd : ∀ b ∈ reads, ¬ ['$', '$'] <:+: b := by
    intro b hb hinf
    refine not_infix_joinFrames hdollar hnonempty (hreads ▸ hinf.trans ?_)
    exact List.infix_of_mem_flatten hb
  rw [sscInputReads_eq_some]
  change (∀ b ∈ reads, '$' ∈ b) ∧ commands = reads.flatMap (headPieces '$') ↔ _
  constructor
  · rintro ⟨hhas, hcalls⟩
    -- Nothing is lost, so every read is seen to its end.
    have hall : ∀ b ∈ reads, headPieces '$' b = pieces '$' b := by
      refine headPieces_eq_pieces_of_sum ?_
      rw [← hcalls, ← sum_length_pieces, hpieces]
    have hsame : reads.flatMap (headPieces '$') = reads.flatMap (pieces '$') :=
      List.flatMap_congr hall
    -- Nothing is torn, so the pieces are counted right.
    have hcount : (reads.map fun b => (pieces '$' b).length).sum
        = (pieces '$' reads.flatten).length := by
      rw [hpieces, hcalls, hsame, List.length_flatMap]
    refine ⟨fun b hb => ⟨hhas b hb, fun hhead => ?_⟩,
      (length_pieces_flatten '$' reads hne).2.mp hcount⟩
    obtain ⟨b', rfl⟩ := List.head?_eq_some_iff.mp hhead
    have hnone := hall _ hb
    rw [headPieces_cons_self, pieces_cons_self] at hnone
    cases b' with
    | nil => rfl
    | cons x b' =>
      have hx : x ≠ '$' := by
        rintro rfl
        exact hnodd _ hb ⟨[], b', by simp⟩
      have hsum := sum_length_pieces '$' (x :: b')
      rw [← hnone, List.countP_cons_of_pos (by simpa using hx)] at hsum
      simp at hsum
  · rintro ⟨hall, hcuts⟩
    refine ⟨fun b hb => (hall b hb).1, ?_⟩
    have hsame : reads.flatMap (headPieces '$') = reads.flatMap (pieces '$') := by
      refine List.flatMap_congr fun b hb => ?_
      by_cases hhead : b.head? = some '$'
      · rw [(hall b hb).2 hhead]
        decide
      · exact headPieces_eq_pieces (hnodd b hb) hhead
    rw [hsame, flatMap_pieces hne hcuts, hpieces]

/-- The commands `b` and `c` in two reads, the second of them the closing `$` alone. -/
theorem sscInputReads_iff_cut :
    sscInputReads ["b$c".toList, "$".toList] = some ["b".toList, "c".toList] ↔
      KeepsCommands ["b$c".toList, "$".toList] :=
  sscInputReads_iff ["b".toList, "c".toList] ["b$c".toList, "$".toList]
    (by decide) (by decide) (by decide)

/-- One command cut in the middle: the first read holds no `$`, and the process ends. -/
theorem sscInputReads_cut_command :
    ["by".toList, "e$".toList].flatten = ["bye".toList].flatMap pipeToSofia ∧
      sscInputReads ["by".toList, "e$".toList] = none := by
  decide

/-! ### Commands in one read, on memory -/

section InPlace
variable {f : InputHandler} {n : Nat}

/-- An iteration of the loop that gets a token. -/
theorem sscInputLoop_token (hn : 0 < n) {r : InputReader} {token : Nat} {buf : Cutting Char}
    (h : strsep '\x00' '$' r.buf = (some token, buf)) :
    sscInputLoop (some f) n r =
      let text := cstr '\x00' buf.mem token
      if text = [] then { r with buf := buf }
      else
        sscInputLoop (some f) n
          { buf := buf
            handled := r.handled ++ [text]
            copies := r.copies ++ [f r.copies.length (text ++ ['\x00'])] } := by
  rw [sscInputLoop]
  split
  · -- `strsep` gave a token, so only the second branch is left.
    rename_i h'
    rw [h] at h'
    cases h'
  · rename_i h'
    rw [h] at h'
    cases h'
    exact if_pos hn

/-- The iteration after the last token. -/
theorem sscInputLoop_null (mem : List Char) (handled : List CString)
    (copies : List (List Char)) :
    sscInputLoop (some f) n ⟨⟨mem, none⟩, handled, copies⟩ = ⟨⟨mem, none⟩, handled, copies⟩ := by
  rw [sscInputLoop]
  rfl

/-- The loop cuts the string at its pointer as `headPieces` does, and every handler call gets a
block of its own. -/
theorem sscInputLoop_eq (hn : 0 < n) (rest : CString) (hnul : '\x00' ∉ rest)
    (before after : List Char) (handled : List CString) (copies : List (List Char)) :
    let r := sscInputLoop (some f) n
      ⟨⟨before ++ rest ++ '\x00' :: after, some before.length⟩, handled, copies⟩
    r.handled = handled ++ headPieces '$' rest ∧
      r.copies = copies ++ (headPieces '$' rest).mapIdx
        fun i c => f (copies.length + i) (c ++ ['\x00']) := by
  induction hlen : rest.length using Nat.strong_induction_on
    generalizing rest before handled copies with
  | _ m ih =>
    by_cases hd : '$' ∈ rest
    · obtain ⟨x, later, hx, rfl⟩ := exists_first_delimiter hd
      have hxnul : '\x00' ∉ x := fun h => hnul (List.mem_append_left _ h)
      have hlater : '\x00' ∉ later := fun h => hnul (by simp [h])
      have htext := cstr_append before (later ++ '\x00' :: after) hxnul
      simp only [List.append_assoc] at htext
      rw [sscInputLoop_token hn (strsep_cut hx hnul)]
      simp only [List.append_assoc, List.cons_append, List.nil_append, htext]
      by_cases hxne : x = []
      · simp [hxne, headPieces_cons_self]
      · have hshort : later.length < m := by
          rw [← hlen, List.length_append, List.length_cons]
          omega
        -- The rest of the string now starts behind the `nul` that replaced the delimiter.
        have hih := ih later.length hshort later hlater (before ++ x ++ ['\x00'])
          (handled ++ [x]) (copies ++ [f copies.length (x ++ ['\x00'])]) rfl
        simp only [List.append_assoc, List.cons_append, List.nil_append] at hih
        rw [if_neg hxne, headPieces_frame later hx hxne]
        simpa [List.mapIdx_cons, Nat.add_assoc, Nat.add_comm 1] using hih
    · rw [sscInputLoop_token hn (strsep_last hd hnul)]
      simp only [cstr_append before after hnul]
      by_cases hne : rest = []
      · simp [hne, headPieces]
      · rw [if_neg hne, sscInputLoop_null]
        simp [headPieces, List.splitOn_eq_singleton hd, hne]

/-- What the array holds after a read that fits, up to the `nul` behind it. -/
theorem set_nul_append {buf bytes : List Char} (h : bytes.length < buf.length) :
    (bytes ++ buf.drop bytes.length).set bytes.length '\x00' =
      bytes ++ '\x00' :: buf.drop (bytes.length + 1) := by
  rw [List.set_append_right _ _ (le_refl _), Nat.sub_self, List.drop_eq_getElem_cons h,
    List.set_cons_zero]

/-- On bytes without a `nul` the handler is called with the texts of `sscInputReadChar`. -/
theorem sscInputReadCharInPlace_eq {buf : List Char} {bytes : CString}
    (hfits : bytes.length < buf.length) (hnul : '\x00' ∉ bytes) :
    (sscInputReadCharInPlace (some f) buf bytes).map (fun r => (r.handled, r.copies)) =
      (sscInputReadChar bytes).map fun tokens =>
        (tokens, tokens.mapIdx fun i c => f i (c ++ ['\x00'])) := by
  -- The text ends where the read ended.
  have htext : cstr '\x00' (bytes ++ '\x00' :: buf.drop (bytes.length + 1)) 0 = bytes := by
    have h := cstr_append [] (buf.drop (bytes.length + 1)) hnul
    simpa using h
  unfold sscInputReadCharInPlace sscInputReadChar
  simp only [set_nul_append hfits, htext]
  split
  · rename_i hd
    -- With a `$` in it, the text is cut and handled piece by piece.
    have hn : 0 < bytes.length := List.length_pos_of_mem hd
    have hloop := sscInputLoop_eq (f := f) hn bytes hnul [] (buf.drop (bytes.length + 1)) [] []
    simp only [List.nil_append, List.length_nil, Nat.zero_add] at hloop
    obtain ⟨hhandled, hcopies⟩ := hloop
    simp only [Option.map_some, hhandled, hcopies]
    rfl
  · rfl

/-- A batch of commands that one read returns whole is split into itself: the handler is called
once for each command, in order and with a copy of its own, and the function returns, whatever
the handler writes over its copies. -/
theorem sscInputReadCharInPlace_commands (f : InputHandler) (buf : List Char)
    (commands : List CString) (hsome : commands ≠ [])
    (hcommands : ∀ c ∈ commands, c ≠ [] ∧ '$' ∉ c ∧ '\x00' ∉ c)
    (hread : (commands.flatMap pipeToSofia).length < 65535) (hbuf : buf.length = 65535) :
    (sscInputReadCharInPlace (some f) buf (commands.flatMap pipeToSofia)).map
        (fun r => (r.handled, r.copies)) =
      some (commands, commands.mapIdx fun i c => f i (c ++ ['\x00'])) := by
  have hdollar : '$' ∈ commands.flatMap pipeToSofia := by
    obtain ⟨c, later, rfl⟩ := List.exists_cons_of_ne_nil hsome
    simp [pipeToSofia]
  -- No command holds a NUL, and neither does the separator.
  have hnul : '\x00' ∉ commands.flatMap pipeToSofia := by
    intro h
    obtain ⟨c, hc, hmem⟩ := List.mem_flatMap.mp h
    have hsplit : '\x00' ∈ c ∨ '\x00' ∈ ['$'] := List.mem_append.mp hmem
    rcases hsplit with h | h
    · exact (hcommands c hc).2.2 h
    · exact absurd h (by decide)
  -- The pieces are the commands, none of them empty.
  have htokens : sscInputReadChar (commands.flatMap pipeToSofia) = some commands := by
    rw [sscInputReadChar, if_pos hdollar, flatMap_pipeToSofia]
    exact congrArg some (headPieces_joinFrames (fun c hc => (hcommands c hc).2.1)
      fun c hc => (hcommands c hc).1)
  rw [sscInputReadCharInPlace_eq (by omega) hnul, htokens]
  rfl

end InPlace

/-- Two commands, with a handler that writes over the first byte of its copy. -/
theorem sscInputReadCharInPlace_two_commands :
    (sscInputReadCharInPlace (some fun _ block => block.set 0 'x') (List.replicate 65535 'z')
        (["b".toList, "qr".toList].flatMap pipeToSofia)).map (fun r => (r.handled, r.copies)) =
      some (["b".toList, "qr".toList], ["x\x00".toList, "xr\x00".toList]) :=
  sscInputReadCharInPlace_commands _ (List.replicate 65535 'z') ["b".toList, "qr".toList]
    (by decide) (by decide) (by decide) List.length_replicate

/-- No command at all: the read returns nothing, and the process ends. -/
theorem sscInputReadCharInPlace_no_command :
    sscInputReadCharInPlace (some fun _ block => block) (List.replicate 65535 'z')
      (([] : List CString).flatMap pipeToSofia) = none := by
  have hfits : ([] : CString).length < (List.replicate 65535 'z').length := by
    rw [List.length_replicate]
    decide
  exact Option.map_eq_none_iff.mp (sscInputReadCharInPlace_eq hfits List.not_mem_nil)

end RestCommSdk.Proofs
