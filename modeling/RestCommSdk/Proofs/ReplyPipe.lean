import RestCommSdk.CliInterface.SofiaReply
import Mathlib.Logic.Function.Iterate

/-!
# `RestCommSdk.Proofs.ReplyPipe`: what the App reads off the reply pipe

`inputCallback` keeps no bytes between reads, and a frame `<rc> <text>$` has no length and
no escape. Two counts settle what that means:

* `length_inputLoop`: one read leads to one dispatch for every `$` in it, and to one more
  when it does not end in a `$`;
* `length_dispatched`: the reads of one stream together.

`inputCallback_sentBytes` is the case of one read and `$`-free texts: the batch decodes to
itself, in one iteration for each reply. `length_dispatched_batches_iff` is the case of reads
that hold whole replies: there are as many dispatches as replies exactly when no text holds a
`$`. `dispatched_chunks_iff` is the case of `$`-free texts and arbitrary reads: the replies
arrive exactly when every read ends in a `$`, that is at the end of a reply.
-/

set_option autoImplicit false

namespace RestCommSdk.Proofs

open RestCommSdk.Lib
open RestCommSdk.CliInterface

/-- The bytes that the `Send` calls of `replies` write, one after the other. -/
def sentBytes (replies : List SofiaReply) : CString :=
  replies.flatMap SofiaReply.serialize

/-- The frame of a reply: its serialization without the closing `$`. -/
def frame (reply : SofiaReply) : CString :=
  printInt reply.rc.toInt ++ ' ' :: reply.text

/-- A reply is a frame that ends with a `$`. -/
theorem serialize_eq_frame (reply : SofiaReply) : reply.serialize = frame reply ++ ['$'] := by
  simp [SofiaReply.serialize, frame]

/-- The bytes of replies are frames. -/
theorem sentBytes_eq_joinFrames (replies : List SofiaReply) :
    sentBytes replies = joinFrames '$' (replies.map frame) := by
  induction replies with
  | nil => rfl
  | cons r rest ih =>
    rw [List.map_cons, joinFrames_cons, ← ih]
    simp [sentBytes, serialize_eq_frame]

/-- A number has no `$`. -/
theorem dollar_notMem_printInt (i : Int) : '$' ∉ printInt i := fun h => by
  rcases mem_printInt h with h | h <;> exact absurd h (by decide)

/-- So a `$` in a frame is one of the text. -/
theorem dollar_mem_frame (reply : SofiaReply) : '$' ∈ frame reply ↔ '$' ∈ reply.text := by
  simp [frame, dollar_notMem_printInt]

/-- A code is within its range. -/
theorem clampInt32_toInt (x : Int32) : clampInt32 x.toInt = x := by
  have h1 := x.le_toInt
  have h2 := x.toInt_lt
  have h : max (-2 ^ 31) (min x.toInt (2 ^ 31 - 1)) = x.toInt := by omega
  rw [clampInt32, h, Int32.ofInt_toInt]

/-- The text of a number has no white space to skip. -/
theorem extractInt_printInt (old rc : Int32) : extractInt old (printInt rc.toInt) = rc := by
  have hne := printInt_ne_nil rc.toInt
  have hdrop : (printInt rc.toInt).dropWhile isSpace = printInt rc.toInt := by
    -- The number begins with a digit or a sign, never with a blank.
    cases hp : printInt rc.toInt with
    | nil => rfl
    | cons c cs =>
      have hc : isSpace c = false := by
        have hc : c ∈ printInt rc.toInt := hp ▸ List.mem_cons_self
        rcases mem_printInt hc with h | rfl
        · simp only [Char.isDigit, Bool.and_eq_true, decide_eq_true_eq] at h
          simp only [isSpace, Bool.or_eq_false_iff, decide_eq_false_iff_not]
          refine ⟨⟨⟨⟨⟨?_, ?_⟩, ?_⟩, ?_⟩, ?_⟩, ?_⟩ <;> rintro rfl <;> exact absurd h (by decide)
        · decide
      simp [hc]
  unfold extractInt
  rw [hdrop]
  split
  · rename_i h; exact absurd h hne
  · -- It is read to its end, and it is in range.
    have h := @scanInt_printInt rc.toInt [] (by simp)
    rw [List.append_nil] at h
    rw [h, clampInt32_toInt]

/-- The line up to the first delimiter. -/
theorem getline_append {delim : Char} {x : CString} (rest : CString) (hx : delim ∉ x) :
    getline delim (x ++ delim :: rest) = some (x, rest) := by
  have hpos : ∀ c ∈ x, decide (c ≠ delim) = true := fun c hc => by
    simpa using fun h : c = delim => hx (h ▸ hc)
  have hne : ∃ c cs, x ++ delim :: rest = c :: cs := by
    cases x <;> simp
  obtain ⟨c, cs, hcs⟩ := hne
  rw [hcs, getline, ← hcs]
  · rw [List.takeWhile_append_of_pos hpos, List.dropWhile_append_of_pos hpos]
    simp
  · simp

/-- `DeserializeSingle` on the serialization of a reply whose text is `$`-free reads that
reply, whatever the receiver held. -/
theorem deserializeSingle_serialize (reply old : SofiaReply) (h : '$' ∉ reply.text) :
    old.deserializeSingle reply.serialize = reply := by
  have hspace : ' ' ∉ printInt reply.rc.toInt := fun h => by
    rcases mem_printInt h with h | h <;> exact absurd h (by decide)
  have h1 : getline ' ' reply.serialize = some (printInt reply.rc.toInt, reply.text ++ ['$']) :=
    getline_append _ hspace
  have h2 : getline '$' (reply.text ++ ['$']) = some (reply.text, []) := getline_append [] h
  simp only [SofiaReply.deserializeSingle, h1, h2, extractInt_printInt]

/-- `Deserialize` takes one whole reply off the front. -/
theorem deserialize_serialize (reply old : SofiaReply) (rest : CString) (h : '$' ∉ reply.text) :
    old.deserialize (reply.serialize ++ rest) = (reply, rest) := by
  have hidx : (reply.serialize ++ rest).idxOf? '$' = some (frame reply).length := by
    rw [serialize_eq_frame, List.append_assoc]
    exact idxOf?_frame rest (by rwa [dollar_mem_frame])
  have hlen : reply.serialize.length = (frame reply).length + 1 := by
    simp [serialize_eq_frame]
  simp only [SofiaReply.deserialize, hidx, ← hlen, List.take_left', List.drop_left',
    deserializeSingle_serialize reply old h]

/-- Every reply has bytes. -/
theorem sentBytes_eq_nil_iff {replies : List SofiaReply} :
    sentBytes replies = [] ↔ replies = [] := by
  cases replies with
  | nil => exact ⟨fun _ => rfl, fun _ => rfl⟩
  | cons r rest => simp [sentBytes, SofiaReply.serialize]

/-- A batch of whole replies with `$`-free texts decodes to itself, whatever the receiver
held before. -/
theorem inputLoop_sentBytes (replies : List SofiaReply) (old : SofiaReply)
    (hne : replies ≠ []) (h : ∀ r ∈ replies, '$' ∉ r.text) :
    inputLoop old (sentBytes replies) = replies := by
  induction replies generalizing old with
  | nil => exact absurd rfl hne
  | cons r rest ih =>
    have hr := h r List.mem_cons_self
    have hstep : old.deserialize (sentBytes (r :: rest)) = (r, sentBytes rest) :=
      deserialize_serialize r old _ hr
    rw [inputLoop, hstep]
    cases rest with
    | nil => rfl
    | cons r' rest =>
      have hne' : sentBytes (r' :: rest) ≠ [] := by
        rw [Ne, sentBytes_eq_nil_iff]
        exact List.cons_ne_nil _ _
      rw [dif_neg hne', ih r (by simp) (fun x hx => h x (List.mem_cons_of_mem _ hx))]

/-- The reply and the unread bytes after `n` iterations of the loop of `inputCallback`. -/
def afterIterations (n : Nat) (s : SofiaReply × CString) : SofiaReply × CString :=
  (fun s => s.1.deserialize s.2)^[n] s

/-- Every iteration on a batch takes one reply off it, whatever the receiver held. -/
theorem afterIterations_sentBytes {replies : List SofiaReply} (h : ∀ r ∈ replies, '$' ∉ r.text)
    {n : Nat} (hn : n ≤ replies.length) (old : SofiaReply) :
    (afterIterations n (old, sentBytes replies)).2 = sentBytes (replies.drop n) := by
  induction n generalizing replies old with
  | zero => rfl
  | succ n ih =>
    cases replies with
    | nil => exact absurd hn (Nat.not_succ_le_zero n)
    | cons r rest =>
      have hstep : old.deserialize (sentBytes (r :: rest)) = (r, sentBytes rest) :=
        deserialize_serialize r old _ (h r List.mem_cons_self)
      have hrest := ih (fun x hx => h x (List.mem_cons_of_mem _ hx)) (Nat.le_of_succ_le_succ hn) r
      rw [afterIterations, Function.iterate_succ_apply, hstep]
      exact hrest

/-- One read of a batch of replies with `$`-free texts: the callback passes on exactly these
replies, and the loop ends after as many iterations as there are replies, not before. -/
theorem inputCallback_sentBytes (replies : List SofiaReply) (hne : replies ≠ [])
    (h : ∀ r ∈ replies, '$' ∉ r.text) :
    inputCallback (sentBytes replies) = replies ∧
      ∀ n ≤ replies.length,
        ((afterIterations n ({}, sentBytes replies)).2 = [] ↔ n = replies.length) := by
  constructor
  · exact inputLoop_sentBytes replies {} hne h
  · intro n hn
    rw [afterIterations_sentBytes h hn, sentBytes_eq_nil_iff, List.drop_eq_nil_iff]
    omega

/-- A batch with a negative code and an empty text, and a text that starts with a space, a digit
and a new line. -/
theorem inputCallback_sentBytes_two :
    inputCallback (sentBytes [⟨-5, []⟩, ⟨30, " 7\n".toList⟩]) = [⟨-5, []⟩, ⟨30, " 7\n".toList⟩] ∧
      ∀ n ≤ [(⟨-5, []⟩ : SofiaReply), ⟨30, " 7\n".toList⟩].length,
        ((afterIterations n ({}, sentBytes [⟨-5, []⟩, ⟨30, " 7\n".toList⟩])).2 = [] ↔
          n = [(⟨-5, []⟩ : SofiaReply), ⟨30, " 7\n".toList⟩].length) :=
  inputCallback_sentBytes [⟨-5, []⟩, ⟨30, " 7\n".toList⟩] (by decide) (by decide)

/-- The loop hands over one reply for every `$` it reads, and one more when the bytes do not
end in a `$`. -/
theorem length_inputLoop (old : SofiaReply) (s : CString) :
    (inputLoop old s).length = s.count '$' + if s.getLast? = some '$' then 0 else 1 := by
  induction hn : s.length using Nat.strong_induction_on generalizing s old with
  | _ n ih =>
    rw [inputLoop]
    by_cases hd : '$' ∈ s
    · -- Cut at the first `$`: one reply, and then the rest.
      obtain ⟨x, rest, hx, rfl⟩ := exists_first_delimiter hd
      have hrest : (old.deserialize (x ++ '$' :: rest)).2 = rest := by
        simp [SofiaReply.deserialize, idxOf?_frame rest hx]
      have hcount : (x ++ '$' :: rest).count '$' = rest.count '$' + 1 := by
        rw [List.count_append, List.count_cons_self, List.count_eq_zero_of_not_mem hx]
        omega
      simp only [hrest, hcount]
      -- Nothing is behind it, so the loop ends here.
      by_cases hr : rest = []
      · simp [hr]
      · have hlast : (x ++ '$' :: rest).getLast? = rest.getLast? := by
          obtain ⟨y, ys, rfl⟩ := List.exists_cons_of_ne_nil hr
          simp only [List.getLast?_append, List.getLast?_cons_cons]
          simp [List.getLast?_eq_some_getLast]
        rw [dif_neg hr, List.length_cons, ih rest.length (by simp at hn; omega) _ _ rfl, hlast]
        omega
    · -- Without a `$` the loop reads one torn reply.
      have hnone : s.idxOf? '$' = none := List.idxOf?_eq_none_iff.mpr hd
      have hlast : s.getLast? ≠ some '$' := fun h => hd (List.mem_of_getLast? h)
      simp [SofiaReply.deserialize, hnone, hlast, List.count_eq_zero_of_not_mem hd]

/-- The dispatches of several reads: one for every `$` of the stream, and one for every read
that does not end in a `$`. -/
theorem length_dispatched (reads : List CString) :
    (dispatched reads).length
      = reads.flatten.count '$' + reads.countP (fun b => b.getLast? ≠ some '$') := by
  induction reads with
  | nil => rfl
  | cons b reads ih =>
    have hcons : dispatched (b :: reads) = inputCallback b ++ dispatched reads := rfl
    rw [hcons, List.length_append, ih, inputCallback, length_inputLoop, List.flatten_cons,
      List.count_append, List.countP_cons]
    by_cases hb : b.getLast? = some '$' <;> simp [hb] <;> omega

/-- The `$` of the sent bytes: the one that closes each reply, and those in the texts. -/
theorem count_sentBytes (replies : List SofiaReply) :
    (sentBytes replies).count '$'
      = replies.length + (replies.map fun r => r.text.count '$').sum := by
  induction replies with
  | nil => rfl
  | cons r rest ih =>
    have hcons : sentBytes (r :: rest) = r.serialize ++ sentBytes rest := rfl
    have hrc : (printInt r.rc.toInt).count '$' = 0 :=
      List.count_eq_zero_of_not_mem (dollar_notMem_printInt _)
    rw [hcons, List.count_append, ih]
    simp only [SofiaReply.serialize, List.count_append, hrc, List.length_cons, List.map_cons,
      List.sum_cons, List.count_cons_self, List.count_cons_of_ne (show ' ' ≠ '$' by decide),
      List.count_nil]
    omega

/-- No text has a `$`. -/
theorem sum_count_text_eq_zero (replies : List SofiaReply) :
    (replies.map fun r => r.text.count '$').sum = 0 ↔ ∀ r ∈ replies, '$' ∉ r.text := by
  simp [List.sum_eq_zero_iff_forall_eq_nat, List.count_eq_zero]

/-- The bytes end with a `$`. -/
theorem getLast?_sentBytes {replies : List SofiaReply} (hne : replies ≠ []) :
    (sentBytes replies).getLast? = some '$' := by
  obtain ⟨init, r, rfl⟩ := (List.eq_nil_or_concat replies).resolve_left hne
  have h : sentBytes (init ++ [r]) = sentBytes init ++ frame r ++ ['$'] := by
    simp [sentBytes, serialize_eq_frame]
  simp [h]

/-- The bytes of batches are those of all their replies. -/
theorem sentBytes_flatten (batches : List (List SofiaReply)) :
    (batches.map sentBytes).flatten = sentBytes batches.flatten := by
  induction batches with
  | nil => rfl
  | cons b batches ih =>
    rw [List.map_cons, List.flatten_cons, ih, List.flatten_cons]
    simp [sentBytes]

/-- Reads that end where a batch does dispatch what was sent. -/
theorem dispatched_batches {batches : List (List SofiaReply)} (hne : ∀ b ∈ batches, b ≠ [])
    (h : ∀ r ∈ batches.flatten, '$' ∉ r.text) :
    dispatched (batches.map sentBytes) = batches.flatten := by
  induction batches with
  | nil => rfl
  | cons b batches ih =>
    have hb : inputCallback (sentBytes b) = b :=
      inputLoop_sentBytes b {} (hne b List.mem_cons_self) fun r hr => h r (by simp [hr])
    have ih := ih (fun c hc => hne c (List.mem_cons_of_mem _ hc)) fun r hr => h r (by
      rw [List.flatten_cons]; exact List.mem_append_right _ hr)
    simp only [dispatched, List.map_cons, List.flatMap_cons, List.flatten_cons, hb] at ih ⊢
    rw [ih]

/-- Reads of whole replies lead to as many dispatches as there are replies exactly when no
text holds a `$`. -/
theorem length_dispatched_batches_iff {batches : List (List SofiaReply)}
    (hne : ∀ b ∈ batches, b ≠ []) :
    (dispatched (batches.map sentBytes)).length = batches.flatten.length ↔
      ∀ r ∈ batches.flatten, '$' ∉ r.text := by
  have hlast : (batches.map sentBytes).countP (fun b => b.getLast? ≠ some '$') = 0 := by
    rw [List.countP_eq_zero]
    intro b hb
    obtain ⟨replies, hr, rfl⟩ := List.mem_map.mp hb
    simp [getLast?_sentBytes (hne replies hr)]
  rw [length_dispatched, hlast, sentBytes_flatten, count_sentBytes, ← sum_count_text_eq_zero]
  omega

/-- Replies with `$`-free texts reach `handleSofiaInput` unchanged through reads of any size
exactly when every read ends in a `$`, which is then the end of a reply. -/
theorem dispatched_chunks_iff (replies : List SofiaReply) (reads : List CString)
    (htext : ∀ r ∈ replies, '$' ∉ r.text) (hne : ∀ b ∈ reads, b ≠ [])
    (hreads : reads.flatten = sentBytes replies) :
    dispatched reads = replies ↔ ∀ b ∈ reads, b.getLast? = some '$' := by
  constructor
  · intro h b hb
    have hlen := length_dispatched reads
    rw [h, hreads, count_sentBytes, (sum_count_text_eq_zero replies).mpr htext] at hlen
    have hzero : reads.countP (fun b => b.getLast? ≠ some '$') = 0 := by omega
    simpa using List.countP_eq_zero.mp hzero b hb
  · intro h
    have hframes : ∀ x ∈ replies.map frame, '$' ∉ x := by
      intro x hx
      obtain ⟨r, hr, rfl⟩ := List.mem_map.mp hx
      rw [dollar_mem_frame]
      exact htext r hr
    obtain ⟨batches, hflat, rfl⟩ :=
      joinFrames_batches hframes (hreads.trans (sentBytes_eq_joinFrames replies)) h
    -- The batches of frames are the frames of batches of replies.
    obtain ⟨parts, rfl, rfl⟩ := flatten_eq_map hflat
    have hsent : (parts.map (List.map frame)).map (joinFrames '$') = parts.map sentBytes := by
      simp [sentBytes_eq_joinFrames]
    rw [hsent] at hne ⊢
    refine dispatched_batches (fun p hp hnil => ?_) htext
    exact hne (sentBytes p) (List.mem_map_of_mem hp) (by rw [hnil]; rfl)

/-- Two replies read as two chunks that both stop at the end of a reply. -/
theorem dispatched_chunks_iff_two :
    dispatched ["30 $".toList, "35 bye$".toList] = [⟨30, []⟩, ⟨35, "bye".toList⟩] ↔
      ∀ b ∈ ["30 $".toList, "35 bye$".toList], b.getLast? = some '$' :=
  dispatched_chunks_iff [⟨30, []⟩, ⟨35, "bye".toList⟩] ["30 $".toList, "35 bye$".toList]
    (by decide) (by decide) (by decide)

/-- The reply `30` with an empty text, cut after its code: the reply is not dispatched, and
each of the two reads dispatches one as the constructor left it. -/
theorem dispatched_cut_after_rc :
    ["30".toList, " $".toList].flatten = sentBytes [⟨30, []⟩] ∧
      dispatched ["30".toList, " $".toList] = [{}, {}] ∧
      [({} : SofiaReply), {}] ≠ [⟨30, []⟩] := by
  refine ⟨by decide, ?_, by decide⟩
  have h1 : inputLoop {} "30".toList = [{}] := by
    rw [inputLoop]; decide
  have h2 : inputLoop {} " $".toList = [{}] := by
    rw [inputLoop]; decide
  change inputLoop {} _ ++ (inputLoop {} _ ++ []) = _
  rw [h1, h2]
  rfl

end RestCommSdk.Proofs
