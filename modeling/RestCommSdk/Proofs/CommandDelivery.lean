import RestCommSdk.CliInterface.SofsipCli

/-!
# `RestCommSdk.Proofs.CommandDelivery`: from a call of the App to the calls of Sofia

A command is a word and a JSON object, closed by a `$`. `calls_text` says that the handler
turns the text of a command into the one `ssc_*` call with the values that were put into the
command. `calls_truncated` is what happens to a command with a `$` in a value: the reader
cuts it there, the object no longer reads as one, and the call is made without values.

`sofiaCalls_iff` puts the two together for any batching of whole commands into reads, and
`delivered_iff` states the condition on what the application gave.

The framework's JSON reader is the parameter `jsonObject`. It undoes `stringifyDictionary`
and takes no truncated text for an object; `Json.read` is such a reader.
-/

set_option autoImplicit false

namespace RestCommSdk.Proofs

open RestCommSdk.Lib
open RestCommSdk.CliInterface
open RestCommSdk.SipManager

/-- The call that a command asks for. -/
def sscCalls : Command → List SscCall
  | .invite destination sdp password sipHeaders =>
    [.invite (some destination) password sdp sipHeaders]
  | .answer sdp => [.answer (some sdp) 200 "OK".toList]
  | .message destination msg password sipHeaders =>
    [.message (some destination) password (some msg) sipHeaders]
  | .unregister password => [.update none (some password) none true]
  | .register aor registrar password => [.update aor (some password) (some registrar) false]
  | .address aor => [.setPublicAddress (some aor)]
  -- The line end after the duration is stripped with the other white space at the end.
  | .info dtmf => [.info (some ("Signal=".toList ++ dtmf ++ "\r\nDuration=100".toList))]
  | .decline => [.answer none 480 "Temporarily Unavailable".toList]
  | .cancel => [.cancel]
  | .bye => [.bye]
  | .markForRestart => []
  | .shutdown _ => [.shutdown]

/-- The texts that were put into a command. -/
def fields : Command → List CString
  | .invite destination sdp password sipHeaders =>
    destination :: (sdp.toList ++ password.toList ++ sipHeaders.toList)
  | .answer sdp => [sdp]
  | .message destination msg password sipHeaders =>
    destination :: msg :: (password.toList ++ sipHeaders.toList)
  | .unregister password => [password]
  | .register aor registrar password => registrar :: password :: aor.toList
  | .address aor => [aor]
  | .info dtmf => [dtmf]
  | _ => []

/-! ### The text of a command -/

/-- A `$` is in the JSON exactly if it is in a name or a value. -/
theorem dollar_mem_stringifyDictionary (d : NSDictionary) :
    '$' ∈ stringifyDictionary d ↔ ∃ m ∈ d, '$' ∈ m.1 ∨ '$' ∈ m.2 :=
  Json.mem_write (by decide) (by decide) d

/-- The same of two lists of members. -/
theorem dollar_mem_stringify_append (d e : NSDictionary) :
    '$' ∈ stringifyDictionary (d ++ e) ↔
      '$' ∈ stringifyDictionary d ∨ '$' ∈ stringifyDictionary e := by
  simp only [dollar_mem_stringifyDictionary, List.mem_append, or_and_right, exists_or]

/-- The same of one member, whose name has none. -/
theorem dollar_mem_stringify_entry {key : String} (value : Option CString)
    (hkey : '$' ∉ key.toList) :
    '$' ∈ stringifyDictionary (entry key value) ↔ ∃ v ∈ value, '$' ∈ v := by
  cases value <;> simp [dollar_mem_stringifyDictionary, entry, hkey]

/-- A `$` in the text of a command comes from a text that was put into it. -/
theorem dollar_mem_text (c : Command) : '$' ∈ c.text ↔ ∃ f ∈ fields c, '$' ∈ f := by
  cases c with
  | invite | message | register | answer | unregister | address =>
    simp (disch := decide) only [Command.text, Command.rest, Command.args, Command.word,
      Option.map_some, List.mem_append, List.mem_cons, dollar_mem_stringify_append,
      dollar_mem_stringify_entry, fields]
    simp only [Option.mem_def, Option.mem_toList, or_and_right, exists_or]
    grind
  | info dtmf => simp [Command.text, Command.rest, Command.word, fields]
  | shutdown restart => cases restart <;> decide
  | decline | cancel | bye | markForRestart => decide

/-! ### Scanning -/

/-- Blanks at the end are those behind the last visible character. -/
theorem rdropWhile_append {p : Char → Bool} (a : CString) {b : CString}
    (hb : ∃ c ∈ b, p c = false) : (a ++ b).rdropWhile p = a ++ b.rdropWhile p := by
  have hne : (b.reverse.dropWhile p).isEmpty = false := by
    rw [Bool.eq_false_iff, Ne, List.isEmpty_iff, List.dropWhile_eq_nil_iff]
    obtain ⟨c, hc, hpc⟩ := hb
    intro h
    rw [h c (List.mem_reverse.mpr hc)] at hpc
    cases hpc
  rw [List.rdropWhile, List.rdropWhile, List.reverse_append, List.dropWhile_append, hne]
  simp

/-- Nothing is stripped from the front of a line that starts with something visible. -/
theorem dropWhile_isWs {s : CString} (h : ∃ c ∈ s.head?, isWs c = false) :
    s.dropWhile isWs = s := by
  obtain ⟨c, hc, hws⟩ := h
  obtain ⟨s', rfl⟩ := List.head?_eq_some_iff.mp hc
  rw [List.dropWhile_cons_of_neg (by simp [hws])]

/-- A text that begins with a visible character still does. -/
theorem head?_rdropWhile {s : CString} (h : ∃ c ∈ s.head?, isWs c = false) :
    (s.rdropWhile isWs).head? = s.head? := by
  obtain ⟨c, hc, hws⟩ := h
  obtain ⟨s', rfl⟩ := List.head?_eq_some_iff.mp hc
  have hpre := List.rdropWhile_prefix isWs (l := c :: s')
  cases hs : (c :: s').rdropWhile isWs with
  | nil =>
    rw [List.rdropWhile_eq_nil_iff] at hs
    rw [hs c (by simp)] at hws
    cases hws
  | cons x xs =>
    rw [hs] at hpre
    rw [(List.cons_prefix_cons.mp hpre).1]
    rfl

/-- A word, a blank and a rest that starts with something visible. -/
theorem scanCommand_rest {w r : CString} (hw : ∀ c ∈ w, isWs c = false) (hne : w ≠ [])
    (hr : ∃ c ∈ r.head?, isWs c = false) :
    scanCommand (w ++ ' ' :: r) = (w, some (r.rdropWhile isWs)) := by
  have hvisible : ∃ c ∈ ' ' :: r, isWs c = false := by
    obtain ⟨c, hc, hws⟩ := hr
    exact ⟨c, List.mem_cons_of_mem _ (List.mem_of_head? hc), hws⟩
  -- Blanks at the end are dropped, and the word and its blank stay in front of the rest.
  have hstrip : (w ++ ' ' :: r).rdropWhile isWs = w ++ ' ' :: r.rdropWhile isWs := by
    rw [rdropWhile_append w hvisible]
    congr 1
    refine rdropWhile_append [' '] ?_
    obtain ⟨c, hc, hws⟩ := hr
    exact ⟨c, List.mem_of_head? hc, hws⟩
  have hfront : (w ++ ' ' :: r.rdropWhile isWs).dropWhile isWs
      = w ++ ' ' :: r.rdropWhile isWs := by
    obtain ⟨x, xs, rfl⟩ := List.exists_cons_of_ne_nil hne
    exact dropWhile_isWs ⟨x, rfl, hw x List.mem_cons_self⟩
  have hword : ∀ c ∈ w, (!isWs c) = true := fun c hc => by simp [hw c hc]
  have hrest : (r.rdropWhile isWs).dropWhile isWs = r.rdropWhile isWs :=
    dropWhile_isWs (by rw [head?_rdropWhile hr]; exact hr)
  -- The rest has a visible character, so it is not empty.
  have hsome : r.rdropWhile isWs ≠ [] := by
    intro h
    have hhead := head?_rdropWhile hr
    rw [h] at hhead
    obtain ⟨c, hc, -⟩ := hr
    rw [← hhead] at hc
    cases hc
  have hblank : isWs ' ' = true := rfl
  simp only [scanCommand, hstrip, hfront, List.takeWhile_append_of_pos hword,
    List.dropWhile_append_of_pos hword]
  simp [hblank, hrest, hsome]

/-! ### One command -/

/-- The first member is found. -/
theorem objectForKey_head (key : String) (v : CString) (d : NSDictionary) :
    objectForKey (some (entry key (some v) ++ d)) key = some v := by
  simp [objectForKey, entry]

/-- The only member is found. -/
theorem objectForKey_entry (key : String) (v : CString) :
    objectForKey (some (entry key (some v))) key = some v := by
  simp [objectForKey, entry]

/-- A member of another name is passed over. -/
theorem objectForKey_skip {key key' : String} (h : (key.toList == key'.toList) = false)
    (value : Option CString) (d : NSDictionary) :
    objectForKey (some (entry key' value ++ d)) key = objectForKey (some d) key := by
  cases value with
  | none => rfl
  | some v => simp only [objectForKey, entry, Option.map_some, Option.toList_some,
      List.cons_append, List.nil_append, Option.bind_some, List.lookup_cons, h]

/-- A command with a dictionary makes one call, whose values are looked up in what the rest
reads as. Without a dictionary to look in, the call is a different one. -/
theorem handle_args (c : Command) {d : NSDictionary} (hargs : c.args = some d) :
    ∃ call : Option NSDictionary → SscCall,
      (∀ jsonObject cli r,
        (sofsipHandleCommand jsonObject cli c.word (some r)).2 = [call (jsonObject r)]) ∧
      sscCalls c = [call (some d)] ∧ call none ≠ call (some d) := by
  -- The call reads the parsed dictionary only, so it is given as a function of it.
  cases c with
  | invite destination sdp password sipHeaders =>
    cases hargs
    refine ⟨fun args => .invite (objectForKey args "destination") (objectForKey args "password")
      (objectForKey args "sdp") (objectForKey args "sip-headers"), fun _ _ _ => rfl, ?_, ?_⟩
    · -- The keys that are absent are left out of the JSON object, and read back as nil.
      cases sdp <;> cases password <;> cases sipHeaders <;> rfl
    · -- Without a dictionary the destination is read as nil, which it never is here.
      intro h
      injection h with hdestination
      rw [List.append_assoc, List.append_assoc, objectForKey_head] at hdestination
      cases hdestination
  | answer sdp =>
    cases hargs
    refine ⟨fun args => .answer (objectForKey args "sdp") 200 "OK".toList, fun _ _ _ => rfl, rfl,
      fun h => ?_⟩
    injection h with hsdp
    rw [objectForKey_entry] at hsdp
    cases hsdp
  | message destination msg password sipHeaders =>
    cases hargs
    refine ⟨fun args => .message (objectForKey args "destination") (objectForKey args "password")
      (objectForKey args "message") (objectForKey args "sip-headers"), fun _ _ _ => rfl, ?_, ?_⟩
    · cases password <;> cases sipHeaders <;> rfl
    · intro h
      injection h with hdestination
      rw [List.append_assoc, List.append_assoc, objectForKey_head] at hdestination
      cases hdestination
  | unregister password =>
    cases hargs
    refine ⟨fun args => .update (objectForKey args "aor") (objectForKey args "password")
      (objectForKey args "registrar") true, fun _ _ _ => rfl, rfl, fun h => ?_⟩
    injection h with _ hpassword
    rw [objectForKey_entry] at hpassword
    cases hpassword
  | register aor registrar password =>
    cases hargs
    refine ⟨fun args => .update (objectForKey args "aor") (objectForKey args "password")
      (objectForKey args "registrar") false, fun _ _ _ => rfl, ?_, fun h => ?_⟩
    · cases aor <;> rfl
    · injection h with _ _ hregistrar
      rw [List.append_assoc, objectForKey_skip (by decide), objectForKey_head] at hregistrar
      cases hregistrar
  | address aor =>
    cases hargs
    refine ⟨fun args => .setPublicAddress (objectForKey args "aor"), fun _ _ _ => rfl, rfl,
      fun h => ?_⟩
    injection h with haor
    rw [objectForKey_entry] at haor
    cases haor
  | info | decline | cancel | bye | markForRestart | shutdown => cases hargs

/-- The command words have no blanks. -/
theorem word_visible (c : Command) : (∀ x ∈ c.word, isWs x = false) ∧ c.word ≠ [] := by
  cases c with
  | shutdown restart => cases restart <;> simp [Command.word, isWs]
  | _ => simp [Command.word, isWs]

/-- What follows the word is the JSON of the arguments. -/
theorem rest_of_args {c : Command} {d : NSDictionary} (h : c.args = some d) :
    c.rest = some (stringifyDictionary d) := by
  cases c with
  | info | decline | cancel | bye | markForRestart | shutdown => cases h
  | _ => simp [Command.rest, h]

/-- The rest of a command starts with something visible, and with no `$`. -/
theorem rest_head? {c : Command} {r : CString} (h : c.rest = some r) :
    ∃ x ∈ r.head?, isWs x = false ∧ x ≠ '$' := by
  cases hargs : c.args with
  | some d =>
    rw [rest_of_args hargs] at h
    cases h
    exact ⟨'{', Json.head?_write d, by decide⟩
  | none =>
    cases c with
    | info dtmf => cases h; exact ⟨'S', rfl, by decide⟩
    | _ => simp [Command.rest, hargs] at h

/-- The command words have no `$`. -/
theorem dollar_notMem_word (c : Command) : '$' ∉ c.word := by
  cases c with
  | shutdown restart => cases restart <;> decide
  | _ => simp [Command.word]

/-- A JSON object has no blanks at its end. -/
theorem rdropWhile_stringifyDictionary (d : NSDictionary) :
    (stringifyDictionary d).rdropWhile isWs = stringifyDictionary d := by
  have hlast : (stringifyDictionary d).getLast? = some '}' := Json.getLast?_write d
  rw [List.rdropWhile_eq_self_iff]
  intro hne hws
  rw [List.getLast?_eq_some_getLast hne, Option.some.injEq] at hlast
  rw [hlast] at hws
  exact absurd hws (by decide)

/-- A cut at a `$` leaves a beginning of the rest behind the word. -/
theorem text_cut {c : Command} {p q : CString} (h : c.text = p ++ '$' :: q) :
    ∃ r p', c.rest = some r ∧ r = p' ++ '$' :: q ∧ p = c.word ++ ' ' :: p' := by
  -- A word alone has no `$` to cut at.
  cases hrest : c.rest with
  | none =>
    have hmem : '$' ∈ c.text := by rw [h]; simp
    rw [Command.text, hrest] at hmem
    exact absurd hmem (dollar_notMem_word c)
  | some r =>
    have hw : '$' ∉ c.word ++ [' '] := by simp [dollar_notMem_word c]
    have h' : (c.word ++ [' ']) ++ r = p ++ '$' :: q := by
      rw [← h, Command.text, hrest]
      simp
    refine ⟨r, ?_⟩
    -- The cut falls behind the word and its blank.
    rcases List.append_eq_append_iff.mp h' with ⟨a, rfl, ha⟩ | ⟨a, hwa, ha⟩
    · exact ⟨a, rfl, ha, by simp⟩
    · cases a with
      | nil => exact ⟨[], rfl, by simpa using ha.symm, by simpa using hwa.symm⟩
      | cons x a =>
        rw [List.cons_append, List.cons.injEq] at ha
        refine absurd ?_ hw
        rw [hwa, ← ha.1]
        simp

section Json
variable {jsonObject : CString → Option NSDictionary}
variable (hread : ∀ d, jsonObject (stringifyDictionary d) = some d)
include hread

/-- The handler makes of the text of a command the call that the command asks for. -/
theorem calls_text (cli : Cli) (c : Command) :
    (sofsipHandleInput jsonObject cli c.text).2 = sscCalls c := by
  obtain ⟨hvisible, hne⟩ := word_visible c
  cases hrest : c.rest with
  | some r =>
    -- The word and the rest are told apart by the first blank.
    have hscan : scanCommand c.text = (c.word, some (r.rdropWhile isWs)) := by
      rw [Command.text, hrest]
      obtain ⟨x, hx, hws, -⟩ := rest_head? hrest
      exact scanCommand_rest hvisible hne ⟨x, hx, hws⟩
    rw [sofsipHandleInput, hscan]
    cases hargs : c.args with
    | some d =>
      -- A dictionary is read back, and the command makes its call of it.
      obtain ⟨call, hcall, hcalls, -⟩ := handle_args c hargs
      rw [rest_of_args hargs] at hrest
      cases hrest
      rw [hcall, rdropWhile_stringifyDictionary, hread, hcalls]
    | none =>
      cases c with
      -- The two lines of the INFO lose the line end at the last one.
      | info dtmf =>
        cases hrest
        have hstrip : ("Signal=".toList ++ dtmf ++ "\r\nDuration=100\r\n".toList).rdropWhile isWs
            = "Signal=".toList ++ dtmf ++ "\r\nDuration=100".toList :=
          rdropWhile_append _ (by simp [isWs])
        rw [hstrip]
        rfl
      | _ => simp [Command.rest, hargs] at hrest
  | none =>
    cases c with
    | shutdown restart => cases restart <;> rfl
    | decline | cancel | bye => rfl
    -- A mark for a restart makes no call, whether the stack shuts down or not.
    | markForRestart =>
      have hscan : scanCommand Command.markForRestart.text = ("mr".toList, none) := by decide
      rw [sofsipHandleInput, hscan]
      change (if cli.stackIsShuttingDown then _ else _ : Cli × List SscCall).2 = []
      split <;> rfl
    | _ => cases hrest

variable (htruncated : ∀ d p q, p ++ q = stringifyDictionary d → q ≠ [] → jsonObject p = none)
include htruncated

omit hread in
/-- The part of a command before a `$` in one of its values leads to a call as well, and to
another one. -/
theorem calls_truncated (cli : Cli) {c : Command} {p q : CString} (h : c.text = p ++ '$' :: q)
    (hp : '$' ∉ p) :
    ∃ call asked, (sofsipHandleInput jsonObject cli p).2 = [call] ∧
      sscCalls c = [asked] ∧ call ≠ asked := by
  obtain ⟨hvisible, hne⟩ := word_visible c
  obtain ⟨r, p', hrest, hr, rfl⟩ := text_cut h
  obtain ⟨x, hx, hws, hdollar⟩ := rest_head? hrest
  -- The rest starts before the `$`, so the part before it starts in the same way.
  have hhead : ∃ y ∈ p'.head?, isWs y = false := by
    cases p' with
    | nil =>
      rw [hr] at hx
      cases hx
      exact absurd rfl hdollar
    | cons y p' =>
      rw [hr] at hx
      cases hx
      exact ⟨x, rfl, hws⟩
  have hscan := scanCommand_rest hvisible hne hhead
  obtain ⟨t, ht⟩ := List.rdropWhile_prefix isWs (l := p')
  cases hargs : c.args with
  | some d =>
    obtain ⟨call, hcall, hcalls, hnone⟩ := handle_args c hargs
    rw [rest_of_args hargs, Option.some.injEq] at hrest
    have hcut : jsonObject (p'.rdropWhile isWs) = none := by
      refine htruncated d _ (t ++ '$' :: q) ?_ (by simp)
      rw [hrest, hr, ← List.append_assoc, ht]
    exact ⟨call none, call (some d), by rw [sofsipHandleInput, hscan, hcall, hcut], hcalls,
      hnone⟩
  | none =>
    cases c with
    | info dtmf =>
      refine ⟨.info (some (p'.rdropWhile isWs)), _, ?_, rfl, ?_⟩
      · rw [sofsipHandleInput, hscan]
        rfl
      · intro heq
        -- The intended payload holds the `$`, the text before it does not.
        have hmem : '$' ∈ "Signal=".toList ++ dtmf ++ "\r\nDuration=100".toList := by
          cases hrest
          have hin : '$' ∈ p' ++ '$' :: q := by simp
          rw [← hr] at hin
          simpa using hin
        rw [SscCall.info.injEq, Option.some.injEq] at heq
        rw [← heq] at hmem
        refine hp (List.mem_append_right _ (List.mem_cons_of_mem _ ?_))
        rw [← ht]
        exact List.mem_append_left _ hmem
    | _ => simp [Command.rest, hargs] at hrest

/-! ### Whole commands in any batching -/

/-- The bytes that `pipeToSofia` writes for commands one after the other. -/
def commandBytes (commands : List Command) : CString :=
  commands.flatMap fun c => pipeToSofia c.text

omit hread htruncated in
/-- The first command, its `$`, and the others. -/
theorem commandBytes_cons (c : Command) (commands : List Command) :
    commandBytes (c :: commands) = c.text ++ '$' :: commandBytes commands := by
  simp [commandBytes, pipeToSofia]

/-- One batch: the calls start with those of the batch exactly when no command in it holds a
`$`, and what follows is then up to the later lines. -/
theorem handleInputs_batch (cli : Cli) (commands : List Command) (inputs : List CString)
    (later : List SscCall) :
    (sofsipHandleInputs jsonObject cli (headPieces '$' (commandBytes commands) ++ inputs)).2
        = commands.flatMap sscCalls ++ later ↔
      (∀ c ∈ commands, '$' ∉ c.text) ∧
      (sofsipHandleInputs jsonObject
        (sofsipHandleInputs jsonObject cli (commands.map Command.text)).1 inputs).2 = later := by
  induction commands generalizing cli with
  | nil => simp [commandBytes, headPieces, sofsipHandleInputs]
  | cons c commands ih =>
    have hne : c.text ≠ [] := by
      have hw := (word_visible c).2
      unfold Command.text
      split <;> simp [hw]
    rw [commandBytes_cons]
    by_cases hd : '$' ∈ c.text
    · -- The batch is cut inside the command, and the first call is not the one it asks for.
      obtain ⟨p, q, hp, hpq⟩ := exists_first_delimiter hd
      have hpne : p ≠ [] := by
        obtain ⟨r, p', -, -, rfl⟩ := text_cut hpq
        simp
      obtain ⟨call, asked, hcall, hasked, hother⟩ := calls_truncated htruncated cli hpq hp
      refine iff_of_false (fun heq => ?_) (fun h => h.1 c List.mem_cons_self hd)
      simp only [hpq, List.append_assoc, List.cons_append, headPieces_frame _ hp hpne,
        sofsipHandleInputs, hcall, List.flatMap_cons, hasked, List.nil_append,
        List.cons.injEq] at heq
      exact hother heq.1
    · simp only [headPieces_frame _ hd hne, List.cons_append, sofsipHandleInputs,
        calls_text hread, List.flatMap_cons, List.append_assoc, List.append_cancel_left_eq, ih]
      simp [hd, sofsipHandleInputs]

/-- What arrives is what was piped, exactly without a `$`. -/
theorem handleInputs_batches (cli : Cli) (batches : List (List Command)) :
    (sofsipHandleInputs jsonObject cli
        (batches.flatMap fun b => headPieces '$' (commandBytes b))).2
        = batches.flatten.flatMap sscCalls ↔
      ∀ c ∈ batches.flatten, '$' ∉ c.text := by
  induction batches generalizing cli with
  | nil => simp [sofsipHandleInputs]
  | cons b batches ih =>
    rw [List.flatMap_cons, List.flatten_cons, List.flatMap_append,
      handleInputs_batch hread htruncated, ih]
    simp only [List.mem_append, or_imp, forall_and]

/-- Whole commands, in any batching into reads, lead to exactly the calls that they ask for
if and only if no command holds a `$`. -/
theorem sofiaCalls_iff (cli : Cli) {batches : List (List Command)} (hne : ∀ b ∈ batches, b ≠ []) :
    sofiaCalls jsonObject cli (batches.map commandBytes)
        = some (batches.flatten.flatMap sscCalls) ↔
      ∀ c ∈ batches.flatten, ∀ f ∈ fields c, '$' ∉ f := by
  have hreads : ∀ b ∈ batches.map commandBytes, '$' ∈ b := by
    intro b hb
    obtain ⟨commands, hc, rfl⟩ := List.mem_map.mp hb
    obtain ⟨c, rest, rfl⟩ := List.exists_cons_of_ne_nil (hne commands hc)
    simp [commandBytes_cons]
  have hinputs := sscInputReads_eq_some.mpr ⟨hreads, rfl⟩
  have hfields : ∀ c : Command, '$' ∉ c.text ↔ ∀ f ∈ fields c, '$' ∉ f := by
    intro c
    rw [dollar_mem_text]
    simp
  rw [sofiaCalls, hinputs, Option.map_some, Option.some.injEq, List.flatMap_map]
  simp only [← hfields]
  exact handleInputs_batches hread htruncated cli batches

end Json

end RestCommSdk.Proofs
