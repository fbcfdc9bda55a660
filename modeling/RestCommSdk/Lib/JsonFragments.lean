import RestCommSdk.Lib.Json

/-!
# `RestCommSdk.Lib.JsonFragments`: the end of a JSON text

When the text of an object is cut inside a value, what stands behind the cut is not the text of an
object with a member, and neither is any beginning of it. An object with a member opens its first
name with its first quote, and a colon follows the name (`OpensMember`). Behind the cut the first
quote is escaped, or it is the one that closes the value, and then no colon follows the next one
(`Continues`).

* `opensMember_of_read`: what `read` takes for an object with a member opens one;
* `continues_of_write`: what stands behind a character of a value continues a text;
* `Continues.not_opensMember`: the two exclude each other, also behind a word without a quote.
-/

set_option autoImplicit false

namespace RestCommSdk.Lib.Json

/-- A name follows, or the white space before it. -/
def startsName (c : Char) : Bool := c ≠ ':' && !isBlank c

/-- The first quote of the text opens a name, and a colon follows the name. -/
def OpensMember (s : List Char) : Prop :=
  ∃ before name after, s = before ++ '"' :: (name ++ '"' :: after) ∧
    (∀ c ∈ before, c = '{' ∨ isBlank c) ∧
    (∀ x y, name = x ++ '"' :: y → x.getLast? = some '\\') ∧
    ∃ c ∈ after.head?, startsName c = false

/-- The first quote of the text is escaped, or what follows it up to the next quote is no name. -/
def Continues (s : List Char) : Prop :=
  ∀ before after, s = before ++ '"' :: after → '"' ∉ before →
    before.getLast? = some '\\' ∨
      ∀ x y, after = x ++ '"' :: y → '"' ∉ x →
        x.getLast? ≠ some '\\' ∧ ∀ c ∈ y.head?, startsName c

/-! ### The two exclude each other -/

/-- A text with a quote has a first one. -/
theorem first_quote {s x y : List Char} (h : s = x ++ '"' :: y) :
    ∃ x' y', s = x' ++ '"' :: y' ∧ '"' ∉ x' := by
  obtain ⟨x', y', hs, hx'⟩ := List.eq_append_cons_of_mem (show '"' ∈ s by simp [h])
  exact ⟨x', y', hs, hx'⟩

/-- Two splits, where the first one is at the first quote. -/
theorem first_quote_le {x y x' y' : List Char} (h : x ++ '"' :: y = x' ++ '"' :: y')
    (hx : '"' ∉ x) : x' = x ∧ y' = y ∨ ∃ z, x' = x ++ '"' :: z := by
  rcases List.append_eq_append_iff.mp h with ⟨z, rfl, hz⟩ | ⟨z, hxz, hz⟩
  · cases z with
    | nil => exact .inl ⟨List.append_nil x, (List.cons.inj hz).2.symm⟩
    | cons c z => exact .inr ⟨z, by rw [← (List.cons.inj hz).1]⟩
  · cases z with
    | nil => exact .inl ⟨by simpa using hxz.symm, (List.cons.inj hz).2⟩
    | cons c z =>
      refine absurd ?_ hx
      rw [hxz, ← (List.cons.inj hz).1]
      simp

/-- Two splits at the first quote are one. -/
theorem first_quote_eq {x y x' y' : List Char} (h : x ++ '"' :: y = x' ++ '"' :: y')
    (hx : '"' ∉ x) (hx' : '"' ∉ x') : x' = x ∧ y' = y :=
  (first_quote_le h hx).resolve_right fun ⟨z, hz⟩ => hx' (by simp [hz])

/-- What continues a text still does so when it ends sooner. -/
theorem Continues.of_prefix {p s : List Char} (h : Continues s) (hp : p <+: s) : Continues p := by
  obtain ⟨t, rfl⟩ := hp
  rintro before after rfl hbefore
  refine (h before (after ++ t) (by simp) hbefore).imp_right fun hafter => ?_
  rintro x y rfl hx
  obtain ⟨hlast, hnext⟩ := hafter x (y ++ t) (by simp) hx
  refine ⟨hlast, fun c hc => hnext c ?_⟩
  cases y with
  | nil => cases hc
  | cons d y => exact hc

/-- Behind a word without a quote, what continues a text opens no member. -/
theorem Continues.not_opensMember {w s : List Char} (h : Continues (w ++ s)) (hw : '"' ∉ w)
    (hlast : w.getLast? ≠ some '\\') : ¬ OpensMember s := by
  rintro ⟨before, name, after, rfl, hbefore, hname, c, hc, hcolon⟩
  have hblank : '"' ∉ before := fun hmem => by simpa [isBlank] using hbefore _ hmem
  rcases h (w ++ before) (name ++ '"' :: after) (by simp) (by simp [hw, hblank]) with
    hescaped | hnext
  · -- Before the first quote there is an opening brace, white space or the word.
    cases hb : before.getLast? with
    | none =>
      rw [List.getLast?_append, hb, Option.none_or] at hescaped
      exact hlast hescaped
    | some d =>
      rw [List.getLast?_append, hb, Option.some_or, Option.some.injEq] at hescaped
      subst hescaped
      simpa [isBlank] using hbefore _ (List.mem_of_getLast? hb)
  · -- The name ends at the next quote: its own quotes are escaped.
    obtain ⟨x, y, hxy, hx⟩ := first_quote (rfl : name ++ '"' :: after = name ++ '"' :: after)
    obtain ⟨hx', hy⟩ := hnext x y hxy hx
    rcases first_quote_le hxy.symm hx with ⟨rfl, rfl⟩ | ⟨z, rfl⟩
    · rw [hy c hc] at hcolon
      cases hcolon
    · exact hx' (hname x z rfl)

/-! ### What is read as an object with a member -/

/-- Nothing is added to an object that is complete. -/
theorem eq_of_done {d d' : Members} {s : List Char}
    (h : s.foldl Reader.feed (.done d) = .done d') : d' = d := by
  induction s with
  | nil => exact (Reader.done.inj h).symm
  | cons c s ih =>
    rw [List.foldl_cons, Reader.feed] at h
    split at h
    · exact ih h
    · rw [foldl_feed_failed] at h
      cases h

/-- Before the first name there are the brace and white space. -/
theorem opened_of_done {d : Members} (hd : d ≠ []) {r : Reader} (hr : r = .start ∨ r = .opened)
    {s : List Char} (h : s.foldl Reader.feed r = .done d) :
    ∃ before rest, s = before ++ '"' :: rest ∧ (∀ c ∈ before, c = '{' ∨ isBlank c) ∧
      rest.foldl Reader.feed (.name [] {}) = .done d := by
  induction s generalizing r with
  | nil => rcases hr with rfl | rfl <;> cases h
  | cons c s ih =>
    have hmore : ∀ r', r' = .start ∨ r' = .opened → (c = '{' ∨ isBlank c) →
        s.foldl Reader.feed r' = .done d → ∃ before rest, c :: s = before ++ '"' :: rest ∧
          (∀ c ∈ before, c = '{' ∨ isBlank c) ∧
            rest.foldl Reader.feed (.name [] {}) = .done d := fun r' hr' hc h' => by
      obtain ⟨before, rest, rfl, hbefore, hrest⟩ := ih hr' h'
      exact ⟨c :: before, rest, rfl, List.forall_mem_cons.mpr ⟨hc, hbefore⟩, hrest⟩
    rw [List.foldl_cons] at h
    rcases hr with rfl | rfl
    · simp only [Reader.feed] at h
      split at h
      · exact hmore _ (.inl rfl) (.inr ‹_›) h
      · split at h
        · exact hmore _ (.inr rfl) (.inl ‹_›) h
        · rw [foldl_feed_failed] at h
          cases h
    · simp only [Reader.feed] at h
      split at h
      · exact hmore _ (.inr rfl) (.inr ‹_›) h
      · split at h
        · subst c
          exact ⟨[], s, rfl, fun x hx => (by cases hx), h⟩
        · split at h
          · -- The object would be empty.
            exact absurd (eq_of_done h) hd
          · rw [foldl_feed_failed] at h
            cases h

/-- A quote goes on with a string only behind a backslash. -/
theorem escape_of_feed_quote {p q : Partial} (h : p.feed '"' = .more q) :
    p.escape = .backslash := by
  unfold Partial.feed at h
  split at h
  · simp at h
  · assumption
  · simp [hexVal?] at h

/-- Only a backslash outside an escape starts an escape. -/
theorem backslash_of_feed {p q : Partial} {c : Char} (h : p.feed c = .more q)
    (hq : q.escape = .backslash) : c = '\\' := by
  unfold Partial.feed at h
  split at h
  · split_ifs at h
    · assumption
    · cases h
      simp_all
  · split at h
    · cases h
      cases hq
    · split at h <;> cases h
      cases hq
  · split at h
    · cases h
    · split at h <;> cases h <;> cases hq

/-- A name ends at its first quote that is not escaped. -/
theorem named_of_done {d d₀ : Members} {p : Partial} {s : List Char}
    (h : s.foldl Reader.feed (.name d₀ p) = .done d) :
    ∃ name after k, s = name ++ '"' :: after ∧
      (∀ x y, name = x ++ '"' :: y →
        x.getLast? = some '\\' ∨ x = [] ∧ p.escape = .backslash) ∧
      after.foldl Reader.feed (.named d₀ k) = .done d := by
  induction s generalizing p with
  | nil => cases h
  | cons c s ih =>
    -- The name ends at this quote, or the reader fails, or it goes on.
    rw [List.foldl_cons] at h
    cases hfeed : p.feed c with
    | closed k =>
      have hc : c = '"' := by
        unfold Partial.feed at hfeed
        split at hfeed
        · split_ifs at hfeed
          assumption
        · split at hfeed
          · cases hfeed
          · split at hfeed <;> cases hfeed
        · split at hfeed
          · cases hfeed
          · split at hfeed <;> cases hfeed
      subst hc
      have hstep : (Reader.name d₀ p).feed '"' = .named d₀ k := by simp [Reader.feed, hfeed]
      rw [hstep] at h
      exact ⟨[], s, k, rfl, fun x y hxy => by simp at hxy, h⟩
    | bad =>
      have hstep : (Reader.name d₀ p).feed c = .failed := by simp [Reader.feed, hfeed]
      rw [hstep, foldl_feed_failed] at h
      cases h
    | more q =>
      rw [feed_name d₀ p q c hfeed] at h
      obtain ⟨name, after, k, rfl, hname, hafter⟩ := ih h
      refine ⟨c :: name, after, k, rfl, fun x y hxy => ?_, hafter⟩
      cases x with
      -- A quote that is read on was behind a backslash.
      | nil =>
        obtain ⟨rfl, -⟩ := List.cons.inj hxy
        exact .inr ⟨rfl, escape_of_feed_quote hfeed⟩
      | cons c' x =>
        obtain ⟨rfl, hname'⟩ := List.cons.inj hxy
        left
        -- The quote in question stands later, and the reader got there from `q`.
        rcases hname x y hname' with hlast | ⟨rfl, hq⟩
        · rw [List.getLast?_cons, hlast]
          rfl
        · rw [backslash_of_feed hfeed hq]
          rfl

/-- What reads as an object with a member opens one. -/
theorem opensMember_of_read {s : List Char} {d : Members} (h : read s = some d) (hd : d ≠ []) :
    OpensMember s := by
  have hdone : s.foldl Reader.feed .start = .done d := by
    unfold read at h
    split at h
    · cases h
      assumption
    · cases h
  -- What was read has a member, so a name was opened.
  obtain ⟨before, rest, rfl, hbefore, hrest⟩ := opened_of_done hd (.inl rfl) hdone
  obtain ⟨name, after, k, rfl, hname, hafter⟩ := named_of_done hrest
  refine ⟨before, name, after, rfl, hbefore, fun x y hxy => ?_, ?_⟩
  · exact (hname x y hxy).resolve_right fun h => by cases h.2
  · cases after with
    | nil => cases hafter
    | cons c after =>
      refine ⟨c, rfl, ?_⟩
      -- Behind the name stands a colon or a blank, else the reader fails.
      by_contra hstarts
      obtain ⟨hcolon, hblank⟩ : c ≠ ':' ∧ isBlank c = false := by
        simpa [startsName] using hstarts
      have hfeed : (Reader.named [] k).feed c = .failed := by simp [Reader.feed, hcolon, hblank]
      rw [List.foldl_cons, hfeed, foldl_feed_failed] at hafter
      cases hafter

/-! ### What stands behind a character of a value -/

/-- An escape has no quote but behind its backslash, and starts like the character or with a
backslash. -/
theorem escapeChar_shape (c : Char) :
    (∀ x y, escapeChar c = x ++ '"' :: y → x.getLast? = some '\\') ∧
      ∃ e r, escapeChar c = e :: r ∧ (e = '\\' ∨ e = c) := by
  rcases escapeChar_cases c with ⟨e, he⟩ | ⟨hcontrol, hescape⟩ | ⟨hquote, -, -, hescape⟩
  · -- A character with an escape of its own, two letters long.
    obtain ⟨hescape, -, -, -, -⟩ := escapeChar_of_mem he
    rw [hescape]
    refine ⟨fun x y hxy => ?_, '\\', [e], rfl, .inl rfl⟩
    cases x with
    | nil => simp at hxy
    | cons b x =>
      cases x with
      | nil => rw [← (List.cons.inj hxy).1]; rfl
      | cons b' x => simp at hxy
  · rw [hescape]
    refine ⟨fun x y hxy => ?_, '\\', _, rfl, .inl rfl⟩
    -- A control character is written as four digits, none of them a quote.
    have hdigit : ∀ n < 16, Nat.digitChar n ≠ '"' := by decide
    have hmem : '"' ∈ ['\\', 'u', '0', '0', Nat.digitChar (c.toNat / 16),
        Nat.digitChar (c.toNat % 16)] := by rw [hxy]; simp
    have hhi := hdigit (c.toNat / 16) (by omega)
    have hlo := hdigit (c.toNat % 16) (by omega)
    simp [hhi.symm, hlo.symm] at hmem
  · -- Any other character is written as it is, and it is no quote.
    rw [hescape]
    refine ⟨fun x y hxy => ?_, c, [], rfl, .inr rfl⟩
    have hmem : '"' ∈ [c] := by rw [hxy]; simp
    exact absurd (List.mem_singleton.mp hmem).symm hquote

/-- In an escaped string every quote stands behind a backslash. -/
theorem escaped_quote {s x y : List Char} (h : s.flatMap escapeChar = x ++ '"' :: y) :
    x.getLast? = some '\\' := by
  induction s generalizing x with
  | nil => simp at h
  | cons c s ih =>
    rw [List.flatMap_cons] at h
    rcases List.append_eq_append_iff.mp h with ⟨z, rfl, hz⟩ | ⟨z, hx, hz⟩
    · have hlast := ih hz
      rw [List.getLast?_append, hlast, Option.some_or]
    · cases z with
      | nil =>
        -- The quote would be the first character behind the escape.
        have hlast := ih (x := []) (by simpa using hz.symm)
        cases hlast
      | cons q z =>
        obtain ⟨rfl, -⟩ := List.cons.inj hz
        exact (escapeChar_shape c).1 x z hx

section Cut
variable {c : Char} (hc : c ∉ layout) (hprint : 32 ≤ c.toNat)
include hc hprint

/-- What stands behind a character of an escaped string is escaped too. -/
theorem escaped_behind {v x y : List Char} (h : v.flatMap escapeChar = x ++ c :: y) :
    ∃ w : List Char, y = w.flatMap escapeChar := by
  induction v generalizing x with
  | nil => simp at h
  | cons d v ih =>
    rw [List.flatMap_cons] at h
    rcases List.append_eq_append_iff.mp h with ⟨z, rfl, hz⟩ | ⟨z, hx, hz⟩
    · exact ih hz
    · cases z with
      | nil => exact ih (x := []) (by simpa using hz.symm)
      | cons e z =>
        obtain ⟨rfl, rfl⟩ := List.cons.inj hz
        -- The character stands in no escape but its own, which it is.
        have hmem : c ∈ escapeChar d := by rw [hx]; simp
        obtain rfl := (mem_escapeChar hc hprint d).mp hmem
        rcases escapeChar_cases c with ⟨e, he⟩ | ⟨hcontrol, -⟩ | ⟨-, -, -, hescape⟩
        · obtain ⟨-, -, -, -, hlayout | hcontrol⟩ := escapeChar_of_mem he
          · exact absurd hlayout hc
          · omega
        · omega
        · rw [hescape] at hx
          cases x with
          | nil =>
            obtain ⟨-, rfl⟩ := List.cons.inj hx
            exact ⟨v, rfl⟩
          | cons b x => simp at hx

omit hc hprint in
/-- A list cut at an element that its beginning does not have. -/
theorem cut_behind {a b x y : List Char} (h : a ++ b = x ++ c :: y) (ha : c ∉ a) :
    ∃ x', b = x' ++ c :: y := by
  rcases List.append_eq_append_iff.mp h with ⟨z, rfl, hz⟩ | ⟨z, hx, hz⟩
  · exact ⟨z, hz⟩
  · cases z with
    | nil => exact ⟨[], by simpa using hz.symm⟩
    | cons e z =>
      obtain ⟨rfl, -⟩ := List.cons.inj hz
      exact absurd (by simp [hx]) ha

/-- A member that is cut is cut in its value. -/
theorem cut_member {m : List Char × List Char} (hkey : c ∉ m.1) {rest x y : List Char}
    (h : writeMember m ++ rest = x ++ c :: y) :
    (∃ w : List Char, y = w.flatMap escapeChar ++ '"' :: rest) ∨ ∃ x', rest = x' ++ c :: y := by
  have hlayout : ∀ l : List Char, l ⊆ layout → c ∉ l := fun _ => notMem_of_layout hc
  -- The key and what stands around it have no such character.
  have hhead : c ∉ ' ' :: ' ' :: (quote m.1 ++ [' ', ':', ' ', '"']) := by
    have hquote := (mem_quote hc hprint m.1).not.mpr hkey
    have hseparator := hlayout [' ', ' ', ' ', ':', ' ', '"'] (by decide)
    simp only [List.mem_cons, List.mem_append, not_or] at hseparator ⊢
    tauto
  have htext : writeMember m ++ rest = (' ' :: ' ' :: (quote m.1 ++ [' ', ':', ' ', '"'])) ++
      (m.2.flatMap escapeChar ++ '"' :: rest) := by simp [writeMember, quote]
  rw [htext] at h
  obtain ⟨x', hx'⟩ := cut_behind h hhead
  rcases List.append_eq_append_iff.mp hx' with ⟨z, rfl, hz⟩ | ⟨z, hx, hz⟩
  · -- The value ends in front of the cut, which is in the rest.
    obtain ⟨x'', hx''⟩ := cut_behind (a := ['"']) (b := rest) hz (hlayout _ (by decide))
    exact .inr ⟨x'', hx''⟩
  · cases z with
    | nil =>
      obtain ⟨x'', hx''⟩ := cut_behind (a := ['"']) (b := rest) (x := []) (by simpa using hz.symm)
        (hlayout _ (by decide))
      exact .inr ⟨x'', hx''⟩
    | cons e z =>
      obtain ⟨rfl, rfl⟩ := List.cons.inj hz
      -- The cut is inside the value, and what is left of it is escaped.
      obtain ⟨w, rfl⟩ := escaped_behind hc hprint hx
      exact .inl ⟨w, rfl⟩

omit hc hprint in
/-- The end of a value continues a text, when the names that follow are names. -/
theorem continues_close {members : Members} (hkeys : ∀ m ∈ members, ∀ e ∈ m.1.head?, startsName e)
    (w : List Char) :
    Continues (w.flatMap escapeChar ++ '"' :: (writeRest members ++ ['\n', '}'])) := by
  intro before after h hbefore
  by_cases hescaped : '"' ∈ w.flatMap escapeChar
  · -- The first quote is one of the value.
    obtain ⟨x, y, hxy, hx⟩ := List.eq_append_cons_of_mem hescaped
    rw [hxy, List.append_assoc, List.cons_append] at h
    obtain ⟨rfl, -⟩ := first_quote_eq h hx hbefore
    exact .inl (escaped_quote hxy)
  · -- The quote closes the value, and the next one, if any, opens the name of a member.
    obtain ⟨rfl, rfl⟩ := first_quote_eq h hescaped hbefore
    right
    intro x y hxy hx
    cases members with
    | nil =>
      have hmem : '"' ∈ writeRest [] ++ ['\n', '}'] := by rw [hxy]; simp
      simp [writeRest] at hmem
    | cons m members =>
      have htext : writeRest (m :: members) ++ ['\n', '}'] = [',', '\n', ' ', ' '] ++
          '"' :: (m.1.flatMap escapeChar ++ '"' :: ' ' :: ':' :: ' ' :: quote m.2 ++
            (writeRest members ++ ['\n', '}'])) := by
        simp [writeRest, writeMember, quote]
      rw [htext] at hxy
      obtain ⟨rfl, rfl⟩ := first_quote_eq hxy (by decide) hx
      refine ⟨by decide, fun e he => ?_⟩
      cases hkey : m.1 with
      | nil =>
        rw [hkey] at he
        obtain rfl : '"' = e := by simpa using he
        rfl
      | cons k key =>
        obtain ⟨e', r, hescape, hfirst⟩ := (escapeChar_shape k).2
        rw [hkey, List.flatMap_cons, hescape] at he
        obtain rfl : e' = e := by simpa using he
        rcases hfirst with rfl | rfl
        · rfl
        · exact hkeys m List.mem_cons_self _ (by rw [hkey]; rfl)

/-- What stands behind a cut continues the text. -/
theorem continues_of_writeRest {members : Members} (hnames : ∀ m ∈ members, c ∉ m.1)
    (hkeys : ∀ m ∈ members, ∀ e ∈ m.1.head?, startsName e) {x y : List Char}
    (h : writeRest members ++ ['\n', '}'] = x ++ c :: y) : Continues y := by
  have hlayout : ∀ l : List Char, l ⊆ layout → c ∉ l := fun _ => notMem_of_layout hc
  induction members generalizing x with
  | nil =>
    refine absurd ?_ (hlayout ['\n', '}'] (by decide))
    have hmem : c ∈ writeRest [] ++ ['\n', '}'] := by rw [h]; simp
    exact hmem
  | cons m members ih =>
    have htext : writeRest (m :: members) ++ ['\n', '}'] =
        [',', '\n'] ++ (writeMember m ++ (writeRest members ++ ['\n', '}'])) := by
      simp [writeRest]
    rw [htext] at h
    -- The separator has no such character, so the cut is behind it.
    obtain ⟨x', hx'⟩ := cut_behind h (hlayout _ (by decide))
    obtain ⟨hname, hnames⟩ := List.forall_mem_cons.mp hnames
    obtain ⟨-, hkeys⟩ := List.forall_mem_cons.mp hkeys
    rcases cut_member hc hprint hname hx' with ⟨w, rfl⟩ | ⟨x'', hx''⟩
    · -- Cut inside a value: its end closes, and the other members follow.
      exact continues_close hkeys w
    · exact ih hnames hkeys hx''

/-- What is behind a character of an object that is not in a name. -/
theorem continues_of_write {d : Members} (hnames : ∀ m ∈ d, c ∉ m.1)
    (hkeys : ∀ m ∈ d, ∀ e ∈ m.1.head?, startsName e) {x y : List Char}
    (h : write d = x ++ c :: y) : Continues y := by
  have hlayout : ∀ l : List Char, l ⊆ layout → c ∉ l := fun _ => notMem_of_layout hc
  cases d with
  | nil =>
    refine absurd ?_ (hlayout (write []) (by decide))
    rw [h]
    simp
  | cons m members =>
    obtain ⟨x', hx'⟩ := cut_behind (a := ['{', '\n'])
      (b := writeMember m ++ (writeRest members ++ ['\n', '}'])) h (hlayout _ (by decide))
    obtain ⟨hname, hnames⟩ := List.forall_mem_cons.mp hnames
    obtain ⟨-, hkeys⟩ := List.forall_mem_cons.mp hkeys
    rcases cut_member hc hprint hname hx' with ⟨w, rfl⟩ | ⟨x'', hx''⟩
    · exact continues_close hkeys w
    · exact continues_of_writeRest hc hprint hnames hkeys hx''

end Cut

end RestCommSdk.Lib.Json
