import Mathlib.Data.List.Basic
import Mathlib.Data.List.Infix
import RestCommSdk.Lib.Utf8

/-!
# `RestCommSdk.Lib.Json`: JSON objects with string members

`write` is the text of an object whose values are all strings, one member a line. `read` is
a machine that takes such a text one character at a time, white space between the tokens
allowed. Two facts about the pair:

* `read_write`: the text of an object reads back as that object;
* `read_truncated`: no proper beginning of a written text reads as anything.

`mem_write` says which characters a text can hold: a character that is neither layout nor
part of an escape stands in the text exactly when it stands in a name or a value. `decodes_write`
says that the text of an object decodes when its names and values do.

A character is a code unit of an ASCII-compatible encoding; everything beyond ASCII passes
through both directions unchanged.
-/

set_option autoImplicit false

namespace RestCommSdk.Lib.Json

/-- The members of an object, in the order in which they are written. -/
abbrev Members := List (List Char × List Char)

/-! ### Writing -/

/-- One character of a string: the two-character escapes, `\u00..` for the other control
characters, everything else as it is. -/
def escapeChar (c : Char) : List Char :=
  if c = '"' then ['\\', '"']
  else if c = '\\' then ['\\', '\\']
  else if c = '/' then ['\\', '/']
  else if c = '\x08' then ['\\', 'b']
  else if c = '\x0c' then ['\\', 'f']
  else if c = '\n' then ['\\', 'n']
  else if c = '\r' then ['\\', 'r']
  else if c = '\t' then ['\\', 't']
  else if c.toNat < 32 then
    ['\\', 'u', '0', '0', Nat.digitChar (c.toNat / 16), Nat.digitChar (c.toNat % 16)]
  else [c]

/-- The characters of layout and escapes. -/
def layout : List Char :=
  ['{', '}', '"', '\\', '/', ':', ',', ' ', '\n'] ++ "bfnrtu0123456789abcdef".toList

/-- A string between its quotes. -/
def quote (s : List Char) : List Char :=
  '"' :: (s.flatMap escapeChar ++ ['"'])

/-- A member on a line of its own, indented by two blanks. -/
def writeMember (m : List Char × List Char) : List Char :=
  ' ' :: ' ' :: (quote m.1 ++ ' ' :: ':' :: ' ' :: quote m.2)

/-- The lines of the members after the first, each with the comma that precedes it. -/
def writeRest (members : Members) : List Char :=
  members.flatMap fun m => ',' :: '\n' :: writeMember m

/-- The text of an object. -/
def write : Members → List Char
  | [] => ['{', '\n', '\n', '}']
  | m :: rest => '{' :: '\n' :: (writeMember m ++ (writeRest rest ++ ['\n', '}']))

/-! ### Reading -/

/-- Where the machine stands inside an escape. -/
inductive Escape where
  /-- Not inside one. -/
  | none
  /-- After the backslash. -/
  | backslash
  /-- Inside `\u....`: the digits still owed after the next one, and the value so far. -/
  | unicode (owed value : Nat)
  deriving DecidableEq, Repr

/-- The part of a string that has been read. -/
structure Partial where
  text : List Char := []
  escape : Escape := .none
  deriving DecidableEq, Repr

/-- What a character makes of a partly read string. -/
inductive Fed where
  | more (p : Partial)
  | closed (text : List Char)
  | bad
  deriving DecidableEq, Repr

/-- The value of a hexadecimal digit. -/
def hexVal? (c : Char) : Option Nat :=
  if c.isDigit then some (c.toNat - '0'.toNat)
  else if 'a' ≤ c ∧ c ≤ 'f' then some (c.toNat - 'a'.toNat + 10)
  else if 'A' ≤ c ∧ c ≤ 'F' then some (c.toNat - 'A'.toNat + 10)
  else none

/-- The character that a backslash and `c` stand for. -/
def unescape? (c : Char) : Option Char :=
  if c = '"' ∨ c = '\\' ∨ c = '/' then some c
  else if c = 'b' then some '\x08'
  else if c = 'f' then some '\x0c'
  else if c = 'n' then some '\n'
  else if c = 'r' then some '\r'
  else if c = 't' then some '\t'
  else none

/-- The next character of a string. -/
def Partial.feed (p : Partial) (c : Char) : Fed :=
  match p.escape with
  | .none =>
    if c = '"' then .closed p.text
    else if c = '\\' then .more { p with escape := .backslash }
    else if c.toNat < 32 then .bad
    else .more { p with text := p.text ++ [c] }
  | .backslash =>
    if c = 'u' then .more { p with escape := .unicode 3 0 }
    else match unescape? c with
      | some x => .more { text := p.text ++ [x], escape := .none }
      | none => .bad
  | .unicode owed value =>
    match hexVal? c with
    | none => .bad
    | some x =>
      match owed with
      | 0 => .more { text := p.text ++ [Char.ofNat (16 * value + x)], escape := .none }
      | owed + 1 => .more { p with escape := .unicode owed (16 * value + x) }

/-- White space between tokens. -/
def isBlank (c : Char) : Bool :=
  c = ' ' || c = '\t' || c = '\n' || c = '\r'

/-- Where the machine stands in the text of an object, with the members read so far. -/
inductive Reader where
  /-- Before the opening brace. -/
  | start
  /-- After it. -/
  | opened
  /-- Inside a name. -/
  | name (d : Members) (p : Partial)
  /-- Between a name and its colon. -/
  | named (d : Members) (k : List Char)
  /-- Between the colon and the value. -/
  | colon (d : Members) (k : List Char)
  /-- Inside a value. -/
  | value (d : Members) (k : List Char) (p : Partial)
  /-- After a member. -/
  | next (d : Members)
  /-- After the comma that announces another member. -/
  | comma (d : Members)
  /-- After the closing brace. -/
  | done (d : Members)
  /-- The text is not an object with string members. -/
  | failed
  deriving DecidableEq, Repr

/-- The next character of the text. -/
def Reader.feed : Reader → Char → Reader
  | .start, c => if isBlank c then .start else if c = '{' then .opened else .failed
  | .opened, c =>
    if isBlank c then .opened else if c = '"' then .name [] {}
    else if c = '}' then .done [] else .failed
  | .name d p, c =>
    match p.feed c with
    | .more p => .name d p
    | .closed k => .named d k
    | .bad => .failed
  | .named d k, c => if isBlank c then .named d k else if c = ':' then .colon d k else .failed
  | .colon d k, c =>
    if isBlank c then .colon d k else if c = '"' then .value d k {} else .failed
  | .value d k p, c =>
    match p.feed c with
    | .more p => .value d k p
    | .closed v => .next (d ++ [(k, v)])
    | .bad => .failed
  | .next d, c =>
    if isBlank c then .next d else if c = ',' then .comma d
    else if c = '}' then .done d else .failed
  | .comma d, c => if isBlank c then .comma d else if c = '"' then .name d {} else .failed
  | .done d, c => if isBlank c then .done d else .failed
  | .failed, _ => .failed

/-- The object that a text stands for. -/
def read (s : List Char) : Option Members :=
  match s.foldl Reader.feed .start with
  | .done d => some d
  | _ => none

/-! ### Reading back what was written -/

/-- A hexadecimal digit is read back. -/
theorem hexVal?_digitChar {n : Nat} (h : n < 16) : hexVal? (Nat.digitChar n) = some n := by
  have hall : ∀ m < 16, hexVal? (Nat.digitChar m) = some m := by decide
  exact hall n h

/-- A character and the letter that stands for it after a backslash. -/
def escapes : List (Char × Char) :=
  [('"', '"'), ('\\', '\\'), ('/', '/'), ('\x08', 'b'), ('\x0c', 'f'), ('\n', 'n'), ('\r', 'r'),
    ('\t', 't')]

/-- What the characters with an escape of their own are written as. -/
theorem escapeChar_of_mem {c e : Char} (h : (c, e) ∈ escapes) :
    escapeChar c = ['\\', e] ∧ e ≠ 'u' ∧ unescape? e = some c ∧ e ∈ layout ∧
      (c ∈ layout ∨ c.toNat < 32) := by
  have hall : ∀ p ∈ escapes, escapeChar p.1 = ['\\', p.2] ∧ p.2 ≠ 'u' ∧
      unescape? p.2 = some p.1 ∧ p.2 ∈ layout ∧ (p.1 ∈ layout ∨ p.1.toNat < 32) := by decide
  exact hall (c, e) h

/-- A character is written with a letter, with its hexadecimal digits, or as it is. -/
theorem escapeChar_cases (c : Char) :
    (∃ e, (c, e) ∈ escapes) ∨
      c.toNat < 32 ∧ escapeChar c =
        ['\\', 'u', '0', '0', Nat.digitChar (c.toNat / 16), Nat.digitChar (c.toNat % 16)] ∨
      c ≠ '"' ∧ c ≠ '\\' ∧ ¬ c.toNat < 32 ∧ escapeChar c = [c] := by
  by_cases hmem : c ∈ escapes.map Prod.fst
  · obtain ⟨⟨c, e⟩, hpair, rfl⟩ := List.mem_map.mp hmem
    exact .inl ⟨e, hpair⟩
  · simp only [escapes, List.map_cons, List.map_nil, List.mem_cons, List.not_mem_nil, or_false,
      not_or] at hmem
    obtain ⟨h1, h2, h3, h4, h5, h6, h7, h8⟩ := hmem
    rw [escapeChar, if_neg h1, if_neg h2, if_neg h3, if_neg h4, if_neg h5, if_neg h6, if_neg h7,
      if_neg h8]
    by_cases hcontrol : c.toNat < 32
    · exact .inr (.inl ⟨hcontrol, if_pos hcontrol⟩)
    · exact .inr (.inr ⟨h1, h2, hcontrol, if_neg hcontrol⟩)

/-- Reading the escape of a character inside a string appends that character. `f` puts the
string into the state of the machine around it. -/
theorem foldl_feed_escapeChar (f : Partial → Reader)
    (hf : ∀ p q c, p.feed c = .more q → (f p).feed c = f q) (text : List Char) (c : Char) :
    (escapeChar c).foldl Reader.feed (f { text := text }) = f { text := text ++ [c] } := by
  rcases escapeChar_cases c with ⟨e, he⟩ | ⟨hcontrol, hescape⟩ | ⟨h1, h2, h3, hescape⟩
  · -- A backslash and a letter.
    obtain ⟨hescape, hu, hx, -, -⟩ := escapeChar_of_mem he
    rw [hescape, List.foldl_cons, hf _ { text := text, escape := .backslash } _ rfl,
      List.foldl_cons, hf _ { text := text ++ [c] } _ (by simp [Partial.feed, hu, hx]),
      List.foldl_nil]
  · -- A backslash, a `u` and four digits, the first two of them 0.
    have hhi := hexVal?_digitChar (n := c.toNat / 16) (by omega)
    have hlo := hexVal?_digitChar (n := c.toNat % 16) (by omega)
    have hc : Char.ofNat (16 * (c.toNat / 16) + c.toNat % 16) = c := by
      rw [Nat.div_add_mod, Char.ofNat_toNat]
    simp only [hescape, List.foldl_cons, List.foldl_nil]
    rw [hf _ { text := text, escape := .backslash } _ rfl,
      hf _ { text := text, escape := .unicode 3 0 } _ rfl,
      hf _ { text := text, escape := .unicode 2 0 } _ rfl,
      hf _ { text := text, escape := .unicode 1 0 } _ rfl,
      hf _ { text := text, escape := .unicode 0 (c.toNat / 16) } _
        (by simp [Partial.feed, hhi]),
      hf _ { text := text ++ [c] } _ (by simp [Partial.feed, hlo, hc])]
  · -- The character as it is.
    rw [hescape, List.foldl_cons,
      hf _ { text := text ++ [c] } _ (by simp [Partial.feed, h1, h2, h3]), List.foldl_nil]

/-- An escaped text is read back, in whatever it stands. -/
theorem foldl_feed_escaped (f : Partial → Reader)
    (hf : ∀ p q c, p.feed c = .more q → (f p).feed c = f q) (text s : List Char) :
    (s.flatMap escapeChar).foldl Reader.feed (f { text := text }) = f { text := text ++ s } := by
  induction s generalizing text with
  | nil => simp
  | cons c s ih =>
    rw [List.flatMap_cons, List.foldl_append, foldl_feed_escapeChar f hf, ih]
    simp

/-- A name is read as the text that it is. -/
theorem feed_name (d : Members) (p q : Partial) (c : Char) (h : p.feed c = .more q) :
    (Reader.name d p).feed c = .name d q := by
  simp [Reader.feed, h]

/-- A value is read as the text that it is. -/
theorem feed_value (d : Members) (k : List Char) (p q : Partial) (c : Char)
    (h : p.feed c = .more q) : (Reader.value d k p).feed c = .value d k q := by
  simp [Reader.feed, h]

/-- A written member adds itself to what has been read, from both places where a member may
start. -/
theorem foldl_feed_writeMember (r : Reader) (d : Members) (m : List Char × List Char)
    (hblank : r.feed ' ' = r) (hquote : r.feed '"' = .name d {}) :
    (writeMember m).foldl Reader.feed r = .next (d ++ [m]) := by
  have hname := foldl_feed_escaped (Reader.name d) (feed_name d) [] m.1
  have hvalue := foldl_feed_escaped (Reader.value d m.1) (feed_value d m.1) [] m.2
  simp only [writeMember, quote, List.foldl_cons, List.foldl_append, List.foldl_nil,
    List.cons_append, List.append_assoc, hblank, hquote, hname, List.nil_append]
  have hmid : ((((Reader.name d { text := m.1 }).feed '"').feed ' ').feed ':').feed ' '
      = .colon d m.1 := rfl
  have hopen : (Reader.colon d m.1).feed '"' = .value d m.1 {} := rfl
  rw [hmid, hopen, hvalue]
  rfl

/-- The members behind the first one are read back. -/
theorem foldl_feed_writeRest (d members : Members) :
    (writeRest members).foldl Reader.feed (.next d) = .next (d ++ members) := by
  induction members generalizing d with
  | nil => simp [writeRest]
  | cons m members ih =>
    have hstep : (writeRest (m :: members))
        = ',' :: '\n' :: (writeMember m ++ writeRest members) := by
      simp [writeRest]
    have hcomma : ((Reader.next d).feed ',').feed '\n' = .comma d := rfl
    rw [hstep, List.foldl_cons, List.foldl_cons, hcomma, List.foldl_append,
      foldl_feed_writeMember (.comma d) d m rfl rfl, ih, List.append_assoc]
    rfl

/-- An object is read back. -/
theorem foldl_feed_write (d : Members) : (write d).foldl Reader.feed .start = .done d := by
  cases d with
  | nil => rfl
  | cons m members =>
    have hopened : (Reader.start.feed '{').feed '\n' = .opened := rfl
    have hclose : ((Reader.next (m :: members)).feed '\n').feed '}' = .done (m :: members) := rfl
    rw [write, List.foldl_cons, List.foldl_cons, hopened, List.foldl_append,
      foldl_feed_writeMember .opened [] m rfl rfl, List.foldl_append, List.nil_append,
      foldl_feed_writeRest, List.singleton_append, List.foldl_cons, List.foldl_cons, hclose,
      List.foldl_nil]

/-- The text of an object reads back as that object. -/
theorem read_write (d : Members) : read (write d) = some d := by
  simp [read, foldl_feed_write]

/-! ### Truncated texts -/

/-- A reader that has failed stays so. -/
theorem foldl_feed_failed (s : List Char) : s.foldl Reader.feed .failed = .failed := by
  induction s with
  | nil => rfl
  | cons c s ih => exact ih

/-- After the closing brace only white space keeps the object. -/
theorem foldl_feed_done {d : Members} {s : List Char} (h : ∃ c ∈ s, isBlank c = false) :
    s.foldl Reader.feed (.done d) = .failed := by
  induction s with
  | nil => simp at h
  | cons c s ih =>
    rw [List.foldl_cons]
    by_cases hc : isBlank c
    · have hfeed : (Reader.done d).feed c = .done d := by simp [Reader.feed, hc]
      rw [hfeed]
      obtain ⟨x, hx, hxb⟩ := h
      rcases List.mem_cons.mp hx with rfl | hx
      · rw [hc] at hxb; cases hxb
      · exact ih ⟨x, hx, hxb⟩
    · have hfeed : (Reader.done d).feed c = .failed := by simp [Reader.feed, hc]
      rw [hfeed, foldl_feed_failed]

/-- An object ends with its closing brace. -/
theorem getLast?_write (d : Members) : (write d).getLast? = some '}' := by
  cases d with
  | nil => rfl
  | cons m members =>
    have h : write (m :: members)
        = ('{' :: '\n' :: (writeMember m ++ (writeRest members ++ ['\n']))) ++ ['}'] := by
      simp [write]
    rw [h, List.getLast?_concat]

/-- No proper beginning of a written text reads as an object. -/
theorem read_truncated {d : Members} {p q : List Char} (h : p ++ q = write d) (hq : q ≠ []) :
    read p = none := by
  have hlast : '}' ∈ q := by
    have hl := getLast?_write d
    rw [← h, List.getLast?_append_of_ne_nil _ hq] at hl
    exact List.mem_of_getLast? hl
  cases hp : p.foldl Reader.feed .start with
  | done d' =>
    -- The object would be complete before the closing brace of the text arrives.
    have hfail := foldl_feed_write d
    rw [← h, List.foldl_append, hp, foldl_feed_done ⟨'}', hlast, rfl⟩] at hfail
    cases hfail
  | _ => simp [read, hp]

/-! ### The characters of a written text -/

/-- An object begins with its opening brace. -/
theorem head?_write (d : Members) : (write d).head? = some '{' := by
  cases d <;> rfl

section Mem
variable {x : Char} (hx : x ∉ layout) (hprint : 32 ≤ x.toNat)
include hx

/-- A character that is no part of the layout. -/
theorem notMem_of_layout {l : List Char} (h : ∀ y ∈ l, y ∈ layout) : x ∉ l :=
  fun hm => hx (h x hm)

include hprint

/-- Such a character is in an escape only as itself. -/
theorem mem_escapeChar (c : Char) : x ∈ escapeChar c ↔ x = c := by
  -- An escape is layout, and stands for layout or for a control character.
  have hescaped : ∀ l : List Char, (∀ y ∈ l, y ∈ layout) → (c ∈ layout ∨ c.toNat < 32) →
      (x ∈ l ↔ x = c) := by
    intro l hl hc
    refine iff_of_false (notMem_of_layout hx hl) ?_
    rintro rfl
    rcases hc with hc | hc
    · exact hx hc
    · omega
  rcases escapeChar_cases c with ⟨e, he⟩ | ⟨hcontrol, hescape⟩ | ⟨-, -, -, hescape⟩
  · obtain ⟨hescape, -, -, hlayout, hc⟩ := escapeChar_of_mem he
    rw [hescape]
    refine hescaped _ (fun y hy => ?_) hc
    rcases List.mem_cons.mp hy with rfl | hy
    · simp [layout]
    · rw [List.mem_singleton.mp hy]
      exact hlayout
  · rw [hescape]
    refine hescaped _ ?_ (Or.inr hcontrol)
    have hdigit : ∀ n < 16, Nat.digitChar n ∈ layout := by decide
    have hhi := hdigit (c.toNat / 16) (by omega)
    have hlo := hdigit (c.toNat % 16) (by omega)
    have hstart : ∀ y ∈ ['\\', 'u', '0', '0'], y ∈ layout := by simp [layout]
    intro y hy
    rcases List.mem_append.mp (show y ∈ ['\\', 'u', '0', '0'] ++ _ from hy) with hy | hy
    · exact hstart y hy
    · simp only [List.mem_cons, List.not_mem_nil, or_false] at hy
      rcases hy with rfl | rfl
      · exact hhi
      · exact hlo
  · rw [hescape]
    simp

/-- Quotes bring no such character. -/
theorem mem_quote (s : List Char) : x ∈ quote s ↔ x ∈ s := by
  have hquote : x ≠ '"' := fun h => hx (h ▸ by decide)
  have hbody : x ∈ s.flatMap escapeChar ↔ x ∈ s := by
    simp [List.mem_flatMap, mem_escapeChar hx hprint]
  simp [quote, hquote, hbody]

/-- It comes from the name or from the value. -/
theorem mem_writeMember (m : List Char × List Char) :
    x ∈ writeMember m ↔ x ∈ m.1 ∨ x ∈ m.2 := by
  have hblank : x ≠ ' ' := fun h => hx (h ▸ by decide)
  have hcolon : x ≠ ':' := fun h => hx (h ▸ by decide)
  simp [writeMember, mem_quote hx hprint, hblank, hcolon]

/-- A printable character that is neither layout nor part of an escape stands in the text of
an object exactly when it stands in a name or in a value. -/
theorem mem_write (d : Members) : x ∈ write d ↔ ∃ m ∈ d, x ∈ m.1 ∨ x ∈ m.2 := by
  cases d with
  | nil => exact iff_of_false (notMem_of_layout hx (by simp [write, layout])) (by simp)
  | cons m members =>
    have hopen : x ≠ '{' := fun h => hx (h ▸ by decide)
    have hclose : x ≠ '}' := fun h => hx (h ▸ by decide)
    have hline : x ≠ '\n' := fun h => hx (h ▸ by decide)
    have hcomma : x ≠ ',' := fun h => hx (h ▸ by decide)
    have hrest : x ∈ writeRest members ↔ ∃ m ∈ members, x ∈ m.1 ∨ x ∈ m.2 := by
      simp [writeRest, List.mem_flatMap, hcomma, hline, mem_writeMember hx hprint]
    simp [write, hopen, hclose, hline, hrest, mem_writeMember hx hprint]

end Mem

/-! ### Texts that decode -/

/-- Layout is ASCII. -/
theorem ascii_of_mem_layout {c : Char} (h : c ∈ layout) : c.toNat < 0x80 := by
  have hall : layout.all (·.toNat < 0x80) = true := by decide
  exact of_decide_eq_true (List.all_eq_true.mp hall c h)

/-- An ASCII character is written in ASCII. -/
theorem ascii_escapeChar (c : Char) (hc : c.toNat < 0x80) :
    ∀ x ∈ escapeChar c, x.toNat < 0x80 := by
  intro x hx
  by_cases hxc : x = c
  · rwa [hxc]
  · -- Whatever else stands there is layout, or a control character.
    by_contra hlarge
    have hlayout : x ∉ layout := fun hmem => hlarge (ascii_of_mem_layout hmem)
    exact hxc ((mem_escapeChar hlayout (by omega) c).mp hx)

/-- Any other character is written as it is. -/
theorem escapeChar_of_not_ascii (c : Char) (hc : 0x80 ≤ c.toNat) : escapeChar c = [c] := by
  rcases escapeChar_cases c with ⟨e, he⟩ | ⟨hcontrol, -⟩ | ⟨-, -, -, hescape⟩
  · obtain ⟨-, -, -, -, hlayout | hcontrol⟩ := escapeChar_of_mem he
    · have hascii := ascii_of_mem_layout hlayout
      omega
    · omega
  · omega
  · exact hescape

/-- A quoted text decodes. -/
theorem decodes_quote {s : List Char} (hs : decodes s = true) : decodes (quote s) = true := by
  have hbody := decodes_flatMap ascii_escapeChar escapeChar_of_not_ascii hs
  show decodes (['"'] ++ (s.flatMap escapeChar ++ ['"'])) = true
  rw [decodes_append (by decide), decodes_append hbody]
  decide

/-- A member decodes. -/
theorem decodes_writeMember {m : List Char × List Char} (hname : decodes m.1 = true)
    (hvalue : decodes m.2 = true) : decodes (writeMember m) = true := by
  show decodes ([' ', ' '] ++ (quote m.1 ++ ([' ', ':', ' '] ++ quote m.2))) = true
  rw [decodes_append (by decide), decodes_append (decodes_quote hname),
    decodes_append (by decide)]
  exact decodes_quote hvalue

/-- The members behind the first one decode. -/
theorem decodes_writeRest {members : Members}
    (h : ∀ m ∈ members, decodes m.1 = true ∧ decodes m.2 = true) :
    decodes (writeRest members) = true := by
  induction members with
  | nil => rfl
  | cons m members ih =>
    obtain ⟨⟨hname, hvalue⟩, hrest⟩ := List.forall_mem_cons.mp h
    show decodes ([',', '\n'] ++ writeMember m ++ writeRest members) = true
    rw [List.append_assoc, decodes_append (by decide),
      decodes_append (decodes_writeMember hname hvalue)]
    exact ih hrest

/-- The text of an object decodes when its names and its values do. -/
theorem decodes_write {d : Members} (h : ∀ m ∈ d, decodes m.1 = true ∧ decodes m.2 = true) :
    decodes (write d) = true := by
  cases d with
  | nil => decide
  | cons m members =>
    obtain ⟨⟨hname, hvalue⟩, hrest⟩ := List.forall_mem_cons.mp h
    show decodes (['{', '\n'] ++ (writeMember m ++ (writeRest members ++ ['\n', '}']))) = true
    rw [decodes_append (by decide), decodes_append (decodes_writeMember hname hvalue),
      decodes_append (decodes_writeRest hrest)]
    decide

end RestCommSdk.Lib.Json
