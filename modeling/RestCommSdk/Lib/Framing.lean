import Mathlib.Algebra.GroupWithZero.Nat
import Mathlib.Data.List.Infix
import Mathlib.Data.List.Chain
import Mathlib.Data.List.TakeWhile

/-!
# `RestCommSdk.Lib.Framing`: streams of delimiter-terminated frames

A stream carries frames, each closed by a delimiter `d` that no frame contains.
`joinFrames` writes it. Two readers take it apart:

* `idxOf?_frame` reads the first frame off the front, by the position of the first
  delimiter;
* `pieces` cuts at every delimiter and keeps the nonempty parts.

The second half answers what happens when the stream reaches the reader in chunks.
`length_pieces_flatten` counts the pieces of all chunks together: one more than the
stream has, for every boundary inside a frame; at the others one of the two chunks has a
delimiter (`CleanCut`). `headPieces_eq_pieces` says when a reader that stops at the first empty
part still sees every piece.

Everything is over an arbitrary alphabet with decidable equality.
-/

set_option autoImplicit false

namespace RestCommSdk.Lib

section Join
variable {α : Type}

/-- The frames one after the other, each closed by `d`. -/
def joinFrames (d : α) (frames : List (List α)) : List α :=
  frames.flatMap (· ++ [d])

@[simp] theorem joinFrames_nil (d : α) : joinFrames d [] = [] := rfl

@[simp] theorem joinFrames_cons (d : α) (x : List α) (frames : List (List α)) :
    joinFrames d (x :: frames) = x ++ d :: joinFrames d frames := by
  simp [joinFrames]

/-- A list that contains `d` splits at its first occurrence. -/
theorem exists_first_delimiter {d : α} {s : List α} (h : d ∈ s) :
    ∃ x rest, d ∉ x ∧ s = x ++ d :: rest := by
  obtain ⟨x, rest, hs, hx⟩ := List.eq_append_cons_of_mem h
  exact ⟨x, rest, hx, hs⟩

/-- Up to a delimiter that does not come, it is the whole list. -/
theorem takeWhile_of_notMem [DecidableEq α] {d : α} {x : List α} (hx : d ∉ x) :
    x.takeWhile (· ≠ d) = x := by
  rw [List.takeWhile_eq_self_iff]
  intro c hc
  simpa using fun h : c = d => hx (h ▸ hc)

/-- Up to the first delimiter. -/
theorem takeWhile_append_cons [DecidableEq α] {d : α} {x : List α} (rest : List α)
    (hx : d ∉ x) : (x ++ d :: rest).takeWhile (· ≠ d) = x := by
  rw [List.takeWhile_append_of_pos]
  · simp
  · intro c hc
    simpa using fun h : c = d => hx (h ▸ hc)

/-- What stands in front of a delimiter. -/
theorem takeWhile_ne_eq_iff [DecidableEq α] {d : α} {s x : List α} :
    s.takeWhile (· ≠ d) = x ↔
      d ∉ x ∧ ∃ behind, s = x ++ behind ∧ (behind = [] ∨ behind.head? = some d) := by
  constructor
  · rintro rfl
    refine ⟨fun h => by simpa using List.mem_takeWhile_imp h,
      s.dropWhile (· ≠ d), List.takeWhile_append_dropWhile.symm, ?_⟩
    cases hdrop : s.dropWhile (· ≠ d) with
    | nil => exact Or.inl rfl
    -- What stopped the walk is the delimiter itself.
    | cons c rest =>
      have hhead := List.head?_dropWhile_not (· ≠ d) s
      rw [hdrop] at hhead
      exact Or.inr (by simpa using hhead)
  · rintro ⟨hx, behind, rfl, rfl | hbehind⟩
    · rw [List.append_nil, takeWhile_of_notMem hx]
    · -- Behind `x` stands a delimiter, where the walk stops.
      obtain ⟨rest, rfl⟩ : ∃ rest, behind = d :: rest := by
        cases behind with
        | nil => cases hbehind
        | cons c rest => exact ⟨rest, by rw [Option.some.inj hbehind]⟩
      rw [takeWhile_append_cons rest hx]

/-- What stands behind a delimiter. -/
theorem drop_dropWhile_ne [DecidableEq α] {d : α} {x : List α} (rest : List α) (hx : d ∉ x) :
    ((x ++ d :: rest).dropWhile (· ≠ d)).drop 1 = rest := by
  rw [List.dropWhile_append_of_pos, List.dropWhile_cons_of_neg (by simp)]
  · rfl
  · intro c hc
    simpa using fun h : c = d => hx (h ▸ hc)

/-- No two delimiters stand next to each other in a stream of nonempty frames. -/
theorem not_infix_joinFrames {d : α} {frames : List (List α)}
    (hd : ∀ x ∈ frames, d ∉ x) (hne : ∀ x ∈ frames, x ≠ []) :
    ¬ [d, d] <:+: joinFrames d frames := by
  induction frames with
  | nil => simp
  | cons x frames ih =>
    have hx := hd x List.mem_cons_self
    have ih := ih (fun y hy => hd y (List.mem_cons_of_mem _ hy))
      (fun y hy => hne y (List.mem_cons_of_mem _ hy))
    rw [joinFrames_cons]
    -- The frame `x` is delimiter-free, so an occurrence starts at its closing delimiter or later.
    have hstep : ∀ w : List α, d ∉ w → ∀ r : List α,
        [d, d] <:+: w ++ d :: r → [d, d] <:+: d :: r := by
      intro w
      induction w with
      | nil => intro _ r h; exact h
      | cons a w ihw =>
        intro hw r h
        refine ihw (fun hm => hw (List.mem_cons_of_mem _ hm)) r ?_
        rcases List.infix_cons_iff.mp h with hpre | hinf
        · have : d = a := (List.cons_prefix_cons.mp hpre).1
          exact absurd (this ▸ List.mem_cons_self) hw
        · exact hinf
    intro h
    rcases List.infix_cons_iff.mp (hstep x hx _ h) with hpre | hinf
    · have hpre' := (List.cons_prefix_cons.mp hpre).2
      cases frames with
      | nil => simp at hpre'
      | cons y frames =>
        have hy := hne y (by simp)
        have hdy := hd y (by simp)
        cases y with
        | nil => exact hy rfl
        | cons a y =>
          rw [joinFrames_cons, List.cons_append] at hpre'
          have : d = a := (List.cons_prefix_cons.mp hpre').1
          exact hdy (this ▸ List.mem_cons_self)
    · exact ih hinf

/-- A beginning of a stream that stops after a delimiter, or at once, is the stream of the
first frames, and the rest is the stream of the others. -/
theorem joinFrames_split {d : α} {frames : List (List α)} (hd : ∀ x ∈ frames, d ∉ x)
    {s t : List α} (h : s ++ t = joinFrames d frames) (hs : s = [] ∨ s.getLast? = some d) :
    ∃ xs ys, frames = xs ++ ys ∧ s = joinFrames d xs ∧ t = joinFrames d ys := by
  induction frames generalizing s with
  | nil =>
    obtain ⟨rfl, rfl⟩ := List.append_eq_nil_iff.mp h
    exact ⟨[], [], rfl, rfl, rfl⟩
  | cons x frames ih =>
    rcases hs with rfl | hs
    · exact ⟨[], x :: frames, rfl, rfl, h⟩
    -- The last element of `s` is a delimiter, so `s` covers the frame `x` and its delimiter.
    obtain ⟨s', rfl⟩ := List.getLast?_eq_some_iff.mp hs
    rw [joinFrames_cons, List.append_assoc, List.singleton_append] at h
    have hx := hd x List.mem_cons_self
    have htail : ∃ u, s' ++ [d] = (x ++ [d]) ++ u ∧ u ++ t = joinFrames d frames := by
      rcases List.append_eq_append_iff.mp h with ⟨a, hxa, hd'⟩ | ⟨a, hxa, hd'⟩
      · cases a with
        | nil =>
          simp only [List.append_nil] at hxa
          simp only [List.nil_append, List.cons.injEq, true_and] at hd'
          exact ⟨[], by simp [hxa], by simpa using hd'⟩
        | cons b a =>
          simp only [List.cons_append, List.cons.injEq] at hd'
          exact absurd (by simp [hxa, ← hd'.1]) hx
      · cases a with
        | nil =>
          simp only [List.append_nil] at hxa
          simp only [List.nil_append, List.cons.injEq, true_and] at hd'
          exact ⟨[], by simp [hxa], by simpa using hd'.symm⟩
        | cons b a =>
          simp only [List.cons_append, List.cons.injEq] at hd'
          obtain ⟨rfl, hd'⟩ := hd'
          exact ⟨a ++ [d], by simp [hxa], by simp [hd']⟩
    obtain ⟨u, hu, hut⟩ := htail
    have hlast : u = [] ∨ u.getLast? = some d := by
      rcases List.eq_nil_or_concat u with rfl | ⟨v, b, rfl⟩
      · exact Or.inl rfl
      · refine Or.inr ?_
        have hu' : s' ++ [d] = (x ++ [d] ++ v) ++ [b] := by simpa using hu
        have hb : d = b := (List.append_inj' hu' rfl).2 |> List.singleton_inj.mp
        simp [hb]
    obtain ⟨xs, ys, rfl, rfl, rfl⟩ := ih (fun y hy => hd y (List.mem_cons_of_mem _ hy)) hut hlast
    exact ⟨x :: xs, ys, rfl, by rw [hu]; simp, rfl⟩

/-- Chunks that all stop after a delimiter are streams of consecutive batches of frames. -/
theorem joinFrames_batches {d : α} {frames chunks : List (List α)} (hd : ∀ x ∈ frames, d ∉ x)
    (h : chunks.flatten = joinFrames d frames) (hlast : ∀ c ∈ chunks, c.getLast? = some d) :
    ∃ batches : List (List (List α)), batches.flatten = frames ∧
      chunks = batches.map (joinFrames d) := by
  induction chunks generalizing frames with
  | nil =>
    cases frames with
    | nil => exact ⟨[], rfl, rfl⟩
    | cons x frames => simp at h
  | cons c chunks ih =>
    rw [List.flatten_cons] at h
    obtain ⟨xs, ys, rfl, rfl, hys⟩ := joinFrames_split hd h (Or.inr (hlast c List.mem_cons_self))
    obtain ⟨batches, rfl, rfl⟩ := ih (fun y hy => hd y (List.mem_append_right _ hy)) hys
      (fun c' hc' => hlast c' (List.mem_cons_of_mem _ hc'))
    exact ⟨xs :: batches, by simp, by simp⟩

/-- Batches that make up the image of a list are the images of batches of that list. -/
theorem flatten_eq_map {β γ : Type} {f : β → γ} {batches : List (List γ)} {l : List β}
    (h : batches.flatten = l.map f) :
    ∃ parts : List (List β), parts.flatten = l ∧ batches = parts.map (List.map f) := by
  induction batches generalizing l with
  | nil => exact ⟨[], (List.map_eq_nil_iff.mp h.symm).symm, rfl⟩
  | cons b batches ih =>
    obtain ⟨l₁, l₂, rfl, rfl, hl₂⟩ := List.map_eq_append_iff.mp h.symm
    obtain ⟨parts, rfl, rfl⟩ := ih hl₂.symm
    exact ⟨l₁ :: parts, rfl, rfl⟩

end Join

variable {α : Type} [DecidableEq α]

/-- The first delimiter of a stream that starts with a whole frame closes that frame. -/
theorem idxOf?_frame {d : α} {x : List α} (rest : List α) (hx : d ∉ x) :
    (x ++ d :: rest).idxOf? d = some x.length := by
  induction x with
  | nil => simp [List.idxOf?_cons]
  | cons a x ih =>
    have had : a ≠ d := fun h => hx (h ▸ List.mem_cons_self)
    rw [List.cons_append, List.idxOf?_cons, ih (fun h => hx (List.mem_cons_of_mem _ h))]
    simp [had]

/-! ### Pieces -/

/-- The nonempty parts of `s` between delimiters. -/
def pieces (d : α) (s : List α) : List (List α) :=
  (s.splitOn d).filter (!·.isEmpty)

@[simp] theorem pieces_nil (d : α) : pieces d [] = [] := by
  simp [pieces]

/-- A delimiter separates the pieces before it from the pieces after it. -/
theorem pieces_append_cons (d : α) (xs ys : List α) :
    pieces d (xs ++ d :: ys) = pieces d xs ++ pieces d ys := by
  simp [pieces, List.splitOn_append_cons_self]

@[simp] theorem pieces_cons_self (d : α) (ys : List α) : pieces d (d :: ys) = pieces d ys := by
  simpa using pieces_append_cons d [] ys

/-- A nonempty list without a delimiter is its own only piece. -/
theorem pieces_of_notMem {d : α} {x : List α} (hx : d ∉ x) (hne : x ≠ []) :
    pieces d x = [x] := by
  simp [pieces, List.splitOn_eq_singleton hx, hne]

/-- Nonempty delimiter-free frames are the pieces of their stream. -/
theorem pieces_joinFrames {d : α} {frames : List (List α)}
    (hd : ∀ x ∈ frames, d ∉ x) (hne : ∀ x ∈ frames, x ≠ []) :
    pieces d (joinFrames d frames) = frames := by
  induction frames with
  | nil => simp
  | cons x frames ih =>
    rw [joinFrames_cons, pieces_append_cons,
      pieces_of_notMem (hd x List.mem_cons_self) (hne x List.mem_cons_self),
      ih (fun y hy => hd y (List.mem_cons_of_mem _ hy))
        (fun y hy => hne y (List.mem_cons_of_mem _ hy))]
    rfl

/-- The pieces together hold exactly the elements that are not delimiters. -/
theorem sum_length_pieces (d : α) (s : List α) :
    ((pieces d s).map List.length).sum = s.countP (· ≠ d) := by
  induction hn : s.length using Nat.strong_induction_on generalizing s with
  | _ n ih =>
    by_cases hd : d ∈ s
    · -- Split at the first delimiter: both parts are shorter.
      obtain ⟨x, rest, hx, rfl⟩ := exists_first_delimiter hd
      have hlen : (x ++ d :: rest).length = x.length + rest.length + 1 := by simp; omega
      have hrest := ih rest.length (by omega) rest rfl
      have hxs : ((pieces d x).map List.length).sum = x.countP (· ≠ d) :=
        ih x.length (by omega) x rfl
      simp only [pieces_append_cons, List.map_append, List.sum_append, hrest, hxs,
        List.countP_append, List.countP_cons]
      simp
    · by_cases hne : s = []
      · simp [hne]
      · rw [pieces_of_notMem hd hne]
        -- Without a delimiter the one piece is all of `s`.
        have hall : s.countP (· ≠ d) = s.length := by
          rw [List.countP_eq_length]
          intro a ha
          simpa using fun h : a = d => hd (h ▸ ha)
        simpa using hall.symm

/-- A new first element opens a piece of its own exactly when it is no delimiter and the
next element is one, or there is none. -/
theorem length_pieces_cons (d x : α) (s : List α) :
    (pieces d (x :: s)).length
      = (pieces d s).length + if x ≠ d ∧ (s = [] ∨ s.head? = some d) then 1 else 0 := by
  by_cases hx : x = d
  · simp [hx]
  · cases s with
    | nil => simp [pieces_of_notMem (d := d) (x := [x]) (by simp [Ne.symm hx]) (by simp), hx]
    | cons y s =>
      by_cases hy : y = d
      · subst hy
        have h : pieces y (x :: y :: s) = [[x]] ++ pieces y s := by
          rw [← pieces_of_notMem (d := y) (x := [x]) (by simpa using Ne.symm hx) (by simp)]
          exact pieces_append_cons y [x] s
        simp [h, hx, Nat.add_comm]
      · -- `x` joins the piece that starts with `y`.
        have hsame : (pieces d (x :: y :: s)).length = (pieces d (y :: s)).length := by
          by_cases hd : d ∈ y :: s
          · obtain ⟨w, rest, hw, he⟩ := exists_first_delimiter hd
            have hwne : w ≠ [] := by
              rintro rfl
              simp only [List.nil_append, List.cons.injEq] at he
              exact hy he.1
            have hxw : d ∉ x :: w := by simp [hw, Ne.symm hx]
            rw [he, ← List.cons_append, pieces_append_cons, pieces_append_cons,
              pieces_of_notMem hxw (by simp), pieces_of_notMem hw hwne]
            simp
          · have hxd : d ∉ x :: y :: s := by
              simpa [Ne.symm hx] using hd
            rw [pieces_of_notMem hd (by simp), pieces_of_notMem hxd (by simp)]
            rfl
        simp [hsame, hy]

/-! ### Chunks -/

/-- The boundary between the chunks `a` and `b` does not fall inside a piece. -/
def CleanCut (d : α) (a b : List α) : Prop :=
  a.getLast? = some d ∨ b.head? = some d

instance (d : α) (a b : List α) : Decidable (CleanCut d a b) :=
  inferInstanceAs (Decidable (_ ∨ _))

/-- Two nonempty chunks have the pieces of their concatenation, and one more when the
boundary tears a piece apart. -/
theorem length_pieces_append (d : α) (a b : List α) (ha : a ≠ []) (hb : b ≠ []) :
    (pieces d a).length + (pieces d b).length
      = (pieces d (a ++ b)).length + if CleanCut d a b then 0 else 1 := by
  induction a with
  | nil => exact absurd rfl ha
  | cons x a ih =>
    cases a with
    -- One element in front of the cut: what counts is whether it or `b` gives a delimiter.
    | nil =>
      rw [List.singleton_append, length_pieces_cons d x b, length_pieces_cons d x []]
      by_cases hx : x = d <;> by_cases hh : b.head? = some d <;>
        simp [CleanCut, hx, hh, hb, Nat.add_comm]
    | cons y a =>
      have ih := ih (by simp)
      -- The cut is behind `y`, so the element in front of it does not matter.
      have hcut : CleanCut d (x :: y :: a) b ↔ CleanCut d (y :: a) b := by
        simp [CleanCut, List.getLast?_cons_cons]
      rw [List.cons_append, length_pieces_cons d x (y :: a),
        length_pieces_cons d x ((y :: a) ++ b)]
      simp only [hcut, List.cons_append, List.head?_cons, reduceCtorEq, false_or] at ih ⊢
      omega

omit [DecidableEq α] in
/-- Whether a cut is clean depends on what comes next. -/
theorem cleanCut_flatten (d : α) (a c : List α) (rest : List (List α)) (hc : c ≠ []) :
    CleanCut d a (c :: rest).flatten ↔ CleanCut d a c := by
  cases c with
  | nil => exact absurd rfl hc
  | cons x c => simp [CleanCut]

/-- Nonempty chunks never have fewer pieces than the stream they make up, and they have
equally many exactly when no boundary tears a piece. -/
theorem length_pieces_flatten (d : α) (chunks : List (List α)) (hne : ∀ c ∈ chunks, c ≠ []) :
    (pieces d chunks.flatten).length ≤ (chunks.map fun c => (pieces d c).length).sum ∧
    ((chunks.map fun c => (pieces d c).length).sum = (pieces d chunks.flatten).length ↔
      chunks.IsChain (CleanCut d)) := by
  induction chunks with
  | nil => simp
  | cons c chunks ih =>
    obtain ⟨hle, hiff⟩ := ih (fun c' hc' => hne c' (List.mem_cons_of_mem _ hc'))
    cases chunks with
    | nil => simp
    | cons c' chunks =>
      have hc := hne c (by simp)
      have hc' := hne c' (by simp)
      have hflat : (c' :: chunks).flatten ≠ [] := by simp [hc']
      -- The first cut costs nothing when it is clean, and one piece otherwise.
      have happ := length_pieces_append d c (c' :: chunks).flatten hc hflat
      simp only [cleanCut_flatten d c c' chunks hc'] at happ
      rw [List.flatten_cons, List.map_cons, List.sum_cons, List.isChain_cons_cons]
      by_cases hcut : CleanCut d c c'
      · rw [if_pos hcut] at happ
        exact ⟨by omega, by rw [← hiff]; constructor <;> intro h
                            · exact ⟨hcut, by omega⟩
                            · omega⟩
      · rw [if_neg hcut] at happ
        exact ⟨by omega, by constructor <;> intro h
                            · omega
                            · exact absurd h.1 hcut⟩

/-- At a clean cut the pieces are those of both sides. -/
theorem pieces_append_of_cleanCut {d : α} {a b : List α} (h : CleanCut d a b) :
    pieces d (a ++ b) = pieces d a ++ pieces d b := by
  rcases h with ha | hb
  · obtain ⟨a', rfl⟩ := List.getLast?_eq_some_iff.mp ha
    rw [List.append_assoc, List.singleton_append, pieces_append_cons, pieces_append_cons,
      pieces_nil, List.append_nil]
  · obtain ⟨b', rfl⟩ := List.head?_eq_some_iff.mp hb
    rw [pieces_append_cons, pieces_cons_self]

/-- Chunks with clean boundaries have the pieces of the stream they make up. -/
theorem flatMap_pieces {d : α} {chunks : List (List α)} (hne : ∀ c ∈ chunks, c ≠ [])
    (hcuts : chunks.IsChain (CleanCut d)) :
    chunks.flatMap (pieces d) = pieces d chunks.flatten := by
  induction chunks with
  | nil => simp
  | cons c chunks ih =>
    cases chunks with
    | nil => simp
    | cons c' chunks =>
      rw [List.isChain_cons_cons] at hcuts
      have ih := ih (fun x hx => hne x (List.mem_cons_of_mem _ hx)) hcuts.2
      have hcut : CleanCut d c (c' :: chunks).flatten :=
        (cleanCut_flatten d c c' chunks (hne c' (by simp))).mpr hcuts.1
      rw [List.flatMap_cons, ih, List.flatten_cons (l := c), pieces_append_of_cleanCut hcut]

/-! ### Readers that stop at the first empty part -/

/-- What a reader that cuts at every delimiter and stops at the first empty part makes of a
chunk. -/
def headPieces (d : α) (s : List α) : List (List α) :=
  (s.splitOn d).takeWhile (!·.isEmpty)

/-- Cutting at every delimiter and stopping at the first empty part sees every piece of a
stream that neither starts with a delimiter nor holds two in a row. -/
theorem headPieces_eq_pieces {d : α} {s : List α} (hdd : ¬ [d, d] <:+: s)
    (hhead : s.head? ≠ some d) : headPieces d s = pieces d s := by
  unfold headPieces
  induction hn : s.length using Nat.strong_induction_on generalizing s with
  | _ n ih =>
    by_cases hd : d ∈ s
    · obtain ⟨x, rest, hx, rfl⟩ := exists_first_delimiter hd
      -- No delimiter stands in front, so the first piece is not empty.
      have hxne : x ≠ [] := by
        rintro rfl
        simp at hhead
      -- No two delimiters stand together, so none stands in front of the rest.
      have hrest : rest.head? ≠ some d := by
        intro h
        cases rest with
        | nil => simp at h
        | cons y rest =>
          simp only [List.head?_cons, Option.some.injEq] at h
          subst h
          exact hdd ⟨x, rest, by simp⟩
      have hdd' : ¬ [d, d] <:+: rest := fun h =>
        hdd (h.trans ⟨x ++ [d], [], by simp⟩)
      have hrec := ih rest.length (by simp at hn; omega) hdd' hrest rfl
      rw [List.splitOn_append_cons_self_of_not_mem hx, pieces_append_cons,
        pieces_of_notMem hx hxne, List.takeWhile_cons_of_pos (by simpa using hxne), hrec]
      rfl
    · by_cases hne : s = []
      · simp [hne]
      · -- The last piece has no delimiter behind it.
        rw [List.splitOn_eq_singleton hd, pieces_of_notMem hd hne]
        simp [hne]

section Stop
variable {β : Type}

/-- The front of a list is at most the list. -/
theorem sum_length_takeWhile_le (ls : List (List β)) :
    ((ls.takeWhile (!·.isEmpty)).map List.length).sum
      ≤ ((ls.filter (!·.isEmpty)).map List.length).sum := by
  induction ls with
  | nil => simp
  | cons x ls ih =>
    cases x with
    | nil => simp
    | cons a x => simpa using ih

/-- A reader that stops at the first empty part loses elements, unless every piece comes
before that part. -/
theorem takeWhile_eq_filter_of_sum {ls : List (List β)}
    (h : ((ls.takeWhile (!·.isEmpty)).map List.length).sum
      = ((ls.filter (!·.isEmpty)).map List.length).sum) :
    ls.takeWhile (!·.isEmpty) = ls.filter (!·.isEmpty) := by
  induction ls with
  | nil => rfl
  | cons x ls ih =>
    cases x with
    -- An empty list ends the walk, so no list behind it may count.
    | nil =>
      cases hf : ls.filter (!·.isEmpty) with
      | nil => simpa using hf
      | cons y ys =>
        have hy : y ∈ ls.filter (!·.isEmpty) := hf ▸ List.mem_cons_self
        have hpos : 0 < y.length :=
          List.length_pos_iff.mpr (by simpa using (List.mem_filter.mp hy).2)
        rw [List.filter_cons_of_neg (by simp), hf] at h
        simp only [List.isEmpty_nil, Bool.not_true, Bool.false_eq_true, not_false_eq_true,
          List.takeWhile_cons_of_neg, List.map_nil, List.sum_nil, List.map_cons,
          List.sum_cons] at h
        omega
    -- The first list counts on both sides.
    | cons a x =>
      simp only [List.isEmpty_cons, Bool.not_false, List.takeWhile_cons_of_pos,
        List.filter_cons_of_pos, List.map_cons, List.sum_cons, Nat.add_left_cancel_iff] at h ⊢
      rw [ih h]

end Stop

/-- The pieces in front have no more characters than the list has beside delimiters. -/
theorem sum_length_headPieces_le (d : α) (s : List α) :
    ((headPieces d s).map List.length).sum ≤ s.countP (· ≠ d) := by
  rw [← sum_length_pieces]
  exact sum_length_takeWhile_le _

/-- The same of all chunks. -/
theorem sum_length_flatMap_headPieces_le (d : α) (chunks : List (List α)) :
    ((chunks.flatMap (headPieces d)).map List.length).sum ≤ chunks.flatten.countP (· ≠ d) := by
  induction chunks with
  | nil => simp
  | cons c chunks ih =>
    have hc := sum_length_headPieces_le d c
    rw [List.flatMap_cons, List.map_append, List.sum_append, List.flatten_cons,
      List.countP_append]
    omega

/-- When such a reader sees every element of the stream but the delimiters, it sees every
piece of every chunk. -/
theorem headPieces_eq_pieces_of_sum {d : α} {chunks : List (List α)}
    (h : ((chunks.flatMap (headPieces d)).map List.length).sum
      = chunks.flatten.countP (· ≠ d)) :
    ∀ c ∈ chunks, headPieces d c = pieces d c := by
  induction chunks with
  | nil => simp
  | cons c chunks ih =>
    have hc := sum_length_headPieces_le d c
    have hrest := sum_length_flatMap_headPieces_le d chunks
    rw [List.flatMap_cons, List.map_append, List.sum_append, List.flatten_cons,
      List.countP_append] at h
    have heq : ((headPieces d c).map List.length).sum = ((pieces d c).map List.length).sum := by
      rw [sum_length_pieces]
      omega
    intro x hx
    rcases List.mem_cons.mp hx with rfl | hx
    · exact takeWhile_eq_filter_of_sum heq
    · exact ih (by omega) x hx

/-- A whole frame at the front is seen first. -/
theorem headPieces_frame {d : α} {x : List α} (rest : List α) (hx : d ∉ x) (hne : x ≠ []) :
    headPieces d (x ++ d :: rest) = x :: headPieces d rest := by
  rw [headPieces, List.splitOn_append_cons_self_of_not_mem hx,
    List.takeWhile_cons_of_pos (by simpa using hne)]
  rfl

/-- A chunk that starts with a delimiter stops such a reader at once. -/
theorem headPieces_cons_self (d : α) (s : List α) : headPieces d (d :: s) = [] := by
  have h : (d :: s).splitOn d = [] :: s.splitOn d := by
    simpa using List.splitOn_append_cons_self (a := d) [] s
  rw [headPieces, h, List.takeWhile_cons_of_neg (by simp)]

/-- Such a reader sees every frame of a stream of nonempty frames. -/
theorem headPieces_joinFrames {d : α} {frames : List (List α)} (hd : ∀ x ∈ frames, d ∉ x)
    (hne : ∀ x ∈ frames, x ≠ []) : headPieces d (joinFrames d frames) = frames := by
  induction frames with
  | nil => simp [headPieces]
  | cons x frames ih =>
    rw [joinFrames_cons, headPieces_frame _ (hd x List.mem_cons_self) (hne x List.mem_cons_self),
      ih (fun y hy => hd y (List.mem_cons_of_mem _ hy))
        (fun y hy => hne y (List.mem_cons_of_mem _ hy))]

end RestCommSdk.Lib
