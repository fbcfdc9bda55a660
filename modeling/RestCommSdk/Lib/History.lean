import Mathlib.Data.List.DropRight

/-!
# `RestCommSdk.Lib.History`: what a history last gave

`lastGiven f` is the last value that the entries of a history give, where an entry `a` gives
`f a`. `since p` is what follows the last entry that has `p`.

The rules follow a history from its end, where the next entry comes (`lastGiven_concat`,
`since_concat`), and from its front, where a queue is read (`lastGiven_cons`).
-/

set_option autoImplicit false

namespace RestCommSdk.Lib

variable {α β : Type} {f : α → Option β} {p : α → Bool}

/-- The last value that is given. -/
def lastGiven (f : α → Option β) (history : List α) : Option β := (history.filterMap f).getLast?

/-- The entries after the last one that has `p`. -/
def since (p : α → Bool) (history : List α) : List α := history.rtakeWhile fun a => !p a

/-- Nothing was given. -/
@[simp]
theorem lastGiven_nil : lastGiven f [] = none := rfl

/-- The later part counts, if it gives something. -/
theorem lastGiven_append (history later : List α) :
    lastGiven f (history ++ later) = (lastGiven f later).or (lastGiven f history) := by
  rw [lastGiven, List.filterMap_append, List.getLast?_append]
  rfl

/-- One step gives what it gives. -/
@[simp]
theorem lastGiven_singleton (a : α) : lastGiven f [a] = f a := by
  unfold lastGiven
  cases h : f a <;> simp [h]

/-- The last step counts, if it gives something. -/
theorem lastGiven_concat (history : List α) (a : α) :
    lastGiven f (history ++ [a]) = (f a).or (lastGiven f history) := by
  rw [lastGiven_append, lastGiven_singleton]

/-- The first step counts, if no later one does. -/
theorem lastGiven_cons (a : α) (later : List α) :
    lastGiven f (a :: later) = (lastGiven f later).or (f a) := by
  rw [← List.singleton_append, lastGiven_append, lastGiven_singleton]

/-- One more step since the last of the kind. -/
theorem since_concat_of_not {history : List α} {a : α} (h : p a = false) :
    since p (history ++ [a]) = since p history ++ [a] :=
  List.rtakeWhile_concat_pos _ _ a (by simp [h])

/-- A step of the kind begins anew. -/
theorem since_concat_of {history : List α} {a : α} (h : p a = true) :
    since p (history ++ [a]) = [] :=
  List.rtakeWhile_concat_neg _ _ a (by simp [h])

/-- Without a step of the kind it is the whole history. -/
theorem since_eq_self {history : List α} (h : history.any p = false) :
    since p history = history :=
  List.rtakeWhile_eq_self_iff.mpr fun a ha => by
    have hnot := List.any_eq_false.mp h a ha
    simpa using hnot

/-- What is given after the last entry that has `p` is what is given last. -/
theorem lastGiven_of_since {history : List α} {b : β} (h : lastGiven f (since p history) = some b) :
    lastGiven f history = some b := by
  obtain ⟨earlier, hearlier⟩ := List.rtakeWhile_suffix (fun a => !p a) history
  have hsplit : earlier ++ since p history = history := hearlier
  rw [← hsplit, lastGiven_append, h]
  rfl

end RestCommSdk.Lib
