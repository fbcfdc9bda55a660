import Mathlib.Data.List.Basic
import Mathlib.Data.List.Nodup

/-!
# `RestCommSdk.Lib.LinkedList`: singly linked lists in a memory

A node is named by its address. `next a` is the link of the node at `a`: `none` where there is
no node to read, `some none` where the list ends.

`Links next p xs q` says that the links lead from `p` through the nodes `xs` to `q`. A list that
ends visits no node twice (`Links.nodup`), and only the links of its own nodes matter
(`Links.congr`). `Links.unlink` is the step of every removal: the link that pointed to a node
takes over what the node points to.

The loops of C over such lists are functions with fuel, since a link may lead back: `walk` looks
for a node, `findPlace` for the link that points to a node. With more fuel than the list has
nodes both answer (`walk_eq_find?`, `findPlace_eq`).
-/

set_option autoImplicit false

namespace RestCommSdk.Lib

variable {α : Type}

/-- From `p` the links lead through the nodes `xs` to `q`. -/
inductive Links (next : α → Option (Option α)) : Option α → List α → Option α → Prop
  | nil (p : Option α) : Links next p [] p
  | cons {a : α} {p q : Option α} {xs : List α} :
      next a = some p → Links next p xs q → Links next (some a) (a :: xs) q

namespace Links

variable {next next' : α → Option (Option α)} {p q r : Option α} {a b : α} {xs ys zs : List α}

/-- A path over no cells ends where it begins. -/
theorem nil_inv (h : Links next p [] q) : p = q := by
  cases h
  rfl

/-- A path over a cell begins there and goes on from its link. -/
theorem cons_inv (h : Links next p (a :: xs) q) :
    p = some a ∧ ∃ p', next a = some p' ∧ Links next p' xs q := by
  cases h with
  | cons hnext hrest => exact ⟨rfl, _, hnext, hrest⟩

/-- Two paths in a row. -/
theorem append (h₁ : Links next p xs q) (h₂ : Links next q ys r) : Links next p (xs ++ ys) r := by
  induction h₁ with
  | nil => exact h₂
  | cons hnext _ ih => exact .cons hnext (ih h₂)

/-- A path, cut in two. -/
theorem split (h : Links next p (xs ++ ys) r) : ∃ q, Links next p xs q ∧ Links next q ys r := by
  induction xs generalizing p with
  | nil => exact ⟨p, .nil p, h⟩
  | cons x xs ih =>
    obtain ⟨rfl, p', hnext, hrest⟩ := h.cons_inv
    obtain ⟨q, h₁, h₂⟩ := ih hrest
    exact ⟨q, .cons hnext h₁, h₂⟩

/-- The last cell of a path holds its end. -/
theorem snoc_inv (h : Links next p (xs ++ [b]) q) :
    Links next p xs (some b) ∧ next b = some q := by
  obtain ⟨r, h₁, h₂⟩ := h.split
  obtain ⟨rfl, q', hnext, hrest⟩ := h₂.cons_inv
  rw [hrest.nil_inv] at hnext
  exact ⟨h₁, hnext⟩

/-- One more cell at the end. -/
theorem snoc (h : Links next p xs (some b)) (hnext : next b = some q) :
    Links next p (xs ++ [b]) q :=
  h.append (.cons hnext (.nil q))

/-- Only the links of the nodes on the way matter. -/
theorem congr (h : Links next p xs q) (hsame : ∀ a ∈ xs, next' a = next a) :
    Links next' p xs q := by
  induction h with
  | nil => exact .nil _
  | cons hnext _ ih =>
    have hhead := hsame _ List.mem_cons_self
    have htail := ih fun a ha => hsame a (List.mem_cons_of_mem _ ha)
    exact .cons (hhead.trans hnext) htail

/-- Where a list starts is its first node. -/
theorem head_eq (h : Links next p xs none) : p = xs.head? := by
  cases xs with
  | nil => exact h.nil_inv
  | cons a xs => exact h.cons_inv.1

/-- A start belongs to one list. -/
theorem unique (hxs : Links next p xs none) (hys : Links next p ys none) : xs = ys := by
  induction xs generalizing p ys with
  | nil =>
    cases ys with
    | nil => rfl
    | cons b ys =>
      have hp := hxs.nil_inv
      have hp' := hys.cons_inv.1
      rw [hp] at hp'
      cases hp'
  | cons a xs ih =>
    obtain ⟨rfl, p', hnext, hrest⟩ := hxs.cons_inv
    cases ys with
    | nil => cases hys.nil_inv
    | cons b ys =>
      obtain ⟨hab, q', hnext', hrest'⟩ := hys.cons_inv
      cases hab
      have hlink : p' = q' := by simpa [hnext] using hnext'
      subst hlink
      rw [ih hrest hrest']

/-- A list that ends does not come back to a node. -/
theorem nodup (h : Links next p xs none) : xs.Nodup := by
  induction xs generalizing p with
  | nil => exact List.nodup_nil
  | cons a xs ih =>
    obtain ⟨rfl, p', hnext, hrest⟩ := h.cons_inv
    refine List.nodup_cons.mpr ⟨?_, ih hrest⟩
    intro ha
    -- The list that starts at the second visit of `a` would be as long as the whole list.
    obtain ⟨ys, zs, rfl⟩ := List.append_of_mem ha
    obtain ⟨q, -, hagain⟩ := hrest.split
    obtain ⟨rfl, -⟩ := hagain.cons_inv
    have hsame : a :: (ys ++ a :: zs) = a :: zs := h.unique hagain
    have hlength := congrArg List.length hsame
    simp only [List.length_cons, List.length_append] at hlength
    omega

/-- No node of a list that ends leads to itself. -/
theorem next_ne_self (h : Links next p xs none) (ha : a ∈ xs) : next a ≠ some (some a) := by
  intro hself
  obtain ⟨ys, zs, rfl⟩ := List.append_of_mem ha
  obtain ⟨q, -, hbehind⟩ := h.split
  have hnodup := hbehind.nodup
  obtain ⟨-, p', hnext, hrest⟩ := hbehind.cons_inv
  have hstart : p' = some a := by simpa [hself] using hnext.symm
  rw [hstart] at hrest
  have hhead : some a = zs.head? := hrest.head_eq
  exact (List.nodup_cons.mp hnodup).1 (List.mem_of_mem_head? hhead.symm)

end Links

/-! ### Places -/

section Places

variable (head : Option α) (next : α → Option (Option α))

/-- What a pointer to a link points to: the start of the list (`none`), or the link of a
node. -/
def load : Option α → Option (Option α)
  | none => some head
  | some a => next a

/-- The link that leads to the nodes after `xs` is the one of the last node before them. -/
theorem Links.load_getLast? {head : Option α} {next : α → Option (Option α)} {xs : List α}
    {q : Option α} (h : Links next head xs q) : load head next xs.getLast? = some q := by
  rcases List.eq_nil_or_concat' xs with rfl | ⟨ys, b, rfl⟩
  · exact congrArg some h.nil_inv
  · rw [List.getLast?_concat]
    exact h.snoc_inv.2

/-- When the link that pointed to `a` takes over what `a` points to, the list is without
`a`. -/
theorem Links.unlink {head head' : Option α} {next next' : α → Option (Option α)} {a : α}
    {xs ys : List α} (h : Links next head (xs ++ a :: ys) none)
    (hplace : load head' next' xs.getLast? = next a)
    (hhead : xs ≠ [] → head' = head)
    (hsame : ∀ b ∈ xs ++ ys, some b ≠ xs.getLast? → next' b = next b) :
    Links next' head' (xs ++ ys) none := by
  have hnodup := h.nodup
  obtain ⟨q, hxs, hrest⟩ := h.split
  obtain ⟨rfl, p, hnext, hys⟩ := hrest.cons_inv
  -- The nodes behind `a` are none of those before it, so their links stay.
  have hys' : Links next' p ys none := by
    refine hys.congr fun b hb => hsame b (List.mem_append_right _ hb) ?_
    intro hlast
    have hbxs : b ∈ xs := List.mem_of_getLast? hlast.symm
    exact (List.nodup_append.mp hnodup).2.2 b hbxs b (List.mem_cons_of_mem _ hb) rfl
  -- `a` was the first node, or `b` stood in front of it.
  rcases List.eq_nil_or_concat' xs with rfl | ⟨zs, b, rfl⟩
  · have hstart : head' = p := by simpa [load, hnext] using hplace
    rw [hstart]
    exact hys'
  · rw [List.getLast?_concat] at hplace hsame
    have hb : next' b = some p := hplace.trans hnext
    have hzs : Links next' head zs (some b) := by
      refine hxs.snoc_inv.1.congr fun c hc => hsame c (by simp [hc]) ?_
      intro hcb
      cases hcb
      have hnodup' := (List.nodup_append.mp hnodup).1
      exact (List.nodup_append.mp hnodup').2.2 b hc b List.mem_cons_self rfl
    rw [hhead (by simp)]
    exact (hzs.snoc hb).append hys'

/-! ### Loops -/

/-- `for (p = head; p; p = p->next) if (test(p)) break;`, and `p`. -/
def walk (test : α → Option Bool) : Nat → Option α → Option (Option α)
  | 0, _ => none
  | _ + 1, none => some none
  | fuel + 1, some a => do
    if ← test a then return some a
    else walk test fuel (← next a)

variable {head next}

/-- The loop finds the first node that passes the test. -/
theorem walk_eq_find? {test : α → Option Bool} {f : α → Bool} {p : Option α} {xs : List α}
    (h : Links next p xs none) (htest : ∀ a ∈ xs, test a = some (f a)) {fuel : Nat}
    (hfuel : xs.length < fuel) : walk next test fuel p = some (xs.find? f) := by
  induction xs generalizing p fuel with
  | nil =>
    obtain ⟨n, rfl⟩ : ∃ n, fuel = n + 1 := Nat.exists_eq_add_one.mpr hfuel
    rw [h.nil_inv]
    rfl
  | cons a xs ih =>
    obtain ⟨n, rfl⟩ : ∃ n, fuel = n + 1 := Nat.exists_eq_add_one.mpr (by omega)
    obtain ⟨rfl, p', hnext, hrest⟩ := h.cons_inv
    have hlength : xs.length < n := by
      simp only [List.length_cons] at hfuel
      omega
    -- One turn goes to `a`, the others to the nodes behind it.
    have htail := ih hrest (fun b hb => htest b (List.mem_cons_of_mem _ hb)) hlength
    simp only [walk, htest a List.mem_cons_self, hnext, htail, Option.bind_eq_bind,
      Option.bind_some, List.find?_cons]
    cases f a <;> rfl

variable [DecidableEq α] (head next)

/-- `for (prev = &head; *prev && *prev != a; prev = &(*prev)->next) ;`, and `prev`. -/
def findPlace (a : α) : Nat → Option α → Option (Option α)
  | 0, _ => none
  | fuel + 1, prev => do
    match ← load head next prev with
    | none => return prev
    | some b => if b = a then return prev else findPlace a fuel (some b)

variable {head next}

/-- The place that holds the link to a cell is found. -/
theorem findPlace_of_links {a : α} {prev : Option α} {xs ys : List α}
    (hprev : load head next prev = some ((xs ++ a :: ys).head?))
    (h : Links next ((xs ++ a :: ys).head?) (xs ++ a :: ys) none) {fuel : Nat}
    (hfuel : xs.length < fuel) :
    findPlace head next a fuel prev = some (xs.getLast?.or prev) := by
  induction xs generalizing prev fuel with
  | nil =>
    obtain ⟨n, rfl⟩ : ∃ n, fuel = n + 1 := Nat.exists_eq_add_one.mpr hfuel
    simp [findPlace, hprev]
  | cons b xs ih =>
    obtain ⟨n, rfl⟩ : ∃ n, fuel = n + 1 := Nat.exists_eq_add_one.mpr (by omega)
    have hlength : xs.length < n := by
      simp only [List.length_cons] at hfuel
      omega
    have hba : b ≠ a := by
      intro heq
      have hnodup := h.nodup
      simp [heq] at hnodup
    obtain ⟨-, p', hnext, hrest⟩ := Links.cons_inv h
    have hp' : p' = (xs ++ a :: ys).head? := hrest.head_eq
    subst hp'
    -- The next turn stands on the link of `b`.
    have hstep := @ih (some b) hnext hrest _ hlength
    simp only [List.cons_append, List.head?_cons] at hprev
    simp only [findPlace, hprev, Option.bind_eq_bind, Option.bind_some, hba, if_false, hstep]
    cases xs with
    | nil => rfl
    | cons c xs =>
      rw [List.getLast?_cons_cons]
      cases hlast : (c :: xs).getLast? with
      | none => simp at hlast
      | some d => rfl

/-- The search for a node of the list ends at the link that points to it. -/
theorem findPlace_eq {a : α} {xs ys : List α} (h : Links next head (xs ++ a :: ys) none)
    {fuel : Nat} (hfuel : xs.length < fuel) :
    findPlace head next a fuel none = some xs.getLast? := by
  have hhead := h.head_eq
  have hprev : load head next none = some ((xs ++ a :: ys).head?) := congrArg some hhead
  rw [findPlace_of_links hprev (hhead ▸ h) hfuel, Option.or_none]

end Places

end RestCommSdk.Lib
