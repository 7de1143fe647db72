import Mathlib.Data.List.Basic

/-!
# A queue and what has been taken from it

Events are posted at the back of a line and taken from its front. `Follows` relates a line to what it has become after any
number of posts and takes; what waits in the earlier line is taken before what is posted later.
-/

namespace Fifo

variable {α : Type*}

structure Line (α : Type*) where
  taken : List α := []
  waiting : List α := []

/-- The line `m` comes from `l`: `out` was taken since, of what waited in `l` and what was posted since. -/
def Follows (l m : Line α) : Prop :=
  ∃ out new, m.taken = l.taken ++ out ∧ out ++ m.waiting = l.waiting ++ new

theorem Follows.refl (l : Line α) : Follows l l := ⟨[], [], by simp, by simp⟩

theorem Follows.trans {l m n : Line α} (h : Follows l m) (h' : Follows m n) : Follows l n := by
  obtain ⟨out, new, htaken, hwaiting⟩ := h
  obtain ⟨out', new', htaken', hwaiting'⟩ := h'
  refine ⟨out ++ out', new ++ new', by rw [htaken', htaken, List.append_assoc], ?_⟩
  rw [List.append_assoc, hwaiting', ← List.append_assoc, hwaiting, List.append_assoc]

/-- Something is posted at the end. -/
theorem follows_post (l : Line α) (new : List α) : Follows l ⟨l.taken, l.waiting ++ new⟩ := ⟨[], new, by simp, rfl⟩

/-- Something is taken at the front. -/
theorem follows_take (taken : List α) (x : α) (rest : List α) : Follows ⟨taken, x :: rest⟩ ⟨taken ++ [x], rest⟩ :=
  ⟨[x], [], rfl, by simp⟩

/-- The next in the later line, when fewer have been taken since than waited in the earlier one: it waited there behind
those. -/
theorem Follows.next {l m : Line α} (h : Follows l m) {x : α} {rest : List α} (hnext : m.waiting = x :: rest)
    (hfew : m.taken.length < l.taken.length + l.waiting.length) :
    ∃ out rest', m.taken = l.taken ++ out ∧ l.waiting = out ++ x :: rest' := by
  obtain ⟨out, new, htaken, hwaiting⟩ := h
  rw [htaken, List.length_append] at hfew
  rw [hnext] at hwaiting
  refine ⟨out, ?_⟩
  rcases List.append_eq_append_iff.1 hwaiting with ⟨as, hsplit, hrest⟩ | ⟨bs, hout, -⟩
  · cases as with
    | nil =>
      rw [hsplit, List.append_nil] at hfew
      omega
    | cons y as =>
      obtain ⟨rfl, -⟩ := List.cons.inj hrest
      exact ⟨as, htaken, hsplit⟩
  · rw [hout, List.length_append] at hfew
    omega

end Fifo
