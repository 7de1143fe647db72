import Mathlib.Data.List.Basic

/-!
# Channels kept newest first

A receiver keeps the channels it knows of in a list, the newest first. What arrives is for the newest channel that answers to
a test, and changes that one only. Two tests that agree on the channels that are there pick the same (`updateFirst_congr`), so
a short tag does for a full name while no two channels share it.
-/

namespace Demux

variable {α β : Type*}

/-- Change the first element that passes the test. -/
def updateFirst (p : α → Bool) (f : α → α) : List α → List α
  | [] => []
  | a :: as => if p a then f a :: as else a :: updateFirst p f as

/-- The first element that meets the condition is updated. -/
theorem updateFirst_cons_of_pos {p : α → Bool} {a : α} (h : p a = true) (f : α → α) (as : List α) :
    updateFirst p f (a :: as) = f a :: as := if_pos h

/-- Conditions that agree on the list update the same element. -/
theorem updateFirst_congr {p q : α → Bool} {as : List α} (h : ∀ a ∈ as, p a = q a) (f : α → α) :
    updateFirst p f as = updateFirst q f as := by
  induction as with
  | nil => rfl
  | cons a as ih =>
    rw [updateFirst, updateFirst, h a List.mem_cons_self, ih fun b hb => h b (List.mem_cons_of_mem a hb)]

/-- What is in the list afterwards was there, or is what an element was changed to. -/
theorem mem_updateFirst {p : α → Bool} {f : α → α} {as : List α} {b : α} (h : b ∈ updateFirst p f as) :
    b ∈ as ∨ ∃ a ∈ as, f a = b := by
  induction as with
  | nil => simp [updateFirst] at h
  | cons a as ih =>
    rw [updateFirst] at h
    split at h
    · rcases List.mem_cons.1 h with rfl | h
      · exact Or.inr ⟨a, List.mem_cons_self, rfl⟩
      · exact Or.inl (List.mem_cons_of_mem a h)
    · rcases List.mem_cons.1 h with rfl | h
      · exact Or.inl List.mem_cons_self
      · rcases ih h with h | ⟨c, hc, rfl⟩
        · exact Or.inl (List.mem_cons_of_mem a h)
        · exact Or.inr ⟨c, List.mem_cons_of_mem a hc, rfl⟩

/-- A property that the change keeps. -/
theorem forall_updateFirst {P : α → Prop} {p : α → Bool} {f : α → α} {as : List α} (h : ∀ a ∈ as, P a)
    (hf : ∀ a, P a → P (f a)) : ∀ a ∈ updateFirst p f as, P a := by
  intro b hb
  rcases mem_updateFirst hb with hb | ⟨a, ha, rfl⟩
  · exact h b hb
  · exact hf a (h a ha)

/-- While the newest channel passes the test, all that arrives is for it. -/
theorem foldl_updateFirst {p : α → Bool} {f : β → α → α} {a : α} (hp : p a = true) (hf : ∀ b a, p a = true → p (f b a) = true)
    (bs : List β) (as : List α) :
    bs.foldl (fun as b => updateFirst p (f b) as) (a :: as) = bs.foldl (fun a b => f b a) a :: as := by
  induction bs generalizing a with
  | nil => rfl
  | cons b bs ih =>
    rw [List.foldl_cons, updateFirst_cons_of_pos hp, ih (hf b a hp)]
    rfl

end Demux
