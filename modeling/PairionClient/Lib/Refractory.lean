import Mathlib.Data.List.Basic

/-!
# Refractory filters

Of a list of occurrences in time, the refractory filter admits the first, then the first that comes at least a gap after it,
and so on. What it admits is spaced by the gap (`pairwise_admitted`), and it drops nothing that is not within the gap of
something admitted before (`covered_of_mem`): these two describe it.
-/

namespace Refractory

variable {α : Type*} (gap : ℕ) (time : α → ℕ)

/-- Nothing was admitted yet, or the gap has passed since. -/
def Free (last : Option ℕ) (t : ℕ) : Prop := ∀ l ∈ last, l + gap ≤ t

instance (last : Option ℕ) (t : ℕ) : Decidable (Free gap last t) := by
  cases last with
  | none => exact isTrue fun l hl => nomatch hl
  | some l => exact decidable_of_iff (l + gap ≤ t) ⟨fun h m hm => Option.some.inj hm ▸ h, fun h => h l rfl⟩

@[simp] theorem free_none (t : ℕ) : Free gap none t := fun _ hl => nomatch hl

@[simp] theorem free_some (l t : ℕ) : Free gap (some l) t ↔ l + gap ≤ t := by
  simp [Free]

/-- What is admitted after an admission at `last`. -/
def admitted : Option ℕ → List α → List α
  | _, [] => []
  | last, a :: as => if Free gap last (time a) then a :: admitted (some (time a)) as else admitted last as

@[simp] theorem admitted_nil (last : Option ℕ) : admitted gap time last [] = [] := rfl

/-- An event outside the gap is admitted, and begins a new gap. -/
theorem admitted_cons_of_free {last : Option ℕ} {a : α} (h : Free gap last (time a)) (as : List α) :
    admitted gap time last (a :: as) = a :: admitted gap time (some (time a)) as := if_pos h

/-- An event inside the gap is dropped. -/
theorem admitted_cons_of_not_free {last : Option ℕ} {a : α} (h : ¬Free gap last (time a)) (as : List α) :
    admitted gap time last (a :: as) = admitted gap time last as := if_neg h

/-- What is admitted keeps its order. -/
theorem sublist_admitted (last : Option ℕ) (as : List α) : (admitted gap time last as).Sublist as := by
  induction as generalizing last with
  | nil => exact List.Sublist.refl []
  | cons a as ih =>
    by_cases h : Free gap last (time a)
    · rw [admitted_cons_of_free gap time h]
      exact (ih (some (time a))).cons_cons a
    · rw [admitted_cons_of_not_free gap time h]
      exact (ih last).cons a

/-- Only the times matter. -/
theorem map_admitted (last : Option ℕ) (as : List α) :
    (admitted gap time last as).map time = admitted gap id last (as.map time) := by
  induction as generalizing last with
  | nil => rfl
  | cons a as ih =>
    by_cases h : Free gap last (time a)
    · rw [admitted_cons_of_free gap time h, List.map_cons, List.map_cons, ih, admitted_cons_of_free gap id h]
      rfl
    · rw [admitted_cons_of_not_free gap time h, List.map_cons, ih, admitted_cons_of_not_free gap id h]

/-- What is admitted comes a gap after the last admission before it. -/
theorem gap_le_of_mem {l : ℕ} {as : List α} {a : α} (h : a ∈ admitted gap time (some l) as) : l + gap ≤ time a := by
  induction as generalizing l with
  | nil => simp at h
  | cons b as ih =>
    by_cases hb : Free gap (some l) (time b)
    · have hgap : l + gap ≤ time b := (free_some gap l _).1 hb
      rw [admitted_cons_of_free gap time hb] at h
      rcases List.mem_cons.1 h with rfl | h
      · exact hgap
      · have hafter := ih h
        omega
    · rw [admitted_cons_of_not_free gap time hb] at h
      exact ih h

/-- Any two admissions are a gap apart. -/
theorem pairwise_admitted (last : Option ℕ) (as : List α) :
    (admitted gap time last as).Pairwise fun a b => time a + gap ≤ time b := by
  induction as generalizing last with
  | nil => exact List.Pairwise.nil
  | cons a as ih =>
    by_cases h : Free gap last (time a)
    · rw [admitted_cons_of_free gap time h]
      exact List.Pairwise.cons (fun b hb => gap_le_of_mem gap time hb) (ih _)
    · rw [admitted_cons_of_not_free gap time h]
      exact ih last

/-- An instant is within the gap after another. -/
def Within (l t : ℕ) : Prop := l ≤ t ∧ t < l + gap

/-- In the order of time, nothing is dropped that is not within the gap of an admission before it. -/
theorem covered_of_mem {last : Option ℕ} {as : List α} (hsorted : as.Pairwise fun a b => time a ≤ time b)
    (hlast : ∀ l ∈ last, ∀ a ∈ as, l ≤ time a) {a : α} (ha : a ∈ as) (hdropped : a ∉ admitted gap time last as) :
    (∃ l ∈ last, Within gap l (time a)) ∨ ∃ b ∈ admitted gap time last as, Within gap (time b) (time a) := by
  induction as generalizing last with
  | nil => simp at ha
  | cons c as ih =>
    obtain ⟨hfirst, hsorted⟩ := List.pairwise_cons.1 hsorted
    by_cases hfree : Free gap last (time c)
    · rw [admitted_cons_of_free gap time hfree] at hdropped ⊢
      rcases List.mem_cons.1 ha with rfl | ha
      · exact absurd List.mem_cons_self hdropped
      · have hnext : ∀ l ∈ some (time c), ∀ b ∈ as, l ≤ time b := by
          intro l hl b hb
          cases hl
          exact hfirst b hb
        rcases ih hsorted hnext ha fun h => hdropped (List.mem_cons_of_mem c h) with ⟨l, hl, hwithin⟩ | ⟨b, hb, hwithin⟩
        · cases hl
          exact Or.inr ⟨c, List.mem_cons_self, hwithin⟩
        · exact Or.inr ⟨b, List.mem_cons_of_mem c hb, hwithin⟩
    · rw [admitted_cons_of_not_free gap time hfree] at hdropped ⊢
      have hbefore : ∀ l ∈ last, ∀ b ∈ as, l ≤ time b := fun l hl b hb => hlast l hl b (List.mem_cons_of_mem c hb)
      rcases List.mem_cons.1 ha with rfl | ha
      · obtain ⟨l, hl, hlt⟩ : ∃ l ∈ last, ¬l + gap ≤ time a := by
          simpa [Free] using hfree
        exact Or.inl ⟨l, hl, hlast l hl a List.mem_cons_self, Nat.lt_of_not_le hlt⟩
      · exact ih hsorted hbefore ha hdropped

end Refractory
