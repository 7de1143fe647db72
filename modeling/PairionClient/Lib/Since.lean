import Mathlib.Data.List.Basic

/-!
# Looking back over a history

A history is the list of the events so far. `Since starts keeps` says that something began at some event and that every event
after it kept it going. It is known of a longer history from what was known of the shorter one (`since_concat`).
-/

namespace History

variable {ε : Type*}

/-- At some event, after the events before it, it started; every later event keeps it. -/
def Since (starts : List ε → ε → Prop) (keeps : ε → Prop) (es : List ε) : Prop :=
  ∃ before e after, es = before ++ e :: after ∧ starts before e ∧ ∀ x ∈ after, keeps x

variable {starts : List ε → ε → Prop} {keeps : ε → Prop} {es : List ε} {e : ε}

theorem not_since_nil : ¬Since starts keeps [] := by
  rintro ⟨before, e, after, hes, -, -⟩
  exact List.append_ne_nil_of_right_ne_nil before (List.cons_ne_nil e after) hes.symm

/-- One event later. -/
theorem since_concat : Since starts keeps (es ++ [e]) ↔ starts es e ∨ Since starts keeps es ∧ keeps e := by
  constructor
  · rintro ⟨before, x, after, hes, hstarts, hkeeps⟩
    rcases List.eq_nil_or_concat after with rfl | ⟨after, y, rfl⟩
    · obtain ⟨rfl, hx⟩ := List.append_inj' hes rfl
      cases hx
      exact Or.inl hstarts
    · rw [List.concat_eq_append, ← List.cons_append, ← List.append_assoc] at hes
      obtain ⟨rfl, hy⟩ := List.append_inj' hes rfl
      cases hy
      refine Or.inr ⟨⟨before, x, after, rfl, hstarts, fun z hz => hkeeps z ?_⟩, hkeeps e ?_⟩
      · simp [hz]
      · simp
  · rintro (hstarts | ⟨⟨before, x, after, rfl, hstarts, hkeeps⟩, he⟩)
    · exact ⟨es, e, [], rfl, hstarts, by simp⟩
    · refine ⟨before, x, after ++ [e], by simp, hstarts, fun z hz => ?_⟩
      rcases List.mem_append.1 hz with hz | hz
      · exact hkeeps z hz
      · exact List.mem_singleton.1 hz ▸ he

end History
