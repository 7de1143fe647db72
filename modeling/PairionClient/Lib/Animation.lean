import Mathlib.Algebra.Order.Field.Rat
import Mathlib.Data.Set.Function
import Mathlib.Logic.Function.Basic
import Mathlib.Order.Interval.Set.OrdConnected
import Mathlib.Tactic.Linarith
import Mathlib.Tactic.NormNum
import Mathlib.Tactic.Positivity
import Mathlib.Tactic.Ring

/-!
# Animations

Values of properties that are animated over time: an animation moves a property to a value with an easing, waits, or acts on a
property at once, and animations run in sequence or in parallel. Time comes in frames of any length; a frame that is longer
than what is left of an animation goes on with the one after it. An animation that is under way is again an animation, which
has recorded where it started from.

What is shown does not depend on the frames (`advance_add`), an animation is over after its `duration` (`rest_advance`) with its
`outcome` (`advance_of_le`), it leaves what it does not animate (`advance_frame`), every value it writes lies between the
one it starts from and the one it goes to (`stays_advance`), and one that loops is where the time since its start leaves it in a
pass (`loops_loop`).
-/

namespace Animation

/-- A curve from 0 to 1. -/
structure Easing where
  curve : ℚ → ℚ
  zero : curve 0 = 0
  one : curve 1 = 1
  mem : ∀ t, 0 ≤ t → t ≤ 1 → 0 ≤ curve t ∧ curve t ≤ 1

namespace Easing

def linear : Easing := ⟨id, rfl, rfl, fun _ hzero hone => ⟨hzero, hone⟩⟩

/-- A power of what is left. -/
def outCurve (n : ℕ) (t : ℚ) : ℚ := 1 - (1 - t) ^ (n + 1)

/-- A power up to the middle, and its mirror image from there. -/
def inOutCurve (n : ℕ) (t : ℚ) : ℚ := if t < 1 / 2 then 2 ^ n * t ^ (n + 1) else 1 - 2 ^ n * (1 - t) ^ (n + 1)

/-- The curve that eases out begins at 0. -/
theorem outCurve_zero (n : ℕ) : outCurve n 0 = 0 := by
  simp [outCurve]

theorem outCurve_one (n : ℕ) : outCurve n 1 = 1 := by
  simp [outCurve]

theorem outCurve_mem (n : ℕ) (t : ℚ) (hzero : 0 ≤ t) (hone : t ≤ 1) : 0 ≤ outCurve n t ∧ outCurve n t ≤ 1 := by
  have hnonneg : 0 ≤ (1 - t) ^ (n + 1) := pow_nonneg (by linarith) _
  have hle : (1 - t) ^ (n + 1) ≤ 1 := pow_le_one₀ (by linarith) (by linarith)
  exact ⟨sub_nonneg.2 hle, sub_le_self 1 hnonneg⟩

/-- The curve that eases in and out begins at 0. -/
theorem inOutCurve_zero (n : ℕ) : inOutCurve n 0 = 0 := by
  simp [inOutCurve]

theorem inOutCurve_one (n : ℕ) : inOutCurve n 1 = 1 := by
  have hlate : ¬(1 : ℚ) < 1 / 2 := by norm_num
  rw [inOutCurve, if_neg hlate]
  simp

theorem inOutCurve_mem (n : ℕ) (t : ℚ) (hzero : 0 ≤ t) (hone : t ≤ 1) : 0 ≤ inOutCurve n t ∧ inOutCurve n t ≤ 1 := by
  have hhalf : ∀ u : ℚ, 0 ≤ u → u ≤ 1 / 2 → 0 ≤ 2 ^ n * u ^ (n + 1) ∧ 2 ^ n * u ^ (n + 1) ≤ 1 := by
    intro u hu hle
    have htwice : 2 ^ n * u ^ (n + 1) = (2 * u) ^ n * u := by ring
    have hpow : (2 * u) ^ n ≤ 1 := pow_le_one₀ (by linarith) (by linarith)
    rw [htwice]
    exact ⟨mul_nonneg (pow_nonneg (by linarith) n) hu, mul_le_one₀ hpow hu (by linarith)⟩
  unfold inOutCurve
  split
  · exact hhalf t hzero (by linarith)
  · obtain ⟨hnonneg, hle⟩ := hhalf (1 - t) (by linarith) (by linarith)
    exact ⟨sub_nonneg.2 hle, sub_le_self 1 hnonneg⟩

def outCubic : Easing := ⟨outCurve 2, outCurve_zero 2, outCurve_one 2, outCurve_mem 2⟩

def inOutQuad : Easing := ⟨inOutCurve 1, inOutCurve_zero 1, inOutCurve_one 1, inOutCurve_mem 1⟩

def inOutCubic : Easing := ⟨inOutCurve 2, inOutCurve_zero 2, inOutCurve_one 2, inOutCurve_mem 2⟩

end Easing

/-- Animations of the properties `π`; `started` is where a number started from, and how long it has run. -/
inductive Anim (π : Type*) where
  | number (p : π) (target : ℚ) (duration : ℕ) (easing : Easing) (started : Option (ℚ × ℕ))
  | pause (left : ℕ)
  | action (p : π) (f : ℚ → ℚ)
  | sequential (first second : Anim π)
  | parallel (left right : Anim π)

/-- What a frame leaves: the rest of the animation, the values, and the time that was not used. -/
structure Frame (π : Type*) where
  rest : Option (Anim π)
  store : π → ℚ
  left : ℕ

namespace Anim

variable {π : Type*}

/-- Two animations after a frame of both. -/
def both : Option (Anim π) → Option (Anim π) → Option (Anim π)
  | some a, some b => some (parallel a b)
  | some a, none => some a
  | none, b => b

/-- A frame of two animations; time is left over once both are over. -/
def join (f g : Frame π) : Frame π :=
  ⟨both f.rest g.rest, g.store, if (both f.rest g.rest).isNone then min f.left g.left else 0⟩

/-- Where the first of two animations is over, and not before the second, the second is what goes on. -/
theorem join_of_rest_left {f g : Frame π} (hf : f.rest = none) (hg : g.rest ≠ none → g.left = 0) (hle : g.left ≤ f.left) :
    join f g = g := by
  rcases g with ⟨_ | b, store, left⟩
  · simpa [join, both, hf] using hle
  · simpa [join, both, hf] using (hg (by simp)).symm

/-- Where the second is over, and not before the first, the first goes on over what the second has written. -/
theorem join_of_rest_right {f g : Frame π} (hg : g.rest = none) (hf : f.rest ≠ none → f.left = 0) (hle : f.left ≤ g.left) :
    join f g = { f with store := g.store } := by
  rcases f with ⟨_ | a, store, left⟩
  · simpa [join, both, hg] using hle
  · simpa [join, both, hg] using (hf (by simp)).symm

variable [DecidableEq π]

/-- A frame of `t` milliseconds. -/
def advance (t : ℕ) : Anim π → (π → ℚ) → Frame π
  | number p target duration easing started, s =>
    let origin := started.getD (s p, 0)
    if t < duration - origin.2 then
      let elapsed := origin.2 + t
      ⟨some (number p target duration easing (some (origin.1, elapsed))),
        Function.update s p (origin.1 + (target - origin.1) * easing.curve (elapsed / duration)), 0⟩
    else ⟨none, Function.update s p target, t - (duration - origin.2)⟩
  | pause left, s => if t < left then ⟨some (pause (left - t)), s, 0⟩ else ⟨none, s, t - left⟩
  | action p f, s => ⟨none, Function.update s p (f (s p)), t⟩
  | sequential a b, s =>
    let fa := advance t a s
    match fa.rest with
    | some a' => ⟨some (sequential a' b), fa.store, 0⟩
    | none => advance fa.left b fa.store
  | parallel a b, s =>
    let fa := advance t a s
    join fa (advance t b fa.store)

/-- The property is written by the animation. -/
def Animates : Anim π → π → Prop
  | number p _ _ _ _, q | action p _, q => p = q
  | pause _, _ => False
  | sequential a b, q | parallel a b, q => a.Animates q ∨ b.Animates q

/-- Animations that run in parallel write different properties. -/
def Proper : Anim π → Prop
  | number _ _ _ _ _ | action _ _ | pause _ => True
  | sequential a b => a.Proper ∧ b.Proper
  | parallel a b => a.Proper ∧ b.Proper ∧ ∀ q, a.Animates q → ¬b.Animates q

variable {t : ℕ} {a b : Anim π} {s s' : π → ℚ}

/-! ## A frame -/

/-- No time is left over where the animation goes on, and never more than there was. -/
theorem left_advance (t : ℕ) (a : Anim π) (s : π → ℚ) :
    (advance t a s).left ≤ t ∧ ((advance t a s).rest ≠ none → (advance t a s).left = 0) := by
  induction a generalizing t s with
  | number p target duration easing started =>
    simp only [advance]
    split <;> simp
  | pause left =>
    simp only [advance]
    split <;> simp
  | action p f => simp [advance]
  | sequential a b iha ihb =>
    simp only [advance]
    split
    · simp
    · obtain ⟨hle, hzero⟩ := ihb (advance t a s).left (advance t a s).store
      exact ⟨hle.trans (iha t s).1, hzero⟩
  | parallel a b iha ihb =>
    simp only [advance, join]
    split
    · rename_i hnone
      exact ⟨(Nat.min_le_left _ _).trans (iha t s).1, fun h => absurd (Option.isNone_iff_eq_none.1 hnone) h⟩
    · simp

/-- What is left of an animation writes nothing that the animation does not. -/
theorem animates_rest (t : ℕ) (a : Anim π) (s : π → ℚ) : ∀ a' ∈ (advance t a s).rest, ∀ q, a'.Animates q → a.Animates q := by
  induction a generalizing t s with
  | number p target duration easing started =>
    simp only [advance]
    split
    · rintro a' ⟨⟩ q h
      exact h
    · simp
  | pause left =>
    simp only [advance]
    split
    · rintro a' ⟨⟩ q h
      exact h
    · simp
  | action p f => simp [advance]
  | sequential a b iha ihb =>
    simp only [advance]
    split
    · rename_i a' ha
      rintro _ ⟨⟩ q h
      exact h.imp_left (iha t s a' ha q)
    · intro a' ha q h
      exact Or.inr (ihb _ _ a' ha q h)
  | parallel a b iha ihb =>
    simp only [advance, join]
    intro c hc q h
    rcases ha : (advance t a s).rest with - | a' <;> rcases hb : (advance t b (advance t a s).store).rest with - | b'
    all_goals rw [ha, hb] at hc
    · cases hc
    · obtain rfl := Option.some.inj hc
      exact Or.inr (ihb _ _ _ hb q h)
    · obtain rfl := Option.some.inj hc
      exact Or.inl (iha _ _ _ ha q h)
    · obtain rfl := Option.some.inj hc
      exact h.imp (iha _ _ _ ha q) (ihb _ _ _ hb q)

/-- What is left of a proper animation is proper. -/
theorem proper_rest (ha : a.Proper) (t : ℕ) (s : π → ℚ) : ∀ a' ∈ (advance t a s).rest, a'.Proper := by
  induction a generalizing t s with
  | number p target duration easing started =>
    simp only [advance]
    split <;> simp [Proper]
  | pause left =>
    simp only [advance]
    split <;> simp [Proper]
  | action p f => simp [advance]
  | sequential a b iha ihb =>
    simp only [advance]
    split
    · rename_i a' hrest
      rintro _ ⟨⟩
      exact ⟨iha ha.1 t s a' hrest, ha.2⟩
    · exact ihb ha.2 _ _
  | parallel a b iha ihb =>
    obtain ⟨hpa, hpb, hdisjoint⟩ := ha
    simp only [advance, join]
    intro c hc
    rcases ha : (advance t a s).rest with - | a' <;> rcases hb : (advance t b (advance t a s).store).rest with - | b'
    all_goals rw [ha, hb] at hc
    · cases hc
    · obtain rfl := Option.some.inj hc
      exact ihb hpb _ _ _ hb
    · obtain rfl := Option.some.inj hc
      exact iha hpa _ _ _ ha
    · obtain rfl := Option.some.inj hc
      exact ⟨iha hpa _ _ _ ha, ihb hpb _ _ _ hb,
        fun q hq hq' => hdisjoint q (animates_rest _ _ _ _ ha q hq) (animates_rest _ _ _ _ hb q hq')⟩

/-- What is not animated is left. -/
theorem advance_frame {q : π} (h : ¬a.Animates q) (t : ℕ) (s : π → ℚ) : (advance t a s).store q = s q := by
  induction a generalizing t s with
  | number p target duration easing started =>
    have hne : q ≠ p := fun heq => h heq.symm
    simp only [advance]
    split <;> exact Function.update_of_ne hne _ _
  | pause left =>
    simp only [advance]
    split <;> rfl
  | action p f =>
    have hne : q ≠ p := fun heq => h heq.symm
    exact Function.update_of_ne hne _ _
  | sequential a b iha ihb =>
    obtain ⟨hqa, hqb⟩ := not_or.1 h
    simp only [advance]
    split
    · exact iha hqa t s
    · exact (ihb hqb _ _).trans (iha hqa t s)
  | parallel a b iha ihb =>
    obtain ⟨hqa, hqb⟩ := not_or.1 h
    simp only [advance]
    exact (ihb hqb _ _).trans (iha hqa t s)

/-- Two stores that agree beyond what is animated still do after a frame, if they do on what is animated. -/
theorem advance_agree {P : π → Prop} (h : ∀ q, P q → s q = s' q)
    (hanimated : ∀ q, a.Animates q → (advance t a s).store q = (advance t a s').store q) :
    ∀ q, P q → (advance t a s).store q = (advance t a s').store q := by
  intro q hq
  by_cases hqa : a.Animates q
  · exact hanimated q hqa
  · rw [advance_frame hqa, advance_frame hqa]
    exact h q hq

/-- A frame reads nothing but what is animated. -/
theorem advance_congr (t : ℕ) (a : Anim π) (h : ∀ q, a.Animates q → s q = s' q) :
    (advance t a s).rest = (advance t a s').rest ∧ (advance t a s).left = (advance t a s').left ∧
      ∀ q, a.Animates q → (advance t a s).store q = (advance t a s').store q := by
  induction a generalizing t s s' with
  | number p target duration easing started =>
    have hp : s p = s' p := h p rfl
    simp only [advance, hp]
    split
    · refine ⟨rfl, rfl, ?_⟩
      rintro q rfl
      dsimp only
      rw [Function.update_self, Function.update_self]
    · refine ⟨rfl, rfl, ?_⟩
      rintro q rfl
      dsimp only
      rw [Function.update_self, Function.update_self]
  | pause left =>
    simp only [advance]
    split <;> exact ⟨rfl, rfl, fun q hq => hq.elim⟩
  | action p f =>
    have hp : s p = s' p := h p rfl
    refine ⟨rfl, rfl, ?_⟩
    rintro q rfl
    simp only [advance, hp, Function.update_self]
  | sequential a b iha ihb =>
    obtain ⟨hrest, hleft, hstore⟩ := iha t fun q hq => h q (Or.inl hq)
    -- the two stores agree after the first as before it
    have hagree := advance_agree h hstore
    simp only [advance, ← hrest, ← hleft]
    split
    · exact ⟨rfl, rfl, hagree⟩
    · obtain ⟨hrest', hleft', hstore'⟩ := ihb (advance t a s).left fun q hq => hagree q (Or.inr hq)
      exact ⟨hrest', hleft', advance_agree hagree hstore'⟩
  | parallel a b iha ihb =>
    obtain ⟨hrest, hleft, hstore⟩ := iha t fun q hq => h q (Or.inl hq)
    have hagree := advance_agree h hstore
    obtain ⟨hrest', hleft', hstore'⟩ := ihb t fun q hq => hagree q (Or.inr hq)
    have hlast := advance_agree hagree hstore'
    refine ⟨?_, ?_, hlast⟩
    · simp only [advance, join, hrest, hrest']
    · simp only [advance, join, hrest, hrest', hleft, hleft']

/-- Two frames of animations of different properties may come in either order. -/
theorem advance_swap (hdisjoint : ∀ q, a.Animates q → ¬b.Animates q) (t t' : ℕ) (s : π → ℚ) :
    (advance t' b (advance t a s).store).rest = (advance t' b s).rest ∧
      (advance t' b (advance t a s).store).left = (advance t' b s).left ∧
      (advance t' b (advance t a s).store).store = (advance t a (advance t' b s).store).store := by
  have hb : ∀ q, b.Animates q → (advance t a s).store q = s q := fun q hq => advance_frame (fun hqa => hdisjoint q hqa hq) t s
  obtain ⟨hrest, hleft, hstore⟩ := advance_congr t' b hb
  refine ⟨hrest, hleft, funext fun q => ?_⟩
  by_cases hqb : b.Animates q
  · have hqa : ¬a.Animates q := fun hqa => hdisjoint q hqa hqb
    rw [hstore q hqb, advance_frame hqa]
  · have ha : ∀ q, a.Animates q → (advance t' b s).store q = s q := fun q hq => advance_frame (hdisjoint q hq) t' s
    obtain ⟨-, -, hstore'⟩ := advance_congr t a ha
    rw [advance_frame hqb]
    by_cases hqa : a.Animates q
    · exact (hstore' q hqa).symm
    · rw [advance_frame hqa, advance_frame hqa, advance_frame hqb]

/-! ## Frames in a row -/

/-- A frame after an earlier one. -/
def next (f : Frame π) (t : ℕ) : Frame π :=
  match f.rest with
  | none => { f with left := f.left + t }
  | some a => a.advance t f.store

/-- What is shown after two frames is what is shown after one of their length. -/
theorem advance_add (ha : a.Proper) (t u : ℕ) (s : π → ℚ) : advance (t + u) a s = next (advance t a s) u := by
  induction a generalizing t u s with
  | number p target duration easing started =>
    simp only [advance]
    by_cases ht : t < duration - (started.getD (s p, 0)).2
    · rw [if_pos ht]
      simp only [next, advance, Option.getD_some, Function.update_idem]
      by_cases htu : t + u < duration - (started.getD (s p, 0)).2
      · rw [if_pos htu, if_pos (by omega), Nat.add_assoc]
      · rw [if_neg htu, if_neg (by omega)]
        congr 1
        omega
    · rw [if_neg ht, if_neg (by omega)]
      simp only [next]
      congr 1
      omega
  | pause left =>
    simp only [advance]
    by_cases ht : t < left
    · rw [if_pos ht]
      simp only [next, advance]
      by_cases htu : t + u < left
      · rw [if_pos htu, if_pos (by omega), Nat.sub_sub]
      · rw [if_neg htu, if_neg (by omega)]
        congr 1
        omega
    · rw [if_neg ht, if_neg (by omega)]
      simp only [next]
      congr 1
      omega
  | action p f => rfl
  | sequential a b iha ihb =>
    have hfirst := iha ha.1 t u s
    rcases hrest : (advance t a s).rest with - | a'
    · simp only [advance, hfirst, next, hrest]
      exact ihb ha.2 _ u _
    · simp only [advance, hfirst, next, hrest]
  | parallel a b iha ihb =>
    obtain ⟨hpa, hpb, hdisjoint⟩ := ha
    have hfirst := iha hpa t u s
    simp only [advance]
    rw [hfirst, ihb hpb t u]
    rcases hrest : (advance t a s).rest with - | a'
    · have hstore : (next (advance t a s) u).store = (advance t a s).store := by simp [next, hrest]
      rw [hstore]
      rcases hrest' : (advance t b (advance t a s).store).rest with - | b'
      · simp only [next, join, both, hrest, hrest']
        simp [Nat.add_min_add_right]
      · -- only the second goes on
        have hnext : next (advance t b (advance t a s).store) u = advance u b' (advance t b (advance t a s).store).store := by
          simp [next, hrest']
        obtain ⟨hle, hused⟩ := left_advance u b' (advance t b (advance t a s).store).store
        rw [hnext, join_of_rest_left (by simp [next, hrest]) hused (by simpa [next, hrest] using hle.trans (Nat.le_add_left u _))]
        simp [next, join, both, hrest, hrest']
    · have hnext : next (advance t a s) u = advance u a' (advance t a s).store := by simp [next, hrest]
      have hdisjoint' : ∀ q, a'.Animates q → ¬b.Animates q := fun q hq => hdisjoint q (animates_rest t a s a' hrest q hq)
      obtain ⟨hrestb, hleftb, hstoreb⟩ := advance_swap hdisjoint' u t (advance t a s).store
      -- what is left of the first does not see what the second has written
      have hunseen : ∀ q, a'.Animates q → (advance t b (advance t a s).store).store q = (advance t a s).store q :=
        fun q hq => advance_frame (hdisjoint' q hq) t _
      obtain ⟨hresta, hlefta, -⟩ := advance_congr u a' hunseen
      rw [hnext]
      rcases hrest' : (advance t b (advance t a s).store).rest with - | b'
      · obtain ⟨hle, hused⟩ := left_advance u a' (advance t a s).store
        rw [join_of_rest_right (by simp [next, hrestb, hrest']) hused
          (by simpa [next, hrestb, hrest'] using hle.trans (Nat.le_add_left u _))]
        simp [next, join, both, hrest, hrest', hrestb, hstoreb, ← hresta, ← hlefta]
      · simp [next, join, both, hrest, hrest', hrestb, hstoreb, hresta, hlefta, advance]

/-! ## The end -/

/-- How long the animation goes on. -/
def duration : Anim π → ℕ
  | number _ _ duration _ started => duration - (started.getD (0, 0)).2
  | pause left => left
  | action _ _ => 0
  | sequential a b => a.duration + b.duration
  | parallel a b => max a.duration b.duration

/-- The values after the animation. -/
def outcome : Anim π → (π → ℚ) → π → ℚ
  | number p target _ _ _, s => Function.update s p target
  | pause _, s => s
  | action p f, s => Function.update s p (f (s p))
  | sequential a b, s | parallel a b, s => b.outcome (a.outcome s)

/-- The time that has elapsed does not depend on the value to start from. -/
theorem elapsed_eq (started : Option (ℚ × ℕ)) (x : ℚ) : (started.getD (x, 0)).2 = (started.getD (0, 0)).2 := by
  cases started <;> rfl

/-- An animation that has had its time leaves its outcome, and the time it did not need. -/
theorem advance_of_le (h : a.duration ≤ t) (s : π → ℚ) : advance t a s = ⟨none, a.outcome s, t - a.duration⟩ := by
  induction a generalizing t s with
  | number p target duration easing started =>
    simp only [Anim.duration] at h
    simp only [advance, elapsed_eq started (s p)]
    rw [if_neg (Nat.not_lt.2 h)]
    rfl
  | pause left => exact if_neg (Nat.not_lt.2 h)
  | action p f => rfl
  | sequential a b iha ihb =>
    simp only [duration] at h
    simp only [advance, iha (Nat.le_of_add_right_le h) s]
    rw [ihb (Nat.le_sub_of_add_le' h), duration, outcome, Nat.sub_sub]
  | parallel a b iha ihb =>
    obtain ⟨hda, hdb⟩ := Nat.max_le.1 h
    simp only [advance, iha hda s, ihb hdb]
    simp only [join, both, Option.isNone_none, if_true, outcome, duration]
    congr 1
    omega

/-- What is left of an animation lasts for what is left of its time. -/
theorem rest_of_lt (h : t < a.duration) (s : π → ℚ) :
    ∃ a', (advance t a s).rest = some a' ∧ a'.duration = a.duration - t := by
  induction a generalizing t s with
  | number p target duration easing started =>
    simp only [Anim.duration] at h
    simp only [advance, elapsed_eq started (s p)]
    rw [if_pos h]
    exact ⟨_, rfl, by simp only [Anim.duration, Option.getD_some]; omega⟩
  | pause left =>
    simp only [duration] at h ⊢
    simp only [advance]
    rw [if_pos h]
    exact ⟨_, rfl, rfl⟩
  | action p f => exact absurd h (Nat.not_lt_zero t)
  | sequential a b iha ihb =>
    simp only [duration] at h ⊢
    by_cases hta : t < a.duration
    · obtain ⟨a', hrest, hduration⟩ := iha hta s
      simp only [advance, hrest]
      exact ⟨_, rfl, by simp only [duration]; omega⟩
    · have hle := Nat.not_lt.1 hta
      obtain ⟨b', hrest, hduration⟩ := ihb (t := t - a.duration) (by omega) (a.outcome s)
      simp only [advance, advance_of_le hle]
      exact ⟨b', hrest, by omega⟩
  | parallel a b iha ihb =>
    simp only [duration] at h ⊢
    simp only [advance, join]
    by_cases hta : t < a.duration
    · obtain ⟨a', hrest, hduration⟩ := iha hta s
      by_cases htb : t < b.duration
      · obtain ⟨b', hrest', hduration'⟩ := ihb htb (advance t a s).store
        rw [hrest, hrest']
        exact ⟨_, rfl, by simp only [duration]; omega⟩
      · rw [hrest, advance_of_le (Nat.not_lt.1 htb)]
        exact ⟨a', rfl, by omega⟩
    · have htb : t < b.duration := by omega
      obtain ⟨b', hrest', hduration'⟩ := ihb htb (advance t a s).store
      rw [hrest', advance_of_le (Nat.not_lt.1 hta)]
      exact ⟨b', rfl, by omega⟩

/-- What is left of an animation comes to what the animation comes to. -/
theorem outcome_rest (ha : a.Proper) (h : t < a.duration) (s : π → ℚ) : ∃ a', (advance t a s).rest = some a' ∧
    a'.duration = a.duration - t ∧ a'.outcome (advance t a s).store = a.outcome s := by
  obtain ⟨a', hrest, hduration⟩ := rest_of_lt h s
  have hwhole := advance_add ha t (a.duration - t) s
  rw [Nat.add_sub_cancel' h.le, advance_of_le (Nat.le_refl _), next, hrest] at hwhole
  dsimp only at hwhole
  rw [advance_of_le hduration.le] at hwhole
  exact ⟨a', hrest, hduration, (congrArg Frame.store hwhole).symm⟩

/-- The first of two animations is over. -/
theorem advance_sequential_of_le (h : a.duration ≤ t) (b : Anim π) (s : π → ℚ) :
    advance t (.sequential a b) s = advance (t - a.duration) b (a.outcome s) := by
  simp only [advance, advance_of_le h]

/-- The first of two animations goes on. -/
theorem store_sequential_of_lt (h : t < a.duration) (b : Anim π) (s : π → ℚ) :
    (advance t (.sequential a b) s).store = (advance t a s).store := by
  obtain ⟨a', hrest, -⟩ := rest_of_lt h s
  simp only [advance, hrest]

/-! ## What is shown

Others may write what is not animated between two frames.
-/

/-- `t` milliseconds of the animation have been shown, from the values `s`. -/
def Plays (a : Anim π) (s : π → ℚ) (t : ℕ) (rest : Option (Anim π)) (shown : π → ℚ) : Prop :=
  (t = 0 ∧ rest = some a ∧ ∀ p, a.Animates p → shown p = s p) ∨
    (rest = (a.advance t s).rest ∧ ∀ p, a.Animates p → shown p = (a.advance t s).store p)

variable {rest : Option (Anim π)} {shown shown' : π → ℚ}

/-- An animation that has just been started is at time 0. -/
theorem plays_start (a : Anim π) (s : π → ℚ) : Plays a s 0 (some a) s := Or.inl ⟨rfl, rfl, fun _ _ => rfl⟩

theorem Plays.congr (h : Plays a s t rest shown) (hshown : ∀ p, a.Animates p → shown' p = shown p) :
    Plays a s t rest shown' := by
  rcases h with ⟨hzero, hrest, hs⟩ | ⟨hrest, hs⟩
  · exact Or.inl ⟨hzero, hrest, fun p hp => (hshown p hp).trans (hs p hp)⟩
  · exact Or.inr ⟨hrest, fun p hp => (hshown p hp).trans (hs p hp)⟩

/-- Another frame of what is left. -/
theorem Plays.frame (ha : a.Proper) {b : Anim π} (h : Plays a s t (some b) shown) (u : ℕ) :
    Plays a s (t + u) (b.advance u shown).rest (b.advance u shown).store := by
  rcases h with ⟨rfl, hrest, hs⟩ | ⟨hrest, hs⟩
  · obtain rfl := Option.some.inj hrest
    obtain ⟨hrest', -, hstore⟩ := advance_congr u b hs
    rw [Nat.zero_add]
    exact Or.inr ⟨hrest', hstore⟩
  · have hsub := animates_rest t a s b hrest.symm
    obtain ⟨hrest', -, hstore⟩ := advance_congr u b fun p hp => hs p (hsub p hp)
    have hnext : advance (t + u) a s = advance u b (advance t a s).store := by
      rw [advance_add ha, next, ← hrest]
    refine Or.inr ⟨by rw [hnext, hrest'], fun p hp => ?_⟩
    rw [hnext]
    by_cases hpb : b.Animates p
    · exact hstore p hpb
    · rw [advance_frame hpb, advance_frame hpb]
      exact hs p hp

/-- Time goes by after the end. -/
theorem Plays.over (ha : a.Proper) (h : Plays a s t none shown) (u : ℕ) : Plays a s (t + u) none shown := by
  rcases h with ⟨-, hrest, -⟩ | ⟨hrest, hs⟩
  · cases hrest
  · have hnext : advance (t + u) a s = ⟨none, (advance t a s).store, (advance t a s).left + u⟩ := by
      simp only [advance_add ha, next, ← hrest]
    exact Or.inr ⟨by rw [hnext], fun p hp => by rw [hnext, hs p hp]⟩

/-- After its time the animation is over. -/
theorem Plays.outcome (h : Plays a s t rest shown) (hpos : 0 < a.duration) (hle : a.duration ≤ t) :
    rest = none ∧ ∀ p, a.Animates p → shown p = a.outcome s p := by
  rcases h with ⟨rfl, -, -⟩ | ⟨hrest, hs⟩
  · omega
  · rw [advance_of_le hle] at hrest hs
    exact ⟨hrest, hs⟩

/-! ## Loops

An animation that starts again when it is over.
-/

/-- A frame of what is left of a pass; the time left over goes to the next pass, and whole passes are skipped. -/
def loop (body : Anim π) (t : ℕ) (a : Anim π) (s : π → ℚ) : Anim π × (π → ℚ) :=
  let fa := advance t a s
  match fa.rest with
  | some a' => (a', fa.store)
  | none =>
    let fb := advance (fa.left % body.duration) body fa.store
    (fb.rest.getD body, fb.store)

/-- The pass is at its time `t`, whatever values it started from. -/
def Loops (body : Anim π) (t : ℕ) (a : Anim π) (shown : π → ℚ) : Prop :=
  t < body.duration ∧ ∃ s, (advance t body s).rest = some a ∧ shown = (advance t body s).store

/-- A loop is at the time that has gone by modulo the duration of its body. -/
theorem loops_loop {body : Anim π} (hbody : body.Proper) (h : Loops body t a s) (u : ℕ) :
    Loops body ((t + u) % body.duration) (loop body u a s).1 (loop body u a s).2 := by
  obtain ⟨hlt, origin, hrest, rfl⟩ := h
  have hnext : advance u a (advance t body origin).store = advance (t + u) body origin := by
    rw [advance_add hbody, next, hrest]
  have hpos : 0 < body.duration := Nat.zero_lt_of_lt hlt
  simp only [loop, hnext]
  by_cases hpass : t + u < body.duration
  · obtain ⟨a', ha', -⟩ := rest_of_lt hpass origin
    rw [Nat.mod_eq_of_lt hpass, ha']
    exact ⟨hpass, origin, ha', rfl⟩
  · have hover := Nat.not_lt.1 hpass
    have hmod : (t + u) % body.duration = (t + u - body.duration) % body.duration := Nat.mod_eq_sub_mod hover
    have hless := Nat.mod_lt (t + u - body.duration) hpos
    obtain ⟨a', ha', -⟩ := rest_of_lt hless (body.outcome origin)
    rw [advance_of_le hover, hmod]
    dsimp only
    rw [ha']
    exact ⟨hless, _, ha', rfl⟩

/-- The first pass starts. -/
theorem loops_start {body : Anim π} (hpos : 0 < body.duration) (s : π → ℚ) :
    Loops body 0 (loop body 0 body s).1 (loop body 0 body s).2 := by
  obtain ⟨a, ha, -⟩ := rest_of_lt hpos s
  simp only [loop, ha]
  exact ⟨hpos, s, ha, rfl⟩

/-! ## Between the ends -/

/-- The targets, and where the animation has started from, lie in the range of each property, and its actions stay there.
-/
def Stays (I : π → Set ℚ) : Anim π → Prop
  | number p target _ _ started => target ∈ I p ∧ ∀ o ∈ started, o.1 ∈ I p
  | pause _ => True
  | action p f => Set.MapsTo f (I p) (I p)
  | sequential a b | parallel a b => a.Stays I ∧ b.Stays I

/-- A value on the way between two values of a range is in it. -/
theorem mem_of_ease {J : Set ℚ} (hJ : J.OrdConnected) {x y c : ℚ} (hx : x ∈ J) (hy : y ∈ J) (hc : 0 ≤ c ∧ c ≤ 1) :
    x + (y - x) * c ∈ J := by
  obtain ⟨hzero, hone⟩ := hc
  refine hJ.uIcc_subset hx hy ?_
  rcases le_total x y with hle | hle
  · rw [Set.uIcc_of_le hle]
    constructor
    · nlinarith
    · nlinarith
  · rw [Set.uIcc_of_ge hle]
    constructor
    · nlinarith
    · nlinarith

/-- An animation between values of an interval shows values of the interval. -/
theorem stays_advance {I : π → Set ℚ} (hI : ∀ p, (I p).OrdConnected) (ha : a.Stays I) (hs : ∀ p, s p ∈ I p) :
    (∀ p, (advance t a s).store p ∈ I p) ∧ ∀ a' ∈ (advance t a s).rest, a'.Stays I := by
  have hupdate (p : π) {s : π → ℚ} (hs : ∀ p, s p ∈ I p) {x : ℚ} (hx : x ∈ I p) : ∀ q, Function.update s p x q ∈ I q := by
    intro q
    by_cases hq : q = p
    · subst hq
      rwa [Function.update_self]
    · rw [Function.update_of_ne hq]
      exact hs q
  induction a generalizing t s with
  | number p target duration easing started =>
    obtain ⟨htarget, hstarted⟩ := ha
    have horigin : (started.getD (s p, 0)).1 ∈ I p := by
      cases started with
      | none => exact hs p
      | some o => exact hstarted o rfl
    simp only [advance]
    split
    · rename_i h
      refine ⟨hupdate p hs (mem_of_ease (hI p) horigin htarget (easing.mem _ (by positivity) ?_)), ?_⟩
      · have hlt : (started.getD (s p, 0)).2 + t ≤ duration := by omega
        exact div_le_one_of_le₀ (by exact_mod_cast hlt) (by positivity)
      · rintro a' ⟨⟩
        refine ⟨htarget, ?_⟩
        rintro o ⟨⟩
        exact horigin
    · exact ⟨hupdate p hs htarget, by simp⟩
  | pause left =>
    simp only [advance]
    split
    · exact ⟨hs, by rintro a' ⟨⟩; trivial⟩
    · exact ⟨hs, by simp⟩
  | action p f => exact ⟨hupdate p hs (ha (hs p)), by simp [advance]⟩
  | sequential a b iha ihb =>
    obtain ⟨hstore, hrest⟩ := iha ha.1 hs (t := t)
    simp only [advance]
    split
    · rename_i a' hsome
      refine ⟨hstore, ?_⟩
      rintro _ ⟨⟩
      exact ⟨hrest a' hsome, ha.2⟩
    · exact ihb ha.2 hstore
  | parallel a b iha ihb =>
    obtain ⟨hstore, hrest⟩ := iha ha.1 hs (t := t)
    obtain ⟨hstore', hrest'⟩ := ihb ha.2 hstore (t := t)
    refine ⟨hstore', fun c hc => ?_⟩
    simp only [advance, join] at hc
    rcases hfa : (advance t a s).rest with - | a' <;> rcases hfb : (advance t b (advance t a s).store).rest with - | b'
    all_goals rw [hfa, hfb] at hc
    · cases hc
    · cases hc
      exact hrest' _ hfb
    · cases hc
      exact hrest _ hfa
    · cases hc
      exact ⟨hrest _ hfa, hrest' _ hfb⟩

end Anim

end Animation
