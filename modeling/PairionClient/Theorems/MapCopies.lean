import PairionClient.Theorems.ShortestPan

/-!
# The three copies of the map

The copies cover the screen while the offset is between 0 and two widths. The timer and the script after a pan keep it
there; but a pan takes the short way, and the short way may lead past either end.
-/

namespace PairionClient

open Transition ShortWay

namespace MapView

variable (v : MapView)

/-- Each point of the unscaled screen is on one of the copies. -/
def Covers (offset : ℚ) : Prop :=
  ∀ x, 0 ≤ x → x ≤ v.width → ∃ left ∈ v.copies offset, left ≤ x ∧ x ≤ left + v.width

/-- The three copies cover the view for offsets from 0 to two widths. -/
theorem covers_iff (offset : ℚ) : v.Covers offset ↔ 0 ≤ offset ∧ offset ≤ 2 * v.width := by
  have hw := v.width_pos
  constructor
  · intro h
    obtain ⟨left, hleft, hle, hge⟩ := h 0 le_rfl hw.le
    obtain ⟨left', hleft', hle', hge'⟩ := h v.width hw.le le_rfl
    simp only [copies, List.mem_cons, List.not_mem_nil, or_false] at hleft hleft'
    constructor
    · rcases hleft with rfl | rfl | rfl <;> linarith
    · rcases hleft' with rfl | rfl | rfl <;> linarith
  · rintro ⟨hzero, htwo⟩ x hx hxw
    by_cases hfirst : x ≤ v.width - offset
    · exact ⟨-offset, by simp [copies], by linarith, by linarith⟩
    · by_cases hsecond : x ≤ 2 * v.width - offset
      · exact ⟨v.width - offset, by simp [copies], by linarith, by linarith⟩
      · exact ⟨2 * v.width - offset, by simp [copies], by linarith, by linarith⟩

/-- An offset at which the copies cover the screen. -/
def InRange (offset : ℚ) : Prop := 0 ≤ offset ∧ offset ≤ 2 * v.width

/-- What is between two offsets in range is in range. -/
theorem InRange.between {v : MapView} {start stop : ℚ} (hstart : v.InRange start) (hstop : v.InRange stop) {f : ℚ}
    (hf : 0 ≤ f ∧ f ≤ 1) : v.InRange (start + (stop - start) * f) := by
  have hmix : start + (stop - start) * f = start * (1 - f) + stop * f := by ring
  obtain ⟨hstart, hstart'⟩ := hstart
  obtain ⟨hstop, hstop'⟩ := hstop
  obtain ⟨hf, hf'⟩ := hf
  have hrest : 0 ≤ 1 - f := sub_nonneg.2 hf'
  rw [InRange, hmix]
  constructor
  · exact add_nonneg (mul_nonneg hstart hrest) (mul_nonneg hstop hf)
  · calc start * (1 - f) + stop * f
        ≤ 2 * v.width * (1 - f) + 2 * v.width * f :=
          add_le_add (mul_le_mul_of_nonneg_right hstart' hrest) (mul_le_mul_of_nonneg_right hstop' hf)
      _ = 2 * v.width := by ring

/-- The short way stays in range unless it wraps past an end. -/
theorem inRange_panTo_iff {offset : ℚ} (hoffset : v.InRange offset) (lon : ℚ) :
    v.InRange (v.panTo offset (v.target lon)) ↔
      (v.width / 2 < v.target lon - offset → v.width ≤ v.target lon) ∧
        (v.target lon - offset < -(v.width / 2) → v.target lon ≤ v.width) := by
  have hw := v.width_pos
  have hlow : v.width / 2 ≤ v.target lon := le_add_of_nonneg_right (v.basePinX_nonneg lon)
  have hhigh : v.target lon < v.width / 2 + v.width := add_lt_add_of_le_of_lt le_rfl (v.basePinX_lt lon)
  obtain ⟨hzero, htwo⟩ := hoffset
  rw [panTo_eq, InRange]
  rcases shortWay_cases v.width (v.target lon - offset) with ⟨hfar, heq⟩ | ⟨hback, heq⟩ | ⟨hnear, heq⟩
  · rw [heq]
    have hnot : ¬v.target lon - offset < -(v.width / 2) := by linarith
    constructor
    · rintro ⟨hge, -⟩
      exact ⟨fun _ => by linarith, fun h => absurd h hnot⟩
    · rintro ⟨hwidth, -⟩
      have := hwidth hfar
      constructor <;> linarith
  · rw [heq]
    have hnot : ¬v.width / 2 < v.target lon - offset := by linarith
    constructor
    · rintro ⟨-, hle⟩
      exact ⟨fun h => absurd h hnot, fun _ => by linarith⟩
    · rintro ⟨-, hwidth⟩
      have := hwidth hback
      constructor <;> linarith
  · rw [heq]
    obtain ⟨hback, hfar⟩ := abs_le.1 hnear
    refine iff_of_true ?_ ⟨fun h => absurd h (not_lt.2 hfar), fun h => absurd h (not_lt.2 hback)⟩
    constructor <;> linarith

end MapView

/-- The curve of the pan stays between its ends. -/
theorem inOutCubic_mem {t : ℚ} (ht : t ∈ Set.Icc (0 : ℚ) 1) : 0 ≤ inOutCubic t ∧ inOutCubic t ≤ 1 := by
  obtain ⟨hzero, hone⟩ := ht
  unfold inOutCubic
  split
  · rename_i hhalf
    have hcube : t ^ 3 ≤ (1 / 2) ^ 3 := pow_le_pow_left₀ hzero hhalf.le 3
    exact ⟨by positivity, by linarith⟩
  · rename_i hhalf
    have hrest : 0 ≤ 1 - t := sub_nonneg.2 hone
    have hcube : (1 - t) ^ 3 ≤ (1 / 2) ^ 3 := pow_le_pow_left₀ hrest (by linarith) 3
    have hpos : 0 ≤ (1 - t) ^ 3 := pow_nonneg hrest 3
    exact ⟨by linarith, by linarith⟩

/-- The script after a pan brings any offset into range. -/
theorem renormalised_mem {w : ℚ} (hw : 0 < w) (o : ℚ) : 0 < renormalised w o ∧ renormalised w o < 2 * w := by
  have hlowered : ∀ o, lowered w o < 2 * w := by
    intro o
    fun_induction lowered w o with
    | case1 o _ ih => exact ih
    | case2 o h => exact lt_of_not_ge fun hle => h ⟨hw, hle⟩
  have hraised : ∀ o, o < 2 * w → 0 < raised w o ∧ raised w o < 2 * w := by
    intro o
    fun_induction raised w o with
    | case1 o h ih => exact fun _ => ih (by linarith [h.2])
    | case2 o h => exact fun ho => ⟨lt_of_not_ge fun hle => h ⟨hw, hle⟩, ho⟩
  exact hraised _ (hlowered o)

namespace HemisphereMap

variable {v : MapView} {s : HemisphereMap}

/-- The offset is in range, and so are the ends of a pan. -/
structure Kept (v : MapView) (s : HemisphereMap) : Prop where
  mapOffset : v.InRange s.mapOffset
  seqPanTo : s.focusSequence = .zoomingOut ∨ (∃ start, s.focusSequence = .panning start) → v.InRange s.seqPanTo
  start : ∀ start, s.focusSequence = .panning start → v.InRange start

/-- A request whose pan does not wrap past an end, or a tick that stays within a width of the range. -/
def StaysOn (v : MapView) (s : HemisphereMap) (e : Event) : Prop :=
  (∀ lon, s.requested e = some lon →
    (v.width / 2 < v.target lon - s.mapOffset → v.width ≤ v.target lon) ∧
      (v.target lon - s.mapOffset < -(v.width / 2) → v.target lon ≤ v.width)) ∧
  (e = .timer → s.timerRuns v = true →
    -v.width ≤ s.mapOffset + v.scrollSpeed ∧ s.mapOffset + v.scrollSpeed ≤ 3 * v.width)

/-- Where no pan is due, only the offset counts. -/
theorem Kept.of_not_panning (hoffset : v.InRange s.mapOffset)
    (hphase : s.focusSequence = .stopped ∨ s.focusSequence = .arriving) :
    Kept v s := by
  refine ⟨hoffset, fun hpan => ?_, fun start hstart => ?_⟩
  · rcases hphase with hphase | hphase <;> rcases hpan with hpan | ⟨start, hpan⟩ <;> rw [hphase] at hpan <;> cases hpan
  · rcases hphase with hphase | hphase <;> rw [hphase] at hstart <;> cases hstart

/-- A change of a property that requests no longitude stops the sequence, if it does anything. -/
theorem step_of_not_requested {e : Event} (h : s.requested e = none)
    (he : (∃ index, e = .activePinIndex index) ∨ ∃ focus, e = .serverFocus focus) :
    step v s e = s ∨ ((step v s e).mapOffset = s.mapOffset ∧ (step v s e).focusSequence = .stopped) := by
  rcases he with ⟨index, rfl⟩ | ⟨focus, rfl⟩
  · by_cases hsame : index = s.activePinIndex
    · rw [step, if_pos hsame]
      exact Or.inl rfl
    · rw [requested, if_neg hsame] at h
      have hnone : ({ s with activePinIndex := index }.stopAnimations).activePin = none := Option.map_eq_none_iff.1 h
      rw [step, if_neg hsame, onActivePinIndexChanged, hnone]
      exact Or.inr ⟨rfl, rfl⟩
  · obtain rfl : focus = none := Option.map_eq_none_iff.1 h
    rw [step]
    split
    · exact Or.inl rfl
    · exact Or.inr ⟨rfl, rfl⟩

/-- A tick that stays within a width of the range leaves the offset in range. -/
theorem kept_autoScroll (hruns : s.timerRuns v = true)
    (hspeed : -v.width ≤ s.mapOffset + v.scrollSpeed ∧ s.mapOffset + v.scrollSpeed ≤ 3 * v.width) :
    Kept v (s.autoScroll v) := by
  have hstopped : s.focusSequence = .stopped := by
    rw [timerRuns, Bool.and_eq_true, decide_eq_true_eq] at hruns
    exact hruns.2
  refine Kept.of_not_panning ?_ (Or.inl hstopped)
  have hw := v.width_pos
  obtain ⟨hlow, hhigh⟩ := hspeed
  unfold HemisphereMap.autoScroll MapView.InRange
  dsimp only
  split <;> split <;> constructor <;> linarith

/-- Every step that stays on leaves the offset in range. -/
theorem Kept.step (h : Kept v s) {e : Event} (he : StaysOn v s e) : Kept v (step v s e) := by
  cases hrequested : s.requested e with
  | some lon =>
    obtain ⟨hoffset, hto, hphase⟩ := requested_step (v := v) hrequested
    refine ⟨hoffset ▸ h.mapOffset, fun _ => ?_, fun start hstart => ?_⟩
    · rw [hto]
      exact (v.inRange_panTo_iff h.mapOffset lon).2 (he.1 lon hrequested)
    · rw [hphase] at hstart
      cases hstart
  | none =>
    have hchange : (∃ index, e = .activePinIndex index) ∨ (∃ focus, e = .serverFocus focus) →
        Kept v (HemisphereMap.step v s e) := by
      intro hproperty
      rcases step_of_not_requested (v := v) hrequested hproperty with hsame | ⟨hoffset, hphase⟩
      · exact hsame.symm ▸ h
      · exact Kept.of_not_panning (hoffset ▸ h.mapOffset) (Or.inl hphase)
    cases e with
    | pins pins => exact ⟨h.mapOffset, h.seqPanTo, h.start⟩
    | activePinIndex index => exact hchange (Or.inl ⟨index, rfl⟩)
    | serverFocus focus => exact hchange (Or.inr ⟨focus, rfl⟩)
    | timer =>
      rw [HemisphereMap.step]
      split
      · rename_i hruns
        exact kept_autoScroll hruns (he.2 rfl hruns)
      · exact h
    | beginPan =>
      rw [HemisphereMap.step]
      split
      · rename_i hphase
        refine ⟨h.mapOffset, fun _ => h.seqPanTo (Or.inl hphase), fun start hstart => ?_⟩
        obtain rfl := FocusSequence.panning.inj hstart
        exact h.mapOffset
      · exact h
    | pan t =>
      rw [HemisphereMap.step]
      split
      · rename_i start hphase
        exact ⟨(h.start start hphase).between (h.seqPanTo (Or.inr ⟨start, hphase⟩)) (inOutCubic_mem t.2), h.seqPanTo, h.start⟩
      · exact h
    | endPan =>
      rw [HemisphereMap.step]
      split
      · have hmem := renormalised_mem v.width_pos s.seqPanTo
        exact Kept.of_not_panning ⟨hmem.1.le, hmem.2.le⟩ (Or.inr rfl)
      · exact h
    | arrive =>
      rw [HemisphereMap.step]
      split
      · exact Kept.of_not_panning h.mapOffset (Or.inl rfl)
      · exact h

/-- A new map has its offset in range. -/
theorem kept_create (v : MapView) : Kept v (create v) := by
  have hw := v.width_pos
  have hcreate : create v = { mapOffset := v.width } := if_pos ⟨rfl, hw⟩
  rw [hcreate]
  refine Kept.of_not_panning ⟨hw.le, ?_⟩ (Or.inl rfl)
  change v.width ≤ 2 * v.width
  linarith

/-- A request whose pan wraps past an end shows it at the end of the pan, and a tick that scrolls too far at once. -/
theorem uncovered_of_not_staysOn (h : Kept v s) {e : Event} (he : ¬StaysOn v s e) :
    ∃ es, ¬v.Covers (run (step v) s (e :: es)).mapOffset := by
  rcases not_and_or.1 he with hrequest | htick
  · obtain ⟨lon, hrequest⟩ := not_forall.1 hrequest
    obtain ⟨hrequested, hpast⟩ := Classical.not_imp.1 hrequest
    obtain ⟨hoffset, hto, hphase⟩ := requested_step (v := v) hrequested
    refine ⟨[.beginPan, .pan ⟨1, by norm_num, by norm_num⟩], fun hcovers => hpast ?_⟩
    have hone : inOutCubic 1 = 1 := by norm_num [inOutCubic]
    have hend : (run (step v) s [e, .beginPan, .pan ⟨1, by norm_num, by norm_num⟩]).mapOffset = (step v s e).seqPanTo := by
      have hbegin : step v (step v s e) .beginPan = { step v s e with focusSequence := .panning (step v s e).mapOffset } := by
        rw [step, hphase]
      rw [run_cons, run_cons, hbegin]
      change (step v s e).mapOffset + ((step v s e).seqPanTo - (step v s e).mapOffset) * inOutCubic 1 = _
      rw [hone]
      ring
    rw [hend, v.covers_iff, hto] at hcovers
    exact (v.inRange_panTo_iff h.mapOffset lon).1 hcovers
  · obtain ⟨htimer, hscroll⟩ := Classical.not_imp.1 htick
    obtain ⟨hruns, hfar⟩ := Classical.not_imp.1 hscroll
    subst htimer
    refine ⟨[], fun hcovers => hfar ?_⟩
    rw [run_cons, run_nil, step, if_pos hruns, v.covers_iff] at hcovers
    have hw := v.width_pos
    obtain ⟨hlow, hhigh⟩ := hcovers
    unfold autoScroll at hlow hhigh
    dsimp only at hlow hhigh
    split at hlow <;> split at hlow <;> simp only [*, if_true, if_false] at hhigh <;> constructor <;> linarith

/-- Over any scrolling and any requests, and at every value that a pan writes: the copies cover the screen, as long as no
pan wraps past an end and no tick scrolls by more than a width past the range. -/
theorem copies_cover (v : MapView) (es : List Event) (h : EveryStep (step v) (StaysOn v) (create v) es) :
    Always (step v) (fun s => v.Covers s.mapOffset) (create v) es :=
  Always.of_inv (Kept v) (fun s hs => (v.covers_iff s.mapOffset).2 hs.mapOffset) (fun _ _ hs he => hs.step he) (kept_create v) h

/-- A tick, and a focus on Greenwich. -/
theorem copies_cover_greenwich :
    let v := smallMap (1 / 5)
    Always (step v) (fun s => v.Covers s.mapOffset) (create v)
      [.timer, .serverFocus (some ⟨51, 0, "city"⟩), .beginPan, .pan nearEnd] := by
  intro v
  refine copies_cover v _ ⟨?_, ?_, ?_, ?_, trivial⟩
  · exact ⟨fun lon hlon => absurd hlon (by simp [requested]), fun _ _ => by decide +kernel⟩
  · refine ⟨fun lon hlon => ?_, fun htimer => by cases htimer⟩
    obtain rfl := Option.some.inj hlon
    decide +kernel
  · exact ⟨fun lon hlon => absurd hlon (by simp [requested]), fun htimer => by cases htimer⟩
  · exact ⟨fun lon hlon => absurd hlon (by simp [requested]), fun htimer => by cases htimer⟩

/-- After a scroll, a focus on 108° W pans past the left end. -/
theorem copies_cover_false :
    let v := smallMap (-324)
    let es : List Event := [.timer, .serverFocus (some ⟨0, -108, "city"⟩), .beginPan, .pan nearEnd]
    ¬Always (step v) (fun s => v.Covers s.mapOffset) (create v) es := by
  intro v es h
  have hcovers := (v.covers_iff _).1 (h es (List.prefix_refl _))
  revert hcovers
  decide +kernel

end HemisphereMap

end PairionClient
