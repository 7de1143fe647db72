import PairionClient.Hud.MapAnimation
import PairionClient.Lib.Run
import PairionClient.Theorems.ShortestPan

/-!
# Where a focus arrives

A focus that is left alone for the time of its animation ends with the place in the middle of the screen, at the zoom that was
asked for, whatever moved the map before and wherever that was stopped; and a cleared focus ends with the whole globe.
-/

namespace PairionClient

open Animation Transition

namespace MapView

variable (v : MapView) (seqPanTo seqVertPanTo scale : ℚ)

/-- The focus sequence writes no property twice at a time. -/
theorem proper_focusSequence : (v.focusSequence seqPanTo seqVertPanTo scale).Proper := by
  simp [focusSequence, pullBack, seqPan, approach, Anim.Proper, Anim.Animates]

theorem proper_zoomOutAnim : zoomOutAnim.Proper := by
  simp [zoomOutAnim, Anim.Proper, Anim.Animates]

/-- A focus takes 450 ms to pull back and 1500 ms to approach, the pan within them. -/
theorem duration_focusSequence : (v.focusSequence seqPanTo seqVertPanTo scale).duration = 1950 := by
  simp [focusSequence, pullBack, seqPan, approach, Anim.duration]

/-- The zoom out takes 600 ms. -/
theorem duration_zoomOutAnim : zoomOutAnim.duration = 600 := by
  simp [zoomOutAnim, Anim.duration]

/-- A focus animates every property of the map. -/
theorem animates_focusSequence (p : MapProperty) : (v.focusSequence seqPanTo seqVertPanTo scale).Animates p := by
  cases p <;> simp [focusSequence, pullBack, seqPan, approach, Anim.Animates]

/-- The zoom out animates all but the horizontal offset. -/
theorem animates_zoomOutAnim (p : MapProperty) : zoomOutAnim.Animates p ↔ p ≠ .mapOffset := by
  cases p <;> simp [zoomOutAnim, Anim.Animates]

/-- What the focus leaves. -/
theorem outcome_focusSequence (s : MapProperty → ℚ) (p : MapProperty) :
    (v.focusSequence seqPanTo seqVertPanTo scale).outcome s p =
      match p with
      | .mapOffset => renormalised v.width seqPanTo
      | .zoomScale => scale
      | .mapVerticalOffset => seqVertPanTo := by
  cases p <;> simp [focusSequence, pullBack, seqPan, approach, Anim.outcome, Function.update]

theorem outcome_zoomOutAnim (s : MapProperty → ℚ) :
    zoomOutAnim.outcome s .zoomScale = 1 ∧ zoomOutAnim.outcome s .mapVerticalOffset = 0 := by
  simp [zoomOutAnim, Anim.outcome, Function.update]

/-- The middle of the screen. -/
def centre : ℚ × ℚ := (v.width / 2, v.height / 2)

/-- A place is in the middle when its longitude is, and the vertical offset makes up for its latitude. -/
theorem onScreen_eq_centre {shown : MapProperty → ℚ} {lat lon : ℚ} (hlon : v.Centred lon (shown .mapOffset))
    (hlat : shown .mapVerticalOffset = (v.height / 2 - v.pinY lat) * shown .zoomScale) :
    v.onScreen shown lat lon = v.centre := by
  rw [onScreen, hlon, hlat, centre]
  congr 1 <;> ring

end MapView

namespace MapAnimation

variable {v : MapView} {m : MapAnimation}

/-- A place that is asked for, and the zoom. -/
structure Place where
  lat : ℚ
  lon : ℚ
  scale : ℚ

/-- The place that an event asks for: that of the pin that becomes active, or of the new focus. -/
def requested (m : MapAnimation) : Event → Option Place
  | .activePinIndex index =>
    if index = m.activePinIndex then none
    else (activePin { m with activePinIndex := index }).map fun pin => ⟨pin.lat, pin.lon, 8 / 5⟩
  | .serverFocus focus => focus.map fun sf => ⟨sf.lat, sf.lon, zoomLevelToScale sf.zoom⟩
  | _ => none

/-- The event clears a focus. -/
def Clears (m : MapAnimation) : Event → Prop
  | .activePinIndex index => index ≠ m.activePinIndex ∧ activePin { m with activePinIndex := index } = none
  | .serverFocus focus => focus = none ∧ m.serverFocus ≠ none
  | _ => False

/-- Nothing is asked of the map. -/
def Quiet : Event → Prop
  | .activePinIndex _ | .serverFocus _ => False
  | _ => True

/-- The time that goes by in a step. -/
def spent : Event → ℕ
  | .frame ms => ms
  | _ => 0

/-- There is a focus, and the map does not scroll. -/
def Held (m : MapAnimation) : Prop := 0 ≤ m.activePinIndex ∨ m.serverFocus ≠ none

/-- A focus is under way to a place since `t` milliseconds, or has arrived there. -/
structure Focused (v : MapView) (place : Place) (t : ℕ) (m : MapAnimation) : Prop where
  held : m.Held
  zoomOutAnim : m.zoomOutAnim = none
  plays : ∃ s : MapProperty → ℚ,
    (v.focusSequence (v.panTo (s .mapOffset) (v.target place.lon)) ((v.height / 2 - v.pinY place.lat) * place.scale)
      place.scale).Plays s t m.focusSequence m.shown

/-- A zoom-out is under way since `t` milliseconds, or over. -/
structure Cleared (t : ℕ) (m : MapAnimation) : Prop where
  focusSequence : m.focusSequence = none
  plays : ∃ s, MapView.zoomOutAnim.Plays s t m.zoomOutAnim m.shown

/-- The map does not scroll while it is held. -/
theorem timerRuns_of_held (h : m.Held) : m.timerRuns v = false := by
  rcases h with hindex | hfocus
  · simp [timerRuns, not_lt.2 hindex]
  · simp [timerRuns, Option.isNone_iff_eq_none, hfocus]

/-- A place that is asked for is focused from then on. -/
theorem focused_step {e : Event} {place : Place} (h : m.requested e = some place) : Focused v place 0 (step v m e) := by
  cases e with
  | activePinIndex index =>
    by_cases hsame : index = m.activePinIndex
    · simp [requested, hsame] at h
    · rw [requested, if_neg hsame] at h
      obtain ⟨pin, hpin, rfl⟩ := Option.map_eq_some_iff.1 h
      have hactive : ({ m with activePinIndex := index }.stopAnimations).activePin = some pin := hpin
      have hindex : 0 ≤ index := by
        by_contra hneg
        rw [activePin, if_neg hneg] at hpin
        cases hpin
      rw [step, if_neg hsame, onActivePinIndexChanged, hactive]
      exact ⟨Or.inl hindex, rfl, m.shown, Anim.plays_start _ _⟩
  | serverFocus focus =>
    obtain ⟨sf, rfl, rfl⟩ := Option.map_eq_some_iff.1 h
    exact ⟨Or.inr (by simp [step, onServerFocusChanged, stopAnimations, focus]), rfl, m.shown, Anim.plays_start _ _⟩
  | _ => simp [requested] at h

/-- A focus that is cleared is on its way out from then on. -/
theorem cleared_step {e : Event} (h : m.Clears e) : Cleared 0 (step v m e) := by
  cases e with
  | activePinIndex index =>
    obtain ⟨hne, hnone⟩ := h
    have hactive : ({ m with activePinIndex := index }.stopAnimations).activePin = none := hnone
    rw [step, if_neg hne, onActivePinIndexChanged, hactive]
    exact ⟨rfl, m.shown, Anim.plays_start _ _⟩
  | serverFocus focus =>
    obtain ⟨rfl, hne⟩ := h
    have hsome : m.serverFocus.isNone = false := Option.isNone_eq_false_iff.2 (Option.isSome_iff_ne_none.2 hne)
    rw [step, hsome]
    exact ⟨rfl, m.shown, Anim.plays_start _ _⟩
  | _ => exact h.elim

/-- While nothing else is asked, time goes by for the focus. -/
theorem Focused.quiet {place : Place} {t : ℕ} (h : Focused v place t m) {e : Event} (he : Quiet e) :
    Focused v place (t + spent e) (step v m e) := by
  obtain ⟨hheld, hzoomOut, s, hplays⟩ := h
  cases e with
  | pins pins => exact ⟨hheld, hzoomOut, s, hplays⟩
  | timer =>
    rw [step, timerRuns_of_held hheld]
    exact ⟨hheld, hzoomOut, s, hplays⟩
  | frame ms =>
    rcases hrest : m.focusSequence with - | a
    · simp only [step, advance, hrest, hzoomOut]
      rw [hrest] at hplays
      exact ⟨hheld, hzoomOut, s, by simpa [hrest, spent] using hplays.over (v.proper_focusSequence _ _ _) ms⟩
    · simp only [step, advance, hrest, hzoomOut]
      rw [hrest] at hplays
      exact ⟨hheld, rfl, s, hplays.frame (v.proper_focusSequence _ _ _) ms⟩
  | _ => exact he.elim

/-- While nothing else is asked, time goes by for the zoom out. -/
theorem Cleared.quiet {t : ℕ} (h : Cleared t m) {e : Event} (he : Quiet e) : Cleared (t + spent e) (step v m e) := by
  obtain ⟨hfocus, s, hplays⟩ := h
  cases e with
  | pins pins => exact ⟨hfocus, s, hplays⟩
  | timer =>
    rw [step]
    split
    · -- the scroll writes what the zoom-out does not
      refine ⟨hfocus, s, hplays.congr fun p hp => ?_⟩
      exact Function.update_of_ne ((MapView.animates_zoomOutAnim p).1 hp) _ _
    · exact ⟨hfocus, s, hplays⟩
  | frame ms =>
    rcases hrest : m.zoomOutAnim with - | a
    · simp only [step, advance, hrest, hfocus]
      rw [hrest] at hplays
      exact ⟨hfocus, s, by simpa [hrest, spent] using hplays.over MapView.proper_zoomOutAnim ms⟩
    · simp only [step, advance, hrest, hfocus]
      rw [hrest] at hplays
      exact ⟨rfl, s, hplays.frame MapView.proper_zoomOutAnim ms⟩
  | _ => exact he.elim

/-- The map stands still with a place in the middle of the screen. -/
structure Arrived (v : MapView) (place : Place) (m : MapAnimation) : Prop where
  centred : v.onScreen m.shown place.lat place.lon = v.centre
  zoomScale : m.shown .zoomScale = place.scale
  focusSequence : m.focusSequence = none
  zoomOutAnim : m.zoomOutAnim = none
  held : m.timerRuns v = false

/-- After its time the place is in the middle. -/
theorem Focused.arrived {place : Place} {t : ℕ} (h : Focused v place t m) (ht : 1950 ≤ t) : Arrived v place m := by
  obtain ⟨hheld, hzoomOut, s, hplays⟩ := h
  obtain ⟨hrest, hshown⟩ := hplays.outcome (by rw [MapView.duration_focusSequence]; omega) ht
  have hvalue := fun p => (hshown p (v.animates_focusSequence _ _ _ p)).trans (v.outcome_focusSequence _ _ _ s p)
  have hzoom : m.shown .zoomScale = place.scale := hvalue .zoomScale
  refine ⟨v.onScreen_eq_centre ?_ ?_, hzoom, hrest, hzoomOut, timerRuns_of_held hheld⟩
  · rw [hvalue .mapOffset]
    exact v.centred_of_modEq ((renormalised_modEq _ _).trans (v.panTo_modEq _ _))
  · rw [hvalue .mapVerticalOffset, hzoom]

/-- The whole globe is shown. -/
structure Whole (m : MapAnimation) : Prop where
  zoomScale : m.shown .zoomScale = 1
  mapVerticalOffset : m.shown .mapVerticalOffset = 0
  focusSequence : m.focusSequence = none
  zoomOutAnim : m.zoomOutAnim = none

/-- After its time the whole globe is shown. -/
theorem Cleared.whole {t : ℕ} (h : Cleared t m) (ht : 600 ≤ t) : Whole m := by
  obtain ⟨hfocus, s, hplays⟩ := h
  obtain ⟨hrest, hshown⟩ := hplays.outcome (by rw [MapView.duration_zoomOutAnim]; omega) ht
  obtain ⟨hzoom, hvertical⟩ := MapView.outcome_zoomOutAnim s
  exact ⟨(hshown _ ((MapView.animates_zoomOutAnim _).2 (by simp))).trans hzoom,
    (hshown _ ((MapView.animates_zoomOutAnim _).2 (by simp))).trans hvertical, hfocus, hrest⟩

end MapAnimation

end PairionClient
