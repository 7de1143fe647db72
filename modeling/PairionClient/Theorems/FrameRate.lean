import PairionClient.Theorems.PlaceOnScreen

/-!
# The frame rate does not matter

What the globe shows depends on what was asked of it and when, and not on the frames into which the time in between was cut.
-/

namespace PairionClient

open Animation Transition

namespace MapAnimation

variable {v : MapView} {m : MapAnimation}

/-- What runs writes each property once, and one animation runs at most. -/
structure Single (m : MapAnimation) : Prop where
  focusSequence : ∀ a ∈ m.focusSequence, a.Proper
  zoomOutAnim : ∀ a ∈ m.zoomOutAnim, a.Proper
  one : m.focusSequence = none ∨ m.zoomOutAnim = none

/-- No animation needs to be proper. -/
theorem nothing : ∀ a ∈ (none : Option (Anim MapProperty)), a.Proper := fun _ h => by cases h

/-- A focus leaves one animation running, its own. -/
theorem Single.focus (v : MapView) (lat lon scale : ℚ) (m : MapAnimation) : Single (m.stopAnimations.focus v lat lon scale) where
  focusSequence := by
    rintro a ⟨⟩
    exact v.proper_focusSequence _ _ _
  zoomOutAnim := nothing
  one := Or.inr rfl

/-- A focus that is cleared leaves one animation running, the zoom out. -/
theorem Single.clear (m : MapAnimation) : Single { m.stopAnimations with zoomOutAnim := some MapView.zoomOutAnim } where
  focusSequence := nothing
  zoomOutAnim := by
    rintro a ⟨⟩
    exact MapView.proper_zoomOutAnim
  one := Or.inl rfl

/-- Time that passes starts no animation. -/
theorem Single.advance (h : Single m) (ms : ℕ) : Single (m.advance ms) := by
  rcases hfocus : m.focusSequence with - | a <;> rcases hzoomOut : m.zoomOutAnim with - | b
  · simpa only [MapAnimation.advance, hfocus, hzoomOut] using h
  · simp only [MapAnimation.advance, hfocus, hzoomOut]
    exact ⟨nothing, Anim.proper_rest (h.zoomOutAnim b hzoomOut) ms _, Or.inl rfl⟩
  · simp only [MapAnimation.advance, hfocus, hzoomOut]
    exact ⟨Anim.proper_rest (h.focusSequence a hfocus) ms _, nothing, Or.inr rfl⟩
  · exact absurd h.one (by simp [hfocus, hzoomOut])

/-- Every event of the map leaves at most one animation running. -/
theorem Single.step (h : Single m) (e : Event) : Single (m.step v e) := by
  cases e with
  | pins pins => exact ⟨h.focusSequence, h.zoomOutAnim, h.one⟩
  | activePinIndex index =>
    rw [MapAnimation.step]
    split
    · exact h
    · unfold onActivePinIndexChanged
      dsimp only
      split
      · exact Single.focus v _ _ _ _
      · exact Single.clear _
  | serverFocus focus =>
    rw [MapAnimation.step]
    split
    · exact h
    · unfold onServerFocusChanged
      dsimp only
      split
      · exact Single.focus v _ _ _ _
      · exact Single.clear _
  | timer =>
    rw [MapAnimation.step]
    split
    · exact ⟨h.focusSequence, h.zoomOutAnim, h.one⟩
    · exact h
  | frame ms => exact h.advance ms

/-- Two frames show what one of their length does. -/
theorem advance_advance (h : Single m) (x y : ℕ) : (m.advance x).advance y = m.advance (x + y) := by
  rcases hfocus : m.focusSequence with - | a <;> rcases hzoomOut : m.zoomOutAnim with - | b
  · simp only [MapAnimation.advance, hfocus, hzoomOut]
  · simp only [MapAnimation.advance, hfocus, hzoomOut, Anim.advance_add (h.zoomOutAnim b hzoomOut), Anim.next]
    rcases (b.advance x m.shown).rest with - | b' <;> rfl
  · simp only [MapAnimation.advance, hfocus, hzoomOut, Anim.advance_add (h.focusSequence a hfocus), Anim.next]
    rcases (a.advance x m.shown).rest with - | a' <;> rfl
  · exact absurd h.one (by simp [hfocus, hzoomOut])

end MapAnimation

namespace GlobeBackground

variable {v : MapView}

/-- An event before others; a frame before a frame becomes one with it. -/
def before : Event → List Event → List Event
  | .frame x, .frame y :: rest => .frame (x + y) :: rest
  | e, rest => e :: rest

/-- The same history with each stretch of frames in one frame. -/
def coalesce (es : List Event) : List Event := es.foldr before []

/-- Every event of the globe leaves at most one animation running on its map. -/
theorem single_step (g : GlobeBackground) (e : Event) (h : g.worldMap.Single) : (g.step v e).worldMap.Single := by
  rw [worldMap_step]
  cases asked g e with
  | none => exact h
  | some asked => exact h.step asked

/-- Frames with nothing between them may be taken together. -/
theorem run_coalesce (g : GlobeBackground) (h : g.worldMap.Single) (es : List Event) :
    run (step v) g (coalesce es) = run (step v) g es := by
  induction es generalizing g with
  | nil => rfl
  | cons e es ih =>
    rw [run_cons, ← ih (g.step v e) (single_step g e h)]
    change run (step v) g (before e (coalesce es)) = _
    unfold before
    split
    · rename_i x y rest hrest
      rw [hrest, run_cons, run_cons]
      simp only [step, MapAnimation.step, MapAnimation.advance_advance h]
    · rfl

/-- Two histories of the globe in which the same is asked at the same times, in frames of any length, lead to the same
state and show the same. -/
theorem frame_rate_independent (v : MapView) {es es' : List Event} (h : coalesce es = coalesce es') :
    run (step v) (create v) es = run (step v) (create v) es' := by
  have hsingle : (create v).worldMap.Single := ⟨MapAnimation.nothing, MapAnimation.nothing, Or.inl rfl⟩
  rw [← run_coalesce _ hsingle es, h, run_coalesce _ hsingle es']

/-- A focus on Paris, interrupted by one on Dallas after a second: at 20 frames a second, and at 4. -/
theorem frame_rate_independent_interrupted :
    let history (frame : ℕ) (frames : ℕ) : List Event :=
      .apply (.setMapFocus (4886 / 100) (235 / 100) "Paris" "city") :: List.replicate frames (.frame frame) ++
        .focusPin 0 :: List.replicate frames (.frame frame)
    run (step (HemisphereMap.smallMap 0)) (create (HemisphereMap.smallMap 0)) (history 50 20) =
      run (step (HemisphereMap.smallMap 0)) (create (HemisphereMap.smallMap 0)) (history 250 4) :=
  frame_rate_independent (HemisphereMap.smallMap 0) rfl

end GlobeBackground

end PairionClient
