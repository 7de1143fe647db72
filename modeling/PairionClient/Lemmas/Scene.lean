import PairionClient.State.Scene

/-!
# Lemmas on the scene

The list of overlays and the map of their parameters are kept in step.
-/

namespace PairionClient

namespace Scene

structure WellFormed (s : Scene) : Prop where
  nodup : s.activeOverlayIds.Nodup
  keys : ∀ id, id ∈ s.activeOverlayIds ↔ (s.overlayParams.lookup id).isSome

/-- The empty scene is well formed. -/
theorem wellFormed_default : WellFormed {} := ⟨List.nodup_nil, by simp⟩

variable {s : Scene}

/-- `addOverlay` keeps each id once, with its parameters. -/
theorem WellFormed.addOverlay (h : s.WellFormed) (overlayId : String) (params : QJsonObject) :
    (s.addOverlay overlayId params).scene.WellFormed := by
  constructor
  · unfold Scene.addOverlay
    dsimp only
    split
    · exact h.nodup
    · refine List.nodup_append.2 ⟨h.nodup, List.nodup_singleton _, ?_⟩
      rintro first hfirst last hlast rfl
      exact ‹overlayId ∉ s.activeOverlayIds› (List.mem_singleton.1 hlast ▸ hfirst)
  · intro id
    have hids : id ∈ (s.addOverlay overlayId params).scene.activeOverlayIds ↔ id ∈ s.activeOverlayIds ∨ id = overlayId := by
      unfold Scene.addOverlay
      dsimp only
      split
      · exact ⟨Or.inl, fun hid => hid.elim (fun hid => hid) fun heq => heq ▸ ‹_›⟩
      · simp
    rw [hids, h.keys]
    by_cases heq : id = overlayId
    · subst heq
      simp [Scene.addOverlay]
    · simp [Scene.addOverlay, heq, AList.lookup_insert_ne]

/-- `removeOverlay` takes the id away with its parameters. -/
theorem WellFormed.removeOverlay (h : s.WellFormed) (overlayId : String) :
    (s.removeOverlay overlayId).scene.WellFormed := by
  unfold Scene.removeOverlay
  split
  · constructor
    · exact h.nodup.filter _
    · intro id
      by_cases heq : id = overlayId
      · subst heq
        simp
      · simp [heq, h.keys, AList.lookup_erase_ne]
  · exact h

/-- `clearOverlays` leaves neither ids nor parameters. -/
theorem WellFormed.clearOverlays (h : s.WellFormed) : s.clearOverlays.scene.WellFormed := by
  unfold Scene.clearOverlays
  split
  · exact h
  · exact ⟨List.nodup_nil, by simp⟩

/-- The other operations leave the overlays. -/
theorem WellFormed.congr (h : s.WellFormed) {s' : Scene} (hids : s'.activeOverlayIds = s.activeOverlayIds)
    (hparams : s'.overlayParams = s.overlayParams) : s'.WellFormed := by
  refine ⟨hids ▸ h.nodup, fun id => ?_⟩
  rw [hids, hparams]
  exact h.keys id

end Scene

/-- Whether an operation is one on the overlays. -/
def SceneOp.onOverlays : SceneOp → Bool
  | .addOverlay .. | .removeOverlay _ | .clearOverlays => true
  | _ => false

/-- Whether an operation is one on the background. -/
def SceneOp.onBackground : SceneOp → Bool
  | .setBackground .. | .setActiveBackgroundId _ => true
  | _ => false

namespace Scene

variable {s : Scene}

/-! ## What an operation leaves -/

/-- The state of the agent is the one that was set last. -/
theorem step_setAgentState (state : String) : s.step (.setAgentState state) = { s with agentState := state } := by
  rw [step, SceneOp.apply, setAgentState]
  split
  · subst state
    rfl
  · rfl

/-- There is nothing to remove unless the overlay is active. -/
theorem step_removeOverlay (overlayId : String) :
    s.step (.removeOverlay overlayId) =
      { s with
        activeOverlayIds := s.activeOverlayIds.filter (· ≠ overlayId)
        overlayParams := if overlayId ∈ s.activeOverlayIds then s.overlayParams.erase overlayId else s.overlayParams } := by
  rw [step, SceneOp.apply, removeOverlay]
  by_cases hmem : overlayId ∈ s.activeOverlayIds
  · rw [if_pos hmem, if_pos hmem]
  · rw [if_neg hmem, if_neg hmem, filter_ne_of_not_mem hmem]

/-- Whether or not something was active, nothing is after `clearOverlays`. -/
theorem step_clearOverlays :
    s.step .clearOverlays =
      { s with
        activeOverlayIds := []
        overlayParams := if s.activeOverlayIds = [] then s.overlayParams else ∅ } := by
  rw [step, SceneOp.apply, clearOverlays]
  split
  · obtain ⟨_, _, ids, _, _, _, _⟩ := s
    subst ‹ids = []›
    rfl
  · rfl

/-- The other operations leave the overlays and their parameters. -/
theorem overlays_step {op : SceneOp} (h : op.onOverlays = false) :
    (s.step op).activeOverlayIds = s.activeOverlayIds ∧ (s.step op).overlayParams = s.overlayParams := by
  rw [step]
  cases op with
  | setAgentState state =>
    simp only [SceneOp.apply, setAgentState]
    split <;> exact ⟨rfl, rfl⟩
  | setBackground backgroundId params transition => exact ⟨rfl, rfl⟩
  | setActiveBackgroundId backgroundId =>
    simp only [SceneOp.apply, setActiveBackgroundId]
    split <;> exact ⟨rfl, rfl⟩
  | addOverlay overlayId params => cases h
  | removeOverlay overlayId => cases h
  | clearOverlays => cases h
  | setSceneData modelId data => exact ⟨rfl, rfl⟩
  | clearSceneData =>
    simp only [SceneOp.apply, clearSceneData]
    split <;> exact ⟨rfl, rfl⟩
  | setSceneTransition transition =>
    simp only [SceneOp.apply, setSceneTransition]
    split <;> exact ⟨rfl, rfl⟩

/-- Any other operation leaves the id of the background, and says nothing of it or of its parameters. -/
theorem background_apply {op : SceneOp} (h : op.onBackground = false) :
    (op.apply s).scene.activeBackgroundId = s.activeBackgroundId ∧
      ∀ x ∈ (op.apply s).emitted, x.1 ≠ .activeBackgroundIdChanged ∧ x.1 ≠ .backgroundParamsChanged := by
  cases op with
  | setAgentState state =>
    simp only [SceneOp.apply, setAgentState]
    split <;> simp
  | setBackground backgroundId params transition => cases h
  | setActiveBackgroundId backgroundId => cases h
  | addOverlay overlayId params => simp [SceneOp.apply, addOverlay]
  | removeOverlay overlayId =>
    simp only [SceneOp.apply, removeOverlay]
    split <;> simp
  | clearOverlays =>
    simp only [SceneOp.apply, clearOverlays]
    split <;> simp
  | setSceneData modelId data => simp [SceneOp.apply, setSceneData]
  | clearSceneData =>
    simp only [SceneOp.apply, clearSceneData]
    split <;> simp
  | setSceneTransition transition =>
    simp only [SceneOp.apply, setSceneTransition]
    split <;> simp

/-- Every operation keeps the scene well formed. -/
theorem WellFormed.apply (h : s.WellFormed) (op : SceneOp) : (op.apply s).scene.WellFormed := by
  cases hop : op.onOverlays with
  | false =>
    obtain ⟨hids, hparams⟩ := overlays_step (s := s) hop
    exact h.congr hids hparams
  | true =>
    cases op with
    | addOverlay overlayId params => exact h.addOverlay overlayId params
    | removeOverlay overlayId => exact h.removeOverlay overlayId
    | clearOverlays => exact h.clearOverlays
    | _ => cases hop

end Scene

end PairionClient
