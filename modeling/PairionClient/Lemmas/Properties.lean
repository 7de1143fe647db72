import PairionClient.State.Properties

/-!
# Lemmas on the connection state

What each operation leaves and emits. All of them write before they emit, but for `setBackground`, whose first signal may come
between its tests; nothing is written after it there either.
-/

namespace PairionClient

open Notify

namespace Mutator

variable (c : ConnectionProperties)

/-! ## What each operation leaves and emits -/

/-- `appendLog` puts the entry in front and keeps 50. -/
theorem exec_appendLog (entry : String) :
    exec (appendLog entry) c = announce { c with recentLogs := (entry :: c.recentLogs).take 50 } [.recentLogsChanged] := rfl

/-- `appendLlmToken` appends and always announces. -/
theorem exec_appendLlmToken (delta : String) :
    exec (appendLlmToken delta) c = announce { c with llmResponse := c.llmResponse ++ delta } [.llmResponseChanged] := rfl

/-- `clearLlmResponse` announces only if there was a response. -/
theorem exec_clearLlmResponse :
    exec clearLlmResponse c =
      if c.llmResponse = "" then announce c [] else announce { c with llmResponse := "" } [.llmResponseChanged] := by
  rw [clearLlmResponse, exec_current, ite_not]
  split <;> rfl

/-- `setMapFocus` writes all of the focus before it announces once. -/
theorem exec_setMapFocus (lat lon : ℚ) (label zoom : String) :
    exec (setMapFocus lat lon label zoom) c =
      announce { c with mapFocusActive := true, mapFocusLat := lat, mapFocusLon := lon, mapFocusLabel := label,
                        mapFocusZoom := zoom } [.mapFocusChanged] := rfl

/-- `clearMapFocus` announces only if the map had a focus. -/
theorem exec_clearMapFocus :
    exec clearMapFocus c =
      if c.mapFocusActive then announce { c with mapFocusActive := false } [.mapFocusChanged] else announce c [] := by
  rw [clearMapFocus, exec_current]
  split <;> rfl

/-- The two cases that call for a signal of their own are tested in the store as it was. -/
theorem exec_setBackground (backgroundId : String) (params : QJsonObject) (transition : String) :
    exec (setBackground backgroundId params transition) c =
      announce { c with activeBackgroundId := backgroundId, backgroundParams := params,
                        sceneTransition := if transition = "" then "crossfade" else transition }
        ((if c.sceneTransition = if transition = "" then "crossfade" else transition then []
            else [.scene .sceneTransitionChanged]) ++ [.scene .backgroundParamsChanged] ++
          if c.activeBackgroundId = backgroundId then [] else [.scene .activeBackgroundIdChanged]) := by
  generalize ht : (if transition = "" then "crossfade" else transition) = t
  rw [setBackground, exec_current]
  by_cases hid : c.activeBackgroundId = backgroundId
  · subst hid
    by_cases hsame : c.sceneTransition = t
    · subst hsame
      simp only [ne_eq, not_true_eq_false, if_true, if_false, exec_write, exec_current, ht]
      rfl
    · simp only [ne_eq, not_true_eq_false, not_false_eq_true, hsame, if_true, if_false, exec_write, exec_current, ht]
      rfl
  · by_cases hsame : c.sceneTransition = t
    · subst hsame
      simp only [ne_eq, not_true_eq_false, not_false_eq_true, hid, if_true, if_false, exec_write, exec_current, ht]
      rfl
    · simp only [ne_eq, not_false_eq_true, hid, hsame, if_true, if_false, exec_write, exec_current, ht]
      rfl

/-- `addOverlay` writes the parameters whether or not the id is new. -/
theorem exec_addOverlay (overlayId : String) (params : QJsonObject) :
    exec (addOverlay overlayId params) c =
      announce { c with
        activeOverlayIds := if overlayId ∈ c.activeOverlayIds then c.activeOverlayIds else c.activeOverlayIds ++ [overlayId]
        overlayParams := c.overlayParams.insert overlayId params }
        [.scene .overlayParamsChanged, .scene .activeOverlayIdsChanged] := by
  rw [addOverlay, exec_current]
  by_cases hmem : overlayId ∈ c.activeOverlayIds
  · rw [if_neg (not_not_intro hmem), if_pos hmem]
    rfl
  · rw [if_pos hmem, if_neg hmem]
    rfl

/-- `removeOverlay` does nothing for an id that is not active. -/
theorem exec_removeOverlay (overlayId : String) :
    exec (removeOverlay overlayId) c =
      if overlayId ∈ c.activeOverlayIds then
        announce { c with
          activeOverlayIds := c.activeOverlayIds.filter (· ≠ overlayId)
          overlayParams := c.overlayParams.erase overlayId }
          [.scene .overlayParamsChanged, .scene .activeOverlayIdsChanged]
      else announce c [] := by
  rw [removeOverlay, exec_current, exec_write]
  by_cases hmem : overlayId ∈ c.activeOverlayIds
  · rw [if_pos (List.count_pos_iff.2 hmem), if_pos hmem]
    rfl
  · rw [if_neg fun h => hmem (List.count_pos_iff.1 h), if_neg hmem, Scene.filter_ne_of_not_mem hmem]
    rfl

/-- `clearOverlays` does nothing where no overlay is active. -/
theorem exec_clearOverlays :
    exec clearOverlays c =
      if c.activeOverlayIds = [] then announce c []
      else
        announce { c with activeOverlayIds := [], overlayParams := ∅ }
          [.scene .overlayParamsChanged, .scene .activeOverlayIdsChanged] := by
  rw [clearOverlays, exec_current, ite_not]
  split <;> rfl

/-- `setSceneData` replaces the data of one model and always announces. -/
theorem exec_setSceneData (modelId : String) (data : QJsonValue) :
    exec (setSceneData modelId data) c =
      announce { c with sceneData := c.sceneData.insert modelId data } [.scene .sceneDataChanged] := rfl

/-- `clearSceneData` announces only if there were data. -/
theorem exec_clearSceneData :
    exec clearSceneData c =
      if c.sceneData.entries.isEmpty then announce c []
      else announce { c with sceneData := ∅ } [.scene .sceneDataChanged] := by
  rw [clearSceneData, exec_current]
  cases c.sceneData.entries.isEmpty <;> rfl

/-! ## The scene -/

/-- What an operation on the scene leaves and emits, seen in the whole store. -/
def ofScene (n : Notified) : Recorded ConnectionProperties PropertySignal where
  store := { c with toScene := n.scene }
  emitted := n.emitted.map fun e => (.scene e.1, { c with toScene := e.2 })

/-- The store does to its scene what the scene's own operations do. -/
theorem exec_scene (op : SceneOp) : exec op.mutator c = ofScene c (op.apply c.toScene) := by
  cases op with
  | setAgentState state =>
    rw [SceneOp.mutator, setAgentState, exec_setIfDifferent, SceneOp.apply, Scene.setAgentState]
    split <;> rfl
  | setBackground backgroundId params transition =>
    rw [SceneOp.mutator, exec_setBackground, SceneOp.apply, Scene.setBackground]
    generalize (if transition = "" then "crossfade" else transition) = t
    by_cases hsame : c.sceneTransition = t
    · by_cases hid : c.activeBackgroundId = backgroundId
      · rw [if_pos hsame, if_pos hid, if_pos hsame, if_pos hid]
        rfl
      · rw [if_pos hsame, if_neg hid, if_pos hsame, if_neg hid]
        rfl
    · by_cases hid : c.activeBackgroundId = backgroundId
      · rw [if_neg hsame, if_pos hid, if_neg hsame, if_pos hid]
        rfl
      · rw [if_neg hsame, if_neg hid, if_neg hsame, if_neg hid]
        rfl
  | setActiveBackgroundId backgroundId =>
    rw [SceneOp.mutator, setActiveBackgroundId, exec_setIfDifferent, SceneOp.apply, Scene.setActiveBackgroundId]
    split <;> rfl
  | addOverlay overlayId params =>
    rw [SceneOp.mutator, exec_addOverlay]
    rfl
  | removeOverlay overlayId =>
    rw [SceneOp.mutator, exec_removeOverlay, SceneOp.apply, Scene.removeOverlay]
    split <;> rfl
  | clearOverlays =>
    rw [SceneOp.mutator, exec_clearOverlays, SceneOp.apply, Scene.clearOverlays]
    split <;> rfl
  | setSceneData modelId data => rfl
  | clearSceneData =>
    rw [SceneOp.mutator, exec_clearSceneData, SceneOp.apply, Scene.clearSceneData]
    split <;> rfl
  | setSceneTransition transition =>
    rw [SceneOp.mutator, setSceneTransition, exec_setIfDifferent, SceneOp.apply, Scene.setSceneTransition]
    split <;> rfl

end Mutator

namespace ConnectionProperties

variable (c : ConnectionProperties)

/-- An operation on the scene does the same to the store's scene as to a scene by itself. -/
theorem store_scene (op : SceneOp) : (c.apply (.scene op)).store = { c with toScene := c.toScene.step op } := by
  rw [apply, StateOp.mutator, Mutator.exec_scene]
  rfl

/-! ## The part that the pipeline writes -/

def pipeline : ConnectionState where
  recentLogs := c.recentLogs
  agentState := c.agentState
  voiceState := c.voiceState
  pipelineHealth := c.pipelineHealth

/-- The part of the store that the pipeline writes follows `appendLog`. -/
theorem pipeline_appendLog (entry : String) : (c.apply (.appendLog entry)).store.pipeline = c.pipeline.appendLog entry := rfl

theorem pipeline_setAgentState (state : String) :
    (c.apply (.scene (.setAgentState state))).store.pipeline = c.pipeline.setAgentState state := by
  rw [store_scene, Scene.step, SceneOp.apply, Scene.setAgentState]
  split
  · subst ‹c.agentState = state›
    rfl
  · rfl

theorem pipeline_setVoiceState (state : String) :
    (c.apply (.setVoiceState state)).store.pipeline = c.pipeline.setVoiceState state :=
  congrArg pipeline (store_setIfDifferent rfl)

theorem pipeline_setPipelineHealth (health : String) :
    (c.apply (.setPipelineHealth health)).store.pipeline = c.pipeline.setPipelineHealth health :=
  congrArg pipeline (store_setIfDifferent rfl)

end ConnectionProperties

end PairionClient
