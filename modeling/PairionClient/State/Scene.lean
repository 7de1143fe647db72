import Mathlib.Data.List.AList
import PairionClient.Core.Json

/-!
# The scene

`state/connection_state.cpp`: the properties that the layers of the HUD show, the operations on them, and the signals that
each operation emits. A slot is called within the `emit` and reads the store as it then stands, so a signal comes with that
store.
-/

namespace PairionClient

/-- A `QVariantMap`. -/
abbrev QVariantMap (α : Type) : Type := AList fun _ : String => α

/-- The properties of `ConnectionState` that make the scene. -/
structure Scene where
  agentState : String := ""
  activeBackgroundId : String := "globe"
  activeOverlayIds : List String := []
  sceneData : QVariantMap QJsonValue := ∅
  backgroundParams : QJsonObject := []
  overlayParams : QVariantMap QJsonObject := ∅
  sceneTransition : String := "crossfade"

inductive SceneSignal where
  | agentStateChanged
  | activeBackgroundIdChanged
  | activeOverlayIdsChanged
  | sceneDataChanged
  | backgroundParamsChanged
  | overlayParamsChanged
  | sceneTransitionChanged
  deriving DecidableEq, Repr

/-- What an operation leaves, and the signals it emits in their order. -/
structure Notified where
  scene : Scene
  emitted : List (SceneSignal × Scene) := []

namespace Scene

def setAgentState (state : String) (s : Scene) : Notified :=
  if s.agentState = state then { scene := s }
  else
    let s := { s with agentState := state }
    { scene := s, emitted := [(.agentStateChanged, s)] }

/-- The id, the parameters and the transition are all set before the first signal. -/
def setBackground (backgroundId : String) (params : QJsonObject) (transition : String) (s : Scene) : Notified :=
  let t := if transition = "" then "crossfade" else transition
  let s' := { s with activeBackgroundId := backgroundId, backgroundParams := params, sceneTransition := t }
  { scene := s'
    emitted :=
      (if s.sceneTransition = t then [] else [(.sceneTransitionChanged, s')]) ++ [(.backgroundParamsChanged, s')] ++
        (if s.activeBackgroundId = backgroundId then [] else [(.activeBackgroundIdChanged, s')]) }

def setActiveBackgroundId (backgroundId : String) (s : Scene) : Notified :=
  if s.activeBackgroundId = backgroundId then { scene := s }
  else
    let s := { s with activeBackgroundId := backgroundId }
    { scene := s, emitted := [(.activeBackgroundIdChanged, s)] }

/-- An overlay that is active already keeps its place. -/
def addOverlay (overlayId : String) (params : QJsonObject) (s : Scene) : Notified :=
  let ids := if overlayId ∈ s.activeOverlayIds then s.activeOverlayIds else s.activeOverlayIds ++ [overlayId]
  let s := { s with activeOverlayIds := ids, overlayParams := s.overlayParams.insert overlayId params }
  { scene := s, emitted := [(.overlayParamsChanged, s), (.activeOverlayIdsChanged, s)] }

def removeOverlay (overlayId : String) (s : Scene) : Notified :=
  if overlayId ∈ s.activeOverlayIds then
    let s := { s with
      activeOverlayIds := s.activeOverlayIds.filter (· ≠ overlayId)
      overlayParams := s.overlayParams.erase overlayId }
    { scene := s, emitted := [(.overlayParamsChanged, s), (.activeOverlayIdsChanged, s)] }
  else { scene := s }

/-- Taking away an id that is not there changes nothing. -/
theorem filter_ne_of_not_mem {ids : List String} {overlayId : String} (h : overlayId ∉ ids) :
    ids.filter (· ≠ overlayId) = ids := by
  refine List.filter_eq_self.2 fun id hid => decide_eq_true ?_
  rintro rfl
  exact h hid

def clearOverlays (s : Scene) : Notified :=
  if s.activeOverlayIds = [] then { scene := s }
  else
    let s := { s with activeOverlayIds := [], overlayParams := ∅ }
    { scene := s, emitted := [(.overlayParamsChanged, s), (.activeOverlayIdsChanged, s)] }

def setSceneData (modelId : String) (data : QJsonValue) (s : Scene) : Notified :=
  let s := { s with sceneData := s.sceneData.insert modelId data }
  { scene := s, emitted := [(.sceneDataChanged, s)] }

def clearSceneData (s : Scene) : Notified :=
  if s.sceneData.entries.isEmpty then { scene := s }
  else
    let s := { s with sceneData := ∅ }
    { scene := s, emitted := [(.sceneDataChanged, s)] }

def setSceneTransition (transition : String) (s : Scene) : Notified :=
  if s.sceneTransition = transition then { scene := s }
  else
    let s := { s with sceneTransition := transition }
    { scene := s, emitted := [(.sceneTransitionChanged, s)] }

end Scene

/-- The operations on the scene. -/
inductive SceneOp where
  | setAgentState (state : String)
  | setBackground (backgroundId : String) (params : QJsonObject) (transition : String)
  | setActiveBackgroundId (backgroundId : String)
  | addOverlay (overlayId : String) (params : QJsonObject)
  | removeOverlay (overlayId : String)
  | clearOverlays
  | setSceneData (modelId : String) (data : QJsonValue)
  | clearSceneData
  | setSceneTransition (transition : String)

def SceneOp.apply (s : Scene) : SceneOp → Notified
  | .setAgentState state => s.setAgentState state
  | .setBackground backgroundId params transition => s.setBackground backgroundId params transition
  | .setActiveBackgroundId backgroundId => s.setActiveBackgroundId backgroundId
  | .addOverlay overlayId params => s.addOverlay overlayId params
  | .removeOverlay overlayId => s.removeOverlay overlayId
  | .clearOverlays => s.clearOverlays
  | .setSceneData modelId data => s.setSceneData modelId data
  | .clearSceneData => s.clearSceneData
  | .setSceneTransition transition => s.setSceneTransition transition

/-- The store after an operation. -/
def Scene.step (s : Scene) (op : SceneOp) : Scene := (op.apply s).scene

end PairionClient
