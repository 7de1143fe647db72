import PairionClient.Lib.Notify
import PairionClient.State.ConnectionState
import PairionClient.State.Scene

/-!
# The properties of the connection state

`state/connection_state.h` and `.cpp`: the whole store that QML binds to, with the write and the `emit` of each operation in
the order of the source. The properties of the scene are those of `State/Scene`.
-/

namespace PairionClient

open Notify

/-- The members of `ConnectionState`. -/
structure ConnectionProperties extends Scene where
  status : ConnectionStatus := .disconnected
  sessionId : String := ""
  serverVersion : String := ""
  reconnectAttempts : Int := 0
  recentLogs : List String := []
  transcriptPartial : String := ""
  transcriptFinal : String := ""
  llmResponse : String := ""
  voiceState : String := ""
  backgroundContext : String := "earth"
  mapFocusActive : Bool := false
  mapFocusLat : ℚ := 0
  mapFocusLon : ℚ := 0
  mapFocusLabel : String := ""
  mapFocusZoom : String := ""
  pipelineHealth : String := "connecting"

inductive PropertySignal where
  | statusChanged
  | sessionIdChanged
  | serverVersionChanged
  | reconnectAttemptsChanged
  | recentLogsChanged
  | transcriptPartialChanged
  | transcriptFinalChanged
  | llmResponseChanged
  | voiceStateChanged
  | backgroundContextChanged
  | mapFocusChanged
  | pipelineHealthChanged
  | scene (signal : SceneSignal)
  deriving DecidableEq, Repr

/-- The `Q_PROPERTY` declarations. -/
inductive QProperty where
  | status
  | sessionId
  | serverVersion
  | reconnectAttempts
  | recentLogs
  | transcriptPartial
  | transcriptFinal
  | llmResponse
  | agentState
  | voiceState
  | backgroundContext
  | mapFocusActive
  | mapFocusLat
  | mapFocusLon
  | mapFocusLabel
  | mapFocusZoom
  | activeBackgroundId
  | activeOverlayIds
  | sceneData
  | backgroundParams
  | overlayParams
  | sceneTransition
  | pipelineHealth
  deriving DecidableEq, Repr

namespace QProperty

/-- The type of a property. -/
def Value : QProperty → Type
  | .status => ConnectionStatus
  | .reconnectAttempts => Int
  | .recentLogs => List String
  | .mapFocusActive => Bool
  | .mapFocusLat => ℚ
  | .mapFocusLon => ℚ
  | .activeOverlayIds => List String
  | .sceneData => QVariantMap QJsonValue
  | .backgroundParams => QJsonObject
  | .overlayParams => QVariantMap QJsonObject
  | _ => String

/-- READ. -/
def value : (p : QProperty) → ConnectionProperties → p.Value
  | .status, c => c.status
  | .sessionId, c => c.sessionId
  | .serverVersion, c => c.serverVersion
  | .reconnectAttempts, c => c.reconnectAttempts
  | .recentLogs, c => c.recentLogs
  | .transcriptPartial, c => c.transcriptPartial
  | .transcriptFinal, c => c.transcriptFinal
  | .llmResponse, c => c.llmResponse
  | .agentState, c => c.agentState
  | .voiceState, c => c.voiceState
  | .backgroundContext, c => c.backgroundContext
  | .mapFocusActive, c => c.mapFocusActive
  | .mapFocusLat, c => c.mapFocusLat
  | .mapFocusLon, c => c.mapFocusLon
  | .mapFocusLabel, c => c.mapFocusLabel
  | .mapFocusZoom, c => c.mapFocusZoom
  | .activeBackgroundId, c => c.activeBackgroundId
  | .activeOverlayIds, c => c.activeOverlayIds
  | .sceneData, c => c.sceneData
  | .backgroundParams, c => c.backgroundParams
  | .overlayParams, c => c.overlayParams
  | .sceneTransition, c => c.sceneTransition
  | .pipelineHealth, c => c.pipelineHealth

/-- NOTIFY. -/
def notify : QProperty → PropertySignal
  | .status => .statusChanged
  | .sessionId => .sessionIdChanged
  | .serverVersion => .serverVersionChanged
  | .reconnectAttempts => .reconnectAttemptsChanged
  | .recentLogs => .recentLogsChanged
  | .transcriptPartial => .transcriptPartialChanged
  | .transcriptFinal => .transcriptFinalChanged
  | .llmResponse => .llmResponseChanged
  | .agentState => .scene .agentStateChanged
  | .voiceState => .voiceStateChanged
  | .backgroundContext => .backgroundContextChanged
  | .mapFocusActive => .mapFocusChanged
  | .mapFocusLat => .mapFocusChanged
  | .mapFocusLon => .mapFocusChanged
  | .mapFocusLabel => .mapFocusChanged
  | .mapFocusZoom => .mapFocusChanged
  | .activeBackgroundId => .scene .activeBackgroundIdChanged
  | .activeOverlayIds => .scene .activeOverlayIdsChanged
  | .sceneData => .scene .sceneDataChanged
  | .backgroundParams => .scene .backgroundParamsChanged
  | .overlayParams => .scene .overlayParamsChanged
  | .sceneTransition => .scene .sceneTransitionChanged
  | .pipelineHealth => .pipelineHealthChanged

end QProperty

/-! ## Operations -/

/-- An operation on the connection state. -/
abbrev Mutator : Type := Program ConnectionProperties PropertySignal Unit

namespace Mutator

def setStatus (s : ConnectionStatus) : Mutator :=
  setIfDifferent (fun c => c.status) (fun s c => { c with status := s }) .statusChanged s

def setSessionId (id : String) : Mutator :=
  setIfDifferent (fun c => c.sessionId) (fun id c => { c with sessionId := id }) .sessionIdChanged id

def setServerVersion (version : String) : Mutator :=
  setIfDifferent (fun c => c.serverVersion) (fun version c => { c with serverVersion := version }) .serverVersionChanged version

def setReconnectAttempts (count : Int) : Mutator :=
  setIfDifferent (fun c => c.reconnectAttempts) (fun count c => { c with reconnectAttempts := count })
    .reconnectAttemptsChanged count

/-- The last entries are removed for as long as there are more than fifty. -/
def appendLog (entry : String) : Mutator := do
  write fun c => { c with recentLogs := entry :: c.recentLogs }
  write fun c => { c with recentLogs := c.recentLogs.take 50 }
  emit .recentLogsChanged

def setTranscriptPartial (text : String) : Mutator :=
  setIfDifferent (fun c => c.transcriptPartial) (fun text c => { c with transcriptPartial := text }) .transcriptPartialChanged text

def setTranscriptFinal (text : String) : Mutator :=
  setIfDifferent (fun c => c.transcriptFinal) (fun text c => { c with transcriptFinal := text }) .transcriptFinalChanged text

def setAgentState (state : String) : Mutator :=
  setIfDifferent (fun c => c.agentState) (fun state c => { c with agentState := state }) (.scene .agentStateChanged) state

def setVoiceState (state : String) : Mutator :=
  setIfDifferent (fun c => c.voiceState) (fun state c => { c with voiceState := state }) .voiceStateChanged state

def appendLlmToken (delta : String) : Mutator := do
  write fun c => { c with llmResponse := c.llmResponse ++ delta }
  emit .llmResponseChanged

def clearLlmResponse : Mutator := do
  if (← current).llmResponse ≠ "" then
    write fun c => { c with llmResponse := "" }
    emit .llmResponseChanged

def setBackgroundContext (context : String) : Mutator :=
  setIfDifferent (fun c => c.backgroundContext) (fun context c => { c with backgroundContext := context })
    .backgroundContextChanged context

def setMapFocus (lat lon : ℚ) (label zoom : String) : Mutator := do
  write fun c => { c with mapFocusLat := lat }
  write fun c => { c with mapFocusLon := lon }
  write fun c => { c with mapFocusLabel := label }
  write fun c => { c with mapFocusZoom := zoom }
  write fun c => { c with mapFocusActive := true }
  emit .mapFocusChanged

def clearMapFocus : Mutator := do
  if (← current).mapFocusActive then
    write fun c => { c with mapFocusActive := false }
    emit .mapFocusChanged

def setBackground (backgroundId : String) (params : QJsonObject) (transition : String) : Mutator := do
  let mut changed := false
  if (← current).activeBackgroundId ≠ backgroundId then
    write fun c => { c with activeBackgroundId := backgroundId }
    changed := true
  write fun c => { c with backgroundParams := params }
  let t := if transition = "" then "crossfade" else transition
  if (← current).sceneTransition ≠ t then
    write fun c => { c with sceneTransition := t }
    emit (.scene .sceneTransitionChanged)
  emit (.scene .backgroundParamsChanged)
  if changed then
    emit (.scene .activeBackgroundIdChanged)

def setActiveBackgroundId (backgroundId : String) : Mutator :=
  setIfDifferent (fun c => c.activeBackgroundId) (fun backgroundId c => { c with activeBackgroundId := backgroundId })
    (.scene .activeBackgroundIdChanged) backgroundId

def addOverlay (overlayId : String) (params : QJsonObject) : Mutator := do
  if overlayId ∉ (← current).activeOverlayIds then
    write fun c => { c with activeOverlayIds := c.activeOverlayIds ++ [overlayId] }
  write fun c => { c with overlayParams := c.overlayParams.insert overlayId params }
  emit (.scene .overlayParamsChanged)
  emit (.scene .activeOverlayIdsChanged)

/-- `removeAll` gives how many ids it removed. -/
def removeOverlay (overlayId : String) : Mutator := do
  let ids := (← current).activeOverlayIds
  write fun c => { c with activeOverlayIds := c.activeOverlayIds.filter (· ≠ overlayId) }
  if ids.count overlayId > 0 then
    write fun c => { c with overlayParams := c.overlayParams.erase overlayId }
    emit (.scene .overlayParamsChanged)
    emit (.scene .activeOverlayIdsChanged)

def clearOverlays : Mutator := do
  if (← current).activeOverlayIds ≠ [] then
    write fun c => { c with activeOverlayIds := [] }
    write fun c => { c with overlayParams := ∅ }
    emit (.scene .overlayParamsChanged)
    emit (.scene .activeOverlayIdsChanged)

def setSceneData (modelId : String) (data : QJsonValue) : Mutator := do
  write fun c => { c with sceneData := c.sceneData.insert modelId data }
  emit (.scene .sceneDataChanged)

def clearSceneData : Mutator := do
  if !(← current).sceneData.entries.isEmpty then
    write fun c => { c with sceneData := ∅ }
    emit (.scene .sceneDataChanged)

def setSceneTransition (transition : String) : Mutator :=
  setIfDifferent (fun c => c.sceneTransition) (fun transition c => { c with sceneTransition := transition })
    (.scene .sceneTransitionChanged) transition

def setPipelineHealth (health : String) : Mutator :=
  setIfDifferent (fun c => c.pipelineHealth) (fun health c => { c with pipelineHealth := health }) .pipelineHealthChanged health

end Mutator

/-- The public operations that change the store. -/
inductive StateOp where
  | setStatus (s : ConnectionStatus)
  | setSessionId (id : String)
  | setServerVersion (version : String)
  | setReconnectAttempts (count : Int)
  | appendLog (entry : String)
  | setTranscriptPartial (text : String)
  | setTranscriptFinal (text : String)
  | setVoiceState (state : String)
  | appendLlmToken (delta : String)
  | clearLlmResponse
  | setBackgroundContext (context : String)
  | setMapFocus (lat lon : ℚ) (label zoom : String)
  | clearMapFocus
  | setPipelineHealth (health : String)
  | scene (op : SceneOp)

/-- The operations on the scene. -/
def SceneOp.mutator : SceneOp → Mutator
  | .setAgentState state => .setAgentState state
  | .setBackground backgroundId params transition => .setBackground backgroundId params transition
  | .setActiveBackgroundId backgroundId => .setActiveBackgroundId backgroundId
  | .addOverlay overlayId params => .addOverlay overlayId params
  | .removeOverlay overlayId => .removeOverlay overlayId
  | .clearOverlays => .clearOverlays
  | .setSceneData modelId data => .setSceneData modelId data
  | .clearSceneData => .clearSceneData
  | .setSceneTransition transition => .setSceneTransition transition

def StateOp.mutator : StateOp → Mutator
  | .setStatus s => .setStatus s
  | .setSessionId id => .setSessionId id
  | .setServerVersion version => .setServerVersion version
  | .setReconnectAttempts count => .setReconnectAttempts count
  | .appendLog entry => .appendLog entry
  | .setTranscriptPartial text => .setTranscriptPartial text
  | .setTranscriptFinal text => .setTranscriptFinal text
  | .setVoiceState state => .setVoiceState state
  | .appendLlmToken delta => .appendLlmToken delta
  | .clearLlmResponse => .clearLlmResponse
  | .setBackgroundContext context => .setBackgroundContext context
  | .setMapFocus lat lon label zoom => .setMapFocus lat lon label zoom
  | .clearMapFocus => .clearMapFocus
  | .setPipelineHealth health => .setPipelineHealth health
  | .scene op => op.mutator

/-- What an operation leaves and emits. -/
def ConnectionProperties.apply (c : ConnectionProperties) (op : StateOp) : Recorded ConnectionProperties PropertySignal :=
  exec op.mutator c

end PairionClient
