import PairionClient.Lemmas.Properties
import PairionClient.Lemmas.Scene
import PairionClient.Lib.Run
import PairionClient.Ws.Dispatch
import PairionClient.Ws.ServerConnection

/-!
# Lemmas on the dispatch of text frames

What a frame leaves in the store, as a function of its message; the line it logs touches the recent logs alone.
-/

namespace PairionClient

open Notify

namespace InboundMessage

/-- What the branch of a message leaves in the store. -/
def effect (c : ConnectionProperties) : InboundMessage → ConnectionProperties
  | .sessionOpened sessionId serverVersion =>
    { c with status := .connected, sessionId := sessionId, serverVersion := serverVersion }
  | .agentStateChange state =>
    { c with agentState := state, llmResponse := if state = "thinking" then "" else c.llmResponse }
  | .transcriptPartial text => { c with transcriptPartial := text }
  | .transcriptFinal text => { c with transcriptFinal := text }
  | .llmTokenStream delta => { c with llmResponse := c.llmResponse ++ delta }
  | .mapFocus lat lon label zoom =>
    { c with mapFocusActive := true, mapFocusLat := lat, mapFocusLon := lon, mapFocusLabel := label, mapFocusZoom := zoom }
  | .mapClear => { c with mapFocusActive := false }
  | .backgroundChange backgroundId params transition =>
    { c with
      activeBackgroundId := backgroundId
      backgroundParams := params
      sceneTransition := if transition = "" then "crossfade" else transition }
  | .overlayAdd overlayId params =>
    { c with
      activeOverlayIds := if overlayId ∈ c.activeOverlayIds then c.activeOverlayIds else c.activeOverlayIds ++ [overlayId]
      overlayParams := c.overlayParams.insert overlayId params }
  | .overlayRemove overlayId =>
    { c with
      activeOverlayIds := c.activeOverlayIds.filter (· ≠ overlayId)
      overlayParams := if overlayId ∈ c.activeOverlayIds then c.overlayParams.erase overlayId else c.overlayParams }
  | .overlayClear =>
    { c with
      activeOverlayIds := []
      overlayParams := if c.activeOverlayIds = [] then c.overlayParams else ∅ }
  | .sceneDataPush modelId data => { c with sceneData := c.sceneData.insert modelId data }
  | _ => c

end InboundMessage

namespace ConnectionProperties

variable {c : ConnectionProperties}

/-! ## What the operations of the branches leave -/

/-- `setStatus` writes the status. -/
theorem store_setStatus (s : ConnectionStatus) : (c.apply (.setStatus s)).store = { c with status := s } :=
  store_setIfDifferent rfl

/-- `setSessionId` writes the id of the session. -/
theorem store_setSessionId (id : String) : (c.apply (.setSessionId id)).store = { c with sessionId := id } :=
  store_setIfDifferent rfl

/-- `setServerVersion` leaves the version that it is given. -/
theorem store_setServerVersion (version : String) :
    (c.apply (.setServerVersion version)).store = { c with serverVersion := version } := store_setIfDifferent rfl

/-- `setTranscriptPartial` leaves the text that it is given. -/
theorem store_setTranscriptPartial (text : String) :
    (c.apply (.setTranscriptPartial text)).store = { c with transcriptPartial := text } := store_setIfDifferent rfl

/-- `setTranscriptFinal` leaves the text that it is given. -/
theorem store_setTranscriptFinal (text : String) :
    (c.apply (.setTranscriptFinal text)).store = { c with transcriptFinal := text } := store_setIfDifferent rfl

/-- `clearLlmResponse` leaves no response. -/
theorem store_clearLlmResponse : (c.apply .clearLlmResponse).store = { c with llmResponse := "" } := by
  rw [apply, StateOp.mutator, Mutator.exec_clearLlmResponse]
  split
  · rename_i hempty
    rw [← hempty]
    rfl
  · rfl

/-- `clearMapFocus` leaves the place and takes the focus away. -/
theorem store_clearMapFocus : (c.apply .clearMapFocus).store = { c with mapFocusActive := false } := by
  rw [apply, StateOp.mutator, Mutator.exec_clearMapFocus]
  split
  · rfl
  · rw [← Bool.eq_false_iff.2 ‹¬c.mapFocusActive = true›]
    rfl

end ConnectionProperties

namespace PairionWebSocketClient

variable {fromJson : Bytes → Except String QJsonDocument} {quote : String → String} {c : ConnectionProperties}

/-- The operations of a branch. -/
theorem foldl_visit (msg : InboundMessage) (c : ConnectionProperties) :
    (visit quote msg).ops.foldl (fun c op => (c.apply op).store) c = msg.effect c := by
  cases msg with
  | sessionOpened sessionId serverVersion =>
    simp only [visit, List.foldl_cons, List.foldl_nil, ConnectionProperties.store_setStatus,
      ConnectionProperties.store_setSessionId, ConnectionProperties.store_setServerVersion]
    rfl
  | transcriptPartial text => exact ConnectionProperties.store_setTranscriptPartial text
  | transcriptFinal text => exact ConnectionProperties.store_setTranscriptFinal text
  | agentStateChange state =>
    by_cases hthinking : state = "thinking"
    · simp only [visit, hthinking, if_true, List.singleton_append, List.foldl_cons, List.foldl_nil,
        ConnectionProperties.store_clearLlmResponse, ConnectionProperties.store_scene, Scene.step_setAgentState]
      rfl
    · simp only [visit, hthinking, if_false, List.nil_append, List.foldl_cons, List.foldl_nil,
        ConnectionProperties.store_scene, Scene.step_setAgentState, InboundMessage.effect]
  | mapClear => exact ConnectionProperties.store_clearMapFocus
  | backgroundChange backgroundId params transition =>
    exact ConnectionProperties.store_scene c (.setBackground backgroundId params transition)
  | overlayAdd overlayId params => exact ConnectionProperties.store_scene c (.addOverlay overlayId params)
  | overlayRemove overlayId =>
    refine (ConnectionProperties.store_scene c (.removeOverlay overlayId)).trans ?_
    rw [Scene.step_removeOverlay]
    rfl
  | overlayClear =>
    refine (ConnectionProperties.store_scene c .clearOverlays).trans ?_
    rw [Scene.step_clearOverlays]
    rfl
  | sceneDataPush modelId data => exact ConnectionProperties.store_scene c (.setSceneData modelId data)
  | _ => rfl

/-- A line of the log goes to the recent logs. -/
theorem logged_eq (timestamp : Option String) (type : QtMsgType) (message : String) (c : ConnectionProperties) :
    logged timestamp type message c =
      { c with
        recentLogs := timestamp.elim c.recentLogs fun timestamp =>
          (LogRecord.formatted { timestamp, level := levelString type, message } :: c.recentLogs).take 50 } := by
  cases timestamp <;> rfl

/-- A frame that is no message is logged with a warning, and does nothing else. -/
theorem dispatch_of_none {frame : TextFrame} (h : EnvelopeCodec.deserializeFromString fromJson frame.message = none) :
    dispatch fromJson quote c frame =
      logged frame.timestamp .warning ("Unknown or malformed message: " ++ quote frame.message) c := by
  rw [dispatch, onTextMessageReceived, h]

/-- A frame that is a message has the effect of the message, beside what is logged of it. -/
theorem dispatch_of_some (quote : String → String) (c : ConnectionProperties) {frame : TextFrame} {msg : InboundMessage}
    (h : EnvelopeCodec.deserializeFromString fromJson frame.message = some msg) :
    ∃ logs, dispatch fromJson quote c frame = msg.effect { c with recentLogs := logs } := by
  rw [dispatch, onTextMessageReceived, h]
  dsimp only [runBranch]
  rw [foldl_visit]
  cases (visit quote msg).log with
  | none => exact ⟨c.recentLogs, rfl⟩
  | some line => exact ⟨_, congrArg msg.effect (logged_eq frame.timestamp line.1 line.2 c)⟩

end PairionWebSocketClient

/-! ## The connection -/

/-- The signals that are about the connection. -/
def ClientSignal.connection : ClientSignal → Option ConnectionSignal
  | .inboundMessage msg => some (.inboundMessage msg)
  | .sessionOpened sessionId serverVersion => some (.sessionOpened sessionId serverVersion)
  | _ => none

namespace ConnectionProperties

/-- The fields that the connection to the server shows. -/
def Shows (c : ConnectionProperties) (s : ServerConnection) : Prop :=
  c.status = s.status ∧ c.sessionId = s.sessionId ∧ c.serverVersion = s.serverVersion

variable {c : ConnectionProperties} {s : ServerConnection}

/-- The connection to the server takes a frame as the dispatch does. -/
theorem Shows.dispatch (h : c.Shows s) (fromJson : Bytes → Except String QJsonDocument) (quote : String → String)
    (frame : TextFrame) :
    (PairionWebSocketClient.dispatch fromJson quote c frame).Shows (s.onTextMessageReceived fromJson frame.message).1 := by
  cases hmsg : EnvelopeCodec.deserializeFromString fromJson frame.message with
  | none =>
    rw [PairionWebSocketClient.dispatch_of_none hmsg, PairionWebSocketClient.logged_eq,
      ServerConnection.onTextMessageReceived, hmsg]
    exact h
  | some msg =>
    obtain ⟨logs, hstore⟩ := PairionWebSocketClient.dispatch_of_some quote c hmsg
    rw [hstore, ServerConnection.onTextMessageReceived, hmsg]
    cases msg with
    | sessionOpened sessionId serverVersion => exact ⟨rfl, rfl, rfl⟩
    | _ => exact h

end ConnectionProperties

/-- It emits what the dispatch emits about the connection. -/
theorem ServerConnection.emitted_onTextMessageReceived (fromJson : Bytes → Except String QJsonDocument)
    (quote : String → String) (frame : TextFrame) (c : ConnectionProperties) (s : ServerConnection) :
    (s.onTextMessageReceived fromJson frame.message).2 =
      (PairionWebSocketClient.onTextMessageReceived fromJson quote frame c).2.filterMap ClientSignal.connection := by
  rw [ServerConnection.onTextMessageReceived, PairionWebSocketClient.onTextMessageReceived]
  cases EnvelopeCodec.deserializeFromString fromJson frame.message with
  | none => rfl
  | some msg => cases msg <;> rfl

end PairionClient
