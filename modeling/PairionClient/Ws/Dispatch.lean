import PairionClient.Protocol.EnvelopeCodec
import PairionClient.State.Properties
import PairionClient.Util.Logger
import PairionClient.Ws.WebSocketClient

/-!
# The dispatch of text frames

`ws/pairion_websocket_client.cpp`: `onTextMessageReceived` with the branch of every message: the line it logs, what it does to
the connection state, and what the client emits. The log callback is the one that `main.cpp` sets, which appends each line to
the recent logs. What the slots of the client's signals do is not part of it; they write none of the properties written here.
-/

namespace PairionClient

/-- The signals of `PairionWebSocketClient` that a text frame can emit. -/
inductive ClientSignal where
  | inboundMessage (msg : InboundMessage)
  | sessionOpened (sessionId serverVersion : String)
  | sessionClosed (reason : String)
  | serverError (code message : String)
  | transcriptPartialReceived (text : String)
  | transcriptFinalReceived (text : String)
  | agentStateReceived (state : String)
  | llmTokenReceived (delta : String)
  | audioStreamStartOutReceived (streamId : String)
  | audioStreamEndOutReceived (streamId reason : String)

/-- A branch: it logs a line, then changes the store, then emits. -/
structure Branch where
  log : Option (QtMsgType × String) := none
  ops : List StateOp := []
  emitted : List ClientSignal := []

/-- A text frame, with the text of the instant if the message handler and its callback are installed. -/
structure TextFrame where
  message : String
  timestamp : Option String := none
  deriving DecidableEq, Repr

namespace PairionWebSocketClient

/-- The branch of a message; `quote` is how `QDebug` writes a string. -/
def visit (quote : String → String) : InboundMessage → Branch
  | .sessionOpened sessionId serverVersion =>
    { log := some (.info, "Session opened: " ++ quote sessionId ++ " server: " ++ quote serverVersion)
      ops := [.setStatus .connected, .setSessionId sessionId, .setServerVersion serverVersion]
      emitted := [.sessionOpened sessionId serverVersion] }
  | .sessionClosed reason =>
    { log := some (.info, "Session closed: " ++ quote reason)
      emitted := [.sessionClosed reason] }
  | .heartbeatPong _ => { log := some (.debug, "Heartbeat pong received") }
  | .errorMessage code message =>
    { log := some (.warning, "Server error: " ++ quote code ++ " " ++ quote message)
      emitted := [.serverError code message] }
  | .transcriptPartial text =>
    { ops := [.setTranscriptPartial text]
      emitted := [.transcriptPartialReceived text] }
  | .transcriptFinal text =>
    { log := some (.info, "TranscriptFinal received: " ++ quote text)
      ops := [.setTranscriptFinal text]
      emitted := [.transcriptFinalReceived text] }
  | .agentStateChange state =>
    { ops := (if state = "thinking" then [.clearLlmResponse] else []) ++ [.scene (.setAgentState state)]
      emitted := [.agentStateReceived state] }
  | .llmTokenStream delta =>
    { ops := [.appendLlmToken delta]
      emitted := [.llmTokenReceived delta] }
  | .audioStreamStartOut streamId _ _ =>
    { log := some (.info, "Inbound audio stream start: " ++ quote streamId)
      emitted := [.audioStreamStartOutReceived streamId] }
  | .audioStreamEndOut streamId reason =>
    { log := some (.info, "Inbound audio stream end: " ++ quote streamId ++ " " ++ quote reason)
      emitted := [.audioStreamEndOutReceived streamId reason] }
  | .mapFocus lat lon label zoom =>
    { log := some (.info, "Map focus: " ++ quote label ++ " zoom: " ++ quote zoom)
      ops := [.setMapFocus lat lon label zoom] }
  | .mapClear =>
    { log := some (.info, "Map clear")
      ops := [.clearMapFocus] }
  | .backgroundChange backgroundId params transition =>
    { log := some (.info, "Background change: backgroundId= " ++ quote backgroundId ++ " transition= " ++ quote transition)
      ops := [.scene (.setBackground backgroundId params transition)] }
  | .overlayAdd overlayId params =>
    { log := some (.info, "Overlay add: overlayId= " ++ quote overlayId)
      ops := [.scene (.addOverlay overlayId params)] }
  | .overlayRemove overlayId =>
    { log := some (.info, "Overlay remove: overlayId= " ++ quote overlayId)
      ops := [.scene (.removeOverlay overlayId)] }
  | .overlayClear =>
    { log := some (.info, "Overlay clear")
      ops := [.scene .clearOverlays] }
  | .sceneDataPush modelId data =>
    { log := some (.info, "Scene data push: modelId= " ++ quote modelId)
      ops := [.scene (.setSceneData modelId data)] }
  -- no branch: the three types that are only passed on
  | .toolCallStarted .. => {}
  | .toolCallCompleted .. => {}
  | .underBreathAck _ => {}

/-- A line of the log, as the callback appends it. -/
def logged (timestamp : Option String) (type : QtMsgType) (message : String) (c : ConnectionProperties) :
    ConnectionProperties :=
  match timestamp with
  | none => c
  | some timestamp =>
    (c.apply (.appendLog (LogRecord.formatted { timestamp, level := levelString type, message }))).store

def runBranch (timestamp : Option String) (branch : Branch) (c : ConnectionProperties) : ConnectionProperties :=
  let c :=
    match branch.log with
    | none => c
    | some (type, message) => logged timestamp type message c
  branch.ops.foldl (fun c op => (c.apply op).store) c

variable (fromJson : Bytes → Except String QJsonDocument) (quote : String → String)

/-- What the frame leaves in the store, and what the client emits. -/
def onTextMessageReceived (frame : TextFrame) (c : ConnectionProperties) : ConnectionProperties × List ClientSignal :=
  match EnvelopeCodec.deserializeFromString fromJson frame.message with
  | none => (logged frame.timestamp .warning ("Unknown or malformed message: " ++ quote frame.message) c, [])
  | some msg =>
    let branch := visit quote msg
    (runBranch frame.timestamp branch c, .inboundMessage msg :: branch.emitted)

/-- The store after a frame. -/
def dispatch (c : ConnectionProperties) (frame : TextFrame) : ConnectionProperties :=
  (onTextMessageReceived fromJson quote frame c).1

end PairionWebSocketClient

end PairionClient
