import PairionClient.Core.Json

/-!
# Messages

The text messages a client sends and those it receives (`protocol/messages.h`, `OutboundMessage` and `InboundMessage`), each
with the fields of its struct and its type tag, and what is put on the wire: a text message or a binary frame.
-/

namespace PairionClient

/-- The text messages a client sends to the server. -/
inductive OutboundMessage where
  | deviceIdentify (deviceId bearerToken clientVersion : String)
  | heartbeatPing (timestamp : String)
  | wakeWordDetected (timestamp : String) (confidence : Option ℚ)
  | audioStreamStart (streamId codec : String) (sampleRate : Int)
  | speechEnded (streamId : String)
  | audioStreamEnd (streamId reason : String)
  | textMessage (text : String)
  | bargeIn (interruptedStreamId : String)
  deriving DecidableEq, Repr

/-- The alternatives of `OutboundMessage`. -/
inductive OutboundType where
  | deviceIdentify
  | heartbeatPing
  | wakeWordDetected
  | audioStreamStart
  | speechEnded
  | audioStreamEnd
  | textMessage
  | bargeIn
  deriving DecidableEq, Repr

namespace OutboundType

/-- `kType` of the struct. -/
def kType : OutboundType → String
  | .deviceIdentify => "DeviceIdentify"
  | .heartbeatPing => "HeartbeatPing"
  | .wakeWordDetected => "WakeWordDetected"
  | .audioStreamStart => "AudioStreamStart"
  | .speechEnded => "SpeechEnded"
  | .audioStreamEnd => "AudioStreamEnd"
  | .textMessage => "TextMessage"
  | .bargeIn => "BargeIn"

/-- The names of the fields of the struct. -/
def fields : OutboundType → List String
  | .deviceIdentify => ["deviceId", "bearerToken", "clientVersion"]
  | .heartbeatPing => ["timestamp"]
  | .wakeWordDetected => ["timestamp", "confidence"]
  | .audioStreamStart => ["streamId", "codec", "sampleRate"]
  | .speechEnded => ["streamId"]
  | .audioStreamEnd => ["streamId", "reason"]
  | .textMessage => ["text"]
  | .bargeIn => ["interruptedStreamId"]

def all : List OutboundType :=
  [.deviceIdentify, .heartbeatPing, .wakeWordDetected, .audioStreamStart, .speechEnded, .audioStreamEnd, .textMessage, .bargeIn]

/-- Every type of an outbound message is listed. -/
theorem mem_all (t : OutboundType) : t ∈ all := by
  cases t <;> decide

end OutboundType

/-- The alternative that a message holds. -/
def OutboundMessage.alternative : OutboundMessage → OutboundType
  | .deviceIdentify .. => .deviceIdentify
  | .heartbeatPing .. => .heartbeatPing
  | .wakeWordDetected .. => .wakeWordDetected
  | .audioStreamStart .. => .audioStreamStart
  | .speechEnded .. => .speechEnded
  | .audioStreamEnd .. => .audioStreamEnd
  | .textMessage .. => .textMessage
  | .bargeIn .. => .bargeIn

/-- `AudioStreamStartIn` with the default codec and sample rate of its struct. -/
def OutboundMessage.audioStreamStartIn (streamId : String) : OutboundMessage := .audioStreamStart streamId "opus" 16000

/-- The text messages a client receives from the server. -/
inductive InboundMessage where
  | sessionOpened (sessionId serverVersion : String)
  | sessionClosed (reason : String)
  | heartbeatPong (timestamp : String)
  | errorMessage (code message : String)
  | agentStateChange (state : String)
  | transcriptPartial (text : String)
  | transcriptFinal (text : String)
  | llmTokenStream (delta : String)
  | toolCallStarted (toolCallId toolName : String) (input : QJsonObject)
  | toolCallCompleted (toolCallId : String) (output : QJsonObject)
  | audioStreamStartOut (streamId codec : String) (sampleRate : Int)
  | audioStreamEndOut (streamId reason : String)
  | underBreathAck (acknowledgementType : Option String)
  | mapFocus (lat lon : ℚ) (label zoom : String)
  | mapClear
  | backgroundChange (backgroundId : String) (params : QJsonObject) (transition : String)
  | overlayAdd (overlayId : String) (params : QJsonObject)
  | overlayRemove (overlayId : String)
  | overlayClear
  | sceneDataPush (modelId : String) (data : QJsonValue)

/-- The alternatives of `InboundMessage`. -/
inductive InboundType where
  | sessionOpened
  | sessionClosed
  | heartbeatPong
  | errorMessage
  | agentStateChange
  | transcriptPartial
  | transcriptFinal
  | llmTokenStream
  | toolCallStarted
  | toolCallCompleted
  | audioStreamStartOut
  | audioStreamEndOut
  | underBreathAck
  | mapFocus
  | mapClear
  | backgroundChange
  | overlayAdd
  | overlayRemove
  | overlayClear
  | sceneDataPush
  deriving DecidableEq, Repr

namespace InboundType

/-- `kType` of the struct. -/
def kType : InboundType → String
  | .sessionOpened => "SessionOpened"
  | .sessionClosed => "SessionClosed"
  | .heartbeatPong => "HeartbeatPong"
  | .errorMessage => "Error"
  | .agentStateChange => "AgentStateChange"
  | .transcriptPartial => "TranscriptPartial"
  | .transcriptFinal => "TranscriptFinal"
  | .llmTokenStream => "LlmTokenStream"
  | .toolCallStarted => "ToolCallStarted"
  | .toolCallCompleted => "ToolCallCompleted"
  | .audioStreamStartOut => "AudioStreamStart"
  | .audioStreamEndOut => "AudioStreamEnd"
  | .underBreathAck => "UnderBreathAck"
  | .mapFocus => "MapFocus"
  | .mapClear => "MapClear"
  | .backgroundChange => "BackgroundChange"
  | .overlayAdd => "OverlayAdd"
  | .overlayRemove => "OverlayRemove"
  | .overlayClear => "OverlayClear"
  | .sceneDataPush => "SceneDataPush"

/-- The names of the fields of the struct. -/
def fields : InboundType → List String
  | .sessionOpened => ["sessionId", "serverVersion"]
  | .sessionClosed => ["reason"]
  | .heartbeatPong => ["timestamp"]
  | .errorMessage => ["code", "message"]
  | .agentStateChange => ["state"]
  | .transcriptPartial => ["text"]
  | .transcriptFinal => ["text"]
  | .llmTokenStream => ["delta"]
  | .toolCallStarted => ["toolCallId", "toolName", "input"]
  | .toolCallCompleted => ["toolCallId", "output"]
  | .audioStreamStartOut => ["streamId", "codec", "sampleRate"]
  | .audioStreamEndOut => ["streamId", "reason"]
  | .underBreathAck => ["acknowledgementType"]
  | .mapFocus => ["lat", "lon", "label", "zoom"]
  | .mapClear => []
  | .backgroundChange => ["backgroundId", "params", "transition"]
  | .overlayAdd => ["overlayId", "params"]
  | .overlayRemove => ["overlayId"]
  | .overlayClear => []
  | .sceneDataPush => ["modelId", "data"]

end InboundType

/-- The alternative that a message holds. -/
def InboundMessage.alternative : InboundMessage → InboundType
  | .sessionOpened .. => .sessionOpened
  | .sessionClosed .. => .sessionClosed
  | .heartbeatPong .. => .heartbeatPong
  | .errorMessage .. => .errorMessage
  | .agentStateChange .. => .agentStateChange
  | .transcriptPartial .. => .transcriptPartial
  | .transcriptFinal .. => .transcriptFinal
  | .llmTokenStream .. => .llmTokenStream
  | .toolCallStarted .. => .toolCallStarted
  | .toolCallCompleted .. => .toolCallCompleted
  | .audioStreamStartOut .. => .audioStreamStartOut
  | .audioStreamEndOut .. => .audioStreamEndOut
  | .underBreathAck .. => .underBreathAck
  | .mapFocus .. => .mapFocus
  | .mapClear => .mapClear
  | .backgroundChange .. => .backgroundChange
  | .overlayAdd .. => .overlayAdd
  | .overlayRemove .. => .overlayRemove
  | .overlayClear => .overlayClear
  | .sceneDataPush .. => .sceneDataPush

/-- The sample rate of a message is an `int`. -/
def InboundMessage.IntsFit : InboundMessage → Prop
  | .audioStreamStartOut _ _ sampleRate => -2147483648 ≤ sampleRate ∧ sampleRate ≤ 2147483647
  | _ => True

/-- A frame on the WebSocket. -/
inductive WireFrame where
  | text (msg : OutboundMessage)
  | binary (data : Bytes)
  deriving DecidableEq, Repr

end PairionClient
