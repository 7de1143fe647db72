import PairionClient.Protocol.Messages

/-!
# Text frames

`protocol/envelope_codec.cpp`: a text frame is a JSON object whose "type" names the message. Members that are missing or of
another kind read as the default of their kind.
-/

namespace PairionClient

namespace EnvelopeCodec

/-- An absent confidence has no member. -/
def serialize : OutboundMessage → QJsonObject
  | .deviceIdentify deviceId bearerToken clientVersion =>
    [("type", .string OutboundType.deviceIdentify.kType), ("deviceId", .string deviceId),
      ("bearerToken", .string bearerToken), ("clientVersion", .string clientVersion)]
  | .heartbeatPing timestamp =>
    [("type", .string OutboundType.heartbeatPing.kType), ("timestamp", .string timestamp)]
  | .wakeWordDetected timestamp confidence =>
    let obj := [("type", .string OutboundType.wakeWordDetected.kType), ("timestamp", .string timestamp)]
    match confidence with
    | none => obj
    | some confidence => obj ++ [("confidence", .double confidence)]
  | .audioStreamStart streamId codec sampleRate =>
    [("type", .string OutboundType.audioStreamStart.kType), ("streamId", .string streamId), ("codec", .string codec),
      ("sampleRate", .double sampleRate)]
  | .speechEnded streamId => [("type", .string OutboundType.speechEnded.kType), ("streamId", .string streamId)]
  | .audioStreamEnd streamId reason =>
    [("type", .string OutboundType.audioStreamEnd.kType), ("streamId", .string streamId), ("reason", .string reason)]
  | .textMessage text => [("type", .string OutboundType.textMessage.kType), ("text", .string text)]
  | .bargeIn interruptedStreamId =>
    [("type", .string OutboundType.bargeIn.kType), ("interruptedStreamId", .string interruptedStreamId)]

def deserialize (obj : QJsonObject) : Option InboundMessage :=
  let text (key : String) : String := (obj.value key).toString
  match text "type" with
  | "SessionOpened" => some (.sessionOpened (text "sessionId") (text "serverVersion"))
  | "SessionClosed" => some (.sessionClosed (text "reason"))
  | "HeartbeatPong" => some (.heartbeatPong (text "timestamp"))
  | "Error" => some (.errorMessage (text "code") (text "message"))
  | "AgentStateChange" => some (.agentStateChange (text "state"))
  | "TranscriptPartial" => some (.transcriptPartial (text "text"))
  | "TranscriptFinal" => some (.transcriptFinal (text "text"))
  | "LlmTokenStream" => some (.llmTokenStream (text "delta"))
  | "ToolCallStarted" =>
    some (.toolCallStarted (text "toolCallId") (text "toolName") (obj.value "input").toObject)
  | "ToolCallCompleted" => some (.toolCallCompleted (text "toolCallId") (obj.value "output").toObject)
  | "AudioStreamStart" =>
    some (.audioStreamStartOut (text "streamId") (text "codec") (obj.value "sampleRate").toInt)
  | "AudioStreamEnd" => some (.audioStreamEndOut (text "streamId") (text "reason"))
  | "UnderBreathAck" =>
    some (.underBreathAck (if obj.contains "acknowledgementType" then some (text "acknowledgementType") else none))
  | "MapFocus" =>
    some (.mapFocus (obj.value "lat").toDouble (obj.value "lon").toDouble (text "label") (text "zoom"))
  | "MapClear" => some .mapClear
  | "BackgroundChange" =>
    some (.backgroundChange (text "backgroundId") (obj.value "params").toObject (text "transition"))
  | "OverlayAdd" => some (.overlayAdd (text "overlayId") (obj.value "params").toObject)
  | "OverlayRemove" => some (.overlayRemove (text "overlayId"))
  | "OverlayClear" => some .overlayClear
  | "SceneDataPush" => some (.sceneDataPush (text "modelId") (obj.value "data"))
  | _ => none

/-- A text frame that is not a JSON object is no message. -/
def deserializeFromString (fromJson : Bytes → Except String QJsonDocument) (json : String) : Option InboundMessage :=
  match fromJson json.toUTF8.toList with
  | .ok (.object members) => deserialize members
  | _ => none

end EnvelopeCodec

end PairionClient
