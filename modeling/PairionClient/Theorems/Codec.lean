import PairionClient.Protocol.EnvelopeCodec

/-!
# The codec of text frames

What the server encodes is what the client decodes, for every message of every type, and a JSON object is a message exactly
when its "type" names one. The other way, a message is determined by the object it is serialized to.
-/

namespace PairionClient

/-- The two objects have the same members under these names. -/
def QJsonObject.AgreeOn (names : List String) (a b : QJsonObject) : Prop := ∀ name ∈ names, a.lookup name = b.lookup name

namespace InboundMessage

/-- One member for each field that is set, under the name of the field. -/
def members : InboundMessage → QJsonObject
  | .sessionOpened sessionId serverVersion =>
    [("sessionId", .string sessionId), ("serverVersion", .string serverVersion)]
  | .sessionClosed reason => [("reason", .string reason)]
  | .heartbeatPong timestamp => [("timestamp", .string timestamp)]
  | .errorMessage code message => [("code", .string code), ("message", .string message)]
  | .agentStateChange state => [("state", .string state)]
  | .transcriptPartial text => [("text", .string text)]
  | .transcriptFinal text => [("text", .string text)]
  | .llmTokenStream delta => [("delta", .string delta)]
  | .toolCallStarted toolCallId toolName input =>
    [("toolCallId", .string toolCallId), ("toolName", .string toolName), ("input", .object input)]
  | .toolCallCompleted toolCallId output => [("toolCallId", .string toolCallId), ("output", .object output)]
  | .audioStreamStartOut streamId codec sampleRate =>
    [("streamId", .string streamId), ("codec", .string codec), ("sampleRate", .double sampleRate)]
  | .audioStreamEndOut streamId reason => [("streamId", .string streamId), ("reason", .string reason)]
  | .underBreathAck none => []
  | .underBreathAck (some acknowledgementType) => [("acknowledgementType", .string acknowledgementType)]
  | .mapFocus lat lon label zoom =>
    [("lat", .double lat), ("lon", .double lon), ("label", .string label), ("zoom", .string zoom)]
  | .mapClear => []
  | .backgroundChange backgroundId params transition =>
    [("backgroundId", .string backgroundId), ("params", .object params), ("transition", .string transition)]
  | .overlayAdd overlayId params => [("overlayId", .string overlayId), ("params", .object params)]
  | .overlayRemove overlayId => [("overlayId", .string overlayId)]
  | .overlayClear => []
  | .sceneDataPush modelId data => [("modelId", .string modelId), ("data", data)]

/-- The object that stands for a message. -/
def encode (m : InboundMessage) : QJsonObject := ("type", .string m.alternative.kType) :: m.members

/-- The names that the decoder of a message may look at. -/
def knownNames (m : InboundMessage) : List String := "type" :: m.alternative.fields

end InboundMessage

namespace QJsonObject

variable {names : List String} {a b : QJsonObject} {name : String}

/-- Objects that agree on a name have the same value there. -/
theorem AgreeOn.value (h : AgreeOn names a b) (hname : name ∈ names) : a.value name = b.value name := by
  rw [QJsonObject.value, QJsonObject.value, h name hname]

/-- Objects that agree on a name both have it or both have not. -/
theorem AgreeOn.contains (h : AgreeOn names a b) (hname : name ∈ names) : a.contains name = b.contains name := by
  rw [QJsonObject.contains, QJsonObject.contains, h name hname]

/-- An object contains a name if it is among its keys. -/
theorem contains_iff_mem {obj : QJsonObject} : obj.contains name = true ↔ name ∈ obj.map Prod.fst := by
  induction obj with
  | nil => simp [QJsonObject.contains]
  | cons entry obj ih =>
    rw [QJsonObject.contains] at ih ⊢
    rw [List.map_cons, List.mem_cons, ← ih, List.lookup_cons]
    by_cases hname : name = entry.1
    · simp [hname]
    · rw [beq_eq_false_iff_ne.2 hname]
      exact ⟨Or.inr, fun h => h.resolve_left hname⟩

end QJsonObject

namespace EnvelopeCodec

open QJsonObject

/-! ## Inbound messages -/

variable {obj obj' : QJsonObject}

/-- The members read are those under the names of the fields. -/
theorem deserialize_congr {t : InboundType} (htype : obj.value "type" = .string t.kType)
    (h : AgreeOn ("type" :: t.fields) obj obj') : deserialize obj = deserialize obj' := by
  have htype' : obj'.value "type" = .string t.kType := (h.value List.mem_cons_self).symm.trans htype
  have hvalue (name : String) (hname : name ∈ t.fields) : obj.value name = obj'.value name :=
    h.value (List.mem_cons_of_mem _ hname)
  have hcontains (name : String) (hname : name ∈ t.fields) : obj.contains name = obj'.contains name :=
    h.contains (List.mem_cons_of_mem _ hname)
  simp only [deserialize, htype, htype', QJsonValue.toString]
  cases t <;> simp [InboundType.kType, InboundType.fields] at hvalue hcontains ⊢ <;> simp [hvalue, hcontains]

/-- An `int` survives as a number. -/
theorem toInt_double {n : Int} (h : -2147483648 ≤ n ∧ n ≤ 2147483647) : (QJsonValue.double n).toInt = n := by
  simp [QJsonValue.toInt, h]

/-- A message whose integers fit is read back from its own object. -/
theorem deserialize_encode {m : InboundMessage} (h : m.IntsFit) : deserialize m.encode = some m := by
  cases m with
  | audioStreamStartOut streamId codec sampleRate =>
    have hread : deserialize (InboundMessage.audioStreamStartOut streamId codec sampleRate).encode =
        some (.audioStreamStartOut streamId codec (QJsonValue.double sampleRate).toInt) := rfl
    rw [hread, toInt_double h]
  | underBreathAck acknowledgementType =>
    cases acknowledgementType with
    | none => rfl
    | some acknowledgementType => rfl
  | _ => rfl

/-- A type tag is answered with a message of that type. -/
theorem deserialize_of_type (t : InboundType) (htype : obj.value "type" = .string t.kType) :
    ∃ m, deserialize obj = some m ∧ m.alternative = t := by
  simp only [deserialize, htype, QJsonValue.toString]
  cases t <;> exact ⟨_, rfl, rfl⟩

/-- A value that reads as a text other than the empty one is this text. -/
theorem value_of_toString {v : QJsonValue} {s : String} (h : v.toString = s) (hne : s ≠ "") : v = .string s := by
  cases v with
  | string text => exact congrArg QJsonValue.string h
  | _ => exact absurd h.symm hne

/-- A message is answered to its own type tag only. -/
theorem type_of_deserialize {m : InboundMessage} (h : deserialize obj = some m) :
    obj.value "type" = .string m.alternative.kType := by
  have htext : (obj.value "type").toString = m.alternative.kType := by
    simp only [deserialize] at h
    split at h <;> cases h <;> assumption
  have hne (t : InboundType) : t.kType ≠ "" := by cases t <;> decide
  exact value_of_toString htext (hne _)

/-- Every encoding decodes to its message, whatever unknown members are added to it, and an object is decoded exactly when
its "type" is that of a message, to a message of that type. -/
theorem inbound_roundtrip :
    (∀ m : InboundMessage, m.IntsFit → ∀ obj, AgreeOn m.knownNames obj m.encode → deserialize obj = some m) ∧
      (∀ obj, (deserialize obj).isSome ↔ ∃ t : InboundType, obj.value "type" = .string t.kType) ∧
      ∀ obj m, deserialize obj = some m → obj.value "type" = .string m.alternative.kType := by
  refine ⟨?_, ?_, ?_⟩
  · intro m hint obj hagree
    have htype : obj.value "type" = .string m.alternative.kType := hagree.value List.mem_cons_self
    rw [deserialize_congr htype hagree, deserialize_encode hint]
  · intro obj
    constructor
    · intro hsome
      obtain ⟨m, hm⟩ := Option.isSome_iff_exists.1 hsome
      exact ⟨m.alternative, type_of_deserialize hm⟩
    · rintro ⟨t, htype⟩
      obtain ⟨m, hm, -⟩ := deserialize_of_type t htype
      rw [hm]
      rfl
  · intro obj m hm
    exact type_of_deserialize hm

/-- A stream start whose members stand in another order, among others that are not known. -/
theorem inbound_roundtrip_extended :
    deserialize [("sampleRate", .double 24000), ("codec", .string "opus"), ("volume", .double 1), ("streamId", .string "s1"),
      ("type", .string "AudioStreamStart")] = some (.audioStreamStartOut "s1" "opus" 24000) := by
  refine inbound_roundtrip.1 (.audioStreamStartOut "s1" "opus" 24000) ⟨by decide, by decide⟩ _ ?_
  simp [AgreeOn, InboundMessage.knownNames, InboundMessage.alternative, InboundType.fields, InboundMessage.encode,
    InboundMessage.members, InboundType.kType, List.lookup_cons, List.lookup_nil]

/-! ## Outbound messages -/

/-- The confidence that a message carries. -/
def confidence : OutboundMessage → Option ℚ
  | .wakeWordDetected _ confidence => confidence
  | _ => none

/-- A decoder for the messages of the client, as a server may write it. -/
def decodeOutbound (obj : QJsonObject) : Option OutboundMessage :=
  let text (key : String) : String := (obj.value key).toString
  match text "type" with
  | "DeviceIdentify" => some (.deviceIdentify (text "deviceId") (text "bearerToken") (text "clientVersion"))
  | "HeartbeatPing" => some (.heartbeatPing (text "timestamp"))
  | "WakeWordDetected" =>
    some (.wakeWordDetected (text "timestamp")
      (if obj.contains "confidence" then some (obj.value "confidence").toDouble else none))
  | "AudioStreamStart" => some (.audioStreamStart (text "streamId") (text "codec") (obj.value "sampleRate").toDouble.num)
  | "SpeechEnded" => some (.speechEnded (text "streamId"))
  | "AudioStreamEnd" => some (.audioStreamEnd (text "streamId") (text "reason"))
  | "TextMessage" => some (.textMessage (text "text"))
  | "BargeIn" => some (.bargeIn (text "interruptedStreamId"))
  | _ => none

/-- The names that the decoder looks at: "type", and the fields of the struct it names. -/
def readNames (obj : QJsonObject) : List String :=
  "type" :: OutboundType.all.flatMap fun t => if (obj.value "type").toString = t.kType then t.fields else []

/-- An object of no known type is no message. -/
theorem decodeOutbound_of_no_type (h : ∀ t : OutboundType, (obj.value "type").toString ≠ t.kType) :
    decodeOutbound obj = none := by
  cases hdecode : decodeOutbound obj with
  | none => rfl
  | some m =>
    have htext : (obj.value "type").toString = m.alternative.kType := by
      simp only [decodeOutbound] at hdecode
      split at hdecode <;> cases hdecode <;> assumption
    exact absurd htext (h _)

/-- The decoder reads the members under the names of the fields. -/
theorem decodeOutbound_congr {t : OutboundType} (htype : (obj.value "type").toString = t.kType)
    (h : AgreeOn ("type" :: t.fields) obj obj') : decodeOutbound obj = decodeOutbound obj' := by
  have htype' : (obj'.value "type").toString = t.kType := (h.value List.mem_cons_self) ▸ htype
  have hvalue (name : String) (hname : name ∈ t.fields) : obj.value name = obj'.value name :=
    h.value (List.mem_cons_of_mem _ hname)
  have hcontains (name : String) (hname : name ∈ t.fields) : obj.contains name = obj'.contains name :=
    h.contains (List.mem_cons_of_mem _ hname)
  simp only [decodeOutbound, htype, htype']
  cases t <;> simp [OutboundType.kType, OutboundType.fields] at hvalue hcontains ⊢ <;> simp [hvalue, hcontains]

/-- An outbound message is decoded from its serialisation. -/
theorem decodeOutbound_serialize (m : OutboundMessage) : decodeOutbound (serialize m) = some m := by
  cases m with
  | wakeWordDetected timestamp confidence =>
    cases confidence with
    | none => rfl
    | some confidence => rfl
  | audioStreamStart streamId codec sampleRate =>
    have hread : decodeOutbound (serialize (.audioStreamStart streamId codec sampleRate)) =
        some (.audioStreamStart streamId codec (sampleRate : ℚ).num) := rfl
    rw [hread, Rat.num_intCast]
  | _ => rfl

/-- What is decoded depends on the names that are read only. -/
theorem decodeOutbound_readNames (h : AgreeOn (readNames obj) obj obj') : decodeOutbound obj = decodeOutbound obj' := by
  by_cases htype : ∃ t : OutboundType, (obj.value "type").toString = t.kType
  · obtain ⟨t, ht⟩ := htype
    refine decodeOutbound_congr ht fun name hname => h name ?_
    rcases List.mem_cons.1 hname with rfl | hfield
    · exact List.mem_cons_self
    · refine List.mem_cons_of_mem _ (List.mem_flatMap.2 ⟨t, OutboundType.mem_all t, ?_⟩)
      rwa [if_pos ht]
  · have hnone (t : OutboundType) : (obj.value "type").toString ≠ t.kType := fun ht => htype ⟨t, ht⟩
    have hsame : obj.value "type" = obj'.value "type" := h.value List.mem_cons_self
    rw [decodeOutbound_of_no_type hnone, decodeOutbound_of_no_type (hsame ▸ hnone)]

/-- No name is written twice. -/
theorem nodup_serialize (m : OutboundMessage) : ((serialize m).map Prod.fst).Nodup := by
  cases m with
  | wakeWordDetected timestamp confidence => cases confidence <;> simp [serialize]
  | _ => simp [serialize]

/-- The members are "type" and the fields, but for a confidence that is not set. -/
theorem contains_serialize (m : OutboundMessage) (name : String) :
    (serialize m).contains name = true ↔
      name = "type" ∨ name ∈ m.alternative.fields ∧ (name = "confidence" → (confidence m).isSome) := by
  rw [contains_iff_mem]
  cases m with
  | wakeWordDetected timestamp confidence =>
    cases confidence with
    | none =>
      have hone : name = "timestamp" ↔ (name = "timestamp" ∨ name = "confidence") ∧ name ≠ "confidence" := by
        constructor
        · rintro rfl
          exact ⟨Or.inl rfl, by decide⟩
        · rintro ⟨h, hne⟩
          exact h.resolve_right hne
      simpa [serialize, OutboundMessage.alternative, OutboundType.fields, EnvelopeCodec.confidence] using or_congr_right hone
    | some confidence => simp [serialize, OutboundMessage.alternative, OutboundType.fields, EnvelopeCodec.confidence]
  | _ =>
    simp only [serialize, OutboundMessage.alternative, OutboundType.fields, List.map_cons, List.map_nil, List.mem_cons]
    refine or_congr_right (iff_self_and.2 ?_)
    rintro h rfl
    simp at h

/-- A message is determined by the members of its object, a decoder recovers it from those named after its fields, and no
other member is there, nor is one missing but a confidence that is not set. -/
theorem outbound_lossless :
    (∀ a b : OutboundMessage, (∀ name, (serialize a).lookup name = (serialize b).lookup name) → a = b) ∧
      (∃ decode : QJsonObject → Option OutboundMessage,
        (∀ obj obj', AgreeOn (readNames obj) obj obj' → decode obj = decode obj') ∧ ∀ m, decode (serialize m) = some m) ∧
      ∀ m : OutboundMessage, ((serialize m).map Prod.fst).Nodup ∧
        ∀ name, (serialize m).contains name = true ↔
          name = "type" ∨ name ∈ m.alternative.fields ∧ (name = "confidence" → (confidence m).isSome) := by
  refine ⟨?_, ⟨decodeOutbound, fun obj obj' h => decodeOutbound_readNames h, decodeOutbound_serialize⟩, ?_⟩
  · intro a b hsame
    have hdecode : decodeOutbound (serialize a) = decodeOutbound (serialize b) :=
      decodeOutbound_readNames fun name _ => hsame name
    rw [decodeOutbound_serialize, decodeOutbound_serialize] at hdecode
    exact Option.some.inj hdecode
  · intro m
    exact ⟨nodup_serialize m, contains_serialize m⟩

/-- A wake word without a confidence. -/
theorem outbound_lossless_unset : ¬(serialize (.wakeWordDetected "12:00" none)).contains "confidence" = true := by
  intro hcontains
  rcases ((outbound_lossless.2.2 _).2 "confidence").1 hcontains with htype | ⟨-, hset⟩
  · exact absurd htype (by decide)
  · exact absurd (hset rfl) (by decide)

end EnvelopeCodec

end PairionClient
