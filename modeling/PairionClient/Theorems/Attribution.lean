import PairionClient.Lemmas.Handed
import PairionClient.Theorems.Streams

/-!
# Which stream a binary frame belongs to

Nothing in a binary frame but its prefix says whose audio it is. Between the start of a stream and its end the prefix is that
stream's.
-/

namespace PairionClient

open Transition

namespace AudioSessionOrchestrator

/-- The orchestrator, and the frames it has sent, in order. -/
structure Uploads where
  orchestrator : AudioSessionOrchestrator
  log : List WireFrame := []

def Uploads.step (env : Env) (u : Uploads) (e : Event) : Uploads :=
  ⟨u.orchestrator.step env e, u.log ++ handed env u.orchestrator e⟩

/-- The binary frames among frames. -/
def binaryFrames (fs : List WireFrame) : List Bytes :=
  fs.filterMap fun
    | .binary data => some data
    | .text _ => none

/-- The Opus payloads encoded for an event: the one that the encoder has emitted, or the packets of a pre-roll buffer. -/
def encodedPayloads (env : Env) (o : AudioSessionOrchestrator) : Event → List Bytes
  | .opusFrameEncoded opusFrame => [opusFrame]
  | .wakeWordDetected _ preRoll | .bargeInTimeout preRoll _ =>
    (o.preRollEncoder.encodeFrames env (Blocks.cut kPcmFrameBytes preRoll).1).2.filterMap EncoderSignal.packet
  | _ => []

/-- The last stream started is this one, and nothing after its start ends it. -/
def LastStarted (fs : List WireFrame) (streamId : String) : Prop :=
  ∃ before after, fs = before ++ .text (.audioStreamStartIn streamId) :: after ∧ streamControls after = []

/-- Each binary frame that the step sends goes out after the start of the last stream started and before its end. It
decodes to the prefix of that stream, whose id is a UUID, and to the payload that was encoded in its place. -/
def Attributed (env : Env) (u : Uploads) (e : Event) : Prop :=
  ∀ fs data gs, handed env u.orchestrator e = fs ++ .binary data :: gs →
    ∃ streamId payload, LastStarted (u.log ++ fs) streamId ∧ QUuid.isNull (QUuid.fromString streamId) = false ∧
      streamId ≠ "" ∧ (encodedPayloads env u.orchestrator e)[(binaryFrames fs).length]? = some payload ∧
      BinaryCodec.decodeBinaryFrame data = ⟨BinaryCodec.streamIdToPrefix streamId, payload⟩

/-- While Streaming, the active stream is the last one started, under a UUID that was drawn for it. -/
def Uploads.Active (env : Env) (u : Uploads) : Prop :=
  u.orchestrator.state = .streaming →
    LastStarted u.log u.orchestrator.activeStreamId ∧ ∃ n, u.orchestrator.activeStreamId = env.createUuid n

/-! ## Frames -/

/-- The stream started last remains so over frames that start and end none. -/
theorem LastStarted.append {fs : List WireFrame} {streamId : String} (h : LastStarted fs streamId) {gs : List WireFrame}
    (hgs : streamControls gs = []) : LastStarted (fs ++ gs) streamId := by
  obtain ⟨before, after, rfl, hafter⟩ := h
  exact ⟨before, after ++ gs, by simp, by rw [streamControls_append, hafter, hgs]; rfl⟩

/-- After the frames that open a stream, that stream is the last one started. -/
theorem lastStarted_opening (env : Env) (fs : List WireFrame) (first : OutboundMessage) (streamId : String)
    (enc : PairionOpusEncoder) (preRoll : Bytes) :
    LastStarted (fs ++ ([.text first, .text (.audioStreamStartIn streamId)] ++ preRollFrames env streamId enc preRoll))
      streamId :=
  ⟨fs ++ [.text first], preRollFrames env streamId enc preRoll, by simp, streamControls_preRollFrames _ _ _ _⟩

/-- A frame among the frames of packets is the frame of the packet in its place. -/
theorem packetFrames_split {streamId : String} {signals : List EncoderSignal} {fs gs : List WireFrame} {data : Bytes}
    (h : packetFrames streamId signals = fs ++ .binary data :: gs) :
    streamControls fs = [] ∧ ∃ payload, (signals.filterMap EncoderSignal.packet)[(binaryFrames fs).length]? = some payload ∧
      data = BinaryCodec.encodeBinaryFrame streamId payload := by
  obtain ⟨ps, qs, hsplit, hps, hqs⟩ := List.map_eq_append_iff.1 h
  obtain ⟨payload, rest, rfl, hdata, -⟩ := List.map_eq_cons_iff.1 hqs
  subst hps
  have hbinary : (binaryFrames (ps.map fun packet => .binary (BinaryCodec.encodeBinaryFrame streamId packet))).length =
      ps.length := by
    simp [binaryFrames]
  refine ⟨by simp [streamControls, streamControl], payload, ?_, (WireFrame.binary.inj hdata).symm⟩
  rw [hsplit, hbinary, List.getElem?_append_right (Nat.le_refl _), Nat.sub_self]
  rfl

/-- A move that opens a stream encodes the pre-roll buffer of its event. -/
theorem encodedPayloads_of_openStream {env : Env} {o : AudioSessionOrchestrator} {e : Event} {first : OutboundMessage}
    {preRoll : Bytes} (h : move env o e = .openStream first preRoll) :
    encodedPayloads env o e =
      (o.preRollEncoder.encodeFrames env (Blocks.cut kPcmFrameBytes preRoll).1).2.filterMap EncoderSignal.packet := by
  cases e <;> simp only [move] at h <;> repeat' split at h
  all_goals cases h
  all_goals rfl

/-- A move that sends one frame sends what the encoder has emitted. -/
theorem encodedPayloads_of_sendFrame {env : Env} {o : AudioSessionOrchestrator} {e : Event} {opusFrame : Bytes}
    (h : move env o e = .sendFrame opusFrame) : encodedPayloads env o e = [opusFrame] := by
  cases e <;> simp only [move] at h <;> repeat' split at h
  all_goals cases h
  all_goals rfl

/-! ## One step, and a run -/

/-- Every event keeps the id of the stream that was started last, as long as the session streams. -/
theorem active_step (env : Env) {u : Uploads} (h : u.Active env) (e : Event) : (u.step env e).Active env := by
  intro hs'
  obtain ⟨hstate, -, -, hid, -⟩ := step_spec env u.orchestrator e
  have hid := hid hs'
  have hs' : (step env u.orchestrator e).state = .streaming := hs'
  have hsource := move_source env u.orchestrator e
  show LastStarted (u.log ++ handed env u.orchestrator e) (step env u.orchestrator e).activeStreamId ∧
    ∃ n, (step env u.orchestrator e).activeStreamId = env.createUuid n
  rw [handed_eq, hid]
  rw [hstate] at hs'
  cases hm : move env u.orchestrator e with rw [hm] at hs' hsource
  | openStream first preRoll => exact ⟨lastStarted_opening env u.log first _ _ preRoll, u.orchestrator.uuids, rfl⟩
  | sendFrame opusFrame =>
    obtain ⟨hlast, hdrawn⟩ := h hsource
    exact ⟨hlast.append rfl, hdrawn⟩
  | stay =>
    obtain ⟨hlast, hdrawn⟩ := h hs'
    exact ⟨hlast.append rfl, hdrawn⟩
  | endStream reason playback => cases playback <;> cases hs'
  | listen => cases hs'
  | playBack => cases hs'
  | finish => cases hs'
  | park => cases hs'

/-- The binary frames of a step carry the prefix of the stream that is open. -/
theorem attributed_step (env : Env) (hvalid : ∀ n, QUuid.isNull (QUuid.fromString (env.createUuid n)) = false)
    {u : Uploads} (h : u.Active env) (e : Event) : Attributed env u e := by
  intro fs data gs hsplit
  have hne {streamId : String} (hs : QUuid.isNull (QUuid.fromString streamId) = false) : streamId ≠ "" := by
    rintro rfl
    exact absurd hs (by decide)
  have hsource := move_source env u.orchestrator e
  rw [handed_eq] at hsplit
  cases hm : move env u.orchestrator e with rw [hm] at hsplit hsource
  | openStream first preRoll =>
    obtain _ | ⟨f, _ | ⟨g, fs⟩⟩ := fs
    · cases hsplit
    · cases hsplit
    · simp only [Move.frames, openingFrames, List.cons_append, List.nil_append, List.cons.injEq] at hsplit
      obtain ⟨rfl, rfl, hsplit⟩ := hsplit
      obtain ⟨hcontrols, payload, hpayload, rfl⟩ := packetFrames_split hsplit
      refine ⟨env.createUuid u.orchestrator.uuids, payload, ?_, hvalid _, hne (hvalid _), ?_,
        BinaryCodec.decodeBinaryFrame_encodeBinaryFrame _ _⟩
      · exact ⟨u.log ++ [.text first], fs, by simp, hcontrols⟩
      · rw [encodedPayloads_of_openStream hm]
        exact hpayload
  | sendFrame opusFrame =>
    obtain ⟨hlast, n, hdrawn⟩ := h hsource
    have hid : QUuid.isNull (QUuid.fromString u.orchestrator.activeStreamId) = false := by
      rw [hdrawn]
      exact hvalid n
    obtain _ | ⟨f, fs⟩ := fs
    · simp only [Move.frames, List.nil_append, List.cons.injEq, WireFrame.binary.injEq] at hsplit
      obtain ⟨rfl, -⟩ := hsplit
      refine ⟨u.orchestrator.activeStreamId, opusFrame, hlast.append rfl, hid, hne hid, ?_,
        BinaryCodec.decodeBinaryFrame_encodeBinaryFrame _ _⟩
      rw [encodedPayloads_of_sendFrame hm]
      rfl
    · simp [Move.frames] at hsplit
  | endStream reason playback =>
    have hmem : .binary data ∈ closingFrames u.orchestrator.activeStreamId reason := by
      rw [show closingFrames _ _ = _ from hsplit]
      exact List.mem_append_right _ List.mem_cons_self
    simp [closingFrames] at hmem
  | _ => simp [Move.frames] at hsplit

/-- In a run from the construction of the orchestrator on, with UUIDs that are valid, each binary frame is sent after the
start of the last stream started and before its end, and decodes to the prefix of that stream and the payload encoded. -/
theorem binary_frames_attributed (env : Env) (hvalid : ∀ n, QUuid.isNull (QUuid.fromString (env.createUuid n)) = false)
    (vad : SileroVad) (wsClient : PairionWebSocketClient) (connState : ConnectionState) (es : List Event) :
    EveryStep (Uploads.step env) (Attributed env) ⟨create vad wsClient connState, []⟩ es := by
  exact everyStep_of_inv (Uploads.Active env) (fun u e h => active_step env h e)
    (fun u e h => attributed_step env hvalid h e) es nofun

/-- A live frame of an utterance that a wake word opened. -/
theorem binary_frames_attributed_utterance :
    EveryStep (Uploads.step .silence) (Attributed .silence) ⟨create {} { socket := .connected } {}, []⟩
      [.startListening, .wakeWordDetected (9 / 10) [], .opusFrameEncoded [1, 2, 3], .speechEnded] := by
  refine binary_frames_attributed .silence ?_ {} { socket := .connected } {} _
  rintro (_ | _ | _ | n)
  · decide
  · decide
  · decide
  · show QUuid.isNull (QUuid.fromString "9a1de644-815e-46d1-bb8f-aa1837f8a88b") = false
    decide

end AudioSessionOrchestrator

end PairionClient
