import Mathlib.Data.List.DropRight
import PairionClient.Lemmas.Dispatch

/-!
# The dispatch as a fold

Each part of the connection state that the frames write is a function of the messages of its own types. The response is what was
streamed since the agent last began to think, the transcripts and the agent state are the last of their type, and the map, the
background, the overlays and the scene data depend on their own messages alone. A frame that is no message is seen in the recent
logs, where the callback of the logger puts its warning.
-/

namespace PairionClient

open Transition

namespace InboundMessage

def thinking : InboundMessage → Bool
  | .agentStateChange state => state = "thinking"
  | _ => false

/-- What a message adds to the response. -/
def delta : InboundMessage → Option String
  | .llmTokenStream delta => some delta
  | _ => none

def partialText : InboundMessage → Option String
  | .transcriptPartial text => some text
  | _ => none

def finalText : InboundMessage → Option String
  | .transcriptFinal text => some text
  | _ => none

def state : InboundMessage → Option String
  | .agentStateChange state => some state
  | _ => none

/-- The deltas received after the last change to "thinking". -/
def deltasSinceThinking (msgs : List InboundMessage) : List String :=
  (msgs.rtakeWhile fun m => !m.thinking).filterMap delta

/-- What the last message of its type holds. -/
def last (read : InboundMessage → Option String) (msgs : List InboundMessage) : String :=
  (msgs.filterMap read).getLast?.getD ""

variable {msgs : List InboundMessage} {m : InboundMessage}

theorem last_concat (read : InboundMessage → Option String) :
    last read (msgs ++ [m]) = (read m).getD (last read msgs) := by
  rw [last, List.filterMap_append]
  cases hread : read m with
  | none => simp [last, hread]
  | some text => simp [hread]

theorem deltasSinceThinking_concat :
    deltasSinceThinking (msgs ++ [m]) =
      if m.thinking then [] else deltasSinceThinking msgs ++ m.delta.toList := by
  rw [deltasSinceThinking, List.rtakeWhile_concat]
  cases hthinking : m.thinking with
  | true => simp
  | false => cases hdelta : m.delta <;> simp [deltasSinceThinking, hdelta]

end InboundMessage

namespace ConnectionProperties

/-! ## The parts of the store -/

def mapFocus (c : ConnectionProperties) : Bool × ℚ × ℚ × String × String :=
  (c.mapFocusActive, c.mapFocusLat, c.mapFocusLon, c.mapFocusLabel, c.mapFocusZoom)

def background (c : ConnectionProperties) : String × QJsonObject × String :=
  (c.activeBackgroundId, c.backgroundParams, c.sceneTransition)

def overlays (c : ConnectionProperties) : List String × QVariantMap QJsonObject := (c.activeOverlayIds, c.overlayParams)

/-- The texts are those of the messages so far. -/
structure Follows (msgs : List InboundMessage) (c : ConnectionProperties) : Prop where
  llmResponse : c.llmResponse = String.join (InboundMessage.deltasSinceThinking msgs)
  transcriptPartial : c.transcriptPartial = InboundMessage.last InboundMessage.partialText msgs
  transcriptFinal : c.transcriptFinal = InboundMessage.last InboundMessage.finalText msgs
  agentState : c.agentState = InboundMessage.last InboundMessage.state msgs

/-- A new store follows no messages. -/
theorem follows_create : Follows [] {} := ⟨rfl, rfl, rfl, rfl⟩

variable {msgs : List InboundMessage} {c : ConnectionProperties}

/-- The recent logs are no part of it. -/
theorem Follows.logs (h : Follows msgs c) (logs : List String) : Follows msgs { c with recentLogs := logs } :=
  ⟨h.llmResponse, h.transcriptPartial, h.transcriptFinal, h.agentState⟩

/-- A message clears the response when the agent thinks, and adds its delta. -/
theorem llmResponse_effect (m : InboundMessage) (c : ConnectionProperties) :
    (m.effect c).llmResponse = if m.thinking then "" else c.llmResponse ++ m.delta.getD "" := by
  cases m with
  | agentStateChange state =>
    simp [InboundMessage.effect, InboundMessage.thinking, InboundMessage.delta]
  | _ => simp [InboundMessage.effect, InboundMessage.thinking, InboundMessage.delta]

/-- The effect of a message keeps the store following. -/
theorem Follows.effect (h : Follows msgs c) (m : InboundMessage) : Follows (msgs ++ [m]) (m.effect c) where
  llmResponse := by
    rw [llmResponse_effect, InboundMessage.deltasSinceThinking_concat]
    cases m.thinking with
    | true => rfl
    | false =>
      rw [if_neg Bool.false_ne_true, if_neg Bool.false_ne_true, h.llmResponse]
      cases m.delta with
      | none => simp
      | some delta => simp
  transcriptPartial := by
    rw [InboundMessage.last_concat, ← h.transcriptPartial]
    cases m <;> rfl
  transcriptFinal := by
    rw [InboundMessage.last_concat, ← h.transcriptFinal]
    cases m <;> rfl
  agentState := by
    rw [InboundMessage.last_concat, ← h.agentState]
    cases m <;> rfl

end ConnectionProperties

namespace PairionWebSocketClient

variable {fromJson : Bytes → Except String QJsonDocument} {quote : String → String}

/-- The messages of the frames that are messages. -/
def received (fromJson : Bytes → Except String QJsonDocument) (frames : List TextFrame) : List InboundMessage :=
  frames.filterMap fun frame => EnvelopeCodec.deserializeFromString fromJson frame.message

/-- The messages of these types. -/
def ofTypes (fromJson : Bytes → Except String QJsonDocument) (types : List InboundType) (frames : List TextFrame) :
    List InboundMessage :=
  (received fromJson frames).filter fun m => m.alternative ∈ types

variable {frames : List TextFrame} {frame : TextFrame}

/-- A frame that is no message is not received. -/
theorem received_concat_of_none (h : EnvelopeCodec.deserializeFromString fromJson frame.message = none) :
    received fromJson (frames ++ [frame]) = received fromJson frames := by
  simp [received, h]

/-- A frame that is a message is received last. -/
theorem received_concat_of_some {msg : InboundMessage}
    (h : EnvelopeCodec.deserializeFromString fromJson frame.message = some msg) :
    received fromJson (frames ++ [frame]) = received fromJson frames ++ [msg] := by
  simp [received, h]

/-- The texts after a run. -/
theorem follows_run (frames : List TextFrame) :
    ConnectionProperties.Follows (received fromJson frames) (run (dispatch fromJson quote) {} frames) := by
  refine run_history (fun frames => ConnectionProperties.Follows (received fromJson frames))
    ConnectionProperties.follows_create (fun frames c frame h => ?_) frames
  cases hmsg : EnvelopeCodec.deserializeFromString fromJson frame.message with
  | none =>
    rw [received_concat_of_none hmsg, dispatch_of_none hmsg, logged_eq]
    exact h.logs _
  | some msg =>
    obtain ⟨logs, heq⟩ := dispatch_of_some quote c hmsg
    rw [received_concat_of_some hmsg, heq]
    exact (h.logs logs).effect msg

/-- A part that the line of the log and the messages of other types leave depends on the messages of its own types. -/
theorem part_depends {τ : Type} (part : ConnectionProperties → τ) {types : List InboundType}
    (hlogs : ∀ c logs, part { c with recentLogs := logs } = part c)
    (hown : ∀ (m : InboundMessage) c c', m.alternative ∈ types → part c = part c' → part (m.effect c) = part (m.effect c'))
    (hother : ∀ (m : InboundMessage) c, m.alternative ∉ types → part (m.effect c) = part c) {frames frames' : List TextFrame}
    (h : ofTypes fromJson types frames = ofTypes fromJson types frames') :
    part (run (dispatch fromJson quote) {} frames) = part (run (dispatch fromJson quote) {} frames') := by
  rw [ofTypes, ofTypes, received, received, List.filter_filterMap, List.filter_filterMap] at h
  refine run_depends (fun frame : TextFrame =>
    (EnvelopeCodec.deserializeFromString fromJson frame.message).filter fun m => m.alternative ∈ types) part ?_ ?_ h rfl
  · intro c c' frame frame' hsome hsame heq
    obtain ⟨m, hm⟩ := Option.isSome_iff_exists.1 hsome
    obtain ⟨hmsg, htype⟩ := Option.filter_eq_some_iff.1 hm
    obtain ⟨hmsg', -⟩ := Option.filter_eq_some_iff.1 (hsame.symm.trans hm)
    obtain ⟨logs, hstep⟩ := dispatch_of_some quote c hmsg
    obtain ⟨logs', hstep'⟩ := dispatch_of_some quote c' hmsg'
    rw [hstep, hstep']
    exact hown m _ _ (of_decide_eq_true htype) ((hlogs c logs).trans (heq.trans (hlogs c' logs').symm))
  · intro c frame hnone
    cases hmsg : EnvelopeCodec.deserializeFromString fromJson frame.message with
    | none => rw [dispatch_of_none hmsg, logged_eq, hlogs]
    | some m =>
      rw [hmsg] at hnone
      obtain ⟨logs, hstep⟩ := dispatch_of_some quote c hmsg
      exact (congrArg part hstep).trans ((hother m _ (by simpa using hnone)).trans (hlogs c logs))

/-! ## The theorem -/

/-- The focus of the map depends on the messages of the map only. -/
theorem mapFocus_depends {frames frames' : List TextFrame}
    (h : ofTypes fromJson [.mapFocus, .mapClear] frames = ofTypes fromJson [.mapFocus, .mapClear] frames') :
    (run (dispatch fromJson quote) {} frames).mapFocus = (run (dispatch fromJson quote) {} frames').mapFocus := by
  refine part_depends ConnectionProperties.mapFocus (fun _ _ => rfl) (fun m c c' htype heq => ?_) (fun m c htype => ?_) h
  · cases m with
    | mapFocus lat lon label zoom => rfl
    | mapClear => exact congrArg (fun focus => (false, focus.2)) heq
    | _ => simp [InboundMessage.alternative] at htype
  · cases m with
    | mapFocus lat lon label zoom => simp [InboundMessage.alternative] at htype
    | mapClear => simp [InboundMessage.alternative] at htype
    | _ => rfl

/-- The background depends on the messages about backgrounds only. -/
theorem background_depends {frames frames' : List TextFrame}
    (h : ofTypes fromJson [.backgroundChange] frames = ofTypes fromJson [.backgroundChange] frames') :
    (run (dispatch fromJson quote) {} frames).background = (run (dispatch fromJson quote) {} frames').background := by
  refine part_depends ConnectionProperties.background (fun _ _ => rfl) (fun m c c' htype heq => ?_) (fun m c htype => ?_) h
  · cases m with
    | backgroundChange backgroundId params transition => rfl
    | _ => simp [InboundMessage.alternative] at htype
  · cases m with
    | backgroundChange backgroundId params transition => simp [InboundMessage.alternative] at htype
    | _ => rfl

/-- The overlays depend on the messages about overlays only. -/
theorem overlays_depends {frames frames' : List TextFrame}
    (h : ofTypes fromJson [.overlayAdd, .overlayRemove, .overlayClear] frames =
      ofTypes fromJson [.overlayAdd, .overlayRemove, .overlayClear] frames') :
    (run (dispatch fromJson quote) {} frames).overlays = (run (dispatch fromJson quote) {} frames').overlays := by
  refine part_depends ConnectionProperties.overlays (fun _ _ => rfl) (fun m c c' htype heq => ?_) (fun m c htype => ?_) h
  · obtain ⟨hids, hparams⟩ := Prod.mk.injEq .. ▸ heq
    cases m with
    | overlayAdd overlayId params =>
      simp only [ConnectionProperties.overlays, InboundMessage.effect]
      rw [hids, hparams]
    | overlayRemove overlayId =>
      simp only [ConnectionProperties.overlays, InboundMessage.effect]
      rw [hids, hparams]
    | overlayClear =>
      simp only [ConnectionProperties.overlays, InboundMessage.effect]
      rw [hids, hparams]
    | _ => simp [InboundMessage.alternative] at htype
  · cases m with
    | overlayAdd overlayId params => simp [InboundMessage.alternative] at htype
    | overlayRemove overlayId => simp [InboundMessage.alternative] at htype
    | overlayClear => simp [InboundMessage.alternative] at htype
    | _ => rfl

/-- The scene data depend on the messages that push them only. -/
theorem sceneData_depends {frames frames' : List TextFrame}
    (h : ofTypes fromJson [.sceneDataPush] frames = ofTypes fromJson [.sceneDataPush] frames') :
    (run (dispatch fromJson quote) {} frames).sceneData = (run (dispatch fromJson quote) {} frames').sceneData := by
  refine part_depends (fun c => c.sceneData) (fun _ _ => rfl) (fun m c c' htype heq => ?_) (fun m c htype => ?_) h
  · cases m with
    | sceneDataPush modelId data => exact congrArg (fun entries => entries.insert modelId data) heq
    | _ => simp [InboundMessage.alternative] at htype
  · cases m with
    | sceneDataPush modelId data => simp [InboundMessage.alternative] at htype
    | _ => rfl

/-- After any frames, the response, the transcripts and the agent state are those of the messages received; the map, the
background, the overlays and the scene data are what any other frames with the same messages of their types would leave;
and a frame that is no message changes nothing but the recent logs, and these only where the logger's callback is
installed. -/
theorem dispatch_folds (fromJson : Bytes → Except String QJsonDocument) (quote : String → String) (frames : List TextFrame) :
    let after (frames : List TextFrame) : ConnectionProperties := run (dispatch fromJson quote) {} frames
    let msgs := received fromJson frames
    (after frames).llmResponse = String.join (InboundMessage.deltasSinceThinking msgs) ∧
      (after frames).transcriptPartial = InboundMessage.last InboundMessage.partialText msgs ∧
      (after frames).transcriptFinal = InboundMessage.last InboundMessage.finalText msgs ∧
      (after frames).agentState = InboundMessage.last InboundMessage.state msgs ∧
      (∀ frames', ofTypes fromJson [.mapFocus, .mapClear] frames = ofTypes fromJson [.mapFocus, .mapClear] frames' →
        (after frames).mapFocus = (after frames').mapFocus) ∧
      (∀ frames', ofTypes fromJson [.backgroundChange] frames = ofTypes fromJson [.backgroundChange] frames' →
        (after frames).background = (after frames').background) ∧
      (∀ frames', ofTypes fromJson [.overlayAdd, .overlayRemove, .overlayClear] frames =
          ofTypes fromJson [.overlayAdd, .overlayRemove, .overlayClear] frames' →
        (after frames).overlays = (after frames').overlays) ∧
      (∀ frames', ofTypes fromJson [.sceneDataPush] frames = ofTypes fromJson [.sceneDataPush] frames' →
        (after frames).sceneData = (after frames').sceneData) ∧
      ∀ frame, EnvelopeCodec.deserializeFromString fromJson frame.message = none →
        let c := after frames
        after (frames ++ [frame]) =
          { c with
            recentLogs := frame.timestamp.elim c.recentLogs fun timestamp =>
              (LogRecord.formatted { timestamp, level := "WARN", message := "Unknown or malformed message: " ++ quote frame.message }
                :: c.recentLogs).take 50 } := by
  intro after msgs
  have h : ConnectionProperties.Follows msgs (after frames) := follows_run frames
  refine ⟨h.llmResponse, h.transcriptPartial, h.transcriptFinal, h.agentState, fun _ => mapFocus_depends,
    fun _ => background_depends, fun _ => overlays_depends, fun _ => sceneData_depends, fun frame hnone => ?_⟩
  rw [show after (frames ++ [frame]) = dispatch fromJson quote (after frames) frame from run_concat _ _ _ _]
  rw [dispatch_of_none hnone, logged_eq]
  rfl

/-- In the program a frame that does not parse adds its warning to the recent logs. -/
theorem dispatch_folds_false :
    let fromJson (_ : Bytes) : Except String QJsonDocument := .error "illegal value"
    let quote (text : String) : String := "\"" ++ text ++ "\""
    let frame : TextFrame := { message := "hello", timestamp := some "12:00" }
    EnvelopeCodec.deserializeFromString fromJson frame.message = none ∧
      (dispatch fromJson quote {} frame).recentLogs ≠ ({} : ConnectionProperties).recentLogs := by
  refine ⟨rfl, ?_⟩
  rw [dispatch_of_none rfl, logged_eq]
  exact List.cons_ne_nil _ _

end PairionWebSocketClient

end PairionClient
