import PairionClient.Lemmas.Moves

namespace PairionClient

open Transition

namespace AudioSessionOrchestrator

open PairionWebSocketClient

/-! ## Upload streams on the wire -/

/-- The messages that open and close a stream. -/
inductive StreamControl where
  | start (streamId : String)
  | speechEnded (streamId : String)
  | streamEnd (streamId : String)
  deriving DecidableEq, Repr

/-- The stream control in a frame. -/
def streamControl : WireFrame → Option StreamControl
  | .text (.audioStreamStart streamId _ _) => some (.start streamId)
  | .text (.speechEnded streamId) => some (.speechEnded streamId)
  | .text (.audioStreamEnd streamId _) => some (.streamEnd streamId)
  | _ => none

/-- The stream controls among the frames sent, in order. -/
def streamControls (fs : List WireFrame) : List StreamControl := fs.filterMap streamControl

/-- The controls of streams opened and closed one after the other. -/
def closedStreams (ids : List String) : List StreamControl :=
  ids.flatMap fun id => [.start id, .speechEnded id, .streamEnd id]

/-- The start of the active stream, while Streaming. -/
def openStreams (s : PipelineState) (activeStreamId : String) : List StreamControl :=
  if s = .streaming then [.start activeStreamId] else []

/-- After what was sent before, `base`, the wire holds the controls of streams opened and closed one after the other, and
while Streaming the start of the active stream. -/
def StreamsClosed (base : List StreamControl) (o : AudioSessionOrchestrator) : Prop :=
  ∃ ids, streamControls o.wsClient.sent = base ++ closedStreams ids ++ openStreams o.state o.activeStreamId

/-- An event that leaves the connection up. -/
def Event.keepsConnection : Event → Bool
  | .wsDisconnected | .socketStateChanged _ => false
  | _ => true

theorem streamControls_append (fs gs : List WireFrame) :
    streamControls (fs ++ gs) = streamControls fs ++ streamControls gs := List.filterMap_append

/-- The pre-roll holds no control. -/
theorem streamControls_preRollFrames (env : Env) (streamId : String) (enc : PairionOpusEncoder) (preRoll : Bytes) :
    streamControls (preRollFrames env streamId enc preRoll) = [] := by
  simp [streamControls, preRollFrames, packetFrames, streamControl]

theorem closedStreams_append (ids ids' : List String) :
    closedStreams (ids ++ ids') = closedStreams ids ++ closedStreams ids' := List.flatMap_append

/-- A closed stream has three controls. -/
theorem length_closedStreams (ids : List String) : (closedStreams ids).length = 3 * ids.length := by
  induction ids with
  | nil => rfl
  | cons id ids ih =>
    simp only [closedStreams, List.flatMap_cons, List.length_append, List.length_cons, List.length_nil] at ih ⊢
    omega

/-- The controls that a move sends. -/
def Move.controls (env : Env) (o : AudioSessionOrchestrator) : Move → List StreamControl
  | .openStream _ _ => [.start (env.createUuid o.uuids)]
  | .endStream _ _ => [.speechEnded o.activeStreamId, .streamEnd o.activeStreamId]
  | _ => []

/-- The stream that a move closes. -/
def Move.closes (o : AudioSessionOrchestrator) : Move → List String
  | .endStream _ _ => [o.activeStreamId]
  | _ => []

/-- The controls of a move are a start, or a closing, or both. -/
theorem streamControls_frames (env : Env) {o : AudioSessionOrchestrator} {m : Move} (h : m.Source o.state) :
    streamControls (m.frames env o) = m.controls env o := by
  cases m with
  | openStream first preRoll =>
    rw [Move.frames, openingFrames, streamControls_append, streamControls_preRollFrames, List.append_nil]
    cases first with
    | wakeWordDetected timestamp confidence => rfl
    | bargeIn interrupted => rfl
    | _ => exact h.elim
  | _ => rfl

/-- A move that does not park the orchestrator in Streaming: what is open before it and what it sends is the stream it
closes, if any, and what is open after it. -/
theorem controls_move (env : Env) {o : AudioSessionOrchestrator} {m : Move} (h : m.Source o.state)
    (hpark : m = .park → o.state ≠ .streaming) :
    openStreams o.state o.activeStreamId ++ m.controls env o =
      closedStreams (m.closes o) ++ openStreams (m.target o.state) (m.activeStreamId env o) := by
  cases m with
  | stay => exact List.append_nil _
  | sendFrame opusFrame => exact List.append_nil _
  | listen =>
    have hs : o.state = .idle := h
    rw [hs]
    rfl
  | openStream first preRoll =>
    have hs : o.state ≠ .streaming := by
      cases first with
      | wakeWordDetected timestamp confidence => rw [show o.state = _ from h]; decide
      | bargeIn interrupted => rw [show o.state = _ from h]; decide
      | _ => exact h.elim
    simp [openStreams, hs, Move.controls, closedStreams, Move.closes, Move.target, Move.activeStreamId]
  | endStream reason playback =>
    have hs : o.state = .streaming := h
    rw [hs]
    cases playback <;> rfl
  | playBack => rcases h with hs | hs <;> rw [hs] <;> rfl
  | finish =>
    have hs : o.state = .playingBack := h
    rw [hs]
    rfl
  | park => simp [openStreams, hpark rfl, Move.controls, closedStreams, Move.closes, Move.target]

/-- What holds while no stream is left open: the connection is up, and the streams are closed. -/
def StreamsInv (base : List StreamControl) (o : AudioSessionOrchestrator) : Prop :=
  o.wsClient.isConnected = true ∧ StreamsClosed base o

/-- A step that parks the orchestrator in Streaming: it leaves the stream without its closing messages. -/
def AbandonsStream (o : AudioSessionOrchestrator) (e : Event) : Prop := o.state = .streaming ∧ e.parks = true

/-- On a kept connection, a step that abandons no stream keeps every stream but the active one closed. -/
theorem streamsInv_step (env : Env) {base : List StreamControl} {o : AudioSessionOrchestrator} {e : Event}
    (he : e.keepsConnection = true) (h : StreamsInv base o) (hclose : ¬AbandonsStream o e) :
    StreamsInv base (step env o e) := by
  obtain ⟨hc, ids, hids⟩ := h
  have hsource := move_source env o e
  obtain ⟨hstate, hsocket, hsent, hid, -⟩ := step_spec env o e
  have hsame : socketAfter o.wsClient.socket e = o.wsClient.socket := by
    cases e with
    | socketStateChanged socket => cases he
    | _ => rfl
  refine ⟨by rw [isConnected, hsocket, hsame]; exact hc, ?_⟩
  have hmove : move env o e = .park → o.state ≠ .streaming := fun hm hs =>
    hclose ⟨hs, (move_eq_park_iff env o e).1 hm⟩
  have hopen : openStreams (step env o e).state (step env o e).activeStreamId =
      openStreams ((move env o e).target o.state) ((move env o e).activeStreamId env o) := by
    rw [openStreams, openStreams, ← hstate]
    split
    · rw [hid ‹_›]
    · rfl
  refine ⟨ids ++ (move env o e).closes o, ?_⟩
  rw [hsent, sent_puts hc, streamControls_append, streamControls_frames env hsource, hids, hopen, List.append_assoc,
    controls_move env hsource hmove, closedStreams_append]
  simp only [List.append_assoc]

/-- A step that abandons a stream leaves it open on the wire. -/
theorem not_streamsClosed_step (env : Env) {base : List StreamControl} {o : AudioSessionOrchestrator} {e : Event}
    (h : StreamsInv base o) (hleft : AbandonsStream o e) : ¬StreamsClosed base (step env o e) := by
  obtain ⟨-, ids, hids⟩ := h
  obtain ⟨hs, hpark⟩ := hleft
  have hm := (move_eq_park_iff env o e).2 hpark
  obtain ⟨hstate, -, hsent, -, -⟩ := step_spec env o e
  rw [hm] at hstate hsent
  rintro ⟨ids', hids'⟩
  -- the start of the abandoned stream is one control too many
  rw [hsent, show Move.frames env o .park = [] from rfl, puts_nil, hids, hstate, hs] at hids'
  have hlen := congrArg List.length hids'
  simp only [openStreams, Move.target, if_true, List.length_append, length_closedStreams, List.length_cons,
    List.length_nil, reduceCtorEq, if_false] at hlen
  omega

/-- On a connection that stays up, each stream is opened once and closed once, in order and before the next one, and is
closed when the orchestrator is not Streaming, in every state of a run, exactly when no step of the run goes to Idle from
Streaming. -/
theorem streams_closed_iff (env : Env) (vad : SileroVad) (wsClient : PairionWebSocketClient) (connState : ConnectionState)
    (es : List Event) (hc : wsClient.isConnected = true) (hes : ∀ e ∈ es, e.keepsConnection = true) :
    Always (step env) (StreamsClosed (streamControls wsClient.sent)) (create vad wsClient connState) es ↔
      EveryStep (step env) (fun o e => ¬AbandonsStream o e) (create vad wsClient connState) es := by
  refine always_iff_everyStep (fun e => e.keepsConnection = true) (StreamsInv (streamControls wsClient.sent))
    (fun _ h => h.2) ?_ ?_ hes ⟨hc, [], ?_⟩
  · exact fun o e he hinv hclose => streamsInv_step env he hinv hclose
  · exact fun o e _ hinv hleft => not_streamsClosed_step env hinv (not_not.1 hleft)
  · simp [create, closedStreams, openStreams]

/-- An utterance that is heard and ended on a connected client. -/
theorem streams_closed_iff_utterance :
    Always (step .silence) (StreamsClosed []) (create {} { socket := .connected } {})
      [.startListening, .wakeWordDetected (9 / 10) [], .speechEnded] := by
  refine (streams_closed_iff .silence {} { socket := .connected } {} _ rfl (by decide)).2 ⟨?_, ?_, ?_, trivial⟩
  · rintro ⟨-, h⟩
    cases h
  · rintro ⟨-, h⟩
    cases h
  · rintro ⟨-, h⟩
    cases h

/-- The microphone fails while an utterance is streamed: the stream stays open on the server. -/
theorem streams_closed_false :
    ¬∀ (env : Env) (vad : SileroVad) (wsClient : PairionWebSocketClient) (connState : ConnectionState) (es : List Event),
      wsClient.isConnected = true → (∀ e ∈ es, e.keepsConnection = true) →
        Always (step env) (StreamsClosed (streamControls wsClient.sent)) (create vad wsClient connState) es := by
  intro h
  obtain ⟨ids, hids⟩ := h .silence {} { socket := .connected } {}
    [.startListening, .wakeWordDetected (9 / 10) [], .captureError "Failed to start audio source"] rfl (by decide) _
    (List.prefix_refl _)
  have hlen := congrArg List.length hids
  rw [List.length_append, List.length_append, length_closedStreams] at hlen
  have hone : 1 = 0 + 3 * ids.length + 0 := hlen
  omega

end AudioSessionOrchestrator

end PairionClient
