import PairionClient.Lemmas.Session

namespace PairionClient

open Transition

namespace Session

/-! ## Frames of an interrupted stream -/

/-- The event is a binary frame with the prefix of a stream. -/
def FrameOf (streamId : String) : Event → Prop
  | .binaryFrame frame _ => (BinaryCodec.decodeBinaryFrame frame).pfx = BinaryCodec.streamIdToPrefix streamId
  | _ => False

/-- A message that closes a stream. -/
def closes (streamId : String) : WireFrame → Bool
  | .text (.speechEnded id) => id = streamId
  | .text (.audioStreamEnd id _) => id = streamId
  | _ => false

/-- The event neither makes the orchestrator leave Streaming nor closes the stream on the wire. -/
def Harmless (env : Env) (streamId : String) (s : Session) (e : Event) : Prop :=
  (s.orchestrator.state = .streaming → (step env s e).orchestrator.state = .streaming) ∧
    (step env s e).orchestrator.wsClient.sent.countP (closes streamId) =
      s.orchestrator.wsClient.sent.countP (closes streamId)

/-- A frame with a payload arrives while the orchestrator is Streaming and the playback is silent: the playback starts to
speak, and that ends the stream. -/
def Interrupts (s : Session) : Event → Prop
  | .binaryFrame frame _ =>
    s.orchestrator.state = .streaming ∧ s.playback.isSpeaking = false ∧ (BinaryCodec.decodeBinaryFrame frame).payload ≠ []
  | _ => False

/-- The decoder turns each payload that is not empty into PCM that is not empty. -/
def Decodes (env : Env) : Prop :=
  ∀ history payload, payload ≠ [] → ∃ pcm, pcm ≠ [] ∧ env.opusDecode history payload = .ok pcm

/-- A frame reaches the orchestrator only as the start of speaking: with a payload, and while the playback is silent. -/
theorem orchestrator_binaryFrame {env : Env} (hdec : Decodes env) (s : Session) (frame : Bytes) (accepts : List Nat) :
    (step env s (.binaryFrame frame accepts)).orchestrator =
      if (BinaryCodec.decodeBinaryFrame frame).payload = [] ∨ s.playback.isSpeaking = true then s.orchestrator
      else s.orchestrator.onSpeakingStateChanged "speaking" := by
  rw [step, onInboundAudio]
  split
  · rename_i h
    rw [if_pos (.inl h)]
  · rename_i h
    obtain ⟨pcm, -, hok⟩ := hdec s.playback.decoder.history _ h
    rw [afterPlayback, PairionAudioPlayback.handleOpusFrame_ok env _ accepts h hok]
    cases hs : s.playback.isSpeaking <;> simp [h, onPlaybackSignal]

/-- The start of playback is harmless outside Streaming, and leaves Streaming. -/
theorem onSpeakingStateChanged_speaking (env : Env) (o : AudioSessionOrchestrator) :
    (o.state = .streaming → (o.onSpeakingStateChanged "speaking").state ≠ .streaming) ∧
      (o.state ≠ .streaming → (o.onSpeakingStateChanged "speaking").wsClient.sent = o.wsClient.sent) := by
  have hspec := AudioSessionOrchestrator.step_spec env o (.speakingStateChanged "speaking")
  have hslot : o.onSpeakingStateChanged "speaking" = o.step env (.speakingStateChanged "speaking") := rfl
  rw [hslot, hspec.state, hspec.sent]
  cases hs : o.state <;>
    simp [AudioSessionOrchestrator.move, hs, AudioSessionOrchestrator.Move.target, AudioSessionOrchestrator.Move.frames]

/-- A late frame is harmless exactly when it does not interrupt. -/
theorem harmless_iff {env : Env} (hdec : Decodes env) (streamId : String) (s : Session) {e : Event} {X : String}
    (he : FrameOf X e) : Harmless env streamId s e ↔ ¬Interrupts s e := by
  cases e with
  | binaryFrame frame accepts =>
    obtain ⟨hleaves, hsends⟩ := onSpeakingStateChanged_speaking env s.orchestrator
    simp only [Harmless, Interrupts, orchestrator_binaryFrame hdec]
    by_cases hquiet : (BinaryCodec.decodeBinaryFrame frame).payload = [] ∨ s.playback.isSpeaking = true
    · rw [if_pos hquiet]
      refine iff_of_true ⟨id, rfl⟩ ?_
      rintro ⟨-, hsilent, hpayload⟩
      rcases hquiet with h | h
      · exact hpayload h
      · rw [hsilent] at h
        cases h
    · rw [if_neg hquiet]
      rw [not_or, Bool.not_eq_true] at hquiet
      by_cases hs : s.orchestrator.state = .streaming
      · exact iff_of_false (fun h => hleaves hs (h.1 hs)) (not_not.2 ⟨hs, hquiet.2, hquiet.1⟩)
      · exact iff_of_true ⟨fun h => absurd h hs, by rw [hsends hs]⟩ (fun h => hs h.1)
  | _ => exact he.elim

/-- While nothing leaves Streaming, a silent playback stays silent: what makes it speak ends the stream. -/
theorem isSpeaking_step (env : Env) {s : Session} {e : Event} (hs : s.orchestrator.state = .streaming)
    (hq : s.playback.isSpeaking = false) (hs' : (step env s e).orchestrator.state = .streaming) :
    (step env s e).playback.isSpeaking = false := by
  cases e with
  | client e =>
    rw [step]
    split <;> exact hq
  | bargeInTimeout preRoll =>
    have hne : ¬(AudioSessionOrchestrator.due s.orchestrator.bargeInTimer s.orchestrator.now = true ∧
        s.orchestrator.state = .playingBack) := by simp [hs]
    rw [step, onBargeInTimeout]
    simpa [hne] using hq
  | audioStreamStartOut streamId opened accepts =>
    exact (PairionAudioPlayback.isSpeaking_preparePlayback opened accepts _).trans hq
  | binaryFrame frame accepts =>
    rw [step, onInboundAudio] at hs' ⊢
    split at hs'
    · rename_i h
      rwa [if_pos h]
    · rename_i h
      rw [if_neg h]
      rcases PairionAudioPlayback.handleOpusFrame_spec env s.orchestrator.now
        (BinaryCodec.decodeBinaryFrame frame).payload accepts s.playback with ⟨-, hsignals⟩ | ⟨hspeaking, -⟩
      · rw [afterPlayback, hsignals, hq] at hs'
        exact absurd hs' ((onSpeakingStateChanged_speaking env s.orchestrator).1 hs)
      · exact hspeaking.trans hq
  | audioStreamEndOut streamId reason => exact PairionAudioPlayback.isSpeaking_handleStreamEnd reason _
  | silenceTimeout =>
    rw [step]
    split
    · exact PairionAudioPlayback.isSpeaking_goIdle _
    · exact hq
  | drainTick accepts => exact (PairionAudioPlayback.isSpeaking_drainTick accepts _).trans hq

/-- What a barge-in leaves: Streaming, and a silent playback. -/
theorem bargeIn_spec (env : Env) (preRoll : Bytes) {s : Session} (hs : s.orchestrator.state = .playingBack)
    (htimer : AudioSessionOrchestrator.due s.orchestrator.bargeInTimer s.orchestrator.now = true) :
    (step env s (.bargeInTimeout preRoll)).orchestrator.state = .streaming ∧
      (step env s (.bargeInTimeout preRoll)).playback.isSpeaking = false := by
  constructor
  · rw [step, onBargeInTimeout, (AudioSessionOrchestrator.step_spec env s.orchestrator _).state]
    simp [AudioSessionOrchestrator.move, hs, htimer, AudioSessionOrchestrator.Move.target]
  · rw [step, onBargeInTimeout]
    simp [hs, htimer, PairionAudioPlayback.stop]

/-- After a barge-in that interrupts the inbound stream X and opens the stream S, whatever happens then (until the server
starts another inbound stream, and after it): the frames of X that still arrive are harmless to S exactly when none of
them has a payload while the orchestrator is Streaming and the playback silent; and the playback is silent for as long as
the orchestrator stays in Streaming. -/
theorem late_frames_harmless_iff (env : Env) (hdec : Decodes env) (s : Session) (preRoll : Bytes)
    (hs : s.orchestrator.state = .playingBack)
    (htimer : AudioSessionOrchestrator.due s.orchestrator.bargeInTimer s.orchestrator.now = true) (es : List Event) :
    (EveryStep (step env)
          (fun t e => FrameOf s.orchestrator.inboundStreamId e →
            Harmless env (step env s (.bargeInTimeout preRoll)).orchestrator.activeStreamId t e)
          (step env s (.bargeInTimeout preRoll)) es ↔
        EveryStep (step env) (fun t e => FrameOf s.orchestrator.inboundStreamId e → ¬Interrupts t e)
          (step env s (.bargeInTimeout preRoll)) es) ∧
      (Always (step env) (fun t => t.orchestrator.state = .streaming) (step env s (.bargeInTimeout preRoll)) es →
        Always (step env) (fun t => t.playback.isSpeaking = false) (step env s (.bargeInTimeout preRoll)) es) := by
  obtain ⟨hstreaming, hsilent⟩ := bargeIn_spec env preRoll hs htimer
  constructor
  · refine everyStep_congr (fun t e => forall_congr' fun he => ?_) _ es
    exact harmless_iff hdec (step env s (.bargeInTimeout preRoll)).orchestrator.activeStreamId t he
  · generalize step env s (.bargeInTimeout preRoll) = t at hstreaming hsilent
    induction es generalizing t with
    | nil => exact fun _ => (always_nil t).2 hsilent
    | cons e es ih =>
      intro h
      obtain ⟨-, hrest⟩ := (always_cons t e es).1 h
      have hstreaming' := hrest [] List.nil_prefix
      exact (always_cons t e es).2 ⟨hsilent, ih _ hstreaming' (isSpeaking_step env hstreaming hsilent hstreaming') hrest⟩

/-- A client that is listening to the inbound stream c9bf9e57-1685-4c89-bafb-ff5af830be8a while somebody has been speaking
for 400 ms. -/
def interrupted : Session :=
  run (step .silence) ⟨.create {} { socket := .connected } {}, .create true⟩
    [.client .startListening, .audioStreamStartOut "c9bf9e57-1685-4c89-bafb-ff5af830be8a" true [],
      .binaryFrame [0xc9, 0xbf, 0x9e, 0x57, 0xf8, 0xff, 0xfe] [], .client .speechStarted, .client (.timePasses 400)]

/-- The silent decoder gives PCM for every payload. -/
theorem decodes_silence : Decodes .silence := fun _ _ _ =>
  ⟨List.replicate 1920 0, fun h => absurd ((List.replicate_eq_nil_iff _).1 h) (by omega), rfl⟩

/-- A late frame without a payload comes while the orchestrator is Streaming, and one with a payload once the speaker has
finished: the playback speaks again, and the stream is closed already. -/
theorem late_frames_harmless_iff_finished :
    let started := step .silence interrupted (.bargeInTimeout [])
    let es : List Event := [.binaryFrame [0xc9, 0xbf, 0x9e, 0x57] [], .client .speechEnded,
      .binaryFrame [0xc9, 0xbf, 0x9e, 0x57, 0xf8, 0xff, 0xfe] [1920]]
    EveryStep (step .silence)
        (fun t e => FrameOf interrupted.orchestrator.inboundStreamId e →
          Harmless .silence started.orchestrator.activeStreamId t e) started es ∧
      (run (step .silence) started es).playback.isSpeaking = true := by
  intro started es
  have hiff := late_frames_harmless_iff .silence decodes_silence interrupted [] (by decide) (by decide)
  refine ⟨(hiff es).1.2 ⟨fun _ => ?_, fun h => h.elim, fun _ => ?_, trivial⟩, by decide +kernel⟩
  · rintro ⟨-, -, hpayload⟩
    exact hpayload (by decide)
  · rintro ⟨hstreaming, -⟩
    exact absurd hstreaming (by decide)

/-- A late frame with a payload: the playback speaks again, and the stream of the interruption is closed. -/
theorem late_frames_harmless_false :
    ¬∀ (env : Env), Decodes env → ∀ (s : Session) (preRoll : Bytes), s.orchestrator.state = .playingBack →
      AudioSessionOrchestrator.due s.orchestrator.bargeInTimer s.orchestrator.now = true →
        ∀ es : List Event, (∀ e ∈ es, ∀ streamId opened accepts, e ≠ .audioStreamStartOut streamId opened accepts) →
          EveryStep (step env)
            (fun t e => FrameOf s.orchestrator.inboundStreamId e →
              Harmless env (step env s (.bargeInTimeout preRoll)).orchestrator.activeStreamId t e)
            (step env s (.bargeInTimeout preRoll)) es := by
  intro h
  have hframe := (h .silence decodes_silence interrupted [] (by decide) (by decide)
    [.binaryFrame [0xc9, 0xbf, 0x9e, 0x57, 0xf8, 0xff, 0xfe] []] (by simp)).1
  have hstays := (hframe (by simp only [FrameOf]; decide)).1 (by decide)
  exact absurd hstays (by decide)

end Session

end PairionClient
