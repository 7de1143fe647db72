import PairionClient.Lemmas.Moves
import PairionClient.Main.Session

/-!
# The session and the orchestrator

Each step of the session is, for the orchestrator in it, a run of the orchestrator's own events: what holds over all its
runs holds in the session. Then what a binary frame does.
-/

namespace PairionClient

open Transition

namespace PairionAudioPlayback

@[simp] theorem isSpeaking_flush (accepts : List Nat) (p : PairionAudioPlayback) :
    (p.flush accepts).isSpeaking = p.isSpeaking := by
  unfold flush
  split <;> rfl

@[simp] theorem isSpeaking_goIdle (p : PairionAudioPlayback) : p.goIdle.1.isSpeaking = false := by
  unfold goIdle
  split
  · rfl
  · rename_i h
    exact Bool.eq_false_iff.2 h

/-- The warm-up does not speak. -/
theorem isSpeaking_preparePlayback (opened : Bool) (accepts : List Nat) (p : PairionAudioPlayback) :
    (p.preparePlayback opened accepts).isSpeaking = p.isSpeaking := by
  unfold preparePlayback start
  dsimp only
  repeat' split
  all_goals rfl

/-- At the end of a stream nothing speaks any more. -/
theorem isSpeaking_handleStreamEnd (reason : String) (p : PairionAudioPlayback) :
    (p.handleStreamEnd reason).1.isSpeaking = false := by
  unfold handleStreamEnd
  dsimp only
  repeat' split
  all_goals exact isSpeaking_goIdle _

/-- The drain timer does not change who speaks. -/
theorem isSpeaking_drainTick (accepts : List Nat) (p : PairionAudioPlayback) :
    (p.drainTick accepts).isSpeaking = p.isSpeaking := by
  unfold drainTick
  dsimp only
  repeat' split
  all_goals simp

/-- An Opus frame that decodes makes the playback speak, and a silent playback says so; one that does not decode changes
only the decoder. -/
theorem handleOpusFrame_spec (env : Env) (now : Nat) (opusFrame : Bytes) (accepts : List Nat) (p : PairionAudioPlayback) :
    ((p.handleOpusFrame env now opusFrame accepts).1.isSpeaking = true ∧
        (p.handleOpusFrame env now opusFrame accepts).2 = if p.isSpeaking then [] else [.speakingStateChanged "speaking"]) ∨
      ((p.handleOpusFrame env now opusFrame accepts).1.isSpeaking = p.isSpeaking ∧
        ∃ reason, (p.handleOpusFrame env now opusFrame accepts).2 = [.playbackError reason]) := by
  unfold handleOpusFrame
  rcases p.decoder.decodeOpusFrame env opusFrame with ⟨decoder, pcm | reason⟩
  · exact .inl ⟨by simp [handlePcmFrame], rfl⟩
  · exact .inr ⟨rfl, reason, rfl⟩

/-- What a decoder that takes the frame does. -/
theorem handleOpusFrame_ok (env : Env) (now : Nat) {opusFrame : Bytes} (accepts : List Nat) {p : PairionAudioPlayback}
    {pcm : Bytes} (hne : opusFrame ≠ []) (hdec : env.opusDecode p.decoder.history opusFrame = .ok pcm) :
    (p.handleOpusFrame env now opusFrame accepts).2 = if p.isSpeaking then [] else [.speakingStateChanged "speaking"] := by
  simp [handleOpusFrame, PairionOpusDecoder.decodeOpusFrame, hne, hdec, handlePcmFrame]

end PairionAudioPlayback

namespace Session

/-! ## The orchestrator of a session -/

/-- What the orchestrator makes of the playback's signals is a run of its own events. -/
theorem foldl_onPlaybackSignal (env : Env) (signals : List PlaybackSignal) (o : AudioSessionOrchestrator) :
    ∃ es, signals.foldl onPlaybackSignal o = run (AudioSessionOrchestrator.step env) o es := by
  induction signals generalizing o with
  | nil => exact ⟨[], rfl⟩
  | cons signal signals ih =>
    cases signal with
    | playbackError message => exact ih o
    | speakingStateChanged state =>
      obtain ⟨es, hes⟩ := ih (o.onSpeakingStateChanged state)
      exact ⟨.speakingStateChanged state :: es, hes⟩

/-- A step of the session is a run of its orchestrator. -/
theorem orchestrator_step (env : Env) (s : Session) (e : Event) :
    ∃ es, (step env s e).orchestrator = run (AudioSessionOrchestrator.step env) s.orchestrator es := by
  cases e with
  | client e =>
    rw [step]
    split
    · exact ⟨[e], rfl⟩
    · exact ⟨[], rfl⟩
  | bargeInTimeout preRoll => exact ⟨[.bargeInTimeout preRoll s.playback.isSpeaking], rfl⟩
  | audioStreamStartOut streamId opened accepts => exact ⟨[.inboundAudioStreamStart streamId], rfl⟩
  | binaryFrame frame accepts =>
    rw [step, onInboundAudio]
    split
    · exact ⟨[], rfl⟩
    · exact foldl_onPlaybackSignal env _ _
  | audioStreamEndOut streamId reason => exact foldl_onPlaybackSignal env _ _
  | silenceTimeout =>
    rw [step]
    split
    · exact foldl_onPlaybackSignal env _ _
    · exact ⟨[], rfl⟩
  | drainTick accepts => exact ⟨[], rfl⟩

/-- A run of the session is a run of its orchestrator. -/
theorem orchestrator_run (env : Env) (s : Session) (es : List Event) :
    ∃ ds, (run (step env) s es).orchestrator = run (AudioSessionOrchestrator.step env) s.orchestrator ds :=
  run_simulates Session.orchestrator (orchestrator_step env) s es

end Session

end PairionClient
