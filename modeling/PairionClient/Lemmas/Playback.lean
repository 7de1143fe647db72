import PairionClient.Audio.Playback
import PairionClient.Lib.Run

/-!
# What a step of the playback does

A step queues PCM or clears the queue, then runs the write loop or does not. `step_spec` says what that leaves in the jitter
buffer, on the device and in the speaking state; the properties of runs are read off it.
-/

namespace PairionClient

namespace PairionAudioPlayback

/-- The PCM that a step queues. -/
def queues (env : Env) (p : PairionAudioPlayback) : Event → List Bytes
  | .handlePcmFrame _ pcm _ => [pcm]
  | .handleOpusFrame _ opusFrame _ =>
    match (p.decoder.decodeOpusFrame env opusFrame).2 with
    | .pcmFrameDecoded pcm => [pcm]
    | .decoderError _ => []
  | _ => []

/-- What the device answers to the writes of a step, when the step writes from the queue. -/
def answers (env : Env) (p : PairionAudioPlayback) (e : Event) : Option (List Nat) :=
  if p.audioDevice = false then none
  else
    match e with
    | .handlePcmFrame _ _ accepts => some accepts
    | .handleOpusFrame _ _ accepts => if queues env p e = [] then none else some accepts
    | .drainTick accepts => if p.drainTimer then some accepts else none
    | _ => none

/-- The step closes the playback: a stop, or the end of a stream for a reason that is not "normal". -/
def Event.closes : Event → Bool
  | .stop => true
  | .handleStreamEnd reason => reason ≠ "normal"
  | _ => false

/-- The step opens the playback again. -/
def Event.opens : Event → Bool
  | .start _ | .preparePlayback _ _ => true
  | _ => false

/-- The step makes the playback silent: a stop, the end of a stream, or the silence timer. -/
def Event.silences (p : PairionAudioPlayback) : Event → Bool
  | .stop | .handleStreamEnd _ => true
  | .silenceTimeout now => p.silenceTimer.any (· ≤ now)
  | _ => false

/-- What waits to be written in a step. -/
def waiting (env : Env) (p : PairionAudioPlayback) (e : Event) : List Bytes :=
  if e.closes then [] else p.jitterBuffer ++ queues env p e

/-- What the step leaves of it, and the bytes accepted. -/
def writes (env : Env) (p : PairionAudioPlayback) (e : Event) : List Bytes × Bytes :=
  match answers env p e with
  | some accepts => writeLoop (waiting env p e) accepts
  | none => (waiting env p e, [])

/-- The PCM bytes among what the device has accepted. -/
def pcmBytes (output : List DeviceWrite) : Bytes :=
  output.flatMap fun
    | .warmup _ => []
    | .pcm data => data

/-- What a step leaves. -/
structure StepSpec (env : Env) (p p' : PairionAudioPlayback) (e : Event) : Prop where
  jitterBuffer : p'.jitterBuffer = (writes env p e).1
  written : pcmBytes p'.output = pcmBytes p.output ++ (writes env p e).2
  audioDevice : e.opens = false → p'.audioDevice = (p.audioDevice && !e.closes)
  isSpeaking : p'.isSpeaking = (queues env p e ≠ [] || (p.isSpeaking && !e.silences p))

/-! ## The operations -/

theorem pcmBytes_append (out out' : List DeviceWrite) : pcmBytes (out ++ out') = pcmBytes out ++ pcmBytes out' :=
  List.flatMap_append

/-- A flush moves what the device accepts from the jitter buffer to the output, and nothing without a device. -/
theorem flush_eq (accepts : List Nat) (p : PairionAudioPlayback) :
    (p.flush accepts).jitterBuffer = (if p.audioDevice then (writeLoop p.jitterBuffer accepts).1 else p.jitterBuffer) ∧
      pcmBytes (p.flush accepts).output =
        pcmBytes p.output ++ (if p.audioDevice then (writeLoop p.jitterBuffer accepts).2 else []) ∧
      (p.flush accepts).audioDevice = p.audioDevice ∧ (p.flush accepts).isSpeaking = p.isSpeaking := by
  unfold flush
  cases hd : p.audioDevice with
  | false => simp [hd]
  | true =>
    refine ⟨rfl, ?_, rfl, rfl⟩
    by_cases h : (writeLoop p.jitterBuffer accepts).2 = []
    · simp [h]
    · simp [h, pcmBytes]

/-- Going idle stops the speaking and changes nothing else. -/
theorem goIdle_eq (p : PairionAudioPlayback) : p.goIdle.1 = { p with isSpeaking := false } := by
  unfold goIdle
  split
  · rfl
  · rename_i h
    have hs : p.isSpeaking = false := by simpa using h
    rw [← hs]

/-- A start opens the device and moves no audio. -/
theorem start_eq (opened : Bool) (p : PairionAudioPlayback) :
    (p.start opened).jitterBuffer = p.jitterBuffer ∧ (p.start opened).output = p.output ∧
      (p.start opened).isSpeaking = p.isSpeaking := by
  unfold start
  split <;> exact ⟨rfl, rfl, rfl⟩

/-- The warm-up writes zeros, which are no bytes of a reply. -/
theorem preparePlayback_eq (opened : Bool) (accepts : List Nat) (p : PairionAudioPlayback) :
    (p.preparePlayback opened accepts).jitterBuffer = p.jitterBuffer ∧
      pcmBytes (p.preparePlayback opened accepts).output = pcmBytes p.output ∧
      (p.preparePlayback opened accepts).isSpeaking = p.isSpeaking := by
  obtain ⟨hbuffer, hout, hspeaking⟩ := start_eq opened p
  unfold preparePlayback
  dsimp only
  split
  · refine ⟨hbuffer, ?_, hspeaking⟩
    rw [pcmBytes_append, hout]
    simp [pcmBytes]
  · exact ⟨hbuffer, by rw [hout], hspeaking⟩

/-! ## A step -/

/-- A frame of PCM is put behind what is waiting, and what is waiting is then flushed. -/
theorem stepSpec_handlePcmFrame (env : Env) (now : Nat) (pcm : Bytes) (accepts : List Nat) (p : PairionAudioPlayback) :
    StepSpec env p (p.handlePcmFrame now pcm accepts).1 (.handlePcmFrame now pcm accepts) := by
  obtain ⟨hbuffer, hout, hdevice, hspeaking⟩ := flush_eq accepts
    { p with jitterBuffer := p.jitterBuffer ++ [pcm], isSpeaking := true, silenceTimer := some (now + 500) }
  refine ⟨?_, ?_, fun _ => ?_, ?_⟩
  · rw [handlePcmFrame, hbuffer]
    cases hd : p.audioDevice <;> simp [writes, answers, waiting, queues, Event.closes, hd]
  · rw [handlePcmFrame, hout]
    cases hd : p.audioDevice <;> simp [writes, answers, waiting, queues, Event.closes, hd]
  · rw [handlePcmFrame, hdevice]
    simp [Event.closes]
  · rw [handlePcmFrame, hspeaking]
    simp [queues]

/-- What a step moves from the buffer to the device. -/
theorem step_spec (env : Env) (p : PairionAudioPlayback) (e : Event) : StepSpec env p (p.step env e) e := by
  cases e with
  | start opened =>
    obtain ⟨hbuffer, hout, hspeaking⟩ := start_eq opened p
    refine ⟨?_, ?_, nofun, ?_⟩
    · simp [step, hbuffer, writes, answers, waiting, queues, Event.closes]
    · simp [step, hout, writes, answers]
    · simp [step, hspeaking, queues, Event.silences]
  | preparePlayback opened accepts =>
    obtain ⟨hbuffer, hout, hspeaking⟩ := preparePlayback_eq opened accepts p
    refine ⟨?_, ?_, nofun, ?_⟩
    · simp [step, hbuffer, writes, answers, waiting, queues, Event.closes]
    · simp [step, hout, writes, answers]
    · simp [step, hspeaking, queues, Event.silences]
  | stop =>
    simp only [step, stop, goIdle_eq]
    exact ⟨by simp [writes, answers, waiting, Event.closes], by simp [writes, answers], fun _ => by simp [Event.closes],
      by simp [queues, Event.silences]⟩
  | handlePcmFrame now pcm accepts => exact stepSpec_handlePcmFrame env now pcm accepts p
  | handleOpusFrame now opusFrame accepts =>
    rw [step, handleOpusFrame]
    cases hdec : p.decoder.decodeOpusFrame env opusFrame with
    | mk decoder signal =>
      cases signal with
      | pcmFrameDecoded pcm =>
        obtain ⟨hbuffer, hout, hdevice, hspeaking⟩ :=
          stepSpec_handlePcmFrame env now pcm accepts { p with decoder := decoder }
        have hsame : queues env p (.handleOpusFrame now opusFrame accepts) = [pcm] := by simp [queues, hdec]
        refine ⟨?_, ?_, ?_, ?_⟩
        · rw [hbuffer]
          simp [writes, answers, waiting, hsame, Event.closes]
          simp [queues]
        · rw [hout]
          simp [writes, answers, waiting, hsame, Event.closes]
          simp [queues]
        · exact hdevice
        · rw [hspeaking, hsame]
          simp [queues]
      | decoderError reason =>
        have hnone : queues env p (.handleOpusFrame now opusFrame accepts) = [] := by simp [queues, hdec]
        have hanswers : answers env p (.handleOpusFrame now opusFrame accepts) = none := by
          unfold answers
          split
          · rfl
          · rfl
        refine ⟨?_, ?_, fun _ => ?_, ?_⟩
        · simp [writes, hanswers, waiting, hnone, Event.closes]
        · simp [writes, hanswers]
        · simp [Event.closes]
        · simp [hnone, Event.silences]
  | handleStreamEnd reason =>
    by_cases hr : reason = "normal"
    · subst hr
      have hanswers : answers env p (.handleStreamEnd "normal") = none := by
        unfold answers
        split <;> rfl
      simp only [step, handleStreamEnd, goIdle_eq, ne_eq, not_true, if_false]
      split
      · exact ⟨by simp [writes, hanswers, waiting, queues, Event.closes], by simp [writes, hanswers],
          fun _ => by simp [Event.closes], by simp [queues, Event.silences]⟩
      · simp only [goIdle_eq]
        exact ⟨by simp [writes, hanswers, waiting, queues, Event.closes], by simp [writes, hanswers],
          fun _ => by simp [Event.closes], by simp [queues, Event.silences]⟩
    · have hanswers : answers env p (.handleStreamEnd reason) = none := by
        unfold answers
        split <;> rfl
      simp only [step, handleStreamEnd, goIdle_eq, ne_eq, hr, not_false_eq_true, if_true]
      exact ⟨by simp [writes, hanswers, waiting, Event.closes, hr], by simp [writes, hanswers],
        fun _ => by simp [Event.closes, hr], by simp [queues, Event.silences]⟩
  | silenceTimeout now =>
    have hanswers : answers env p (.silenceTimeout now) = none := by
      unfold answers
      split <;> rfl
    rw [step]
    split
    · rename_i hdue
      simp only [silenceTimeout, goIdle_eq]
      exact ⟨by simp [writes, hanswers, waiting, queues, Event.closes], by simp [writes, hanswers],
        fun _ => by simp [Event.closes], by simp [queues, Event.silences, hdue]⟩
    · rename_i hdue
      have hdue' : p.silenceTimer.any (· ≤ now) = false := by simpa using hdue
      exact ⟨by simp [writes, hanswers, waiting, queues, Event.closes], by simp [writes, hanswers],
        fun _ => by simp [Event.closes], by simp [queues, Event.silences, hdue']⟩
  | drainTick accepts =>
    obtain ⟨hbuffer, hout, hdevice, hspeaking⟩ := flush_eq accepts p
    rw [step, drainTick]
    cases ht : p.drainTimer with
    | false =>
      have hanswers : answers env p (.drainTick accepts) = none := by
        unfold answers
        split <;> simp [ht]
      exact ⟨by simp [writes, hanswers, waiting, queues, Event.closes], by simp [writes, hanswers],
        fun _ => by simp [Event.closes], by simp [queues, Event.silences]⟩
    | true =>
      have hwrites : writes env p (.drainTick accepts) =
          if p.audioDevice then writeLoop p.jitterBuffer accepts else (p.jitterBuffer, []) := by
        cases hd : p.audioDevice <;> simp [writes, answers, hd, ht, waiting, queues, Event.closes]
      have hflush : StepSpec env p (p.flush accepts) (.drainTick accepts) := by
        refine ⟨?_, ?_, fun _ => ?_, ?_⟩
        · rw [hbuffer, hwrites]
          split <;> rfl
        · rw [hout, hwrites]
          split <;> rfl
        · simp [hdevice, Event.closes]
        · simp [hspeaking, queues, Event.silences]
      simp only [if_true]
      split
      · exact ⟨hflush.jitterBuffer, hflush.written, hflush.audioDevice, hflush.isSpeaking⟩
      · exact hflush

end PairionAudioPlayback

end PairionClient
