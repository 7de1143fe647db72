import PairionClient.Audio.Opus

/-!
# Playback

`audio/pairion_audio_playback.cpp`: decoded PCM goes through a jitter buffer to the audio device, and the engine reports
"speaking" when PCM arrives and "idle" when the stream ends or 500 ms pass without any. What the audio system answers is an
argument of each operation: whether a sink that is started opens its device, and how many bytes the device accepts at each
write, in order (none, once the answers are used up; an error of the device counts as none accepted).
-/

namespace PairionClient

/-- What playback emits. -/
inductive PlaybackSignal where
  | playbackError (message : String)
  | speakingStateChanged (state : String)
  deriving DecidableEq, Repr

/-- Bytes the audio device has accepted. -/
inductive DeviceWrite where
  | warmup (bytes : Nat)
  | pcm (data : Bytes)
  deriving DecidableEq, Repr

structure PairionAudioPlayback where
  decoder : PairionOpusDecoder := {}
  /-- `m_sink->state()` is `StoppedState`. -/
  sinkStopped : Bool
  /-- `m_audioDevice` is not null. -/
  audioDevice : Bool
  jitterBuffer : List Bytes := []
  /-- The instant at which `m_silenceTimer` expires, while it is active. -/
  silenceTimer : Option Nat := none
  /-- `m_drainTimer` is active. -/
  drainTimer : Bool := false
  isSpeaking : Bool := false
  output : List DeviceWrite := []
  deriving DecidableEq, Repr

namespace PairionAudioPlayback

/-- 50 ms of silence at 48 kHz. -/
def kWarmupBytes : Nat := 4800

/-- The constructor: the sink is started, with or without a device. -/
def create (opened : Bool) : PairionAudioPlayback := { sinkStopped := !opened, audioDevice := opened }

/-- The loop that writes the jitter buffer to the device until the device takes less than the head of it: what stays in
the buffer, and the bytes accepted. -/
def writeLoop : List Bytes → List Nat → List Bytes × Bytes
  | [], _ => ([], [])
  | head :: rest, accepts =>
    let written := min (accepts.headD 0) head.length
    if written = 0 then (head :: rest, [])
    else if written < head.length then (head.drop written :: rest, head.take written)
    else
      let r := writeLoop rest accepts.tail
      (r.1, head ++ r.2)

/-- Run the loop, if there is a device. -/
def flush (accepts : List Nat) (p : PairionAudioPlayback) : PairionAudioPlayback :=
  if p.audioDevice then
    let r := writeLoop p.jitterBuffer accepts
    { p with jitterBuffer := r.1, output := if r.2 = [] then p.output else p.output ++ [.pcm r.2] }
  else p

/-- `m_isSpeaking = false`, with its signal when it was true. -/
def goIdle (p : PairionAudioPlayback) : PairionAudioPlayback × List PlaybackSignal :=
  if p.isSpeaking then ({ p with isSpeaking := false }, [.speakingStateChanged "idle"]) else (p, [])

def start (opened : Bool) (p : PairionAudioPlayback) : PairionAudioPlayback :=
  if p.sinkStopped then { p with sinkStopped := !opened, audioDevice := opened } else p

/-- Restart a stopped sink and write the warm-up silence. -/
def preparePlayback (opened : Bool) (accepts : List Nat) (p : PairionAudioPlayback) : PairionAudioPlayback :=
  let p := p.start opened
  if p.audioDevice then { p with output := p.output ++ [.warmup (min (accepts.headD 0) kWarmupBytes)] } else p

def stop (p : PairionAudioPlayback) : PairionAudioPlayback × List PlaybackSignal :=
  goIdle { p with
    drainTimer := false, sinkStopped := true, audioDevice := false, jitterBuffer := [], silenceTimer := none }

/-- Queue PCM, report "speaking", restart the silence timer and write. -/
def handlePcmFrame (now : Nat) (pcm : Bytes) (accepts : List Nat) (p : PairionAudioPlayback) :
    PairionAudioPlayback × List PlaybackSignal :=
  let q := { p with jitterBuffer := p.jitterBuffer ++ [pcm], isSpeaking := true, silenceTimer := some (now + 500) }
  (q.flush accepts, if p.isSpeaking then [] else [.speakingStateChanged "speaking"])

/-- Decode an Opus frame and queue the PCM; the decoder's errors are playback errors. -/
def handleOpusFrame (env : Env) (now : Nat) (opusFrame : Bytes) (accepts : List Nat) (p : PairionAudioPlayback) :
    PairionAudioPlayback × List PlaybackSignal :=
  match p.decoder.decodeOpusFrame env opusFrame with
  | (decoder, .pcmFrameDecoded pcm) => handlePcmFrame now pcm accepts { p with decoder := decoder }
  | (decoder, .decoderError reason) => ({ p with decoder := decoder }, [.playbackError reason])

/-- The end of the inbound stream: a normal one leaves the rest of the buffer to the drain timer, any other discards it.
-/
def handleStreamEnd (reason : String) (p : PairionAudioPlayback) : PairionAudioPlayback × List PlaybackSignal :=
  let r := goIdle { p with silenceTimer := none }
  if reason ≠ "normal" then
    ({ r.1 with drainTimer := false, jitterBuffer := [], sinkStopped := true, audioDevice := false },
      r.2 ++ [.playbackError ("Stream ended with reason: " ++ reason)])
  else if r.1.jitterBuffer ≠ [] then ({ r.1 with drainTimer := true }, r.2)
  else r

/-- The silence timer expires. -/
def silenceTimeout (p : PairionAudioPlayback) : PairionAudioPlayback × List PlaybackSignal :=
  goIdle { p with silenceTimer := none }

/-- The drain timer ticks: write, and stop it once the buffer is empty. -/
def drainTick (accepts : List Nat) (p : PairionAudioPlayback) : PairionAudioPlayback :=
  if p.drainTimer then
    let p := p.flush accepts
    if p.jitterBuffer = [] then { p with drainTimer := false } else p
  else p

/-! ## Events -/

/-- The operations of the playback and the expiries of its timers. PCM comes from the decoder, or is handed over as it is.
-/
inductive Event where
  | start (opened : Bool)
  | preparePlayback (opened : Bool) (accepts : List Nat)
  | stop
  | handleOpusFrame (now : Nat) (opusFrame : Bytes) (accepts : List Nat)
  | handlePcmFrame (now : Nat) (pcm : Bytes) (accepts : List Nat)
  | handleStreamEnd (reason : String)
  | silenceTimeout (now : Nat)
  | drainTick (accepts : List Nat)
  deriving DecidableEq, Repr

def step (env : Env) (p : PairionAudioPlayback) : Event → PairionAudioPlayback
  | .start opened => p.start opened
  | .preparePlayback opened accepts => p.preparePlayback opened accepts
  | .stop => p.stop.1
  | .handleOpusFrame now opusFrame accepts => (p.handleOpusFrame env now opusFrame accepts).1
  | .handlePcmFrame now pcm accepts => (p.handlePcmFrame now pcm accepts).1
  | .handleStreamEnd reason => (p.handleStreamEnd reason).1
  | .silenceTimeout now => if p.silenceTimer.any (· ≤ now) then p.silenceTimeout.1 else p
  | .drainTick accepts => p.drainTick accepts

end PairionAudioPlayback

end PairionClient
