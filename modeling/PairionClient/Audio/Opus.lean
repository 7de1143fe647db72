import PairionClient.Core.Constants

/-!
# The Opus codec objects

`audio/pairion_opus_encoder.cpp` and `audio/pairion_opus_decoder.cpp` around libopus, which is the parameter `Env`. Each
call emits one signal: the result, or an error with the text the source gives it. libopus is taken to initialise (the
branches for a codec that could not be created are left out).
-/

namespace PairionClient

/-- What an encoder emits. -/
inductive EncoderSignal where
  | opusFrameEncoded (opusFrame : Bytes)
  | encoderError (reason : String)
  deriving DecidableEq, Repr

/-- `PairionOpusEncoder`: the PCM frames given to libopus so far. -/
structure PairionOpusEncoder where
  history : List Bytes := []
  deriving DecidableEq, Repr

namespace PairionOpusEncoder

/-- Encode a 20 ms PCM frame. -/
def encodePcmFrame (env : Env) (pcm20ms : Bytes) (enc : PairionOpusEncoder) : PairionOpusEncoder × EncoderSignal :=
  if pcm20ms.length ≠ kPcmFrameBytes then
    (enc, .encoderError ("Invalid PCM frame size: " ++ toString pcm20ms.length ++ " (expected " ++
      toString kPcmFrameBytes ++ ")"))
  else
    let enc' : PairionOpusEncoder := { history := enc.history ++ [pcm20ms] }
    match env.opusEncode enc.history pcm20ms with
    | .ok packet => (enc', .opusFrameEncoded packet)
    | .error what => (enc', .encoderError ("Opus encode error: " ++ what))

/-- Encode frames in order: the encoder after them, and what it emitted on each. -/
def encodeFrames (env : Env) : List Bytes → PairionOpusEncoder → PairionOpusEncoder × List EncoderSignal
  | [], enc => (enc, [])
  | frame :: frames, enc =>
    let r := enc.encodePcmFrame env frame
    let rest := encodeFrames env frames r.1
    (rest.1, r.2 :: rest.2)

theorem encodeFrames_append (env : Env) (fs gs : List Bytes) (enc : PairionOpusEncoder) :
    enc.encodeFrames env (fs ++ gs) =
      (((enc.encodeFrames env fs).1.encodeFrames env gs).1,
        (enc.encodeFrames env fs).2 ++ ((enc.encodeFrames env fs).1.encodeFrames env gs).2) := by
  induction fs generalizing enc with
  | nil => rfl
  | cons f fs ih => simp [encodeFrames, ih]

/-- Each frame gives one signal, a packet or an error. -/
theorem length_encodeFrames (env : Env) (fs : List Bytes) (enc : PairionOpusEncoder) :
    (enc.encodeFrames env fs).2.length = fs.length := by
  induction fs generalizing enc with
  | nil => rfl
  | cons f fs ih => simp [encodeFrames, ih]

/-- A frame of the right size goes to libopus, whatever comes of it. -/
theorem encodePcmFrame_fst (env : Env) {pcm20ms : Bytes} (h : pcm20ms.length = kPcmFrameBytes) (enc : PairionOpusEncoder) :
    (enc.encodePcmFrame env pcm20ms).1 = { history := enc.history ++ [pcm20ms] } := by
  rw [encodePcmFrame, if_neg (not_not.2 h)]
  dsimp only
  split <;> rfl

/-- The encoder remembers every frame of 20 ms that it is given. -/
theorem encodeFrames_fst (env : Env) {fs : List Bytes} (h : ∀ f ∈ fs, f.length = kPcmFrameBytes) (enc : PairionOpusEncoder) :
    (enc.encodeFrames env fs).1 = { history := enc.history ++ fs } := by
  induction fs generalizing enc with
  | nil => simp [encodeFrames]
  | cons f fs ih =>
    rw [encodeFrames, ih fun g hg => h g (List.mem_cons_of_mem f hg), encodePcmFrame_fst env (h f List.mem_cons_self)]
    simp

end PairionOpusEncoder

/-- The packet of an encoder's signal. -/
def EncoderSignal.packet : EncoderSignal → Option Bytes
  | .opusFrameEncoded opusFrame => some opusFrame
  | .encoderError _ => none

/-- What a decoder emits. -/
inductive DecoderSignal where
  | pcmFrameDecoded (pcm : Bytes)
  | decoderError (reason : String)
  deriving DecidableEq, Repr

/-- `PairionOpusDecoder`: the packets given to libopus so far. -/
structure PairionOpusDecoder where
  history : List Bytes := []
  deriving DecidableEq, Repr

namespace PairionOpusDecoder

/-- Decode an Opus frame. -/
def decodeOpusFrame (env : Env) (opusFrame : Bytes) (dec : PairionOpusDecoder) : PairionOpusDecoder × DecoderSignal :=
  if opusFrame = [] then (dec, .decoderError "Empty Opus frame")
  else
    let dec' : PairionOpusDecoder := { history := dec.history ++ [opusFrame] }
    match env.opusDecode dec.history opusFrame with
    | .ok pcm => (dec', .pcmFrameDecoded pcm)
    | .error what => (dec', .decoderError ("Opus decode error: " ++ what))

end PairionOpusDecoder

end PairionClient
