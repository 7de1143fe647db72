import Mathlib.Data.Rat.Defs

/-!
# Constants and the environment

The constants of `core/constants.h` that the modelled code reads, and the parameters that stand for code outside the
repository: Qt's clock text and UUIDs, libopus, and the rounding of 32-bit floats. A byte array is a list of bytes; instants
and durations are milliseconds; probabilities and thresholds, which the code only stores and compares, are rationals.
-/

namespace PairionClient

/-- A `QByteArray`. -/
abbrev Bytes : Type := List UInt8

/-- PCM frame size in bytes (20 ms at 16 kHz, mono, 16-bit). -/
def kPcmFrameBytes : Nat := 640

/-- Pre-roll buffer size in bytes (about 200 ms). -/
def kPreRollBytes : Nat := 6400

/-- Streaming timeout in milliseconds. -/
def kStreamingTimeoutMs : Nat := 30000

/-- False-wake suppression window in milliseconds. -/
def kWakeSuppressionMs : Nat := 500

/-- VAD speech probability threshold during TTS playback. -/
def kBargeInVadThreshold : ℚ := 7 / 10

/-- Minimum sustained speech duration (ms) required to confirm a barge-in. -/
def kBargeInMinDurationMs : Nat := 400

/-- What the code takes from Qt, libopus and the machine. A codec's hidden state is the list of what it was given before.
-/
structure Env where
  /-- The text of the `n`-th UUID of the run, `QUuid::createUuid().toString(QUuid::WithoutBraces)`. -/
  createUuid : Nat → String
  /-- The text of an instant, `toString(Qt::ISODateWithMs)`. -/
  isoDateWithMs : Nat → String
  /-- `opus_encode` on a PCM frame after the frames given before: a packet, or the text of the error. -/
  opusEncode : List Bytes → Bytes → Except String Bytes
  /-- `opus_decode` on a packet after the packets given before: PCM, or the text of the error. -/
  opusDecode : List Bytes → Bytes → Except String Bytes
  /-- Rounding to a 32-bit float. -/
  toFloat32 : ℚ → ℚ

/-- An environment for runs on silence: packets and decoded frames are those of 20 ms of it, and the UUIDs are fixed. -/
def Env.silence : Env where
  createUuid n := ["6f9619ff-8b86-4d01-b42d-00cf4fc964ff", "16fd2706-8baf-433b-82eb-8c7fada847da",
    "c9bf9e57-1685-4c89-bafb-ff5af830be8a"].getD n "9a1de644-815e-46d1-bb8f-aa1837f8a88b"
  isoDateWithMs _ := "2026-01-01T00:00:00.000Z"
  opusEncode _ _ := .ok [0xf8, 0xff, 0xfe]
  opusDecode _ _ := .ok (List.replicate 1920 0)
  toFloat32 q := q

/-- A little-endian signed 16-bit sample. -/
def int16 (lo hi : UInt8) : Int :=
  let n : Int := lo.toNat + 256 * hi.toNat
  if n < 32768 then n else n - 65536

/-- The samples of a PCM byte array, read as `int16_t`; a last odd byte is not read. -/
def pcmSamples : Bytes → List Int
  | lo :: hi :: rest => int16 lo hi :: pcmSamples rest
  | _ => []

end PairionClient
