import PairionClient.Lib.Animation
import PairionClient.Overlays.WeatherRadarOverlay

/-!
# The radar overlay in time

`qml/Overlays/WeatherRadarOverlay.qml` with `frameAnim`, which shows the older frame and the latest one in turn for as long as
there are two. Where it stops the layers keep the opacities that they have.
-/

namespace PairionClient

open Animation

/-- The layers of tiles: that of the older frame, and that of the latest. -/
inductive RadarLayer where
  | opacityA
  | opacityB
  deriving DecidableEq, Repr

structure RadarAnimation where
  radar : WeatherRadarOverlay := {}
  opacity : RadarLayer → ℚ := fun
    | .opacityA => 7 / 10
    | .opacityB => 0
  /-- What is left of the pass, while the animation runs. -/
  frameAnim : Option (Anim RadarLayer) := none

namespace RadarAnimation

/-- One layer fades out while the other fades in. -/
def crossfade (hidden shown : RadarLayer) : Anim RadarLayer :=
  .parallel (.number hidden 0 200 .linear none) (.number shown (7 / 10) 200 .linear none)

/-- The children of `frameAnim`. -/
def pass : Anim RadarLayer :=
  .sequential (.action .opacityA fun _ => 7 / 10) <|
  .sequential (.action .opacityB fun _ => 0) <|
  .sequential (.pause 500) <|
  .sequential (crossfade .opacityA .opacityB) <|
  .sequential (.pause 1500) <|
  crossfade .opacityB .opacityA

/-- `running` of `frameAnim`. -/
def running (r : WeatherRadarOverlay) : Bool := r.dataLoaded && decide (2 ≤ r.frames.length)

/-- The data change, and the binding of `running` with them. -/
def update (radar : WeatherRadarOverlay) (s : RadarAnimation) : RadarAnimation :=
  if running radar then
    match s.frameAnim with
    | some _ => { s with radar := radar }
    | none =>
      let started := Anim.loop pass 0 pass s.opacity
      { radar := radar, opacity := started.2, frameAnim := some started.1 }
  else { s with radar := radar, frameAnim := none }

/-- A frame on the screen. -/
def advance (ms : ℕ) (s : RadarAnimation) : RadarAnimation :=
  match s.frameAnim with
  | none => s
  | some a =>
    let shown := Anim.loop pass ms a s.opacity
    { s with opacity := shown.2, frameAnim := some shown.1 }

/-- Another background or size, an answer to a request, or a frame. -/
inductive Event where
  | changed (i : RadarInputs)
  | response (i : RadarInputs) (r : RadarResponse)
  | frame (ms : ℕ)

noncomputable def step (s : RadarAnimation) : Event → RadarAnimation
  | .changed i => s.update (s.radar.onChanged i)
  | .response i r => s.update (s.radar.onResponse i r)
  | .frame ms => s.advance ms

/-- The frame that a layer draws. -/
def frameOf (s : RadarAnimation) : RadarLayer → Option RadarFrame
  | .opacityA => s.radar.frames[0]?
  | .opacityB => s.radar.frames[1]?

end RadarAnimation

end PairionClient
