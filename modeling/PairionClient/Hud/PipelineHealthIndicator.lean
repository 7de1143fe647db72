import PairionClient.Lib.Animation

/-!
# The indicator of the pipeline's health

`qml/HUD/PipelineHealthIndicator.qml`, what makes it visible: it fades out some time after the pipeline is ready, and comes back
when it is not. A `Behavior` animates what is written to the opacity.
-/

namespace PairionClient

open Animation

structure PipelineHealthIndicator where
  health : String
  opacity : Unit → ℚ := fun _ => 1
  /-- What is left of the animation of the `Behavior`, and the value that was last written. -/
  behavior : Option (Anim Unit) := none
  targetValue : ℚ := 1
  /-- The milliseconds until the timer is due, while it runs. -/
  fadeOutTimer : Option ℕ := none

namespace PipelineHealthIndicator

/-- A write that the `Behavior` intercepts. -/
def writeOpacity (value : ℚ) (s : PipelineHealthIndicator) : PipelineHealthIndicator :=
  if s.behavior.isSome ∧ s.targetValue = value then s
  else if s.opacity () = value then { s with behavior := none, targetValue := value }
  else { s with behavior := some (.number () value 800 .inOutQuad none), targetValue := value }

def onHealthChanged (s : PipelineHealthIndicator) : PipelineHealthIndicator :=
  if s.health = "ready" then { s with fadeOutTimer := some 3000 }
  else writeOpacity 1 { s with fadeOutTimer := none }

/-- The handler runs once when the component is made. -/
def create (health : String) : PipelineHealthIndicator := onHealthChanged { health := health }

/-- `onTriggered` of the timer. -/
def onTriggered (s : PipelineHealthIndicator) : PipelineHealthIndicator := writeOpacity 0 { s with fadeOutTimer := none }

/-- A frame on the screen, which the timer counts too. -/
def advance (ms : ℕ) (s : PipelineHealthIndicator) : PipelineHealthIndicator :=
  let s := { s with fadeOutTimer := s.fadeOutTimer.map (· - ms) }
  match s.behavior with
  | none => s
  | some a => { s with behavior := (a.advance ms s.opacity).rest, opacity := (a.advance ms s.opacity).store }

/-- The store has another health, a frame, or the timer's event, which does nothing but where the timer is due. -/
inductive Event where
  | health (health : String)
  | frame (ms : ℕ)
  | triggered

def step (s : PipelineHealthIndicator) : Event → PipelineHealthIndicator
  | .health health => if health = s.health then s else { s with health := health }.onHealthChanged
  | .frame ms => s.advance ms
  | .triggered => if s.fadeOutTimer = some 0 then s.onTriggered else s

end PipelineHealthIndicator

end PairionClient
