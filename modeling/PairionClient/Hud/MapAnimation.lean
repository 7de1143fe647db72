import PairionClient.Hud.HemisphereMap
import PairionClient.Lib.Animation

/-!
# The world map in time

`qml/HUD/HemisphereMap.qml` with its animations as they run: `focusSequence` and `zoomOutAnim` move the offset, the zoom and the
vertical offset frame by frame, and a change of the focus stops them wherever they are.
-/

namespace PairionClient

open Animation

/-- The properties that are animated. -/
inductive MapProperty where
  | mapOffset
  | zoomScale
  | mapVerticalOffset
  deriving DecidableEq, Repr

structure MapAnimation where
  pins : List Pin := []
  activePinIndex : Int := -1
  serverFocus : Option ServerFocus := none
  shown : MapProperty → ℚ
  /-- What is left of the two animations that run. -/
  focusSequence : Option (Anim MapProperty) := none
  zoomOutAnim : Option (Anim MapProperty) := none

namespace MapView

/-- The height of a latitude on the map. -/
def pinY (v : MapView) (lat : ℚ) : ℚ := (1 - (lat + 90) / 180) * v.height

/-- The first phase: back to the whole globe. -/
def pullBack : Anim MapProperty :=
  .parallel (.number .zoomScale 1 450 .inOutQuad none) (.number .mapVerticalOffset 0 450 .inOutQuad none)

/-- The horizontal pan, and the script after it. -/
def seqPan (v : MapView) (seqPanTo : ℚ) : Anim MapProperty :=
  .sequential (.number .mapOffset seqPanTo 1300 .inOutCubic none) (.action .mapOffset (renormalised v.width))

/-- The second phase, beside the pan. -/
def approach (seqVertPanTo targetFocusZoom : ℚ) : Anim MapProperty :=
  .parallel (.number .mapVerticalOffset seqVertPanTo 1300 .inOutCubic none)
    (.sequential (.pause 650) (.number .zoomScale targetFocusZoom 850 .outCubic none))

def focusSequence (v : MapView) (seqPanTo seqVertPanTo targetFocusZoom : ℚ) : Anim MapProperty :=
  .sequential pullBack (.parallel (v.seqPan seqPanTo) (approach seqVertPanTo targetFocusZoom))

def zoomOutAnim : Anim MapProperty :=
  .parallel (.number .zoomScale 1 600 .inOutQuad none) (.number .mapVerticalOffset 0 600 .inOutQuad none)

/-- Where the container, scaled about its centre and moved down, shows a place. -/
def onScreen (v : MapView) (shown : MapProperty → ℚ) (lat lon : ℚ) : ℚ × ℚ :=
  (v.width / 2 + (v.pinX lon (shown .mapOffset) - v.width / 2) * shown .zoomScale,
    shown .mapVerticalOffset + v.height / 2 + (v.pinY lat - v.height / 2) * shown .zoomScale)

end MapView

namespace MapAnimation

/-- The map after layout. -/
def create (v : MapView) : MapAnimation where
  shown
    | .mapOffset => v.width
    | .zoomScale => 1
    | .mapVerticalOffset => 0

def stopAnimations (m : MapAnimation) : MapAnimation := { m with focusSequence := none, zoomOutAnim := none }

/-- A focus starts: the common part of the two handlers. -/
def focus (v : MapView) (lat lon scale : ℚ) (m : MapAnimation) : MapAnimation :=
  { m with
    focusSequence := some (v.focusSequence (v.panTo (m.shown .mapOffset) (v.target lon))
      ((v.height / 2 - v.pinY lat) * scale) scale) }

/-- `pins[activePinIndex]`, if the index is valid. -/
def activePin (m : MapAnimation) : Option Pin :=
  if 0 ≤ m.activePinIndex then m.pins[m.activePinIndex.toNat]? else none

def onActivePinIndexChanged (v : MapView) (m : MapAnimation) : MapAnimation :=
  let m := m.stopAnimations
  match m.activePin with
  | some pin => m.focus v pin.lat pin.lon (8 / 5)
  | none => { m with zoomOutAnim := some MapView.zoomOutAnim }

def onServerFocusChanged (v : MapView) (m : MapAnimation) : MapAnimation :=
  let m := m.stopAnimations
  match m.serverFocus with
  | some sf => m.focus v sf.lat sf.lon (zoomLevelToScale sf.zoom)
  | none => { m with zoomOutAnim := some MapView.zoomOutAnim }

/-- `running` of the auto-scroll timer. -/
def timerRuns (v : MapView) (m : MapAnimation) : Bool :=
  m.activePinIndex < 0 && m.serverFocus.isNone && v.width > 0 && m.focusSequence.isNone

/-- `onTriggered` of the auto-scroll timer. -/
def autoScroll (v : MapView) (m : MapAnimation) : MapAnimation :=
  let next := m.shown .mapOffset + v.scrollSpeed
  let next := if next ≥ 2 * v.width then next - v.width else next
  let next := if next ≤ 0 then next + v.width else next
  { m with shown := Function.update m.shown .mapOffset next }

/-- A frame of what runs. -/
def advance (ms : ℕ) (m : MapAnimation) : MapAnimation :=
  let m := match m.focusSequence with
    | none => m
    | some a => { m with focusSequence := (a.advance ms m.shown).rest, shown := (a.advance ms m.shown).store }
  match m.zoomOutAnim with
  | none => m
  | some a => { m with zoomOutAnim := (a.advance ms m.shown).rest, shown := (a.advance ms m.shown).store }

/-- A property that is set from outside, a tick of the timer, or a frame. -/
inductive Event where
  | pins (pins : List Pin)
  | activePinIndex (index : Int)
  | serverFocus (focus : Option ServerFocus)
  | timer
  | frame (ms : ℕ)

/-- A handler runs when its property changes; an object is never the one before it. -/
def step (v : MapView) (m : MapAnimation) : Event → MapAnimation
  | .pins pins => { m with pins := pins }
  | .activePinIndex index =>
    if index = m.activePinIndex then m else { m with activePinIndex := index }.onActivePinIndexChanged v
  | .serverFocus focus =>
    if focus.isNone && m.serverFocus.isNone then m else { m with serverFocus := focus }.onServerFocusChanged v
  | .timer => if m.timerRuns v then m.autoScroll v else m
  | .frame ms => m.advance ms

end MapAnimation

end PairionClient
