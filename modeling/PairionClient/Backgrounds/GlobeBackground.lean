import PairionClient.Hud.MapAnimation
import PairionClient.State.Properties

/-!
# The globe background

`qml/Backgrounds/GlobeBackground.qml`: the world map with the pins of the news, bound to the map focus of the connection state.
The binding is evaluated whenever its signal is emitted, and gives a new object each time. The globe is there from the start
of the program, when there is no focus.
-/

namespace PairionClient

structure GlobeBackground where
  connState : ConnectionProperties := {}
  worldMap : MapAnimation

namespace GlobeBackground

/-- The news: Dallas, London, Tokyo, New York and Sydney. -/
def pins : List Pin :=
  [⟨327767 / 10000, -967970 / 10000⟩, ⟨515074 / 10000, -1278 / 10000⟩, ⟨356762 / 10000, 1396503 / 10000⟩,
    ⟨407128 / 10000, -740060 / 10000⟩, ⟨-338688 / 10000, 1512093 / 10000⟩]

/-- The binding of `serverFocus`. -/
def serverFocus (c : ConnectionProperties) : Option ServerFocus :=
  if c.mapFocusActive then some ⟨c.mapFocusLat, c.mapFocusLon, c.mapFocusZoom⟩ else none

/-- The globe after layout. -/
def create (v : MapView) : GlobeBackground := { worldMap := { MapAnimation.create v with pins } }

/-- An operation on the connection state, a key that calls `focusPin`, a tick of the map's timer, or a frame. -/
inductive Event where
  | apply (op : StateOp)
  | focusPin (index : Int)
  | timer
  | frame (ms : ℕ)

/-- What a signal of the connection state does to the map. -/
def onSignal (v : MapView) (m : MapAnimation) (e : PropertySignal × ConnectionProperties) : MapAnimation :=
  if e.1 = .mapFocusChanged then m.step v (.serverFocus (serverFocus e.2)) else m

def step (v : MapView) (g : GlobeBackground) : Event → GlobeBackground
  | .apply op =>
    let r := g.connState.apply op
    ⟨r.store, r.emitted.foldl (onSignal v) g.worldMap⟩
  | .focusPin index => { g with worldMap := g.worldMap.step v (.activePinIndex index) }
  | .timer => { g with worldMap := g.worldMap.step v .timer }
  | .frame ms => { g with worldMap := g.worldMap.step v (.frame ms) }

end GlobeBackground

end PairionClient
