import PairionClient.Hud.LayerManager
import PairionClient.Overlays.WeatherRadarOverlay

/-!
# The HUD with its radar

The layers with what their radar overlays hold of their own, and the size of the window, which all layers fill. A handler runs
when the value of its property changes: another object is written to `background`, or the object it refers to is deleted.
-/

namespace PairionClient

/-- A parameter that is a number. -/
noncomputable def QJsonObject.number (params : QJsonObject) (key : String) : Option ℝ :=
  match params.value key with
  | .double q => some q
  | _ => none

/-- The parameters of a map. -/
noncomputable def MapParams.ofJson (params : QJsonObject) : MapParams ℝ where
  centerLat := params.number "center_lat"
  centerLon := params.number "center_lon"
  zoom := params.number "zoom"

namespace VfrBackground

/-- The bounding box of the chart. -/
noncomputable def lamin : ℝ := 33.398

noncomputable def lomin : ℝ := -97.084

noncomputable def lamax : ℝ := 34.231

noncomputable def lomax : ℝ := -96.080

noncomputable def latLonToScreen (width height lat lon : ℝ) : ℝ × ℝ :=
  ((lon - lomin) / (lomax - lomin) * width, (lamax - lat) / (lamax - lamin) * height)

end VfrBackground

/-- `latLonToScreen` of the component of an id: those without a map give the middle of the screen. -/
noncomputable def bridge (backgroundId : String) (p : MapParams ℝ) (width height : ℝ) : ℝ → ℝ → ℝ × ℝ :=
  if toPascalCase backgroundId = "Osm" then OsmBackground.latLonToScreen p width height
  else if toPascalCase backgroundId = "Vfr" then VfrBackground.latLonToScreen width height
  else fun _ _ => (width * 0.5, height * 0.5)

/-- A background on a window of a width and a height. -/
noncomputable def Background.view (width height : ℝ) (b : Background) : BackgroundView where
  backgroundParams := .ofJson b.backgroundParams
  latLonToScreen := bridge b.backgroundId (.ofJson b.backgroundParams) width height

/-- An overlay whose component is the radar. -/
def Overlay.isRadar (o : Overlay) : Bool := toPascalCase o.overlayId = "WeatherRadar"

namespace LayerManager

/-- The background object of a number, if it was not deleted. -/
def findBackground (serial : Nat) (m : LayerManager) : Option Background :=
  ((m.slots .slotA).children ++ (m.slots .slotB).children).find? fun b => b.serial = serial

/-- What a reference to a background reads. -/
def deref (reference : Option Nat) (m : LayerManager) : Option Background :=
  reference.bind fun serial => m.findBackground serial

/-- An overlay object. -/
def findOverlay (serial : Nat) (m : LayerManager) : Option Overlay := m.overlayContainer.find? fun o => o.serial = serial

/-- The object that `background` of an overlay refers to. -/
def backgroundOf (serial : Nat) (m : LayerManager) : Option Background :=
  (m.findOverlay serial).bind fun o => m.deref o.background

/-- What `_buildTileList` of an overlay reads. -/
noncomputable def radarInputs (width height : ℝ) (serial : Nat) (m : LayerManager) : RadarInputs where
  background := (m.backgroundOf serial).map (Background.view width height)
  zoom := (m.findOverlay serial).bind fun o => QJsonObject.number o.overlayParams "zoom"
  width := width
  height := height

end LayerManager

/-- The HUD, the size of its window, and what each radar overlay holds, by its number. -/
structure RadarHud extends Hud where
  width : ℝ
  height : ℝ
  radars : Nat → WeatherRadarOverlay := fun _ => {}

/-- An event of the HUD, a window of another size, or an answer to a request of an overlay. -/
inductive RadarEvent where
  | hud (e : HudEvent)
  | resize (width height : ℝ)
  | response (serial : Nat) (r : RadarResponse)

namespace RadarHud

noncomputable def inputs (serial : Nat) (s : RadarHud) : RadarInputs := s.layers.radarInputs s.width s.height serial

/-- The layers change: `onBackgroundChanged` runs in the overlays whose reference has another value. -/
noncomputable def moveTo (layers : LayerManager) (s : RadarHud) : RadarHud :=
  { s with
    layers := layers
    radars := fun serial =>
      if (layers.backgroundOf serial).map (·.serial) = (s.layers.backgroundOf serial).map (·.serial) then s.radars serial
      else (s.radars serial).onChanged (layers.radarInputs s.width s.height serial) }

/-- A window of another size: `onWidthChanged`, and `onHeightChanged`. -/
noncomputable def resize (width height : ℝ) (s : RadarHud) : RadarHud :=
  { s with
    width := width
    height := height
    radars := fun serial =>
      let i := s.layers.radarInputs width height serial
      let r := if width = s.width then s.radars serial else (s.radars serial).onChanged i
      if height = s.height then r else r.onChanged i }

noncomputable def step (c : OverlayComponents) (s : RadarHud) : RadarEvent → RadarHud
  | .hud (.op op outcome) =>
    let r := op.apply s.scene
    { r.emitted.foldl (fun s x => s.moveTo (s.layers.onSignal c outcome x)) s with scene := r.scene }
  | .hud (.tick t) => s.moveTo (s.layers.tick t)
  | .resize width height => s.resize width height
  | .response serial r =>
    if (s.layers.findOverlay serial).isSome then
      { s with radars := Function.update s.radars serial ((s.radars serial).onResponse (s.inputs serial) r) }
    else s

/-- The layers are built over the store as it is. -/
noncomputable def create (c : OverlayComponents) (outcome : Outcome) (scene : Scene) (width height : ℝ) : RadarHud where
  toHud := .create c outcome scene
  width := width
  height := height

end RadarHud

end PairionClient
