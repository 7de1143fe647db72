import Mathlib.Analysis.SpecialFunctions.Trigonometric.Arctan
import PairionClient.Backgrounds.OsmBackground

/-!
# The radar overlay

`qml/Overlays/WeatherRadarOverlay.qml`: the tiles of a radar frame, placed on the screen by the bridge of the background, and
the handlers that build their lists again. Pixels are exact until `Math.round`.
-/

namespace PairionClient

/-- What the overlay reads of a background. -/
structure BackgroundView where
  backgroundParams : MapParams ℝ
  latLonToScreen : ℝ → ℝ → ℝ × ℝ

/-- A tile that the loops reach: its file, and its NW and SE corners on the screen. -/
structure RadarSquare where
  url : String
  p1 : ℝ × ℝ
  p2 : ℝ × ℝ

/-- A tile descriptor. -/
structure RadarTile where
  url : String
  x : ℤ
  y : ℤ
  w : ℤ
  h : ℤ

namespace RadarSquare

def tw (s : RadarSquare) : ℝ := s.p2.1 - s.p1.1

def th (s : RadarSquare) : ℝ := s.p2.2 - s.p1.2

/-- The frustum cull. -/
def Culled (vw vh : ℝ) (s : RadarSquare) : Prop :=
  (s.p2.1 < -s.tw ∨ s.p1.1 > vw + s.tw) ∨ s.p2.2 < -s.th ∨ s.p1.2 > vh + s.th

noncomputable instance (vw vh : ℝ) (s : RadarSquare) : Decidable (s.Culled vw vh) := inferInstanceAs (Decidable (_ ∨ _))

noncomputable def rounded (s : RadarSquare) : RadarTile where
  url := s.url
  x := round s.p1.1
  y := round s.p1.2
  w := round s.tw
  h := round s.th

end RadarSquare

/-- What `_buildTileList` reads beside the host and the frame. -/
structure RadarInputs where
  background : Option BackgroundView
  /-- `overlayParams.zoom` -/
  zoom : Option ℝ
  width : ℝ
  height : ℝ

/-- A missing path is an empty one. -/
structure RadarFrame where
  path : String

/-- What a request comes to. Where the text is no manifest, or the status is not 200, it comes to nothing; where `host` is
missing its assignment throws; and where `radar` or `past` is missing there are no frames. -/
inductive RadarResponse where
  | failed
  | manifest (host : Option String) (past : List RadarFrame)

structure WeatherRadarOverlay where
  radarHost : String := ""
  frames : List RadarFrame := []
  dataLoaded : Bool := false
  tileListA : List RadarTile := []
  tileListB : List RadarTile := []

namespace WeatherRadarOverlay

/-- `_tileNW`: the latitude and the longitude of the NW corner of a tile. -/
noncomputable def tileNW (z tx ty : ℤ) : ℝ × ℝ :=
  let n := (2 : ℝ) ^ z
  let lon := tx / n * 360 - 180
  let lat := Real.arctan (Real.sinh (Real.pi * (1 - 2 * ty / n))) * 180 / Real.pi
  (lat, lon)

/-- The fallback coordinates. -/
noncomputable def fallbackLat : ℝ := 33.814427

noncomputable def fallbackLon : ℝ := -96.582106

/-- The radar zoom. -/
noncomputable def radarZoom (zoom : Option ℝ) : ℤ :=
  let z := match zoom with
    | none => 6
    | some q => if q = 0 then 6 else ⌊q⌋
  max 4 (min z 8)

/-- The body of the inner loop of `_buildTileList`. The zoom is not negative. -/
noncomputable def square (bg : BackgroundView) (radarHost framePath : String) (z tx ty : ℤ) : RadarSquare :=
  let nw := tileNW z tx ty
  let se := tileNW z (tx + 1) (ty + 1)
  let n : ℤ := 2 ^ z.toNat
  let wrappedTX := (tx.tmod n + n).tmod n
  { url := radarHost ++ framePath ++ "/512/" ++ toString z ++ "/" ++ toString wrappedTX ++ "/" ++ toString ty ++ "/4/1_1.png"
    p1 := bg.latLonToScreen nw.1 nw.2
    p2 := bg.latLonToScreen se.1 se.2 }

/-- The loops of `_buildTileList` around a centre. -/
noncomputable def squaresAround (bg : BackgroundView) (radarHost framePath : String) (vw vh : ℝ) (z : ℤ) (cLat cLon : ℝ) :
    List RadarSquare :=
  let n := (2 : ℝ) ^ z
  let ctxf := OsmBackground.pixelX n cLon
  let ctyf := OsmBackground.pixelY n cLat
  let halfX := ⌈vw / 256 / 2⌉ + 2
  let halfY := ⌈vh / 256 / 2⌉ + 2
  ((Int.range (⌊ctyf⌋ - halfY) (⌊ctyf⌋ + halfY + 1)).filter fun ty : ℤ => ¬(ty < 0 ∨ n ≤ ty)).flatMap fun ty =>
    ((Int.range (⌊ctxf⌋ - halfX) (⌊ctxf⌋ + halfX + 1)).map fun tx => square bg radarHost framePath z tx ty).filter fun s =>
      ¬s.Culled vw vh

/-- The tiles of `_buildTileList`, before rounding. -/
noncomputable def squares (i : RadarInputs) (radarHost framePath : String) : List RadarSquare :=
  match i.background with
  | none => []
  | some bg =>
    if framePath = "" ∨ radarHost = "" then []
    else
      let vw := if i.width > 0 then i.width else 2560
      let vh := if i.height > 0 then i.height else 1440
      let cLat := orDefault bg.backgroundParams.centerLat fallbackLat
      let cLon := orDefault bg.backgroundParams.centerLon fallbackLon
      squaresAround bg radarHost framePath vw vh (radarZoom i.zoom) cLat cLon

noncomputable def buildTileList (i : RadarInputs) (radarHost framePath : String) : List RadarTile :=
  (squares i radarHost framePath).map RadarSquare.rounded

noncomputable def rebuildBothTileLists (i : RadarInputs) (r : WeatherRadarOverlay) : WeatherRadarOverlay :=
  match r.frames with
  | [] => r
  | older :: rest =>
    { r with
      tileListA := buildTileList i r.radarHost older.path
      tileListB :=
        match rest with
        | [] => []
        | latest :: _ => buildTileList i r.radarHost latest.path }

/-- `onBackgroundChanged`, `onWidthChanged` and `onHeightChanged`. -/
noncomputable def onChanged (i : RadarInputs) (r : WeatherRadarOverlay) : WeatherRadarOverlay :=
  if r.dataLoaded then r.rebuildBothTileLists i else r

/-- The handler of `_fetchRadarData`. The host is assigned before the frames are looked at. -/
noncomputable def onResponse (i : RadarInputs) (r : WeatherRadarOverlay) : RadarResponse → WeatherRadarOverlay
  | .failed => r
  | .manifest none _ => r
  | .manifest (some host) [] => { r with radarHost := host }
  | .manifest (some host) past =>
    { r with radarHost := host, frames := past.drop (past.length - 2), dataLoaded := true }.rebuildBothTileLists i

end WeatherRadarOverlay

/-- The street map, as the overlays see it. -/
noncomputable def OsmBackground.view (p : MapParams ℝ) (width height : ℝ) : BackgroundView where
  backgroundParams := p
  latLonToScreen := latLonToScreen p width height

end PairionClient
