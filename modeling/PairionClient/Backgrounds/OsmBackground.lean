import Mathlib.Algebra.Order.Round
import Mathlib.Analysis.SpecialFunctions.Log.Basic
import Mathlib.Analysis.SpecialFunctions.Trigonometric.Basic
import Mathlib.Data.Int.Range
import PairionClient.Core.JavaScript

/-!
# The street map

`qml/Backgrounds/OsmBackground.qml`: the tile grid, and the bridge from geographic coordinates to the screen. Pixels are exact.
The grid is computed in any ordered field; the Mercator projection is that of the reals.
-/

namespace PairionClient

/-- The parameters of a background, where they are numbers. -/
structure MapParams (α : Type) where
  centerLat : Option α := none
  centerLon : Option α := none
  zoom : Option α := none

/-- A tile of the grid, with its position before it is rounded. Its file is `{z}/{wrappedTX}/{ty}.png`. -/
structure OsmTile (α : Type) where
  z : ℤ
  wrappedTX : α
  ty : ℤ
  sx : α
  sy : α

namespace OsmBackground

section Grid

variable {α : Type} [Field α] [LinearOrder α] [FloorRing α]

/-- The body of the loop of `_rebuildTiles`. -/
def tile (vw vh : α) (z : ℤ) (cpx cpy : α) (tx ty : ℤ) : OsmTile α where
  z := z
  wrappedTX := wrapped (tx : α) (2 ^ z)
  ty := ty
  sx := tx * 256 - cpx + vw * (1 / 2)
  sy := ty * 256 - cpy + vh * (1 / 2)

/-- The tiles of `_rebuildTiles` around a centre, in world pixels. -/
def tilesAround (vw vh : α) (z : ℤ) (cpx cpy : α) : List (OsmTile α) :=
  let ctxf := cpx / 256
  let ctyf := cpy / 256
  let halfX := ⌈vw / 256 / 2⌉ + 1
  let halfY := ⌈vh / 256 / 2⌉ + 1
  let minTX := ⌊ctxf⌋ - halfX
  let maxTX := ⌊ctxf⌋ + halfX
  let minTY := ⌊ctyf⌋ - halfY
  let maxTY := ⌊ctyf⌋ + halfY
  ((Int.range minTY (maxTY + 1)).filter fun ty : ℤ => ¬(ty < 0 ∨ (2 : α) ^ z ≤ ty)).flatMap fun ty =>
    (Int.range minTX (maxTX + 1)).map fun tx => tile vw vh z cpx cpy tx ty

end Grid

/-- The default centre. -/
noncomputable def defaultLat : ℝ := 33.814427

noncomputable def defaultLon : ℝ := -96.582106

/-- `(lon + 180) / 360 * worldSize`. -/
noncomputable def pixelX (worldSize lon : ℝ) : ℝ := (lon + 180) / 360 * worldSize

/-- `(1 - log(tan(lat·π/180) + 1/cos(lat·π/180)) / π) / 2 * worldSize`. -/
noncomputable def pixelY (worldSize lat : ℝ) : ℝ :=
  let latRad := lat * Real.pi / 180
  (1 - Real.log (Real.tan latRad + 1 / Real.cos latRad) / Real.pi) / 2 * worldSize

/-- `latLonToScreen`, on an item of a width and a height. -/
noncomputable def latLonToScreen (p : MapParams ℝ) (width height lat lon : ℝ) : ℝ × ℝ :=
  let z := ⌊orDefault p.zoom 10⌋
  let worldSize := 256 * (2 : ℝ) ^ z
  let px := pixelX worldSize lon
  let py := pixelY worldSize lat
  let cLat := orDefault p.centerLat defaultLat
  let cLon := orDefault p.centerLon defaultLon
  let cpx := pixelX worldSize cLon
  let cpy := pixelY worldSize cLat
  ((px - cpx) + width * 0.5, (py - cpy) + height * 0.5)

/-- `_rebuildTiles`, before rounding. -/
noncomputable def rebuildTiles (p : MapParams ℝ) (width height : ℝ) : List (OsmTile ℝ) :=
  let vw := if width > 0 then width else 2560
  let vh := if height > 0 then height else 1440
  let z := ⌊orDefault p.zoom 10⌋
  let wsz := 256 * (2 : ℝ) ^ z
  let cLat := orDefault p.centerLat defaultLat
  let cLon := orDefault p.centerLon defaultLon
  tilesAround vw vh z (pixelX wsz cLon) (pixelY wsz cLat)

end OsmBackground

namespace OsmTile

variable {α : Type} [Field α] [LinearOrder α] [FloorRing α]

/-- The position at which a tile is drawn: `Math.round`, which rounds half up. -/
def x (t : OsmTile α) : ℤ := round t.sx

def y (t : OsmTile α) : ℤ := round t.sy

end OsmTile

end PairionClient
