import Mathlib.Order.Interval.Set.Basic
import PairionClient.Core.JavaScript

/-!
# The aircraft overlay

`qml/Overlays/AdsbOverlay.qml`, the animation: each poll takes the positions that were animated last as the start of a new
segment, and a render tick interpolates towards those of the poll. Headings are degrees.
-/

namespace PairionClient

structure Aircraft where
  icao24 : String
  callsign : String := ""
  lat : ℚ := 0
  lon : ℚ := 0
  altitudeFt : ℚ := 0
  speedKnots : ℚ := 0
  trackDeg : ℚ
  onGround : Bool := false
  registration : String := ""
  aircraftType : String := ""
  origin : String := ""
  destination : String := ""
  deriving DecidableEq

/-- The start of a segment. -/
structure Position where
  lat : ℚ
  lon : ℚ
  trackDeg : ℚ

/-- The loop of `aircraftList`, for one element: it is kept if it has an id that was not seen before. An inherited name
counts as seen. -/
def seeAircraft (acc : List String × List Aircraft) : Option Aircraft → List String × List Aircraft
  | none => acc
  | some ac =>
    if ac.icao24 ≠ "" ∧ ac.icao24 ∉ inheritedNames ∧ ac.icao24 ∉ acc.1 then (ac.icao24 :: acc.1, acc.2 ++ [ac]) else acc

/-- `aircraftList`, of the elements of `sceneData["adsb"]`; a falsy one is `none`. -/
def deduplicate (raw : List (Option Aircraft)) : List Aircraft := (raw.foldl seeAircraft ([], [])).2

/-- An aircraft on its segment, at a fraction of the way. -/
def Aircraft.animated (f : ℚ) (cur : Aircraft) : Option Position → Aircraft
  | none => cur
  | some prv =>
    let dh := cur.trackDeg - prv.trackDeg
    let dh := if dh > 180 then dh - 360 else dh
    let dh := if dh < -180 then dh + 360 else dh
    { icao24 := cur.icao24
      callsign := cur.callsign
      lat := prv.lat + (cur.lat - prv.lat) * f
      lon := prv.lon + (cur.lon - prv.lon) * f
      altitudeFt := cur.altitudeFt
      speedKnots := cur.speedKnots
      trackDeg := prv.trackDeg + dh * f
      onGround := cur.onGround
      registration := cur.registration
      aircraftType := cur.aircraftType
      origin := cur.origin
      destination := cur.destination }

structure AdsbOverlay where
  aircraftList : List Aircraft := []
  prevByIcao : JsObject Position := []
  curByIcao : JsObject Aircraft := []
  animFraction : ℚ := 0
  animatedList : List Aircraft := []
  animatedByIcao : JsObject Aircraft := []

namespace AdsbOverlay

/-- The animation is restarted, too: its fraction goes from 0 to 1 again. -/
def onAircraftListChanged (s : AdsbOverlay) : AdsbOverlay :=
  { s with
    prevByIcao := s.animatedList.foldl (fun o a => JsObject.set a.icao24 ⟨a.lat, a.lon, a.trackDeg⟩ o) []
    curByIcao := s.aircraftList.foldl (fun o ac => JsObject.set ac.icao24 ac o) []
    animFraction := 0 }

def rebuildAnimatedList (s : AdsbOverlay) : AdsbOverlay :=
  let out := s.curByIcao.keys.filterMap fun id =>
    (s.curByIcao.lookup id).map fun cur => cur.animated s.animFraction (s.prevByIcao.lookup id)
  { s with
    animatedList := out
    animatedByIcao := out.foldl (fun o a => JsObject.set a.icao24 a o) [] }

/-- `animPos` of the delegate of an aircraft. -/
def animPos (s : AdsbOverlay) (ac : Aircraft) : Aircraft := (s.animatedByIcao.lookup ac.icao24).getD ac

/-- The heading at which the icon of an aircraft is shown. -/
def rotation (s : AdsbOverlay) (ac : Aircraft) : ℚ := (s.animPos ac).trackDeg

/-- New data, a value that the animation writes, or a tick of the render timer. -/
inductive Event where
  | sceneData (raw : List (Option Aircraft))
  | animate (fraction : Set.Icc (0 : ℚ) 1)
  | render

def step (s : AdsbOverlay) : Event → AdsbOverlay
  | .sceneData raw => { s with aircraftList := deduplicate raw }.onAircraftListChanged
  | .animate fraction => { s with animFraction := fraction }
  | .render => s.rebuildAnimatedList

end AdsbOverlay

end PairionClient
