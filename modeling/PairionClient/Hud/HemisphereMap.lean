import Mathlib.Order.Interval.Set.Basic
import PairionClient.Core.JavaScript

/-!
# The world map

`qml/HUD/HemisphereMap.qml`, the horizontal motion: three copies of the map side by side, shifted by `mapOffset`, which a timer
scrolls and which a focus pans. The vertical pan and the zoom run beside it and touch nothing that it reads; their targets
are kept.
-/

namespace PairionClient

open Set (Icc)

/-- An element of `pins`. -/
structure Pin where
  lat : ℚ
  lon : ℚ

/-- The value of `serverFocus`. -/
structure ServerFocus where
  lat : ℚ
  lon : ℚ
  zoom : String

/-- What does not change over a run: the size of the item, which is laid out, and the speed of the scroll. -/
structure MapView where
  width : ℚ
  height : ℚ
  scrollSpeed : ℚ := 1 / 5
  width_pos : 0 < width

/-- `focusSequence`: pull back, then pan, then what is left of the zoom. -/
inductive FocusSequence where
  | stopped
  | zoomingOut
  | panning (start : ℚ)
  | arriving
  deriving DecidableEq, Repr

structure HemisphereMap where
  pins : List Pin := []
  activePinIndex : Int := -1
  serverFocus : Option ServerFocus := none
  mapOffset : ℚ := 0
  targetFocusZoom : ℚ := 8 / 5
  focusSequence : FocusSequence := .stopped
  /-- Whether the zoom-out was the last to start. -/
  zoomOutAnim : Bool := false
  /-- `seqPan.to` and `seqVertPan.to`. -/
  seqPanTo : ℚ := 0
  seqVertPanTo : ℚ := 0

def zoomLevelToScale (zoomLevel : String) : ℚ :=
  if zoomLevel = "continent" then 6 / 5
  else if zoomLevel = "country" then 9 / 5
  else if zoomLevel = "region" then 14 / 5
  else 4

/-- `Easing.InOutCubic`. -/
def inOutCubic (t : ℚ) : ℚ := if t < 1 / 2 then 4 * t ^ 3 else 1 - 4 * (1 - t) ^ 3

/-- `while (o >= 2 * w) o -= w`. -/
def lowered (w o : ℚ) : ℚ := if 0 < w ∧ 2 * w ≤ o then lowered w (o - w) else o
termination_by ⌊o / w⌋.toNat
decreasing_by
  rename_i h
  have hfloor : ⌊(o - w) / w⌋ = ⌊o / w⌋ - 1 := by rw [sub_div, div_self h.1.ne', Int.floor_sub_one]
  have htwo : 2 ≤ ⌊o / w⌋ := Int.le_floor.2 (by rw [le_div_iff₀ h.1]; exact_mod_cast h.2)
  omega

/-- `while (o <= 0) o += w`. -/
def raised (w o : ℚ) : ℚ := if 0 < w ∧ o ≤ 0 then raised w (o + w) else o
termination_by (⌊-o / w⌋ + 1).toNat
decreasing_by
  rename_i h
  have hfloor : ⌊-(o + w) / w⌋ = ⌊-o / w⌋ - 1 := by
    rw [neg_add, ← sub_eq_add_neg, sub_div, div_self h.1.ne', Int.floor_sub_one]
  have hzero : 0 ≤ ⌊-o / w⌋ := Int.floor_nonneg.2 (div_nonneg (neg_nonneg.2 h.2) h.1.le)
  omega

/-- The script after the pan. -/
def renormalised (w o : ℚ) : ℚ := raised w (lowered w o)

namespace MapView

/-- `basePinX` of a longitude. -/
def basePinX (v : MapView) (lon : ℚ) : ℚ := wrapped (lon + 180) 360 / 360 * v.width

/-- The offset that puts a longitude at the centre of the screen. -/
def target (v : MapView) (lon : ℚ) : ℚ := v.width / 2 + v.basePinX lon

/-- The end of the pan from an offset to a target. -/
def panTo (v : MapView) (offset target : ℚ) : ℚ :=
  let diff := target - offset
  let diff := if |diff - v.width| < |diff| then diff - v.width else diff
  let diff := if |diff + v.width| < |diff| then diff + v.width else diff
  offset + diff

/-- Where a longitude is on the screen: `pinX`. -/
def pinX (v : MapView) (lon offset : ℚ) : ℚ := wrapped (v.width + v.basePinX lon - offset) v.width

/-- The left edges of the three copies. -/
def copies (v : MapView) (offset : ℚ) : List ℚ := [-offset, v.width - offset, 2 * v.width - offset]

end MapView

namespace HemisphereMap

def onWidthChanged (v : MapView) (s : HemisphereMap) : HemisphereMap :=
  if s.mapOffset = 0 ∧ v.width > 0 then { s with mapOffset := v.width } else s

/-- The map after layout. -/
def create (v : MapView) : HemisphereMap := onWidthChanged v {}

def stopAnimations (s : HemisphereMap) : HemisphereMap := { s with focusSequence := .stopped, zoomOutAnim := false }

/-- A focus starts: the common part of the two handlers. -/
def focus (v : MapView) (lat lon scale : ℚ) (s : HemisphereMap) : HemisphereMap :=
  let pinY := (1 - (lat + 90) / 180) * v.height
  { s with
    seqPanTo := v.panTo s.mapOffset (v.target lon)
    targetFocusZoom := scale
    seqVertPanTo := (v.height / 2 - pinY) * scale
    focusSequence := .zoomingOut }

/-- `pins[activePinIndex]`, if the index is valid. -/
def activePin (s : HemisphereMap) : Option Pin :=
  if 0 ≤ s.activePinIndex then s.pins[s.activePinIndex.toNat]? else none

def onActivePinIndexChanged (v : MapView) (s : HemisphereMap) : HemisphereMap :=
  let s := s.stopAnimations
  match s.activePin with
  | some pin => s.focus v pin.lat pin.lon (8 / 5)
  | none => { s with zoomOutAnim := true }

def onServerFocusChanged (v : MapView) (s : HemisphereMap) : HemisphereMap :=
  let s := s.stopAnimations
  match s.serverFocus with
  | some sf => s.focus v sf.lat sf.lon (zoomLevelToScale sf.zoom)
  | none => { s with zoomOutAnim := true }

/-- `running` of the auto-scroll timer. -/
def timerRuns (v : MapView) (s : HemisphereMap) : Bool :=
  s.activePinIndex < 0 && s.serverFocus.isNone && v.width > 0 && s.focusSequence = .stopped

/-- `onTriggered` of the auto-scroll timer. -/
def autoScroll (v : MapView) (s : HemisphereMap) : HemisphereMap :=
  let next := s.mapOffset + v.scrollSpeed
  let next := if next ≥ 2 * v.width then next - v.width else next
  let next := if next ≤ 0 then next + v.width else next
  { s with mapOffset := next }

/-- A property that is set from outside, a tick of the timer, or something of `focusSequence`: its first phase ends, the
pan writes a value, the pan ends, the last phase ends. -/
inductive Event where
  | pins (pins : List Pin)
  | activePinIndex (index : Int)
  | serverFocus (focus : Option ServerFocus)
  | timer
  | beginPan
  | pan (t : Icc (0 : ℚ) 1)
  | endPan
  | arrive

/-- A handler runs when its property changes; an object is never the one before it. -/
def step (v : MapView) (s : HemisphereMap) : Event → HemisphereMap
  | .pins pins => { s with pins := pins }
  | .activePinIndex index =>
    if index = s.activePinIndex then s else { s with activePinIndex := index }.onActivePinIndexChanged v
  | .serverFocus focus =>
    if focus.isNone && s.serverFocus.isNone then s else { s with serverFocus := focus }.onServerFocusChanged v
  | .timer => if s.timerRuns v then s.autoScroll v else s
  | .beginPan =>
    match s.focusSequence with
    | .zoomingOut => { s with focusSequence := .panning s.mapOffset }
    | _ => s
  | .pan t =>
    match s.focusSequence with
    | .panning start => { s with mapOffset := start + (s.seqPanTo - start) * inOutCubic t }
    | _ => s
  | .endPan =>
    match s.focusSequence with
    | .panning _ => { s with mapOffset := renormalised v.width s.seqPanTo, focusSequence := .arriving }
    | _ => s
  | .arrive =>
    match s.focusSequence with
    | .arriving => { s with focusSequence := .stopped }
    | _ => s

end HemisphereMap

end PairionClient
