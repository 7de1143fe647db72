import Mathlib.Algebra.Order.Field.Rat
import PairionClient.Core.JavaScript
import PairionClient.State.Scene

/-!
# The layer manager

`qml/HUD/LayerManager.qml`: two slots for the background, the animations that fade from one to the other, and a container of
overlays. Objects are numbered as they are created, and a reference is a number: a reference to an object that was deleted
reads null, and writing through it does nothing. `destroy()` marks an object; it stays among the children of its parent
until control returns to the event loop. What a component makes of a load is a parameter.
-/

namespace PairionClient

/-- What loading a component comes to: `Component.Error`, `createObject` giving null, or an object. -/
inductive Outcome where
  | componentError
  | createFailed
  | created
  deriving DecidableEq, Repr

/-- An instance of a background component. -/
structure Background where
  serial : Nat
  backgroundId : String
  backgroundParams : QJsonObject
  sceneData : QVariantMap QJsonValue
  hudState : String
  destroyed : Bool := false

/-- An instance of an overlay component. -/
structure Overlay where
  serial : Nat
  overlayId : String
  background : Option Nat
  overlayParams : QJsonObject
  sceneData : QVariantMap QJsonValue
  hudState : String
  destroyed : Bool := false

inductive SlotName where
  | slotA
  | slotB
  deriving DecidableEq, Repr

structure Slot where
  children : List Background := []
  opacity : ℚ := 0

namespace Slot

/-- `children[0].destroy()`, when there is a child. -/
def destroyFirst (s : Slot) : Slot :=
  match s.children with
  | [] => s
  | first :: rest => { s with children := { first with destroyed := true } :: rest }

def live (s : Slot) : List Background := s.children.filter fun b => !b.destroyed

end Slot

/-- A `NumberAnimation` of the opacity of its target. -/
structure FadeAnimation where
  target : Option SlotName := none
  running : Bool := false
  deriving DecidableEq, Repr

/-- `Easing.InOutQuad`. -/
def inOutQuad (t : ℚ) : ℚ := if t < 1 / 2 then 2 * t ^ 2 else 1 - 2 * (1 - t) ^ 2

def fadeDuration : Nat := 800

/-- The value of an animation so many milliseconds after its start. -/
def fadeValue (start stop : ℚ) (elapsed : Nat) : ℚ :=
  if elapsed < fadeDuration then start + (stop - start) * inOutQuad (elapsed / fadeDuration) else stop

/-- Which overlay components load. The ids that name an inherited property have no file. -/
structure OverlayComponents where
  loads : String → Bool
  not_inherited : ∀ id ∈ inheritedNames, loads id = false

/-- `_toPascalCase`, for ids whose parts start with an ASCII character. -/
def toPascalCase (s : String) : String :=
  let parts := s.toList.splitOnP fun c => c = '-' || c = '_'
  String.ofList (parts.map fun part => part.take 1 |>.map Char.toUpper |>.append (part.drop 1)).flatten

/-- The files under `qml/Overlays`. -/
def overlayFiles : List String := ["AdsbOverlay.qml", "WeatherCurrentOverlay.qml", "WeatherRadarOverlay.qml"]

/-- The part of the root that the overlays hang on: their map, their container, and the background they are given. -/
structure OverlayStack where
  currentBackground : Option Nat := none
  overlayMap : List (String × Nat) := []
  overlayContainer : List Overlay := []
  /-- How many objects were created. -/
  created : Nat := 0

structure LayerManager extends OverlayStack where
  retiring : Option SlotName := none
  useA : Bool := true
  slots : SlotName → Slot := fun _ => {}
  fadeIn : FadeAnimation := {}
  fadeOut : FadeAnimation := {}
  /-- Whether the cleanup timer runs. -/
  cleanupTimer : Bool := false

/-! ## Overlays -/

namespace OverlayStack

def live (st : OverlayStack) : List Overlay := st.overlayContainer.filter fun o => !o.destroyed

/-- Write a property of an overlay. -/
def modifyOverlay (serial : Nat) (f : Overlay → Overlay) (st : OverlayStack) : OverlayStack :=
  { st with overlayContainer := st.overlayContainer.map fun o => if o.serial = serial then f o else o }

/-- Write a property of each overlay of the map. -/
def forOverlays (f : String → Overlay → Overlay) (st : OverlayStack) : OverlayStack :=
  st.overlayMap.foldl (fun st entry => st.modifyOverlay entry.2 (f entry.1)) st

/-- Whether `_overlayMap[id]` is truthy. -/
def mapped (id : String) (st : OverlayStack) : Bool := id ∈ inheritedNames || (st.overlayMap.lookup id).isSome

/-- The first loop of `_syncOverlays`, for one id. -/
def dropOverlay (ids : List String) (st : OverlayStack) (id : String) : OverlayStack :=
  if id ∈ ids then st
  else
    match st.overlayMap.lookup id with
    | none => st
    | some serial =>
      { st.modifyOverlay serial fun o => { o with destroyed := true } with
        overlayMap := st.overlayMap.filter fun entry => entry.1 ≠ id }

/-- The second loop of `_syncOverlays`, for one id. -/
def pushOverlay (c : OverlayComponents) (scene : Scene) (st : OverlayStack) (overlayId : String) : OverlayStack :=
  if st.mapped overlayId then st
  else if c.loads overlayId then
    let overlay : Overlay :=
      { serial := st.created
        overlayId := overlayId
        background := st.currentBackground
        overlayParams := (scene.overlayParams.lookup overlayId).getD []
        sceneData := scene.sceneData
        hudState := scene.agentState }
    { st with
      created := st.created + 1
      overlayContainer := st.overlayContainer ++ [overlay]
      overlayMap := st.overlayMap ++ [(overlayId, st.created)] }
  else st

def syncOverlays (c : OverlayComponents) (scene : Scene) (st : OverlayStack) : OverlayStack :=
  let st := (st.overlayMap.map (·.1)).foldl (dropOverlay scene.activeOverlayIds) st
  scene.activeOverlayIds.foldl (pushOverlay c scene) st

/-- The overlays' part of `_loadBackground`. -/
def setBackground (serial : Nat) (st : OverlayStack) : OverlayStack :=
  forOverlays (fun _ o => { o with background := some serial }) { st with currentBackground := some serial }

/-- The overlays' part of `_propagateSceneData`. -/
def setSceneData (scene : Scene) (st : OverlayStack) : OverlayStack :=
  st.forOverlays fun _ o => { o with sceneData := scene.sceneData }

/-- The overlays' part of `_propagateHudState`. -/
def setHudState (scene : Scene) (st : OverlayStack) : OverlayStack :=
  st.forOverlays fun _ o => { o with hudState := scene.agentState }

/-- `_propagateOverlayParams`. An overlay without parameters keeps those it has. -/
def propagateOverlayParams (scene : Scene) (st : OverlayStack) : OverlayStack :=
  st.forOverlays fun id o =>
    match scene.overlayParams.lookup id with
    | none => o
    | some params => { o with overlayParams := params }

/-- The overlays destroyed are deleted. -/
def eventLoop (st : OverlayStack) : OverlayStack := { st with overlayContainer := st.live }

end OverlayStack

namespace LayerManager

def modifySlot (n : SlotName) (f : Slot → Slot) (m : LayerManager) : LayerManager :=
  { m with slots := Function.update m.slots n (f (m.slots n)) }

def setOpacity (n : SlotName) (opacity : ℚ) (m : LayerManager) : LayerManager :=
  m.modifySlot n fun s => { s with opacity := opacity }

/-- Write a property of the current background. -/
def modifyCurrent (f : Background → Background) (m : LayerManager) : LayerManager :=
  match m.currentBackground with
  | none => m
  | some serial =>
    { m with
      slots := fun n =>
        { m.slots n with children := (m.slots n).children.map fun b => if b.serial = serial then f b else b } }

/-! ## Backgrounds -/

/-- Destroy the retiring background, and forget the slot. -/
def destroyRetiring (m : LayerManager) : LayerManager :=
  match m.retiring with
  | none => m
  | some n => { m.modifySlot n Slot.destroyFirst with retiring := none }

def stopAll (m : LayerManager) : LayerManager :=
  { m with
    fadeIn := { m.fadeIn with running := false }
    fadeOut := { m.fadeOut with running := false }
    cleanupTimer := false }

/-- The end of `_loadBackground` that switches at once. -/
def switchAtOnce (activeSlot retireSlot : SlotName) (m : LayerManager) : LayerManager :=
  ((m.stopAll.setOpacity activeSlot 1).setOpacity retireSlot 0).destroyRetiring

/-- A fade that still runs gives up its background. -/
def interrupt (m : LayerManager) : LayerManager :=
  if m.retiring.isSome then
    { m with fadeOut := { m.fadeOut with running := false }, cleanupTimer := false }.destroyRetiring
  else m

/-- The end of `_loadBackground` that fades. An animation writes its first value when it starts. -/
def crossfade (activeSlot retireSlot : SlotName) (m : LayerManager) : LayerManager :=
  let m := { m.interrupt with
    retiring := some retireSlot
    fadeIn := { target := some activeSlot, running := true }
    fadeOut := { target := some retireSlot, running := true }
    cleanupTimer := true }
  (m.setOpacity activeSlot (fadeValue 0 1 0)).setOpacity retireSlot (fadeValue 1 0 0)

/-- The slots alternate. -/
def activeSlot (m : LayerManager) : SlotName := if m.useA then .slotA else .slotB

def retireSlot (m : LayerManager) : SlotName := if m.useA then .slotB else .slotA

/-- Whether a load switches at once. -/
def instant (transition : String) (m : LayerManager) : Bool :=
  transition = "instant" || (m.slots m.retireSlot).opacity = 0

/-- What `createObject` makes of a background component. -/
def newBackground (scene : Scene) (backgroundId : String) (m : LayerManager) : Background where
  serial := m.created
  backgroundId := backgroundId
  backgroundParams := scene.backgroundParams
  sceneData := scene.sceneData
  hudState := scene.agentState

/-- A new background in a slot becomes the current one, also that of the overlays. -/
def addBackground (scene : Scene) (backgroundId : String) (n : SlotName) (m : LayerManager) : LayerManager :=
  let bg := m.newBackground scene backgroundId
  { m.modifySlot n fun s => { s with children := s.children ++ [bg] } with
    toOverlayStack := { m.toOverlayStack with created := m.created + 1 }.setBackground bg.serial }

/-- `_loadBackground` up to the transition, when the object is created. -/
def loaded (scene : Scene) (backgroundId : String) (m : LayerManager) : LayerManager :=
  { m.modifySlot m.activeSlot Slot.destroyFirst with useA := !m.useA }.addBackground scene backgroundId m.activeSlot

/-- `_loadBackground`. The slots are chosen, and the first child of the target slot destroyed, before the object is
created. -/
def loadBackground (outcome : Outcome) (scene : Scene) (backgroundId transition : String) (m : LayerManager) : LayerManager :=
  match outcome with
  | .componentError => m
  | .createFailed => { m.modifySlot m.activeSlot Slot.destroyFirst with useA := !m.useA }
  | .created =>
    if m.instant transition then (m.loaded scene backgroundId).switchAtOnce m.activeSlot m.retireSlot
    else (m.loaded scene backgroundId).crossfade m.activeSlot m.retireSlot

/-! ## Handlers -/

def propagateSceneData (scene : Scene) (m : LayerManager) : LayerManager :=
  { m.modifyCurrent fun b => { b with sceneData := scene.sceneData } with toOverlayStack := m.setSceneData scene }

def propagateHudState (scene : Scene) (m : LayerManager) : LayerManager :=
  { m.modifyCurrent fun b => { b with hudState := scene.agentState } with toOverlayStack := m.setHudState scene }

/-- The handlers of `Connections`. -/
def onSignal (c : OverlayComponents) (outcome : Outcome) (m : LayerManager) : SceneSignal × Scene → LayerManager
  | (.activeBackgroundIdChanged, scene) =>
    m.loadBackground outcome scene scene.activeBackgroundId scene.sceneTransition
  | (.activeOverlayIdsChanged, scene) => { m with toOverlayStack := m.syncOverlays c scene }
  | (.sceneDataChanged, scene) => m.propagateSceneData scene
  | (.overlayParamsChanged, scene) => { m with toOverlayStack := m.propagateOverlayParams scene }
  | (.agentStateChanged, scene) => m.propagateHudState scene
  | (.backgroundParamsChanged, scene) => m.modifyCurrent fun b => { b with backgroundParams := scene.backgroundParams }
  | (.sceneTransitionChanged, _) => m

/-- `Component.onCompleted`. -/
def onCompleted (c : OverlayComponents) (outcome : Outcome) (scene : Scene) : LayerManager :=
  let m := loadBackground outcome scene scene.activeBackgroundId "instant" {}
  { m with toOverlayStack := m.syncOverlays c scene }

/-- `onFinished` of the fade-out, and `onTriggered` of the cleanup timer: end the retirement. -/
def endRetiring (m : LayerManager) : LayerManager :=
  match m.retiring with
  | none => m
  | some n => m.destroyRetiring.setOpacity n 0

/-- Control returns to the event loop: the objects destroyed are deleted. -/
def eventLoop (m : LayerManager) : LayerManager :=
  { m with
    slots := fun n => { m.slots n with children := (m.slots n).live }
    toOverlayStack := m.toOverlayStack.eventLoop }

/-- The fade-in is updated. -/
def fadeInTick (elapsed : Nat) (m : LayerManager) : LayerManager :=
  match m.fadeIn.running, m.fadeIn.target with
  | true, some n =>
    { m.setOpacity n (fadeValue 0 1 elapsed) with fadeIn := { m.fadeIn with running := elapsed < fadeDuration } }
  | _, _ => m

/-- The fade-out is updated; `finished` is emitted only when it has run to its end. -/
def fadeOutTick (elapsed : Nat) (m : LayerManager) : LayerManager :=
  match m.fadeOut.running, m.fadeOut.target with
  | true, some n =>
    let m := { m.setOpacity n (fadeValue 1 0 elapsed) with fadeOut := { m.fadeOut with running := elapsed < fadeDuration } }
    if elapsed < fadeDuration then m
    else if m.retiring = some n then m.endRetiring
    else m
  | _, _ => m

/-- The cleanup timer fires. -/
def onTriggered (m : LayerManager) : LayerManager :=
  if m.cleanupTimer then { m.endRetiring with cleanupTimer := false } else m

/-- What the event loop does with the layers on its own. -/
inductive Tick where
  | eventLoop
  | fadeIn (elapsed : Nat)
  | fadeOut (elapsed : Nat)
  | cleanup

/-- The animations and the timer are run from the event loop. -/
def tick (m : LayerManager) : Tick → LayerManager
  | .eventLoop => m.eventLoop
  | .fadeIn elapsed => m.eventLoop.fadeInTick elapsed
  | .fadeOut elapsed => m.eventLoop.fadeOutTick elapsed
  | .cleanup => m.eventLoop.onTriggered

/-- A background that loads, or something on the layers' own. -/
inductive Event where
  | load (scene : Scene) (backgroundId transition : String)
  | tick (t : Tick)

def step (m : LayerManager) : Event → LayerManager
  | .load scene backgroundId transition => m.loadBackground .created scene backgroundId transition
  | .tick t => m.tick t

end LayerManager

/-- The store and the layers that show it. -/
structure Hud where
  scene : Scene
  layers : LayerManager

/-- An operation on the store, with what a background that it loads comes to; or something on the layers' own. -/
inductive HudEvent where
  | op (op : SceneOp) (outcome : Outcome)
  | tick (t : LayerManager.Tick)

namespace Hud

/-- The layers are built over the store as it is. -/
def create (c : OverlayComponents) (outcome : Outcome) (scene : Scene) : Hud := ⟨scene, .onCompleted c outcome scene⟩

/-- The handlers run at each signal that an operation emits. -/
def step (c : OverlayComponents) (s : Hud) : HudEvent → Hud
  | .op op outcome =>
    let r := op.apply s.scene
    { scene := r.scene, layers := r.emitted.foldl (LayerManager.onSignal c outcome) s.layers }
  | .tick t => { s with layers := s.layers.tick t }

end Hud

/-- The component files of the repository: those of the overlays that load. -/
def OverlayComponents.shipped : OverlayComponents where
  loads id := overlayFiles.contains (toPascalCase id ++ "Overlay.qml")
  not_inherited := by decide

end PairionClient
