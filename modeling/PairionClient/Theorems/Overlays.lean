import PairionClient.Lemmas.LayerManager
import PairionClient.Lemmas.Scene
import PairionClient.Lib.Run

/-!
# The overlays shown are those of the store

The view is changed by the signals one at a time, and two of them may come from one operation. Between these two the live
overlays are still those of before; but the values of those that stay active are already the new ones, and the loops of
`_syncOverlays` then put the list in step.
-/

namespace PairionClient

open Transition

namespace OverlayStack

variable {st st' : OverlayStack} {scene scene' : Scene} {c : OverlayComponents}

theorem Shows.congr {current : Option Nat} {o : Overlay} (h : Shows scene current o)
    (hparams : scene'.overlayParams = scene.overlayParams) (hdata : scene'.sceneData = scene.sceneData)
    (hstate : scene'.agentState = scene.agentState) : Shows scene' current o :=
  ⟨by rw [hparams]; exact h.overlayParams, h.sceneData.trans hdata.symm, h.hudState.trans hstate.symm, h.background⟩

/-- Each overlay that is live, but for those named, is live after: the same object, for the same id. -/
def Keeps (st st' : OverlayStack) (gone : String → Prop) : Prop :=
  ∀ o ∈ st.live, ¬gone o.overlayId → ∃ o' ∈ st'.live, o'.serial = o.serial ∧ o'.overlayId = o.overlayId

theorem keeps_refl (st : OverlayStack) (gone : String → Prop) : Keeps st st gone :=
  fun o ho _ => ⟨o, ho, rfl, rfl⟩

end OverlayStack

/-- The ids that an event removes. -/
def HudEvent.removes : HudEvent → String → Prop
  | .op (.removeOverlay overlayId) _, id => overlayId = id
  | .op .clearOverlays _, _ => True
  | _, _ => False

namespace Hud

open OverlayStack LayerManager

variable {c : OverlayComponents} {s : Hud}

/-- The overlays shown are those of the store. -/
structure Mirrors (c : OverlayComponents) (s : Hud) : Prop where
  scene : s.scene.WellFormed
  inv : s.layers.toOverlayStack.Inv
  ids : s.layers.live.map (·.overlayId) = s.scene.activeOverlayIds.filter c.loads
  shows : ∀ o ∈ s.layers.live, Shows s.scene s.layers.currentBackground o

/-- A living overlay is active in the store. -/
theorem Mirrors.active (h : Mirrors c s) {o : Overlay} (ho : o ∈ s.layers.live) : o.overlayId ∈ s.scene.activeOverlayIds := by
  have hmem : o.overlayId ∈ s.layers.live.map (·.overlayId) := List.mem_map.2 ⟨o, ho, rfl⟩
  rw [h.ids] at hmem
  exact (List.mem_filter.1 hmem).1

/-- The overlays are in step after an event, and those that it does not remove are the same objects. -/
structure Follows (c : OverlayComponents) (s : Hud) (e : HudEvent) : Prop where
  mirrors : Mirrors c (s.step c e)
  keeps : Keeps s.layers.toOverlayStack (s.step c e).layers.toOverlayStack e.removes

/-- An operation that changes nothing emits nothing. -/
theorem Mirrors.silent (h : Mirrors c s) (op : SceneOp) (outcome : Outcome)
    (heq : op.apply s.scene = { scene := s.scene }) : Follows c s (.op op outcome) := by
  have hstep : s.step c (.op op outcome) = s := by
    simp [Hud.step, heq]
  exact ⟨hstep.symm ▸ h, hstep.symm ▸ keeps_refl _ _⟩

/-- An operation that announces one change runs one handler. -/
theorem step_of_signal (c : OverlayComponents) (op : SceneOp) (outcome : Outcome) {signal : SceneSignal} {scene' : Scene}
    (heq : op.apply s.scene = { scene := scene', emitted := [(signal, scene')] }) :
    s.step c (.op op outcome) = ⟨scene', onSignal c outcome s.layers (signal, scene')⟩ := by
  simp [Hud.step, heq]

/-! ## Operations on the overlays -/

/-- The two signals of an operation on the overlays, when those that stay active come first of those active after it. -/
theorem Mirrors.overlaysChanged (h : Mirrors c s) (op : SceneOp) (outcome : Outcome) {scene' : Scene}
    (heq : op.apply s.scene =
      { scene := scene', emitted := [(.overlayParamsChanged, scene'), (.activeOverlayIdsChanged, scene')] })
    (hwf : scene'.WellFormed) (hdata : scene'.sceneData = s.scene.sceneData) (hstate : scene'.agentState = s.scene.agentState)
    (hleading : (s.scene.activeOverlayIds.filter fun id => id ∈ scene'.activeOverlayIds) <+: scene'.activeOverlayIds) :
    Mirrors c (s.step c (.op op outcome)) ∧
      Keeps s.layers.toOverlayStack (s.step c (.op op outcome)).layers.toOverlayStack fun id =>
        id ∉ scene'.activeOverlayIds := by
  have hstep : s.step c (.op op outcome) =
      ⟨scene', { s.layers with toOverlayStack := (s.layers.propagateOverlayParams scene').syncOverlays c scene' }⟩ := by
    simp [Hud.step, heq, onSignal]
  rw [hstep]
  have hwritten := h.inv.propagateOverlayParams scene'
  set st := s.layers.toOverlayStack.propagateOverlayParams scene' with hst
  have hids : st.live.map (·.overlayId) = s.scene.activeOverlayIds.filter c.loads := by
    rw [hwritten.live, List.map_map, ← h.ids]
    exact List.map_congr_left fun o _ => withParams_overlayId scene' o
  have hshows : ∀ o ∈ st.live, o.overlayId ∈ scene'.activeOverlayIds → Shows scene' st.currentBackground o := by
    intro o ho hactive
    rw [hwritten.live] at ho
    obtain ⟨o, hold, rfl⟩ := List.mem_map.1 ho
    have hold := h.shows o hold
    rw [withParams_overlayId] at hactive
    exact shows_withParams ((hwf.keys _).1 hactive) (hold.sceneData.trans hdata.symm) (hold.hudState.trans hstate.symm)
      (hold.background.trans hwritten.current.symm)
  have hfirst : (st.live.filter fun o => o.overlayId ∈ scene'.activeOverlayIds).map (·.overlayId) <+:
      scene'.activeOverlayIds.filter c.loads := by
    have hmap : (st.live.filter fun o => o.overlayId ∈ scene'.activeOverlayIds).map (·.overlayId) =
        (s.scene.activeOverlayIds.filter fun id => id ∈ scene'.activeOverlayIds).filter c.loads := by
      calc _ = (st.live.map (·.overlayId)).filter fun id => id ∈ scene'.activeOverlayIds := List.filter_map.symm
        _ = (s.scene.activeOverlayIds.filter c.loads).filter fun id => id ∈ scene'.activeOverlayIds := by rw [hids]
        _ = _ := by simp only [List.filter_filter, Bool.and_comm]
    rw [hmap]
    exact hleading.filter c.loads
  have hsynced := hwritten.inv.sync c hwf.nodup (fun id hid => (hwf.keys id).1 hid) hfirst
  obtain ⟨added, hlive, hadded⟩ := hsynced.live
  refine ⟨⟨hwf, hsynced.inv, hsynced.ids, ?shows⟩, ?keeps⟩
  case shows =>
    intro o ho
    change o ∈ (st.syncOverlays c scene').live at ho
    change Shows scene' (st.syncOverlays c scene').currentBackground o
    rw [hsynced.current]
    rw [hlive] at ho
    rcases List.mem_append.1 ho with hkept | hnew
    · obtain ⟨hmem, hactive⟩ := List.mem_filter.1 hkept
      exact hshows o hmem (of_decide_eq_true hactive)
    · exact hadded o hnew
  case keeps =>
    intro o ho hactive
    have hmem : withParams scene' o ∈ st.live := hwritten.live ▸ List.mem_map_of_mem ho
    have hkept : withParams scene' o ∈ st.live.filter fun o => o.overlayId ∈ scene'.activeOverlayIds :=
      List.mem_filter.2 ⟨hmem, by simpa using hactive⟩
    refine ⟨withParams scene' o, ?_, withParams_serial scene' o, withParams_overlayId scene' o⟩
    change withParams scene' o ∈ (st.syncOverlays c scene').live
    rw [hlive]
    exact List.mem_append_left added hkept

/-- An added overlay appears, or gets its new parameters. -/
theorem Mirrors.addOverlay (h : Mirrors c s) (overlayId : String) (params : QJsonObject) (outcome : Outcome) :
    Follows c s (.op (.addOverlay overlayId params) outcome) := by
  have hold : s.scene.activeOverlayIds <+: (s.scene.addOverlay overlayId params).scene.activeOverlayIds := by
    simp only [Scene.addOverlay]
    split
    · exact List.prefix_refl _
    · exact List.prefix_append _ _
  have hleading : (s.scene.activeOverlayIds.filter fun id => id ∈ (s.scene.addOverlay overlayId params).scene.activeOverlayIds)
      <+: (s.scene.addOverlay overlayId params).scene.activeOverlayIds := by
    rw [List.filter_eq_self.2 fun id hid => decide_eq_true (hold.subset hid)]
    exact hold
  obtain ⟨hmirrors, hkeeps⟩ := h.overlaysChanged (.addOverlay overlayId params) outcome rfl
    (h.scene.addOverlay overlayId params) rfl rfl hleading
  exact ⟨hmirrors, fun o ho _ => hkeeps o ho fun hgone => hgone (hold.subset (h.active ho))⟩

/-- A removed overlay goes, and no other. -/
theorem Mirrors.removeOverlay (h : Mirrors c s) (overlayId : String) (outcome : Outcome) :
    Follows c s (.op (.removeOverlay overlayId) outcome) := by
  by_cases hid : overlayId ∈ s.scene.activeOverlayIds
  · set ids := s.scene.activeOverlayIds.filter (· ≠ overlayId) with hids
    set scene' : Scene :=
      { s.scene with activeOverlayIds := ids, overlayParams := s.scene.overlayParams.erase overlayId }
    have heq : s.scene.removeOverlay overlayId =
        { scene := scene', emitted := [(.overlayParamsChanged, scene'), (.activeOverlayIdsChanged, scene')] } := if_pos hid
    have hwf := h.scene.removeOverlay overlayId
    rw [heq] at hwf
    have hsame : (s.scene.activeOverlayIds.filter fun id => id ∈ ids) = ids :=
      List.filter_congr fun id hmem => by simp [hids, hmem]
    have hleading : (s.scene.activeOverlayIds.filter fun id => id ∈ ids) <+: ids := by rw [hsame]
    obtain ⟨hmirrors, hkeeps⟩ := h.overlaysChanged (.removeOverlay overlayId) outcome heq hwf rfl rfl hleading
    refine ⟨hmirrors, fun o ho hne => hkeeps o ho fun hgone => hgone ?_⟩
    exact List.mem_filter.2 ⟨h.active ho, by simpa using Ne.symm hne⟩
  · exact h.silent _ _ (if_neg hid)

/-- All overlays go. -/
theorem Mirrors.clearOverlays (h : Mirrors c s) (outcome : Outcome) : Follows c s (.op .clearOverlays outcome) := by
  by_cases hids : s.scene.activeOverlayIds = []
  · exact h.silent _ _ (if_pos hids)
  · set scene' : Scene := { s.scene with activeOverlayIds := [], overlayParams := ∅ }
    have heq : s.scene.clearOverlays =
        { scene := scene', emitted := [(.overlayParamsChanged, scene'), (.activeOverlayIdsChanged, scene')] } := if_neg hids
    have hwf := h.scene.clearOverlays
    rw [heq] at hwf
    have hleading : (s.scene.activeOverlayIds.filter fun id => id ∈ ([] : List String)) <+: [] := by simp
    obtain ⟨hmirrors, -⟩ := h.overlaysChanged .clearOverlays outcome heq hwf rfl rfl hleading
    exact ⟨hmirrors, fun o _ hkept => absurd trivial hkept⟩

/-! ## The other operations -/

/-- A step that writes to all live overlays alike, and leaves the list of the store. -/
theorem Mirrors.rewritten (h : Mirrors c s) {e : HudEvent} {f : Overlay → Overlay}
    (hids : (s.step c e).scene.activeOverlayIds = s.scene.activeOverlayIds)
    (hparams : (s.step c e).scene.overlayParams = s.scene.overlayParams)
    (hinv : (s.step c e).layers.toOverlayStack.Inv) (hlive : (s.step c e).layers.live = s.layers.live.map f)
    (hserial : ∀ o, (f o).serial = o.serial) (hid : ∀ o, (f o).overlayId = o.overlayId)
    (hshows : ∀ o, Shows s.scene s.layers.currentBackground o →
      Shows (s.step c e).scene (s.step c e).layers.currentBackground (f o)) : Follows c s e := by
  constructor
  case mirrors =>
    refine ⟨h.scene.congr hids hparams, hinv, ?_, ?_⟩
    · rw [hlive, List.map_map, hids, ← h.ids]
      exact List.map_congr_left fun o _ => hid o
    · rw [hlive, List.forall_mem_map]
      exact fun o ho => hshows o (h.shows o ho)
  case keeps => exact fun o ho _ => ⟨f o, hlive ▸ List.mem_map_of_mem ho, hserial o, hid o⟩

/-- A step that leaves the overlays, and what the store says of them. -/
theorem Mirrors.left (h : Mirrors c s) {e : HudEvent} (hids : (s.step c e).scene.activeOverlayIds = s.scene.activeOverlayIds)
    (hparams : (s.step c e).scene.overlayParams = s.scene.overlayParams)
    (hdata : (s.step c e).scene.sceneData = s.scene.sceneData) (hstate : (s.step c e).scene.agentState = s.scene.agentState)
    (hlayers : (s.step c e).layers.toOverlayStack = s.layers.toOverlayStack) : Follows c s e := by
  refine h.rewritten (f := id) hids hparams (hlayers ▸ h.inv) ?_ (fun _ => rfl) (fun _ => rfl) ?_
  · rw [hlayers, List.map_id]
  · intro o ho
    rw [hlayers]
    exact ho.congr hparams hdata hstate

/-- The state of the agent reaches every overlay. -/
theorem Mirrors.setAgentState (h : Mirrors c s) (state : String) (outcome : Outcome) :
    Follows c s (.op (.setAgentState state) outcome) := by
  by_cases hsame : s.scene.agentState = state
  · exact h.silent _ _ (if_pos hsame)
  · have heq : s.step c (.op (.setAgentState state) outcome) =
        ⟨{ s.scene with agentState := state }, s.layers.propagateHudState { s.scene with agentState := state }⟩ :=
      step_of_signal c (.setAgentState state) outcome (if_neg hsame)
    have hwritten := h.inv.setHudState { s.scene with agentState := state }
    refine h.rewritten (f := fun o => { o with hudState := state }) (by rw [heq]) (by rw [heq])
      (by rw [heq]; exact hwritten.inv) (by rw [heq]; exact hwritten.live) (fun _ => rfl) (fun _ => rfl) ?_
    intro o ho
    rw [heq]
    exact ⟨ho.overlayParams, ho.sceneData, rfl, ho.background.trans hwritten.current.symm⟩

/-- An operation that sets the scene data to `data` and emits its signal. -/
theorem Mirrors.sceneDataChanged (h : Mirrors c s) {e : HudEvent} {data : QVariantMap QJsonValue}
    (heq : s.step c e = ⟨{ s.scene with sceneData := data }, s.layers.propagateSceneData { s.scene with sceneData := data }⟩) :
    Follows c s e := by
  have hwritten := h.inv.setSceneData { s.scene with sceneData := data }
  refine h.rewritten (f := fun o => { o with sceneData := data }) (by rw [heq]) (by rw [heq])
    (by rw [heq]; exact hwritten.inv) (by rw [heq]; exact hwritten.live) (fun _ => rfl) (fun _ => rfl) ?_
  intro o ho
  rw [heq]
  exact ⟨ho.overlayParams, rfl, ho.hudState, ho.background.trans hwritten.current.symm⟩

theorem Mirrors.clearSceneData (h : Mirrors c s) (outcome : Outcome) : Follows c s (.op .clearSceneData outcome) := by
  by_cases hnone : s.scene.sceneData.entries.isEmpty = true
  · exact h.silent _ _ (if_pos hnone)
  · exact h.sceneDataChanged (step_of_signal c .clearSceneData outcome (if_neg hnone))

/-- A load of a background, after an operation that leaves what the store says of the overlays. -/
theorem Mirrors.loaded (h : Mirrors c s) {e : HudEvent} {m : LayerManager} {scene : Scene} {outcome : Outcome}
    {id transition : String} (hm : m.toOverlayStack = s.layers.toOverlayStack)
    (hlayers : (s.step c e).layers = m.loadBackground outcome scene id transition)
    (hids : (s.step c e).scene.activeOverlayIds = s.scene.activeOverlayIds)
    (hparams : (s.step c e).scene.overlayParams = s.scene.overlayParams)
    (hdata : (s.step c e).scene.sceneData = s.scene.sceneData)
    (hstate : (s.step c e).scene.agentState = s.scene.agentState) : Follows c s e := by
  have hstack := toOverlayStack_loadBackground m outcome scene id transition
  rw [← hlayers, hm] at hstack
  by_cases hcreated : outcome = .created
  · rw [if_pos hcreated] at hstack
    obtain ⟨hinv, hlive, hcurrent⟩ := h.inv.setBackground
    rw [← hstack] at hinv hlive hcurrent
    refine h.rewritten hids hparams hinv hlive (fun _ => rfl) (fun _ => rfl) ?_
    intro o ho
    exact ⟨by rw [hparams]; exact ho.overlayParams, ho.sceneData.trans hdata.symm, ho.hudState.trans hstate.symm, hcurrent.symm⟩
  · rw [if_neg hcreated] at hstack
    exact h.left hids hparams hdata hstate hstack

/-- Another background leaves the overlays, which learn of it. -/
theorem Mirrors.setActiveBackgroundId (h : Mirrors c s) (backgroundId : String) (outcome : Outcome) :
    Follows c s (.op (.setActiveBackgroundId backgroundId) outcome) := by
  by_cases hsame : s.scene.activeBackgroundId = backgroundId
  · exact h.silent _ _ (if_pos hsame)
  · have heq : s.step c (.op (.setActiveBackgroundId backgroundId) outcome) =
        ⟨{ s.scene with activeBackgroundId := backgroundId },
          s.layers.loadBackground outcome { s.scene with activeBackgroundId := backgroundId } backgroundId
            s.scene.sceneTransition⟩ := step_of_signal c (.setActiveBackgroundId backgroundId) outcome (if_neg hsame)
    exact h.loaded rfl (congrArg Hud.layers heq) (by rw [heq]) (by rw [heq]) (by rw [heq]) (by rw [heq])

/-- A transition that is set leaves the overlays. -/
theorem Mirrors.setSceneTransition (h : Mirrors c s) (transition : String) (outcome : Outcome) :
    Follows c s (.op (.setSceneTransition transition) outcome) := by
  by_cases hsame : s.scene.sceneTransition = transition
  · exact h.silent _ _ (if_pos hsame)
  · have heq : s.step c (.op (.setSceneTransition transition) outcome) =
        ⟨{ s.scene with sceneTransition := transition }, s.layers⟩ :=
      step_of_signal c (.setSceneTransition transition) outcome (if_neg hsame)
    exact h.left (by rw [heq]) (by rw [heq]) (by rw [heq]) (by rw [heq]) (by rw [heq])

/-- The parameters are given to the background before, and the new one is loaded when the id has changed. -/
theorem Mirrors.setBackground (h : Mirrors c s) (backgroundId : String) (params : QJsonObject) (transition : String)
    (outcome : Outcome) : Follows c s (.op (.setBackground backgroundId params transition) outcome) := by
  set scene' := (s.scene.setBackground backgroundId params transition).scene with hscene'
  set m := s.layers.modifyCurrent fun b => { b with backgroundParams := params } with hm
  have hstack : m.toOverlayStack = s.layers.toOverlayStack := toOverlayStack_modifyCurrent _ _
  have hlayers : (s.step c (.op (.setBackground backgroundId params transition) outcome)).layers =
      if s.scene.activeBackgroundId = backgroundId then m
      else m.loadBackground outcome scene' backgroundId scene'.sceneTransition := by
    -- the signal of the transition is not handled
    have hquiet : (if s.scene.sceneTransition = scene'.sceneTransition then []
        else [(SceneSignal.sceneTransitionChanged, scene')]).foldl (onSignal c outcome) s.layers = s.layers := by
      split <;> rfl
    have hemitted : (s.scene.setBackground backgroundId params transition).emitted =
        (if s.scene.sceneTransition = scene'.sceneTransition then [] else [(.sceneTransitionChanged, scene')]) ++
          [(.backgroundParamsChanged, scene')] ++
          (if s.scene.activeBackgroundId = backgroundId then [] else [(.activeBackgroundIdChanged, scene')]) := rfl
    change (s.scene.setBackground backgroundId params transition).emitted.foldl (onSignal c outcome) s.layers = _
    rw [hemitted, List.foldl_append, List.foldl_append, hquiet]
    by_cases hsame : s.scene.activeBackgroundId = backgroundId
    · rw [if_pos hsame, if_pos hsame]
      rfl
    · rw [if_neg hsame, if_neg hsame]
      rfl
  by_cases hsame : s.scene.activeBackgroundId = backgroundId
  · rw [if_pos hsame] at hlayers
    exact h.left rfl rfl rfl rfl (hlayers ▸ hstack)
  · rw [if_neg hsame] at hlayers
    exact h.loaded hstack hlayers rfl rfl rfl rfl

/-! ## The layers on their own -/

/-- A tick leaves the living overlays. -/
theorem Mirrors.tick (h : Mirrors c s) (t : LayerManager.Tick) : Follows c s (.tick t) := by
  have hstack : (s.step c (.tick t)).layers.toOverlayStack = s.layers.toOverlayStack.eventLoop :=
    toOverlayStack_tick s.layers t
  refine h.rewritten (f := id) rfl rfl (hstack ▸ h.inv.eventLoop) ?_ (fun _ => rfl) (fun _ => rfl) ?_
  · rw [hstack, live_eventLoop, List.map_id]
  · intro o ho
    rw [hstack]
    exact ho

/-! ## A run -/

/-- After every event the overlays mirror the store, and the kept ones are the same objects. -/
theorem Mirrors.follows (h : Mirrors c s) (e : HudEvent) : Follows c s e := by
  cases e with
  | tick t => exact h.tick t
  | op op outcome =>
    cases op with
    | setAgentState state => exact h.setAgentState state outcome
    | setBackground backgroundId params transition => exact h.setBackground backgroundId params transition outcome
    | setActiveBackgroundId backgroundId => exact h.setActiveBackgroundId backgroundId outcome
    | addOverlay overlayId params => exact h.addOverlay overlayId params outcome
    | removeOverlay overlayId => exact h.removeOverlay overlayId outcome
    | clearOverlays => exact h.clearOverlays outcome
    | setSceneData modelId data => exact h.sceneDataChanged rfl
    | clearSceneData => exact h.clearSceneData outcome
    | setSceneTransition transition => exact h.setSceneTransition transition outcome

theorem mirrors_create (c : OverlayComponents) (outcome : Outcome) {scene : Scene} (h : scene.WellFormed) :
    Mirrors c (create c outcome scene) := by
  have hbase : OverlayStack.Inv {} := ⟨rfl, List.nodup_nil, List.nodup_nil, by simp⟩
  set m := loadBackground outcome scene scene.activeBackgroundId "instant" {} with hm
  have hstack : m.toOverlayStack.Inv ∧ m.live = [] := by
    rw [hm, toOverlayStack_loadBackground]
    split
    · obtain ⟨hinv, hlive, -⟩ := hbase.setBackground
      exact ⟨hinv, hlive⟩
    · exact ⟨hbase, rfl⟩
  have hfirst : (m.live.filter fun o => o.overlayId ∈ scene.activeOverlayIds).map (·.overlayId) <+:
      scene.activeOverlayIds.filter c.loads := by
    rw [hstack.2]
    exact List.nil_prefix
  have hsynced := hstack.1.sync c h.nodup (fun id hid => (h.keys id).1 hid) hfirst
  refine ⟨h, hsynced.inv, hsynced.ids, ?_⟩
  obtain ⟨added, hlive, hadded⟩ := hsynced.live
  intro o ho
  change o ∈ (m.toOverlayStack.syncOverlays c scene).live at ho
  change Shows scene (m.toOverlayStack.syncOverlays c scene).currentBackground o
  rw [hlive, hstack.2] at ho
  rw [hsynced.current]
  exact hadded o ho

/-- What is shown: the overlays that load, in the order of the store and each once, with the current values. -/
structure InStep (c : OverlayComponents) (s : Hud) : Prop where
  ids : s.layers.live.map (·.overlayId) = s.scene.activeOverlayIds.filter c.loads
  once : (s.layers.live.map (·.overlayId)).Nodup
  instances : (s.layers.live.map (·.serial)).Nodup
  shows : ∀ o ∈ s.layers.live, Shows s.scene s.layers.currentBackground o

/-- Over any operations, before the layers are built and after, with ticks of the animations and the timer in between and
whatever the backgrounds come to: the overlays shown are those of the store, and one that is neither removed nor cleared
stays the same object. -/
theorem overlays_mirror_store (c : OverlayComponents) (before : List SceneOp) (outcome : Outcome) (es : List HudEvent) :
    InStep c (run (Hud.step c) (create c outcome (run Scene.step {} before)) es) ∧
      EveryStep (Hud.step c)
        (fun s e => Keeps s.layers.toOverlayStack (s.step c e).layers.toOverlayStack e.removes)
        (create c outcome (run Scene.step {} before)) es := by
  have hwf : (run Scene.step {} before).WellFormed :=
    inv_run_of_step Scene.WellFormed (fun s op h => h.apply op) before Scene.wellFormed_default
  have hstart := mirrors_create c outcome hwf
  constructor
  · have h := inv_run_of_step (Mirrors c) (fun s e h => (Mirrors.follows h e).mirrors) es hstart
    exact ⟨h.ids, h.inv.ids, h.inv.live_serials, h.shows⟩
  · exact everyStep_of_inv (Mirrors c) (fun s e h => (Mirrors.follows h e).mirrors)
      (fun s e h => (Mirrors.follows h e).keeps) es hstart

/-- An overlay without a component is in the store and is not shown. -/
example :
    let add (id : String) : HudEvent := .op (.addOverlay id []) .created
    (run (Hud.step .shipped) (create .shipped .created {}) [add "weather_radar", add "clock", add "adsb"]).layers.live.map
      (·.overlayId) = ["weather_radar", "adsb"] := by
  decide

end Hud

end PairionClient
