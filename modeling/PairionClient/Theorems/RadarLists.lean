import PairionClient.Lemmas.RadarHud
import PairionClient.Theorems.BackgroundParams
import PairionClient.Theorems.MapCentre
import PairionClient.Theorems.Overlays
import PairionClient.Theorems.RadarCoverage

/-!
# The lists of the radar

The lists are built again when the overlay gets another background, when the window gets another size, and when frames
arrive. They are not when the background shown gets other parameters, when the overlay does, or when an answer names a host
and no frames.
-/

namespace PairionClient

open Transition

namespace RadarHud

open LayerManager WeatherRadarOverlay

/-! ## What is to be drawn -/

/-- What the lists of an overlay are to be built from: the background shown, the parameters that the store has, and the
size. -/
noncomputable def currentInputs (s : RadarHud) (overlayId : String) : RadarInputs where
  background := (s.layers.deref s.layers.currentBackground).map (Background.view s.width s.height)
  zoom := (s.scene.overlayParams.lookup overlayId).bind fun params => QJsonObject.number params "zoom"
  width := s.width
  height := s.height

/-- A tile spans what the bridge of the background shown makes of its corners. -/
def Spans (s : RadarHud) (t : RadarTile) : Prop :=
  ∃ b, s.layers.deref s.layers.currentBackground = some b ∧ ∃ z tx ty : ℤ,
    let nw := tileNW z tx ty
    let se := tileNW z (tx + 1) (ty + 1)
    let p1 := (b.view s.width s.height).latLonToScreen nw.1 nw.2
    let p2 := (b.view s.width s.height).latLonToScreen se.1 se.2
    t.x = round p1.1 ∧ t.y = round p1.2 ∧ t.w = round (p2.1 - p1.1) ∧ t.h = round (p2.2 - p1.2)

/-- The radar is drawn on the map that is shown. -/
structure Aligned (s : RadarHud) : Prop where
  current : ∀ o ∈ s.layers.live, o.isRadar = true → (s.radars o.serial).Current (s.currentInputs o.overlayId)
  spans : ∀ o ∈ s.layers.live, o.isRadar = true → ∀ t ∈ (s.radars o.serial).tileListA ++ (s.radars o.serial).tileListB, s.Spans t

/-- A change that builds no list again changes nothing that an overlay with data reads. -/
def Steady (s : RadarHud) : RadarEvent → Prop
  | .hud (.op (.setBackground backgroundId params _) outcome) =>
    s.scene.activeBackgroundId = backgroundId ∨ outcome ≠ .created → (∃ o ∈ s.layers.live, s.Loaded o) →
      ∀ b, s.layers.deref s.layers.currentBackground = some b →
        ReadAlike b.backgroundId (.ofJson b.backgroundParams) (.ofJson params)
  | .hud (.op (.addOverlay overlayId params) _) =>
    ∀ o ∈ s.layers.live, s.Loaded o → o.overlayId = overlayId →
      radarZoom (QJsonObject.number o.overlayParams "zoom") = radarZoom (QJsonObject.number params "zoom")
  | .response serial r => ∀ o ∈ s.layers.live, o.serial = serial → o.isRadar = true → (s.radars serial).KeepsHost r
  | _ => True

/-- Every tile of a list is a square of the background, rounded. -/
theorem mem_buildTileList {i : RadarInputs} {host path : String} {t : RadarTile} (h : t ∈ buildTileList i host path) :
    ∃ bg, i.background = some bg ∧ ∃ z tx ty, t = (square bg host path z tx ty).rounded := by
  obtain ⟨sq, hsq, rfl⟩ := List.mem_map.1 h
  unfold squares at hsq
  split at hsq
  · exact absurd hsq List.not_mem_nil
  · rename_i bg hbg
    split at hsq
    · exact absurd hsq List.not_mem_nil
    · obtain ⟨ty, -, hrow⟩ := List.mem_flatMap.1 hsq
      obtain ⟨tx, -, rfl⟩ := List.mem_map.1 (List.mem_filter.1 hrow).1
      exact ⟨bg, hbg, _, tx, ty, rfl⟩

variable {c : OverlayComponents} {s : RadarHud} {outcome : Outcome}

/-- What is right for the overlay object is right for the store. -/
theorem AllCurrent.aligned (h : AllCurrent s) (hmirrors : Hud.Mirrors c s.toHud) : Aligned s := by
  have hinputs : ∀ o ∈ s.layers.live, s.inputs o.serial = s.currentInputs o.overlayId := by
    intro o ho
    have hfind := findOverlay_of_mem hmirrors.inv ho
    have hshows := hmirrors.shows o ho
    rw [inputs, radarInputs, backgroundOf, hfind, Option.bind_some, Option.bind_some, hshows.background, currentInputs,
      hshows.overlayParams, Option.bind_some]
  have hcurrent : ∀ o ∈ s.layers.live, o.isRadar = true → (s.radars o.serial).Current (s.currentInputs o.overlayId) := by
    intro o ho hradar
    rw [← hinputs o ho]
    exact h o ho hradar
  refine ⟨hcurrent, fun o ho hradar t ht => ?_⟩
  obtain ⟨hA, hB⟩ := hcurrent o ho hradar
  have hlist : ∃ k, t ∈ listOf (s.currentInputs o.overlayId) (s.radars o.serial) k := by
    rcases List.mem_append.1 ht with ht | ht
    · exact ⟨0, hA ▸ ht⟩
    · exact ⟨1, hB ▸ ht⟩
  obtain ⟨k, hk⟩ := hlist
  unfold listOf at hk
  split at hk
  · exact absurd hk List.not_mem_nil
  · obtain ⟨bg, hbg, z, tx, ty, rfl⟩ := mem_buildTileList hk
    obtain ⟨b, hb, rfl⟩ := Option.map_eq_some_iff.1 hbg
    exact ⟨b, hb, z, tx, ty, rfl, rfl, rfl, rfl⟩

/-! ## Signals -/

/-- A signal whose handler changes nothing that a radar overlay reads. -/
def Quiet (outcome : Outcome) : SceneSignal → Prop
  | .backgroundParamsChanged => False
  | .overlayParamsChanged => False
  | .activeBackgroundIdChanged => outcome ≠ .created
  | _ => True

/-- A quiet signal leaves the cards of the backgrounds. -/
theorem read_onSignal {m : LayerManager} {outcome : Outcome} {x : SceneSignal × Scene} (h : Quiet outcome x.1)
    (c : OverlayComponents) (n : SlotName) : (m.onSignal c outcome x).read card n = m.read card n := by
  obtain ⟨signal, scene⟩ := x
  cases signal with
  | backgroundParamsChanged => exact h.elim
  | overlayParamsChanged => exact h.elim
  | activeOverlayIdsChanged => rfl
  | sceneTransitionChanged => rfl
  | sceneDataChanged =>
    have hwritten := read_modifyCurrent (m := m) (f := card) (g := fun b => { b with sceneData := scene.sceneData })
      (fun _ => rfl) n
    exact hwritten
  | agentStateChanged =>
    have hwritten := read_modifyCurrent (m := m) (f := card) (g := fun b => { b with hudState := scene.agentState })
      (fun _ => rfl) n
    exact hwritten
  | activeBackgroundIdChanged =>
    cases outcome with
    | componentError => rfl
    | createFailed => exact read_modifySlot (m := m) (f := card) (read_destroyFirst fun _ => rfl) m.activeSlot n
    | created => exact absurd rfl h

/-- After a quiet signal a living overlay is new, or was there with its parameters. -/
theorem live_onSignal {m : LayerManager} (hinv : m.toOverlayStack.Inv) {outcome : Outcome} {x : SceneSignal × Scene}
    (h : Quiet outcome x.1) {c : OverlayComponents} {o' : Overlay} (ho' : o' ∈ (m.onSignal c outcome x).live) :
    m.created ≤ o'.serial ∨
      ∃ o ∈ m.live, o.serial = o'.serial ∧ o.overlayId = o'.overlayId ∧ o.overlayParams = o'.overlayParams := by
  obtain ⟨signal, scene⟩ := x
  have hsame : o' ∈ m.live → m.created ≤ o'.serial ∨
      ∃ o ∈ m.live, o.serial = o'.serial ∧ o.overlayId = o'.overlayId ∧ o.overlayParams = o'.overlayParams :=
    fun ho => Or.inr ⟨o', ho, rfl, rfl, rfl⟩
  cases signal with
  | backgroundParamsChanged => exact h.elim
  | overlayParamsChanged => exact h.elim
  | sceneTransitionChanged => exact hsame ho'
  | activeOverlayIdsChanged =>
    rcases (OverlayStack.createdOnly_syncOverlays c scene _).live o' ho' with hold | hnew
    · exact hsame hold
    · exact Or.inl hnew
  | sceneDataChanged =>
    change o' ∈ (m.setSceneData scene).live at ho'
    rw [(hinv.setSceneData scene).live] at ho'
    obtain ⟨o, ho, rfl⟩ := List.mem_map.1 ho'
    exact Or.inr ⟨o, ho, rfl, rfl, rfl⟩
  | agentStateChanged =>
    change o' ∈ (m.setHudState scene).live at ho'
    rw [(hinv.setHudState scene).live] at ho'
    obtain ⟨o, ho, rfl⟩ := List.mem_map.1 ho'
    exact Or.inr ⟨o, ho, rfl, rfl, rfl⟩
  | activeBackgroundIdChanged =>
    have hstack := toOverlayStack_loadBackground m outcome scene scene.activeBackgroundId scene.sceneTransition
    rw [if_neg h] at hstack
    change o' ∈ (m.loadBackground outcome scene scene.activeBackgroundId scene.sceneTransition).live at ho'
    rw [hstack] at ho'
    exact hsame ho'

/-- After a quiet signal all lists are as they should be. -/
theorem AllCurrent.onSignal (h : AllCurrent s) (hbased : Based s) (hinv : s.layers.toOverlayStack.Inv) {outcome : Outcome}
    {x : SceneSignal × Scene} (hquiet : Quiet outcome x.1) (c : OverlayComponents)
    (hinv' : (s.layers.onSignal c outcome x).toOverlayStack.Inv) : AllCurrent (s.moveTo (s.layers.onSignal c outcome x)) := by
  refine h.moveTo hbased hinv hinv' (fun _ serial b b' => ?_) fun o' ho' => ?_
  · exact alike_of_read hbased.numbered (hbased.numbered.onSignal c outcome x) fun n => by rw [read_onSignal hquiet c n]
  · rcases live_onSignal hinv hquiet ho' with hnew | ⟨o, ho, hserial, hid, hparams⟩
    · exact Or.inl hnew
    · exact Or.inr ⟨o, ho, hserial, hid, fun _ => by rw [hparams]⟩

/-! ## Steps -/

/-- Moving to the same layers changes nothing. -/
theorem moveTo_layers (s : RadarHud) : s.moveTo s.layers = s := by
  have hradars : (s.moveTo s.layers).radars = s.radars := funext fun serial => if_pos rfl
  exact congrArg (fun radars => { s with radars := radars }) hradars

/-- An event of the HUD does to its layers what it does without radars. -/
theorem toHud_step (c : OverlayComponents) (s : RadarHud) (e : HudEvent) : (s.step c (.hud e)).toHud = s.toHud.step c e := by
  cases e with
  | tick t => rfl
  | op op outcome =>
    have hlayers : ∀ (xs : List (SceneSignal × Scene)) (s : RadarHud),
        (xs.foldl (fun s x => s.moveTo (s.layers.onSignal c outcome x)) s).layers = xs.foldl (onSignal c outcome) s.layers := by
      intro xs
      induction xs with
      | nil => exact fun _ => rfl
      | cons x xs ih => exact fun s => ih _
    exact congrArg (Hud.mk _) (hlayers _ s)

/-- Between the events all is as it should be. -/
structure Inv (c : OverlayComponents) (s : RadarHud) : Prop where
  mirrors : Hud.Mirrors c s.toHud
  based : Based s
  current : AllCurrent s

/-- A signal takes back no number. -/
theorem created_le_onSignal (m : LayerManager) (c : OverlayComponents) (outcome : Outcome) (x : SceneSignal × Scene) :
    m.created ≤ (m.onSignal c outcome x).created := by
  obtain ⟨signal, scene⟩ := x
  cases signal with
  | activeBackgroundIdChanged =>
    change m.created ≤ (m.loadBackground outcome scene scene.activeBackgroundId scene.sceneTransition).created
    cases outcome with
    | created =>
      rw [created_loadBackground]
      exact Nat.le_succ _
    | _ => exact Nat.le_refl _
  | backgroundParamsChanged => exact (congrArg OverlayStack.created (m.toOverlayStack_modifyCurrent _)).symm.le
  | sceneTransitionChanged => exact Nat.le_refl _
  | activeOverlayIdsChanged => exact (OverlayStack.createdOnly_syncOverlays c scene _).created
  | overlayParamsChanged => exact (OverlayStack.created_forOverlays _ _).ge
  | sceneDataChanged => exact (OverlayStack.created_forOverlays _ _).ge
  | agentStateChanged => exact (OverlayStack.created_forOverlays _ _).ge

/-- Every signal keeps the numbers, and new overlays without data. -/
theorem Based.onSignal (h : Based s) (c : OverlayComponents) (outcome : Outcome) (x : SceneSignal × Scene) :
    Based (s.moveTo (s.layers.onSignal c outcome x)) :=
  h.moveTo (h.numbered.onSignal c outcome x) (created_le_onSignal _ c outcome x)

/-- A handler for each dimension that changes. -/
theorem radars_resize (h : Based s) (width height : ℝ) (serial : Nat) :
    ((s.resize width height).radars serial).Sound ∧
      ((s.radars serial).Current (s.layers.radarInputs s.width s.height serial) →
        ((s.resize width height).radars serial).Current (s.layers.radarInputs width height serial)) := by
  set i := s.layers.radarInputs width height serial with hi
  have hwidth : (if width = s.width then s.radars serial else (s.radars serial).onChanged i).Sound ∧
      (width ≠ s.width → (if width = s.width then s.radars serial else (s.radars serial).onChanged i).Current i) := by
    split
    · rename_i hsame
      exact ⟨h.sound serial, fun hne => absurd hsame hne⟩
    · obtain ⟨hsound, hcurrent⟩ := (h.sound serial).onChanged i
      exact ⟨hsound, fun _ => hcurrent⟩
  change WeatherRadarOverlay.Sound (if height = s.height then _ else WeatherRadarOverlay.onChanged i _) ∧
    (_ → WeatherRadarOverlay.Current i (if height = s.height then _ else WeatherRadarOverlay.onChanged i _))
  by_cases hheight : height = s.height
  · rw [if_pos hheight]
    refine ⟨hwidth.1, fun hcurrent => ?_⟩
    by_cases hsame : width = s.width
    · rw [if_pos hsame, hi, hsame, hheight]
      exact hcurrent
    · exact hwidth.2 hsame
  · rw [if_neg hheight]
    obtain ⟨hsound, hcurrent⟩ := hwidth.1.onChanged i
    exact ⟨hsound, fun _ => hcurrent⟩

theorem Based.step (h : Based s) (hinv : s.layers.toOverlayStack.Inv) (c : OverlayComponents) (e : RadarEvent) :
    Based (s.step c e) := by
  cases e with
  | hud e =>
    cases e with
    | op op outcome =>
      have hfold := List.foldlRecOn (op.apply s.scene).emitted (fun s x => s.moveTo (s.layers.onSignal c outcome x))
        (motive := Based) h fun s hs x _ => hs.onSignal c outcome x
      exact ⟨hfold.numbered, hfold.fresh, hfold.sound⟩
    | tick t =>
      have hcreated : s.layers.created = (s.layers.tick t).created := by rw [toOverlayStack_tick]; rfl
      exact h.moveTo (h.numbered.tick t) hcreated.le
  | resize width height =>
    refine ⟨h.numbered, fun serial hserial => ?_, fun serial => (radars_resize h width height serial).1⟩
    have hfresh := h.fresh serial hserial
    change (if height = s.height then if width = s.width then s.radars serial else _ else WeatherRadarOverlay.onChanged _ _) = _
    rw [hfresh]
    split <;> split <;> rfl
  | response serial r =>
    rw [RadarHud.step]
    split
    · rename_i hexists
      obtain ⟨o, ho⟩ := Option.isSome_iff_exists.1 hexists
      have hserial : o.serial = serial := by simpa using List.find?_some ho
      have hlt : serial < s.layers.created := hserial ▸ hinv.fresh o (List.mem_of_find?_eq_some ho)
      refine ⟨h.numbered, fun serial' hserial' => ?_, fun serial' => ?_⟩
      · change Function.update s.radars serial _ serial' = _
        rw [Function.update_of_ne (hlt.trans_le hserial').ne']
        exact h.fresh serial' hserial'
      · change (Function.update s.radars serial _ serial').Sound
        by_cases hself : serial' = serial
        · rw [hself, Function.update_self]
          exact ((h.sound serial).onResponse _ r).1
        · rw [Function.update_of_ne hself]
          exact h.sound serial'
    · exact h

/-- An operation that announces nothing keeps the invariant. -/
theorem Inv.silent (h : Inv c s) {op : SceneOp} {outcome : Outcome} (heq : op.apply s.scene = { scene := s.scene }) :
    AllCurrent (s.step c (.hud (.op op outcome))) := by
  have hstep : s.step c (.hud (.op op outcome)) = s := by
    simp [RadarHud.step, heq]
  exact hstep.symm ▸ h.current

/-- An operation that announces one quiet change keeps the invariant. -/
theorem Inv.signal (h : Inv c s) {op : SceneOp} {outcome : Outcome} {signal : SceneSignal} {scene' : Scene}
    (heq : op.apply s.scene = { scene := scene', emitted := [(signal, scene')] }) (hquiet : Quiet outcome signal) :
    AllCurrent (s.step c (.hud (.op op outcome))) := by
  have hinv' := (h.mirrors.follows (.op op outcome)).mirrors.inv
  rw [Hud.step_of_signal c op outcome heq] at hinv'
  have hstep : s.step c (.hud (.op op outcome)) =
      { s.moveTo (s.layers.onSignal c outcome (signal, scene')) with scene := scene' } := by
    simp [RadarHud.step, heq]
  rw [hstep]
  exact h.current.onSignal h.based h.mirrors.inv hquiet c hinv'

/-- A load, whatever it comes to: an object that is created brings the lists up to date, and a failure leaves what is
read. -/
theorem AllCurrent.load (h : outcome ≠ .created → AllCurrent s) (hbased : Based s) (hinv : s.layers.toOverlayStack.Inv)
    (c : OverlayComponents) (scene : Scene) :
    AllCurrent (s.moveTo (s.layers.onSignal c outcome (.activeBackgroundIdChanged, scene))) := by
  by_cases hcreated : outcome = .created
  · rw [hcreated]
    exact hbased.allCurrent_load hinv scene scene.activeBackgroundId scene.sceneTransition
  · have hstack := toOverlayStack_loadBackground s.layers outcome scene scene.activeBackgroundId scene.sceneTransition
    rw [if_neg hcreated] at hstack
    have hquiet : Quiet outcome (SceneSignal.activeBackgroundIdChanged, scene).1 := hcreated
    refine (h hcreated).onSignal hbased hinv hquiet c ?_
    change (s.layers.loadBackground outcome scene scene.activeBackgroundId scene.sceneTransition).toOverlayStack.Inv
    rw [hstack]
    exact hinv

/-- The two signals of an operation on the overlays, which gives none with data another zoom. -/
theorem Inv.overlaysChanged (h : Inv c s) {op : SceneOp} {outcome : Outcome} {scene' : Scene}
    (heq : op.apply s.scene =
      { scene := scene', emitted := [(.overlayParamsChanged, scene'), (.activeOverlayIdsChanged, scene')] })
    (hzoom : ∀ o ∈ s.layers.live, s.Loaded o → ∀ params, scene'.overlayParams.lookup o.overlayId = some params →
      radarZoom (QJsonObject.number o.overlayParams "zoom") = radarZoom (QJsonObject.number params "zoom")) :
    AllCurrent (s.step c (.hud (.op op outcome))) := by
  have hinv' := (h.mirrors.follows (.op op outcome)).mirrors.inv
  rw [← toHud_step] at hinv'
  have hstep : s.step c (.hud (.op op outcome)) =
      { ((s.moveTo (s.layers.onSignal c outcome (.overlayParamsChanged, scene'))).moveTo
          ((s.layers.onSignal c outcome (.overlayParamsChanged, scene')).onSignal c outcome (.activeOverlayIdsChanged, scene')))
        with scene := scene' } := by
    rw [RadarHud.step, heq]
    rfl
  rw [hstep] at hinv' ⊢
  have hwritten := h.mirrors.inv.propagateOverlayParams scene'
  have hfirst : AllCurrent (s.moveTo (s.layers.onSignal c outcome (.overlayParamsChanged, scene'))) := by
    refine h.current.moveTo h.based h.mirrors.inv hwritten.inv (fun _ serial b b' hb hb' => ?_) fun o' ho' => ?_
    · obtain rfl := Option.some.inj (hb.symm.trans hb')
      exact ⟨rfl, readAlike_refl _ _⟩
    · change o' ∈ (s.layers.propagateOverlayParams scene').live at ho'
      rw [hwritten.live] at ho'
      obtain ⟨o, ho, rfl⟩ := List.mem_map.1 ho'
      refine Or.inr ⟨o, ho, (OverlayStack.withParams_serial scene' o).symm, (OverlayStack.withParams_overlayId scene' o).symm, ?_⟩
      intro hloaded
      unfold OverlayStack.withParams
      split
      · rfl
      · exact hzoom o ho hloaded _ ‹_›
  have hquiet : Quiet outcome (SceneSignal.activeOverlayIdsChanged, scene').1 := trivial
  exact hfirst.onSignal (h.based.onSignal c outcome _) hwritten.inv hquiet c hinv'

/-- The parameters are written to the background shown, which reads them as it read those before. -/
theorem AllCurrent.written (h : AllCurrent s) (hbased : Based s) (hinv : s.layers.toOverlayStack.Inv) {params : QJsonObject}
    (hread : (∃ o ∈ s.layers.live, s.Loaded o) → ∀ b, s.layers.deref s.layers.currentBackground = some b →
      ReadAlike b.backgroundId (.ofJson b.backgroundParams) (.ofJson params)) :
    AllCurrent (s.moveTo (s.layers.modifyCurrent fun b => { b with backgroundParams := params })) := by
  set written := s.layers.modifyCurrent fun b => { b with backgroundParams := params } with hwritten
  have hstack : written.toOverlayStack = s.layers.toOverlayStack := toOverlayStack_modifyCurrent _ _
  refine h.moveTo hbased hinv (hstack ▸ hinv) (fun hsome serial b b' hb hb' => ?_) fun o' ho' => ?_
  · have hnumbered : written.Numbered := hbased.numbered.modifyCurrent fun _ => rfl
    obtain ⟨⟨n, hmem'⟩, hserial'⟩ := hnumbered.findBackground_iff.1 hb'
    cases hcurrent : s.layers.currentBackground with
    | none =>
      have hself : written = s.layers := by rw [hwritten, modifyCurrent, hcurrent]
      rw [hself] at hb'
      obtain rfl := Option.some.inj (hb.symm.trans hb')
      exact ⟨rfl, readAlike_refl _ _⟩
    | some current =>
      have hchildren : (written.slots n).children = (s.layers.slots n).children.map fun b =>
          if b.serial = current then { b with backgroundParams := params } else b := by
        rw [hwritten, modifyCurrent, hcurrent]
      rw [hchildren] at hmem'
      obtain ⟨b₀, hmem, hb₀⟩ := List.mem_map.1 hmem'
      have hserial : b₀.serial = serial := by
        rw [← hserial', ← hb₀]
        split <;> rfl
      have hfound := hbased.numbered.findBackground_iff.2 ⟨⟨n, hmem⟩, hserial⟩
      obtain rfl := Option.some.inj (hb.symm.trans hfound)
      split at hb₀
      · rename_i hshown
        have hderef : s.layers.deref s.layers.currentBackground = some b := by
          rw [hcurrent, ← hshown, hserial]
          exact hb
        rw [← hb₀]
        exact ⟨rfl, hread hsome b hderef⟩
      · rw [← hb₀]
        exact ⟨rfl, readAlike_refl _ _⟩
  · change o' ∈ written.live at ho'
    rw [hstack] at ho'
    exact Or.inr ⟨o', ho', rfl, rfl, fun _ => rfl⟩

/-- The parameters are written to the old background, and the new one is loaded if the id is new. -/
theorem step_setBackground (c : OverlayComponents) (s : RadarHud) (backgroundId : String) (params : QJsonObject)
    (transition : String) (outcome : Outcome) :
    let scene := s.scene.step (.setBackground backgroundId params transition)
    let written := s.moveTo (s.layers.modifyCurrent fun b => { b with backgroundParams := params })
    s.step c (.hud (.op (.setBackground backgroundId params transition) outcome)) =
      { (if s.scene.activeBackgroundId = backgroundId then written
          else written.moveTo (written.layers.onSignal c outcome (.activeBackgroundIdChanged, scene))) with scene := scene } := by
  -- the signal of the transition is not handled
  have hsilent : ∀ (t : String) (scene : Scene),
      (if s.scene.sceneTransition = t then [] else [(SceneSignal.sceneTransitionChanged, scene)]).foldl
        (fun s x => s.moveTo (s.layers.onSignal c outcome x)) s = s := by
    intro t scene
    split
    · rfl
    · exact moveTo_layers s
  simp only [RadarHud.step, Scene.step, SceneOp.apply, Scene.setBackground, List.foldl_append, hsilent]
  by_cases hsame : s.scene.activeBackgroundId = backgroundId
  · rw [if_pos hsame, if_pos hsame]
    rfl
  · rw [if_neg hsame, if_neg hsame]
    rfl

/-- A change of the background that is steady leaves all lists as they should be. -/
theorem Inv.setBackground (h : Inv c s) (backgroundId : String) (params : QJsonObject) (transition : String)
    (hsteady : Steady s (.hud (.op (.setBackground backgroundId params transition) outcome))) :
    AllCurrent (s.step c (.hud (.op (.setBackground backgroundId params transition) outcome))) := by
  have hstack : (s.layers.modifyCurrent fun b => { b with backgroundParams := params }).toOverlayStack =
      s.layers.toOverlayStack := toOverlayStack_modifyCurrent _ _
  have hwritten : Based (s.moveTo (s.layers.modifyCurrent fun b => { b with backgroundParams := params })) :=
    h.based.moveTo (h.based.numbered.modifyCurrent fun _ => rfl) (congrArg OverlayStack.created hstack).symm.le
  rw [step_setBackground]
  dsimp only
  split
  · rename_i hsame
    exact h.current.written h.based h.mirrors.inv (hsteady (Or.inl hsame))
  · refine AllCurrent.load (fun hfailed => ?_) hwritten (hstack.symm ▸ h.mirrors.inv) c _
    exact h.current.written h.based h.mirrors.inv (hsteady (Or.inr hfailed))

/-! ## A run -/

theorem Inv.operation (h : Inv c s) (op : SceneOp) (hsteady : Steady s (.hud (.op op outcome))) :
    AllCurrent (s.step c (.hud (.op op outcome))) := by
  cases op with
  | setBackground backgroundId params transition => exact h.setBackground backgroundId params transition hsteady
  | setAgentState state =>
    by_cases hsame : s.scene.agentState = state
    · exact h.silent (if_pos hsame)
    · exact h.signal (if_neg hsame) trivial
  | setActiveBackgroundId backgroundId =>
    by_cases hsame : s.scene.activeBackgroundId = backgroundId
    · exact h.silent (if_pos hsame)
    · have heq : SceneOp.apply s.scene (.setActiveBackgroundId backgroundId) = _ := if_neg hsame
      rw [RadarHud.step, heq]
      exact AllCurrent.load (fun _ => h.current) h.based h.mirrors.inv c _
  | setSceneData modelId data => exact h.signal rfl trivial
  | clearSceneData =>
    by_cases hnone : s.scene.sceneData.entries.isEmpty = true
    · exact h.silent (if_pos hnone)
    · exact h.signal (if_neg hnone) trivial
  | setSceneTransition transition =>
    by_cases hsame : s.scene.sceneTransition = transition
    · exact h.silent (if_pos hsame)
    · exact h.signal (if_neg hsame) trivial
  | addOverlay overlayId params =>
    refine h.overlaysChanged rfl ?_
    intro o ho hloaded params' hparams'
    by_cases hid : o.overlayId = overlayId
    · rw [hid, AList.lookup_insert] at hparams'
      rw [← Option.some.inj hparams']
      exact hsteady o ho hloaded hid
    · rw [AList.lookup_insert_ne hid, (h.mirrors.shows o ho).overlayParams] at hparams'
      rw [Option.some.inj hparams']
  | removeOverlay overlayId =>
    by_cases hid : overlayId ∈ s.scene.activeOverlayIds
    · refine h.overlaysChanged (if_pos hid) ?_
      intro o ho _ params' hparams'
      by_cases hgone : o.overlayId = overlayId
      · rw [hgone, AList.lookup_erase] at hparams'
        exact absurd hparams' (by simp)
      · rw [AList.lookup_erase_ne hgone, (h.mirrors.shows o ho).overlayParams] at hparams'
        rw [Option.some.inj hparams']
    · exact h.silent (if_neg hid)
  | clearOverlays =>
    by_cases hids : s.scene.activeOverlayIds = []
    · exact h.silent (if_pos hids)
    · refine h.overlaysChanged (if_neg hids) ?_
      intro o _ _ params' hparams'
      exact absurd hparams' (by simp)

theorem Inv.tick (h : Inv c s) (t : LayerManager.Tick) : AllCurrent (s.step c (.hud (.tick t))) := by
  have hinv' := (h.mirrors.tick t).mirrors.inv
  refine h.current.moveTo h.based h.mirrors.inv hinv' (fun _ serial b b' => ?_) fun o' ho' => ?_
  · exact alike_of_read h.based.numbered (h.based.numbered.tick t) fun n => read_tick (fun _ => rfl) t n
  · rw [toOverlayStack_tick, OverlayStack.live_eventLoop] at ho'
    exact Or.inr ⟨o', ho', rfl, rfl, fun _ => rfl⟩

theorem Inv.response (h : Inv c s) (serial : Nat) (r : RadarResponse) (hsteady : Steady s (.response serial r)) :
    AllCurrent (s.step c (.response serial r)) := by
  rw [RadarHud.step]
  split
  · intro o ho hradar
    change (Function.update s.radars serial _ o.serial).Current (s.inputs o.serial)
    by_cases hself : o.serial = serial
    · rw [← hself, Function.update_self]
      exact ((h.based.sound o.serial).onResponse _ r).2 (h.current o ho hradar) (hself ▸ hsteady o ho hself hradar)
    · rw [Function.update_of_ne hself]
      exact h.current o ho hradar
  · exact h.current

/-- Every steady event keeps the invariant. -/
theorem Inv.step (h : Inv c s) (e : RadarEvent) (hsteady : Steady s e) : Inv c (s.step c e) := by
  have hbased := h.based.step h.mirrors.inv c e
  cases e with
  | hud e =>
    refine ⟨toHud_step c s e ▸ (h.mirrors.follows e).mirrors, hbased, ?_⟩
    cases e with
    | op op outcome => exact h.operation op hsteady
    | tick t => exact h.tick t
  | resize width height =>
    refine ⟨h.mirrors, hbased, fun o ho hradar => ?_⟩
    exact (radars_resize h.based width height o.serial).2 (h.current o ho hradar)
  | response serial r =>
    refine ⟨?_, hbased, h.response serial r hsteady⟩
    rw [RadarHud.step]
    split
    · exact h.mirrors
    · exact h.mirrors

/-- A new HUD has no lists. -/
theorem inv_create (c : OverlayComponents) (outcome : Outcome) {scene : Scene} (h : scene.WellFormed) (width height : ℝ) :
    Inv c (create c outcome scene width height) where
  mirrors := Hud.mirrors_create c outcome h
  based := ⟨numbered_run c outcome scene [], fun _ _ => rfl, fun _ => sound_create⟩
  current := fun _ _ _ => sound_create.current_of_nil rfl _

/-- Over any operations, before the layers are built and after, with windows of any size and any answers, and whatever the
backgrounds come to: as long as no change that builds no list again changes what the overlays with data read, the lists
are those of the frames, the map that is shown, the parameters and the size, in every state that is reached. -/
theorem radar_aligned (c : OverlayComponents) (before : List SceneOp) (outcome : Outcome) (width height : ℝ)
    (es : List RadarEvent)
    (hes : EveryStep (step c) Steady (create c outcome (run Scene.step {} before) width height) es) :
    Always (step c) Aligned (create c outcome (run Scene.step {} before) width height) es := by
  have hwf : (run Scene.step {} before).WellFormed :=
    inv_run_of_step Scene.WellFormed (fun s op h => h.apply op) before Scene.wellFormed_default
  exact Always.of_inv (Inv c) (fun _ hs => hs.current.aligned hs.mirrors) (fun _ e hs he => hs.step e he)
    (inv_create c outcome hwf width height) hes

/-- The radar on the street map; frames arrive, the globe is shown, and the window grows. -/
theorem radar_aligned_globe :
    let before : List SceneOp := [.setBackground "osm" [("zoom", .double 6)] "", .addOverlay "weather_radar" []]
    let es : List RadarEvent :=
      [.response 1 (.manifest (some "https://tilecache.rainviewer.com") [⟨"/v2/radar/1"⟩, ⟨"/v2/radar/2"⟩]),
        .hud (.op (.setBackground "globe" [] "crossfade") .created), .resize 1920 1080]
    Always (step .shipped) Aligned (create .shipped .created (run Scene.step {} before) 800 600) es := by
  intro before es
  refine radar_aligned .shipped before .created 800 600 es ⟨?_, ?_, trivial, trivial⟩
  · intro o _ _ _ host hnone
    exact absurd hnone (by simp)
  · rintro (hsame | hfailed)
    · exact absurd hsame (by decide)
    · exact absurd rfl hfailed

/-- A street map at 60° N of zoom 6, on a window of 800 by 600 pixels. -/
def northernMap (lon : ℝ) : MapParams ℝ := ⟨some 60, some lon, some 6⟩

/-- The zoom of the northern map is 6. -/
theorem zoomOf_northernMap (lon : ℝ) : OsmBackground.zoomOf (northernMap lon) = 6 :=
  (OsmBackground.zoomOf_some (by norm_num)).trans (Int.floor_ofNat 6)

section NorthernMap

variable {lon : ℝ} {host path : String}

/-- Some tile lies on the northern map. -/
theorem exists_mem_northernMap (hlon : lon ≠ 0) (hhost : host ≠ "") (hpath : path ≠ "") :
    ∃ t, t ∈ buildTileList ⟨some (OsmBackground.view (northernMap lon) 800 600), none, 800, 600⟩ host path := by
  have hlat : orDefault (some (60 : ℝ)) OsmBackground.defaultLat = 60 := orDefault_some (by norm_num)
  obtain ⟨htop, hbottom⟩ := OsmBackground.pixelY_mem (by positivity : (0 : ℝ) < 2 ^ radarZoom none)
    (by norm_num : |(60 : ℝ)| < 85)
  have hreaches : Reaches (northernMap lon) none 800 600 := by
    refine reaches_of_le (by norm_num) (by norm_num) (zoomOf_northernMap lon).ge ?_
    rw [centreY, northernMap, hlat]
    exact ⟨htop.le, hbottom⟩
  have hmiddle : OsmBackground.latLonToScreen (northernMap lon) 800 600 60 lon = (800 * (1 / 2), 600 * (1 / 2)) :=
    (OsmBackground.latLonToScreen_centre_iff (by norm_num)).2 ⟨by norm_num, hlon⟩
  have hview : InView 800 600 (OsmBackground.latLonToScreen (northernMap lon) 800 600 60 lon).1
      (OsmBackground.latLonToScreen (northernMap lon) 800 600 60 lon).2 := by
    rw [hmiddle]
    norm_num [InView]
  have hband : |(60 : ℝ)| ≤ OsmBackground.bandLat := by
    have hlt := OsmBackground.lt_bandLat
    rw [abs_of_pos (by norm_num)]
    linarith
  obtain ⟨sq, hsq, -⟩ := (covers_iff_reaches (by norm_num) (by norm_num) hhost hpath).2 hreaches 60 lon hband hview
  exact ⟨_, List.mem_map_of_mem hsq⟩

/-- The columns are 256 pixels apart. -/
theorem column_of_mem_northernMap (hlon : lon ≠ 0) (hhost : host ≠ "") (hpath : path ≠ "") {t : RadarTile}
    (ht : t ∈ buildTileList ⟨some (OsmBackground.view (northernMap lon) 800 600), none, 800, 600⟩ host path) :
    ∃ tx : ℤ, t.x = round ((tx - OsmBackground.pixelX 64 lon) * 256 + 400) := by
  have hsize : drawnSize (northernMap lon) none = 256 := by
    change 256 * (2 : ℝ) ^ OsmBackground.zoomOf (northernMap lon) / 2 ^ (6 : ℤ) = 256
    rw [zoomOf_northernMap]
    norm_num
  have hcentre : centreX (northernMap lon) none = OsmBackground.pixelX 64 lon := by
    have hsome : orDefault (some lon) OsmBackground.defaultLon = lon := orDefault_some hlon
    have hn : (2 : ℝ) ^ radarZoom none = 64 := by
      change (2 : ℝ) ^ (6 : ℤ) = 64
      norm_num
    rw [centreX, hn, northernMap, hsome]
  obtain ⟨tx, ty, hx, -⟩ := exists_place_of_mem (by norm_num) (by norm_num) hhost hpath ht
  refine ⟨tx, hx.trans (congrArg round ?_)⟩
  change ((tx : ℝ) - centreX (northernMap lon) none) * drawnSize (northernMap lon) none + 800 * (1 / 2) = _
  rw [hsize, hcentre]
  norm_num

end NorthernMap

/-- A street map at 60° N, under a radar with a frame. -/
def northAt (lon : ℚ) : QJsonObject := [("center_lat", .double 60), ("center_lon", .double lon), ("zoom", .double 6)]

def northern (lon : ℚ) : List SceneOp := [.setBackground "osm" (northAt lon) "", .addOverlay "weather_radar" []]

def oneFrame : RadarEvent := .response 1 (.manifest (some "https://tilecache.rainviewer.com") [⟨"/v2/radar/1"⟩])

def movedTo (lon : ℚ) : RadarEvent := .hud (.op (.setBackground "osm" (northAt lon) "") .created)

/-- The background with its parameters is the northern map. -/
theorem view_northAt {b : Background} {lon : ℚ} (hid : b.backgroundId = "osm") (hparams : b.backgroundParams = northAt lon) :
    b.view 800 600 = OsmBackground.view (northernMap lon) 800 600 := by
  have hjson : MapParams.ofJson (northAt lon) = ⟨some ((60 : ℚ) : ℝ), some (lon : ℝ), some ((6 : ℚ) : ℝ)⟩ := rfl
  have hosm : toPascalCase "osm" = "Osm" := by decide
  rw [Background.view, bridge, hid, hparams, hjson, if_pos hosm, Rat.cast_ofNat, Rat.cast_ofNat]
  rfl

/-- Where the lists are aligned, an overlay over the northern map has the tiles of its longitude. -/
theorem tileListA_northAt (lon : ℚ) (h : Aligned s) (hsize : s.width = 800 ∧ s.height = 600)
    (hb : ∃ b, s.layers.deref s.layers.currentBackground = some b ∧ b.backgroundId = "osm" ∧ b.backgroundParams = northAt lon)
    (ho : ∃ o ∈ s.layers.live, o.serial = 1 ∧ o.overlayId = "weather_radar")
    (hzoom : s.scene.overlayParams.lookup "weather_radar" = some [])
    (hframes : (s.radars 1).frames = [⟨"/v2/radar/1"⟩]) (hhost : (s.radars 1).radarHost = "https://tilecache.rainviewer.com") :
    (s.radars 1).tileListA =
      buildTileList ⟨some (OsmBackground.view (northernMap lon) 800 600), none, 800, 600⟩
        "https://tilecache.rainviewer.com" "/v2/radar/1" := by
  obtain ⟨b, hb, hid, hparams⟩ := hb
  obtain ⟨o, ho, hserial, hradar⟩ := ho
  have hA := (h.current o ho (by rw [Overlay.isRadar, hradar]; decide)).1
  rw [hserial, hradar, listOf, hframes, hhost, currentInputs, hb, hzoom, hsize.1, hsize.2, Option.map_some,
    view_northAt hid hparams] at hA
  exact hA

/-- The street map is moved under the radar by half a tile. -/
theorem radar_aligned_false :
    ¬Always (step .shipped) Aligned (create .shipped .created (run Scene.step {} (northern 45)) 800 600)
      [oneFrame, movedTo (765 / 16)] := by
  intro h
  have hbefore := tileListA_northAt 45 (h [oneFrame] ⟨[_], rfl⟩) ⟨rfl, rfl⟩ ⟨_, rfl, rfl, rfl⟩
    ⟨_, List.mem_singleton_self _, rfl, rfl⟩ rfl rfl rfl
  have hafter := tileListA_northAt (765 / 16) (h _ (List.prefix_refl _)) ⟨rfl, rfl⟩ ⟨_, rfl, rfl, rfl⟩
    ⟨_, List.mem_singleton_self _, rfl, rfl⟩ rfl rfl rfl
  have hlists := hbefore.symm.trans hafter
  have hhost : "https://tilecache.rainviewer.com" ≠ "" := by decide
  have hpath : "/v2/radar/1" ≠ "" := by decide
  obtain ⟨t, ht⟩ := exists_mem_northernMap (by norm_num : ((45 : ℚ) : ℝ) ≠ 0) hhost hpath
  obtain ⟨tx, hx⟩ := column_of_mem_northernMap (by norm_num) hhost hpath ht
  obtain ⟨tx', hx'⟩ := column_of_mem_northernMap (by norm_num : ((765 / 16 : ℚ) : ℝ) ≠ 0) hhost hpath (hlists ▸ ht)
  have hleft : ((tx : ℝ) - OsmBackground.pixelX 64 ((45 : ℚ) : ℝ)) * 256 + 400 = ((tx * 256 - 9840 : ℤ) : ℝ) := by
    rw [OsmBackground.pixelX]
    push_cast
    ring
  have hright : ((tx' : ℝ) - OsmBackground.pixelX 64 ((765 / 16 : ℚ) : ℝ)) * 256 + 400 = ((tx' * 256 - 9968 : ℤ) : ℝ) := by
    rw [OsmBackground.pixelX]
    push_cast
    ring
  rw [hleft, round_intCast] at hx
  rw [hright, round_intCast] at hx'
  omega

end RadarHud

end PairionClient
