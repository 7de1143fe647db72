import PairionClient.Theorems.BackgroundParams
import PairionClient.Theorems.Backgrounds
import PairionClient.Theorems.FailedLoads
import Mathlib.Data.List.ProdSigma

/-!
# The background mirrors the store

Whatever parameters pass through the backgrounds that fade out, the one that is current is alive, shown or fading in, and holds
what the store holds: its id, its parameters, the scene data and the state of the agent.
-/

namespace PairionClient

open Transition

namespace Background

/-- The background that the store makes. -/
def picture (scene : Scene) (serial : Nat) : Background where
  serial := serial
  backgroundId := scene.activeBackgroundId
  backgroundParams := scene.backgroundParams
  sceneData := scene.sceneData
  hudState := scene.agentState

/-- What a background shows, destroyed or not. -/
def shows (b : Background) : Background := { b with destroyed := false }

end Background

open Background (picture shows)

namespace LayerManager

variable {scene scene' : Scene} {supplied : List (String × QJsonObject)} {m m' : LayerManager}

/-! ## What is shown -/

/-- The current background shows what the store holds. -/
def Pictured (scene : Scene) (m : LayerManager) : Prop :=
  ∀ n, ∀ p ∈ m.read shows n, m.currentBackground = some p.serial → p = picture scene p.serial

/-- The animations are those of their slots, and the slot shown is visible or fades in. -/
structure Lit (m : LayerManager) : Prop where
  fadeIn : m.fadeIn.running = true → m.fadeIn.target = some m.retireSlot
  fadeOut : m.fadeOut.running = true → m.fadeOut.target = some m.activeSlot
  visible : (m.slots m.retireSlot).opacity = 1 ∨ m.fadeIn.running = true

/-- The layers show the store; a background that is loaded has parameters from those supplied. -/
structure Showing (supplied : List (String × QJsonObject)) (scene : Scene) (m : LayerManager) : Prop where
  placed : Placed supplied scene.activeBackgroundId m
  pictured : Pictured scene m
  lit : Lit m

theorem Pictured.mono (h : Pictured scene m) (hread : ∀ n, (m'.read shows n).Sublist (m.read shows n))
    (hcurrent : m'.currentBackground = m.currentBackground) : Pictured scene m' :=
  fun n p hp hshown => h n p ((hread n).subset hp) (hcurrent ▸ hshown)

/-- A write to the current background that gives it what the store has shows the store. -/
theorem Pictured.modifyCurrent (h : Pictured scene m) {f : Background → Background}
    (hf : ∀ b, shows b = picture scene b.serial → shows (f b) = picture scene' b.serial) :
    Pictured scene' (m.modifyCurrent f) := by
  intro n p hp hshown
  rw [toOverlayStack_modifyCurrent] at hshown
  rw [read, LayerManager.modifyCurrent, hshown] at hp
  dsimp only at hp
  rw [List.map_map] at hp
  obtain ⟨b, hb, hp⟩ := List.mem_map.1 hp
  rw [Function.comp_apply] at hp
  by_cases heq : b.serial = p.serial
  · rw [if_pos heq] at hp
    have hbefore := h n (shows b) (List.mem_map_of_mem hb) (hshown.trans (congrArg some heq.symm))
    rw [← hp, hf b hbefore]
    rfl
  · rw [if_neg heq] at hp
    exact absurd (congrArg Background.serial hp) heq

/-- The new background is that of the store. -/
theorem pictured_loadBackground (h : Placed supplied scene.activeBackgroundId m) (transition : String) :
    Pictured scene' (m.loadBackground .created scene' scene'.activeBackgroundId transition) := by
  intro n p hp hshown
  rw [currentBackground_loadBackground] at hshown
  rw [read_loadBackground fun _ => rfl] at hp
  rcases List.mem_append.1 hp with hold | hnew
  · obtain ⟨b, hb, rfl⟩ := List.mem_map.1 hold
    exact absurd (Option.some.inj hshown) (h.children n b hb).fresh.ne'
  · split at hnew
    · rw [List.mem_singleton.1 hnew]
      rfl
    · exact absurd hnew List.not_mem_nil

/-! ## The animations -/

/-- What leaves the animations and the opacities. -/
theorem Lit.same (h : Lit m) (hopacity : ∀ n, (m'.slots n).opacity = (m.slots n).opacity) (hin : m'.fadeIn = m.fadeIn)
    (hout : m'.fadeOut = m.fadeOut) (huseA : m'.useA = m.useA) : Lit m' := by
  have hretire : m'.retireSlot = m.retireSlot := by rw [retireSlot, retireSlot, huseA]
  have hactive : m'.activeSlot = m.activeSlot := by rw [activeSlot, activeSlot, huseA]
  exact ⟨by rw [hin, hretire]; exact h.fadeIn, by rw [hout, hactive]; exact h.fadeOut,
    by rw [hin, hretire, hopacity]; exact h.visible⟩

/-- A write to a background does not change which slots are lit. -/
theorem Lit.modifyCurrent (h : Lit m) (f : Background → Background) : Lit (m.modifyCurrent f) := by
  unfold LayerManager.modifyCurrent
  split
  · exact h
  · exact h.same (fun _ => rfl) rfl rfl rfl

/-- A slot's opacity is written to that slot alone. -/
theorem opacity_setOpacity (m : LayerManager) (n n' : SlotName) (opacity : ℚ) :
    ((m.setOpacity n opacity).slots n').opacity = if n' = n then opacity else (m.slots n').opacity := by
  by_cases h : n' = n
  · rw [if_pos h, h]
    simp [setOpacity, modifySlot]
  · simp [setOpacity, modifySlot, h]

/-- Only the slot hidden is changed when a retirement ends. -/
theorem Lit.endRetiring (h : Lit m) (hretires : ∀ n, m.retiring = some n → n = m.activeSlot) : Lit m.endRetiring := by
  cases hretiring : m.retiring with
  | none =>
    rw [LayerManager.endRetiring, hretiring]
    exact h
  | some n =>
    obtain rfl := hretires n hretiring
    rw [endRetiring_eq m hretiring]
    refine ⟨h.fadeIn, h.fadeOut, ?_⟩
    change (Function.update m.slots m.activeSlot _ m.retireSlot).opacity = 1 ∨ _
    rw [Function.update_of_ne m.activeSlot_ne_retireSlot.symm]
    exact h.visible

/-- A tick of the fade-in keeps the shown slot visible or fading in. -/
theorem Lit.fadeInTick (h : Lit m) (elapsed : Nat) : Lit (m.fadeInTick elapsed) := by
  refine fadeInTick_induction h ?_
  intro n hrunning htarget
  obtain rfl : m.retireSlot = n := Option.some.inj ((h.fadeIn hrunning).symm.trans htarget)
  refine ⟨fun _ => htarget, h.fadeOut, ?_⟩
  change ((m.setOpacity m.retireSlot _).slots m.retireSlot).opacity = 1 ∨ decide (elapsed < fadeDuration) = true
  rw [opacity_setOpacity, if_pos rfl]
  by_cases hend : elapsed < fadeDuration
  · exact Or.inr (decide_eq_true hend)
  · exact Or.inl (if_neg hend)

/-- A tick of the fade-out touches the hidden slot only. -/
theorem Lit.fadeOutTick (h : Lit m) (hretires : ∀ n, m.retiring = some n → n = m.activeSlot) (elapsed : Nat) :
    Lit (m.fadeOutTick elapsed) := by
  refine fadeOutTick_induction h ?_
  intro n hrunning htarget
  obtain rfl : m.activeSlot = n := Option.some.inj ((h.fadeOut hrunning).symm.trans htarget)
  have hupdated : Lit { m.setOpacity m.activeSlot (fadeValue 1 0 elapsed) with
      fadeOut := { m.fadeOut with running := elapsed < fadeDuration } } := by
    refine ⟨h.fadeIn, fun _ => htarget, ?_⟩
    change ((m.setOpacity m.activeSlot _).slots m.retireSlot).opacity = 1 ∨ _
    rw [opacity_setOpacity, if_neg m.activeSlot_ne_retireSlot.symm]
    exact h.visible
  exact ⟨hupdated, hupdated.endRetiring hretires⟩

/-- Every tick keeps the shown slot lit. -/
theorem Lit.tick (h : Lit m) (hretires : ∀ n, m.retiring = some n → n = m.activeSlot) (t : Tick) : Lit (m.tick t) := by
  have hloop : Lit m.eventLoop := h.same (fun _ => rfl) rfl rfl rfl
  cases t with
  | eventLoop => exact hloop
  | fadeIn elapsed => exact hloop.fadeInTick elapsed
  | fadeOut elapsed => exact hloop.fadeOutTick hretires elapsed
  | cleanup =>
    rw [LayerManager.tick, onTriggered]
    split
    · exact (hloop.endRetiring hretires).same (fun _ => rfl) rfl rfl rfl
    · exact hloop

/-- The end of what retires leaves the opacities. -/
theorem opacity_destroyRetiring (m : LayerManager) (n : SlotName) :
    (m.destroyRetiring.slots n).opacity = (m.slots n).opacity := by
  cases h : m.retiring with
  | none => rw [destroyRetiring_of_none h]
  | some n' =>
    rw [destroyRetiring_of_some h]
    change (Function.update m.slots n' (m.slots n').destroyFirst n).opacity = _
    by_cases hn : n = n'
    · rw [hn, Function.update_self, opacity_destroyFirst]
    · rw [Function.update_of_ne hn]

/-- A load that is made at once shows its background, and any other fades it in. -/
theorem lit_loadBackground (m : LayerManager) (scene : Scene) (id transition : String) :
    Lit (m.loadBackground .created scene id transition) := by
  have huseA := m.useA_loadBackground scene id transition
  have hretire := retireSlot_of_not huseA
  have hactive := activeSlot_of_not huseA
  rw [loadBackground] at hretire hactive ⊢
  split
  · rename_i hinstant
    rw [if_pos hinstant] at hretire
    refine ⟨fun hrunning => ?_, fun hrunning => ?_, Or.inl ?_⟩
    · rw [(settled_switchAtOnce _ _ _).1] at hrunning
      cases hrunning
    · rw [(settled_switchAtOnce _ _ _).2.1] at hrunning
      cases hrunning
    · rw [hretire, switchAtOnce, opacity_destroyRetiring, opacity_setOpacity, if_neg m.activeSlot_ne_retireSlot,
        opacity_setOpacity, if_pos rfl]
  · rename_i hinstant
    rw [if_neg hinstant] at hretire hactive
    exact ⟨fun _ => congrArg some hretire.symm, fun _ => congrArg some hactive.symm, Or.inr rfl⟩

/-! ## Steps -/

/-- Writing what the store holds to the current background. -/
theorem Showing.modifyCurrent (h : Showing supplied scene m) {f : Background → Background}
    (hid : scene'.activeBackgroundId = scene.activeBackgroundId) (hserial : ∀ b, (f b).serial = b.serial)
    (hbackground : ∀ b, (f b).backgroundId = b.backgroundId) (hdestroyed : ∀ b, (f b).destroyed = b.destroyed)
    (hparams : ∀ b, (b.backgroundId, b.backgroundParams) ∈ supplied → b.backgroundId = scene.activeBackgroundId →
      (scene.activeBackgroundId, (f b).backgroundParams) ∈ supplied)
    (hf : ∀ b, shows b = picture scene b.serial → shows (f b) = picture scene' b.serial) :
    Showing supplied scene' (m.modifyCurrent f) where
  placed := by
    rw [hid]
    exact h.placed.modifyCurrent hserial hbackground hdestroyed (fun _ hb => hb.supplied)
      fun b hb hactive => hparams b hb.supplied hactive
  pictured := h.pictured.modifyCurrent hf
  lit := h.lit.modifyCurrent f

/-- What is done to the overlays only, when the store keeps what the background shows. -/
theorem Showing.overlays (h : Showing supplied scene m) {st : OverlayStack} (hcurrent : st.currentBackground = m.currentBackground)
    (hcreated : m.created ≤ st.created) : Showing supplied scene { m with toOverlayStack := st } where
  placed := h.placed.same (fun _ => rfl) rfl rfl hcurrent hcreated
  pictured := h.pictured.mono (fun _ => List.Sublist.refl _) hcurrent
  lit := h.lit.same (fun _ => rfl) rfl rfl rfl

/-- The background shows the same of another store. -/
theorem Showing.congr (h : Showing supplied scene m) (hid : scene'.activeBackgroundId = scene.activeBackgroundId)
    (hpicture : picture scene' = picture scene) : Showing supplied scene' m where
  placed := hid ▸ h.placed
  pictured := by
    intro n p hp hshown
    rw [hpicture]
    exact h.pictured n p hp hshown
  lit := h.lit

/-- A load of what the store has shows the store. -/
theorem Showing.load (h : Placed supplied scene.activeBackgroundId m) (transition : String)
    (hsupplied : (scene'.activeBackgroundId, scene'.backgroundParams) ∈ supplied) :
    Showing supplied scene' (m.loadBackground .created scene' scene'.activeBackgroundId transition) where
  placed := h.load scene' _ transition hsupplied
  pictured := pictured_loadBackground h transition
  lit := lit_loadBackground m scene' _ transition

/-- Every tick keeps showing the store. -/
theorem Showing.tick (h : Showing supplied scene m) (t : Tick) : Showing supplied scene (m.tick t) where
  placed := h.placed.tick t
  pictured := by
    refine h.pictured.mono (read_tick (fun _ => rfl) t) ?_
    rw [toOverlayStack_tick]
    rfl
  lit := h.lit.tick (fun n hn => (h.placed.retires n hn).1) t

/-- Another property is written to the background shown and to the overlays. -/
theorem Showing.propagate (h : Showing supplied scene m) {f : Background → Background} {g : String → Overlay → Overlay}
    (hid : scene'.activeBackgroundId = scene.activeBackgroundId) (hserial : ∀ b, (f b).serial = b.serial)
    (hbackground : ∀ b, (f b).backgroundId = b.backgroundId) (hdestroyed : ∀ b, (f b).destroyed = b.destroyed)
    (hparams : ∀ b, (f b).backgroundParams = b.backgroundParams)
    (hf : ∀ b, shows b = picture scene b.serial → shows (f b) = picture scene' b.serial) :
    Showing supplied scene' { m.modifyCurrent f with toOverlayStack := m.toOverlayStack.forOverlays g } := by
  have hwritten : Showing supplied scene' (m.modifyCurrent f) := by
    refine h.modifyCurrent hid hserial hbackground hdestroyed (fun b hb hactive => ?_) hf
    rw [hparams, ← hactive]
    exact hb
  rw [← m.toOverlayStack_modifyCurrent f]
  exact hwritten.overlays (OverlayStack.currentBackground_forOverlays g _) (OverlayStack.created_forOverlays g _).ge

/-- The handlers of an operation on the overlays leave the background. -/
theorem Showing.overlaySignals (h : Showing supplied scene m) (c : OverlayComponents) (outcome : Outcome)
    (hid : scene'.activeBackgroundId = scene.activeBackgroundId) (hpicture : picture scene' = picture scene) :
    Showing supplied scene'
      ([(SceneSignal.overlayParamsChanged, scene'), (SceneSignal.activeOverlayIdsChanged, scene')].foldl (onSignal c outcome) m) := by
  have hparams : Showing supplied scene' { m with toOverlayStack := m.propagateOverlayParams scene' } :=
    (h.congr hid hpicture).overlays (OverlayStack.currentBackground_forOverlays _ _)
      (OverlayStack.created_forOverlays _ _).ge
  exact hparams.overlays (OverlayStack.currentBackground_syncOverlays c scene' _)
    (OverlayStack.createdOnly_syncOverlays c scene' _).created

/-- The handler of the scene data writes them to the background shown. -/
theorem Showing.propagateSceneData (h : Showing supplied scene m) (data : QVariantMap QJsonValue) :
    Showing supplied { scene with sceneData := data } (m.propagateSceneData { scene with sceneData := data }) := by
  refine h.propagate rfl (fun _ => rfl) (fun _ => rfl) (fun _ => rfl) (fun _ => rfl) ?_
  intro b hb
  have hshown : shows { b with sceneData := data } = { shows b with sceneData := data } := rfl
  rw [hshown, hb]
  rfl

/-- The state of the agent is shown as soon as it is propagated. -/
theorem Showing.propagateHudState (h : Showing supplied scene m) (state : String) :
    Showing supplied { scene with agentState := state } (m.propagateHudState { scene with agentState := state }) := by
  refine h.propagate rfl (fun _ => rfl) (fun _ => rfl) (fun _ => rfl) (fun _ => rfl) ?_
  intro b hb
  have hshown : shows { b with hudState := state } = { shows b with hudState := state } := rfl
  rw [hshown, hb]
  rfl

end LayerManager

/-- The backgrounds that an event names. -/
def HudEvent.ids : HudEvent → List String
  | .op (.setBackground backgroundId _ _) _ => [backgroundId]
  | .op (.setActiveBackgroundId backgroundId) _ => [backgroundId]
  | _ => []

/-- The parameters of backgrounds that an event carries. -/
def HudEvent.params : HudEvent → List QJsonObject
  | .op (.setBackground _ params _) _ => [params]
  | _ => []

/-- The background that the event loads, if any, is created. -/
def HudEvent.Creates : HudEvent → Prop
  | .op _ outcome => outcome = .created
  | .tick _ => True

namespace Hud

open LayerManager

variable {ids : List String} {params : List QJsonObject} {s : Hud}

/-- The layers show the store, whose background and parameters are among these. -/
structure Kept (ids : List String) (params : List QJsonObject) (s : Hud) : Prop where
  known : s.scene.activeBackgroundId ∈ ids
  carried : s.scene.backgroundParams ∈ params
  showing : Showing (ids ×ˢ params) s.scene s.layers

/-- `setBackground` with a load that succeeds is shown. -/
theorem Kept.setBackground (h : Kept ids params s) (c : OverlayComponents) {backgroundId : String} {p : QJsonObject}
    (hid : backgroundId ∈ ids) (hp : p ∈ params) (transition : String) :
    Kept ids params (s.step c (.op (.setBackground backgroundId p transition) .created)) := by
  set scene := s.scene.step (.setBackground backgroundId p transition) with hscene
  have hwritten : Showing (ids ×ˢ params) { s.scene with backgroundParams := p }
      (s.layers.modifyCurrent fun b => { b with backgroundParams := p }) := by
    refine h.showing.modifyCurrent rfl (fun _ => rfl) (fun _ => rfl) (fun _ => rfl)
      (fun _ _ _ => List.mem_product.2 ⟨h.known, hp⟩) fun b hb => ?_
    have hshown : shows { b with backgroundParams := p } = { shows b with backgroundParams := p } := rfl
    rw [hshown, hb]
    rfl
  rw [step_setBackground, ← hscene]
  refine ⟨hid, hp, ?_⟩
  dsimp only
  split
  · rename_i hsame
    refine hwritten.congr hsame.symm (funext fun serial => ?_)
    rw [picture, picture, hscene]
    exact congrArg (fun id => Background.mk serial id p s.scene.sceneData s.scene.agentState false) hsame.symm
  · exact Showing.load hwritten.placed _ (List.mem_product.2 ⟨hid, hp⟩)

theorem Kept.setActiveBackgroundId (h : Kept ids params s) (c : OverlayComponents) {backgroundId : String}
    (hid : backgroundId ∈ ids) : Kept ids params (s.step c (.op (.setActiveBackgroundId backgroundId) .created)) := by
  simp only [Hud.step, SceneOp.apply, Scene.setActiveBackgroundId]
  split
  · exact h
  · exact ⟨hid, h.carried, Showing.load h.showing.placed _ (List.mem_product.2 ⟨hid, h.carried⟩)⟩

/-- An operation either leaves what the background shows, or its signal writes it there. -/
theorem Kept.step (h : Kept ids params s) (c : OverlayComponents) {e : HudEvent} (he : e.Creates) (hids : e.ids ⊆ ids)
    (hparams : e.params ⊆ params) : Kept ids params (s.step c e) := by
  obtain ⟨hknown, hcarried, hshowing⟩ := h
  cases e with
  | tick t => exact ⟨hknown, hcarried, hshowing.tick t⟩
  | op op outcome =>
    obtain rfl : outcome = .created := he
    cases op with
    | setAgentState state =>
      simp only [Hud.step, SceneOp.apply, Scene.setAgentState]
      split
      · exact ⟨hknown, hcarried, hshowing⟩
      · exact ⟨hknown, hcarried, hshowing.propagateHudState state⟩
    | setBackground backgroundId p transition =>
      exact Kept.setBackground ⟨hknown, hcarried, hshowing⟩ c (hids List.mem_cons_self) (hparams List.mem_cons_self) transition
    | setActiveBackgroundId backgroundId =>
      exact Kept.setActiveBackgroundId ⟨hknown, hcarried, hshowing⟩ c (hids List.mem_cons_self)
    | addOverlay overlayId p => exact ⟨hknown, hcarried, hshowing.overlaySignals c .created rfl rfl⟩
    | removeOverlay overlayId =>
      simp only [Hud.step, SceneOp.apply, Scene.removeOverlay]
      split
      · exact ⟨hknown, hcarried, hshowing.overlaySignals c .created rfl rfl⟩
      · exact ⟨hknown, hcarried, hshowing⟩
    | clearOverlays =>
      simp only [Hud.step, SceneOp.apply, Scene.clearOverlays]
      split
      · exact ⟨hknown, hcarried, hshowing⟩
      · exact ⟨hknown, hcarried, hshowing.overlaySignals c .created rfl rfl⟩
    | setSceneData modelId data => exact ⟨hknown, hcarried, hshowing.propagateSceneData _⟩
    | clearSceneData =>
      simp only [Hud.step, SceneOp.apply, Scene.clearSceneData]
      split
      · exact ⟨hknown, hcarried, hshowing⟩
      · exact ⟨hknown, hcarried, hshowing.propagateSceneData ∅⟩
    | setSceneTransition transition =>
      simp only [Hud.step, SceneOp.apply, Scene.setSceneTransition]
      split
      · exact ⟨hknown, hcarried, hshowing⟩
      · exact ⟨hknown, hcarried, hshowing.congr rfl rfl⟩

/-- The HUD shows the store from its creation on. -/
theorem kept_create (c : OverlayComponents) {scene : Scene} (hknown : scene.activeBackgroundId ∈ ids)
    (hcarried : scene.backgroundParams ∈ params) : Kept ids params (create c .created scene) := by
  have hloaded : Showing (ids ×ˢ params) scene (loadBackground .created scene scene.activeBackgroundId "instant" {}) := by
    refine ⟨?_, ?_, lit_loadBackground _ _ _ _⟩
    · refine ⟨fun n b hb => ?_, ⟨newBackground scene scene.activeBackgroundId {}, List.mem_singleton_self _, rfl⟩, ?_⟩
      · cases n with
        | slotA =>
          obtain rfl := List.mem_singleton.1 hb
          exact ⟨Nat.zero_lt_one, fun _ => rfl, List.mem_product.2 ⟨hknown, hcarried⟩⟩
        | slotB => exact absurd hb List.not_mem_nil
      · exact fun n hn => absurd hn (Option.some_ne_none n).symm
    · intro n p hp _
      cases n with
      | slotA =>
        obtain rfl := List.mem_singleton.1 hp
        rfl
      | slotB => exact absurd hp List.not_mem_nil
  exact ⟨hknown, hcarried, hloaded.overlays (OverlayStack.currentBackground_syncOverlays c scene _)
    (OverlayStack.createdOnly_syncOverlays c scene _).created⟩

/-- The current background is alive, in the slot that is visible or fades in, and holds what the store holds. -/
theorem Kept.shown (h : Kept ids params s) : ∃ b ∈ (s.layers.slots s.layers.retireSlot).live,
    s.layers.currentBackground = some b.serial ∧ b = picture s.scene b.serial ∧
      ((s.layers.slots s.layers.retireSlot).opacity = 1 ∨
        s.layers.fadeIn.running = true ∧ s.layers.fadeIn.target = some s.layers.retireSlot) := by
  obtain ⟨b, hb, hcurrent⟩ := h.showing.placed.shown
  obtain ⟨hmem, halive⟩ := List.mem_filter.1 hb
  have hshows : shows b = b := by
    obtain ⟨serial, id, params, data, state, destroyed⟩ := b
    cases destroyed with
    | false => rfl
    | true => cases halive
  refine ⟨b, hb, hcurrent, ?_, h.showing.lit.visible.imp id fun hrunning => ⟨hrunning, h.showing.lit.fadeIn hrunning⟩⟩
  have hpicture := h.showing.pictured s.layers.retireSlot (shows b) (List.mem_map_of_mem hmem) hcurrent
  rwa [hshows] at hpicture

/-- Over any operations on the store whose backgrounds load, with the animations and the timer in any order between them,
the current background is alive, visible or fading in, and holds the id, the parameters, the data and the state that the
store holds, also when the id is set without the parameters. -/
theorem background_mirrors_store (c : OverlayComponents) (scene : Scene) (es : List HudEvent) (hes : ∀ e ∈ es, e.Creates) :
    let s := run (Hud.step c) (create c .created scene) es
    ∃ b ∈ (s.layers.slots s.layers.retireSlot).live, s.layers.currentBackground = some b.serial ∧
      b = picture s.scene b.serial ∧ ((s.layers.slots s.layers.retireSlot).opacity = 1 ∨
        s.layers.fadeIn.running = true ∧ s.layers.fadeIn.target = some s.layers.retireSlot) := by
  set ids := scene.activeBackgroundId :: es.flatMap HudEvent.ids with hids
  set params := scene.backgroundParams :: es.flatMap HudEvent.params with hparams
  have hkept : Kept ids params (run (Hud.step c) (create c .created scene) es) := by
    refine inv_run (P := fun _ e => e ∈ es) (fun s e h he => h.step c (hes e he) ?_ ?_)
      (kept_create c List.mem_cons_self List.mem_cons_self) ((everyStep_iff_forall _ _).2 fun e he => he)
    · exact fun id hid => List.mem_cons_of_mem _ (List.mem_flatMap.2 ⟨e, he, hid⟩)
    · exact fun p hp => List.mem_cons_of_mem _ (List.mem_flatMap.2 ⟨e, he, hp⟩)
  exact hkept.shown

/-- To space with its parameters, and back to the globe by the key, which sets the id alone. -/
theorem background_mirrors_store_shortcut :
    let s := run (Hud.step .shipped) (create .shipped .created {})
      [.op (.setBackground "space" [("focus", .string "mars")] "instant") .created, .tick .eventLoop,
        .op (.setActiveBackgroundId "globe") .created]
    ∃ b ∈ (s.layers.slots s.layers.retireSlot).live, s.layers.currentBackground = some b.serial ∧
      b = picture s.scene b.serial ∧ ((s.layers.slots s.layers.retireSlot).opacity = 1 ∨
        s.layers.fadeIn.running = true ∧ s.layers.fadeIn.target = some s.layers.retireSlot) := by
  refine background_mirrors_store .shipped {} _ ?_
  rintro e he
  rcases List.mem_cons.1 he with rfl | he
  · rfl
  rcases List.mem_cons.1 he with rfl | he
  · trivial
  · obtain rfl := List.mem_singleton.1 he
    rfl

end Hud

end PairionClient
