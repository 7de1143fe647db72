import PairionClient.Lemmas.LayerManager
import PairionClient.Lemmas.Scene
import PairionClient.Lib.Run

/-!
# The parameters of the backgrounds

The store announces new parameters before a new id, and the layers write new parameters to the background shown. A command that
changes the background so writes its parameters to the background that it replaces, which keeps them while it fades out.
-/

namespace PairionClient

open Transition

/-- A `BackgroundChange` whose component loads, or what is not about the background. -/
def HudEvent.Commands : HudEvent → Prop
  | .op (.setBackground _ _ _) outcome => outcome = .created
  | .op sceneOp _ => sceneOp.onBackground = false
  | .tick _ => True

/-- The parameters that an event supplies, for the background that it names. -/
def HudEvent.supplies : HudEvent → List (String × QJsonObject)
  | .op (.setBackground backgroundId params _) _ => [(backgroundId, params)]
  | _ => []

namespace LayerManager

/-- Every background holds parameters that were supplied for its id. -/
def Isolated (supplied : List (String × QJsonObject)) (m : LayerManager) : Prop :=
  ∀ n, ∀ b ∈ (m.slots n).children, (b.backgroundId, b.backgroundParams) ∈ supplied

/-! ## The invariant -/

/-- A child, where `backgroundId` is the id of the background shown. -/
structure Proper (supplied : List (String × QJsonObject)) (backgroundId : String) (m : LayerManager) (b : Background) :
    Prop where
  fresh : b.serial < m.created
  current : m.currentBackground = some b.serial → b.backgroundId = backgroundId
  supplied : (b.backgroundId, b.backgroundParams) ∈ supplied

structure Placed (supplied : List (String × QJsonObject)) (backgroundId : String) (m : LayerManager) : Prop where
  children : ∀ n, ∀ b ∈ (m.slots n).children, Proper supplied backgroundId m b
  shown : ∃ b ∈ (m.slots m.retireSlot).live, m.currentBackground = some b.serial
  retires : ∀ n, m.retiring = some n → n = m.activeSlot ∧ (m.slots n).live ≠ []

variable {supplied supplied' : List (String × QJsonObject)} {id : String} {m m' : LayerManager}

/-- Where every child is in its place, no background holds another's parameters. -/
theorem Placed.isolated (h : Placed supplied id m) : Isolated supplied m := fun n b hb => (h.children n b hb).supplied

/-- What retires is in the slot that is hidden. -/
theorem Placed.retiresHidden (h : Placed supplied id m) : m.RetiresHidden := by
  intro n hn
  obtain ⟨hactive, hlive⟩ := h.retires n hn
  exact ⟨hactive, fun hnil => hlive (by simp [Slot.live, hnil])⟩

/-- Writing to children, and whatever is done to the overlays. -/
theorem Placed.map (h : Placed supplied id m) {f : Background → Background} (hserial : ∀ b, (f b).serial = b.serial)
    (hid : ∀ b, (f b).backgroundId = b.backgroundId) (hdestroyed : ∀ b, (f b).destroyed = b.destroyed)
    (hsupplied : ∀ b, Proper supplied id m b → ((f b).backgroundId, (f b).backgroundParams) ∈ supplied')
    (hchildren : ∀ n, (m'.slots n).children = (m.slots n).children.map f) (hretiring : m'.retiring = m.retiring)
    (huseA : m'.useA = m.useA) (hcurrent : m'.currentBackground = m.currentBackground) (hcreated : m.created ≤ m'.created) :
    Placed supplied' id m' := by
  have hlive : ∀ n, (m'.slots n).live = (m.slots n).live.map f := by
    intro n
    rw [Slot.live, Slot.live, hchildren, List.filter_map]
    exact congrArg _ (List.filter_congr fun b _ => by rw [Function.comp_apply, hdestroyed])
  refine ⟨fun n b hb => ?_, ?_, fun n hn => ?_⟩
  · rw [hchildren] at hb
    obtain ⟨b, hmem, rfl⟩ := List.mem_map.1 hb
    have hproper := h.children n b hmem
    refine ⟨?_, ?_, hsupplied b hproper⟩
    · rw [hserial]
      exact hproper.fresh.trans_le hcreated
    · rw [hcurrent, hserial, hid]
      exact hproper.current
  · obtain ⟨b, hb, hshown⟩ := h.shown
    have hretire : m'.retireSlot = m.retireSlot := by rw [retireSlot, retireSlot, huseA]
    refine ⟨f b, ?_, ?_⟩
    · rw [hretire, hlive]
      exact List.mem_map_of_mem hb
    · rw [hcurrent, hserial]
      exact hshown
  · obtain ⟨hactive, hne⟩ := h.retires n (hretiring ▸ hn)
    refine ⟨?_, ?_⟩
    · rw [hactive, activeSlot, activeSlot, huseA]
    · rw [hlive]
      exact fun hnil => hne (List.map_eq_nil_iff.1 hnil)

/-- What leaves the children. -/
theorem Placed.same (h : Placed supplied id m) (hchildren : ∀ n, (m'.slots n).children = (m.slots n).children)
    (hretiring : m'.retiring = m.retiring) (huseA : m'.useA = m.useA) (hcurrent : m'.currentBackground = m.currentBackground)
    (hcreated : m.created ≤ m'.created) : Placed supplied id m' :=
  h.map (f := fun b => b) (fun _ => rfl) (fun _ => rfl) (fun _ => rfl) (fun _ hb => hb.supplied)
    (fun n => (hchildren n).trans (List.map_id _).symm) hretiring huseA hcurrent hcreated

/-! ## Ticks -/

/-- Destroying the first child leaves the children proper. -/
theorem proper_destroyFirst {s : Slot} (h : ∀ b ∈ s.children, Proper supplied id m b) :
    ∀ b ∈ s.destroyFirst.children, Proper supplied id m b := by
  obtain ⟨children, opacity⟩ := s
  cases children with
  | nil => exact h
  | cons first rest =>
    obtain ⟨hfirst, hrest⟩ := List.forall_mem_cons.1 h
    exact List.forall_mem_cons.2 ⟨⟨hfirst.fresh, hfirst.current, hfirst.supplied⟩, hrest⟩

/-- Deferred deletions leave the children in their places. -/
theorem Placed.eventLoop (h : Placed supplied id m) : Placed supplied id m.eventLoop := by
  refine ⟨fun n b hb => ?_, ?_, fun n hn => ?_⟩
  · have hb := h.children n b (List.mem_filter.1 hb).1
    exact ⟨hb.fresh, hb.current, hb.supplied⟩
  · obtain ⟨b, hb, hshown⟩ := h.shown
    refine ⟨b, ?_, hshown⟩
    change b ∈ Slot.live { m.slots m.retireSlot with children := (m.slots m.retireSlot).live }
    rwa [Slot.live_live]
  · obtain ⟨hactive, hne⟩ := h.retires n hn
    refine ⟨hactive, ?_⟩
    change Slot.live { m.slots n with children := (m.slots n).live } ≠ []
    rwa [Slot.live_live]

/-- The retirement ends in the slot that is hidden. -/
theorem Placed.endRetiring (h : Placed supplied id m) : Placed supplied id m.endRetiring := by
  cases hretiring : m.retiring with
  | none =>
    rw [LayerManager.endRetiring, hretiring]
    exact h
  | some n =>
    obtain ⟨rfl, -⟩ := h.retires n hretiring
    rw [endRetiring_eq m hretiring]
    refine ⟨fun n b hb => ?_, ?_, fun n hn => absurd hn (by simp)⟩
    · change b ∈ (Function.update m.slots m.activeSlot { (m.slots m.activeSlot).destroyFirst with opacity := 0 } n).children at hb
      by_cases hn : n = m.activeSlot
      · subst hn
        rw [Function.update_self] at hb
        have hb := proper_destroyFirst (h.children m.activeSlot) b hb
        exact ⟨hb.fresh, hb.current, hb.supplied⟩
      · rw [Function.update_of_ne hn] at hb
        have hb := h.children n b hb
        exact ⟨hb.fresh, hb.current, hb.supplied⟩
    · obtain ⟨b, hb, hshown⟩ := h.shown
      refine ⟨b, ?_, hshown⟩
      change b ∈ (Function.update m.slots m.activeSlot _ m.retireSlot).live
      rwa [Function.update_of_ne m.activeSlot_ne_retireSlot.symm]

/-- A tick of the fade-in leaves them in their places. -/
theorem Placed.fadeInTick (h : Placed supplied id m) (elapsed : Nat) : Placed supplied id (m.fadeInTick elapsed) := by
  refine fadeInTick_induction h ?_
  intro n _ _
  exact h.same (fun n' => children_setOpacity m n n' _) rfl rfl rfl (Nat.le_refl _)

/-- A tick of the fade-out leaves them in their places. -/
theorem Placed.fadeOutTick (h : Placed supplied id m) (elapsed : Nat) : Placed supplied id (m.fadeOutTick elapsed) := by
  refine fadeOutTick_induction h ?_
  intro n _ _
  have hupdated : Placed supplied id { m.setOpacity n (fadeValue 1 0 elapsed) with
      fadeOut := { m.fadeOut with running := elapsed < fadeDuration } } :=
    h.same (fun n' => children_setOpacity m n n' _) rfl rfl rfl (Nat.le_refl _)
  exact ⟨hupdated, hupdated.endRetiring⟩

theorem Placed.tick (h : Placed supplied id m) (t : Tick) : Placed supplied id (m.tick t) := by
  cases t with
  | eventLoop => exact h.eventLoop
  | fadeIn elapsed => exact h.eventLoop.fadeInTick elapsed
  | fadeOut elapsed => exact h.eventLoop.fadeOutTick elapsed
  | cleanup =>
    rw [LayerManager.tick, onTriggered]
    split
    · exact h.eventLoop.endRetiring.same (fun _ => rfl) rfl rfl rfl (Nat.le_refl _)
    · exact h.eventLoop

/-! ## Signals -/

/-- A write to the current background gives parameters to a child of the id that is shown, and to no other. -/
theorem Placed.modifyCurrent (h : Placed supplied id m) {f : Background → Background} (hserial : ∀ b, (f b).serial = b.serial)
    (hid : ∀ b, (f b).backgroundId = b.backgroundId) (hdestroyed : ∀ b, (f b).destroyed = b.destroyed)
    (hold : ∀ b, Proper supplied id m b → (b.backgroundId, b.backgroundParams) ∈ supplied')
    (hnew : ∀ b, Proper supplied id m b → b.backgroundId = id → (id, (f b).backgroundParams) ∈ supplied') :
    Placed supplied' id (m.modifyCurrent f) := by
  obtain ⟨shown, -, hshown⟩ := h.shown
  rw [LayerManager.modifyCurrent, hshown]
  refine h.map (f := fun b => if b.serial = shown.serial then f b else b) ?_ ?_ ?_ ?_ (fun _ => rfl) rfl rfl rfl (Nat.le_refl _)
  · intro b
    split
    · exact hserial b
    · rfl
  · intro b
    split
    · exact hid b
    · rfl
  · intro b
    split
    · exact hdestroyed b
    · rfl
  · intro b hb
    split
    · rename_i hcurrent
      have hactive := hb.current (hshown.trans (congrArg some hcurrent.symm))
      rw [hid, hactive]
      exact hnew b hb hactive
    · exact hold b hb

/-- Another property is written to the background shown and to the overlays. -/
theorem Placed.propagate (h : Placed supplied id m) {f : Background → Background} {g : String → Overlay → Overlay}
    (hserial : ∀ b, (f b).serial = b.serial) (hid : ∀ b, (f b).backgroundId = b.backgroundId)
    (hdestroyed : ∀ b, (f b).destroyed = b.destroyed) (hparams : ∀ b, (f b).backgroundParams = b.backgroundParams) :
    Placed supplied id { m.modifyCurrent f with toOverlayStack := m.toOverlayStack.forOverlays g } := by
  have hwritten : Placed supplied id (m.modifyCurrent f) := by
    refine h.modifyCurrent hserial hid hdestroyed (fun b hb => hb.supplied) ?_
    intro b hb hactive
    rw [hparams, ← hactive]
    exact hb.supplied
  rw [← m.toOverlayStack_modifyCurrent f]
  exact hwritten.same (fun _ => rfl) rfl rfl (OverlayStack.currentBackground_forOverlays g _)
    (OverlayStack.created_forOverlays g _).ge

/-- Signals that are neither of the background's id nor of its parameters. -/
theorem Placed.onSignal (h : Placed supplied id m) (c : OverlayComponents) (outcome : Outcome) {x : SceneSignal × Scene}
    (hid : x.1 ≠ .activeBackgroundIdChanged) (hparams : x.1 ≠ .backgroundParamsChanged) :
    Placed supplied id (m.onSignal c outcome x) := by
  obtain ⟨signal, scene⟩ := x
  cases signal with
  | activeBackgroundIdChanged => exact absurd rfl hid
  | backgroundParamsChanged => exact absurd rfl hparams
  | sceneTransitionChanged => exact h
  | activeOverlayIdsChanged =>
    exact h.same (fun _ => rfl) rfl rfl (OverlayStack.currentBackground_syncOverlays c scene _)
      (OverlayStack.createdOnly_syncOverlays c scene _).created
  | overlayParamsChanged =>
    exact h.same (fun _ => rfl) rfl rfl (OverlayStack.currentBackground_forOverlays _ _)
      (OverlayStack.created_forOverlays _ _).ge
  | sceneDataChanged => exact h.propagate (fun _ => rfl) (fun _ => rfl) (fun _ => rfl) fun _ => rfl
  | agentStateChanged => exact h.propagate (fun _ => rfl) (fun _ => rfl) (fun _ => rfl) fun _ => rfl

/-! ## Loads -/

/-- A load that creates a background from parameters that were supplied for it. -/
theorem Placed.load (h : Placed supplied id m) (scene : Scene) (backgroundId transition : String)
    (hsupplied : (backgroundId, scene.backgroundParams) ∈ supplied) :
    Placed supplied backgroundId (m.loadBackground .created scene backgroundId transition) := by
  set m' := m.loadBackground .created scene backgroundId transition with hm'
  have hcreated : m'.created = m.created + 1 := m.created_loadBackground scene backgroundId transition
  have hcurrent : m'.currentBackground = some m.created := m.currentBackground_loadBackground scene backgroundId transition
  have hchildren : ∀ n, (m'.slots n).children = ((m.loaded scene backgroundId).slots n).children :=
    h.retiresHidden.children_loadBackground transition
  have hretire := retireSlot_of_not (m.useA_loadBackground scene backgroundId transition)
  have hactive := activeSlot_of_not (m.useA_loadBackground scene backgroundId transition)
  have hslot : (m'.slots m.activeSlot).children =
      (m.slots m.activeSlot).destroyFirst.children ++ [m.newBackground scene backgroundId] := by
    rw [hchildren, slots_loaded_active]
  have hother : (m'.slots m.retireSlot).children = (m.slots m.retireSlot).children := by rw [hchildren, slots_loaded_retire]
  have hproper : ∀ b, Proper supplied id m b → Proper supplied backgroundId m' b := by
    intro b hb
    refine ⟨?_, fun hnow => ?_, hb.supplied⟩
    · rw [hcreated]
      exact hb.fresh.trans (Nat.lt_succ_self _)
    · rw [hcurrent] at hnow
      exact absurd (Option.some.inj hnow) hb.fresh.ne'
  refine ⟨fun n b hb => ?_, ?_, fun n hn => ?_⟩
  · by_cases hn : n = m.activeSlot
    · rw [hn, hslot] at hb
      rcases List.mem_append.1 hb with hold | hnew
      · exact hproper b (proper_destroyFirst (h.children m.activeSlot) b hold)
      · obtain rfl := List.mem_singleton.1 hnew
        exact ⟨hcreated ▸ Nat.lt_succ_self _, fun _ => rfl, hsupplied⟩
    · rw [m.eq_retireSlot_of_ne hn, hother] at hb
      exact hproper b (h.children _ b hb)
  · refine ⟨m.newBackground scene backgroundId, ?_, hcurrent⟩
    rw [hretire, Slot.live, hslot]
    exact List.mem_filter.2 ⟨List.mem_append_right _ (List.mem_singleton_self _), rfl⟩
  · obtain rfl := retiring_loadBackground hn
    obtain ⟨b, hb, -⟩ := h.shown
    refine ⟨hactive.symm, ?_⟩
    rw [Slot.live, hother]
    exact List.ne_nil_of_mem hb

end LayerManager

namespace Hud

open LayerManager

/-- What was supplied with the store as it was at first, and by the events. -/
def suppliedBy (scene : Scene) (es : List HudEvent) : List (String × QJsonObject) :=
  (scene.activeBackgroundId, scene.backgroundParams) :: es.flatMap HudEvent.supplies

/-- A command that changes the background carries parameters that were supplied for the background shown, too. -/
def Spares (supplied : List (String × QJsonObject)) (scene : Scene) : HudEvent → Prop
  | .op (.setBackground backgroundId params _) _ =>
    backgroundId = scene.activeBackgroundId ∨ (scene.activeBackgroundId, params) ∈ supplied
  | _ => True

variable {c : OverlayComponents} {s : Hud} {supplied : List (String × QJsonObject)}

/-- The layers after a command: first the parameters, then the id if it is another. -/
theorem step_setBackground (c : OverlayComponents) (s : Hud) (backgroundId : String) (params : QJsonObject)
    (transition : String) (outcome : Outcome) :
    let scene := s.scene.step (.setBackground backgroundId params transition)
    let written := s.layers.modifyCurrent fun b => { b with backgroundParams := params }
    s.step c (.op (.setBackground backgroundId params transition) outcome) =
      ⟨scene, if s.scene.activeBackgroundId = backgroundId then written
        else written.loadBackground outcome scene backgroundId scene.sceneTransition⟩ := by
  have hsilent : ∀ (t : String) (scene : Scene),
      (if s.scene.sceneTransition = t then [] else [(SceneSignal.sceneTransitionChanged, scene)]).foldl (onSignal c outcome)
        s.layers = s.layers := by
    intro t scene
    split <;> rfl
  simp only [Hud.step, Scene.step, SceneOp.apply, Scene.setBackground, List.foldl_append, hsilent]
  by_cases hsame : s.scene.activeBackgroundId = backgroundId
  · rw [if_pos hsame, if_pos hsame]
    rfl
  · rw [if_neg hsame, if_neg hsame]
    rfl

/-- Signals that announce no background change no parameters. -/
theorem Placed.signals {m : LayerManager} {id : String} (h : Placed supplied id m) (c : OverlayComponents) (outcome : Outcome)
    {xs : List (SceneSignal × Scene)} (hxs : ∀ x ∈ xs, x.1 ≠ .activeBackgroundIdChanged ∧ x.1 ≠ .backgroundParamsChanged) :
    Placed supplied id (xs.foldl (onSignal c outcome) m) := by
  induction xs generalizing m with
  | nil => exact h
  | cons x xs ih =>
    obtain ⟨hx, hxs⟩ := List.forall_mem_cons.1 hxs
    exact ih (h.onSignal c outcome hx.1 hx.2) hxs

/-! ## Steps -/

/-- The layers show the background of the store. -/
def PlacedIn (supplied : List (String × QJsonObject)) (s : Hud) : Prop := Placed supplied s.scene.activeBackgroundId s.layers

/-- A change of the background that spares the old one leaves every child with parameters supplied for it. -/
theorem PlacedIn.setBackground (h : PlacedIn supplied s) (c : OverlayComponents) (backgroundId : String) (params : QJsonObject)
    (transition : String)
    (hspares : backgroundId = s.scene.activeBackgroundId ∨ (s.scene.activeBackgroundId, params) ∈ supplied) :
    PlacedIn (supplied ++ [(backgroundId, params)])
      (s.step c (.op (.setBackground backgroundId params transition) .created)) := by
  have hmore : supplied ⊆ supplied ++ [(backgroundId, params)] := List.subset_append_left _ _
  have hlast : (backgroundId, params) ∈ supplied ++ [(backgroundId, params)] :=
    List.mem_append_right _ (List.mem_singleton_self _)
  have hsupplied : (s.scene.activeBackgroundId, params) ∈ supplied ++ [(backgroundId, params)] := by
    rcases hspares with rfl | hbefore
    · exact hlast
    · exact hmore hbefore
  have hwritten : Placed (supplied ++ [(backgroundId, params)]) s.scene.activeBackgroundId
      (s.layers.modifyCurrent fun b => { b with backgroundParams := params }) :=
    LayerManager.Placed.modifyCurrent h (fun _ => rfl) (fun _ => rfl) (fun _ => rfl) (fun _ hb => hmore hb.supplied)
      fun _ _ _ => hsupplied
  rw [PlacedIn, step_setBackground]
  dsimp only
  split
  · rename_i hsame
    exact hsame ▸ hwritten
  · exact hwritten.load _ backgroundId _ hlast

/-- Whatever is not about the background leaves the children proper. -/
theorem PlacedIn.step (h : PlacedIn supplied s) (c : OverlayComponents) {e : HudEvent} (he : e.Commands)
    (hspares : Spares supplied s.scene e) : PlacedIn (supplied ++ e.supplies) (s.step c e) := by
  have hother : ∀ (op : SceneOp) (outcome : Outcome), op.onBackground = false →
      PlacedIn supplied (s.step c (.op op outcome)) := by
    intro op outcome hop
    obtain ⟨hid, hsignals⟩ := Scene.background_apply (s := s.scene) hop
    rw [PlacedIn, Hud.step, hid]
    exact Placed.signals h c outcome hsignals
  cases e with
  | tick t =>
    change PlacedIn (supplied ++ []) _
    rw [List.append_nil]
    exact LayerManager.Placed.tick h t
  | op op outcome =>
    cases op with
    | setBackground backgroundId params transition =>
      obtain rfl : outcome = .created := he
      exact h.setBackground c backgroundId params transition hspares
    | _ =>
      change PlacedIn (supplied ++ []) _
      rw [List.append_nil]
      exact hother _ outcome he

/-- The background that is replaced keeps the parameters of its successor. -/
theorem PlacedIn.not_isolated (h : PlacedIn supplied s) (c : OverlayComponents) {e : HudEvent} (he : e.Commands)
    (hspares : ¬Spares supplied s.scene e) : ¬Isolated (supplied ++ e.supplies) (s.step c e).layers := by
  cases e with
  | tick t => exact absurd trivial hspares
  | op op outcome =>
    cases op with
    | setBackground backgroundId params transition =>
      obtain rfl : outcome = .created := he
      obtain ⟨hother, hforeign⟩ := not_or.1 hspares
      obtain ⟨shown, hshown, hcurrent⟩ := LayerManager.Placed.shown h
      have hmem : shown ∈ (s.layers.slots s.layers.retireSlot).children := (List.mem_filter.1 hshown).1
      have hid := (LayerManager.Placed.children h _ shown hmem).current hcurrent
      set written := s.layers.modifyCurrent fun b => { b with backgroundParams := params } with hwritten
      have heq : written = { s.layers with
          slots := fun n => { s.layers.slots n with
            children := (s.layers.slots n).children.map fun b =>
              if b.serial = shown.serial then { b with backgroundParams := params } else b } } := by
        rw [hwritten, LayerManager.modifyCurrent, hcurrent]
      have hhidden : written.RetiresHidden := by
        intro n hn
        rw [heq] at hn ⊢
        obtain ⟨hactive, hne⟩ := LayerManager.Placed.retiresHidden h n hn
        exact ⟨hactive, fun hnil => hne (List.map_eq_nil_iff.1 hnil)⟩
      have hretire : written.retireSlot = s.layers.retireSlot := by rw [heq]; rfl
      have hkept : { shown with backgroundParams := params } ∈ (written.slots written.retireSlot).children := by
        rw [hretire, heq]
        exact List.mem_map.2 ⟨shown, hmem, if_pos rfl⟩
      intro hisolated
      have hheld := hisolated written.retireSlot { shown with backgroundParams := params } <| by
        rw [step_setBackground]
        dsimp only
        rw [if_neg (Ne.symm hother), hhidden.children_loadBackground, slots_loaded_retire]
        exact hkept
      rw [HudEvent.supplies, hid] at hheld
      rcases List.mem_append.1 hheld with hbefore | hnow
      · exact hforeign hbefore
      · exact hother (congrArg Prod.fst (List.mem_singleton.1 hnow)).symm
    | _ => exact absurd trivial hspares

/-! ## Runs -/

/-- The first background holds the parameters of the store. -/
theorem placedIn_create (c : OverlayComponents) (scene : Scene) : PlacedIn (suppliedBy scene []) (create c .created scene) := by
  set bg : Background := newBackground scene scene.activeBackgroundId {} with hbg
  set m := loadBackground .created scene scene.activeBackgroundId "instant" {} with hm
  have hstack : (onCompleted c .created scene).toOverlayStack = m.syncOverlays c scene := rfl
  have hcurrent : (onCompleted c .created scene).currentBackground = some bg.serial := by
    rw [hstack, OverlayStack.currentBackground_syncOverlays, hm, toOverlayStack_loadBackground]
    rfl
  have hcreated : bg.serial < (onCompleted c .created scene).created := by
    refine Nat.lt_of_lt_of_le (Nat.zero_lt_succ 0) (le_of_le_of_eq ?_ (congrArg OverlayStack.created hstack).symm)
    exact (OverlayStack.createdOnly_syncOverlays c scene m.toOverlayStack).created
  refine ⟨fun n b hb => ?_, ⟨bg, List.mem_singleton_self bg, hcurrent⟩, fun n hn => absurd hn nofun⟩
  cases n with
  | slotA =>
    obtain rfl := List.mem_singleton.1 hb
    exact ⟨hcreated, fun _ => rfl, List.mem_singleton_self _⟩
  | slotB => exact absurd hb List.not_mem_nil

theorem suppliedBy_concat (scene : Scene) (es : List HudEvent) (e : HudEvent) :
    suppliedBy scene (es ++ [e]) = suppliedBy scene es ++ e.supplies := by
  rw [suppliedBy, List.flatMap_append, List.flatMap_singleton, ← List.cons_append, suppliedBy]

/-- Over any commands whose components load, with anything between them that is not about the background: every background
only ever holds parameters that were supplied for its id, if and only if each command that changes the background carries
parameters that were supplied for the background shown before. -/
theorem background_params_isolated_iff (c : OverlayComponents) (scene : Scene) (es : List HudEvent) (hes : ∀ e ∈ es, e.Commands) :
    (∀ pre, pre <+: es → Isolated (suppliedBy scene pre) (run (Hud.step c) (create c .created scene) pre).layers) ↔
      ∀ pre e, pre ++ [e] <+: es →
        Spares (suppliedBy scene pre) (run (Hud.step c) (create c .created scene) pre).scene e := by
  refine prefixes_iff_steps HudEvent.Commands (fun pre => PlacedIn (suppliedBy scene pre))
    (fun pre s => Isolated (suppliedBy scene pre) s.layers) (fun pre s => Spares (suppliedBy scene pre) s.scene)
    (fun pre s h => h.isolated) ?_ ?_ hes (placedIn_create c scene)
  · intro pre s e he h hspares
    rw [suppliedBy_concat]
    exact h.step c he hspares
  · intro pre s e he h hspares
    rw [suppliedBy_concat]
    exact h.not_isolated c he hspares

/-- The globe is given a zoom, the street map comes with the same one, and is then given another. -/
def sameZoom : List HudEvent :=
  [.op (.setBackground "globe" [("zoom", .double 12)] "crossfade") .created,
    .op (.setBackground "osm" [("zoom", .double 12)] "crossfade") .created, .tick (.fadeOut 400),
    .op (.setBackground "osm" [("zoom", .double 5)] "crossfade") .created]

/-- So it is while the globe fades out, and at the end. -/
theorem background_params_isolated_same_zoom :
    let layers (events : List HudEvent) := (run (Hud.step .shipped) (create .shipped .created {}) events).layers
    Isolated (suppliedBy {} (sameZoom.take 3)) (layers (sameZoom.take 3)) ∧
      Isolated (suppliedBy {} sameZoom) (layers sameZoom) := by
  have hall : ∀ pre, pre <+: sameZoom →
      Isolated (suppliedBy {} pre) (run (Hud.step .shipped) (create .shipped .created {}) pre).layers :=
    (background_params_isolated_iff .shipped {} sameZoom ?_).2 ?_
  · exact ⟨hall _ (List.take_prefix _ _), hall _ (List.prefix_refl _)⟩
  · intro e he
    simp only [sameZoom, List.mem_cons, List.not_mem_nil, or_false] at he
    rcases he with rfl | rfl | rfl | rfl
    · exact rfl
    · exact rfl
    · exact trivial
    · exact rfl
  · intro pre e hpre
    rw [sameZoom] at hpre
    rcases pre with - | ⟨a, - | ⟨b, - | ⟨c, - | ⟨d, rest⟩⟩⟩⟩ <;>
      simp only [List.nil_append, List.cons_append, List.cons_prefix_cons, List.prefix_nil, List.append_ne_nil_of_right_ne_nil,
        ne_eq, reduceCtorEq, not_false_eq_true, and_false, List.nil_prefix, and_true] at hpre
    · subst hpre
      exact Or.inl rfl
    · -- the globe was supplied with this zoom before
      obtain ⟨rfl, rfl⟩ := hpre
      exact Or.inr (List.mem_cons_of_mem _ (List.mem_singleton_self _))
    · obtain ⟨rfl, rfl, rfl⟩ := hpre
      exact trivial
    · obtain ⟨rfl, rfl, rfl, rfl⟩ := hpre
      exact Or.inl rfl

/-- From the globe to the street map: while it fades out the globe holds the zoom of the map. -/
theorem background_params_isolated_false :
    let es : List HudEvent := [.op (.setBackground "osm" [("zoom", .double 12)] "crossfade") .created]
    ¬∀ pre, pre <+: es → Isolated (suppliedBy {} pre) (run (Hud.step .shipped) (create .shipped .created {}) pre).layers := by
  intro es h
  have hspares : ¬Spares (suppliedBy {} []) {} (.op (.setBackground "osm" [("zoom", .double 12)] "crossfade") .created) := by
    rintro (hsame | hsupplied)
    · exact absurd hsame (by decide)
    · exact absurd (congrArg Prod.snd (List.mem_singleton.1 hsupplied)) (List.cons_ne_nil _ _)
  exact (placedIn_create .shipped {}).not_isolated .shipped (e := .op (.setBackground "osm" _ "crossfade") .created) rfl hspares
    (h es (List.prefix_refl _))

end Hud

end PairionClient
