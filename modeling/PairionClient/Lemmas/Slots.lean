import PairionClient.Lemmas.LayerManager
import PairionClient.Lib.Run

/-!
# The two slots

The slots take turns, and nothing else tells them apart: exchanging their names changes nothing that a load does. A
background is known by its number, which it has for itself, and it is a child of one slot only.
-/

namespace PairionClient

open Transition

def SlotName.other : SlotName → SlotName
  | .slotA => .slotB
  | .slotB => .slotA

namespace SlotName

@[simp] theorem other_other (n : SlotName) : n.other.other = n := by
  cases n <;> rfl

/-- `other` can be moved to the other side of an equation. -/
theorem other_eq_iff {n n' : SlotName} : n.other = n' ↔ n = n'.other := by
  constructor
  · rintro rfl
    exact (other_other n).symm
  · rintro rfl
    exact other_other n'

end SlotName

namespace LayerManager

/-! ## Exchanging the slots -/

def FadeAnimation.exchanged (a : FadeAnimation) : FadeAnimation := { a with target := a.target.map SlotName.other }

/-- The same layers with the two slots named the other way. -/
def exchanged (m : LayerManager) : LayerManager :=
  { m with
    slots := fun n => m.slots n.other
    useA := !m.useA
    retiring := m.retiring.map SlotName.other
    fadeIn := FadeAnimation.exchanged m.fadeIn
    fadeOut := FadeAnimation.exchanged m.fadeOut }

variable (m : LayerManager)

/-- With the slots exchanged, the active one is the other. -/
theorem activeSlot_exchanged : m.exchanged.activeSlot = m.activeSlot.other := by
  unfold activeSlot exchanged
  cases m.useA <;> rfl

/-- With the slots exchanged, the retiring one is the other. -/
theorem retireSlot_exchanged : m.exchanged.retireSlot = m.retireSlot.other := by
  unfold retireSlot exchanged
  cases m.useA <;> rfl

/-- A change of a slot is exchanged with it. -/
theorem modifySlot_exchanged (n : SlotName) (f : Slot → Slot) :
    (m.modifySlot n f).exchanged = m.exchanged.modifySlot n.other f := by
  have hslots : (m.modifySlot n f).exchanged.slots = (m.exchanged.modifySlot n.other f).slots := by
    funext n'
    change Function.update m.slots n _ n'.other =
      Function.update (fun n => m.slots n.other) n.other (f (m.slots n.other.other)) n'
    rw [SlotName.other_other]
    by_cases h : n' = n.other
    · rw [h, SlotName.other_other, Function.update_self, Function.update_self]
    · have hother : n'.other ≠ n := fun heq => h (SlotName.other_eq_iff.1 heq)
      rw [Function.update_of_ne hother, Function.update_of_ne h]
  exact congrArg (fun slots : SlotName → Slot => { m.exchanged with slots := slots }) hslots

theorem setOpacity_exchanged (n : SlotName) (opacity : ℚ) :
    (m.setOpacity n opacity).exchanged = m.exchanged.setOpacity n.other opacity :=
  m.modifySlot_exchanged n _

/-- Where nothing retires, nothing is destroyed. -/
theorem destroyRetiring_of_none {m : LayerManager} (h : m.retiring = none) : m.destroyRetiring = m := by
  rw [destroyRetiring, h]

theorem destroyRetiring_of_some {m : LayerManager} {n : SlotName} (h : m.retiring = some n) :
    m.destroyRetiring = { m.modifySlot n Slot.destroyFirst with retiring := none } := by
  rw [destroyRetiring, h]

/-- The end of what retires does not depend on which slot is called A. -/
theorem destroyRetiring_exchanged : m.destroyRetiring.exchanged = m.exchanged.destroyRetiring := by
  cases h : m.retiring with
  | none =>
    have hexchanged : m.exchanged.retiring = none := congrArg (Option.map SlotName.other) h
    rw [destroyRetiring_of_none h, destroyRetiring_of_none hexchanged]
  | some n =>
    have hexchanged : m.exchanged.retiring = some n.other := congrArg (Option.map SlotName.other) h
    rw [destroyRetiring_of_some h, destroyRetiring_of_some hexchanged, ← modifySlot_exchanged]
    rfl

theorem switchAtOnce_exchanged (n n' : SlotName) :
    (m.switchAtOnce n n').exchanged = m.exchanged.switchAtOnce n.other n'.other := by
  rw [switchAtOnce, switchAtOnce, destroyRetiring_exchanged, setOpacity_exchanged, setOpacity_exchanged]
  rfl

theorem interrupt_exchanged : m.interrupt.exchanged = m.exchanged.interrupt := by
  have hretiring : m.exchanged.retiring.isSome = m.retiring.isSome := Option.isSome_map
  unfold interrupt
  rw [hretiring]
  split
  · rw [destroyRetiring_exchanged]
    rfl
  · rfl

theorem crossfade_exchanged (n n' : SlotName) :
    (m.crossfade n n').exchanged = m.exchanged.crossfade n.other n'.other := by
  rw [crossfade, crossfade, setOpacity_exchanged, setOpacity_exchanged, ← interrupt_exchanged]
  rfl

/-- The new background takes the place of the first child of the slot that it is loaded into. -/
theorem loaded_eq (scene : Scene) (id : String) :
    m.loaded scene id =
      { m.modifySlot m.activeSlot fun s =>
          { s.destroyFirst with children := s.destroyFirst.children ++ [m.newBackground scene id] } with
        useA := !m.useA
        toOverlayStack := { m.toOverlayStack with created := m.created + 1 }.setBackground m.created } := by
  have hslots : (m.loaded scene id).slots = (m.modifySlot m.activeSlot fun s =>
      { s.destroyFirst with children := s.destroyFirst.children ++ [m.newBackground scene id] }).slots := by
    funext n
    change _ = Function.update m.slots m.activeSlot _ n
    by_cases h : n = m.activeSlot
    · rw [h, slots_loaded_active, Function.update_self]
    · rw [Function.update_of_ne h, m.eq_retireSlot_of_ne h, slots_loaded_retire]
  exact congrArg (fun slots : SlotName → Slot => { m.loaded scene id with slots := slots }) hslots

theorem loaded_exchanged (scene : Scene) (id : String) : (m.loaded scene id).exchanged = m.exchanged.loaded scene id := by
  rw [loaded_eq, loaded_eq, activeSlot_exchanged]
  change _ = { m.exchanged.modifySlot m.activeSlot.other fun s =>
      { s.destroyFirst with children := s.destroyFirst.children ++ [m.newBackground scene id] } with
    useA := !m.exchanged.useA
    toOverlayStack := { m.toOverlayStack with created := m.created + 1 }.setBackground m.created }
  rw [← modifySlot_exchanged]
  rfl

/-- Loads do not depend on the names of the slots. -/
theorem loadBackground_exchanged (outcome : Outcome) (scene : Scene) (id transition : String) :
    (m.loadBackground outcome scene id transition).exchanged = m.exchanged.loadBackground outcome scene id transition := by
  cases outcome with
  | componentError => rfl
  | createFailed =>
    rw [loadBackground, loadBackground, activeSlot_exchanged, ← modifySlot_exchanged]
    rfl
  | created =>
    have hinstant : m.exchanged.instant transition = m.instant transition := by
      rw [instant, instant, retireSlot_exchanged]
      change (_ || decide ((m.slots m.retireSlot.other.other).opacity = 0)) = _
      rw [SlotName.other_other]
    rw [loadBackground, loadBackground, hinstant, activeSlot_exchanged, retireSlot_exchanged, ← loaded_exchanged]
    split
    · exact switchAtOnce_exchanged _ _ _
    · exact crossfade_exchanged _ _ _

/-! ## The children -/

/-- A property of the children of a slot. -/
def read {β : Type} (f : Background → β) (n : SlotName) (m : LayerManager) : List β := (m.slots n).children.map f

/-- The numbers of the children. -/
abbrev serials (n : SlotName) (m : LayerManager) : List Nat := m.read Background.serial n

section Read

variable {m : LayerManager} {β : Type} {f : Background → β}

/-- A reading that does not see whether a background is destroyed reads the same after `destroy`. -/
theorem read_destroyFirst (hf : ∀ b, f { b with destroyed := true } = f b) (s : Slot) :
    s.destroyFirst.children.map f = s.children.map f := by
  obtain ⟨children, opacity⟩ := s
  cases children with
  | nil => rfl
  | cons first rest => exact congrArg (fun x => x :: rest.map f) (hf first)

/-- A change of a slot that a reading of its children does not see leaves the reading of both slots. -/
theorem read_modifySlot {g : Slot → Slot} (hg : ∀ s, (g s).children.map f = s.children.map f) (n n' : SlotName) :
    (m.modifySlot n g).read f n' = m.read f n' := by
  change (Function.update m.slots n (g (m.slots n)) n').children.map f = _
  by_cases h : n' = n
  · rw [h, Function.update_self]
    exact hg _
  · rw [Function.update_of_ne h]
    rfl

@[simp] theorem read_setOpacity (n n' : SlotName) (opacity : ℚ) : (m.setOpacity n opacity).read f n' = m.read f n' := by
  rw [read, children_setOpacity, read]

theorem read_destroyRetiring (hf : ∀ b, f { b with destroyed := true } = f b) (n : SlotName) :
    m.destroyRetiring.read f n = m.read f n := by
  cases h : m.retiring with
  | none => rw [destroyRetiring_of_none h]
  | some n' =>
    rw [destroyRetiring_of_some h]
    exact read_modifySlot (read_destroyFirst hf) n' n

theorem read_endRetiring (hf : ∀ b, f { b with destroyed := true } = f b) (n : SlotName) :
    m.endRetiring.read f n = m.read f n := by
  unfold endRetiring
  split
  · rfl
  · rw [read_setOpacity, read_destroyRetiring hf]

/-- A load adds the reading of the new background to that of the active slot. -/
theorem read_loaded (hf : ∀ b, f { b with destroyed := true } = f b) (scene : Scene) (id : String) (n : SlotName) :
    (m.loaded scene id).read f n = m.read f n ++ if n = m.activeSlot then [f (m.newBackground scene id)] else [] := by
  unfold read
  split
  · rename_i hn
    rw [hn, slots_loaded_active, List.map_append, read_destroyFirst hf]
    rfl
  · rename_i hn
    rw [m.eq_retireSlot_of_ne hn, slots_loaded_retire, List.append_nil]

/-- A load adds its background to the children of the target slot, and no child leaves before the event loop. -/
theorem read_loadBackground (hf : ∀ b, f { b with destroyed := true } = f b) (scene : Scene) (id transition : String)
    (n : SlotName) :
    (m.loadBackground .created scene id transition).read f n =
      m.read f n ++ if n = m.activeSlot then [f (m.newBackground scene id)] else [] := by
  rw [loadBackground, ← read_loaded hf scene id]
  split
  · rw [switchAtOnce, read_destroyRetiring hf, read_setOpacity, read_setOpacity]
    rfl
  · have hinterrupt : (m.loaded scene id).interrupt.read f n = (m.loaded scene id).read f n := by
      unfold interrupt
      split
      · exact read_destroyRetiring hf n
      · rfl
    rw [crossfade, read_setOpacity, read_setOpacity]
    exact hinterrupt

/-- Writing to the current background what is not read. -/
theorem read_modifyCurrent {g : Background → Background} (hg : ∀ b, f (g b) = f b) (n : SlotName) :
    (m.modifyCurrent g).read f n = m.read f n := by
  unfold modifyCurrent
  split
  · rfl
  · change List.map f (List.map _ (m.slots n).children) = _
    rw [List.map_map]
    refine List.map_congr_left ?_
    intro b _
    rw [Function.comp_apply]
    split
    · exact hg b
    · rfl

/-- On their own the layers only lose children. -/
theorem read_tick (hf : ∀ b, f { b with destroyed := true } = f b) (t : Tick) (n : SlotName) :
    ((m.tick t).read f n).Sublist (m.read f n) := by
  have hloop : (m.eventLoop.read f n).Sublist (m.read f n) := List.filter_sublist.map f
  cases t with
  | eventLoop => exact hloop
  | fadeIn elapsed =>
    refine fadeInTick_induction (motive := fun m' => (m'.read f n).Sublist (m.read f n)) hloop ?_
    intro n' _ _
    exact (read_setOpacity (m := m.eventLoop) (f := f) n' n _).symm ▸ hloop
  | fadeOut elapsed =>
    refine fadeOutTick_induction (motive := fun m' => (m'.read f n).Sublist (m.read f n)) hloop ?_
    intro n' _ _
    have hupdated := read_setOpacity (m := m.eventLoop) (f := f) n' n (fadeValue 1 0 elapsed)
    constructor
    · exact hupdated.symm ▸ hloop
    · rw [read_endRetiring hf]
      exact hupdated.symm ▸ hloop
  | cleanup =>
    change (m.eventLoop.onTriggered.read f n).Sublist _
    unfold onTriggered
    split
    · exact (read_endRetiring hf n (m := m.eventLoop)).symm ▸ hloop
    · exact hloop

end Read

variable {m}

/-- Nothing was loaded yet. -/
def Blank (m : LayerManager) : Prop := m.slots = (fun _ => {}) ∧ m.retiring = none ∧ m.fadeIn = {} ∧ m.fadeOut = {}

/-- Each background has one number and one slot; and as long as there is no current one, nothing was loaded. -/
structure Numbered (m : LayerManager) : Prop where
  fresh : ∀ n, ∀ x ∈ m.serials n, x < m.created
  nodup : ∀ n, (m.serials n).Nodup
  apart : ∀ n n', n ≠ n' → ∀ x ∈ m.serials n, x ∉ m.serials n'
  blank : m.currentBackground = none → m.Blank

/-- A step that adds no child. -/
theorem Numbered.mono (h : Numbered m) {m' : LayerManager} (hserials : ∀ n, (m'.serials n).Sublist (m.serials n))
    (hcreated : m.created ≤ m'.created) (hcurrent : m'.currentBackground = m.currentBackground)
    (hblank : m.Blank → m'.Blank) : Numbered m' where
  fresh := fun n x hx => (h.fresh n x ((hserials n).subset hx)).trans_le hcreated
  nodup := fun n => (h.nodup n).sublist (hserials n)
  apart := fun n n' hne x hx hx' => h.apart n n' hne x ((hserials n).subset hx) ((hserials n').subset hx')
  blank := fun hnone => hblank (h.blank (hcurrent ▸ hnone))

/-- A step that writes to the children and leaves the rest. -/
theorem Numbered.written (h : Numbered m) {m' : LayerManager} (hserials : ∀ n, m'.serials n = m.serials n)
    (hcreated : m.created ≤ m'.created) (hcurrent : m'.currentBackground = m.currentBackground)
    (hblank : m.Blank → m'.Blank) : Numbered m' :=
  h.mono (fun n => by rw [hserials n]) hcreated hcurrent hblank

/-- A change that leaves the empty slot as it is leaves empty slots. -/
theorem Blank.modifySlot (h : m.Blank) {f : Slot → Slot} (hf : f {} = {}) (n : SlotName) :
    (m.modifySlot n f).slots = fun _ => {} := by
  have hself : f (m.slots n) = m.slots n := by
    rw [h.1]
    exact hf
  change Function.update m.slots n (f (m.slots n)) = _
  rw [hself, Function.update_eq_self, h.1]

/-- A load that succeeds numbers its background with the next number. -/
theorem Numbered.created (h : Numbered m) (scene : Scene) (id transition : String) :
    Numbered (m.loadBackground .created scene id transition) := by
  have hcreated := m.created_loadBackground scene id transition
  have hcurrent := m.currentBackground_loadBackground scene id transition
  have hnew : ∀ n, ∀ x ∈ (m.loadBackground .created scene id transition).serials n,
      x ∈ m.serials n ∨ x = m.created ∧ n = m.activeSlot := by
    intro n x hx
    rw [serials, read_loadBackground fun _ => rfl] at hx
    rcases List.mem_append.1 hx with hold | hnow
    · exact Or.inl hold
    · split at hnow
      · rename_i hn
        exact Or.inr ⟨List.mem_singleton.1 hnow, hn⟩
      · exact absurd hnow List.not_mem_nil
  refine ⟨?fresh, fun n => ?nodup, ?apart, fun hnone => ?_⟩
  case fresh =>
    intro n x hx
    rw [hcreated]
    rcases hnew n x hx with hold | ⟨rfl, -⟩
    · exact (h.fresh n x hold).trans (Nat.lt_succ_self _)
    · exact Nat.lt_succ_self _
  case nodup =>
    rw [serials, read_loadBackground fun _ => rfl]
    refine List.nodup_append.2 ⟨h.nodup n, ?_, fun x hx y hy => ?_⟩
    · split
      · exact List.nodup_singleton _
      · exact List.nodup_nil
    · split at hy
      · rw [List.mem_singleton.1 hy]
        exact (h.fresh n x hx).ne
      · exact absurd hy List.not_mem_nil
  case apart =>
    intro n n' hne x hx hx'
    rcases hnew n x hx with hold | ⟨hcreated, hn⟩ <;> rcases hnew n' x hx' with hold' | ⟨hcreated', hn'⟩
    · exact h.apart n n' hne x hold hold'
    · exact absurd hcreated' (h.fresh n x hold).ne
    · exact absurd hcreated (h.fresh n' x hold').ne
    · exact hne (hn.trans hn'.symm)
  · rw [hcurrent] at hnone
    exact absurd hnone (by simp)

/-- A load that fails in the creation of its object. -/
def createFailed (m : LayerManager) : LayerManager :=
  { m.modifySlot m.activeSlot Slot.destroyFirst with useA := !m.useA }

/-- A load whose object is not created keeps the numbers. -/
theorem Numbered.createFailed (h : Numbered m) : Numbered m.createFailed := by
  refine h.written (fun n => read_modifySlot (read_destroyFirst fun _ => rfl) m.activeSlot n) (Nat.le_refl _) rfl ?_
  intro hblank
  exact ⟨hblank.modifySlot rfl m.activeSlot, hblank.2⟩

/-- Whatever a load comes to, the backgrounds are numbered in turn. -/
theorem Numbered.loadBackground (h : Numbered m) (outcome : Outcome) (scene : Scene) (id transition : String) :
    Numbered (m.loadBackground outcome scene id transition) := by
  cases outcome with
  | componentError => exact h
  | createFailed => exact h.createFailed
  | created => exact h.created scene id transition

/-- A write to the current background that leaves its number keeps the numbers. -/
theorem Numbered.modifyCurrent (h : Numbered m) {f : Background → Background} (hf : ∀ b, (f b).serial = b.serial) :
    Numbered (m.modifyCurrent f) := by
  have hstack := m.toOverlayStack_modifyCurrent f
  refine h.written (read_modifyCurrent hf) ?_ ?_ fun hblank => ?_
  · rw [hstack]
  · rw [hstack]
  · unfold LayerManager.modifyCurrent
    split
    · exact hblank
    · refine ⟨funext fun n => ?_, hblank.2⟩
      change Slot.mk ((m.slots n).children.map _) (m.slots n).opacity = _
      rw [hblank.1]
      rfl

/-- A step of the overlays only. -/
theorem Numbered.overlays (h : Numbered m) {st : OverlayStack} (hcurrent : st.currentBackground = m.currentBackground)
    (hcreated : m.created ≤ st.created) : Numbered { m with toOverlayStack := st } :=
  h.written (fun _ => rfl) hcreated hcurrent fun hblank => hblank

/-- A property is written to the background shown and to the overlays. -/
theorem Numbered.propagate (h : Numbered m) {f : Background → Background} {g : String → Overlay → Overlay}
    (hserial : ∀ b, (f b).serial = b.serial) :
    Numbered { m.modifyCurrent f with toOverlayStack := m.toOverlayStack.forOverlays g } := by
  have hwritten : Numbered (m.modifyCurrent f) := h.modifyCurrent hserial
  rw [← m.toOverlayStack_modifyCurrent f]
  exact hwritten.overlays (OverlayStack.currentBackground_forOverlays g _) (OverlayStack.created_forOverlays g _).ge

/-- Every signal of the store keeps the numbers. -/
theorem Numbered.onSignal (h : Numbered m) (c : OverlayComponents) (outcome : Outcome) (x : SceneSignal × Scene) :
    Numbered (m.onSignal c outcome x) := by
  obtain ⟨signal, scene⟩ := x
  cases signal with
  | activeBackgroundIdChanged => exact h.loadBackground outcome scene _ _
  | backgroundParamsChanged => exact h.modifyCurrent fun _ => rfl
  | sceneTransitionChanged => exact h
  | activeOverlayIdsChanged =>
    exact h.overlays (OverlayStack.currentBackground_syncOverlays c scene _)
      (OverlayStack.createdOnly_syncOverlays c scene _).created
  | overlayParamsChanged =>
    exact h.overlays (OverlayStack.currentBackground_forOverlays _ _) (OverlayStack.created_forOverlays _ _).ge
  | sceneDataChanged => exact h.propagate fun _ => rfl
  | agentStateChanged => exact h.propagate fun _ => rfl

/-- Where nothing was loaded, nothing runs. -/
theorem Blank.tick (h : m.Blank) (t : Tick) : (m.tick t).Blank := by
  obtain ⟨hslots, hretiring, hin, hout⟩ := h
  have hloop : m.eventLoop.Blank := by
    refine ⟨funext fun n => ?_, hretiring, hin, hout⟩
    change Slot.mk (m.slots n).live (m.slots n).opacity = _
    rw [hslots]
    rfl
  have hinLoop : m.eventLoop.fadeIn = {} := hin
  have houtLoop : m.eventLoop.fadeOut = {} := hout
  have hretiringLoop : m.eventLoop.retiring = none := hretiring
  cases t with
  | eventLoop => exact hloop
  | fadeIn elapsed =>
    change (m.eventLoop.fadeInTick elapsed).Blank
    rw [fadeInTick, hinLoop]
    exact hloop
  | fadeOut elapsed =>
    change (m.eventLoop.fadeOutTick elapsed).Blank
    rw [fadeOutTick, houtLoop]
    exact hloop
  | cleanup =>
    change m.eventLoop.onTriggered.Blank
    rw [onTriggered, endRetiring, hretiringLoop]
    split
    · exact hloop
    · exact hloop

/-- Every tick keeps the numbers. -/
theorem Numbered.tick (h : Numbered m) (t : Tick) : Numbered (m.tick t) := by
  have hstack := m.toOverlayStack_tick t
  refine h.mono (read_tick (fun _ => rfl) t) (le_of_eq ?_) ?_ fun hblank => hblank.tick t
  · rw [hstack]
    rfl
  · rw [hstack]
    rfl

/-- The numbering holds in every state that the HUD reaches, whatever the loads come to. -/
theorem numbered_run (c : OverlayComponents) (first : Outcome) (scene : Scene) (es : List HudEvent) :
    Numbered (run (Hud.step c) (Hud.create c first scene) es).layers := by
  have hnew : Numbered ({} : LayerManager) :=
    ⟨fun _ _ hx => absurd hx List.not_mem_nil, fun _ => List.nodup_nil, fun _ _ _ _ hx => absurd hx List.not_mem_nil,
      fun _ => ⟨rfl, rfl, rfl, rfl⟩⟩
  have hloaded := hnew.loadBackground first scene scene.activeBackgroundId "instant"
  have hcreated : Numbered (Hud.create c first scene).layers :=
    hloaded.overlays (OverlayStack.currentBackground_syncOverlays c scene _)
      (OverlayStack.createdOnly_syncOverlays c scene _).created
  refine inv_run_of_step (fun s : Hud => Numbered s.layers) (fun s e h => ?_) es hcreated
  cases e with
  | tick t => exact h.tick t
  | op op outcome =>
    exact List.foldlRecOn _ _ (motive := Numbered) h fun m hm x _ => hm.onSignal c outcome x

end LayerManager

end PairionClient
