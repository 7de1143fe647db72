import PairionClient.Lemmas.OverlayStack

/-!
# Lemmas on the layer manager

What the work on the slots leaves of the overlays, and what a load makes of the two slots.
-/

namespace PairionClient

namespace Slot

/-- Of at most one child, none is alive once the first is destroyed. -/
theorem live_destroyFirst (s : Slot) (h : s.children.length ≤ 1) : s.destroyFirst.live = [] := by
  obtain ⟨children, opacity⟩ := s
  match children, h with
  | [], _ => rfl
  | [b], _ => simp [destroyFirst, live]

/-- A destroyed child stays until its deletion. -/
theorem length_destroyFirst (s : Slot) : s.destroyFirst.children.length = s.children.length := by
  unfold destroyFirst
  split
  · rfl
  · simp [*]

@[simp] theorem live_live (s : Slot) : live { s with children := s.live } = s.live := by
  rw [live, live, List.filter_filter]
  exact List.filter_congr fun b _ => Bool.and_self _

theorem live_append {s : Slot} {b : Background} (hb : b.destroyed = false) :
    live { s with children := s.children ++ [b] } = s.live ++ [b] := by
  rw [live, live, List.filter_append, List.filter_cons_of_pos (by rw [hb]; rfl), List.filter_nil]

/-- Where the first child is destroyed already, a further `destroy` changes nothing. -/
theorem destroyFirst_eq_self {s : Slot} (h : ∀ b, s.children.head? = some b → b.destroyed = true) : s.destroyFirst = s := by
  obtain ⟨children, opacity⟩ := s
  cases children with
  | nil => rfl
  | cons first rest =>
    have hfirst : { first with destroyed := true } = first := by rw [← h first rfl]
    exact congrArg (fun b => (⟨b :: rest, opacity⟩ : Slot)) hfirst

theorem head_destroyFirst_append {s : Slot} (h : s.children ≠ []) (added : List Background) :
    ∀ b, (s.destroyFirst.children ++ added).head? = some b → b.destroyed = true := by
  obtain ⟨children, opacity⟩ := s
  cases children with
  | nil => exact absurd rfl h
  | cons first rest =>
    intro b hb
    rw [← Option.some.inj hb]

end Slot

namespace LayerManager

/-- A write to the current background leaves the overlays. -/
theorem toOverlayStack_modifyCurrent (m : LayerManager) (f : Background → Background) :
    (m.modifyCurrent f).toOverlayStack = m.toOverlayStack := by
  unfold modifyCurrent
  split <;> rfl

/-- The end of a retiring background leaves the overlays. -/
theorem toOverlayStack_destroyRetiring (m : LayerManager) : m.destroyRetiring.toOverlayStack = m.toOverlayStack := by
  unfold destroyRetiring
  split <;> rfl

/-- The end of a crossfade leaves the overlays. -/
theorem toOverlayStack_endRetiring (m : LayerManager) : m.endRetiring.toOverlayStack = m.toOverlayStack := by
  unfold endRetiring
  split
  · rfl
  · exact toOverlayStack_destroyRetiring m

/-- A switch without crossfade leaves the overlays. -/
theorem toOverlayStack_switchAtOnce (m : LayerManager) (n n' : SlotName) :
    (m.switchAtOnce n n').toOverlayStack = m.toOverlayStack :=
  toOverlayStack_destroyRetiring _

/-- An interrupted crossfade leaves the overlays. -/
theorem toOverlayStack_interrupt (m : LayerManager) : m.interrupt.toOverlayStack = m.toOverlayStack := by
  unfold interrupt
  split
  · exact toOverlayStack_destroyRetiring _
  · rfl

/-- A crossfade that begins leaves the overlays. -/
theorem toOverlayStack_crossfade (m : LayerManager) (n n' : SlotName) :
    (m.crossfade n n').toOverlayStack = m.toOverlayStack :=
  toOverlayStack_interrupt m

/-- A load that creates an object makes it the background of all overlays; any other leaves them. -/
theorem toOverlayStack_loadBackground (m : LayerManager) (outcome : Outcome) (scene : Scene) (id transition : String) :
    (m.loadBackground outcome scene id transition).toOverlayStack =
      if outcome = .created then { m.toOverlayStack with created := m.created + 1 }.setBackground m.created
      else m.toOverlayStack := by
  cases outcome with
  | componentError => rfl
  | createFailed => rfl
  | created =>
    simp only [loadBackground]
    split
    · rw [toOverlayStack_switchAtOnce]
      rfl
    · rw [toOverlayStack_crossfade]
      rfl

/-- A frame of the fade-in writes the opacity of the slot that it runs on, or does nothing. -/
theorem fadeInTick_induction {motive : LayerManager → Prop} {m : LayerManager} {elapsed : Nat} (h : motive m)
    (hupdated : ∀ n, m.fadeIn.running = true → m.fadeIn.target = some n →
      motive { m.setOpacity n (fadeValue 0 1 elapsed) with
        fadeIn := { m.fadeIn with running := elapsed < fadeDuration } }) : motive (m.fadeInTick elapsed) := by
  unfold fadeInTick
  split
  · rename_i n hrunning htarget
    exact hupdated n hrunning htarget
  · exact h

/-- A frame of the fade-out writes the opacity of the slot that it runs on, and may end a retirement, or does nothing. -/
theorem fadeOutTick_induction {motive : LayerManager → Prop} {m : LayerManager} {elapsed : Nat} (h : motive m)
    (hupdated : ∀ n, m.fadeOut.running = true → m.fadeOut.target = some n →
      let updated := { m.setOpacity n (fadeValue 1 0 elapsed) with
        fadeOut := { m.fadeOut with running := elapsed < fadeDuration } }
      motive updated ∧ motive updated.endRetiring) : motive (m.fadeOutTick elapsed) := by
  unfold fadeOutTick
  split
  · rename_i n hrunning htarget
    obtain ⟨hstill, hended⟩ := hupdated n hrunning htarget
    dsimp only
    split
    · exact hstill
    · split
      · exact hended
      · exact hstill
  · exact h

/-- A tick of the fade leaves the overlays. -/
theorem toOverlayStack_fadeOutTick (m : LayerManager) (elapsed : Nat) :
    (m.fadeOutTick elapsed).toOverlayStack = m.toOverlayStack :=
  fadeOutTick_induction (motive := fun m' => m'.toOverlayStack = m.toOverlayStack) rfl fun _ _ _ =>
    ⟨rfl, toOverlayStack_endRetiring _⟩

/-- A tick does no more to the overlays than the event loop does. -/
theorem toOverlayStack_tick (m : LayerManager) (t : Tick) : (m.tick t).toOverlayStack = m.toOverlayStack.eventLoop := by
  cases t with
  | eventLoop => rfl
  | fadeIn elapsed =>
    simp only [tick, fadeInTick]
    split <;> rfl
  | fadeOut elapsed => exact toOverlayStack_fadeOutTick m.eventLoop elapsed
  | cleanup =>
    simp only [tick, onTriggered]
    split
    · exact toOverlayStack_endRetiring _
    · rfl

/-! ## The slots after a load -/

/-- The two slots are different. -/
theorem activeSlot_ne_retireSlot (m : LayerManager) : m.activeSlot ≠ m.retireSlot := by
  unfold activeSlot retireSlot
  cases m.useA <;> decide

/-- There are only two slots. -/
theorem eq_retireSlot_of_ne (m : LayerManager) {n : SlotName} (h : n ≠ m.activeSlot) : n = m.retireSlot := by
  unfold activeSlot at h
  unfold retireSlot
  cases n <;> cases hA : m.useA <;> simp_all

/-- A load exchanges the slots. -/
theorem activeSlot_of_not {m m' : LayerManager} (h : m'.useA = !m.useA) : m'.activeSlot = m.retireSlot := by
  unfold activeSlot retireSlot
  rw [h]
  cases m.useA <;> rfl

/-- When the slots are flipped, the active one becomes the retiring one. -/
theorem retireSlot_of_not {m m' : LayerManager} (h : m'.useA = !m.useA) : m'.retireSlot = m.activeSlot := by
  unfold activeSlot retireSlot
  rw [h]
  cases m.useA <;> rfl

variable (m : LayerManager) (scene : Scene) (id : String)

/-- A loaded background joins the active slot, whose first child is destroyed. -/
theorem slots_loaded_active :
    (m.loaded scene id).slots m.activeSlot =
      { (m.slots m.activeSlot).destroyFirst with
        children := (m.slots m.activeSlot).destroyFirst.children ++ [m.newBackground scene id] } := by
  simp [loaded, addBackground, modifySlot, newBackground]

/-- The other slot is left as it is. -/
theorem slots_loaded_retire : (m.loaded scene id).slots m.retireSlot = m.slots m.retireSlot := by
  simp [loaded, addBackground, modifySlot, m.activeSlot_ne_retireSlot.symm]

/-- The background that was loaded is the current one. -/
theorem currentBackground_loaded : (m.loaded scene id).currentBackground = some m.created := by
  change (OverlayStack.setBackground _ _).currentBackground = _
  rw [OverlayStack.setBackground, OverlayStack.currentBackground_forOverlays]
  rfl

@[simp] theorem useA_destroyRetiring : m.destroyRetiring.useA = m.useA := by
  unfold destroyRetiring
  split <;> rfl

/-- An interrupted crossfade does not flip the slots. -/
theorem useA_interrupt : m.interrupt.useA = m.useA := by
  unfold interrupt
  split
  · exact useA_destroyRetiring _
  · rfl

@[simp] theorem retiring_destroyRetiring : m.destroyRetiring.retiring = none := by
  unfold destroyRetiring
  split
  · assumption
  · rfl

/-- A fade begins at its start value. -/
theorem fadeValue_start (start stop : ℚ) : fadeValue start stop 0 = start := by
  simp [fadeValue, fadeDuration, inOutQuad]

@[simp] theorem children_setOpacity (n n' : SlotName) (opacity : ℚ) :
    ((m.setOpacity n opacity).slots n').children = (m.slots n').children := by
  by_cases h : n' = n
  · subst h
    simp [setOpacity, modifySlot]
  · simp [setOpacity, modifySlot, h]

/-- The crossfade starts with the first slot transparent and the second opaque. -/
theorem slots_crossfade {n n' : SlotName} (hne : n ≠ n') :
    (m.crossfade n n').slots n = { m.interrupt.slots n with opacity := 0 } ∧
      (m.crossfade n n').slots n' = { m.interrupt.slots n' with opacity := 1 } := by
  simp [crossfade, setOpacity, modifySlot, hne, hne.symm, fadeValue_start]

/-! ## The background that retires -/

/-- The slot of the background that retires is the one that the next load takes, and it is not empty. -/
def RetiresHidden (m : LayerManager) : Prop := ∀ n, m.retiring = some n → n = m.activeSlot ∧ (m.slots n).children ≠ []

variable {m scene id}

/-- The background that retires was destroyed when its slot was taken for the new one: destroying the first child of the
slot again touches no other. -/
theorem RetiresHidden.slots_destroyRetiring (h : m.RetiresHidden) {m' : LayerManager}
    (hchildren : (m'.slots m.activeSlot).children = ((m.loaded scene id).slots m.activeSlot).children)
    (hretiring : m'.retiring = m.retiring) : m'.destroyRetiring.slots = m'.slots := by
  rw [destroyRetiring, hretiring]
  split
  · rfl
  · rename_i n hn
    obtain ⟨rfl, hne⟩ := h n hn
    have hself : (m'.slots m.activeSlot).destroyFirst = m'.slots m.activeSlot := by
      apply Slot.destroyFirst_eq_self
      rw [hchildren, slots_loaded_active]
      exact Slot.head_destroyFirst_append hne _
    change Function.update m'.slots m.activeSlot _ = _
    rw [hself, Function.update_eq_self]

/-- Where what retires is hidden, an interruption leaves the slots. -/
theorem RetiresHidden.slots_interrupt (h : m.RetiresHidden) :
    (m.loaded scene id).interrupt.slots = (m.loaded scene id).slots := by
  unfold interrupt
  split
  · exact h.slots_destroyRetiring rfl rfl
  · rfl

/-- Where what retires is hidden, a switch at once leaves the children as the load has made them. -/
theorem RetiresHidden.children_switchAtOnce (h : m.RetiresHidden) (n : SlotName) :
    (((m.loaded scene id).switchAtOnce m.activeSlot m.retireSlot).slots n).children = ((m.loaded scene id).slots n).children := by
  set stopped := ((m.loaded scene id).stopAll.setOpacity m.activeSlot 1).setOpacity m.retireSlot 0 with hstopped
  have hchildren : ∀ n, (stopped.slots n).children = ((m.loaded scene id).slots n).children := by
    intro n
    rw [hstopped, children_setOpacity, children_setOpacity]
    rfl
  have hslots : ((m.loaded scene id).switchAtOnce m.activeSlot m.retireSlot).slots = stopped.slots :=
    h.slots_destroyRetiring (hchildren m.activeSlot) rfl
  rw [hslots, hchildren]

/-- The transition touches no child. -/
theorem RetiresHidden.children_loadBackground (h : m.RetiresHidden) (transition : String) (n : SlotName) :
    ((m.loadBackground .created scene id transition).slots n).children = ((m.loaded scene id).slots n).children := by
  rw [loadBackground]
  split
  · exact h.children_switchAtOnce n
  · rw [crossfade, children_setOpacity, children_setOpacity]
    exact congrArg (fun slots : SlotName → Slot => (slots n).children) h.slots_interrupt

/-- A load that succeeds makes the new background the current one. -/
theorem currentBackground_loadBackground (m : LayerManager) (scene : Scene) (id transition : String) :
    (m.loadBackground .created scene id transition).currentBackground = some m.created := by
  rw [toOverlayStack_loadBackground, if_pos rfl, OverlayStack.setBackground, OverlayStack.currentBackground_forOverlays]

/-- A load that succeeds creates one background. -/
theorem created_loadBackground (m : LayerManager) (scene : Scene) (id transition : String) :
    (m.loadBackground .created scene id transition).created = m.created + 1 := by
  rw [toOverlayStack_loadBackground, if_pos rfl, OverlayStack.setBackground, OverlayStack.created_forOverlays]

/-- A load exchanges the slots. -/
theorem useA_loadBackground (m : LayerManager) (scene : Scene) (id transition : String) :
    (m.loadBackground .created scene id transition).useA = !m.useA := by
  rw [loadBackground]
  split
  · exact useA_destroyRetiring _
  · exact useA_interrupt (m.loaded scene id)

/-- After a load what retires, if anything, is the slot that was shown. -/
theorem retiring_loadBackground {n : SlotName} {transition : String}
    (h : (m.loadBackground .created scene id transition).retiring = some n) : n = m.retireSlot := by
  rw [loadBackground] at h
  split at h
  · rw [switchAtOnce, retiring_destroyRetiring] at h
    exact absurd h (by simp)
  · exact (Option.some.inj h).symm

theorem retiring_endRetiring (m : LayerManager) : m.endRetiring.retiring = none := by
  unfold endRetiring
  split
  · assumption
  · exact retiring_destroyRetiring m

/-- The end of a crossfade destroys the first child of the slot that retires, and hides the slot. -/
theorem endRetiring_eq (m : LayerManager) {n : SlotName} (h : m.retiring = some n) :
    m.endRetiring =
      { m with
        retiring := none
        slots := Function.update m.slots n { (m.slots n).destroyFirst with opacity := 0 } } := by
  simp [endRetiring, destroyRetiring, setOpacity, modifySlot, h]

end LayerManager

end PairionClient
