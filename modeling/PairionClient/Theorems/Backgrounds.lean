import PairionClient.Lemmas.LayerManager
import PairionClient.Lib.Run

/-!
# One live background

A load that fades hands the background shown to the slot that retires, and the end of the fade or the cleanup timer destroys
it there. A load that switches at once leaves it where it is: the slot is made transparent, and its child stays alive until
the slot is used again.
-/

namespace PairionClient

open Transition

namespace LayerManager

/-! ## The invariant -/

/-- The slot shown and the slot hidden, the number of the current background, whether a background retires, and which of
the animations and the timer run. -/
structure Linked (shown hidden : Slot) (current : Option Nat) (retiring fadeIn fadeOut cleanup : Bool) : Prop where
  current : ∃ b, shown.live = [b] ∧ current = some b.serial
  /-- A slot that is not transparent has nothing that waits to be deleted. -/
  clean : shown.opacity ≠ 0 → shown.children = shown.live
  visible : shown.opacity = 1 ∨ fadeIn = true
  retires : retiring = true → cleanup = true ∧ ∃ b, hidden.children = [b] ∧ b.destroyed = false
  retired : retiring = false → hidden.live = [] ∧ hidden.children.length ≤ 1 ∧ (hidden.opacity = 0 ∨ fadeOut = true)

structure Inv (m : LayerManager) : Prop where
  retiring : ∀ n, m.retiring = some n → n = m.activeSlot
  fadeIn : m.fadeIn.running = true → m.fadeIn.target = some m.retireSlot
  fadeOut : m.fadeOut.running = true → m.fadeOut.target = some m.activeSlot
  linked : Linked (m.slots m.retireSlot) (m.slots m.activeSlot) m.currentBackground m.retiring.isSome m.fadeIn.running
    m.fadeOut.running m.cleanupTimer

variable {shown hidden : Slot} {current : Option Nat} {retiring fadeIn fadeOut cleanup : Bool}

/-- The hidden slot has at most one child. -/
theorem Linked.length_hidden (h : Linked shown hidden current retiring fadeIn fadeOut cleanup) :
    hidden.children.length ≤ 1 := by
  cases retiring with
  | false => exact (h.retired rfl).2.1
  | true =>
    obtain ⟨b, hb, -⟩ := (h.retires rfl).2
    rw [hb]
    exact Nat.le_refl 1

/-- Control returns to the event loop. -/
theorem Linked.eventLoop (h : Linked shown hidden current retiring fadeIn fadeOut cleanup) :
    Linked { shown with children := shown.live } { hidden with children := hidden.live } current retiring fadeIn fadeOut
      cleanup where
  current := by rw [Slot.live_live]; exact h.current
  clean := fun _ => (Slot.live_live shown).symm
  visible := h.visible
  retires := by
    intro hretiring
    obtain ⟨hcleanup, b, hb, halive⟩ := h.retires hretiring
    exact ⟨hcleanup, b, by simp [Slot.live, hb, halive], halive⟩
  retired := by
    intro hretiring
    obtain ⟨hlive, -, hhidden⟩ := h.retired hretiring
    exact ⟨by rw [Slot.live_live, hlive], by simp [hlive], hhidden⟩

/-- After its duration a fade has its end value. -/
theorem fadeValue_of_le (start stop : ℚ) {elapsed : Nat} (h : ¬elapsed < fadeDuration) : fadeValue start stop elapsed = stop :=
  if_neg h

/-- A tick of the fade-in makes the slot shown more visible, and visible at the end. -/
theorem Linked.fadeInTick (h : Linked shown hidden current retiring fadeIn fadeOut cleanup)
    (hclean : shown.children = shown.live) (elapsed : Nat) :
    Linked { shown with opacity := fadeValue 0 1 elapsed } hidden current retiring (elapsed < fadeDuration) fadeOut
      cleanup where
  current := h.current
  clean := fun _ => hclean
  visible := by
    by_cases hend : elapsed < fadeDuration
    · exact Or.inr (decide_eq_true hend)
    · exact Or.inl (fadeValue_of_le 0 1 hend)
  retires := h.retires
  retired := h.retired

/-- A tick of the fade-out makes the hidden slot more transparent, and transparent at the end. -/
theorem Linked.fadeOutTick (h : Linked shown hidden current retiring fadeIn fadeOut cleanup) (elapsed : Nat) :
    Linked shown { hidden with opacity := fadeValue 1 0 elapsed } current retiring fadeIn (elapsed < fadeDuration)
      cleanup where
  current := h.current
  clean := h.clean
  visible := h.visible
  retires := h.retires
  retired := by
    intro hretiring
    obtain ⟨hlive, hlength, -⟩ := h.retired hretiring
    refine ⟨hlive, hlength, ?_⟩
    by_cases hend : elapsed < fadeDuration
    · exact Or.inr (decide_eq_true hend)
    · exact Or.inl (fadeValue_of_le 1 0 hend)

/-- The retirement ends, with the fade or with the timer. -/
theorem Linked.endRetiring (h : Linked shown hidden current retiring fadeIn fadeOut cleanup) (fadeOut' cleanup' : Bool) :
    Linked shown { hidden.destroyFirst with opacity := 0 } current false fadeIn fadeOut' cleanup' where
  current := h.current
  clean := h.clean
  visible := h.visible
  retires := fun hfalse => Bool.noConfusion hfalse
  retired := fun _ => ⟨Slot.live_destroyFirst hidden h.length_hidden,
    (Slot.length_destroyFirst hidden).trans_le h.length_hidden, Or.inl rfl⟩

/-- Without a background that retires, the timer does not matter. -/
theorem Linked.timer (h : Linked shown hidden current false fadeIn fadeOut cleanup) (cleanup' : Bool) :
    Linked shown hidden current false fadeIn fadeOut cleanup' :=
  { h with retires := fun hfalse => Bool.noConfusion hfalse }

/-- The slots change their parts: the background shown retires, and the new one is in the slot that was hidden. -/
theorem Linked.crossfade (h : Linked shown hidden current retiring fadeIn fadeOut cleanup) (hnonzero : shown.opacity ≠ 0)
    {bg : Background} (hbg : bg.destroyed = false) :
    Linked { children := hidden.destroyFirst.children ++ [bg], opacity := 0 } { shown with opacity := 1 } (some bg.serial)
      true true true true where
  current := by
    have hlive : Slot.live { children := hidden.destroyFirst.children ++ [bg], opacity := 0 } = [bg] := by
      have happend := Slot.live_append (s := { hidden.destroyFirst with opacity := 0 }) hbg
      have hnone : Slot.live { hidden.destroyFirst with opacity := 0 } = [] := Slot.live_destroyFirst hidden h.length_hidden
      rw [happend, hnone, List.nil_append]
    exact ⟨bg, hlive, rfl⟩
  clean := fun hne => absurd rfl hne
  visible := Or.inr rfl
  retires := by
    obtain ⟨b, hb, -⟩ := h.current
    have halive : b ∈ shown.live := hb ▸ List.mem_singleton_self b
    exact fun _ => ⟨rfl, b, (h.clean hnonzero).trans hb, by simpa [Slot.live] using (List.mem_filter.1 halive).2⟩
  retired := fun hfalse => Bool.noConfusion hfalse

/-! ## Steps -/

variable {m : LayerManager}

/-- Deferred deletions keep the invariant. -/
theorem Inv.eventLoop (h : Inv m) : Inv m.eventLoop := ⟨h.retiring, h.fadeIn, h.fadeOut, h.linked.eventLoop⟩

/-- The fade-in is that of the slot shown. -/
theorem Inv.fadeInTick (h : Inv m) (hclean : (m.slots m.retireSlot).children = (m.slots m.retireSlot).live) (elapsed : Nat) :
    Inv (m.fadeInTick elapsed) := by
  refine fadeInTick_induction h ?_
  intro n hrunning htarget
  obtain rfl : m.retireSlot = n := Option.some.inj ((h.fadeIn hrunning).symm.trans htarget)
  refine ⟨h.retiring, fun _ => htarget, h.fadeOut, ?_⟩
  change Linked (Function.update m.slots _ _ m.retireSlot) (Function.update m.slots _ _ m.activeSlot) ..
  rw [Function.update_self, Function.update_of_ne m.activeSlot_ne_retireSlot]
  exact h.linked.fadeInTick hclean elapsed

/-- The retirement ends, when the fade-out or the timer has. -/
theorem Inv.endRetiring (h : Inv m) : Inv m.endRetiring := by
  cases hretiring : m.retiring with
  | none =>
    rw [LayerManager.endRetiring, hretiring]
    exact h
  | some n =>
    obtain rfl := h.retiring n hretiring
    rw [endRetiring_eq m hretiring]
    refine ⟨by simp, h.fadeIn, h.fadeOut, ?_⟩
    change Linked (Function.update m.slots _ _ m.retireSlot) (Function.update m.slots _ _ m.activeSlot) ..
    rw [Function.update_of_ne m.activeSlot_ne_retireSlot.symm, Function.update_self]
    exact h.linked.endRetiring m.fadeOut.running m.cleanupTimer

/-- The fade-out is that of the slot hidden. -/
theorem Inv.fadeOutTick (h : Inv m) (elapsed : Nat) : Inv (m.fadeOutTick elapsed) := by
  refine fadeOutTick_induction h ?_
  intro n hrunning htarget
  obtain rfl : m.activeSlot = n := Option.some.inj ((h.fadeOut hrunning).symm.trans htarget)
  have hupdated : Inv { m.setOpacity m.activeSlot (fadeValue 1 0 elapsed) with
      fadeOut := { m.fadeOut with running := elapsed < fadeDuration } } := by
    refine ⟨h.retiring, h.fadeIn, fun _ => htarget, ?_⟩
    change Linked (Function.update m.slots _ _ m.retireSlot) (Function.update m.slots _ _ m.activeSlot) ..
    rw [Function.update_of_ne m.activeSlot_ne_retireSlot.symm, Function.update_self]
    exact h.linked.fadeOutTick elapsed
  exact ⟨hupdated, hupdated.endRetiring⟩

/-- The cleanup timer keeps the invariant. -/
theorem Inv.onTriggered (h : Inv m) : Inv m.onTriggered := by
  unfold LayerManager.onTriggered
  split
  · have hend := h.endRetiring
    have hlinked := hend.linked
    rw [m.retiring_endRetiring] at hlinked
    refine ⟨hend.retiring, hend.fadeIn, hend.fadeOut, ?_⟩
    change Linked (m.endRetiring.slots _) (m.endRetiring.slots _) _ m.endRetiring.retiring.isSome ..
    rw [m.retiring_endRetiring]
    exact hlinked.timer false
  · exact h

/-- Every tick keeps the invariant. -/
theorem Inv.tick (h : Inv m) (t : Tick) : Inv (m.tick t) := by
  cases t with
  | eventLoop => exact h.eventLoop
  | fadeIn elapsed => exact h.eventLoop.fadeInTick (Slot.live_live _).symm elapsed
  | fadeOut elapsed => exact h.eventLoop.fadeOutTick elapsed
  | cleanup => exact h.eventLoop.onTriggered

/-! ## Loads -/

/-- A load that fades: what it asks of its transition and of the slot that it retires. -/
def Fades (transition : String) (m : LayerManager) : Prop :=
  transition ≠ "instant" ∧ (m.slots m.retireSlot).opacity ≠ 0

/-- A load is not instant exactly when it fades. -/
theorem instant_eq_false_iff (transition : String) (m : LayerManager) : m.instant transition = false ↔ Fades transition m := by
  simp [instant, Fades]

/-- What retires is in the slot that the next load takes. -/
theorem Inv.retiresHidden (h : Inv m) : m.RetiresHidden := by
  intro n hn
  obtain rfl := h.retiring n hn
  obtain ⟨b, hb, -⟩ := (h.linked.retires (by rw [hn]; rfl)).2
  exact ⟨rfl, by simp [hb]⟩

/-- A crossfade from a slot that is not transparent keeps the invariant. -/
theorem Inv.crossfade (h : Inv m) (scene : Scene) (id : String) (hnonzero : (m.slots m.retireSlot).opacity ≠ 0) :
    Inv ((m.loaded scene id).crossfade m.activeSlot m.retireSlot) := by
  set loaded := m.loaded scene id with hloaded
  have hslots : loaded.interrupt.slots = loaded.slots := h.retiresHidden.slots_interrupt
  have huseA : (loaded.crossfade m.activeSlot m.retireSlot).useA = !m.useA := useA_interrupt loaded
  have hactive := activeSlot_of_not huseA
  have hretire := retireSlot_of_not huseA
  have hcurrent : (loaded.crossfade m.activeSlot m.retireSlot).currentBackground = some m.created :=
    (congrArg OverlayStack.currentBackground (toOverlayStack_crossfade loaded _ _)).trans (m.currentBackground_loaded scene id)
  obtain ⟨hshown, hhidden⟩ := loaded.slots_crossfade m.activeSlot_ne_retireSlot
  rw [hslots, hloaded, slots_loaded_active] at hshown
  rw [hslots, hloaded, slots_loaded_retire] at hhidden
  refine ⟨?retiring, fun _ => congrArg some hretire.symm, fun _ => congrArg some hactive.symm, ?linked⟩
  case retiring =>
    intro n hn
    rw [hactive]
    exact (Option.some.inj hn).symm
  case linked =>
    rw [hactive, hretire, hshown, hhidden, hcurrent]
    exact h.linked.crossfade hnonzero rfl

/-- A load that switches at once leaves a live background in each slot. -/
theorem Inv.switchAtOnce (h : Inv m) (scene : Scene) (id : String) (n : SlotName) :
    (((m.loaded scene id).switchAtOnce m.activeSlot m.retireSlot).slots n).live ≠ [] := by
  rw [Slot.live, h.retiresHidden.children_switchAtOnce n]
  by_cases hn : n = m.activeSlot
  · rw [hn, slots_loaded_active, List.filter_append]
    simp [newBackground]
  · rw [m.eq_retireSlot_of_ne hn, slots_loaded_retire]
    obtain ⟨b, hb, -⟩ := h.linked.current
    rw [Slot.live] at hb
    simp [hb]

/-! ## Runs -/

/-- No animation and no timer runs. -/
def Settled (m : LayerManager) : Prop :=
  m.fadeIn.running = false ∧ m.fadeOut.running = false ∧ m.cleanupTimer = false

/-- One background is alive: the current one, in a slot with opacity 1, and the other slot is empty with opacity 0. -/
def OneLive (m : LayerManager) : Prop :=
  ∃ n n' b, n ≠ n' ∧ m.slots n = { children := [b], opacity := 1 } ∧ m.slots n' = { children := [], opacity := 0 } ∧
    b.destroyed = false ∧ m.currentBackground = some b.serial

/-- Once nothing runs, one background is alive. -/
theorem Inv.oneLive (h : Inv m) (hsettled : m.Settled) : m.eventLoop.OneLive := by
  obtain ⟨hin, hout, hcleanup⟩ := hsettled
  have hretiring : m.retiring.isSome = false := by
    by_contra hsome
    have hrunning := (h.linked.retires (Bool.eq_true_of_not_eq_false hsome)).1
    rw [hcleanup] at hrunning
    exact Bool.noConfusion hrunning
  obtain ⟨b, hb, hcurrent⟩ := h.linked.current
  obtain ⟨hlive, -, hopacity⟩ := h.linked.retired hretiring
  have halive : b ∈ (m.slots m.retireSlot).live := hb ▸ List.mem_singleton_self b
  refine ⟨m.retireSlot, m.activeSlot, b, m.activeSlot_ne_retireSlot.symm, ?_, ?_, ?_, hcurrent⟩
  · exact congrArg₂ Slot.mk hb (h.linked.visible.resolve_right (by simp [hin]))
  · exact congrArg₂ Slot.mk hlive (hopacity.resolve_right (by simp [hout]))
  · simpa [Slot.live] using (List.mem_filter.1 halive).2

/-- A switch at once leaves nothing running. -/
theorem settled_switchAtOnce (m : LayerManager) (n n' : SlotName) : (m.switchAtOnce n n').Settled := by
  unfold LayerManager.switchAtOnce destroyRetiring
  split <;> exact ⟨rfl, rfl, rfl⟩

/-- A load that switches at once is settled, and does not leave one live background. -/
theorem Inv.not_oneLive (h : Inv m) (scene : Scene) (id transition : String) (hinstant : ¬Fades transition m) :
    (m.loadBackground .created scene id transition).Settled ∧
      ¬(m.loadBackground .created scene id transition).eventLoop.OneLive := by
  have hat : m.instant transition = true := by
    rw [← instant_eq_false_iff] at hinstant
    exact Bool.eq_true_of_not_eq_false hinstant
  rw [loadBackground, if_pos hat]
  refine ⟨settled_switchAtOnce _ _ _, ?_⟩
  rintro ⟨n, n', b, -, -, hempty, -⟩
  exact h.switchAtOnce scene id n' (congrArg Slot.children hempty)

/-- After the load of `Component.onCompleted`. -/
theorem inv_onCompleted (c : OverlayComponents) (scene : Scene) : Inv (onCompleted c .created scene) := by
  set bg : Background := newBackground scene scene.activeBackgroundId {} with hbg
  set m := loadBackground .created scene scene.activeBackgroundId "instant" {} with hm
  have hcurrent : (onCompleted c .created scene).currentBackground = some bg.serial := by
    change (OverlayStack.syncOverlays c scene m.toOverlayStack).currentBackground = _
    rw [OverlayStack.currentBackground_syncOverlays, hm, toOverlayStack_loadBackground]
    rfl
  refine ⟨fun n hn => ?_, fun hrunning => ?_, fun hrunning => ?_, ?_⟩
  · have hnone : (onCompleted c .created scene).retiring = none := rfl
    simp [hnone] at hn
  · exact Bool.noConfusion hrunning
  · exact Bool.noConfusion hrunning
  · rw [hcurrent]
    refine ⟨⟨bg, rfl, rfl⟩, fun _ => rfl, Or.inl rfl, fun hfalse => Bool.noConfusion hfalse, fun _ => ?_⟩
    exact ⟨rfl, Nat.zero_le 1, Or.inl rfl⟩

/-- A load after the first fades. -/
def Event.Fades (m : LayerManager) : Event → Prop
  | .load _ _ transition => LayerManager.Fades transition m
  | .tick _ => True

/-- Every load that fades, and every tick, keeps the invariant. -/
theorem Inv.step (h : Inv m) {e : Event} (he : e.Fades m) : Inv (m.step e) := by
  cases e with
  | tick t => exact h.tick t
  | load scene id transition =>
    have hfalse := (instant_eq_false_iff transition m).2 he
    rw [LayerManager.step, loadBackground, hfalse]
    exact h.crossfade scene id he.2

/-- Over any successful loads and ticks after the first load: whenever no animation and no timer runs and what was
destroyed is deleted, one background is alive, if and only if each load fades, that is, its transition is another than
"instant" and the slot that it retires is not transparent. -/
theorem one_live_iff (c : OverlayComponents) (scene : Scene) (es : List Event) :
    Always LayerManager.step (fun m => m.Settled → m.eventLoop.OneLive) (onCompleted c .created scene) es ↔
      EveryStep LayerManager.step (fun m e => e.Fades m) (onCompleted c .created scene) es := by
  refine always_iff_everyStep (fun _ => True) Inv (fun m h => h.oneLive) (fun m e _ h he => h.step he) ?_
    (fun _ _ => trivial) (inv_onCompleted c scene)
  intro m e _ h he hone
  cases e with
  | tick t => exact he trivial
  | load scene id transition =>
    obtain ⟨hsettled, hmore⟩ := h.not_oneLive scene id transition he
    exact hmore (hone hsettled)

/-- From the globe to space at once: nothing runs, and the globe is still alive beside space. -/
theorem one_live_false :
    ¬Always LayerManager.step (fun m => m.Settled → m.eventLoop.OneLive) (onCompleted .shipped .created {})
      [.load {} "space" "instant"] := by
  intro h
  obtain ⟨hsettled, hmore⟩ := (inv_onCompleted .shipped {}).not_oneLive {} "space" "instant" fun hfades => hfades.1 rfl
  exact hmore (h _ (List.prefix_refl _) hsettled)

end LayerManager

end PairionClient
