import PairionClient.Lemmas.Slots

/-!
# Loads that fail

A component that does not load leaves the layers. An object that is not created leaves them with the slots exchanged and the
first child of the target slot destroyed, and the next such failure does the same to the other slot: after two of them the
first child of each slot is gone, with the background that is shown.
-/

namespace PairionClient

open Transition

namespace LayerManager

/-! ## Failures -/

/-- A load that fails, in its component or in the creation of its object. -/
structure FailedLoad where
  outcome : Outcome
  scene : Scene
  backgroundId : String
  transition : String
  failed : outcome ≠ .created

def failedLoads (fails : List FailedLoad) (m : LayerManager) : LayerManager :=
  fails.foldl (fun m f => m.loadBackground f.outcome f.scene f.backgroundId f.transition) m

/-- How many of them fail after the slots are chosen. -/
def createFailures (fails : List FailedLoad) : Nat := fails.countP fun f => f.outcome = .createFailed

/-- Of loads that fail, only those count that fail at `createObject`. -/
theorem failedLoads_eq (fails : List FailedLoad) (m : LayerManager) :
    m.failedLoads fails = createFailed^[createFailures fails] m := by
  induction fails generalizing m with
  | nil => rfl
  | cons f fails ih =>
    obtain ⟨outcome, scene, id, transition, hfailed⟩ := f
    cases outcome with
    | componentError => exact ih m
    | createFailed =>
      have hcount : createFailures (⟨.createFailed, scene, id, transition, hfailed⟩ :: fails) = createFailures fails + 1 :=
        List.countP_cons_of_pos (decide_eq_true rfl)
      rw [hcount, Function.iterate_succ_apply]
      exact ih m.createFailed
    | created => exact absurd rfl hfailed

/-- The first child of each slot is destroyed. -/
def emptied (m : LayerManager) : LayerManager := { m with slots := fun n => (m.slots n).destroyFirst }

/-- A child is destroyed once. -/
theorem destroyFirst_destroyFirst (s : Slot) : s.destroyFirst.destroyFirst = s.destroyFirst := by
  obtain ⟨children, opacity⟩ := s
  cases children <;> rfl

/-- Two failures at `createObject` flip the slots twice and destroy the first child of each. -/
theorem createFailed_createFailed (m : LayerManager) : m.createFailed.createFailed = m.emptied := by
  have hactive : m.createFailed.activeSlot = m.retireSlot := activeSlot_of_not rfl
  have hslots : m.createFailed.createFailed.slots = m.emptied.slots := by
    funext n
    change Function.update (Function.update m.slots m.activeSlot _) m.createFailed.activeSlot
      (Slot.destroyFirst (Function.update m.slots m.activeSlot _ m.createFailed.activeSlot)) n = (m.slots n).destroyFirst
    rw [hactive, Function.update_of_ne m.activeSlot_ne_retireSlot.symm]
    by_cases h : n = m.activeSlot
    · rw [h, Function.update_of_ne m.activeSlot_ne_retireSlot, Function.update_self]
    · rw [m.eq_retireSlot_of_ne h, Function.update_self]
  have huseA : m.createFailed.createFailed.useA = m.useA := Bool.not_not m.useA
  calc m.createFailed.createFailed
      = { m with useA := m.createFailed.createFailed.useA, slots := m.createFailed.createFailed.slots } := rfl
    _ = m.emptied := by rw [huseA, hslots]; rfl

/-- The failures after the second change nothing more, two by two. -/
theorem iterate_createFailed_even (m : LayerManager) (j : Nat) : createFailed^[2 * (j + 1)] m = m.emptied := by
  have htwice : createFailed^[2] = emptied := funext createFailed_createFailed
  have hfixed : m.emptied.emptied = m.emptied :=
    congrArg (fun slots : SlotName → Slot => { m with slots := slots }) (funext fun n => destroyFirst_destroyFirst (m.slots n))
  rw [Function.iterate_mul, htwice, Function.iterate_succ_apply]
  exact Function.iterate_fixed hfixed j

/-- Failures at `createObject` leave the overlays and the numbers, and flip the slots each time. -/
theorem iterate_createFailed (m : LayerManager) (k : Nat) :
    (createFailed^[k] m).toOverlayStack = m.toOverlayStack ∧ (∀ n, (createFailed^[k] m).serials n = m.serials n) ∧
      ((createFailed^[k] m).useA = if Even k then m.useA else !m.useA) := by
  induction k with
  | zero => exact ⟨rfl, fun _ => rfl, by simp⟩
  | succ k ih =>
    obtain ⟨hstack, hserials, huseA⟩ := ih
    rw [Function.iterate_succ_apply']
    refine ⟨hstack, fun n => ?_, ?_⟩
    · exact (read_modifySlot (read_destroyFirst fun _ => rfl) _ n).trans (hserials n)
    · change (!(createFailed^[k] m).useA) = _
      rw [huseA]
      by_cases heven : Even k <;> simp [heven, Nat.even_add_one]

/-! ## The next load -/

/-- A change that leaves a slot leaves everything. -/
theorem modifySlot_eq_self {m : LayerManager} {n : SlotName} {f : Slot → Slot} (hf : f (m.slots n) = m.slots n) :
    m.modifySlot n f = m := by
  rw [modifySlot, hf, Function.update_eq_self]

/-- The opacity of a slot and the end of its child do not depend on their order. -/
theorem setOpacity_destroyFirst (m : LayerManager) (n n' : SlotName) (opacity : ℚ) :
    (m.modifySlot n Slot.destroyFirst).setOpacity n' opacity = (m.setOpacity n' opacity).modifySlot n Slot.destroyFirst := by
  have hwrite : ∀ s : Slot, { s.destroyFirst with opacity := opacity } = Slot.destroyFirst { s with opacity := opacity } := by
    rintro ⟨children, o⟩
    cases children <;> rfl
  have hslots : ((m.modifySlot n Slot.destroyFirst).setOpacity n' opacity).slots =
      ((m.setOpacity n' opacity).modifySlot n Slot.destroyFirst).slots := by
    change Function.update (Function.update m.slots n _) n' { Function.update m.slots n _ n' with opacity := opacity } =
      Function.update (Function.update m.slots n' _) n (Slot.destroyFirst (Function.update m.slots n' _ n))
    by_cases h : n = n'
    · rw [h, Function.update_idem, Function.update_idem, Function.update_self, Function.update_self]
      exact congrArg _ (hwrite _)
    · rw [Function.update_of_ne h, Function.update_of_ne (Ne.symm h), Function.update_comm h]
  exact congrArg (fun slots : SlotName → Slot => { m with slots := slots }) hslots

/-- What retires is destroyed, also if it was before. -/
theorem destroyRetiring_destroyFirst {m : LayerManager} {n : SlotName} (h : m.retiring = some n) :
    (m.modifySlot n Slot.destroyFirst).destroyRetiring = m.destroyRetiring := by
  have hslots : ((m.modifySlot n Slot.destroyFirst).modifySlot n Slot.destroyFirst).slots =
      (m.modifySlot n Slot.destroyFirst).slots := by
    change Function.update (Function.update m.slots n _) n (Slot.destroyFirst (Function.update m.slots n _ n)) = _
    rw [Function.update_idem, Function.update_self, destroyFirst_destroyFirst]
    rfl
  rw [destroyRetiring_of_some h, destroyRetiring_of_some (m := m.modifySlot n Slot.destroyFirst) h]
  exact congrArg (fun slots : SlotName → Slot => { m with slots := slots, retiring := none }) hslots

/-- An interruption stops the fade-out and destroys what retires. -/
theorem interrupt_of_some {m : LayerManager} {n : SlotName} (h : m.retiring = some n) :
    m.interrupt = { m with fadeOut := { m.fadeOut with running := false }, cleanupTimer := false }.destroyRetiring :=
  if_pos (by rw [h]; rfl)

/-- What an interruption destroys may have been destroyed before. -/
theorem interrupt_destroyFirst {m : LayerManager} {n : SlotName} (h : m.retiring = some n) :
    (m.modifySlot n Slot.destroyFirst).interrupt = m.interrupt := by
  rw [interrupt_of_some h, interrupt_of_some (m := m.modifySlot n Slot.destroyFirst) h]
  exact destroyRetiring_destroyFirst (m := { m with fadeOut := { m.fadeOut with running := false }, cleanupTimer := false }) h

/-- A load into emptied slots is the load with the first child of the other slot destroyed. -/
theorem loaded_emptied (m : LayerManager) (scene : Scene) (id : String) :
    m.emptied.loaded scene id = (m.loaded scene id).modifySlot m.retireSlot Slot.destroyFirst := by
  have hslots : (m.emptied.loaded scene id).slots =
      ((m.loaded scene id).modifySlot m.retireSlot Slot.destroyFirst).slots := by
    funext n
    change _ = Function.update (m.loaded scene id).slots m.retireSlot _ n
    by_cases h : n = m.activeSlot
    · have hemptied := slots_loaded_active m.emptied scene id
      change (m.emptied.loaded scene id).slots m.activeSlot = { (m.slots m.activeSlot).destroyFirst.destroyFirst with
        children := (m.slots m.activeSlot).destroyFirst.destroyFirst.children ++ [m.newBackground scene id] } at hemptied
      rw [h, Function.update_of_ne m.activeSlot_ne_retireSlot, hemptied, slots_loaded_active, destroyFirst_destroyFirst]
    · rw [m.eq_retireSlot_of_ne h, Function.update_self, slots_loaded_retire]
      exact slots_loaded_retire m.emptied scene id
  exact congrArg (fun slots : SlotName → Slot => { m.loaded scene id with slots := slots }) hslots

/-- Destroying a child leaves the opacity. -/
theorem opacity_destroyFirst (s : Slot) : s.destroyFirst.opacity = s.opacity := by
  unfold Slot.destroyFirst
  split <;> rfl

/-- Where nothing is first in the slot to retire, or it retires already, the next load finds what it would have found. -/
theorem loadBackground_emptied {m : LayerManager}
    (h : m.retiring = some m.retireSlot ∨ (m.slots m.retireSlot).destroyFirst = m.slots m.retireSlot) (scene : Scene)
    (id transition : String) :
    m.emptied.loadBackground .created scene id transition = m.loadBackground .created scene id transition := by
  have hinstant : m.emptied.instant transition = m.instant transition := by
    change (_ || decide ((m.slots m.retireSlot).destroyFirst.opacity = 0)) = _
    rw [opacity_destroyFirst]
    rfl
  rw [loadBackground, loadBackground, hinstant, loaded_emptied]
  change (if _ then switchAtOnce m.activeSlot m.retireSlot _ else crossfade m.activeSlot m.retireSlot _) = _
  rcases h with hretiring | hsame
  · have hloaded : (m.loaded scene id).retiring = some m.retireSlot := hretiring
    split
    · rw [switchAtOnce, switchAtOnce]
      change (((m.loaded scene id).stopAll.modifySlot m.retireSlot Slot.destroyFirst).setOpacity _ 1
        |>.setOpacity _ 0).destroyRetiring = _
      rw [setOpacity_destroyFirst, setOpacity_destroyFirst, destroyRetiring_destroyFirst]
      exact hloaded
    · rw [crossfade, crossfade, interrupt_destroyFirst hloaded]
  · have hself : ((m.loaded scene id).slots m.retireSlot).destroyFirst = (m.loaded scene id).slots m.retireSlot := by
      rw [slots_loaded_retire, hsame]
    rw [modifySlot_eq_self hself]

/-- The background of the slot to retire is not destroyed with the load, unless it retires already. -/
theorem children_loadBackground_retire {m : LayerManager} (h : m.retiring ≠ some m.retireSlot) (scene : Scene)
    (id transition : String) :
    ((m.loadBackground .created scene id transition).slots m.retireSlot).children = (m.slots m.retireSlot).children := by
  have hkept : ∀ m' : LayerManager, m'.retiring = m.retiring →
      (m'.destroyRetiring.slots m.retireSlot).children = (m'.slots m.retireSlot).children := by
    intro m' hretiring
    cases hn : m'.retiring with
    | none => rw [destroyRetiring_of_none hn]
    | some n =>
      have hne : m.retireSlot ≠ n := by
        rintro rfl
        exact h (hretiring.symm.trans hn)
      rw [destroyRetiring_of_some hn]
      change (Function.update m'.slots n _ m.retireSlot).children = _
      rw [Function.update_of_ne hne]
  have hloaded : ((m.loaded scene id).slots m.retireSlot).children = (m.slots m.retireSlot).children := by
    rw [slots_loaded_retire]
  rw [loadBackground]
  split
  · rw [switchAtOnce]
    refine (hkept (((m.loaded scene id).stopAll.setOpacity m.activeSlot 1).setOpacity m.retireSlot 0) rfl).trans ?_
    rw [children_setOpacity, children_setOpacity]
    exact hloaded
  · have hinterrupt : ((m.loaded scene id).interrupt.slots m.retireSlot).children =
        ((m.loaded scene id).slots m.retireSlot).children := by
      unfold interrupt
      split
      · exact hkept _ rfl
      · rfl
    rw [crossfade, children_setOpacity, children_setOpacity]
    exact hinterrupt.trans hloaded

/-! ## Atomic failures -/

def Alive (serial : Nat) (m : LayerManager) : Prop := ∃ n, ∃ b ∈ (m.slots n).live, b.serial = serial

/-- The same layers, up to the names of the slots. -/
def Alike (m m' : LayerManager) : Prop := m' = m ∨ m' = m.exchanged

/-- From the first state to the second nothing happened that shows: the current background is alive, in a slot as visible
as it was, and the next load that is not at once makes the same of both. -/
structure Atomic (m m' : LayerManager) : Prop where
  shown : ∀ serial, m'.currentBackground = some serial →
    ∃ n, (∃ b ∈ (m'.slots n).live, b.serial = serial) ∧ (m'.slots n).opacity = (m.slots n).opacity
  next : ∀ scene id transition, transition ≠ "instant" →
    Alike (m.loadBackground .created scene id transition) (m'.loadBackground .created scene id transition)

/-- A background that is alive behind the first child of its slot: it was loaded in the turn that destroyed its
predecessor. -/
def Behind (serial : Nat) (m : LayerManager) : Prop :=
  ∃ n, ∃ b ∈ (m.slots n).children.tail, b.destroyed = false ∧ b.serial = serial

/-- Where nothing was loaded yet any failures do. Else the current background is alive, and there are no failures of
`createObject`; or they are of an even number, the current background is behind the first child of its slot, and in the
slot to retire no background comes first that is alive, unless it retires already. -/
def Spared (m : LayerManager) (failures : Nat) : Prop :=
  ∀ serial, m.currentBackground = some serial →
    (failures = 0 ∧ m.Alive serial) ∨
      (Even failures ∧ m.Behind serial ∧
        (m.retiring = some m.retireSlot ∨ (m.slots m.retireSlot).destroyFirst = m.slots m.retireSlot))

theorem alike_refl (m : LayerManager) : Alike m m := Or.inl rfl

/-- Alive after the first was destroyed are the living ones behind it. -/
theorem mem_live_destroyFirst {s : Slot} {b : Background} :
    b ∈ s.destroyFirst.live ↔ b ∈ s.children.tail ∧ b.destroyed = false := by
  obtain ⟨children, opacity⟩ := s
  cases children <;> simp [Slot.destroyFirst, Slot.live]

/-- In empty slots a failure at `createObject` only flips them. -/
theorem createFailed_of_blank {m : LayerManager} (h : m.Blank) : m.createFailed = m.exchanged := by
  have hslots := h.modifySlot (f := Slot.destroyFirst) rfl m.activeSlot
  obtain ⟨hblank, hretiring, hin, hout⟩ := h
  calc m.createFailed
      = { m with useA := !m.useA, slots := (m.modifySlot m.activeSlot Slot.destroyFirst).slots } := rfl
    _ = m.exchanged := by rw [hslots, exchanged, hblank, hretiring, hin, hout]; rfl

/-- Exchanging the slots twice leaves them. -/
theorem exchanged_exchanged (m : LayerManager) : m.exchanged.exchanged = m := by
  have hfade : ∀ a : FadeAnimation, FadeAnimation.exchanged (FadeAnimation.exchanged a) = a := by
    rintro ⟨_ | n, running⟩
    · rfl
    · simp [FadeAnimation.exchanged]
  have hretiring : (m.retiring.map SlotName.other).map SlotName.other = m.retiring := by
    cases m.retiring <;> simp
  have hslots : (fun n : SlotName => m.slots n.other.other) = m.slots := funext fun n => by rw [SlotName.other_other]
  calc m.exchanged.exchanged
      = { m with
          slots := fun n => m.slots n.other.other
          useA := !!m.useA
          retiring := (m.retiring.map SlotName.other).map SlotName.other
          fadeIn := FadeAnimation.exchanged (FadeAnimation.exchanged m.fadeIn)
          fadeOut := FadeAnimation.exchanged (FadeAnimation.exchanged m.fadeOut) } := rfl
    _ = m := by rw [hslots, hretiring, hfade, hfade, Bool.not_not]

/-- Empty slots are empty the other way round. -/
theorem Blank.exchanged {m : LayerManager} (h : m.Blank) : m.exchanged.Blank := by
  obtain ⟨hslots, hretiring, hin, hout⟩ := h
  refine ⟨?_, ?_, ?_, ?_⟩
  · change (fun n : SlotName => m.slots n.other) = _
    rw [hslots]
  · exact congrArg (Option.map SlotName.other) hretiring
  · exact congrArg FadeAnimation.exchanged hin
  · exact congrArg FadeAnimation.exchanged hout

/-- In empty slots such failures leave them as they are or exchanged. -/
theorem iterate_createFailed_of_blank {m : LayerManager} (h : m.Blank) (k : Nat) :
    createFailed^[k] m = m ∨ createFailed^[k] m = m.exchanged := by
  induction k with
  | zero => exact Or.inl rfl
  | succ k ih =>
    rw [Function.iterate_succ_apply']
    rcases ih with hsame | hexchanged
    · rw [hsame]
      exact Or.inr (createFailed_of_blank h)
    · rw [hexchanged, createFailed_of_blank h.exchanged, exchanged_exchanged]
      exact Or.inl rfl

/-- Before the first load, failures do nothing that shows. -/
theorem atomic_of_blank {m : LayerManager} (h : m.Blank) (hnone : m.currentBackground = none) (k : Nat) :
    Atomic m (createFailed^[k] m) := by
  refine ⟨fun serial hcurrent => ?_, fun scene id transition _ => ?_⟩
  · rw [(iterate_createFailed m k).1, hnone] at hcurrent
    exact absurd hcurrent (by simp)
  · rcases iterate_createFailed_of_blank h k with hsame | hexchanged
    · rw [hsame]
      exact alike_refl _
    · rw [hexchanged, ← loadBackground_exchanged]
      exact Or.inr rfl

/-- After an odd number of failures the next load takes the slot that is shown. -/
theorem not_atomic_of_odd {m : LayerManager} (h : Numbered m) {serial : Nat} (hcurrent : m.currentBackground = some serial)
    {k : Nat} (hodd : ¬Even k) : ¬Atomic m (createFailed^[k] m) := by
  intro hatomic
  obtain ⟨hstack, hserials, huseA⟩ := iterate_createFailed m k
  rw [if_neg hodd] at huseA
  set m' := createFailed^[k] m with hm'
  obtain ⟨n, ⟨b, hb, rfl⟩, -⟩ := hatomic.shown serial (by rw [hstack, hcurrent])
  have hmem : b.serial ∈ m.serials n := by
    rw [← hserials n]
    exact List.mem_map_of_mem (List.mem_filter.1 hb).1
  have hactive' : m.activeSlot ≠ m'.activeSlot := by
    rw [activeSlot_of_not huseA]
    exact m.activeSlot_ne_retireSlot
  have hload' : (m'.loadBackground .created {} "" "crossfade").serials m.activeSlot = m.serials m.activeSlot := by
    rw [serials, read_loadBackground fun _ => rfl, if_neg hactive', List.append_nil, ← serials, hserials]
  rcases hatomic.next {} "" "crossfade" (by decide) with hsame | hexchanged
  · rw [hsame, serials, read_loadBackground fun _ => rfl, if_pos rfl] at hload'
    exact List.cons_ne_nil _ _ (List.append_right_eq_self.1 hload')
  · -- the slots would have the same children, and so none
    have hother : m.activeSlot.other = m.retireSlot := m.eq_retireSlot_of_ne (by cases m.activeSlot <;> simp [SlotName.other])
    have hretire : m.serials m.retireSlot = m.serials m.activeSlot := by
      rw [← hload', hexchanged]
      change _ = (m.loadBackground .created {} "" "crossfade").serials m.activeSlot.other
      rw [hother, serials, serials, read_loadBackground fun _ => rfl, if_neg m.activeSlot_ne_retireSlot.symm, List.append_nil]
    by_cases hn : n = m.activeSlot
    · rw [hn] at hmem
      exact h.apart _ _ m.activeSlot_ne_retireSlot _ hmem (hretire ▸ hmem)
    · rw [m.eq_retireSlot_of_ne hn] at hmem
      exact h.apart _ _ m.activeSlot_ne_retireSlot _ (hretire ▸ hmem) hmem

/-- What two failures and more, of an even number, leave. -/
theorem atomic_emptied_iff {m : LayerManager} {serial : Nat} (hcurrent : m.currentBackground = some serial) :
    Atomic m m.emptied ↔ m.Behind serial ∧
      (m.retiring = some m.retireSlot ∨ (m.slots m.retireSlot).destroyFirst = m.slots m.retireSlot) := by
  constructor
  · intro h
    constructor
    · obtain ⟨n, ⟨b, hb, hserial⟩, -⟩ := h.shown serial hcurrent
      obtain ⟨htail, halive⟩ := mem_live_destroyFirst.1 hb
      exact ⟨n, b, htail, halive, hserial⟩
    · by_contra hneither
      obtain ⟨hretiring, hfirst⟩ := not_or.1 hneither
      apply hfirst
      have hchildren : (m.slots m.retireSlot).destroyFirst.children = (m.slots m.retireSlot).children := by
        rcases h.next {} "" "crossfade" (by decide) with hsame | hexchanged
        · have hkept := children_loadBackground_retire hretiring {} "" "crossfade"
          have hemptied := children_loadBackground_retire (m := m.emptied) hretiring {} "" "crossfade"
          rw [hsame] at hemptied
          exact hemptied.symm.trans hkept
        · have huseA := congrArg LayerManager.useA hexchanged
          change _ = !(m.loadBackground .created {} "" "crossfade").useA at huseA
          rw [useA_loadBackground, useA_loadBackground] at huseA
          exact absurd huseA (by change ¬(!m.useA) = !!m.useA; cases m.useA <;> decide)
      exact congrArg₂ Slot.mk hchildren (opacity_destroyFirst _)
  · rintro ⟨⟨n, b, htail, halive, hserial⟩, hretire⟩
    refine ⟨fun serial' hcurrent' => ?_, fun scene id transition _ => ?_⟩
    · obtain rfl := Option.some.inj (hcurrent.symm.trans hcurrent')
      exact ⟨n, ⟨b, mem_live_destroyFirst.2 ⟨htail, halive⟩, hserial⟩, opacity_destroyFirst _⟩
    · rw [loadBackground_emptied hretire]
      exact alike_refl _

/-- A background behind another in its slot is alive. -/
theorem Behind.alive {m : LayerManager} {serial : Nat} (h : m.Behind serial) : m.Alive serial := by
  obtain ⟨n, b, hb, halive, hserial⟩ := h
  refine ⟨n, b, List.mem_filter.2 ⟨List.mem_of_mem_tail hb, ?_⟩, hserial⟩
  rw [halive]
  rfl

/-- That nothing happened is atomic if the current background is alive. -/
theorem atomic_refl_iff {m : LayerManager} {serial : Nat} (hcurrent : m.currentBackground = some serial) :
    Atomic m m ↔ m.Alive serial := by
  constructor
  · intro h
    obtain ⟨n, ⟨b, hb, hserial⟩, -⟩ := h.shown serial hcurrent
    exact ⟨n, b, hb, hserial⟩
  · rintro ⟨n, b, hb, hserial⟩
    refine ⟨fun serial' hcurrent' => ?_, fun _ _ _ _ => alike_refl _⟩
    obtain rfl := Option.some.inj (hcurrent.symm.trans hcurrent')
    exact ⟨n, ⟨b, hb, hserial⟩, rfl⟩

/-- Failed loads are atomic exactly when they spare the current background. -/
theorem Numbered.atomic_iff {m : LayerManager} (h : Numbered m) (fails : List FailedLoad) :
    Atomic m (m.failedLoads fails) ↔ m.Spared (createFailures fails) := by
  rw [failedLoads_eq]
  generalize createFailures fails = k
  cases hcurrent : m.currentBackground with
  | none =>
    have hspared : m.Spared k := fun serial hserial => absurd (hcurrent.symm.trans hserial) (by simp)
    exact iff_of_true (atomic_of_blank (h.blank hcurrent) hcurrent k) hspared
  | some serial =>
    have hspared : m.Spared k ↔ (k = 0 ∧ m.Alive serial) ∨ (Even k ∧ m.Behind serial ∧
        (m.retiring = some m.retireSlot ∨ (m.slots m.retireSlot).destroyFirst = m.slots m.retireSlot)) := by
      constructor
      · exact fun hs => hs serial hcurrent
      · intro hs serial' hserial'
        obtain rfl := Option.some.inj (hcurrent.symm.trans hserial')
        exact hs
    rw [hspared]
    by_cases heven : Even k
    · obtain ⟨j, rfl⟩ := heven.two_dvd
      cases j with
      | zero =>
        refine (atomic_refl_iff hcurrent).trans ⟨fun halive => Or.inl ⟨rfl, halive⟩, ?_⟩
        rintro (⟨-, halive⟩ | ⟨-, hbehind, -⟩)
        · exact halive
        · exact hbehind.alive
      | succ j =>
        rw [iterate_createFailed_even, atomic_emptied_iff hcurrent]
        refine ⟨fun hboth => Or.inr ⟨heven, hboth⟩, ?_⟩
        rintro (⟨hzero, -⟩ | ⟨-, hboth⟩)
        · exact absurd hzero (by omega)
        · exact hboth
    · refine iff_of_false (not_atomic_of_odd h hcurrent heven) ?_
      rintro (⟨rfl, -⟩ | ⟨heven', -⟩)
      · exact heven ⟨0, rfl⟩
      · exact heven heven'

end LayerManager

namespace Hud

open LayerManager

/-- In every state that the HUD reaches, whatever its loads come to, and over any loads that fail: the current background
stays alive and as visible as it was, and the next load makes what it would have made, if and only if the failures spare
that state. -/
theorem failed_loads_atomic_iff (c : OverlayComponents) (first : Outcome) (scene : Scene) (es : List HudEvent)
    (fails : List FailedLoad) :
    Atomic (run (Hud.step c) (create c first scene) es).layers
        ((run (Hud.step c) (create c first scene) es).layers.failedLoads fails) ↔
      (run (Hud.step c) (create c first scene) es).layers.Spared (createFailures fails) :=
  (numbered_run c first scene es).atomic_iff fails

/-- Two loads of the street map that fail destroy the globe. -/
theorem failed_loads_atomic_false :
    let fail : FailedLoad := ⟨.createFailed, {}, "osm", "crossfade", by decide⟩
    ¬Atomic (create .shipped .created {}).layers ((create .shipped .created {}).layers.failedLoads [fail, fail]) := by
  intro fail h
  obtain ⟨n, ⟨b, hb, -⟩, -⟩ := h.shown 0 rfl
  cases n <;> exact absurd hb List.not_mem_nil

end Hud

end PairionClient
