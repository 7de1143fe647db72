import PairionClient.Backgrounds.GlobeBackground
import PairionClient.Lemmas.Properties
import PairionClient.Theorems.MapArrival

/-!
# From a map focus to the screen

A place that the server or a key asks for is in the middle of the screen once the animation had its time, whatever was asked
before; a cleared focus leaves the whole globe.
-/

namespace PairionClient

open Notify Transition

namespace GlobeBackground

open MapAnimation (Place Arrived Whole)

variable {v : MapView} {g : GlobeBackground}

/-- The operation changes the map focus. -/
def Refocuses : StateOp → Prop
  | .setMapFocus _ _ _ _ | .clearMapFocus => True
  | _ => False

/-- What is asked of the map: by a signal for each operation on the focus, and by the other events. -/
def asked (g : GlobeBackground) : Event → Option MapAnimation.Event
  | .apply (.setMapFocus lat lon _ zoom) => some (.serverFocus (some ⟨lat, lon, zoom⟩))
  | .apply .clearMapFocus => if g.connState.mapFocusActive then some (.serverFocus none) else none
  | .apply _ => none
  | .focusPin index => some (.activePinIndex index)
  | .timer => some .timer
  | .frame ms => some (.frame ms)

/-- An operation leaves the focus, and says nothing of it. -/
def Unfocused (c : ConnectionProperties) (r : Recorded ConnectionProperties PropertySignal) : Prop :=
  r.store.mapFocusActive = c.mapFocusActive ∧ ∀ e ∈ r.emitted, e.1 ≠ .mapFocusChanged

/-- Other signals do not touch the focus of the map. -/
theorem unfocused_announce {c c' : ConnectionProperties} {signals : List PropertySignal}
    (h : c'.mapFocusActive = c.mapFocusActive) (hsignals : .mapFocusChanged ∉ signals) : Unfocused c (announce c' signals) := by
  refine ⟨h, fun e he hfocus => ?_⟩
  obtain ⟨i, hi, rfl⟩ := List.mem_map.1 he
  subst hfocus
  exact hsignals hi

theorem unfocused_setIfDifferent {α : Type} [DecidableEq α] (get : ConnectionProperties → α)
    (set : α → ConnectionProperties → ConnectionProperties) {i : PropertySignal} (x : α) {c : ConnectionProperties}
    (hi : i ≠ .mapFocusChanged) (hset : (set x c).mapFocusActive = c.mapFocusActive) :
    Unfocused c (exec (setIfDifferent get set i x) c) := by
  rw [exec_setIfDifferent]
  split
  · exact unfocused_announce rfl List.not_mem_nil
  · exact unfocused_announce hset (by simpa using hi.symm)

/-- An operation that does not refocus leaves the focus of the map. -/
theorem unfocused_apply {op : StateOp} (h : ¬Refocuses op) (c : ConnectionProperties) : Unfocused c (c.apply op) := by
  rw [ConnectionProperties.apply]
  cases op with
  | setMapFocus lat lon label zoom => exact absurd trivial h
  | clearMapFocus => exact absurd trivial h
  | scene op =>
    rw [StateOp.mutator, Mutator.exec_scene]
    refine ⟨rfl, fun e he hfocus => ?_⟩
    obtain ⟨e', -, rfl⟩ := List.mem_map.1 he
    cases hfocus
  | appendLog entry =>
    rw [StateOp.mutator, Mutator.exec_appendLog]
    exact unfocused_announce rfl (by simp)
  | appendLlmToken delta =>
    rw [StateOp.mutator, Mutator.exec_appendLlmToken]
    exact unfocused_announce rfl (by simp)
  | clearLlmResponse =>
    rw [StateOp.mutator, Mutator.exec_clearLlmResponse]
    split
    · exact unfocused_announce rfl List.not_mem_nil
    · exact unfocused_announce rfl (by simp)
  | _ => exact unfocused_setIfDifferent _ _ _ (by simp) rfl

theorem asked_of_not_refocuses {op : StateOp} (h : ¬Refocuses op) (g : GlobeBackground) : asked g (.apply op) = none := by
  cases op with
  | setMapFocus lat lon label zoom => exact absurd trivial h
  | clearMapFocus => exact absurd trivial h
  | _ => rfl

/-- The map is asked by the signals of the focus, and not by others. -/
theorem worldMap_step (v : MapView) (g : GlobeBackground) (e : Event) :
    (g.step v e).worldMap = (asked g e).elim g.worldMap (g.worldMap.step v) := by
  cases e with
  | apply op =>
    by_cases hop : Refocuses op
    · cases op with
      | setMapFocus lat lon label zoom =>
        simp only [step, ConnectionProperties.apply, StateOp.mutator, Mutator.exec_setMapFocus, announce, asked]
        rfl
      | clearMapFocus =>
        simp only [step, ConnectionProperties.apply, StateOp.mutator, Mutator.exec_clearMapFocus, asked]
        split
        · rfl
        · rfl
      | _ => exact hop.elim
    · obtain ⟨-, hemitted⟩ := unfocused_apply hop g.connState
      rw [asked_of_not_refocuses hop, Option.elim_none, step]
      dsimp only
      refine List.foldlRecOn (motive := fun m => m = g.worldMap) _ _ rfl ?_
      intro m hm e he
      rw [onSignal, if_neg (hemitted e he), hm]
  | _ => rfl

/-- The binding is up to date. -/
def Bound (g : GlobeBackground) : Prop := g.worldMap.serverFocus.isSome = g.connState.mapFocusActive

/-- Only a focus of the server changes what the map knows of it. -/
theorem serverFocus_step {m : MapAnimation} {e : MapAnimation.Event} (h : ∀ focus, e ≠ .serverFocus focus) :
    (m.step v e).serverFocus = m.serverFocus := by
  cases e with
  | serverFocus focus => exact absurd rfl (h focus)
  | pins pins => rfl
  | activePinIndex index =>
    rw [MapAnimation.step]
    split
    · rfl
    · unfold MapAnimation.onActivePinIndexChanged
      dsimp only
      split <;> rfl
  | timer =>
    rw [MapAnimation.step]
    split <;> rfl
  | frame ms =>
    simp only [MapAnimation.step, MapAnimation.advance]
    rcases hfocus : m.focusSequence with - | a
    · rcases hzoomOut : m.zoomOutAnim with - | b
      · rfl
      · rfl
    · rcases hzoomOut : m.zoomOutAnim with - | b
      · rfl
      · rfl

/-- Every event keeps the map bound to the store. -/
theorem bound_step (h : Bound g) (e : Event) : Bound (g.step v e) := by
  rw [Bound, worldMap_step]
  cases e with
  | apply op =>
    by_cases hop : Refocuses op
    · cases op with
      | setMapFocus lat lon label zoom => rfl
      | clearMapFocus =>
        simp only [asked, step, ConnectionProperties.apply, StateOp.mutator, Mutator.exec_clearMapFocus]
        split
        · rename_i hactive
          have hsome : g.worldMap.serverFocus.isNone = false := by
            rw [Option.isNone_eq_false_iff, h, hactive]
          rw [Option.elim_some, MapAnimation.step, hsome]
          rfl
        · exact h
      | _ => exact hop.elim
    · rw [asked_of_not_refocuses hop, Option.elim_none]
      exact h.trans (unfocused_apply hop g.connState).1.symm
  | focusPin index => exact (congrArg Option.isSome (serverFocus_step (e := .activePinIndex index) (by simp))).trans h
  | timer => exact (congrArg Option.isSome (serverFocus_step (e := .timer) (by simp))).trans h
  | frame ms => exact (congrArg Option.isSome (serverFocus_step (v := v) (e := .frame ms) (by simp))).trans h

/-- The place that an event asks for: that of the map focus, or of the pin that becomes active. -/
def requested (g : GlobeBackground) : Event → Option Place
  | .apply (.setMapFocus lat lon _ zoom) => some ⟨lat, lon, zoomLevelToScale zoom⟩
  | .focusPin index => MapAnimation.requested g.worldMap (.activePinIndex index)
  | _ => none

/-- The event clears a focus: that of the server, or that of a pin. -/
def Clears (g : GlobeBackground) : Event → Prop
  | .apply .clearMapFocus => g.connState.mapFocusActive = true
  | .focusPin index => MapAnimation.Clears g.worldMap (.activePinIndex index)
  | _ => False

/-- Nothing is asked of the map. -/
def Quiet : Event → Prop
  | .apply op => ¬Refocuses op
  | .focusPin _ => False
  | _ => True

/-- The time that goes by in a step. -/
def spent : Event → ℕ
  | .frame ms => ms
  | _ => 0

/-- What the map does with the time, the globe does. -/
theorem quiet_step {P : ℕ → MapAnimation → Prop}
    (hP : ∀ t m e, P t m → MapAnimation.Quiet e → P (t + MapAnimation.spent e) (m.step v e)) {t : ℕ} (h : P t g.worldMap)
    {e : Event} (he : Quiet e) : P (t + spent e) (g.step v e).worldMap := by
  rw [worldMap_step]
  cases e with
  | apply op =>
    rw [asked_of_not_refocuses he]
    exact h
  | focusPin index => exact he.elim
  | timer => exact hP t g.worldMap .timer h trivial
  | frame ms => exact hP t g.worldMap (.frame ms) h trivial

/-- A place that is asked of the background is focused on its map. -/
theorem focused_of_requested {e : Event} {place : Place} (h : requested g e = some place) :
    MapAnimation.Focused v place 0 (g.step v e).worldMap := by
  rw [worldMap_step]
  cases e with
  | apply op =>
    cases op with
    | setMapFocus lat lon label zoom =>
      obtain rfl := Option.some.inj h
      exact MapAnimation.focused_step (e := .serverFocus (some ⟨lat, lon, zoom⟩)) rfl
    | _ => cases h
  | focusPin index => exact MapAnimation.focused_step (e := .activePinIndex index) h
  | timer => cases h
  | frame ms => cases h

/-- A focus that is cleared in the store is cleared on the map. -/
theorem cleared_of_clears (hbound : Bound g) {e : Event} (h : Clears g e) :
    MapAnimation.Cleared 0 (g.step v e).worldMap := by
  rw [worldMap_step]
  cases e with
  | apply op =>
    cases op with
    | clearMapFocus =>
      have hactive : g.connState.mapFocusActive = true := h
      rw [asked, if_pos hactive]
      refine MapAnimation.cleared_step (e := .serverFocus none) ⟨rfl, fun hnone => ?_⟩
      rw [Bound, hnone, hactive] at hbound
      cases hbound
    | _ => exact h.elim
  | focusPin index => exact MapAnimation.cleared_step (e := .activePinIndex index) h
  | timer => exact h.elim
  | frame ms => exact h.elim

/-- Whatever was asked of the globe before, and whenever it was interrupted: a place that is asked for is in the middle of
the screen, at its zoom and at rest, once 1950 milliseconds have gone by in frames of any length in which nothing else was
asked of the map; and 600 milliseconds after a focus was cleared the whole globe is shown. -/
theorem place_on_screen (v : MapView) (es : List Event) (e : Event) (quiet : List Event) (hquiet : ∀ e ∈ quiet, Quiet e) :
    let g := run (step v) (create v) es
    let g' := run (step v) g (e :: quiet)
    (∀ place, requested g e = some place → 1950 ≤ (quiet.map spent).sum → Arrived v place g'.worldMap) ∧
      (Clears g e → 600 ≤ (quiet.map spent).sum → Whole g'.worldMap) := by
  intro g g'
  have hbound : Bound g := inv_run_of_step Bound (fun _ e h => bound_step h e) es rfl
  constructor
  · intro place hplace helapsed
    have hrun := run_clock spent (fun t g => MapAnimation.Focused v place t (worldMap g))
      (fun t g e h he => quiet_step (fun _ _ _ h he => h.quiet he) h he) (focused_of_requested hplace)
      ((everyStep_iff_forall _ _).2 hquiet)
    exact hrun.arrived (by omega)
  · intro hclears helapsed
    have hrun := run_clock spent (fun t g => MapAnimation.Cleared t (worldMap g))
      (fun t g e h he => quiet_step (v := v) (fun _ _ _ h he => h.quiet he) h he) (cleared_of_clears (v := v) hbound hclears)
      ((everyStep_iff_forall _ _).2 hquiet)
    exact hrun.whole (by omega)

/-- The server asks for Paris, and sixty frames go by. -/
theorem place_on_screen_paris :
    Arrived (HemisphereMap.smallMap 0) ⟨4886 / 100, 235 / 100, 4⟩
      (run (step (HemisphereMap.smallMap 0)) (create (HemisphereMap.smallMap 0))
        (.apply (.setMapFocus (4886 / 100) (235 / 100) "Paris" "city") :: List.replicate 60 (.frame 33))).worldMap :=
  (place_on_screen (HemisphereMap.smallMap 0) [] _ (List.replicate 60 (.frame 33))
    (fun e he => by rw [List.eq_of_mem_replicate he]; trivial)).1 _ rfl (by simp [spent])

end GlobeBackground

end PairionClient
