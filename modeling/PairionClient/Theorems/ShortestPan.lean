import PairionClient.Hud.HemisphereMap
import PairionClient.Lib.Run
import PairionClient.Lib.ShortWay

/-!
# The shortest pan

A pan ends where its longitude is at the centre, and it takes the short way when the offset that centres the longitude is
at most one and a half widths away. The offset is brought back into two widths at the end of a pan only: a pan that is
interrupted may leave it elsewhere.
-/

namespace PairionClient

open Transition ShortWay

namespace MapView

variable (v : MapView)

/-- The two corrections of the pan are those of the short way. -/
theorem panTo_eq (offset target : ℚ) : v.panTo offset target = offset + shortWay v.width (target - offset) := by
  simp only [panTo, shortWay, abs_sub_lt_abs_iff v.width_pos, abs_add_lt_abs_iff v.width_pos]

/-- A pan goes to the target, up to whole widths. -/
theorem panTo_modEq (offset target : ℚ) : AddCommGroup.ModEq v.width (v.panTo offset target) target := by
  rw [panTo_eq]
  have h := (shortWay_modEq v.width (target - offset)).add_left offset
  rwa [add_sub_cancel] at h

/-- No longitude is left of the map. -/
theorem basePinX_nonneg (lon : ℚ) : 0 ≤ v.basePinX lon := by
  have h : 0 ≤ wrapped (lon + 180) 360 := wrapped_nonneg (by norm_num)
  exact mul_nonneg (div_nonneg h (by norm_num)) v.width_pos.le

/-- No longitude is right of the map. -/
theorem basePinX_lt (lon : ℚ) : v.basePinX lon < v.width := by
  have h : wrapped (lon + 180) 360 < 360 := wrapped_lt (by norm_num)
  exact mul_lt_of_lt_one_left v.width_pos ((div_lt_one (by norm_num)).2 h)

/-- A longitude is at the centre of the screen. -/
def Centred (lon offset : ℚ) : Prop := v.pinX lon offset = v.width / 2

/-- Any offset that is the target up to whole turns centres the longitude. -/
theorem centred_of_modEq {lon offset : ℚ} (h : AddCommGroup.ModEq v.width offset (v.target lon)) : v.Centred lon offset := by
  have hw := v.width_pos
  obtain ⟨k, hk⟩ := AddCommGroup.modEq_iff_eq_add_zsmul.1 h
  rw [target, zsmul_eq_mul] at hk
  have hx : (v.width + v.basePinX lon - offset) / v.width = 1 / 2 + ((k : ℤ) : ℚ) := by
    rw [div_eq_iff hw.ne']
    linarith
  rw [Centred, pinX, wrapped_eq hw, hx, Int.fract_add_intCast, Int.fract_eq_self.2 ⟨by norm_num, by norm_num⟩]
  ring

end MapView

/-- Lowering the offset is a matter of whole widths. -/
theorem lowered_modEq (w o : ℚ) : AddCommGroup.ModEq w (lowered w o) o := by
  fun_induction lowered w o with
  | case1 o _ ih =>
    have h := AddCommGroup.add_zsmul_modEq (p := w) (a := o) (-1)
    rw [neg_one_zsmul, ← sub_eq_add_neg] at h
    exact ih.trans h
  | case2 o _ => exact AddCommGroup.modEq_refl o

theorem raised_modEq (w o : ℚ) : AddCommGroup.ModEq w (raised w o) o := by
  fun_induction raised w o with
  | case1 o _ ih =>
    have h := AddCommGroup.add_zsmul_modEq (p := w) (a := o) 1
    rw [one_zsmul] at h
    exact ih.trans h
  | case2 o _ => exact AddCommGroup.modEq_refl o

theorem renormalised_modEq (w o : ℚ) : AddCommGroup.ModEq w (renormalised w o) o :=
  (raised_modEq w _).trans (lowered_modEq w o)

namespace HemisphereMap

/-- The longitude that an event asks for: that of the pin that becomes active, or of the new focus. -/
def requested (s : HemisphereMap) : Event → Option ℚ
  | .activePinIndex index =>
    if index = s.activePinIndex then none else (activePin { s with activePinIndex := index }).map Pin.lon
  | .serverFocus focus => focus.map ServerFocus.lon
  | _ => none

/-- What a request does: the pan will start from the offset as it is. -/
structure Requested (v : MapView) (s s' : HemisphereMap) (lon : ℚ) : Prop where
  mapOffset : s'.mapOffset = s.mapOffset
  seqPanTo : s'.seqPanTo = v.panTo s.mapOffset (v.target lon)
  focusSequence : s'.focusSequence = .zoomingOut

/-- A step that is asked for a longitude plans the pan to it. -/
theorem requested_step {v : MapView} {s : HemisphereMap} {e : Event} {lon : ℚ} (h : s.requested e = some lon) :
    Requested v s (step v s e) lon := by
  cases e with
  | activePinIndex index =>
    by_cases hsame : index = s.activePinIndex
    · rw [requested, if_pos hsame] at h
      exact absurd h (by simp)
    · rw [requested, if_neg hsame] at h
      obtain ⟨pin, hpin, rfl⟩ := Option.map_eq_some_iff.1 h
      have hactive : ({ s with activePinIndex := index }.stopAnimations).activePin = some pin := hpin
      rw [step, if_neg hsame, onActivePinIndexChanged, hactive]
      exact ⟨rfl, rfl, rfl⟩
  | serverFocus focus =>
    obtain ⟨sf, rfl, rfl⟩ := Option.map_eq_some_iff.1 h
    exact ⟨rfl, rfl, rfl⟩
  | _ => exact absurd h (by simp [requested])

/-- The pan that an event starts covers at most half a turn, and ends with the longitude at the centre, also after its end
is brought back into range. -/
def PansShortest (v : MapView) (s : HemisphereMap) (e : Event) : Prop :=
  ∀ lon, s.requested e = some lon →
    |(step v s e).seqPanTo - s.mapOffset| ≤ v.width / 2 ∧ v.Centred lon (step v s e).seqPanTo ∧
      v.Centred lon (renormalised v.width (step v s e).seqPanTo)

/-- The target of a request is at most one and a half widths from the offset. -/
def Near (v : MapView) (s : HemisphereMap) (e : Event) : Prop :=
  ∀ lon, s.requested e = some lon → |v.target lon - s.mapOffset| ≤ 3 * v.width / 2

/-- A request is panned the shortest way exactly when its target is near. -/
theorem pansShortest_iff (v : MapView) (s : HemisphereMap) (e : Event) : PansShortest v s e ↔ Near v s e := by
  refine forall₂_congr ?_
  intro lon hrequested
  rw [(requested_step hrequested).seqPanTo, ← abs_shortWay_le_iff v.width_pos]
  have hway : v.panTo s.mapOffset (v.target lon) - s.mapOffset = shortWay v.width (v.target lon - s.mapOffset) := by
    rw [v.panTo_eq]
    ring
  have hmod := v.panTo_modEq s.mapOffset (v.target lon)
  rw [hway]
  constructor
  · rintro ⟨hle, -, -⟩
    exact hle
  · intro hle
    exact ⟨hle, v.centred_of_modEq hmod, v.centred_of_modEq ((renormalised_modEq _ _).trans hmod)⟩

/-- Over any scrolling and any requests, each allowed to interrupt the pan before it anywhere: each pan is the shortest
and ends with its longitude at the centre, if and only if the target of each request is near the offset. -/
theorem pans_shortest_iff (v : MapView) (es : List Event) :
    EveryStep (step v) (PansShortest v) (create v) es ↔ EveryStep (step v) (Near v) (create v) es :=
  everyStep_congr (pansShortest_iff v) _ es

/-- A map of 360 pixels. -/
def smallMap (scrollSpeed : ℚ) : MapView := { width := 360, height := 180, scrollSpeed, width_pos := by norm_num }

/-- Nine tenths of a pan. -/
def nearEnd : Set.Icc (0 : ℚ) 1 := ⟨9 / 10, by norm_num⟩

/-- After a scroll by 324 to the left, a focus on 108° W pans to the left end and is interrupted near its end by one on
140° E, which the pan then reaches by 247 pixels. -/
theorem pans_shortest_false :
    let v := smallMap (-324)
    let es : List Event :=
      [.timer, .serverFocus (some ⟨0, -108, "city"⟩), .beginPan, .pan nearEnd, .serverFocus (some ⟨0, 140, "city"⟩)]
    ¬EveryStep (step v) (PansShortest v) (create v) es := by
  intro v es h
  have hway := (h.2.2.2.2.1 140 rfl).1
  revert hway
  decide +kernel

end HemisphereMap

end PairionClient
