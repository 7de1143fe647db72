import PairionClient.Theorems.MapArrival

/-!
# The map in time, and without it

What the animated map shows of the horizontal position is what a run of the map without clock has: each frame is a run of its
events. The zoom stays between the whole globe and a city.
-/

namespace PairionClient

open Animation Transition

/-- The easing of the pan is the one of the map without clock. -/
theorem curve_inOutCubic (t : ℚ) : Easing.inOutCubic.curve t = inOutCubic t := by
  have hcurve : Easing.inOutCubic.curve t = Easing.inOutCurve 2 t := rfl
  rw [hcurve, Easing.inOutCurve, inOutCubic]
  norm_num

namespace MapView

variable (v : MapView)

/-- The offset `t` milliseconds into a focus that started at `start`. -/
def offsetAt (seqPanTo start : ℚ) (t : ℕ) : ℚ :=
  if t < 450 then start
  else if t < 1750 then start + (seqPanTo - start) * inOutCubic ((t - 450 : ℕ) / (1300 : ℕ))
  else renormalised v.width seqPanTo

/-- The pan after `u` milliseconds. -/
theorem advance_seqPan (seqPanTo : ℚ) (s : MapProperty → ℚ) (u : ℕ) :
    ((v.seqPan seqPanTo).advance u s).store .mapOffset =
      if u < 1300 then s .mapOffset + (seqPanTo - s .mapOffset) * inOutCubic (u / (1300 : ℕ))
      else renormalised v.width seqPanTo := by
  split
  · rename_i hu
    simp [seqPan, Anim.advance, hu, curve_inOutCubic]
  · rename_i hu
    have hduration : (v.seqPan seqPanTo).duration = 1300 := by simp [seqPan, Anim.duration]
    rw [Anim.advance_of_le (by rw [hduration]; exact Nat.not_lt.1 hu)]
    simp [seqPan, Anim.outcome]

/-- The offset on the way is the one that the clock says. -/
theorem advance_focusSequence (seqPanTo seqVertPanTo scale : ℚ) (s : MapProperty → ℚ) (t : ℕ) :
    ((v.focusSequence seqPanTo seqVertPanTo scale).advance t s).store .mapOffset = v.offsetAt seqPanTo (s .mapOffset) t := by
  have hpull : pullBack.duration = 450 := by simp [pullBack, Anim.duration]
  have hkeeps : ¬pullBack.Animates .mapOffset := by simp [pullBack, Anim.Animates]
  have hbeside : ¬(approach seqVertPanTo scale).Animates .mapOffset := by simp [approach, Anim.Animates]
  rw [offsetAt]
  by_cases ht : t < 450
  · obtain ⟨a', hrest, -⟩ := Anim.rest_of_lt (a := pullBack) (by rw [hpull]; exact ht) s
    rw [if_pos ht]
    simp only [focusSequence, Anim.advance, hrest]
    exact Anim.advance_frame hkeeps t s
  · have hle : pullBack.duration ≤ t := by rw [hpull]; exact Nat.not_lt.1 ht
    have hstart : pullBack.outcome s .mapOffset = s .mapOffset := by simp [pullBack, Anim.outcome, Function.update]
    rw [if_neg ht]
    simp only [focusSequence, Anim.advance, Anim.advance_of_le hle, hpull, Anim.join]
    rw [Anim.advance_frame hbeside, advance_seqPan, hstart]
    by_cases hpan : t < 1750
    · rw [if_pos hpan, if_pos (by omega)]
    · rw [if_neg hpan, if_neg (by omega)]

end MapView

namespace HemisphereMap

variable {v : MapView}

/-- The phase `t` milliseconds into a focus that started at `start`. -/
def phaseAt (start : ℚ) (t : ℕ) : FocusSequence :=
  if t < 450 then .zoomingOut else if t < 1750 then .panning start else if t < 1950 then .arriving else .stopped

/-- The map without clock, `t` milliseconds into a focus. -/
def focusedAt (v : MapView) (h : HemisphereMap) (start : ℚ) (t : ℕ) : HemisphereMap :=
  { h with mapOffset := v.offsetAt h.seqPanTo start t, focusSequence := phaseAt start t }

/-- A state that a run leads to. -/
def Reaches (v : MapView) (h h' : HemisphereMap) : Prop := ∃ es, run (step v) h es = h'

theorem Reaches.trans {h h' h'' : HemisphereMap} (hab : Reaches v h h') (hbc : Reaches v h' h'') : Reaches v h h'' := by
  obtain ⟨es, rfl⟩ := hab
  obtain ⟨es', rfl⟩ := hbc
  exact ⟨es ++ es', run_append _ _ _ _⟩

/-- A time in the pan, as a part of it. -/
def panTime (t : ℕ) (ht : t < 1750) : Set.Icc (0 : ℚ) 1 :=
  ⟨(t - 450 : ℕ) / (1300 : ℕ), div_nonneg (Nat.cast_nonneg _) (Nat.cast_nonneg _),
    div_le_one_of_le₀ (Nat.cast_le.2 (by omega)) (Nat.cast_nonneg _)⟩

variable (h : HemisphereMap) (start : ℚ) {t t' : ℕ}

/-- Within the time of the pan a later moment is reached by panning. -/
theorem reaches_pan (ht : t < 1750) (ht' : 450 ≤ t') (hlt : t' < 1750) :
    Reaches v (focusedAt v h start t) (focusedAt v h start t') := by
  have hpanned : focusedAt v h start t' = { h with
      mapOffset := start + (h.seqPanTo - start) * inOutCubic ((t' - 450 : ℕ) / (1300 : ℕ)), focusSequence := .panning start } := by
    have hlate : ¬t' < 450 := Nat.not_lt.2 ht'
    rw [focusedAt, MapView.offsetAt, phaseAt, if_neg hlate, if_pos hlt, if_neg hlate, if_pos hlt]
  rw [hpanned]
  by_cases hstarted : t < 450
  · refine ⟨[.beginPan, .pan (panTime t' hlt)], ?_⟩
    simp only [run_cons, run_nil, focusedAt, MapView.offsetAt, phaseAt, if_pos hstarted, step]
    rfl
  · refine ⟨[.pan (panTime t' hlt)], ?_⟩
    simp only [run_cons, run_nil, focusedAt, phaseAt, if_neg hstarted, if_pos ht, step]
    rfl

/-- The moments after the end of the pan are reached by ending it. -/
theorem reaches_endPan (ht : t < 1750) (ht' : 1750 ≤ t') (hlt : t' < 1950) :
    Reaches v (focusedAt v h start t) (focusedAt v h start t') := by
  have hended : focusedAt v h start t' =
      { h with mapOffset := renormalised v.width h.seqPanTo, focusSequence := .arriving } := by
    have hlate : ¬t' < 450 := by omega
    simp [focusedAt, MapView.offsetAt, phaseAt, hlate, Nat.not_lt.2 ht', hlt]
  rw [hended]
  by_cases hstarted : t < 450
  · exact ⟨[.beginPan, .endPan], by simp [focusedAt, phaseAt, hstarted, step]⟩
  · exact ⟨[.endPan], by simp [focusedAt, phaseAt, hstarted, ht, step]⟩

/-- Every moment from the end of the pan on is reached by arriving. -/
theorem reaches_arrive (ht : 1750 ≤ t) (hle : t ≤ t') : Reaches v (focusedAt v h start t) (focusedAt v h start t') := by
  have hstarted : ¬t < 450 := by omega
  have hstarted' : ¬t' < 450 := by omega
  have hpanned' : ¬t' < 1750 := by omega
  by_cases hover : t' < 1950
  · refine ⟨[], ?_⟩
    simp [focusedAt, MapView.offsetAt, phaseAt, hstarted, hstarted', Nat.not_lt.2 ht, hpanned', hover, lt_of_le_of_lt hle hover]
  · by_cases harriving : t < 1950
    · refine ⟨[.arrive], ?_⟩
      simp [focusedAt, MapView.offsetAt, phaseAt, step, hstarted, hstarted', Nat.not_lt.2 ht, hpanned', hover, harriving]
    · refine ⟨[], ?_⟩
      simp [focusedAt, MapView.offsetAt, phaseAt, hstarted, hstarted', Nat.not_lt.2 ht, hpanned', hover, harriving]

/-- Time leads from one moment of a focus to any later one. -/
theorem reaches_later (hle : t ≤ t') : Reaches v (focusedAt v h start t) (focusedAt v h start t') := by
  by_cases hpanned : 1750 ≤ t
  · exact reaches_arrive h start hpanned hle
  · have ht := Nat.not_le.1 hpanned
    by_cases hearly : t' < 450
    · refine ⟨[], ?_⟩
      simp [focusedAt, MapView.offsetAt, phaseAt, hearly, lt_of_le_of_lt hle hearly]
    · by_cases hpan : t' < 1750
      · exact reaches_pan h start ht (Nat.not_lt.1 hearly) hpan
      · exact (reaches_endPan h start ht le_rfl (by omega)).trans (reaches_arrive h start le_rfl (Nat.not_lt.1 hpan))

end HemisphereMap

namespace MapAnimation

open HemisphereMap (focusedAt phaseAt reaches_later)

variable {v : MapView} {m : MapAnimation} {h : HemisphereMap}

/-- `t` milliseconds into a focus, with the map without clock at the same moment. -/
def Abreast (v : MapView) (m : MapAnimation) (h : HemisphereMap) (t : ℕ) (s : MapProperty → ℚ) : Prop :=
  (∃ seqVertPanTo scale, (v.focusSequence h.seqPanTo seqVertPanTo scale).Plays s t m.focusSequence m.shown) ∧
    h.mapOffset = v.offsetAt h.seqPanTo (s .mapOffset) t ∧ h.focusSequence = phaseAt (s .mapOffset) t

/-- The animated map and the map without clock: they are asked for the same, and no focus runs in either, or one is under
way in both. -/
structure Matches (v : MapView) (m : MapAnimation) (h : HemisphereMap) : Prop where
  pins : h.pins = m.pins
  activePinIndex : h.activePinIndex = m.activePinIndex
  serverFocus : h.serverFocus = m.serverFocus
  phase : (m.focusSequence = none ∧ h.focusSequence = .stopped ∧ h.mapOffset = m.shown .mapOffset) ∨
    ∃ t s, t < 1950 ∧ Abreast v m h t s
  zoomOutAnim : ∀ a ∈ m.zoomOutAnim, m.focusSequence = none ∧ ¬a.Animates .mapOffset

/-- Maps that are abreast have the same offset. -/
theorem Abreast.mapOffset {t : ℕ} {s : MapProperty → ℚ} (habreast : Abreast v m h t s) :
    h.mapOffset = m.shown .mapOffset := by
  obtain ⟨⟨seqVertPanTo, scale, hplays⟩, hoffset, -⟩ := habreast
  have hanimates := v.animates_focusSequence h.seqPanTo seqVertPanTo scale .mapOffset
  rw [hoffset]
  rcases hplays with ⟨rfl, -, hshown⟩ | ⟨-, hshown⟩
  · rw [hshown _ hanimates]
    exact if_pos (Nat.succ_pos _)
  · rw [hshown _ hanimates, MapView.advance_focusSequence]

/-- While a focus is under way, it runs in both. -/
theorem Abreast.running {t : ℕ} {s : MapProperty → ℚ} (habreast : Abreast v m h t s) (ht : t < 1950) :
    m.focusSequence ≠ none ∧ h.focusSequence ≠ .stopped := by
  obtain ⟨⟨seqVertPanTo, scale, hplays⟩, -, hphase⟩ := habreast
  constructor
  · rcases hplays with ⟨-, hrest, -⟩ | ⟨hrest, -⟩
    · simp [hrest]
    · obtain ⟨a', hsome, -⟩ := Anim.rest_of_lt (a := v.focusSequence h.seqPanTo seqVertPanTo scale)
        (by rw [MapView.duration_focusSequence]; exact ht) s
      simp [hrest, hsome]
  · rw [hphase, phaseAt]
    split
    · simp
    · split <;> simp

/-- Maps that match have the same offset. -/
theorem Matches.mapOffset (hm : Matches v m h) : h.mapOffset = m.shown .mapOffset := by
  rcases hm.phase with ⟨-, -, hoffset⟩ | ⟨t, s, -, habreast⟩
  · exact hoffset
  · exact habreast.mapOffset

/-- A focus is under way in one exactly when it is in the other. -/
theorem Matches.stopped_iff (hm : Matches v m h) : h.focusSequence = .stopped ↔ m.focusSequence = none := by
  rcases hm.phase with ⟨hnone, hstopped, -⟩ | ⟨t, s, ht, habreast⟩
  · simp [hnone, hstopped]
  · obtain ⟨hsome, hruns⟩ := habreast.running ht
    exact iff_of_false hruns hsome

/-- A focus starts in both. -/
theorem Matches.focus (hm : Matches v m h) (lat lon scale : ℚ) :
    Matches v ((m.stopAnimations).focus v lat lon scale) ((h.stopAnimations).focus v lat lon scale) := by
  refine ⟨hm.pins, hm.activePinIndex, hm.serverFocus, Or.inr
    ⟨0, m.shown, Nat.succ_pos _, ⟨(v.height / 2 - v.pinY lat) * scale, scale, ?_⟩, ?_, rfl⟩, ?_⟩
  · have hto : ((h.stopAnimations).focus v lat lon scale).seqPanTo = v.panTo (m.shown .mapOffset) (v.target lon) := by
      rw [← hm.mapOffset]
      rfl
    rw [hto]
    exact Anim.plays_start _ _
  · exact hm.mapOffset
  · simp [MapAnimation.focus, stopAnimations]

/-- The zoom-out starts in both. -/
theorem Matches.clear (hm : Matches v m h) :
    Matches v { m.stopAnimations with zoomOutAnim := some MapView.zoomOutAnim } { h.stopAnimations with zoomOutAnim := true } := by
  refine ⟨hm.pins, hm.activePinIndex, hm.serverFocus, Or.inl ⟨rfl, rfl, hm.mapOffset⟩, ?_⟩
  rintro a ⟨⟩
  exact ⟨rfl, by simp [MapView.animates_zoomOutAnim]⟩

/-- Maps that match do so after another pin. -/
theorem Matches.onActivePinIndexChanged (hm : Matches v m h) :
    Matches v (m.onActivePinIndexChanged v) (h.onActivePinIndexChanged v) := by
  have hpin : h.stopAnimations.activePin = m.stopAnimations.activePin := by
    simp only [HemisphereMap.activePin, activePin, HemisphereMap.stopAnimations, stopAnimations, hm.pins, hm.activePinIndex]
    rfl
  rw [MapAnimation.onActivePinIndexChanged, HemisphereMap.onActivePinIndexChanged, hpin]
  cases m.stopAnimations.activePin with
  | none => exact hm.clear
  | some pin => exact hm.focus pin.lat pin.lon (8 / 5)

theorem Matches.onServerFocusChanged (hm : Matches v m h) :
    Matches v (m.onServerFocusChanged v) (h.onServerFocusChanged v) := by
  have hfocus := hm.serverFocus
  rcases hsf : m.serverFocus with - | sf
  · rw [hsf] at hfocus
    have hclear : m.onServerFocusChanged v = { m.stopAnimations with zoomOutAnim := some MapView.zoomOutAnim } := by
      simp only [MapAnimation.onServerFocusChanged, stopAnimations, hsf]
    have hclear' : h.onServerFocusChanged v = { h.stopAnimations with zoomOutAnim := true } := by
      simp only [HemisphereMap.onServerFocusChanged, HemisphereMap.stopAnimations, hfocus]
    rw [hclear, hclear']
    exact hm.clear
  · rw [hsf] at hfocus
    have hstart : m.onServerFocusChanged v = m.stopAnimations.focus v sf.lat sf.lon (zoomLevelToScale sf.zoom) := by
      simp only [MapAnimation.onServerFocusChanged, stopAnimations, hsf]
    have hstart' : h.onServerFocusChanged v = h.stopAnimations.focus v sf.lat sf.lon (zoomLevelToScale sf.zoom) := by
      simp only [HemisphereMap.onServerFocusChanged, HemisphereMap.stopAnimations, hfocus]
    rw [hstart, hstart']
    exact hm.focus sf.lat sf.lon _

theorem Matches.timer (hm : Matches v m h) : Matches v (step v m .timer) (HemisphereMap.step v h .timer) := by
  have hruns : h.timerRuns v = m.timerRuns v := by
    have hstopped : decide (h.focusSequence = .stopped) = m.focusSequence.isNone := by
      rw [Bool.eq_iff_iff, decide_eq_true_iff, Option.isNone_iff_eq_none]
      exact hm.stopped_iff
    simp only [HemisphereMap.timerRuns, timerRuns, hm.activePinIndex, hm.serverFocus, hstopped]
  rw [step, HemisphereMap.step, hruns]
  split
  · rename_i htimer
    have hnone : m.focusSequence = none := by simpa using (Bool.and_eq_true_iff.1 htimer).2
    refine ⟨hm.pins, hm.activePinIndex, hm.serverFocus, Or.inl ⟨hnone, hm.stopped_iff.2 hnone, ?_⟩, hm.zoomOutAnim⟩
    simp only [HemisphereMap.autoScroll, autoScroll, hm.mapOffset, Function.update_self]
  · exact hm

/-- A frame is a run of the map without clock. -/
theorem Matches.frame (hm : Matches v m h) (ms : ℕ) : ∃ es, Matches v (m.advance ms) (run (HemisphereMap.step v) h es) := by
  rcases hm.phase with ⟨hnone, hstopped, hoffset⟩ | ⟨t, s, ht, habreast⟩
  · refine ⟨[], ?_⟩
    rcases hzoomOut : m.zoomOutAnim with - | a
    · simp only [advance, hnone, hzoomOut]
      exact hm
    · obtain ⟨-, hother⟩ := hm.zoomOutAnim a hzoomOut
      simp only [advance, hnone, hzoomOut]
      refine ⟨hm.pins, hm.activePinIndex, hm.serverFocus, Or.inl ⟨rfl, hstopped, ?_⟩, fun a' ha' => ⟨rfl, ?_⟩⟩
      · exact hoffset.trans (Anim.advance_frame hother ms m.shown).symm
      · exact fun hanimates => hother (Anim.animates_rest ms a m.shown a' ha' _ hanimates)
  · obtain ⟨hsome, -⟩ := habreast.running ht
    obtain ⟨⟨seqVertPanTo, scale, hplays⟩, hoffset, hphase⟩ := habreast
    obtain ⟨a, ha⟩ := Option.ne_none_iff_exists'.1 hsome
    have hzoomOut : m.zoomOutAnim = none := by
      rcases hsomeOut : m.zoomOutAnim with - | b
      · rfl
      · exact absurd (hm.zoomOutAnim b hsomeOut).1 hsome
    have hframe : m.advance ms = { m with
        focusSequence := (a.advance ms m.shown).rest, shown := (a.advance ms m.shown).store } := by
      simp only [advance, ha, hzoomOut]
    rw [ha] at hplays
    have hplays' := hplays.frame (v.proper_focusSequence _ _ _) ms
    obtain ⟨es, hes⟩ := reaches_later (v := v) h (s .mapOffset) (Nat.le_add_right t ms)
    have hmoment : focusedAt v h (s .mapOffset) t = h := by
      rw [focusedAt, ← hoffset, ← hphase]
    rw [hmoment] at hes
    refine ⟨es, ?_⟩
    rw [hes, hframe]
    have habreast' : Abreast v { m with
        focusSequence := (a.advance ms m.shown).rest, shown := (a.advance ms m.shown).store }
        (focusedAt v h (s .mapOffset) (t + ms)) (t + ms) s := ⟨⟨seqVertPanTo, scale, hplays'⟩, rfl, rfl⟩
    refine ⟨hm.pins, hm.activePinIndex, hm.serverFocus, ?_, by simp [hzoomOut]⟩
    by_cases hover : t + ms < 1950
    · exact Or.inr ⟨t + ms, s, hover, habreast'⟩
    · obtain ⟨hrest, -⟩ := hplays'.outcome (by rw [MapView.duration_focusSequence]; omega)
        (by rw [MapView.duration_focusSequence]; omega)
      refine Or.inl ⟨hrest, ?_, habreast'.mapOffset⟩
      have h450 : ¬t + ms < 450 := by omega
      have h1750 : ¬t + ms < 1750 := by omega
      simp [focusedAt, phaseAt, h450, h1750, hover]

/-- Every event of the timed map is a run of the map without clock. -/
theorem matches_step (hm : Matches v m h) (e : Event) : ∃ es, Matches v (step v m e) (run (HemisphereMap.step v) h es) := by
  cases e with
  | pins pins => exact ⟨[.pins pins], rfl, hm.activePinIndex, hm.serverFocus, hm.phase, hm.zoomOutAnim⟩
  | activePinIndex index =>
    refine ⟨[.activePinIndex index], ?_⟩
    rw [run_cons, run_nil, step, HemisphereMap.step, hm.activePinIndex]
    split
    · exact hm
    · have hset : Matches v { m with activePinIndex := index } { h with activePinIndex := index } :=
        ⟨hm.pins, rfl, hm.serverFocus, hm.phase, hm.zoomOutAnim⟩
      exact hset.onActivePinIndexChanged
  | serverFocus focus =>
    refine ⟨[.serverFocus focus], ?_⟩
    rw [run_cons, run_nil, step, HemisphereMap.step, hm.serverFocus]
    split
    · exact hm
    · have hset : Matches v { m with serverFocus := focus } { h with serverFocus := focus } :=
        ⟨hm.pins, hm.activePinIndex, rfl, hm.phase, hm.zoomOutAnim⟩
      exact hset.onServerFocusChanged
  | timer => exact ⟨[.timer], hm.timer⟩
  | frame ms => exact hm.frame ms

/-! ## The zoom -/

/-- The values that each property may have. -/
def range : MapProperty → Set ℚ
  | .zoomScale => Set.Icc 1 4
  | _ => Set.univ

/-- The values that a property may have are an interval. -/
theorem ordConnected_range (p : MapProperty) : (range p).OrdConnected := by
  cases p
  · exact Set.ordConnected_univ
  · exact Set.ordConnected_Icc
  · exact Set.ordConnected_univ

/-- The zoom is in its range, and so is where it goes. -/
structure Zoomed (m : MapAnimation) : Prop where
  shown : ∀ p, m.shown p ∈ range p
  focusSequence : ∀ a ∈ m.focusSequence, a.Stays range
  zoomOutAnim : ∀ a ∈ m.zoomOutAnim, a.Stays range

/-- Every zoom level is a scale from 1 to 4. -/
theorem zoomLevelToScale_mem (zoomLevel : String) : zoomLevelToScale zoomLevel ∈ range .zoomScale := by
  unfold zoomLevelToScale
  split_ifs <;> constructor <;> norm_num

/-- A focus leads to a scale of the range. -/
theorem Zoomed.focus (hm : Zoomed m) (lat lon : ℚ) {scale : ℚ} (hscale : scale ∈ range .zoomScale) :
    Zoomed ((m.stopAnimations).focus v lat lon scale) := by
  refine ⟨hm.shown, ?_, by simp [MapAnimation.focus, stopAnimations]⟩
  rintro a ⟨⟩
  have hwithin : 1 ≤ scale ∧ scale ≤ 4 := hscale
  simp [MapView.focusSequence, MapView.pullBack, MapView.seqPan, MapView.approach, Anim.Stays, range, Set.MapsTo, hwithin]

/-- The zoom out leads to 1. -/
theorem Zoomed.clear (hm : Zoomed m) : Zoomed { m.stopAnimations with zoomOutAnim := some MapView.zoomOutAnim } := by
  refine ⟨hm.shown, by simp [stopAnimations], ?_⟩
  rintro a ⟨⟩
  simp [MapView.zoomOutAnim, Anim.Stays, range]

/-- Every event keeps the zoom within its range. -/
theorem zoomed_step (hm : Zoomed m) (e : Event) : Zoomed (step v m e) := by
  cases e with
  | pins pins => exact ⟨hm.shown, hm.focusSequence, hm.zoomOutAnim⟩
  | activePinIndex index =>
    rw [step]
    split
    · exact hm
    · have hset : Zoomed { m with activePinIndex := index } := ⟨hm.shown, hm.focusSequence, hm.zoomOutAnim⟩
      unfold onActivePinIndexChanged
      dsimp only
      split
      · exact hset.focus _ _ ⟨by norm_num, by norm_num⟩
      · exact hset.clear
  | serverFocus focus =>
    rw [step]
    split
    · exact hm
    · have hset : Zoomed { m with serverFocus := focus } := ⟨hm.shown, hm.focusSequence, hm.zoomOutAnim⟩
      unfold onServerFocusChanged
      dsimp only
      split
      · exact hset.focus _ _ (zoomLevelToScale_mem _)
      · exact hset.clear
  | timer =>
    rw [step]
    split
    · refine ⟨fun p => ?_, hm.focusSequence, hm.zoomOutAnim⟩
      cases p
      · trivial
      · exact hm.shown .zoomScale
      · trivial
    · exact hm
  | frame ms =>
    have hfade : ∀ b ∈ m.zoomOutAnim, ∀ shown : MapProperty → ℚ, (∀ p, shown p ∈ range p) →
        (∀ p, (b.advance ms shown).store p ∈ range p) ∧ ∀ b' ∈ (b.advance ms shown).rest, b'.Stays range :=
      fun b hb shown hshown => Anim.stays_advance ordConnected_range (hm.zoomOutAnim b hb) hshown
    cases hfocus : m.focusSequence with
    | none =>
      cases hzoom : m.zoomOutAnim with
      | none =>
        simp only [step, advance, hfocus, hzoom]
        exact hm
      | some b =>
        obtain ⟨hshown, hrest⟩ := hfade b hzoom m.shown hm.shown
        simp only [step, advance, hfocus, hzoom]
        exact ⟨hshown, by simp, hrest⟩
    | some a =>
      obtain ⟨hshown, hrest⟩ := Anim.stays_advance (t := ms) ordConnected_range (hm.focusSequence a hfocus) hm.shown
      cases hzoom : m.zoomOutAnim with
      | none =>
        simp only [step, advance, hfocus, hzoom]
        exact ⟨hshown, hrest, by simp⟩
      | some b =>
        obtain ⟨hshown', hrest'⟩ := hfade b hzoom _ hshown
        simp only [step, advance, hfocus, hzoom]
        exact ⟨hshown', hrest, hrest'⟩

/-- New maps match. -/
theorem matches_create (v : MapView) : Matches v (create v) (HemisphereMap.create v) := by
  have hoffset : (HemisphereMap.create v).mapOffset = v.width := by
    simp [HemisphereMap.create, HemisphereMap.onWidthChanged, v.width_pos]
  have hrest : (HemisphereMap.create v).focusSequence = .stopped ∧ (HemisphereMap.create v).pins = [] ∧
      (HemisphereMap.create v).activePinIndex = -1 ∧ (HemisphereMap.create v).serverFocus = none := by
    simp [HemisphereMap.create, HemisphereMap.onWidthChanged, v.width_pos]
  obtain ⟨hstopped, hpins, hindex, hfocus⟩ := hrest
  exact ⟨hpins, hindex, hfocus, Or.inl ⟨rfl, hstopped, hoffset⟩, by simp [create]⟩

/-- A new map shows the whole globe. -/
theorem zoomed_create (v : MapView) : Zoomed (create v) := by
  refine ⟨fun p => ?_, by simp [create], by simp [create]⟩
  cases p
  · trivial
  · exact ⟨le_rfl, by simp [create]⟩
  · trivial

/-- Whatever is asked of the animated map, whenever, and in whatever frames time goes by: the map without clock has a run
that ends at the same offset, asked for the same, with a focus under way if and only if one is. The zoom is between 1 and
4. -/
theorem animation_refines (v : MapView) (es : List Event) :
    let m := run (step v) (create v) es
    (∃ es', let h := run (HemisphereMap.step v) (HemisphereMap.create v) es'
      h.mapOffset = m.shown .mapOffset ∧ h.pins = m.pins ∧ h.activePinIndex = m.activePinIndex ∧
        h.serverFocus = m.serverFocus ∧ (h.focusSequence = .stopped ↔ m.focusSequence = none)) ∧
      1 ≤ m.shown .zoomScale ∧ m.shown .zoomScale ≤ 4 := by
  intro m
  obtain ⟨es', hm⟩ := run_simulates_of (Matches v) (fun _ _ e hm => matches_step hm e) (matches_create v) es
  have hzoomed : Zoomed m := inv_run_of_step Zoomed (fun _ e hm => zoomed_step hm e) es (zoomed_create v)
  exact ⟨⟨es', hm.mapOffset, hm.pins, hm.activePinIndex, hm.serverFocus, hm.stopped_iff⟩, hzoomed.shown .zoomScale⟩

end MapAnimation

end PairionClient
