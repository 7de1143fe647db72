import PairionClient.Lib.Run
import PairionClient.Overlays.RadarAnimation

/-!
# The frames of the radar

The two layers share one opacity, and while there are two frames they take turns. An answer with a single frame stops the turns
where they are, also where the layer of that frame is hidden.
-/

namespace PairionClient

open Transition Animation

namespace RadarAnimation

/-! ## A pass -/

/-- The share of the older frame, by the time in a pass. -/
def olderShare (t : ℕ) : ℚ :=
  if t < 500 then 1 else if t < 700 then 1 - (t - 500) / 200 else if t < 2200 then 0 else (t - 2200) / 200

/-- The opacities, by the share of the older frame. -/
def shared (older : ℚ) : RadarLayer → ℚ
  | .opacityA => 7 / 10 * older
  | .opacityB => 7 / 10 * (1 - older)

/-- A pass writes no opacity twice at a time. -/
theorem proper_pass : pass.Proper := by
  simp [pass, crossfade, Anim.Proper, Anim.Animates]

/-- A pass takes 2400 ms. -/
theorem duration_pass : pass.duration = 2400 := rfl

/-- The share of the older frame is between 0 and 1. -/
theorem olderShare_mem {t : ℕ} (h : t < 2400) : 0 ≤ olderShare t ∧ olderShare t ≤ 1 := by
  have hless : (t : ℚ) < 2400 := by exact_mod_cast h
  unfold olderShare
  split
  · norm_num
  split
  · rename_i hstart hend
    have hfrom : (500 : ℚ) ≤ t := by exact_mod_cast Nat.not_lt.1 hstart
    have hto : (t : ℚ) < 700 := by exact_mod_cast hend
    constructor
    · linarith
    · linarith
  split
  · norm_num
  · rename_i hstart
    have hfrom : (2200 : ℚ) ≤ t := by exact_mod_cast Nat.not_lt.1 hstart
    constructor
    · linarith
    · linarith

/-- The older frame fades out. -/
theorem store_crossfade_out {t : ℕ} (h : t < 200) :
    (Anim.advance t (crossfade .opacityA .opacityB) (shared 1)).store = shared (1 - t / 200) := by
  funext layer
  simp only [crossfade, Anim.advance, Anim.join, Option.getD_none, Nat.sub_zero, h, if_true]
  cases layer with
  | opacityA =>
    simp [shared, Easing.linear]
    ring
  | opacityB => simp [shared, Easing.linear]

/-- During the crossfade the shares go over in proportion to the time. -/
theorem store_crossfade_in {t : ℕ} (h : t < 200) :
    (Anim.advance t (crossfade .opacityB .opacityA) (shared 0)).store = shared (t / 200) := by
  funext layer
  simp only [crossfade, Anim.advance, Anim.join, Option.getD_none, Nat.sub_zero, h, if_true]
  cases layer with
  | opacityA => simp [shared, Easing.linear]
  | opacityB =>
    simp [shared, Easing.linear]
    ring

/-- What a pass shows, whatever the opacities were before it. -/
theorem store_pass {t : ℕ} (h : t < 2400) (s : RadarLayer → ℚ) :
    (Anim.advance t pass s).store = shared (olderShare t) := by
  have hstart : Function.update (Function.update s .opacityA (7 / 10)) .opacityB 0 = shared 1 := by
    funext layer
    cases layer <;> simp [shared]
  have hout : (crossfade .opacityA .opacityB).outcome (shared 1) = shared 0 := by
    funext layer
    cases layer <;> simp [crossfade, Anim.outcome, shared]
  rw [pass, Anim.advance_sequential_of_le (Nat.zero_le t), Anim.advance_sequential_of_le (Nat.zero_le _)]
  change (Anim.advance t _ (Function.update (Function.update s .opacityA (7 / 10)) .opacityB 0)).store = _
  rw [hstart]
  by_cases hhold : t < 500
  · rw [Anim.store_sequential_of_lt hhold, olderShare, if_pos hhold]
    simp only [Anim.advance, if_pos hhold]
  rw [Anim.advance_sequential_of_le (Nat.not_lt.1 hhold), olderShare, if_neg hhold]
  change (Anim.advance (t - 500) _ (shared 1)).store = _
  by_cases hfade : t < 700
  · have hless : t - 500 < 200 := by omega
    rw [Anim.store_sequential_of_lt hless, store_crossfade_out hless, if_pos hfade, Nat.cast_sub (Nat.not_lt.1 hhold)]
    rfl
  have hafter : 200 ≤ t - 500 := by omega
  rw [Anim.advance_sequential_of_le hafter, hout, if_neg hfade]
  change (Anim.advance (t - 500 - 200) _ (shared 0)).store = _
  by_cases hlatest : t < 2200
  · have hless : t - 500 - 200 < 1500 := by omega
    rw [Anim.store_sequential_of_lt hless, if_pos hlatest]
    simp only [Anim.advance, if_pos hless]
  · have hlast : 1500 ≤ t - 500 - 200 := by omega
    have hless : t - 2200 < 200 := by omega
    have htime : t - 500 - 200 - 1500 = t - 2200 := by omega
    rw [Anim.advance_sequential_of_le hlast, if_neg hlatest]
    change (Anim.advance (t - 500 - 200 - 1500) _ (shared 0)).store = _
    rw [htime, store_crossfade_in hless, Nat.cast_sub (Nat.not_lt.1 hlatest)]
    rfl

/-! ## Runs -/

/-- The opacities add up to that of one layer, the animation runs while there are two frames, and it is somewhere in a
pass. -/
structure Turns (s : RadarAnimation) : Prop where
  shares : ∃ older, 0 ≤ older ∧ older ≤ 1 ∧ s.opacity = shared older
  runs : s.frameAnim.isSome = running s.radar
  turn : ∀ a ∈ s.frameAnim, ∃ t, Anim.Loops pass t a s.opacity

/-- In a loop of passes the shares are those of the time within the pass. -/
theorem shares_of_loops {t : ℕ} {a : Anim RadarLayer} {shown : RadarLayer → ℚ} (h : Anim.Loops pass t a shown) :
    t < 2400 ∧ shown = shared (olderShare t) := by
  obtain ⟨hlt, s, -, rfl⟩ := h
  exact ⟨hlt, store_pass hlt s⟩

/-- A loop that runs shows its frames in turns. -/
theorem Turns.of_loops {s : RadarAnimation} (hruns : s.frameAnim.isSome = running s.radar) {t : ℕ} {a : Anim RadarLayer}
    (ha : s.frameAnim = some a) (h : Anim.Loops pass t a s.opacity) : Turns s where
  shares := by
    obtain ⟨hlt, hshown⟩ := shares_of_loops h
    obtain ⟨hzero, hone⟩ := olderShare_mem hlt
    exact ⟨_, hzero, hone, hshown⟩
  runs := hruns
  turn := by
    intro a' ha'
    obtain rfl := Option.some.inj (ha.symm.trans ha')
    exact ⟨t, h⟩

/-- A new overlay shows its older frame alone. -/
theorem turns_create : Turns {} where
  shares := by
    refine ⟨1, zero_le_one, le_refl 1, funext fun layer => ?_⟩
    cases layer <;> simp [shared]
  runs := rfl
  turn := by simp

/-- A change of the radar keeps the turns, or starts them, or ends them. -/
theorem Turns.update {s : RadarAnimation} (h : Turns s) (radar : WeatherRadarOverlay) : Turns (s.update radar) := by
  unfold RadarAnimation.update
  split
  · rename_i hrunning
    split
    · rename_i a ha
      obtain ⟨t, ht⟩ := h.turn a ha
      exact Turns.of_loops (by simp [ha, hrunning]) ha ht
    · exact Turns.of_loops (by simp [hrunning]) rfl (Anim.loops_start (by rw [duration_pass]; decide) s.opacity)
  · rename_i hrunning
    exact ⟨h.shares, by simp [hrunning], by simp⟩

/-- Time that passes keeps the turns. -/
theorem Turns.advance {s : RadarAnimation} (h : Turns s) (ms : ℕ) : Turns (s.advance ms) := by
  unfold RadarAnimation.advance
  split
  · exact h
  · rename_i a ha
    obtain ⟨t, ht⟩ := h.turn a ha
    exact Turns.of_loops (by simpa [ha] using h.runs) rfl (Anim.loops_loop proper_pass ht ms)

/-- Every event keeps the turns. -/
theorem Turns.step {s : RadarAnimation} (h : Turns s) (e : Event) : Turns (s.step e) := by
  cases e with
  | changed i => exact h.update _
  | response i r => exact h.update _
  | frame ms => exact h.advance ms

/-! ## What the radar shows -/

/-- Once there are data, a layer that is not transparent has a frame. -/
def Shows (s : RadarAnimation) : Prop := s.radar.dataLoaded = true → ∃ layer, 0 < s.opacity layer ∧ (s.frameOf layer).isSome

/-- An answer with a single frame comes while the layer of that frame is not transparent. -/
def Visible (s : RadarAnimation) (e : Event) : Prop :=
  ∀ i host frame, e = .response i (.manifest (some host) [frame]) → 0 < s.opacity .opacityA

/-- A single frame is shown. -/
structure Lit (s : RadarAnimation) : Prop where
  turns : Turns s
  loaded : s.radar.dataLoaded = true → s.radar.frames ≠ []
  single : s.radar.frames.length = 1 → 0 < s.opacity .opacityA

variable {s : RadarAnimation}

/-- The animation does not change the radar. -/
theorem radar_update (s : RadarAnimation) (radar : WeatherRadarOverlay) : (s.update radar).radar = radar := by
  unfold RadarAnimation.update
  split
  · split <;> rfl
  · rfl

/-- The opacities change with the data only where the animation starts. -/
theorem opacity_update {radar : WeatherRadarOverlay} (h : running radar = false ∨ s.frameAnim.isSome) :
    (s.update radar).opacity = s.opacity := by
  unfold RadarAnimation.update
  split
  · rename_i hrunning
    rcases h with hstopped | hsome
    · rw [hrunning] at hstopped
      cases hstopped
    · obtain ⟨a, ha⟩ := Option.isSome_iff_exists.1 hsome
      rw [ha]
  · rfl

/-- With one frame at most nothing is animated. -/
theorem running_of_length_le {radar : WeatherRadarOverlay} (h : radar.frames.length ≤ 1) : running radar = false := by
  have hless : ¬2 ≤ radar.frames.length := by omega
  simp [running, hless]

/-- A rebuild of the lists leaves the frames. -/
theorem frames_rebuild (r : WeatherRadarOverlay) (i : RadarInputs) :
    (r.rebuildBothTileLists i).frames = r.frames ∧ (r.rebuildBothTileLists i).dataLoaded = r.dataLoaded := by
  unfold WeatherRadarOverlay.rebuildBothTileLists
  split <;> exact ⟨rfl, rfl⟩

/-- A change of the geometry leaves the frames. -/
theorem frames_onChanged (r : WeatherRadarOverlay) (i : RadarInputs) :
    (r.onChanged i).frames = r.frames ∧ (r.onChanged i).dataLoaded = r.dataLoaded := by
  unfold WeatherRadarOverlay.onChanged
  split
  · exact frames_rebuild r i
  · exact ⟨rfl, rfl⟩

/-- An answer with frames brings its last two. -/
theorem frames_manifest (r : WeatherRadarOverlay) (i : RadarInputs) (host : String) {past : List RadarFrame} (h : past ≠ []) :
    (r.onResponse i (.manifest (some host) past)).frames = past.drop (past.length - 2) ∧
      (r.onResponse i (.manifest (some host) past)).dataLoaded = true := by
  cases past with
  | nil => exact absurd rfl h
  | cons frame past => exact frames_rebuild _ i

/-- An answer brings its last two frames, or leaves those that there are. -/
theorem frames_onResponse (r : WeatherRadarOverlay) (i : RadarInputs) (response : RadarResponse) :
    ((∃ host past, response = .manifest (some host) past ∧ past ≠ []) ∨
      (r.onResponse i response).frames = r.frames ∧ (r.onResponse i response).dataLoaded = r.dataLoaded) := by
  cases response with
  | failed => exact Or.inr ⟨rfl, rfl⟩
  | manifest host past =>
    cases host with
    | none => exact Or.inr ⟨rfl, rfl⟩
    | some host =>
      cases past with
      | nil => exact Or.inr ⟨rfl, rfl⟩
      | cons frame past => exact Or.inl ⟨host, frame :: past, rfl, List.cons_ne_nil _ _⟩

/-- Where a single frame is shown, something is. -/
theorem Lit.shows (h : Lit s) : Shows s := by
  intro hloaded
  have hne := List.length_pos_of_ne_nil (h.loaded hloaded)
  by_cases hone : s.radar.frames.length = 1
  · exact ⟨.opacityA, h.single hone, by simp [frameOf, hne]⟩
  · have htwo : 1 < s.radar.frames.length := by omega
    obtain ⟨older, hzero, -, hshown⟩ := h.turns.shares
    rcases hzero.eq_or_lt with rfl | hpos
    · exact ⟨.opacityB, by rw [hshown, shared]; norm_num, by simp [frameOf, htwo]⟩
    · exact ⟨.opacityA, by rw [hshown, shared]; linarith, by simp [frameOf, hne]⟩

/-- The frames stay, or two of them come. -/
theorem Lit.update (h : Lit s) {radar : WeatherRadarOverlay} (hloaded : radar.dataLoaded = true → radar.frames ≠ [])
    (hsingle : radar.frames.length = 1 → 0 < s.opacity .opacityA) : Lit (s.update radar) where
  turns := h.turns.update radar
  loaded := by
    rw [radar_update]
    exact hloaded
  single := by
    intro hone
    rw [radar_update] at hone
    rw [opacity_update (Or.inl (running_of_length_le hone.le))]
    exact hsingle hone

/-- Time that passes keeps a single frame shown. -/
theorem Lit.advance (h : Lit s) (ms : ℕ) : Lit (s.advance ms) := by
  have hturns := h.turns.advance ms
  unfold RadarAnimation.advance at hturns ⊢
  split at hturns
  · exact h
  · rename_i a ha
    refine ⟨hturns, h.loaded, fun hone => ?_⟩
    have hruns := h.turns.runs
    rw [running_of_length_le (Nat.le_of_eq hone), ha] at hruns
    cases hruns

/-- An answer that comes while the older layer is visible keeps a single frame shown. -/
theorem Lit.step (h : Lit s) {e : Event} (he : Visible s e) : Lit (s.step e) := by
  cases e with
  | changed i =>
    obtain ⟨hframes, hloaded⟩ := frames_onChanged s.radar i
    exact h.update (by rw [hframes, hloaded]; exact h.loaded) (by rw [hframes]; exact h.single)
  | response i r =>
    rcases frames_onResponse s.radar i r with ⟨host, past, rfl, hne⟩ | ⟨hframes, hloaded⟩
    · have hpos := List.length_pos_of_ne_nil hne
      obtain ⟨hframes, -⟩ := frames_manifest s.radar i host hne
      refine h.update (fun _ => ?_) fun hone => ?_
      · rw [hframes]
        exact fun hnil => absurd (List.drop_eq_nil_iff.1 hnil) (by omega)
      · rw [hframes, List.length_drop] at hone
        obtain ⟨frame, rfl⟩ := List.length_eq_one_iff.1 (show past.length = 1 by omega)
        exact he i host frame rfl
    · exact h.update (by rw [hframes, hloaded]; exact h.loaded) (by rw [hframes]; exact h.single)
  | frame ms => exact h.advance ms

/-- The single frame is on a layer that is transparent, and nothing is on the other. -/
theorem not_shows_step {e : Event} (h : ¬Visible s e) : ¬Shows (s.step e) := by
  simp only [Visible, not_forall, not_lt] at h
  obtain ⟨i, host, frame, rfl, hhidden⟩ := h
  obtain ⟨hframes, hloaded⟩ := frames_rebuild { s.radar with radarHost := host, frames := [frame], dataLoaded := true } i
  intro hshows
  set radar := s.radar.onResponse i (.manifest (some host) [frame]) with hradar
  have hstep : s.step (.response i (.manifest (some host) [frame])) = s.update radar := rfl
  have hone : radar.frames.length = 1 := congrArg List.length hframes
  rw [hstep] at hshows
  obtain ⟨layer, hopaque, hframe⟩ := hshows (by rw [radar_update]; exact hloaded)
  rw [opacity_update (Or.inl (running_of_length_le hone.le))] at hopaque
  cases layer with
  | opacityA => exact absurd hopaque (not_lt.2 hhidden)
  | opacityB =>
    rw [frameOf, radar_update, List.getElem?_eq_none hone.le] at hframe
    cases hframe

/-- Over every run of the overlay, with changes of the background and of the size, answers of any kind and frames of any
length: once there are data the radar shows a frame at every moment, if and only if every answer with a single frame comes
while the layer of that frame is not transparent. -/
theorem radar_shows_iff (es : List Event) : Always step Shows {} es ↔ EveryStep step Visible {} es := by
  refine always_iff_everyStep (fun _ => True) Lit (fun s h => h.shows) (fun s e _ h he => h.step he)
    (fun s e _ _ he => not_shows_step he) (fun _ _ => trivial) ?_
  exact ⟨turns_create, fun hloaded => absurd hloaded (by simp), fun hone => absurd hone (by simp)⟩

/-! ## The turns -/

/-- The time that goes by. -/
def Event.ms : Event → ℕ
  | .frame ms => ms
  | _ => 0

/-- An event that is no answer with a single frame. -/
def Event.KeepsTurns (e : Event) : Prop := ∀ i host frame, e ≠ .response i (.manifest (some host) [frame])

/-- The animation has run for a time. -/
def Running (t : ℕ) (s : RadarAnimation) : Prop :=
  running s.radar = true ∧ ∃ a, s.frameAnim = some a ∧ Anim.Loops pass (t % 2400) a s.opacity

/-- A radar that still has two frames keeps its animation going. -/
theorem Running.update {t : ℕ} (h : Running t s) {radar : WeatherRadarOverlay} (hrunning : running radar = true) :
    Running t (s.update radar) := by
  obtain ⟨-, a, ha, hloops⟩ := h
  have hupdate : s.update radar = { s with radar := radar } := by
    rw [RadarAnimation.update, if_pos hrunning, ha]
  rw [hupdate]
  exact ⟨hrunning, a, ha, hloops⟩

/-- Whether it runs depends on the frames only. -/
theorem running_of_eq {r r' : WeatherRadarOverlay} (h : r'.frames = r.frames ∧ r'.dataLoaded = r.dataLoaded) :
    running r' = running r := by
  rw [running, running, h.1, h.2]

/-- An answer with two frames or more animates them. -/
theorem running_manifest (r : WeatherRadarOverlay) (i : RadarInputs) (host : String) {past : List RadarFrame}
    (h : 2 ≤ past.length) : running (r.onResponse i (.manifest (some host) past)) = true := by
  obtain ⟨hframes, hloaded⟩ := frames_manifest r i host (List.ne_nil_of_length_pos (Nat.zero_lt_of_lt h))
  have hlength : 2 ≤ (past.drop (past.length - 2)).length := by
    rw [List.length_drop]
    omega
  rw [running, hframes, hloaded, decide_eq_true hlength]
  rfl

/-- An event that keeps the turns lets the animation go on. -/
theorem Running.step {t : ℕ} (h : Running t s) {e : Event} (he : e.KeepsTurns) : Running (t + e.ms) (s.step e) := by
  cases e with
  | changed i => exact h.update ((running_of_eq (frames_onChanged s.radar i)).trans h.1)
  | response i r =>
    rcases frames_onResponse s.radar i r with ⟨host, past, rfl, hne⟩ | hsame
    · have hpos := List.length_pos_of_ne_nil hne
      have hother : past.length ≠ 1 := by
        intro hone
        obtain ⟨frame, rfl⟩ := List.length_eq_one_iff.1 hone
        exact he i host frame rfl
      exact h.update (running_manifest s.radar i host (by omega))
    · exact h.update ((running_of_eq hsame).trans h.1)
  | frame ms =>
    obtain ⟨hrunning, a, ha, hloops⟩ := h
    have hadvance : s.step (.frame ms) =
        { s with opacity := (Anim.loop pass ms a s.opacity).2, frameAnim := some (Anim.loop pass ms a s.opacity).1 } := by
      rw [RadarAnimation.step, RadarAnimation.advance, ha]
    rw [hadvance]
    refine ⟨hrunning, _, rfl, ?_⟩
    have hnext := Anim.loops_loop proper_pass hloops ms
    rwa [duration_pass, Nat.mod_add_mod] at hnext

/-- From when two frames come, for as long as no answer has a single frame: the time since then says how much of each
layer is shown, whatever else changes and however the time is cut into frames. -/
theorem radar_cycles (pre es : List Event) (i : RadarInputs) (host : String) (past : List RadarFrame)
    (hstopped : (run step {} pre).frameAnim = none) (hpast : 2 ≤ past.length) (hes : ∀ e ∈ es, e.KeepsTurns) :
    (run step {} (pre ++ .response i (.manifest (some host) past) :: es)).opacity =
      shared (olderShare ((es.map Event.ms).sum % 2400)) := by
  set started := (run step {} pre).step (.response i (.manifest (some host) past)) with hstarted
  have hrunning := running_manifest (run step {} pre).radar i host hpast
  have hstart : Running 0 started := by
    rw [hstarted, RadarAnimation.step, RadarAnimation.update, if_pos hrunning, hstopped]
    exact ⟨hrunning, _, rfl, Anim.loops_start (by rw [duration_pass]; decide) _⟩
  have hend := run_clock Event.ms Running (P := fun _ e => e.KeepsTurns) (fun t s e h he => h.step he) hstart
    ((everyStep_iff_forall _ _).2 hes)
  obtain ⟨-, a, -, hloops⟩ := hend
  rw [run_append, run_cons, ← hstarted, (shares_of_loops hloops).2, Nat.zero_add]

/-- Six tenths of a second after two frames have come, the layers are half way between them. -/
theorem radar_cycles_halfway :
    let i : RadarInputs := ⟨none, none, 1, 1⟩
    (run step {} [.response i .failed, .response i (.manifest (some "host") [⟨"/older"⟩, ⟨"/latest"⟩]), .frame 550, .changed i,
      .frame 50]).opacity = shared (1 / 2) := by
  intro i
  have hshown := radar_cycles [.response i .failed] [.frame 550, .changed i, .frame 50] i "host" [⟨"/older"⟩, ⟨"/latest"⟩] rfl
    (Nat.le_refl 2) fun e he => by
      rcases List.mem_cons.1 he with rfl | he
      · exact fun _ _ _ => Event.noConfusion
      rcases List.mem_cons.1 he with rfl | he
      · exact fun _ _ _ => Event.noConfusion
      · obtain rfl := List.mem_singleton.1 he
        exact fun _ _ _ => Event.noConfusion
  refine hshown.trans (congrArg shared ?_)
  norm_num [olderShare, Event.ms]

end RadarAnimation

end PairionClient
