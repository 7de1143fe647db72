import Mathlib.Data.List.Nodup
import PairionClient.Lib.Run
import PairionClient.Lib.ShortWay
import PairionClient.Overlays.AdsbOverlay

/-!
# Headings

A segment starts at the heading that was animated last, which is never brought back into a single turn, and its sweep is
corrected by one turn. After some turns the same way the start is more than one and a half turns from the new heading.
-/

namespace PairionClient

open Transition ShortWay

/-! ## Aircraft told apart by their ids -/

/-- Deduplication keeps the ids that it has seen, and lists each once. -/
theorem seen_seeAircraft (acc : List String × List Aircraft) (ac : Option Aircraft) (h : acc.1 = (acc.2.map (·.icao24)).reverse)
    (hnodup : (acc.2.map (·.icao24)).Nodup) :
    (seeAircraft acc ac).1 = ((seeAircraft acc ac).2.map (·.icao24)).reverse ∧
      ((seeAircraft acc ac).2.map (·.icao24)).Nodup := by
  cases ac with
  | none => exact ⟨h, hnodup⟩
  | some ac =>
    rw [seeAircraft]
    split
    · rename_i hkept
      have hnew : ac.icao24 ∉ acc.2.map (·.icao24) := by
        intro hmem
        rw [h, List.mem_reverse] at hkept
        exact hkept.2.2 hmem
      refine ⟨?_, ?_⟩
      · simp [h]
      · rw [List.map_append]
        exact List.Nodup.append hnodup (List.nodup_singleton _) (by simpa using hnew)
    · exact ⟨h, hnodup⟩

/-- Each id is kept once. -/
theorem nodup_deduplicate (raw : List (Option Aircraft)) : ((deduplicate raw).map (·.icao24)).Nodup := by
  have h := List.foldlRecOn raw seeAircraft (b := (([], []) : List String × List Aircraft))
    (motive := fun acc : List String × List Aircraft =>
      acc.1 = (acc.2.map (·.icao24)).reverse ∧ (acc.2.map (·.icao24)).Nodup)
    ⟨rfl, List.nodup_nil⟩ fun acc hacc ac _ => seen_seeAircraft acc ac hacc.1 hacc.2
  exact h.2

/-- The entry of an aircraft in a map made of a list of them. -/
theorem lookup_map {β : Type} {f : Aircraft → β} {acs : List Aircraft} (hnodup : (acs.map (·.icao24)).Nodup) {ac : Aircraft}
    (h : ac ∈ acs) : (acs.map fun ac => (ac.icao24, f ac)).lookup ac.icao24 = some (f ac) := by
  induction acs with
  | nil => exact absurd h List.not_mem_nil
  | cons first acs ih =>
    rw [List.map_cons, List.nodup_cons] at hnodup
    rw [List.map_cons, List.lookup_cons]
    rcases List.mem_cons.1 h with rfl | htail
    · simp
    · have hne : ac.icao24 ≠ first.icao24 := by
        intro heq
        exact hnodup.1 (heq ▸ List.mem_map_of_mem htail)
      rw [beq_eq_false_iff_ne.2 hne]
      exact ih hnodup.2 htail

@[simp] theorem Aircraft.icao24_animated (f : ℚ) (cur : Aircraft) (prv : Option Position) :
    (cur.animated f prv).icao24 = cur.icao24 := by
  cases prv <;> rfl

/-- The heading on a segment. -/
theorem Aircraft.trackDeg_animated (f : ℚ) (cur : Aircraft) (prv : Position) :
    (cur.animated f (some prv)).trackDeg = prv.trackDeg + shortWay 360 (cur.trackDeg - prv.trackDeg) * f := by
  have hhalf : (360 : ℚ) / 2 = 180 := by norm_num
  simp only [Aircraft.animated, shortWay, hhalf, gt_iff_lt]

namespace AdsbOverlay

/-! ## The maps -/

structure Inv (s : AdsbOverlay) : Prop where
  listed : (s.aircraftList.map (·.icao24)).Nodup
  current : s.curByIcao = s.aircraftList.map fun ac => (ac.icao24, ac)
  nodup : (s.animatedList.map (·.icao24)).Nodup
  animated : s.animatedByIcao = s.animatedList.map fun a => (a.icao24, a)

variable {s : AdsbOverlay}

/-- An object made from a list of aircraft with distinct ids has their entries in order. -/
theorem foldl_set_eq_map {β : Type} {f : Aircraft → β} {acs : List Aircraft} (hnodup : (acs.map (·.icao24)).Nodup) :
    acs.foldl (fun o ac => JsObject.set ac.icao24 (f ac) o) [] = acs.map fun ac => (ac.icao24, f ac) :=
  (JsObject.foldl_set_eq _ f acs [] hnodup).trans (List.nil_append _)

/-- A report keeps the maps those of the list. -/
theorem Inv.sceneData (h : Inv s) (raw : List (Option Aircraft)) : Inv (s.step (.sceneData raw)) where
  listed := nodup_deduplicate raw
  current := foldl_set_eq_map (nodup_deduplicate raw)
  nodup := h.nodup
  animated := h.animated

/-- The starts of the segments after new data are the aircraft animated last. -/
theorem Inv.prevByIcao (h : Inv s) (raw : List (Option Aircraft)) (id : String) :
    (s.step (.sceneData raw)).prevByIcao.lookup id =
      (s.animatedByIcao.lookup id).map fun a => ⟨a.lat, a.lon, a.trackDeg⟩ := by
  have hprev : (s.step (.sceneData raw)).prevByIcao = s.animatedByIcao.map fun p => (p.1, ⟨p.2.lat, p.2.lon, p.2.trackDeg⟩) := by
    rw [h.animated, List.map_map]
    exact foldl_set_eq_map h.nodup
  rw [hprev]
  generalize s.animatedByIcao = o
  induction o with
  | nil => rfl
  | cons p o ih =>
    rw [List.map_cons, List.lookup_cons, List.lookup_cons]
    cases id == p.1 with
    | false => exact ih
    | true => rfl

/-- Each key of the current map is an aircraft of the list. -/
theorem Inv.exists_of_key (h : Inv s) {id : String} (hid : id ∈ s.curByIcao.keys) :
    ∃ cur ∈ s.aircraftList, cur.icao24 = id := by
  have hmem := (JsObject.keys_perm s.curByIcao).mem_iff.1 hid
  rw [h.current, List.map_map] at hmem
  exact List.mem_map.1 hmem

/-- Each aircraft of the list is found under its id. -/
theorem Inv.lookup_current (h : Inv s) {cur : Aircraft} (hcur : cur ∈ s.aircraftList) :
    s.curByIcao.lookup cur.icao24 = some cur := by
  rw [h.current]
  exact lookup_map (f := id) h.listed hcur

/-- A render tick animates each aircraft once. -/
theorem Inv.ids_render (h : Inv s) : s.rebuildAnimatedList.animatedList.map (·.icao24) = s.curByIcao.keys := by
  have hids : ∀ ids : List String, (∀ id ∈ ids, id ∈ s.curByIcao.keys) →
      (ids.filterMap fun id => (s.curByIcao.lookup id).map fun cur =>
        cur.animated s.animFraction (s.prevByIcao.lookup id)).map (·.icao24) = ids := by
    intro ids
    induction ids with
    | nil => exact fun _ => rfl
    | cons id ids ih =>
      intro hkeys
      obtain ⟨cur, hcur, rfl⟩ := h.exists_of_key (hkeys id List.mem_cons_self)
      rw [List.filterMap_cons, h.lookup_current hcur]
      change (cur.animated _ _).icao24 :: List.map Aircraft.icao24 _ = _
      rw [ih fun id hid => hkeys id (List.mem_cons_of_mem _ hid), Aircraft.icao24_animated]
  exact hids _ fun _ hid => hid

/-- A render tick lists each aircraft once. -/
theorem Inv.nodup_render (h : Inv s) : (s.rebuildAnimatedList.animatedList.map (·.icao24)).Nodup := by
  rw [h.ids_render, (JsObject.keys_perm s.curByIcao).nodup_iff, h.current, List.map_map]
  exact h.listed

/-- A render tick keeps the invariant. -/
theorem Inv.render (h : Inv s) : Inv s.rebuildAnimatedList where
  listed := h.listed
  current := h.current
  nodup := h.nodup_render
  animated := foldl_set_eq_map h.nodup_render

/-- The heading of an aircraft at a fraction of its segment. -/
def segment (s : AdsbOverlay) (cur : Aircraft) (f : ℚ) : ℚ :=
  (cur.animated f (s.prevByIcao.lookup cur.icao24)).trackDeg

/-- Every event keeps the invariant. -/
theorem Inv.step (h : Inv s) (e : Event) : Inv (s.step e) := by
  cases e with
  | sceneData raw => exact h.sceneData raw
  | animate fraction => exact ⟨h.listed, h.current, h.nodup, h.animated⟩
  | render => exact h.render

/-- A new overlay has no aircraft. -/
theorem inv_create : Inv {} := ⟨List.nodup_nil, rfl, List.nodup_nil, rfl⟩

/-! ## Segments -/

/-- A segment starts at the heading that was shown, ends at the heading reported, and sweeps at most half a turn. -/
structure ShortestArc (segment : ℚ → ℚ) (shown reported : ℚ) : Prop where
  starts : segment 0 = shown
  ends : AddCommGroup.ModEq 360 (segment 1) reported
  sweep : |segment 1 - segment 0| ≤ 180

/-- Whatever comes, the aircraft that are shown and are in the new data take the shortest arc. -/
def TakesShortestArcs (s : AdsbOverlay) : Event → Prop
  | .sceneData raw => ∀ ac ∈ s.aircraftList, ∀ cur ∈ deduplicate raw, cur.icao24 = ac.icao24 →
      ShortestArc ((s.step (.sceneData raw)).segment cur) (s.rotation ac) cur.trackDeg
  | _ => True

/-- The new heading of an aircraft that was animated is at most one and a half turns from the heading shown; one that was
not animated yet keeps its heading. -/
def Near (s : AdsbOverlay) : Event → Prop
  | .sceneData raw => ∀ ac ∈ s.aircraftList, ∀ cur ∈ deduplicate raw, cur.icao24 = ac.icao24 →
      if (s.animatedByIcao.lookup ac.icao24).isSome then |cur.trackDeg - s.rotation ac| ≤ 540
      else cur.trackDeg = ac.trackDeg
  | _ => True

/-- A turn is the shortest if the headings differ by at most 540 degrees, as one correction suffices then. -/
theorem shortestArc_some_iff (cur : Aircraft) (prv : Position) :
    ShortestArc (fun f => (cur.animated f (some prv)).trackDeg) prv.trackDeg cur.trackDeg ↔
      |cur.trackDeg - prv.trackDeg| ≤ 540 := by
  have hhalf : (3 : ℚ) * 360 / 2 = 540 ∧ (360 : ℚ) / 2 = 180 := by norm_num
  have hsweep : prv.trackDeg + shortWay 360 (cur.trackDeg - prv.trackDeg) * 1 -
      (prv.trackDeg + shortWay 360 (cur.trackDeg - prv.trackDeg) * 0) = shortWay 360 (cur.trackDeg - prv.trackDeg) := by
    ring
  have hiff := abs_shortWay_le_iff (w := (360 : ℚ)) (d := cur.trackDeg - prv.trackDeg) (by norm_num)
  rw [hhalf.1, hhalf.2] at hiff
  rw [← hiff]
  constructor
  · intro h
    have hle := h.sweep
    rwa [Aircraft.trackDeg_animated, Aircraft.trackDeg_animated, hsweep] at hle
  · intro h
    refine ⟨?_, ?_, ?_⟩
    · rw [Aircraft.trackDeg_animated, mul_zero, add_zero]
    · rw [Aircraft.trackDeg_animated, mul_one]
      have hmod := (shortWay_modEq 360 (cur.trackDeg - prv.trackDeg)).add_left prv.trackDeg
      rwa [add_sub_cancel] at hmod
    · rwa [Aircraft.trackDeg_animated, Aircraft.trackDeg_animated, hsweep]

/-- Without an earlier position the heading is shown at once. -/
theorem shortestArc_none_iff (cur : Aircraft) (shown : ℚ) :
    ShortestArc (fun f => (cur.animated f none).trackDeg) shown cur.trackDeg ↔ cur.trackDeg = shown := by
  constructor
  · exact fun h => h.starts
  · rintro rfl
    refine ⟨rfl, AddCommGroup.modEq_refl _, ?_⟩
    change |cur.trackDeg - cur.trackDeg| ≤ 180
    rw [sub_self, abs_zero]
    norm_num

/-- A step takes the shortest arcs exactly when its headings are near each other. -/
theorem Inv.takesShortestArcs_iff (h : Inv s) (e : Event) : TakesShortestArcs s e ↔ Near s e := by
  cases e with
  | animate fraction => exact Iff.rfl
  | render => exact Iff.rfl
  | sceneData raw =>
    refine forall₂_congr fun ac _ => forall₃_congr fun cur _ hid => ?_
    have hsegment : (s.step (.sceneData raw)).segment cur = fun f =>
        (cur.animated f ((s.animatedByIcao.lookup ac.icao24).map fun a => ⟨a.lat, a.lon, a.trackDeg⟩)).trackDeg := by
      funext f
      rw [segment, hid, h.prevByIcao raw]
    rw [hsegment, rotation, animPos]
    cases hlookup : s.animatedByIcao.lookup ac.icao24 with
    | none => exact shortestArc_none_iff cur ac.trackDeg
    | some a => exact shortestArc_some_iff cur ⟨a.lat, a.lon, a.trackDeg⟩

/-- Over any data, received at any fraction of the animation and any number of render ticks after the last: each aircraft
that is shown and is in the new data takes the shortest arc from the heading shown to the one reported, if and only if
each heading reported is near the one shown. -/
theorem shortest_arcs_iff (es : List Event) :
    EveryStep AdsbOverlay.step TakesShortestArcs {} es ↔ EveryStep AdsbOverlay.step Near {} es :=
  everyStep_congr_of_inv Inv (fun _ e h _ => h.step e) (fun _ e h => h.takesShortestArcs_iff e) inv_create

/-- The animation at its end. -/
def atEnd : Set.Icc (0 : ℚ) 1 := ⟨1, by norm_num⟩

/-- Four turns to the right, each of 110 degrees and shown to its end, and then one more: from 680 degrees to 430. -/
theorem shortest_arcs_false :
    let poll (heading : ℚ) : List Event :=
      [.sceneData [some { icao24 := "a1b2c3", trackDeg := heading }], .animate atEnd, .render]
    ¬EveryStep AdsbOverlay.step TakesShortestArcs {} ([350, 100, 210, 320, 70].flatMap poll) := by
  intro poll h
  set s := run AdsbOverlay.step {} ([350, 100, 210, 320].flatMap poll) with hs
  have hlast : TakesShortestArcs s (.sceneData [some { icao24 := "a1b2c3", trackDeg := 70 }]) :=
    h.2.2.2.2.2.2.2.2.2.2.2.2.1
  have hshown : { icao24 := "a1b2c3", trackDeg := 320 } ∈ s.aircraftList := by decide +kernel
  have hnew : { icao24 := "a1b2c3", trackDeg := 70 } ∈ deduplicate [some { icao24 := "a1b2c3", trackDeg := 70 }] := by
    decide +kernel
  have hsweep := (hlast _ hshown _ hnew rfl).sweep
  revert hsweep
  decide +kernel

end AdsbOverlay

end PairionClient
