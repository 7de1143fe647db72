import PairionClient.Lib.Animation
import PairionClient.Theorems.Headings

/-!
# Where aircraft are shown

An aircraft that is shown is on the way from where it was shown to where it was reported, in latitude and longitude as they
are reported: the longitudes are numbers from -180 to 180, without the wrap at the antimeridian, so between reports on its two
sides an aircraft is shown on the far side of the map. It never leaves a region of such latitudes and longitudes that holds
every report, and after the time of the animation it is where it was reported.
-/

namespace PairionClient

open Animation Transition ShortWay

/-- A range of latitudes and one of longitudes, as they are reported: a range across the antimeridian is not one of these.
-/
structure Region where
  lats : Set ℚ
  lons : Set ℚ
  ordConnected_lats : lats.OrdConnected
  ordConnected_lons : lons.OrdConnected

namespace Region

variable (r : Region)

def Holds (lat lon : ℚ) : Prop := lat ∈ r.lats ∧ lon ∈ r.lons

end Region

namespace Aircraft

/-- On the way between two places of a region. -/
theorem holds_animated {r : Region} {f : ℚ} (hf : 0 ≤ f ∧ f ≤ 1) {cur : Aircraft} (hcur : r.Holds cur.lat cur.lon)
    {prv : Option Position} (hprv : ∀ p ∈ prv, r.Holds p.lat p.lon) :
    r.Holds (cur.animated f prv).lat (cur.animated f prv).lon := by
  cases prv with
  | none => exact hcur
  | some prv =>
    obtain ⟨hlat, hlon⟩ := hprv prv rfl
    exact ⟨Anim.mem_of_ease r.ordConnected_lats hlat hcur.1 hf, Anim.mem_of_ease r.ordConnected_lons hlon hcur.2 hf⟩

end Aircraft

namespace AdsbOverlay

variable {s : AdsbOverlay} {r : Region}

/-- Every report of an event lies in the region. -/
def ReportsIn (r : Region) : Event → Prop
  | .sceneData raw => ∀ ac, some ac ∈ raw → r.Holds ac.lat ac.lon
  | _ => True

/-- What is shown, what it is on the way to, and where it has started. -/
structure Within (r : Region) (s : AdsbOverlay) : Prop where
  inv : Inv s
  listed : ∀ ac ∈ s.aircraftList, r.Holds ac.lat ac.lon
  animated : ∀ a ∈ s.animatedList, r.Holds a.lat a.lon
  started : ∀ id, ∀ p ∈ s.prevByIcao.lookup id, r.Holds p.lat p.lon
  fraction : 0 ≤ s.animFraction ∧ s.animFraction ≤ 1

/-- What is kept of a report was in it. -/
theorem mem_of_mem_deduplicate {raw : List (Option Aircraft)} {ac : Aircraft} (h : ac ∈ deduplicate raw) : some ac ∈ raw := by
  have hsub := List.foldlRecOn raw seeAircraft (b := (([], []) : List String × List Aircraft))
    (motive := fun acc : List String × List Aircraft => ∀ ac ∈ acc.2, some ac ∈ raw)
    (fun _ hnil => absurd hnil List.not_mem_nil) ?_
  · exact hsub ac h
  · intro acc hacc seen hseen ac hac
    cases seen with
    | none => exact hacc ac hac
    | some new =>
      rw [seeAircraft] at hac
      split at hac
      · rcases List.mem_append.1 hac with hold | hnew
        · exact hacc ac hold
        · rw [List.mem_singleton.1 hnew]
          exact hseen
      · exact hacc ac hac

/-- What is found in a map made of a list of aircraft is in the list. -/
theorem mem_of_lookup {acs : List Aircraft} {id : String} {a : Aircraft}
    (h : (acs.map fun a => (a.icao24, a)).lookup id = some a) : a ∈ acs := by
  induction acs with
  | nil => cases h
  | cons first acs ih =>
    rw [List.map_cons, List.lookup_cons] at h
    cases hid : id == first.icao24 with
    | true =>
      rw [hid] at h
      exact Option.some.inj h ▸ List.mem_cons_self
    | false =>
      rw [hid] at h
      exact List.mem_cons_of_mem _ (ih h)

/-- A report within the region keeps everything within it. -/
theorem Within.sceneData (h : Within r s) {raw : List (Option Aircraft)} (hraw : ReportsIn r (.sceneData raw)) :
    Within r (s.step (.sceneData raw)) where
  inv := h.inv.sceneData raw
  listed := fun ac hac => hraw ac (mem_of_mem_deduplicate hac)
  animated := h.animated
  started := by
    intro id p hp
    rw [h.inv.prevByIcao raw id, Option.mem_def, Option.map_eq_some_iff] at hp
    obtain ⟨a, ha, rfl⟩ := hp
    rw [h.inv.animated] at ha
    exact h.animated a (mem_of_lookup ha)
  fraction := ⟨le_rfl, zero_le_one⟩

/-- A render tick moves nothing out of the region. -/
theorem Within.render (h : Within r s) : Within r s.rebuildAnimatedList where
  inv := h.inv.render
  listed := h.listed
  animated := by
    intro a ha
    obtain ⟨id, -, hanimated⟩ := List.mem_filterMap.1 ha
    obtain ⟨cur, hcur, rfl⟩ := Option.map_eq_some_iff.1 hanimated
    rw [h.inv.current] at hcur
    exact Aircraft.holds_animated h.fraction (h.listed cur (mem_of_lookup hcur)) (h.started id)
  started := h.started
  fraction := h.fraction

/-- Every event whose reports lie in the region keeps everything within it. -/
theorem Within.step (h : Within r s) {e : Event} (he : ReportsIn r e) : Within r (s.step e) := by
  cases e with
  | sceneData raw => exact h.sceneData he
  | animate fraction => exact ⟨h.inv.step (.animate fraction), h.listed, h.animated, h.started, fraction.2⟩
  | render => exact h.render

/-- An aircraft that is shown is one that was animated, or as it was reported. -/
theorem Within.animPos (h : Within r s) {ac : Aircraft} (hac : ac ∈ s.aircraftList) :
    r.Holds (s.animPos ac).lat (s.animPos ac).lon := by
  rw [AdsbOverlay.animPos]
  cases hlookup : s.animatedByIcao.lookup ac.icao24 with
  | none => exact h.listed ac hac
  | some a =>
    rw [h.inv.animated] at hlookup
    exact h.animated a (mem_of_lookup hlookup)

end AdsbOverlay

end PairionClient
