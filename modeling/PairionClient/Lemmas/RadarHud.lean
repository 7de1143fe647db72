import PairionClient.Hud.RadarHud
import PairionClient.Lemmas.Slots

/-!
# Lemmas on the radar

The lists are a cache of what `_buildTileList` computes. A handler brings them up to date; without one they stay up to date where
nothing that the function reads has changed.
-/

namespace PairionClient

/-! ## What the function reads -/

/-- On a background of one component, two sets of parameters are read alike. -/
structure ReadAlike (backgroundId : String) (p p' : MapParams ℝ) : Prop where
  lat : orDefault p.centerLat WeatherRadarOverlay.fallbackLat = orDefault p'.centerLat WeatherRadarOverlay.fallbackLat
  lon : orDefault p.centerLon WeatherRadarOverlay.fallbackLon = orDefault p'.centerLon WeatherRadarOverlay.fallbackLon
  zoom : toPascalCase backgroundId = "Osm" → ⌊orDefault p.zoom 10⌋ = ⌊orDefault p'.zoom 10⌋

theorem readAlike_refl (backgroundId : String) (p : MapParams ℝ) : ReadAlike backgroundId p p := ⟨rfl, rfl, fun _ => rfl⟩

/-- The bridge to the background depends on what it reads of the parameters only. -/
theorem ReadAlike.bridge_eq {backgroundId : String} {p p' : MapParams ℝ} (h : ReadAlike backgroundId p p') (width height : ℝ) :
    bridge backgroundId p width height = bridge backgroundId p' width height := by
  have hlat : orDefault p.centerLat OsmBackground.defaultLat = orDefault p'.centerLat OsmBackground.defaultLat := h.lat
  have hlon : orDefault p.centerLon OsmBackground.defaultLon = orDefault p'.centerLon OsmBackground.defaultLon := h.lon
  unfold bridge
  split
  · rename_i hosm
    funext lat lon
    rw [OsmBackground.latLonToScreen, OsmBackground.latLonToScreen, h.zoom hosm, hlat, hlon]
  · rfl

/-- Two backgrounds that give the function the same centre and the same bridge. -/
structure Background.Alike (b b' : Background) : Prop where
  backgroundId : b.backgroundId = b'.backgroundId
  params : ReadAlike b.backgroundId (.ofJson b.backgroundParams) (.ofJson b'.backgroundParams)

/-- Backgrounds that read alike, under radar zooms that read alike, are covered by the same squares. -/
theorem squares_congr {b b' : Background} (h : b.Alike b') {zoom zoom' : Option ℝ}
    (hzoom : WeatherRadarOverlay.radarZoom zoom = WeatherRadarOverlay.radarZoom zoom') (width height : ℝ) (host path : String) :
    WeatherRadarOverlay.squares ⟨some (b.view width height), zoom, width, height⟩ host path =
      WeatherRadarOverlay.squares ⟨some (b'.view width height), zoom', width, height⟩ host path := by
  have hview : b'.view width height = ⟨.ofJson b'.backgroundParams, (b.view width height).latLonToScreen⟩ := by
    rw [Background.view, Background.view, ← h.backgroundId, ← h.params.bridge_eq]
  rw [hview]
  unfold WeatherRadarOverlay.squares
  dsimp only
  rw [← hzoom]
  have hlat := h.params.lat
  have hlon := h.params.lon
  rw [← hlat, ← hlon]
  rfl

/-! ## The lists as a cache -/

namespace WeatherRadarOverlay

variable {r : WeatherRadarOverlay} {i i' : RadarInputs}

/-- The list of a frame as it should be. -/
noncomputable def listOf (i : RadarInputs) (r : WeatherRadarOverlay) (k : Nat) : List RadarTile :=
  match r.frames[k]? with
  | none => []
  | some frame => buildTileList i r.radarHost frame.path

/-- Both lists are as they should be. -/
def Current (i : RadarInputs) (r : WeatherRadarOverlay) : Prop := r.tileListA = listOf i r 0 ∧ r.tileListB = listOf i r 1

/-- There are no frames before there are data, and no lists before there are frames. -/
structure Sound (r : WeatherRadarOverlay) : Prop where
  frames : r.dataLoaded = false → r.frames = []
  lists : r.frames = [] → r.tileListA = [] ∧ r.tileListB = []

/-- A new overlay has no frames and no lists. -/
theorem sound_create : Sound {} := ⟨fun _ => rfl, fun _ => ⟨rfl, rfl⟩⟩

theorem Sound.current_of_nil (h : Sound r) (hframes : r.frames = []) (i : RadarInputs) : Current i r := by
  obtain ⟨hA, hB⟩ := h.lists hframes
  rw [Current, hA, hB, listOf, listOf, hframes]
  exact ⟨rfl, rfl⟩

theorem Current.congr (h : Current i r) (hsame : buildTileList i = buildTileList i') : Current i' r := by
  unfold Current listOf at h ⊢
  rwa [hsame] at h

/-- After a rebuild the lists are current. -/
theorem Sound.rebuild (h : Sound r) (i : RadarInputs) :
    Sound (r.rebuildBothTileLists i) ∧ Current i (r.rebuildBothTileLists i) := by
  unfold rebuildBothTileLists
  split
  · rename_i hframes
    exact ⟨h, h.current_of_nil hframes i⟩
  · rename_i older rest hframes
    refine ⟨⟨h.frames, fun hnil => absurd (hframes.symm.trans hnil) (List.cons_ne_nil _ _)⟩, ?_, ?_⟩
    · rw [listOf, hframes]
      rfl
    · rw [listOf, hframes]
      cases rest <;> rfl

/-- A handler brings the lists up to date. -/
theorem Sound.onChanged (h : Sound r) (i : RadarInputs) : Sound (r.onChanged i) ∧ Current i (r.onChanged i) := by
  unfold WeatherRadarOverlay.onChanged
  split
  · exact h.rebuild i
  · rename_i hloaded
    exact ⟨h, h.current_of_nil (h.frames (Bool.eq_false_iff.2 hloaded)) i⟩

/-- An answer without frames, to an overlay that has data, names the host that it has. -/
def KeepsHost (r : WeatherRadarOverlay) (response : RadarResponse) : Prop :=
  ∀ host, response = .manifest (some host) [] → r.dataLoaded = true → host = r.radarHost

/-- An answer leaves the lists as they should be, unless it changes the host under frames that stay. -/
theorem Sound.onResponse (h : Sound r) (i : RadarInputs) (response : RadarResponse) :
    Sound (r.onResponse i response) ∧ (Current i r → r.KeepsHost response → Current i (r.onResponse i response)) := by
  cases response with
  | failed => exact ⟨h, fun hcurrent _ => hcurrent⟩
  | manifest host past =>
    cases host with
    | none => exact ⟨h, fun hcurrent _ => hcurrent⟩
    | some host =>
      cases past with
      | nil =>
        refine ⟨⟨h.frames, h.lists⟩, fun hcurrent hkeeps => ?_⟩
        change Current i { r with radarHost := host }
        by_cases hloaded : r.dataLoaded = true
        · have hsame : { r with radarHost := host } = r := by rw [hkeeps host rfl hloaded]
          rwa [hsame]
        · have hframes := h.frames (Bool.eq_false_iff.2 hloaded)
          exact Sound.current_of_nil (r := { r with radarHost := host }) ⟨h.frames, h.lists⟩ hframes i
      | cons frame past =>
        have hsome : (frame :: past).drop ((frame :: past).length - 2) ≠ [] := by
          intro hnil
          have hlength := List.drop_eq_nil_iff.1 hnil
          rw [List.length_cons] at hlength
          omega
        have hrebuilt := Sound.rebuild (r := { r with
          radarHost := host, frames := (frame :: past).drop ((frame :: past).length - 2), dataLoaded := true })
          ⟨fun hloaded => absurd hloaded (by simp), fun hnil => absurd hnil hsome⟩ i
        exact ⟨hrebuilt.1, fun _ _ => hrebuilt.2⟩

end WeatherRadarOverlay

/-! ## Objects -/

namespace LayerManager

variable {m m' : LayerManager}

/-- What an overlay reads of a background, and its number. -/
def card (b : Background) : Nat × String × QJsonObject := (b.serial, b.backgroundId, b.backgroundParams)

/-- What is found by a serial is the background in a slot that has it. -/
theorem Numbered.findBackground_iff (h : Numbered m) {serial : Nat} {b : Background} :
    m.findBackground serial = some b ↔ (∃ n, b ∈ (m.slots n).children) ∧ b.serial = serial := by
  have hnodup : (((m.slots .slotA).children ++ (m.slots .slotB).children).map (·.serial)).Nodup := by
    rw [List.map_append]
    refine List.nodup_append.2 ⟨h.nodup .slotA, h.nodup .slotB, fun x hx y hy heq => ?_⟩
    exact h.apart .slotA .slotB (by decide) x hx (heq ▸ hy)
  have hmem : (∃ n, b ∈ (m.slots n).children) ↔ b ∈ (m.slots .slotA).children ++ (m.slots .slotB).children := by
    rw [List.mem_append]
    constructor
    · rintro ⟨n, hb⟩
      cases n with
      | slotA => exact Or.inl hb
      | slotB => exact Or.inr hb
    · rintro (hb | hb)
      · exact ⟨_, hb⟩
      · exact ⟨_, hb⟩
  rw [hmem, findBackground]
  constructor
  · intro hfound
    exact ⟨List.mem_of_find?_eq_some hfound, by simpa using List.find?_some hfound⟩
  · rintro ⟨hb, hserial⟩
    cases hfound : List.find? (fun b => b.serial = serial) ((m.slots .slotA).children ++ (m.slots .slotB).children) with
    | none => exact absurd hserial (by simpa using List.find?_eq_none.1 hfound b hb)
    | some b' =>
      have hserial' : b'.serial = serial := by simpa using List.find?_some hfound
      rw [List.inj_on_of_nodup_map hnodup (List.mem_of_find?_eq_some hfound) hb (hserial'.trans hserial.symm)]

/-- Where the children are only lost, what is found is what was found. -/
theorem alike_of_read (h : Numbered m) (h' : Numbered m') (hread : ∀ n, (m'.read card n).Sublist (m.read card n))
    {serial : Nat} {b b' : Background} (hb : m.findBackground serial = some b) (hb' : m'.findBackground serial = some b') :
    b.Alike b' := by
  obtain ⟨⟨n', hmem'⟩, hserial'⟩ := h'.findBackground_iff.1 hb'
  obtain ⟨b₀, hmem, hcard⟩ := List.mem_map.1 ((hread n').subset (List.mem_map_of_mem (f := card) hmem'))
  rw [card, card, Prod.mk.injEq, Prod.mk.injEq] at hcard
  obtain ⟨hserial, hid, hparams⟩ := hcard
  have hfound := h.findBackground_iff.2 ⟨⟨n', hmem⟩, hserial.trans hserial'⟩
  obtain rfl := Option.some.inj (hb.symm.trans hfound)
  exact ⟨hid, hparams ▸ readAlike_refl _ _⟩

/-- What a reference leads to is found by its serial. -/
theorem findBackground_of_deref {reference : Option Nat} {b : Background} (h : m.deref reference = some b) :
    m.findBackground b.serial = some b := by
  obtain ⟨serial, -, hfound⟩ := Option.bind_eq_some_iff.1 h
  have hserial : b.serial = serial := by simpa using List.find?_some hfound
  rwa [hserial]

/-- A living overlay is found by its serial. -/
theorem findOverlay_of_mem (h : m.toOverlayStack.Inv) {o : Overlay} (ho : o ∈ m.live) : m.findOverlay o.serial = some o := by
  have hmem := (OverlayStack.mem_live.1 ho).1
  cases hfound : m.findOverlay o.serial with
  | none => exact absurd (decide_eq_true rfl) (List.find?_eq_none.1 hfound o hmem)
  | some o' =>
    have hserial : o'.serial = o.serial := by simpa using List.find?_some hfound
    rw [h.eq_of_serial (List.mem_of_find?_eq_some hfound) hmem hserial]

end LayerManager

/-! ## The layers change -/

namespace RadarHud

variable {s : RadarHud} {layers : LayerManager}

/-- What holds between any two signals: numbers are given once, and an overlay starts without data. -/
structure Based (s : RadarHud) : Prop where
  numbered : s.layers.Numbered
  fresh : ∀ serial, s.layers.created ≤ serial → s.radars serial = {}
  sound : ∀ serial, (s.radars serial).Sound

/-- The lists of every radar overlay that is live are as they should be. -/
def AllCurrent (s : RadarHud) : Prop :=
  ∀ o ∈ s.layers.live, o.isRadar = true → (s.radars o.serial).Current (s.inputs o.serial)

/-- Moving to layers whose backgrounds are numbered leaves the new overlays without data. -/
theorem Based.moveTo (h : Based s) (hnumbered : layers.Numbered) (hcreated : s.layers.created ≤ layers.created) :
    Based (s.moveTo layers) where
  numbered := hnumbered
  fresh := by
    intro serial hserial
    have hfresh := h.fresh serial (hcreated.trans hserial)
    change (if _ then s.radars serial else (s.radars serial).onChanged _) = _
    rw [hfresh]
    split <;> rfl
  sound := by
    intro serial
    change WeatherRadarOverlay.Sound (if _ then s.radars serial else (s.radars serial).onChanged _)
    split
    · exact h.sound serial
    · exact ((h.sound serial).onChanged _).1

/-- An overlay whose reference has another value is brought up to date, and a new one has no data; so only the others have
to be as they should be already. -/
theorem Based.allCurrent_moveTo (h : Based s) (hothers : ∀ o ∈ layers.live, o.isRadar = true →
      (layers.backgroundOf o.serial).map (·.serial) = (s.layers.backgroundOf o.serial).map (·.serial) →
        s.layers.created ≤ o.serial ∨ (s.radars o.serial).Current (layers.radarInputs s.width s.height o.serial)) :
    AllCurrent (s.moveTo layers) := by
  intro o ho hradar
  change WeatherRadarOverlay.Current (layers.radarInputs s.width s.height o.serial)
    (if _ then s.radars o.serial else (s.radars o.serial).onChanged _)
  split
  · rename_i hsame
    rcases hothers o ho hradar hsame with hnew | hcurrent
    · rw [h.fresh o.serial hnew]
      exact WeatherRadarOverlay.sound_create.current_of_nil rfl _
    · exact hcurrent
  · exact ((h.sound o.serial).onChanged _).2

/-- An overlay is the radar, and has data. -/
def Loaded (s : RadarHud) (o : Overlay) : Prop := o.isRadar = true ∧ (s.radars o.serial).dataLoaded = true

/-- Two states of an overlay that are read alike. -/
structure SameOverlay (s : RadarHud) (o o' : Overlay) : Prop where
  serial : o.serial = o'.serial
  overlayId : o.overlayId = o'.overlayId
  zoom : s.Loaded o → WeatherRadarOverlay.radarZoom (QJsonObject.number o.overlayParams "zoom") =
    WeatherRadarOverlay.radarZoom (QJsonObject.number o'.overlayParams "zoom")

/-- A change in which no background that is found before and after is read differently, and no overlay. -/
theorem AllCurrent.moveTo (hcurrent : AllCurrent s) (h : Based s) (hinv : s.layers.toOverlayStack.Inv)
    (hinv' : layers.toOverlayStack.Inv)
    (hbackgrounds : (∃ o ∈ s.layers.live, s.Loaded o) →
      ∀ serial b b', s.layers.findBackground serial = some b → layers.findBackground serial = some b' → b.Alike b')
    (hoverlays : ∀ o' ∈ layers.live, s.layers.created ≤ o'.serial ∨ ∃ o ∈ s.layers.live, s.SameOverlay o o') :
    AllCurrent (s.moveTo layers) := by
  refine h.allCurrent_moveTo ?_
  intro o' ho' hradar hsame
  rcases hoverlays o' ho' with hnew | ⟨o, ho, hserial, hid, hzoom⟩
  · exact Or.inl hnew
  · have hradar' : o.isRadar = true := by
      rw [Overlay.isRadar, hid]
      exact hradar
    have hfind := LayerManager.findOverlay_of_mem hinv ho
    have hfind' := LayerManager.findOverlay_of_mem hinv' ho'
    have hold := hcurrent o ho hradar'
    rw [hserial] at hold hfind
    refine Or.inr ?_
    by_cases hloaded : (s.radars o.serial).dataLoaded = true
    · have hbackground : s.layers.backgroundOf o'.serial = s.layers.deref o.background := by
        rw [LayerManager.backgroundOf, hfind, Option.bind_some]
      have hbackground' : layers.backgroundOf o'.serial = layers.deref o'.background := by
        rw [LayerManager.backgroundOf, hfind', Option.bind_some]
      refine hold.congr ?_
      rw [inputs, LayerManager.radarInputs, LayerManager.radarInputs, hfind, hfind', hbackground, hbackground', Option.bind_some,
        Option.bind_some]
      rw [hbackground, hbackground'] at hsame
      funext host path
      refine congrArg (List.map RadarSquare.rounded) ?_
      cases hderef : s.layers.deref o.background with
      | none =>
        rw [hderef] at hsame
        rw [Option.map_eq_none_iff.1 hsame]
        rfl
      | some b =>
        rw [hderef] at hsame
        obtain ⟨b', hderef', hb'⟩ := Option.map_eq_some_iff.1 hsame
        have hfound := LayerManager.findBackground_of_deref hderef
        have hfound' := LayerManager.findBackground_of_deref hderef'
        rw [hb'] at hfound'
        rw [hderef']
        have halike := hbackgrounds ⟨o, ho, hradar', hloaded⟩ _ b b' hfound hfound'
        exact squares_congr halike (hzoom ⟨hradar', hloaded⟩) s.width s.height host path
    · rw [hserial] at hloaded
      have hsound := h.sound o'.serial
      exact hsound.current_of_nil (hsound.frames (Bool.eq_false_iff.2 hloaded)) _

/-- A load that creates an object brings every overlay up to date. -/
theorem Based.allCurrent_load (h : Based s) (hinv : s.layers.toOverlayStack.Inv) (scene : Scene) (id transition : String) :
    AllCurrent (s.moveTo (s.layers.loadBackground .created scene id transition)) := by
  set m := s.layers with hm
  set m' := m.loadBackground .created scene id transition with hm'
  have hnumbered : m'.Numbered := h.numbered.created scene id transition
  have hstack : m'.toOverlayStack = { m.toOverlayStack with created := m.created + 1 }.setBackground m.created := by
    rw [hm', LayerManager.toOverlayStack_loadBackground, if_pos rfl]
  obtain ⟨hinv', hlive, -⟩ := hinv.setBackground
  rw [← hstack] at hinv' hlive
  obtain ⟨b, hb, hserial⟩ : ∃ b, (∃ n, b ∈ (m'.slots n).children) ∧ b.serial = m.created := by
    have hmem : m.created ∈ m'.serials m.activeSlot := by
      rw [LayerManager.serials, LayerManager.read_loadBackground fun _ => rfl, if_pos rfl]
      exact List.mem_append_right _ (List.mem_singleton_self _)
    obtain ⟨b, hb, hserial⟩ := List.mem_map.1 hmem
    exact ⟨b, ⟨_, hb⟩, hserial⟩
  refine h.allCurrent_moveTo ?_
  intro o ho _ hsame
  have hfind := LayerManager.findOverlay_of_mem hinv' ho
  rw [hlive] at ho
  obtain ⟨o, -, rfl⟩ := List.mem_map.1 ho
  have hnow : m'.backgroundOf o.serial = some b := by
    rw [LayerManager.backgroundOf, hfind, Option.bind_some]
    exact hnumbered.findBackground_iff.2 ⟨hb, hserial⟩
  change (m'.backgroundOf o.serial).map (·.serial) = (m.backgroundOf o.serial).map (·.serial) at hsame
  rw [hnow, Option.map_some, hserial] at hsame
  -- the number of the new background is not that of any before
  obtain ⟨b₀, hbefore, hb₀⟩ := Option.map_eq_some_iff.1 hsame.symm
  obtain ⟨o₀, -, hderef⟩ := Option.bind_eq_some_iff.1 hbefore
  obtain ⟨⟨n, hmem⟩, -⟩ := h.numbered.findBackground_iff.1 (LayerManager.findBackground_of_deref hderef)
  exact absurd hb₀ (h.numbered.fresh n _ (List.mem_map_of_mem hmem)).ne

end RadarHud

end PairionClient
