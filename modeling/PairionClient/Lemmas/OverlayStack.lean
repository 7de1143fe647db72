import PairionClient.Hud.LayerManager
import PairionClient.Lib.Refs

/-!
# Lemmas on the overlays

The map names exactly the live overlays, so a loop over it reaches each of them and no other. From this: what a write to all
of them does, and what `_syncOverlays` drops and creates.
-/

namespace PairionClient

namespace OverlayStack

structure Inv (st : OverlayStack) : Prop where
  map : st.overlayMap = st.live.map fun o => (o.overlayId, o.serial)
  serials : (st.overlayContainer.map (·.serial)).Nodup
  ids : (st.live.map (·.overlayId)).Nodup
  fresh : ∀ o ∈ st.overlayContainer, o.serial < st.created

variable {st : OverlayStack} {scene : Scene} {c : OverlayComponents}

/-- An overlay is alive if it is in the container and not destroyed. -/
theorem mem_live {o : Overlay} : o ∈ st.live ↔ o ∈ st.overlayContainer ∧ o.destroyed = false := by
  rw [live, List.mem_filter, Bool.not_eq_true']

/-- No two living overlays have the same serial. -/
theorem Inv.live_serials (h : Inv st) : (st.live.map (·.serial)).Nodup := h.serials.sublist (List.filter_sublist.map _)

/-- The keys of the map are the ids of the living overlays, in order. -/
theorem Inv.map_fst (h : Inv st) : st.overlayMap.map (·.1) = st.live.map (·.overlayId) := by
  rw [h.map, List.map_map]
  rfl

theorem Inv.map_snd (h : Inv st) : st.overlayMap.map (·.2) = st.live.map (·.serial) := by
  rw [h.map, List.map_map]
  rfl

/-- Two objects with one number are one. -/
theorem Inv.eq_of_serial (h : Inv st) {o o' : Overlay} (ho : o ∈ st.overlayContainer) (ho' : o' ∈ st.overlayContainer)
    (heq : o.serial = o'.serial) : o = o' :=
  List.inj_on_of_nodup_map h.serials ho ho' heq

/-- Writing to objects leaves their numbers. -/
theorem Inv.serials_map (h : Inv st) {g : Overlay → Overlay} (hg : ∀ o, (g o).serial = o.serial) :
    ((st.overlayContainer.map g).map (·.serial)).Nodup := by
  have hsame : (Overlay.serial ∘ g) = Overlay.serial := funext hg
  rw [List.map_map, hsame]
  exact h.serials

/-- A change that keeps the serials leaves them below the next one. -/
theorem Inv.fresh_map (h : Inv st) {g : Overlay → Overlay} (hg : ∀ o, (g o).serial = o.serial) :
    ∀ o ∈ st.overlayContainer.map g, o.serial < st.created := by
  intro o ho
  obtain ⟨o', ho', rfl⟩ := List.mem_map.1 ho
  rw [hg]
  exact h.fresh o' ho'

/-! ## A write to every overlay -/

/-- A write to all overlays goes through the references of the map. -/
theorem forOverlays_eq_writeAll (f : String → Overlay → Overlay) (st : OverlayStack) :
    st.forOverlays f =
      { st with overlayContainer := Refs.writeAll Overlay.serial f st.overlayMap st.overlayContainer } := by
  have hfold : ∀ (entries : List (String × Nat)) (st : OverlayStack),
      entries.foldl (fun st entry => st.modifyOverlay entry.2 (f entry.1)) st =
        { st with overlayContainer := Refs.writeAll Overlay.serial f entries st.overlayContainer } := by
    intro entries
    induction entries with
    | nil => exact fun st => rfl
    | cons e es ih => exact fun st => ih (st.modifyOverlay e.2 (f e.1))
  exact hfold st.overlayMap st

@[simp] theorem currentBackground_forOverlays (f : String → Overlay → Overlay) (st : OverlayStack) :
    (st.forOverlays f).currentBackground = st.currentBackground := by
  rw [forOverlays_eq_writeAll]

/-- A write to all overlays creates none. -/
@[simp] theorem created_forOverlays (f : String → Overlay → Overlay) (st : OverlayStack) :
    (st.forOverlays f).created = st.created := by
  rw [forOverlays_eq_writeAll]

/-- A write to the overlays of the map is one to the live overlays. -/
theorem Inv.forOverlays_eq (h : Inv st) {f : String → Overlay → Overlay} (hf : ∀ id o, (f id o).serial = o.serial) :
    st.forOverlays f =
      { st with overlayContainer := st.overlayContainer.map fun o => if o.destroyed then o else f o.overlayId o } := by
  have hnodup : (st.overlayMap.map Prod.snd).Nodup := h.map_snd ▸ h.live_serials
  rw [forOverlays_eq_writeAll, Refs.writeAll_eq_map hf hnodup]
  congr 1
  apply List.map_congr_left
  intro o ho
  by_cases hdead : o.destroyed = true
  · rw [if_pos hdead]
    apply Refs.written_of_forall_ne
    intro e he heq
    rw [h.map] at he
    obtain ⟨o', ho', rfl⟩ := List.mem_map.1 he
    obtain ⟨hmem, halive⟩ := mem_live.1 ho'
    rw [h.eq_of_serial hmem ho heq, hdead] at halive
    exact Bool.noConfusion halive
  · rw [if_neg hdead]
    apply Refs.written_of_mem hnodup
    rw [h.map]
    exact List.mem_map.2 ⟨o, mem_live.2 ⟨ho, Bool.eq_false_iff.2 hdead⟩, rfl⟩

/-- What such a write keeps, and what it does to the live overlays. -/
structure Rewritten (st st' : OverlayStack) (f : Overlay → Overlay) : Prop where
  inv : Inv st'
  live : st'.live = st.live.map f
  current : st'.currentBackground = st.currentBackground

/-- A write that keeps serial, id and life of each overlay reaches every living one under its id. -/
theorem Inv.forOverlays (h : Inv st) {f : String → Overlay → Overlay} (hserial : ∀ id o, (f id o).serial = o.serial)
    (hid : ∀ id o, (f id o).overlayId = o.overlayId) (hdestroyed : ∀ id o, (f id o).destroyed = o.destroyed) :
    Rewritten st (st.forOverlays f) fun o => f o.overlayId o := by
  have heq := h.forOverlays_eq hserial
  set g : Overlay → Overlay := fun o => if o.destroyed then o else f o.overlayId o with hg
  have hgserial : ∀ o, (g o).serial = o.serial := by
    intro o
    rw [hg]
    dsimp only
    split
    · rfl
    · exact hserial _ o
  have hlive : (st.forOverlays f).live = st.live.map fun o => f o.overlayId o := by
    rw [heq, OverlayStack.live, OverlayStack.live, List.filter_map]
    have hkept : st.overlayContainer.filter ((fun o => !o.destroyed) ∘ g) = st.overlayContainer.filter fun o => !o.destroyed := by
      apply List.filter_congr
      intro o _
      rw [Function.comp_apply, hg]
      dsimp only
      split
      · rfl
      · rw [hdestroyed]
    rw [hkept]
    apply List.map_congr_left
    intro o ho
    have halive := (List.mem_filter.1 ho).2
    rw [Bool.not_eq_true'] at halive
    rw [hg]
    dsimp only
    rw [halive, if_neg Bool.false_ne_true]
  refine ⟨⟨?map, by rw [heq]; exact h.serials_map hgserial, ?ids, by rw [heq]; exact h.fresh_map hgserial⟩, hlive, by rw [heq]⟩
  case map =>
    rw [hlive, heq, List.map_map]
    refine h.map.trans (List.map_congr_left fun o _ => ?_)
    rw [Function.comp_apply, hid, hserial]
  case ids =>
    rw [hlive, List.map_map]
    have hsame : (Overlay.overlayId ∘ fun o => f o.overlayId o) = Overlay.overlayId := funext fun o => hid _ o
    rw [hsame]
    exact h.ids

/-! ## What `_syncOverlays` drops -/

/-- Of the live overlays, those stay that meet a condition. -/
structure Kept (st st' : OverlayStack) (p : Overlay → Bool) : Prop where
  inv : Inv st'
  live : st'.live = st.live.filter p
  current : st'.currentBackground = st.currentBackground

/-- Where every living overlay is wanted, all are kept. -/
theorem Inv.kept_all (h : Inv st) {p : Overlay → Bool} (hp : ∀ o ∈ st.live, p o = true) : Kept st st p :=
  ⟨h, (List.filter_eq_self.2 hp).symm, rfl⟩

/-- An id is not in the map if no living overlay has it. -/
theorem lookup_eq_none_iff (h : Inv st) (id : String) :
    st.overlayMap.lookup id = none ↔ ∀ o ∈ st.live, o.overlayId ≠ id := by
  rw [List.lookup_eq_none_iff, h.map, List.forall_mem_map]
  simp only [bne_iff_ne, ne_comm]

/-- What the map has under an id is the serial of a living overlay with this id. -/
theorem live_of_lookup (h : Inv st) {id : String} {serial : Nat} (hl : st.overlayMap.lookup id = some serial) :
    ∃ o ∈ st.live, o.overlayId = id ∧ o.serial = serial := by
  obtain ⟨before, after, hmap, -⟩ := List.lookup_eq_some_iff.1 hl
  have hmem : (id, serial) ∈ st.overlayMap := by rw [hmap]; simp
  rw [h.map] at hmem
  obtain ⟨o, ho, heq⟩ := List.mem_map.1 hmem
  exact ⟨o, ho, congrArg Prod.fst heq, congrArg Prod.snd heq⟩

/-- Destroying the overlay of an id: the others stay. -/
theorem Inv.destroy (h : Inv st) {id : String} {serial : Nat} (hl : st.overlayMap.lookup id = some serial) :
    Kept st
      { st.modifyOverlay serial fun o => { o with destroyed := true } with
        overlayMap := st.overlayMap.filter fun entry => entry.1 ≠ id }
      fun o => o.overlayId ≠ id := by
  obtain ⟨gone, hgone, hid, hserial⟩ := live_of_lookup h hl
  obtain ⟨hmem, -⟩ := mem_live.1 hgone
  have hsame : ∀ o ∈ st.live, o.serial = serial ↔ o.overlayId = id := by
    intro o ho
    rw [← hserial, ← hid]
    exact ⟨fun heq => congrArg _ (List.inj_on_of_nodup_map h.live_serials ho hgone heq),
      fun heq => congrArg _ (List.inj_on_of_nodup_map h.ids ho hgone heq)⟩
  set g : Overlay → Overlay := fun o => if o.serial = serial then { o with destroyed := true } else o with hg
  have hgserial : ∀ o, (g o).serial = o.serial := by
    intro o
    rw [hg]
    dsimp only
    split <;> rfl
  have hkept : ∀ o ∈ st.overlayContainer, (!(g o).destroyed) = (decide (o.overlayId ≠ id) && !o.destroyed) := by
    intro o ho
    by_cases hdead : o.destroyed = true
    · by_cases heq : o.serial = serial
      · simp [hg, heq, hdead]
      · simp [hg, heq, hdead]
    · have halive := Bool.eq_false_iff.2 hdead
      have hiff := hsame o (mem_live.2 ⟨ho, halive⟩)
      by_cases heq : o.serial = serial
      · simp [hg, heq, hiff.1 heq]
      · simp [hg, heq, mt hiff.2 heq]
  have hlive : (st.overlayContainer.map g).filter (fun o => !o.destroyed) = st.live.filter fun o => o.overlayId ≠ id := by
    have hfilter : st.overlayContainer.filter ((fun o => !o.destroyed) ∘ g) = _ := List.filter_congr hkept
    rw [List.filter_map, OverlayStack.live, List.filter_filter, hfilter]
    refine (List.map_congr_left fun o ho => ?_).trans (List.map_id _)
    -- the object destroyed is not among those that stay
    obtain ⟨hmem', hp⟩ := List.mem_filter.1 ho
    rw [Bool.and_eq_true, decide_eq_true_iff, Bool.not_eq_true'] at hp
    have hne := mt (hsame o (mem_live.2 ⟨hmem', hp.2⟩)).1 hp.1
    rw [hg, id_eq]
    exact if_neg hne
  refine ⟨⟨?map, h.serials_map hgserial, ?ids, h.fresh_map hgserial⟩, hlive, rfl⟩
  case map =>
    refine Eq.trans ?_ (congrArg (List.map fun o : Overlay => (o.overlayId, o.serial)) hlive.symm)
    change st.overlayMap.filter _ = _
    rw [h.map, List.filter_map]
    rfl
  case ids =>
    change (((st.overlayContainer.map g).filter fun o => !o.destroyed).map (·.overlayId)).Nodup
    rw [hlive]
    exact h.ids.sublist (List.filter_sublist.map _)

/-- One id of the first loop. -/
theorem Inv.dropOverlay (h : Inv st) (ids : List String) (id : String) :
    Kept st (st.dropOverlay ids id) fun o => o.overlayId ∈ ids || o.overlayId ≠ id := by
  unfold OverlayStack.dropOverlay
  by_cases hid : id ∈ ids
  · rw [if_pos hid]
    apply h.kept_all
    intro o _
    by_cases heq : o.overlayId = id
    · simp [heq, hid]
    · simp [heq]
  · rw [if_neg hid]
    split
    · apply h.kept_all
      intro o ho
      simp [(lookup_eq_none_iff h id).1 ‹_› o ho]
    · have hkept := h.destroy ‹_›
      refine ⟨hkept.inv, hkept.live.trans (List.filter_congr fun o _ => ?_), hkept.current⟩
      by_cases heq : o.overlayId = id
      · simp [heq, hid]
      · simp [heq]

/-- The first loop keeps the overlays whose id is still active. -/
theorem Inv.dropOverlays (h : Inv st) (ids keys : List String) :
    Kept st (keys.foldl (OverlayStack.dropOverlay ids) st) fun o => o.overlayId ∈ ids || o.overlayId ∉ keys := by
  induction keys generalizing st with
  | nil => exact h.kept_all (by simp)
  | cons id keys ih =>
    have hfirst := h.dropOverlay ids id
    have hrest := ih hfirst.inv
    refine ⟨hrest.inv, ?_, hrest.current.trans hfirst.current⟩
    rw [List.foldl_cons, hrest.live, hfirst.live, List.filter_filter]
    apply List.filter_congr
    intro o _
    by_cases hid : o.overlayId ∈ ids
    · simp [hid]
    · simp [hid, Bool.and_comm]

/-! ## What `_syncOverlays` creates -/

/-- An overlay has the current values of the store, and the background given. -/
structure Shows (scene : Scene) (current : Option Nat) (o : Overlay) : Prop where
  overlayParams : scene.overlayParams.lookup o.overlayId = some o.overlayParams
  sceneData : o.sceneData = scene.sceneData
  hudState : o.hudState = scene.agentState
  background : o.background = current

/-- Overlays of the given ids are created behind the live ones. -/
structure Grown (scene : Scene) (st st' : OverlayStack) (ids : List String) : Prop where
  inv : Inv st'
  live : ∃ added, st'.live = st.live ++ added ∧ added.map (·.overlayId) = ids ∧
    ∀ o ∈ added, Shows scene st.currentBackground o
  current : st'.currentBackground = st.currentBackground

theorem Inv.grown_nil (h : Inv st) (scene : Scene) : Grown scene st st [] :=
  ⟨h, ⟨[], by simp, rfl, by simp⟩, rfl⟩

theorem Grown.trans {st₁ st₂ : OverlayStack} {ids ids' : List String} (h : Grown scene st st₁ ids)
    (h' : Grown scene st₁ st₂ ids') : Grown scene st st₂ (ids ++ ids') := by
  obtain ⟨added, hlive, hids, hshows⟩ := h.live
  obtain ⟨added', hlive', hids', hshows'⟩ := h'.live
  refine ⟨h'.inv, ⟨added ++ added', ?_, ?_, ?_⟩, h'.current.trans h.current⟩
  · rw [hlive', hlive, List.append_assoc]
  · rw [List.map_append, hids, hids']
  · rw [List.forall_mem_append]
    rw [h.current] at hshows'
    exact ⟨hshows, hshows'⟩

/-- `id in map` is true of the living overlays, and of what every JavaScript object inherits. -/
theorem mapped_iff (h : Inv st) (id : String) :
    st.mapped id = true ↔ id ∈ inheritedNames ∨ id ∈ st.live.map (·.overlayId) := by
  rw [mapped, Bool.or_eq_true, decide_eq_true_iff, ← Option.ne_none_iff_isSome, ne_eq, lookup_eq_none_iff h]
  simp

/-- The overlay that is created is new, and the last. -/
theorem Inv.push (h : Inv st) {id : String} (hid : id ∉ st.live.map (·.overlayId)) {params : QJsonObject}
    (hparams : scene.overlayParams.lookup id = some params) (hnew : st.mapped id = false) (hloads : c.loads id = true) :
    Grown scene st (st.pushOverlay c scene id) [id] := by
  set o : Overlay :=
    { serial := st.created
      overlayId := id
      background := st.currentBackground
      overlayParams := (scene.overlayParams.lookup id).getD []
      sceneData := scene.sceneData
      hudState := scene.agentState } with ho
  have heq : st.pushOverlay c scene id =
      { st with
        created := st.created + 1
        overlayContainer := st.overlayContainer ++ [o]
        overlayMap := st.overlayMap ++ [(id, st.created)] } := by
    rw [pushOverlay, hnew, hloads]
    rfl
  have hlive : (st.pushOverlay c scene id).live = st.live ++ [o] := by
    rw [heq, OverlayStack.live, OverlayStack.live, List.filter_append]
    rfl
  refine ⟨⟨?map, ?serials, ?ids, ?fresh⟩, ⟨[o], hlive, rfl, ?shows⟩, by rw [heq]⟩
  case map => rw [hlive, heq, List.map_append, h.map]; rfl
  case serials =>
    rw [heq, List.map_append]
    refine List.nodup_append.2 ⟨h.serials, List.nodup_singleton _, ?_⟩
    intro serial hmem last hlast
    obtain ⟨o', ho', rfl⟩ := List.mem_map.1 hmem
    rw [List.mem_singleton.1 hlast]
    exact Nat.ne_of_lt (h.fresh o' ho')
  case ids =>
    rw [hlive, List.map_append]
    refine List.nodup_append.2 ⟨h.ids, List.nodup_singleton _, ?_⟩
    rintro first hfirst last hlast rfl
    rw [List.mem_singleton.1 hlast] at hfirst
    exact hid hfirst
  case fresh =>
    rw [heq]
    intro o' ho'
    rcases List.mem_append.1 ho' with hold | hlast
    · exact Nat.lt_succ_of_lt (h.fresh o' hold)
    · rw [List.mem_singleton.1 hlast]
      exact Nat.lt_succ_self _
  case shows =>
    intro o' ho'
    rw [List.mem_singleton.1 ho']
    exact ⟨by rw [ho, hparams]; rfl, rfl, rfl, rfl⟩

/-- One id of the second loop. -/
theorem Inv.pushOverlay (h : Inv st) (c : OverlayComponents) (scene : Scene) {id : String}
    (hparams : (scene.overlayParams.lookup id).isSome) :
    Grown scene st (st.pushOverlay c scene id) ([id].filter fun id => c.loads id && id ∉ st.live.map (·.overlayId)) := by
  obtain ⟨params, hparams⟩ := Option.isSome_iff_exists.1 hparams
  by_cases hnew : st.mapped id = true
  · have hskip : ([id].filter fun id => c.loads id && id ∉ st.live.map (·.overlayId)) = [] := by
      rcases (mapped_iff h id).1 hnew with hinherited | hlive
      · simp [c.not_inherited id hinherited]
      · simpa using fun _ => hlive
    rw [hskip, OverlayStack.pushOverlay, if_pos hnew]
    exact h.grown_nil scene
  · by_cases hloads : c.loads id = true
    · have hid : id ∉ st.live.map (·.overlayId) := fun hmem => hnew ((mapped_iff h id).2 (Or.inr hmem))
      have hone : ([id].filter fun id => c.loads id && id ∉ st.live.map (·.overlayId)) = [id] := by
        rw [List.filter_cons_of_pos (by simpa [hloads] using hid), List.filter_nil]
      rw [hone]
      exact h.push hid hparams (Bool.eq_false_iff.2 hnew) hloads
    · have hskip : ([id].filter fun id => c.loads id && id ∉ st.live.map (·.overlayId)) = [] := by simp [hloads]
      rw [hskip, OverlayStack.pushOverlay, if_neg hnew, if_neg hloads]
      exact h.grown_nil scene

/-- The second loop creates, in order, the overlays that load and are not there. -/
theorem Inv.pushOverlays (h : Inv st) (c : OverlayComponents) (scene : Scene) {ids : List String} (hnodup : ids.Nodup)
    (hparams : ∀ id ∈ ids, (scene.overlayParams.lookup id).isSome) :
    Grown scene st (ids.foldl (OverlayStack.pushOverlay c scene) st)
      (ids.filter fun id => c.loads id && id ∉ st.live.map (·.overlayId)) := by
  induction ids generalizing st with
  | nil => exact h.grown_nil scene
  | cons id ids ih =>
    obtain ⟨hid, hnodup⟩ := List.nodup_cons.1 hnodup
    have hfirst := h.pushOverlay c scene (hparams id List.mem_cons_self)
    have hrest := ih hfirst.inv hnodup fun id' hid' => hparams id' (List.mem_cons_of_mem id hid')
    have hsame : (ids.filter fun id' => c.loads id' && id' ∉ (st.pushOverlay c scene id).live.map (·.overlayId)) =
        ids.filter fun id' => c.loads id' && id' ∉ st.live.map (·.overlayId) := by
      apply List.filter_congr
      intro id' hid'
      obtain ⟨added, hlive, hids, -⟩ := hfirst.live
      have hne : id' ∉ added.map (·.overlayId) := by
        rw [hids]
        intro hmem
        exact hid (List.mem_singleton.1 (List.mem_filter.1 hmem).1 ▸ hid')
      rw [hlive, List.map_append]
      simp [hne]
    have hboth := hfirst.trans hrest
    rwa [hsame, ← List.filter_append] at hboth

/-! ## `_syncOverlays` -/

/-- The overlays still active stay, those that load and are not there are created behind them, and this is the order of
the store. -/
structure Synced (c : OverlayComponents) (scene : Scene) (st st' : OverlayStack) : Prop where
  inv : Inv st'
  ids : st'.live.map (·.overlayId) = scene.activeOverlayIds.filter c.loads
  live : ∃ added, st'.live = (st.live.filter fun o => o.overlayId ∈ scene.activeOverlayIds) ++ added ∧
    ∀ o ∈ added, Shows scene st.currentBackground o
  current : st'.currentBackground = st.currentBackground

/-- A list is one of its prefixes and what is not in that. -/
theorem prefix_append_filter {xs ys : List String} (h : xs <+: ys) (hnodup : ys.Nodup) :
    xs ++ ys.filter (fun y => y ∉ xs) = ys := by
  obtain ⟨rest, rfl⟩ := h
  obtain ⟨-, -, hdisjoint⟩ := List.nodup_append.1 hnodup
  have hnone : (xs.filter fun y => y ∉ xs) = [] := List.filter_eq_nil_iff.2 (by simp)
  have hall : (rest.filter fun y => y ∉ xs) = rest := by
    apply List.filter_eq_self.2
    intro y hy
    have hne : y ∉ xs := fun hmem => hdisjoint y hmem y hy rfl
    simpa using hne
  rw [List.filter_append, hnone, hall, List.nil_append]

/-- A sync brings the overlays to those of the store, as long as they were an initial part of them. -/
theorem Inv.sync (h : Inv st) (c : OverlayComponents) (hnodup : scene.activeOverlayIds.Nodup)
    (hparams : ∀ id ∈ scene.activeOverlayIds, (scene.overlayParams.lookup id).isSome)
    (hleading : (st.live.filter fun o => o.overlayId ∈ scene.activeOverlayIds).map (·.overlayId) <+:
      scene.activeOverlayIds.filter c.loads) :
    Synced c scene st (st.syncOverlays c scene) := by
  have hdrop := h.dropOverlays scene.activeOverlayIds (st.overlayMap.map (·.1))
  have hpush := hdrop.inv.pushOverlays c scene hnodup hparams
  have hkept : ((st.overlayMap.map (·.1)).foldl (OverlayStack.dropOverlay scene.activeOverlayIds) st).live =
      st.live.filter fun o => o.overlayId ∈ scene.activeOverlayIds := by
    rw [hdrop.live]
    apply List.filter_congr
    intro o ho
    have hkey : o.overlayId ∈ st.overlayMap.map (·.1) := h.map_fst ▸ List.mem_map.2 ⟨o, ho, rfl⟩
    simp [hkey]
  obtain ⟨added, hlive, hids, hshows⟩ := hpush.live
  rw [hkept] at hlive hids
  rw [hdrop.current] at hshows
  refine ⟨hpush.inv, ?_, ⟨added, hlive, hshows⟩, hpush.current.trans hdrop.current⟩
  have hsplit := prefix_append_filter hleading (hnodup.filter c.loads)
  have hmissing : added.map (·.overlayId) = (scene.activeOverlayIds.filter c.loads).filter fun id =>
      id ∉ (st.live.filter fun o => o.overlayId ∈ scene.activeOverlayIds).map (·.overlayId) := by
    rw [hids, List.filter_filter]
    apply List.filter_congr
    intro id _
    rw [Bool.and_comm]
  change (OverlayStack.live _).map _ = _
  rw [OverlayStack.syncOverlays, hlive, List.map_append, hmissing]
  exact hsplit

/-- Dropping an overlay leaves the background. -/
theorem currentBackground_dropOverlay (ids : List String) (st : OverlayStack) (id : String) :
    (st.dropOverlay ids id).currentBackground = st.currentBackground := by
  unfold dropOverlay
  split
  · rfl
  · split <;> rfl

/-- Adding an overlay leaves the background. -/
theorem currentBackground_pushOverlay (c : OverlayComponents) (scene : Scene) (st : OverlayStack) (id : String) :
    (st.pushOverlay c scene id).currentBackground = st.currentBackground := by
  unfold pushOverlay
  split
  · rfl
  · split <;> rfl

/-- What holds after each drop and each push holds after `_syncOverlays`. -/
theorem syncOverlays_induction {motive : OverlayStack → Prop} (c : OverlayComponents) (scene : Scene) (h : motive st)
    (hdrop : ∀ st' id, motive st' → motive (st'.dropOverlay scene.activeOverlayIds id))
    (hpush : ∀ st' id, motive st' → motive (st'.pushOverlay c scene id)) : motive (st.syncOverlays c scene) := by
  have hdropped := List.foldlRecOn (motive := motive) (st.overlayMap.map (·.1)) (dropOverlay scene.activeOverlayIds) h
    fun st' hst' id _ => hdrop st' id hst'
  exact List.foldlRecOn (motive := motive) _ _ hdropped fun st' hst' id _ => hpush st' id hst'

/-- The background is not that of `_syncOverlays`. -/
theorem currentBackground_syncOverlays (c : OverlayComponents) (scene : Scene) (st : OverlayStack) :
    (st.syncOverlays c scene).currentBackground = st.currentBackground :=
  syncOverlays_induction (motive := fun st' => st'.currentBackground = st.currentBackground) c scene rfl
    (fun st' id h => (currentBackground_dropOverlay _ st' id).trans h)
    fun st' id h => (currentBackground_pushOverlay c scene st' id).trans h

/-- Numbers are given once, and only to new overlays. -/
structure CreatedOnly (st st' : OverlayStack) : Prop where
  created : st.created ≤ st'.created
  live : ∀ o ∈ st'.live, o ∈ st.live ∨ st.created ≤ o.serial

theorem CreatedOnly.trans {st st' st'' : OverlayStack} (h : CreatedOnly st st') (h' : CreatedOnly st' st'') :
    CreatedOnly st st'' := by
  refine ⟨h.created.trans h'.created, fun o ho => ?_⟩
  rcases h'.live o ho with hold | hnew
  · exact h.live o hold
  · exact Or.inr (h.created.trans hnew)

/-- Dropping an overlay gives no number. -/
theorem createdOnly_dropOverlay (ids : List String) (st : OverlayStack) (id : String) :
    CreatedOnly st (st.dropOverlay ids id) := by
  have hsame : CreatedOnly st st := ⟨Nat.le_refl _, fun _ ho => Or.inl ho⟩
  unfold dropOverlay
  split
  · exact hsame
  · split
    · exact hsame
    · refine ⟨Nat.le_refl _, fun o ho => Or.inl ?_⟩
      obtain ⟨hmem, halive⟩ := mem_live.1 ho
      obtain ⟨o', ho', rfl⟩ := List.mem_map.1 hmem
      split at halive
      · exact absurd halive (by simp)
      · rw [if_neg ‹_›]
        exact mem_live.2 ⟨ho', halive⟩

/-- Adding an overlay gives the next number to it alone. -/
theorem createdOnly_pushOverlay (c : OverlayComponents) (scene : Scene) (st : OverlayStack) (id : String) :
    CreatedOnly st (st.pushOverlay c scene id) := by
  have hsame : CreatedOnly st st := ⟨Nat.le_refl _, fun _ ho => Or.inl ho⟩
  unfold pushOverlay
  split
  · exact hsame
  · split
    · refine ⟨Nat.le_succ _, fun o ho => ?_⟩
      obtain ⟨hmem, halive⟩ := mem_live.1 ho
      rcases List.mem_append.1 hmem with hold | hnew
      · exact Or.inl (mem_live.2 ⟨hold, halive⟩)
      · rw [List.mem_singleton.1 hnew]
        exact Or.inr (Nat.le_refl _)
    · exact hsame

/-- A sync gives numbers to new overlays only. -/
theorem createdOnly_syncOverlays (c : OverlayComponents) (scene : Scene) (st : OverlayStack) :
    CreatedOnly st (st.syncOverlays c scene) :=
  syncOverlays_induction (motive := CreatedOnly st) c scene ⟨Nat.le_refl _, fun _ ho => Or.inl ho⟩
    (fun st' id h => h.trans (createdOnly_dropOverlay _ st' id)) fun st' id h => h.trans (createdOnly_pushOverlay c scene st' id)

/-! ## The handlers -/

/-- New scene data reach every living overlay. -/
theorem Inv.setSceneData (h : Inv st) (scene : Scene) :
    Rewritten st (st.setSceneData scene) fun o => { o with sceneData := scene.sceneData } :=
  h.forOverlays (fun _ _ => rfl) (fun _ _ => rfl) fun _ _ => rfl

/-- A new state of the agent reaches every living overlay. -/
theorem Inv.setHudState (h : Inv st) (scene : Scene) :
    Rewritten st (st.setHudState scene) fun o => { o with hudState := scene.agentState } :=
  h.forOverlays (fun _ _ => rfl) (fun _ _ => rfl) fun _ _ => rfl

/-- A new background, given to all overlays. -/
theorem Inv.setBackground (h : Inv st) :
    let st' := { st with created := st.created + 1 }.setBackground st.created
    Inv st' ∧ (st'.live = st.live.map fun o => { o with background := some st.created }) ∧
      st'.currentBackground = some st.created := by
  have hbase : Inv { st with created := st.created + 1, currentBackground := some st.created } :=
    ⟨h.map, h.serials, h.ids, fun o ho => Nat.lt_succ_of_lt (h.fresh o ho)⟩
  have hrewritten := hbase.forOverlays (f := fun _ o => { o with background := some st.created })
    (fun _ _ => rfl) (fun _ _ => rfl) fun _ _ => rfl
  exact ⟨hrewritten.inv, hrewritten.live, hrewritten.current⟩

/-- The parameters that an overlay is given. -/
def withParams (scene : Scene) (o : Overlay) : Overlay :=
  match scene.overlayParams.lookup o.overlayId with
  | none => o
  | some params => { o with overlayParams := params }

@[simp] theorem withParams_serial (scene : Scene) (o : Overlay) : (withParams scene o).serial = o.serial := by
  unfold withParams
  split <;> rfl

@[simp] theorem withParams_overlayId (scene : Scene) (o : Overlay) : (withParams scene o).overlayId = o.overlayId := by
  unfold withParams
  split <;> rfl

/-- The parameters of the store reach every living overlay that has some there. -/
theorem Inv.propagateOverlayParams (h : Inv st) (scene : Scene) :
    Rewritten st (st.propagateOverlayParams scene) (withParams scene) := by
  refine h.forOverlays ?_ ?_ ?_ <;> intro id o <;> split <;> rfl

/-- An overlay that has all else of the store shows it once it has been given its parameters. -/
theorem shows_withParams {current : Option Nat} {o : Overlay} (hparams : (scene.overlayParams.lookup o.overlayId).isSome)
    (hdata : o.sceneData = scene.sceneData) (hstate : o.hudState = scene.agentState) (hbackground : o.background = current) :
    Shows scene current (withParams scene o) := by
  obtain ⟨params, hparams⟩ := Option.isSome_iff_exists.1 hparams
  unfold withParams
  rw [hparams]
  exact ⟨hparams, hdata, hstate, hbackground⟩

/-- The event loop deletes only what is destroyed. -/
theorem live_eventLoop (st : OverlayStack) : st.eventLoop.live = st.live := by
  change st.live.filter (fun o => !o.destroyed) = st.live
  exact List.filter_eq_self.2 fun o ho => by simpa using (mem_live.1 ho).2

/-- The event loop keeps the invariant. -/
theorem Inv.eventLoop (h : Inv st) : Inv st.eventLoop :=
  ⟨by rw [live_eventLoop]; exact h.map, h.live_serials, by rw [live_eventLoop]; exact h.ids,
    fun o ho => h.fresh o (List.mem_filter.1 ho).1⟩

end OverlayStack

end PairionClient
