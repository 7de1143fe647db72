import PairionClient.Lemmas.Scene
import PairionClient.Lib.Run
import PairionClient.Lib.Since

/-!
# The overlays of the store

What the list of overlays and the map of their parameters hold, said of the operations so far: an overlay is active when it
was added and not removed or cleared since, its place is that of its first add since its last removal, and its parameters are
those of its last add.
-/

namespace PairionClient

open Transition History

/-! ## The overlays of a history -/

namespace SceneOp

/-- Whether an operation takes an overlay away. -/
def Drops (id : String) : SceneOp → Prop
  | .removeOverlay overlayId => overlayId = id
  | .clearOverlays => True
  | _ => False

/-- Whether an operation adds an overlay. -/
def Adds (id : String) (op : SceneOp) : Prop := ∃ params, op = .addOverlay id params

end SceneOp

variable {ops : List SceneOp} {op : SceneOp} {id : String} {n m : Nat} {params : QJsonObject}

/-- Added, and not removed or cleared since. -/
def Active (id : String) : List SceneOp → Prop := Since (fun _ op => op.Adds id) fun op => ¬op.Drops id

/-- The `n`-th operation is the first add since the last removal. -/
def FirstAdded (id : String) (n : Nat) : List SceneOp → Prop :=
  Since (fun before op => op.Adds id ∧ ¬Active id before ∧ before.length = n) fun op => ¬op.Drops id

/-- The last add, not removed or cleared since, had these parameters. -/
def LastParams (id : String) (params : QJsonObject) : List SceneOp → Prop :=
  Since (fun _ op => op = .addOverlay id params) fun op => ¬op.Drops id ∧ ¬op.Adds id

theorem active_concat : Active id (ops ++ [op]) ↔ op.Adds id ∨ Active id ops ∧ ¬op.Drops id := since_concat

theorem firstAdded_concat :
    FirstAdded id n (ops ++ [op]) ↔
      (op.Adds id ∧ ¬Active id ops ∧ ops.length = n) ∨ FirstAdded id n ops ∧ ¬op.Drops id := since_concat

theorem lastParams_concat :
    LastParams id params (ops ++ [op]) ↔
      op = .addOverlay id params ∨ LastParams id params ops ∧ ¬op.Drops id ∧ ¬op.Adds id := since_concat

/-- What adds an id does not drop it. -/
theorem SceneOp.Adds.not_drops (h : op.Adds id) : ¬op.Drops id := by
  obtain ⟨params, rfl⟩ := h
  exact fun hdrops => hdrops

/-- Of what an overlay is active there is a first add, and it is in the past. -/
theorem Active.firstAdded (h : Active id ops) : ∃ n, FirstAdded id n ops ∧ n < ops.length := by
  induction ops using List.reverseRecOn with
  | nil => exact absurd h not_since_nil
  | append_singleton ops op ih =>
    rw [List.length_append, List.length_singleton]
    have hkept (hactive : Active id ops) (hkeeps : ¬op.Drops id) :
        ∃ n, FirstAdded id n (ops ++ [op]) ∧ n < ops.length + 1 := by
      obtain ⟨n, hn, hlt⟩ := ih hactive
      exact ⟨n, firstAdded_concat.2 (Or.inr ⟨hn, hkeeps⟩), Nat.lt_succ_of_lt hlt⟩
    rcases active_concat.1 h with hadds | ⟨hactive, hkeeps⟩
    · by_cases hactive : Active id ops
      · exact hkept hactive hadds.not_drops
      · exact ⟨ops.length, firstAdded_concat.2 (Or.inl ⟨hadds, hactive, rfl⟩), Nat.lt_succ_self _⟩
    · exact hkept hactive hkeeps

/-- An id that has been added and not dropped is active. -/
theorem FirstAdded.active (h : FirstAdded id n ops) : Active id ops := by
  obtain ⟨before, op, after, hops, ⟨hadds, -, -⟩, hkeeps⟩ := h
  exact ⟨before, op, after, hops, hadds, hkeeps⟩

/-- The first add is one of the operations. -/
theorem FirstAdded.lt (h : FirstAdded id n ops) : n < ops.length := by
  obtain ⟨before, op, after, rfl, ⟨-, -, rfl⟩, -⟩ := h
  rw [List.length_append, List.length_cons]
  omega

/-- There is one first add. -/
theorem FirstAdded.unique (hn : FirstAdded id n ops) (hm : FirstAdded id m ops) : n = m := by
  induction ops using List.reverseRecOn with
  | nil => exact absurd hn not_since_nil
  | append_singleton ops op ih =>
    rcases firstAdded_concat.1 hn with ⟨-, hnot, rfl⟩ | ⟨hn, -⟩
    · rcases firstAdded_concat.1 hm with ⟨-, -, rfl⟩ | ⟨hm, -⟩
      · rfl
      · exact absurd hm.active hnot
    · rcases firstAdded_concat.1 hm with ⟨-, hnot, -⟩ | ⟨hm, -⟩
      · exact absurd hn.active hnot
      · exact ih hn hm

/-! ## The store follows the history -/

/-- What the store holds of its overlays after these operations. -/
structure Scene.Follows (ops : List SceneOp) (s : Scene) : Prop where
  wellFormed : s.WellFormed
  active : ∀ id, id ∈ s.activeOverlayIds ↔ Active id ops
  ordered : s.activeOverlayIds.Pairwise fun a b => ∃ n m, FirstAdded a n ops ∧ FirstAdded b m ops ∧ n < m
  params : ∀ id params, s.overlayParams.lookup id = some params ↔ LastParams id params ops

namespace Scene.Follows

variable {s : Scene}

/-- The places of overlays that are kept stay in order. -/
theorem ordered_concat {ids : List String} (h : ids.Pairwise fun a b => ∃ n m, FirstAdded a n ops ∧ FirstAdded b m ops ∧ n < m)
    (hkeeps : ∀ id ∈ ids, ¬op.Drops id) :
    ids.Pairwise fun a b => ∃ n m, FirstAdded a n (ops ++ [op]) ∧ FirstAdded b m (ops ++ [op]) ∧ n < m := by
  refine h.imp_of_mem fun ha hb hab => ?_
  obtain ⟨n, m, hn, hm, hlt⟩ := hab
  exact ⟨n, m, firstAdded_concat.2 (Or.inr ⟨hn, hkeeps _ ha⟩), firstAdded_concat.2 (Or.inr ⟨hm, hkeeps _ hb⟩), hlt⟩

/-- An operation that is not one on the overlays neither adds nor takes away one. -/
theorem other (h : s.Follows ops) (hop : op.onOverlays = false) : (s.step op).Follows (ops ++ [op]) := by
  obtain ⟨hids, hparams⟩ := overlays_step (s := s) hop
  have hadds (id : String) : ¬op.Adds id := by
    rintro ⟨params, rfl⟩
    cases hop
  have hkeeps (id : String) : ¬op.Drops id := by
    intro hdrops
    cases op <;> first | exact hdrops | cases hop
  refine ⟨h.wellFormed.apply op, fun id => ?_, ?_, fun id params => ?_⟩
  · rw [hids, h.active, active_concat]
    simp [hadds, hkeeps]
  · rw [hids]
    exact ordered_concat h.ordered fun id _ => hkeeps id
  · have hne : op ≠ .addOverlay id params := fun heq => hadds id ⟨params, heq⟩
    rw [hparams, h.params, lastParams_concat]
    simp [hadds, hkeeps, hne]

/-- `addOverlay` keeps the store following its history. -/
theorem addOverlay (h : s.Follows ops) (overlayId : String) (params : QJsonObject) :
    (s.addOverlay overlayId params).scene.Follows (ops ++ [.addOverlay overlayId params]) := by
  have hkeeps (id : String) : ¬(SceneOp.addOverlay overlayId params).Drops id := fun hdrops => hdrops
  have hadds (id : String) : (SceneOp.addOverlay overlayId params).Adds id ↔ id = overlayId := by
    constructor
    · rintro ⟨params', heq⟩
      cases heq
      rfl
    · rintro rfl
      exact ⟨params, rfl⟩
  refine ⟨h.wellFormed.addOverlay overlayId params, fun id => ?_, ?_, fun id params' => ?_⟩
  · rw [active_concat, hadds, and_iff_left (hkeeps id), ← h.active]
    by_cases hmem : overlayId ∈ s.activeOverlayIds
    · rw [Scene.addOverlay, if_pos hmem]
      exact ⟨Or.inr, fun hid => hid.elim (fun heq => heq ▸ hmem) fun hid => hid⟩
    · rw [Scene.addOverlay, if_neg hmem, List.mem_append, List.mem_singleton, or_comm]
  · by_cases hmem : overlayId ∈ s.activeOverlayIds
    · rw [Scene.addOverlay, if_pos hmem]
      exact ordered_concat h.ordered fun id _ => hkeeps id
    · rw [Scene.addOverlay, if_neg hmem]
      refine List.pairwise_append.2 ⟨ordered_concat h.ordered fun id _ => hkeeps id, List.pairwise_singleton _ _, ?_⟩
      -- the new overlay is last, and the others were added before
      intro id hid last hlast
      obtain rfl := List.mem_singleton.1 hlast
      obtain ⟨n, hn, hlt⟩ := ((h.active id).1 hid).firstAdded
      have hlast : FirstAdded last ops.length (ops ++ [.addOverlay last params]) :=
        firstAdded_concat.2 (Or.inl ⟨(hadds last).2 rfl, fun hactive => hmem ((h.active last).2 hactive), rfl⟩)
      exact ⟨n, ops.length, firstAdded_concat.2 (Or.inr ⟨hn, hkeeps id⟩), hlast, hlt⟩
  · rw [lastParams_concat, hadds, and_iff_right (hkeeps id)]
    by_cases heq : id = overlayId
    · subst heq
      simp [Scene.addOverlay]
    · have hne : SceneOp.addOverlay overlayId params ≠ .addOverlay id params' := fun hop => heq (SceneOp.addOverlay.inj hop).1.symm
      simp [Scene.addOverlay, heq, AList.lookup_insert_ne, h.params, hne]

/-- `removeOverlay` keeps the store following its history. -/
theorem removeOverlay (h : s.Follows ops) (overlayId : String) :
    (s.removeOverlay overlayId).scene.Follows (ops ++ [.removeOverlay overlayId]) := by
  have hdrops (id : String) : (SceneOp.removeOverlay overlayId).Drops id ↔ id = overlayId := eq_comm
  have hadds (id : String) : ¬(SceneOp.removeOverlay overlayId).Adds id := by
    rintro ⟨params, heq⟩
    cases heq
  have hids (id : String) : id ∈ (s.removeOverlay overlayId).scene.activeOverlayIds ↔ id ∈ s.activeOverlayIds ∧ id ≠ overlayId := by
    unfold Scene.removeOverlay
    split
    · simp
    · exact ⟨fun hid => ⟨hid, fun heq => ‹overlayId ∉ s.activeOverlayIds› (heq ▸ hid)⟩, fun hid => hid.1⟩
  refine ⟨h.wellFormed.removeOverlay overlayId, fun id => ?_, ?_, fun id params => ?_⟩
  · rw [hids, active_concat, hdrops, h.active, or_iff_right (hadds id)]
  · have hsub : (s.removeOverlay overlayId).scene.activeOverlayIds.Sublist s.activeOverlayIds := by
      unfold Scene.removeOverlay
      split
      · exact List.filter_sublist
      · exact List.Sublist.refl _
    exact ordered_concat (h.ordered.sublist hsub) fun id hid => fun hdrop => ((hids id).1 hid).2 ((hdrops id).1 hdrop)
  · have hne : SceneOp.removeOverlay overlayId ≠ .addOverlay id params := fun hop => SceneOp.noConfusion hop
    rw [lastParams_concat, or_iff_right hne, and_iff_left (hadds id), hdrops, ← h.params]
    by_cases hmem : overlayId ∈ s.activeOverlayIds
    · rw [Scene.removeOverlay, if_pos hmem]
      by_cases heq : id = overlayId
      · subst heq
        simp
      · simp [heq, AList.lookup_erase_ne]
    · rw [Scene.removeOverlay, if_neg hmem]
      refine ⟨fun hlookup => ⟨hlookup, ?_⟩, fun hlookup => hlookup.1⟩
      rintro rfl
      exact hmem ((h.wellFormed.keys id).2 (by rw [hlookup]; rfl))

/-- `clearOverlays` keeps the store following its history. -/
theorem clearOverlays (h : s.Follows ops) : s.clearOverlays.scene.Follows (ops ++ [.clearOverlays]) := by
  have hdrops (id : String) : SceneOp.clearOverlays.Drops id := trivial
  have hadds (id : String) : ¬SceneOp.clearOverlays.Adds id := by
    rintro ⟨params, heq⟩
    cases heq
  have hids : s.clearOverlays.scene.activeOverlayIds = [] := by
    unfold Scene.clearOverlays
    split
    · exact ‹s.activeOverlayIds = []›
    · rfl
  refine ⟨h.wellFormed.clearOverlays, fun id => ?_, ?_, fun id params => ?_⟩
  · rw [hids, active_concat]
    simp [hdrops, hadds]
  · rw [hids]
    exact List.Pairwise.nil
  · have hkeys := h.wellFormed.clearOverlays.keys id
    have hne : SceneOp.clearOverlays ≠ .addOverlay id params := fun hop => SceneOp.noConfusion hop
    rw [hids] at hkeys
    rw [lastParams_concat]
    simp only [hne, hdrops, not_true_eq_false, false_and, and_false, or_false, iff_false]
    intro hlookup
    rw [hlookup] at hkeys
    simp at hkeys

/-- The store follows the history through every operation. -/
theorem step (h : s.Follows ops) (op : SceneOp) : (s.step op).Follows (ops ++ [op]) := by
  cases hop : op.onOverlays with
  | false => exact h.other hop
  | true =>
    cases op with
    | addOverlay overlayId params => exact h.addOverlay overlayId params
    | removeOverlay overlayId => exact h.removeOverlay overlayId
    | clearOverlays => exact h.clearOverlays
    | _ => cases hop

end Scene.Follows

/-- A new store follows the empty history. -/
theorem follows_create : Scene.Follows [] {} where
  wellFormed := Scene.wellFormed_default
  active id := iff_of_false List.not_mem_nil not_since_nil
  ordered := List.Pairwise.nil
  params id params := iff_of_false (by simp) not_since_nil

/-- After any operations, the overlays of the store are those added and not removed or cleared since, each once, in the
order of their first add since their last removal; and the parameters are kept for these overlays, those of the last add
of each. -/
theorem overlays_of_history (ops : List SceneOp) :
    let s := run Scene.step {} ops
    s.activeOverlayIds.Nodup ∧ (∀ id, id ∈ s.activeOverlayIds ↔ Active id ops) ∧
      (∀ id, id ∈ s.activeOverlayIds ↔ ∃! n, FirstAdded id n ops) ∧
      s.activeOverlayIds.Pairwise (fun a b => ∃ n m, FirstAdded a n ops ∧ FirstAdded b m ops ∧ n < m) ∧
      (∀ id, (s.overlayParams.lookup id).isSome ↔ id ∈ s.activeOverlayIds) ∧
      ∀ id params, s.overlayParams.lookup id = some params ↔ LastParams id params ops := by
  intro s
  have h : s.Follows ops := run_history Scene.Follows follows_create (fun _ _ op h => h.step op) ops
  refine ⟨h.wellFormed.nodup, h.active, fun id => ?_, h.ordered, fun id => (h.wellFormed.keys id).symm, h.params⟩
  rw [h.active]
  constructor
  · intro hactive
    obtain ⟨n, hn, -⟩ := hactive.firstAdded
    exact ⟨n, hn, fun m hm => hm.unique hn⟩
  · rintro ⟨n, hn, -⟩
    exact hn.active

/-- An overlay that is added again keeps its place, and one that was removed is added at the end. -/
example :
    (run Scene.step {} [.addOverlay "adsb" [], .addOverlay "markers" [], .addOverlay "adsb" [], .removeOverlay "adsb",
      .addOverlay "adsb" [], .addOverlay "markers" []]).activeOverlayIds = ["markers", "adsb"] := by
  decide

end PairionClient
