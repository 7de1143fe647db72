import PairionClient.Memory.MemoryBrowserModel

/-!
# Overlapping requests of the memory browser

Replies carry no request: the model matches them neither to the episode selected nor to the operation that counted them.
-/

namespace PairionClient

open Transition

namespace MemoryBrowserModel

/-! ## Counting requests -/

/-- The counter is the number of requests pending, and something is loading while there are any. -/
def CountsRequests (m : MemoryBrowserModel) : Prop :=
  (m.loading = true ↔ m.client.replies ≠ []) ∧ m.pendingRequests = m.client.replies.length

/-- A refresh while a request is pending. -/
def RefreshesEarly (m : MemoryBrowserModel) (e : Event) : Prop := e = .refresh ∧ m.client.replies ≠ []

/-- With one request more pending than in flight, an answer makes the count right. -/
theorem countsRequests_decrementPending {m : MemoryBrowserModel} (hl : m.loading = true)
    (hn : m.pendingRequests = m.client.replies.length + 1) : CountsRequests m.decrementPending := by
  have hpos : m.pendingRequests > 0 := by omega
  have hsub : m.pendingRequests - 1 = m.client.replies.length := by omega
  unfold decrementPending
  rw [if_pos hpos]
  by_cases hz : m.client.replies = []
  · have h0 : m.pendingRequests - 1 = 0 := by rw [hsub, hz, List.length_nil]
    simp [CountsRequests, h0, hz]
  · have h0 : m.pendingRequests - 1 ≠ 0 := by
      rw [hsub]
      exact fun h => hz (List.length_eq_zero_iff.1 h)
    rw [if_neg h0]
    exact ⟨by simp [hl, hz], hsub⟩

/-- Every reply counts down once, whatever it brings. -/
theorem countsRequests_onSignal (qt : QtText) {m : MemoryBrowserModel} (hl : m.loading = true)
    (hn : m.pendingRequests = m.client.replies.length + 1) (s : MemorySignal) : CountsRequests (m.onSignal qt s) := by
  cases s with
  | episodesReceived arr => exact countsRequests_decrementPending hl hn
  | turnsReceived arr => exact countsRequests_decrementPending hl hn
  | preferencesReceived arr => exact countsRequests_decrementPending hl hn
  | fetchError op msg => exact countsRequests_decrementPending hl hn

/-- Every reply, whatever it brings, keeps the count right. -/
theorem countsRequests_replyFinished (qt : QtText) {m : MemoryBrowserModel} (h : CountsRequests m) (i : Nat)
    (outcome : ReplyOutcome) : CountsRequests (m.replyFinished qt i outcome) := by
  unfold replyFinished
  split
  · exact h
  · rename_i reply hi
    have hlt : i < m.client.replies.length := (List.getElem?_eq_some_iff.1 hi).1
    have hne : m.client.replies ≠ [] := List.ne_nil_of_length_pos (by omega)
    have hlen := List.length_eraseIdx_of_lt hlt
    have hcount : m.pendingRequests = (m.client.replies.eraseIdx i).length + 1 := by
      have h2 := h.2
      omega
    have hload : m.loading = true := h.1.2 hne
    let rest : MemoryBrowserModel :=
      { m with client := { m.client with replies := m.client.replies.eraseIdx i } }
    exact countsRequests_onSignal qt (m := rest) hload hcount _

theorem countsRequests_step (qt : QtText) {m : MemoryBrowserModel} {e : Event} (h : CountsRequests m)
    (he : ¬RefreshesEarly m e) : CountsRequests (m.step qt e) := by
  cases e with
  | refresh =>
    have hnil : m.client.replies = [] := not_not.1 fun hne => he ⟨rfl, hne⟩
    simp [step, refresh, CountsRequests, MemoryClient.fetchEpisodes, MemoryClient.fetchPreferences, MemoryClient.get, hnil]
  | selectEpisode episodeId =>
    simp [step, selectEpisode, CountsRequests, MemoryClient.fetchTurns, MemoryClient.get, h.2]
  | clearSelection => exact h
  | replyFinished i outcome => exact countsRequests_replyFinished qt h i outcome

/-- After an early refresh the counter says two, and more requests than that are pending. -/
theorem not_countsRequests_step (qt : QtText) {m : MemoryBrowserModel} {e : Event} (he : RefreshesEarly m e) :
    ¬CountsRequests (m.step qt e) := by
  obtain ⟨rfl, hne⟩ := he
  rintro ⟨-, hcount⟩
  have hpos := List.length_pos_of_ne_nil hne
  have hlen : 2 = m.client.replies.length + 1 + 1 := by
    simpa [step, refresh, MemoryClient.fetchEpisodes, MemoryClient.fetchPreferences, MemoryClient.get] using hcount
  omega

/-- The requests are counted in every state of a run exactly when no refresh of the run comes while a request is pending.
-/
theorem counts_requests_iff (qt : QtText) (baseUrl : String) (es : List Event) :
    Always (step qt) CountsRequests (create baseUrl) es ↔
      EveryStep (step qt) (fun m e => ¬RefreshesEarly m e) (create baseUrl) es := by
  refine always_iff_everyStep (fun _ => True) CountsRequests (fun _ h => h) ?_ ?_ (fun _ _ => trivial) ?_
  · exact fun m e _ h he => countsRequests_step qt h he
  · exact fun m e _ _ he => not_countsRequests_step qt (not_not.1 he)
  · simp [CountsRequests, create]

/-- Refreshed twice, and the first two of the four replies are in: nothing is said to be loading. -/
theorem counts_requests_false :
    ¬∀ (qt : QtText) (baseUrl : String) (es : List Event),
      Always (step qt) CountsRequests (create baseUrl) es := by
  intro h
  let qt : QtText := ⟨fun _ => .ok (.array []), fun _ => none, fun _ => none, fun _ => ""⟩
  obtain ⟨hload, -⟩ := h qt "http://localhost:18789/v1"
    [.refresh, .refresh, .replyFinished 0 (.body [0x5b, 0x5d]), .replyFinished 0 (.body [0x5b, 0x5d])] _ (List.prefix_refl _)
  exact absurd (hload.2 (by decide)) (by decide)

/-! ## Turns of the selected episode -/

/-- The model, and the replies to `fetchTurns` so far: the episode asked for and the array delivered. -/
structure Browsing where
  model : MemoryBrowserModel
  delivered : List (String × List QJsonValue) := []

/-- The array that a reply to `fetchTurns` delivers, with the episode asked for. -/
def turnsDelivered (qt : QtText) (m : MemoryBrowserModel) : Event → Option (String × List QJsonValue)
  | .replyFinished i outcome =>
    match m.client.replies[i]?, MemoryClient.fetched qt outcome with
    | some ⟨_, .turns episodeId⟩, .ok arr => some (episodeId, arr)
    | _, _ => none
  | _ => none

def Browsing.step (qt : QtText) (b : Browsing) (e : Event) : Browsing :=
  ⟨b.model.step qt e, b.delivered ++ (turnsDelivered qt b.model e).toList⟩

/-- A reply to `fetchTurns` for that episode delivered these turns. -/
def Delivered (qt : QtText) (delivered : List (String × List QJsonValue)) (episodeId : String) (turns : List TurnItem) : Prop :=
  ∃ arr, (episodeId, arr) ∈ delivered ∧ arr.map (turnItem qt) = turns

/-- The turns shown are those of the episode selected. -/
def TurnsOfSelection (qt : QtText) (b : Browsing) : Prop :=
  b.model.selectedEpisodeTurns = [] ∨
    (b.model.selectedEpisodeId ≠ "" ∧ Delivered qt b.delivered b.model.selectedEpisodeId b.model.selectedEpisodeTurns)

/-- A reply brings turns while no episode is selected, or while one is selected that no reply has brought them for. -/
def BringsOtherTurns (qt : QtText) (b : Browsing) (e : Event) : Prop :=
  ∃ episodeId arr, turnsDelivered qt b.model e = some (episodeId, arr) ∧ arr ≠ [] ∧
    (b.model.selectedEpisodeId = "" ∨
      (episodeId ≠ b.model.selectedEpisodeId ∧
        ¬Delivered qt b.delivered b.model.selectedEpisodeId (arr.map (turnItem qt))))

@[simp] theorem selectedEpisodeTurns_decrementPending (m : MemoryBrowserModel) :
    m.decrementPending.selectedEpisodeTurns = m.selectedEpisodeTurns := by
  unfold decrementPending
  dsimp only
  split_ifs <;> rfl

@[simp] theorem selectedEpisodeId_decrementPending (m : MemoryBrowserModel) :
    m.decrementPending.selectedEpisodeId = m.selectedEpisodeId := by
  unfold decrementPending
  dsimp only
  split_ifs <;> rfl

/-- Turns that are delivered are shown, whatever is selected. -/
theorem step_turnsDelivered (qt : QtText) {m : MemoryBrowserModel} {e : Event} {episodeId : String} {arr : List QJsonValue}
    (h : turnsDelivered qt m e = some (episodeId, arr)) :
    (m.step qt e).selectedEpisodeTurns = arr.map (turnItem qt) ∧
      (m.step qt e).selectedEpisodeId = m.selectedEpisodeId := by
  cases e with
  | replyFinished i outcome =>
    simp only [turnsDelivered] at h
    cases hi : m.client.replies[i]? with
    | none => simp [hi] at h
    | some reply =>
      cases ha : MemoryClient.fetched qt outcome with
      | error message => simp [ha] at h
      | ok arr' =>
        obtain ⟨url, fetch⟩ := reply
        cases fetch with
        | turns id' =>
          obtain ⟨rfl, rfl⟩ : id' = episodeId ∧ arr' = arr := by simpa [hi, ha] using h
          simp [step, replyFinished, hi, MemoryClient.onFinished, ha, Fetch.onSuccess, onSignal]
        | episodes => simp [hi, ha] at h
        | preferences => simp [hi, ha] at h
  | _ => cases h

/-- A step that delivers no turns clears them, or leaves them with the selection. -/
theorem step_of_not_turnsDelivered (qt : QtText) {m : MemoryBrowserModel} {e : Event} (h : turnsDelivered qt m e = none) :
    (m.step qt e).selectedEpisodeTurns = [] ∨
      ((m.step qt e).selectedEpisodeTurns = m.selectedEpisodeTurns ∧
        (m.step qt e).selectedEpisodeId = m.selectedEpisodeId) := by
  cases e with
  | replyFinished i outcome =>
    right
    simp only [turnsDelivered] at h
    cases hi : m.client.replies[i]? with
    | none => simp [step, replyFinished, hi]
    | some reply =>
      cases ha : MemoryClient.fetched qt outcome with
      | error message => simp [step, replyFinished, hi, MemoryClient.onFinished, ha, onSignal]
      | ok arr =>
        obtain ⟨url, fetch⟩ := reply
        cases fetch with
        | turns episodeId => simp [hi, ha] at h
        | episodes => simp [step, replyFinished, hi, MemoryClient.onFinished, ha, Fetch.onSuccess, onSignal]
        | preferences => simp [step, replyFinished, hi, MemoryClient.onFinished, ha, Fetch.onSuccess, onSignal]
  | refresh => exact Or.inl rfl
  | selectEpisode episodeId => exact Or.inl rfl
  | clearSelection => exact Or.inl rfl

/-- A step that brings no other episode's turns shows those of the selection. -/
theorem turnsOfSelection_step (qt : QtText) {b : Browsing} {e : Event} (h : TurnsOfSelection qt b)
    (he : ¬BringsOtherTurns qt b e) : TurnsOfSelection qt (b.step qt e) := by
  cases hd : turnsDelivered qt b.model e with
  | none =>
    rcases step_of_not_turnsDelivered qt hd with hnil | ⟨hturns, hid⟩
    · exact Or.inl hnil
    · simpa [TurnsOfSelection, Browsing.step, hturns, hid, hd] using h
  | some reply =>
    obtain ⟨episodeId, arr⟩ := reply
    obtain ⟨hturns, hid⟩ := step_turnsDelivered qt hd
    by_cases harr : arr = []
    · left
      simp [Browsing.step, hturns, harr]
    · right
      have hsel : b.model.selectedEpisodeId ≠ "" := fun h0 => he ⟨episodeId, arr, hd, harr, Or.inl h0⟩
      refine ⟨by simpa [Browsing.step, hid] using hsel, ?_⟩
      simp only [Browsing.step, hid, hturns, hd, Option.toList_some]
      by_cases hsame : episodeId = b.model.selectedEpisodeId
      · exact ⟨arr, by simp [hsame], rfl⟩
      · have hbefore : Delivered qt b.delivered b.model.selectedEpisodeId (arr.map (turnItem qt)) :=
          not_not.1 fun hn => he ⟨episodeId, arr, hd, harr, Or.inr ⟨hsame, hn⟩⟩
        obtain ⟨arr', hmem, heq⟩ := hbefore
        exact ⟨arr', List.mem_append_left _ hmem, heq⟩

theorem not_turnsOfSelection_step (qt : QtText) {b : Browsing} {e : Event} (he : BringsOtherTurns qt b e) :
    ¬TurnsOfSelection qt (b.step qt e) := by
  obtain ⟨episodeId, arr, hd, harr, hother⟩ := he
  obtain ⟨hturns, hid⟩ := step_turnsDelivered qt hd
  rintro (hnil | ⟨hsel, arr', hmem, heq⟩)
  · rw [Browsing.step, hturns, List.map_eq_nil_iff] at hnil
    exact harr hnil
  · simp only [Browsing.step, hid] at hsel hmem heq
    rw [hturns] at heq
    rcases hother with h0 | ⟨hne, hnot⟩
    · exact hsel h0
    · rw [hd, Option.toList_some, List.mem_append, List.mem_singleton] at hmem
      rcases hmem with hbefore | hnow
      · exact hnot ⟨arr', hbefore, heq⟩
      · exact hne (congrArg Prod.fst hnow).symm

/-- The turns shown are those of the episode selected, in every state of a run, exactly when no reply of the run brings
turns while no episode is selected, or brings the turns of another. -/
theorem turns_of_selection_iff (qt : QtText) (baseUrl : String) (es : List Event) :
    Always (Browsing.step qt) (TurnsOfSelection qt) ⟨create baseUrl, []⟩ es ↔
      EveryStep (Browsing.step qt) (fun b e => ¬BringsOtherTurns qt b e) ⟨create baseUrl, []⟩ es := by
  refine always_iff_everyStep (fun _ => True) (TurnsOfSelection qt) (fun _ h => h) ?_ ?_ (fun _ _ => trivial) ?_
  · exact fun b e _ h he => turnsOfSelection_step qt h he
  · exact fun b e _ _ he => not_turnsOfSelection_step qt (not_not.1 he)
  · exact Or.inl rfl

/-- One episode is selected and then another, and the reply to the first request comes: its turns are shown as those of
the second episode. -/
theorem turns_of_selection_false :
    ¬∀ (qt : QtText) (baseUrl : String) (es : List Event),
      Always (Browsing.step qt) (TurnsOfSelection qt) ⟨create baseUrl, []⟩ es := by
  intro h
  let turn : QJsonValue := .object [("role", .string "user"), ("content", .string "hello")]
  let body : Bytes := "[\x7b\"role\":\"user\",\"content\":\"hello\"\x7d]".toUTF8.toList
  let qt : QtText := ⟨fun _ => .ok (.array [turn]), fun _ => none, fun _ => none, fun _ => ""⟩
  rcases h qt "http://localhost:18789/v1"
    [.selectEpisode "ep-1", .selectEpisode "ep-2", .replyFinished 0 (.body body)] _ (List.prefix_refl _) with
    hnil | ⟨-, arr, hmem, -⟩
  · cases hnil
  · -- the one reply so far was to the first episode
    have hone : ("ep-2", arr) ∈ [("ep-1", [turn])] := hmem
    have hid : "ep-2" = "ep-1" := congrArg Prod.fst (List.mem_singleton.1 hone)
    exact absurd hid (by decide)

end MemoryBrowserModel

end PairionClient
