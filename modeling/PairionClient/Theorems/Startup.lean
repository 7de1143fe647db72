import PairionClient.Lemmas.Startup

namespace PairionClient

open Transition

namespace Startup

variable (M : ModelStore)

/-- A step adds one pipeline if it builds one. -/
theorem length_pipelines_step (s : Startup) (e : Event) :
    (step M s e).pipelines.length = s.pipelines.length + if Builds M s e then 1 else 0 := by
  rw [pipelines_step, List.length_append]
  split <;> rfl

/-- In a run from the start of the program on, there is at most one pipeline in every state, exactly when no step builds
one while there is one already. -/
theorem one_pipeline_iff (disk : String → Option Bytes) (es : List Event) :
    Always (step M) (fun s => s.pipelines.length ≤ 1) { downloader := { disk := disk } } es ↔
      EveryStep (step M) (fun s e => s.pipelines ≠ [] → Builds M s e = false) { downloader := { disk := disk } } es := by
  refine always_iff_everyStep (fun _ => True) (fun s : Startup => s.pipelines.length ≤ 1) (fun _ h => h) ?_ ?_
    (fun _ _ => trivial) (Nat.zero_le 1)
  · intro s e _ hone hbuild
    rw [length_pipelines_step]
    by_cases hnone : s.pipelines = []
    · rw [hnone]
      split <;> simp
    · simpa [hbuild hnone] using hone
  · intro s e _ hone hbuild hone'
    rw [Classical.not_imp, Bool.not_eq_false] at hbuild
    rw [length_pipelines_step, if_pos hbuild.2] at hone'
    exact hbuild.1 (List.length_eq_zero_iff.1 (by omega))

/-- The microphone is allowed and the models are cached: the session that opens after a lost connection starts a second
pipeline. -/
theorem one_pipeline_false :
    ¬∀ (M : ModelStore) (disk : String → Option Bytes) (es : List Event),
      Always (step M) (fun s => s.pipelines.length ≤ 1) { downloader := { disk := disk } } es := by
  intro h
  have htwo := h ModelDownloader.twoModels ModelDownloader.cachedModels
    [.permission true (.loaded true true), .sessionOpened (.loaded true true), .sessionOpened (.loaded true true)] _
    (List.prefix_refl _)
  exact absurd htwo (by decide)

end Startup

end PairionClient
