import PairionClient.Lemmas.Properties

/-!
# Every change is announced

No binding is left with an old value, and none sees a change half made.
-/

namespace PairionClient

open Notify Mutator

namespace ConnectionProperties

variable (c : ConnectionProperties)

/-- The law for one operation: the signal of each property that changes is emitted, and each signal finds every property
at the value that the operation leaves. -/
abbrev Announces (op : StateOp) : Prop := Announced QProperty.value QProperty.notify c (c.apply op)

/-- Every operation on the scene announces what it changes. -/
theorem announces_scene (op : SceneOp) : c.Announces (.scene op) := by
  rw [Announces, apply, StateOp.mutator]
  cases op with
  | setAgentState state =>
    exact Announced.setIfDifferent fun p hp => by cases p <;> first | rfl | exact absurd rfl hp
  | setBackground backgroundId params transition =>
    rw [SceneOp.mutator, exec_setBackground]
    generalize (if transition = "" then "crossfade" else transition) = t
    refine Announced.announce ?_
    intro p hp
    cases p
    case activeBackgroundId =>
      have hne : ¬c.activeBackgroundId = backgroundId := hp
      simp [QProperty.notify, hne]
    case sceneTransition =>
      have hne : ¬c.sceneTransition = t := hp
      simp [QProperty.notify, hne]
    case backgroundParams => simp [QProperty.notify]
    all_goals exact absurd rfl hp
  | setActiveBackgroundId backgroundId =>
    exact Announced.setIfDifferent fun p hp => by cases p <;> first | rfl | exact absurd rfl hp
  | addOverlay overlayId params =>
    rw [SceneOp.mutator, exec_addOverlay]
    refine Announced.announce ?_
    intro p hp
    cases p <;> first | exact absurd rfl hp | simp [QProperty.notify]
  | removeOverlay overlayId =>
    rw [SceneOp.mutator, exec_removeOverlay]
    split
    · refine Announced.announce ?_
      intro p hp
      cases p <;> first | exact absurd rfl hp | simp [QProperty.notify]
    · exact Announced.silent
  | clearOverlays =>
    rw [SceneOp.mutator, exec_clearOverlays]
    split
    · exact Announced.silent
    · refine Announced.announce ?_
      intro p hp
      cases p <;> first | exact absurd rfl hp | simp [QProperty.notify]
  | setSceneData modelId data =>
    rw [SceneOp.mutator, exec_setSceneData]
    refine Announced.announce ?_
    intro p hp
    cases p <;> first | exact absurd rfl hp | simp [QProperty.notify]
  | clearSceneData =>
    rw [SceneOp.mutator, exec_clearSceneData]
    split
    · exact Announced.silent
    · refine Announced.announce ?_
      intro p hp
      cases p <;> first | exact absurd rfl hp | simp [QProperty.notify]
  | setSceneTransition transition =>
    exact Announced.setIfDifferent fun p hp => by cases p <;> first | rfl | exact absurd rfl hp

end ConnectionProperties

/-- Whatever the store holds, an operation announces every property that it changes, and no property changes after a
signal. -/
theorem changes_announced (c : ConnectionProperties) (op : StateOp) : c.Announces op := by
  rw [ConnectionProperties.Announces, ConnectionProperties.apply]
  cases op with
  | setStatus s =>
    exact Announced.setIfDifferent fun p hp => by cases p <;> first | rfl | exact absurd rfl hp
  | setSessionId id =>
    exact Announced.setIfDifferent fun p hp => by cases p <;> first | rfl | exact absurd rfl hp
  | setServerVersion version =>
    exact Announced.setIfDifferent fun p hp => by cases p <;> first | rfl | exact absurd rfl hp
  | setReconnectAttempts count =>
    exact Announced.setIfDifferent fun p hp => by cases p <;> first | rfl | exact absurd rfl hp
  | appendLog entry =>
    rw [StateOp.mutator, exec_appendLog]
    refine Announced.announce ?_
    intro p hp
    cases p <;> first | exact absurd rfl hp | simp [QProperty.notify]
  | setTranscriptPartial text =>
    exact Announced.setIfDifferent fun p hp => by cases p <;> first | rfl | exact absurd rfl hp
  | setTranscriptFinal text =>
    exact Announced.setIfDifferent fun p hp => by cases p <;> first | rfl | exact absurd rfl hp
  | setVoiceState state =>
    exact Announced.setIfDifferent fun p hp => by cases p <;> first | rfl | exact absurd rfl hp
  | appendLlmToken delta =>
    rw [StateOp.mutator, exec_appendLlmToken]
    refine Announced.announce ?_
    intro p hp
    cases p <;> first | exact absurd rfl hp | simp [QProperty.notify]
  | clearLlmResponse =>
    rw [StateOp.mutator, exec_clearLlmResponse]
    split
    · exact Announced.silent
    · refine Announced.announce ?_
      intro p hp
      cases p <;> first | exact absurd rfl hp | simp [QProperty.notify]
  | setBackgroundContext context =>
    exact Announced.setIfDifferent fun p hp => by cases p <;> first | rfl | exact absurd rfl hp
  | setMapFocus lat lon label zoom =>
    rw [StateOp.mutator, exec_setMapFocus]
    refine Announced.announce ?_
    intro p hp
    cases p <;> first | exact absurd rfl hp | simp [QProperty.notify]
  | clearMapFocus =>
    rw [StateOp.mutator, exec_clearMapFocus]
    split
    · refine Announced.announce ?_
      intro p hp
      cases p <;> first | exact absurd rfl hp | simp [QProperty.notify]
    · exact Announced.silent
  | setPipelineHealth health =>
    exact Announced.setIfDifferent fun p hp => by cases p <;> first | rfl | exact absurd rfl hp
  | scene op => exact c.announces_scene op

end PairionClient
