import PairionClient.Audio.Capture

/-!
# What a step of the capture does

A step reads bytes or none, and cuts what it holds into frames; a stop, and a configuration of a capture that runs, clear
what is held. `step_cut` says what that leaves.
-/

namespace PairionClient

namespace PairionAudioCapture

/-- The bytes that a step reads from the device. -/
def reads (c : PairionAudioCapture) : Event → Bytes
  | .readyRead device data => if device ∈ c.connected ∧ c.ioDevice ≠ none then data else []
  | _ => []

/-- The step starts a session; a configuration ends the one before. -/
def starts (c : PairionAudioCapture) (e : Event) : Bool :=
  match e with
  | .configure _ _ _ => c.running && (c.step e).1.running
  | _ => !c.running && (c.step e).1.running

/-- The step stops a capture that runs, and so clears what it holds. -/
def clears (c : PairionAudioCapture) : Event → Bool
  | .stop | .configure _ _ _ => c.running
  | _ => false

/-- The step ends the session that runs: a stop, a configuration, or an error of the device. -/
def ends (c : PairionAudioCapture) (e : Event) : Bool :=
  match e with
  | .stateChanged stopped error => c.running && stopped && c.audioSource.isSome && error ≠ 0
  | _ => clears c e

/-- The frames among what a capture emits. -/
def emitted (signals : List CaptureSignal) : List Bytes :=
  signals.filterMap fun
    | .audioFrameAvailable pcm20ms => some pcm20ms
    | .captureError _ => none

/-- A frame is not empty. -/
theorem kPcmFrameBytes_pos : 0 < kPcmFrameBytes := Nat.succ_pos _

/-! ## Starting and stopping -/

/-- A start keeps the bytes that have been collected and emits no frame. -/
theorem start_spec (outcome : StartOutcome) (c : PairionAudioCapture) :
    (c.start outcome).1.accumulator = c.accumulator ∧ emitted (c.start outcome).2 = [] := by
  unfold start
  split
  · exact ⟨rfl, rfl⟩
  · split
    · cases outcome <;> exact ⟨rfl, rfl⟩
    · exact ⟨rfl, rfl⟩

/-- A start while the capture runs does nothing. -/
theorem start_of_running (outcome : StartOutcome) {c : PairionAudioCapture} (h : c.running = true) :
    c.start outcome = (c, []) := if_pos h

/-- A stop drops the collected bytes, if the capture was running. -/
theorem accumulator_stop (c : PairionAudioCapture) : c.stop.accumulator = if c.running then [] else c.accumulator := by
  unfold stop
  split
  · dsimp only
    split <;> rfl
  · rfl

/-- What is held after a configuration, and the frames emitted in it; the device and the rate that are set play no part.
-/
theorem configure_spec (deviceId : String) (sampleRate : Int) (outcome : StartOutcome) (c : PairionAudioCapture) :
    (c.configure deviceId sampleRate outcome).1.accumulator = (if c.running then [] else c.accumulator) ∧
      emitted (c.configure deviceId sampleRate outcome).2 = [] := by
  have hconfigured (d : PairionAudioCapture) (hacc : d.accumulator = c.accumulator) (hrun : d.running = c.running) :
      (if d.running then d.stop.start outcome else (d, [])).1.accumulator = (if c.running then [] else c.accumulator) ∧
        emitted (if d.running then d.stop.start outcome else (d, [])).2 = [] := by
    rw [hrun]
    split
    · rename_i hc
      obtain ⟨hstart, hsignals⟩ := start_spec outcome d.stop
      exact ⟨by rw [hstart, accumulator_stop, if_pos (hrun.trans hc)], hsignals⟩
    · exact ⟨hacc, rfl⟩
  exact hconfigured { c with
    configuredDeviceId := deviceId, configuredSampleRate := if sampleRate > 0 then sampleRate else 16000 } rfl rfl

/-! ## A step -/

/-- A step cuts what the capture holds and what it reads, unless it clears that; what it cuts off are the frames. -/
theorem step_cut {c : PairionAudioCapture} (hshort : c.accumulator.length < kPcmFrameBytes) (e : Event) :
    (c.step e).1.accumulator =
        (if clears c e then [] else (Blocks.cut kPcmFrameBytes (c.accumulator ++ reads c e)).2) ∧
      emitted (c.step e).2 = (Blocks.cut kPcmFrameBytes (c.accumulator ++ reads c e)).1 := by
  have hquiet : Blocks.cut kPcmFrameBytes (c.accumulator ++ []) = ([], c.accumulator) := by
    rw [List.append_nil, Blocks.cut_of_lt hshort]
  cases e with
  | start outcome =>
    simp only [reads, hquiet]
    exact start_spec outcome c
  | stop =>
    simp only [reads, hquiet]
    exact ⟨accumulator_stop c, rfl⟩
  | configure deviceId sampleRate outcome =>
    simp only [reads, hquiet]
    exact configure_spec deviceId sampleRate outcome c
  | restart outcome =>
    simp only [reads, hquiet, step, restart]
    split
    · exact ⟨rfl, rfl⟩
    · rename_i hrun
      obtain ⟨hstart, hsignals⟩ := start_spec outcome c.stop
      exact ⟨by rw [hstart, accumulator_stop, if_neg hrun]; rfl, hsignals⟩
  | readyRead device data =>
    simp only [step, onAudioDataReady, reads, clears, Bool.false_eq_true, if_false]
    split
    · rename_i hmem
      split
      · rename_i hno
        have hnone : (if device ∈ c.connected ∧ c.ioDevice ≠ none then data else []) = [] := by
          rcases hno with hno | hno
          · rw [if_neg fun h => h.2 hno]
          · rw [hno, ite_self]
        rw [hnone, hquiet]
        exact ⟨rfl, rfl⟩
      · rename_i hno
        rw [not_or] at hno
        rw [if_pos ⟨hmem, hno.1⟩]
        refine ⟨rfl, ?_⟩
        unfold emitted
        rw [List.filterMap_map]
        exact List.filterMap_some
    · rename_i hmem
      rw [if_neg fun h => hmem h.1, hquiet]
      exact ⟨rfl, rfl⟩
  | stateChanged stopped error =>
    simp only [reads, hquiet, step, onAudioSourceStateChanged]
    split <;> exact ⟨rfl, rfl⟩

/-- Less than a frame is left over after any event. -/
theorem short_step {c : PairionAudioCapture} (hshort : c.accumulator.length < kPcmFrameBytes) (e : Event) :
    (c.step e).1.accumulator.length < kPcmFrameBytes := by
  rw [(step_cut hshort e).1]
  split
  · exact kPcmFrameBytes_pos
  · exact Blocks.length_cut_rest kPcmFrameBytes_pos _

/-- A capture that runs after a step that starts no session ran before it. -/
theorem running_of_not_starts {c : PairionAudioCapture} {e : Event} (hstarts : starts c e = false)
    (hrun : (c.step e).1.running = true) : c.running = true := by
  cases e with
  | configure deviceId sampleRate outcome =>
    cases hc : c.running with
    | true => rfl
    | false => simp [step, configure, hc] at hrun
  | _ => simpa [starts, hrun] using hstarts

/-- A capture that runs goes on running until its session ends. -/
theorem running_step {c : PairionAudioCapture} {e : Event} (hrun : c.running = true) (hends : ends c e = false) :
    (c.step e).1.running = true ∧ clears c e = false := by
  cases e with
  | start outcome => exact ⟨by rw [step, start_of_running outcome hrun]; exact hrun, rfl⟩
  | stop => exact absurd (hrun.symm.trans hends) (by decide)
  | configure deviceId sampleRate outcome => exact absurd (hrun.symm.trans hends) (by decide)
  | restart outcome => exact ⟨by rw [step, restart, if_pos hrun]; exact hrun, rfl⟩
  | readyRead device data =>
    refine ⟨?_, rfl⟩
    simp only [step, onAudioDataReady]
    split
    · split <;> exact hrun
    · exact hrun
  | stateChanged stopped error =>
    refine ⟨?_, rfl⟩
    rw [step, onAudioSourceStateChanged]
    split
    · rename_i herror
      obtain ⟨-, hstopped, hsource, hcode⟩ := herror
      simp [ends, hrun, hstopped, hcode, Option.isSome_iff_ne_none.2 hsource] at hends
    · exact hrun

end PairionAudioCapture

end PairionClient
