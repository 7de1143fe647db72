import PairionClient.Theorems.Conservation
import PairionClient.Theorems.UnplayedAudio

/-!
# A reply is played

From the socket to the device: what the binary frames of a reply decode to is accepted by the device in order, byte for byte,
once the stream has ended and the drain timer has ticked often enough, however slow the device is.
-/

namespace PairionClient

open Transition

/-- The PCM of a decoder's signal. -/
def DecoderSignal.pcm : DecoderSignal → Option Bytes
  | .pcmFrameDecoded pcm => some pcm
  | .decoderError _ => none

namespace PairionOpusDecoder

/-- What packets decode to, in order. -/
def decodeFrames (env : Env) : List Bytes → PairionOpusDecoder → List Bytes
  | [], _ => []
  | frame :: frames, dec =>
    let r := dec.decodeOpusFrame env frame
    r.2.pcm.toList ++ decodeFrames env frames r.1

end PairionOpusDecoder

namespace PairionAudioPlayback

variable (env : Env) {p : PairionAudioPlayback} {n : Nat}

/-! ## The loop makes progress -/

/-- What a write loop leaves of frames that are not empty is none that is. -/
theorem ne_nil_of_writeLoop {queue : List Bytes} (accepts : List Nat) (h : ∀ pcm ∈ queue, pcm ≠ []) :
    ∀ pcm ∈ (writeLoop queue accepts).1, pcm ≠ [] := by
  induction queue generalizing accepts with
  | nil => exact h
  | cons head rest ih =>
    simp only [writeLoop]
    split
    · exact h
    · split
      · rename_i hpart
        intro pcm hpcm
        rcases List.mem_cons.1 hpcm with rfl | hrest
        · rw [ne_eq, List.drop_eq_nil_iff]
          omega
        · exact h pcm (List.mem_cons_of_mem head hrest)
      · exact ih accepts.tail fun pcm hpcm => h pcm (List.mem_cons_of_mem head hpcm)

/-- A device that takes a byte takes one of the head. -/
theorem writeLoop_progress {queue : List Bytes} {accepts : List Nat} (h : ∀ pcm ∈ queue, pcm ≠ [])
    (htakes : 0 < accepts.headD 0) :
    (writeLoop queue accepts).1.flatten.length ≤ queue.flatten.length - 1 := by
  cases queue with
  | nil => exact Nat.zero_le _
  | cons head rest =>
    have hbytes := congrArg List.length (writeLoop_conserves (head :: rest) accepts)
    rw [List.length_append] at hbytes
    have hhead : 0 < head.length := List.length_pos_iff.2 (h head List.mem_cons_self)
    have hwritten : ¬min (accepts.headD 0) head.length = 0 := by omega
    have hsome : 0 < (writeLoop (head :: rest) accepts).2.length := by
      simp only [writeLoop, if_neg hwritten]
      split
      · rw [List.length_take]
        omega
      · rw [List.length_append]
        omega
    omega

/-! ## What a step leaves alone -/

/-- A flush decodes nothing. -/
theorem decoder_flush (accepts : List Nat) (p : PairionAudioPlayback) : (p.flush accepts).decoder = p.decoder := by
  unfold flush
  split <;> rfl

/-- Only a packet that comes moves the decoder on. -/
theorem decoder_step (p : PairionAudioPlayback) (e : Event) :
    (p.step env e).decoder =
      match e with
      | .handleOpusFrame _ opusFrame _ => (p.decoder.decodeOpusFrame env opusFrame).1
      | _ => p.decoder := by
  cases e with
  | start opened =>
    simp only [step, start]
    split <;> rfl
  | preparePlayback opened accepts =>
    simp only [step, preparePlayback, start]
    repeat' split
    all_goals rfl
  | stop => simp only [step, stop, goIdle_eq]
  | handleOpusFrame now opusFrame accepts =>
    simp only [step, handleOpusFrame]
    rcases p.decoder.decodeOpusFrame env opusFrame with ⟨decoder, pcm | reason⟩
    · exact decoder_flush accepts _
    · rfl
  | handlePcmFrame now pcm accepts => exact decoder_flush accepts _
  | handleStreamEnd reason =>
    simp only [step, handleStreamEnd, goIdle_eq]
    repeat' split
    all_goals first | rfl | simp only [goIdle_eq]
  | silenceTimeout now =>
    simp only [step, silenceTimeout, goIdle_eq]
    split <;> rfl
  | drainTick accepts =>
    simp only [step, drainTick]
    repeat' split
    all_goals first | rfl | exact decoder_flush accepts p

/-- The frames that wait have bytes, and the sink is stopped exactly when there is no device. -/
structure Fit (p : PairionAudioPlayback) : Prop where
  bytes : ∀ pcm ∈ p.jitterBuffer, pcm ≠ []
  device : p.sinkStopped = !p.audioDevice

/-- A new playback is fit. -/
theorem fit_create (opened : Bool) : Fit (.create opened) := ⟨by simp [create], rfl⟩

variable {env} {e : Event}

/-- A flush neither opens nor closes the device. -/
theorem device_flush (accepts : List Nat) (p : PairionAudioPlayback) :
    (p.flush accepts).sinkStopped = p.sinkStopped ∧ (p.flush accepts).audioDevice = p.audioDevice := by
  unfold flush
  split <;> exact ⟨rfl, rfl⟩

/-- After every event the sink is stopped exactly when there is no device. -/
theorem device_step (env : Env) (h : p.sinkStopped = !p.audioDevice) (e : Event) :
    (p.step env e).sinkStopped = !(p.step env e).audioDevice := by
  cases e with
  | start opened =>
    simp only [step, start]
    split
    · rfl
    · exact h
  | preparePlayback opened accepts =>
    simp only [step, preparePlayback, start]
    repeat' split
    all_goals first | rfl | exact h
  | stop => simp only [step, stop, goIdle_eq, Bool.not_false]
  | handleOpusFrame now opusFrame accepts =>
    simp only [step, handleOpusFrame]
    rcases p.decoder.decodeOpusFrame env opusFrame with ⟨decoder, pcm | reason⟩
    · obtain ⟨hsink, hdevice⟩ := device_flush accepts
        { p with decoder := decoder, jitterBuffer := p.jitterBuffer ++ [pcm], isSpeaking := true, silenceTimer := some (now + 500) }
      exact hsink.trans (h.trans (congrArg (!·) hdevice.symm))
    · exact h
  | handlePcmFrame now pcm accepts =>
    obtain ⟨hsink, hdevice⟩ := device_flush accepts
      { p with jitterBuffer := p.jitterBuffer ++ [pcm], isSpeaking := true, silenceTimer := some (now + 500) }
    exact hsink.trans (h.trans (congrArg (!·) hdevice.symm))
  | handleStreamEnd reason =>
    simp only [step, handleStreamEnd, goIdle_eq]
    repeat' split
    · rfl
    · exact h
    · simpa only [goIdle_eq] using h
  | silenceTimeout now =>
    simp only [step, silenceTimeout, goIdle_eq]
    split <;> exact h
  | drainTick accepts =>
    obtain ⟨hsink, hdevice⟩ := device_flush accepts p
    have hflush := hsink.trans (h.trans (congrArg (!·) hdevice.symm))
    simp only [step, drainTick]
    repeat' split
    all_goals first | exact hflush | exact h

/-- An event that queues no empty frame keeps the playback fit. -/
theorem Fit.step (h : Fit p) (hqueues : ∀ pcm ∈ queues env p e, pcm ≠ []) : Fit (p.step env e) where
  device := device_step env h.device e
  bytes := by
    have hwaiting : ∀ pcm ∈ waiting env p e, pcm ≠ [] := by
      unfold waiting
      split
      · simp
      · intro pcm hpcm
        exact (List.mem_append.1 hpcm).elim (h.bytes pcm) (hqueues pcm)
    rw [(step_spec env p e).jitterBuffer, writes]
    split
    · exact ne_nil_of_writeLoop _ hwaiting
    · exact hwaiting

/-- A device that is open stays open until the playback is closed. -/
theorem Fit.audioDevice_step (h : Fit p) (hopen : p.audioDevice = true) (he : e.closes = false) :
    (p.step env e).audioDevice = true := by
  have hsink : p.sinkStopped = false := by rw [h.device, hopen, Bool.not_true]
  cases hopens : e.opens with
  | false => rw [(step_spec env p e).audioDevice hopens, hopen, he, Bool.not_false, Bool.and_true]
  | true =>
    cases e with
    | start opened => simpa [PairionAudioPlayback.step, start, hsink] using hopen
    | preparePlayback opened accepts => simp [PairionAudioPlayback.step, preparePlayback, start, hsink, hopen]
    | _ => cases hopens

/-! ## The rest of a stream -/

/-- The stream has ended, and at most `n` bytes wait for the drain timer. -/
structure Draining (n : Nat) (p : PairionAudioPlayback) : Prop where
  fit : Fit p
  audioDevice : p.audioDevice = true
  drainTimer : p.jitterBuffer ≠ [] → p.drainTimer = true
  waiting : p.jitterBuffer.flatten.length ≤ n
  silent : p.isSpeaking = false

def Event.ticks : Event → Nat
  | .drainTick _ => 1
  | _ => 0

/-- The normal end of a stream leaves the rest to the drain timer. -/
theorem draining_handleStreamEnd (h : Fit p) (hopen : p.audioDevice = true) :
    Draining p.jitterBuffer.flatten.length (p.step env (.handleStreamEnd "normal")) := by
  have hfit : Fit (p.step env (.handleStreamEnd "normal")) := h.step (by simp [queues])
  have hdevice : (p.step env (.handleStreamEnd "normal")).audioDevice = true := h.audioDevice_step hopen rfl
  refine ⟨hfit, hdevice, ?_, ?_, ?_⟩ <;> simp only [step, handleStreamEnd, goIdle_eq] <;>
    by_cases hnil : p.jitterBuffer = [] <;> simp [hnil, goIdle_eq]

/-- While frames wait and nothing closes the playback, the drain timer keeps running. -/
theorem drainTimer_step (h : p.jitterBuffer ≠ [] → p.drainTimer = true) (he : e.closes = false)
    (hqueues : queues env p e = []) : (p.step env e).jitterBuffer ≠ [] → (p.step env e).drainTimer = true := by
  cases e with
  | start opened =>
    simp only [step, start]
    split <;> exact h
  | preparePlayback opened accepts =>
    simp only [step, preparePlayback, start]
    repeat' split
    all_goals exact h
  | stop => cases he
  | handleOpusFrame now opusFrame accepts =>
    rw [queues] at hqueues
    simp only [step, handleOpusFrame]
    rcases hdec : p.decoder.decodeOpusFrame env opusFrame with ⟨decoder, pcm | reason⟩
    · rw [hdec] at hqueues
      cases hqueues
    · exact h
  | handlePcmFrame now pcm accepts => cases hqueues
  | handleStreamEnd reason =>
    have hnormal : ¬reason ≠ "normal" := by simpa [Event.closes] using he
    simp only [step, handleStreamEnd, goIdle_eq, if_neg hnormal]
    split
    · exact fun _ => rfl
    · simpa only [goIdle_eq] using h
  | silenceTimeout now =>
    simp only [step, silenceTimeout, goIdle_eq]
    split <;> exact h
  | drainTick accepts =>
    simp only [step, drainTick]
    split
    · rename_i htimer
      split
      · rename_i hempty
        exact fun hne => absurd hempty hne
      · intro _
        unfold flush
        split <;> exact htimer
    · exact h

/-- What a step that brings no frame leaves waiting. -/
theorem waiting_step (h : Draining n p) (he : e.closes = false) (hqueues : queues env p e = [])
    (htakes : ∀ accepts, e = .drainTick accepts → 0 < accepts.headD 0) :
    (p.step env e).jitterBuffer.flatten.length ≤ p.jitterBuffer.flatten.length - e.ticks := by
  have hwaiting : PairionAudioPlayback.waiting env p e = p.jitterBuffer := by
    simp [PairionAudioPlayback.waiting, he, hqueues]
  rw [(step_spec env p e).jitterBuffer, writes, hwaiting]
  by_cases htick : ∃ accepts, e = .drainTick accepts
  · obtain ⟨accepts, rfl⟩ := htick
    cases htimer : p.drainTimer with
    | true =>
      have hanswers : answers env p (.drainTick accepts) = some accepts := by simp [answers, h.audioDevice, htimer]
      rw [hanswers]
      exact writeLoop_progress h.fit.bytes (htakes accepts rfl)
    | false =>
      have hempty : p.jitterBuffer = [] := by
        by_contra hne
        rw [h.drainTimer hne] at htimer
        cases htimer
      rw [hempty]
      split <;> exact Nat.zero_le _
  · have hzero : e.ticks = 0 := by
      cases e with
      | drainTick accepts => exact absurd ⟨accepts, rfl⟩ htick
      | _ => rfl
    rw [hzero]
    split
    · have hle := congrArg List.length (writeLoop_conserves p.jitterBuffer ‹_›)
      rw [List.length_append] at hle
      omega
    · exact Nat.le_refl _

/-- A tick that takes a byte brings the drain one byte further. -/
theorem Draining.step (h : Draining n p) (he : e.closes = false) (hqueues : queues env p e = [])
    (htakes : ∀ accepts, e = .drainTick accepts → 0 < accepts.headD 0) : Draining (n - e.ticks) (p.step env e) where
  fit := h.fit.step (by simp [hqueues])
  audioDevice := h.fit.audioDevice_step h.audioDevice he
  drainTimer := drainTimer_step h.drainTimer he hqueues
  waiting := (waiting_step h he hqueues htakes).trans (Nat.sub_le_sub_right h.waiting _)
  silent := by simp [(step_spec env p e).isSpeaking, hqueues, h.silent]

end PairionAudioPlayback

namespace Session

variable {env : Env} {s : Session} {e : Event}

/-- The payload that a binary frame hands to the playback. -/
def Event.payload : Event → Option Bytes
  | .binaryFrame frame _ =>
    let payload := (BinaryCodec.decodeBinaryFrame frame).payload
    if payload = [] then none else some payload
  | _ => none

/-- The step closes the playback: a barge-in, or a stream that does not end normally. -/
def Resets (s : Session) (e : Event) : Prop := ∃ d ∈ s.playbackEvent e, d.closes = true

/-- A step that plays on: it brings no frame and does not close the playback, and a device that the drain timer writes to
takes a byte. -/
def PlaysOn (s : Session) (e : Event) : Prop :=
  ¬Resets s e ∧ e.payload = none ∧ ∀ accepts, e = .drainTick accepts → 0 < accepts.headD 0

def Event.ticks : Event → Nat
  | .drainTick _ => 1
  | _ => 0

/-- The steps of the session that are steps of its playback. -/
theorem playbackEvent_cases {d : PairionAudioPlayback.Event} (hd : s.playbackEvent e = some d) :
    (∃ preRoll, e = .bargeInTimeout preRoll ∧ d = .stop) ∨
      (∃ streamId opened accepts, e = .audioStreamStartOut streamId opened accepts ∧ d = .preparePlayback opened accepts) ∨
      (∃ frame accepts payload, e = .binaryFrame frame accepts ∧ e.payload = some payload ∧
        d = .handleOpusFrame s.orchestrator.now payload accepts) ∨
      (∃ streamId reason, e = .audioStreamEndOut streamId reason ∧ d = .handleStreamEnd reason) ∨
      (e = .silenceTimeout ∧ d = .silenceTimeout s.orchestrator.now) ∨
      ∃ accepts, e = .drainTick accepts ∧ d = .drainTick accepts := by
  cases e with
  | client e => cases hd
  | bargeInTimeout preRoll =>
    rw [playbackEvent] at hd
    split at hd
    · exact Or.inl ⟨preRoll, rfl, (Option.some.inj hd).symm⟩
    · cases hd
  | audioStreamStartOut streamId opened accepts =>
    exact Or.inr (Or.inl ⟨streamId, opened, accepts, rfl, (Option.some.inj hd).symm⟩)
  | binaryFrame frame accepts =>
    simp only [playbackEvent] at hd
    split at hd
    · cases hd
    · rename_i hne
      exact Or.inr (Or.inr (Or.inl ⟨frame, accepts, _, rfl, if_neg hne, (Option.some.inj hd).symm⟩))
  | audioStreamEndOut streamId reason =>
    exact Or.inr (Or.inr (Or.inr (Or.inl ⟨streamId, reason, rfl, (Option.some.inj hd).symm⟩)))
  | silenceTimeout => exact Or.inr (Or.inr (Or.inr (Or.inr (Or.inl ⟨rfl, (Option.some.inj hd).symm⟩))))
  | drainTick accepts => exact Or.inr (Or.inr (Or.inr (Or.inr (Or.inr ⟨accepts, rfl, (Option.some.inj hd).symm⟩))))

/-- What does not reach the playback brings no packet. -/
theorem payload_of_none (h : s.playbackEvent e = none) : e.payload = none := by
  cases e with
  | binaryFrame frame accepts =>
    simp only [playbackEvent, Event.payload] at h ⊢
    split at h
    · rename_i hnil
      rw [if_pos hnil]
    · cases h
  | _ => rfl

/-- What a step of the session queues. -/
theorem queues_playbackEvent (env : Env) {d : PairionAudioPlayback.Event} (hd : s.playbackEvent e = some d) :
    PairionAudioPlayback.queues env s.playback d = s.playback.decoder.decodeFrames env e.payload.toList := by
  rcases playbackEvent_cases hd with ⟨_, rfl, rfl⟩ | ⟨_, _, _, rfl, rfl⟩ | ⟨_, _, payload, _, hpayload, rfl⟩ |
    ⟨_, _, rfl, rfl⟩ | ⟨rfl, rfl⟩ | ⟨_, rfl, rfl⟩
  case inr.inr.inl =>
    rw [hpayload]
    simp only [PairionAudioPlayback.queues, Option.toList_some, PairionOpusDecoder.decodeFrames, List.append_nil]
    rcases s.playback.decoder.decodeOpusFrame env payload with ⟨decoder, pcm | reason⟩ <;> rfl
  all_goals rfl

/-- The decoder after a step. -/
theorem decoder_step (env : Env) (s : Session) (e : Event) :
    (step env s e).playback.decoder =
      match e.payload with
      | some payload => (s.playback.decoder.decodeOpusFrame env payload).1
      | none => s.playback.decoder := by
  rw [playback_step]
  cases hd : s.playbackEvent e with
  | none => rw [payload_of_none hd]
  | some d =>
    dsimp only
    rw [PairionAudioPlayback.decoder_step]
    rcases playbackEvent_cases hd with ⟨_, rfl, rfl⟩ | ⟨_, _, _, rfl, rfl⟩ | ⟨_, _, _, _, hpayload, rfl⟩ |
      ⟨_, _, rfl, rfl⟩ | ⟨rfl, rfl⟩ | ⟨_, rfl, rfl⟩
    case inr.inr.inl => rw [hpayload]
    all_goals rfl

/-- A step that does not close the playback adds what its frame decodes to. -/
theorem plays_step (env : Env) (he : ¬Resets s e) :
    ∃ accepted, PairionAudioPlayback.pcmBytes (step env s e).playback.output =
        PairionAudioPlayback.pcmBytes s.playback.output ++ accepted ∧
      accepted ++ (step env s e).playback.jitterBuffer.flatten =
        s.playback.jitterBuffer.flatten ++ (s.playback.decoder.decodeFrames env e.payload.toList).flatten := by
  rw [playback_step]
  cases hd : s.playbackEvent e with
  | none =>
    rw [payload_of_none hd]
    exact ⟨[], by simp, by simp [PairionOpusDecoder.decodeFrames]⟩
  | some d =>
    have hcloses : d.closes = false := Bool.eq_false_iff.2 fun hc => he ⟨d, hd, hc⟩
    rw [← queues_playbackEvent env hd]
    exact PairionAudioPlayback.step_conserves env s.playback hcloses

/-- Frames after frames. -/
theorem decodeFrames_step (env : Env) (s : Session) (e : Event) (es : List Event) :
    s.playback.decoder.decodeFrames env ((e :: es).filterMap Event.payload) =
      s.playback.decoder.decodeFrames env e.payload.toList ++
        (step env s e).playback.decoder.decodeFrames env (es.filterMap Event.payload) := by
  rw [decoder_step]
  cases hp : e.payload with
  | none => rw [List.filterMap_cons_none hp]; rfl
  | some payload =>
    rw [List.filterMap_cons_some hp]
    simp [PairionOpusDecoder.decodeFrames]

/-- Over a run without reset, what the device has accepted and what waits are what waited and what the packets decode to.
-/
theorem plays_run (env : Env) {es : List Event} (hes : EveryStep (step env) (fun s e => ¬Resets s e) s es) :
    ∃ accepted, PairionAudioPlayback.pcmBytes (run (step env) s es).playback.output =
        PairionAudioPlayback.pcmBytes s.playback.output ++ accepted ∧
      accepted ++ (run (step env) s es).playback.jitterBuffer.flatten =
        s.playback.jitterBuffer.flatten ++ (s.playback.decoder.decodeFrames env (es.filterMap Event.payload)).flatten := by
  induction es generalizing s with
  | nil => exact ⟨[], by simp, by simp [PairionOpusDecoder.decodeFrames]⟩
  | cons e es ih =>
    obtain ⟨he, hes⟩ := hes
    obtain ⟨first, hout, hfirst⟩ := plays_step env he
    obtain ⟨accepted, hout', hrest⟩ := ih hes
    refine ⟨first ++ accepted, by rw [run_cons, hout', hout, List.append_assoc], ?_⟩
    rw [run_cons, List.append_assoc, hrest, ← List.append_assoc, hfirst, decodeFrames_step, List.flatten_append,
      List.append_assoc]

/-- What libopus decodes has bytes. -/
def GivesPcm (env : Env) : Prop := ∀ history packet pcm, env.opusDecode history packet = .ok pcm → pcm ≠ []

/-- No frame that a packet of a reply decodes to is empty. -/
theorem ne_nil_of_givesPcm (h : GivesPcm env) {packets : List Bytes} {dec : PairionOpusDecoder} :
    ∀ pcm ∈ dec.decodeFrames env packets, pcm ≠ [] := by
  induction packets generalizing dec with
  | nil => simp [PairionOpusDecoder.decodeFrames]
  | cons packet packets ih =>
    intro pcm hpcm
    rcases List.mem_append.1 hpcm with hfirst | hrest
    · unfold PairionOpusDecoder.decodeOpusFrame at hfirst
      dsimp only at hfirst
      split at hfirst
      · simp [DecoderSignal.pcm] at hfirst
      · split at hfirst
        · rename_i decoded hok
          obtain rfl : pcm = decoded := by simpa [DecoderSignal.pcm] using hfirst
          exact h _ _ _ hok
        · simp [DecoderSignal.pcm] at hfirst
    · exact ih pcm hrest

/-- Every event of the session keeps the playback fit. -/
theorem fit_step (h : GivesPcm env) (s : Session) (e : Event) (hfit : s.playback.Fit) : (step env s e).playback.Fit := by
  rw [playback_step]
  cases hd : s.playbackEvent e with
  | none => exact hfit
  | some d => exact hfit.step (by rw [queues_playbackEvent env hd]; exact ne_nil_of_givesPcm h)

/-- An event that plays on brings the drain further by its ticks. -/
theorem draining_step {n : Nat} (h : s.playback.Draining n) (he : PlaysOn s e) :
    (step env s e).playback.Draining (n - e.ticks) := by
  obtain ⟨hresets, hpayload, htakes⟩ := he
  rw [playback_step]
  cases hd : s.playbackEvent e with
  | none =>
    have hzero : e.ticks = 0 := by
      cases e with
      | drainTick accepts => cases hd
      | _ => rfl
    rw [hzero]
    exact h
  | some d =>
    have hqueues : PairionAudioPlayback.queues env s.playback d = [] := by
      rw [queues_playbackEvent env hd, hpayload]
      rfl
    have hticks : d.ticks = e.ticks ∧ ∀ accepts, d = .drainTick accepts → 0 < accepts.headD 0 := by
      rcases playbackEvent_cases hd with ⟨_, rfl, rfl⟩ | ⟨_, _, _, rfl, rfl⟩ | ⟨_, _, _, rfl, -, rfl⟩ |
        ⟨_, _, rfl, rfl⟩ | ⟨rfl, rfl⟩ | ⟨taken, rfl, rfl⟩
      case inr.inr.inr.inr.inr =>
        refine ⟨rfl, ?_⟩
        rintro accepts ⟨⟩
        exact htakes taken rfl
      all_goals exact ⟨rfl, by simp⟩
    rw [← hticks.1]
    exact h.step (Bool.eq_false_iff.2 fun hc => hresets ⟨d, hd, hc⟩) hqueues hticks.2

/-- A run that plays on brings it further by all its ticks. -/
theorem draining_run {n : Nat} {es : List Event} (h : s.playback.Draining n) (hes : EveryStep (step env) PlaysOn s es) :
    (run (step env) s es).playback.Draining (n - (es.map Event.ticks).sum) := by
  induction es generalizing s n with
  | nil => exact h
  | cons e es ih =>
    rw [List.map_cons, List.sum_cons, ← Nat.sub_sub]
    exact ih (draining_step h hes.1) hes.2

theorem payload_of_playsOn {es : List Event} (hes : EveryStep (step env) PlaysOn s es) : es.filterMap Event.payload = [] := by
  induction es generalizing s with
  | nil => rfl
  | cons e es ih => rw [List.filterMap_cons_none hes.1.2.1, ih hes.2]

/-- From any state that a session reaches: the frames of a reply come, with anything in between that does not close the
playback; the stream ends normally, with the device open; and the drain timer ticks, with a device that takes a byte at
each tick. Once it has ticked as often as bytes were waiting, the device has accepted what was waiting before the reply,
and then all that the frames decode to, in order, and the playback is silent with an empty buffer. -/
theorem reply_played (env : Env) (hgives : GivesPcm env) (o : AudioSessionOrchestrator) (opened : Bool)
    (before es rest : List Event) (streamId : String) :
    let start := run (step env) ⟨o, .create opened⟩ before
    let last := run (step env) start es
    let ended := step env last (.audioStreamEndOut streamId "normal")
    let played := run (step env) ended rest
    EveryStep (step env) (fun s e => ¬Resets s e) start es → last.playback.audioDevice = true →
      EveryStep (step env) PlaysOn ended rest → last.playback.jitterBuffer.flatten.length ≤ (rest.map Event.ticks).sum →
        PairionAudioPlayback.pcmBytes played.playback.output =
            PairionAudioPlayback.pcmBytes start.playback.output ++ start.playback.jitterBuffer.flatten ++
              (start.playback.decoder.decodeFrames env (es.filterMap Event.payload)).flatten ∧
          played.playback.jitterBuffer = [] ∧ played.playback.isSpeaking = false := by
  intro start last ended played hes hopen hrest hticks
  have hfit : last.playback.Fit := by
    have hcreated : (Session.mk o (.create opened)).playback.Fit := PairionAudioPlayback.fit_create opened
    exact inv_run_of_step _ (fit_step hgives) es (inv_run_of_step _ (fit_step hgives) before hcreated)
  have hended : ended.playback.Draining last.playback.jitterBuffer.flatten.length := by
    have hplayback : ended.playback = last.playback.step env (.handleStreamEnd "normal") := playback_step env last _
    rw [hplayback]
    exact PairionAudioPlayback.draining_handleStreamEnd hfit hopen
  have hplayed : played.playback.Draining 0 := by
    have hrun := draining_run hended hrest
    rwa [Nat.sub_eq_zero_of_le hticks] at hrun
  have hempty : played.playback.jitterBuffer = [] := by
    by_contra hne
    obtain ⟨pcm, hpcm⟩ := List.exists_mem_of_ne_nil _ hne
    have hbytes := List.length_eq_zero_iff.1 (Nat.le_zero.1 hplayed.waiting)
    exact hplayed.fit.bytes pcm hpcm (List.flatten_eq_nil_iff.1 hbytes pcm hpcm)
  -- the whole run, in which nothing closes the playback
  have hall : EveryStep (step env) (fun s e => ¬Resets s e) start (es ++ .audioStreamEndOut streamId "normal" :: rest) := by
    refine (everyStep_append _ _ _).2 ⟨hes, ?_, hrest.mono fun s e h => h.1⟩
    rintro ⟨d, hd, hcloses⟩
    cases hd
    simp [PairionAudioPlayback.Event.closes] at hcloses
  have hpayloads : (es ++ Event.audioStreamEndOut streamId "normal" :: rest).filterMap Event.payload =
      es.filterMap Event.payload := by
    rw [List.filterMap_append, List.filterMap_cons_none rfl, payload_of_playsOn hrest, List.append_nil]
  obtain ⟨accepted, hout, hbytes⟩ := plays_run env hall
  have hend : run (step env) start (es ++ .audioStreamEndOut streamId "normal" :: rest) = played := by
    rw [run_append, run_cons]
  rw [hend] at hout hbytes
  rw [hempty, List.flatten_nil, List.append_nil, hpayloads] at hbytes
  exact ⟨by rw [hout, hbytes, List.append_assoc], hempty, hplayed.silent⟩

/-- A device that falls three bytes behind two frames of silence; the rest goes to three ticks, of one byte each. -/
theorem reply_played_slow_sink :
    let start := run (step .silence) ⟨.create {} { socket := .connected } {}, .create true⟩
      [.audioStreamStartOut "c9bf9e57-1685-4c89-bafb-ff5af830be8a" true [4800]]
    let frame : List Nat → Event := .binaryFrame [0xc9, 0xbf, 0x9e, 0x57, 0xf8, 0xff, 0xfe]
    let last := run (step .silence) start [frame [1918], frame [2, 1917]]
    let ended := step .silence last (.audioStreamEndOut "c9bf9e57-1685-4c89-bafb-ff5af830be8a" "normal")
    last.playback.jitterBuffer = [[0, 0, 0]] ∧
      PairionAudioPlayback.pcmBytes
          (run (step .silence) ended [.drainTick [1], .drainTick [1, 1], .drainTick [2]]).playback.output =
        List.replicate 3840 0 := by
  intro start frame last ended
  have hgives : GivesPcm .silence := by
    intro history packet pcm hok
    cases hok
    exact List.cons_ne_nil _ _
  have hwaits : last.playback.jitterBuffer = [[0, 0, 0]] := by decide +kernel
  have hplayed := reply_played .silence hgives (.create {} { socket := .connected } {}) true
    [.audioStreamStartOut "c9bf9e57-1685-4c89-bafb-ff5af830be8a" true [4800]] [frame [1918], frame [2, 1917]]
    [.drainTick [1], .drainTick [1, 1], .drainTick [2]] "c9bf9e57-1685-4c89-bafb-ff5af830be8a" ⟨?_, ?_, trivial⟩ rfl
    ⟨⟨?_, rfl, ?_⟩, ⟨?_, rfl, ?_⟩, ⟨?_, rfl, ?_⟩, trivial⟩ (by rw [hwaits]; decide)
  · refine ⟨hwaits, hplayed.1.trans ?_⟩
    show [] ++ [] ++ [List.replicate 1920 0, List.replicate 1920 0].flatten = List.replicate 3840 (0 : UInt8)
    simp only [List.flatten_cons, List.flatten_nil, List.append_nil, List.nil_append, List.replicate_append_replicate]
  all_goals first
    | rintro ⟨d, hd, hcloses⟩
      cases hd
      cases hcloses
    | rintro accepts ⟨⟩
      decide

end Session

end PairionClient
