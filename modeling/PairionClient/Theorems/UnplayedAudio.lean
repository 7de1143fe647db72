import PairionClient.Lemmas.Playback
import PairionClient.Lemmas.Session

/-!
# Audio that is not played yet

The playback reports "idle" when the stream ends or no frame comes for a while, whatever its jitter buffer holds; the drain
timer writes the rest of a stream that has ended. What this leaves of the orchestrator's PlayingBack.
-/

namespace PairionClient

open Transition

namespace PairionAudioPlayback

/-- A playback that is not speaking has nothing left to write. -/
def SpeakingCovers (p : PairionAudioPlayback) : Prop := p.isSpeaking = false → p.jitterBuffer = []

/-- A step that makes the playback silent and leaves what waits in the jitter buffer: the silence timer, or the normal end
of a stream. -/
def LeavesTail (p : PairionAudioPlayback) (e : Event) : Prop :=
  e.silences p = true ∧ e.closes = false ∧ p.jitterBuffer ≠ []

theorem writes_nil (env : Env) {p : PairionAudioPlayback} {e : Event} (h : waiting env p e = []) :
    (writes env p e).1 = [] := by
  unfold writes
  rw [h]
  split <;> rfl

/-- A step that leaves no tail keeps waiting audio covered by speaking. -/
theorem speakingCovers_step (env : Env) {p : PairionAudioPlayback} {e : Event} (h : SpeakingCovers p)
    (he : ¬LeavesTail p e) : SpeakingCovers (p.step env e) := by
  intro hsilent
  obtain ⟨hbuffer, -, -, hspeaking⟩ := step_spec env p e
  rw [hspeaking] at hsilent
  simp only [Bool.or_eq_false_iff, decide_eq_false_iff_not, not_not] at hsilent
  obtain ⟨hqueues, hsilent⟩ := hsilent
  rw [hbuffer]
  refine writes_nil env ?_
  cases hcloses : e.closes with
  | true => simp [waiting, hcloses]
  | false =>
    have hnil : p.jitterBuffer = [] := by
      cases hs : e.silences p with
      | true => exact not_not.1 fun hne => he ⟨hs, hcloses, hne⟩
      | false =>
        refine h ?_
        simpa [hs] using hsilent
    simp [waiting, hcloses, hnil, hqueues]

/-- The steps that make the playback silent queue nothing and write nothing. -/
theorem writes_of_silences (env : Env) {p : PairionAudioPlayback} {e : Event} (hs : e.silences p = true)
    (hc : e.closes = false) : queues env p e = [] ∧ (writes env p e).1 = p.jitterBuffer := by
  have hanswers : answers env p e = none := by
    unfold answers
    split
    · rfl
    · cases e with
      | stop => rfl
      | handleStreamEnd reason => rfl
      | silenceTimeout now => rfl
      | _ => cases hs
  have hqueues : queues env p e = [] := by
    cases e with
    | stop => rfl
    | handleStreamEnd reason => rfl
    | silenceTimeout now => rfl
    | _ => cases hs
  exact ⟨hqueues, by simp [writes, hanswers, waiting, hc, hqueues]⟩

/-- A step that leaves a tail breaks it. -/
theorem not_speakingCovers_step (env : Env) {p : PairionAudioPlayback} {e : Event} (he : LeavesTail p e) :
    ¬SpeakingCovers (p.step env e) := by
  obtain ⟨hs, hc, hne⟩ := he
  obtain ⟨hbuffer, -, -, hspeaking⟩ := step_spec env p e
  obtain ⟨hqueues, hwrites⟩ := writes_of_silences env hs hc
  intro hcovers
  have hsilent : (p.step env e).isSpeaking = false := by simp [hspeaking, hqueues, hs]
  have hnil := hcovers hsilent
  rw [hbuffer, hwrites] at hnil
  exact hne hnil

end PairionAudioPlayback

namespace AudioSessionOrchestrator

/-- In PlayingBack the threshold is the raised one. -/
def RaisedInPlayback (o : AudioSessionOrchestrator) : Prop :=
  o.state = .playingBack → o.vad.threshold = kBargeInVadThreshold

/-- Every event keeps the threshold raised during a reply. -/
theorem raisedInPlayback_step (env : Env) {o : AudioSessionOrchestrator} (h : RaisedInPlayback o) (e : Event) :
    RaisedInPlayback (step env o e) := by
  intro hs'
  obtain ⟨hstate, -, -, -, hthresholds⟩ := step_spec env o e
  have hsource := move_source env o e
  have hvad : (step env o e).vad.threshold = ((move env o e).thresholds o).1 := by rw [← hthresholds]
  rw [hstate] at hs'
  rw [hvad]
  cases hm : move env o e with rw [hm] at hs' hsource
  | stay => exact h hs'
  | sendFrame opusFrame => exact h hs'
  | endStream reason playback =>
    cases playback with
    | true => rfl
    | false => cases hs'
  | playBack => rfl
  | _ => cases hs'

end AudioSessionOrchestrator

namespace Session

open AudioSessionOrchestrator (due RaisedInPlayback)

/-! ## The playback of a session -/

/-- What a step of the session is for its playback. -/
def playbackEvent (s : Session) : Event → Option PairionAudioPlayback.Event
  | .client _ => none
  | .bargeInTimeout _ =>
    if due s.orchestrator.bargeInTimer s.orchestrator.now ∧ s.orchestrator.state = .playingBack then some .stop else none
  | .audioStreamStartOut _ opened accepts => some (.preparePlayback opened accepts)
  | .binaryFrame frame accepts =>
    let payload := (BinaryCodec.decodeBinaryFrame frame).payload
    if payload = [] then none else some (.handleOpusFrame s.orchestrator.now payload accepts)
  | .audioStreamEndOut _ reason => some (.handleStreamEnd reason)
  | .silenceTimeout => some (.silenceTimeout s.orchestrator.now)
  | .drainTick accepts => some (.drainTick accepts)

/-- The session's playback follows the events that reach it. -/
theorem playback_step (env : Env) (s : Session) (e : Event) :
    (step env s e).playback =
      match s.playbackEvent e with
      | some d => s.playback.step env d
      | none => s.playback := by
  cases e with
  | client e =>
    rw [step]
    split <;> rfl
  | bargeInTimeout preRoll =>
    rw [step, onBargeInTimeout, playbackEvent]
    split <;> rfl
  | binaryFrame frame accepts =>
    rw [step, onInboundAudio, playbackEvent]
    split <;> rfl
  | silenceTimeout =>
    rw [step]
    split
    · rename_i hdue
      exact (if_pos hdue).symm
    · rename_i hdue
      exact (if_neg hdue).symm
  | audioStreamStartOut streamId opened accepts => rfl
  | audioStreamEndOut streamId reason => rfl
  | drainTick accepts => rfl

/-- The step makes the playback silent and leaves what waits in its jitter buffer. -/
def LeavesTail (s : Session) (e : Event) : Prop := ∃ d, s.playbackEvent e = some d ∧ s.playback.LeavesTail d

/-- The step parks the orchestrator: a disconnect, an error of the pipeline or a shutdown. -/
def Parks (e : Event) : Prop := ∃ d, e = .client d ∧ d.parks = true

/-- While decoded audio waits, a step from PlayingBack stays there, unless it parks the orchestrator, and does not lower
the threshold. -/
def PlaysOut (env : Env) (s : Session) (e : Event) : Prop :=
  s.orchestrator.state = .playingBack → (step env s e).playback.jitterBuffer ≠ [] →
    ((step env s e).orchestrator.state = .playingBack ∨ Parks e) ∧
      s.orchestrator.vad.threshold ≤ (step env s e).orchestrator.vad.threshold

theorem speakingCovers_session_step (env : Env) {s : Session} {e : Event} (h : s.playback.SpeakingCovers)
    (he : ¬LeavesTail s e) : (step env s e).playback.SpeakingCovers := by
  rw [playback_step]
  cases hd : s.playbackEvent e with
  | none => exact h
  | some d => exact PairionAudioPlayback.speakingCovers_step env h fun hl => he ⟨d, hd, hl⟩

/-- Every event of the session keeps the threshold raised during a reply. -/
theorem raisedInPlayback_session_step (env : Env) {s : Session} (h : RaisedInPlayback s.orchestrator) (e : Event) :
    RaisedInPlayback (step env s e).orchestrator := by
  obtain ⟨es, hes⟩ := orchestrator_step env s e
  rw [hes]
  exact inv_run_of_step RaisedInPlayback (fun _ d hr => AudioSessionOrchestrator.raisedInPlayback_step env hr d) es h

/-- What takes the orchestrator out of PlayingBack: parking, which leaves the threshold, or a playback that goes silent.
-/
theorem leaves_playingBack (env : Env) {s : Session} (hs : s.orchestrator.state = .playingBack) (e : Event) :
    (step env s e).orchestrator.state = .playingBack ∨
      (Parks e ∧ (step env s e).orchestrator.vad.threshold = s.orchestrator.vad.threshold) ∨
      (step env s e).playback.isSpeaking = false := by
  cases e with
  | client d =>
    rw [step]
    split
    · rename_i hclient
      obtain ⟨hstate, -, -, -, hthresholds⟩ := AudioSessionOrchestrator.step_spec env s.orchestrator d
      cases hp : d.parks with
      | true =>
        right; left
        rw [(AudioSessionOrchestrator.move_eq_park_iff env s.orchestrator d).2 hp] at hthresholds
        exact ⟨⟨d, rfl, hp⟩, congrArg Prod.fst hthresholds⟩
      | false =>
        left
        dsimp only
        rw [hstate]
        cases d <;> simp [isClient, AudioSessionOrchestrator.Event.parks] at hclient hp <;>
          simp [AudioSessionOrchestrator.move, hs, AudioSessionOrchestrator.Move.target]
    · exact Or.inl hs
  | bargeInTimeout preRoll =>
    by_cases hdue : due s.orchestrator.bargeInTimer s.orchestrator.now = true
    · right; right
      rw [step, onBargeInTimeout]
      simp [hs, hdue, PairionAudioPlayback.stop]
    · left
      rw [step, onBargeInTimeout, (AudioSessionOrchestrator.step_spec env s.orchestrator _).state]
      simp [AudioSessionOrchestrator.move, hs, hdue, AudioSessionOrchestrator.Move.target]
  | audioStreamStartOut streamId opened accepts => exact Or.inl hs
  | binaryFrame frame accepts =>
    left
    rw [step, onInboundAudio]
    split
    · exact hs
    · rcases PairionAudioPlayback.handleOpusFrame_spec env s.orchestrator.now
        (BinaryCodec.decodeBinaryFrame frame).payload accepts s.playback with ⟨-, hsignals⟩ | ⟨-, reason, hsignals⟩
      · rw [afterPlayback, hsignals]
        cases s.playback.isSpeaking with
        | true => exact hs
        | false =>
          have hspec := AudioSessionOrchestrator.step_spec env s.orchestrator (.speakingStateChanged "speaking")
          refine hspec.state.trans ?_
          simp [AudioSessionOrchestrator.move, hs, AudioSessionOrchestrator.Move.target]
      · rw [afterPlayback, hsignals]
        exact hs
  | audioStreamEndOut streamId reason => exact Or.inr (Or.inr (PairionAudioPlayback.isSpeaking_handleStreamEnd reason _))
  | silenceTimeout =>
    rw [step]
    split
    · exact Or.inr (Or.inr (PairionAudioPlayback.isSpeaking_goIdle _))
    · exact Or.inl hs
  | drainTick accepts => exact Or.inl hs

/-- With the threshold raised, and waiting audio covered by speaking, a reply plays out. -/
theorem playsOut_of_inv (env : Env) {s : Session} {e : Event} (hraised : RaisedInPlayback s.orchestrator)
    (hcovers : (step env s e).playback.SpeakingCovers) : PlaysOut env s e := by
  intro hs hwaits
  rcases leaves_playingBack env hs e with hstays | ⟨hparks, hsame⟩ | hsilent
  · have hraised' := raisedInPlayback_session_step env hraised e hstays
    rw [hraised hs, hraised']
    exact ⟨Or.inl hstays, Rat.le_refl⟩
  · rw [hsame]
    exact ⟨Or.inr hparks, Rat.le_refl⟩
  · exact absurd (hcovers hsilent) hwaits

end Session

/-- A playback that is not speaking has nothing left to write, in every state of a run, exactly when no silence timeout
and no normal stream end of the run leaves anything in the jitter buffer. In a session in which none does, the
orchestrator neither leaves PlayingBack, unless it is parked, nor lowers the threshold while decoded audio waits. -/
theorem speaking_covers_iff (env : Env) (opened : Bool) :
    (∀ es : List PairionAudioPlayback.Event,
      Always (PairionAudioPlayback.step env) PairionAudioPlayback.SpeakingCovers (.create opened) es ↔
        EveryStep (PairionAudioPlayback.step env) (fun p e => ¬p.LeavesTail e) (.create opened) es) ∧
      ∀ (vad : SileroVad) (wsClient : PairionWebSocketClient) (connState : ConnectionState) (es : List Session.Event),
        EveryStep (Session.step env) (fun s e => ¬s.LeavesTail e) ⟨.create vad wsClient connState, .create opened⟩ es →
          EveryStep (Session.step env) (Session.PlaysOut env) ⟨.create vad wsClient connState, .create opened⟩ es := by
  constructor
  · intro es
    refine always_iff_everyStep (fun _ => True) PairionAudioPlayback.SpeakingCovers (fun _ h => h) ?_ ?_ (fun _ _ => trivial)
      (fun _ => rfl)
    · exact fun p e _ h he => PairionAudioPlayback.speakingCovers_step env h he
    · exact fun p e _ _ he => PairionAudioPlayback.not_speakingCovers_step env (not_not.1 he)
  · intro vad wsClient connState es hes
    refine hes.of_inv
      (fun s => s.playback.SpeakingCovers ∧ AudioSessionOrchestrator.RaisedInPlayback s.orchestrator) ?_ ⟨fun _ => rfl, nofun⟩
    rintro s e ⟨hcovers, hraised⟩ he
    have hcovers' := Session.speakingCovers_session_step env hcovers he
    exact ⟨⟨hcovers', Session.raisedInPlayback_session_step env hraised e⟩,
      Session.playsOut_of_inv env hraised hcovers'⟩

/-- A reply of one frame that the sink takes whole before the stream ends. -/
theorem speaking_covers_iff_reply :
    EveryStep (Session.step .silence) (Session.PlaysOut .silence)
      ⟨.create {} { socket := .connected } {}, .create true⟩
      [.client .startListening, .audioStreamStartOut "c9bf9e57-1685-4c89-bafb-ff5af830be8a" true [4800],
        .binaryFrame [0xc9, 0xbf, 0x9e, 0x57, 0xf8, 0xff, 0xfe] [1920],
        .audioStreamEndOut "c9bf9e57-1685-4c89-bafb-ff5af830be8a" "normal"] := by
  refine (speaking_covers_iff .silence true).2 {} { socket := .connected } {} _ ⟨?_, ?_, ?_, ?_, trivial⟩
  · rintro ⟨d, hd, -⟩
    cases hd
  · rintro ⟨d, hd, hs, -⟩
    cases hd
    cases hs
  · rintro ⟨d, hd, -, -, hne⟩
    exact hne (by decide +kernel)
  · rintro ⟨d, hd, -, -, hne⟩
    exact hne (by decide +kernel)

/-- The server sends faster than the sink plays, and the stream ends: the playback is idle, and a frame waits. -/
theorem speaking_covers_false :
    ¬∀ (env : Env) (opened : Bool) (es : List PairionAudioPlayback.Event),
      Always (PairionAudioPlayback.step env) PairionAudioPlayback.SpeakingCovers (.create opened) es := by
  intro h
  have hcovers := h .silence true
    [.preparePlayback true [4800], .handlePcmFrame 0 [1, 2] [2], .handlePcmFrame 1 [3, 4] [0], .handleStreamEnd "normal"] _
    (List.prefix_refl _)
  exact absurd (hcovers (by decide)) (by decide)

end PairionClient
