import PairionClient.Lemmas.ConnectionLog

/-!
# Audio only in a session

Between the connection of the socket and the session that the server opens on it, the socket is connected and the client is
not known yet. The orchestrators are kept Idle in between by the disconnect before it; a pipeline that is started in between
is not.
-/

namespace PairionClient

open Transition

namespace Application

variable (E : ApplicationEnv)

/-- A permission, a reply or a retry starts a pipeline before the session of the connection is open. A socket that is
closing does not count: it parks the orchestrators once it is closed. -/
def StartsOutsideSession (t : Traced) : Event → Prop
  | .startup (.sessionOpened _) => False
  | .startup e =>
    Starts E t.application e = true ∧ .sessionOpened ∉ t.log ∧ t.application.connection.client.socket ≠ .closing
  | _ => False

/-! ## Without a session -/

/-- What holds while no pipeline is started outside a session: audio goes out in a session only, and outside a session the
orchestrators are Idle. -/
structure Gate (t : Traced) : Prop extends Linked t where
  gated : Gated t.log
  idle : .sessionOpened ∉ t.log → t.application.connection.client.socket ≠ .closing → t.application.Idle

/-- An orchestrator that is Idle, or whose socket is closing, sends nothing. -/
theorem newFrames_orchestrator {a : Application} (h : a.connection.client.socket = .closing ∨ a.Idle) (i : Nat)
    (e : AudioSessionOrchestrator.Event) : newFrames a (a.step E (.orchestrator i e)) = [] := by
  refine newFrames_eq ?_
  rw [List.append_nil]
  simp only [step]
  split
  · rename_i hown
    cases hi : a.orchestrators[i]? with
    | none => rw [slot_none hi]
    | some o =>
      rw [slot_eq hi]
      show ((a.lend o).step E.toEnv e).wsClient.sent = (a.lend o).wsClient.sent
      rcases h with hclosing | hidle
      · have hconnected : (a.lend o).wsClient.isConnected = false := by
          show decide (a.connection.client.socket = .connected) = false
          rw [hclosing]
          rfl
        rw [(AudioSessionOrchestrator.step_spec E.toEnv (a.lend o) e).sent, PairionWebSocketClient.puts, hconnected]
        rfl
      · have hs : (a.lend o).state = .idle := hidle o (List.mem_of_getElem? hi)
        exact (own_of_idle E.toEnv hown hs).2
  · rfl

/-- Outside a session an orchestrator that is given an event stays idle. -/
theorem idle_orchestrator {a : Application} (h : a.Idle) (i : Nat) (e : AudioSessionOrchestrator.Event) :
    (a.step E (.orchestrator i e)).Idle := by
  simp only [step]
  split
  · rename_i hown
    exact idle_slot (fun o hs => (own_of_idle E.toEnv hown hs).1) h i
  · exact h

/-- A text message opens a session, or changes nothing here. -/
theorem text_cases (outcome : InitOutcome) (a : Application) (message : String) :
    opened (a.connection.stepWith E.fromJson (.textMessageReceived message)).2 = [.sessionOpened] ∨
      (opened (a.connection.stepWith E.fromJson (.textMessageReceived message)).2 = [] ∧
        (a.connection.stepWith E.fromJson (.textMessageReceived message)).2.foldl (onConnectionSignal E outcome)
          { a with connection := (a.connection.stepWith E.fromJson (.textMessageReceived message)).1 } = a) := by
  rw [ServerConnection.stepWith, ServerConnection.onTextMessageReceived]
  cases EnvelopeCodec.deserializeFromString E.fromJson message with
  | none => exact Or.inr ⟨rfl, rfl⟩
  | some msg =>
    cases msg with
    | sessionOpened sessionId serverVersion => exact Or.inl rfl
    | _ => exact Or.inr ⟨rfl, rfl⟩

/-- An event of the socket keeps the gate. -/
theorem gate_socket {t : Traced} (h : Gate t) {e : ServerConnection.Event}
    (he : occurs t.application.connection.client.socket e = true) (outcome : InitOutcome) :
    Gate (t.step E (.socket e outcome)) := by
  have hlinked := linked_socket E h.toLinked he outcome
  have hconnection := connection_socket E he outcome
  have hstep : t.application.step E (.socket e outcome) =
      (t.application.connection.stepWith E.fromJson e).2.foldl (onConnectionSignal E outcome)
        { t.application with connection := (t.application.connection.stepWith E.fromJson e).1 } := if_pos he
  have hreceived := received_socket E he outcome
  cases e with
  | connectToServer => cases he
  | disconnectFromServer => cases he
  | connected =>
    have hconnecting : t.application.connection.client.socket = .connecting := of_decide_eq_true he
    have hnosession := h.no_session (by rw [hconnecting]; decide) (by rw [hconnecting]; decide)
    refine ⟨hlinked, ?_, fun _ _ => ?_⟩
    · rw [Traced.step, hreceived]
      refine gated_append gated_nil _ (Or.inr ?_)
      intro f hf
      rw [newFrames_sendMessage (c := { t.application.connection.client with socket := .connected }) rfl
        (congrArg ServerConnection.client hconnection) f hf]
      rfl
    · rw [Traced.step, hstep]
      exact h.idle hnosession (by rw [hconnecting]; decide)
  | disconnected =>
    refine ⟨hlinked, ?_, fun _ _ => ?_⟩
    · have hsent : (t.application.connection.step E.fromJson .disconnected).client.sent =
          t.application.connection.client.sent := by
        rcases ServerConnection.step_disconnected E.fromJson t.application.connection with ⟨-, heq⟩ | ⟨-, heq⟩
        · rw [heq]
        · rw [heq]
      have hnone : newFrames t.application (t.application.step E (.socket .disconnected outcome)) = [] :=
        newFrames_eq (by rw [hconnection, hsent, List.append_nil])
      rw [Traced.step, hreceived, hnone]
      exact gated_nil
    · rw [Traced.step, hstep]
      exact idle_disconnected _
  | textMessageReceived message =>
    rcases text_cases E outcome t.application message with hopened | ⟨hopened, hsame⟩
    · have hopen : Entry.sessionOpened ∈ t.log ++ [.sessionOpened] := List.mem_append_right _ List.mem_cons_self
      rw [hopened] at hreceived
      refine ⟨hlinked, ?_, fun hnosession => ?_⟩
      · rw [Traced.step, hreceived]
        exact gated_append (gated_concat h.gated (by intro f hf; cases hf)) _ (Or.inl hopen)
      · rw [Traced.step, hreceived] at hnosession
        exact absurd (mem_append_sent.2 hopen) hnosession
    · rw [hopened] at hreceived
      rw [hsame] at hstep
      rw [step_eq_self E hstep (by simpa [isBoundary] using hreceived)]
      exact h
  | heartbeatTimeout timestamp =>
    rw [ServerConnection.step_heartbeatTimeout] at hconnection
    refine ⟨hlinked, ?_, fun hnosession hs => ?_⟩
    · rw [Traced.step, received_heartbeatTimeout]
      refine gated_append h.gated _ (Or.inr ?_)
      intro f hf
      split at hconnection
      · rw [newFrames_sendMessage (c := t.application.connection.client) rfl
          (congrArg ServerConnection.client hconnection) f hf]
        rfl
      · rw [newFrames_of_connection hconnection] at hf
        cases hf
    · rw [Traced.step, received_heartbeatTimeout, mem_append_sent] at hnosession
      rw [Traced.step, hconnection] at hs
      rw [Traced.step, hstep]
      refine h.idle hnosession ?_
      split at hs
      · rwa [ServerConnection.onHeartbeatTick, socket_sendMessage] at hs
      · exact hs
  | reconnectTimeout =>
    have hsent : (t.application.connection.step E.fromJson .reconnectTimeout).client.sent =
        t.application.connection.client.sent := by
      rw [ServerConnection.step_reconnectTimeout]
      split <;> rfl
    have hnone : newFrames t.application (t.application.step E (.socket .reconnectTimeout outcome)) = [] :=
      newFrames_eq (by rw [hconnection, hsent, List.append_nil])
    refine ⟨hlinked, ?_, fun hnosession hs => ?_⟩
    · rw [Traced.step, received_reconnectTimeout, hnone]
      exact gated_append h.gated [] (Or.inr fun f hf => absurd hf List.not_mem_nil)
    · rw [Traced.step, received_reconnectTimeout, mem_append_sent] at hnosession
      rw [Traced.step, hconnection] at hs
      rw [Traced.step, hstep]
      refine h.idle hnosession ?_
      rw [ServerConnection.step_reconnectTimeout] at hs
      split at hs
      · rename_i htimer
        rw [h.timer.1 htimer]
        decide
      · exact hs

/-- A step that starts no pipeline outside a session keeps the gate. -/
theorem gate_step {t : Traced} (h : Gate t) {e : Event} (he : ¬StartsOutsideSession E t e) : Gate (t.step E e) := by
  have hlinked := linked_step E h.toLinked e
  cases e with
  | startup e =>
    have hconnection := connection_startup E e t.application
    have hlog := log_of_none E rfl (newFrames_of_connection hconnection)
    refine ⟨hlinked, by rw [hlog]; exact h.gated, ?_⟩
    intro hnosession hs
    rw [hlog] at hnosession
    rw [Traced.step, hconnection] at hs
    have hidle := h.idle hnosession hs
    cases e with
    | sessionOpened outcome => exact hidle
    | _ => exact idle_start E hidle (Bool.eq_false_iff.2 fun hstarts => he ⟨hstarts, hnosession, hs⟩)
  | socket e outcome =>
    cases hoccurs : occurs t.application.connection.client.socket e with
    | true => exact gate_socket E h hoccurs outcome
    | false =>
      rw [step_not_occurs E hoccurs outcome]
      exact h
  | socketCloses =>
    by_cases hc : t.application.connection.client.isConnected = true
    · have hconnected : t.application.connection.client.socket = .connected := of_decide_eq_true hc
      obtain ⟨hnone, hstep⟩ := step_socketCloses E hc
      refine ⟨hlinked, by rw [log_of_none E rfl hnone]; exact h.gated, ?_⟩
      intro _ hs
      rw [Traced.step, hstep] at hs
      simp [ServerConnection.closeSocket, hconnected] at hs
    · have hstep : t.application.step E .socketCloses = t.application := if_neg hc
      rw [step_eq_self E hstep rfl]
      exact h
  | orchestrator i e =>
    obtain ⟨-, -, hsocket⟩ := connection_orchestrator E i e t.application
    by_cases hopen : .sessionOpened ∈ t.log
    · refine ⟨hlinked, gated_append h.gated _ (Or.inl hopen), ?_⟩
      intro hnosession
      exact absurd (mem_append_sent.2 hopen) hnosession
    · have hquiet : t.application.connection.client.socket = .closing ∨ t.application.Idle := by
        by_cases hclosing : t.application.connection.client.socket = .closing
        · exact Or.inl hclosing
        · exact Or.inr (h.idle hopen hclosing)
      refine ⟨hlinked, by rw [log_of_none E rfl (newFrames_orchestrator E hquiet i e)]; exact h.gated, ?_⟩
      intro _ hs
      rw [Traced.step, hsocket] at hs
      exact idle_orchestrator E (h.idle hopen hs) i e
  | timePasses ms =>
    have hlog : (t.step E (.timePasses ms)).log = t.log := log_of_none E rfl (newFrames_of_connection rfl)
    refine ⟨hlinked, by rw [hlog]; exact h.gated, ?_⟩
    intro hnosession hs
    rw [hlog] at hnosession
    exact h.idle hnosession hs

/-! ## A start outside a session -/

/-- A wake word that is heard on a connection without a session is sent on it. -/
theorem not_gated_wake {t : Traced} (hc : t.application.connection.client.socket = .connected)
    (hnosession : .sessionOpened ∉ t.log) {i : Nat} {o : AudioSessionOrchestrator}
    (ho : t.application.orchestrators[i]? = some o) (hs : o.state = .awaitingWake) :
    ¬Gated (t.step E (.orchestrator i (.wakeWordDetected 1 []))).log := by
  have hs' : (t.application.lend o).state = .awaitingWake := hs
  have hconnected : (t.application.lend o).wsClient.isConnected = true := decide_eq_true hc
  have hslot : t.application.step E (.orchestrator i (.wakeWordDetected 1 [])) = _ := slot_eq ho _
  have hnew : newFrames t.application (t.application.step E (.orchestrator i (.wakeWordDetected 1 []))) =
      AudioSessionOrchestrator.openingFrames E.toEnv
        (.wakeWordDetected (E.isoDateWithMs t.application.now) (some 1)) [] (t.application.lend o) := by
    refine newFrames_eq ?_
    rw [hslot]
    show ((t.application.lend o).onWakeWordDetected E.toEnv 1 []).wsClient.sent = _
    rw [AudioSessionOrchestrator.onWakeWordDetected_eq E.toEnv 1 [] hs' hconnected]
    exact PairionWebSocketClient.sent_puts hconnected _
  intro hgated
  rw [Traced.step, hnew] at hgated
  exact hnosession (hgated t.log _ ((List.prefix_append_right_inj _).2 (List.prefix_append [_] _)) rfl)

/-- On a socket that is connecting, the connection comes up, and no session with it. -/
theorem connected_step {t : Traced} (hc : t.application.connection.client.socket = .connecting) :
    (t.step E (.socket .connected (.loadFailed ""))).application.connection.client.socket = .connected ∧
      .sessionOpened ∉ (t.step E (.socket .connected (.loadFailed ""))).log ∧
      (t.step E (.socket .connected (.loadFailed ""))).application.orchestrators = t.application.orchestrators := by
  have he : occurs t.application.connection.client.socket .connected = true := decide_eq_true hc
  have hstep : t.application.step E (.socket .connected (.loadFailed "")) = _ := if_pos he
  have hreceived : t.received E (.socket .connected (.loadFailed "")) = [] := if_pos he
  refine ⟨?_, ?_, ?_⟩
  · rw [Traced.step, connection_socket E he]
    exact socket_sendMessage _ _
  · rw [Traced.step, hreceived, mem_append_sent]
    exact List.not_mem_nil
  · rw [Traced.step, hstep]
    rfl

/-- On a socket that is unconnected, the reconnect timer expires. -/
theorem reconnect_step {t : Traced} (h : Linked t) (hs : t.application.connection.client.socket = .unconnected) :
    (t.step E (.socket .reconnectTimeout (.loadFailed ""))).application.connection.client.socket = .connecting ∧
      (t.step E (.socket .reconnectTimeout (.loadFailed ""))).application.orchestrators = t.application.orchestrators := by
  have he : occurs t.application.connection.client.socket .reconnectTimeout = true := rfl
  have hstep : t.application.step E (.socket .reconnectTimeout (.loadFailed "")) = _ := if_pos (e := t.application) he
  refine ⟨?_, ?_⟩
  · rw [Traced.step, connection_socket E he]
    rw [ServerConnection.step_reconnectTimeout, if_pos (h.timer.2 hs)]
    rfl
  · rw [Traced.step, hstep]

/-- A pipeline that is started outside a session can send audio outside one. -/
theorem not_gated_of_startsOutsideSession {t : Traced} (h : Linked t) {e : Event} (he : StartsOutsideSession E t e) :
    ∃ es, ¬Gated (run (Traced.step E) t (e :: es)).log := by
  have hstarts : ∃ e', e = .startup e' ∧ Starts E t.application e' = true ∧ .sessionOpened ∉ t.log ∧
      t.application.connection.client.socket ≠ .closing ∧ t.application.step E e = t.application.start E e' := by
    cases e with
    | startup e' =>
      cases e' with
      | sessionOpened outcome => exact he.elim
      | _ => exact ⟨_, rfl, he.1, he.2.1, he.2.2, rfl⟩
    | _ => exact he.elim
  obtain ⟨e', rfl, hstarts, hnosession, hclosing, hstep⟩ := hstarts
  have hlinked := linked_step E h (.startup e')
  obtain ⟨o, hlast, hs⟩ := listens_start E hstarts
  have ho : (t.step E (.startup e')).application.orchestrators[t.application.orchestrators.length]? = some o := by
    rw [Traced.step, hstep]
    exact hlast
  have hnosession' : .sessionOpened ∉ (t.step E (.startup e')).log := fun hopen => hnosession (mem_append_sent.1 hopen)
  have hsocket : (t.step E (.startup e')).application.connection.client.socket = t.application.connection.client.socket :=
    congrArg (fun c => c.client.socket) (connection_startup E e' t.application)
  cases hc : t.application.connection.client.socket with
  | closing => exact absurd hc hclosing
  | connected =>
    rw [hc] at hsocket
    exact ⟨[.orchestrator t.application.orchestrators.length (.wakeWordDetected 1 [])],
      not_gated_wake E hsocket hnosession' ho hs⟩
  | connecting =>
    rw [hc] at hsocket
    obtain ⟨hconnected, hnosession'', hsame⟩ := connected_step E hsocket
    rw [← hsame] at ho
    exact ⟨[.socket .connected (.loadFailed ""),
      .orchestrator t.application.orchestrators.length (.wakeWordDetected 1 [])],
      not_gated_wake E hconnected hnosession'' ho hs⟩
  | unconnected =>
    rw [hc] at hsocket
    obtain ⟨hconnecting, hsame⟩ := reconnect_step E hlinked hsocket
    obtain ⟨hconnected, hnosession'', hsame'⟩ := connected_step E hconnecting
    rw [← hsame, ← hsame'] at ho
    exact ⟨[.socket .reconnectTimeout (.loadFailed ""), .socket .connected (.loadFailed ""),
      .orchestrator t.application.orchestrators.length (.wakeWordDetected 1 [])],
      not_gated_wake E hconnected hnosession'' ho hs⟩

/-! ## Runs -/

/-- The program when its event loop begins, with nothing on the connection. -/
def launched (deviceId bearerToken : String) (disk : String → Option Bytes) : Traced :=
  ⟨main deviceId bearerToken disk, []⟩

/-- At launch there is no pipeline and no session. -/
theorem gate_launched (deviceId bearerToken : String) (disk : String → Option Bytes) :
    Gate (launched deviceId bearerToken disk) := by
  have hlinked : Linked (launched deviceId bearerToken disk) :=
    ⟨rfl, by simp [launched, main, ServerConnection.connectToServer], fun hopen => absurd hopen List.not_mem_nil⟩
  exact ⟨hlinked, gated_nil, fun _ _ o ho => absurd ho List.not_mem_nil⟩

/-- In a run of the program in which no pipeline is started outside a session, each audio frame on a connection follows
the `SessionOpened` of that connection. Where one is started outside a session, the run can go on to send audio outside
one. -/
theorem session_gated (deviceId bearerToken : String) (disk : String → Option Bytes) (es : List Event) :
    (EveryStep (Traced.step E) (fun t e => ¬StartsOutsideSession E t e) (launched deviceId bearerToken disk) es →
      Always (Traced.step E) (fun t => Gated t.log) (launched deviceId bearerToken disk) es) ∧
    ∀ e, StartsOutsideSession E (run (Traced.step E) (launched deviceId bearerToken disk) es) e →
      ∃ es', ¬Always (Traced.step E) (fun t => Gated t.log) (launched deviceId bearerToken disk) (es ++ e :: es') := by
  have hstart := gate_launched deviceId bearerToken disk
  refine ⟨?_, ?_⟩
  · exact Always.of_inv Gate (fun t h => h.gated) (fun t e h he => gate_step E h he) hstart
  · intro e he
    have hlinked : Linked (run (Traced.step E) (launched deviceId bearerToken disk) es) :=
      inv_run_of_step Linked (fun t e h => linked_step E h e) es hstart.toLinked
    obtain ⟨es', hes'⟩ := not_gated_of_startsOutsideSession E hlinked he
    refine ⟨es', fun halways => hes' ?_⟩
    rw [← run_append]
    exact halways _ (List.prefix_refl _)

/-- A program whose models are cached, on silence. -/
def cached : ApplicationEnv where
  toEnv := .silence
  models := ModelDownloader.twoModels
  fromJson := ServerConnection.opensSessions
  vad _ := {}

/-- The usual start: the microphone is allowed, a session opens, and a wake word is heard. -/
def usualStart : List Event :=
  [.startup (.permission true (.loaded true true)), .socket .connected (.loaded true true),
    .socket (.textMessageReceived ServerConnection.sessionOpenedText) (.loaded true true),
    .orchestrator 0 (.wakeWordDetected (9 / 10) [])]

/-- A start with cached models, the permission given before the session. -/
theorem session_gated_usual :
    Always (Traced.step cached) (fun t => Gated t.log) (launched "device" "token" ModelDownloader.cachedModels) usualStart := by
  refine (session_gated cached "device" "token" ModelDownloader.cachedModels usualStart).1 ⟨?_, id, id, id, trivial⟩
  rintro ⟨hstarts, -⟩
  exact absurd hstarts (by decide)

/-- A session opens while the user has not answered for the microphone, and the connection is lost. When it is back, and
before its session opens, the user allows the microphone: the pipeline listens, and a wake word is sent. -/
def latePermission : List Event :=
  [.socket .connected (.loaded true true),
    .socket (.textMessageReceived ServerConnection.sessionOpenedText) (.loaded true true),
    .socket .disconnected (.loaded true true), .socket .reconnectTimeout (.loaded true true),
    .socket .connected (.loaded true true), .startup (.permission true (.loaded true true)),
    .orchestrator 0 (.wakeWordDetected (9 / 10) [])]

/-- The permission comes between the next connection and its session, and the wake word sends audio there. -/
theorem session_gated_false :
    ¬∀ (E : ApplicationEnv) (deviceId bearerToken : String) (disk : String → Option Bytes) (es : List Event),
      Always (Traced.step E) (fun t => Gated t.log) (launched deviceId bearerToken disk) es := by
  intro h
  have hlog : (run (Traced.step cached) (launched "device" "token" ModelDownloader.cachedModels) latePermission).log =
      [.sent (.text (.deviceIdentify "device" "token" "0.3.0")),
        .sent (.text (.wakeWordDetected "2026-01-01T00:00:00.000Z" (some (9 / 10)))),
        .sent (.text (.audioStreamStartIn "6f9619ff-8b86-4d01-b42d-00cf4fc964ff"))] := by
    decide +kernel
  have hgated : Gated (run (Traced.step cached) (launched "device" "token" ModelDownloader.cachedModels) latePermission).log :=
    h cached "device" "token" ModelDownloader.cachedModels latePermission _ (List.prefix_refl _)
  rw [hlog] at hgated
  have hopen := hgated [.sent (.text (.deviceIdentify "device" "token" "0.3.0"))] _ ⟨_, rfl⟩ rfl
  simp at hopen

end Application

end PairionClient
