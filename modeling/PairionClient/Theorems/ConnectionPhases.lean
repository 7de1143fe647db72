import PairionClient.Theorems.Reconnect
import PairionClient.Theorems.SessionGate

/-!
# The phases of the connection

The program connects once, when it starts, and from then on only its socket and its timers move the connection. So it is always
in one of four phases, which the state of the socket names and the status shown follows, and from each of them the socket can
be connected again without anyone's help.
-/

namespace PairionClient

open Transition

/-! ## The client -/

namespace ServerConnection

/-- What holds of the client while its socket is in a state. -/
def Phase (c : ServerConnection) : Prop :=
  match c.client.socket with
  | .unconnected => c.status = .reconnecting ∧ c.heartbeatTimer = false ∧ c.sessionId = "" ∧ c.serverVersion = "" ∧
      0 < c.reconnectAttempts ∧ ∃ ms ∈ kReconnectBackoffMs, c.reconnectTimer = some ms
  | .connecting => c.status = .connecting ∧ c.heartbeatTimer = false ∧ c.sessionId = "" ∧ c.serverVersion = "" ∧
      c.reconnectTimer = none
  | .connected | .closing => c.heartbeatTimer = true ∧ c.reconnectTimer = none ∧ c.reconnectAttempts = 0 ∧
      (c.status = .connected ∨ c.status = .connecting ∧ c.sessionId = "" ∧ c.serverVersion = "")

/-- The client is in its phase, and shows the attempts that it counts. -/
structure Sought (c : ServerConnection) : Prop where
  purpose : c.intentionalDisconnect = false
  attempts : c.reconnectAttempts = c.reconnectAttempt
  phase : c.Phase

variable {c : ServerConnection} (fromJson : Bytes → Except String QJsonDocument)

/-- The client seeks the server from the first call on. -/
theorem sought_connectToServer (deviceId bearerToken : String) :
    Sought ({ deviceId := deviceId, bearerToken := bearerToken : ServerConnection }.connectToServer) :=
  ⟨rfl, rfl, rfl, rfl, rfl, rfl, rfl⟩

/-- What the client sends leaves its phase. -/
theorem Sought.client (h : Sought c) {client : PairionWebSocketClient} (hsocket : client.socket = c.client.socket) :
    Sought { c with client := client } := by
  refine ⟨h.purpose, h.attempts, ?_⟩
  unfold Phase
  rw [hsocket]
  exact h.phase

/-- A connection that comes up is a phase, and clears the attempts. -/
theorem Sought.connected (h : Sought c) (hsocket : c.client.socket = .connecting) : Sought (c.step fromJson .connected) := by
  have hphase := h.phase
  rw [Phase, hsocket] at hphase
  obtain ⟨hstatus, -, hsession, hversion, htimer⟩ := hphase
  refine ⟨h.purpose, rfl, ?_⟩
  have hconnected : (c.step fromJson .connected).client.socket = .connected := PairionWebSocketClient.socket_puts [_] _
  rw [Phase, hconnected]
  exact ⟨rfl, htimer, rfl, Or.inr ⟨hstatus, hsession, hversion⟩⟩

/-- A lost connection is followed by an attempt that is counted. -/
theorem Sought.disconnected (h : Sought c) : Sought (c.step fromJson .disconnected) := by
  rcases step_disconnected fromJson c with ⟨hpurpose, -⟩ | ⟨hpurpose, heq⟩
  · rw [h.purpose] at hpurpose
    cases hpurpose
  · rw [heq]
    exact ⟨hpurpose, rfl, rfl, rfl, rfl, rfl, Nat.zero_lt_succ _, _,
      List.mem_of_getElem? (backoff_mem_table c.reconnectAttempt), rfl⟩

/-- A message leaves the socket, and may open the session. -/
theorem Sought.textMessageReceived (h : Sought c) (hsocket : c.client.socket = .connected) (message : String) :
    Sought (c.step fromJson (.textMessageReceived message)) := by
  rcases step_textMessageReceived fromJson c message with ⟨sessionId, serverVersion, -, heq⟩ | ⟨-, heq⟩
  · have hphase := h.phase
    rw [Phase, hsocket] at hphase
    obtain ⟨hheartbeat, htimer, hattempts, -⟩ := hphase
    rw [heq]
    refine ⟨h.purpose, h.attempts, ?_⟩
    simp only [Phase, hsocket]
    exact ⟨hheartbeat, htimer, hattempts, Or.inl trivial⟩
  · rw [heq]
    exact h

/-- The timer of the reconnect tries again. -/
theorem Sought.reconnectTimeout (h : Sought c) : Sought (c.step fromJson .reconnectTimeout) := by
  have hphase := h.phase
  rw [step_reconnectTimeout]
  split
  · rename_i htimer
    rw [Phase] at hphase
    split at hphase
    · obtain ⟨-, hheartbeat, hsession, hversion, -, -⟩ := hphase
      exact ⟨rfl, h.attempts, rfl, hheartbeat, hsession, hversion, rfl⟩
    · rw [hphase.2.2.2.2] at htimer
      cases htimer
    · rw [hphase.2.1] at htimer
      cases htimer
    · rw [hphase.2.1] at htimer
      cases htimer
  · exact h

/-- The socket, and the timers. -/
theorem Sought.step (h : Sought c) {e : Event} (he : Application.occurs c.client.socket e = true) :
    Sought (c.step fromJson e) := by
  cases e with
  | connectToServer => cases he
  | disconnectFromServer => cases he
  | connected => exact h.connected fromJson (of_decide_eq_true he)
  | disconnected => exact h.disconnected fromJson
  | textMessageReceived message => exact h.textMessageReceived fromJson (of_decide_eq_true he) message
  | heartbeatTimeout timestamp =>
    rw [step_heartbeatTimeout]
    split
    · exact h.client (PairionWebSocketClient.socket_puts [_] _)
    · exact h
  | reconnectTimeout => exact h.reconnectTimeout fromJson

/-- A socket that begins to close is a phase as well. -/
theorem Sought.closeSocket (h : Sought c) (hsocket : c.client.socket = .connected) :
    Sought { c with client := closeSocket c.client } := by
  refine ⟨h.purpose, h.attempts, ?_⟩
  have hphase := h.phase
  rw [Phase, hsocket] at hphase
  have hclosing : (ServerConnection.closeSocket c.client).socket = .closing := by simp [ServerConnection.closeSocket, hsocket]
  simp only [Phase, hclosing]
  exact hphase

end ServerConnection

/-! ## The program -/

namespace Application

open ServerConnection (Sought)

variable (E : ApplicationEnv)

/-- Every event of the program keeps the client seeking the server. -/
theorem sought_step {a : Application} (h : Sought a.connection) (e : Event) : Sought (a.step E e).connection := by
  cases e with
  | startup e =>
    rw [connection_startup]
    exact h
  | socket e outcome =>
    cases he : occurs a.connection.client.socket e with
    | true =>
      rw [connection_socket E he]
      exact h.step E.fromJson he
    | false =>
      have hsame : a.step E (.socket e outcome) = a := if_neg (by rw [he]; exact Bool.false_ne_true)
      rw [hsame]
      exact h
  | socketCloses =>
    rw [step]
    split
    · rename_i hconnected
      exact h.closeSocket (of_decide_eq_true hconnected)
    · exact h
  | orchestrator i e =>
    rw [step]
    split
    · rename_i hown
      cases hi : a.orchestrators[i]? with
      | none =>
        rw [slot_none hi]
        exact h
      | some o =>
        rw [slot_eq hi]
        exact h.client (socket_own E.toEnv hown (a.lend o))
    · exact h
  | timePasses ms => exact h

/-- The program is connected to a session exactly where one was opened on the connection. -/
def Shown (t : Traced) : Prop := t.application.connection.status = .connected ↔ .sessionOpened ∈ t.log

/-- Where no session is open and none is shown, that is shown as it is. -/
theorem shown_none {t : Traced} (hstatus : t.application.connection.status ≠ .connected) (hlog : .sessionOpened ∉ t.log) :
    Shown t := ⟨fun hnow => absurd hnow hstatus, fun hopen => absurd hopen hlog⟩

/-- What leaves the status, and opens no session. -/
theorem Shown.sent {t : Traced} (h : Shown t) {a : Application} (hstatus : a.connection.status = t.application.connection.status)
    (fs : List WireFrame) : Shown ⟨a, t.log ++ fs.map .sent⟩ := by
  rw [Shown, hstatus, mem_append_sent]
  exact h

/-- A message opens the session exactly when it is a `SessionOpened`. -/
theorem opened_textMessageReceived (fromJson : Bytes → Except String QJsonDocument) (c : ServerConnection) (message : String) :
    .sessionOpened ∈ opened (c.stepWith fromJson (.textMessageReceived message)).2 ↔
      ServerConnection.OpensSession fromJson (.textMessageReceived message) := by
  cases hmsg : EnvelopeCodec.deserializeFromString fromJson message with
  | none =>
    simp [ServerConnection.stepWith, ServerConnection.onTextMessageReceived, ServerConnection.OpensSession, opened, hmsg]
  | some msg =>
    cases msg <;>
      simp [ServerConnection.stepWith, ServerConnection.onTextMessageReceived, ServerConnection.OpensSession, opened, hmsg]

/-- Every event of the socket keeps the status as the session is. -/
theorem shown_socket {t : Traced} (hlinked : Linked t) (hsought : Sought t.application.connection) (h : Shown t)
    {e : ServerConnection.Event} (he : occurs t.application.connection.client.socket e = true) (outcome : InitOutcome) :
    Shown (t.step E (.socket e outcome)) := by
  have hconnection := connection_socket E he outcome
  have hreceived := received_socket E he outcome
  have hphase := hsought.phase
  cases e with
  | connectToServer => cases he
  | disconnectFromServer => cases he
  | connected =>
    rw [ServerConnection.Phase, show t.application.connection.client.socket = .connecting from of_decide_eq_true he] at hphase
    have hstatus : (t.application.connection.step E.fromJson .connected).status = t.application.connection.status := rfl
    rw [Traced.step, hreceived]
    refine shown_none ?_ fun hopen => absurd (mem_append_sent.1 hopen) List.not_mem_nil
    rw [hconnection, hstatus, hphase.1]
    decide
  | disconnected =>
    rcases ServerConnection.step_disconnected E.fromJson t.application.connection with ⟨hi, -⟩ | ⟨-, heq⟩
    · rw [hsought.purpose] at hi
      cases hi
    · rw [Traced.step, hreceived]
      refine shown_none ?_ fun hopen => absurd (mem_append_sent.1 hopen) List.not_mem_nil
      rw [hconnection, heq]
      exact fun hfalse => by cases hfalse
  | textMessageReceived message =>
    rw [Shown, Traced.step, hconnection, hreceived, mem_append_sent]
    change _ ↔ _ ∈ t.log ++ _
    rw [List.mem_append, opened_textMessageReceived]
    rcases ServerConnection.step_textMessageReceived E.fromJson t.application.connection message with
      ⟨sessionId, serverVersion, hmsg, heq⟩ | ⟨hother, heq⟩
    · rw [heq]
      exact ⟨fun _ => Or.inr ⟨sessionId, serverVersion, hmsg⟩, fun _ => rfl⟩
    · rw [heq]
      exact ⟨fun hnow => Or.inl (h.1 hnow), fun hopen => h.2 (hopen.resolve_right hother)⟩
  | heartbeatTimeout timestamp =>
    rw [Traced.step, received_heartbeatTimeout]
    refine h.sent ?_ _
    rw [hconnection, ServerConnection.step_heartbeatTimeout]
    split <;> rfl
  | reconnectTimeout =>
    rw [Traced.step, received_reconnectTimeout]
    rw [ServerConnection.step_reconnectTimeout] at hconnection
    split at hconnection
    · rename_i htimer
      have hunconnected := hlinked.timer.1 htimer
      have hnone := hlinked.no_session (by rw [hunconnected]; decide) (by rw [hunconnected]; decide)
      refine shown_none ?_ fun hopen => hnone (mem_append_sent.1 hopen)
      rw [hconnection]
      exact fun hfalse => by cases hfalse
    · exact h.sent (by rw [hconnection]) _

/-- A socket that is connected begins to close, and what the pipelines do. -/
theorem shown_step {t : Traced} (hlinked : Linked t) (hsought : Sought t.application.connection) (h : Shown t) (e : Event) :
    Shown (t.step E e) := by
  cases e with
  | startup e => exact h.sent (by rw [connection_startup]) _
  | socket e outcome =>
    cases he : occurs t.application.connection.client.socket e with
    | true => exact shown_socket E hlinked hsought h he outcome
    | false =>
      rw [step_not_occurs E he]
      exact h
  | socketCloses =>
    refine h.sent ?_ _
    rw [step]
    split <;> rfl
  | orchestrator i e =>
    refine h.sent ?_ _
    rw [step]
    split
    · cases hi : t.application.orchestrators[i]? with
      | none => rw [slot_none hi]
      | some o => rw [slot_eq hi]
    · rfl
  | timePasses ms => exact h.sent rfl _

/-- What the socket and the timers do to connect again. -/
def back : SocketState → List ServerConnection.Event
  | .connected => []
  | .connecting => [.connected]
  | .unconnected => [.reconnectTimeout, .connected]
  | .closing => [.disconnected, .reconnectTimeout, .connected]

/-- A socket event that can come. -/
def Comes (a : Application) (e : Event) : Prop := ∃ s outcome, e = .socket s outcome ∧ occurs a.connection.client.socket s = true

/-- A connecting socket can come up. -/
theorem connected_of_connecting {a : Application} (hsocket : a.connection.client.socket = .connecting) (outcome : InitOutcome) :
    Comes a (.socket .connected outcome) ∧ (a.step E (.socket .connected outcome)).connection.client.socket = .connected := by
  have he : occurs a.connection.client.socket .connected = true := by rw [hsocket]; rfl
  refine ⟨⟨_, _, rfl, he⟩, ?_⟩
  rw [connection_socket E he]
  exact socket_sendMessage _ _

/-- The timer of an unconnected socket can try again. -/
theorem connecting_of_unconnected {a : Application} (h : Sought a.connection)
    (hsocket : a.connection.client.socket = .unconnected) (outcome : InitOutcome) :
    Comes a (.socket .reconnectTimeout outcome) ∧
      (a.step E (.socket .reconnectTimeout outcome)).connection.client.socket = .connecting := by
  have hphase := h.phase
  rw [ServerConnection.Phase, hsocket] at hphase
  obtain ⟨-, -, -, -, -, ms, -, htimer⟩ := hphase
  have he : occurs a.connection.client.socket .reconnectTimeout = true := rfl
  refine ⟨⟨_, _, rfl, he⟩, ?_⟩
  rw [connection_socket E he, ServerConnection.step_reconnectTimeout, htimer]
  rfl

/-- A closing socket can be closed. -/
theorem unconnected_of_closing {a : Application} (hsocket : a.connection.client.socket = .closing) (outcome : InitOutcome) :
    Comes a (.socket .disconnected outcome) ∧
      (a.step E (.socket .disconnected outcome)).connection.client.socket = .unconnected := by
  have he : occurs a.connection.client.socket .disconnected = true := by rw [hsocket]; rfl
  refine ⟨⟨_, _, rfl, he⟩, ?_⟩
  rw [connection_socket E he]
  rcases ServerConnection.step_disconnected E.fromJson a.connection with ⟨-, heq⟩ | ⟨-, heq⟩
  · rw [heq]
  · rw [heq]

/-- From every phase the socket is connected again by what it and the reconnect timer do alone. -/
theorem back_connects {a : Application} (h : Sought a.connection) (outcome : InitOutcome) :
    let path := (back a.connection.client.socket).map fun s => Event.socket s outcome
    EveryStep (step E) Comes a path ∧ (run (step E) a path).connection.client.socket = .connected := by
  cases hsocket : a.connection.client.socket with
  | connected => exact ⟨trivial, hsocket⟩
  | connecting =>
    obtain ⟨hcomes, hconnected⟩ := connected_of_connecting E hsocket outcome
    exact ⟨⟨hcomes, trivial⟩, hconnected⟩
  | unconnected =>
    obtain ⟨hcomes, hconnecting⟩ := connecting_of_unconnected E h hsocket outcome
    obtain ⟨hcomes', hconnected⟩ := connected_of_connecting E hconnecting outcome
    exact ⟨⟨hcomes, hcomes', trivial⟩, hconnected⟩
  | closing =>
    obtain ⟨hcomes, hunconnected⟩ := unconnected_of_closing E hsocket outcome
    have hsought := sought_step E h (.socket .disconnected outcome)
    obtain ⟨hcomes', hconnecting⟩ := connecting_of_unconnected E hsought hunconnected outcome
    obtain ⟨hcomes'', hconnected⟩ := connected_of_connecting E hconnecting outcome
    exact ⟨⟨hcomes, hcomes', hcomes'', trivial⟩, hconnected⟩

/-- In every run of the program: while there is no connection the reconnect timer is armed with an interval of the table,
no attempt is under way while a timer waits, the heartbeat runs on the connection and only there, the status shown is that
of the socket and of the session opened on it; and from every state the socket and the timer alone lead to a connection
again. -/
theorem connection_phases (deviceId bearerToken : String) (disk : String → Option Bytes) (es : List Event) :
    let t := run (Traced.step E) (launched deviceId bearerToken disk) es
    t.application.connection.Phase ∧ Shown t ∧ ∀ outcome,
      let path := (back t.application.connection.client.socket).map fun s => Event.socket s outcome
      EveryStep (step E) Comes t.application path ∧
        (run (step E) t.application path).connection.client.socket = .connected := by
  intro t
  obtain ⟨-, hsought, hshown⟩ : Linked t ∧ Sought t.application.connection ∧ Shown t :=
    inv_run_of_step (fun t => Linked t ∧ Sought t.application.connection ∧ Shown t)
      (fun t e h => ⟨linked_step E h.1 e, sought_step E h.2.1 e, shown_step E h.1 h.2.1 h.2.2 e⟩) es
      ⟨(gate_launched deviceId bearerToken disk).toLinked, ServerConnection.sought_connectToServer deviceId bearerToken,
        shown_none (by simp [launched, main, ServerConnection.connectToServer]) List.not_mem_nil⟩
  exact ⟨hsought.phase, hshown, fun outcome => back_connects E hsought outcome⟩

end Application

end PairionClient
