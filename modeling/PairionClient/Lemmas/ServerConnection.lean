import PairionClient.Ws.ServerConnection

/-!
# What a step of the client does to its connection

A text frame opens a session or leaves the connection as it is, and the end of a connection schedules the next attempt.
-/

namespace PairionClient

namespace ServerConnection

variable (fromJson : Bytes → Except String QJsonDocument)

/-- The step opens a session. -/
def OpensSession : Event → Prop
  | .textMessageReceived message =>
    ∃ sessionId serverVersion,
      EnvelopeCodec.deserializeFromString fromJson message = some (.sessionOpened sessionId serverVersion)
  | _ => False

/-- A text frame opens a session, or leaves the connection as it is. -/
theorem step_textMessageReceived (c : ServerConnection) (message : String) :
    (∃ sessionId serverVersion,
      EnvelopeCodec.deserializeFromString fromJson message = some (.sessionOpened sessionId serverVersion) ∧
        c.step fromJson (.textMessageReceived message) =
          { c with status := .connected, sessionId := sessionId, serverVersion := serverVersion }) ∨
      (¬OpensSession fromJson (.textMessageReceived message) ∧ c.step fromJson (.textMessageReceived message) = c) := by
  cases hmsg : EnvelopeCodec.deserializeFromString fromJson message with
  | none => exact Or.inr ⟨by simp [OpensSession, hmsg], by simp [step, stepWith, onTextMessageReceived, hmsg]⟩
  | some msg =>
    cases msg with
    | sessionOpened sessionId serverVersion =>
      exact Or.inl ⟨sessionId, serverVersion, rfl, by simp [step, stepWith, onTextMessageReceived, hmsg]⟩
    | _ => exact Or.inr ⟨by simp [OpensSession, hmsg], by simp [step, stepWith, onTextMessageReceived, hmsg]⟩

/-- A text frame writes the status and the session, and nothing else. -/
theorem exists_textMessageReceived (c : ServerConnection) (message : String) :
    ∃ status sessionId serverVersion, c.step fromJson (.textMessageReceived message) =
      { c with status := status, sessionId := sessionId, serverVersion := serverVersion } := by
  rcases step_textMessageReceived fromJson c message with ⟨sessionId, serverVersion, -, heq⟩ | ⟨-, heq⟩
  · exact ⟨.connected, sessionId, serverVersion, heq⟩
  · exact ⟨c.status, c.sessionId, c.serverVersion, heq⟩

/-- The socket's `disconnected` schedules a reconnect, unless the disconnect is on purpose. -/
theorem step_disconnected (c : ServerConnection) :
    (c.intentionalDisconnect = true ∧
      c.step fromJson .disconnected =
        { c with
          client := { c.client with socket := .unconnected }
          heartbeatTimer := false
          sessionId := ""
          serverVersion := ""
          status := .disconnected }) ∨
      (c.intentionalDisconnect = false ∧
        c.step fromJson .disconnected =
          { c with
            client := { c.client with socket := .unconnected }
            heartbeatTimer := false
            sessionId := ""
            serverVersion := ""
            status := .reconnecting
            reconnectAttempt := c.reconnectAttempt + 1
            reconnectAttempts := c.reconnectAttempt + 1
            reconnectTimer := some (kReconnectBackoffMs.getD (backoffIndex (c.reconnectAttempt + 1)).toNat 0) }) := by
  cases hi : c.intentionalDisconnect with
  | true =>
    left
    simp [step, stepWith, onDisconnected, hi]
  | false =>
    right
    simp [step, stepWith, onDisconnected, hi, scheduleReconnect, currentBackoffMs]

/-- The heartbeat timer ticks only while it runs. -/
theorem step_heartbeatTimeout (c : ServerConnection) (timestamp : String) :
    c.step fromJson (.heartbeatTimeout timestamp) = if c.heartbeatTimer then c.onHeartbeatTick timestamp else c := rfl

/-- The reconnect timer fires once and is then no longer armed. -/
theorem step_reconnectTimeout (c : ServerConnection) :
    c.step fromJson .reconnectTimeout =
      if c.reconnectTimer.isSome then { c with reconnectTimer := none }.connectToServer else c := rfl

/-- A text frame that opens a session. -/
def sessionOpenedText : String := "\x7b\"type\":\"SessionOpened\",\"sessionId\":\"s-1\",\"serverVersion\":\"0.3.0\"\x7d"

/-- A JSON parser for runs in which every text frame is that one. -/
def opensSessions (_ : Bytes) : Except String QJsonDocument :=
  .ok (.object [("type", .string "SessionOpened"), ("sessionId", .string "s-1"), ("serverVersion", .string "0.3.0")])

end ServerConnection

end PairionClient
