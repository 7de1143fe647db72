import PairionClient.Theorems.Demultiplexing

/-!
# The identification of a connection

On every connection the client identifies itself first, with the credentials it was started with, and only once; whatever its
pipelines send follows. Nothing goes out while the socket is not connected.
-/

namespace PairionClient

open Transition

namespace Application

open AudioSessionOrchestrator (move move_source step_spec)

variable (E : ApplicationEnv)

def identifies : WireFrame → Bool
  | .text (.deviceIdentify _ _ _) => true
  | _ => false

/-- The client has introduced itself, and has not done so again. -/
def IntroducedBy (deviceId bearerToken : String) (log : List Entry) : Prop :=
  ∃ rest, log = .sent (.text (.deviceIdentify deviceId bearerToken kClientVersion)) :: rest ∧
    ∀ f, .sent f ∈ rest → identifies f = false

/-- Entries that identify nobody leave the introduction at the beginning. -/
theorem IntroducedBy.append {deviceId bearerToken : String} {log : List Entry} (h : IntroducedBy deviceId bearerToken log)
    {more : List Entry} (hmore : ∀ f, .sent f ∈ more → identifies f = false) :
    IntroducedBy deviceId bearerToken (log ++ more) := by
  obtain ⟨rest, rfl, hrest⟩ := h
  refine ⟨rest ++ more, rfl, fun f hf => ?_⟩
  rcases List.mem_append.1 hf with hf | hf
  · exact hrest f hf
  · exact hmore f hf

/-- The socket is connected, or closing. -/
def Up (s : SocketState) : Prop := s = .connected ∨ s = .closing

/-- What holds of the log of a connection. -/
structure Introduced (deviceId bearerToken : String) (t : Traced) : Prop where
  device : t.application.connection.deviceId = deviceId
  token : t.application.connection.bearerToken = bearerToken
  up : Up t.application.connection.client.socket → IntroducedBy deviceId bearerToken t.log
  down : ¬Up t.application.connection.client.socket → t.log = []

variable {deviceId bearerToken : String} {t : Traced}

/-- No move of a pipeline identifies the client. -/
theorem identifies_frames (env : Env) {o : AudioSessionOrchestrator} {m : AudioSessionOrchestrator.Move}
    (hsource : m.Source o.state) : ∀ f ∈ m.frames env o, identifies f = false := by
  intro f hf
  cases m with
  | openStream first preRoll =>
    rcases List.mem_append.1 hf with hf | hf
    · rcases List.mem_cons.1 hf with rfl | hf
      · cases first with
        | deviceIdentify deviceId bearerToken clientVersion => exact hsource.elim
        | _ => rfl
      · rw [List.mem_singleton.1 hf]
        rfl
    · obtain ⟨packet, -, rfl⟩ := List.mem_map.1 hf
      rfl
  | sendFrame opusFrame =>
    rw [List.mem_singleton.1 hf]
    rfl
  | endStream reason playback =>
    simp only [AudioSessionOrchestrator.Move.frames, AudioSessionOrchestrator.closingFrames, List.mem_cons,
      List.not_mem_nil, or_false] at hf
    rcases hf with rfl | rfl <;> rfl
  | _ => simp [AudioSessionOrchestrator.Move.frames] at hf

/-- What happens on the socket as it is, and does not identify the client. -/
theorem Introduced.extend (h : Introduced deviceId bearerToken t) {a : Application} {more : List Entry}
    (hd : a.connection.deviceId = t.application.connection.deviceId)
    (hb : a.connection.bearerToken = t.application.connection.bearerToken)
    (hs : Up a.connection.client.socket ↔ Up t.application.connection.client.socket)
    (hmore : ∀ f, .sent f ∈ more → identifies f = false) (hnone : ¬Up t.application.connection.client.socket → more = []) :
    Introduced deviceId bearerToken ⟨a, t.log ++ more⟩ := by
  refine ⟨hd.trans h.device, hb.trans h.token, fun hup => (h.up (hs.1 hup)).append hmore, fun hdown => ?_⟩
  have hdown' := mt hs.2 hdown
  rw [h.down hdown', hnone hdown']
  rfl

/-- A step that leaves the connection as it is. -/
theorem Introduced.same (h : Introduced deviceId bearerToken t) {e : Event} (hl : t.received E e = t.log)
    (hconnection : (t.application.step E e).connection = t.application.connection) :
    Introduced deviceId bearerToken (t.step E e) := by
  have hstep : t.step E e = ⟨t.application.step E e, t.log ++ []⟩ := by
    rw [Traced.step, hl, newFrames_of_connection hconnection]
    rfl
  rw [hstep]
  exact h.extend (by rw [hconnection]) (by rw [hconnection]) (by rw [hconnection]) (by simp) fun _ => rfl

/-- A text message that the client sends on its socket. -/
theorem sent_sendMessage (msg : OutboundMessage) (c : PairionWebSocketClient) :
    (c.sendMessage msg).sent = c.sent ++ if c.isConnected then [.text msg] else [] := by
  rw [PairionWebSocketClient.sendMessage, PairionWebSocketClient.put]
  split
  · rfl
  · exact (List.append_nil _).symm

/-- Every event of the socket keeps the introduction first: a new connection begins with it. -/
theorem introduced_socket (hlinked : Linked t) (h : Introduced deviceId bearerToken t) {e : ServerConnection.Event}
    (he : occurs t.application.connection.client.socket e = true) (outcome : InitOutcome) :
    Introduced deviceId bearerToken (t.step E (.socket e outcome)) := by
  have hconnection := connection_socket E he outcome
  have hreceived := received_socket E he outcome
  cases e with
  | connectToServer => cases he
  | disconnectFromServer => cases he
  | connected =>
    have hnew : newFrames t.application (t.application.step E (.socket .connected outcome)) =
        [.text (.deviceIdentify deviceId bearerToken kClientVersion)] := by
      refine newFrames_eq ?_
      rw [hconnection, ← h.device, ← h.token]
      exact sent_sendMessage _ { t.application.connection.client with socket := .connected }
    have hsocket : (t.application.step E (.socket .connected outcome)).connection.client.socket = .connected := by
      rw [hconnection]
      exact socket_sendMessage _ _
    rw [Traced.step, hreceived, hnew]
    refine ⟨by rw [hconnection]; exact h.device, by rw [hconnection]; exact h.token, fun _ => ?_, fun hdown => ?_⟩
    · exact ⟨[], rfl, by simp⟩
    · exact absurd (Or.inl hsocket) hdown
  | disconnected =>
    rcases ServerConnection.step_disconnected E.fromJson t.application.connection with ⟨hi, -⟩ | ⟨-, heq⟩
    · rw [hlinked.purpose] at hi
      cases hi
    · rw [heq] at hconnection
      have hnew : newFrames t.application (t.application.step E (.socket .disconnected outcome)) = [] :=
        newFrames_eq (by rw [hconnection, List.append_nil])
      rw [Traced.step, hreceived, hnew]
      refine ⟨by rw [hconnection]; exact h.device, by rw [hconnection]; exact h.token, fun hup => ?_, fun _ => rfl⟩
      rw [hconnection] at hup
      rcases hup with hup | hup <;> cases hup
  | textMessageReceived message =>
    have hconnected : t.application.connection.client.socket = .connected := of_decide_eq_true he
    obtain ⟨_, _, _, heq⟩ := ServerConnection.exists_textMessageReceived E.fromJson t.application.connection message
    rw [heq] at hconnection
    have hnew : newFrames t.application (t.application.step E (.socket (.textMessageReceived message) outcome)) = [] :=
      newFrames_eq (by rw [hconnection, List.append_nil])
    rw [Traced.step, hreceived, hnew, List.map_nil, List.append_nil]
    refine h.extend (by rw [hconnection]) (by rw [hconnection]) (by rw [hconnection]) ?_ ?_
    · intro f hf
      have hsent : f ∈ Server.sentFrames (opened (t.application.connection.stepWith E.fromJson
          (.textMessageReceived message)).2) := List.mem_filterMap.2 ⟨.sent f, hf, rfl⟩
      simp at hsent
    · intro hdown
      exact absurd (Or.inl hconnected) hdown
  | heartbeatTimeout timestamp =>
    rw [ServerConnection.step_heartbeatTimeout] at hconnection
    split at hconnection
    · have hnew : newFrames t.application (t.application.step E (.socket (.heartbeatTimeout timestamp) outcome)) =
          if t.application.connection.client.isConnected then [.text (.heartbeatPing timestamp)] else [] :=
        newFrames_eq (by rw [hconnection]; exact sent_sendMessage _ _)
      rw [Traced.step, received_heartbeatTimeout, hnew]
      refine h.extend (by rw [hconnection]; rfl) (by rw [hconnection]; rfl) ?_ ?_ ?_
      · rw [hconnection, ServerConnection.onHeartbeatTick, socket_sendMessage]
      · intro f hf
        split at hf
        · obtain ⟨g, hg, hgf⟩ := List.mem_map.1 hf
          cases hgf
          rw [List.mem_singleton.1 hg]
          rfl
        · simp at hf
      · intro hdown
        have hc : t.application.connection.client.isConnected = false :=
          decide_eq_false fun hconnected => hdown (Or.inl hconnected)
        rw [hc]
        rfl
    · exact h.same E (received_heartbeatTimeout E t timestamp outcome) hconnection
  | reconnectTimeout =>
    rw [ServerConnection.step_reconnectTimeout] at hconnection
    split at hconnection
    · rename_i htimer
      have hunconnected := hlinked.timer.1 htimer
      have hnew : newFrames t.application (t.application.step E (.socket .reconnectTimeout outcome)) = [] :=
        newFrames_eq (by rw [hconnection, List.append_nil]; rfl)
      rw [Traced.step, received_reconnectTimeout, hnew]
      refine h.extend (by rw [hconnection]; rfl) (by rw [hconnection]; rfl) ?_ (by simp) fun _ => rfl
      rw [hconnection, hunconnected]
      constructor <;> rintro (hup | hup) <;> cases hup
    · exact h.same E (received_reconnectTimeout E t outcome) hconnection

/-- Every event of the program keeps the introduction first. -/
theorem introduced_step (hlinked : Linked t) (h : Introduced deviceId bearerToken t) (e : Event) :
    Introduced deviceId bearerToken (t.step E e) := by
  cases e with
  | startup e => exact h.same E rfl (connection_startup E e t.application)
  | socket e outcome =>
    cases he : occurs t.application.connection.client.socket e with
    | true => exact introduced_socket E hlinked h he outcome
    | false =>
      rw [step_not_occurs E he]
      exact h
  | socketCloses =>
    by_cases hc : t.application.connection.client.isConnected = true
    · have hconnected : t.application.connection.client.socket = .connected := of_decide_eq_true hc
      obtain ⟨hnew, hstep⟩ := step_socketCloses E hc
      rw [Traced.step, hnew]
      refine h.extend (by rw [hstep]) (by rw [hstep]) ?_ (by simp) fun _ => rfl
      rw [hstep]
      simp [Up, ServerConnection.closeSocket, hconnected]
    · exact h.same E rfl (by rw [show t.application.step E .socketCloses = t.application from if_neg hc])
  | orchestrator i e =>
    by_cases hown : isOwn e = true
    · cases hi : t.application.orchestrators[i]? with
      | none =>
        refine h.same E rfl ?_
        rw [step, if_pos hown, slot_none hi]
      | some o =>
        have hslot : (t.application.step E (.orchestrator i e)).connection =
            { t.application.connection with
              client := (AudioSessionOrchestrator.step E.toEnv (t.application.lend o) e).wsClient } := by
          rw [step, if_pos hown, slot_eq hi]
        have hsource := move_source E.toEnv (t.application.lend o) e
        have hnew : newFrames t.application (t.application.step E (.orchestrator i e)) =
            if t.application.connection.client.isConnected then
              (move E.toEnv (t.application.lend o) e).frames E.toEnv (t.application.lend o) else [] := by
          refine newFrames_eq ?_
          rw [hslot, (step_spec E.toEnv (t.application.lend o) e).sent, PairionWebSocketClient.puts]
          have hlent : (t.application.lend o).wsClient = t.application.connection.client := rfl
          rw [hlent]
          split
          · rfl
          · exact (List.append_nil _).symm
        rw [Traced.step, hnew]
        refine h.extend (by rw [hslot]) (by rw [hslot]) ?_ ?_ ?_
        · obtain ⟨-, -, hsocket⟩ := connection_orchestrator E i e t.application
          rw [hsocket]
        · intro f hf
          obtain ⟨g, hg, hgf⟩ := List.mem_map.1 hf
          cases hgf
          split at hg
          · exact identifies_frames E.toEnv hsource f hg
          · simp at hg
        · intro hdown
          have hc : t.application.connection.client.isConnected = false :=
            decide_eq_false fun hconnected => hdown (Or.inl hconnected)
          rw [hc]
          rfl
    · exact h.same E rfl (by rw [show t.application.step E (.orchestrator i e) = t.application from if_neg hown])
  | timePasses ms => exact h.same E rfl rfl

/-- At launch there is no connection yet. -/
theorem introduced_launched (deviceId bearerToken : String) (disk : String → Option Bytes) :
    Linked (launched deviceId bearerToken disk) ∧ Introduced deviceId bearerToken (launched deviceId bearerToken disk) := by
  refine ⟨(gate_launched deviceId bearerToken disk).toLinked, rfl, rfl, ?_, fun _ => rfl⟩
  rintro (hup | hup) <;> cases hup

/-- In every run of the program, the client identifies itself on each connection before anything else goes out on it, and
only then; and nothing goes out while there is no connection. -/
theorem identifies_first (deviceId bearerToken : String) (disk : String → Option Bytes) (es : List Event) :
    let t := run (Traced.step E) (launched deviceId bearerToken disk) es
    (Up t.application.connection.client.socket → IntroducedBy deviceId bearerToken t.log) ∧
      (¬Up t.application.connection.client.socket → t.log = []) := by
  intro t
  obtain ⟨-, hintroduced⟩ : Linked t ∧ Introduced deviceId bearerToken t :=
    inv_run_of_step (fun t => Linked t ∧ Introduced deviceId bearerToken t)
      (fun _ e h => ⟨linked_step E h.1 e, introduced_step E h.1 h.2 e⟩) es (introduced_launched deviceId bearerToken disk)
  exact ⟨hintroduced.up, hintroduced.down⟩

end Application

end PairionClient
