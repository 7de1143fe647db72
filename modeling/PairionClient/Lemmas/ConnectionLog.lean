import PairionClient.Lemmas.Application
import PairionClient.Lemmas.ServerConnection

/-!
# What happens on a connection

The log of the current connection: the frames that went out on it, and the sessions that were opened on it. It is read off the
program step by step, and the client keeps it linked to the state of its socket.
-/

namespace PairionClient

namespace Application

variable (E : ApplicationEnv)

/-! ## What happens on a connection -/

/-- What happens on a connection: a session opens, or a frame goes out. -/
inductive Entry where
  | sessionOpened
  | sent (f : WireFrame)
  deriving DecidableEq, Repr

/-- The program, and what has happened on the current connection, in order. -/
structure Traced where
  application : Application
  log : List Entry := []

/-- The sessions among the signals of the client. -/
def opened (signals : List ConnectionSignal) : List Entry :=
  signals.filterMap fun
    | .sessionOpened _ _ => some .sessionOpened
    | _ => none

/-- A connection begins with `connected` and ends with `disconnected`. -/
def isBoundary : ServerConnection.Event → Bool
  | .connected | .disconnected => true
  | _ => false

/-- The log before the frames of a step: none of it is of a connection that has ended, and a session is opened by a
message of the server. -/
def Traced.received (t : Traced) : Event → List Entry
  | .socket e _ =>
    if occurs t.application.connection.client.socket e then
      if isBoundary e then [] else t.log ++ opened (t.application.connection.stepWith E.fromJson e).2
    else t.log
  | _ => t.log

/-- The frames that went out between two states of the program. -/
def newFrames (a a' : Application) : List WireFrame := a'.connection.client.sent.drop a.connection.client.sent.length

def Traced.step (t : Traced) (e : Event) : Traced :=
  let a := t.application.step E e
  ⟨a, t.received E e ++ (newFrames t.application a).map .sent⟩

/-- A frame that is about audio: a wake word, the start of a stream, a barge-in or a binary frame. -/
def isAudio : WireFrame → Bool
  | .text (.wakeWordDetected _ _) | .text (.audioStreamStart _ _ _) | .text (.bargeIn _) | .binary _ => true
  | _ => false

/-- Each audio frame on a connection has a `SessionOpened` before it. -/
def Gated (log : List Entry) : Prop :=
  ∀ before f, before ++ [.sent f] <+: log → isAudio f = true → .sessionOpened ∈ before

/-! ## The log -/

theorem gated_nil : Gated [] := by
  intro before f h
  simp at h

theorem gated_concat {log : List Entry} {x : Entry} (h : Gated log)
    (hx : ∀ f, x = .sent f → isAudio f = true → .sessionOpened ∈ log) : Gated (log ++ [x]) := by
  intro before f hleading haudio
  rcases List.prefix_concat_iff.1 hleading with hall | hearlier
  · obtain ⟨hbefore, hlast⟩ := List.append_inj' hall rfl
    rw [hbefore]
    exact hx f (List.cons.inj hlast).1.symm haudio
  · exact h before f hearlier haudio

/-- Frames that follow a `SessionOpened`, or are not about audio. -/
theorem gated_append {log : List Entry} (h : Gated log) (fs : List WireFrame)
    (hfs : .sessionOpened ∈ log ∨ ∀ f ∈ fs, isAudio f = false) : Gated (log ++ fs.map .sent) := by
  induction fs generalizing log with
  | nil => simpa using h
  | cons f fs ih =>
    have hf : Gated (log ++ [.sent f]) := by
      refine gated_concat h ?_
      intro g hg haudio
      cases hg
      rcases hfs with hopen | hother
      · exact hopen
      · rw [hother f List.mem_cons_self] at haudio
        cases haudio
    have hrest : .sessionOpened ∈ log ++ [Entry.sent f] ∨ ∀ g ∈ fs, isAudio g = false := by
      rcases hfs with hopen | hother
      · exact Or.inl (List.mem_append_left _ hopen)
      · exact Or.inr fun g hg => hother g (List.mem_cons_of_mem f hg)
    have happend : log ++ (f :: fs).map Entry.sent = log ++ [Entry.sent f] ++ fs.map .sent := by simp
    rw [happend]
    exact ih hf hrest

/-- The new frames of a step are those it has appended to what the client sent. -/
theorem newFrames_eq {a a' : Application} {fs : List WireFrame}
    (h : a'.connection.client.sent = a.connection.client.sent ++ fs) : newFrames a a' = fs := by
  rw [newFrames, h, List.drop_left]

/-- A step that leaves the connection sends no frame. -/
theorem newFrames_of_connection {a a' : Application} (h : a'.connection = a.connection) : newFrames a a' = [] :=
  newFrames_eq (by rw [h, List.append_nil])

/-- The closing handshake sends no frame of the program, and changes nothing but the client's socket. -/
theorem step_socketCloses {a : Application} (h : a.connection.client.isConnected = true) :
    newFrames a (a.step E .socketCloses) = [] ∧ a.step E .socketCloses =
      { a with connection := { a.connection with client := ServerConnection.closeSocket a.connection.client } } := by
  have hstep : a.step E .socketCloses =
      { a with connection := { a.connection with client := ServerConnection.closeSocket a.connection.client } } := if_pos h
  refine ⟨newFrames_eq ?_, hstep⟩
  rw [hstep]
  exact (List.append_nil _).symm

/-- A text message that the client sends is the only new frame, if it goes out. -/
theorem newFrames_sendMessage {a a' : Application} {c : PairionWebSocketClient} {msg : OutboundMessage}
    (hc : c.sent = a.connection.client.sent) (h : a'.connection.client = c.sendMessage msg) :
    ∀ f ∈ newFrames a a', f = .text msg := by
  have hput : ∃ fs, (c.sendMessage msg).sent = c.sent ++ fs ∧ ∀ f ∈ fs, f = .text msg := by
    unfold PairionWebSocketClient.sendMessage PairionWebSocketClient.put
    split
    · exact ⟨[.text msg], rfl, fun f hf => List.mem_singleton.1 hf⟩
    · exact ⟨[], (List.append_nil _).symm, fun f hf => absurd hf List.not_mem_nil⟩
  obtain ⟨fs, hsent, hfs⟩ := hput
  have hnew : newFrames a a' = fs := newFrames_eq (by rw [h, hsent, hc])
  rw [hnew]
  exact hfs

/-- A step that receives nothing and sends nothing. -/
theorem log_of_none {t : Traced} {e : Event} (hl : t.received E e = t.log)
    (hnone : newFrames t.application (t.application.step E e) = []) : (t.step E e).log = t.log := by
  rw [Traced.step, hl, hnone, List.map_nil, List.append_nil]

/-- A step that changes nothing. -/
theorem step_eq_self {t : Traced} {e : Event} (ha : t.application.step E e = t.application) (hl : t.received E e = t.log) :
    t.step E e = t := by
  rw [Traced.step, ha, hl, newFrames_of_connection rfl, List.map_nil, List.append_nil]

/-- What the socket cannot do. -/
theorem step_not_occurs {t : Traced} {e : ServerConnection.Event}
    (he : occurs t.application.connection.client.socket e = false) (outcome : InitOutcome) :
    t.step E (.socket e outcome) = t := by
  have hsame : t.application.step E (.socket e outcome) = t.application := by
    rw [step, he]
    rfl
  have hreceived : t.received E (.socket e outcome) = t.log := by
    rw [Traced.received, he]
    rfl
  exact step_eq_self E hsame hreceived

/-! ## The socket -/

/-- What holds of the client: no disconnect is on purpose, the reconnect timer is armed while the socket is unconnected
and only then, and a session is open only on a socket that is connected, or closing. -/
structure Linked (t : Traced) : Prop where
  purpose : t.application.connection.intentionalDisconnect = false
  timer : t.application.connection.reconnectTimer.isSome = true ↔ t.application.connection.client.socket = .unconnected
  session : .sessionOpened ∈ t.log →
    t.application.connection.client.socket = .connected ∨ t.application.connection.client.socket = .closing

/-- On any other socket no session is open. -/
theorem Linked.no_session {t : Traced} (h : Linked t) (hconnected : t.application.connection.client.socket ≠ .connected)
    (hclosing : t.application.connection.client.socket ≠ .closing) : .sessionOpened ∉ t.log := by
  intro hopen
  rcases h.session hopen with hs | hs
  · exact hconnected hs
  · exact hclosing hs

/-- Frames that are sent do not open a session. -/
theorem mem_append_sent {log : List Entry} {fs : List WireFrame} :
    Entry.sessionOpened ∈ log ++ fs.map Entry.sent ↔ .sessionOpened ∈ log := by
  simp

/-- Frames that go out leave the client as it is. -/
theorem linked_sent {t : Traced} (h : Linked t) {a : Application} (fs : List WireFrame)
    (hp : a.connection.intentionalDisconnect = t.application.connection.intentionalDisconnect)
    (ht : a.connection.reconnectTimer = t.application.connection.reconnectTimer)
    (hs : a.connection.client.socket = t.application.connection.client.socket) : Linked ⟨a, t.log ++ fs.map .sent⟩ :=
  ⟨hp.trans h.purpose, by rw [ht, hs]; exact h.timer, fun hopen => by rw [hs]; exact h.session (mem_append_sent.1 hopen)⟩

/-- A step of the startup leaves the connection. -/
theorem connection_startup (e : Startup.Event) (a : Application) : (a.step E (.startup e)).connection = a.connection := by
  cases e with
  | sessionOpened outcome => rfl
  | _ => exact connection_start E _ a

/-- An orchestrator leaves the client as it is, but for what it sends. -/
theorem connection_orchestrator (i : Nat) (e : AudioSessionOrchestrator.Event) (a : Application) :
    (a.step E (.orchestrator i e)).connection.intentionalDisconnect = a.connection.intentionalDisconnect ∧
      (a.step E (.orchestrator i e)).connection.reconnectTimer = a.connection.reconnectTimer ∧
      (a.step E (.orchestrator i e)).connection.client.socket = a.connection.client.socket := by
  simp only [step]
  split
  · rename_i hown
    cases hi : a.orchestrators[i]? with
    | none =>
      rw [slot_none hi]
      exact ⟨rfl, rfl, rfl⟩
    | some o =>
      rw [slot_eq hi]
      exact ⟨rfl, rfl, socket_own E.toEnv hown (a.lend o)⟩
  · exact ⟨rfl, rfl, rfl⟩

/-- What `main` does on a signal of the connection sends nothing. -/
theorem connection_onConnectionSignal (outcome : InitOutcome) (a : Application) (signal : ConnectionSignal) :
    (onConnectionSignal E outcome a signal).connection = a.connection := by
  cases signal with
  | inboundMessage msg => rfl
  | sessionOpened sessionId serverVersion =>
    rw [onConnectionSignal]
    exact (connection_broadcast wsClient_startListening _ _).trans (connection_start E _ a)
  | disconnected => exact connection_broadcast wsClient_onWsDisconnected _ a

/-- What it does on several signals sends nothing either. -/
theorem connection_foldl_onConnectionSignal (outcome : InitOutcome) (signals : List ConnectionSignal) (a : Application) :
    (signals.foldl (onConnectionSignal E outcome) a).connection = a.connection := by
  induction signals generalizing a with
  | nil => rfl
  | cons signal signals ih => rw [List.foldl_cons, ih, connection_onConnectionSignal]

/-- The client after an event of its socket is what the client makes of it: the slots its signals run do not touch it. -/
theorem connection_socket {e : ServerConnection.Event} {a : Application} (h : occurs a.connection.client.socket e = true)
    (outcome : InitOutcome) : (a.step E (.socket e outcome)).connection = a.connection.step E.fromJson e := by
  rw [step, if_pos h]
  exact connection_foldl_onConnectionSignal E outcome _ _

@[simp] theorem socket_sendMessage (msg : OutboundMessage) (c : PairionWebSocketClient) :
    (c.sendMessage msg).socket = c.socket := PairionWebSocketClient.socket_puts [.text msg] c

/-- What an event of the socket leaves of the frames and of the session before the client sends. -/
theorem received_socket {t : Traced} {e : ServerConnection.Event}
    (he : occurs t.application.connection.client.socket e = true) (outcome : InitOutcome) :
    t.received E (.socket e outcome) =
      if isBoundary e then [] else t.log ++ opened (t.application.connection.stepWith E.fromJson e).2 := if_pos he

/-- The timers of the client receive nothing. -/
theorem received_heartbeatTimeout (t : Traced) (timestamp : String) (outcome : InitOutcome) :
    t.received E (.socket (.heartbeatTimeout timestamp) outcome) = t.log :=
  (received_socket E rfl outcome).trans (List.append_nil _)

/-- The timer of the reconnect delivers nothing to the log. -/
theorem received_reconnectTimeout (t : Traced) (outcome : InitOutcome) :
    t.received E (.socket .reconnectTimeout outcome) = t.log :=
  (received_socket E rfl outcome).trans (List.append_nil _)

/-- An event of the socket that can occur keeps the log linked to the connection. -/
theorem linked_socket {t : Traced} (h : Linked t) {e : ServerConnection.Event}
    (he : occurs t.application.connection.client.socket e = true) (outcome : InitOutcome) :
    Linked (t.step E (.socket e outcome)) := by
  have hconnection := connection_socket E he outcome
  have hnosession (fs : List WireFrame) : Entry.sessionOpened ∉ [] ++ fs.map Entry.sent := by simp
  have hreceived := received_socket E he outcome
  cases e with
  | connectToServer => cases he
  | disconnectFromServer => cases he
  | connected =>
    have hconnecting : t.application.connection.client.socket = .connecting := of_decide_eq_true he
    refine ⟨?_, ?_, ?_⟩
    · rw [Traced.step, hconnection]
      exact h.purpose
    · rw [Traced.step, hconnection]
      have htimer := h.timer
      rw [hconnecting] at htimer
      simpa [ServerConnection.step, ServerConnection.stepWith, ServerConnection.onConnected] using htimer
    · rw [Traced.step, hreceived]
      exact fun hopen => absurd hopen (hnosession _)
  | disconnected =>
    rcases ServerConnection.step_disconnected E.fromJson t.application.connection with ⟨hi, -⟩ | ⟨-, heq⟩
    · rw [h.purpose] at hi
      cases hi
    · rw [heq] at hconnection
      refine ⟨?_, ?_, ?_⟩
      · rw [Traced.step, hconnection]
        exact h.purpose
      · rw [Traced.step, hconnection]
        simp
      · rw [Traced.step, hreceived]
        exact fun hopen => absurd hopen (hnosession _)
  | textMessageReceived message =>
    have hconnected : t.application.connection.client.socket = .connected := of_decide_eq_true he
    obtain ⟨_, _, _, heq⟩ := ServerConnection.exists_textMessageReceived E.fromJson t.application.connection message
    rw [heq] at hconnection
    refine ⟨?_, ?_, ?_⟩
    · rw [Traced.step, hconnection]
      exact h.purpose
    · rw [Traced.step, hconnection]
      exact h.timer
    · rw [Traced.step, hconnection]
      exact fun _ => Or.inl hconnected
  | heartbeatTimeout timestamp =>
    rw [Traced.step, received_heartbeatTimeout]
    rw [ServerConnection.step_heartbeatTimeout] at hconnection
    split at hconnection
    · exact linked_sent h _ (by rw [hconnection]; rfl) (by rw [hconnection]; rfl)
        (by rw [hconnection]; exact socket_sendMessage _ _)
    · exact linked_sent h _ (by rw [hconnection]) (by rw [hconnection]) (by rw [hconnection])
  | reconnectTimeout =>
    rw [Traced.step, received_reconnectTimeout]
    by_cases htimer : t.application.connection.reconnectTimer.isSome = true
    · have hunconnected := h.timer.1 htimer
      rw [ServerConnection.step_reconnectTimeout, if_pos htimer] at hconnection
      refine ⟨?_, ?_, ?_⟩
      · rw [hconnection]
        rfl
      · rw [hconnection]
        simp [ServerConnection.connectToServer]
      · intro hopen
        rw [mem_append_sent] at hopen
        exact absurd hopen (h.no_session (by rw [hunconnected]; decide) (by rw [hunconnected]; decide))
    · rw [ServerConnection.step_reconnectTimeout, if_neg htimer] at hconnection
      exact linked_sent h _ (by rw [hconnection]) (by rw [hconnection]) (by rw [hconnection])

/-- Every step keeps the client linked, whatever the start-up does. -/
theorem linked_step {t : Traced} (h : Linked t) (e : Event) : Linked (t.step E e) := by
  cases e with
  | startup e =>
    have hconnection := connection_startup E e t.application
    exact linked_sent h _ (by rw [hconnection]) (by rw [hconnection]) (by rw [hconnection])
  | socket e outcome =>
    cases he : occurs t.application.connection.client.socket e with
    | true => exact linked_socket E h he outcome
    | false =>
      rw [step_not_occurs E he outcome]
      exact h
  | socketCloses =>
    rw [Traced.step, step]
    split
    · rename_i hc
      have hconnected : t.application.connection.client.socket = .connected := of_decide_eq_true hc
      refine ⟨h.purpose, ?_, fun _ => Or.inr ?_⟩
      · have htimer := h.timer
        rw [hconnected] at htimer
        simpa [ServerConnection.closeSocket, hconnected] using htimer
      · simp [ServerConnection.closeSocket, hconnected]
    · exact linked_sent h _ rfl rfl rfl
  | orchestrator i e =>
    obtain ⟨hp, ht, hs⟩ := connection_orchestrator E i e t.application
    exact linked_sent h _ hp ht hs
  | timePasses ms => exact linked_sent h _ rfl rfl rfl

end Application

end PairionClient
