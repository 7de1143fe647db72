import PairionClient.Lemmas.ServerConnection

/-!
# Reconnecting

Calls of the client that come in the middle of reconnecting, and what the connection state then shows. Then what comes in
after a disconnect on purpose.
-/

namespace PairionClient

open Transition

namespace ServerConnection

variable (fromJson : Bytes → Except String QJsonDocument)

/-- A fresh client. -/
def create (deviceId bearerToken : String) : ServerConnection := { deviceId := deviceId, bearerToken := bearerToken }

/-! ## Status, session and reconnect timer -/

/-- The reconnect timer is armed exactly while the status is Reconnecting, and a session is shown only while it is
Connected. -/
def Coherent (c : ServerConnection) : Prop :=
  (c.reconnectTimer.isSome = true ↔ c.status = .reconnecting) ∧
    (c.status ≠ .connected → c.sessionId = "" ∧ c.serverVersion = "")

/-- A call of `connectToServer` while reconnecting or while a session is shown, or a session opened while reconnecting. -/
def Clashes (c : ServerConnection) (e : Event) : Prop :=
  (e = .connectToServer ∧
    (c.status = .reconnecting ∨ (c.status = .connected ∧ ¬(c.sessionId = "" ∧ c.serverVersion = "")))) ∨
  (OpensSession fromJson e ∧ c.status = .reconnecting)

/-- What a step keeps: after a disconnect on purpose the reconnect timer is not armed. -/
def CoherentInv (c : ServerConnection) : Prop :=
  Coherent c ∧ (c.intentionalDisconnect = true → c.reconnectTimer = none)

/-- An event that does not clash keeps the invariant. -/
theorem coherentInv_step {c : ServerConnection} {e : Event} (h : CoherentInv c) (he : ¬Clashes fromJson c e) :
    CoherentInv (c.step fromJson e) := by
  obtain ⟨⟨htimer, hsession⟩, hpurpose⟩ := h
  cases e with
  | connectToServer =>
    have hstatus : c.status ≠ .reconnecting := fun hr => he (Or.inl ⟨rfl, Or.inl hr⟩)
    have hnone : c.reconnectTimer = none := by
      have hnot : ¬c.reconnectTimer.isSome = true := fun hs => hstatus (htimer.1 hs)
      simpa using hnot
    have hempty : c.sessionId = "" ∧ c.serverVersion = "" := by
      by_cases hc : c.status = .connected
      · exact not_not.1 fun hn => he (Or.inl ⟨rfl, Or.inr ⟨hc, hn⟩⟩)
      · exact hsession hc
    exact ⟨⟨by simp [step, stepWith, connectToServer, hnone], fun _ => hempty⟩, fun hi => absurd hi Bool.false_ne_true⟩
  | disconnectFromServer =>
    exact ⟨⟨by simp [step, stepWith, disconnectFromServer], fun _ => ⟨rfl, rfl⟩⟩, fun _ => rfl⟩
  | connected => exact ⟨⟨htimer, hsession⟩, hpurpose⟩
  | disconnected =>
    rcases step_disconnected fromJson c with ⟨hi, heq⟩ | ⟨hi, heq⟩
    · rw [heq]
      have hnone : c.reconnectTimer = none := hpurpose hi
      exact ⟨⟨by simp [hnone], fun _ => ⟨rfl, rfl⟩⟩, fun _ => hnone⟩
    · rw [heq]
      refine ⟨⟨by simp, fun _ => ⟨rfl, rfl⟩⟩, ?_⟩
      intro hi'
      exact absurd (hi.symm.trans hi') (by decide)
  | textMessageReceived message =>
    rcases step_textMessageReceived fromJson c message with ⟨sessionId, serverVersion, hmsg, heq⟩ | ⟨-, heq⟩
    · rw [heq]
      have hstatus : c.status ≠ .reconnecting := fun hr => he (Or.inr ⟨⟨sessionId, serverVersion, hmsg⟩, hr⟩)
      have hnone : ¬c.reconnectTimer.isSome = true := fun hs => hstatus (htimer.1 hs)
      refine ⟨⟨by simp [hnone], ?_⟩, hpurpose⟩
      intro hc
      exact absurd rfl hc
    · rw [heq]
      exact ⟨⟨htimer, hsession⟩, hpurpose⟩
  | heartbeatTimeout timestamp =>
    have heq : c.step fromJson (.heartbeatTimeout timestamp) = if c.heartbeatTimer then c.onHeartbeatTick timestamp else c :=
      rfl
    rw [heq]
    split
    · exact ⟨⟨htimer, hsession⟩, hpurpose⟩
    · exact ⟨⟨htimer, hsession⟩, hpurpose⟩
  | reconnectTimeout =>
    have heq : c.step fromJson .reconnectTimeout =
        if c.reconnectTimer.isSome then { c with reconnectTimer := none }.connectToServer else c := rfl
    rw [heq]
    split
    · rename_i hs
      have hne : c.status ≠ .connected := by
        rw [htimer.1 hs]
        decide
      exact ⟨⟨by simp [connectToServer], fun _ => hsession hne⟩, fun hi => absurd hi Bool.false_ne_true⟩
    · exact ⟨⟨htimer, hsession⟩, hpurpose⟩

theorem not_coherent_step {c : ServerConnection} {e : Event} (h : CoherentInv c) (he : Clashes fromJson c e) :
    ¬Coherent (c.step fromJson e) := by
  obtain ⟨⟨htimer, -⟩, -⟩ := h
  rintro ⟨htimer', hsession'⟩
  rcases he with ⟨rfl, hr | ⟨-, hshown⟩⟩ | ⟨hopens, hr⟩
  · -- the timer still runs, and the status has left Reconnecting
    have hstatus : ConnectionStatus.connecting = .reconnecting := htimer'.1 (htimer.2 hr)
    exact absurd hstatus (by decide)
  · exact hshown (hsession' (by simp [step, stepWith, connectToServer]))
  · cases e with
    | textMessageReceived message =>
      rcases step_textMessageReceived fromJson c message with ⟨sessionId, serverVersion, -, heq⟩ | ⟨hnot, -⟩
      · rw [heq] at htimer'
        have hstatus : ConnectionStatus.connected = .reconnecting := htimer'.1 (htimer.2 hr)
        exact absurd hstatus (by decide)
      · exact hnot hopens
    | _ => exact hopens.elim

/-- The connection is coherent in every state of a run exactly when no step of the run clashes. -/
theorem coherent_iff (deviceId bearerToken : String) (es : List Event) :
    Always (step fromJson) Coherent (create deviceId bearerToken) es ↔
      EveryStep (step fromJson) (fun c e => ¬Clashes fromJson c e) (create deviceId bearerToken) es := by
  refine always_iff_everyStep (fun _ => True) CoherentInv (fun _ h => h.1) ?_ ?_ (fun _ _ => trivial) ?_
  · exact fun c e _ h he => coherentInv_step fromJson h he
  · exact fun c e _ h he => not_coherent_step fromJson h (not_not.1 he)
  · exact ⟨⟨by simp [create], fun _ => ⟨rfl, rfl⟩⟩, fun _ => rfl⟩

/-- The server drops a session, and `connectToServer` is called before the reconnect timer expires. -/
theorem coherent_false :
    ¬∀ (fromJson : Bytes → Except String QJsonDocument) (deviceId bearerToken : String) (es : List Event),
      Always (step fromJson) Coherent (create deviceId bearerToken) es := by
  intro h
  obtain ⟨htimer, -⟩ := h opensSessions "device" "token"
    [.connectToServer, .connected, .textMessageReceived sessionOpenedText, .disconnected, .connectToServer] _ (List.prefix_refl _)
  exact absurd (htimer.1 (by decide)) (by decide)

/-! ## Backoff -/

/-- The connection, whether `disconnectFromServer` has been called since the last `connectToServer`, and the unintentional
disconnects since the last successful connection and the last `disconnectFromServer`. -/
structure Failing where
  conn : ServerConnection
  onPurpose : Bool := false
  failures : Nat := 0

/-- The unintentional disconnects counted after an event. -/
def Failing.failuresAfter (s : Failing) : Event → Nat
  | .connected | .disconnectFromServer => 0
  | .disconnected => if s.onPurpose then s.failures else s.failures + 1
  | _ => s.failures

def Failing.onPurposeAfter (s : Failing) : Event → Bool
  | .connectToServer => false
  | .disconnectFromServer => true
  | _ => s.onPurpose

def Failing.step (s : Failing) (e : Event) : Failing := ⟨s.conn.step fromJson e, s.onPurposeAfter e, s.failuresAfter e⟩

/-- The step runs `scheduleReconnect`. -/
def SchedulesReconnect (c : ServerConnection) (e : Event) : Prop := e = .disconnected ∧ c.intentionalDisconnect = false

/-- After a step the attempts shown, the client's own count and the failures are one number, and a reconnect that was
scheduled in it has the backoff of that number. -/
def BacksOff (s : Failing) (e : Event) : Prop :=
  (s.step fromJson e).conn.reconnectAttempts = (s.step fromJson e).conn.reconnectAttempt ∧
    (s.step fromJson e).conn.reconnectAttempt = (s.step fromJson e).failures ∧
    (SchedulesReconnect s.conn e →
      ∃ ms, kReconnectBackoffMs[min (s.step fromJson e).failures kReconnectBackoffSteps - 1]? = some ms ∧
        (s.step fromJson e).conn.reconnectTimer = some ms)

/-- A disconnect on purpose in the middle of a failing sequence. -/
def GivesUp (s : Failing) (e : Event) : Prop := e = .disconnectFromServer ∧ s.failures ≠ 0

def FailingInv (s : Failing) : Prop :=
  s.conn.reconnectAttempts = s.failures ∧ s.conn.reconnectAttempt = s.failures ∧
    s.conn.intentionalDisconnect = s.onPurpose ∧ (s.onPurpose = true → s.conn.reconnectTimer = none)

/-- There are as many delays as steps. -/
theorem length_kReconnectBackoffMs : kReconnectBackoffMs.length = kReconnectBackoffSteps := rfl

/-- The index of the delay grows with the attempts, up to the last one. -/
theorem backoffIndex_succ (n : Nat) : (backoffIndex (n + 1)).toNat = min (n + 1) kReconnectBackoffSteps - 1 := by
  unfold backoffIndex kReconnectBackoffSteps
  dsimp only
  have hpos : ¬((n + 1 : Nat) : Int) - 1 < 0 := by omega
  rw [if_neg hpos]
  split <;> omega

/-- The backoff of an attempt is in the table. -/
theorem backoff_mem_table (n : Nat) :
    kReconnectBackoffMs[min (n + 1) kReconnectBackoffSteps - 1]? =
      some (kReconnectBackoffMs.getD (backoffIndex (n + 1)).toNat 0) := by
  have hlt : min (n + 1) kReconnectBackoffSteps - 1 < kReconnectBackoffMs.length := by
    rw [length_kReconnectBackoffMs]
    unfold kReconnectBackoffSteps
    omega
  rw [backoffIndex_succ, List.getD_eq_getElem?_getD, List.getElem?_eq_getElem hlt, Option.getD_some]

/-- A step that does not give up keeps the invariant of the failing client. -/
theorem failingInv_step {s : Failing} {e : Event} (h : FailingInv s) (he : ¬GivesUp s e) :
    FailingInv (s.step fromJson e) := by
  obtain ⟨hshown, hown, hpurpose, hnone⟩ := h
  cases e with
  | connectToServer => exact ⟨hshown, hown, rfl, nofun⟩
  | disconnectFromServer =>
    have hzero : s.failures = 0 := not_not.1 fun hn => he ⟨rfl, hn⟩
    exact ⟨rfl, hown.trans hzero, rfl, fun _ => rfl⟩
  | connected => exact ⟨rfl, rfl, hpurpose, hnone⟩
  | disconnected =>
    rcases step_disconnected fromJson s.conn with ⟨hi, heq⟩ | ⟨hi, heq⟩
    · have hp : s.onPurpose = true := hpurpose.symm.trans hi
      simp only [Failing.step, FailingInv, heq, Failing.failuresAfter, Failing.onPurposeAfter, hp, if_true]
      exact ⟨hshown, hown, hi, fun _ => hnone hp⟩
    · have hp : s.onPurpose = false := hpurpose.symm.trans hi
      simp only [Failing.step, FailingInv, heq, Failing.failuresAfter, Failing.onPurposeAfter, hp, hown]
      exact ⟨rfl, rfl, hi, nofun⟩
  | textMessageReceived message =>
    obtain ⟨_, _, _, heq⟩ := exists_textMessageReceived fromJson s.conn message
    simp only [Failing.step, FailingInv, heq]
    exact ⟨hshown, hown, hpurpose, hnone⟩
  | heartbeatTimeout timestamp =>
    have heq : s.conn.step fromJson (.heartbeatTimeout timestamp) =
        if s.conn.heartbeatTimer then s.conn.onHeartbeatTick timestamp else s.conn := rfl
    simp only [Failing.step, FailingInv, heq]
    split
    · exact ⟨hshown, hown, hpurpose, hnone⟩
    · exact ⟨hshown, hown, hpurpose, hnone⟩
  | reconnectTimeout =>
    have heq : s.conn.step fromJson .reconnectTimeout =
        if s.conn.reconnectTimer.isSome then { s.conn with reconnectTimer := none }.connectToServer else s.conn := rfl
    simp only [Failing.step, FailingInv, heq]
    split
    · rename_i hs
      have hp : s.onPurpose = false := by
        cases hp : s.onPurpose with
        | false => rfl
        | true => simp [hnone hp] at hs
      exact ⟨hshown, hown, hp.symm, fun _ => rfl⟩
    · exact ⟨hshown, hown, hpurpose, hnone⟩

theorem backsOff_step {s : Failing} {e : Event} (h : FailingInv s) (he : ¬GivesUp s e) : BacksOff fromJson s e := by
  obtain ⟨hshown, hown, -, -⟩ := failingInv_step fromJson h he
  refine ⟨hshown.trans hown.symm, hown, ?_⟩
  rintro ⟨rfl, hi⟩
  rcases step_disconnected fromJson s.conn with ⟨hi', -⟩ | ⟨-, heq⟩
  · exact absurd (hi.symm.trans hi') (by decide)
  · have hfailures : (s.step fromJson .disconnected).failures = s.conn.reconnectAttempt + 1 := by
      rw [← hown, Failing.step, heq]
    rw [hfailures]
    exact ⟨_, backoff_mem_table s.conn.reconnectAttempt, by rw [Failing.step, heq]⟩

/-- Giving up resets the attempts shown and not the client's own count. -/
theorem not_backsOff_step {s : Failing} {e : Event} (h : FailingInv s) (he : GivesUp s e) : ¬BacksOff fromJson s e := by
  obtain ⟨rfl, hne⟩ := he
  rintro ⟨-, hown, -⟩
  have hzero : s.conn.reconnectAttempt = 0 := hown
  exact hne (h.2.1.symm.trans hzero)

/-- The backoff law holds at every step of a run exactly when no disconnect on purpose of the run comes in the middle of a
failing sequence. -/
theorem backs_off_iff (deviceId bearerToken : String) (es : List Event) :
    EveryStep (Failing.step fromJson) (BacksOff fromJson) ⟨create deviceId bearerToken, false, 0⟩ es ↔
      EveryStep (Failing.step fromJson) (fun s e => ¬GivesUp s e) ⟨create deviceId bearerToken, false, 0⟩ es := by
  refine everyStep_congr_of_inv FailingInv ?_ ?_ ⟨rfl, rfl, rfl, fun _ => rfl⟩
  · exact fun s e h he => failingInv_step fromJson h he
  · exact fun s e h => ⟨fun hlaw he => not_backsOff_step fromJson h he hlaw, fun he => backsOff_step fromJson h he⟩

/-- A connection fails, and the client is disconnected on purpose: it shows no attempts, and has counted one. -/
theorem backs_off_false :
    ¬∀ (fromJson : Bytes → Except String QJsonDocument) (deviceId bearerToken : String) (es : List Event),
      EveryStep (Failing.step fromJson) (BacksOff fromJson) ⟨create deviceId bearerToken, false, 0⟩ es := by
  intro h
  obtain ⟨-, -, ⟨hshown, -, -⟩, -⟩ := h opensSessions "device" "token"
    [.connectToServer, .disconnected, .disconnectFromServer]
  exact absurd hshown (by decide)

/-! ## A disconnect on purpose -/

/-- What can still happen after a disconnect on purpose: text frames that were received before, the end of the connection,
timers, and one more disconnect. -/
def Afterwards (e : Event) : Prop := e ≠ .connectToServer ∧ e ≠ .connected

/-- The client is disconnected and stays quiet: no session is shown, no socket opens, no timer runs, and `sent` is all
that has gone out. -/
structure Final (sent : List WireFrame) (c : ServerConnection) : Prop where
  status : c.status = .disconnected
  sessionId : c.sessionId = ""
  serverVersion : c.serverVersion = ""
  socket : c.client.socket = .unconnected ∨ c.client.socket = .closing
  sent : c.client.sent = sent
  heartbeatTimer : c.heartbeatTimer = false
  reconnectTimer : c.reconnectTimer = none

/-- After `disconnectFromServer` the client is disconnected, on purpose. -/
theorem final_disconnectFromServer (c : ServerConnection) :
    Final c.client.sent c.disconnectFromServer ∧ c.disconnectFromServer.intentionalDisconnect = true := by
  refine ⟨⟨rfl, rfl, rfl, ?_, rfl, rfl, rfl⟩, rfl⟩
  unfold disconnectFromServer closeSocket
  dsimp only
  split
  · exact Or.inl rfl
  · exact Or.inr rfl

/-- What comes afterwards leaves the client as quiet as it is, unless it opens a session. -/
theorem final_step {sent : List WireFrame} {c : ServerConnection} {e : Event} (hafter : Afterwards e) (h : Final sent c)
    (hpurpose : c.intentionalDisconnect = true) (he : ¬OpensSession fromJson e) :
    Final sent (c.step fromJson e) ∧ (c.step fromJson e).intentionalDisconnect = true := by
  cases e with
  | connectToServer => exact absurd rfl hafter.1
  | connected => exact absurd rfl hafter.2
  | disconnectFromServer =>
    have hagain := final_disconnectFromServer c
    rw [h.sent] at hagain
    exact hagain
  | disconnected =>
    rcases step_disconnected fromJson c with ⟨-, heq⟩ | ⟨hi, -⟩
    · rw [heq]
      exact ⟨⟨rfl, rfl, rfl, Or.inl rfl, h.sent, rfl, h.reconnectTimer⟩, hpurpose⟩
    · exact absurd (hi.symm.trans hpurpose) Bool.false_ne_true
  | textMessageReceived message =>
    rcases step_textMessageReceived fromJson c message with ⟨sessionId, serverVersion, hmsg, -⟩ | ⟨-, heq⟩
    · exact absurd ⟨sessionId, serverVersion, hmsg⟩ he
    · rw [heq]
      exact ⟨h, hpurpose⟩
  | heartbeatTimeout timestamp =>
    rw [step_heartbeatTimeout, h.heartbeatTimer]
    exact ⟨h, hpurpose⟩
  | reconnectTimeout =>
    rw [step_reconnectTimeout, h.reconnectTimer]
    exact ⟨h, hpurpose⟩

/-- The handler of text frames does not look at the purpose of a disconnect. -/
theorem not_final_step {sent : List WireFrame} {c : ServerConnection} {e : Event} (he : OpensSession fromJson e) :
    ¬Final sent (c.step fromJson e) := by
  intro h
  cases e with
  | textMessageReceived message =>
    rcases step_textMessageReceived fromJson c message with ⟨sessionId, serverVersion, -, heq⟩ | ⟨hno, -⟩
    · have hstatus := h.status
      rw [heq] at hstatus
      exact ConnectionStatus.noConfusion hstatus
    · exact hno he
  | _ => exact he.elim

/-- Whatever the state in which the client is disconnected on purpose, the disconnect is final in every state of a later
run exactly when no text frame of the run opens a session. -/
theorem disconnect_final_iff (c : ServerConnection) (es : List Event) (hes : ∀ e ∈ es, Afterwards e) :
    Always (step fromJson) (Final c.client.sent) c.disconnectFromServer es ↔ ∀ e ∈ es, ¬OpensSession fromJson e := by
  rw [← everyStep_iff_forall c.disconnectFromServer es]
  refine always_iff_everyStep Afterwards (fun d => Final c.client.sent d ∧ d.intentionalDisconnect = true) (fun _ h => h.1)
    ?_ ?_ hes (final_disconnectFromServer c)
  · exact fun _ e hafter h he => final_step fromJson hafter h.1 h.2 he
  · exact fun _ e _ _ he => not_final_step fromJson (not_not.1 he)

/-- A client that has connected, and waits for the server to open the session. -/
def awaitingSession : ServerConnection where
  deviceId := "device"
  bearerToken := "token"
  client := { socket := .connected }
  status := .connecting
  heartbeatTimer := true

/-- A quiet close: the connection ends, and nothing comes of the timers. -/
theorem disconnect_final_iff_quiet :
    Always (step opensSessions) (Final []) awaitingSession.disconnectFromServer
      [.heartbeatTimeout "2026-01-01T00:00:00.000Z", .disconnected, .reconnectTimeout] := by
  refine (disconnect_final_iff opensSessions awaitingSession _ ?_).2 ?_
  · intro e he
    simp only [List.mem_cons, List.not_mem_nil, or_false] at he
    rcases he with rfl | rfl | rfl <;> exact ⟨by decide, by decide⟩
  · intro e he
    simp only [List.mem_cons, List.not_mem_nil, or_false] at he
    rcases he with rfl | rfl | rfl <;> exact id

/-- The server opens the session while the client closes: the client shows Connected, and the session. -/
theorem disconnect_final_iff_false :
    ¬∀ (fromJson : Bytes → Except String QJsonDocument) (c : ServerConnection) (es : List Event),
      (∀ e ∈ es, Afterwards e) → Always (step fromJson) (Final c.client.sent) c.disconnectFromServer es := by
  intro h
  have hafter : ∀ e ∈ [Event.textMessageReceived sessionOpenedText], Afterwards e := by
    intro e he
    rw [List.mem_singleton.1 he]
    exact ⟨by decide, by decide⟩
  have hfinal := h opensSessions awaitingSession [.textMessageReceived sessionOpenedText] hafter _ (List.prefix_refl _)
  exact absurd hfinal.status (by decide)

end ServerConnection

end PairionClient
