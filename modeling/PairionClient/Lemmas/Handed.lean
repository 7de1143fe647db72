import PairionClient.Lemmas.Moves

/-!
# What the orchestrator hands to its client

The wire holds what was handed to a socket that was connected. What the orchestrator itself sends is what its slots hand over,
whether or not the socket takes it.
-/

namespace PairionClient

namespace AudioSessionOrchestrator

open PairionWebSocketClient

/-- The orchestrator with a client that is connected and has sent nothing. -/
def plugged (o : AudioSessionOrchestrator) : AudioSessionOrchestrator := { o with wsClient := { socket := .connected } }

/-- What the slots of a step hand to the client: what a connected socket sends in the step. A wake word that comes while
the socket is not connected hands over nothing. -/
def handed (env : Env) (o : AudioSessionOrchestrator) (e : Event) : List WireFrame :=
  match e with
  | .wakeWordDetected _ _ => if o.wsClient.isConnected then (step env o.plugged e).wsClient.sent else []
  | _ => (step env o.plugged e).wsClient.sent

/-- From an empty record of frames, a step sends the frames of its move. -/
theorem sent_plugged (env : Env) (o : AudioSessionOrchestrator) (e : Event) :
    (step env o.plugged e).wsClient.sent = (move env o.plugged e).frames env o := by
  rw [(step_spec env o.plugged e).sent]
  have hconnected : o.plugged.wsClient.isConnected = true := rfl
  rw [sent_puts hconnected]
  cases move env o.plugged e <;> rfl

/-- What is handed over is what the move says. -/
theorem handed_eq (env : Env) (o : AudioSessionOrchestrator) (e : Event) :
    handed env o e = (move env o e).frames env o := by
  cases e with
  | wakeWordDetected score preRoll =>
    rw [handed, sent_plugged]
    cases hc : o.wsClient.isConnected with
    | true =>
      have hmove : move env o.plugged (.wakeWordDetected score preRoll) = move env o (.wakeWordDetected score preRoll) := by
        have hplugged : o.plugged.wsClient.isConnected = true := rfl
        simp only [move, hplugged, hc]
        rfl
      rw [if_pos rfl, hmove]
    | false =>
      have hmove : move env o (.wakeWordDetected score preRoll) = .stay := by simp [move, hc]
      rw [hmove]
      rfl
  | _ => exact sent_plugged env o _

/-- The wire after a step. -/
theorem sent_step (env : Env) (o : AudioSessionOrchestrator) (e : Event) :
    (step env o e).wsClient.sent = (o.wsClient.puts (handed env o e)).sent := by
  rw [handed_eq, (step_spec env o e).sent]

/-- The frames of a pre-roll buffer are binary. -/
theorem text_not_mem_preRollFrames (env : Env) (streamId : String) (enc : PairionOpusEncoder) (preRoll : Bytes)
    (msg : OutboundMessage) : .text msg ∉ preRollFrames env streamId enc preRoll := by
  simp [preRollFrames, packetFrames]

end AudioSessionOrchestrator

end PairionClient
