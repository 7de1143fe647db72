import Mathlib.Data.List.Basic

/-!
# Connection state

`state/connection_state.cpp`: the part of the store that the pipeline reads and writes. A setter that is given the value
already held changes nothing, so the value set is what matters here; the signals that the HUD hears are in `State/Scene`, and
the whole store with every signal is in `State/Properties`.
-/

namespace PairionClient

/-- `ConnectionState::Status`. -/
inductive ConnectionStatus where
  | disconnected | connecting | connected | reconnecting
  deriving DecidableEq, Repr

/-- The fields of `ConnectionState` that the audio pipeline and the start-up write. -/
structure ConnectionState where
  recentLogs : List String := []
  agentState : String := ""
  voiceState : String := ""
  pipelineHealth : String := "connecting"
  deriving DecidableEq, Repr

namespace ConnectionState

/-- Prepend a log entry and keep the fifty most recent. -/
def appendLog (entry : String) (c : ConnectionState) : ConnectionState :=
  { c with recentLogs := (entry :: c.recentLogs).take 50 }

def setAgentState (state : String) (c : ConnectionState) : ConnectionState := { c with agentState := state }

def setVoiceState (state : String) (c : ConnectionState) : ConnectionState := { c with voiceState := state }

def setPipelineHealth (health : String) (c : ConnectionState) : ConnectionState := { c with pipelineHealth := health }

@[simp] theorem pipelineHealth_appendLog (entry : String) (c : ConnectionState) :
    (c.appendLog entry).pipelineHealth = c.pipelineHealth := rfl

@[simp] theorem pipelineHealth_setAgentState (state : String) (c : ConnectionState) :
    (c.setAgentState state).pipelineHealth = c.pipelineHealth := rfl

@[simp] theorem pipelineHealth_setVoiceState (state : String) (c : ConnectionState) :
    (c.setVoiceState state).pipelineHealth = c.pipelineHealth := rfl

@[simp] theorem pipelineHealth_setPipelineHealth (health : String) (c : ConnectionState) :
    (c.setPipelineHealth health).pipelineHealth = health := rfl

end ConnectionState

end PairionClient
