import PairionClient.Main.Startup
import PairionClient.Pipeline.Orchestrator
import PairionClient.Ws.ServerConnection

/-!
# The whole program

`main.cpp` with everything it connects on the main thread: the start-up, the one WebSocket client, and the orchestrator of
each pipeline. They share the client, the connection state, the clock and the source of UUIDs, which a slot borrows while it
runs. The socket does what a `QWebSocket` does: `connected` comes while it is connecting, `disconnected` while it is not
unconnected, and a text message while it is connected. `main` calls `connectToServer` once, before its event loop, and nothing
calls `disconnectFromServer`.
-/

namespace PairionClient

/-- What the program takes from its surroundings. -/
structure ApplicationEnv extends Env where
  models : ModelStore
  fromJson : Bytes → Except String QJsonDocument
  /-- The VAD of each new pipeline, with the thresholds that the settings have then. -/
  vad : Nat → SileroVad

structure Application where
  startup : Startup
  connection : ServerConnection
  orchestrators : List AudioSessionOrchestrator := []
  now : Nat := 0
  uuids : Nat := 0

namespace Application

/-- `main`, when its event loop begins. -/
def main (deviceId bearerToken : String) (disk : String → Option Bytes) : Application where
  startup := { downloader := { disk := disk } }
  connection := { deviceId := deviceId, bearerToken := bearerToken : ServerConnection }.connectToServer

/-! ## Slots of the orchestrators -/

/-- An orchestrator with what it shares. -/
def lend (a : Application) (o : AudioSessionOrchestrator) : AudioSessionOrchestrator :=
  { o with wsClient := a.connection.client, connState := a.startup.connState, now := a.now, uuids := a.uuids }

/-- Run a slot of one orchestrator. -/
def slot (f : AudioSessionOrchestrator → AudioSessionOrchestrator) (i : Nat) (a : Application) : Application :=
  match a.orchestrators[i]? with
  | none => a
  | some o =>
    let o := f (a.lend o)
    { a with
      orchestrators := a.orchestrators.set i o
      connection := { a.connection with client := o.wsClient }
      startup := { a.startup with connState := o.connState }
      uuids := o.uuids }

/-- Run a slot of the first `n` orchestrators, in the order in which they were connected. -/
def broadcast (f : AudioSessionOrchestrator → AudioSessionOrchestrator) (n : Nat) (a : Application) : Application :=
  (List.range n).foldl (fun a i => a.slot f i) a

variable (E : ApplicationEnv)

/-! ## The start of pipelines -/

/-- The orchestrator of a new pipeline, which listens when the start got to its end. -/
def addPipeline (a : Application) (p : Pipeline) : Application :=
  let i := a.orchestrators.length
  let o := AudioSessionOrchestrator.create (E.vad i) a.connection.client a.startup.connState
  let a := { a with orchestrators := a.orchestrators ++ [o] }
  if p.started then a.slot (·.startListening) i else a

/-- A step of the start-up, with the orchestrators of the pipelines it builds. -/
def start (e : Startup.Event) (a : Application) : Application :=
  let s := a.startup.step E.models e
  (s.pipelines.drop a.startup.pipelines.length).foldl (addPipeline E) { a with startup := s }

/-! ## Signals of the WebSocket client -/

/-- What a signal of the client runs. The check of the models is connected before the orchestrators are, and a slot that
is connected while a signal is emitted does not run. Other messages than `SessionOpened` reach the orchestrators as their
own events. -/
def onConnectionSignal (outcome : InitOutcome) (a : Application) : ConnectionSignal → Application
  | .inboundMessage _ => a
  | .sessionOpened _ _ => (a.start E (.sessionOpened outcome)).broadcast (·.onWsReconnected) a.orchestrators.length
  | .disconnected => a.broadcast (·.onWsDisconnected) a.orchestrators.length

/-! ## Events -/

/-- What can happen in the event loop. A frame that opens a session carries the answer to the start it may lead to. -/
inductive Event where
  | startup (e : Startup.Event)
  | socket (e : ServerConnection.Event) (outcome : InitOutcome)
  | socketCloses
  | orchestrator (i : Nat) (e : AudioSessionOrchestrator.Event)
  | timePasses (ms : Nat)

/-- The socket and the timers of the client can emit this. -/
def occurs (socket : SocketState) : ServerConnection.Event → Bool
  | .connected => socket = .connecting
  | .disconnected => socket ≠ .unconnected
  | .textMessageReceived _ => socket = .connected
  | .heartbeatTimeout _ | .reconnectTimeout => true
  | .connectToServer | .disconnectFromServer => false

/-- The event comes from the pipeline of the orchestrator, or from its timers. -/
def isOwn : AudioSessionOrchestrator.Event → Bool
  | .startListening | .wsDisconnected | .sessionOpened | .socketStateChanged _ | .timePasses _ => false
  | _ => true

def step (a : Application) : Event → Application
  | .startup (.sessionOpened _) => a
  | .startup e => a.start E e
  | .socket e outcome =>
    if occurs a.connection.client.socket e then
      let r := a.connection.stepWith E.fromJson e
      r.2.foldl (onConnectionSignal E outcome) { a with connection := r.1 }
    else a
  | .socketCloses =>
    if a.connection.client.isConnected then
      { a with connection := { a.connection with client := ServerConnection.closeSocket a.connection.client } }
    else a
  | .orchestrator i e => if isOwn e then a.slot (·.step E.toEnv e) i else a
  | .timePasses ms => { a with now := a.now + ms }

end Application

end PairionClient
