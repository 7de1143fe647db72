import PairionClient.Lib.Run
import PairionClient.Protocol.EnvelopeCodec
import PairionClient.State.ConnectionState
import PairionClient.Ws.WebSocketClient

/-!
# The connection to the server

The rest of `ws/pairion_websocket_client.cpp`: connecting, disconnecting, and reconnecting with backoff. The record holds the
client's members and the fields of `ConnectionState` that it writes for the debug panel. The socket is left open: its signals
are events and may come in any order, so what holds here holds of every socket. Of the inbound messages only `SessionOpened`
touches the connection; the others are passed on.
-/

namespace PairionClient

/-- Reconnect backoff intervals in milliseconds. -/
def kReconnectBackoffMs : List Nat := [1000, 2000, 4000, 8000, 15000, 30000]

/-- Number of reconnect backoff steps. -/
def kReconnectBackoffSteps : Nat := 6

/-- The version of the client. -/
def kClientVersion : String := "0.3.0"

/-- What the client emits about its connection. -/
inductive ConnectionSignal where
  | inboundMessage (msg : InboundMessage)
  | sessionOpened (sessionId serverVersion : String)
  | disconnected

structure ServerConnection where
  deviceId : String
  bearerToken : String
  client : PairionWebSocketClient := {}
  /-- The status, session and attempts that the connection state shows. -/
  status : ConnectionStatus := .disconnected
  sessionId : String := ""
  serverVersion : String := ""
  reconnectAttempts : Nat := 0
  /-- `m_heartbeatTimer` is active. -/
  heartbeatTimer : Bool := false
  /-- The interval of `m_reconnectTimer`, while it is active. -/
  reconnectTimer : Option Nat := none
  reconnectAttempt : Nat := 0
  intentionalDisconnect : Bool := false
  deriving DecidableEq, Repr

namespace ServerConnection

def connectToServer (c : ServerConnection) : ServerConnection :=
  { c with
    intentionalDisconnect := false
    status := .connecting
    client := { c.client with socket := .connecting } }

/-- `QWebSocket::close`: a socket that is connecting or connected begins to close. -/
def closeSocket (c : PairionWebSocketClient) : PairionWebSocketClient :=
  { c with socket := if c.socket = .unconnected then .unconnected else .closing }

def disconnectFromServer (c : ServerConnection) : ServerConnection :=
  { c with
    intentionalDisconnect := true
    heartbeatTimer := false
    reconnectTimer := none
    client := closeSocket c.client
    status := .disconnected
    sessionId := ""
    serverVersion := ""
    reconnectAttempts := 0 }

def onConnected (c : ServerConnection) : ServerConnection :=
  { c with
    reconnectAttempt := 0
    reconnectAttempts := 0
    client := c.client.sendMessage (.deviceIdentify c.deviceId c.bearerToken kClientVersion)
    heartbeatTimer := true }

/-- The place in the table of the current backoff: one before the attempt, kept inside the table. -/
def backoffIndex (reconnectAttempt : Nat) : Int :=
  let idx : Int := reconnectAttempt - 1
  let idx := if idx < 0 then 0 else idx
  if idx ≥ kReconnectBackoffSteps then kReconnectBackoffSteps - 1 else idx

def currentBackoffMs (c : ServerConnection) : Nat := kReconnectBackoffMs.getD (backoffIndex c.reconnectAttempt).toNat 0

def scheduleReconnect (c : ServerConnection) : ServerConnection :=
  let c := { c with status := .reconnecting, reconnectAttempt := c.reconnectAttempt + 1 }
  { c with reconnectAttempts := c.reconnectAttempt, reconnectTimer := some c.currentBackoffMs }

/-- The slots of `disconnected` run before the reconnect is scheduled, and change nothing here. -/
def onDisconnected (c : ServerConnection) : ServerConnection × List ConnectionSignal :=
  let c := { c with heartbeatTimer := false, sessionId := "", serverVersion := "" }
  (if c.intentionalDisconnect = false then c.scheduleReconnect else { c with status := .disconnected }, [.disconnected])

def onTextMessageReceived (fromJson : Bytes → Except String QJsonDocument) (message : String) (c : ServerConnection) :
    ServerConnection × List ConnectionSignal :=
  match EnvelopeCodec.deserializeFromString fromJson message with
  | none => (c, [])
  | some (.sessionOpened sessionId serverVersion) =>
    ({ c with status := .connected, sessionId := sessionId, serverVersion := serverVersion },
      [.inboundMessage (.sessionOpened sessionId serverVersion), .sessionOpened sessionId serverVersion])
  | some msg => (c, [.inboundMessage msg])

def onHeartbeatTick (timestamp : String) (c : ServerConnection) : ServerConnection :=
  { c with client := c.client.sendMessage (.heartbeatPing timestamp) }

def onReconnectTick (c : ServerConnection) : ServerConnection := c.connectToServer

/-! ## Events -/

/-- The calls the client takes, the signals of its socket and the expiries of its timers. -/
inductive Event where
  | connectToServer
  | disconnectFromServer
  | connected
  | disconnected
  | textMessageReceived (message : String)
  | heartbeatTimeout (timestamp : String)
  | reconnectTimeout
  deriving DecidableEq, Repr

/-- A step, and what the client emits in it. A timer expires only while it is active, the reconnect timer once. -/
def stepWith (fromJson : Bytes → Except String QJsonDocument) (c : ServerConnection) :
    Event → ServerConnection × List ConnectionSignal
  | .connectToServer => (c.connectToServer, [])
  | .disconnectFromServer => (c.disconnectFromServer, [])
  | .connected => ({ c with client := { c.client with socket := .connected } }.onConnected, [])
  | .disconnected => { c with client := { c.client with socket := .unconnected } }.onDisconnected
  | .textMessageReceived message => c.onTextMessageReceived fromJson message
  | .heartbeatTimeout timestamp => (if c.heartbeatTimer then c.onHeartbeatTick timestamp else c, [])
  | .reconnectTimeout =>
    (if c.reconnectTimer.isSome then { c with reconnectTimer := none }.onReconnectTick else c, [])

def step (fromJson : Bytes → Except String QJsonDocument) (c : ServerConnection) (e : Event) : ServerConnection :=
  (c.stepWith fromJson e).1

end ServerConnection

end PairionClient
