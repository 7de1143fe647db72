import PairionClient.Protocol.Messages

/-!
# The WebSocket client, as the pipeline uses it

`ws/pairion_websocket_client.cpp`: whether the socket is connected, and sending. A `QWebSocket` that is not connected sends
nothing, so `sent` is what has gone out on the wire, in order.
-/

namespace PairionClient

/-- `QAbstractSocket::SocketState`, as far as a `QWebSocket` shows it. -/
inductive SocketState where
  | unconnected | connecting | connected | closing
  deriving DecidableEq, Repr

/-- The part of `PairionWebSocketClient` that the pipeline uses. -/
structure PairionWebSocketClient where
  socket : SocketState := .unconnected
  sent : List WireFrame := []
  deriving DecidableEq, Repr

namespace PairionWebSocketClient

def isConnected (c : PairionWebSocketClient) : Bool := c.socket = .connected

/-- Hand a frame to the socket. -/
def put (f : WireFrame) (c : PairionWebSocketClient) : PairionWebSocketClient :=
  if c.isConnected then { c with sent := c.sent ++ [f] } else c

def sendMessage (msg : OutboundMessage) (c : PairionWebSocketClient) : PairionWebSocketClient := c.put (.text msg)

def sendBinaryFrame (data : Bytes) (c : PairionWebSocketClient) : PairionWebSocketClient := c.put (.binary data)

/-! ## Sending one frame after another -/

/-- Hand frames to the socket, in order. -/
def puts (fs : List WireFrame) (c : PairionWebSocketClient) : PairionWebSocketClient :=
  if c.isConnected then { c with sent := c.sent ++ fs } else c

/-- A message is put as a text frame. -/
theorem sendMessage_eq_puts (msg : OutboundMessage) (c : PairionWebSocketClient) :
    c.sendMessage msg = c.puts [.text msg] := rfl

/-- Binary data are put as a binary frame. -/
theorem sendBinaryFrame_eq_puts (data : Bytes) (c : PairionWebSocketClient) :
    c.sendBinaryFrame data = c.puts [.binary data] := rfl

@[simp] theorem puts_nil (c : PairionWebSocketClient) : c.puts [] = c := by
  simp [puts]

@[simp] theorem socket_puts (fs : List WireFrame) (c : PairionWebSocketClient) : (c.puts fs).socket = c.socket := by
  unfold puts
  split <;> rfl

/-- Frames that are put in two parts are put together. -/
theorem puts_puts (fs gs : List WireFrame) (c : PairionWebSocketClient) : (c.puts fs).puts gs = c.puts (fs ++ gs) := by
  unfold puts
  split <;> simp_all [isConnected]

/-- A connected socket sends what it is handed. -/
theorem sent_puts {c : PairionWebSocketClient} (h : c.isConnected = true) (fs : List WireFrame) :
    (c.puts fs).sent = c.sent ++ fs := by
  simp [puts, h]

end PairionWebSocketClient

end PairionClient
