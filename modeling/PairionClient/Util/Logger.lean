import Mathlib.Logic.Function.Basic
import PairionClient.Core.Json

/-!
# The logger

`util/logger.cpp`: any thread hands messages to `messageHandler`, and the logger's own thread takes the buffer for posting. A
section between a lock and its release is one step; what a call holds between its sections is its own. The instance is
installed, and a post does not fail.
-/

namespace PairionClient

/-- `QtMsgType`. -/
inductive QtMsgType where
  | debug | info | warning | critical | fatal
  deriving DecidableEq, Repr

def levelString : QtMsgType → String
  | .debug => "DEBUG"
  | .info => "INFO"
  | .warning => "WARN"
  | .critical => "ERROR"
  | .fatal => "ERROR"

structure LogRecord where
  timestamp : String
  level : String
  message : String
  sessionId : String := ""
  deriving DecidableEq, Repr

namespace LogRecord

/-- What the log callback is given. -/
def formatted (record : LogRecord) : String := "[" ++ record.timestamp ++ "] " ++ record.level ++ ": " ++ record.message

end LogRecord

/-- A call of `messageHandler`, with the text of its instant. -/
structure LogCall where
  type : QtMsgType
  msg : String
  timestamp : String
  deriving DecidableEq, Repr

/-- Where a thread is in `messageHandler`: outside, before it reads the session id, or before it enqueues. -/
inductive LogHandler where
  | outside
  | built (record : LogRecord)
  | stamped (record : LogRecord)
  deriving DecidableEq, Repr

/-- The logger, and the calls that the threads `τ` are in. -/
structure Logger (τ : Type) where
  buffer : List LogRecord := []
  sessionId : String := ""
  handlers : τ → LogHandler := fun _ => .outside
  /-- How many calls of a thread have returned. -/
  returned : τ → Nat := fun _ => 0
  /-- The batch of the flush that is running. -/
  batch : Option (List LogRecord) := none
  /-- The batches taken, and the arrays posted. -/
  taken : List (List LogRecord) := []
  posted : List (List QJsonObject) := []

namespace Logger

variable {τ : Type}

def setSessionId (sessionId : String) (l : Logger τ) : Logger τ := { l with sessionId := sessionId }

/-- The locked section of `flush`. -/
def takeBatch (l : Logger τ) : Logger τ :=
  if l.buffer = [] then l else { l with batch := some l.buffer, buffer := [], taken := l.taken ++ [l.buffer] }

/-- The array that `flush` builds. -/
def flushArray (batch : List LogRecord) : List QJsonObject :=
  batch.map fun rec =>
    [("timestamp", .string rec.timestamp), ("level", .string rec.level), ("message", .string rec.message)] ++
      if rec.sessionId = "" then [] else [("sessionId", .string rec.sessionId)]

/-- The rest of `flush`, without the lock. -/
def post (batch : List LogRecord) (l : Logger τ) : Logger τ :=
  { l with batch := none, posted := l.posted ++ [flushArray batch] }

/-- The logger's own thread runs `flush`, one section after the other. -/
def flush (l : Logger τ) : Logger τ :=
  match l.batch with
  | none => l.takeBatch
  | some batch => l.post batch

def pendingRecords (l : Logger τ) : List QJsonObject :=
  l.buffer.map fun rec =>
    [("timestamp", .string rec.timestamp), ("level", .string rec.level), ("message", .string rec.message)] ++
      if rec.sessionId = "" then [] else [("sessionId", .string rec.sessionId)]

def enqueue (record : LogRecord) (l : Logger τ) : Logger τ := { l with buffer := l.buffer ++ [record] }

variable [DecidableEq τ]

def setHandler (t : τ) (handler : LogHandler) (l : Logger τ) : Logger τ :=
  { l with handlers := Function.update l.handlers t handler }

/-- A thread enters `messageHandler`, reads the session id, or enqueues its record and returns. -/
def messageHandler (t : τ) (call : LogCall) (l : Logger τ) : Logger τ :=
  match l.handlers t with
  | .outside => l.setHandler t (.built { timestamp := call.timestamp, level := levelString call.type, message := call.msg })
  | .built record => l.setHandler t (.stamped { record with sessionId := l.sessionId })
  | .stamped record =>
    { (l.enqueue record).setHandler t .outside with
      returned := Function.update l.returned t (l.returned t + 1) }

/-- The next step of a thread in its calls of `messageHandler`, a call of `setSessionId`, or the next step of `flush`. -/
inductive Event (τ : Type) where
  | handler (t : τ)
  | setSessionId (sessionId : String)
  | flush
  deriving DecidableEq, Repr

/-- A step, when `calls` are the calls that each thread makes, one after the other. -/
def step (calls : τ → Nat → LogCall) (l : Logger τ) : Event τ → Logger τ
  | .handler t => l.messageHandler t (calls t (l.returned t))
  | .setSessionId sessionId => l.setSessionId sessionId
  | .flush => l.flush

end Logger

end PairionClient
