import PairionClient.Core.Json

/-!
# The memory client

`memory/memory_client.cpp`: GET requests to the memory REST endpoints. A request waits among `replies` until it finishes, in
whatever order, with a network error or with a body; the body is parsed by `QJsonDocument::fromJson`. The answer is a signal,
and says which operation it belongs to, not which request.
-/

namespace PairionClient

/-- What the memory browser takes from Qt: the JSON parser, with the text of its errors, and the reading and printing of
dates, an instant being its milliseconds since the epoch. -/
structure QtText where
  fromJson : Bytes → Except String QJsonDocument
  /-- `QDateTime::fromString(iso, Qt::ISODate)`, when it is valid. -/
  isoDate : String → Option Int
  /-- `QDateTime::fromString(iso, Qt::ISODateWithMs)`, when it is valid. -/
  isoDateWithMs : String → Option Int
  /-- `toLocalTime().toString("MMM d, h:mm AP")`. -/
  localTime : Int → String

/-- What the client fetches. -/
inductive Fetch where
  | episodes
  | turns (episodeId : String)
  | preferences
  deriving DecidableEq, Repr

/-- The operation label for error reporting. -/
def Fetch.operation : Fetch → String
  | .episodes => "fetchEpisodes"
  | .turns _ => "fetchTurns"
  | .preferences => "fetchPreferences"

/-- The path of the endpoint under the base URL. -/
def Fetch.path : Fetch → String
  | .episodes => "/memory/episodes"
  | .turns episodeId => "/memory/episodes/" ++ episodeId ++ "/turns"
  | .preferences => "/memory/preferences"

/-- How a `QNetworkReply` finishes. -/
inductive ReplyOutcome where
  | networkError (errorString : String)
  | body (bytes : Bytes)
  deriving DecidableEq, Repr

/-- What the client emits. -/
inductive MemorySignal where
  | episodesReceived (episodes : List QJsonValue)
  | turnsReceived (turns : List QJsonValue)
  | preferencesReceived (preferences : List QJsonValue)
  | fetchError (operation message : String)

/-- The signal that delivers the array fetched. -/
def Fetch.onSuccess : Fetch → List QJsonValue → MemorySignal
  | .episodes => .episodesReceived
  | .turns _ => .turnsReceived
  | .preferences => .preferencesReceived

/-- A request whose reply has not finished. -/
structure PendingReply where
  url : String
  fetch : Fetch
  deriving DecidableEq, Repr

structure MemoryClient where
  baseUrl : String
  replies : List PendingReply := []
  deriving DecidableEq, Repr

namespace MemoryClient

def get (fetch : Fetch) (c : MemoryClient) : MemoryClient :=
  { c with replies := c.replies ++ [⟨c.baseUrl ++ fetch.path ++ "?userId=default-user", fetch⟩] }

def fetchEpisodes (c : MemoryClient) : MemoryClient := c.get .episodes

def fetchTurns (episodeId : String) (c : MemoryClient) : MemoryClient := c.get (.turns episodeId)

def fetchPreferences (c : MemoryClient) : MemoryClient := c.get .preferences

/-- The array in a document: the document itself, or the "items" of an object. -/
def items : QJsonDocument → List QJsonValue
  | .array items => items
  | .object members => (QJsonObject.value members "items").toArray

/-- What a request has fetched when it finishes: the array, or the message of the error. -/
def fetched (qt : QtText) : ReplyOutcome → Except String (List QJsonValue)
  | .networkError errorString => .error errorString
  | .body bytes =>
    match qt.fromJson bytes with
    | .error errorString => .error ("JSON parse error: " ++ errorString)
    | .ok doc => .ok (items doc)

/-- The signal emitted when a request finishes. -/
def onFinished (qt : QtText) (fetch : Fetch) (outcome : ReplyOutcome) : MemorySignal :=
  match fetched qt outcome with
  | .error message => .fetchError fetch.operation message
  | .ok arr => fetch.onSuccess arr

end MemoryClient

end PairionClient
