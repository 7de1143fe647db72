import PairionClient.Lib.Run
import PairionClient.Memory.MemoryClient

/-!
# The memory browser

`memory/memory_browser_model.cpp`: the episodes, the turns of the selected episode and the preferences shown by the memory
browser, and how many requests are under way. The model keeps its client, whose requests finish in any order. Which change
signals it emits is not modelled.
-/

namespace PairionClient

structure EpisodeItem where
  id : String
  title : String
  startTime : String
  turnCount : Int
  deriving DecidableEq, Repr

structure TurnItem where
  role : String
  content : String
  timestamp : String
  deriving DecidableEq, Repr

structure PreferenceItem where
  key : String
  value : String
  updatedAt : String
  deriving DecidableEq, Repr

structure MemoryBrowserModel where
  client : MemoryClient
  episodes : List EpisodeItem := []
  selectedEpisodeTurns : List TurnItem := []
  preferences : List PreferenceItem := []
  loading : Bool := false
  errorMessage : String := ""
  selectedEpisodeId : String := ""
  pendingRequests : Nat := 0
  deriving DecidableEq, Repr

namespace MemoryBrowserModel

def create (baseUrl : String) : MemoryBrowserModel := { client := { baseUrl := baseUrl } }

/-- An ISO 8601 text as local time, and any other text as it is. -/
def formatTimestamp (qt : QtText) (iso : String) : String :=
  if iso = "" then iso
  else
    match qt.isoDate iso with
    | some dt => qt.localTime dt
    | none =>
      match qt.isoDateWithMs iso with
      | some dt => qt.localTime dt
      | none => iso

/-! ## The rows of a reply -/

def episodeItem (qt : QtText) (v : QJsonValue) : EpisodeItem :=
  let obj := v.toObject
  { id := (obj.value "id").toString
    title := (obj.value "title").toString
    startTime := formatTimestamp qt (obj.value "startTime").toString
    turnCount := (obj.value "turnCount").toInt }

def turnItem (qt : QtText) (v : QJsonValue) : TurnItem :=
  let obj := v.toObject
  { role := (obj.value "role").toString
    content := (obj.value "content").toString
    timestamp := formatTimestamp qt (obj.value "timestamp").toString }

def preferenceItem (qt : QtText) (v : QJsonValue) : PreferenceItem :=
  let obj := v.toObject
  { key := (obj.value "key").toString
    value := (obj.value "value").toString
    updatedAt := formatTimestamp qt (obj.value "updatedAt").toString }

/-! ## Slots -/

/-- The counter goes down to zero and no further; at zero nothing is loading. -/
def decrementPending (m : MemoryBrowserModel) : MemoryBrowserModel :=
  let m := if m.pendingRequests > 0 then { m with pendingRequests := m.pendingRequests - 1 } else m
  if m.pendingRequests = 0 then { m with loading := false } else m

/-- The handlers of the client's signals. -/
def onSignal (qt : QtText) (m : MemoryBrowserModel) : MemorySignal → MemoryBrowserModel
  | .episodesReceived arr => { m with episodes := arr.map (episodeItem qt) }.decrementPending
  | .turnsReceived arr => { m with selectedEpisodeTurns := arr.map (turnItem qt) }.decrementPending
  | .preferencesReceived arr => { m with preferences := arr.map (preferenceItem qt) }.decrementPending
  | .fetchError op msg => { m with errorMessage := op ++ ": " ++ msg }.decrementPending

def refresh (m : MemoryBrowserModel) : MemoryBrowserModel :=
  { m with
    errorMessage := ""
    selectedEpisodeId := ""
    selectedEpisodeTurns := []
    pendingRequests := 2
    loading := true
    client := m.client.fetchEpisodes.fetchPreferences }

def selectEpisode (episodeId : String) (m : MemoryBrowserModel) : MemoryBrowserModel :=
  { m with
    selectedEpisodeId := episodeId
    selectedEpisodeTurns := []
    pendingRequests := m.pendingRequests + 1
    loading := true
    client := m.client.fetchTurns episodeId }

def clearSelection (m : MemoryBrowserModel) : MemoryBrowserModel :=
  { m with selectedEpisodeId := "", selectedEpisodeTurns := [] }

/-- A request finishes: it is no longer pending, and its signal is handled. -/
def replyFinished (qt : QtText) (i : Nat) (outcome : ReplyOutcome) (m : MemoryBrowserModel) : MemoryBrowserModel :=
  match m.client.replies[i]? with
  | none => m
  | some reply =>
    onSignal qt { m with client := { m.client with replies := m.client.replies.eraseIdx i } }
      (MemoryClient.onFinished qt reply.fetch outcome)

/-! ## Events -/

/-- What can happen to the model: its slots, and the `i`-th pending request finishes. -/
inductive Event where
  | refresh
  | selectEpisode (episodeId : String)
  | clearSelection
  | replyFinished (i : Nat) (outcome : ReplyOutcome)
  deriving DecidableEq, Repr

def step (qt : QtText) (m : MemoryBrowserModel) : Event → MemoryBrowserModel
  | .refresh => m.refresh
  | .selectEpisode episodeId => m.selectEpisode episodeId
  | .clearSelection => m.clearSelection
  | .replyFinished i outcome => m.replyFinished qt i outcome

end MemoryBrowserModel

end PairionClient
