import PairionClient.Audio.Capture
import PairionClient.Audio.Opus
import PairionClient.Audio.Playback
import PairionClient.Audio.RingBuffer
import PairionClient.Backgrounds.GlobeBackground
import PairionClient.Backgrounds.OsmBackground
import PairionClient.Core.Constants
import PairionClient.Core.DeviceIdentity
import PairionClient.Core.JavaScript
import PairionClient.Core.Json
import PairionClient.Core.ModelDownloader
import PairionClient.Core.QSettings
import PairionClient.Hud.HemisphereMap
import PairionClient.Hud.LayerManager
import PairionClient.Hud.MapAnimation
import PairionClient.Hud.PipelineHealthIndicator
import PairionClient.Hud.RadarHud
import PairionClient.Lemmas.Application
import PairionClient.Lemmas.Capture
import PairionClient.Lemmas.ConnectionLog
import PairionClient.Lemmas.Dispatch
import PairionClient.Lemmas.Handed
import PairionClient.Lemmas.HealthMonitor
import PairionClient.Lemmas.LayerManager
import PairionClient.Lemmas.ModelDownloader
import PairionClient.Lemmas.Moves
import PairionClient.Lemmas.Orchestrator
import PairionClient.Lemmas.OsmBackground
import PairionClient.Lemmas.OverlayStack
import PairionClient.Lemmas.Playback
import PairionClient.Lemmas.Properties
import PairionClient.Lemmas.RadarHud
import PairionClient.Lemmas.Scene
import PairionClient.Lemmas.ServerConnection
import PairionClient.Lemmas.Session
import PairionClient.Lemmas.Slots
import PairionClient.Lemmas.Startup
import PairionClient.Lemmas.Threads
import PairionClient.Lemmas.Wakeword
import PairionClient.Lib.Animation
import PairionClient.Lib.Blocks
import PairionClient.Lib.Checked
import PairionClient.Lib.Demux
import PairionClient.Lib.Fifo
import PairionClient.Lib.Grid
import PairionClient.Lib.Mercator
import PairionClient.Lib.Notify
import PairionClient.Lib.Numerals
import PairionClient.Lib.Refractory
import PairionClient.Lib.Refs
import PairionClient.Lib.Ring
import PairionClient.Lib.Run
import PairionClient.Lib.ShortWay
import PairionClient.Lib.Since
import PairionClient.Lib.Sounds
import PairionClient.Lib.WriteThrough
import PairionClient.Main.Application
import PairionClient.Main.Installation
import PairionClient.Main.Session
import PairionClient.Main.Startup
import PairionClient.Main.Threads
import PairionClient.Memory.MemoryBrowserModel
import PairionClient.Memory.MemoryClient
import PairionClient.Overlays.AdsbOverlay
import PairionClient.Overlays.RadarAnimation
import PairionClient.Overlays.WeatherRadarOverlay
import PairionClient.Pipeline.BargeInFilter
import PairionClient.Pipeline.HealthMonitor
import PairionClient.Pipeline.Orchestrator
import PairionClient.Protocol.BinaryCodec
import PairionClient.Protocol.EnvelopeCodec
import PairionClient.Protocol.Messages
import PairionClient.Settings.Settings
import PairionClient.State.ConnectionState
import PairionClient.State.Properties
import PairionClient.State.Scene
import PairionClient.Theorems.AircraftPositions
import PairionClient.Theorems.Attribution
import PairionClient.Theorems.BackgroundMirror
import PairionClient.Theorems.BackgroundParams
import PairionClient.Theorems.Backgrounds
import PairionClient.Theorems.BargeIn
import PairionClient.Theorems.BargeInTimer
import PairionClient.Theorems.BinaryFrames
import PairionClient.Theorems.CaptureSessions
import PairionClient.Theorems.Codec
import PairionClient.Theorems.ConnectionPhases
import PairionClient.Theorems.Conservation
import PairionClient.Theorems.Demultiplexing
import PairionClient.Theorems.Dispatch
import PairionClient.Theorems.Downloads
import PairionClient.Theorems.FailedLoads
import PairionClient.Theorems.FrameRate
import PairionClient.Theorems.Handshake
import PairionClient.Theorems.Headings
import PairionClient.Theorems.Health
import PairionClient.Theorems.HealthIndicator
import PairionClient.Theorems.LogForwarding
import PairionClient.Theorems.MapArrival
import PairionClient.Theorems.MapCentre
import PairionClient.Theorems.MapCopies
import PairionClient.Theorems.MapRefinement
import PairionClient.Theorems.MemoryBrowser
import PairionClient.Theorems.ModelsReady
import PairionClient.Theorems.Notifications
import PairionClient.Theorems.OneIdentity
import PairionClient.Theorems.OsmTiles
import PairionClient.Theorems.OverlayPoints
import PairionClient.Theorems.OverlayStore
import PairionClient.Theorems.Overlays
import PairionClient.Theorems.PlaceOnScreen
import PairionClient.Theorems.RadarCoverage
import PairionClient.Theorems.RadarFrames
import PairionClient.Theorems.RadarLists
import PairionClient.Theorems.Reconnect
import PairionClient.Theorems.Reframing
import PairionClient.Theorems.ReplyPlayed
import PairionClient.Theorems.RingBuffer
import PairionClient.Theorems.SerialDownloads
import PairionClient.Theorems.SessionGate
import PairionClient.Theorems.SettingsInUse
import PairionClient.Theorems.SettingsPersist
import PairionClient.Theorems.ShortestPan
import PairionClient.Theorems.StaleSpeech
import PairionClient.Theorems.StartAttempts
import PairionClient.Theorems.Startup
import PairionClient.Theorems.StartupHealth
import PairionClient.Theorems.StoppedPlayback
import PairionClient.Theorems.Streams
import PairionClient.Theorems.Threshold
import PairionClient.Theorems.UnderBreath
import PairionClient.Theorems.UnplayedAudio
import PairionClient.Theorems.Upload
import PairionClient.Theorems.VadGrammar
import PairionClient.Theorems.WakeAnnouncements
import PairionClient.Theorems.WakeBuffers
import PairionClient.Theorems.WakeSizes
import PairionClient.Theorems.WakeWindows
import PairionClient.Theorems.Watchdog
import PairionClient.Util.Logger
import PairionClient.Vad.SileroVad
import PairionClient.Wake.WakewordAccesses
import PairionClient.Wake.WakewordDetector
import PairionClient.Ws.Dispatch
import PairionClient.Ws.ServerConnection
import PairionClient.Ws.WebSocketClient
