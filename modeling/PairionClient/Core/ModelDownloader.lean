import PairionClient.Core.Constants

/-!
# The model downloader

`core/model_downloader.cpp`. The entries of the embedded manifest, the cache location and the hash are a parameter; the
files are a map from paths to contents. A GET is a reply in flight until it finishes, with its bytes or the text of an
error; a reply remembers the entry it was requested for, which the code does not. `stored` records which reply was written
for which entry.
-/

namespace PairionClient

structure ModelEntry where
  name : String
  url : String
  sha256 : String
  deriving DecidableEq, Repr

/-- What the downloader takes from its resources and from Qt. -/
structure ModelStore where
  /-- `loadManifest()`. -/
  manifest : List ModelEntry
  /-- `QStandardPaths::writableLocation(AppDataLocation)`. -/
  appDataLocation : String
  /-- The hexadecimal SHA-256 of a file. -/
  sha256Hex : Bytes → String
  sha256Hex_length : ∀ data, (sha256Hex data).length = 64

/-- What the downloader emits. -/
inductive DownloaderSignal where
  | downloadProgress (percent : Int)
  | allModelsReady
  | downloadError (reason : String)
  deriving DecidableEq, Repr

/-- A GET that has not finished, and the entry whose URL it asks for. -/
structure Reply where
  id : Nat
  entry : ModelEntry
  deriving DecidableEq, Repr

structure ModelDownloader where
  pending : List ModelEntry := []
  totalCount : Nat := 0
  completedCount : Nat := 0
  inFlight : List Reply := []
  nextReply : Nat := 0
  disk : String → Option Bytes
  stored : List (Reply × ModelEntry) := []

namespace ModelDownloader

variable (M : ModelStore)

def modelCacheDir : String := M.appDataLocation ++ "/models"

def modelPath (name : String) : String := modelCacheDir M ++ "/" ++ name

/-- The file is there and its hash is the one expected; an empty hash is rejected. -/
def verifyFile (disk : String → Option Bytes) (path expectedSha256 : String) : Bool :=
  if expectedSha256 = "" then false
  else
    match disk path with
    | none => false
    | some data => M.sha256Hex data = expectedSha256

/-- The entries that are not cached and verified. -/
def missing (d : ModelDownloader) : List ModelEntry :=
  M.manifest.filter fun entry => !verifyFile M d.disk (modelPath M entry.name) entry.sha256

/-- Ask for the head of the pending list, or announce that nothing is pending. -/
def downloadNext (d : ModelDownloader) : ModelDownloader × List DownloaderSignal :=
  match d.pending with
  | [] => (d, [.allModelsReady])
  | entry :: _ =>
    ({ d with inFlight := d.inFlight ++ [⟨d.nextReply, entry⟩], nextReply := d.nextReply + 1 }, [])

def checkAndDownload (d : ModelDownloader) : ModelDownloader × List DownloaderSignal :=
  let d := { d with
    totalCount := M.manifest.length
    completedCount := M.manifest.length - (missing M d).length
    pending := missing M d }
  if d.pending = [] then (d, [.allModelsReady]) else downloadNext d

/-- The progress of a reply. -/
def onReplyProgress (received total : Int) (d : ModelDownloader) : List DownloaderSignal :=
  if total > 0 then
    let fileProgress := (received * 100).tdiv total
    [.downloadProgress ((d.completedCount * 100 + fileProgress).tdiv d.totalCount)]
  else []

/-- Write a file, and remember whose bytes it holds. -/
def write (r : Reply) (entry : ModelEntry) (data : Bytes) (d : ModelDownloader) : ModelDownloader :=
  { d with
    disk := fun path => if path = modelPath M entry.name then some data else d.disk path
    stored := d.stored ++ [(r, entry)] }

def remove (path : String) (d : ModelDownloader) : ModelDownloader :=
  { d with disk := fun p => if p = path then none else d.disk p }

/-- A reply finishes: its bytes are taken for the head of the pending list. `writable` is whether the file opens for
writing. A write that fails part way leaves the first bytes in the file, as a reply with only these would: what follows
reads the file. -/
def onDownloadFinished (r : Reply) (result : Except String Bytes) (writable : Bool) (d : ModelDownloader) :
    ModelDownloader × List DownloaderSignal :=
  match d.pending with
  | [] => (d, [])
  | entry :: rest =>
    let d := { d with pending := rest }
    match result with
    | .error what => (d, [.downloadError ("Download failed for " ++ entry.name ++ ": " ++ what)])
    | .ok data =>
      let path := modelPath M entry.name
      if writable = false then (d, [.downloadError ("Cannot write model file: " ++ path)])
      else
        let d := d.write M r entry data
        if verifyFile M d.disk path entry.sha256 then
          let d := { d with completedCount := d.completedCount + 1 }
          let next := downloadNext d
          (next.1, .downloadProgress ((d.completedCount * 100 : Int).tdiv d.totalCount) :: next.2)
        else (d.remove path, [.downloadError ("SHA-256 mismatch for " ++ entry.name)])

/-! ## Events -/

/-- A check, or something that happens to the reply with an id. -/
inductive Event where
  | checkAndDownload
  | replyProgress (id : Nat) (received total : Int)
  | replyFinished (id : Nat) (result : Except String Bytes) (writable : Bool)

/-- The reply in flight with an id. -/
def replyOf (d : ModelDownloader) (id : Nat) : Option Reply := d.inFlight.find? (·.id = id)

/-- The downloader without a reply that has finished. -/
def forget (id : Nat) (d : ModelDownloader) : ModelDownloader := { d with inFlight := d.inFlight.filter (·.id ≠ id) }

def step (d : ModelDownloader) : Event → ModelDownloader × List DownloaderSignal
  | .checkAndDownload => checkAndDownload M d
  | .replyProgress id received total =>
    match d.replyOf id with
    | none => (d, [])
    | some _ => (d, d.onReplyProgress received total)
  | .replyFinished id result writable =>
    match d.replyOf id with
    | none => (d, [])
    | some r => onDownloadFinished M r result writable (d.forget id)

/-! ## A small store -/

def melspectrogram : ModelEntry where
  name := "melspectrogram.onnx"
  url := "https://github.com/dscripka/openWakeWord/releases/download/v0.5.1/melspectrogram.onnx"
  sha256 := "ca978112ca1bbdcafac231b39a23dc4da786eff8147c4e72b9807785afee48bb"

def embeddingModel : ModelEntry where
  name := "embedding_model.onnx"
  url := "https://github.com/dscripka/openWakeWord/releases/download/v0.5.1/embedding_model.onnx"
  sha256 := "3e23e8160039594a33894f6564e1b1348bbd7a0088d42c4acb73eeaed59c009d"

/-- Two models, with the hashes of the stand-ins for their files: the texts "a" and "b". -/
def twoModels : ModelStore where
  manifest := [melspectrogram, embeddingModel]
  appDataLocation := "/home/user/.local/share/Pairion/Pairion"
  sha256Hex data :=
    if data = [0x61] then melspectrogram.sha256
    else if data = [0x62] then embeddingModel.sha256
    else "e3b0c44298fc1c149afbf4c8996fb92427ae41e4649b934ca495991b7852b855"
  sha256Hex_length data := by
    split
    · decide
    · split <;> decide

/-- Both files are cached. -/
def cachedModels (path : String) : Option Bytes :=
  if path = modelPath twoModels melspectrogram.name then some [0x61]
  else if path = modelPath twoModels embeddingModel.name then some [0x62]
  else none

end ModelDownloader

end PairionClient
