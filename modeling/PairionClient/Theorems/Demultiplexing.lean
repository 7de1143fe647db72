import PairionClient.Lib.Demux
import PairionClient.Theorems.Codec
import PairionClient.Theorems.SessionGate

/-!
# What a server hears

A server that reads a connection keeps the uploads it was told of and gives each binary frame to the newest one with the prefix
of the frame. What it rebuilds is what the pipelines meant to upload, however many of them share the connection and however
their frames interleave, while no two streams have ids of the same first four bytes.
-/

namespace PairionClient

open Transition Demux

/-- An upload: its packets in order, and the reason it ended for. -/
structure Upload where
  streamId : String
  payloads : List Bytes := []
  ended : Option String := none
  deriving DecidableEq, Repr

namespace Upload

def add (payload : Bytes) (u : Upload) : Upload := { u with payloads := u.payloads ++ [payload] }

def finish (reason : String) (u : Upload) : Upload := { u with ended := some reason }

/-- The upload with a stream id. -/
def hasId (streamId : String) (u : Upload) : Bool := u.streamId = streamId

/-- An upload whose stream id has a prefix. -/
def hasPrefix (pfx : Bytes) (u : Upload) : Bool := BinaryCodec.streamIdToPrefix u.streamId = pfx

end Upload

/-! ## The server -/

/-- What is on the wire: the JSON object of a text frame, or the bytes of a binary one. -/
inductive WireData where
  | text (obj : QJsonObject)
  | binary (data : Bytes)

def WireFrame.onWire : WireFrame → WireData
  | .text msg => .text (EnvelopeCodec.serialize msg)
  | .binary data => .binary data

namespace Server

/-- A server takes what arrives; the uploads it knows of are kept newest first. -/
def receive (us : List Upload) : WireData → List Upload
  | .text obj =>
    match EnvelopeCodec.decodeOutbound obj with
    | some (.audioStreamStart streamId _ _) => { streamId := streamId } :: us
    | some (.audioStreamEnd streamId reason) => updateFirst (Upload.hasId streamId) (Upload.finish reason) us
    | _ => us
  | .binary data =>
    let frame := BinaryCodec.decodeBinaryFrame data
    updateFirst (Upload.hasPrefix frame.pfx) (Upload.add frame.payload) us

def receiveAll (us : List Upload) (fs : List WireFrame) : List Upload := (fs.map WireFrame.onWire).foldl receive us

/-- The frames that went out, among what happened on a connection. -/
def sentFrames (log : List Application.Entry) : List WireFrame :=
  log.filterMap fun
    | .sent f => some f
    | .sessionOpened => none

/-- What a server has heard on a connection. -/
def heard (log : List Application.Entry) : List Upload := receiveAll [] (sentFrames log)

theorem receiveAll_append (us : List Upload) (fs gs : List WireFrame) :
    receiveAll us (fs ++ gs) = receiveAll (receiveAll us fs) gs := by
  rw [receiveAll, List.map_append, List.foldl_append]
  rfl

theorem sentFrames_append (log log' : List Application.Entry) : sentFrames (log ++ log') = sentFrames log ++ sentFrames log' :=
  List.filterMap_append

@[simp] theorem sentFrames_map_sent (fs : List WireFrame) : sentFrames (fs.map .sent) = fs := by
  simp [sentFrames, List.filterMap_map]

@[simp] theorem sentFrames_opened (signals : List ConnectionSignal) : sentFrames (Application.opened signals) = [] := by
  rw [sentFrames, Application.opened, List.filterMap_filterMap, List.filterMap_eq_nil_iff]
  intro signal _
  cases signal <;> rfl

theorem heard_append (log : List Application.Entry) (fs : List WireFrame) :
    heard (log ++ fs.map .sent) = receiveAll (heard log) fs := by
  rw [heard, sentFrames_append, sentFrames_map_sent, receiveAll_append]
  rfl

/-- A frame that is of no upload: an identification or a ping. -/
def IsPlain : WireFrame → Prop
  | .text (.deviceIdentify _ _ _) | .text (.heartbeatPing _) => True
  | _ => False

/-- A frame that is no part of an upload leaves what was heard. -/
theorem receive_plain (us : List Upload) {f : WireFrame} (h : IsPlain f) : receive us f.onWire = us := by
  cases f with
  | binary data => exact h.elim
  | text msg =>
    rw [WireFrame.onWire, receive, EnvelopeCodec.decodeOutbound_serialize]
    cases msg with
    | deviceIdentify deviceId bearerToken clientVersion => rfl
    | heartbeatPing timestamp => rfl
    | _ => exact h.elim

theorem receiveAll_plain (us : List Upload) {fs : List WireFrame} (h : ∀ f ∈ fs, IsPlain f) : receiveAll us fs = us := by
  induction fs with
  | nil => rfl
  | cons f fs ih =>
    rw [receiveAll, List.map_cons, List.foldl_cons, receive_plain us (h f List.mem_cons_self)]
    exact ih fun g hg => h g (List.mem_cons_of_mem f hg)

/-- The start message of a stream begins an upload without packets. -/
theorem receive_start (us : List Upload) (streamId : String) :
    receive us (WireFrame.onWire (.text (.audioStreamStartIn streamId))) = { streamId := streamId } :: us := by
  rw [WireFrame.onWire, receive, EnvelopeCodec.decodeOutbound_serialize]
  rfl

/-- A binary frame is added to the last upload with its prefix. -/
theorem receive_frame (us : List Upload) (streamId : String) (payload : Bytes) :
    receive us (WireFrame.onWire (.binary (BinaryCodec.encodeBinaryFrame streamId payload))) =
      updateFirst (Upload.hasPrefix (BinaryCodec.streamIdToPrefix streamId)) (Upload.add payload) us := by
  rw [WireFrame.onWire, receive, BinaryCodec.decodeBinaryFrame_encodeBinaryFrame]

/-- The closing messages finish the upload of their stream. -/
theorem receiveAll_closing (us : List Upload) (streamId reason : String) :
    receiveAll us (AudioSessionOrchestrator.closingFrames streamId reason) =
      updateFirst (Upload.hasId streamId) (Upload.finish reason) us := by
  simp only [receiveAll, AudioSessionOrchestrator.closingFrames, List.map_cons, List.map_nil, List.foldl_cons, List.foldl_nil,
    WireFrame.onWire, receive, EnvelopeCodec.decodeOutbound_serialize]

/-- Packets are added in their order. -/
theorem foldl_add (payloads : List Bytes) (u : Upload) :
    payloads.foldl (fun u payload => u.add payload) u = { u with payloads := u.payloads ++ payloads } := by
  induction payloads generalizing u with
  | nil => simp
  | cons payload payloads ih =>
    rw [List.foldl_cons, ih, Upload.add]
    simp

/-- The frames of packets go to the upload that was just started. -/
theorem receiveAll_packets (us : List Upload) (streamId : String) (signals : List EncoderSignal) :
    receiveAll ({ streamId := streamId } :: us) (AudioSessionOrchestrator.packetFrames streamId signals) =
      { streamId := streamId, payloads := signals.filterMap EncoderSignal.packet } :: us := by
  have hfold : receiveAll ({ streamId := streamId } :: us) (AudioSessionOrchestrator.packetFrames streamId signals) =
      (signals.filterMap EncoderSignal.packet).foldl (fun us payload =>
        updateFirst (Upload.hasPrefix (BinaryCodec.streamIdToPrefix streamId)) (Upload.add payload) us)
        ({ streamId := streamId } :: us) := by
    rw [receiveAll, AudioSessionOrchestrator.packetFrames, List.map_map, List.foldl_map]
    simp only [Function.comp_apply, receive_frame]
  have hhead : Upload.hasPrefix (BinaryCodec.streamIdToPrefix streamId) { streamId := streamId } = true := decide_eq_true rfl
  rw [hfold, foldl_updateFirst (f := Upload.add) hhead fun payload u hu => hu, foldl_add]
  rfl

end Server

/-! ## What the pipelines mean -/

namespace AudioSessionOrchestrator

/-- What a move means for the uploads: one more with the packets of the pre-roll buffer, one more packet, or an end. -/
def Move.uploads (env : Env) (o : AudioSessionOrchestrator) (us : List Upload) : Move → List Upload
  | .openStream _ preRoll =>
    { streamId := env.createUuid o.uuids
      payloads := (o.preRollEncoder.encodeFrames env (Blocks.cut kPcmFrameBytes preRoll).1).2.filterMap EncoderSignal.packet } :: us
  | .sendFrame opusFrame => updateFirst (Upload.hasId o.activeStreamId) (Upload.add opusFrame) us
  | .endStream reason _ => updateFirst (Upload.hasId o.activeStreamId) (Upload.finish reason) us
  | _ => us

/-- A stream id that was drawn. -/
def Drawn (env : Env) (streamId : String) : Prop := ∃ n, streamId = env.createUuid n

/-- While Streaming the active stream has an id that was drawn. -/
def StreamsDrawn (env : Env) (o : AudioSessionOrchestrator) : Prop := o.state = .streaming → Drawn env o.activeStreamId

/-- The first four bytes tell the stream ids apart. -/
def PrefixesDiffer (env : Env) : Prop := ∀ m n,
  BinaryCodec.streamIdToPrefix (env.createUuid m) = BinaryCodec.streamIdToPrefix (env.createUuid n) →
    env.createUuid m = env.createUuid n

variable {env : Env} {o : AudioSessionOrchestrator} {us : List Upload}

/-- Every event keeps the ids of the streams drawn from the generator. -/
theorem streamsDrawn_step (h : StreamsDrawn env o) (e : Event) : StreamsDrawn env (step env o e) := by
  intro hs'
  obtain ⟨hstate, -, -, hid, -⟩ := step_spec env o e
  rw [hid hs']
  have hsource := move_source env o e
  rw [hstate] at hs'
  cases hm : move env o e with rw [hm] at hs' hsource
  | openStream first preRoll => exact ⟨o.uuids, rfl⟩
  | sendFrame opusFrame => exact h hsource
  | stay => exact h hs'
  | endStream reason playback => cases playback <;> cases hs'
  | listen => cases hs'
  | playBack => cases hs'
  | finish => cases hs'
  | park => cases hs'

/-- The uploads of a move have ids that were drawn. -/
theorem drawn_uploads (h : ∀ u ∈ us, Drawn env u.streamId) (m : Move) : ∀ u ∈ m.uploads env o us, Drawn env u.streamId := by
  cases m with
  | openStream first preRoll =>
    intro u hu
    rcases List.mem_cons.1 hu with rfl | hu
    · exact ⟨o.uuids, rfl⟩
    · exact h u hu
  | sendFrame opusFrame => exact forall_updateFirst h fun u hu => hu
  | endStream reason playback => exact forall_updateFirst h fun u hu => hu
  | _ => exact h

/-- What a server makes of the frames of a move is what the move means. -/
theorem receiveAll_frames (hdiffer : PrefixesDiffer env) (h : ∀ u ∈ us, Drawn env u.streamId) {m : Move}
    (hsource : m.Source o.state) (hdrawn : StreamsDrawn env o) :
    Server.receiveAll us (m.frames env o) = m.uploads env o us := by
  cases m with
  | openStream first preRoll =>
    have hfirst : Server.receiveAll us [.text first, .text (.audioStreamStartIn (env.createUuid o.uuids))] =
        { streamId := env.createUuid o.uuids } :: us := by
      rw [Server.receiveAll, List.map_cons, List.foldl_cons]
      have hother : Server.receive us (WireFrame.onWire (.text first)) = us := by
        rw [WireFrame.onWire, Server.receive, EnvelopeCodec.decodeOutbound_serialize]
        cases first with
        | wakeWordDetected timestamp confidence => rfl
        | bargeIn interrupted => rfl
        | _ => exact hsource.elim
      rw [hother]
      exact Server.receive_start us (env.createUuid o.uuids)
    rw [Move.frames, openingFrames, Server.receiveAll_append, hfirst]
    exact Server.receiveAll_packets us _ _
  | sendFrame opusFrame =>
    obtain ⟨n, hn⟩ := hdrawn hsource
    have hone : Server.receiveAll us [.binary (BinaryCodec.encodeBinaryFrame o.activeStreamId opusFrame)] =
        updateFirst (Upload.hasPrefix (BinaryCodec.streamIdToPrefix o.activeStreamId)) (Upload.add opusFrame) us :=
      Server.receive_frame us _ _
    rw [Move.frames, hone]
    refine updateFirst_congr (fun u hu => ?_) _
    obtain ⟨k, hk⟩ := h u hu
    rw [Upload.hasPrefix, Upload.hasId, hk, hn, decide_eq_decide]
    exact ⟨fun hsame => hdiffer k n hsame, fun hsame => by rw [hsame]⟩
  | endStream reason playback => exact Server.receiveAll_closing us _ _
  | _ => rfl

end AudioSessionOrchestrator

/-! ## Runs of the program -/

namespace Application

open AudioSessionOrchestrator (move move_source step_spec StreamsDrawn Drawn PrefixesDiffer)

variable (E : ApplicationEnv)

/-- The program, what has happened on the connection, and the uploads meant on it. -/
structure Uploading extends Traced where
  uploads : List Upload := []

/-- The uploads meant after an event: none on a new connection, and what the move of a pipeline means while the socket is
connected. -/
def uploadsAfter (a : Application) (us : List Upload) : Event → List Upload
  | .socket e _ => if occurs a.connection.client.socket e && isBoundary e then [] else us
  | .orchestrator i e =>
    match a.orchestrators[i]? with
    | none => us
    | some o =>
      if isOwn e && a.connection.client.isConnected then (move E.toEnv (a.lend o) e).uploads E.toEnv (a.lend o) us else us
  | _ => us

def Uploading.step (u : Uploading) (e : Event) : Uploading :=
  ⟨u.toTraced.step E e, uploadsAfter E u.application u.uploads e⟩

/-- The server has heard what was meant, and every stream id was drawn. -/
structure Agreed (u : Uploading) : Prop where
  heard : Server.heard u.log = u.uploads
  drawn : ∀ up ∈ u.uploads, Drawn E.toEnv up.streamId
  streams : ∀ o ∈ u.application.orchestrators, StreamsDrawn E.toEnv o

/-- Listening draws no id. -/
theorem streamsDrawn_startListening {env : Env} {o : AudioSessionOrchestrator} (h : StreamsDrawn env o) :
    StreamsDrawn env o.startListening := AudioSessionOrchestrator.streamsDrawn_step h .startListening

/-- A lost connection draws no id. -/
theorem streamsDrawn_onWsDisconnected {env : Env} {o : AudioSessionOrchestrator} (h : StreamsDrawn env o) :
    StreamsDrawn env o.onWsDisconnected := AudioSessionOrchestrator.streamsDrawn_step h .wsDisconnected

/-- A step of the startup leaves the streams that were drawn, and a new pipeline has none. -/
theorem streams_start {a : Application} (h : ∀ o ∈ a.orchestrators, StreamsDrawn E.toEnv o) (e : Startup.Event) :
    ∀ o ∈ (a.start E e).orchestrators, StreamsDrawn E.toEnv o := by
  refine every_start E (fun _ _ ho => ho) (fun _ ho => streamsDrawn_startListening ho) ?_ h e
  intro vad wsClient connState hstreaming
  cases hstreaming

/-- What `main` does on a signal of the connection leaves the streams that were drawn. -/
theorem streams_onConnectionSignal (outcome : InitOutcome) {a : Application}
    (h : ∀ o ∈ a.orchestrators, StreamsDrawn E.toEnv o) (signal : ConnectionSignal) :
    ∀ o ∈ (onConnectionSignal E outcome a signal).orchestrators, StreamsDrawn E.toEnv o := by
  cases signal with
  | inboundMessage msg => exact h
  | sessionOpened sessionId serverVersion =>
    exact every_broadcast (fun _ _ ho => ho) (fun _ ho => streamsDrawn_startListening ho) (streams_start E h _) _
  | disconnected => exact every_broadcast (fun _ _ ho => ho) (fun _ ho => streamsDrawn_onWsDisconnected ho) h _

/-- Every event of the program keeps every stream's id drawn. -/
theorem streams_step {a : Application} (h : ∀ o ∈ a.orchestrators, StreamsDrawn E.toEnv o) (e : Event) :
    ∀ o ∈ (a.step E e).orchestrators, StreamsDrawn E.toEnv o := by
  cases e with
  | startup e =>
    cases e with
    | sessionOpened outcome => exact h
    | _ => exact streams_start E h _
  | socket e outcome =>
    rw [step]
    split
    · have hfold (signals : List ConnectionSignal) {b : Application} (hb : ∀ o ∈ b.orchestrators, StreamsDrawn E.toEnv o) :
          ∀ o ∈ (signals.foldl (onConnectionSignal E outcome) b).orchestrators, StreamsDrawn E.toEnv o := by
        induction signals generalizing b with
        | nil => exact hb
        | cons signal signals ih => exact ih (streams_onConnectionSignal E outcome hb signal)
      exact hfold _ h
    · exact h
  | socketCloses =>
    rw [step]
    split <;> exact h
  | orchestrator i e =>
    rw [step]
    split
    · exact every_slot (fun _ _ ho => ho) (fun _ ho => AudioSessionOrchestrator.streamsDrawn_step ho e) h i
    · exact h
  | timePasses ms => exact h

/-- What the client itself sends is of no upload. -/
theorem plain_step (c : ServerConnection) (e : ServerConnection.Event) :
    ∃ fs, (c.step E.fromJson e).client.sent = c.client.sent ++ fs ∧ ∀ f ∈ fs, Server.IsPlain f := by
  have hsend (c : PairionWebSocketClient) {msg : OutboundMessage} (hmsg : Server.IsPlain (.text msg)) :
      ∃ fs, (c.sendMessage msg).sent = c.sent ++ fs ∧ ∀ f ∈ fs, Server.IsPlain f := by
    rw [PairionWebSocketClient.sendMessage, PairionWebSocketClient.put]
    split
    · exact ⟨[.text msg], rfl, fun f hf => List.mem_singleton.1 hf ▸ hmsg⟩
    · exact ⟨[], (List.append_nil _).symm, by simp⟩
  have hnone {c' : ServerConnection} (h : c'.client.sent = c.client.sent) :
      ∃ fs, c'.client.sent = c.client.sent ++ fs ∧ ∀ f ∈ fs, Server.IsPlain f := ⟨[], by simp [h], by simp⟩
  cases e with
  | connected => exact hsend { c.client with socket := .connected } trivial
  | disconnected =>
    rcases ServerConnection.step_disconnected E.fromJson c with ⟨-, heq⟩ | ⟨-, heq⟩
    · rw [heq]
      exact hnone rfl
    · rw [heq]
      exact hnone rfl
  | textMessageReceived message =>
    obtain ⟨_, _, _, heq⟩ := ServerConnection.exists_textMessageReceived E.fromJson c message
    rw [heq]
    exact hnone rfl
  | heartbeatTimeout timestamp =>
    rw [ServerConnection.step_heartbeatTimeout]
    split
    · exact hsend c.client trivial
    · exact hnone rfl
  | reconnectTimeout =>
    rw [ServerConnection.step_reconnectTimeout]
    split <;> exact hnone rfl
  | connectToServer => exact hnone rfl
  | disconnectFromServer => exact hnone rfl

/-- An event after which the server has heard no more than before. -/
theorem heard_of_none {t : Traced} {e : Event} (hl : t.received E e = t.log)
    (hnone : newFrames t.application (t.application.step E e) = []) :
    Server.heard (t.step E e).log = Server.heard t.log := by
  rw [log_of_none E hl hnone]

/-- An event of the socket is no part of an upload, and one that begins or ends a connection makes the server forget. -/
theorem heard_socket {t : Traced} {e : ServerConnection.Event} (he : occurs t.application.connection.client.socket e = true)
    (outcome : InitOutcome) :
    Server.heard (t.step E (.socket e outcome)).log = if isBoundary e then [] else Server.heard t.log := by
  obtain ⟨fs, hsent, hplain⟩ := plain_step E t.application.connection e
  have hnew : newFrames t.application (t.application.step E (.socket e outcome)) = fs :=
    newFrames_eq (by rw [connection_socket E he outcome, hsent])
  have hreceived := received_socket E he outcome
  rw [Traced.step, hnew, hreceived, Server.heard_append, Server.receiveAll_plain _ hplain]
  split
  · rfl
  · rw [Server.heard, Server.sentFrames_append, Server.sentFrames_opened, List.append_nil]
    rfl

/-- An event of a pipeline: the server hears what it means. -/
theorem heard_orchestrator (hdiffer : PrefixesDiffer E.toEnv) {u : Uploading} (h : Agreed E u) (i : Nat)
    (e : AudioSessionOrchestrator.Event) :
    Server.heard (u.toTraced.step E (.orchestrator i e)).log = uploadsAfter E u.application u.uploads (.orchestrator i e) := by
  rw [uploadsAfter]
  by_cases hown : isOwn e = true
  · cases hi : u.application.orchestrators[i]? with
    | none =>
      have hsame : u.application.step E (.orchestrator i e) = u.application := by
        rw [step, if_pos hown, slot_none hi]
      rw [heard_of_none E rfl (newFrames_of_connection (by rw [hsame]))]
      exact h.heard
    | some o =>
      have hslot : (u.application.step E (.orchestrator i e)).connection.client =
          (AudioSessionOrchestrator.step E.toEnv (u.application.lend o) e).wsClient := by
        rw [step, if_pos hown, slot_eq hi]
      have hsent := (step_spec E.toEnv (u.application.lend o) e).sent
      simp only [hown, Bool.true_and]
      by_cases hc : u.application.connection.client.isConnected = true
      · have hnew : newFrames u.application (u.application.step E (.orchestrator i e)) =
            (move E.toEnv (u.application.lend o) e).frames E.toEnv (u.application.lend o) := by
          refine newFrames_eq ?_
          rw [hslot, hsent]
          exact PairionWebSocketClient.sent_puts hc _
        have hlog : (u.toTraced.step E (.orchestrator i e)).log =
            u.log ++ ((move E.toEnv (u.application.lend o) e).frames E.toEnv (u.application.lend o)).map .sent := by
          rw [Traced.step, hnew]
          rfl
        rw [if_pos hc, hlog, Server.heard_append, h.heard]
        exact AudioSessionOrchestrator.receiveAll_frames hdiffer h.drawn (move_source E.toEnv (u.application.lend o) e)
          (h.streams o (List.mem_of_getElem? hi))
      · have hlent : ¬(u.application.lend o).wsClient.isConnected = true := hc
        have hnew : newFrames u.application (u.application.step E (.orchestrator i e)) = [] := by
          refine newFrames_eq ?_
          rw [hslot, hsent, PairionWebSocketClient.puts, if_neg hlent, List.append_nil]
          rfl
        rw [if_neg hc, heard_of_none E rfl hnew]
        exact h.heard
  · have hsame : u.application.step E (.orchestrator i e) = u.application := if_neg hown
    rw [heard_of_none E rfl (newFrames_of_connection (by rw [hsame])), h.heard]
    cases u.application.orchestrators[i]? with
    | none => rfl
    | some o => simp [hown]

/-- The uploads that are meant after an event have ids that were drawn. -/
theorem drawn_uploadsAfter {u : Uploading} (h : Agreed E u) (e : Event) :
    ∀ up ∈ uploadsAfter E u.application u.uploads e, Drawn E.toEnv up.streamId := by
  cases e with
  | socket e outcome =>
    rw [uploadsAfter]
    split
    · simp
    · exact h.drawn
  | orchestrator i e =>
    rw [uploadsAfter]
    split
    · exact h.drawn
    · split
      · exact AudioSessionOrchestrator.drawn_uploads h.drawn _
      · exact h.drawn
  | _ => exact h.drawn

/-- If prefixes differ, the server hears after a step what was meant. -/
theorem agreed_step (hdiffer : PrefixesDiffer E.toEnv) {u : Uploading} (h : Agreed E u) (e : Event) :
    Agreed E (u.step E e) := by
  refine ⟨?_, drawn_uploadsAfter E h e, streams_step E h.streams e⟩
  show Server.heard (u.toTraced.step E e).log = uploadsAfter E u.application u.uploads e
  cases e with
  | startup e =>
    rw [heard_of_none E rfl (newFrames_of_connection (connection_startup E e u.application))]
    exact h.heard
  | socket e outcome =>
    rw [uploadsAfter]
    cases he : occurs u.application.connection.client.socket e with
    | true =>
      rw [heard_socket E he, Bool.true_and, h.heard]
    | false =>
      rw [step_not_occurs E he]
      exact h.heard
  | socketCloses =>
    rw [heard_of_none E rfl ?_]
    · exact h.heard
    · refine newFrames_eq ?_
      rw [step]
      split <;> simp [ServerConnection.closeSocket]
  | orchestrator i e => exact heard_orchestrator E hdiffer h i e
  | timePasses ms =>
    rw [heard_of_none E rfl (newFrames_of_connection rfl)]
    exact h.heard

/-- In every run of the program, whatever pipelines share the connection, a server that goes by the prefixes of the binary
frames rebuilds the uploads that were meant on the current connection. -/
theorem uploads_heard (hdiffer : PrefixesDiffer E.toEnv) (deviceId bearerToken : String) (disk : String → Option Bytes)
    (es : List Event) :
    let u := run (Uploading.step E) ⟨launched deviceId bearerToken disk, []⟩ es
    Server.heard u.log = u.uploads :=
  (inv_run_of_step (Agreed E) (fun _ e h => agreed_step E hdiffer h e) es
    ⟨rfl, by simp, by simp [launched, main]⟩).heard

/-- The ids of the silent environment have prefixes of their own. -/
theorem prefixesDiffer_silence : PrefixesDiffer .silence := by
  have hfour : ∀ n, Env.silence.createUuid n = Env.silence.createUuid (min n 3) := by
    rintro (_ | _ | _ | n)
    · rfl
    · rfl
    · rfl
    · rw [Nat.min_eq_right (by omega)]
      rfl
  have hdiffer : ∀ i j : Fin 4,
      BinaryCodec.streamIdToPrefix (Env.silence.createUuid i) = BinaryCodec.streamIdToPrefix (Env.silence.createUuid j) →
        Env.silence.createUuid i = Env.silence.createUuid j := by decide
  intro m n h
  rw [hfour m, hfour n] at h ⊢
  exact hdiffer ⟨min m 3, by omega⟩ ⟨min n 3, by omega⟩ h

/-- The usual start, whose upload ends, and a second wake word, with a frame before it. -/
def twoUploads : List Event :=
  usualStart ++
    [.orchestrator 0 (.opusFrameEncoded [0xf8, 0xff, 0xfe]), .orchestrator 0 .speechEnded,
      .orchestrator 0 (.wakeWordDetected (8 / 10) (List.replicate 640 0)), .orchestrator 0 (.opusFrameEncoded [0xf8, 0x01])]

/-- Two uploads with their packets, one after the other on one connection. -/
theorem uploads_heard_two :
    let u := run (Uploading.step cached) ⟨launched "device" "token" ModelDownloader.cachedModels, []⟩ twoUploads
    Server.heard u.log = u.uploads ∧
      u.uploads =
        [{ streamId := "16fd2706-8baf-433b-82eb-8c7fada847da", payloads := [[0xf8, 0xff, 0xfe], [0xf8, 0x01]] },
          { streamId := "6f9619ff-8b86-4d01-b42d-00cf4fc964ff", payloads := [[0xf8, 0xff, 0xfe]], ended := some "normal" }] :=
  ⟨uploads_heard cached prefixesDiffer_silence "device" "token" ModelDownloader.cachedModels twoUploads, by decide +kernel⟩

end Application

end PairionClient
