import PairionClient.Lemmas.Moves
import PairionClient.Lemmas.Startup
import PairionClient.Main.Application

/-!
# What a step of the program does to its orchestrators and its connection

A slot that only listens or parks leaves the connection as it is. A start adds one orchestrator or none. An orchestrator that
is Idle sends nothing.
-/

namespace PairionClient

namespace Application

open AudioSessionOrchestrator (move move_of_idle step_spec startListening_eq startListening_of_ne onWsDisconnected_eq)
open PairionWebSocketClient (puts_nil)

/-! ## Slots -/

/-- A slot of an orchestrator that exists runs with the shared client lent to it. -/
theorem slot_eq {a : Application} {i : Nat} {o : AudioSessionOrchestrator} (h : a.orchestrators[i]? = some o)
    (f : AudioSessionOrchestrator → AudioSessionOrchestrator) :
    a.slot f i =
      { a with
        orchestrators := a.orchestrators.set i (f (a.lend o))
        connection := { a.connection with client := (f (a.lend o)).wsClient }
        startup := { a.startup with connState := (f (a.lend o)).connState }
        uuids := (f (a.lend o)).uuids } := by
  rw [slot, h]

/-- A slot of an orchestrator that does not exist does nothing. -/
theorem slot_none {a : Application} {i : Nat} (h : a.orchestrators[i]? = none)
    (f : AudioSessionOrchestrator → AudioSessionOrchestrator) : a.slot f i = a := by
  rw [slot, h]

/-- A slot adds no orchestrator. -/
@[simp] theorem length_slot (f : AudioSessionOrchestrator → AudioSessionOrchestrator) (i : Nat) (a : Application) :
    (a.slot f i).orchestrators.length = a.orchestrators.length := by
  cases h : a.orchestrators[i]? with
  | none => rw [slot_none h]
  | some o =>
    rw [slot_eq h]
    exact List.length_set

/-- A slot that does not touch the client leaves the connection as it is. -/
theorem connection_slot {f : AudioSessionOrchestrator → AudioSessionOrchestrator} (hf : ∀ o, (f o).wsClient = o.wsClient)
    (i : Nat) (a : Application) : (a.slot f i).connection = a.connection := by
  cases h : a.orchestrators[i]? with
  | none => rw [slot_none h]
  | some o =>
    rw [slot_eq h]
    show { a.connection with client := (f (a.lend o)).wsClient } = a.connection
    rw [hf]
    rfl

/-- A broadcast runs the slots in the order in which they were connected. -/
theorem broadcast_succ (f : AudioSessionOrchestrator → AudioSessionOrchestrator) (n : Nat) (a : Application) :
    a.broadcast f (n + 1) = (a.broadcast f n).slot f n := by
  rw [broadcast, List.range_succ, List.foldl_append]
  rfl

/-- A broadcast of a slot that leaves the client alone leaves the connection. -/
theorem connection_broadcast {f : AudioSessionOrchestrator → AudioSessionOrchestrator}
    (hf : ∀ o, (f o).wsClient = o.wsClient) (n : Nat) (a : Application) : (a.broadcast f n).connection = a.connection := by
  induction n with
  | zero => rfl
  | succ n ih => rw [broadcast_succ, connection_slot hf, ih]

/-- A broadcast adds no orchestrator. -/
theorem length_broadcast (f : AudioSessionOrchestrator → AudioSessionOrchestrator) (n : Nat) (a : Application) :
    (a.broadcast f n).orchestrators.length = a.orchestrators.length := by
  induction n with
  | zero => rfl
  | succ n ih => rw [broadcast_succ, length_slot, ih]

/-- `startListening` sends nothing. -/
theorem wsClient_startListening (o : AudioSessionOrchestrator) : o.startListening.wsClient = o.wsClient := by
  by_cases hs : o.state = .idle
  · rw [startListening_eq hs]
  · rw [startListening_of_ne hs]

/-- What an orchestrator does on a lost connection sends nothing. -/
theorem wsClient_onWsDisconnected (o : AudioSessionOrchestrator) : o.onWsDisconnected.wsClient = o.wsClient := by
  rw [onWsDisconnected_eq]

/-! ## Idle -/

/-- No orchestrator listens, streams or plays back. -/
def Idle (a : Application) : Prop := ∀ o ∈ a.orchestrators, o.state = .idle

/-- A slot that keeps an idle orchestrator idle keeps all of them idle. -/
theorem idle_slot {f : AudioSessionOrchestrator → AudioSessionOrchestrator} (hf : ∀ o, o.state = .idle → (f o).state = .idle)
    {a : Application} (h : a.Idle) (i : Nat) : (a.slot f i).Idle := by
  cases hi : a.orchestrators[i]? with
  | none =>
    rw [slot_none hi]
    exact h
  | some o =>
    rw [slot_eq hi]
    have hidle : (a.lend o).state = .idle := h o (List.mem_of_getElem? hi)
    intro o' ho'
    have hset : o' ∈ a.orchestrators.set i (f (a.lend o)) := ho'
    rcases List.mem_or_eq_of_mem_set hset with hold | hnew
    · exact h o' hold
    · rw [hnew]
      exact hf _ hidle

/-- When the client has disconnected, all its orchestrators are Idle. -/
theorem idle_disconnected (a : Application) : (a.broadcast (·.onWsDisconnected) a.orchestrators.length).Idle := by
  have hfirst (n : Nat) : ∀ i o, i < n → (a.broadcast (·.onWsDisconnected) n).orchestrators[i]? = some o → o.state = .idle := by
    induction n with
    | zero =>
      intro i o hi
      omega
    | succ n ih =>
      intro i o hi ho
      rw [broadcast_succ] at ho
      cases hn : (a.broadcast (·.onWsDisconnected) n).orchestrators[n]? with
      | none =>
        rw [slot_none hn] at ho
        by_cases hlast : i = n
        · rw [hlast, hn] at ho
          cases ho
        · exact ih i o (by omega) ho
      | some last =>
        rw [slot_eq hn] at ho
        by_cases hlast : i = n
        · subst hlast
          rw [List.getElem?_set_self (List.getElem?_eq_some_iff.1 hn).1] at ho
          cases ho
          rw [onWsDisconnected_eq]
        · rw [List.getElem?_set_ne (Ne.symm hlast)] at ho
          exact ih i o (by omega) ho
  intro o ho
  obtain ⟨i, hi, hget⟩ := List.mem_iff_getElem.1 ho
  rw [length_broadcast] at hi
  exact hfirst _ i o hi (List.getElem?_eq_some_iff.2 ⟨_, hget⟩)

/-! ## What holds of every orchestrator -/

section Every

variable {P : AudioSessionOrchestrator → Prop} {f : AudioSessionOrchestrator → AudioSessionOrchestrator}

/-- What sharing does not change, and the slot keeps. -/
theorem every_slot (hlend : ∀ (a : Application) o, P o → P (a.lend o)) (hf : ∀ o, P o → P (f o)) {a : Application}
    (h : ∀ o ∈ a.orchestrators, P o) (i : Nat) : ∀ o ∈ (a.slot f i).orchestrators, P o := by
  cases hi : a.orchestrators[i]? with
  | none =>
    rw [slot_none hi]
    exact h
  | some o =>
    rw [slot_eq hi]
    intro o' ho'
    rcases List.mem_or_eq_of_mem_set ho' with hold | hnew
    · exact h o' hold
    · rw [hnew]
      exact hf _ (hlend a o (h o (List.mem_of_getElem? hi)))

/-- What the loan of the client and the slot keep of an orchestrator, a broadcast keeps of every one. -/
theorem every_broadcast (hlend : ∀ (a : Application) o, P o → P (a.lend o)) (hf : ∀ o, P o → P (f o)) {a : Application}
    (h : ∀ o ∈ a.orchestrators, P o) (n : Nat) : ∀ o ∈ (a.broadcast f n).orchestrators, P o := by
  induction n with
  | zero => exact h
  | succ n ih =>
    rw [broadcast_succ]
    exact every_slot hlend hf ih n

end Every

/-! ## Starts -/

variable (E : ApplicationEnv)

/-- The event starts a pipeline: it builds one, and its threads run. -/
def Starts (a : Application) (e : Startup.Event) : Bool := Startup.Builds E.models a.startup e && e.threadsRun a.startup

/-- A start adds an orchestrator when it builds a pipeline. -/
theorem start_eq (e : Startup.Event) (a : Application) :
    a.start E e =
      if Startup.Builds E.models a.startup e then
        addPipeline E { a with startup := a.startup.step E.models e } ⟨e.threadsRun a.startup⟩
      else { a with startup := a.startup.step E.models e } := by
  have hnew : (a.startup.step E.models e).pipelines.drop a.startup.pipelines.length =
      if Startup.Builds E.models a.startup e then [⟨e.threadsRun a.startup⟩] else [] := by
    rw [Startup.pipelines_step, List.drop_left]
  rw [start, hnew]
  cases Startup.Builds E.models a.startup e <;> rfl

/-- A new pipeline sends nothing. -/
theorem connection_addPipeline (a : Application) (p : Pipeline) : (addPipeline E a p).connection = a.connection := by
  unfold addPipeline
  dsimp only
  split
  · rw [connection_slot wsClient_startListening]
  · rfl

/-- A step of the startup sends nothing. -/
theorem connection_start (e : Startup.Event) (a : Application) : (a.start E e).connection = a.connection := by
  rw [start_eq]
  split
  · rw [connection_addPipeline]
  · rfl

/-- What does not start a pipeline leaves all orchestrators Idle, with the new one. -/
theorem idle_start {e : Startup.Event} {a : Application} (h : a.Idle) (he : Starts E a e = false) : (a.start E e).Idle := by
  rw [start_eq]
  split
  · rename_i hbuilds
    rw [Starts, hbuilds, Bool.true_and] at he
    rw [he]
    intro o ho
    rcases List.mem_append.1 ho with hold | hnew
    · exact h o hold
    · rw [List.mem_singleton.1 hnew]
      rfl
  · exact h

/-- A start keeps what holds of every orchestrator, when it holds of a new one. -/
theorem every_start {P : AudioSessionOrchestrator → Prop} (hlend : ∀ (a : Application) o, P o → P (a.lend o))
    (hlisten : ∀ o, P o → P o.startListening) (hnew : ∀ vad wsClient connState, P (.create vad wsClient connState))
    {a : Application} (h : ∀ o ∈ a.orchestrators, P o) (e : Startup.Event) : ∀ o ∈ (a.start E e).orchestrators, P o := by
  rw [start_eq]
  split
  · have hall : ∀ o ∈ a.orchestrators ++ [AudioSessionOrchestrator.create (E.vad a.orchestrators.length) a.connection.client
        (a.startup.step E.models e).connState], P o := by
      intro o ho
      rcases List.mem_append.1 ho with hold | hadded
      · exact h o hold
      · rw [List.mem_singleton.1 hadded]
        exact hnew _ _ _
    rw [addPipeline]
    split
    · exact every_slot hlend hlisten hall _
    · exact hall
  · exact h

/-- A pipeline that is started listens. -/
theorem listens_start {e : Startup.Event} {a : Application} (he : Starts E a e = true) :
    ∃ o, (a.start E e).orchestrators[a.orchestrators.length]? = some o ∧ o.state = .awaitingWake := by
  rw [Starts, Bool.and_eq_true] at he
  rw [start_eq, if_pos he.1, he.2]
  let o := AudioSessionOrchestrator.create (E.vad a.orchestrators.length) a.connection.client
    (a.startup.step E.models e).connState
  let b : Application := { a with startup := a.startup.step E.models e, orchestrators := a.orchestrators ++ [o] }
  have hlast : b.orchestrators[a.orchestrators.length]? = some o := List.getElem?_concat_length
  have hidle : (b.lend o).state = .idle := rfl
  refine ⟨(b.lend o).startListening, ?_, ?_⟩
  · show (b.slot (·.startListening) a.orchestrators.length).orchestrators[a.orchestrators.length]? = _
    rw [slot_eq hlast]
    exact List.getElem?_set_self (List.getElem?_eq_some_iff.1 hlast).1
  · rw [startListening_eq hidle]

/-! ## Events of an orchestrator -/

/-- An event of its own leaves the socket of an orchestrator as it is. -/
theorem socket_own (env : Env) {e : AudioSessionOrchestrator.Event} (he : isOwn e = true) (o : AudioSessionOrchestrator) :
    (o.step env e).wsClient.socket = o.wsClient.socket := by
  rw [(step_spec env o e).socket]
  cases e with
  | socketStateChanged socket => cases he
  | _ => rfl

/-- An orchestrator that is Idle stays Idle and sends nothing. -/
theorem own_of_idle (env : Env) {e : AudioSessionOrchestrator.Event} (he : isOwn e = true) {o : AudioSessionOrchestrator}
    (hs : o.state = .idle) : (o.step env e).state = .idle ∧ (o.step env e).wsClient.sent = o.wsClient.sent := by
  have hresumes : e.resumes = false := by
    cases e with
    | startListening => cases he
    | sessionOpened => cases he
    | _ => rfl
  have hm : move env o e = .park ∨ move env o e = .stay := by
    rw [move_of_idle env hs, hresumes]
    cases e.parks
    · exact Or.inr rfl
    · exact Or.inl rfl
  obtain ⟨hstate, -, hsent, -, -⟩ := step_spec env o e
  rw [hstate, hsent]
  rcases hm with hm | hm
  · rw [hm]
    exact ⟨rfl, by rw [show AudioSessionOrchestrator.Move.frames env o .park = [] from rfl, puts_nil]⟩
  · rw [hm]
    exact ⟨hs, by rw [show AudioSessionOrchestrator.Move.frames env o .stay = [] from rfl, puts_nil]⟩

end Application

end PairionClient
