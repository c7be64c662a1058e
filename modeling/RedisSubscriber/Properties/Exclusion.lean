import RedisSubscriber.Properties.Replay
import RedisSubscriber.Properties.PingQueue

/-
  What the receive thread's `lock_guard`s keep other code out
  of: inside the reconnect loop the ping queue stays empty and
  no thread can call `ping`; during a table dispatch no step
  changes the table the callback's iterator points into.

  Main declarations:
    * `ping_queue_empty_in_reconnect_loop`
    * `dispatch_table_stable`
-/

------------------------------------------------------------
-- The Ping Queue During the Loop
------------------------------------------------------------

namespace RedisSubscriber

/- The receive thread is in the loop exactly when its handler frame is past `lockAll`. -/
theorem inReconnectLoop_eq (c : Config) :
    c.inReconnectLoop = (handlerPcOf c.io).any (· != .lockAll) := by
  unfold Config.inReconnectLoop handlerPcOf
  cases c.io.getLast? with
  | none => rfl
  | some f => cases f <;> rfl

/- The methods that take no mutex leave an empty ping queue empty. -/
theorem runOp_pingCallbacks
    {op : Op}
    (s : Subscriber)
    (o : Outcome)
    (hMutex : op.mutex? = none)
    (hEmpty : s.pingCallbacks = []) :
    (runOp s o op).sub.pingCallbacks = [] := by
  cases op <;> simp only [Op.mutex?, reduceCtorEq] at hMutex
  case connectSentinel =>
    simp only [runOp, connectSentinel]
    split <;> exact hEmpty
  all_goals exact hEmpty

/- A step that keeps the receive thread in the loop keeps the ping queue empty. -/
theorem SubChange.pingCallbacks_of_inReconnectLoop
    {c : Config}
    {a : Action}
    {s' : Subscriber}
    (hShaped : c.StacksShaped)
    (hLoop : c.inReconnectLoop = true)
    (hEmpty : c.sub.pingCallbacks = [])
    (h : SubChange c a s') :
    s'.pingCallbacks = [] := by
  have hNotIdle : c.io ≠ [] := fun hIo => by simp [Config.inReconnectLoop, hIo] at hLoop
  cases h with
  | @call _ _ _ op o _ _ hLock =>
      refine runOp_pingCallbacks c.sub o ?_ hEmpty
      cases hm : op.mutex? with
      | none => rfl
      | some m => simp [hm, lockFree_of_inReconnectLoop hShaped hLoop m] at hLock
  | transport =>
      unfold connectTransport
      split <;> exact hEmpty
  | @handler pc o hIo =>
      have hPc : pc ≠ .lockAll := by
        rintro rfl
        simp [Config.inReconnectLoop, hIo, Frame.isLoopBase] at hLoop
      rw [disconnectionHandlerStep_pingCallbacks c.sub o hPc]
      exact hEmpty
  | receive hIo => exact absurd hIo hNotIdle
  | handle hIo => exact absurd hIo hNotIdle
  | finishPingMove _ => rfl
  | _ => exact hEmpty

theorem Run.pingCallbacks_of_inReconnectLoop
    {allow : Config → Action → Prop}
    {c : Config}
    {events : List Event}
    (h : Run allow c events)
    (hLoop : c.inReconnectLoop = true) :
    c.sub.pingCallbacks = [] := by
  induction h with
  | init => simp [Config.inReconnectLoop, Config.init] at hLoop
  | @step c c' events new a hRun _ hStep ih =>
      have hShaped := hRun.stacksShaped
      rcases step_frame hShaped hStep with
        ⟨pc, o, p, hIo, rfl, hResume⟩ | ⟨p, rfl, -, hIdle, hResume⟩ | ⟨-, hPc, -⟩
      · obtain rfl : c' = _ := congrArg Prod.fst hResume
        rw [Config.resume_sub]
        by_cases hLockAll : pc = .lockAll
        · subst hLockAll
          rfl
        · rw [disconnectionHandlerStep_pingCallbacks c.sub o hLockAll]
          exact ih (by simp [inReconnectLoop_eq, hIo, handlerPcOf, hLockAll])
      · obtain rfl : c' = _ := congrArg Prod.fst hResume
        rw [inReconnectLoop_eq, Config.resume_io, if_pos rfl, handlerPcOf_resumeStack] at hLoop
        simp [connectionDisconnectionHandler, hIdle, handlerPcOf] at hLoop
      · have hLoop₀ : c.inReconnectLoop = true := by
          rw [inReconnectLoop_eq, ← hPc, ← inReconnectLoop_eq]
          exact hLoop
        exact (step_sub hShaped hStep).pingCallbacks_of_inReconnectLoop hShaped hLoop₀ (ih hLoop₀)

/-
  Inside the reconnect loop the ping queue is empty and no
  thread can call `ping`.
-/
theorem ping_queue_empty_in_reconnect_loop
    {c : Config}
    {events : List Event}
    (hReach : Reachable c events)
    (hLoop : c.inReconnectLoop = true) :
    c.sub.pingCallbacks = [] ∧
      ∀ t message callback o, step c (.call t (.ping message callback) o) = none :=
  ⟨hReach.pingCallbacks_of_inReconnectLoop hLoop,
    fun _ _ _ _ => call_blocked_of_inReconnectLoop hReach.stacksShaped hLoop rfl⟩

/- Once the handler takes its locks after a drop, the pending ping has moved out. -/
theorem ping_queue_empty_after_drop :
    ∃ c events, Reachable c events ∧ c.inReconnectLoop = true ∧ c.threadCount = 2 ∧
      c.sub.pingCallbacks = [] ∧
      ∀ t message callback o, step c (.call t (.ping message callback) o) = none := by
  have ⟨c, events, hExec, hLoop, hThreads⟩ : ∃ c events,
      exec Config.init [.call (.other 0) (.connect "redis" 6379 none 0 (-1) 0 false) .success,
        .advance (.other 0) .success, .call (.other 0) (.ping "" (some (.user 3))) .success,
        .drop, .handleDrop, .advance .io .success] = some (c, events) ∧
      c.inReconnectLoop = true ∧ c.threadCount = 2 :=
    ⟨_, _, rfl, rfl, rfl⟩
  have hReach := run_of_exec _ .init hExec fun _ _ => trivial
  exact ⟨c, _, hReach, hLoop, hThreads, ping_queue_empty_in_reconnect_loop hReach hLoop⟩

------------------------------------------------------------
-- The Table Under a Dispatch
------------------------------------------------------------

/- A method changes a table only under that table's mutex. -/
theorem runOp_table_of_mutex
    {op : Op}
    {t : Table}
    (s : Subscriber)
    (o : Outcome)
    (hMutex : op.mutex? ≠ some t.mutex) :
    (runOp s o op).sub.table t = s.table t := by
  cases hOp : op.changesSubscriptions
  · exact runOp_table s o hOp t
  · cases op <;> simp only [Op.changesSubscriptions, reduceCtorEq] at hOp
    case subscribe t' name callback ack =>
      have hNe : t' ≠ t := fun h => hMutex (by rw [h]; rfl)
      rw [runOp_subscribe]
      simp [Segment.done, Subscriber.table_setTable, hNe]
    case unsubscribe t' name =>
      have hNe : t' ≠ t := fun h => hMutex (by rw [h]; rfl)
      rw [runOp_unsubscribe]
      unfold unsubscribeFrom
      split
      · rfl
      · simp [Segment.done, Subscriber.table_setTable, hNe]

/-
  While a table's entry's callback runs, the receive thread
  holds that table's mutex alone, no thread can call a method
  on the table, and no step changes it.
-/
theorem dispatch_table_stable
    {c : Config}
    {events : List Event}
    {t : Table}
    (hReach : Reachable c events)
    (hDispatch : c.io.getLast? = some (.unlock t.mutex)) :
    heldLocks c.io = [t.mutex] ∧
      (∀ th op o, op.mutex? = some t.mutex → step c (.call th op o) = none) ∧
      ∀ a c' new, step c a = some (c', new) → c'.sub.table t = c.sub.table t := by
  have hShaped := hReach.stacksShaped
  have hHeld : heldLocks c.io = [t.mutex] := by
    have hShape : stackShape Frame.isIoBase c.io = true := hShaped .io
    rw [heldLocks_of_stackShape hShape, hDispatch]
    rfl
  have hBusy : c.lockFree t.mutex = false := by
    simp [Config.lockFree, hHeld]
  refine ⟨hHeld, fun th op o hMutex => ?_, fun a c' new hStep => ?_⟩
  · simp only [step]
    split <;> simp [hMutex, hBusy]
  · have hSub := step_sub hShaped hStep
    generalize c'.sub = s' at hSub ⊢
    cases hSub with
    | @call _ _ _ op o _ _ hLock =>
        refine runOp_table_of_mutex c.sub o fun hMutex => ?_
        simp [hMutex, hBusy] at hLock
    | transport =>
        unfold connectTransport
        split <;> rfl
    | handler hIo => simp [hIo] at hDispatch
    | receive hIo => simp [hIo] at hDispatch
    | handle hIo => simp [hIo] at hDispatch
    | _ => rfl

/- A `psubscribe` during a channel callback leaves the channel table untouched. -/
theorem dispatch_table_stable_under_psubscribe :
    ∃ c events c' new, Reachable c events ∧
      c.io = [.callback, .unlock Table.channels.mutex] ∧
      step c (.call (.other 0) (.subscribe .patterns "n*" (.user 4) none) .success) =
        some (c', new) ∧
      c'.sub.table .patterns ≠ c.sub.table .patterns ∧
      c'.sub.table .channels = c.sub.table .channels := by
  have ⟨c, events, c', new, hExec, hIo, hStep, hPatterns⟩ : ∃ c events c' new,
      exec Config.init [.call (.other 0) (.connect "redis" 6379 none 0 (-1) 0 false) .success,
        .advance (.other 0) .success,
        .call (.other 0) (.subscribe .channels "news" (.user 2) none) .success,
        .receive (.array [.string "message" .bulkString, .string "news" .bulkString,
          .string "hello" .bulkString])] = some (c, events) ∧
      c.io = [.callback, .unlock Table.channels.mutex] ∧
      step c (.call (.other 0) (.subscribe .patterns "n*" (.user 4) none) .success) =
        some (c', new) ∧
      (c'.sub.table .patterns).keys = ["n*"] ∧ (c.sub.table .patterns).keys = [] :=
    ⟨_, _, _, _, rfl, rfl, rfl, rfl, rfl⟩
  have hReach := run_of_exec _ .init hExec fun _ _ => trivial
  have hStable := dispatch_table_stable hReach (t := .channels) (by rw [hIo]; rfl)
  refine ⟨c, _, c', new, hReach, hIo, hStep, fun h => ?_, hStable.2.2 _ c' new hStep⟩
  have hKeys := hPatterns.1
  rw [h, hPatterns.2] at hKeys
  cases hKeys

end RedisSubscriber
