import RedisSubscriber.Stacks

/-
  Which mutexes a thread holds when the subscriber invokes a
  user callback on it. Only the receive thread keeps a
  `lock_guard` across a callback: in the table dispatch (left
  aside here) and in the reconnect loop, which notifies the
  connect callback under all three mutexes.

  Key definitions include:
    * `Config.inReconnectLoop`, `Config.dispatching`
    * `LockDiscipline`

  Main declarations:
    * `Runs.invocation`
    * `callback_locks`
-/

------------------------------------------------------------
-- Where Locks Are Held
------------------------------------------------------------

namespace RedisSubscriber

/- The notifications only the reconnect loop makes. -/
def ConnectState.isLoopNotification : ConnectState → Bool
  | .sleeping => true
  | .failed => true
  | .lookupFailed => true
  | .stopped => true
  | _ => false

/- The handler's frame once it holds its three `lock_guard`s. -/
def Frame.isLoopBase : Frame → Bool
  | .disconnectionHandler pc => pc != .lockAll
  | _ => false

/- The frame that releases a table's `lock_guard` after a dispatch. -/
def Frame.isUnlock : Frame → Bool
  | .unlock _ => true
  | _ => false

/- Whether the receive thread runs inside the reconnect loop. -/
def Config.inReconnectLoop (c : Config) : Bool :=
  c.io.getLast?.any Frame.isLoopBase

/- Whether the receive thread is inside a message, pmessage or acknowledgement dispatch. -/
def Config.dispatching (c : Config) : Bool :=
  c.io.getLast?.any Frame.isUnlock

theorem Frame.held_of_isUnlock {f : Frame} (h : f.isUnlock = false) :
    f.held = if f.isLoopBase then allMutexes else [] := by
  cases f <;> simp_all [Frame.isUnlock, Frame.isLoopBase, Frame.held]

/- Outside a dispatch, the receive thread holds all three mutexes in the loop and none elsewhere. -/
theorem heldLocks_io
    {stack : List Frame}
    (hShape : stackShape Frame.isIoBase stack = true)
    (hDispatch : stack.getLast?.any Frame.isUnlock = false) :
    heldLocks stack = if stack.getLast?.any Frame.isLoopBase then allMutexes else [] := by
  rw [heldLocks_of_stackShape hShape]
  cases hLast : stack.getLast? with
  | none => rfl
  | some f =>
      simp only [hLast, Option.any_some] at hDispatch
      simp [Frame.held_of_isUnlock hDispatch]

/- In the loop the receive thread holds every mutex. -/
theorem lockFree_of_inReconnectLoop
    {c : Config}
    (hShaped : c.StacksShaped)
    (hLoop : c.inReconnectLoop = true)
    (m : Mutex) :
    c.lockFree m = false := by
  have hDispatch : c.io.getLast?.any Frame.isUnlock = false := by
    unfold Config.inReconnectLoop at hLoop
    cases hLast : c.io.getLast? with
    | none => simp [hLast] at hLoop
    | some f => cases f <;> simp_all [Frame.isLoopBase, Frame.isUnlock]
  have hHeld : heldLocks c.io = allMutexes := by
    have hShape : stackShape Frame.isIoBase c.io = true := hShaped .io
    have hIo := heldLocks_io hShape hDispatch
    rwa [show c.io.getLast?.any Frame.isLoopBase = true from hLoop, if_pos rfl] at hIo
  cases m <;> simp [Config.lockFree, hHeld, allMutexes]

/- In the loop no call that takes a mutex can run. -/
theorem call_blocked_of_inReconnectLoop
    {c : Config}
    {t : ThreadId}
    {op : Op}
    {o : Outcome}
    (hShaped : c.StacksShaped)
    (hLoop : c.inReconnectLoop = true)
    (hMutex : op.mutex?.isSome = true) :
    step c (.call t op o) = none := by
  obtain ⟨m, hm⟩ := Option.isSome_iff_exists.mp hMutex
  simp only [step]
  split <;> simp [hm, lockFree_of_inReconnectLoop hShaped hLoop m]

------------------------------------------------------------
-- What Each Segment Invokes
------------------------------------------------------------

theorem connect_invoked
    {s : Subscriber} {host : String} {port : Nat} {connectCallback : Option Callback}
    {timeoutMs : Nat} {maxReconnects : Int} {reconnectIntervalMs : Nat} {useEncryption : Bool}
    {f : Callback} {arg : CallbackArg}
    (h : (connect s host port connectCallback timeoutMs maxReconnects reconnectIntervalMs
      useEncryption).invoked = some (f, arg)) :
    arg = .connectState host port .start := by
  simp only [connect, Option.map_eq_some', Prod.mk.injEq] at h
  obtain ⟨_, -, -, rfl⟩ := h
  rfl

theorem notify_invoked
    {s : Subscriber} {state : ConnectState} {f : Callback} {arg : CallbackArg}
    (h : notify s state = some (f, arg)) :
    arg = .connectState s.redisServer s.redisPort state := by
  simp only [notify, Option.map_eq_some', Prod.mk.injEq] at h
  obtain ⟨_, -, -, rfl⟩ := h
  rfl

theorem runOp_invoked
    {s : Subscriber} {o : Outcome} {op : Op} {f : Callback} {arg : CallbackArg}
    (h : (runOp s o op).invoked = some (f, arg)) :
    ∃ host port, arg = .connectState host port .start := by
  cases op
  case connect => exact ⟨_, _, connect_invoked h⟩
  case connectSentinel =>
    simp only [runOp, connectSentinel] at h
    split at h
    · dsimp only at h
      exact ⟨_, _, connect_invoked h⟩
    · cases h
  case subscribe t _ _ _ => cases t <;> cases h
  case unsubscribe t _ => cases t <;> cases h
  all_goals cases h

theorem connectTransport_invoked
    {s : Subscriber} {byReconnect : Bool} {host : String} {port timeoutMs : Nat}
    {useEncryption : Bool} {o : Outcome} {f : Callback} {arg : CallbackArg}
    (h : (connectTransport s byReconnect host port timeoutMs useEncryption o).invoked =
      some (f, arg)) :
    ∃ host port, arg = .connectState host port .ok := by
  unfold connectTransport at h
  split at h
  · exact ⟨_, _, notify_invoked h⟩
  · cases h

/-
  Every notification of the handler past its locking is a
  connect state other than `dropped`, made under all three
  mutexes.
-/
theorem disconnectionHandlerStep_invoked
    {s : Subscriber} {o : Outcome} {pc : HandlerPc} {f : Callback} {arg : CallbackArg}
    (h : (disconnectionHandlerStep s o pc).invoked = some (f, arg)) :
    heldLocks (disconnectionHandlerStep s o pc).cont = allMutexes ∧
      ∃ host port state, arg = .connectState host port state ∧ state ≠ .dropped := by
  cases pc <;> simp only [disconnectionHandlerStep] at h ⊢
  case loopHead =>
    unfold reconnectLoop sleepBeforeNextReconnectAttempt at h ⊢
    refine ⟨by split <;> [rfl; split <;> rfl], ?_⟩
    split at h
    · split at h
      · cases h
      · exact ⟨_, _, _, notify_invoked h, by decide⟩
    · split at h
      · cases h
      · exact ⟨_, _, _, notify_invoked h, by decide⟩
  case attempt =>
    unfold reconnect reconnectConnect at h ⊢
    dsimp only at h ⊢
    refine ⟨by split <;> [rfl; split <;> rfl], ?_⟩
    split at h
    · dsimp only at h
      exact ⟨_, _, _, connect_invoked h, by decide⟩
    · split at h
      · dsimp only at h
        exact ⟨_, _, _, connect_invoked h, by decide⟩
      · exact ⟨_, _, _, notify_invoked h, by decide⟩
  case afterConnect =>
    unfold reconnectCheck at h ⊢
    refine ⟨by split <;> rfl, ?_⟩
    split at h <;> exact ⟨_, _, _, notify_invoked h, by decide⟩
  all_goals cases h

theorem connectionReceiveHandler_invoked
    {s : Subscriber} {r : Reply} {f : Callback} {arg : CallbackArg}
    (h : (connectionReceiveHandler s r).invoked = some (f, arg)) :
    (∃ r', arg = .reply r' ∧ heldLocks (connectionReceiveHandler s r).cont = []) ∨
      (∃ n, arg = .acknowledgement n) ∨ ∃ channel message, arg = .message channel message := by
  rcases connectionReceiveHandler_cases s r with hSeg | ⟨_, _, _, hArg, hSeg⟩ | ⟨-, _, -, hSeg⟩ |
    ⟨-, -, _, -, hSeg⟩ | ⟨_, _, -, hSeg⟩ <;> rw [hSeg] at h ⊢
  · cases h
  · cases h
    exact .inr hArg
  · cases h
    exact .inl ⟨r, rfl, rfl⟩
  · cases h
    exact .inl ⟨r, rfl, rfl⟩
  · simp only [Option.map_eq_some', Prod.mk.injEq] at h
    obtain ⟨_, -, -, rfl⟩ := h
    exact .inl ⟨r, rfl, rfl⟩

theorem connectionDisconnectionHandler_invoked
    {s : Subscriber} {f : Callback} {arg : CallbackArg}
    (h : (connectionDisconnectionHandler s).invoked = some (f, arg)) :
    (∃ host port, arg = .connectState host port .dropped) ∧
      heldLocks (connectionDisconnectionHandler s).cont = [] := by
  by_cases hReconnecting : s.reconnecting <;>
    simp only [connectionDisconnectionHandler, hReconnecting] at h ⊢
  · cases h
  · exact ⟨⟨_, _, notify_invoked h⟩, rfl⟩

theorem failPingCallback_invoked
    {s : Subscriber} {t : ThreadId} {callbacks : List (Option Callback)}
    {f : Callback} {arg : CallbackArg}
    (h : (failPingCallback s t callbacks).invoked = some (f, arg)) :
    arg = .reply Reply.networkFailure := by
  cases callbacks with
  | nil => cases h
  | cons callback rest =>
      simp only [failPingCallback, Option.map_eq_some', Prod.mk.injEq] at h
      obtain ⟨_, -, -, rfl⟩ := h
      rfl

/-
  What the code a step runs holds when it invokes its
  callback: nothing for a reply or the `dropped`
  notification, all three mutexes, on the receive thread, for
  a notification only the loop makes.
-/
theorem Runs.invocation
    {c : Config} {a : Action} {t : ThreadId} {rest : List Frame} {seg : Segment}
    {f : Callback} {arg : CallbackArg}
    (hShaped : c.StacksShaped)
    (h : Runs c a t rest seg)
    (hInvoked : seg.invoked = some (f, arg)) :
    ((∃ r, arg = .reply r) ∨ (∃ host port, arg = .connectState host port .dropped) →
      heldLocks (seg.cont ++ rest) = []) ∧
    (∀ host port state, arg = .connectState host port state →
      state.isLoopNotification = true → t = .io ∧ heldLocks (seg.cont ++ rest) = allMutexes) := by
  have hShape := h.stackShape hShaped
  cases h with
  | call =>
      obtain ⟨_, _, rfl⟩ := runOp_invoked hInvoked
      exact ⟨by rintro (⟨_, ⟨⟩⟩ | ⟨_, _, ⟨⟩⟩), by rintro _ _ _ ⟨⟩ ⟨⟩⟩
  | @advance _ fr _ _ _ hStack hRun =>
      cases fr <;> cases hRun
      case connectTransport.refl =>
        obtain ⟨_, _, rfl⟩ := connectTransport_invoked hInvoked
        exact ⟨by rintro (⟨_, ⟨⟩⟩ | ⟨_, _, ⟨⟩⟩), by rintro _ _ _ ⟨⟩ ⟨⟩⟩
      case disconnectionHandler.refl pc =>
        obtain ⟨rfl, hBase⟩ := base_of_stacksShaped hShaped hStack rfl
        cases t with
        | other => cases hBase
        | io =>
            obtain ⟨hHeld, _, _, state, rfl, hState⟩ := disconnectionHandlerStep_invoked hInvoked
            refine ⟨?_, fun _ _ _ _ _ => ⟨rfl, by simpa using hHeld⟩⟩
            rintro (⟨_, ⟨⟩⟩ | ⟨_, _, ⟨⟩⟩)
            exact absurd rfl hState
      case failureDelivery.refl =>
        obtain ⟨rfl, hBase⟩ := base_of_stacksShaped hShaped hStack rfl
        cases t with
        | io => cases hBase
        | other =>
            rw [failPingCallback_invoked hInvoked]
            exact ⟨fun _ => heldLocks_of_threadShape hShape, by rintro _ _ _ ⟨⟩⟩
      all_goals cases hInvoked
  | receive =>
      rcases connectionReceiveHandler_invoked hInvoked with ⟨_, rfl, hHeld⟩ | ⟨_, rfl⟩ | ⟨_, _, rfl⟩
      · exact ⟨fun _ => by simpa using hHeld, by rintro _ _ _ ⟨⟩⟩
      all_goals exact ⟨by rintro (⟨_, ⟨⟩⟩ | ⟨_, _, ⟨⟩⟩), by rintro _ _ _ ⟨⟩⟩
  | handle =>
      obtain ⟨⟨_, _, rfl⟩, hHeld⟩ := connectionDisconnectionHandler_invoked hInvoked
      exact ⟨fun _ => by simpa using hHeld, by rintro _ _ _ ⟨⟩ ⟨⟩⟩

------------------------------------------------------------
-- Locks at Every Invocation
------------------------------------------------------------

theorem getLast?_callback_any {p : Frame → Bool} (hp : p .callback = false) (stack : List Frame) :
    (Frame.callback :: stack).getLast?.any p = stack.getLast?.any p := by
  rw [List.getLast?_cons]
  cases stack.getLast? <;> simp [hp]

/-
  The mutexes held at an invocation `.invoke t f arg held`
  of a step into `c'`.
-/
structure LockDiscipline
    (c' : Config)
    (t : ThreadId)
    (arg : CallbackArg)
    (held : List Mutex) : Prop where
  otherThread : t ≠ .io → held = []
  receiveThread : t = .io → c'.dispatching = false →
    held = if c'.inReconnectLoop then allMutexes else []
  reply : ∀ r, arg = .reply r → held = []
  dropped : ∀ host port, arg = .connectState host port .dropped → held = []
  loopNotification : ∀ host port state, arg = .connectState host port state →
    state.isLoopNotification = true → t = .io ∧ held = allMutexes
  selfDeadlock : t = .io → c'.inReconnectLoop = true →
    ∀ op o, op.mutex?.isSome = true → step c' (.call .io op o) = none

/-
  Every invocation from a reachable configuration holds the
  mutexes `LockDiscipline` says: all three in the reconnect
  loop, none outside the receive thread, none with a reply or
  `dropped`.
-/
theorem callback_locks
    {c c' : Config}
    {events new : List Event}
    {a : Action}
    {t : ThreadId}
    {f : Callback}
    {arg : CallbackArg}
    {held : List Mutex}
    (hReach : Reachable c events)
    (hStep : step c a = some (c', new))
    (hInvoke : Event.invoke t f arg held ∈ new) :
    LockDiscipline c' t arg held := by
  have hShaped := Run.stacksShaped hReach
  have hShaped' := hShaped.step hStep
  rcases step_cases hStep with ⟨t0, rest, seg, hRuns, p, hEq⟩ | ⟨_, _, -, -, -, rfl⟩ |
    ⟨-, -, rfl⟩ | ⟨-, -, -, rfl⟩ | ⟨-, -, -, rfl⟩
  all_goals try simp at hInvoke
  obtain ⟨rfl, rfl⟩ := Prod.ext_iff.mp hEq
  rw [Config.resume_events, List.mem_append] at hInvoke
  rcases hInvoke with hMem | hMem
  · exact absurd hMem hRuns.events_not_invoke
  obtain ⟨rfl, hInvoked, rfl⟩ := invoke_mem_resumeEvents.mp hMem
  have hShape := hRuns.stackShape hShaped
  obtain ⟨hFree, hLoop⟩ := hRuns.invocation hShaped hInvoked
  refine ⟨fun hOther => ?_, fun hIo hDispatch => ?_, fun r hr => hFree (.inl ⟨r, hr⟩),
    fun _ _ hd => hFree (.inr ⟨_, _, hd⟩), hLoop,
    fun _ hIn _ _ hm => call_blocked_of_inReconnectLoop hShaped' hIn hm⟩
  · cases t with
    | io => exact absurd rfl hOther
    | other => exact heldLocks_of_threadShape hShape
  · subst hIo
    have hIoStack : (({ c with pendingDrops := p }).resume .io rest seg).1.io =
        .callback :: (seg.cont ++ rest) := by
      simpa [Config.resumeStack, hInvoked] using
        Config.resume_stack { c with pendingDrops := p } .io .io rest seg
    simp only [Config.dispatching, Config.inReconnectLoop, hIoStack,
      getLast?_callback_any (p := Frame.isUnlock) rfl,
      getLast?_callback_any (p := Frame.isLoopBase) rfl] at hDispatch ⊢
    exact heldLocks_io hShape hDispatch

/- The loop head's `sleeping` notification runs under all three mutexes. -/
theorem callback_locks_at_sleeping :
    ∃ c events c', Reachable c events ∧
      step c (.advance .io .success) =
        some (c', [.invoke .io (.user 0) (.connectState "redis" 6379 .sleeping) allMutexes]) ∧
      LockDiscipline c' .io (.connectState "redis" 6379 .sleeping) allMutexes := by
  have ⟨c, events, hExec, c', hStep⟩ : ∃ c events,
      exec Config.init
        [.call (.other 0) (.connect "redis" 6379 (some (.user 0)) 0 (-1) 100 false) .success,
          .ret (.other 0), .advance (.other 0) .success, .ret (.other 0), .drop, .handleDrop,
          .ret .io, .advance .io .success] = some (c, events) ∧
      ∃ c', step c (.advance .io .success) =
        some (c', [.invoke .io (.user 0) (.connectState "redis" 6379 .sleeping) allMutexes]) :=
    ⟨_, _, rfl, _, rfl⟩
  have hReach := run_of_exec _ .init hExec fun _ _ => trivial
  exact ⟨c, _, c', hReach, hStep, callback_locks hReach hStep (List.mem_singleton_self _)⟩

/- After a drop, the `sleeping` notification runs while the receive thread holds every mutex. -/
theorem reconnect_notification_holds_locks :
    ∃ c, Reachable c
      [.invoke (.other 0) (.user 0) (.connectState "redis" 6379 .start) [],
        .transportConnect false "redis" 6379 0 false true,
        .invoke (.other 0) (.user 0) (.connectState "redis" 6379 .ok) [],
        .transportDrop,
        .invoke .io (.user 0) (.connectState "redis" 6379 .dropped) [],
        .invoke .io (.user 0) (.connectState "redis" 6379 .sleeping) allMutexes] := by
  obtain ⟨c, hExec⟩ : ∃ c, exec Config.init
      [.call (.other 0) (.connect "redis" 6379 (some (.user 0)) 0 (-1) 100 false) .success,
        .ret (.other 0), .advance (.other 0) .success, .ret (.other 0), .drop, .handleDrop,
        .ret .io, .advance .io .success, .advance .io .success] =
      some (c,
        [.invoke (.other 0) (.user 0) (.connectState "redis" 6379 .start) [],
          .transportConnect false "redis" 6379 0 false true,
          .invoke (.other 0) (.user 0) (.connectState "redis" 6379 .ok) [],
          .transportDrop,
          .invoke .io (.user 0) (.connectState "redis" 6379 .dropped) [],
          .invoke .io (.user 0) (.connectState "redis" 6379 .sleeping) allMutexes]) :=
    ⟨_, rfl⟩
  exact ⟨c, run_of_exec _ Run.init hExec fun _ _ => trivial⟩

end RedisSubscriber
