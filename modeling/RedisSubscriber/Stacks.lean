import RedisSubscriber.StepCases

/-
  Where frames sit on the threads' stacks. Every stack is a run
  of transient frames over at most one base frame, and the
  mutexes a thread holds are those of its base frame. The code
  a step runs records only the subscriber's own events.

  Key definitions include:
    * `Frame.isTransient`, `stackShape`, `Config.StacksShaped`
    * `Event.isCode`

  Main declarations:
    * `heldLocks_of_stackShape`, `Run.stacksShaped`
    * `Runs.events_isCode`
-/

------------------------------------------------------------
-- Stack Shapes
------------------------------------------------------------

namespace RedisSubscriber

/- Frames that sit above the base of a stack. -/
def Frame.isTransient : Frame → Bool
  | .callback => true
  | .connectTransport .. => true
  | .finishPingMove _ => true
  | _ => false

/- Frames at the base of the receive thread's stack. -/
def Frame.isIoBase : Frame → Bool
  | .disarmAuth => true
  | .disarmClientSetname => true
  | .unlock _ => true
  | .disconnectionHandler _ => true
  | _ => false

/- Frames at the base of any other thread's stack. -/
def Frame.isThreadBase : Frame → Bool
  | .main => true
  | .failureDelivery _ => true
  | _ => false

/- The base frames a thread may have. -/
def ThreadId.base : ThreadId → Frame → Bool
  | .io => Frame.isIoBase
  | .other _ => Frame.isThreadBase

/- Transient frames over at most one base frame. -/
def stackShape (base : Frame → Bool) : List Frame → Bool
  | [] => true
  | [f] => f.isTransient || base f
  | f :: g :: rest => f.isTransient && stackShape base (g :: rest)

theorem Frame.held_of_isTransient {f : Frame} (h : f.isTransient = true) : f.held = [] := by
  cases f <;> simp_all [Frame.isTransient, Frame.held]

theorem Frame.held_of_isThreadBase {f : Frame} (h : f.isThreadBase = true) : f.held = [] := by
  cases f <;> simp_all [Frame.isThreadBase, Frame.held]

section Shapes

variable {base : Frame → Bool} {f : Frame} {rest : List Frame}

theorem stackShape_cons_of_isTransient
    (hf : f.isTransient = true)
    (hRest : stackShape base rest = true) :
    stackShape base (f :: rest) = true := by
  cases rest with
  | nil => simp [stackShape, hf]
  | cons g rest => simp [stackShape, hf, hRest]

/- Below a frame the stack is shaped; below a base frame it is empty. -/
theorem stackShape_cons
    (h : stackShape base (f :: rest) = true) :
    stackShape base rest = true ∧ (f.isTransient = false → rest = [] ∧ base f = true) := by
  cases rest with
  | nil => cases hf : f.isTransient <;> simp_all [stackShape]
  | cons g rest => simp_all [stackShape]

theorem stackShape_append
    {upper : List Frame}
    (hUpper : ∀ g ∈ upper, g.isTransient = true)
    (hRest : stackShape base rest = true) :
    stackShape base (upper ++ rest) = true := by
  induction upper with
  | nil => exact hRest
  | cons g upper ih =>
      exact stackShape_cons_of_isTransient (hUpper g (List.mem_cons_self g upper))
        (ih fun g' hg' => hUpper g' (List.mem_cons_of_mem g hg'))

/-
  What a function reads off a stack, if transient frames on top
  do not change it, is that of the stack under them.
-/
theorem append_of_cons_isTransient
    {β : Type}
    (g : List Frame → β)
    (hCons : ∀ f stack, f.isTransient = true → g (f :: stack) = g stack)
    {upper : List Frame}
    (hUpper : ∀ f ∈ upper, f.isTransient = true)
    (stack : List Frame) :
    g (upper ++ stack) = g stack := by
  induction upper with
  | nil => rfl
  | cons f upper ih =>
      rw [List.cons_append, hCons f _ (hUpper f (List.mem_cons_self f upper)),
        ih fun f' hf' => hUpper f' (List.mem_cons_of_mem f hf')]

/- A shaped stack holds the mutexes of its bottom frame. -/
theorem heldLocks_of_stackShape
    (h : stackShape base rest = true) :
    heldLocks rest = (rest.getLast?.map Frame.held).getD [] := by
  induction rest with
  | nil => rfl
  | cons f rest ih =>
      obtain ⟨hRest, hBase⟩ := stackShape_cons h
      cases hf : f.isTransient with
      | true =>
          cases rest with
          | nil => simp [Frame.held_of_isTransient hf]
          | cons g rest => simp [Frame.held_of_isTransient hf, ih hRest, List.getLast?_cons_cons]
      | false =>
          obtain ⟨rfl, -⟩ := hBase hf
          simp

/- Every frame of a shaped stack is transient or a base frame. -/
theorem stackShape_mem
    (h : stackShape base rest = true)
    (hf : f ∈ rest) :
    f.isTransient = true ∨ base f = true := by
  induction rest with
  | nil => cases hf
  | cons g rest ih =>
      obtain ⟨hRest, hBase⟩ := stackShape_cons h
      rcases List.mem_cons.mp hf with rfl | hf
      · cases hg : f.isTransient
        · exact .inr (hBase hg).2
        · exact .inl rfl
      · exact ih hRest hf

/- A thread other than the receive thread holds no mutex. -/
theorem heldLocks_of_threadShape
    (h : stackShape Frame.isThreadBase rest = true) :
    heldLocks rest = [] :=
  List.flatMap_eq_nil_iff.mpr fun _ hg =>
    (stackShape_mem h hg).elim Frame.held_of_isTransient Frame.held_of_isThreadBase

end Shapes

------------------------------------------------------------
-- The Frames a Segment Leaves
------------------------------------------------------------

theorem clearPingCallbacks_isTransient (s : Subscriber) :
    ∀ f ∈ clearPingCallbacks s, f.isTransient = true := by
  unfold clearPingCallbacks
  split <;> simp [Frame.isTransient]

theorem runOp_cont (s : Subscriber) (o : Outcome) (op : Op) :
    ∀ f ∈ (runOp s o op).cont, f.isTransient = true := by
  cases op
  case subscribe t _ _ _ => cases t <;> simp [runOp, Segment.done]
  case unsubscribe t _ => cases t <;> simp [runOp, Segment.done]
  case connectSentinel =>
    simp only [runOp, connectSentinel]
    split <;> simp [connect, Segment.done, Frame.isTransient]
  case disconnect => exact clearPingCallbacks_isTransient s
  all_goals simp [runOp, connect, Segment.done, Frame.isTransient]

@[simp] theorem connectTransport_cont
    (s : Subscriber)
    (byReconnect : Bool)
    (host : String)
    (port timeoutMs : Nat)
    (useEncryption : Bool)
    (o : Outcome) :
    (connectTransport s byReconnect host port timeoutMs useEncryption o).cont = [] := by
  unfold connectTransport
  split <;> rfl

/- The transport connect records itself, whether it succeeds or not. -/
theorem connectTransport_events
    (s : Subscriber)
    (byReconnect : Bool)
    (host : String)
    (port timeoutMs : Nat)
    (useEncryption : Bool)
    (o : Outcome) :
    (connectTransport s byReconnect host port timeoutMs useEncryption o).events =
      [.transportConnect byReconnect host port timeoutMs useEncryption o.connectOk] := by
  unfold connectTransport
  split <;> rfl

theorem disconnectionHandlerStep_cont (s : Subscriber) (o : Outcome) (pc : HandlerPc) :
    stackShape Frame.isIoBase (disconnectionHandlerStep s o pc).cont = true := by
  cases pc <;> simp only [disconnectionHandlerStep]
  case loopHead =>
    unfold reconnectLoop sleepBeforeNextReconnectAttempt
    split <;> [rfl; split <;> rfl]
  case attempt =>
    unfold reconnect reconnectConnect
    dsimp only
    repeat' split
    all_goals rfl
  case afterConnect =>
    unfold reconnectCheck
    split <;> rfl
  case replay =>
    unfold reconnectReplay
    dsimp only
    split <;> rfl
  all_goals rfl

theorem failPingCallback_cont (s : Subscriber) (t : ThreadId) (callbacks : List (Option Callback)) :
    stackShape Frame.isThreadBase (failPingCallback s t callbacks).cont = true := by
  cases callbacks <;> rfl

theorem connectionReceiveHandler_cont (s : Subscriber) (r : Reply) :
    stackShape Frame.isIoBase (connectionReceiveHandler s r).cont = true := by
  rcases connectionReceiveHandler_cases s r with h | ⟨_, _, _, -, h⟩ | ⟨-, _, -, h⟩ |
    ⟨-, -, _, -, h⟩ | ⟨_, _, -, h⟩ <;> rw [h] <;> rfl

theorem connectionDisconnectionHandler_cont (s : Subscriber) :
    stackShape Frame.isIoBase (connectionDisconnectionHandler s).cont = true := by
  unfold connectionDisconnectionHandler
  split <;> rfl

------------------------------------------------------------
-- Stacks of a Step
------------------------------------------------------------

namespace Config

variable (c : Config) (t t' : ThreadId)

@[simp] theorem stack_io : c.stack .io = c.io := rfl

@[simp] theorem stack_setStack (frames : List Frame) :
    (c.setStack t frames).stack t' = if t' = t then frames else c.stack t' := by
  cases t <;> cases t' <;> simp [setStack, stack, Function.update_apply]

@[simp] theorem stack_start (frames : List Frame) :
    (c.start frames).stack t = if t = .other c.threadCount then frames else c.stack t := by
  cases t <;> simp [start, stack, Function.update_apply]

@[simp] theorem threadCount_setStack (frames : List Frame) :
    (c.setStack t frames).threadCount = c.threadCount := by
  cases t <;> rfl

@[simp] theorem sub_setStack (frames : List Frame) : (c.setStack t frames).sub = c.sub := by
  cases t <;> rfl

theorem resume_stack (rest : List Frame) (seg : Segment) :
    (c.resume t rest seg).1.stack t' =
      if seg.detached.isEmpty = false ∧ t' = .other c.threadCount then
        [.failureDelivery seg.detached]
      else if t' = t then resumeStack rest seg else c.stack t' := by
  unfold resume
  cases hDetached : seg.detached.isEmpty <;> cases t <;> cases t' <;>
    simp [hDetached, setStack, start, stack, Function.update_apply]

end Config

------------------------------------------------------------
-- Every Reachable Configuration Is Shaped
------------------------------------------------------------

/- Every thread's stack is shaped for the base frames it may have. -/
def Config.StacksShaped (c : Config) : Prop :=
  ∀ t, stackShape t.base (c.stack t) = true

theorem Config.init_stacksShaped : Config.init.StacksShaped := by
  intro t
  cases t with
  | io => rfl
  | other i =>
      by_cases h : i = 0 <;>
        simp [Config.init, Config.stack, h, stackShape, ThreadId.base, Frame.isThreadBase]

section Shaped

variable {c c' : Config} {a : Action} {t : ThreadId} {f : Frame} {rest : List Frame}
  {seg : Segment}

/- A frame that is not transient runs only at the bottom of its thread's stack. -/
theorem base_of_stacksShaped
    (hShaped : c.StacksShaped)
    (hStack : c.stack t = f :: rest)
    (hf : f.isTransient = false) :
    rest = [] ∧ t.base f = true :=
  (stackShape_cons (hStack ▸ hShaped t)).2 hf

/- The code a step runs leaves a shaped stack on its thread. -/
theorem Runs.stackShape
    (hShaped : c.StacksShaped)
    (h : Runs c a t rest seg) :
    stackShape t.base (seg.cont ++ rest) = true := by
  cases h with
  | call hStack _ _ => exact stackShape_append (runOp_cont _ _ _) (hStack ▸ hShaped t)
  | @advance _ f _ _ _ hStack hRun =>
      have hRest := (stackShape_cons (hStack ▸ hShaped t)).1
      cases f with
      | main | callback => cases hRun
      | connectTransport | disarmAuth | disarmClientSetname | unlock | finishPingMove =>
          cases hRun
          simpa [Segment.done, finishPingMove] using hRest
      | disconnectionHandler pc =>
          obtain ⟨rfl, hBase⟩ := base_of_stacksShaped hShaped hStack rfl
          cases hRun
          cases t with
          | io => simpa using disconnectionHandlerStep_cont _ _ pc
          | other => cases hBase
      | failureDelivery =>
          obtain ⟨rfl, hBase⟩ := base_of_stacksShaped hShaped hStack rfl
          cases hRun
          cases t with
          | io => cases hBase
          | other => simpa using failPingCallback_cont _ _ _
  | receive => simpa using connectionReceiveHandler_cont _ _
  | handle => simpa using connectionDisconnectionHandler_cont _

theorem stackShape_resumeStack
    {base : Frame → Bool}
    (h : stackShape base (seg.cont ++ rest) = true) :
    stackShape base (Config.resumeStack rest seg) = true := by
  unfold Config.resumeStack
  split
  · exact h
  · exact stackShape_cons_of_isTransient rfl h

/- Every step keeps the stacks shaped. -/
theorem Config.StacksShaped.step
    {events : List Event}
    (hShaped : c.StacksShaped)
    (hStep : step c a = some (c', events)) :
    c'.StacksShaped := by
  rcases step_cases hStep with ⟨t, rest, seg, hRuns, p, hEq⟩ | ⟨t, rest, -, hStack, rfl, -⟩ |
    ⟨-, rfl, -⟩ | ⟨-, -, rfl, -⟩ | ⟨-, -, rfl, -⟩
  · obtain rfl : c' = _ := congrArg Prod.fst hEq
    intro t'
    rw [Config.resume_stack]
    split_ifs with hNew hThis
    · obtain ⟨-, rfl⟩ := hNew
      rfl
    · subst hThis
      exact stackShape_resumeStack (hRuns.stackShape hShaped)
    · cases t' <;> exact hShaped _
  · intro t'
    rw [Config.stack_setStack]
    split_ifs with hThis
    · subst hThis
      exact (stackShape_cons (hStack ▸ hShaped t')).1
    · exact hShaped t'
  · intro t'
    rw [Config.stack_start]
    split_ifs with hNew
    · subst hNew
      rfl
    · exact hShaped t'
  all_goals
    intro t'
    cases t' <;> exact hShaped _

/- Every configuration of a run is shaped. -/
theorem Run.stacksShaped
    {allow : Config → Action → Prop}
    {events : List Event}
    (h : Run allow c events) :
    c.StacksShaped := by
  induction h with
  | init => exact Config.init_stacksShaped
  | step _ _ hStep ih => exact ih.step hStep

end Shaped

------------------------------------------------------------
-- Events of a Step
------------------------------------------------------------

/-
  The events the subscriber's code records itself; invocations,
  moves, failures and drops are recorded by the system.
-/
def Event.isCode : Event → Bool
  | .send _ | .commit _ | .transportConnect .. | .transportDisconnect => true
  | .sentinelLookup .. | .pingPush _ | .pingPop _ => true
  | _ => false

/- Whether an event is a pong's pop of the ping queue. -/
def Event.isPingPop : Event → Bool
  | .pingPop _ => true
  | _ => false

/- Whether an event is a transport connect made by the reconnect loop. -/
def Event.isReconnectAttempt : Event → Bool
  | .transportConnect byReconnect .. => byReconnect
  | _ => false

/- The three facts of a list of events, read off its Boolean check. -/
theorem forall_mem_isCode_of_all
    {events : List Event}
    (h : events.all (fun e => e.isCode && (!e.isPingPop && !e.isReconnectAttempt)) = true) :
    ∀ e ∈ events, e.isCode = true ∧ e.isPingPop = false ∧ e.isReconnectAttempt = false := by
  simpa [List.all_eq_true] using h

theorem runOp_events (s : Subscriber) (o : Outcome) (op : Op) :
    ∀ e ∈ (runOp s o op).events,
      e.isCode = true ∧ e.isPingPop = false ∧ e.isReconnectAttempt = false := by
  refine forall_mem_isCode_of_all ?_
  cases op
  case subscribe t _ _ _ => cases t <;> rfl
  case unsubscribe t _ =>
    cases t <;> simp only [runOp, unsubscribe, punsubscribe, unsubscribeFrom] <;> split <;> rfl
  case connectSentinel =>
    simp only [runOp, connectSentinel]
    split <;> rfl
  case ping =>
    simp only [runOp, ping]
    split <;> rfl
  all_goals rfl

/- The handler's own steps record commands, commits and sentinel lookups only. -/
theorem disconnectionHandlerStep_events (s : Subscriber) (o : Outcome) (pc : HandlerPc) :
    ∀ e ∈ (disconnectionHandlerStep s o pc).events,
      e.isCode = true ∧ e.isPingPop = false ∧ e.isReconnectAttempt = false := by
  cases pc <;> simp only [disconnectionHandlerStep]
  case replay =>
    intro e he
    rw [reconnectReplay_events, List.mem_append, List.mem_singleton] at he
    rcases he with he | rfl
    · obtain ⟨_, rfl⟩ := send_of_mem_replayCommands he
      exact ⟨rfl, rfl, rfl⟩
    · exact ⟨rfl, rfl, rfl⟩
  all_goals refine forall_mem_isCode_of_all ?_
  case loopHead =>
    unfold reconnectLoop
    split <;> [rfl; split <;> rfl]
  case attempt =>
    unfold reconnect
    dsimp only
    split <;> [rfl; split <;> rfl]
  case afterConnect =>
    unfold reconnectCheck
    split <;> rfl
  all_goals rfl

theorem connectionReceiveHandler_events (s : Subscriber) (r : Reply) :
    ∀ e ∈ (connectionReceiveHandler s r).events, e.isCode = true := by
  rcases connectionReceiveHandler_cases s r with h | ⟨_, _, _, -, h⟩ | ⟨-, _, -, h⟩ |
    ⟨-, -, _, -, h⟩ | ⟨_, _, -, h⟩ <;> simp [h, Segment.done, Event.isCode]

/-
  The code a step runs records only the subscriber's own
  events, except the detached thread of `clear_ping_callbacks`,
  which records the failure of its front callback.
-/
theorem Runs.events_isCode
    {c : Config} {a : Action} {t : ThreadId} {rest : List Frame} {seg : Segment}
    (h : Runs c a t rest seg) :
    (∀ e ∈ seg.events, e.isCode = true) ∨
      ∃ callback callbacks o, a = .advance t o ∧
        c.stack t = .failureDelivery (callback :: callbacks) :: rest ∧
        seg = failPingCallback c.sub t (callback :: callbacks) := by
  cases h with
  | call => exact .inl fun e he => (runOp_events _ _ _ e he).1
  | @advance _ f _ _ _ hStack hRun =>
      cases f <;> cases hRun
      case connectTransport.refl =>
        unfold connectTransport
        exact .inl (by split <;> simp [Segment.done, Event.isCode])
      case disconnectionHandler.refl =>
        exact .inl fun e he => (disconnectionHandlerStep_events _ _ _ e he).1
      case failureDelivery.refl callbacks =>
        cases callbacks with
        | nil => exact .inl (by simp [failPingCallback, Segment.done])
        | cons callback callbacks => exact .inr ⟨callback, callbacks, _, rfl, hStack, rfl⟩
      all_goals exact .inl (by simp [Segment.done, finishPingMove])
  | receive => exact .inl (connectionReceiveHandler_events _ _)
  | handle =>
      unfold connectionDisconnectionHandler
      exact .inl (by split <;> simp [Segment.done])

/- The code a step runs records no invocation among its own events. -/
theorem Runs.events_not_invoke
    {c : Config} {a : Action} {t : ThreadId} {rest : List Frame} {seg : Segment}
    {t' : ThreadId} {f : Callback} {arg : CallbackArg} {held : List Mutex}
    (h : Runs c a t rest seg) :
    Event.invoke t' f arg held ∉ seg.events := by
  intro hMem
  rcases h.events_isCode with hCode | ⟨callback, callbacks, -, -, -, rfl⟩
  · simpa [Event.isCode] using hCode _ hMem
  · simp [failPingCallback] at hMem

/-
  The invocation `Config.resume` records: the segment's
  callback, on the running thread, holding the locks of the
  frames left under it.
-/
theorem invoke_mem_resumeEvents
    {c : Config} {t t' : ThreadId} {rest : List Frame} {seg : Segment}
    {f : Callback} {arg : CallbackArg} {held : List Mutex} :
    Event.invoke t' f arg held ∈ c.resumeEvents t rest seg ↔
      t' = t ∧ seg.invoked = some (f, arg) ∧ held = heldLocks (seg.cont ++ rest) := by
  unfold Config.resumeEvents
  cases hInvoked : seg.invoked with
  | none => split <;> simp
  | some call =>
      obtain ⟨g, x⟩ := call
      split <;> simp [and_assoc, eq_comm]

end RedisSubscriber
