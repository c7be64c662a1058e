import RedisSubscriber.Stacks

/-
  The ping queue against the pings pushed on it, step by step.

  `ping` pushes its callback, a pong pops the front, and
  `clear_ping_callbacks` moves the queue to a detached thread
  that fails the moved callbacks front first. A step keeps the
  ledger of pushes, consumptions, queue and batches as long as
  a move ends with the queue it read (`PingLedger.step`), and
  records each consumption with the one invocation of its
  callback (`pingConsumptionsPaired_step`).
-/

------------------------------------------------------------
-- The Queue's History
------------------------------------------------------------

namespace RedisSubscriber

/- The callback an event pushes on the queue. -/
def Event.pingPushed : Event → List (Option Callback)
  | .pingPush callback => [callback]
  | _ => []

/- The callbacks an event takes off the queue: a pong's pop, or a move to a detached thread. -/
def Event.pingConsumed : Event → List (Option Callback)
  | .pingPop callback => [callback]
  | .pingMove _ callbacks => callbacks
  | _ => []

/- The callbacks an event moves to a thread. -/
def Event.pingMoved (t : ThreadId) : Event → List (Option Callback)
  | .pingMove t' callbacks => if t' = t then callbacks else []
  | _ => []

/- The callback an event fails on a thread. -/
def Event.pingFailed (t : ThreadId) : Event → List (Option Callback)
  | .pingFail t' callback => if t' = t then [callback] else []
  | _ => []

/- The callbacks the detached thread at the bottom of a stack has yet to fail. -/
def pendingFailures (stack : List Frame) : List (Option Callback) :=
  match stack.getLast? with
  | some (.failureDelivery callbacks) => callbacks
  | _ => []

theorem pendingFailures_cons {f : Frame} (hf : f.isTransient = true) (stack : List Frame) :
    pendingFailures (f :: stack) = pendingFailures stack := by
  unfold pendingFailures
  rw [List.getLast?_cons]
  cases stack.getLast? <;> cases f <;> simp_all [Frame.isTransient]

theorem pendingFailures_append
    {upper : List Frame}
    (hUpper : ∀ g ∈ upper, g.isTransient = true)
    (stack : List Frame) :
    pendingFailures (upper ++ stack) = pendingFailures stack :=
  append_of_cons_isTransient pendingFailures (fun _ stack hf => pendingFailures_cons hf stack)
    hUpper stack

theorem pendingFailures_resumeStack (rest : List Frame) (seg : Segment) :
    pendingFailures (Config.resumeStack rest seg) = pendingFailures (seg.cont ++ rest) := by
  unfold Config.resumeStack
  split
  · rfl
  · exact pendingFailures_cons (f := .callback) rfl _

/- A code event neither moves nor fails a ping. -/
theorem Event.isCode_ping {e : Event} (h : e.isCode = true) (t : ThreadId) :
    e.pingMoved t = [] ∧ e.pingFailed t = [] := by
  cases e <;> simp_all [Event.isCode, Event.pingMoved, Event.pingFailed]

------------------------------------------------------------
-- What the Code Does to the Queue
------------------------------------------------------------

/-
  A segment's pushes land behind the queue it found, and what
  it pops and moves out comes off the front.
-/
def Segment.PingBalanced (s : Subscriber) (seg : Segment) : Prop :=
  s.pingCallbacks ++ seg.events.flatMap Event.pingPushed =
    seg.events.flatMap Event.pingConsumed ++ seg.detached ++ seg.sub.pingCallbacks

theorem runOp_pingBalanced (s : Subscriber) (o : Outcome) (op : Op) :
    Segment.PingBalanced s (runOp s o op) := by
  cases op
  case subscribe t _ _ _ => cases t <;> simp [Segment.PingBalanced, runOp, Segment.done,
    subscribe, psubscribe, unprotectedSubscribe, unprotectedPsubscribe, unprotectedSubscribeTo,
    Event.pingPushed, Event.pingConsumed]
  case unsubscribe t _ =>
    cases t <;> simp only [runOp, unsubscribe, punsubscribe, unsubscribeFrom] <;> split <;>
      simp [Segment.PingBalanced, Segment.done, Event.pingPushed, Event.pingConsumed]
  case connectSentinel =>
    simp only [runOp, connectSentinel]
    split <;> simp [Segment.PingBalanced, connect, Segment.done, Event.pingPushed,
      Event.pingConsumed]
  all_goals simp [Segment.PingBalanced, runOp, connect, auth, clientSetname, ping, disconnect,
    cancelReconnect, Segment.done, Event.pingPushed, Event.pingConsumed]

theorem disconnectionHandlerStep_pingBalanced (s : Subscriber) (o : Outcome) (pc : HandlerPc) :
    Segment.PingBalanced s (disconnectionHandlerStep s o pc) := by
  cases pc <;> simp only [disconnectionHandlerStep]
  case loopHead =>
    unfold reconnectLoop sleepBeforeNextReconnectAttempt
    split <;> [simp [Segment.PingBalanced]; split <;> simp [Segment.PingBalanced, clearSubscriptions]]
  case attempt =>
    unfold reconnect reconnectConnect
    dsimp only
    split <;> [simp [Segment.PingBalanced, connect];
      split <;> simp [Segment.PingBalanced, connect, Event.pingPushed, Event.pingConsumed]]
  case afterConnect =>
    unfold reconnectCheck
    split <;> simp [Segment.PingBalanced]
  case replay =>
    /- The replay only sends commands and commits: it neither pushes nor pops a ping. -/
    have hQuiet : ∀ e ∈ (reconnectReplay s o).events, e.pingPushed = [] ∧ e.pingConsumed = [] := by
      intro e he
      rw [reconnectReplay_events, List.mem_append, List.mem_singleton] at he
      rcases he with he | rfl
      · obtain ⟨_, rfl⟩ := send_of_mem_replayCommands he
        exact ⟨rfl, rfl⟩
      · exact ⟨rfl, rfl⟩
    have hPings : (reconnectReplay s o).sub.pingCallbacks = s.pingCallbacks := by
      simp only [reconnectReplay, reSubscribe_eq, reAuth, reClientSetname]
      split_ifs <;> rfl
    rw [Segment.PingBalanced, List.flatMap_eq_nil_iff.mpr fun e he => (hQuiet e he).1,
      List.flatMap_eq_nil_iff.mpr fun e he => (hQuiet e he).2, hPings]
    exact List.append_nil _
  all_goals simp [Segment.PingBalanced, lockAndClearPings, finishPingMove, finishReconnecting,
    Segment.done]

/- Past `lockAll`, the handler's steps leave the ping queue alone. -/
theorem disconnectionHandlerStep_pingCallbacks
    {pc : HandlerPc}
    (s : Subscriber)
    (o : Outcome)
    (hPc : pc ≠ .lockAll) :
    (disconnectionHandlerStep s o pc).sub.pingCallbacks = s.pingCallbacks := by
  cases pc <;> simp only [disconnectionHandlerStep]
  case lockAll => exact absurd rfl hPc
  case loopHead =>
    unfold reconnectLoop
    split <;> [rfl; split <;> rfl]
  case attempt =>
    unfold reconnect reconnectConnect
    dsimp only
    split <;> [rfl; split <;> rfl]
  case afterConnect =>
    unfold reconnectCheck
    split <;> rfl
  case replay =>
    simp only [reconnectReplay, reSubscribe_eq, reAuth, reClientSetname]
    split_ifs <;> rfl
  case finish => rfl

theorem connectionReceiveHandler_pingBalanced (s : Subscriber) (r : Reply) :
    Segment.PingBalanced s (connectionReceiveHandler s r) := by
  rcases connectionReceiveHandler_cases s r with h | ⟨_, _, _, -, h⟩ | ⟨-, _, -, h⟩ |
    ⟨-, -, _, -, h⟩ | ⟨_, _, hQueue, h⟩ <;> rw [h]
  case inr.inr.inr.inr => simp [Segment.PingBalanced, Event.pingPushed, Event.pingConsumed, hQueue]
  all_goals simp [Segment.PingBalanced, Segment.done]

section Runs

variable {c : Config} {a : Action} {t : ThreadId} {rest : List Frame} {seg : Segment}

/- A step balances the queue, if a move it ends takes the queue it read. -/
theorem Runs.pingBalanced
    (hSnap : ∀ callbacks rest', c.stack t = .finishPingMove callbacks :: rest' →
      callbacks = c.sub.pingCallbacks)
    (h : Runs c a t rest seg) :
    Segment.PingBalanced c.sub seg := by
  cases h with
  | call => exact runOp_pingBalanced _ _ _
  | @advance _ f _ _ _ hStack hRun =>
      cases f <;> cases hRun
      case finishPingMove.refl callbacks =>
        simp [Segment.PingBalanced, finishPingMove, hSnap callbacks _ hStack]
      case connectTransport.refl =>
        unfold connectTransport
        split <;> simp [Segment.PingBalanced, Segment.done, Event.pingPushed, Event.pingConsumed]
      case disconnectionHandler.refl => exact disconnectionHandlerStep_pingBalanced _ _ _
      case failureDelivery.refl =>
        unfold failPingCallback
        split <;> simp [Segment.PingBalanced, Segment.done, Event.pingPushed, Event.pingConsumed]
      all_goals simp [Segment.PingBalanced, Segment.done]
  | receive => exact connectionReceiveHandler_pingBalanced _ _
  | handle =>
      unfold connectionDisconnectionHandler
      split <;> simp [Segment.PingBalanced, Segment.done]

/- The code a step runs moves no ping, and fails one only on its own thread. -/
theorem Runs.pingMoved_pingFailed
    (h : Runs c a t rest seg)
    (t' : ThreadId) :
    seg.events.flatMap (Event.pingMoved t') = [] ∧
      (t' ≠ t → seg.events.flatMap (Event.pingFailed t') = []) := by
  rcases h.events_isCode with hCode | ⟨callback, callbacks, _, _, _, hSeg⟩
  · exact ⟨List.flatMap_eq_nil_iff.mpr fun e he => (Event.isCode_ping (hCode e he) t').1,
      fun _ => List.flatMap_eq_nil_iff.mpr fun e he => (Event.isCode_ping (hCode e he) t').2⟩
  · rw [hSeg]
    refine ⟨by simp [failPingCallback, Event.pingMoved], fun hOther => ?_⟩
    simp [failPingCallback, Event.pingFailed, Ne.symm hOther]

/- The code runs on the receive thread or on a thread with a frame. -/
theorem Runs.stack_ne_nil (h : Runs c a (.other n) rest seg) : c.stack (.other n) ≠ [] := by
  cases h with
  | call hStack => simp [hStack]
  | advance hStack => simp [hStack]

/-
  On a caller or detached thread, the callbacks the code fails
  come off the front of those the thread has yet to fail.
-/
theorem Runs.pendingFailures
    (hShaped : c.StacksShaped)
    (h : Runs c a (.other n) rest seg) :
    seg.events.flatMap (Event.pingFailed (.other n)) ++
        pendingFailures (Config.resumeStack rest seg) =
      pendingFailures (c.stack (.other n)) := by
  cases h with
  | @call _ f rest op o hStack _ _ =>
      rw [List.flatMap_eq_nil_iff.mpr fun e he =>
          (Event.isCode_ping (runOp_events _ _ _ e he).1 _).2,
        List.nil_append, pendingFailures_resumeStack, pendingFailures_append (runOp_cont _ _ _),
        hStack]
  | @advance _ f rest o seg hStack hRun =>
      cases f with
      | main | callback => cases hRun
      | connectTransport =>
          cases hRun
          rw [hStack, pendingFailures_cons (f := .connectTransport ..) rfl,
            pendingFailures_resumeStack, connectTransport_cont]
          unfold connectTransport
          split <;> simp [Segment.done, Event.pingFailed]
      | finishPingMove =>
          cases hRun
          rw [hStack, pendingFailures_cons (f := .finishPingMove _) rfl, pendingFailures_resumeStack]
          simp [finishPingMove]
      | failureDelivery callbacks =>
          obtain ⟨rfl, -⟩ := base_of_stacksShaped hShaped hStack rfl
          cases hRun
          rw [hStack]
          rw [pendingFailures_resumeStack]
          cases callbacks <;> simp [failPingCallback, Segment.done, pendingFailures, Event.pingFailed]
      | disarmAuth | disarmClientSetname | unlock | disconnectionHandler =>
          obtain ⟨-, hBase⟩ := base_of_stacksShaped hShaped hStack rfl
          cases hBase

end Runs

/- What `Config.resume` records of the queue: the move of what the segment detached. -/
theorem resumeEvents_ping (c : Config) (t : ThreadId) (rest : List Frame) (seg : Segment) :
    (c.resumeEvents t rest seg).flatMap Event.pingPushed = [] ∧
      (c.resumeEvents t rest seg).flatMap Event.pingConsumed = seg.detached ∧
      (∀ t', (c.resumeEvents t rest seg).flatMap (Event.pingMoved t') =
        if .other c.threadCount = t' then seg.detached else []) ∧
      ∀ t', (c.resumeEvents t rest seg).flatMap (Event.pingFailed t') = [] := by
  unfold Config.resumeEvents
  cases hEmpty : seg.detached.isEmpty
  · cases seg.invoked <;> simp [Event.pingPushed, Event.pingConsumed, Event.pingMoved,
      Event.pingFailed]
  · rw [List.isEmpty_iff.mp hEmpty]
    cases seg.invoked <;> simp [Event.pingPushed, Event.pingConsumed, Event.pingMoved,
      Event.pingFailed]

------------------------------------------------------------
-- The Ledger
------------------------------------------------------------

/-
  The ping bookkeeping of a configuration and its trace: the
  queue, each detached thread's batch, and the threads not yet
  started.
-/
structure PingLedger (c : Config) (events : List Event) : Prop where
  queue : events.flatMap Event.pingPushed = events.flatMap Event.pingConsumed ++ c.sub.pingCallbacks
  batches : ∀ n, events.flatMap (Event.pingMoved (.other n)) =
    events.flatMap (Event.pingFailed (.other n)) ++ pendingFailures (c.stack (.other n))
  fresh : ∀ n, c.threadCount ≤ n →
    c.stack (.other n) = [] ∧ events.flatMap (Event.pingMoved (.other n)) = []

theorem PingLedger.init : PingLedger Config.init [] where
  queue := rfl
  batches n := by
    show [] = [] ++ pendingFailures (if n = 0 then [Frame.main] else [])
    split <;> rfl
  fresh n hn := ⟨by
    show (if n = 0 then [Frame.main] else []) = []
    rw [if_neg (by simp [Config.init] at hn; omega)], rfl⟩

/- Nothing has failed on a thread not yet started. -/
theorem PingLedger.failed_fresh
    {c : Config} {events : List Event}
    (h : PingLedger c events)
    {n : Nat}
    (hn : c.threadCount ≤ n) :
    events.flatMap (Event.pingFailed (.other n)) = [] := by
  have hBatch := h.batches n
  rw [(h.fresh n hn).1, (h.fresh n hn).2] at hBatch
  exact (List.append_eq_nil.mp hBatch.symm).1

/-
  The move a frame on top of a stack ends takes the queue as it
  is: the queue `disconnect` read has not changed since.
-/
def MovesTakeQueue (c : Config) : Prop :=
  ∀ t callbacks rest, c.stack t = .finishPingMove callbacks :: rest → callbacks = c.sub.pingCallbacks

/- The code one thread runs keeps the ledger. -/
theorem PingLedger.runs
    {c : Config} {a : Action} {t : ThreadId} {rest : List Frame} {seg : Segment}
    {events : List Event} {p : Nat}
    (hShaped : c.StacksShaped)
    (hSnap : MovesTakeQueue c)
    (h : PingLedger c events)
    (hRuns : Runs c a t rest seg) :
    PingLedger ({ c with pendingDrops := p }.resume t rest seg).1
      (events ++ ({ c with pendingDrops := p }.resume t rest seg).2) := by
  obtain ⟨hPushed, hConsumed, hMoved, hFailed⟩ :=
    resumeEvents_ping { c with pendingDrops := p } t rest seg
  dsimp only at hMoved
  -- the move a step records goes to a thread not yet started, or is empty
  have hMovedNew : ∀ n, (seg.detached.isEmpty = false → n ≠ c.threadCount) →
      (if ThreadId.other c.threadCount = .other n then seg.detached else []) = [] := by
    intro n hn
    split_ifs with hEq
    · cases hEq
      cases hEmpty : seg.detached.isEmpty
      · exact absurd rfl (hn hEmpty)
      · exact List.isEmpty_iff.mp hEmpty
    · rfl
  refine ⟨?_, fun n => ?_, fun n hn => ?_⟩
  · -- the queue
    have hBal := hRuns.pingBalanced (hSnap t)
    unfold Segment.PingBalanced at hBal
    rw [Config.resume_events, Config.resume_sub]
    simp only [List.flatMap_append, hPushed, hConsumed, h.queue, List.append_nil,
      List.append_assoc] at hBal ⊢
    rw [hBal]
  · -- the batches
    obtain ⟨hSegMoved, hSegFailed⟩ := hRuns.pingMoved_pingFailed (.other n)
    rw [Config.resume_events, Config.resume_stack]
    simp only [List.flatMap_append, hMoved, hFailed, hSegMoved, List.append_nil, List.nil_append]
    by_cases hNew : seg.detached.isEmpty = false ∧ ThreadId.other n = .other c.threadCount
    · -- the detached thread this step starts
      obtain ⟨hNonEmpty, hn⟩ := hNew
      cases hn
      have hFresh := h.fresh c.threadCount le_rfl
      have hOther : ThreadId.other c.threadCount ≠ t := by
        rintro rfl
        exact hRuns.stack_ne_nil hFresh.1
      rw [hFresh.2, h.failed_fresh le_rfl, hSegFailed hOther]
      simp [hNonEmpty, pendingFailures]
    rw [if_neg hNew, hMovedNew n fun hEmpty hn => hNew ⟨hEmpty, by rw [hn]⟩, List.append_nil,
      h.batches n]
    by_cases hThis : ThreadId.other n = t
    · -- the running thread
      subst hThis
      rw [if_pos rfl, List.append_assoc, hRuns.pendingFailures hShaped]
    · -- every other thread
      rw [if_neg hThis, hSegFailed hThis, List.append_nil]
      rfl
  · -- threads not yet started
    rw [Config.resume_threadCount] at hn
    dsimp only at hn
    have hn' : c.threadCount ≤ n := by split_ifs at hn <;> omega
    have hNotNew : seg.detached.isEmpty = false → n ≠ c.threadCount := by
      intro hEmpty
      rw [hEmpty] at hn
      simp at hn
      omega
    obtain ⟨hEmpty, hNoMoves⟩ := h.fresh n hn'
    have hOther : ThreadId.other n ≠ t := by
      rintro rfl
      exact hRuns.stack_ne_nil hEmpty
    refine ⟨?_, ?_⟩
    · rw [Config.resume_stack, if_neg fun hNew => hNotNew hNew.1 (by cases hNew.2; rfl),
        if_neg hOther]
      exact hEmpty
    · rw [Config.resume_events]
      simp only [List.flatMap_append, hMoved, hNoMoves, (hRuns.pingMoved_pingFailed _).1,
        hMovedNew n hNotNew, List.append_nil]

/- Every step keeps the ledger, if a move it ends takes the queue it read. -/
theorem PingLedger.step
    {c c' : Config} {a : Action} {events new : List Event}
    (hShaped : c.StacksShaped)
    (hSnap : MovesTakeQueue c)
    (h : PingLedger c events)
    (hStep : step c a = some (c', new)) :
    PingLedger c' (events ++ new) := by
  rcases step_cases hStep with
    ⟨t, rest, seg, hRuns, p, hResume⟩ | ⟨t, rest, -, hStack, rfl, rfl⟩ | ⟨-, rfl, rfl⟩ |
      ⟨-, -, rfl, rfl⟩ | ⟨-, -, rfl, rfl⟩
  · -- the code of one thread runs
    obtain rfl : c' = _ := congrArg Prod.fst hResume
    obtain rfl : new = _ := congrArg Prod.snd hResume
    exact h.runs hShaped hSnap hRuns
  · -- a callback returns
    rw [List.append_nil]
    refine ⟨by rw [Config.sub_setStack]; exact h.queue, fun n => ?_, fun n hn => ?_⟩
    · rw [h.batches n, Config.stack_setStack]
      split_ifs with hThis
      · subst hThis
        rw [hStack, pendingFailures_cons (f := .callback) rfl]
      · rfl
    · rw [Config.threadCount_setStack] at hn
      have hOther : ThreadId.other n ≠ t := by
        rintro rfl
        simp [(h.fresh n hn).1] at hStack
      rw [Config.stack_setStack, if_neg hOther]
      exact h.fresh n hn
  · -- a caller thread starts
    rw [List.append_nil]
    refine ⟨h.queue, fun n => ?_, fun n hn => ?_⟩
    · rw [h.batches n, Config.stack_start]
      split_ifs with hNew
      · cases hNew
        rw [(h.fresh _ le_rfl).1]
        rfl
      · rfl
    · have hn' : c.threadCount + 1 ≤ n := hn
      rw [Config.stack_start, if_neg (by simp only [ThreadId.other.injEq]; omega)]
      exact h.fresh n (by omega)
  · -- the transport drops
    refine ⟨?_, fun n => ?_, fun n hn => ?_⟩
    · simpa [Event.pingPushed, Event.pingConsumed] using h.queue
    · simpa [Event.pingMoved, Event.pingFailed] using h.batches n
    · simpa [Event.pingMoved] using h.fresh n hn
  · -- a drop the handler ignores
    rw [List.append_nil]
    exact ⟨h.queue, h.batches, h.fresh⟩

------------------------------------------------------------
-- Consuming an Entry
------------------------------------------------------------

section Consume

variable {c : Config} {a : Action} {t : ThreadId} {rest : List Frame} {seg : Segment}

/- Only a received pong pops the queue, and its segment does nothing else. -/
theorem Runs.pingPop_mem
    {callback : Option Callback}
    (h : Runs c a t rest seg)
    (hPop : Event.pingPop callback ∈ seg.events) :
    ∃ r queue, a = .receive r ∧ t = .io ∧ rest = [] ∧ c.sub.pingCallbacks = callback :: queue ∧
      seg = { sub := { c.sub with pingCallbacks := queue }
              cont := []
              events := [.pingPop callback]
              invoked := callback.map fun f => (f, .reply r) } := by
  cases h with
  | call => exact absurd (runOp_events _ _ _ _ hPop).2.1 (by simp [Event.isPingPop])
  | @advance _ f _ _ _ _ hRun =>
      cases f <;> cases hRun
      case connectTransport.refl =>
        unfold connectTransport at hPop
        split at hPop <;> simp [Segment.done] at hPop
      case disconnectionHandler.refl =>
        exact absurd (disconnectionHandlerStep_events _ _ _ _ hPop).2.1 (by simp [Event.isPingPop])
      case failureDelivery.refl =>
        unfold failPingCallback at hPop
        split at hPop <;> simp [Segment.done] at hPop
      all_goals simp [Segment.done, finishPingMove] at hPop
  | @receive r _ =>
      rcases connectionReceiveHandler_cases c.sub r with hSeg | ⟨_, _, _, _, hSeg⟩ |
        ⟨_, _, _, hSeg⟩ | ⟨_, _, _, _, hSeg⟩ | ⟨callback', queue, hQueue, hSeg⟩ <;>
        rw [hSeg] at hPop ⊢ <;> simp only [Segment.done, List.not_mem_nil, List.mem_singleton,
          Event.pingPop.injEq] at hPop
      subst hPop
      exact ⟨r, queue, rfl, rfl, rfl, hQueue, rfl⟩
  | handle =>
      unfold connectionDisconnectionHandler at hPop
      split at hPop <;> simp [Segment.done] at hPop

end Consume

/-
  What a step that consumes a ping entry records: the entry,
  then the one invocation of its callback, if set, with the pong
  that popped it or with the network-failure reply, on the
  consuming thread and with no mutex held.
-/
def PingConsumptionsPaired (a : Action) (new : List Event) : Prop :=
  (∀ callback, Event.pingPop callback ∈ new → ∃ r, a = .receive r ∧
    new = .pingPop callback :: (callback.map fun f => Event.invoke .io f (.reply r) []).toList) ∧
  ∀ t callback, Event.pingFail t callback ∈ new → ∃ o, a = .advance t o ∧
    new = .pingFail t callback ::
      (callback.map fun f => Event.invoke t f (.reply .networkFailure) []).toList

theorem resumeEvents_not_consume
    (c : Config) (t : ThreadId) (rest : List Frame) (seg : Segment)
    (callback : Option Callback) (t' : ThreadId) :
    Event.pingPop callback ∉ c.resumeEvents t rest seg ∧
      Event.pingFail t' callback ∉ c.resumeEvents t rest seg := by
  unfold Config.resumeEvents
  cases seg.invoked <;> split <;> simp

/- Every step pairs its consumptions of the queue with their invocations. -/
theorem pingConsumptionsPaired_step
    {c c' : Config} {a : Action} {new : List Event}
    (hShaped : c.StacksShaped)
    (hStep : step c a = some (c', new)) :
    PingConsumptionsPaired a new := by
  rcases step_cases hStep with
    ⟨t, rest, seg, hRuns, p, hResume⟩ | ⟨_, _, -, -, -, rfl⟩ | ⟨-, -, rfl⟩ | ⟨-, -, -, rfl⟩ |
      ⟨-, -, -, rfl⟩
  · obtain rfl : new = _ := congrArg Prod.snd hResume
    rw [Config.resume_events]
    refine ⟨fun callback hMem => ?_, fun t' callback hMem => ?_⟩
    · rcases List.mem_append.mp hMem with hSegMem | hResumeMem
      · obtain ⟨r, queue, rfl, rfl, rfl, -, rfl⟩ := hRuns.pingPop_mem hSegMem
        exact ⟨r, rfl, by cases callback <;> rfl⟩
      · exact absurd hResumeMem (resumeEvents_not_consume _ _ _ _ _ t).1
    · rcases List.mem_append.mp hMem with hSegMem | hResumeMem
      · rcases hRuns.events_isCode with hCode | ⟨callback', callbacks, o, rfl, hStack, rfl⟩
        · simpa [Event.isCode] using hCode _ hSegMem
        · obtain ⟨rfl, hBase⟩ := base_of_stacksShaped hShaped hStack rfl
          obtain ⟨rfl, rfl⟩ : t' = t ∧ callback = callback' := by
            simpa [failPingCallback] using hSegMem
          exact ⟨o, rfl, by cases callback <;> rfl⟩
      · exact absurd hResumeMem (resumeEvents_not_consume _ _ _ _ _ _).2
  all_goals exact ⟨by simp, by simp⟩

end RedisSubscriber
