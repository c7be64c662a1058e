import RedisSubscriber.Properties.PingQueue
import RedisSubscriber.Properties.Progress
import RedisSubscriber.SubscriberSteps

/-
  The unlocked move of the ping queue in `disconnect`. Over the
  runs in which no other step uses the queue during a move
  (`pingMoveExclusive`) the ledger holds and each moved batch is
  delivered; a pong inside the move runs its callback twice.
-/

------------------------------------------------------------
-- Where a Move Ends
------------------------------------------------------------

namespace RedisSubscriber

/- Whether a frame ends an unlocked move of the ping queue. -/
def Frame.isFinishPingMove : Frame → Bool
  | .finishPingMove _ => true
  | _ => false

/- Whether no frame of a list ends a move. -/
def noMove (frames : List Frame) : Bool :=
  frames.all fun f => !f.isFinishPingMove

@[simp] theorem noMove_cons (f : Frame) (frames : List Frame) :
    noMove (f :: frames) = (!f.isFinishPingMove && noMove frames) := rfl

@[simp] theorem noMove_append (xs ys : List Frame) :
    noMove (xs ++ ys) = (noMove xs && noMove ys) :=
  List.all_append

theorem noMove_resumeStack (seg : Segment) :
    noMove (Config.resumeStack [] seg) = noMove seg.cont := by
  unfold Config.resumeStack
  split <;> simp [Frame.isFinishPingMove]

theorem Config.resumeStack_append (rest : List Frame) (seg : Segment) :
    Config.resumeStack rest seg = Config.resumeStack [] seg ++ rest := by
  unfold Config.resumeStack
  split <;> simp

theorem runOp_noMove (s : Subscriber) (o : Outcome) {op : Op} (hOp : ∀ w, op ≠ .disconnect w) :
    noMove (runOp s o op).cont = true := by
  cases op
  case disconnect w => exact absurd rfl (hOp w)
  case subscribe t _ _ _ => cases t <;> rfl
  case unsubscribe t _ =>
    cases t <;> simp only [runOp, unsubscribe, punsubscribe, unsubscribeFrom] <;> split <;> rfl
  case connectSentinel =>
    simp only [runOp, connectSentinel]
    split <;> rfl
  all_goals rfl

theorem disconnectionHandlerStep_noMove (s : Subscriber) (o : Outcome) (pc : HandlerPc) :
    noMove (disconnectionHandlerStep s o pc).cont = true := by
  cases pc <;> simp only [disconnectionHandlerStep]
  case loopHead =>
    unfold reconnectLoop sleepBeforeNextReconnectAttempt
    split <;> [rfl; split <;> rfl]
  case attempt =>
    unfold reconnect reconnectConnect
    dsimp only
    repeat' split
    all_goals rfl
  case afterConnect =>
    unfold reconnectCheck
    split <;> rfl
  case replay =>
    unfold reconnectReplay
    dsimp only
    split <;> rfl
  all_goals rfl

/- A frame that ends a move only ever sits on top of a stack. -/
def Config.MovesOnTop (c : Config) : Prop :=
  ∀ t f rest, c.stack t = f :: rest → noMove rest = true

section Runs

variable {c : Config} {a : Action} {t : ThreadId} {rest : List Frame} {seg : Segment}

/- Of the code a step runs, only `disconnect` leaves a frame that ends a move. -/
theorem Runs.noMove_or_disconnect (h : Runs c a t rest seg) :
    noMove (Config.resumeStack [] seg) = true ∨
      ∃ w o, a = .call t (.disconnect w) o ∧
        Config.resumeStack [] seg = [.finishPingMove c.sub.pingCallbacks] := by
  cases h with
  | @call t f rest op o _ _ _ =>
      by_cases hOp : ∃ w, op = .disconnect w
      · obtain ⟨w, rfl⟩ := hOp
        simp only [Config.resumeStack, runOp, disconnect, clearPingCallbacks, List.append_nil]
        split
        · exact .inl rfl
        · exact .inr ⟨w, o, rfl, rfl⟩
      · exact .inl ((noMove_resumeStack _).trans (runOp_noMove _ _ fun w hw => hOp ⟨w, hw⟩))
  | @advance _ f _ _ _ _ hRun =>
      refine .inl ((noMove_resumeStack _).trans ?_)
      cases f <;> cases hRun
      case connectTransport.refl => rw [connectTransport_cont]; rfl
      case disconnectionHandler.refl => exact disconnectionHandlerStep_noMove _ _ _
      case failureDelivery.refl =>
        unfold failPingCallback
        split <;> rfl
      all_goals rfl
  | @receive r _ =>
      refine .inl ((noMove_resumeStack _).trans ?_)
      rcases connectionReceiveHandler_cases c.sub r with h | ⟨_, _, _, -, h⟩ | ⟨-, _, -, h⟩ |
        ⟨-, -, _, -, h⟩ | ⟨_, _, -, h⟩ <;> rw [h] <;> rfl
  | handle =>
      refine .inl ((noMove_resumeStack _).trans ?_)
      unfold connectionDisconnectionHandler
      split <;> rfl

theorem Runs.rest_noMove (hTop : c.MovesOnTop) (h : Runs c a t rest seg) :
    noMove rest = true := by
  cases h with
  | @call _ f _ _ _ hStack hUser _ =>
      rw [noMove_cons, hTop _ _ _ hStack]
      cases f <;> simp_all [Frame.isUserCode, Frame.isFinishPingMove]
  | advance hStack => exact hTop _ _ _ hStack
  | receive | handle => rfl

end Runs

/- Every step keeps the frames that end moves on top. -/
theorem Config.MovesOnTop.step
    {c c' : Config} {a : Action} {new : List Event}
    (hTop : c.MovesOnTop)
    (hStep : step c a = some (c', new)) :
    c'.MovesOnTop := by
  rcases step_cases hStep with ⟨t, rest, seg, hRuns, p, hResume⟩ | ⟨t, rest, -, hStack, rfl, -⟩ |
    ⟨-, rfl, -⟩ | ⟨-, -, rfl, -⟩ | ⟨-, -, rfl, -⟩
  · obtain rfl : c' = _ := congrArg Prod.fst hResume
    intro t' f rest' h
    rw [Config.resume_stack] at h
    split_ifs at h with hNew hThis
    · cases h
      rfl
    · subst hThis
      rw [Config.resumeStack_append] at h
      have hRest := hRuns.rest_noMove hTop
      rcases hRuns.noMove_or_disconnect with hNo | ⟨-, -, -, hEq⟩
      · have hAll : noMove (f :: rest') = true := by rw [← h, noMove_append, hNo, hRest]; rfl
        simp only [noMove_cons, Bool.and_eq_true] at hAll
        exact hAll.2
      · rw [hEq] at h
        cases h
        exact hRest
    · exact hTop t' f rest' h
  · intro t' f rest' h
    rw [Config.stack_setStack] at h
    split_ifs at h with hThis
    · subst hThis
      have hAll := hTop _ _ _ hStack
      rw [h, noMove_cons, Bool.and_eq_true] at hAll
      exact hAll.2
    · exact hTop t' f rest' h
  · intro t' f rest' h
    rw [Config.stack_start] at h
    split_ifs at h
    · cases h
      rfl
    · exact hTop t' f rest' h
  all_goals exact fun t' f rest' h => hTop t' f rest' h

theorem Run.movesOnTop
    {allow : Config → Action → Prop} {c : Config} {events : List Event}
    (h : Run allow c events) :
    c.MovesOnTop := by
  induction h with
  | init =>
      intro t f rest h
      cases t with
      | io => cases h
      | other n =>
          revert h
          show (if n = 0 then [Frame.main] else []) = f :: rest → _
          split <;> intro h <;> cases h
          rfl
  | step _ _ hStep ih => exact ih.step hStep

------------------------------------------------------------
-- Steps That Use the Queue
------------------------------------------------------------

/- Whether a step runs code that writes `m_ping_callbacks`. -/
def writesPingQueue (c : Config) : Action → Bool
  | .call _ (.ping _ _) _ => true
  | .receive r => (connectionReceiveHandler c.sub r).events.any Event.isPingPop
  | .advance t _ =>
      match c.stack t with
      | .disconnectionHandler .lockAll :: _ => true
      | .finishPingMove _ :: _ => true
      | _ => false
  | _ => false

/- Whether a step reads or writes the queue: a write, or the read that starts a move. -/
def usesPingQueue (c : Config) (a : Action) : Bool :=
  writesPingQueue c a || match a with
    | .call _ (.disconnect _) _ => true
    | _ => false

/- The threads inside an unlocked move. -/
def Config.pingMovers (c : Config) : List ThreadId :=
  (.io :: (List.range c.threadCount).map .other).filter fun t =>
    (c.stack t).head?.any Frame.isFinishPingMove

/- Whether an action advances the given thread. -/
def Action.advances (t : ThreadId) : Action → Bool
  | .advance t' _ => t' == t
  | _ => false

/- What `m_ping_callbacks_mutex` around the move would give. -/
def pingMoveExclusive (c : Config) (a : Action) : Bool :=
  !usesPingQueue c a || c.pingMovers.all fun t => a.advances t

section Exclusive

variable {c c' : Config} {a : Action} {t : ThreadId} {rest : List Frame} {new : List Event}

theorem mem_pingMovers
    (hFresh : ∀ n, c.threadCount ≤ n → c.stack (.other n) = [])
    {callbacks : List (Option Callback)}
    (h : c.stack t = .finishPingMove callbacks :: rest) :
    t ∈ c.pingMovers := by
  refine List.mem_filter.mpr ⟨?_, by rw [h]; rfl⟩
  cases t with
  | io => exact List.mem_cons_self _ _
  | other n =>
      refine List.mem_cons_of_mem _ (List.mem_map.mpr ⟨n, List.mem_range.mpr ?_, rfl⟩)
      by_contra hn
      rw [hFresh n (by omega)] at h
      cases h

theorem eq_advance_of_pingMoveExclusive
    (hAllow : pingMoveExclusive c a = true)
    (hMover : t ∈ c.pingMovers)
    (hUses : usesPingQueue c a = true) :
    ∃ o, a = .advance t o := by
  simp only [pingMoveExclusive, hUses, Bool.not_true, Bool.false_or, List.all_eq_true] at hAllow
  have h := hAllow t hMover
  cases a with
  | advance t' o =>
      obtain rfl : t' = t := by simpa [Action.advances] using h
      exact ⟨o, rfl⟩
  | _ => cases h

/- A step that writes no entry of the queue leaves it as it was. -/
theorem step_pingCallbacks
    (hShaped : c.StacksShaped)
    (hStep : step c a = some (c', new))
    (hWrite : writesPingQueue c a = false) :
    c'.sub.pingCallbacks = c.sub.pingCallbacks := by
  have hSub := step_sub hShaped hStep
  generalize c'.sub = s' at hSub
  cases hSub with
  | @call t₀ f rest op o hStack hUser hLock =>
      cases op
      case ping => cases hWrite
      case subscribe t _ _ _ => cases t <;> rfl
      case unsubscribe t _ =>
        cases t <;> simp only [runOp, unsubscribe, punsubscribe, unsubscribeFrom] <;> split <;> rfl
      case connectSentinel =>
        simp only [runOp, connectSentinel]
        split <;> rfl
      all_goals rfl
  | transport =>
      unfold connectTransport
      split <;> rfl
  | finishPingMove hStack => simp [writesPingQueue, hStack] at hWrite
  | @handler pc o hIo =>
      refine disconnectionHandlerStep_pingCallbacks c.sub o fun hPc => ?_
      subst hPc
      simp [writesPingQueue, hIo] at hWrite
  | @receive r _ =>
      have hNoPop : (connectionReceiveHandler c.sub r).events.any Event.isPingPop = false := hWrite
      -- only a pong's pop writes the queue, and it records the pop
      rcases connectionReceiveHandler_cases c.sub r with h | ⟨_, _, _, -, h⟩ | ⟨-, _, -, h⟩ |
        ⟨-, -, _, -, h⟩ | ⟨_, _, -, h⟩ <;> rw [h] at hNoPop ⊢ <;> first | rfl | cases hNoPop
  | handle =>
      unfold connectionDisconnectionHandler
      split <;> rfl
  | _ => rfl

/- A frame that ends a move after a step was there before, or the step was a `disconnect`. -/
theorem step_finishPingMove
    (hTop : c.MovesOnTop)
    (hStep : step c a = some (c', new))
    {callbacks : List (Option Callback)}
    (h : c'.stack t = .finishPingMove callbacks :: rest) :
    (c.stack t = .finishPingMove callbacks :: rest ∧ a.advances t = false) ∨
      ∃ w o, a = .call t (.disconnect w) o ∧ callbacks = c.sub.pingCallbacks := by
  rcases step_cases hStep with ⟨t₀, rest₀, seg, hRuns, p, hResume⟩ |
    ⟨t₀, rest₀, rfl, hStack, rfl, -⟩ | ⟨rfl, rfl, -⟩ | ⟨rfl, -, rfl, -⟩ | ⟨rfl, -, rfl, -⟩
  · obtain rfl : c' = _ := congrArg Prod.fst hResume
    rw [Config.resume_stack] at h
    split_ifs at h with hNew hThis
    · cases h
    · subst hThis
      rw [Config.resumeStack_append] at h
      rcases hRuns.noMove_or_disconnect with hNo | ⟨w, o, rfl, hEq⟩
      · have hAll : noMove (.finishPingMove callbacks :: rest) = true := by
          rw [← h, noMove_append, hNo, hRuns.rest_noMove hTop]; rfl
        cases hAll
      · rw [hEq] at h
        cases h
        exact .inr ⟨w, o, rfl, rfl⟩
    · refine .inl ⟨h, ?_⟩
      cases hRuns <;> simp [Action.advances, Ne.symm hThis]
  · rw [Config.stack_setStack] at h
    split_ifs at h with hThis
    · subst hThis
      have hAll := hTop _ _ _ hStack
      rw [h] at hAll
      cases hAll
    · exact .inl ⟨h, rfl⟩
  · rw [Config.stack_start] at h
    split_ifs at h
    · cases h
    · exact .inl ⟨h, rfl⟩
  all_goals exact .inl ⟨h, rfl⟩

end Exclusive

------------------------------------------------------------
-- Moves in Progress
------------------------------------------------------------

/-
  What the exclusion keeps of moves in progress: each takes
  the queue as it is, and at most one thread is inside one.
-/
structure PingMoves (c : Config) : Prop where
  take : MovesTakeQueue c
  unique : ∀ t t' callbacks callbacks' rest rest',
    c.stack t = .finishPingMove callbacks :: rest →
    c.stack t' = .finishPingMove callbacks' :: rest' → t = t'

theorem PingMoves.init : PingMoves Config.init := by
  have hNone : ∀ t callbacks rest, Config.init.stack t ≠ .finishPingMove callbacks :: rest := by
    intro t callbacks rest h
    cases t with
    | io => cases h
    | other n =>
        revert h
        show (if n = 0 then [Frame.main] else []) ≠ _
        split <;> nofun
  exact ⟨fun t _ _ h => absurd h (hNone t _ _), fun t _ _ _ _ _ h => absurd h (hNone t _ _)⟩

/- Every step the exclusion admits keeps the moves in progress as they were. -/
theorem PingMoves.step
    {c c' : Config} {a : Action} {new : List Event}
    (hShaped : c.StacksShaped)
    (hTop : c.MovesOnTop)
    (hFresh : ∀ n, c.threadCount ≤ n → c.stack (.other n) = [])
    (h : PingMoves c)
    (hAllow : pingMoveExclusive c a = true)
    (hStep : step c a = some (c', new)) :
    PingMoves c' := by
  -- while another thread is inside a move, the step does not use the queue
  have hOther : ∀ t callbacks rest, c.stack t = .finishPingMove callbacks :: rest →
      a.advances t = false → usesPingQueue c a = false := by
    intro t callbacks rest hStack hNot
    cases hUses : usesPingQueue c a
    · rfl
    · obtain ⟨o, rfl⟩ := eq_advance_of_pingMoveExclusive hAllow (mem_pingMovers hFresh hStack) hUses
      simp [Action.advances] at hNot
  refine ⟨fun t callbacks rest hStack => ?_, fun t t' callbacks callbacks' rest rest' h₁ h₂ => ?_⟩
  · rcases step_finishPingMove hTop hStep hStack with ⟨hBefore, hNot⟩ | ⟨w, o, rfl, rfl⟩
    · have hUnused := hOther t callbacks rest hBefore hNot
      simp only [usesPingQueue, Bool.or_eq_false_iff] at hUnused
      rw [step_pingCallbacks hShaped hStep hUnused.1]
      exact h.take t callbacks rest hBefore
    · exact (step_pingCallbacks hShaped hStep rfl).symm
  · rcases step_finishPingMove hTop hStep h₁ with ⟨hBefore₁, hNot₁⟩ | ⟨w, o, rfl, -⟩ <;>
      rcases step_finishPingMove hTop hStep h₂ with ⟨hBefore₂, hNot₂⟩ | ⟨w', o', hCall, -⟩
    · exact h.unique _ _ _ _ _ _ hBefore₁ hBefore₂
    · subst hCall
      exact absurd (hOther _ _ _ hBefore₁ hNot₁) (by simp [usesPingQueue])
    · exact absurd (hOther _ _ _ hBefore₂ hNot₂) (by simp [usesPingQueue])
    · cases hCall
      rfl

/- Over the runs the exclusion admits, the ledger holds and every move takes the queue. -/
theorem Run.pingLedger
    {c : Config} {events : List Event}
    (h : Run (fun c a => pingMoveExclusive c a = true) c events) :
    PingLedger c events ∧ PingMoves c := by
  induction h with
  | init => exact ⟨PingLedger.init, PingMoves.init⟩
  | step hRun hAllow hStep ih =>
      exact ⟨ih.1.step hRun.stacksShaped ih.2.take hStep,
        ih.2.step hRun.stacksShaped hRun.movesOnTop (fun n hn => (ih.1.fresh n hn).1) hAllow
          hStep⟩

------------------------------------------------------------
-- Delivery of a Moved Batch
------------------------------------------------------------

theorem Runs.pingMove_not_mem
    {c : Config} {a : Action} {t t' : ThreadId} {rest : List Frame} {seg : Segment}
    {callbacks : List (Option Callback)}
    (h : Runs c a t rest seg) :
    Event.pingMove t' callbacks ∉ seg.events := by
  intro hMem
  rcases h.events_isCode with hCode | ⟨callback, callbacks, -, -, -, rfl⟩
  · simpa [Event.isCode] using hCode _ hMem
  · simp [failPingCallback] at hMem

/- The move `Config.resume` records: of what the segment detached, to the next thread. -/
theorem pingMove_mem_resumeEvents
    {c : Config} {t t' : ThreadId} {rest : List Frame} {seg : Segment}
    {callbacks : List (Option Callback)}
    (h : Event.pingMove t' callbacks ∈ c.resumeEvents t rest seg) :
    seg.detached.isEmpty = false ∧ t' = .other c.threadCount ∧ callbacks = seg.detached := by
  unfold Config.resumeEvents at h
  cases hInvoked : seg.invoked with
  | none => split at h <;> simp_all
  | some call => split at h <;> simp_all

/- A step that moves a batch to a thread starts that thread with the batch. -/
theorem step_pingMove
    {c c' : Config} {a : Action} {new : List Event} {t : ThreadId}
    {callbacks : List (Option Callback)}
    (hStep : step c a = some (c', new))
    (hMove : Event.pingMove t callbacks ∈ new) :
    c'.stack t = [.failureDelivery callbacks] := by
  rcases step_cases hStep with ⟨t₀, rest, seg, hRuns, p, hResume⟩ | ⟨_, _, -, -, -, rfl⟩ |
    ⟨-, -, rfl⟩ | ⟨-, -, -, rfl⟩ | ⟨-, -, -, rfl⟩
  · obtain rfl : c' = _ := congrArg Prod.fst hResume
    obtain rfl : new = _ := congrArg Prod.snd hResume
    rw [Config.resume_events, List.mem_append] at hMove
    refine hMove.elim (fun hSeg => absurd hSeg hRuns.pingMove_not_mem) fun hResumed => ?_
    obtain ⟨hEmpty, rfl, rfl⟩ := pingMove_mem_resumeEvents hResumed
    rw [Config.resume_stack, if_pos ⟨hEmpty, rfl⟩]
  all_goals simp at hMove

------------------------------------------------------------
-- The Queue over Whole Runs
------------------------------------------------------------

/-
  Over the runs the exclusion admits, the ledger holds, each
  consumption invokes its entry's callback once, and every
  moved batch is failed by its thread's own steps, front first.
-/
theorem ping_queue
    {c : Config}
    {events : List Event}
    (hRun : Run (fun c a => pingMoveExclusive c a = true) c events) :
    PingLedger c events ∧
      ∀ a c' new, step c a = some (c', new) → PingConsumptionsPaired a new ∧
        ∀ n callbacks, Event.pingMove (.other n) callbacks ∈ new → ∀ o,
          ∃ c'' new', ThreadRun o (.other n) c' c'' new' ∧ c''.stack (.other n) = [] ∧
            new' = callbacks.flatMap (failureEvents (.other n)) := by
  refine ⟨(Run.pingLedger hRun).1, fun a c' new hStep =>
    ⟨pingConsumptionsPaired_step hRun.stacksShaped hStep, fun n callbacks hMove o => ?_⟩⟩
  obtain ⟨c'', new', hThread, hDone, -, -, hNew⟩ :=
    ThreadRun.failureDelivery (o := o) (step_pingMove hStep hMove)
  exact ⟨c'', new', hThread, hDone, hNew⟩

/- A pong pops the first of two pings, and a disconnect moves the second. -/
theorem ping_queue_pong_then_disconnect :
    ∃ c events, Run (fun c a => pingMoveExclusive c a = true) c events ∧
      events.flatMap Event.pingPushed = [some (.user 1), none] ∧
      events.flatMap Event.pingConsumed = [some (.user 1), none] ∧
      (PingLedger c events ∧
        ∀ a c' new, step c a = some (c', new) → PingConsumptionsPaired a new ∧
          ∀ n callbacks, Event.pingMove (.other n) callbacks ∈ new → ∀ o,
            ∃ c'' new', ThreadRun o (.other n) c' c'' new' ∧ c''.stack (.other n) = [] ∧
              new' = callbacks.flatMap (failureEvents (.other n))) := by
  have ⟨c, events, hExec, hPushed, hConsumed⟩ : ∃ c events,
      execAllowed pingMoveExclusive Config.init
        [.call (.other 0) (.connect "redis" 6379 none 0 (-1) 0 false) .success,
          .advance (.other 0) .success,
          .call (.other 0) (.ping "" (some (.user 1))) .success,
          .call (.other 0) (.ping "x" none) .success,
          .receive (.array [.string "pong" .simpleString, .string "" .bulkString]),
          .ret .io,
          .call (.other 0) (.disconnect false) .success,
          .advance (.other 0) .success,
          .advance (.other 1) .success] = some (c, events) ∧
      events.flatMap Event.pingPushed = [some (.user 1), none] ∧
      events.flatMap Event.pingConsumed = [some (.user 1), none] :=
    ⟨_, _, rfl, rfl, rfl⟩
  have hRun := run_of_execAllowed _ .init hExec
  rw [List.nil_append] at hRun
  exact ⟨c, events, hRun, hPushed, hConsumed, ping_queue hRun⟩

/- The callback an event invokes, with the invoking thread. -/
def Event.invocation : Event → Option (ThreadId × Callback)
  | .invoke t f _ _ => some (t, f)
  | _ => none

/- A pong inside the move runs the ping's callback, and the detached thread runs it again. -/
theorem pong_during_disconnect_runs_ping_twice :
    ∃ c events, Reachable c events ∧
      events.flatMap Event.pingPushed = [some (.user 1)] ∧
      events.flatMap Event.pingConsumed ++ c.sub.pingCallbacks = [some (.user 1), some (.user 1)] ∧
      events.filterMap Event.invocation = [(.io, .user 1), (.other 1, .user 1)] := by
  have ⟨c, events, hExec, hFacts⟩ : ∃ c events,
      exec Config.init
        [.call (.other 0) (.connect "redis" 6379 none 0 (-1) 0 false) .success,
          .advance (.other 0) .success,
          .call (.other 0) (.ping "" (some (.user 1))) .success,
          .call (.other 0) (.disconnect false) .success,
          .receive (.array [.string "pong" .simpleString, .string "" .bulkString]),
          .ret .io,
          .advance (.other 0) .success,
          .advance (.other 1) .success] = some (c, events) ∧
      events.flatMap Event.pingPushed = [some (.user 1)] ∧
      events.flatMap Event.pingConsumed ++ c.sub.pingCallbacks =
        [some (.user 1), some (.user 1)] ∧
      events.filterMap Event.invocation = [(.io, .user 1), (.other 1, .user 1)] :=
    ⟨_, _, rfl, rfl, rfl, rfl⟩
  exact ⟨c, events, run_of_exec _ .init hExec fun _ _ => trivial, hFacts⟩

end RedisSubscriber
