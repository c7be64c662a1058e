import Mathlib.Algebra.Group.Int
import RedisSubscriber.Properties.Descriptor

/-
  The budget of the reconnect loop: while no thread calls
  `connect`, the loop enters its body at most `max(m, 0)` times.
-/

------------------------------------------------------------
-- Counting the Steps of a Run
------------------------------------------------------------

namespace RedisSubscriber

/- Whether an action calls one of the two `connect` overloads. -/
def Action.callsConnect : Action → Bool
  | .call _ op _ => op.isConnect
  | _ => false

/- Whether an action is a `connect` call made by a callback running on its thread. -/
def callbackConnects (c : Config) : Action → Bool
  | .call t op _ => op.isConnect && (c.stack t).head? == some .callback
  | _ => false

/- Whether an action runs `reconnect()`: the handler's step from its attempt. -/
def callsReconnect (c : Config) : Action → Bool
  | .advance .io _ => decide (c.io = [.disconnectionHandler .attempt])
  | _ => false

/- Whether an action enters the loop body, with `should_reconnect()` true. -/
def entersLoopBody (c : Config) : Action → Bool
  | .advance .io _ =>
      decide (c.io = [.disconnectionHandler .loopHead]) && shouldReconnect c.sub
  | _ => false

/- The steps of an execution whose configuration and action `p` accepts. -/
def countSteps (p : Config → Action → Bool) : Config → List Action → Nat
  | _, [] => 0
  | c, a :: acts =>
      match step c a with
      | none => 0
      | some (c', _) => (p c a).toNat + countSteps p c' acts

/- The iterations begun: the attempts counted, and the one about to be made. -/
def iterationsBegun (c : Config) : Int :=
  c.sub.currentReconnectAttempts + if handlerPcOf c.io = some .attempt then 1 else 0

/- The steps of one run of the handler in which no thread calls `connect`. -/
def handlerRunStep (c : Config) (a : Action) : Bool :=
  (handlerPcOf c.io).isSome && !a.callsConnect

theorem callsReconnect_eq_true
    {c : Config}
    {a : Action}
    (h : callsReconnect c a = true) :
    ∃ o, a = .advance .io o ∧ c.io = [.disconnectionHandler .attempt] := by
  cases a with
  | advance t o =>
      cases t with
      | io => exact ⟨o, rfl, of_decide_eq_true h⟩
      | other => cases h
  | _ => cases h

theorem entersLoopBody_eq_true
    {c : Config}
    {a : Action}
    (h : entersLoopBody c a = true) :
    ∃ o, a = .advance .io o ∧ c.io = [.disconnectionHandler .loopHead] ∧
      shouldReconnect c.sub = true := by
  cases a with
  | advance t o =>
      cases t with
      | io =>
          simp only [entersLoopBody, Bool.and_eq_true, decide_eq_true_eq] at h
          exact ⟨o, rfl, h⟩
      | other => cases h
  | _ => cases h

------------------------------------------------------------
-- What Each Function Does to the Counter
------------------------------------------------------------

theorem runOp_currentReconnectAttempts (s : Subscriber) (o : Outcome) (op : Op) :
    (runOp s o op).sub.currentReconnectAttempts = s.currentReconnectAttempts := by
  cases op
  case subscribe t _ _ _ => cases t <;> rfl
  case unsubscribe t _ =>
    cases t <;> simp only [runOp, unsubscribe, punsubscribe, unsubscribeFrom] <;> split <;> rfl
  case connectSentinel =>
    simp only [runOp, connectSentinel]
    split <;> rfl
  case ping =>
    simp only [runOp, ping]
    split <;> rfl
  all_goals rfl

/- Only an attempt counts, and only the loop head starts one. -/
theorem disconnectionHandlerStep_attempts (s : Subscriber) (o : Outcome) (pc : HandlerPc) :
    (disconnectionHandlerStep s o pc).sub.currentReconnectAttempts =
        s.currentReconnectAttempts + (if pc = .attempt then 1 else 0) ∧
      (handlerPcOf (disconnectionHandlerStep s o pc).cont = some .attempt ↔
        pc = .loopHead ∧ shouldReconnect s = true) := by
  cases pc
  case loopHead =>
    simp only [disconnectionHandlerStep, reconnectLoop, sleepBeforeNextReconnectAttempt]
    split <;> [simp_all [handlerPcOf]; split <;> simp_all [handlerPcOf, clearSubscriptions]]
  case attempt =>
    simp only [disconnectionHandlerStep, reconnect, reconnectConnect, connect]
    split <;> [skip; split] <;> simp [handlerPcOf]
  case afterConnect =>
    simp only [disconnectionHandlerStep, reconnectCheck]
    split <;> simp [handlerPcOf]
  case replay =>
    simp only [disconnectionHandlerStep, reconnectReplay_handlerPc, reduceCtorEq, if_false]
    refine ⟨?_, by split <;> simp⟩
    simp only [reconnectReplay, reSubscribe_eq, reAuth, reClientSetname]
    split_ifs <;> exact (Int.add_zero _).symm
  all_goals simp [disconnectionHandlerStep, lockAndClearPings, finishPingMove,
    finishReconnecting, Segment.done, handlerPcOf]

/- The loop body is entered only below the limit. -/
theorem iterationsBegun_lt_of_entersLoopBody
    {c : Config}
    {a : Action}
    (h : entersLoopBody c a = true) :
    c.sub.maxReconnects = -1 ∨ iterationsBegun c < c.sub.maxReconnects := by
  obtain ⟨-, -, hIo, hShould⟩ := entersLoopBody_eq_true h
  simp only [shouldReconnect, Bool.and_eq_true, Bool.or_eq_true, beq_iff_eq,
    decide_eq_true_eq] at hShould
  simpa [iterationsBegun, hIo, handlerPcOf] using hShould.2

------------------------------------------------------------
-- One Step of a Run of the Handler
------------------------------------------------------------

section Step

variable {c c' : Config} {a : Action} {new : List Event}

/- Only the `connect` overloads write `m_max_reconnects`. -/
theorem DescriptorWrite.maxReconnects
    {d : ConnectionDescriptor}
    (h : DescriptorWrite c a d)
    (hConnect : a.callsConnect = false) :
    d.maxReconnects = c.sub.maxReconnects := by
  cases h <;> first | rfl | cases hConnect

/- A step that is not the handler's own keeps the counter and its point. -/
theorem step_attempts_of_not_handler
    (hShaped : c.StacksShaped)
    (hRunning : (handlerPcOf c.io).isSome = true)
    (hOther : ∀ pc o, c.io = [.disconnectionHandler pc] → a ≠ .advance .io o)
    (hStep : step c a = some (c', new)) :
    c'.sub.currentReconnectAttempts = c.sub.currentReconnectAttempts ∧
      handlerPcOf c'.io = handlerPcOf c.io := by
  have hBusy : c.io ≠ [] := fun hIo => by simp [hIo, handlerPcOf] at hRunning
  refine ⟨?_, ?_⟩
  · have hSub := step_sub hShaped hStep
    generalize c'.sub = s' at hSub
    cases hSub with
    | @call _ _ _ op o _ _ _ => exact runOp_currentReconnectAttempts c.sub o op
    | transport =>
        unfold connectTransport
        split <;> rfl
    | handler hIo => exact absurd rfl (hOther _ _ hIo)
    | receive hIo => exact absurd hIo hBusy
    | handle hIo => exact absurd hIo hBusy
    | _ => rfl
  · rcases step_frame hShaped hStep with ⟨pc, o, -, hIo, rfl, -⟩ | ⟨-, -, hIo, -⟩ | ⟨-, hPc, -⟩
    · exact absurd rfl (hOther pc o hIo)
    · exact absurd hIo hBusy
    · exact hPc

/- A step of a run of the handler keeps the limit and counts what it runs. -/
theorem step_attempts
    (hShaped : c.StacksShaped)
    (hAllow : handlerRunStep c a = true)
    (hStep : step c a = some (c', new)) :
    c'.sub.maxReconnects = c.sub.maxReconnects ∧
      c'.sub.currentReconnectAttempts =
        c.sub.currentReconnectAttempts + (callsReconnect c a).toNat ∧
      iterationsBegun c' = iterationsBegun c + (entersLoopBody c a).toNat := by
  simp only [handlerRunStep, Bool.and_eq_true, Bool.not_eq_true'] at hAllow
  have hMax : c'.sub.maxReconnects = c.sub.maxReconnects :=
    (descriptor_frame hShaped hStep).maxReconnects hAllow.2
  by_cases hOwn : ∃ pc o, c.io = [.disconnectionHandler pc] ∧ a = .advance .io o
  · obtain ⟨pc, o, hIo, rfl⟩ := hOwn
    obtain ⟨p, hResume⟩ := step_handler hIo hStep
    have hc' : c' = _ := congrArg Prod.fst hResume
    have hSub : c'.sub = (disconnectionHandlerStep c.sub o pc).sub := by
      rw [hc', Config.resume_sub]
    have hPc' : handlerPcOf c'.io = handlerPcOf (disconnectionHandlerStep c.sub o pc).cont := by
      rw [hc', Config.resume_io, if_pos rfl, handlerPcOf_resumeStack, List.append_nil]
    obtain ⟨hCount, hPc⟩ := disconnectionHandlerStep_attempts c.sub o pc
    refine ⟨hMax, ?_, ?_⟩ <;>
      simp only [iterationsBegun, callsReconnect, entersLoopBody, hSub, hPc', hCount, hPc, hIo,
        List.cons.injEq, Frame.disconnectionHandler.injEq, and_true] <;>
      cases pc <;> cases shouldReconnect c.sub <;> simp [handlerPcOf]
  · have hCalls : callsReconnect c a = false := by
      cases h : callsReconnect c a
      · rfl
      · obtain ⟨o, rfl, hIo⟩ := callsReconnect_eq_true h
        exact absurd ⟨_, _, hIo, rfl⟩ hOwn
    have hEnters : entersLoopBody c a = false := by
      cases h : entersLoopBody c a
      · rfl
      · obtain ⟨o, rfl, hIo, -⟩ := entersLoopBody_eq_true h
        exact absurd ⟨_, _, hIo, rfl⟩ hOwn
    obtain ⟨hCount, hPc⟩ := step_attempts_of_not_handler hShaped hAllow.1
      (fun pc o hIo ha => hOwn ⟨pc, o, hIo, ha⟩) hStep
    exact ⟨hMax, by simp [hCount, hCalls], by simp [iterationsBegun, hCount, hPc, hEnters]⟩

end Step

------------------------------------------------------------
-- A Whole Run of the Handler
------------------------------------------------------------

/- Along a run of the handler the counters grow with the steps and stay within `max(m, 0)`. -/
theorem handlerRun_attempts
    {c c' : Config}
    {events new : List Event}
    {acts : List Action}
    (hReach : Reachable c events)
    (hExec : execAllowed handlerRunStep c acts = some (c', new)) :
    c'.sub.maxReconnects = c.sub.maxReconnects ∧
      c'.sub.currentReconnectAttempts =
        c.sub.currentReconnectAttempts + countSteps callsReconnect c acts ∧
      iterationsBegun c' = iterationsBegun c + countSteps entersLoopBody c acts ∧
      (c.sub.maxReconnects ≠ -1 → iterationsBegun c ≤ max c.sub.maxReconnects 0 →
        iterationsBegun c' ≤ max c.sub.maxReconnects 0) := by
  induction acts generalizing c events new with
  | nil =>
      cases hExec
      exact ⟨rfl, (Int.add_zero _).symm, (Int.add_zero _).symm, fun _ hWithin => hWithin⟩
  | cons a acts ih =>
      obtain ⟨hAllow, c₂, first, later, hStep, hRest, rfl⟩ := execAllowed_cons_eq_some hExec
      obtain ⟨hMax, hCount, hIter⟩ := step_attempts hReach.stacksShaped hAllow hStep
      obtain ⟨hMax', hCount', hIter', hBound⟩ := ih (hReach.step trivial hStep) hRest
      simp only [countSteps, hStep]
      rw [hMax] at hBound
      refine ⟨hMax'.trans hMax, by omega, by omega, fun hLimit hWithin => hBound hLimit ?_⟩
      rw [hIter]
      cases hEnter : entersLoopBody c a
      · simp only [Bool.toNat_false]
        omega
      · have hBelow := (iterationsBegun_lt_of_entersLoopBody hEnter).resolve_left hLimit
        simp only [Bool.toNat_true]
        omega

/- A drop that finds the handler idle starts it at its locks, with no attempt counted. -/
theorem step_handleDrop_starts
    {c c₁ : Config}
    {first : List Event}
    (hIdle : c.sub.reconnecting = false)
    (hStart : step c .handleDrop = some (c₁, first)) :
    c₁.sub.maxReconnects = c.sub.maxReconnects ∧ c₁.sub.currentReconnectAttempts = 0 ∧
      handlerPcOf c₁.io = some .lockAll := by
  rcases step_cases hStart with ⟨t, rest, seg, hRuns, p, hResume⟩ | ⟨_, _, h, -⟩ | ⟨h, -⟩ |
    ⟨h, -⟩ | ⟨-, h, -⟩
  · cases hRuns with
    | handle =>
        obtain rfl : c₁ = _ := congrArg Prod.fst hResume
        simp only [Config.resume_sub, Config.resume_io, if_pos, handlerPcOf_resumeStack,
          connectionDisconnectionHandler, hIdle, Bool.false_eq_true, if_false]
        exact ⟨trivial, trivial, rfl⟩
  · cases h
  · cases h
  · cases h
  · rw [hIdle] at h
    cases h

/- With limit m ≠ -1, `reconnect()` runs at most `max(m, 0)` times. -/
theorem reconnect_budget
    {c c₁ c' : Config}
    {events first new : List Event}
    {acts : List Action}
    (hReach : Reachable c events)
    (hIdle : c.sub.reconnecting = false)
    (hStart : step c .handleDrop = some (c₁, first))
    (hRun : execAllowed handlerRunStep c₁ acts = some (c', new))
    (hLimit : c.sub.maxReconnects ≠ -1) :
    countSteps callsReconnect c₁ acts ≤ max c.sub.maxReconnects 0 ∧
      countSteps entersLoopBody c₁ acts ≤ max c.sub.maxReconnects 0 ∧
      c'.sub.currentReconnectAttempts = countSteps callsReconnect c₁ acts ∧
      0 ≤ c'.sub.currentReconnectAttempts ∧
      c'.sub.currentReconnectAttempts ≤ max c.sub.maxReconnects 0 ∧
      (c.sub.maxReconnects < 2 ^ 31 → c'.sub.currentReconnectAttempts < 2 ^ 31) := by
  obtain ⟨hMax₁, hZero, hLock⟩ := step_handleDrop_starts hIdle hStart
  have hBegun : iterationsBegun c₁ = 0 := by simp [iterationsBegun, hZero, hLock]
  obtain ⟨-, hCount, hIter, hBound⟩ := handlerRun_attempts (hReach.step trivial hStart) hRun
  rw [hMax₁] at hBound
  have hWithin := hBound hLimit (by omega)
  have hCounted : c'.sub.currentReconnectAttempts ≤ iterationsBegun c' := by
    unfold iterationsBegun
    split <;> omega
  refine ⟨?_, ?_, ?_, ?_, ?_, fun h32 => ?_⟩ <;> omega

/- With `max_reconnects` 2 and two failed attempts, the whole budget is used. -/
theorem reconnect_budget_two_failed_attempts :
    ∃ c events c₁ first acts c' new, Reachable c events ∧ c.sub.reconnecting = false ∧
      c.sub.maxReconnects = 2 ∧ step c .handleDrop = some (c₁, first) ∧
      acts = [.advance .io .success, .advance .io .success, .advance .io .success,
        .advance .io { Outcome.success with connectOk := false }, .advance .io .success,
        .advance .io .success, .advance .io .success,
        .advance .io { Outcome.success with connectOk := false }, .advance .io .success,
        .advance .io .success, .advance .io .success] ∧
      execAllowed handlerRunStep c₁ acts = some (c', new) ∧ c'.io = [] ∧
      countSteps callsReconnect c₁ acts = 2 ∧
      (countSteps callsReconnect c₁ acts ≤ max c.sub.maxReconnects 0 ∧
        countSteps entersLoopBody c₁ acts ≤ max c.sub.maxReconnects 0 ∧
        c'.sub.currentReconnectAttempts = countSteps callsReconnect c₁ acts ∧
        0 ≤ c'.sub.currentReconnectAttempts ∧
        c'.sub.currentReconnectAttempts ≤ max c.sub.maxReconnects 0 ∧
        (c.sub.maxReconnects < 2 ^ 31 → c'.sub.currentReconnectAttempts < 2 ^ 31)) := by
  have ⟨acts, c, events, c₁, first, c', new, hActs, hExec, hIdle, hTwo, hStart, hRun, hDone,
      hCount⟩ : ∃ acts c events c₁ first c' new,
      acts = [.advance .io .success, .advance .io .success, .advance .io .success,
        .advance .io { Outcome.success with connectOk := false }, .advance .io .success,
        .advance .io .success, .advance .io .success,
        .advance .io { Outcome.success with connectOk := false }, .advance .io .success,
        .advance .io .success, .advance .io .success] ∧
      exec Config.init [.call (.other 0) (.connect "redis" 6379 none 0 2 0 false) .success,
        .advance (.other 0) .success, .drop] = some (c, events) ∧
      c.sub.reconnecting = false ∧ c.sub.maxReconnects = 2 ∧
      step c .handleDrop = some (c₁, first) ∧
      execAllowed handlerRunStep c₁ acts = some (c', new) ∧ c'.io = [] ∧
      countSteps callsReconnect c₁ acts = 2 :=
    ⟨_, _, _, _, _, _, _, rfl, rfl, rfl, rfl, rfl, rfl, rfl, rfl⟩
  have hReach := run_of_exec _ .init hExec fun _ _ => trivial
  exact ⟨c, _, c₁, first, acts, c', new, hReach, hIdle, hTwo, hStart, hActs, hRun, hDone, hCount,
    reconnect_budget hReach hIdle hStart hRun (by rw [hTwo]; decide)⟩

/- A caller's `connect` with -1 during an attempt extends a budget of 1. -/
theorem concurrent_connect_extends_budget :
    ∃ c events c₁ first acts c' new, Reachable c events ∧ c.sub.reconnecting = false ∧
      c.sub.maxReconnects = 1 ∧ step c .handleDrop = some (c₁, first) ∧
      acts = [.advance .io .success, .advance .io .success, .advance .io .success,
        .call (.other 0) (.connect "redis" 6379 none 0 (-1) 0 false) .success,
        .advance .io { Outcome.success with connectOk := false }, .advance .io .success,
        .advance .io .success, .advance .io .success] ∧
      execAllowed (fun d a => (handlerPcOf d.io).isSome && !callbackConnects d a) c₁ acts =
        some (c', new) ∧
      countSteps callsReconnect c₁ acts = 2 ∧ c'.sub.currentReconnectAttempts = 2 ∧
      c'.sub.maxReconnects = -1 := by
  have ⟨acts, c, events, c₁, first, c', new, hActs, hExec, hIdle, hOne, hStart, hRun,
      hFacts⟩ : ∃ acts c events c₁ first c' new,
      acts = [.advance .io .success, .advance .io .success, .advance .io .success,
        .call (.other 0) (.connect "redis" 6379 none 0 (-1) 0 false) .success,
        .advance .io { Outcome.success with connectOk := false }, .advance .io .success,
        .advance .io .success, .advance .io .success] ∧
      exec Config.init [.call (.other 0) (.connect "redis" 6379 none 0 1 0 false) .success,
        .advance (.other 0) .success, .drop] = some (c, events) ∧
      c.sub.reconnecting = false ∧ c.sub.maxReconnects = 1 ∧
      step c .handleDrop = some (c₁, first) ∧
      execAllowed (fun d a => (handlerPcOf d.io).isSome && !callbackConnects d a) c₁ acts =
        some (c', new) ∧
      countSteps callsReconnect c₁ acts = 2 ∧ c'.sub.currentReconnectAttempts = 2 ∧
      c'.sub.maxReconnects = -1 :=
    ⟨_, _, _, _, _, _, _, rfl, rfl, rfl, rfl, rfl, rfl, rfl, rfl, rfl⟩
  exact ⟨c, _, c₁, first, acts, c', new, run_of_exec _ .init hExec fun _ _ => trivial, hIdle, hOne,
    hStart, hActs, hRun, hFacts⟩

end RedisSubscriber
