import RedisSubscriber.Handler

/-
  How `connection_disconnection_handler` ends: at its last
  point, or by the exception of a replay's `commit()`, which
  leaves `m_reconnecting` set for good.
-/

------------------------------------------------------------
-- Leaving the Handler
------------------------------------------------------------

namespace RedisSubscriber

/- A step that leaves no handler frame is the last point or a failed commit. -/
theorem disconnectionHandlerStep_exit
    {pc : HandlerPc}
    (s : Subscriber)
    (o : Outcome)
    (hExit : handlerPcOf (disconnectionHandlerStep s o pc).cont = none) :
    (pc = .finish ∧ (disconnectionHandlerStep s o pc).sub.reconnecting = false) ∨
      (pc = .replay ∧ Event.commit false ∈ (disconnectionHandlerStep s o pc).events ∧
        (disconnectionHandlerStep s o pc).sub.reconnecting = s.reconnecting) := by
  cases pc <;> simp only [disconnectionHandlerStep] at hExit
  case finish => exact .inl ⟨rfl, rfl⟩
  case replay =>
    rw [reconnectReplay_handlerPc] at hExit
    have hFailed : (o.commitOk && s.clientConnected) = false := by
      simpa using hExit
    refine .inr ⟨rfl, ?_, (reconnectReplay_sub s o).2.1⟩
    rw [← hFailed]
    exact reconnectReplay_commit s o
  case loopHead =>
    unfold reconnectLoop sleepBeforeNextReconnectAttempt at hExit
    split at hExit <;> [skip; split at hExit] <;> cases hExit
  case attempt =>
    unfold reconnect reconnectConnect at hExit
    dsimp only at hExit
    split at hExit <;> [skip; split at hExit] <;> simp [connect, handlerPcOf] at hExit
  case afterConnect =>
    unfold reconnectCheck at hExit
    split at hExit <;> cases hExit
  case lockAll => cases hExit

/- When the handler leaves the receive thread, it cleared the flag or its commit threw. -/
theorem handler_exit
    {c c' : Config}
    {events new : List Event}
    {pc : HandlerPc}
    {o : Outcome}
    (hReach : Reachable c events)
    (hIo : c.io = [.disconnectionHandler pc])
    (hStep : step c (.advance .io o) = some (c', new))
    (hExit : handlerPcOf c'.io = none) :
    (pc = .finish ∧ c'.sub.reconnecting = false) ∨
      (pc = .replay ∧ Event.commit false ∈ new ∧ c'.sub.reconnecting = true) := by
  rcases step_frame hReach.stacksShaped hStep with
    ⟨pc', o', p, hIo', hAction, hResume⟩ | ⟨_, hAction, -⟩ | ⟨-, hPc, -⟩
  · rw [hIo] at hIo'
    cases hIo'
    cases hAction
    obtain rfl : c' = _ := congrArg Prod.fst hResume
    obtain rfl : new = _ := congrArg Prod.snd hResume
    rw [Config.resume_io, if_pos rfl, handlerPcOf_resumeStack, List.append_nil] at hExit
    have hRunning : c.sub.reconnecting = true :=
      hReach.reconnecting_of_handler (by rw [hIo]; rfl)
    rw [Config.resume_sub, Config.resume_events]
    rcases disconnectionHandlerStep_exit c.sub o hExit with ⟨rfl, hFlag⟩ | ⟨rfl, hCommit, hFlag⟩
    · exact .inl ⟨rfl, hFlag⟩
    · exact .inr ⟨rfl, List.mem_append_left _ hCommit, hFlag.trans hRunning⟩
  · cases hAction
  · rw [hPc, hIo] at hExit
    cases hExit

/- The handler's replay fails because the transport drops right before the commit. -/
theorem handler_exit_commit_lost :
    ∃ c events c' new, Reachable c events ∧ c.io = [.disconnectionHandler .replay] ∧
      step c (.advance .io .success) = some (c', new) ∧ handlerPcOf c'.io = none ∧
      ((HandlerPc.replay = .finish ∧ c'.sub.reconnecting = false) ∨
        (HandlerPc.replay = .replay ∧ Event.commit false ∈ new ∧ c'.sub.reconnecting = true)) := by
  obtain ⟨c, events, hRun, hCheck⟩ := exists_run_of_execAllowed (fun _ _ => true)
    (fun c _ => c.io == [.disconnectionHandler .replay] &&
      (step c (.advance .io .success)).any fun r => (handlerPcOf r.1.io).isNone)
    [.call (.other 0) (.connect "redis" 6379 none 0 (-1) 0 false) .success,
      .advance (.other 0) .success, .drop, .handleDrop, .advance .io .success,
      .advance .io .success, .advance .io .success, .advance .io .success,
      .advance .io .success, .drop, .handleDrop] (by decide)
  simp only [Bool.and_eq_true, beq_iff_eq] at hCheck
  obtain ⟨hIo, hNext⟩ := hCheck
  have hReach : Reachable c events := hRun.mono fun _ _ _ => trivial
  cases hStep : step c (.advance .io .success) with
  | none => simp [hStep] at hNext
  | some r =>
      have hExit : handlerPcOf r.1.io = none := by simpa [hStep] using hNext
      exact ⟨c, events, r.1, r.2, hReach, hIo, hStep, hExit, handler_exit hReach hIo hStep hExit⟩

/- A second drop before the replay's commit: the handler leaves with the flag set. -/
theorem replay_commit_failure_keeps_reconnecting :
    ∃ c events, Reachable c events ∧ c.io = [] ∧ c.sub.reconnecting = true ∧
      Event.commit false ∈ events := by
  obtain ⟨c, events, hRun, hCheck⟩ := exists_run_of_execAllowed (fun _ _ => true)
    (fun c events => c.io.isEmpty && c.sub.reconnecting &&
      events.any fun | .commit false => true | _ => false)
    [.call (.other 0) (.connect "redis" 6379 none 0 (-1) 0 false) .success,
      .advance (.other 0) .success, .drop, .handleDrop, .advance .io .success,
      .advance .io .success, .advance .io .success, .advance .io .success,
      .advance .io .success, .drop, .handleDrop, .advance .io .success] (by decide)
  simp only [Bool.and_eq_true, List.isEmpty_iff, List.any_eq_true] at hCheck
  obtain ⟨⟨hIo, hFlag⟩, e, he, hFailed⟩ := hCheck
  refine ⟨c, events, hRun.mono fun _ _ _ => trivial, hIo, hFlag, ?_⟩
  cases e
  case commit ok => cases ok <;> [exact he; cases hFailed]
  all_goals cases hFailed

------------------------------------------------------------
-- The Flag Left Set
------------------------------------------------------------

section Stuck

variable {c c' : Config} {events new : List Event}

/- With the flag set and no handler running, a step keeps both and attempts nothing. -/
theorem stuck_step
    {a : Action}
    (hShaped : c.StacksShaped)
    (hReconnecting : c.sub.reconnecting = true)
    (hIdle : handlerPcOf c.io = none)
    (hStep : step c a = some (c', new)) :
    c'.sub.reconnecting = true ∧ handlerPcOf c'.io = none ∧
      ∀ e ∈ new, e.isReconnectAttempt = false := by
  rcases step_frame hShaped hStep with
    ⟨pc, _, _, hIo, -⟩ | ⟨_, -, -, hFlag, -⟩ | ⟨hKeep, hPc, hAttempts⟩
  · rw [hIo] at hIdle
    cases hIdle
  · rw [hReconnecting] at hFlag
    cases hFlag
  · refine ⟨hKeep ▸ hReconnecting, hPc ▸ hIdle, fun e he => ?_⟩
    cases hAttempt : e.isReconnectAttempt
    · rfl
    · rw [hAttempts e he hAttempt] at hIdle
      cases hIdle

/- Once the handler has left with the flag set, no continuation reconnects. -/
theorem reconnecting_stuck
    {acts : List Action}
    (hReach : Reachable c events)
    (hReconnecting : c.sub.reconnecting = true)
    (hIdle : handlerPcOf c.io = none)
    (hExec : exec c acts = some (c', new)) :
    c'.sub.reconnecting = true ∧ handlerPcOf c'.io = none ∧
      ∀ e ∈ new, e.isReconnectAttempt = false := by
  induction acts generalizing c events new with
  | nil =>
      cases hExec
      exact ⟨hReconnecting, hIdle, by simp⟩
  | cons a acts ih =>
      obtain ⟨-, c₁, first, later, hStep, hRest, rfl⟩ := execAllowed_cons_eq_some hExec
      obtain ⟨hReconnecting₁, hIdle₁, hFirst⟩ :=
        stuck_step hReach.stacksShaped hReconnecting hIdle hStep
      obtain ⟨hReconnecting', hIdle', hLater⟩ :=
        ih (hReach.step trivial hStep) hReconnecting₁ hIdle₁ hRest
      refine ⟨hReconnecting', hIdle', fun e he => ?_⟩
      rcases List.mem_append.mp he with he | he
      · exact hFirst e he
      · exact hLater e he

end Stuck

/- After that exit, a new drop is ignored. -/
theorem reconnecting_stuck_after_commit_failure :
    ∃ c events c' new, Reachable c events ∧ c.sub.reconnecting = true ∧
      handlerPcOf c.io = none ∧
      exec c [.call (.other 0) (.connect "redis" 6379 none 0 (-1) 0 false) .success,
        .advance (.other 0) .success, .drop, .handleDrop] = some (c', new) ∧
      c'.sub.reconnecting = true ∧ handlerPcOf c'.io = none ∧
      ∀ e ∈ new, e.isReconnectAttempt = false := by
  obtain ⟨c, events, hRun, hCheck⟩ := exists_run_of_execAllowed (fun _ _ => true)
    (fun c _ => c.io.isEmpty && c.sub.reconnecting &&
      (exec c [.call (.other 0) (.connect "redis" 6379 none 0 (-1) 0 false) .success,
        .advance (.other 0) .success, .drop, .handleDrop]).isSome)
    [.call (.other 0) (.connect "redis" 6379 none 0 (-1) 0 false) .success,
      .advance (.other 0) .success, .drop, .handleDrop, .advance .io .success,
      .advance .io .success, .advance .io .success, .advance .io .success,
      .advance .io .success, .drop, .handleDrop, .advance .io .success] (by decide)
  simp only [Bool.and_eq_true, List.isEmpty_iff, Option.isSome_iff_exists] at hCheck
  obtain ⟨⟨hIo, hFlag⟩, ⟨c', new⟩, hExec⟩ := hCheck
  have hReach : Reachable c events := hRun.mono fun _ _ _ => trivial
  have hIdle : handlerPcOf c.io = none := by rw [hIo]; rfl
  exact ⟨c, events, c', new, hReach, hFlag, hIdle, hExec,
    reconnecting_stuck hReach hFlag hIdle hExec⟩


end RedisSubscriber
