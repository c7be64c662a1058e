import RedisSubscriber.Handler
import RedisSubscriber.SubscriberSteps

/-
  `cancel_reconnect()` and the attempts that follow it. The loop
  reads `m_cancel` only at its head, so an attempt past that
  check still connects; `attemptsLeft` bounds what follows.
-/

------------------------------------------------------------
-- Attempts Left on the Receive Stack
------------------------------------------------------------

namespace RedisSubscriber

/- The transport connects the handler can start before its loop head. -/
def attemptsLeft (io : List Frame) : Nat :=
  (if handlerPcOf io = some .attempt then 1 else 0) + (pendingReconnect io).isSome.toNat

theorem attemptsLeft_le_one (io : List Frame) : attemptsLeft io ≤ 1 := by
  unfold attemptsLeft
  cases hPending : (pendingReconnect io).isSome
  · split <;> simp
  · rw [if_neg (by rw [handlerPcOf_of_pendingReconnect hPending]; decide)]
    simp

------------------------------------------------------------
-- The Flag Stays Set
------------------------------------------------------------

theorem runOp_cancel
    (s : Subscriber)
    (o : Outcome)
    (op : Op)
    (hCancel : s.cancel = true) :
    (runOp s o op).sub.cancel = true := by
  cases op
  case subscribe t _ _ _ => cases t <;> exact hCancel
  case unsubscribe t _ =>
    cases t <;> simp only [runOp, unsubscribe, punsubscribe, unsubscribeFrom] <;> split <;>
      exact hCancel
  case connectSentinel =>
    simp only [runOp, connectSentinel]
    split <;> exact hCancel
  case cancelReconnect => rfl
  all_goals exact hCancel

theorem disconnectionHandlerStep_cancel (s : Subscriber) (o : Outcome) (pc : HandlerPc) :
    (disconnectionHandlerStep s o pc).sub.cancel = s.cancel := by
  cases pc <;> simp only [disconnectionHandlerStep]
  case loopHead =>
    unfold reconnectLoop sleepBeforeNextReconnectAttempt
    split <;> [rfl; split <;> rfl]
  case attempt =>
    unfold reconnect reconnectConnect
    dsimp only
    split <;> [rfl; split <;> rfl]
  case afterConnect =>
    unfold reconnectCheck
    split <;> rfl
  case replay =>
    simp only [reconnectReplay, reSubscribe_eq, reAuth, reClientSetname]
    split_ifs <;> rfl
  all_goals rfl

/- `m_cancel` is written only by `cancel_reconnect`, which sets it. -/
theorem step_cancel
    {c c' : Config}
    {a : Action}
    {new : List Event}
    (hShaped : c.StacksShaped)
    (hCancel : c.sub.cancel = true)
    (hStep : step c a = some (c', new)) :
    c'.sub.cancel = true := by
  have hSub := step_sub hShaped hStep
  generalize c'.sub = s' at hSub
  cases hSub with
  | @call _ _ _ op o _ _ _ => exact runOp_cancel c.sub o op hCancel
  | transport =>
      unfold connectTransport
      split <;> exact hCancel
  | @handler pc o _ => rw [disconnectionHandlerStep_cancel, hCancel]
  | @receive r _ =>
      rcases connectionReceiveHandler_cases c.sub r with h | ⟨_, _, _, -, h⟩ | ⟨-, _, -, h⟩ |
        ⟨-, -, _, -, h⟩ | ⟨_, _, -, h⟩ <;> rw [h] <;> exact hCancel
  | handle =>
      unfold connectionDisconnectionHandler
      split <;> exact hCancel
  | _ => exact hCancel

/- `cancel_reconnect()` sets `m_cancel`. -/
theorem step_cancel_call
    {c c₁ : Config}
    {first : List Event}
    {t : ThreadId}
    {o : Outcome}
    (hCall : step c (.call t .cancelReconnect o) = some (c₁, first)) :
    c₁.sub.cancel = true := by
  rcases step_cases hCall with ⟨_, _, _, hRuns, _, hResume⟩ | ⟨_, _, h, -⟩ | ⟨h, -⟩ | ⟨h, -⟩ |
    ⟨h, -⟩
  · cases hRuns with
    | call =>
        obtain rfl : c₁ = _ := congrArg Prod.fst hResume
        rw [Config.resume_sub]
        rfl
  all_goals cases h

/- The call of `cancel_reconnect()` leaves the receive thread's stack as it was. -/
theorem step_cancel_call_io
    {c c₁ : Config}
    {first : List Event}
    {t : ThreadId}
    {o : Outcome}
    (hCall : step c (.call t .cancelReconnect o) = some (c₁, first)) :
    c₁.io = c.io := by
  rcases step_cases hCall with ⟨_, _, _, hRuns, _, hResume⟩ | ⟨_, _, h, -⟩ | ⟨h, -⟩ | ⟨h, -⟩ |
    ⟨h, -⟩
  · cases hRuns with
    | call hStack =>
        obtain rfl : c₁ = _ := congrArg Prod.fst hResume
        rw [Config.resume_io]
        split
        · next hIo =>
            subst hIo
            exact hStack.symm
        · rfl
  all_goals cases h

------------------------------------------------------------
-- Each Step Spends What It Connects
------------------------------------------------------------

/- With `m_cancel` set the loop head gives up. -/
theorem disconnectionHandlerStep_not_attempt
    {s : Subscriber}
    (o : Outcome)
    {pc : HandlerPc}
    (hCancel : s.cancel = true)
    (hPc : pc ≠ .attempt) :
    handlerPcOf (disconnectionHandlerStep s o pc).cont ≠ some .attempt := by
  cases pc
  case attempt => exact absurd rfl hPc
  case loopHead =>
    have hStop : shouldReconnect s = false := by simp [shouldReconnect, hCancel]
    simp only [disconnectionHandlerStep, reconnectLoop, hStop, Bool.false_eq_true, if_false]
    split <;> simp [handlerPcOf]
  case afterConnect =>
    simp only [disconnectionHandlerStep, reconnectCheck]
    split <;> simp [handlerPcOf]
  case replay =>
    simp only [disconnectionHandlerStep, reconnectReplay]
    split <;> simp [handlerPcOf]
  all_goals simp [disconnectionHandlerStep, lockAndClearPings, finishReconnecting, Segment.done,
    handlerPcOf]

/- With `m_cancel` set, a step finds the handler to run an attempt only where it was already. -/
theorem step_handlerPc_attempt
    {c c' : Config}
    {a : Action}
    {new : List Event}
    (hShaped : c.StacksShaped)
    (hCancel : c.sub.cancel = true)
    (hStep : step c a = some (c', new))
    (hAttempt : handlerPcOf c'.io = some .attempt) :
    handlerPcOf c.io = some .attempt := by
  rcases step_frame hShaped hStep with
    ⟨pc, o, p, hIo, -, hResume⟩ | ⟨p, -, -, hIdle, hResume⟩ | ⟨-, hPc, -⟩
  · rw [hIo]
    by_cases hPc : pc = .attempt
    · rw [hPc]
      rfl
    · obtain rfl : c' = _ := congrArg Prod.fst hResume
      rw [Config.resume_io, if_pos rfl, handlerPcOf_resumeStack, List.append_nil] at hAttempt
      exact absurd hAttempt (disconnectionHandlerStep_not_attempt o hCancel hPc)
  · obtain rfl : c' = _ := congrArg Prod.fst hResume
    rw [Config.resume_io, if_pos rfl, handlerPcOf_resumeStack] at hAttempt
    simp [connectionDisconnectionHandler, hIdle, handlerPcOf] at hAttempt
  · rwa [← hPc]

/- With `m_cancel` set, a step's attempts and the count it leaves stay within the count. -/
theorem step_attemptsLeft
    {c c' : Config}
    {a : Action}
    {new : List Event}
    (hShaped : c.StacksShaped)
    (hCancel : c.sub.cancel = true)
    (hStep : step c a = some (c', new)) :
    new.countP Event.isReconnectAttempt + attemptsLeft c'.io ≤ attemptsLeft c.io := by
  have hKeep := step_handlerPc_attempt hShaped hCancel hStep
  rw [List.countP_eq_length_filter]
  rcases step_pendingReconnect hShaped hStep with
    ⟨o, -, hIo, hNone, -⟩ | ⟨hSame, hNone⟩ | ⟨_, _, _, _, _, hPending, hPending', hOne⟩
  · have hLeft : attemptsLeft c.io = 1 := by rw [hIo]; rfl
    rw [hNone, hLeft, List.length_nil, Nat.zero_add]
    exact attemptsLeft_le_one _
  · rw [hNone, List.length_nil, Nat.zero_add]
    unfold attemptsLeft
    rw [hSame]
    by_cases hAttempt : handlerPcOf c'.io = some .attempt
    · rw [if_pos hAttempt, if_pos (hKeep hAttempt)]
    · rw [if_neg hAttempt]
      omega
  · have hWaiting := handlerPcOf_of_pendingReconnect (by rw [hPending]; rfl)
    have hNotAttempt : handlerPcOf c'.io ≠ some .attempt := fun h => by
      rw [hKeep h] at hWaiting
      cases hWaiting
    simp [attemptsLeft, hOne, hPending, hPending', hNotAttempt, hWaiting]

------------------------------------------------------------
-- After a Cancel
------------------------------------------------------------

/- Once `m_cancel` is set, a continuation makes at most `attemptsLeft` attempts. -/
theorem attempts_after_cancel
    {c c' : Config}
    {events new : List Event}
    {acts : List Action}
    (hReach : Reachable c events)
    (hCancel : c.sub.cancel = true)
    (hExec : exec c acts = some (c', new)) :
    new.countP Event.isReconnectAttempt ≤ attemptsLeft c.io := by
  induction acts generalizing c events new with
  | nil =>
      cases hExec
      exact Nat.zero_le _
  | cons a acts ih =>
      obtain ⟨-, c₁, first, later, hStep, hRest, rfl⟩ := execAllowed_cons_eq_some hExec
      have hShaped := hReach.stacksShaped
      have hLater := ih (hReach.step trivial hStep) (step_cancel hShaped hCancel hStep) hRest
      have hFirst := step_attemptsLeft hShaped hCancel hStep
      rw [List.countP_append]
      omega

/- After a call of `cancel_reconnect()` the handler starts at most one transport connect. -/
theorem cancel_reconnect_bound
    {c c₁ c' : Config}
    {events first new : List Event}
    {t : ThreadId}
    {o : Outcome}
    {acts : List Action}
    (hReach : Reachable c events)
    (hCall : step c (.call t .cancelReconnect o) = some (c₁, first))
    (hExec : exec c₁ acts = some (c', new)) :
    new.countP Event.isReconnectAttempt ≤ 1 ∧
      (attemptsLeft c.io = 0 → new.countP Event.isReconnectAttempt = 0) := by
  have hBound := attempts_after_cancel (hReach.step trivial hCall) (step_cancel_call hCall) hExec
  rw [step_cancel_call_io hCall] at hBound
  exact ⟨hBound.trans (attemptsLeft_le_one _), fun hZero => by omega⟩

/- The `sleeping` notification calls `cancel_reconnect()`. -/
theorem cancel_reconnect_bound_from_sleeping :
    ∃ c events c₁ first c' new, Reachable c events ∧
      step c (.call .io .cancelReconnect .success) = some (c₁, first) ∧
      exec c₁ [.ret .io, .advance .io .success, .ret .io, .advance .io .success] = some (c', new) ∧
      new.countP Event.isReconnectAttempt = 1 ∧
      (new.countP Event.isReconnectAttempt ≤ 1 ∧
        (attemptsLeft c.io = 0 → new.countP Event.isReconnectAttempt = 0)) := by
  have ⟨c, events, c₁, first, c', new, hRun, hCall, hExec, hOne⟩ : ∃ c events c₁ first c' new,
      exec Config.init
        [.call (.other 0) (.connect "redis" 6379 (some (.user 1)) 0 (-1) 100 false) .success,
          .ret (.other 0), .advance (.other 0) .success, .ret (.other 0),
          .drop, .handleDrop, .ret .io, .advance .io .success, .advance .io .success] =
        some (c, events) ∧
      step c (.call .io .cancelReconnect .success) = some (c₁, first) ∧
      exec c₁ [.ret .io, .advance .io .success, .ret .io, .advance .io .success] =
        some (c', new) ∧
      new.countP Event.isReconnectAttempt = 1 :=
    ⟨_, _, _, _, _, _, rfl, rfl, rfl, rfl⟩
  have hReach : Reachable c events := run_of_exec _ .init hRun fun _ _ => trivial
  exact ⟨c, events, c₁, first, c', new, hReach, hCall, hExec, hOne,
    cancel_reconnect_bound hReach hCall hExec⟩

/- A cancel while the handler sleeps: the attempt still connects the transport. -/
theorem cancel_while_sleeping_still_connects :
    ∃ c c', exec Config.init
        [.call (.other 0) (.connect "redis" 6379 none 0 (-1) 100 false) .success,
          .advance (.other 0) .success, .drop, .handleDrop, .advance .io .success,
          .advance .io .success] =
        some (c, [.transportConnect false "redis" 6379 0 false true, .transportDrop]) ∧
      c.io = [.disconnectionHandler .attempt] ∧
      exec c [.call (.other 0) .cancelReconnect .success, .advance .io .success,
          .advance .io .success] =
        some (c', [.transportConnect true "redis" 6379 0 false true]) ∧
      c'.sub.cancel = true ∧ c'.sub.clientConnected = true :=
  ⟨_, _, rfl, rfl, rfl, rfl, rfl⟩

end RedisSubscriber
