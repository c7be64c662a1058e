import RedisSubscriber.Stacks

/-
  Where the disconnection handler is, and what the steps that
  are not its own do to it. The handler runs from the bottom
  frame of the receive thread (`handlerPcOf`); every other step
  keeps its point and `m_reconnecting` (`step_frame`).

  Main declarations:
    * `Runs.frame`, `step_frame`
    * `Run.reconnecting_of_handler`
-/

namespace RedisSubscriber

------------------------------------------------------------
-- Where the Handler Is
------------------------------------------------------------

/- The program point of the disconnection handler at the bottom of a stack. -/
def handlerPcOf (stack : List Frame) : Option HandlerPc :=
  match stack.getLast? with
  | some (.disconnectionHandler pc) => some pc
  | _ => none

theorem handlerPcOf_cons
    {f : Frame}
    (hf : f.isTransient = true)
    (stack : List Frame) :
    handlerPcOf (f :: stack) = handlerPcOf stack := by
  unfold handlerPcOf
  rw [List.getLast?_cons]
  cases stack.getLast? <;> cases f <;> simp_all [Frame.isTransient]

theorem handlerPcOf_append
    {upper : List Frame}
    (hUpper : ∀ g ∈ upper, g.isTransient = true)
    (stack : List Frame) :
    handlerPcOf (upper ++ stack) = handlerPcOf stack :=
  append_of_cons_isTransient handlerPcOf (fun _ stack hf => handlerPcOf_cons hf stack) hUpper stack

theorem handlerPcOf_resumeStack (rest : List Frame) (seg : Segment) :
    handlerPcOf (Config.resumeStack rest seg) = handlerPcOf (seg.cont ++ rest) := by
  unfold Config.resumeStack
  split
  · rfl
  · exact handlerPcOf_cons (f := .callback) rfl _

theorem Config.resume_io (c : Config) (t : ThreadId) (rest : List Frame) (seg : Segment) :
    (c.resume t rest seg).1.io = if t = .io then resumeStack rest seg else c.io := by
  have h := c.resume_stack t .io rest seg
  simp only [stack_io, reduceCtorEq, and_false, if_false] at h
  rw [h]
  by_cases hIo : t = .io <;> simp [hIo, eq_comm]


/- The replay hands the handler back to its loop head only when the commit succeeds. -/
theorem reconnectReplay_handlerPc (s : Subscriber) (o : Outcome) :
    handlerPcOf (reconnectReplay s o).cont =
      if o.commitOk && s.clientConnected then some .loopHead else none := by
  have hConnected := (reconnectReplay_sub s o).1
  unfold reconnectReplay at hConnected ⊢
  dsimp only at hConnected ⊢
  rw [commitSucceeds, hConnected]
  split <;> rfl

/- A callback's return leaves the handler where it was. -/
theorem handlerPcOf_setStack_of_callback
    {c : Config}
    {t : ThreadId}
    {rest : List Frame}
    (hStack : c.stack t = .callback :: rest) :
    handlerPcOf (c.setStack t rest).io = handlerPcOf c.io := by
  cases t with
  | io => rw [show c.io = _ from hStack]; exact (handlerPcOf_cons (f := .callback) rfl _).symm
  | other => rfl

/-
  A frame under which the handler waits for its nested connect
  sits on the receive thread, right above the handler.
-/
theorem nestedConnect_of_head
    {c : Config}
    {t : ThreadId}
    {f : Frame}
    {rest : List Frame}
    {pc : HandlerPc}
    (hShaped : c.StacksShaped)
    (hStack : c.stack t = f :: rest)
    (hHead : rest.head? = some (.disconnectionHandler pc)) :
    t = .io ∧ rest = [.disconnectionHandler pc] := by
  cases rest with
  | nil => cases hHead
  | cons g rest =>
      cases hHead
      have hTail := (stackShape_cons (hStack ▸ hShaped t)).1
      obtain ⟨rfl, hBase⟩ := (stackShape_cons hTail).2 rfl
      cases t with
      | io => exact ⟨rfl, rfl⟩
      | other => cases hBase

------------------------------------------------------------
-- Reconnect Attempts
------------------------------------------------------------

theorem runOp_reconnecting (s : Subscriber) (o : Outcome) (op : Op) :
    (runOp s o op).sub.reconnecting = s.reconnecting := by
  cases op
  case subscribe t _ _ _ => cases t <;> rfl
  case unsubscribe t name =>
    cases t <;> simp only [runOp, unsubscribe, punsubscribe, unsubscribeFrom] <;> split <;> rfl
  case connectSentinel =>
    simp only [runOp, connectSentinel]
    split <;> rfl
  case ping =>
    simp only [runOp, ping]
    split <;> rfl
  all_goals rfl

theorem resumeEvents_attempts (c : Config) (t : ThreadId) (rest : List Frame) (seg : Segment) :
    ∀ e ∈ c.resumeEvents t rest seg, e.isReconnectAttempt = false := by
  suffices h : (c.resumeEvents t rest seg).all (fun e => !e.isReconnectAttempt) = true by
    simpa [List.all_eq_true] using h
  unfold Config.resumeEvents
  rcases seg.invoked with _ | ⟨f, arg⟩ <;> split <;> rfl

/- No event of a list that passes the Boolean check is a reconnect attempt. -/
theorem not_reconnectAttempt_of_all
    {events : List Event}
    {P : Prop}
    (h : events.all (fun e => !e.isReconnectAttempt) = true) :
    ∀ e ∈ events, e.isReconnectAttempt = true → P := by
  intro e he hAttempt
  have hNot := List.all_eq_true.mp h e he
  rw [hAttempt] at hNot
  cases hNot

------------------------------------------------------------
-- Steps That Are Not the Handler's
------------------------------------------------------------

section Frame

variable {c c' : Config} {a : Action} {t : ThreadId} {rest : List Frame} {seg : Segment}

/-
  The code a step runs either is the handler's (its next point,
  or its entry on a drop), or keeps the handler's point and
  `m_reconnecting`, and attempts a reconnect only as the
  transport connect the handler waits for.
-/
theorem Runs.frame
    (hShaped : c.StacksShaped)
    (h : Runs c a t rest seg) :
    (∃ pc o, c.io = [.disconnectionHandler pc] ∧ a = .advance .io o ∧ t = .io ∧ rest = [] ∧
      seg = disconnectionHandlerStep c.sub o pc) ∨
    (a = .handleDrop ∧ c.io = [] ∧ c.sub.reconnecting = false ∧ t = .io ∧ rest = [] ∧
      seg = connectionDisconnectionHandler c.sub) ∨
    (seg.sub.reconnecting = c.sub.reconnecting ∧
      handlerPcOf (if t = .io then Config.resumeStack rest seg else c.io) = handlerPcOf c.io ∧
      ∀ e ∈ seg.events, e.isReconnectAttempt = true → handlerPcOf c.io = some .afterConnect) := by
  cases h with
  | @call t f rest op o hStack _ _ =>
      refine .inr (.inr ⟨runOp_reconnecting _ _ _, ?_, fun e he hAttempt => ?_⟩)
      · cases t with
        | io =>
            rw [if_pos rfl, handlerPcOf_resumeStack, handlerPcOf_append (runOp_cont _ _ _),
              show c.io = _ from hStack]
        | other => rfl
      · simp [(runOp_events _ _ _ e he).2.2] at hAttempt
  | @advance t f rest o seg hStack hRun =>
      cases f with
      | main | callback => cases hRun
      | connectTransport host port timeoutMs useEncryption =>
          cases hRun
          refine .inr (.inr ⟨by unfold connectTransport; split <;> rfl, ?_, fun e he hAttempt => ?_⟩)
          · cases t with
            | io =>
                rw [if_pos rfl, handlerPcOf_resumeStack, connectTransport_cont, List.nil_append,
                  show c.io = _ from hStack, handlerPcOf_cons (f := .connectTransport ..) rfl]
            | other => rfl
          · have hHead : rest.head? = some (.disconnectionHandler .afterConnect) := by
              rw [connectTransport_events, List.mem_singleton] at he
              subst he
              exact of_decide_eq_true hAttempt
            obtain ⟨rfl, rfl⟩ := nestedConnect_of_head hShaped hStack hHead
            rw [show c.io = _ from hStack]
            rfl
      | finishPingMove callbacks =>
          cases hRun
          refine .inr (.inr ⟨rfl, ?_, by simp [finishPingMove]⟩)
          cases t with
          | io =>
              rw [if_pos rfl, handlerPcOf_resumeStack, show c.io = _ from hStack,
                handlerPcOf_cons (f := .finishPingMove callbacks) rfl]
              rfl
          | other => rfl
      | disarmAuth | disarmClientSetname | unlock =>
          obtain ⟨rfl, hBase⟩ := base_of_stacksShaped hShaped hStack rfl
          cases hRun
          refine .inr (.inr ⟨rfl, ?_, by simp [Segment.done]⟩)
          cases t with
          | io => rw [show c.io = _ from hStack]; rfl
          | other => cases hBase
      | disconnectionHandler pc =>
          obtain ⟨rfl, hBase⟩ := base_of_stacksShaped hShaped hStack rfl
          cases t with
          | io =>
              cases hRun
              exact .inl ⟨pc, o, hStack, rfl, rfl, rfl, rfl⟩
          | other => cases hBase
      | failureDelivery callbacks =>
          obtain ⟨rfl, hBase⟩ := base_of_stacksShaped hShaped hStack rfl
          cases t with
          | io => cases hBase
          | other =>
              cases hRun
              cases callbacks <;> exact .inr (.inr ⟨rfl, rfl, not_reconnectAttempt_of_all rfl⟩)
  | @receive r hIo =>
      right; right
      rw [if_pos rfl, hIo, handlerPcOf_resumeStack]
      rcases connectionReceiveHandler_cases c.sub r with
        hSeg | ⟨_, _, _, _, hSeg⟩ | ⟨_, _, _, hSeg⟩ | ⟨_, _, _, _, hSeg⟩ | ⟨_, _, _, hSeg⟩ <;>
      rw [hSeg] <;> exact ⟨rfl, rfl, not_reconnectAttempt_of_all rfl⟩
  | handle hIo hReconnecting => exact .inr (.inl ⟨rfl, hIo, hReconnecting, rfl, rfl, rfl⟩)

/- `Runs.frame` for a whole step, with the configuration and trace it leaves. -/
theorem step_frame
    {new : List Event}
    (hShaped : c.StacksShaped)
    (hStep : step c a = some (c', new)) :
    (∃ pc o p, c.io = [.disconnectionHandler pc] ∧ a = .advance .io o ∧
      (c', new) = ({ c with pendingDrops := p }).resume .io [] (disconnectionHandlerStep c.sub o pc)) ∨
    (∃ p, a = .handleDrop ∧ c.io = [] ∧ c.sub.reconnecting = false ∧
      (c', new) = ({ c with pendingDrops := p }).resume .io [] (connectionDisconnectionHandler c.sub)) ∨
    (c'.sub.reconnecting = c.sub.reconnecting ∧ handlerPcOf c'.io = handlerPcOf c.io ∧
      ∀ e ∈ new, e.isReconnectAttempt = true → handlerPcOf c.io = some .afterConnect) := by
  rcases step_cases hStep with
    ⟨t, rest, seg, hRuns, p, hResume⟩ | ⟨t, rest, -, hStack, rfl, rfl⟩ | ⟨-, rfl, rfl⟩ |
      ⟨-, -, rfl, rfl⟩ | ⟨-, -, rfl, rfl⟩
  · rcases hRuns.frame hShaped with
      ⟨pc, o, hIo, rfl, rfl, rfl, rfl⟩ | ⟨rfl, hIo, hReconnecting, rfl, rfl, rfl⟩ |
        ⟨hReconnecting, hPc, hAttempts⟩
    · exact .inl ⟨pc, o, p, hIo, rfl, hResume⟩
    · exact .inr (.inl ⟨p, rfl, hIo, hReconnecting, hResume⟩)
    · obtain rfl : c' = _ := congrArg Prod.fst hResume
      obtain rfl : new = _ := congrArg Prod.snd hResume
      refine .inr (.inr ⟨by rw [Config.resume_sub, hReconnecting], by rw [Config.resume_io]; exact hPc,
        fun e he => ?_⟩)
      rw [Config.resume_events, List.mem_append] at he
      rcases he with he | he
      · exact hAttempts e he
      · simp [resumeEvents_attempts _ _ _ _ e he]
  · exact .inr (.inr ⟨by rw [Config.sub_setStack], handlerPcOf_setStack_of_callback hStack,
      by simp⟩)
  · exact .inr (.inr ⟨rfl, rfl, by simp⟩)
  · exact .inr (.inr ⟨rfl, rfl, not_reconnectAttempt_of_all rfl⟩)
  · exact .inr (.inr ⟨rfl, rfl, by simp⟩)

/- A step that advances a thread runs its top frame. -/
theorem step_advance
    {f : Frame}
    {o : Outcome}
    {new : List Event}
    (hStack : c.stack t = f :: rest)
    (hStep : step c (.advance t o) = some (c', new)) :
    ∃ seg p, f.run c.sub t rest o = some seg ∧
      (c', new) = ({ c with pendingDrops := p }).resume t rest seg := by
  rcases step_cases hStep with ⟨_, _, seg, hRuns, p, hResume⟩ | ⟨_, _, h, -⟩ | ⟨h, -⟩ |
    ⟨h, -⟩ | ⟨h, -⟩
  · cases hRuns with
    | advance hStack' hRun =>
        rw [hStack] at hStack'
        cases hStack'
        exact ⟨seg, p, hRun, hResume⟩
  all_goals cases h

/- The step that advances the handler runs its next point, whatever else is true. -/
theorem step_handler
    {pc : HandlerPc}
    {o : Outcome}
    {new : List Event}
    (hIo : c.io = [.disconnectionHandler pc])
    (hStep : step c (.advance .io o) = some (c', new)) :
    ∃ p, (c', new) = ({ c with pendingDrops := p }).resume .io [] (disconnectionHandlerStep c.sub o pc) := by
  obtain ⟨seg, p, hRun, hResume⟩ := step_advance (t := .io) hIo hStep
  cases hRun
  exact ⟨p, hResume⟩

end Frame

------------------------------------------------------------
-- The Attempt's Transport Connect
------------------------------------------------------------

/-
  The transport connect a reconnect attempt waits on: the frame
  right above the handler at its point after the nested
  `connect`.
-/
def pendingReconnect : List Frame → Option Frame
  | [] => none
  | [f@(.connectTransport ..), .disconnectionHandler .afterConnect] => some f
  | _ :: rest => pendingReconnect rest

@[simp] theorem pendingReconnect_callback (stack : List Frame) :
    pendingReconnect (.callback :: stack) = pendingReconnect stack := rfl

/- Frames pushed above user code leave the attempt's connect where it was. -/
theorem pendingReconnect_append_userCode
    {f : Frame}
    (hf : f.isUserCode = true)
    (upper rest : List Frame) :
    pendingReconnect (upper ++ f :: rest) = pendingReconnect (f :: rest) := by
  induction upper with
  | nil => rfl
  | cons g upper ih =>
      rw [List.cons_append, pendingReconnect.eq_3, ih]
      intro _ _ _ _ _ hLast
      cases upper with
      | nil =>
          obtain ⟨rfl, -⟩ := List.cons.inj hLast
          cases hf
      | cons _ _ => simp at hLast

theorem pendingReconnect_resumeStack (rest : List Frame) (seg : Segment) :
    pendingReconnect (Config.resumeStack rest seg) = pendingReconnect (seg.cont ++ rest) := by
  unfold Config.resumeStack
  split <;> rfl

/- A pending connect sits right above the handler after its nested `connect`. -/
theorem handlerPcOf_of_pendingReconnect
    {stack : List Frame}
    (h : (pendingReconnect stack).isSome = true) :
    handlerPcOf stack = some .afterConnect := by
  induction stack using pendingReconnect.induct with
  | case1 => cases h
  | case2 => rfl
  | case3 f rest hPattern ih =>
      rw [pendingReconnect.eq_3 f rest hPattern] at h
      cases rest with
      | nil => cases h
      | cons g rest =>
          simp only [handlerPcOf, List.getLast?_cons_cons] at ih ⊢
          exact ih h

/-
  Only an attempt leaves a pending connect, made with the
  members the attempt leaves cached.
-/
theorem disconnectionHandlerStep_pendingReconnect (s : Subscriber) (o : Outcome) (pc : HandlerPc) :
    pendingReconnect (disconnectionHandlerStep s o pc).cont = none ∨
      pc = .attempt ∧
        pendingReconnect (disconnectionHandlerStep s o pc).cont =
          some (.connectTransport (disconnectionHandlerStep s o pc).sub.redisServer
            (disconnectionHandlerStep s o pc).sub.redisPort
            (disconnectionHandlerStep s o pc).sub.connectTimeoutMs
            (disconnectionHandlerStep s o pc).sub.useEncryption) := by
  cases pc <;> simp only [disconnectionHandlerStep]
  case loopHead =>
    unfold reconnectLoop sleepBeforeNextReconnectAttempt
    exact .inl (by split <;> [rfl; split <;> rfl])
  case attempt =>
    unfold reconnect reconnectConnect
    dsimp only
    split <;> [exact .inr ⟨trivial, rfl⟩; split <;> [exact .inr ⟨trivial, rfl⟩; exact .inl rfl]]
  case afterConnect =>
    unfold reconnectCheck
    exact .inl (by split <;> rfl)
  case replay =>
    unfold reconnectReplay
    exact .inl (by dsimp only; split <;> rfl)
  all_goals exact .inl rfl

theorem connectTransport_reconnectAttempts
    (s : Subscriber)
    (byReconnect : Bool)
    (host : String)
    (port timeoutMs : Nat)
    (useEncryption : Bool)
    (o : Outcome) :
    (connectTransport s byReconnect host port timeoutMs useEncryption o).events.filter
      Event.isReconnectAttempt =
        if byReconnect then [.transportConnect true host port timeoutMs useEncryption o.connectOk]
        else [] := by
  rw [connectTransport_events]
  cases byReconnect <;> rfl

section Pending

variable {c c' : Config} {a : Action} {new : List Event}

/-
  The handler's attempt may leave a pending connect; its
  transport connect is the only reconnect attempt a step makes,
  and every other step keeps it.
-/
theorem step_pendingReconnect
    (hShaped : c.StacksShaped)
    (hStep : step c a = some (c', new)) :
    (∃ o, a = .advance .io o ∧ c.io = [.disconnectionHandler .attempt] ∧
        new.filter Event.isReconnectAttempt = [] ∧
        (pendingReconnect c'.io = none ∨
          pendingReconnect c'.io = some (.connectTransport c'.sub.redisServer c'.sub.redisPort
            c'.sub.connectTimeoutMs c'.sub.useEncryption))) ∨
    (pendingReconnect c'.io = pendingReconnect c.io ∧ new.filter Event.isReconnectAttempt = []) ∨
    (∃ host port timeoutMs useEncryption ok,
        pendingReconnect c.io = some (.connectTransport host port timeoutMs useEncryption) ∧
        pendingReconnect c'.io = none ∧
        new.filter Event.isReconnectAttempt =
          [.transportConnect true host port timeoutMs useEncryption ok]) := by
  rcases step_cases hStep with
    ⟨t, rest, seg, hRuns, p, hResume⟩ | ⟨t, rest, -, hStack, rfl, rfl⟩ | ⟨-, rfl, rfl⟩ |
      ⟨-, -, rfl, rfl⟩ | ⟨-, -, rfl, rfl⟩
  · obtain rfl : c' = _ := congrArg Prod.fst hResume
    obtain rfl : new = _ := congrArg Prod.snd hResume
    have hResumed : ∀ d : Config, (d.resumeEvents t rest seg).filter Event.isReconnectAttempt = [] :=
      fun d => List.filter_eq_nil_iff.mpr fun e he => by simp [resumeEvents_attempts d t rest seg e he]
    rw [Config.resume_io, Config.resume_events, Config.resume_sub, List.filter_append, hResumed,
      List.append_nil]
    cases hRuns with
    | @call t f rest op o hStack hUser _ =>
        refine .inr (.inl ⟨?_, List.filter_eq_nil_iff.mpr fun e he => by
          simp [(runOp_events _ _ _ e he).2.2]⟩)
        cases t with
        | io =>
            rw [if_pos rfl, pendingReconnect_resumeStack, pendingReconnect_append_userCode hUser,
              ← hStack]
            rfl
        | other => rfl
    | @advance t f rest o seg hStack hRun =>
        cases f with
        | main | callback => cases hRun
        | connectTransport host port timeoutMs useEncryption =>
            cases hRun
            rw [connectTransport_reconnectAttempts]
            by_cases hHead : rest.head? = some (.disconnectionHandler .afterConnect)
            · obtain ⟨rfl, rfl⟩ := nestedConnect_of_head hShaped hStack hHead
              refine .inr (.inr ⟨host, port, timeoutMs, useEncryption, o.connectOk, ?_, ?_, ?_⟩)
              · rw [show c.io = _ from hStack]
                rfl
              · rw [if_pos rfl, pendingReconnect_resumeStack, connectTransport_cont]
                rfl
              · rw [decide_eq_true hHead, if_pos rfl]
            · rw [decide_eq_false hHead, if_neg Bool.false_ne_true]
              refine .inr (.inl ⟨?_, rfl⟩)
              cases t with
              | io =>
                  have hRest : rest ≠ [.disconnectionHandler .afterConnect] := by
                    rintro rfl
                    exact hHead rfl
                  rw [if_pos rfl, show c.io = _ from hStack, pendingReconnect_resumeStack,
                    connectTransport_cont, List.nil_append,
                    pendingReconnect.eq_3 _ _ fun _ _ _ _ _ => hRest]
              | other => rfl
        | finishPingMove callbacks =>
            cases hRun
            refine .inr (.inl ⟨?_, rfl⟩)
            cases t with
            | io =>
                rw [if_pos rfl, pendingReconnect_resumeStack, show c.io = _ from hStack]
                rfl
            | other => rfl
        | disarmAuth | disarmClientSetname | unlock =>
            cases hRun
            refine .inr (.inl ⟨?_, rfl⟩)
            cases t with
            | io =>
                obtain ⟨rfl, -⟩ := base_of_stacksShaped hShaped hStack rfl
                rw [if_pos rfl, show c.io = _ from hStack]
                rfl
            | other => rfl
        | failureDelivery callbacks =>
            obtain ⟨rfl, hBase⟩ := base_of_stacksShaped hShaped hStack rfl
            cases t with
            | io => cases hBase
            | other =>
                cases hRun
                refine .inr (.inl ⟨rfl, ?_⟩)
                cases callbacks <;> rfl
        | disconnectionHandler pc =>
            obtain ⟨rfl, hBase⟩ := base_of_stacksShaped hShaped hStack rfl
            cases t with
            | io =>
                cases hRun
                have hEvents : (disconnectionHandlerStep c.sub o pc).events.filter
                    Event.isReconnectAttempt = [] :=
                  List.filter_eq_nil_iff.mpr fun e he => by
                    simp [(disconnectionHandlerStep_events _ _ _ e he).2.2]
                rw [if_pos rfl, pendingReconnect_resumeStack, List.append_nil, hEvents]
                rcases disconnectionHandlerStep_pendingReconnect c.sub o pc with hNone | ⟨rfl, hSome⟩
                · refine .inr (.inl ⟨?_, rfl⟩)
                  rw [hNone, show c.io = _ from hStack]
                  rfl
                · exact .inl ⟨o, rfl, hStack, rfl, .inr hSome⟩
            | other => cases hBase
    | @receive r hIo =>
        rw [if_pos rfl, hIo, pendingReconnect_resumeStack]
        rcases connectionReceiveHandler_cases c.sub r with h | ⟨_, _, _, -, h⟩ | ⟨-, _, -, h⟩ |
          ⟨-, -, _, -, h⟩ | ⟨_, _, -, h⟩ <;> rw [h] <;>
          exact .inr (.inl ⟨rfl, rfl⟩)
    | handle hIo hReconnecting =>
        refine .inr (.inl ⟨?_, ?_⟩)
        · rw [if_pos rfl, hIo, pendingReconnect_resumeStack]
          simp only [connectionDisconnectionHandler, hReconnecting]
          rfl
        · simp [connectionDisconnectionHandler, hReconnecting]
  · refine .inr (.inl ⟨?_, rfl⟩)
    cases t with
    | io => simp [Config.setStack, show c.io = _ from hStack]
    | other => rfl
  · exact .inr (.inl ⟨rfl, rfl⟩)
  · exact .inr (.inl ⟨rfl, rfl⟩)
  · exact .inr (.inl ⟨rfl, rfl⟩)

end Pending

------------------------------------------------------------
-- The Flag While the Handler Runs
------------------------------------------------------------

/- The handler clears `m_reconnecting` only at its last point. -/
theorem disconnectionHandlerStep_reconnecting
    {pc : HandlerPc}
    (s : Subscriber)
    (o : Outcome)
    (hPc : pc ≠ .finish) :
    (disconnectionHandlerStep s o pc).sub.reconnecting = s.reconnecting := by
  cases pc <;> simp only [disconnectionHandlerStep]
  case loopHead =>
    unfold reconnectLoop sleepBeforeNextReconnectAttempt
    split <;> [rfl; split <;> rfl]
  case attempt =>
    unfold reconnect reconnectConnect
    dsimp only
    split <;> [rfl; split <;> rfl]
  case afterConnect =>
    unfold reconnectCheck
    split <;> rfl
  case replay => exact (reconnectReplay_sub s o).2.1
  case finish => exact absurd rfl hPc
  case lockAll => rfl

/- While the handler runs, `m_reconnecting` is set. -/
theorem Run.reconnecting_of_handler
    {allow : Config → Action → Prop}
    {c : Config}
    {events : List Event}
    (h : Run allow c events)
    (hRunning : (handlerPcOf c.io).isSome = true) :
    c.sub.reconnecting = true := by
  induction h with
  | init => simp [Config.init, handlerPcOf] at hRunning
  | @step c c' events new a hRun _ hStep ih =>
      rcases step_frame hRun.stacksShaped hStep with
        ⟨pc, o, p, hIo, rfl, hResume⟩ | ⟨p, rfl, -, hIdle, hResume⟩ | ⟨hReconnecting, hPc, -⟩
      · obtain rfl : c' = _ := congrArg Prod.fst hResume
        rw [Config.resume_io, if_pos rfl, handlerPcOf_resumeStack, List.append_nil] at hRunning
        rw [Config.resume_sub]
        by_cases hFinish : pc = .finish
        · subst hFinish
          simp [disconnectionHandlerStep, finishReconnecting, Segment.done, handlerPcOf] at hRunning
        · rw [disconnectionHandlerStep_reconnecting c.sub o hFinish]
          exact ih (by rw [hIo]; rfl)
      · obtain rfl : c' = _ := congrArg Prod.fst hResume
        simp [connectionDisconnectionHandler, hIdle]
      · rw [hReconnecting]
        exact ih (hPc ▸ hRunning)

end RedisSubscriber
