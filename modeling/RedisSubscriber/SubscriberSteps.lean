import RedisSubscriber.Stacks

/-
  What a step does to the subscriber's members: it leaves them
  as they were or changes them by exactly one function of the
  source (`step_sub`). Frame properties of single members are
  proved from `SubChange`, one case per function.

  Main declarations:
    * `SubChange`, `step_sub`
-/

------------------------------------------------------------
-- The Functions That Write the Subscriber
------------------------------------------------------------

namespace RedisSubscriber

/- How a step from a configuration may leave the subscriber. -/
inductive SubChange (c : Config) : Action → Subscriber → Prop
  | call {t : ThreadId} {f : Frame} {rest : List Frame} {op : Op} {o : Outcome} :
      c.stack t = f :: rest → f.isUserCode = true → op.mutex?.all c.lockFree = true →
        SubChange c (.call t op o) (runOp c.sub o op).sub
  | transport {t : ThreadId} {rest : List Frame} {o : Outcome} {host : String} {port : Nat}
      {timeoutMs : Nat} {useEncryption : Bool} :
      c.stack t = .connectTransport host port timeoutMs useEncryption :: rest →
        SubChange c (.advance t o)
          (connectTransport c.sub (rest.head? = some (.disconnectionHandler .afterConnect))
            host port timeoutMs useEncryption o).sub
  | disarmAuth {o : Outcome} :
      c.io = [.disarmAuth] → SubChange c (.advance .io o) { c.sub with authReplyCallback := none }
  | disarmClientSetname {o : Outcome} :
      c.io = [.disarmClientSetname] →
        SubChange c (.advance .io o) { c.sub with clientSetnameReplyCallback := none }
  | finishPingMove {t : ThreadId} {rest : List Frame} {o : Outcome}
      {callbacks : List (Option Callback)} :
      c.stack t = .finishPingMove callbacks :: rest →
        SubChange c (.advance t o) { c.sub with pingCallbacks := [] }
  | handler {pc : HandlerPc} {o : Outcome} :
      c.io = [.disconnectionHandler pc] →
        SubChange c (.advance .io o) (disconnectionHandlerStep c.sub o pc).sub
  | receive {r : Reply} :
      c.io = [] → SubChange c (.receive r) (connectionReceiveHandler c.sub r).sub
  | handle :
      c.io = [] → c.sub.reconnecting = false →
        SubChange c .handleDrop (connectionDisconnectionHandler c.sub).sub
  | drop {a : Action} :
      c.sub.clientConnected = true → SubChange c a { c.sub with clientConnected := false }
  | same {a : Action} : SubChange c a c.sub

/- Every step changes the subscriber by one function of the source, or not at all. -/
theorem step_sub
    {c c' : Config}
    {a : Action}
    {new : List Event}
    (hShaped : c.StacksShaped)
    (hStep : step c a = some (c', new)) :
    SubChange c a c'.sub := by
  rcases step_cases hStep with
    ⟨t, rest, seg, hRuns, p, hResume⟩ | ⟨t, rest, -, -, rfl, -⟩ | ⟨-, rfl, -⟩ |
      ⟨-, hConnected, rfl, -⟩ | ⟨-, -, rfl, -⟩
  · obtain rfl : c' = _ := congrArg Prod.fst hResume
    rw [Config.resume_sub]
    cases hRuns with
    | call hStack hUser hLock => exact .call hStack hUser hLock
    | @advance t f rest o seg hStack hRun =>
        cases f with
        | main | callback => cases hRun
        | connectTransport =>
            cases hRun
            exact .transport hStack
        | unlock =>
            cases hRun
            exact .same
        | finishPingMove =>
            cases hRun
            exact .finishPingMove hStack
        | failureDelivery callbacks =>
            cases hRun
            unfold failPingCallback
            split <;> exact .same
        | disarmAuth | disarmClientSetname | disconnectionHandler =>
            obtain ⟨rfl, hBase⟩ := base_of_stacksShaped hShaped hStack rfl
            cases t with
            | other => cases hBase
            | io =>
                cases hRun
                first
                  | exact .disarmAuth hStack
                  | exact .disarmClientSetname hStack
                  | exact .handler hStack
    | receive hIo => exact .receive hIo
    | handle hIo hReconnecting => exact .handle hIo hReconnecting
  · rw [Config.sub_setStack]
    exact .same
  · exact .same
  · exact .drop hConnected
  · exact .same

end RedisSubscriber
