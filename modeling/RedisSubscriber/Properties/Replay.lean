import RedisSubscriber.Properties.WireSync
import RedisSubscriber.SubscriberSteps

/-
  The replay of a reconnect attempt, after its `is_connected()`
  check. Inside an attempt the handler holds every mutex, so the
  replay sends the tables the attempt started with.
-/

------------------------------------------------------------
-- What Writes a Table
------------------------------------------------------------

namespace RedisSubscriber

theorem runOp_table
    {op : Op}
    (s : Subscriber)
    (o : Outcome)
    (hOp : op.changesSubscriptions = false)
    (t : Table) :
    (runOp s o op).sub.table t = s.table t := by
  cases op <;> simp only [Op.changesSubscriptions, reduceCtorEq] at hOp
  case connectSentinel =>
    simp only [runOp, connectSentinel]
    split <;> cases t <;> rfl
  all_goals cases t <;> rfl

/- Of the handler's steps, only the give-up at the loop head writes a table. -/
theorem disconnectionHandlerStep_table
    {pc : HandlerPc}
    (s : Subscriber)
    (o : Outcome)
    (hPc : pc ≠ .loopHead)
    (t : Table) :
    (disconnectionHandlerStep s o pc).sub.table t = s.table t := by
  cases pc <;> simp only [disconnectionHandlerStep]
  case loopHead => exact absurd rfl hPc
  case attempt =>
    unfold reconnect reconnectConnect
    dsimp only
    split <;> [cases t <;> rfl; split <;> cases t <;> rfl]
  case afterConnect =>
    unfold reconnectCheck
    split <;> rfl
  case replay => exact (reconnectReplay_sub s o).2.2 t
  all_goals cases t <;> rfl

theorem connectionReceiveHandler_table (s : Subscriber) (r : Reply) (t : Table) :
    (connectionReceiveHandler s r).sub.table t = s.table t := by
  rcases connectionReceiveHandler_cases s r with h | ⟨_, _, _, -, h⟩ | ⟨-, _, -, h⟩ |
    ⟨-, -, _, -, h⟩ | ⟨_, _, -, h⟩ <;> rw [h] <;> cases t <;> rfl

end RedisSubscriber
