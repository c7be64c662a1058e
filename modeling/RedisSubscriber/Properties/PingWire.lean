import RedisSubscriber.Properties.PingMove

/-
  The `PING` commands on the wire against the ping queue.

  `ping()` sends its `PING` and pushes its callback in one
  critical section, and no other code sends `PING` or pushes a
  callback (`step_pingTraffic`). With the ledger, the callbacks
  of the `PING`s sent are the consumed ones followed by the
  queue, over the runs the ledger holds on
  (`ping_commands_paired`); a `ping` inside the unlocked move of
  `disconnect` is lost.
-/

------------------------------------------------------------
-- Ping Traffic
------------------------------------------------------------

namespace RedisSubscriber

/- Whether an event hands a `PING` command to the transport or pushes a ping callback. -/
def Event.isPingTraffic : Event → Bool
  | .send ("PING" :: _) => true
  | .pingPush _ => true
  | _ => false

/- What one call of `ping(message, callback)` records: its command, then its push. -/
def pingEvents (message : String) (callback : Option Callback) : List Event :=
  [.send (if message.isEmpty then ["PING"] else ["PING", message]), .pingPush callback]

/- The ping traffic of a method: `ping`'s, and none for the others. -/
def Op.pingTraffic : Op → List Event
  | .ping message callback => pingEvents message callback
  | _ => []

/- The ping traffic of an action: that of the method a call runs. -/
def Action.pingTraffic : Action → List Event
  | .call _ op _ => op.pingTraffic
  | _ => []

theorem filter_pingTraffic_eq_nil
    {events : List Event}
    (h : events.all (fun e => !e.isPingTraffic) = true) :
    events.filter Event.isPingTraffic = [] :=
  List.filter_eq_nil_iff.mpr fun e he => by
    simpa using List.all_eq_true.mp h e he

theorem replayCommands_pingTraffic (s : Subscriber) :
    (replayCommands s).filter Event.isPingTraffic = [] := by
  refine filter_pingTraffic_eq_nil ?_
  simp only [replayCommands, List.all_append, Bool.and_eq_true]
  refine ⟨⟨⟨?_, ?_⟩, ?_⟩, ?_⟩
  · split <;> rfl
  · split <;> rfl
  all_goals
    refine List.all_eq_true.mpr fun e he => ?_
    obtain ⟨_, -, rfl⟩ := List.mem_map.mp he
    rfl

theorem runOp_pingTraffic (s : Subscriber) (o : Outcome) (op : Op) :
    (runOp s o op).events.filter Event.isPingTraffic = op.pingTraffic := by
  cases op
  case ping message callback =>
    simp only [runOp, ping, Segment.done, Op.pingTraffic, pingEvents]
    split <;> rfl
  all_goals refine filter_pingTraffic_eq_nil ?_
  case subscribe t _ _ _ => cases t <;> rfl
  case unsubscribe t _ =>
    cases t <;> simp only [runOp, unsubscribe, punsubscribe, unsubscribeFrom] <;> split <;> rfl
  case connectSentinel =>
    simp only [runOp, connectSentinel]
    split <;> rfl
  all_goals rfl

theorem disconnectionHandlerStep_pingTraffic (s : Subscriber) (o : Outcome) (pc : HandlerPc) :
    (disconnectionHandlerStep s o pc).events.filter Event.isPingTraffic = [] := by
  cases pc <;> simp only [disconnectionHandlerStep]
  case replay =>
    rw [reconnectReplay_events, List.filter_append, replayCommands_pingTraffic]
    rfl
  all_goals refine filter_pingTraffic_eq_nil ?_
  case loopHead =>
    unfold reconnectLoop
    split <;> [rfl; split <;> rfl]
  case attempt =>
    unfold reconnect reconnectConnect
    dsimp only
    split <;> [rfl; split <;> rfl]
  case afterConnect =>
    unfold reconnectCheck
    split <;> rfl
  all_goals rfl

theorem Runs.pingTraffic
    {c : Config}
    {a : Action}
    {t : ThreadId}
    {rest : List Frame}
    {seg : Segment}
    (h : Runs c a t rest seg) :
    seg.events.filter Event.isPingTraffic = a.pingTraffic := by
  cases h with
  | call => exact runOp_pingTraffic _ _ _
  | @advance _ f _ _ _ _ hRun =>
      cases f <;> cases hRun
      case disconnectionHandler.refl => exact disconnectionHandlerStep_pingTraffic _ _ _
      case connectTransport.refl =>
        rw [connectTransport_events]
        rfl
      case failureDelivery.refl =>
        unfold failPingCallback
        split <;> rfl
      all_goals rfl
  | @receive r _ =>
      rcases connectionReceiveHandler_cases c.sub r with h | ⟨_, _, _, -, h⟩ | ⟨-, _, -, h⟩ |
        ⟨-, -, _, -, h⟩ | ⟨_, _, -, h⟩ <;> rw [h] <;> rfl
  | handle =>
      unfold connectionDisconnectionHandler
      split <;> rfl

theorem resumeEvents_pingTraffic (c : Config) (t : ThreadId) (rest : List Frame) (seg : Segment) :
    (c.resumeEvents t rest seg).filter Event.isPingTraffic = [] := by
  unfold Config.resumeEvents
  cases seg.invoked <;> split <;> rfl

/- The ping traffic of every step is the `PING` and the push of the `ping` call it runs, if any. -/
theorem step_pingTraffic
    {c c' : Config}
    {a : Action}
    {new : List Event}
    (hStep : step c a = some (c', new)) :
    new.filter Event.isPingTraffic = a.pingTraffic := by
  rcases step_cases hStep with
    ⟨t, rest, seg, hRuns, p, hResume⟩ | ⟨_, _, rfl, -, -, rfl⟩ | ⟨rfl, -, rfl⟩ |
      ⟨rfl, -, -, rfl⟩ | ⟨rfl, -, -, rfl⟩
  · obtain rfl : new = _ := congrArg Prod.snd hResume
    rw [Config.resume_events, List.filter_append, hRuns.pingTraffic, resumeEvents_pingTraffic,
      List.append_nil]
  all_goals rfl

------------------------------------------------------------
-- Ping Traffic over Whole Runs
------------------------------------------------------------

theorem Run.pingTraffic
    {allow : Config → Action → Prop}
    {c : Config}
    {events : List Event}
    (h : Run allow c events) :
    ∃ pings : List (String × Option Callback),
      events.filter Event.isPingTraffic = pings.flatMap fun p => pingEvents p.1 p.2 := by
  induction h with
  | init => exact ⟨[], rfl⟩
  | @step c c' events new a _ _ hStep ih =>
      obtain ⟨pings, hPings⟩ := ih
      have hNew : ∃ pings' : List (String × Option Callback),
          new.filter Event.isPingTraffic = pings'.flatMap fun p => pingEvents p.1 p.2 := by
        rw [step_pingTraffic hStep]
        cases a with
        | call _ op _ =>
            cases op with
            | ping message callback => exact ⟨[(message, callback)], (List.append_nil _).symm⟩
            | _ => exact ⟨[], rfl⟩
        | _ => exact ⟨[], rfl⟩
      obtain ⟨pings', hPings'⟩ := hNew
      exact ⟨pings ++ pings', by rw [List.filter_append, hPings, hPings', List.flatMap_append]⟩

/- The pushes of a run are those of its ping traffic. -/
theorem flatMap_pingPushed_filter (events : List Event) :
    (events.filter Event.isPingTraffic).flatMap Event.pingPushed =
      events.flatMap Event.pingPushed := by
  induction events with
  | nil => rfl
  | cons e events ih =>
      rw [List.filter_cons, List.flatMap_cons, ← ih]
      cases e <;> try rfl
      case send command =>
        split <;> rfl

theorem pingEvents_pingPushed (pings : List (String × Option Callback)) :
    (pings.flatMap fun p => pingEvents p.1 p.2).flatMap Event.pingPushed = pings.map Prod.snd := by
  induction pings with
  | nil => rfl
  | cons p pings ih =>
      rw [List.flatMap_cons, List.flatMap_append, ih]
      rfl

/-
  Over the runs the exclusion admits, each `PING` is followed by
  the push of its callback, and the callbacks of the `PING`s
  sent are the consumed entries followed by the queue.
-/
theorem ping_commands_paired
    {c : Config}
    {events : List Event}
    (hRun : Run (fun c a => pingMoveExclusive c a = true) c events) :
    ∃ pings : List (String × Option Callback),
      events.filter Event.isPingTraffic = pings.flatMap (fun p => pingEvents p.1 p.2) ∧
        pings.map Prod.snd = events.flatMap Event.pingConsumed ++ c.sub.pingCallbacks := by
  obtain ⟨pings, hPings⟩ := hRun.pingTraffic
  refine ⟨pings, hPings, ?_⟩
  rw [← pingEvents_pingPushed, ← hPings, flatMap_pingPushed_filter, (Run.pingLedger hRun).1.queue]

/- Two pings, the first answered by a pong. -/
theorem ping_commands_paired_after_pong :
    ∃ c events, Run (fun c a => pingMoveExclusive c a = true) c events ∧
      events.filter Event.isPingTraffic = pingEvents "" (some (.user 1)) ++ pingEvents "x" none ∧
      ∃ pings : List (String × Option Callback),
        events.filter Event.isPingTraffic = pings.flatMap (fun p => pingEvents p.1 p.2) ∧
          pings.map Prod.snd = events.flatMap Event.pingConsumed ++ c.sub.pingCallbacks := by
  have ⟨c, events, hExec, hTraffic⟩ : ∃ c events,
      execAllowed pingMoveExclusive Config.init
        [.call (.other 0) (.connect "redis" 6379 none 0 (-1) 0 false) .success,
          .advance (.other 0) .success,
          .call (.other 0) (.ping "" (some (.user 1))) .success,
          .call (.other 0) (.ping "x" none) .success,
          .receive (.array [.string "pong" .simpleString, .string "" .bulkString]),
          .ret .io] = some (c, events) ∧
      events.filter Event.isPingTraffic = pingEvents "" (some (.user 1)) ++ pingEvents "x" none :=
    ⟨_, _, rfl, rfl⟩
  have hRun := run_of_execAllowed _ .init hExec
  rw [List.nil_append] at hRun
  exact ⟨c, events, hRun, hTraffic, ping_commands_paired hRun⟩

/- A second thread's `ping` inside the move is neither consumed nor queued. -/
theorem ping_during_disconnect_is_lost :
    ∃ c events, Reachable c events ∧
      events.filter Event.isPingTraffic =
        pingEvents "" (some (.user 1)) ++ pingEvents "x" (some (.user 2)) ∧
      events.flatMap Event.pingConsumed ++ c.sub.pingCallbacks = [some (.user 1)] := by
  have ⟨c, events, hExec, hFacts⟩ : ∃ c events,
      exec Config.init
        [.call (.other 0) (.connect "redis" 6379 none 0 (-1) 0 false) .success,
          .advance (.other 0) .success,
          .call (.other 0) (.ping "" (some (.user 1))) .success,
          .spawn,
          .call (.other 0) (.disconnect false) .success,
          .call (.other 1) (.ping "x" (some (.user 2))) .success,
          .advance (.other 0) .success] = some (c, events) ∧
      events.filter Event.isPingTraffic =
        pingEvents "" (some (.user 1)) ++ pingEvents "x" (some (.user 2)) ∧
      events.flatMap Event.pingConsumed ++ c.sub.pingCallbacks = [some (.user 1)] :=
    ⟨_, _, rfl, rfl, rfl⟩
  exact ⟨c, events, run_of_exec _ .init hExec fun _ _ => trivial, hFacts⟩

end RedisSubscriber
