import RedisSubscriber.Commands

/-
  `connection_disconnection_handler` and `reconnect()` with its
  replay (subscriber.cpp, lines 511-665), cut wherever the
  receive thread invokes the connect callback or waits.
-/

------------------------------------------------------------
-- Entering the Handler and the Loop
------------------------------------------------------------

namespace RedisSubscriber

/- The connect callback's notification of a state, with the cached address. -/
def notify (s : Subscriber) (state : ConnectState) : Option (Callback × CallbackArg) :=
  s.connectCallback.map fun f => (f, .connectState s.redisServer s.redisPort state)

/- `connection_disconnection_handler` up to its locks. -/
def connectionDisconnectionHandler (s : Subscriber) : Segment :=
  if s.reconnecting then Segment.done s []
  else
    let s := { s with reconnecting := true, currentReconnectAttempts := 0 }
    { sub := s
      cont := [.disconnectionHandler .lockAll]
      events := []
      invoked := notify s .dropped }

/- Take the three mutexes, failing the pending pings under the first. -/
def lockAndClearPings (s : Subscriber) : Segment :=
  { finishPingMove s s.pingCallbacks with cont := [.disconnectionHandler .loopHead] }

/- `subscriber::should_reconnect`; `-1` means no limit. -/
def shouldReconnect (s : Subscriber) : Bool :=
  !s.clientConnected && !s.cancel &&
    (s.maxReconnects == -1 || decide (s.currentReconnectAttempts < s.maxReconnects))

/- `subscriber::sleep_before_next_reconnect_attempt`. -/
def sleepBeforeNextReconnectAttempt (s : Subscriber) : Segment :=
  { sub := s
    cont := [.disconnectionHandler .attempt]
    events := []
    invoked := if s.reconnectIntervalMs = 0 then none else notify s .sleeping }

/- `subscriber::clear_subscriptions`. -/
def clearSubscriptions (s : Subscriber) : Subscriber :=
  { s with subscribedChannels := .empty, psubscribedChannels := .empty }

/- The loop head `while (should_reconnect())` and the code after the loop. -/
def reconnectLoop (s : Subscriber) : Segment :=
  if shouldReconnect s then sleepBeforeNextReconnectAttempt s
  else if s.clientConnected then
    { sub := s, cont := [.disconnectionHandler .finish], events := [] }
  else
    let s := clearSubscriptions s
    { sub := s
      cont := [.disconnectionHandler .finish]
      events := []
      invoked := notify s .stopped }

/- `m_reconnecting = false`; the locks are released on return. -/
def finishReconnecting (s : Subscriber) : Segment :=
  Segment.done { s with reconnecting := false } []

------------------------------------------------------------
-- One Attempt
------------------------------------------------------------

/- The nested `connect(m_redis_server, …)` call of `reconnect()`. -/
def reconnectConnect (s : Subscriber) (lookup : List Event) : Segment :=
  let seg := connect s s.redisServer s.redisPort s.connectCallback s.connectTimeoutMs
    s.maxReconnects s.reconnectIntervalMs s.useEncryption
  { seg with
    cont := seg.cont ++ [.disconnectionHandler .afterConnect]
    events := lookup ++ seg.events }

/- `subscriber::reconnect` up to the transport connect. -/
def reconnect (s : Subscriber) (o : Outcome) : Segment :=
  let s := { s with currentReconnectAttempts := s.currentReconnectAttempts + 1 }
  if s.masterName.isEmpty then reconnectConnect s []
  else
    let s' := { s with redisServer := o.lookupHost, redisPort := o.lookupPort }
    let lookup := Event.sentinelLookup s.masterName o.lookupOk o.lookupHost o.lookupPort
    if o.lookupOk then reconnectConnect s' [lookup]
    else
      { sub := s'
        cont := [.disconnectionHandler .loopHead]
        events := [lookup]
        invoked := notify s' .lookupFailed }

/- After the nested `connect` returned or threw: `if (!is_connected())`. -/
def reconnectCheck (s : Subscriber) : Segment :=
  if s.clientConnected then
    { sub := s
      cont := [.disconnectionHandler .replay]
      events := []
      invoked := notify s .ok }
  else
    { sub := s
      cont := [.disconnectionHandler .loopHead]
      events := []
      invoked := notify s .failed }

------------------------------------------------------------
-- The Replay
------------------------------------------------------------

/- `subscriber::re_auth`: resend the cached password with a logging one-shot. -/
def reAuth (s : Subscriber) : Subscriber × List Event :=
  if s.password.isEmpty then (s, []) else auth s s.password (some .reAuthLog)

/- `subscriber::re_client_setname`: resend the cached name with a logging one-shot. -/
def reClientSetname (s : Subscriber) : Subscriber × List Event :=
  if s.clientName.isEmpty then (s, [])
  else clientSetname s s.clientName (some .reClientSetnameLog)

/- One loop of `re_subscribe`, over the entries in key order. -/
def reSubscribeTable (t : Table) (s : Subscriber) : Subscriber × List Event :=
  (s.table t).entries.foldl
    (fun acc entry =>
      let r := unprotectedSubscribeTo t acc.1 entry.1 entry.2.subscribeCallback
        entry.2.acknowledgementCallback
      (r.1, acc.2 ++ r.2))
    (s.setTable t .empty, [])

theorem foldl_reSubscribeTable
    (t : Table)
    (entries : List (String × CallbackHolder))
    (acc : Subscriber × List Event) :
    entries.foldl
        (fun acc entry =>
          let r := unprotectedSubscribeTo t acc.1 entry.1 entry.2.subscribeCallback
            entry.2.acknowledgementCallback
          (r.1, acc.2 ++ r.2))
        acc =
      (acc.1.setTable t (entries.foldl (fun m entry => m.insert entry.1 entry.2) (acc.1.table t)),
        acc.2 ++ entries.map fun entry => .send [t.subscribeCommand, entry.1]) := by
  induction entries generalizing acc with
  | nil => simp
  | cons entry entries ih =>
      rw [List.foldl_cons, ih]
      simp [unprotectedSubscribeTo]

/- Re-subscribing a table keeps it, and sends one command per key. -/
theorem reSubscribeTable_eq (t : Table) (s : Subscriber) :
    reSubscribeTable t s =
      (s, (s.table t).keys.map fun name => .send [t.subscribeCommand, name]) := by
  simp [reSubscribeTable, foldl_reSubscribeTable, ChannelMap.foldl_insert_entries,
    ChannelMap.keys]

/- `subscriber::re_subscribe`: channels, then patterns. -/
def reSubscribe (s : Subscriber) : Subscriber × List Event :=
  let channels := reSubscribeTable .channels s
  let patterns := reSubscribeTable .patterns channels.1
  (patterns.1, channels.2 ++ patterns.2)

theorem reSubscribe_eq (s : Subscriber) :
    reSubscribe s =
      (s, s.subscribedChannels.keys.map (fun name => .send ["SUBSCRIBE", name]) ++
        s.psubscribedChannels.keys.map fun name => .send ["PSUBSCRIBE", name]) := by
  simp only [reSubscribe, reSubscribeTable_eq]
  rfl

/- The end of `reconnect()`: the replay, then `commit()`, which may throw. -/
def reconnectReplay (s : Subscriber) (o : Outcome) : Segment :=
  let authed := reAuth s
  let named := reClientSetname authed.1
  let subscribed := reSubscribe named.1
  let committed := commitSucceeds subscribed.1 o
  { sub := subscribed.1
    cont := if committed then [.disconnectionHandler .loopHead] else []
    events := authed.2 ++ named.2 ++ subscribed.2 ++ [.commit committed] }

/- The replay keeps the connection, the flag and both tables. -/
theorem reconnectReplay_sub (s : Subscriber) (o : Outcome) :
    (reconnectReplay s o).sub.clientConnected = s.clientConnected ∧
      (reconnectReplay s o).sub.reconnecting = s.reconnecting ∧
      ∀ t, (reconnectReplay s o).sub.table t = s.table t := by
  simp only [reconnectReplay, reSubscribe_eq, reAuth, reClientSetname]
  split_ifs <;> exact ⟨rfl, rfl, fun t => by cases t <;> rfl⟩

/- The commands the replay is to send before its commit. -/
def replayCommands (s : Subscriber) : List Event :=
  (if s.password.isEmpty then [] else [.send ["AUTH", s.password]]) ++
    (if s.clientName.isEmpty then [] else [.send ["CLIENT", "SETNAME", s.clientName]]) ++
    s.subscribedChannels.keys.map (fun name => .send ["SUBSCRIBE", name]) ++
    s.psubscribedChannels.keys.map fun name => .send ["PSUBSCRIBE", name]

/- The replay sends exactly `replayCommands`, then commits. -/
theorem reconnectReplay_events (s : Subscriber) (o : Outcome) :
    (reconnectReplay s o).events =
      replayCommands s ++ [.commit (o.commitOk && s.clientConnected)] := by
  simp only [reconnectReplay, replayCommands, commitSucceeds, reSubscribe_eq, reAuth,
    reClientSetname, auth, clientSetname]
  split_ifs <;> simp only [List.nil_append, List.append_assoc, List.singleton_append, List.cons_append]

/- The replay ends with the commit, which succeeds only on a connected transport. -/
theorem reconnectReplay_commit (s : Subscriber) (o : Outcome) :
    Event.commit (o.commitOk && s.clientConnected) ∈ (reconnectReplay s o).events := by
  rw [reconnectReplay_events]
  exact List.mem_append_right _ (List.mem_singleton_self _)

theorem send_of_mem_replayCommands {s : Subscriber} {e : Event} (he : e ∈ replayCommands s) :
    ∃ command, e = .send command := by
  simp only [replayCommands, List.mem_append, List.mem_map] at he
  rcases he with ((he | he) | ⟨_, -, rfl⟩) | ⟨_, -, rfl⟩
  · split at he
    · cases he
    · exact ⟨_, List.mem_singleton.mp he⟩
  · split at he
    · cases he
    · exact ⟨_, List.mem_singleton.mp he⟩
  · exact ⟨_, rfl⟩
  · exact ⟨_, rfl⟩

/- The handler from one of its program points to the next. -/
def disconnectionHandlerStep (s : Subscriber) (o : Outcome) : HandlerPc → Segment
  | .lockAll => lockAndClearPings s
  | .loopHead => reconnectLoop s
  | .attempt => reconnect s o
  | .afterConnect => reconnectCheck s
  | .replay => reconnectReplay s o
  | .finish => finishReconnecting s

end RedisSubscriber
