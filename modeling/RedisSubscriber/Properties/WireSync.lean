import RedisSubscriber.Properties.Locking
import RedisSubscriber.Handler

/-
  The subscription tables against the subscription commands
  on the wire.

  The wire set of a table folds the subscribe and unsubscribe
  commands sent since the transport last dropped or was
  disconnected (`wireSet`). The tables equal the wire sets
  whenever the transport is connected, outside an attempt
  between its nested connect and its commit, over the runs in
  which callers change subscriptions only while connected and
  a caller's connect reaches the transport only with empty
  tables (`wire_sync`). Without either restriction the law
  fails.

  Main declarations:
    * `SyncState.step`
    * `wire_sync`
-/

------------------------------------------------------------
-- Wire Sets
------------------------------------------------------------

namespace RedisSubscriber

/- How one event of the trace changes the wire set of a table. -/
def Table.wireStep (t : Table) (wire : Finset String) : Event → Finset String
  | .send [command, name] =>
      if command = t.subscribeCommand then insert name wire
      else if command = t.unsubscribeCommand then wire.erase name
      else wire
  | .transportDrop => ∅
  | .transportDisconnect => ∅
  | _ => wire

/- The wire set of a table after a trace. -/
def wireSet (t : Table) (events : List Event) : Finset String :=
  events.foldl t.wireStep ∅

theorem wireSet_append (t : Table) (events new : List Event) :
    wireSet t (events ++ new) = new.foldl t.wireStep (wireSet t events) :=
  List.foldl_append _ _ _ _

theorem foldl_wireStep_resumeEvents
    (c : Config) (t : ThreadId) (rest : List Frame) (seg : Segment)
    (tb : Table) (wire : Finset String) :
    (c.resumeEvents t rest seg).foldl tb.wireStep wire = wire := by
  unfold Config.resumeEvents
  cases seg.invoked <;> split <;> rfl

------------------------------------------------------------
-- Where the Handler Is
------------------------------------------------------------

/- The handler's points inside an attempt: from the attempt to its replay. -/
def HandlerPc.inAttempt : HandlerPc → Bool
  | .attempt => true
  | .afterConnect => true
  | .replay => true
  | _ => false

/- The handler's points between an attempt's nested connect and its commit. -/
def HandlerPc.inReplayWindow : HandlerPc → Bool
  | .afterConnect => true
  | .replay => true
  | _ => false

/- Whether the receive thread is between an attempt's nested connect and its commit. -/
def Config.inReplayWindow (c : Config) : Bool :=
  (handlerPcOf c.io).any HandlerPc.inReplayWindow

------------------------------------------------------------
-- The Usage the Law Asks
------------------------------------------------------------

/- `subscribe`, `psubscribe`, `unsubscribe` and `punsubscribe`. -/
def Op.changesSubscriptions : Op → Bool
  | .subscribe .. => true
  | .unsubscribe .. => true
  | _ => false

/- Whether a thread is at the transport connect of a caller's `connect()`. -/
def Config.atCallerConnect (c : Config) (t : ThreadId) : Bool :=
  match c.stack t with
  | .connectTransport .. :: rest => rest.head? != some (.disconnectionHandler .afterConnect)
  | _ => false

/-
  Callers change subscriptions only while the transport is
  connected, and a caller's `connect()` reaches a successful
  transport connect only while both tables are empty.
-/
def syncDiscipline (c : Config) : Action → Bool
  | .call _ op _ => !op.changesSubscriptions || c.sub.clientConnected
  | .advance t o =>
      !(c.atCallerConnect t && o.connectOk) ||
        (c.sub.subscribedChannels.keys.isEmpty && c.sub.psubscribedChannels.keys.isEmpty)
  | _ => true

------------------------------------------------------------
-- The Invariant
------------------------------------------------------------

/-
  The subscriber, the handler's point and the wire sets agree;
  while disconnected the wire sets are empty, except after a
  replay whose commit threw.
-/
structure SyncState
    (s : Subscriber)
    (pc : Option HandlerPc)
    (wire : Table → Finset String) : Prop where
  reconnecting : pc.isSome = true → s.reconnecting = true
  attempt : ∀ t, pc.any HandlerPc.inAttempt = true → wire t = ∅
  connected : ∀ t, s.clientConnected = true → pc.any HandlerPc.inReplayWindow = false →
    (s.table t).keySet = wire t
  disconnected : ∀ t, s.clientConnected = false →
    wire t = ∅ ∨ (wire t = (s.table t).keySet ∧ s.reconnecting = true ∧ pc = none)

/- The invariant of a configuration and its trace. -/
def WireSync (c : Config) (events : List Event) : Prop :=
  SyncState c.sub (handlerPcOf c.io) fun t => wireSet t events

theorem WireSync.init : WireSync Config.init [] where
  reconnecting := by simp [Config.init, handlerPcOf]
  attempt := by simp [Config.init, handlerPcOf]
  connected := by simp [Config.init, Subscriber.init]
  disconnected := fun _ _ => .inl rfl

------------------------------------------------------------
-- What Segments Do to the Invariant
------------------------------------------------------------

theorem HandlerPc.inReplayWindow_of_inAttempt {pc : Option HandlerPc}
    (h : pc.any HandlerPc.inAttempt = false) : pc.any HandlerPc.inReplayWindow = false := by
  rcases pc with _ | ⟨_ | _ | _ | _ | _ | _⟩ <;> simp_all [HandlerPc.inAttempt, HandlerPc.inReplayWindow]

section Segments

variable {s s' : Subscriber} {pc : Option HandlerPc} {wire : Table → Finset String}

/- Code that changes neither the connection, the tables nor the wire sets. -/
theorem SyncState.quiet
    {events : List Event}
    (h : SyncState s pc wire)
    (hConnected : s'.clientConnected = s.clientConnected)
    (hReconnecting : s'.reconnecting = s.reconnecting)
    (hTables : ∀ t, s'.table t = s.table t)
    (hWire : ∀ (t : Table) (w : Finset String), events.foldl t.wireStep w = w) :
    SyncState s' pc fun t => events.foldl t.wireStep (wire t) where
  reconnecting hPc := hReconnecting ▸ h.reconnecting hPc
  attempt t hPc := by rw [hWire]; exact h.attempt t hPc
  connected t hc hw := by rw [hWire, hTables]; exact h.connected t (hConnected ▸ hc) hw
  disconnected t hc := by
    rw [hWire, hTables, hReconnecting]
    exact h.disconnected t (hConnected ▸ hc)

/- A drop or a `disconnect()`: the transport is down and the wire sets are empty. -/
theorem SyncState.reset
    {events : List Event}
    (h : SyncState s pc wire)
    (hConnected : s'.clientConnected = false)
    (hReconnecting : s'.reconnecting = s.reconnecting)
    (hWire : ∀ (t : Table) (w : Finset String), events.foldl t.wireStep w = ∅) :
    SyncState s' pc fun t => events.foldl t.wireStep (wire t) where
  reconnecting hPc := hReconnecting ▸ h.reconnecting hPc
  attempt t _ := hWire t _
  connected _ hc := by simp [hConnected] at hc
  disconnected t _ := .inl (hWire t _)

/-
  `subscribe` and `unsubscribe` while connected and outside an
  attempt: the command changes the wire set as the method
  changes the table.
-/
theorem SyncState.lockstep
    {events : List Event}
    (h : SyncState s pc wire)
    (hConnected : s.clientConnected = true)
    (hIdle : pc.any HandlerPc.inAttempt = false)
    (g : Table → Finset String → Finset String)
    (hConnected' : s'.clientConnected = true)
    (hReconnecting : s'.reconnecting = s.reconnecting)
    (hTables : ∀ t, (s'.table t).keySet = g t (s.table t).keySet)
    (hWire : ∀ (t : Table) (w : Finset String), events.foldl t.wireStep w = g t w) :
    SyncState s' pc fun t => events.foldl t.wireStep (wire t) where
  reconnecting hPc := hReconnecting ▸ h.reconnecting hPc
  attempt _ hPc := by simp [hIdle] at hPc
  connected t _ hw := by
    rw [hWire, hTables, h.connected t hConnected hw]
  disconnected _ hc := by simp [hConnected'] at hc

end Segments

------------------------------------------------------------
-- The Commands of Each Method
------------------------------------------------------------

theorem wireStep_send_subscribe (t t' : Table) (name : String) (w : Finset String) :
    t.wireStep w (.send [t'.subscribeCommand, name]) = if t' = t then insert name w else w := by
  cases t <;> cases t' <;> simp [Table.wireStep, Table.subscribeCommand, Table.unsubscribeCommand]

theorem wireStep_send_unsubscribe (t t' : Table) (name : String) (w : Finset String) :
    t.wireStep w (.send [t'.unsubscribeCommand, name]) = if t' = t then w.erase name else w := by
  cases t <;> cases t' <;> simp [Table.wireStep, Table.subscribeCommand, Table.unsubscribeCommand]

theorem runOp_subscribe
    (s : Subscriber) (o : Outcome) (t : Table) (name : String) (callback : Callback)
    (ack : Option Callback) :
    runOp s o (.subscribe t name callback ack) =
      Segment.done (s.setTable t ((s.table t).insert name ⟨callback, ack⟩))
        [.send [t.subscribeCommand, name]] := by
  cases t <;> rfl

theorem runOp_unsubscribe (s : Subscriber) (o : Outcome) (t : Table) (name : String) :
    runOp s o (.unsubscribe t name) = Segment.done (unsubscribeFrom t s name).1
      (unsubscribeFrom t s name).2 := by
  cases t <;> rfl

/- The methods that leave the connection, the tables and the wire sets alone. -/
theorem runOp_wire_quiet
    (s : Subscriber)
    (o : Outcome)
    {op : Op}
    (hSubscriptions : op.changesSubscriptions = false)
    (hDisconnect : ∀ w, op ≠ .disconnect w) :
    (runOp s o op).sub.clientConnected = s.clientConnected ∧
      (runOp s o op).sub.reconnecting = s.reconnecting ∧
      (∀ t, (runOp s o op).sub.table t = s.table t) ∧
      ∀ (t : Table) (w : Finset String), (runOp s o op).events.foldl t.wireStep w = w := by
  cases op
  case connectSentinel =>
    unfold runOp connectSentinel
    dsimp only
    split <;> exact ⟨rfl, rfl, fun t => by cases t <;> rfl,
      fun t w => by simp [connect, Segment.done, Table.wireStep]⟩
  case ping message _ =>
    refine ⟨rfl, rfl, fun t => by cases t <;> rfl, fun t w => ?_⟩
    simp only [runOp, ping, Segment.done]
    split <;> cases t <;> simp [Table.wireStep, Table.subscribeCommand, Table.unsubscribeCommand]
  case subscribe | unsubscribe => simp [Op.changesSubscriptions] at hSubscriptions
  case disconnect w => exact absurd rfl (hDisconnect w)
  all_goals exact ⟨rfl, rfl, fun t => by cases t <;> rfl, fun t w => by
    cases t <;> simp [runOp, connect, auth, clientSetname, cancelReconnect, Segment.done,
      Table.wireStep, Table.subscribeCommand, Table.unsubscribeCommand]⟩

theorem foldl_wireStep_sends (t t' : Table) (names : List String) (w : Finset String) :
    (names.map fun name => Event.send [t'.subscribeCommand, name]).foldl t.wireStep w =
      if t' = t then w ∪ names.toFinset else w := by
  induction names generalizing w with
  | nil => simp
  | cons name names ih =>
      simp only [List.map_cons, List.foldl_cons, wireStep_send_subscribe, ih]
      split <;> simp [Finset.insert_eq, Finset.union_comm, Finset.union_left_comm]

/-
  The replay's commands: the AUTH and CLIENT SETNAME commands
  leave the wire sets, and each table's wire set gains its
  keys.
-/
theorem foldl_wireStep_replay (s : Subscriber) (o : Outcome) (t : Table) (w : Finset String) :
    (reconnectReplay s o).events.foldl t.wireStep w = w ∪ (s.table t).keySet := by
  have hChannels := foldl_wireStep_sends t .channels
  have hPatterns := foldl_wireStep_sends t .patterns
  simp only [Table.subscribeCommand] at hChannels hPatterns
  simp only [reconnectReplay, reSubscribe_eq, reAuth, reClientSetname]
  split_ifs <;> cases t <;>
    simp [auth, clientSetname, Table.wireStep, Table.subscribeCommand, Table.unsubscribeCommand,
      hChannels, hPatterns, Subscriber.table, ChannelMap.keySet]

------------------------------------------------------------
-- Every Step Keeps the Invariant
------------------------------------------------------------

/- Inside an attempt the receive thread holds every mutex. -/
theorem inReconnectLoop_of_inAttempt
    {c : Config}
    (h : (handlerPcOf c.io).any HandlerPc.inAttempt = true) :
    c.inReconnectLoop = true := by
  unfold handlerPcOf at h
  unfold Config.inReconnectLoop
  cases hLast : c.io.getLast? with
  | none => simp [hLast] at h
  | some f =>
      rw [hLast] at h
      cases f <;> simp_all
      rename_i pc
      cases pc <;> simp_all [HandlerPc.inAttempt, Frame.isLoopBase]

/- A method that takes a mutex does not run inside an attempt. -/
theorem not_inAttempt_of_call
    {c : Config}
    {op : Op}
    (hShaped : c.StacksShaped)
    (hLock : op.mutex?.all c.lockFree = true)
    (hMutex : op.mutex?.isSome = true) :
    (handlerPcOf c.io).any HandlerPc.inAttempt = false := by
  cases hAttempt : (handlerPcOf c.io).any HandlerPc.inAttempt
  · rfl
  · obtain ⟨m, hm⟩ := Option.isSome_iff_exists.mp hMutex
    have hFree := lockFree_of_inReconnectLoop hShaped (inReconnectLoop_of_inAttempt hAttempt) m
    simp [hm, hFree] at hLock

theorem SyncState.runOp_quiet
    {s : Subscriber}
    {pc : Option HandlerPc}
    {wire : Table → Finset String}
    {o : Outcome}
    {op : Op}
    (h : SyncState s pc wire)
    (hSubscriptions : op.changesSubscriptions = false)
    (hDisconnect : ∀ w, op ≠ .disconnect w) :
    SyncState (runOp s o op).sub pc fun t => (runOp s o op).events.foldl t.wireStep (wire t) :=
  let ⟨hConnected, hReconnecting, hTables, hWire⟩ := runOp_wire_quiet s o hSubscriptions hDisconnect
  h.quiet hConnected hReconnecting hTables hWire

/- A successful transport connect, in the replay window or with empty tables. -/
theorem SyncState.connect
    {s : Subscriber}
    {pc : Option HandlerPc}
    {wire : Table → Finset String}
    {events : List Event}
    (h : SyncState s pc wire)
    (hSync : pc.any HandlerPc.inReplayWindow = true ∨ ∀ t, (s.table t).keySet = ∅)
    (hWire : ∀ (t : Table) (w : Finset String), events.foldl t.wireStep w = w) :
    SyncState { s with clientConnected := true } pc fun t => events.foldl t.wireStep (wire t) where
  reconnecting hPc := h.reconnecting hPc
  attempt t hPc := by rw [hWire]; exact h.attempt t hPc
  connected t _ hw := by
    rw [hWire]
    rcases hSync with hWindow | hEmpty
    · simp [hWindow] at hw
    · change (s.table t).keySet = wire t
      rw [hEmpty t]
      cases hConnected : s.clientConnected
      · rcases h.disconnected t hConnected with hNil | ⟨hKeys, -⟩
        · exact hNil.symm
        · rw [hKeys, hEmpty t]
      · rw [← h.connected t hConnected hw, hEmpty t]
  disconnected _ hc := by simp at hc

theorem keySet_eq_empty_of_isEmpty {m : ChannelMap} (h : m.keys.isEmpty = true) : m.keySet = ∅ := by
  simp [ChannelMap.keySet, List.isEmpty_iff.mp h]

/- Inside the handler the wire sets are empty while the transport is down. -/
theorem SyncState.wire_of_handler
    {s : Subscriber} {p : HandlerPc} {wire : Table → Finset String}
    (h : SyncState s (some p) wire)
    (t : Table)
    (hc : s.clientConnected = false) :
    wire t = ∅ :=
  (h.disconnected t hc).resolve_right (by simp)

/-
  The handler moves from one point to the next without
  touching the connection, the tables or the wire sets.
-/
theorem SyncState.move
    {s s' : Subscriber} {p p' : HandlerPc} {wire : Table → Finset String} {events : List Event}
    (h : SyncState s (some p) wire)
    (hConnected : s'.clientConnected = s.clientConnected)
    (hReconnecting : s'.reconnecting = s.reconnecting)
    (hTables : ∀ t, s'.table t = s.table t)
    (hWire : ∀ (t : Table) (w : Finset String), events.foldl t.wireStep w = w)
    (hAttempt : p'.inAttempt = true → p.inAttempt = true ∨ s.clientConnected = false)
    (hWindow : p'.inReplayWindow = false → p.inReplayWindow = false ∨ s.clientConnected = false) :
    SyncState s' (some p') fun t => events.foldl t.wireStep (wire t) where
  reconnecting _ := hReconnecting ▸ h.reconnecting rfl
  attempt t hPc := by
    rw [hWire]
    rcases hAttempt hPc with hIn | hc
    · exact h.attempt t hIn
    · exact h.wire_of_handler t hc
  connected t hc hw := by
    rw [hWire, hTables]
    rcases hWindow hw with hOut | hc'
    · exact h.connected t (hConnected ▸ hc) hOut
    · simp [hConnected, hc'] at hc
  disconnected t hc := .inl (by rw [hWire]; exact h.wire_of_handler t (hConnected ▸ hc))

/- The code an action runs keeps the invariant, on the handler's new point and the new wire sets. -/
theorem WireSync.runs
    {c : Config}
    {events : List Event}
    {a : Action}
    {t : ThreadId}
    {rest : List Frame}
    {seg : Segment}
    (hShaped : c.StacksShaped)
    (hAllow : syncDiscipline c a = true)
    (h : WireSync c events)
    (hRuns : Runs c a t rest seg) :
    SyncState seg.sub (handlerPcOf (if t = .io then Config.resumeStack rest seg else c.io))
      fun tb => seg.events.foldl tb.wireStep (wireSet tb events) := by
  have hShape := hRuns.stackShape hShaped
  cases hRuns with
  | @call t f rest op o hStack _ hLock =>
      have hPc : handlerPcOf (if t = .io then Config.resumeStack (f :: rest) (runOp c.sub o op)
          else c.io) = handlerPcOf c.io := by
        cases t with
        | io =>
            rw [if_pos rfl, handlerPcOf_resumeStack, handlerPcOf_append (runOp_cont _ _ _)]
            exact congrArg handlerPcOf hStack.symm
        | other => rfl
      rw [hPc]
      cases op with
      | subscribe tb name callback ack =>
          have hConnected : c.sub.clientConnected = true := by
            simpa [syncDiscipline, Op.changesSubscriptions] using hAllow
          rw [runOp_subscribe]
          refine h.lockstep hConnected (not_inAttempt_of_call hShaped hLock rfl)
            (fun t w => if tb = t then insert name w else w) (by simpa [Segment.done])
            (by simp [Segment.done]) (fun t => ?_)
            (fun t w => by simp [Segment.done, wireStep_send_subscribe])
          simp only [Segment.done, Subscriber.table_setTable]
          split <;> simp_all [ChannelMap.keySet_insert]
      | unsubscribe tb name =>
          have hConnected : c.sub.clientConnected = true := by
            simpa [syncDiscipline, Op.changesSubscriptions] using hAllow
          rw [runOp_unsubscribe]
          unfold unsubscribeFrom
          split
          · exact h.quiet rfl rfl (fun _ => rfl) fun _ _ => rfl
          · refine h.lockstep hConnected (not_inAttempt_of_call hShaped hLock rfl)
              (fun t w => if tb = t then w.erase name else w) (by simpa [Segment.done])
              (by simp [Segment.done]) (fun t => ?_)
              (fun t w => by simp [Segment.done, wireStep_send_unsubscribe])
            simp only [Segment.done, Subscriber.table_setTable]
            split <;> simp_all [ChannelMap.keySet_erase]
      | disconnect _ =>
          refine h.reset rfl rfl fun t w => ?_
          simp [runOp, disconnect, Table.wireStep]
      | _ =>
          exact h.runOp_quiet (by rfl) (by simp)
  | @advance t f rest o seg hStack hRun =>
      cases f with
      | main | callback => cases hRun
      | connectTransport host port timeoutMs useEncryption =>
          cases hRun
          have hPc : handlerPcOf (if t = .io then Config.resumeStack rest
              (connectTransport c.sub (decide (rest.head? = some (.disconnectionHandler .afterConnect)))
                host port timeoutMs useEncryption o) else c.io) = handlerPcOf c.io := by
            cases t with
            | io =>
                rw [if_pos rfl, handlerPcOf_resumeStack, connectTransport_cont, List.nil_append,
                  show c.io = _ from hStack, handlerPcOf_cons (f := .connectTransport ..) rfl]
            | other => rfl
          rw [hPc]
          unfold connectTransport
          split
          · next hOk =>
              refine h.connect ?_ fun _ _ => rfl
              by_cases hLoop : rest.head? = some (.disconnectionHandler .afterConnect)
              · left
                cases rest with
                | nil => cases hLoop
                | cons g rest =>
                    cases hLoop
                    have hTail := (stackShape_cons (hStack ▸ hShaped t)).1
                    obtain ⟨rfl, hBase⟩ := (stackShape_cons hTail).2 rfl
                    cases t with
                    | other => cases hBase
                    | io => rw [show c.io = _ from hStack]; rfl
              · right
                simp only [syncDiscipline, Config.atCallerConnect, hStack, hOk, Bool.and_true,
                  Bool.or_eq_true, Bool.not_eq_eq_eq_not, Bool.not_true, bne_eq_false_iff_eq, hLoop,
                  Bool.and_eq_true, false_or] at hAllow
                intro tb
                cases tb
                · exact keySet_eq_empty_of_isEmpty hAllow.1
                · exact keySet_eq_empty_of_isEmpty hAllow.2
          · exact h.quiet rfl rfl (fun _ => rfl) fun _ _ => rfl
      | finishPingMove callbacks =>
          cases hRun
          have hPc : handlerPcOf (if t = .io then Config.resumeStack rest
              (finishPingMove c.sub callbacks) else c.io) = handlerPcOf c.io := by
            cases t with
            | io =>
                rw [if_pos rfl, handlerPcOf_resumeStack, show c.io = _ from hStack,
                  handlerPcOf_cons (f := .finishPingMove callbacks) rfl]
                rfl
            | other => rfl
          rw [hPc]
          exact h.quiet rfl rfl (fun _ => rfl) fun _ _ => rfl
      | disarmAuth | disarmClientSetname | unlock =>
          obtain ⟨rfl, hBase⟩ := base_of_stacksShaped hShaped hStack rfl
          cases t with
          | other => cases hBase
          | io =>
              cases hRun
              rw [if_pos rfl, show handlerPcOf (Config.resumeStack [] _) = handlerPcOf c.io by
                rw [show c.io = _ from hStack]; rfl]
              exact h.quiet rfl rfl (fun t => by cases t <;> rfl) fun _ _ => rfl
      | disconnectionHandler pc =>
          obtain ⟨rfl, hBase⟩ := base_of_stacksShaped hShaped hStack rfl
          cases t with
          | other => cases hBase
          | io =>
              have h' : SyncState c.sub (some pc) fun t => wireSet t events := by
                have hIo : c.io = [.disconnectionHandler pc] := hStack
                unfold WireSync at h
                rwa [hIo] at h
              cases hRun
              rw [if_pos rfl, handlerPcOf_resumeStack, List.append_nil]
              cases pc
              case lockAll =>
                exact h'.move rfl rfl (fun _ => rfl) (fun _ _ => rfl)
                  (by simp [HandlerPc.inAttempt]) fun _ => .inl rfl
              case loopHead =>
                simp only [disconnectionHandlerStep, reconnectLoop]
                split
                · next hShould =>
                    have hDown : c.sub.clientConnected = false := by
                      simp only [shouldReconnect, Bool.and_eq_true, Bool.not_eq_true'] at hShould
                      exact hShould.1.1
                    exact h'.move rfl rfl (fun _ => rfl) (fun _ _ => rfl)
                      (fun _ => .inr hDown) fun _ => .inl rfl
                · split
                  · exact h'.move rfl rfl (fun _ => rfl) (fun _ _ => rfl)
                      (by simp [HandlerPc.inAttempt]) fun _ => .inl rfl
                  · next hDown =>
                      simp only [Bool.not_eq_true] at hDown
                      exact {
                        reconnecting := fun _ => h'.reconnecting rfl
                        attempt := by simp [handlerPcOf, HandlerPc.inAttempt]
                        connected := by simp [clearSubscriptions, hDown]
                        disconnected := fun t _ => .inl (h'.wire_of_handler t hDown) }
              case attempt =>
                simp only [disconnectionHandlerStep, reconnect, reconnectConnect]
                split <;> [skip; split] <;>
                  exact h'.move rfl rfl (fun t => by cases t <;> rfl) (fun _ _ => rfl)
                    (fun _ => .inl rfl) fun _ => .inl rfl
              case afterConnect =>
                simp only [disconnectionHandlerStep, reconnectCheck]
                split
                · exact h'.move rfl rfl (fun _ => rfl) (fun _ _ => rfl)
                    (fun _ => .inl rfl) (by simp [HandlerPc.inReplayWindow])
                · next hDown =>
                    simp only [Bool.not_eq_true] at hDown
                    exact h'.move rfl rfl (fun _ => rfl) (fun _ _ => rfl)
                      (by simp [HandlerPc.inAttempt]) fun _ => .inr hDown
              case replay =>
                obtain ⟨hConnected, hReconnecting, hTables⟩ := reconnectReplay_sub c.sub o
                have hReplayed : ∀ t, (reconnectReplay c.sub o).events.foldl t.wireStep
                    (wireSet t events) = (c.sub.table t).keySet := fun t => by
                  rw [foldl_wireStep_replay, h'.attempt t rfl, Finset.empty_union]
                simp only [disconnectionHandlerStep, hReplayed, reconnectReplay_handlerPc]
                generalize (reconnectReplay c.sub o).sub = s' at hConnected hReconnecting hTables ⊢
                exact {
                  reconnecting := fun _ => hReconnecting ▸ h'.reconnecting rfl
                  attempt := by split <;> simp [HandlerPc.inAttempt]
                  connected := fun t _ _ => by rw [hTables]
                  disconnected := fun t hc => .inr ⟨by rw [hTables],
                    hReconnecting ▸ h'.reconnecting rfl, by simp [← hConnected, hc]⟩ }
              case finish =>
                exact {
                  reconnecting := by simp [disconnectionHandlerStep, finishReconnecting,
                    Segment.done, handlerPcOf]
                  attempt := by simp [disconnectionHandlerStep, finishReconnecting,
                    Segment.done, handlerPcOf]
                  connected := fun t hc _ => h'.connected t hc rfl
                  disconnected := fun t hc => .inl (h'.wire_of_handler t hc) }
      | failureDelivery callbacks =>
          obtain ⟨rfl, hBase⟩ := base_of_stacksShaped hShaped hStack rfl
          cases t with
          | io => cases hBase
          | other =>
              cases hRun
              rw [if_neg (by simp)]
              cases callbacks <;> exact h.quiet rfl rfl (fun _ => rfl) fun _ _ => rfl
  | @receive r hIo =>
      have h' : SyncState c.sub none fun t => wireSet t events := by
        unfold WireSync at h
        rwa [hIo] at h
      rw [if_pos rfl, handlerPcOf_resumeStack, List.append_nil]
      rcases connectionReceiveHandler_cases c.sub r with
        hSeg | ⟨_, _, _, _, hSeg⟩ | ⟨_, _, _, hSeg⟩ | ⟨_, _, _, _, hSeg⟩ | ⟨_, _, _, hSeg⟩ <;>
      rw [hSeg] <;> exact h'.quiet rfl rfl (fun t => by cases t <;> rfl) fun _ _ => rfl
  | handle hIo hReconnecting =>
      have h' : SyncState c.sub none fun t => wireSet t events := by
        unfold WireSync at h
        rwa [hIo] at h
      rw [if_pos rfl, handlerPcOf_resumeStack, List.append_nil]
      simp only [connectionDisconnectionHandler, hReconnecting, Bool.false_eq_true, if_false]
      exact {
        reconnecting := fun _ => rfl
        attempt := by simp [handlerPcOf, HandlerPc.inAttempt]
        connected := fun t hc _ => h'.connected t hc rfl
        disconnected := fun t hc =>
          .inl ((h'.disconnected t hc).resolve_right (by simp [hReconnecting])) }

------------------------------------------------------------
-- Whole Runs
------------------------------------------------------------

/- One step keeps the invariant, under the usage the law asks. -/
theorem WireSync.step
    {c c' : Config}
    {a : Action}
    {events new : List Event}
    (hShaped : c.StacksShaped)
    (hAllow : syncDiscipline c a = true)
    (h : WireSync c events)
    (hStep : step c a = some (c', new)) :
    WireSync c' (events ++ new) := by
  rcases step_cases hStep with
    ⟨t, rest, seg, hRuns, p, hResume⟩ | ⟨t, rest, -, hStack, rfl, rfl⟩ | ⟨-, rfl, rfl⟩ |
      ⟨-, -, rfl, rfl⟩ | ⟨-, -, rfl, rfl⟩
  · -- the code of one thread runs
    obtain rfl : c' = _ := congrArg Prod.fst hResume
    obtain rfl : new = _ := congrArg Prod.snd hResume
    unfold WireSync
    rw [Config.resume_io, Config.resume_sub, Config.resume_events]
    simp only [wireSet_append, List.foldl_append, foldl_wireStep_resumeEvents]
    exact h.runs hShaped hAllow hRuns
  · -- a callback returns
    have hPc : handlerPcOf (c.setStack t rest).io = handlerPcOf c.io := by
      cases t with
      | io => rw [show c.io = _ from hStack]; exact (handlerPcOf_cons (f := .callback) rfl _).symm
      | other => rfl
    unfold WireSync at h ⊢
    rw [List.append_nil, hPc]
    cases t <;> exact h
  · -- a caller thread starts
    rw [List.append_nil]
    exact h
  · -- the transport drops
    unfold WireSync at h ⊢
    simp only [wireSet_append]
    exact h.reset rfl rfl fun _ _ => rfl
  · -- a drop the handler ignores
    rw [List.append_nil]
    exact h

/- Every run under the usage the law asks keeps the invariant. -/
theorem Run.wireSync
    {c : Config}
    {events : List Event}
    (h : Run (fun c a => syncDiscipline c a = true) c events) :
    WireSync c events := by
  induction h with
  | init => exact WireSync.init
  | step hRun hAllow hStep ih => exact ih.step hRun.stacksShaped hAllow hStep

/-
  While the transport is connected and no replay is pending,
  each table's keys are the names its commands have put on the
  wire since the transport last went down.
-/
theorem wire_sync
    {c : Config}
    {events : List Event}
    (hRun : Run (fun c a => syncDiscipline c a = true) c events)
    (hConnected : c.sub.clientConnected = true)
    (hReplayed : c.inReplayWindow = false) :
    c.sub.subscribedChannels.keySet = wireSet .channels events ∧
      c.sub.psubscribedChannels.keySet = wireSet .patterns events :=
  ⟨hRun.wireSync.connected .channels hConnected hReplayed,
    hRun.wireSync.connected .patterns hConnected hReplayed⟩

/- After a drop, the handler's attempt reconnects and replays the channel. -/
theorem wire_sync_after_reconnect :
    ∃ c events, Run (fun c a => syncDiscipline c a = true) c events ∧
      events.countP Event.isReconnectAttempt = 1 ∧
      c.sub.subscribedChannels.keys = ["news"] ∧
      c.sub.subscribedChannels.keySet = wireSet .channels events ∧
      c.sub.psubscribedChannels.keySet = wireSet .patterns events := by
  obtain ⟨c, events, hRun, hCheck⟩ := exists_run_of_execAllowed syncDiscipline
    (fun c events => c.sub.clientConnected && !c.inReplayWindow &&
      events.countP Event.isReconnectAttempt == 1 && c.sub.subscribedChannels.keys == ["news"])
    [.call (.other 0) (.connect "redis" 6379 none 0 (-1) 0 false) .success,
      .advance (.other 0) .success,
      .call (.other 0) (.subscribe .channels "news" (.user 1) none) .success,
      .drop, .handleDrop, .advance .io .success, .advance .io .success, .advance .io .success,
      .advance .io .success, .advance .io .success, .advance .io .success, .advance .io .success,
      .advance .io .success] (by decide)
  simp only [Bool.and_eq_true, Bool.not_eq_true', beq_iff_eq] at hCheck
  exact ⟨c, events, hRun, hCheck.1.2, hCheck.2, wire_sync hRun hCheck.1.1.1 hCheck.1.1.2⟩

/-
  A caller subscribes, disconnects and connects again: the
  table keeps the channel, the new session has never been told.
-/
theorem reconnect_after_disconnect_loses_subscriptions :
    ∃ c events, Reachable c events ∧ c.sub.clientConnected = true ∧
      c.inReplayWindow = false ∧ "news" ∈ c.sub.subscribedChannels.keySet ∧
      "news" ∉ wireSet .channels events := by
  obtain ⟨c, events, hRun, hCheck⟩ := exists_run_of_execAllowed (fun _ _ => true)
    (fun c events => c.sub.clientConnected && !c.inReplayWindow &&
      c.sub.subscribedChannels.keys.contains "news" && !decide ("news" ∈ wireSet .channels events))
    [.call (.other 0) (.connect "redis" 6379 none 0 (-1) 100 false) .success,
      .advance (.other 0) .success,
      .call (.other 0) (.subscribe .channels "news" (.user 1) none) .success,
      .call (.other 0) (.disconnect false) .success,
      .call (.other 0) (.connect "redis" 6379 none 0 (-1) 100 false) .success,
      .advance (.other 0) .success] (by decide)
  simp only [Bool.and_eq_true, Bool.not_eq_true', decide_eq_false_iff_not, List.elem_eq_mem,
    decide_eq_true_eq] at hCheck
  exact ⟨c, events, hRun.mono fun _ _ _ => trivial, hCheck.1.1.1, hCheck.1.1.2,
    (ChannelMap.mem_keySet _ _).mpr hCheck.1.2, hCheck.2⟩

/- A `subscribe` while down goes to the dead session, and the give-up clears the table. -/
theorem subscribe_while_down_leaves_wire_stale :
    ∃ c events, Reachable c events ∧ c.sub.clientConnected = true ∧
      c.inReplayWindow = false ∧ c.sub.subscribedChannels.keys = [] ∧
      "news" ∈ wireSet .channels events := by
  obtain ⟨c, events, hRun, hCheck⟩ := exists_run_of_execAllowed (fun _ _ => true)
    (fun c events => c.sub.clientConnected && !c.inReplayWindow &&
      c.sub.subscribedChannels.keys.isEmpty && decide ("news" ∈ wireSet .channels events))
    [.call (.other 0) (.connect "redis" 6379 none 0 0 0 false) .success,
      .advance (.other 0) .success,
      .drop,
      .call (.other 0) (.subscribe .channels "news" (.user 1) none) .success,
      .handleDrop, .advance .io .success, .advance .io .success, .advance .io .success,
      .call (.other 0) (.connect "redis" 6379 none 0 0 0 false) .success,
      .advance (.other 0) .success] (by decide)
  simp only [Bool.and_eq_true, Bool.not_eq_true', List.isEmpty_iff, decide_eq_true_eq] at hCheck
  exact ⟨c, events, hRun.mono fun _ _ _ => trivial, hCheck.1.1.1, hCheck.1.1.2, hCheck.1.2,
    hCheck.2⟩

end RedisSubscriber
