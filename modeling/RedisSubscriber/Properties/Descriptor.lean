import RedisSubscriber.Handler
import RedisSubscriber.SubscriberSteps

/-
  The connection descriptor the reconnect loop connects with.
  Both `connect` overloads write it at the call, before the
  transport connect or the lookup that may throw; neither
  writes `m_connect_timeout_ms`, and the host/port overload
  keeps `m_master_name`.

  Key definitions include:
    * `ConnectionDescriptor`, `DescriptorWrite`

  Main declarations:
    * `descriptor_frame`
    * `reconnect_connect_params`
-/

------------------------------------------------------------
-- The Descriptor and Its Writers
------------------------------------------------------------

namespace RedisSubscriber

/- The members the reconnect loop reads to connect again. -/
structure ConnectionDescriptor where
  redisServer : String
  redisPort : Nat
  masterName : String
  connectTimeoutMs : Nat
  maxReconnects : Int
  reconnectIntervalMs : Nat
  useEncryption : Bool
  deriving DecidableEq, Repr

/- The subscriber's connection descriptor. -/
def Subscriber.descriptor (s : Subscriber) : ConnectionDescriptor :=
  ⟨s.redisServer, s.redisPort, s.masterName, s.connectTimeoutMs, s.maxReconnects,
    s.reconnectIntervalMs, s.useEncryption⟩

/- Whether an operation is one of the two `connect` overloads. -/
def Op.isConnect : Op → Bool
  | .connect .. | .connectSentinel .. => true
  | _ => false

/-
  How a step may leave the descriptor: as it was, as a caller's
  `connect` of either form writes it, or as an attempt's
  sentinel lookup writes the address.
-/
inductive DescriptorWrite (c : Config) : Action → ConnectionDescriptor → Prop
  | same {a : Action} : DescriptorWrite c a c.sub.descriptor
  | connect {t : ThreadId} {host : String} {port : Nat} {connectCallback : Option Callback}
      {timeoutMs : Nat} {maxReconnects : Int} {reconnectIntervalMs : Nat} {useEncryption : Bool}
      {o : Outcome} :
      DescriptorWrite c
        (.call t (.connect host port connectCallback timeoutMs maxReconnects reconnectIntervalMs
          useEncryption) o)
        { c.sub.descriptor with
          redisServer := host
          redisPort := port
          maxReconnects := maxReconnects
          reconnectIntervalMs := reconnectIntervalMs
          useEncryption := useEncryption }
  | connectSentinel {t : ThreadId} {name : String} {connectCallback : Option Callback}
      {timeoutMs : Nat} {maxReconnects : Int} {reconnectIntervalMs : Nat} {useEncryption : Bool}
      {o : Outcome} :
      DescriptorWrite c
        (.call t (.connectSentinel name connectCallback timeoutMs maxReconnects
          reconnectIntervalMs useEncryption) o)
        (if o.lookupOk then
          { c.sub.descriptor with
            redisServer := o.lookupHost
            redisPort := o.lookupPort
            masterName := name
            maxReconnects := maxReconnects
            reconnectIntervalMs := reconnectIntervalMs
            useEncryption := useEncryption }
        else
          { c.sub.descriptor with
            redisServer := o.lookupHost
            redisPort := o.lookupPort
            masterName := name })
  | lookup {o : Outcome} :
      c.io = [.disconnectionHandler .attempt] → c.sub.masterName ≠ "" →
        DescriptorWrite c (.advance .io o)
          { c.sub.descriptor with redisServer := o.lookupHost, redisPort := o.lookupPort }

/- No writer touches the connect timeout. -/
theorem DescriptorWrite.connectTimeoutMs
    {c : Config}
    {a : Action}
    {d : ConnectionDescriptor}
    (h : DescriptorWrite c a d) :
    d.connectTimeoutMs = c.sub.connectTimeoutMs := by
  cases h with
  | connectSentinel => split <;> rfl
  | _ => rfl

------------------------------------------------------------
-- What Each Function Writes
------------------------------------------------------------

theorem runOp_descriptor
    (s : Subscriber)
    (o : Outcome)
    {op : Op}
    (hOp : op.isConnect = false) :
    (runOp s o op).sub.descriptor = s.descriptor := by
  cases op <;> simp only [Op.isConnect, reduceCtorEq] at hOp
  case subscribe t _ _ _ => cases t <;> rfl
  case unsubscribe t _ =>
    cases t <;> simp only [runOp, unsubscribe, punsubscribe, unsubscribeFrom] <;> split <;> rfl
  all_goals rfl

/- Of the handler's steps, only an attempt writes the descriptor: its lookup's address. -/
theorem disconnectionHandlerStep_descriptor
    (s : Subscriber)
    (o : Outcome)
    (pc : HandlerPc) :
    (disconnectionHandlerStep s o pc).sub.descriptor = s.descriptor ∨
      pc = .attempt ∧ s.masterName ≠ "" ∧
        (disconnectionHandlerStep s o pc).sub.descriptor =
          { s.descriptor with redisServer := o.lookupHost, redisPort := o.lookupPort } := by
  cases pc <;> simp only [disconnectionHandlerStep]
  case loopHead =>
    unfold reconnectLoop sleepBeforeNextReconnectAttempt
    exact .inl (by split <;> [rfl; split <;> rfl])
  case attempt =>
    unfold reconnect reconnectConnect
    dsimp only
    split
    · exact .inl rfl
    · next hName =>
        refine .inr ⟨trivial, fun h => hName (by rw [h]; rfl), ?_⟩
        split <;> rfl
  case afterConnect =>
    unfold reconnectCheck
    exact .inl (by split <;> rfl)
  case replay =>
    simp only [reconnectReplay, reSubscribe_eq, reAuth, reClientSetname]
    exact .inl (by split_ifs <;> rfl)
  all_goals exact .inl rfl

/-
  A step leaves the descriptor only as `DescriptorWrite` says:
  a caller's `connect` writes it at the call, whatever its
  transport connect or lookup does next.
-/
theorem descriptor_frame
    {c c' : Config}
    {a : Action}
    {new : List Event}
    (hShaped : c.StacksShaped)
    (hStep : step c a = some (c', new)) :
    DescriptorWrite c a c'.sub.descriptor := by
  have hSub := step_sub hShaped hStep
  generalize c'.sub = s' at hSub
  cases hSub with
  | @call _ _ _ op o _ _ _ =>
      cases hOp : op.isConnect
      · rw [runOp_descriptor c.sub o hOp]
        exact .same
      · cases op <;> simp only [Op.isConnect, reduceCtorEq] at hOp
        case connect => exact .connect
        case connectSentinel =>
          convert DescriptorWrite.connectSentinel using 1
          simp only [runOp, connectSentinel]
          cases o.lookupOk <;> rfl
  | transport =>
      unfold connectTransport
      split <;> exact .same
  | @handler pc o hIo =>
      rcases disconnectionHandlerStep_descriptor c.sub o pc with h | ⟨rfl, hName, h⟩
      · rw [h]
        exact .same
      · rw [h]
        exact .lookup hIo hName
  | @receive r _ =>
      rcases connectionReceiveHandler_cases c.sub r with h | ⟨_, _, _, -, h⟩ | ⟨-, _, -, h⟩ |
        ⟨-, -, _, -, h⟩ | ⟨_, _, -, h⟩ <;> rw [h] <;> exact .same
  | handle =>
      unfold connectionDisconnectionHandler
      split <;> exact .same
  | _ => exact .same

------------------------------------------------------------
-- The Timeout of Every Reconnect
------------------------------------------------------------

/-
  In every run the connect timeout keeps its initial 0, every
  pending reconnect connects with it, and so does every
  reconnect the trace records.
-/
theorem Reachable.reconnect_timeout
    {c : Config}
    {events : List Event}
    (hReach : Reachable c events) :
    c.sub.connectTimeoutMs = 0 ∧
      (∀ host port timeoutMs useEncryption,
        pendingReconnect c.io = some (.connectTransport host port timeoutMs useEncryption) →
          timeoutMs = 0) ∧
      ∀ host port timeoutMs useEncryption ok,
        Event.transportConnect true host port timeoutMs useEncryption ok ∈ events →
          timeoutMs = 0 := by
  induction hReach with
  | init => exact ⟨rfl, fun _ _ _ _ h => (nomatch h), fun _ _ _ _ _ h => (nomatch h)⟩
  | @step c c' events new a hRun _ hStep ih =>
      obtain ⟨hTimeout, hPending, hEvents⟩ := ih
      have hShaped := hRun.stacksShaped
      have hTimeout' : c'.sub.connectTimeoutMs = 0 := by
        rw [← hTimeout]
        exact (descriptor_frame hShaped hStep).connectTimeoutMs
      refine ⟨hTimeout', ?_, fun host port timeoutMs useEncryption ok he => ?_⟩
      · rcases step_pendingReconnect hShaped hStep with
          ⟨_, -, -, -, hNone | hSome⟩ | ⟨hSame, -⟩ | ⟨_, _, _, _, _, -, hNone, -⟩
        · intro _ _ _ _ h
          rw [hNone] at h
          cases h
        · intro _ _ _ _ h
          rw [hSome] at h
          cases h
          exact hTimeout'
        · rw [hSame]
          exact hPending
        · intro _ _ _ _ h
          rw [hNone] at h
          cases h
      · rcases List.mem_append.mp he with he | he
        · exact hEvents _ _ _ _ _ he
        · have hFiltered : Event.transportConnect true host port timeoutMs useEncryption ok ∈
              new.filter Event.isReconnectAttempt := List.mem_filter.mpr ⟨he, rfl⟩
          rcases step_pendingReconnect hShaped hStep with
            ⟨_, -, -, hNone, -⟩ | ⟨-, hNone⟩ | ⟨_, _, _, _, _, hSome, -, hOne⟩
          · rw [hNone] at hFiltered
            cases hFiltered
          · rw [hNone] at hFiltered
            cases hFiltered
          · rw [hOne, List.mem_singleton] at hFiltered
            cases hFiltered
            exact hPending _ _ _ _ hSome

/-
  Every reconnect in every run connects with timeout 0; a step
  leaves the descriptor only as `DescriptorWrite` says; and an
  attempt's transport connect is made with the address and TLS
  flag the attempt leaves cached.
-/
theorem reconnect_connect_params
    {c : Config}
    {events : List Event}
    (hReach : Reachable c events) :
    (∀ host port timeoutMs useEncryption ok,
        Event.transportConnect true host port timeoutMs useEncryption ok ∈ events →
          timeoutMs = 0) ∧
      (∀ a c' new, step c a = some (c', new) → DescriptorWrite c a c'.sub.descriptor) ∧
      ∀ o c' new, c.io = [.disconnectionHandler .attempt] →
        step c (.advance .io o) = some (c', new) →
        pendingReconnect c'.io = none ∨
          pendingReconnect c'.io =
            some (.connectTransport c'.sub.redisServer c'.sub.redisPort 0 c'.sub.useEncryption) := by
  have hShaped := hReach.stacksShaped
  refine ⟨(hReach.reconnect_timeout).2.2, fun _ _ _ hStep => descriptor_frame hShaped hStep,
    fun o c' new hIo hStep => ?_⟩
  have hTimeout : c'.sub.connectTimeoutMs = 0 := (Reachable.reconnect_timeout (hReach.step trivial hStep)).1
  rcases step_pendingReconnect hShaped hStep with
    ⟨_, -, -, -, hPending⟩ | ⟨hSame, -⟩ | ⟨_, _, _, _, _, hSome, -, -⟩
  · rwa [hTimeout] at hPending
  · rw [hSame, hIo]
    exact .inl rfl
  · rw [hIo] at hSome
    cases hSome

/- After a failed `connect` to another server, the reconnect goes to that server. -/
theorem reconnect_connect_params_after_failed_connect :
    ∃ c, exec Config.init
        [.call (.other 0) (.connect "a" 6379 none 100 (-1) 0 false) .success,
          .advance (.other 0) .success,
          .call (.other 0) (.connect "b" 7000 none 200 (-1) 0 false) .success,
          .advance (.other 0) ⟨true, "", 0, false, true⟩,
          .drop, .handleDrop, .advance .io .success, .advance .io .success,
          .advance .io .success, .advance .io .success] =
        some (c, [.transportConnect false "a" 6379 100 false true,
          .transportConnect false "b" 7000 200 false false,
          .transportDrop,
          .transportConnect true "b" 7000 0 false true]) ∧
      ((∀ host port timeoutMs useEncryption ok,
          Event.transportConnect true host port timeoutMs useEncryption ok ∈
            [.transportConnect false "a" 6379 100 false true,
              .transportConnect false "b" 7000 200 false false,
              .transportDrop,
              .transportConnect true "b" 7000 0 false true] →
            timeoutMs = 0) ∧
        (∀ a c' new, step c a = some (c', new) → DescriptorWrite c a c'.sub.descriptor) ∧
        ∀ o c' new, c.io = [.disconnectionHandler .attempt] →
          step c (.advance .io o) = some (c', new) →
          pendingReconnect c'.io = none ∨
            pendingReconnect c'.io =
              some (.connectTransport c'.sub.redisServer c'.sub.redisPort 0
                c'.sub.useEncryption)) := by
  obtain ⟨c, hExec⟩ : ∃ c, exec Config.init
      [.call (.other 0) (.connect "a" 6379 none 100 (-1) 0 false) .success,
        .advance (.other 0) .success,
        .call (.other 0) (.connect "b" 7000 none 200 (-1) 0 false) .success,
        .advance (.other 0) ⟨true, "", 0, false, true⟩,
        .drop, .handleDrop, .advance .io .success, .advance .io .success,
        .advance .io .success, .advance .io .success] =
      some (c, [.transportConnect false "a" 6379 100 false true,
        .transportConnect false "b" 7000 200 false false,
        .transportDrop,
        .transportConnect true "b" 7000 0 false true]) := ⟨_, rfl⟩
  exact ⟨c, hExec, reconnect_connect_params (run_of_exec _ .init hExec fun _ _ => trivial)⟩

/- After a sentinel connect, a direct connect is ignored by the reconnect. -/
theorem reconnect_ignores_direct_connect :
    ∃ c, exec Config.init
        [.call (.other 0) (.connectSentinel "mymaster" none 100 (-1) 0 false)
            ⟨true, "10.0.0.5", 6380, true, true⟩,
          .advance (.other 0) .success,
          .call (.other 0) (.disconnect false) .success,
          .call (.other 0) (.connect "redis" 6379 none 5000 (-1) 0 false) .success,
          .advance (.other 0) .success,
          .drop, .handleDrop, .advance .io .success, .advance .io .success,
          .advance .io ⟨true, "10.0.0.5", 6380, true, true⟩, .advance .io .success] =
      some (c, [.sentinelLookup "mymaster" true "10.0.0.5" 6380,
        .transportConnect false "10.0.0.5" 6380 100 false true,
        .transportDisconnect,
        .transportConnect false "redis" 6379 5000 false true,
        .transportDrop,
        .sentinelLookup "mymaster" true "10.0.0.5" 6380,
        .transportConnect true "10.0.0.5" 6380 0 false true]) :=
  ⟨_, rfl⟩

end RedisSubscriber
