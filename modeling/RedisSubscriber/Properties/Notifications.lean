import RedisSubscriber.Handler

/-
  The connect-state notifications of a reconnect attempt: the
  nested `connect` notifies `start` and `ok`, and `reconnect()`
  notifies `ok` once more, or `failed`.

  Main declarations:
    * `attempt_notifications`
-/

------------------------------------------------------------
-- The Points of an Attempt
------------------------------------------------------------

namespace RedisSubscriber

section Attempt

variable {c c' : Config} {o : Outcome} {new : List Event}

/- The invocation a resumed segment records, when it has one. -/
theorem invoke_mem_resume_of_invoked
    {t : ThreadId}
    {rest : List Frame}
    {seg : Segment}
    {f : Callback}
    {arg : CallbackArg}
    {p : Nat}
    (hInvoked : seg.invoked = some (f, arg)) :
    Event.invoke t f arg (heldLocks (seg.cont ++ rest)) ∈
      (({ c with pendingDrops := p }).resume t rest seg).2 := by
  rw [Config.resume_events]
  exact List.mem_append_right _ (invoke_mem_resumeEvents.mpr ⟨rfl, hInvoked, rfl⟩)

/- The attempt notifies `start` from its nested `connect`, or `lookup_failed`. -/
theorem attempt_start
    {f : Callback}
    (hCallback : c.sub.connectCallback = some f)
    (hIo : c.io = [.disconnectionHandler .attempt])
    (hStep : step c (.advance .io o) = some (c', new)) :
    ∃ host port held, Event.invoke .io f (.connectState host port
      (if c.sub.masterName.isEmpty || o.lookupOk then .start else .lookupFailed)) held ∈ new := by
  obtain ⟨p, hResume⟩ := step_handler hIo hStep
  obtain rfl : new = _ := congrArg Prod.snd hResume
  by_cases hName : c.sub.masterName.isEmpty = true
  · exact ⟨c.sub.redisServer, c.sub.redisPort, _, invoke_mem_resume_of_invoked (by
      simp [disconnectionHandlerStep, reconnect, reconnectConnect, connect, hName, hCallback])⟩
  · exact ⟨o.lookupHost, o.lookupPort, _, invoke_mem_resume_of_invoked (by
      cases hOk : o.lookupOk <;>
        simp [disconnectionHandlerStep, reconnect, reconnectConnect, connect, notify, hName, hOk,
          hCallback])⟩

/-
  The attempt's transport connect, when it succeeds, notifies
  `ok` and leaves the handler waiting for its check with the
  transport connected.
-/
theorem attempt_transport_ok
    {f : Callback}
    {host : String}
    {port timeoutMs : Nat}
    {useEncryption : Bool}
    (hCallback : c.sub.connectCallback = some f)
    (hIo : c.io = [.connectTransport host port timeoutMs useEncryption,
      .disconnectionHandler .afterConnect])
    (hOk : o.connectOk = true)
    (hStep : step c (.advance .io o) = some (c', new)) :
    (∃ held, Event.invoke .io f (.connectState c.sub.redisServer c.sub.redisPort .ok) held ∈ new) ∧
      c'.io = [.callback, .disconnectionHandler .afterConnect] ∧ c'.sub.clientConnected = true := by
  obtain ⟨seg, p, hRun, hResume⟩ := step_advance (t := .io) hIo hStep
  cases hRun
  obtain rfl : c' = _ := congrArg Prod.fst hResume
  obtain rfl : new = _ := congrArg Prod.snd hResume
  have hInvoked : ∀ b, (connectTransport c.sub b host port timeoutMs useEncryption o).invoked =
      some (f, .connectState c.sub.redisServer c.sub.redisPort .ok) := fun _ => by
    simp [connectTransport, hOk, hCallback]
  refine ⟨⟨_, invoke_mem_resume_of_invoked (hInvoked _)⟩, ?_, ?_⟩
  · rw [Config.resume_io, if_pos rfl]
    simp only [Config.resumeStack, hInvoked, connectTransport_cont, List.nil_append]
  · simp [connectTransport, hOk]

/- The check after the nested `connect` notifies `ok` when connected, `failed` otherwise. -/
theorem attempt_check
    {f : Callback}
    (hCallback : c.sub.connectCallback = some f)
    (hIo : c.io = [.disconnectionHandler .afterConnect])
    (hStep : step c (.advance .io o) = some (c', new)) :
    ∃ held, Event.invoke .io f (.connectState c.sub.redisServer c.sub.redisPort
      (if c.sub.clientConnected then .ok else .failed)) held ∈ new := by
  obtain ⟨p, hResume⟩ := step_handler hIo hStep
  obtain rfl : new = _ := congrArg Prod.snd hResume
  exact ⟨_, invoke_mem_resume_of_invoked (by
    cases hConnected : c.sub.clientConnected <;>
      simp [disconnectionHandlerStep, reconnectCheck, notify, hConnected, hCallback])⟩

end Attempt

------------------------------------------------------------
-- The Notifications of Every Attempt
------------------------------------------------------------

/-
  An attempt notifies `start` (or `lookup_failed`), its
  successful transport connect `ok`, and the check after it `ok`
  again or `failed`.
-/
theorem attempt_notifications
    {c : Config}
    {f : Callback}
    (hCallback : c.sub.connectCallback = some f) :
    (∀ o c' new, c.io = [.disconnectionHandler .attempt] →
        step c (.advance .io o) = some (c', new) →
        ∃ host port held, Event.invoke .io f (.connectState host port
          (if c.sub.masterName.isEmpty || o.lookupOk then .start else .lookupFailed)) held ∈ new) ∧
      (∀ host port timeoutMs useEncryption o c' new,
        c.io = [.connectTransport host port timeoutMs useEncryption,
          .disconnectionHandler .afterConnect] →
        o.connectOk = true → step c (.advance .io o) = some (c', new) →
        (∃ held, Event.invoke .io f (.connectState c.sub.redisServer c.sub.redisPort .ok) held ∈ new) ∧
          c'.io = [.callback, .disconnectionHandler .afterConnect] ∧
          c'.sub.clientConnected = true) ∧
      ∀ o c' new, c.io = [.disconnectionHandler .afterConnect] →
        step c (.advance .io o) = some (c', new) →
        ∃ held, Event.invoke .io f (.connectState c.sub.redisServer c.sub.redisPort
          (if c.sub.clientConnected then .ok else .failed)) held ∈ new :=
  ⟨fun _ _ _ hIo hStep => attempt_start hCallback hIo hStep,
    fun _ _ _ _ _ _ _ hIo hOk hStep => attempt_transport_ok hCallback hIo hOk hStep,
    fun _ _ _ hIo hStep => attempt_check hCallback hIo hStep⟩

/- The attempt of the handler that a drop starts, with the caller's connect callback set. -/
theorem attempt_notifications_after_drop :
    ∃ c, exec Config.init
        [.call (.other 0) (.connect "redis" 6379 (some (.user 1)) 0 (-1) 0 false) .success,
          .ret (.other 0), .advance (.other 0) .success, .ret (.other 0),
          .drop, .handleDrop, .ret .io, .advance .io .success, .advance .io .success] =
        some (c, [.invoke (.other 0) (.user 1) (.connectState "redis" 6379 .start) [],
          .transportConnect false "redis" 6379 0 false true,
          .invoke (.other 0) (.user 1) (.connectState "redis" 6379 .ok) [],
          .transportDrop,
          .invoke .io (.user 1) (.connectState "redis" 6379 .dropped) []]) ∧
      c.io = [.disconnectionHandler .attempt] ∧ c.sub.connectCallback = some (.user 1) ∧
      ((∀ o c' new, c.io = [.disconnectionHandler .attempt] →
          step c (.advance .io o) = some (c', new) →
          ∃ host port held, Event.invoke .io (.user 1) (.connectState host port
            (if c.sub.masterName.isEmpty || o.lookupOk then .start else .lookupFailed)) held ∈ new) ∧
        (∀ host port timeoutMs useEncryption o c' new,
          c.io = [.connectTransport host port timeoutMs useEncryption,
            .disconnectionHandler .afterConnect] →
          o.connectOk = true → step c (.advance .io o) = some (c', new) →
          (∃ held, Event.invoke .io (.user 1) (.connectState c.sub.redisServer c.sub.redisPort .ok)
            held ∈ new) ∧
            c'.io = [.callback, .disconnectionHandler .afterConnect] ∧
            c'.sub.clientConnected = true) ∧
        ∀ o c' new, c.io = [.disconnectionHandler .afterConnect] →
          step c (.advance .io o) = some (c', new) →
          ∃ held, Event.invoke .io (.user 1) (.connectState c.sub.redisServer c.sub.redisPort
            (if c.sub.clientConnected then .ok else .failed)) held ∈ new) := by
  obtain ⟨c, hExec, hIo, hCallback⟩ : ∃ c, exec Config.init
      [.call (.other 0) (.connect "redis" 6379 (some (.user 1)) 0 (-1) 0 false) .success,
        .ret (.other 0), .advance (.other 0) .success, .ret (.other 0),
        .drop, .handleDrop, .ret .io, .advance .io .success, .advance .io .success] =
      some (c, [.invoke (.other 0) (.user 1) (.connectState "redis" 6379 .start) [],
        .transportConnect false "redis" 6379 0 false true,
        .invoke (.other 0) (.user 1) (.connectState "redis" 6379 .ok) [],
        .transportDrop,
        .invoke .io (.user 1) (.connectState "redis" 6379 .dropped) []]) ∧
      c.io = [.disconnectionHandler .attempt] ∧ c.sub.connectCallback = some (.user 1) :=
    ⟨_, rfl, rfl, rfl⟩
  exact ⟨c, hExec, hIo, hCallback, attempt_notifications hCallback⟩

/- A successful first attempt notifies `dropped`, `start`, `ok`, and `ok` again. -/
theorem reconnect_announces_ok_twice :
    ∃ c, exec Config.init
        [.call (.other 0) (.connect "redis" 6379 (some (.user 1)) 0 (-1) 0 false) .success,
          .ret (.other 0), .advance (.other 0) .success, .ret (.other 0),
          .drop, .handleDrop, .ret .io, .advance .io .success, .advance .io .success,
          .advance .io .success, .ret .io, .advance .io .success, .ret .io,
          .advance .io .success] =
      some (c, [.invoke (.other 0) (.user 1) (.connectState "redis" 6379 .start) [],
        .transportConnect false "redis" 6379 0 false true,
        .invoke (.other 0) (.user 1) (.connectState "redis" 6379 .ok) [],
        .transportDrop,
        .invoke .io (.user 1) (.connectState "redis" 6379 .dropped) [],
        .invoke .io (.user 1) (.connectState "redis" 6379 .start) allMutexes,
        .transportConnect true "redis" 6379 0 false true,
        .invoke .io (.user 1) (.connectState "redis" 6379 .ok) allMutexes,
        .invoke .io (.user 1) (.connectState "redis" 6379 .ok) allMutexes]) :=
  ⟨_, rfl⟩

end RedisSubscriber
