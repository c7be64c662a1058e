import RedisSubscriber.System

/-
  What a step can do, said once. Every step either lets a
  thread run a segment of the subscriber's code (`Runs`) and
  installs it with `Config.resume`, or is one of four steps of
  the environment: a callback returns, a caller thread starts,
  the transport drops, or a late disconnection handler call
  returns at once. Invariants are proved from `step_cases`
  and the projections of `resume`, never by unfolding `step`.

  Main declarations:
    * `Runs`
    * `step_cases`
    * `resume_sub`, `resume_events`
-/

------------------------------------------------------------
-- Resumption
------------------------------------------------------------

namespace RedisSubscriber

namespace Config

variable (c : Config) (t : ThreadId) (rest : List Frame) (seg : Segment)

@[simp] theorem resume_sub : (c.resume t rest seg).1.sub = seg.sub := by
  unfold resume
  split <;> rfl

@[simp] theorem resume_events :
    (c.resume t rest seg).2 = seg.events ++ c.resumeEvents t rest seg := rfl

@[simp] theorem resume_pendingDrops :
    (c.resume t rest seg).1.pendingDrops = c.pendingDrops := by
  unfold resume
  split <;> cases t <;> rfl

@[simp] theorem resume_threadCount :
    (c.resume t rest seg).1.threadCount =
      if seg.detached.isEmpty then c.threadCount else c.threadCount + 1 := by
  unfold resume
  split <;> cases t <;> rfl

end Config

------------------------------------------------------------
-- Inversion of Steps
------------------------------------------------------------

/-
  The code an action runs: the segment, the thread, and the
  frames left below the running one.
-/
inductive Runs (c : Config) : Action → ThreadId → List Frame → Segment → Prop
  | call {t : ThreadId} {f : Frame} {rest : List Frame} {op : Op} {o : Outcome} :
      c.stack t = f :: rest → f.isUserCode = true → op.mutex?.all c.lockFree = true →
        Runs c (.call t op o) t (f :: rest) (runOp c.sub o op)
  | advance {t : ThreadId} {f : Frame} {rest : List Frame} {o : Outcome} {seg : Segment} :
      c.stack t = f :: rest → f.run c.sub t rest o = some seg → Runs c (.advance t o) t rest seg
  | receive {r : Reply} :
      c.io = [] → Runs c (.receive r) .io [] (connectionReceiveHandler c.sub r)
  | handle :
      c.io = [] → c.sub.reconnecting = false →
        Runs c .handleDrop .io [] (connectionDisconnectionHandler c.sub)

/- Every step, by what it does. -/
theorem step_cases
    {c c' : Config}
    {a : Action}
    {events : List Event}
    (h : step c a = some (c', events)) :
    (∃ t rest seg, Runs c a t rest seg ∧
      ∃ p, (c', events) = ({ c with pendingDrops := p }).resume t rest seg) ∨
    (∃ t rest, a = .ret t ∧ c.stack t = .callback :: rest ∧ c' = c.setStack t rest ∧
      events = []) ∨
    (a = .spawn ∧ c' = c.start [.main] ∧ events = []) ∨
    (a = .drop ∧ c.sub.clientConnected = true ∧
      c' = { c with
        sub := { c.sub with clientConnected := false }
        pendingDrops := c.pendingDrops + 1 } ∧
      events = [.transportDrop]) ∨
    (a = .handleDrop ∧ c.sub.reconnecting = true ∧
      c' = { c with pendingDrops := c.pendingDrops - 1 } ∧ events = []) := by
  cases a with
  | call t op o =>
      simp only [step] at h
      split at h
      · next f rest hStack =>
          split at h
          · next hOk =>
              simp only [Bool.and_eq_true] at hOk
              cases h
              exact .inl ⟨t, f :: rest, _, .call hStack hOk.1 hOk.2, c.pendingDrops, rfl⟩
          · cases h
      · cases h
  | ret t =>
      simp only [step] at h
      split at h
      · next rest hStack =>
          cases h
          exact .inr (.inl ⟨t, rest, rfl, hStack, rfl, rfl⟩)
      · cases h
  | advance t o =>
      simp only [step] at h
      split at h
      · next f rest hStack =>
          cases hRun : f.run c.sub t rest o with
          | none => simp [hRun] at h
          | some seg =>
              simp only [hRun, Option.map_some', Option.some.injEq] at h
              exact .inl ⟨t, rest, seg, .advance hStack hRun, c.pendingDrops, h.symm⟩
      · cases h
  | spawn =>
      cases h
      exact .inr (.inr (.inl ⟨rfl, rfl, rfl⟩))
  | receive r =>
      simp only [step] at h
      split at h
      · next hIdle =>
          cases h
          exact .inl ⟨.io, [], _, .receive (List.isEmpty_iff.mp hIdle), c.pendingDrops, rfl⟩
      · cases h
  | drop =>
      simp only [step] at h
      split at h
      · next hConnected =>
          cases h
          exact .inr (.inr (.inr (.inl ⟨rfl, hConnected, rfl, rfl⟩)))
      · cases h
  | handleDrop =>
      simp only [step] at h
      split at h
      · cases h
      · split at h
        · next hReconnecting =>
            cases h
            exact .inr (.inr (.inr (.inr ⟨rfl, hReconnecting, rfl, rfl⟩)))
        · next hReconnecting =>
            split at h
            · next hIdle =>
                cases h
                refine .inl ⟨.io, [], _, ?_, c.pendingDrops - 1, rfl⟩
                exact .handle (List.isEmpty_iff.mp hIdle) (by simpa using hReconnecting)
            · cases h

end RedisSubscriber
