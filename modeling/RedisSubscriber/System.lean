import RedisSubscriber.Receive
import RedisSubscriber.Reconnect

/-
  The subscriber as a transition system: a step lets one thread
  run to its next suspension. A call that takes a mutex waits
  while the receive thread holds it.
-/

------------------------------------------------------------
-- Resuming Threads
------------------------------------------------------------

namespace RedisSubscriber

namespace Config

/- The stack of a thread. -/
def stack (c : Config) : ThreadId → List Frame
  | .io => c.io
  | .other i => c.threads i

/- Replace the stack of a thread. -/
def setStack (c : Config) : ThreadId → List Frame → Config
  | .io, frames => { c with io := frames }
  | .other i, frames => { c with threads := Function.update c.threads i frames }

/- Start a thread with the given stack under the next number. -/
def start (c : Config) (frames : List Frame) : Config :=
  { c with
    threads := Function.update c.threads c.threadCount frames
    threadCount := c.threadCount + 1 }

/- Whether no thread holds a mutex between steps. -/
def lockFree (c : Config) (m : Mutex) : Bool :=
  !(heldLocks c.io).contains m

/- The stack a segment leaves on its thread: its continuation, under the invoked callback. -/
def resumeStack (rest : List Frame) (seg : Segment) : List Frame :=
  match seg.invoked with
  | none => seg.cont ++ rest
  | some _ => .callback :: (seg.cont ++ rest)

/- The events a segment leaves besides its own: the move, then the invocation. -/
def resumeEvents
    (c : Config)
    (t : ThreadId)
    (rest : List Frame)
    (seg : Segment) : List Event :=
  (if seg.detached.isEmpty then [] else [.pingMove (.other c.threadCount) seg.detached]) ++
    match seg.invoked with
    | none => []
    | some (f, arg) => [.invoke t f arg (heldLocks (seg.cont ++ rest))]

/- Install a segment run on a thread, starting the detached thread of a move. -/
def resume
    (c : Config)
    (t : ThreadId)
    (rest : List Frame)
    (seg : Segment) : Config × List Event :=
  let c' := { c.setStack t (resumeStack rest seg) with sub := seg.sub }
  (if seg.detached.isEmpty then c' else c'.start [.failureDelivery seg.detached],
    seg.events ++ c.resumeEvents t rest seg)

end Config

/- What a suspended frame does when its thread goes on; user code does not. -/
def Frame.run
    (s : Subscriber)
    (t : ThreadId)
    (rest : List Frame)
    (o : Outcome) : Frame → Option Segment
  | .main => none
  | .callback => none
  | .connectTransport host port timeoutMs useEncryption =>
      some (RedisSubscriber.connectTransport s (rest.head? = some (.disconnectionHandler .afterConnect))
        host port timeoutMs useEncryption o)
  | .disarmAuth => some (Segment.done { s with authReplyCallback := none } [])
  | .disarmClientSetname => some (Segment.done { s with clientSetnameReplyCallback := none } [])
  | .unlock _ => some (Segment.done s [])
  | .disconnectionHandler pc => some (disconnectionHandlerStep s o pc)
  | .finishPingMove callbacks => some (RedisSubscriber.finishPingMove s callbacks)
  | .failureDelivery callbacks => some (failPingCallback s t callbacks)

------------------------------------------------------------
-- Steps and Runs
------------------------------------------------------------

/- One step of the system. -/
def step (c : Config) : Action → Option (Config × List Event)
  | .call t op o =>
      match c.stack t with
      | f :: rest =>
          if f.isUserCode && op.mutex?.all c.lockFree then
            some (c.resume t (f :: rest) (runOp c.sub o op))
          else none
      | [] => none
  | .ret t =>
      match c.stack t with
      | .callback :: rest => some (c.setStack t rest, [])
      | _ => none
  | .advance t o =>
      match c.stack t with
      | f :: rest => (f.run c.sub t rest o).map (c.resume t rest)
      | [] => none
  | .spawn => some (c.start [.main], [])
  | .receive reply =>
      if c.io.isEmpty then some (c.resume .io [] (connectionReceiveHandler c.sub reply))
      else none
  | .drop =>
      if c.sub.clientConnected then
        some ({ c with
            sub := { c.sub with clientConnected := false }
            pendingDrops := c.pendingDrops + 1 },
          [.transportDrop])
      else none
  | .handleDrop =>
      if c.pendingDrops = 0 then none
      else
        let c := { c with pendingDrops := c.pendingDrops - 1 }
        if c.sub.reconnecting then some (c, [])
        else if c.io.isEmpty then
          some (c.resume .io [] (connectionDisconnectionHandler c.sub))
        else none

/- Run a list of actions, each checked by `allow`. -/
def execAllowed (allow : Config → Action → Bool) (c : Config) :
    List Action → Option (Config × List Event)
  | [] => some (c, [])
  | a :: rest =>
      if allow c a then
        match step c a with
        | none => none
        | some (c', events) => (execAllowed allow c' rest).map fun r => (r.1, events ++ r.2)
      else none

theorem execAllowed_cons_eq_some
    {allow : Config → Action → Bool}
    {c c'' : Config}
    {a : Action}
    {acts : List Action}
    {new : List Event}
    (h : execAllowed allow c (a :: acts) = some (c'', new)) :
    allow c a = true ∧ ∃ c' first later, step c a = some (c', first) ∧
      execAllowed allow c' acts = some (c'', later) ∧ new = first ++ later := by
  simp only [execAllowed] at h
  split at h
  · next hAllow =>
      cases hStep : step c a with
      | none => simp [hStep] at h
      | some r =>
          rw [hStep] at h
          obtain ⟨⟨cEnd, later⟩, hRest, hEq⟩ := Option.map_eq_some'.mp h
          cases hEq
          exact ⟨hAllow, r.1, r.2, later, rfl, hRest, rfl⟩
  · cases h

/- Run a list of actions; `none` if one of them is not enabled. -/
def exec (c : Config) (acts : List Action) : Option (Config × List Event) :=
  execAllowed (fun _ _ => true) c acts

/- The configurations and traces reached by steps that `allow` admits. -/
inductive Run (allow : Config → Action → Prop) : Config → List Event → Prop
  | init : Run allow Config.init []
  | step {c c' : Config} {events new : List Event} {a : Action} :
      Run allow c events → allow c a → RedisSubscriber.step c a = some (c', new) →
        Run allow c' (events ++ new)

/- Reachable configurations and traces, with every step admitted. -/
def Reachable (c : Config) (events : List Event) : Prop :=
  Run (fun _ _ => True) c events

/- The outcome in which every lookup, transport connect and flush succeeds. -/
def Outcome.success : Outcome :=
  ⟨true, "", 0, true, true⟩

/- An executed list of admitted actions extends a run. -/
theorem run_of_execAllowed
    {allow : Config → Action → Bool}
    {c c' : Config}
    {events new : List Event}
    (acts : List Action)
    (hRun : Run (fun d a => allow d a = true) c events)
    (hExec : execAllowed allow c acts = some (c', new)) :
    Run (fun d a => allow d a = true) c' (events ++ new) := by
  induction acts generalizing c events new with
  | nil =>
      cases hExec
      simpa using hRun
  | cons a rest ih =>
      obtain ⟨hAllow, c'', first, later, hStep, hRest, rfl⟩ := execAllowed_cons_eq_some hExec
      simpa using ih (hRun.step hAllow hStep) hRest

/- A run whose steps one predicate admits is a run for any weaker one. -/
theorem Run.mono
    {allow allow' : Config → Action → Prop}
    {c : Config}
    {events : List Event}
    (hWeaker : ∀ d a, allow d a → allow' d a)
    (hRun : Run allow c events) :
    Run allow' c events := by
  induction hRun with
  | init => exact .init
  | step _ hAllow hStep ih => exact ih.step (hWeaker _ _ hAllow) hStep

theorem run_of_exec
    {allow : Config → Action → Prop}
    {c c' : Config}
    {events new : List Event}
    (acts : List Action)
    (hRun : Run allow c events)
    (hExec : exec c acts = some (c', new))
    (hAllow : ∀ (d : Config) (a : Action), allow d a) :
    Run allow c' (events ++ new) :=
  (run_of_execAllowed acts (hRun.mono fun _ _ _ => rfl) hExec).mono fun d a _ => hAllow d a

/- A run checked by evaluation. -/
theorem exists_run_of_execAllowed
    (allow : Config → Action → Bool)
    (p : Config → List Event → Bool)
    (acts : List Action)
    (h : (execAllowed allow Config.init acts).map (fun r => p r.1 r.2) = some true) :
    ∃ c events, Run (fun d a => allow d a = true) c events ∧ p c events = true := by
  cases hExec : execAllowed allow Config.init acts with
  | none => simp [hExec] at h
  | some r =>
      simp only [hExec, Option.map_some', Option.some.injEq] at h
      exact ⟨r.1, [] ++ r.2, run_of_execAllowed acts .init hExec, h⟩

end RedisSubscriber
