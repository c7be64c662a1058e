import RedisSubscriber.Stacks

/-
  What a thread finishes on its own steps (`ThreadRun`): the
  reconnect loop past its locks, and the detached thread of
  `clear_ping_callbacks`.
-/

------------------------------------------------------------
-- Runs of One Thread
------------------------------------------------------------

namespace RedisSubscriber

/- A thread's own run: it advances with answers `o`, or a callback it invoked returns. -/
def ThreadRun (o : Outcome) (t : ThreadId) (c c' : Config) (new : List Event) : Prop :=
  ∃ acts : List Action, (∀ a ∈ acts, a = .advance t o ∨ a = .ret t) ∧
    exec c acts = some (c', new)

theorem execAllowed_append
    {allow : Config → Action → Bool}
    {c c₁ c₂ : Config}
    {xs ys : List Action}
    {e₁ e₂ : List Event}
    (h₁ : execAllowed allow c xs = some (c₁, e₁))
    (h₂ : execAllowed allow c₁ ys = some (c₂, e₂)) :
    execAllowed allow c (xs ++ ys) = some (c₂, e₁ ++ e₂) := by
  induction xs generalizing c e₁ with
  | nil =>
      cases h₁
      exact h₂
  | cons a xs ih =>
      obtain ⟨hAllow, c', first, later, hStep, hRest, rfl⟩ := execAllowed_cons_eq_some h₁
      rw [List.cons_append, execAllowed, if_pos hAllow, hStep]
      simp only [ih hRest, Option.map_some', List.append_assoc]

theorem ThreadRun.trans
    {o : Outcome}
    {t : ThreadId}
    {c₁ c₂ c₃ : Config}
    {e₁ e₂ : List Event}
    (h₁ : ThreadRun o t c₁ c₂ e₁)
    (h₂ : ThreadRun o t c₂ c₃ e₂) :
    ThreadRun o t c₁ c₃ (e₁ ++ e₂) := by
  obtain ⟨xs, hXs, hExec₁⟩ := h₁
  obtain ⟨ys, hYs, hExec₂⟩ := h₂
  refine ⟨xs ++ ys, fun a ha => ?_, execAllowed_append hExec₁ hExec₂⟩
  rcases List.mem_append.mp ha with ha | ha
  · exact hXs a ha
  · exact hYs a ha

theorem Config.stack_withSub (c : Config) (s : Subscriber) (t : ThreadId) :
    ({ c with sub := s } : Config).stack t = c.stack t := by
  cases t <;> rfl

theorem Config.setStack_withSub (c : Config) (s : Subscriber) (t : ThreadId) (x y : List Frame) :
    ({ c.setStack t x with sub := s } : Config).setStack t y =
      { c.setStack t y with sub := s } := by
  cases t <;> simp only [Config.setStack, Function.update_idem]

/- One advance of a thread, then the return of the callback it invoked, if any. -/
theorem ThreadRun.advance
    {o : Outcome}
    {c c' : Config}
    {f : Frame}
    {rest : List Frame}
    (t : ThreadId)
    (seg : Segment)
    (hStack : c.stack t = f :: rest)
    (hRun : f.run c.sub t rest o = some seg)
    (hDetached : seg.detached = [])
    (hNext : c' = { c.setStack t (seg.cont ++ rest) with sub := seg.sub }) :
    ThreadRun o t c c' (seg.events ++ c.resumeEvents t rest seg) := by
  subst hNext
  have hStep : step c (.advance t o) = some (c.resume t rest seg) := by
    simp only [step, hStack, hRun, Option.map_some']
  cases hInvoked : seg.invoked with
  | none =>
      refine ⟨[.advance t o], by simp, ?_⟩
      simp only [exec, execAllowed, if_true, hStep, Config.resume, hDetached, List.isEmpty_nil,
        Config.resumeStack, hInvoked, Option.map_some', List.append_nil]
  | some invoked =>
      refine ⟨[.advance t o, .ret t], by simp, ?_⟩
      simp only [exec, execAllowed, if_true, hStep, Config.resume, hDetached, List.isEmpty_nil,
        Config.resumeStack, hInvoked]
      simp only [step, Config.stack_withSub, Config.stack_setStack, if_true,
        Config.setStack_withSub, Option.map_some', List.append_nil]

/- The same step, said by what it leaves: the thread's new stack, every other stack as it was. -/
theorem ThreadRun.advance_frame
    {o : Outcome}
    {c : Config}
    {f : Frame}
    {rest : List Frame}
    (t : ThreadId)
    (seg : Segment)
    (hStack : c.stack t = f :: rest)
    (hRun : f.run c.sub t rest o = some seg)
    (hDetached : seg.detached = []) :
    ∃ c', ThreadRun o t c c' (seg.events ++ c.resumeEvents t rest seg) ∧ c'.sub = seg.sub ∧
      ∀ t', c'.stack t' = if t' = t then seg.cont ++ rest else c.stack t' :=
  ⟨_, ThreadRun.advance t seg hStack hRun hDetached rfl, rfl,
    fun _ => (Config.stack_withSub _ _ _).trans (Config.stack_setStack _ _ _ _)⟩

------------------------------------------------------------
-- One Successful Attempt, Point by Point
------------------------------------------------------------

section Attempt

variable {o : Outcome} {c : Config}

end Attempt

------------------------------------------------------------
-- Recovery
------------------------------------------------------------

/- What the detached thread records for one moved callback, under no lock. -/
def failureEvents (t : ThreadId) (callback : Option Callback) : List Event :=
  .pingFail t callback ::
    (callback.map fun f => .invoke t f (.reply Reply.networkFailure) []).toList

/- The induction over the moved callbacks, shared with the ping-queue proofs. -/
theorem ThreadRun.failureDelivery
    {o : Outcome}
    {c : Config}
    {n : Nat}
    {callbacks : List (Option Callback)}
    (hStack : c.stack (.other n) = [.failureDelivery callbacks]) :
    ∃ c' new, ThreadRun o (.other n) c c' new ∧ c'.stack (.other n) = [] ∧ c'.sub = c.sub ∧
      (∀ t, t ≠ .other n → c'.stack t = c.stack t) ∧
      new = callbacks.flatMap (failureEvents (.other n)) := by
  induction callbacks generalizing c with
  | nil =>
      obtain ⟨c', hRun, hSub, hStack'⟩ :=
        ThreadRun.advance_frame (o := o) (.other n) (Segment.done c.sub []) hStack rfl rfl
      refine ⟨c', _, hRun, by rw [hStack', if_pos rfl]; rfl, hSub, fun t ht => ?_, rfl⟩
      rw [hStack', if_neg ht]
  | cons callback rest ih =>
      obtain ⟨c₁, hFail, hSub₁, hStack₁⟩ := ThreadRun.advance_frame (o := o) (.other n)
        (failPingCallback c.sub (.other n) (callback :: rest)) hStack rfl rfl
      obtain ⟨c', new, hRun, hDone, hSub, hFrame, rfl⟩ :=
        ih (by rw [hStack₁, if_pos rfl]; rfl)
      refine ⟨c', _, hFail.trans hRun, hDone, hSub.trans hSub₁, fun t ht => ?_, ?_⟩
      · rw [hFrame t ht, hStack₁, if_neg ht]
      · cases callback <;> rfl

/- The detached thread fails its callbacks front first, and ends. -/
theorem failure_thread_delivers
    {o : Outcome}
    {c : Config}
    {n : Nat}
    {callbacks : List (Option Callback)}
    (hStack : c.stack (.other n) = [.failureDelivery callbacks]) :
    ∃ c' new, ThreadRun o (.other n) c c' new ∧ c'.stack (.other n) = [] ∧ c'.sub = c.sub ∧
      (∀ t, t ≠ .other n → c'.stack t = c.stack t) ∧
      new = callbacks.flatMap (failureEvents (.other n)) :=
  ThreadRun.failureDelivery hStack

/- Two pings are pending when a caller disconnects. -/
theorem failure_thread_delivers_after_disconnect :
    ∃ c events, Reachable c events ∧
      c.stack (.other 1) = [.failureDelivery [some (.user 1), none]] ∧
      ∃ c' new, ThreadRun .success (.other 1) c c' new ∧ c'.stack (.other 1) = [] ∧
        c'.sub = c.sub ∧ (∀ t, t ≠ .other 1 → c'.stack t = c.stack t) ∧
        new = [some (.user 1), none].flatMap (failureEvents (.other 1)) := by
  have ⟨c, events, hExec, hStack⟩ : ∃ c events,
      exec Config.init [.call (.other 0) (.connect "redis" 6379 none 0 (-1) 0 false) .success,
        .advance (.other 0) .success,
        .call (.other 0) (.ping "" (some (.user 1))) .success,
        .call (.other 0) (.ping "x" none) .success,
        .call (.other 0) (.disconnect false) .success,
        .advance (.other 0) .success] = some (c, events) ∧
      c.stack (.other 1) = [.failureDelivery [some (.user 1), none]] :=
    ⟨_, _, rfl, rfl⟩
  exact ⟨c, events, run_of_exec _ .init hExec fun _ _ => trivial, hStack,
    failure_thread_delivers hStack⟩

end RedisSubscriber
