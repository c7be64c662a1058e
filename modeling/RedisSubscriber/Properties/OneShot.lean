import RedisSubscriber.SubscriberSteps

/- The one-shot reply callbacks of `auth` and `client_setname`. -/

------------------------------------------------------------
-- The Two Slots
------------------------------------------------------------

namespace RedisSubscriber

/- The two one-shot reply callbacks. -/
inductive OneShot
  | auth
  | clientSetname
  deriving DecidableEq, Repr

namespace OneShot

/- The member holding a one-shot. -/
def slot : OneShot → Subscriber → Option Callback
  | .auth, s => s.authReplyCallback
  | .clientSetname, s => s.clientSetnameReplyCallback

/- Whether a call arms the one-shot. -/
def armedBy : OneShot → Op → Bool
  | .auth, .auth .. => true
  | .clientSetname, .clientSetname .. => true
  | _, _ => false

/- The frame that empties the slot once the slot's callback has returned. -/
def disarm : OneShot → Frame
  | .auth => .disarmAuth
  | .clientSetname => .disarmClientSetname

@[simp] theorem slot_setTable (k : OneShot) (s : Subscriber) (t : Table) (m : ChannelMap) :
    k.slot (s.setTable t m) = k.slot s := by
  cases k <;> cases t <;> rfl

end OneShot

------------------------------------------------------------
-- What Writes a Slot
------------------------------------------------------------

theorem runOp_slot (k : OneShot) (s : Subscriber) (o : Outcome) (op : Op) :
    k.armedBy op = true ∨ k.slot (runOp s o op).sub = k.slot s := by
  cases op
  case subscribe t _ _ _ => cases t <;> simp [runOp, Segment.done, subscribe,
    psubscribe, unprotectedSubscribe, unprotectedPsubscribe, unprotectedSubscribeTo]
  case unsubscribe t _ =>
    cases t <;> simp only [runOp, unsubscribe, punsubscribe, unsubscribeFrom] <;>
      split <;> simp [Segment.done]
  case connectSentinel =>
    simp only [runOp, connectSentinel]
    cases k <;> split <;> simp [connect, Segment.done, OneShot.slot]
  case auth | clientSetname => cases k <;> simp [OneShot.armedBy, runOp, auth, clientSetname,
    Segment.done, OneShot.slot]
  all_goals cases k <;> simp [runOp, connect, ping, disconnect, cancelReconnect, Segment.done,
    OneShot.slot]

/- Of the handler's steps, only the replay writes a slot. -/
theorem disconnectionHandlerStep_slot
    (k : OneShot)
    (s : Subscriber)
    (o : Outcome)
    {pc : HandlerPc}
    (hPc : pc ≠ .replay) :
    k.slot (disconnectionHandlerStep s o pc).sub = k.slot s := by
  cases pc <;> simp only [disconnectionHandlerStep]
  case loopHead =>
    unfold reconnectLoop sleepBeforeNextReconnectAttempt
    cases k <;> split <;> [rfl; split <;> rfl; rfl; split <;> rfl]
  case attempt =>
    unfold reconnect reconnectConnect
    dsimp only
    cases k <;> split <;> [rfl; split <;> rfl; rfl; split <;> rfl]
  case afterConnect =>
    unfold reconnectCheck
    cases k <;> split <;> rfl
  case replay => exact absurd rfl hPc
  all_goals cases k <;> rfl

theorem connectionReceiveHandler_slot (k : OneShot) (s : Subscriber) (r : Reply) :
    k.slot (connectionReceiveHandler s r).sub = k.slot s := by
  rcases connectionReceiveHandler_cases s r with h | ⟨_, _, _, -, h⟩ | ⟨-, _, -, h⟩ |
    ⟨-, -, _, -, h⟩ | ⟨_, _, -, h⟩ <;> rw [h] <;> cases k <;> rfl

/- A slot changes only by arming, by the replay, or by the write after its callback. -/
theorem oneShot_slot_frame
    {c c' : Config}
    {a : Action}
    {new : List Event}
    {k : OneShot}
    (hShaped : c.StacksShaped)
    (hStep : step c a = some (c', new))
    (hChanged : k.slot c'.sub ≠ k.slot c.sub) :
    (∃ t op o, a = .call t op o ∧ k.armedBy op = true) ∨
      (∃ o, a = .advance .io o ∧ c.io = [k.disarm]) ∨
      (∃ o, a = .advance .io o ∧ c.io = [.disconnectionHandler .replay]) := by
  have hSub := step_sub hShaped hStep
  generalize c'.sub = s' at hSub hChanged
  cases hSub with
  | @call t _ _ op o _ _ _ =>
      exact .inl ⟨t, op, o, rfl, (runOp_slot k c.sub o op).resolve_right hChanged⟩
  | transport =>
      unfold connectTransport at hChanged
      split at hChanged <;> cases k <;> exact absurd rfl hChanged
  | disarmAuth hIo =>
      cases k
      · exact .inr (.inl ⟨_, rfl, hIo⟩)
      · exact absurd rfl hChanged
  | disarmClientSetname hIo =>
      cases k
      · exact absurd rfl hChanged
      · exact .inr (.inl ⟨_, rfl, hIo⟩)
  | @handler pc o hIo =>
      by_cases hReplay : pc = .replay
      · subst hReplay
        exact .inr (.inr ⟨o, rfl, hIo⟩)
      · exact absurd (disconnectionHandlerStep_slot k c.sub o hReplay) hChanged
  | @receive r _ => exact absurd (connectionReceiveHandler_slot k c.sub r) hChanged
  | handle =>
      unfold connectionDisconnectionHandler at hChanged
      split at hChanged <;> cases k <;> exact absurd rfl hChanged
  | drop | finishPingMove => cases k <;> exact absurd rfl hChanged
  | same => exact absurd rfl hChanged

/- The write after the auth callback returns empties the slot the callback re-armed. -/
theorem oneShot_slot_frame_rearm :
    ∃ c events c' new, Reachable c events ∧ step c (.advance .io .success) = some (c', new) ∧
      OneShot.auth.slot c'.sub ≠ OneShot.auth.slot c.sub ∧
      ((∃ t op o, Action.advance .io .success = .call t op o ∧ OneShot.auth.armedBy op = true) ∨
        (∃ o, Action.advance .io .success = .advance .io o ∧ c.io = [OneShot.auth.disarm]) ∨
        (∃ o, Action.advance .io .success = .advance .io o ∧
          c.io = [.disconnectionHandler .replay])) := by
  obtain ⟨c, events, hRun, hCheck⟩ := exists_run_of_execAllowed (fun _ _ => true)
    (fun c _ => (step c (.advance .io .success)).any fun r =>
      r.1.sub.authReplyCallback != c.sub.authReplyCallback)
    [.call (.other 0) (.connect "redis" 6379 none 0 (-1) 0 false) .success,
      .advance (.other 0) .success,
      .call (.other 0) (.auth "pw" (some (.user 1))) .success,
      .receive (.string "OK" .simpleString),
      .call .io (.auth "pw2" (some (.user 2))) .success,
      .ret .io] (by decide)
  have hReach : Reachable c events := hRun.mono fun _ _ _ => trivial
  cases hStep : step c (.advance .io .success) with
  | none => simp [hStep] at hCheck
  | some r =>
      have hChanged : OneShot.auth.slot r.1.sub ≠ OneShot.auth.slot c.sub := by
        simpa [hStep, OneShot.slot] using hCheck
      exact ⟨c, events, r.1, r.2, hReach, hStep, hChanged,
        oneShot_slot_frame hReach.stacksShaped hStep hChanged⟩

/- An auth callback that calls `auth` again loses the second reply. -/
theorem rearmed_auth_callback_is_lost :
    ∃ c, exec Config.init
        [.call (.other 0) (.connect "redis" 6379 none 0 (-1) 0 false) .success,
          .advance (.other 0) .success,
          .call (.other 0) (.auth "pw" (some (.user 1))) .success,
          .receive (.string "OK" .simpleString),
          .call .io (.auth "pw2" (some (.user 2))) .success,
          .ret .io,
          .advance .io .success,
          .receive (.string "OK" .simpleString)] =
      some (c,
        [.transportConnect false "redis" 6379 0 false true,
          .send ["AUTH", "pw"],
          .invoke .io (.user 1) (.reply (.string "OK" .simpleString)) [],
          .send ["AUTH", "pw2"]]) ∧
      c.sub.authReplyCallback = none :=
  ⟨_, rfl, rfl⟩

end RedisSubscriber
