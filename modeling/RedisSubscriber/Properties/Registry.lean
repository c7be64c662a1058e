import RedisSubscriber.Properties.Replay

/-
  The subscription registry as the abstract map it implements.
  The tables are read only through `find`, so the registry is a
  lookup per table (`Subscriber.registry`), and every step
  applies at most one abstract operation to it.

  Key definitions include:
    * `Subscriber.registry`, `RegistryOp`, `registryOp?`

  Main declarations:
    * `step_registry`
    * `registry_refinement`
-/

------------------------------------------------------------
-- The Abstract Registry
------------------------------------------------------------

namespace RedisSubscriber

/- The entry of a name in a table of the subscriber: `find` on the `std::map`. -/
def Subscriber.registry (s : Subscriber) (t : Table) (name : String) : Option CallbackHolder :=
  (s.table t).find? name

/- An operation of the abstract registry. -/
inductive RegistryOp
  | set (t : Table) (name : String) (holder : CallbackHolder)
  | remove (t : Table) (name : String)
  | clear
  deriving DecidableEq, Repr

namespace RegistryOp

/- The registry after an operation. -/
def apply :
    RegistryOp → (Table → String → Option CallbackHolder) →
      Table → String → Option CallbackHolder
  | .set t name holder, r => fun t' name' =>
      if t' = t ∧ name' = name then some holder else r t' name'
  | .remove t name, r => fun t' name' =>
      if t' = t ∧ name' = name then none else r t' name'
  | .clear, _ => fun _ _ => none

/- Operations applied in order. -/
def applyAll
    (ops : List RegistryOp)
    (r : Table → String → Option CallbackHolder) :
    Table → String → Option CallbackHolder :=
  ops.foldl (fun r op => op.apply r) r

/- Whether an operation can change the entry of a name in a table. -/
def touches (t : Table) (name : String) : RegistryOp → Bool
  | .set t' name' _ => decide (t = t' ∧ name = name')
  | .remove t' name' => decide (t = t' ∧ name = name')
  | .clear => true

theorem apply_of_touches_eq_false
    {op : RegistryOp}
    {t : Table}
    {name : String}
    (h : op.touches t name = false)
    (r : Table → String → Option CallbackHolder) :
    op.apply r t name = r t name := by
  cases op with
  | set => exact if_neg (of_decide_eq_false h)
  | remove => exact if_neg (of_decide_eq_false h)
  | clear => cases h

@[simp] theorem applyAll_append
    (ops ops' : List RegistryOp)
    (r : Table → String → Option CallbackHolder) :
    applyAll (ops ++ ops') r = applyAll ops' (applyAll ops r) :=
  List.foldl_append _ _ _ _

theorem applyAll_of_untouched
    {ops : List RegistryOp}
    {t : Table}
    {name : String}
    (h : ∀ op ∈ ops, op.touches t name = false)
    (r : Table → String → Option CallbackHolder) :
    applyAll ops r t name = r t name := by
  induction ops generalizing r with
  | nil => rfl
  | cons op ops ih =>
      rw [applyAll, List.foldl_cons, ← applyAll, ih (fun op' h' => h op' (.tail _ h')),
        apply_of_touches_eq_false (h op (.head _))]

end RegistryOp

/- The abstract operation of a method: `subscribe`, `psubscribe` set, `unsubscribe`, `punsubscribe` remove. -/
def Op.registryOp? : Op → Option RegistryOp
  | .subscribe t name callback ack => some (.set t name ⟨callback, ack⟩)
  | .unsubscribe t name => some (.remove t name)
  | _ => none

/-
  The abstract operation of an action: a caller's method, or
  the give-up at the handler's loop head, when it may not
  reconnect and the transport is down.
-/
def registryOp? (c : Config) : Action → Option RegistryOp
  | .call _ op _ => op.registryOp?
  | .advance .io _ =>
      if c.io = [.disconnectionHandler .loopHead] ∧ shouldReconnect c.sub = false ∧
          c.sub.clientConnected = false then some .clear
      else none
  | _ => none

/- The abstract operations of an execution's steps, in order, up to its first disabled step. -/
def registryOps (c : Config) : List Action → List RegistryOp
  | [] => []
  | a :: acts =>
      match step c a with
      | none => []
      | some (c', _) => (registryOp? c a).toList ++ registryOps c' acts

------------------------------------------------------------
-- What the Code Does to the Registry
------------------------------------------------------------

theorem registry_setTable (s : Subscriber) (t : Table) (m : ChannelMap) :
    (s.setTable t m).registry = fun t' name => if t' = t then m.find? name else s.registry t' name := by
  funext t' name
  simp only [Subscriber.registry, Subscriber.table_setTable]
  by_cases h : t' = t
  · simp [h]
  · simp [h, Ne.symm h]

/- `map[name] = holder` on a table is the abstract `set`. -/
theorem registry_insert (s : Subscriber) (t : Table) (name : String) (holder : CallbackHolder) :
    (s.setTable t ((s.table t).insert name holder)).registry =
      (RegistryOp.set t name holder).apply s.registry := by
  funext t' name'
  rw [registry_setTable]
  by_cases ht : t' = t
  · subst ht
    simp [RegistryOp.apply, ChannelMap.find?_insert, Subscriber.registry]
  · simp [RegistryOp.apply, ht]

/- `map.erase(name)` on a table is the abstract `remove`. -/
theorem registry_erase (s : Subscriber) (t : Table) (name : String) :
    (s.setTable t ((s.table t).erase name)).registry = (RegistryOp.remove t name).apply s.registry := by
  funext t' name'
  rw [registry_setTable]
  by_cases ht : t' = t
  · subst ht
    simp [RegistryOp.apply, ChannelMap.find?_erase, Subscriber.registry]
  · simp [RegistryOp.apply, ht]

/- Removing an absent name changes nothing. -/
theorem RegistryOp.apply_remove_of_none
    {r : Table → String → Option CallbackHolder}
    {t : Table}
    {name : String}
    (h : r t name = none) :
    (RegistryOp.remove t name).apply r = r := by
  funext t' name'
  by_cases hKey : t' = t ∧ name' = name
  · obtain ⟨rfl, rfl⟩ := hKey
    exact (if_pos ⟨rfl, rfl⟩).trans h.symm
  · exact if_neg hKey

theorem runOp_registry (s : Subscriber) (o : Outcome) (op : Op) :
    (runOp s o op).sub.registry = RegistryOp.applyAll op.registryOp?.toList s.registry := by
  cases hOp : op.changesSubscriptions
  · have hTable := runOp_table s o hOp
    cases op <;> simp only [Op.changesSubscriptions, reduceCtorEq] at hOp <;>
      exact funext fun t => funext fun name => by simp only [Subscriber.registry, hTable]; rfl
  · cases op <;> simp only [Op.changesSubscriptions, reduceCtorEq] at hOp
    case subscribe t name callback ack =>
      rw [runOp_subscribe]
      exact registry_insert s t name ⟨callback, ack⟩
    case unsubscribe t name =>
      rw [runOp_unsubscribe]
      unfold unsubscribeFrom
      split
      · next hNone => exact (RegistryOp.apply_remove_of_none hNone).symm
      · exact registry_erase s t name

/- Of the handler's steps only the give-up at the loop head writes the registry: it clears it. -/
theorem disconnectionHandlerStep_registry (s : Subscriber) (o : Outcome) (pc : HandlerPc) :
    (disconnectionHandlerStep s o pc).sub.registry =
      RegistryOp.applyAll
        (if pc = .loopHead ∧ shouldReconnect s = false ∧ s.clientConnected = false then [.clear]
          else [])
        s.registry := by
  by_cases hLoop : pc = .loopHead
  · subst hLoop
    simp only [disconnectionHandlerStep, reconnectLoop, true_and]
    cases hShould : shouldReconnect s <;> cases hConnected : s.clientConnected
    · funext t name
      cases t <;> rfl
    all_goals rfl
  · rw [if_neg fun h => hLoop h.1]
    funext t name
    exact congrArg (·.find? name) (disconnectionHandlerStep_table s o hLoop t)

/- A step of a thread whose top frame is not the handler's loop head is no give-up. -/
theorem registryOp?_advance
    {c : Config}
    {t : ThreadId}
    {f : Frame}
    {rest : List Frame}
    {o : Outcome}
    (hStack : c.stack t = f :: rest)
    (hf : f ≠ .disconnectionHandler .loopHead) :
    registryOp? c (.advance t o) = none := by
  cases t with
  | io => exact if_neg fun h => hf (List.cons.inj (hStack.symm.trans h.1)).1
  | other => rfl

theorem Runs.registry
    {c : Config}
    {a : Action}
    {t : ThreadId}
    {rest : List Frame}
    {seg : Segment}
    (hShaped : c.StacksShaped)
    (h : Runs c a t rest seg) :
    seg.sub.registry = RegistryOp.applyAll (registryOp? c a).toList c.sub.registry := by
  cases h with
  | call => exact runOp_registry _ _ _
  | @advance t f rest o seg hStack hRun =>
      cases f with
      | main | callback => cases hRun
      | connectTransport =>
          cases hRun
          rw [registryOp?_advance hStack nofun]
          unfold connectTransport
          split <;> rfl
      | disarmAuth | disarmClientSetname | unlock | finishPingMove =>
          cases hRun
          rw [registryOp?_advance hStack nofun]
          rfl
      | failureDelivery =>
          cases hRun
          rw [registryOp?_advance hStack nofun]
          unfold failPingCallback
          split <;> rfl
      | disconnectionHandler pc =>
          obtain ⟨rfl, hBase⟩ := base_of_stacksShaped hShaped hStack rfl
          cases t with
          | other => cases hBase
          | io =>
              cases hRun
              have hIo : c.io = [.disconnectionHandler pc] := hStack
              rw [disconnectionHandlerStep_registry]
              by_cases hGiveUp : pc = .loopHead ∧ shouldReconnect c.sub = false ∧
                  c.sub.clientConnected = false
              · obtain ⟨rfl, hShould, hConnected⟩ := hGiveUp
                simp only [registryOp?, hIo, hShould, hConnected, and_self, if_true]
                rfl
              · rw [if_neg hGiveUp, registryOp?, if_neg]
                · rfl
                · rw [hIo, List.cons.injEq, Frame.disconnectionHandler.injEq]
                  exact fun h => hGiveUp ⟨h.1.1, h.2⟩
  | receive =>
      funext t name
      exact congrArg (·.find? name) (connectionReceiveHandler_table _ _ t)
  | handle =>
      unfold connectionDisconnectionHandler
      split <;> rfl

/- Every step applies its abstract operation to the registry, and changes it in no other way. -/
theorem step_registry
    {c c' : Config}
    {a : Action}
    {new : List Event}
    (hShaped : c.StacksShaped)
    (hStep : step c a = some (c', new)) :
    c'.sub.registry = RegistryOp.applyAll (registryOp? c a).toList c.sub.registry := by
  rcases step_cases hStep with
    ⟨t, rest, seg, hRuns, p, hResume⟩ | ⟨t, rest, rfl, -, rfl, -⟩ | ⟨rfl, rfl, -⟩ |
      ⟨rfl, -, rfl, -⟩ | ⟨rfl, -, rfl, -⟩
  · obtain rfl : c' = _ := congrArg Prod.fst hResume
    rw [Config.resume_sub]
    exact hRuns.registry hShaped
  · rw [Config.sub_setStack]
    rfl
  all_goals rfl

------------------------------------------------------------
-- What the Dispatcher Reads
------------------------------------------------------------

/- A `message` on a channel runs the callback of the channel's entry, if there is one. -/
theorem connectionReceiveHandler_message
    (s : Subscriber)
    (name message : String)
    (ty₁ ty₂ ty₃ : StringType) :
    (connectionReceiveHandler s
        (.array [.string "message" ty₁, .string name ty₂, .string message ty₃])).invoked =
      (s.registry .channels name).map fun holder =>
        (holder.subscribeCallback, .message name message) := by
  simp only [connectionReceiveHandler, handleSubscribeReply, Reply.isString, Reply.isInteger,
    Reply.asString, List.length_cons, List.length_nil, List.getD_cons_succ, List.getD_cons_zero]
  change _ = (s.subscribedChannels.find? name).map _
  cases s.subscribedChannels.find? name <;> rfl

/-
  A `pmessage` runs the callback of the entry of the pattern it
  names, if there is one, with the channel and the message.
-/
theorem connectionReceiveHandler_pmessage
    (s : Subscriber)
    (name channel message : String)
    (ty₁ ty₂ ty₃ ty₄ : StringType) :
    (connectionReceiveHandler s (.array [.string "pmessage" ty₁, .string name ty₂,
        .string channel ty₃, .string message ty₄])).invoked =
      (s.registry .patterns name).map fun holder =>
        (holder.subscribeCallback, .message channel message) := by
  simp only [connectionReceiveHandler, handlePsubscribeReply, Reply.isString, Reply.isInteger,
    Reply.asString, List.length_cons, List.length_nil, List.getD_cons_succ, List.getD_cons_zero]
  change _ = (s.psubscribedChannels.find? name).map _
  cases s.psubscribedChannels.find? name <;> rfl

------------------------------------------------------------
-- The Registry over Executions
------------------------------------------------------------

theorem exec_registry
    {c c' : Config}
    {events new : List Event}
    {acts : List Action}
    (hReach : Reachable c events)
    (hExec : exec c acts = some (c', new)) :
    c'.sub.registry = RegistryOp.applyAll (registryOps c acts) c.sub.registry := by
  induction acts generalizing c events new with
  | nil =>
      cases hExec
      rfl
  | cons a acts ih =>
      obtain ⟨-, c₁, first, later, hStep, hRest, rfl⟩ := execAllowed_cons_eq_some hExec
      have hOps : registryOps c (a :: acts) = (registryOp? c a).toList ++ registryOps c₁ acts := by
        simp only [registryOps, hStep]
      rw [hOps, RegistryOp.applyAll_append, ← step_registry hReach.stacksShaped hStep]
      exact ih (hReach.step trivial hStep) hRest

/-
  Every execution changes the registry as the abstract
  operations of its steps, in order; an untouched name keeps
  its entry, and a message on it runs that entry's callback.
-/
theorem registry_refinement
    {c c' : Config}
    {events new : List Event}
    {acts : List Action}
    (hReach : Reachable c events)
    (hExec : exec c acts = some (c', new)) :
    c'.sub.registry = RegistryOp.applyAll (registryOps c acts) c.sub.registry ∧
      ∀ t name, (∀ op ∈ registryOps c acts, op.touches t name = false) →
        c'.sub.registry t name = c.sub.registry t name ∧
        (t = .channels → ∀ message ty₁ ty₂ ty₃,
          (connectionReceiveHandler c'.sub
              (.array [.string "message" ty₁, .string name ty₂, .string message ty₃])).invoked =
            (c.sub.registry t name).map fun holder =>
              (holder.subscribeCallback, .message name message)) ∧
        (t = .patterns → ∀ channel message ty₁ ty₂ ty₃ ty₄,
          (connectionReceiveHandler c'.sub (.array [.string "pmessage" ty₁, .string name ty₂,
              .string channel ty₃, .string message ty₄])).invoked =
            (c.sub.registry t name).map fun holder =>
              (holder.subscribeCallback, .message channel message)) := by
  have hRefines := exec_registry hReach hExec
  refine ⟨hRefines, fun t name hUntouched => ?_⟩
  have hEntry : c'.sub.registry t name = c.sub.registry t name := by
    rw [hRefines, RegistryOp.applyAll_of_untouched hUntouched]
  refine ⟨hEntry, ?_, ?_⟩
  · rintro rfl message ty₁ ty₂ ty₃
    rw [connectionReceiveHandler_message, hEntry]
  · rintro rfl channel message ty₁ ty₂ ty₃ ty₄
    rw [connectionReceiveHandler_pmessage, hEntry]

/- Across a reconnect, a `message` on `news` still reaches its callback. -/
theorem registry_refinement_across_reconnect :
    ∃ c events acts c' new, Reachable c events ∧
      c.sub.registry .channels "news" = some ⟨.user 2, none⟩ ∧
      acts = [.drop, .handleDrop, .advance .io .success, .advance .io .success,
        .advance .io .success, .advance .io .success, .advance .io .success,
        .advance .io .success, .advance .io .success, .advance .io .success] ∧
      exec c acts = some (c', new) ∧ c'.io = [] ∧ c'.sub.clientConnected = true ∧
      registryOps c acts = [] ∧
      (connectionReceiveHandler c'.sub (.array [.string "message" .bulkString,
          .string "news" .bulkString, .string "hello" .bulkString])).invoked =
        some (.user 2, .message "news" "hello") := by
  have ⟨acts, c, events, c', new, hActs, hPrefix, hNews, hExec, hIdle, hConnected, hOps⟩ :
      ∃ acts c events c' new,
      acts = [.drop, .handleDrop, .advance .io .success, .advance .io .success,
        .advance .io .success, .advance .io .success, .advance .io .success,
        .advance .io .success, .advance .io .success, .advance .io .success] ∧
      exec Config.init [.call (.other 0) (.connect "redis" 6379 none 0 (-1) 0 false) .success,
        .advance (.other 0) .success,
        .call (.other 0) (.subscribe .channels "news" (.user 2) none) .success] =
        some (c, events) ∧
      c.sub.registry .channels "news" = some ⟨.user 2, none⟩ ∧
      exec c acts = some (c', new) ∧ c'.io = [] ∧ c'.sub.clientConnected = true ∧
      registryOps c acts = [] :=
    ⟨_, _, _, _, _, rfl, rfl, rfl, rfl, rfl, rfl, rfl⟩
  have hReach := run_of_exec _ .init hPrefix fun _ _ => trivial
  have hDelivered := ((registry_refinement hReach hExec).2 .channels "news"
    (by simp [hOps])).2.1 rfl "hello" .bulkString .bulkString .bulkString
  refine ⟨c, _, acts, c', new, hReach, hNews, hActs, hExec, hIdle, hConnected, hOps, ?_⟩
  rw [hDelivered, hNews]
  rfl

end RedisSubscriber
