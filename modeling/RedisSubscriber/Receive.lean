import RedisSubscriber.Commands

/-
  `connection_receive_handler` and the `handle_*` functions
  (subscriber.cpp, lines 313-437 and 470-509), each up to the
  one callback it invokes.
-/

------------------------------------------------------------
-- Acknowledgements and Messages
------------------------------------------------------------

namespace RedisSubscriber

/- `subscriber::call_acknowledgement_callback`, under the table's mutex. -/
def callAcknowledgementCallback
    (s : Subscriber)
    (t : Table)
    (channel : String)
    (count : Int) : Segment :=
  match (s.table t).find? channel with
  | some ⟨_, some ack⟩ =>
      { sub := s
        cont := [.unlock t.mutex]
        events := []
        invoked := some (ack, .acknowledgement count) }
  | _ => Segment.done s []

/- `subscriber::handle_acknowledgement_reply`. -/
def handleAcknowledgementReply (s : Subscriber) : List Reply → Segment
  | [title, channel, nbChans] =>
      if title.isString && channel.isString && nbChans.isInteger then
        if title.asString = "subscribe" then
          callAcknowledgementCallback s .channels channel.asString nbChans.asInteger
        else if title.asString = "psubscribe" then
          callAcknowledgementCallback s .patterns channel.asString nbChans.asInteger
        else Segment.done s []
      else Segment.done s []
  | _ => Segment.done s []

/- `subscriber::handle_subscribe_reply`, under `m_subscribed_channels_mutex`. -/
def handleSubscribeReply (s : Subscriber) : List Reply → Segment
  | [title, channel, message] =>
      if title.isString && channel.isString && message.isString &&
          title.asString = "message" then
        match s.subscribedChannels.find? channel.asString with
        | some holder =>
            { sub := s
              cont := [.unlock .subscribedChannels]
              events := []
              invoked := some (holder.subscribeCallback,
                .message channel.asString message.asString) }
        | none => Segment.done s []
      else Segment.done s []
  | _ => Segment.done s []

/- `subscriber::handle_psubscribe_reply`, under `m_psubscribed_channels_mutex`. -/
def handlePsubscribeReply (s : Subscriber) : List Reply → Segment
  | [title, pchannel, channel, message] =>
      if title.isString && pchannel.isString && channel.isString && message.isString &&
          title.asString = "pmessage" then
        match s.psubscribedChannels.find? pchannel.asString with
        | some holder =>
            { sub := s
              cont := [.unlock .psubscribedChannels]
              events := []
              invoked := some (holder.subscribeCallback,
                .message channel.asString message.asString) }
        | none => Segment.done s []
      else Segment.done s []
  | _ => Segment.done s []

------------------------------------------------------------
-- Pongs and One-Shots
------------------------------------------------------------

/- `subscriber::handle_ping_reply`: the pop is locked, the callback runs after. -/
def handlePingReply (s : Subscriber) (reply : Reply) : Segment :=
  match reply with
  | .array [pong, pongmsg] =>
      if pong.isString && pongmsg.isString then
        match s.pingCallbacks with
        | [] => Segment.done s []
        | callback :: rest =>
            { sub := { s with pingCallbacks := rest }
              cont := []
              events := [.pingPop callback]
              invoked := callback.map fun f => (f, .reply reply) }
      else Segment.done s []
  | _ => Segment.done s []

/- `subscriber::connection_receive_handler`. -/
def connectionReceiveHandler (s : Subscriber) (reply : Reply) : Segment :=
  match reply with
  | .array rows =>
      if rows.length = 3 && (rows.getD 2 .null).isInteger then
        handleAcknowledgementReply s rows
      else if rows.length = 3 && (rows.getD 2 .null).isString then
        handleSubscribeReply s rows
      else if rows.length = 4 then
        handlePsubscribeReply s rows
      else if rows.length = 2 && (rows.getD 0 .null).isString &&
          (rows.getD 0 .null).asString = "pong" then
        handlePingReply s reply
      else Segment.done s []
  | _ =>
      match s.authReplyCallback, s.clientSetnameReplyCallback with
      | some f, _ =>
          { sub := s, cont := [.disarmAuth], events := [], invoked := some (f, .reply reply) }
      | none, some f =>
          { sub := s, cont := [.disarmClientSetname], events := [],
            invoked := some (f, .reply reply) }
      | none, none => Segment.done s []

------------------------------------------------------------
-- What the Handler Can Do
------------------------------------------------------------

/- A segment that invokes a table entry's callback under the table's lock. -/
def TableDispatch (s : Subscriber) (seg : Segment) : Prop :=
  ∃ m f arg, ((∃ n, arg = .acknowledgement n) ∨ ∃ channel message, arg = .message channel message) ∧
    seg = { sub := s, cont := [.unlock m], events := [], invoked := some (f, arg) }

theorem callAcknowledgementCallback_cases (s : Subscriber) (t : Table) (channel : String) (count : Int) :
    callAcknowledgementCallback s t channel count = Segment.done s [] ∨
      TableDispatch s (callAcknowledgementCallback s t channel count) := by
  unfold callAcknowledgementCallback
  split
  · exact .inr ⟨_, _, _, .inl ⟨_, rfl⟩, rfl⟩
  · exact .inl rfl

theorem handleAcknowledgementReply_cases (s : Subscriber) (rows : List Reply) :
    handleAcknowledgementReply s rows = Segment.done s [] ∨
      TableDispatch s (handleAcknowledgementReply s rows) := by
  unfold handleAcknowledgementReply
  split
  · split
    · split
      · exact callAcknowledgementCallback_cases s _ _ _
      · split
        · exact callAcknowledgementCallback_cases s _ _ _
        · exact .inl rfl
    · exact .inl rfl
  · exact .inl rfl

theorem handleSubscribeReply_cases (s : Subscriber) (rows : List Reply) :
    handleSubscribeReply s rows = Segment.done s [] ∨
      TableDispatch s (handleSubscribeReply s rows) := by
  unfold handleSubscribeReply
  split
  · split
    · split
      · exact .inr ⟨_, _, _, .inr ⟨_, _, rfl⟩, rfl⟩
      · exact .inl rfl
    · exact .inl rfl
  · exact .inl rfl

theorem handlePsubscribeReply_cases (s : Subscriber) (rows : List Reply) :
    handlePsubscribeReply s rows = Segment.done s [] ∨
      TableDispatch s (handlePsubscribeReply s rows) := by
  unfold handlePsubscribeReply
  split
  · split
    · split
      · exact .inr ⟨_, _, _, .inr ⟨_, _, rfl⟩, rfl⟩
      · exact .inl rfl
    · exact .inl rfl
  · exact .inl rfl

theorem handlePingReply_cases (s : Subscriber) (r : Reply) :
    handlePingReply s r = Segment.done s [] ∨
      ∃ callback rest, s.pingCallbacks = callback :: rest ∧
        handlePingReply s r =
          { sub := { s with pingCallbacks := rest }
            cont := []
            events := [.pingPop callback]
            invoked := callback.map fun f => (f, .reply r) } := by
  unfold handlePingReply
  split
  · split
    · split
      · exact .inl rfl
      · exact .inr ⟨_, _, ‹_›, rfl⟩
    · exact .inl rfl
  · exact .inl rfl

/- Every run of `connection_receive_handler`, said once. -/
theorem connectionReceiveHandler_cases (s : Subscriber) (r : Reply) :
    connectionReceiveHandler s r = Segment.done s [] ∨
    (∃ m f arg, ((∃ n, arg = .acknowledgement n) ∨ ∃ channel message, arg = .message channel message) ∧
      connectionReceiveHandler s r =
        { sub := s, cont := [.unlock m], events := [], invoked := some (f, arg) }) ∨
    (r.isArray = false ∧ ∃ f, s.authReplyCallback = some f ∧
      connectionReceiveHandler s r =
        { sub := s, cont := [.disarmAuth], events := [], invoked := some (f, .reply r) }) ∨
    (r.isArray = false ∧ s.authReplyCallback = none ∧ ∃ f, s.clientSetnameReplyCallback = some f ∧
      connectionReceiveHandler s r =
        { sub := s, cont := [.disarmClientSetname], events := [], invoked := some (f, .reply r) }) ∨
    (∃ callback rest, s.pingCallbacks = callback :: rest ∧
      connectionReceiveHandler s r =
        { sub := { s with pingCallbacks := rest }
          cont := []
          events := [.pingPop callback]
          invoked := callback.map fun f => (f, .reply r) }) := by
  generalize hSeg : connectionReceiveHandler s r = seg
  unfold connectionReceiveHandler at hSeg
  split at hSeg
  · split at hSeg
    · exact hSeg ▸ (handleAcknowledgementReply_cases s _).imp_right .inl
    · split at hSeg
      · exact hSeg ▸ (handleSubscribeReply_cases s _).imp_right .inl
      · split at hSeg
        · exact hSeg ▸ (handlePsubscribeReply_cases s _).imp_right .inl
        · split at hSeg
          · exact hSeg ▸ (handlePingReply_cases s _).imp_right fun h => .inr (.inr (.inr h))
          · exact .inl hSeg.symm
  · split at hSeg <;> subst hSeg
    · exact .inr (.inr (.inl ⟨by simp [Reply.isArray], _, ‹_›, rfl⟩))
    · exact .inr (.inr (.inr (.inl ⟨by simp [Reply.isArray], ‹_›, _, ‹_›, rfl⟩)))
    · exact .inl rfl

end RedisSubscriber
