import RedisSubscriber.Receive

/-
  The reply classifier and dispatcher of the spec (sections 4.2
  and 4.3), and the proof that `connection_receive_handler`
  implements them (`receiveOutcome_eq_dispatch`).
-/

------------------------------------------------------------
-- The Classifier and the Dispatcher
------------------------------------------------------------

namespace RedisSubscriber

/- The kinds of reply the spec's classifier distinguishes. -/
inductive Classification
  | outOfBand
  | acknowledgement (t : Table) (name : String) (count : Int)
  | message (channel payload : String)
  | pmessage (pattern channel payload : String)
  | pong
  | discard

/- The classifier: a reply's shape decides its kind. -/
def classify : Reply → Classification
  | .array [.string title _, .string name _, .integer count] =>
      if title = "subscribe" then .acknowledgement .channels name count
      else if title = "psubscribe" then .acknowledgement .patterns name count
      else .discard
  | .array [.string title _, .string channel _, .string payload _] =>
      if title = "message" then .message channel payload else .discard
  | .array [.string title _, .string pattern _, .string channel _, .string payload _] =>
      if title = "pmessage" then .pmessage pattern channel payload else .discard
  | .array [.string title _, .string _ _] =>
      if title = "pong" then .pong else .discard
  | .array _ => .discard
  | _ => .outOfBand

/- The dispatcher: the state after a reply, the one callback invoked and the pop. -/
def dispatch
    (s : Subscriber)
    (r : Reply) :
    Classification → Subscriber × Option (Callback × CallbackArg) × List Event
  | .outOfBand =>
      match s.authReplyCallback, s.clientSetnameReplyCallback with
      | some f, _ => ({ s with authReplyCallback := none }, some (f, .reply r), [])
      | none, some f => ({ s with clientSetnameReplyCallback := none }, some (f, .reply r), [])
      | none, none => (s, none, [])
  | .acknowledgement t name count =>
      match (s.table t).find? name with
      | some ⟨_, some ack⟩ => (s, some (ack, .acknowledgement count), [])
      | _ => (s, none, [])
  | .message channel payload =>
      match s.subscribedChannels.find? channel with
      | some holder => (s, some (holder.subscribeCallback, .message channel payload), [])
      | none => (s, none, [])
  | .pmessage pattern channel payload =>
      match s.psubscribedChannels.find? pattern with
      | some holder => (s, some (holder.subscribeCallback, .message channel payload), [])
      | none => (s, none, [])
  | .pong =>
      match s.pingCallbacks with
      | [] => (s, none, [])
      | callback :: rest =>
          ({ s with pingCallbacks := rest }, callback.map fun f => (f, .reply r),
            [.pingPop callback])
  | .discard => (s, none, [])

------------------------------------------------------------
-- The Handler Implements Them
------------------------------------------------------------

/- What the receive thread does once the invoked callback has returned. -/
def afterCallback (s : Subscriber) : Frame → Subscriber
  | .disarmAuth => { s with authReplyCallback := none }
  | .disarmClientSetname => { s with clientSetnameReplyCallback := none }
  | _ => s

/- The whole effect of a segment of the receive handler. -/
def Segment.outcome (seg : Segment) :
    Subscriber × Option (Callback × CallbackArg) × List Event :=
  (seg.cont.foldl afterCallback seg.sub, seg.invoked, seg.events)

@[simp] theorem outcome_done (s : Subscriber) : (Segment.done s []).outcome = (s, none, []) :=
  rfl

/- The effect of `connection_receive_handler` on a reply. -/
def receiveOutcome
    (s : Subscriber)
    (r : Reply) : Subscriber × Option (Callback × CallbackArg) × List Event :=
  (connectionReceiveHandler s r).outcome

/- `call_acknowledgement_callback` dispatches an acknowledgement. -/
theorem outcome_callAcknowledgementCallback
    (s : Subscriber)
    (r : Reply)
    (t : Table)
    (name : String)
    (count : Int) :
    (callAcknowledgementCallback s t name count).outcome =
      dispatch s r (.acknowledgement t name count) := by
  unfold callAcknowledgementCallback dispatch
  split <;> simp_all [Segment.outcome, afterCallback, Segment.done]

/- A non-array reply goes to the armed one-shots, AUTH first. -/
theorem receiveOutcome_nonArray
    (s : Subscriber)
    (r : Reply)
    (hArray : r.isArray = false) :
    receiveOutcome s r = dispatch s r (classify r) := by
  have hClass : classify r = .outOfBand := by
    cases r <;> simp_all [Reply.isArray, classify]
  rw [hClass]
  cases r
  case array => simp [Reply.isArray] at hArray
  all_goals
    cases hAuth : s.authReplyCallback <;> cases hName : s.clientSetnameReplyCallback <;>
      simp [receiveOutcome, Segment.outcome, connectionReceiveHandler, dispatch, hAuth, hName,
        afterCallback, Segment.done]

/- A two-element array is a pong when both are strings and the first is `pong`. -/
theorem receiveOutcome_pair (s : Subscriber) (a b : Reply) :
    receiveOutcome s (.array [a, b]) = dispatch s (.array [a, b]) (classify (.array [a, b])) := by
  cases a
  case string title type =>
    by_cases hPong : title = "pong"
    · subst hPong
      match b with
      | .string _ _ =>
          cases hQueue : s.pingCallbacks <;>
            simp [receiveOutcome, Segment.outcome, connectionReceiveHandler, handlePingReply,
              classify, dispatch, hQueue, Reply.isString, Reply.asString, afterCallback,
              Segment.done]
      | .array _ | .integer _ | .null => rfl
    · cases b <;>
        simp [receiveOutcome, Segment.outcome, connectionReceiveHandler, classify, dispatch,
          hPong, Reply.isString, Reply.asString, Segment.done]
  all_goals rfl

/- A three-element array: acknowledgement or message by its last element. -/
theorem receiveOutcome_triple (s : Subscriber) (a b c : Reply) :
    receiveOutcome s (.array [a, b, c]) =
      dispatch s (.array [a, b, c]) (classify (.array [a, b, c])) := by
  cases c
  case integer count =>
    cases a
    case string title type =>
      cases b
      case string name type' =>
        by_cases hSub : title = "subscribe"
        · subst hSub
          simpa [receiveOutcome, connectionReceiveHandler, handleAcknowledgementReply, classify,
            Reply.isString, Reply.isInteger, Reply.asString, Reply.asInteger] using
            outcome_callAcknowledgementCallback s _ .channels name count
        · by_cases hPsub : title = "psubscribe"
          · subst hPsub
            simpa [receiveOutcome, connectionReceiveHandler, handleAcknowledgementReply, classify,
              Reply.isString, Reply.isInteger, Reply.asString, Reply.asInteger] using
              outcome_callAcknowledgementCallback s _ .patterns name count
          · simp [receiveOutcome, connectionReceiveHandler, handleAcknowledgementReply, classify,
              Reply.isString, Reply.isInteger, Reply.asString, hSub, hPsub, dispatch]
      all_goals rfl
    all_goals rfl
  case string payload type =>
    cases a
    case string title type' =>
      cases b
      case string channel type'' =>
        by_cases hMessage : title = "message"
        · subst hMessage
          cases hFind : s.subscribedChannels.find? channel <;>
            simp [receiveOutcome, Segment.outcome, connectionReceiveHandler, handleSubscribeReply,
              classify, dispatch, Reply.isString, Reply.isInteger, Reply.asString, hFind,
              afterCallback, Segment.done]
        · simp [receiveOutcome, connectionReceiveHandler, handleSubscribeReply, classify,
            dispatch, hMessage, Reply.isString, Reply.isInteger, Reply.asString]
      all_goals rfl
    all_goals rfl
  case null =>
    rw [show classify (.array [a, b, .null]) = .discard by cases a <;> cases b <;> rfl]
    rfl
  case array rows =>
    rw [show classify (.array [a, b, .array rows]) = .discard by cases a <;> cases b <;> rfl]
    rfl

/- A four-element array is a pattern message when all four are strings. -/
theorem receiveOutcome_quad (s : Subscriber) (a b c d : Reply) :
    receiveOutcome s (.array [a, b, c, d]) =
      dispatch s (.array [a, b, c, d]) (classify (.array [a, b, c, d])) := by
  cases a
  case string title type =>
    cases b
    case string pattern type₁ =>
      cases c
      case string channel type₂ =>
        cases d
        case string payload type₃ =>
          by_cases hMessage : title = "pmessage"
          · subst hMessage
            cases hFind : s.psubscribedChannels.find? pattern <;>
              simp [receiveOutcome, Segment.outcome, connectionReceiveHandler,
                handlePsubscribeReply, classify, dispatch, Reply.isString, Reply.asString, hFind,
                afterCallback, Segment.done]
          · simp [receiveOutcome, Segment.outcome, connectionReceiveHandler,
              handlePsubscribeReply, classify, dispatch, hMessage, Reply.isString,
              Reply.asString, Segment.done]
        all_goals rfl
      all_goals rfl
    all_goals rfl
  all_goals rfl

/- `connection_receive_handler` implements the classifier and the dispatcher. -/
theorem receiveOutcome_eq_dispatch (s : Subscriber) (r : Reply) :
    receiveOutcome s r = dispatch s r (classify r) := by
  cases r
  case array rows =>
    match rows with
    | [] => rfl
    | [a] => cases a <;> rfl
    | [a, b] => exact receiveOutcome_pair s a b
    | [a, b, c] => exact receiveOutcome_triple s a b c
    | [a, b, c, d] => exact receiveOutcome_quad s a b c d
    | _ :: _ :: _ :: _ :: _ :: _ =>
        simp [receiveOutcome, Segment.outcome, connectionReceiveHandler, classify, dispatch,
          Segment.done]
  all_goals exact receiveOutcome_nonArray s _ rfl

/- The handler never reads a string element's type. -/
theorem receiveOutcome_stringTypes
    (s : Subscriber)
    (channel payload message : String)
    (ty₁ ty₂ ty₃ : StringType) :
    receiveOutcome s (.array [.string "message" ty₁, .string channel ty₂, .string payload ty₃]) =
        dispatch s (.array [.string "message" ty₁, .string channel ty₂, .string payload ty₃])
          (.message channel payload) ∧
      receiveOutcome s (.array [.string "pong" ty₁, .string message ty₂]) =
        dispatch s (.array [.string "pong" ty₁, .string message ty₂]) .pong :=
  ⟨receiveOutcome_triple s _ _ _, receiveOutcome_pair s _ _⟩

example (s : Subscriber) (channel payload : String) :
    receiveOutcome s (.array [.string "message" .error, .string channel .error,
        .string payload .error]) =
      dispatch s (.array [.string "message" .error, .string channel .error,
        .string payload .error]) (.message channel payload) :=
  (receiveOutcome_stringTypes s channel payload "" .error .error .error).1

------------------------------------------------------------
-- A Pong Without a String Argument
------------------------------------------------------------

/- A subscriber with one ping in flight. -/
def pendingPingSubscriber : Subscriber :=
  { Subscriber.init with pingCallbacks := [some (.user 0)] }

/- `["pong", 1]` neither pops nor answers the pending ping. -/
theorem pong_with_integer_is_not_popped :
    (connectionReceiveHandler pendingPingSubscriber
        (.array [.string "pong" .bulkString, .integer 1])).sub.pingCallbacks =
      [some (.user 0)] ∧
    (connectionReceiveHandler pendingPingSubscriber
        (.array [.string "pong" .bulkString, .integer 1])).invoked = none :=
  ⟨rfl, rfl⟩

end RedisSubscriber
