import RedisSubscriber.State

/-
  The caller-facing methods of `cpp_redis::subscriber`
  (subscriber.cpp, lines 70-311 and 439-468), each up to its
  first suspension. A method's mutex is taken by the system
  step, not by its body.
-/

------------------------------------------------------------
-- Connecting
------------------------------------------------------------

namespace RedisSubscriber

/- `subscriber::connect(host, port, …)` up to the transport connect. -/
def connect
    (s : Subscriber)
    (host : String)
    (port : Nat)
    (connectCallback : Option Callback)
    (timeoutMs : Nat)
    (maxReconnects : Int)
    (reconnectIntervalMs : Nat)
    (useEncryption : Bool) : Segment :=
  { sub :=
      { s with
        redisServer := host
        redisPort := port
        connectCallback := connectCallback
        maxReconnects := maxReconnects
        reconnectIntervalMs := reconnectIntervalMs
        useEncryption := useEncryption }
    cont := [.connectTransport host port timeoutMs useEncryption]
    events := []
    invoked := connectCallback.map fun f => (f, .connectState host port .start) }

/- The rest of `connect`: `m_client.connect(…)`, then notify `ok` or throw. -/
def connectTransport
    (s : Subscriber)
    (byReconnect : Bool)
    (host : String)
    (port : Nat)
    (timeoutMs : Nat)
    (useEncryption : Bool)
    (o : Outcome) : Segment :=
  let attempt :=
    Event.transportConnect byReconnect host port timeoutMs useEncryption o.connectOk
  if o.connectOk then
    { sub := { s with clientConnected := true }
      cont := []
      events := [attempt]
      invoked := s.connectCallback.map fun f =>
        (f, .connectState s.redisServer s.redisPort .ok) }
  else Segment.done s [attempt]

/- `subscriber::connect(name, …)`: ask the sentinel, then connect or throw. -/
def connectSentinel
    (s : Subscriber)
    (name : String)
    (connectCallback : Option Callback)
    (timeoutMs : Nat)
    (maxReconnects : Int)
    (reconnectIntervalMs : Nat)
    (useEncryption : Bool)
    (o : Outcome) : Segment :=
  let s := { s with masterName := name, redisServer := o.lookupHost, redisPort := o.lookupPort }
  let lookup := Event.sentinelLookup name o.lookupOk o.lookupHost o.lookupPort
  if o.lookupOk then
    let seg := connect s s.redisServer s.redisPort connectCallback timeoutMs
      maxReconnects reconnectIntervalMs useEncryption
    { seg with events := lookup :: seg.events }
  else Segment.done s [lookup]

------------------------------------------------------------
-- Commands
------------------------------------------------------------

/- `subscriber::auth`: cache the password, arm the one-shot, send `AUTH`. -/
def auth
    (s : Subscriber)
    (password : String)
    (replyCallback : Option Callback) : Subscriber × List Event :=
  ({ s with password := password, authReplyCallback := replyCallback },
    [.send ["AUTH", password]])

/- `subscriber::client_setname`: cache the name, arm the one-shot, send `CLIENT SETNAME`. -/
def clientSetname
    (s : Subscriber)
    (name : String)
    (replyCallback : Option Callback) : Subscriber × List Event :=
  ({ s with clientName := name, clientSetnameReplyCallback := replyCallback },
    [.send ["CLIENT", "SETNAME", name]])

/- The body shared by `unprotected_subscribe` and `unprotected_psubscribe`. -/
def unprotectedSubscribeTo
    (t : Table)
    (s : Subscriber)
    (name : String)
    (callback : Callback)
    (acknowledgementCallback : Option Callback) : Subscriber × List Event :=
  (s.setTable t ((s.table t).insert name ⟨callback, acknowledgementCallback⟩),
    [.send [t.subscribeCommand, name]])

/- `subscriber::unprotected_subscribe`. -/
def unprotectedSubscribe :
    Subscriber → String → Callback → Option Callback → Subscriber × List Event :=
  unprotectedSubscribeTo .channels

/- `subscriber::unprotected_psubscribe`. -/
def unprotectedPsubscribe :
    Subscriber → String → Callback → Option Callback → Subscriber × List Event :=
  unprotectedSubscribeTo .patterns

/- `subscriber::subscribe`, under `m_subscribed_channels_mutex`. -/
def subscribe :
    Subscriber → String → Callback → Option Callback → Subscriber × List Event :=
  unprotectedSubscribe

/- `subscriber::psubscribe`, under `m_psubscribed_channels_mutex`. -/
def psubscribe :
    Subscriber → String → Callback → Option Callback → Subscriber × List Event :=
  unprotectedPsubscribe

/- The body shared by `unsubscribe` and `punsubscribe`. -/
def unsubscribeFrom
    (t : Table)
    (s : Subscriber)
    (name : String) : Subscriber × List Event :=
  match (s.table t).find? name with
  | none => (s, [])
  | some _ =>
      (s.setTable t ((s.table t).erase name), [.send [t.unsubscribeCommand, name]])

/- `subscriber::unsubscribe`, under `m_subscribed_channels_mutex`. -/
def unsubscribe : Subscriber → String → Subscriber × List Event :=
  unsubscribeFrom .channels

/- `subscriber::punsubscribe`, under `m_psubscribed_channels_mutex`. -/
def punsubscribe : Subscriber → String → Subscriber × List Event :=
  unsubscribeFrom .patterns

/- Whether `subscriber::commit` returns rather than throws. -/
def commitSucceeds (s : Subscriber) (o : Outcome) : Bool :=
  o.commitOk && s.clientConnected

/- `subscriber::ping`, under `m_ping_callbacks_mutex`. -/
def ping
    (s : Subscriber)
    (message : String)
    (replyCallback : Option Callback) : Subscriber × List Event :=
  ({ s with pingCallbacks := s.pingCallbacks ++ [replyCallback] },
    [.send (if message.isEmpty then ["PING"] else ["PING", message]),
      .pingPush replyCallback])

/-
  `subscriber::clear_ping_callbacks`, which takes no mutex: the
  `empty()` test and the read of the queue; the end of the move
  is a later step, so `ping` and the pong handler can run between.
-/
def clearPingCallbacks (s : Subscriber) : List Frame :=
  if s.pingCallbacks.isEmpty then [] else [.finishPingMove s.pingCallbacks]

/- The end of the move: the detached thread gets the callbacks read before. -/
def finishPingMove (s : Subscriber) (callbacks : List (Option Callback)) : Segment :=
  { sub := { s with pingCallbacks := [] }, cont := [], events := [], detached := callbacks }

/- One turn of the detached thread of `clear_ping_callbacks`. -/
def failPingCallback
    (s : Subscriber)
    (thread : ThreadId) : List (Option Callback) → Segment
  | [] => Segment.done s []
  | callback :: rest =>
      { sub := s
        cont := [.failureDelivery rest]
        events := [.pingFail thread callback]
        invoked := callback.map fun f => (f, .reply Reply.networkFailure) }

/- `subscriber::disconnect`: close the transport, then fail pending pings. -/
def disconnect (s : Subscriber) (_waitForRemoval : Bool) : Segment :=
  { sub := { s with clientConnected := false }
    cont := clearPingCallbacks s
    events := [.transportDisconnect] }

/- `subscriber::cancel_reconnect`. -/
def cancelReconnect (s : Subscriber) : Subscriber :=
  { s with cancel := true }

------------------------------------------------------------
-- Dispatch of Calls
------------------------------------------------------------

/- A method body as a segment on the calling thread. -/
def runOp (s : Subscriber) (o : Outcome) : Op → Segment
  | .connect host port cb timeoutMs maxReconnects interval tls =>
      connect s host port cb timeoutMs maxReconnects interval tls
  | .connectSentinel name cb timeoutMs maxReconnects interval tls =>
      connectSentinel s name cb timeoutMs maxReconnects interval tls o
  | .auth password cb => let r := auth s password cb; Segment.done r.1 r.2
  | .clientSetname name cb => let r := clientSetname s name cb; Segment.done r.1 r.2
  | .subscribe .channels name cb ack => let r := subscribe s name cb ack; Segment.done r.1 r.2
  | .subscribe .patterns name cb ack => let r := psubscribe s name cb ack; Segment.done r.1 r.2
  | .unsubscribe .channels name => let r := unsubscribe s name; Segment.done r.1 r.2
  | .unsubscribe .patterns name => let r := punsubscribe s name; Segment.done r.1 r.2
  | .commit => Segment.done s [.commit (commitSucceeds s o)]
  | .ping message cb => let r := ping s message cb; Segment.done r.1 r.2
  | .disconnect waitForRemoval => disconnect s waitForRemoval
  | .cancelReconnect => Segment.done (cancelReconnect s) []

end RedisSubscriber
