import RedisSubscriber.ChannelMap
import Mathlib.Logic.Function.Basic

/-
  The subscriber object, the threads that run its code, and
  what the environment decides. A thread's stack of `Frame`s
  says where it is suspended; the mutexes it holds are read off
  its frames (`heldLocks`).
-/

------------------------------------------------------------
-- Subscriber Members
------------------------------------------------------------

namespace RedisSubscriber

/- The two subscription tables. -/
inductive Table
  | channels
  | patterns
  deriving DecidableEq, Repr

/- The three `std::mutex` members. -/
inductive Mutex
  | pingCallbacks
  | subscribedChannels
  | psubscribedChannels
  deriving DecidableEq, Repr

namespace Table

/- The mutex guarding a table. -/
def mutex : Table → Mutex
  | .channels => .subscribedChannels
  | .patterns => .psubscribedChannels

/- The command that subscribes to a name of the table. -/
def subscribeCommand : Table → String
  | .channels => "SUBSCRIBE"
  | .patterns => "PSUBSCRIBE"

/- The command that unsubscribes from a name of the table. -/
def unsubscribeCommand : Table → String
  | .channels => "UNSUBSCRIBE"
  | .patterns => "PUNSUBSCRIBE"

end Table

/- The members the modelled code uses; `clientConnected` is `m_client.is_connected()`. -/
structure Subscriber where
  redisServer : String
  redisPort : Nat
  masterName : String
  password : String
  clientName : String
  clientConnected : Bool
  connectTimeoutMs : Nat
  maxReconnects : Int
  currentReconnectAttempts : Int
  reconnectIntervalMs : Nat
  useEncryption : Bool
  reconnecting : Bool
  cancel : Bool
  subscribedChannels : ChannelMap
  psubscribedChannels : ChannelMap
  connectCallback : Option Callback
  pingCallbacks : List (Option Callback)
  authReplyCallback : Option Callback
  clientSetnameReplyCallback : Option Callback

namespace Subscriber

/- The member initialisers and the constructor's initialiser list. -/
def init : Subscriber where
  redisServer := ""
  redisPort := 0
  masterName := ""
  password := ""
  clientName := ""
  clientConnected := false
  connectTimeoutMs := 0
  maxReconnects := 0
  currentReconnectAttempts := 0
  reconnectIntervalMs := 0
  useEncryption := false
  reconnecting := false
  cancel := false
  subscribedChannels := .empty
  psubscribedChannels := .empty
  connectCallback := none
  pingCallbacks := []
  authReplyCallback := none
  clientSetnameReplyCallback := none

/- A table of the subscriber. -/
def table (s : Subscriber) : Table → ChannelMap
  | .channels => s.subscribedChannels
  | .patterns => s.psubscribedChannels

/- Replace a table of the subscriber. -/
def setTable (s : Subscriber) : Table → ChannelMap → Subscriber
  | .channels, m => { s with subscribedChannels := m }
  | .patterns, m => { s with psubscribedChannels := m }

@[simp] theorem table_setTable
    (s : Subscriber)
    (t t' : Table)
    (m : ChannelMap) :
    (s.setTable t m).table t' = if t = t' then m else s.table t' := by
  cases t <;> cases t' <;> rfl

@[simp] theorem setTable_table (s : Subscriber) (t : Table) :
    s.setTable t (s.table t) = s := by
  cases t <;> rfl

@[simp] theorem clientConnected_setTable (s : Subscriber) (t : Table) (m : ChannelMap) :
    (s.setTable t m).clientConnected = s.clientConnected := by
  cases t <;> rfl

@[simp] theorem reconnecting_setTable (s : Subscriber) (t : Table) (m : ChannelMap) :
    (s.setTable t m).reconnecting = s.reconnecting := by
  cases t <;> rfl

@[simp] theorem pingCallbacks_setTable (s : Subscriber) (t : Table) (m : ChannelMap) :
    (s.setTable t m).pingCallbacks = s.pingCallbacks := by
  cases t <;> rfl

@[simp] theorem setTable_setTable
    (s : Subscriber)
    (t : Table)
    (m m' : ChannelMap) :
    (s.setTable t m).setTable t m' = s.setTable t m' := by
  cases t <;> rfl

end Subscriber

------------------------------------------------------------
-- Threads and Frames
------------------------------------------------------------

/- Threads: the transport's receive thread, and every other thread. -/
inductive ThreadId
  | io
  | other (index : Nat)
  deriving DecidableEq, Repr

/- Where `connection_disconnection_handler`, with `reconnect()` inlined, can be suspended. -/
inductive HandlerPc
  | lockAll
  | loopHead
  | attempt
  | afterConnect
  | replay
  | finish
  deriving DecidableEq, Repr

/- A suspended activation: user code, or subscriber code waiting to go on. -/
inductive Frame
  | main
  | callback
  | connectTransport (host : String) (port : Nat) (timeoutMs : Nat) (useEncryption : Bool)
  | disarmAuth
  | disarmClientSetname
  | unlock (m : Mutex)
  | disconnectionHandler (pc : HandlerPc)
  | finishPingMove (callbacks : List (Option Callback))
  | failureDelivery (callbacks : List (Option Callback))
  deriving DecidableEq, Repr

/- Every mutex, in the handler's locking order. -/
def allMutexes : List Mutex :=
  [.pingCallbacks, .subscribedChannels, .psubscribedChannels]

/- The `lock_guard`s alive in a frame. -/
def Frame.held : Frame → List Mutex
  | .unlock m => [m]
  | .disconnectionHandler pc => if pc = .lockAll then [] else allMutexes
  | _ => []

/- The mutexes held by a thread with the given stack. -/
def heldLocks (stack : List Frame) : List Mutex :=
  stack.flatMap Frame.held

@[simp] theorem heldLocks_nil : heldLocks [] = [] := rfl

@[simp] theorem heldLocks_cons (f : Frame) (stack : List Frame) :
    heldLocks (f :: stack) = f.held ++ heldLocks stack := rfl

@[simp] theorem heldLocks_append (s t : List Frame) :
    heldLocks (s ++ t) = heldLocks s ++ heldLocks t := by
  simp [heldLocks]

/- Frames a user callback or a caller may call from. -/
def Frame.isUserCode : Frame → Bool
  | .main => true
  | .callback => true
  | _ => false

------------------------------------------------------------
-- Events, Outcomes and Segments
------------------------------------------------------------

/- What a run records, callback invocations with the mutexes held included. -/
inductive Event
  | send (command : List String)
  | commit (ok : Bool)
  | transportConnect (byReconnect : Bool) (host : String) (port : Nat)
      (timeoutMs : Nat) (useEncryption : Bool) (ok : Bool)
  | transportDrop
  | transportDisconnect
  | sentinelLookup (name : String) (ok : Bool) (host : String) (port : Nat)
  | invoke (thread : ThreadId) (callback : Callback) (arg : CallbackArg) (held : List Mutex)
  | pingPush (callback : Option Callback)
  | pingPop (callback : Option Callback)
  | pingMove (thread : ThreadId) (callbacks : List (Option Callback))
  | pingFail (thread : ThreadId) (callback : Option Callback)

/- The environment's answers at a step: sentinel lookup, transport connect, flush. -/
structure Outcome where
  lookupOk : Bool
  lookupHost : String
  lookupPort : Nat
  connectOk : Bool
  commitOk : Bool
  deriving DecidableEq, Repr

/- What running code up to its next suspension leaves. -/
structure Segment where
  sub : Subscriber
  cont : List Frame
  events : List Event
  invoked : Option (Callback × CallbackArg) := none
  detached : List (Option Callback) := []

/- A segment that returns to the frame below. -/
def Segment.done (s : Subscriber) (events : List Event) : Segment :=
  { sub := s, cont := [], events := events }

------------------------------------------------------------
-- Operations and Actions
------------------------------------------------------------

/- The public methods of `cpp_redis::subscriber` that act. -/
inductive Op
  | connect (host : String) (port : Nat) (connectCallback : Option Callback)
      (timeoutMs : Nat) (maxReconnects : Int) (reconnectIntervalMs : Nat)
      (useEncryption : Bool)
  | connectSentinel (name : String) (connectCallback : Option Callback)
      (timeoutMs : Nat) (maxReconnects : Int) (reconnectIntervalMs : Nat)
      (useEncryption : Bool)
  | auth (password : String) (replyCallback : Option Callback)
  | clientSetname (name : String) (replyCallback : Option Callback)
  | subscribe (table : Table) (name : String) (callback : Callback)
      (acknowledgementCallback : Option Callback)
  | unsubscribe (table : Table) (name : String)
  | commit
  | ping (message : String) (replyCallback : Option Callback)
  | disconnect (waitForRemoval : Bool)
  | cancelReconnect

/- The mutex an operation takes, if any. -/
def Op.mutex? : Op → Option Mutex
  | .subscribe t _ _ _ => some t.mutex
  | .unsubscribe t _ => some t.mutex
  | .ping _ _ => some .pingCallbacks
  | _ => none

/- A step of the environment. -/
inductive Action
  | call (thread : ThreadId) (op : Op) (outcome : Outcome)
  | ret (thread : ThreadId)
  | advance (thread : ThreadId) (outcome : Outcome)
  | spawn
  | receive (reply : Reply)
  | drop
  | handleDrop

/-
  The whole system: threads numbered `threadCount` and above
  have not started; `pendingDrops` are drops whose handler call is due.
-/
structure Config where
  sub : Subscriber
  io : List Frame
  threads : Nat → List Frame
  threadCount : Nat
  pendingDrops : Nat

/- A fresh subscriber with one caller thread. -/
def Config.init : Config where
  sub := Subscriber.init
  io := []
  threads := fun i => if i = 0 then [.main] else []
  threadCount := 1
  pendingDrops := 0

end RedisSubscriber
