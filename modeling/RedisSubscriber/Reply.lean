import Mathlib.Data.String.Basic

/-
  Replies as the transport hands them to the subscriber, the
  callbacks it stores and the arguments it passes to them.
-/

------------------------------------------------------------
-- Replies
------------------------------------------------------------

namespace RedisSubscriber

/- The string flavours of a reply (`reply::string_type`). -/
inductive StringType
  | error
  | bulkString
  | simpleString
  deriving DecidableEq, Repr

/- A parsed RESP reply; the reply class is missing from the sources. -/
inductive Reply
  | array (rows : List Reply)
  | string (value : String) (type : StringType)
  | integer (value : Int)
  | null
  deriving Repr

namespace Reply

/- `reply::is_array`. -/
def isArray : Reply → Bool
  | .array _ => true
  | _ => false

/- `reply::is_string`: simple, bulk and error strings. -/
def isString : Reply → Bool
  | .string _ _ => true
  | _ => false

/- `reply::is_integer`. -/
def isInteger : Reply → Bool
  | .integer _ => true
  | _ => false

/- `reply::as_string`, read only after `is_string` holds. -/
def asString : Reply → String
  | .string value _ => value
  | _ => ""

/- `reply::as_integer`, read only after `is_integer` holds. -/
def asInteger : Reply → Int
  | .integer value => value
  | _ => 0

/- `reply::as_array`, read only after `is_array` holds. -/
def asArray : Reply → List Reply
  | .array rows => rows
  | _ => []

/- The error reply every pending ping callback receives on teardown. -/
def networkFailure : Reply :=
  .string "network failure" .error

end Reply

------------------------------------------------------------
-- Callbacks
------------------------------------------------------------

/- A caller's `std::function`, or a logging handler the replay arms. -/
inductive Callback
  | user (id : Nat)
  | reAuthLog
  | reClientSetnameLog
  deriving DecidableEq, Repr

/- The states reported to the connect callback (`connect_state`). -/
inductive ConnectState
  | dropped
  | start
  | sleeping
  | ok
  | failed
  | lookupFailed
  | stopped
  deriving DecidableEq, Repr

/- The arguments of the four callback types. -/
inductive CallbackArg
  | reply (r : Reply)
  | acknowledgement (count : Int)
  | message (channel : String) (message : String)
  | connectState (host : String) (port : Nat) (state : ConnectState)
  deriving Repr

end RedisSubscriber
