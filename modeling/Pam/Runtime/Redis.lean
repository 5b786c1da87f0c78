import Pam.Foundation.Run
import Pam.Runtime.Resp

namespace Pam.Runtime

open Pam.Foundation Pam.Protocol

/-! `Pam\Redis\Client`: calls of several fibers on one stream and one buffer. A
fiber runs until it suspends in `connect`, `write` or `read`; its call stack is
data. -/

structure RedisOptions where
  password : Option PhpString
  database : Nat
  maxResponseBytes : Nat

inductive RedisCall where
  | command (arguments : List PhpString)
  | pipeline (commands : List (List PhpString))

def RedisCall.commands : RedisCall → List (List PhpString)
  | .command arguments => [arguments]
  | .pipeline commands => commands

def maxArgumentBytes : Nat := 512 * 1024 * 1024

def encodeCommand (arguments : List PhpString) : Except RedisException PhpString :=
  if arguments.any fun argument => argument.length > maxArgumentBytes then
    .error (.text "Redis argument is too large.")
  else
    .ok (0x2A :: (decimal arguments.length ++ crlf) ++ arguments.flatMap fun argument =>
        0x24 :: (decimal argument.length ++ crlf ++ (argument ++ crlf)))

def RedisCall.payload (call : RedisCall) : Except RedisException PhpString :=
  (call.commands.mapM encodeCommand).map List.flatten

/-- A byte of a reply. Its connection and the call whose command it answers
(none for a handshake) are not in the source: they tell replies apart. -/
structure ReplyByte where
  value : UInt8
  connection : Nat
  call : Option Nat

abbrev PeerReply := { reply : Resp // reply.WellFormed }

def tagReplies (connection : Nat) (call : Option Nat) (replies : List PeerReply) : List ReplyByte :=
  (replies.flatMap fun reply => reply.val.encode).map fun value => ⟨value, connection, call⟩

/-- A connection: the reply bytes that have not been read, and which side has
closed it. -/
structure Connection where
  pending : List ReplyByte
  peerClosed : Bool
  closed : Bool

def Connection.opened : Connection where
  pending := []
  peerClosed := false
  closed := false

def Connection.live (connection : Connection) : Bool :=
  !connection.closed && !(connection.peerClosed && connection.pending.isEmpty)

inductive Written where
  | authentication
  | selection
  | payload
  deriving DecidableEq

/-- A frame of the call stack: the loop of `readArray`, `connection` at a
handshake, `fill` or the call waiting for `connection`, and the loop over the
replies. -/
inductive Frame where
  | array (missing : Nat) (values : List RedisValue)
  | authentication
  | selection
  | fill (need : Need)
  | send
  | call (missing : Nat) (responses : List RedisValue)

inductive Control where
  | connecting
  | writing (connection remaining : Nat) (what : Written)
  | reading (connection : Nat) (need : Need)
  | selecting
  | connected
  | readValue
  | serving (need : Need)
  | returning (value : RedisValue)

def Control.suspended : Control → Bool
  | .connecting | .writing .. | .reading .. => true
  | _ => false

/-- A call in progress. `sent` and `taken` are history: the peer's replies to
its commands with the connection, and the bytes it has taken since. -/
structure Fiber where
  call : RedisCall
  stack : List Frame
  control : Control
  sent : Option (Nat × List PeerReply)
  taken : List ReplyByte

structure RedisState where
  stream : Option Nat
  buffer : List ReplyByte
  connections : List Connection
  fibers : Table Nat Fiber
  nextCall : Nat

namespace RedisState

def initial : RedisState where
  stream := none
  buffer := []
  connections := []
  fibers := ∅
  nextCall := 0

def modify (state : RedisState) (connection : Nat)
    (change : Connection → Connection) : RedisState :=
  { state with connections := state.connections.modify connection change }

def close (state : RedisState) : RedisState := match state.stream with
  | none => { state with buffer := [] }
  | some stream => { state.modify stream fun connection => { connection with closed := true } with
      stream := none
      buffer := [] }

def put (state : RedisState) (id : Nat) (fiber : Fiber) : RedisState :=
  { state with fibers := state.fibers.insert id fiber }

def leave (state : RedisState) (id : Nat) : RedisState :=
  { state with fibers := state.fibers.erase id }

def throw (state : RedisState) (id : Nat) : RedisState := state.close.leave id

def resume (state : RedisState) (id : Nat) (fiber : Fiber) (stream : Nat) : Option RedisState :=
  match fiber.stack with
  | .send :: stack =>
    match fiber.call.payload with
    | .error _ => some (state.throw id)
    | .ok payload => some (state.put id { fiber with
        stack := stack
        control := .writing stream payload.length .payload })
  | .fill need :: stack => some (state.put id { fiber with
      stack := stack
      control := .reading stream need })
  | _ => none

def connection (state : RedisState) (id : Nat) (fiber : Fiber) : Option RedisState :=
  match state.stream with
  | some stream =>
    if (state.connections[stream]?).any Connection.live then state.resume id fiber stream
    else some (state.close.put id { fiber with control := .connecting })
  | none => some (state.close.put id { fiber with control := .connecting })

variable (options : RedisOptions)

def authenticate (state : RedisState) (id : Nat) (fiber : Fiber) (stream : Nat) : RedisState :=
  match options.password with
  | none => state.put id { fiber with control := .selecting }
  | some password =>
    match encodeCommand [[65, 85, 84, 72], password] with
    | .error _ => state.throw id
    | .ok payload => state.put id { fiber with
        control := .writing stream payload.length .authentication }

/-- `connection` after the authentication. -/
def select (state : RedisState) (id : Nat) (fiber : Fiber) : RedisState :=
  if options.database == 0 then state.put id { fiber with control := .connected }
  else
    match state.stream, encodeCommand [[83, 69, 76, 69, 67, 84], decimal options.database] with
    | some stream, .ok payload => state.put id { fiber with
        control := .writing stream payload.length .selection }
    | _, _ => state.throw id

def isOk : RedisValue → Bool
  | .string bytes => bytes == [79, 75]
  | _ => false

def answer (state : RedisState) (id : Nat) (fiber : Fiber)
    (value : RedisValue) : Option RedisState :=
  match fiber.stack with
  | .array 0 values :: stack => some (state.put id { fiber with
      stack := stack
      control := .returning (.list (values ++ [value])) })
  | .array (missing + 1) values :: stack => some (state.put id { fiber with
      stack := .array missing (values ++ [value]) :: stack
      control := .readValue })
  | .authentication :: stack =>
    if isOk value then
      some (state.put id { fiber with
        stack := stack
        control := .selecting })
    else some (state.throw id)
  | .selection :: stack =>
    if isOk value then
      some (state.put id { fiber with
        stack := stack
        control := .connected })
    else some (state.throw id)
  | .call 0 _ :: _ => some (state.leave id)
  | .call (missing + 1) responses :: stack => some (state.put id { fiber with
      stack := .call missing (responses ++ [value]) :: stack
      control := .readValue })
  | _ => none

def depth (stack : List Frame) : Nat := (stack.takeWhile fun frame =>
    match frame with
    | .array .. => true
    | _ => false).length

def serve (state : RedisState) (id : Nat) (fiber : Fiber) (need : Need) : Option RedisState :=
  match need.take (state.buffer.map ReplyByte.value) with
  | none =>
    if state.buffer.length > options.maxResponseBytes then some (state.throw id)
    else state.connection id { fiber with stack := .fill need :: fiber.stack }
  | some (data, count) =>
    let fiber := { fiber with taken := fiber.taken ++ state.buffer.take count }
    let state := { state with buffer := state.buffer.drop count }
    match need.accept options.maxResponseBytes data with
    | .needs need => some (state.put id { fiber with control := .serving need })
    | .value value => some (state.put id { fiber with control := .returning value })
    | .items count => some (state.put id { fiber with
        stack := .array (count - 1) [] :: fiber.stack
        control := .readValue })
    | .threw _ => some (state.throw id)

/-- The next step of a fiber that is not suspended. -/
def run (state : RedisState) (id : Nat) (fiber : Fiber) : Option RedisState :=
  match fiber.control with
  | .selecting => some (state.select options id fiber)
  | .connected =>
    match state.stream with
    | none => some (state.throw id)
    | some stream => state.resume id fiber stream
  | .readValue =>
    if depth fiber.stack > 32 then some (state.throw id)
    else some (state.put id { fiber with control := .serving .type })
  | .serving need => state.serve options id fiber need
  | .returning value => state.answer id fiber value
  | _ => none

def begin (state : RedisState) (call : RedisCall) : Option RedisState :=
  let started := { state with nextCall := state.nextCall + 1 }
  let fiber : Fiber :=
    { call := call, stack := [.send], control := .connected, sent := none, taken := [] }
  match call with
  | .command arguments =>
    if arguments.isEmpty then some state else started.connection state.nextCall fiber
  | .pipeline commands =>
    -- The payload is encoded before the `try`, so nothing is closed.
    if commands.isEmpty || commands.any List.isEmpty then some state
    else if call.payload.toOption.isNone then some state
    else started.connection state.nextCall fiber

def deliver (state : RedisState) (connection : Nat) (call : Option Nat)
    (replies : List PeerReply) : RedisState := state.modify connection fun held =>
    if held.peerClosed then held
    else
      { held with pending := held.pending ++ tagReplies connection call replies }

def wrote (state : RedisState) (id : Nat) (fiber : Fiber) (connection : Nat)
    (replies : List PeerReply) : Written → Option RedisState
  | .authentication =>
    if replies.length == 1 then
      some ((state.deliver connection none replies).put id { fiber with
        stack := .authentication :: fiber.stack
        control := .readValue })
    else none
  | .selection =>
    if replies.length == 1 then
      some ((state.deliver connection none replies).put id { fiber with
        stack := .selection :: fiber.stack
        control := .readValue })
    else none
  | .payload =>
    match replies with
    | [] => none
    | _ :: later =>
      if replies.length == fiber.call.commands.length then
        some ((state.deliver connection (some id) replies).put id { fiber with
            stack := [.call later.length []]
            control := .readValue
            sent := some (connection, replies)
            taken := [] })
      else none

def open? (state : RedisState) (connection : Nat) : Bool :=
  (state.connections[connection]?).any fun held => !held.closed

def quiet (state : RedisState) : Bool :=
  state.fibers.entries.all fun entry => entry.2.control.suspended

end RedisState

inductive RedisLabel where
  | begin (call : RedisCall)
  | run (id : Nat)
  | connects (id : Nat)
  | writes (id count : Nat) (replies : List PeerReply)
  | receives (id count : Nat)
  | fails (id : Nat)
  | peerCloses (connection kept : Nat)

def maxReadBytes : Nat := 64 * 1024

namespace RedisState

variable (options : RedisOptions)

def awake (state : RedisState) (id : Nat) (fiber : Fiber) : RedisLabel → Option RedisState
  | .connects _ =>
    match fiber.control with
    | .connecting =>
      let stream := state.connections.length
      let connected := { state with
        stream := some stream
        connections := state.connections ++ [Connection.opened] }
      some (connected.authenticate options id fiber stream)
    | _ => none
  | .writes _ count replies =>
    match fiber.control with
    | .writing connection remaining what =>
      if !state.open? connection || count == 0 || remaining < count then none
      else if count < remaining then
        some (state.put id { fiber with control := .writing connection (remaining - count) what })
      else state.wrote id fiber connection replies what
    | _ => none
  | .receives _ count =>
    match fiber.control with
    | .reading connection need =>
      match state.connections[connection]? with
      | none => none
      | some held =>
        if held.closed || count == 0 || maxReadBytes < count || held.pending.length < count then
          none
        else
          let received := state.modify connection fun held =>
            { held with pending := held.pending.drop count }
          some ({ received with buffer := state.buffer ++ held.pending.take count }.put id
              { fiber with control := .serving need })
    | _ => none
  | .fails _ => if fiber.control.suspended then some (state.throw id) else none
  | _ => none

/-- One step. A suspended fiber goes on only while no other one runs. -/
def next (state : RedisState) (label : RedisLabel) : Option RedisState := match label with
  | .begin call => if state.quiet then state.begin call else none
  | .run id => (state.fibers.lookup id).bind (state.run options id)
  | .connects id | .writes id _ _ | .receives id _ | .fails id =>
    if state.quiet then
      (state.fibers.lookup id).bind fun fiber => state.awake options id fiber label
    else none
  | .peerCloses connection kept => some (state.modify connection fun held => { held with
        pending := held.pending.take kept
        peerClosed := true })

end RedisState

def redisMachine (options : RedisOptions) : Machine RedisState RedisLabel where
  start := .initial
  next := RedisState.next options

def Fiber.result (fiber : Fiber) : Option (List RedisValue) := match fiber.control, fiber.stack with
  | .returning value, [.call 0 responses] => some (responses ++ [value])
  | _, _ => none

/-- The bytes that the call has taken since it sent its commands are the peer's
replies to these, and its values are what they stand for. -/
def Fiber.OwnReplies (fiber : Fiber) (id : Nat) (values : List RedisValue) : Prop :=
  ∃ connection replies, fiber.sent = some (connection, replies) ∧
    replies.length = fiber.call.commands.length ∧
    fiber.taken = tagReplies connection (some id) replies ∧
    values = replies.map fun reply => reply.val.decode

def ReturnsOwn (state : RedisState) (label : RedisLabel) : Prop :=
  ∀ id fiber values, label = .run id → state.fibers.lookup id = some fiber →
    fiber.result = some values → fiber.OwnReplies id values

/-- A call begins only while no other call of the client is in progress. -/
def Alone (state : RedisState) : RedisLabel → Prop
  | .begin _ => state.fibers = ∅
  | _ => True

end Pam.Runtime
