import Pam.Foundation.Run
import Pam.Protocol.PhpValue

namespace Pam.Runtime

open Pam.Foundation Pam.Protocol

/-! The WebSocket part of the runtime: sockets, handlers and rooms, and
`dispatchWs`, which drains the distributed adapter and then processes one event.
What a handler does is part of the event. -/

inductive OutboundTarget where
  | socket
  | broadcast
  | room

def OutboundTarget.code : OutboundTarget → Nat
  | .socket => 1
  | .broadcast => 2
  | .room => 3

inductive OutboundMessageKind where
  | event
  | acknowledgement
  | binary
  | close

def OutboundMessageKind.code : OutboundMessageKind → Nat
  | .event => 1
  | .acknowledgement => 2
  | .binary => 3
  | .close => 4

inductive InboundEventKind where
  | connection
  | message
  | disconnect
  | binary
  | tick
  deriving DecidableEq

structure WsCommand where
  target : OutboundTarget
  kind : OutboundMessageKind
  socketIds : List PhpValue
  event : PhpString
  data : PhpValue

structure Throwable where
  className : PhpString
  message : PhpString

def Throwable.named (className message : String) : Throwable where
  className := asciiBytes className
  message := asciiBytes message

abbrev Rooms := Table PhpString (List PhpString)

/-- `rooms` and its members are in the order of PHP's arrays, and `thrown` is
the exception on its way to `dispatchWs`. -/
structure SocketRuntime where
  connected : List PhpString
  handlers : Table PhpString (List PhpString)
  rooms : Rooms
  outbound : List WsCommand
  thrown : Option Throwable

def SocketRuntime.initial : SocketRuntime where
  connected := []
  handlers := ∅
  rooms := ∅
  outbound := []
  thrown := none

def addKey (key : PhpString) (keys : List PhpString) : List PhpString :=
  if keys.contains key then keys else keys ++ [key]

def dropKey (key : PhpString) (keys : List PhpString) : List PhpString :=
  keys.filter fun other => other ≠ key

def integerKey : PhpString → Int
  | 0x2D :: digits => -(decimalValue digits : Int)
  | digits => decimalValue digits

def arrayKey (key : PhpString) : PhpValue :=
  if isIntegerKey key then .integer (integerKey key) else .string key

def Rooms.members (rooms : Rooms) (room : PhpString) : List PhpString := (rooms.lookup room).getD []

def joinRoom (rooms : Rooms) (socketId room : PhpString) : Rooms :=
  rooms.assign room (addKey socketId (rooms.members room))

def leaveRoom (rooms : Rooms) (socketId room : PhpString) : Rooms :=
  let remaining := dropKey socketId (rooms.members room)
  if remaining = [] then rooms.erase room else rooms.assign room remaining

/-- The loop of `removeSocketState` over the names that `array_keys` returns.
An integer among them is no `string $room`, and the call throws. -/
def leaveRooms (socketId : PhpString) (rooms : Rooms) : List PhpString → Rooms × Bool
  | [] => (rooms, false)
  | room :: rest =>
    if isIntegerKey room then (rooms, true)
    else leaveRooms socketId (leaveRoom rooms socketId room) rest

inductive SocketCall where
  | on (socketId event : PhpString)
  | join (socketId room : PhpString)
  | leave (socketId room : PhpString)
  | emit (socketId event : PhpString) (data : PhpValue)
  | emitBinary (socketId data : PhpString)
  | acknowledge (socketId messageId : PhpString) (data : PhpValue)
  | close (socketId reason : PhpString)
  | broadcast (event : PhpString) (data : PhpValue)
  | emitToRoom (room event : PhpString) (data : PhpValue)

inductive ForeignMessage where
  | broadcast (event : PhpString) (data : PhpValue)
  | room (room event : PhpString) (data : PhpValue)

namespace SocketRuntime

variable (state : SocketRuntime)

def queue (command : WsCommand) : SocketRuntime := if command.event = [] then state
  else { state with outbound := state.outbound ++ [command] }

def toSocket (kind : OutboundMessageKind) (socketId event : PhpString)
    (data : PhpValue) : SocketRuntime :=
  state.queue ⟨.socket, kind, [.string socketId], event, data⟩

def toAll (event : PhpString) (data : PhpValue) : SocketRuntime :=
  state.queue ⟨.broadcast, .event, state.connected.map arrayKey, event, data⟩

def toRoom (room event : PhpString) (data : PhpValue) : SocketRuntime := state.queue
    ⟨.room, .event, (state.rooms.members room).map arrayKey, event, data⟩

def closeReason (reason : PhpString) : PhpValue := .array [(asciiBytes "reason", .string reason)]

/-- A call that throws changes nothing, and what becomes of the exception is up
to the handler. -/
def call : SocketCall → SocketRuntime
  | .on socketId event =>
    let events := (state.handlers.lookup socketId).getD []
    { state with handlers := state.handlers.assign socketId (addKey event events) }
  | .join socketId room =>
    if room = [] then state else { state with rooms := joinRoom state.rooms socketId room }
  | .leave socketId room => { state with rooms := leaveRoom state.rooms socketId room }
  | .emit socketId event data => state.toSocket .event socketId event data
  | .emitBinary socketId data =>
    state.toSocket .binary socketId (asciiBytes "binary") (.string (encodeBase64 data))
  | .acknowledge socketId messageId data => state.toSocket .acknowledgement socketId messageId data
  | .close socketId reason =>
    state.toSocket .close socketId (asciiBytes "close") (closeReason reason)
  | .broadcast event data => state.toAll event data
  | .emitToRoom room event data => state.toRoom room event data

def deliver : ForeignMessage → SocketRuntime
  | .broadcast event data => state.toAll event data
  | .room room event data => state.toRoom room event data

def accept (socketId : PhpString) : SocketRuntime :=
  let events := (state.handlers.lookup socketId).getD []
  { state with
    connected := addKey socketId state.connected
    handlers := state.handlers.assign socketId events }

/-- What is thrown first stays: the code after it does not run. -/
def fail (error : Throwable) : SocketRuntime :=
  { state with thrown := state.thrown.or (some error) }

def roomTypeError : Throwable :=
  .named "TypeError" ("Pam\\Internal\\Runtime::leaveRoom(): Argument #2 ($room) " ++
    "must be of type string, int given")

def removeSocketState (socketId : PhpString) : SocketRuntime :=
  let (rooms, stopped) := leaveRooms socketId state.rooms state.rooms.keys
  let removed := { state with
    connected := dropKey socketId state.connected
    handlers := state.handlers.erase socketId
    rooms := rooms }
  if stopped then removed.fail roomTypeError else removed

def handles (socketId event : PhpString) : Bool :=
  ((state.handlers.lookup socketId).getD []).contains event

end SocketRuntime

inductive SocketAction where
  | enter (kind : InboundEventKind)
  | call (call : SocketCall)
  | deliver (message : ForeignMessage)
  | accept (socketId : PhpString)
  | remove (socketId : PhpString)
  | fail (error : Throwable)
  | report (socketId : PhpString)

/-- The JSON and base64 functions are PHP's, at the depths that the runtime
passes. -/
structure WsConfig where
  nodeId : PhpString
  exposeErrors : Bool
  jsonDecode : Nat → PhpString → Except Throwable PhpValue
  base64Decode : PhpString → Option PhpString

def Throwable.loggable (error : Throwable) (socketId : PhpString) : Bool :=
  validUtf8 error.className && validUtf8 error.message && validUtf8 socketId

def errorData (config : WsConfig) (error : Throwable) : PhpValue :=
  .array [(asciiBytes "message", .string (if config.exposeErrors then error.message
      else asciiBytes "The WebSocket event failed."))]

namespace SocketRuntime

def report (config : WsConfig) (state : SocketRuntime) (socketId : PhpString) : SocketRuntime :=
  match state.thrown with
  | none => state
  | some error =>
    if error.loggable socketId then
      { state with thrown := none }.toSocket .event socketId
        (asciiBytes "error") (errorData config error)
    else state

def perform (config : WsConfig) (state : SocketRuntime) : SocketAction → SocketRuntime
  | .enter _ => state
  | .call call => state.call call
  | .deliver message => state.deliver message
  | .accept socketId => state.accept socketId
  | .remove socketId => state.removeSocketState socketId
  | .fail error => state.fail error
  | .report socketId => state.report config socketId

end SocketRuntime

def actionMachine (config : WsConfig) : Machine SocketRuntime SocketAction where
  start := .initial
  next := fun state action => some (state.perform config action)

structure AdapterMessage where
  channel : PhpString
  payload : PhpString

structure Poll where
  messages : List AdapterMessage
  failure : Option Throwable

structure HandlerRun where
  calls : List SocketCall
  failure : Option Throwable

inductive Verdict where
  | accepts
  | rejects
  | throws (error : Throwable)

inductive Authenticator where
  | invalid
  | callable (calls : List SocketCall) (verdict : Verdict)

/-- An event with what it meets: the adapter's messages (none without an
adapter), the authenticator, whether a `connection` handler is registered, and
what the handler does. -/
structure WsEvent where
  kind : InboundEventKind
  socketId : PhpString
  payload : PhpString
  poll : Poll
  authenticator : Option Authenticator
  connectionHandler : Bool
  run : HandlerRun

def arrayField (entries : List (PhpString × PhpValue)) (name : String) : Option PhpValue :=
  (entries.find? fun entry => entry.1 == asciiBytes name).map Prod.snd

def eventName (entries : List (PhpString × PhpValue)) : Option PhpString :=
  match arrayField entries "event" with
  | some (.string event) => if event = [] then none else some event
  | _ => none

def roomChannel : PhpString := asciiBytes "room:"

def ownNode (config : WsConfig) (entries : List (PhpString × PhpValue)) : Bool :=
  match arrayField entries "node" with
  | some (.string node) => node == config.nodeId
  | _ => false

def foreignMessage (config : WsConfig) (channel : PhpString) : PhpValue → Option ForeignMessage
  | .array entries =>
    let data := (arrayField entries "data").getD .null
    if ownNode config entries then none else if channel = asciiBytes "broadcast" then
      (eventName entries).map fun event => .broadcast event data
    else if roomChannel.isPrefixOf channel then
      (eventName entries).map fun event => .room (channel.drop roomChannel.length) event data
    else none
  | _ => none

def drainAdapter (config : WsConfig) (failure : Option Throwable) :
    List AdapterMessage → List ForeignMessage × Option Throwable
  | [] => ([], failure)
  | message :: rest =>
    match config.jsonDecode 64 message.payload with
    | .error error => ([], some error)
    | .ok payload =>
      let later := drainAdapter config failure rest
      match foreignMessage config message.channel payload with
      | none => later
      | some foreign => (foreign :: later.1, later.2)

def HandlerRun.actions (run : HandlerRun) : List SocketAction :=
  run.calls.map .call ++ (run.failure.map SocketAction.fail).toList

def acceptActions (event : WsEvent) : List SocketAction :=
  .accept event.socketId :: if event.connectionHandler then
      event.run.calls.map .call ++ match event.run.failure with
        | none => []
        | some error => [.call (.close event.socketId (asciiBytes "connection handler failed")),
            .remove event.socketId, .fail error]
    else []

def invalidArgument (message : String) : SocketAction :=
  .fail (.named "InvalidArgumentException" message)

def authenticateActions (event : WsEvent) : List SocketAction := match event.authenticator with
  | none => acceptActions event
  | some .invalid => [.fail (.named "LogicException" "The WebSocket authenticator is invalid.")]
  | some (.callable calls verdict) => calls.map .call ++ match verdict with
      | .accepts => acceptActions event
      | .rejects => [.call (.close event.socketId (asciiBytes "authentication rejected"))]
      | .throws error => [.fail error]

def connectActions (config : WsConfig) (event : WsEvent) : List SocketAction :=
  if event.payload = [] then authenticateActions event
  else
    match config.jsonDecode 64 event.payload with
    | .error error => [.fail error]
    | .ok (.array _) => authenticateActions event
    | .ok _ => [invalidArgument "Expected a JSON object."]

def messageId? (entries : List (PhpString × PhpValue)) : Bool := match arrayField entries "id" with
  | none => true
  | some .null => true
  | some (.string _) => true
  | some (.integer _) => true
  | some _ => false

def messageActions (config : WsConfig) (state : SocketRuntime)
    (event : WsEvent) : List SocketAction :=
  match config.jsonDecode 512 event.payload with
  | .error error => [.fail error]
  | .ok (.array entries) =>
    match eventName entries with
    | none => [invalidArgument "WebSocket messages require a non-empty event."]
    | some name =>
      if !state.handles event.socketId name then
        [.fail ⟨asciiBytes "RuntimeException",
          asciiBytes "No handler registered for event " ++ name ++ asciiBytes "."⟩]
      else if messageId? entries then event.run.actions
      else [invalidArgument "WebSocket acknowledgement IDs must be strings or integers."]
  | .ok _ => [invalidArgument "WebSocket messages must be JSON objects."]

def binaryActions (config : WsConfig) (state : SocketRuntime)
    (event : WsEvent) : List SocketAction :=
  if !state.handles event.socketId (asciiBytes "binary") then
    [.fail (.named "RuntimeException" "No binary WebSocket handler registered.")]
  else if (config.base64Decode event.payload).isSome then event.run.actions
  else [invalidArgument "Invalid binary WebSocket payload."]

def disconnectActions (state : SocketRuntime) (event : WsEvent) : List SocketAction :=
  if state.handles event.socketId (asciiBytes "disconnect") then
    event.run.calls.map .call ++
      .remove event.socketId :: (event.run.failure.map SocketAction.fail).toList
  else [.remove event.socketId]

def branchActions (config : WsConfig) (state : SocketRuntime)
    (event : WsEvent) : List SocketAction :=
  match event.kind with
  | .connection => connectActions config event
  | .message => messageActions config state event
  | .disconnect => disconnectActions state event
  | .binary => binaryActions config state event
  | .tick => []

def dispatchActions (config : WsConfig) (state : SocketRuntime)
    (event : WsEvent) : List SocketAction :=
  let drained := drainAdapter config event.poll.failure event.poll.messages
  drained.1.map .deliver ++ (match drained.2 with
      | some error => [.fail error]
      | none => .enter event.kind :: branchActions config state event) ++ [.report event.socketId]

def dispatched (config : WsConfig) (state : SocketRuntime) (event : WsEvent) : SocketRuntime :=
  let state := { state with outbound := [], thrown := none }
  (actionMachine config).finish state (dispatchActions config state event)

def websocketMachine (config : WsConfig) : Machine SocketRuntime WsEvent where
  start := .initial
  next := fun state event => some (dispatched config state event)

end Pam.Runtime
